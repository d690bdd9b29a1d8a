import MetricPipeline.Address

/-!
The network as an endpoint meets it.

A network answers every attempt to connect and every attempt to send, and may take into account what
was attempted before. A datagram that is sent is delivered whole.
-/

namespace MetricPipeline

/-- Why an attempt failed. -/
inductive TransportError where
  /-- No connection could be made to an address. -/
  | connect (address : SocketAddress) (reason : String)
  /-- So many bytes could not be sent. -/
  | send (size : Nat) (reason : String)
  deriving DecidableEq, Repr

/-- The wording of a failure. -/
def TransportError.message : TransportError → String
  | .connect address reason => "failed to connect to " ++ address.print ++ ": " ++ reason
  | .send size reason => "failed to send " ++ toString size ++ " bytes: " ++ reason

/-- An attempt to ship bytes to one address, and its outcome. -/
inductive Attempt where
  /-- A datagram was delivered. -/
  | delivered (datagram : List UInt8)
  /-- Nothing was delivered. -/
  | failed (error : TransportError)
  deriving DecidableEq, Repr

/-- How a network answers; a failure has a reason. What was attempted before at the same address is
given, oldest first. -/
structure Network where
  /-- Whether a connection can be made. -/
  connect : SocketAddress → List Attempt → Except String Unit
  /-- Whether a datagram can be sent. -/
  send : SocketAddress → List Attempt → List UInt8 → Except String Unit

/-- The largest datagram that can be sent. -/
def maxDatagram : Nat := 65507

/-- A network that connects to every address but some, and delivers every datagram that is not too
large. -/
def Network.reaching (isUnreachable : SocketAddress → Bool) : Network :=
  { connect := fun address _ =>
      if isUnreachable address then .error "Network is unreachable" else .ok ()
    send := fun _ _ datagram =>
      if datagram.length ≤ maxDatagram then .ok () else .error "Message too long" }

/-- A network whose first attempts end as given, and on which every later one succeeds. -/
def Network.following (history : List Attempt) : Network :=
  { connect := fun _ attempts =>
      match history[attempts.length]? with
      | some (.failed (.connect _ reason)) => .error reason
      | _ => .ok ()
    send := fun _ attempts _ =>
      match history[attempts.length]? with
      | some (.failed (.send _ reason)) => .error reason
      | _ => .ok () }

end MetricPipeline
