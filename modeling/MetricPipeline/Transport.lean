import MetricPipeline.Deadline
import MetricPipeline.Network
import MetricPipeline.Wire.Writer

/-!
The transport of one endpoint: a buffer of records, a connection and a flush timer.

A record is never split: it goes into the buffer whole, and a flush sends the buffer as one datagram. A
flush that fails drops the connection and keeps the bytes. What was attempted is remembered, and so are
the events that were dropped because no buffer could hold them.
-/

namespace MetricPipeline

/-- What became of an event that was handed to a transport. -/
inductive SendOutcome where
  /-- Its record is in the buffer, or was merged into an entry that will be. -/
  | buffered
  /-- Its record is too big for the buffer. -/
  | tooBig
  deriving DecidableEq, Repr

/-- What became of a flush. -/
inductive FlushOutcome where
  /-- There was nothing to send. -/
  | empty
  /-- So many bytes were sent. -/
  | sent (size : Nat)
  /-- Nothing was sent; the bytes are kept for the next attempt. -/
  | failed
  deriving DecidableEq, Repr

/-- Combines two consecutive flushes. A failure wins over anything sent. -/
def FlushOutcome.and : FlushOutcome → FlushOutcome → FlushOutcome
  | .failed, _ | _, .failed => .failed
  | .sent first, .sent second => .sent (first + second)
  | .sent size, .empty | .empty, .sent size => .sent size
  | .empty, .empty => .empty

/-- An event that no buffer of the transport could hold. -/
structure Oversized where
  /-- The event. -/
  event : Event
  /-- The size of its record. -/
  size : Nat
  /-- The size of the buffer. -/
  capacity : Nat
  deriving DecidableEq, Repr

/-- The wording of a drop. -/
def Oversized.message (dropped : Oversized) : String :=
  "Dropping metric " ++ dropped.event.name ++ ": " ++ toString dropped.size ++
    " bytes is too big for a " ++ toString dropped.capacity ++ " byte buffer"

/-- A buffer, a connection and a timer. -/
structure Transport where
  /-- Where datagrams go. -/
  address : SocketAddress
  /-- How many bytes the buffer takes. -/
  capacity : Nat
  /-- How long bytes wait at most, in milliseconds; zero is for ever. -/
  interval : Nat
  /-- The bytes that wait. -/
  buffer : List UInt8
  /-- Whether there is a connection. -/
  isConnected : Bool
  /-- When the buffer is flushed. -/
  timer : Deadline
  /-- What was attempted, oldest first. -/
  attempts : List Attempt
  /-- What was dropped, oldest first. -/
  dropped : List Oversized
  deriving DecidableEq, Repr

namespace Transport

/-- A transport that has not been used. -/
def new (address : SocketAddress) (capacity interval : Nat) : Transport :=
  { address
    capacity
    interval
    buffer := []
    isConnected := false
    timer := Deadline.unarmed
    attempts := []
    dropped := [] }

/-- How many bytes wait. -/
def pending (transport : Transport) : Nat := transport.buffer.length

/-- How many more bytes the buffer takes. -/
def room (transport : Transport) : Nat := transport.capacity - transport.pending

/-- When the transport has something to do next. -/
def deadline (transport : Transport) : Option Nat := transport.timer.time

/-- Gives up the connection. -/
def close (transport : Transport) : Transport := { transport with isConnected := false }

/-- Gives up the timer. -/
def cancelTimer (transport : Transport) : Transport := { transport with timer := Deadline.unarmed }

/-- The timer runs while bytes wait, unless there is none or the owner is exiting. -/
def armTimer (transport : Transport) (now : Nat) (exiting : Bool) : Transport :=
  if transport.interval = 0 ∨ transport.buffer = [] ∨ exiting then transport
  else { transport with timer := transport.timer.arm (now + transport.interval) }

/-- Tries to send the buffer, over the connection or a new one. -/
def ship (transport : Transport) (network : Network) : Except TransportError Unit := do
  if !transport.isConnected then
    (network.connect transport.address transport.attempts).mapError
      (.connect transport.address)
  (network.send transport.address transport.attempts transport.buffer).mapError
    (.send transport.pending)

/-- Sends the buffer as one datagram. A failure gives up the connection and keeps the bytes. -/
def flush (transport : Transport) (network : Network) (exiting : Bool) :
    Transport × FlushOutcome :=
  if transport.buffer = [] then (transport, .empty)
  else
    match transport.ship network with
    | .ok () =>
      ({ transport with
          buffer := []
          isConnected := !exiting
          attempts := transport.attempts ++ [.delivered transport.buffer] },
        .sent transport.pending)
    | .error error =>
      ({ transport with
          isConnected := false
          attempts := transport.attempts ++ [.failed error] },
        .failed)

/-- Puts the record of an event at the end of the buffer. -/
def append (transport : Transport) (event : Event) : Transport :=
  { transport with buffer := Wire.writeRecord transport.buffer event }

/-- Remembers that an event was dropped. -/
def drop (transport : Transport) (event : Event) : Transport :=
  let entry : Oversized :=
    { event, size := Wire.recordSize event, capacity := transport.capacity }
  { transport with dropped := transport.dropped ++ [entry] }

/-- Takes the record of an event. The buffer is flushed first when it has no room, and the event is
dropped when there is none even then. -/
def send (transport : Transport) (network : Network) (event : Event) (now : Nat) (exiting : Bool) :
    Transport × SendOutcome :=
  let size := Wire.recordSize event
  let ready :=
    if transport.room < size then (transport.flush network exiting).1 else transport
  if ready.room < size then (ready.drop event, .tooBig)
  else ((ready.append event).armTimer now exiting, .buffered)

/-- Flushes once the timer is due, and runs it again while bytes wait. -/
def onTimer (transport : Transport) (network : Network) (now : Nat) (exiting : Bool) :
    Transport × FlushOutcome :=
  if transport.timer.isDue now then
    let (flushed, outcome) := transport.cancelTimer.flush network exiting
    (flushed.armTimer now exiting, outcome)
  else (transport, .empty)

/-- The datagrams that were delivered, oldest first. -/
def delivered (transport : Transport) : List (List UInt8) :=
  transport.attempts.filterMap fun
    | .delivered datagram => some datagram
    | .failed _ => none

/-- The transport without the record of what was attempted and dropped. -/
def withoutRecord (transport : Transport) : Transport :=
  { transport with attempts := [], dropped := [] }

end Transport

end MetricPipeline
