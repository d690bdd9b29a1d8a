import MetricPipeline.Host
import Std.Async.UDP

/-!
The program: a host on the standard streams, the clock of the system and real sockets.

What a service does is computed before it is carried out. A service that wakes up is followed through
the attempts whose outcomes are known; the next one is made for real, and so on until none is left. So
whatever the network answers, the service does what its definition says it does on such a network.
-/

namespace MetricPipeline.Program

open Std.Async

/-! ## Sockets -/

/-- An address as the system takes it; a scope cannot be named. -/
def systemAddress? : SocketAddress → Option Std.Net.SocketAddress
  | .v4 [a, b, c, d] port =>
    let octets := #v[a.toUInt8, b.toUInt8, c.toUInt8, d.toUInt8]
    some (.v4 ⟨⟨octets⟩, port.toUInt16⟩)
  | .v6 [a, b, c, d, e, f, g, h] _ port =>
    let groups := #v[a.toUInt16, b.toUInt16, c.toUInt16, d.toUInt16, e.toUInt16, f.toUInt16,
      g.toUInt16, h.toUInt16]
    some (.v6 ⟨⟨groups⟩, port.toUInt16⟩)
  | _ => none

/-- A socket that is connected to an address. -/
def connect (address : SocketAddress) : IO UDP.Socket := do
  let some target := systemAddress? address
    | throw (IO.userError "not an address of the system")
  let socket ← UDP.Socket.mk
  socket.connect target
  return socket

/-- Tries to deliver a datagram, over a socket or a new one. A socket that fails is given up. -/
def deliver (address : SocketAddress) (socket : Option UDP.Socket) (datagram : List UInt8) :
    IO (Attempt × Option UDP.Socket) := do
  let opened ← match socket with
    | some socket => pure (.ok socket)
    | none => (connect address).toBaseIO
  match opened with
  | .error reason => return (.failed (.connect address (toString reason)), none)
  | .ok socket =>
    match ← (socket.send ⟨datagram.toArray⟩).block.toBaseIO with
    | .error reason => return (.failed (.send datagram.length (toString reason)), none)
    | .ok () => return (.delivered datagram, some socket)

/-- A service that keeps no record, woken on the real network, and its socket while it has one. The
outcomes of its first attempts are given. -/
partial def wake (service : Service) (socket : Option UDP.Socket) (now : Nat)
    (history : List Attempt) : IO (Service × Option UDP.Socket) := do
  let woken := service.wake (Network.following history) now false
  let transport := woken.endpoint.transport
  match transport.attempts.drop history.length with
  | .delivered datagram :: _ =>
    let (attempt, socket) ← deliver transport.address socket datagram
    wake service socket now (history ++ [attempt])
  | _ => return (woken, if transport.isConnected then socket else none)

/-! ## The run -/

/-- A host, the sockets of its services by number, and when it started. -/
structure Running where
  /-- The host. -/
  host : Host
  /-- The sockets. -/
  sockets : List (Option UDP.Socket)
  /-- The time of the system when the clock of the host stood at zero. -/
  base : Nat

/-- Shows what the filter lets through. -/
def tell (filter : LogFilter) (notices : List Notice) : IO Unit :=
  for notice in notices.filter filter.shows do
    IO.eprintln notice.alignedLine

/-- Brings the clock of a host up to that of the system. -/
def Running.sync (running : Running) : IO Running := do
  let elapsed := (← IO.monoMsNow) - running.base
  let pipeline := running.host.pipeline
  return { running with
    host := { running.host with pipeline := pipeline.advance (elapsed - pipeline.clock) } }

/-- The services run on the real network, and what they have to say is shown. -/
def Running.settle (filter : LogFilter) (running : Running) : IO Running := do
  let pipeline := running.host.pipeline
  let woken ← (pipeline.services.zip running.sockets).mapM fun (service, socket) =>
    wake service socket pipeline.clock []
  tell filter (woken.flatMap fun (service, _) => service.notices)
  let services := woken.map fun (service, _) => service.withoutRecord
  return { running with
    host := { running.host with pipeline := { pipeline with services } }
    sockets := woken.map Prod.snd }

/-- The bytes of the next line with its end, after those that have been read. -/
partial def readLine (input : IO.FS.Stream) (read : Array UInt8) : IO (List UInt8) := do
  let byte ← input.read 1
  if byte.isEmpty then return read.toList
  let read := read ++ byte.data
  if byte.data.contains InputLine.newline then return read.toList
  readLine input read

/-- How long the program waits, in milliseconds, before it looks at the clock again. -/
def tick : UInt32 := 5

/-- Waits for a line. Meanwhile the services do what is due. -/
partial def waitFor (filter : LogFilter) (line : Task (Except IO.Error (List UInt8)))
    (running : Running) : IO (Running × List UInt8) := do
  let running ← running.sync
  if ← IO.hasFinished line then
    return (running, ← IO.ofExcept line.get)
  let due := running.host.pipeline.deadline.any (· ≤ running.host.pipeline.clock)
  let running ← if due then running.settle filter else pure running
  IO.sleep tick
  waitFor filter line running

/-- Takes the lines of the input until it ends or one cannot be read. -/
partial def takeLines (filter : LogFilter) (input : IO.FS.Stream) (running : Running) :
    IO Running := do
  let line ← IO.asTask (readLine input #[])
  let (running, bytes) ← waitFor filter line running
  match InputLine.ofInput bytes with
  | [] => return running
  | line :: _ =>
    let (host, notices, goesOn) := running.host.takeLine line
    tell filter notices
    let running ← { running with host }.settle filter
    if goesOn then takeLines filter input running else return running

/-- Stops a host. -/
def finish (filter : LogFilter) (running : Running) : IO Unit := do
  let running ← running.sync
  let (host, notices) := running.host.stopping
  tell filter notices
  discard <| { running with host }.settle filter

/-- A configuration file of the system. -/
def readFile (path : String) : IO FileContent := do
  match ← (IO.FS.readBinFile path).toBaseIO with
  | .ok bytes => return .ok bytes.data.toList
  | .error reason => return .error (toString reason)

/-- Runs the host of an invocation. -/
def run (filter : LogFilter) (path : Option String) : IO Unit := do
  let content ← match path with
    | some path => readFile path
    | none => pure (.ok [])
  let seed := (← IO.getRandomBytes 8).data.foldl (fun seed byte => seed * 256 + byte.toUInt64) 0
  let (notices, host) := Host.start (Sampler.ofSeed seed) path fun _ => content
  tell filter notices
  match host with
  | none => return ()
  | some host =>
    let sockets := host.pipeline.services.map fun _ => none
    let base ← IO.monoMsNow
    finish filter (← takeLines filter (← IO.getStdin) { host, sockets, base })

end MetricPipeline.Program

open MetricPipeline in
/-- Runs the host: the environment names the log filter and the configuration, or an argument names the
configuration. -/
def main (arguments : List String) : IO UInt32 := do
  let invocation : Host.Invocation :=
    { level := ← IO.getEnv "STATSHOUSE_LOG_LEVEL"
      environmentPath := ← IO.getEnv "STATSHOUSE_CONFIG"
      argumentPath := arguments.head? }
  match invocation.filter? with
  | none =>
    IO.eprintln "could not parse log level in configuration"
    return Host.brokenStatus.toUInt32
  | some filter =>
    Program.run filter invocation.path
    return 0
