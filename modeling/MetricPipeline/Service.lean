import MetricPipeline.Endpoint

/-!
Services: the only owner of an endpoint, which takes commands and timers one at a time.

Commands wait in a queue. A service that wakes up handles what is queued, in order, and then whatever
is due. It stops when it meets a shutdown command, when its token is cancelled, or when nobody can send
it commands any more; in each case what was queued earlier is handled first, and the endpoint is shut
down once.
-/

namespace MetricPipeline

/-- What a service is asked to do. -/
inductive Command where
  /-- Take events. -/
  | sendBatch (events : List Event)
  /-- Take note of the end of a unit of work. -/
  | flushAfterRequest
  /-- Flush, and reply under a ticket. -/
  | flush (ticket : Nat)
  /-- Drain and stop. -/
  | shutdown
  deriving DecidableEq, Repr

/-- An endpoint with a queue of commands. -/
structure Service where
  /-- The endpoint. -/
  endpoint : Endpoint
  /-- The commands that wait, oldest first. -/
  queue : List Command
  /-- The outcomes of the flushes that were asked for, by ticket. -/
  replies : List (Nat × FlushOutcome)
  /-- How many events were too big, for each batch that had any. -/
  oversized : List Nat
  /-- The token that can cancel the service. -/
  token : Nat
  /-- Whether that token has been cancelled. -/
  isCancelled : Bool
  /-- Whether the service has not stopped yet. -/
  isRunning : Bool
  deriving DecidableEq, Repr

namespace Service

/-- A service that has not been woken yet. -/
def new (endpoint : Endpoint) (token : Nat) : Service :=
  { endpoint
    queue := []
    replies := []
    oversized := []
    token
    isCancelled := false
    isRunning := true }

/-- Queues a command; none once the service has stopped. -/
def enqueue? (service : Service) (command : Command) : Option Service :=
  if service.isRunning then some { service with queue := service.queue ++ [command] } else none

/-- An endpoint after a batch of events, and how many of them were too big. -/
def sendEvents (network : Network) (now : Nat) : Endpoint → List Event → Endpoint × Nat
  | endpoint, [] => (endpoint, 0)
  | endpoint, event :: rest =>
    let (sent, outcome) := endpoint.send network event now
    let (final, count) := sendEvents network now sent rest
    (final, if outcome = .tooBig then count + 1 else count)

/-- Handles a command other than a shutdown. -/
def handle (service : Service) (network : Network) (now : Nat) : Command → Service
  | .sendBatch events =>
    let (endpoint, count) := sendEvents network now service.endpoint events
    let oversized := if count = 0 then service.oversized else service.oversized ++ [count]
    { service with endpoint, oversized }
  | .flushAfterRequest =>
    { service with endpoint := (service.endpoint.flushAfterRequest network).1 }
  | .flush ticket =>
    let (endpoint, outcome) := service.endpoint.flush network
    { service with endpoint, replies := service.replies ++ [(ticket, outcome)] }
  | .shutdown => service

/-- Handles commands up to the first shutdown, and tells whether there was one. -/
def serve (network : Network) (now : Nat) : Service → List Command → Service × Bool
  | service, [] => (service, false)
  | service, .shutdown :: _ => (service, true)
  | service, command :: rest => serve network now (service.handle network now command) rest

/-- Shuts the endpoint down and stops. -/
def stop (service : Service) (network : Network) (now : Nat) : Service :=
  { service with
    endpoint := (service.endpoint.shutdown network now).1
    isRunning := false }

/-- Wakes the service: it handles what is queued, and then stops or does what is due. It is abandoned
when nobody can send it commands any more. -/
def wake (service : Service) (network : Network) (now : Nat) (isAbandoned : Bool) : Service :=
  if service.isRunning then
    let (served, asked) := serve network now { service with queue := [] } service.queue
    if asked || service.isCancelled || isAbandoned then served.stop network now
    else { served with endpoint := served.endpoint.onTimer network now }
  else service

/-- The reply to a ticket. -/
def reply? (service : Service) (ticket : Nat) : Option FlushOutcome := service.replies.lookup ticket

/-- The service without the record of what it did. -/
def withoutRecord (service : Service) : Service :=
  { service with
    endpoint :=
      { service.endpoint with transport := service.endpoint.transport.withoutRecord }
    replies := []
    oversized := [] }

end Service

end MetricPipeline
