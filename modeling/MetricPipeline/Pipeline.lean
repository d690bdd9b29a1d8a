import MetricPipeline.Emitter

/-!
The pipeline: an emitter, the services it ships to, and the clock they share.

What is sent to a service is queued; the services run when the pipeline settles. The clock stands still
unless it is advanced, and every emission uses it.
-/

namespace MetricPipeline

/-- Sites and services. -/
structure Pipeline (τ : Type) where
  /-- The sites. -/
  emitter : Emitter τ
  /-- The services by number. -/
  services : List Service
  /-- The time in milliseconds. -/
  clock : Nat
  /-- Whether the emitter is gone, so that nobody can send commands any more. -/
  isAbandoned : Bool
  /-- The ticket of the next flush. -/
  nextTicket : Nat

/-- Why a flush has no outcome. -/
inductive FlushError where
  /-- The service had stopped before it was asked. -/
  | notSent
  /-- The service stopped before it replied. -/
  | noReply
  deriving DecidableEq, Repr

/-- What is said when a service has stopped. -/
def channelClosed : String := "channel closed"

/-- The wording of a failure. -/
def FlushError.message : FlushError → String
  | .notSent => "Failed to send flush command: " ++ channelClosed
  | .noReply => "Failed to receive flush response: " ++ channelClosed

namespace Pipeline

variable {τ : Type}

/-- The pipeline of a configuration whose endpoints are resolved in some way. -/
def ofConfigBy (resolve : EndpointConfig.Resolver) (language : TemplateLanguage τ)
    (sampler : Sampler) (config : PipelineConfig) : Except CreationError (Pipeline τ) := do
  let (emitter, services) ← Emitter.ofConfigBy resolve language sampler config
  return { emitter, services, clock := 0, isAbandoned := false, nextTicket := 0 }

/-- The pipeline of a configuration. -/
def ofConfig (language : TemplateLanguage τ) (sampler : Sampler) (config : PipelineConfig) :
    Except CreationError (Pipeline τ) :=
  ofConfigBy EndpointConfig.resolve language sampler config

/-- Gives all services one token, so that they are cancelled together. -/
def shareToken (pipeline : Pipeline τ) : Pipeline τ :=
  { pipeline with services := pipeline.services.map fun service => { service with token := 0 } }

/-- How many services have not stopped yet. -/
def running (pipeline : Pipeline τ) : Nat := pipeline.services.countP (·.isRunning)

/-! ## Commands -/

/-- Queues a command; none when there is no such service or it has stopped. -/
def post? (pipeline : Pipeline τ) (dispatch : Dispatch) : Option (Pipeline τ) := do
  let service ← pipeline.services[dispatch.service]?
  let service ← service.enqueue? dispatch.command
  return { pipeline with services := pipeline.services.set dispatch.service service }

/-- Queues a command, if the service still runs. -/
def post (pipeline : Pipeline τ) (dispatch : Dispatch) : Pipeline τ :=
  (pipeline.post? dispatch).getD pipeline

/-- Queues commands, one after another. -/
def postAll (pipeline : Pipeline τ) (dispatches : List Dispatch) : Pipeline τ :=
  dispatches.foldl post pipeline

/-- Triggers a site. -/
def emit (pipeline : Pipeline τ) (site : Nat) (resolve : Definition.Resolver τ)
    (phase : Option String) : Pipeline τ × Report :=
  let (emitter, report, dispatches) := pipeline.emitter.emit site resolve phase pipeline.clock
  ({ pipeline with emitter }.postAll dispatches, report)

/-- Ships a ready-made event of a site, past its definitions and past sampling; none when there is no
such site, it is off, or its service has stopped. -/
def sendStat? (pipeline : Pipeline τ) (site : Nat) (event : Event) : Option (Pipeline τ) := do
  pipeline.post? (← pipeline.emitter.statDispatch? site event)

/-- Ships ready-made events to a service. -/
def sendBatch? (pipeline : Pipeline τ) (handle : Handle) (events : List Event) :
    Option (Pipeline τ) :=
  pipeline.post? ⟨handle.service, .sendBatch events⟩

/-- Tells a service the end of a unit of work, if its endpoint wants to know of it. -/
def flushAfterRequest? (pipeline : Pipeline τ) (handle : Handle) : Option (Pipeline τ) :=
  if handle.flushAfterRequest then pipeline.post? ⟨handle.service, .flushAfterRequest⟩
  else some pipeline

/-- Asks a service to drain and stop. -/
def shutdownService? (pipeline : Pipeline τ) (handle : Handle) : Option (Pipeline τ) :=
  pipeline.post? ⟨handle.service, .shutdown⟩

/-- Asks every service to drain and stop. -/
def shutdown (pipeline : Pipeline τ) : Pipeline τ :=
  pipeline.postAll pipeline.emitter.shutdownDispatches

/-- Cancels the services of a token. -/
def cancel (pipeline : Pipeline τ) (token : Nat) : Pipeline τ :=
  { pipeline with
    services := pipeline.services.map fun service =>
      if service.token = token then { service with isCancelled := true } else service }

/-- Cancels the token of a service, and with it every other service of that token. -/
def cancelService (pipeline : Pipeline τ) (number : Nat) : Pipeline τ :=
  match pipeline.services[number]? with
  | some service => pipeline.cancel service.token
  | none => pipeline

/-- Gives up the emitter. -/
def abandon (pipeline : Pipeline τ) : Pipeline τ :=
  { pipeline with
    emitter := Emitter.empty pipeline.emitter.sampler
    isAbandoned := true }

/-! ## Running -/

/-- All services run until they have nothing left to do. -/
def settle (pipeline : Pipeline τ) (network : Network) : Pipeline τ :=
  { pipeline with
    services := pipeline.services.map fun service =>
      service.wake network pipeline.clock pipeline.isAbandoned }

/-- The clock jumps. -/
def advance (pipeline : Pipeline τ) (milliseconds : Nat) : Pipeline τ :=
  { pipeline with clock := pipeline.clock + milliseconds }

/-- Asks a service to flush, and waits for its reply. -/
def flush (pipeline : Pipeline τ) (network : Network) (handle : Handle) :
    Pipeline τ × Except FlushError FlushOutcome :=
  let ticket := pipeline.nextTicket
  match pipeline.post? ⟨handle.service, .flush ticket⟩ with
  | none => (pipeline, .error .notSent)
  | some posted =>
    let settled := { posted with nextTicket := ticket + 1 }.settle network
    match settled.services[handle.service]?.bind (·.reply? ticket) with
    | some outcome => (settled, .ok outcome)
    | none => (settled, .error .noReply)

/-- When a service has something to do next. -/
def deadline (pipeline : Pipeline τ) : Option Nat :=
  (pipeline.services.filter (·.isRunning)).foldl
    (fun time service => Deadline.earliest time service.endpoint.deadline) none

end Pipeline

end MetricPipeline
