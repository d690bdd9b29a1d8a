import MetricPipeline.Cache
import MetricPipeline.Transport

/-!
Endpoints: an aggregation cache in front of a transport.

Events are offered to the cache first, and what it does not take goes straight to the transport. Events
that leave the cache go to the transport too, and are flushed together. An endpoint that is exiting no
longer aggregates and arms no timer.
-/

namespace MetricPipeline

/-- Why an endpoint or a pipeline cannot be created. -/
inductive CreationError where
  /-- The configuration is wrong. -/
  | config (error : ConfigError)
  /-- The cache is too small for a single entry. -/
  | arena (size : Nat)
  deriving DecidableEq, Repr

/-- The wording of a failure. -/
def CreationError.message : CreationError → String
  | .config error => "invalid endpoint configuration: " ++ error.message
  | .arena size => "aggregation arena of " ++ toString size ++ " bytes is too small"

/-- A cache, if there is one, and a transport. -/
structure Endpoint where
  /-- The settings. -/
  config : ResolvedEndpoint
  /-- The transport. -/
  transport : Transport
  /-- The cache. -/
  cache : Option Cache
  /-- Whether the endpoint has been shut down. -/
  isExiting : Bool
  deriving DecidableEq, Repr

namespace Endpoint

/-- The cache that settings ask for. -/
def cacheOf (config : ResolvedEndpoint) : Except CreationError (Option Cache) :=
  if config.aggregateSize = 0 then .ok none
  else if config.aggregateSize ≤ Cache.entryOverhead then .error (.arena config.aggregateSize)
  else .ok (some (Cache.empty config.aggregateSize config.flushInterval config.aggregateValues))

/-- A new endpoint. -/
def create (config : ResolvedEndpoint) : Except CreationError Endpoint := do
  let cache ← cacheOf config
  return {
    config
    transport := Transport.new config.address config.bufferSize config.flushInterval
    cache
    isExiting := false }

/-- How many bytes wait in the transport. -/
def pending (endpoint : Endpoint) : Nat := endpoint.transport.pending

/-- How many entries wait in the cache. -/
def aggregated (endpoint : Endpoint) : Nat :=
  match endpoint.cache with
  | some cache => cache.length
  | none => 0

/-- When the endpoint has something to do next. -/
def deadline (endpoint : Endpoint) : Option Nat :=
  Deadline.earliest endpoint.transport.deadline (endpoint.cache.bind Cache.deadline)

/-- Hands events to the transport, one after another. -/
def sendAll (transport : Transport) (network : Network) (now : Nat) (exiting : Bool)
    (events : List Event) : Transport :=
  events.foldl (fun transport event => (transport.send network event now exiting).1) transport

/-- Hands the events that left the cache to the transport and flushes them. -/
def forward (transport : Transport) (network : Network) (now : Nat) (exiting : Bool)
    (events : List Event) : Transport × FlushOutcome :=
  if events = [] then (transport, .empty)
  else (sendAll transport network now exiting events).flush network exiting

/-- Takes an event: into the cache, or else into the transport. -/
def send (endpoint : Endpoint) (network : Network) (event : Event) (now : Nat) :
    Endpoint × SendOutcome :=
  match endpoint.cache with
  | none =>
    let (transport, outcome) := endpoint.transport.send network event now endpoint.isExiting
    ({ endpoint with transport }, outcome)
  | some cache =>
    let (cache, intake, left) := cache.ingest event now endpoint.isExiting
    let (forwarded, _) := forward endpoint.transport network now endpoint.isExiting left
    match intake with
    | .merged | .buffered =>
      ({ endpoint with transport := forwarded, cache := some cache }, .buffered)
    | .rejected =>
      let (transport, outcome) := forwarded.send network event now endpoint.isExiting
      ({ endpoint with transport, cache := some cache }, outcome)

/-- Sends what waits in the transport. -/
def flush (endpoint : Endpoint) (network : Network) : Endpoint × FlushOutcome :=
  let (transport, outcome) := endpoint.transport.flush network endpoint.isExiting
  ({ endpoint with transport }, outcome)

/-- The end of a unit of work; it flushes if the settings ask for it. -/
def flushAfterRequest (endpoint : Endpoint) (network : Network) : Endpoint × FlushOutcome :=
  if endpoint.config.flushAfterRequest then endpoint.flush network else (endpoint, .empty)

/-- Does what is due: first in the cache, then in the transport. -/
def onTimer (endpoint : Endpoint) (network : Network) (now : Nat) : Endpoint :=
  let (cache, left) :=
    match endpoint.cache with
    | some cache => let (cache, left) := cache.onTimer now; (some cache, left)
    | none => (none, [])
  let (forwarded, _) := forward endpoint.transport network now endpoint.isExiting left
  let (transport, _) := forwarded.onTimer network now endpoint.isExiting
  { endpoint with cache, transport }

/-- Drains the cache, sends what is left and gives up the connection. The outcome combines that of the
flush after the drained events and that of the last flush. -/
def shutdown (endpoint : Endpoint) (network : Network) (now : Nat) : Endpoint × FlushOutcome :=
  let (cache, left) :=
    match endpoint.cache with
    | some cache => let (cache, left) := cache.drain now; (some cache, left)
    | none => (none, [])
  let (forwarded, drained) := forward endpoint.transport.cancelTimer network now true left
  let (flushed, rest) := forwarded.flush network true
  ({ endpoint with cache, transport := flushed.close, isExiting := true }, drained.and rest)

end Endpoint

end MetricPipeline
