import MetricPipeline.Address
import MetricPipeline.Event
import MetricPipeline.Template
import MetricPipeline.Text.Blank

/-!
Configuration: endpoints, metrics and the sites that bring them together.

What a configuration says is checked in two steps. Its shape is checked when it is read. Its values
are checked when an endpoint is resolved or a definition is built; the first fault decides.
-/

namespace MetricPipeline

/-- Where and how metrics are shipped. -/
structure EndpointConfig where
  /-- The address of the collector. -/
  address : String
  /-- The capacity of the datagram buffer in bytes. -/
  bufferSize : Nat
  /-- The flush period in milliseconds, and the window of the cache; zero disables the timer. -/
  flushInterval : Nat
  /-- The number of events one metric may give at most. -/
  splitsMax : Nat
  /-- Whether to flush at the end of every unit of work. -/
  flushAfterRequest : Bool
  /-- The size of the cache in bytes; zero disables it. -/
  aggregateSize : Nat
  /-- The number of samples a cache entry keeps at most. -/
  aggregateValues : Nat
  deriving DecidableEq, Repr, Inhabited

/-- The settings of an endpoint that says nothing. -/
def EndpointConfig.default : EndpointConfig :=
  { address := "127.0.0.1:13337"
    bufferSize := 4096
    flushInterval := 1000
    splitsMax := 16
    flushAfterRequest := false
    aggregateSize := 0
    aggregateValues := 24 }

/-- The settings of an endpoint with its address resolved: its full identity. -/
structure ResolvedEndpoint where
  /-- The address of the collector. -/
  address : SocketAddress
  /-- The capacity of the datagram buffer in bytes. -/
  bufferSize : Nat
  /-- The flush period in milliseconds, and the window of the cache; zero disables the timer. -/
  flushInterval : Nat
  /-- The number of events one metric may give at most. -/
  splitsMax : Nat
  /-- Whether to flush at the end of every unit of work. -/
  flushAfterRequest : Bool
  /-- The size of the cache in bytes; zero disables it. -/
  aggregateSize : Nat
  /-- The number of samples a cache entry keeps at most. -/
  aggregateValues : Nat
  deriving DecidableEq, Repr

/-- A dimension of a metric. -/
structure KeyConfig where
  /-- The name of its slot. -/
  slot : String
  /-- The source of its template. -/
  value : String
  /-- Whether its items are spread over the events. -/
  split : Bool
  /-- A variable that must be able to exist for the dimension to be enabled. -/
  guard : Option String
  deriving DecidableEq, Repr

/-- A condition of a metric. -/
inductive ConditionConfig where
  /-- The source of a template. -/
  | plain (value : String)
  /-- The source of a template, and a variable without which the condition is dropped. -/
  | guarded (value : String) (guard : String)
  deriving DecidableEq, Repr

/-- A metric. -/
structure MetricConfig where
  /-- The name, possibly with blanks around it. -/
  name : String
  /-- What is measured. -/
  kind : Kind
  /-- The source of the template of the value. -/
  value : String
  /-- Whether the value is a compound text. -/
  split : Bool
  /-- The dimensions. -/
  keys : List KeyConfig
  /-- The conditions. -/
  conditions : List ConditionConfig
  /-- The least number of seconds between two emissions. -/
  timeoutSeconds : Nat
  /-- The percentage of triggers that emit; zero is all of them. -/
  samplePercent : Nat
  /-- The tag of the triggers that concern the metric. -/
  phase : Option String
  deriving DecidableEq, Repr

/-- What a site says about its endpoint. -/
inductive SiteEndpoint where
  /-- The site is switched off. -/
  | off
  /-- The site ships to an endpoint. -/
  | to (config : EndpointConfig)
  deriving DecidableEq, Repr

/-- A group of metrics that share an endpoint. -/
structure SiteConfig where
  /-- The name of the site. -/
  name : String
  /-- Its endpoint, if it says anything about one. -/
  endpoint : Option SiteEndpoint
  /-- Its metrics. -/
  metrics : List MetricConfig
  deriving DecidableEq, Repr

/-- The endpoint a site ships to, unless it is off. -/
def SiteConfig.destination? (site : SiteConfig) : Option EndpointConfig :=
  match site.endpoint with
  | some (.to config) => some config
  | _ => none

/-- All sites. -/
structure PipelineConfig where
  /-- The sites in order. -/
  sites : List SiteConfig
  deriving DecidableEq, Repr

/-- What is wrong with a configuration. -/
inductive ConfigError where
  /-- An address cannot be used. -/
  | invalidAddress (address : String) (reason : String)
  /-- A field that must not be zero is. -/
  | zero (field : String)
  /-- A field is beyond its limit. -/
  | tooLarge (field : String) (value : Nat) (limit : Nat)
  /-- A metric has no value template. -/
  | missingValue (metric : String)
  /-- A name is none that a metric can have. -/
  | invalidName (name : String)
  /-- There is no slot of that name. -/
  | unknownSlot (slot : String)
  /-- A slot is configured a second time. -/
  | duplicateSlot (slot : String)
  /-- A percentage is beyond one hundred. -/
  | samplePercent (percent : Nat)
  /-- A template of a metric cannot be compiled. -/
  | template (metric : String) (cause : ResolveError)
  /-- The configuration cannot be read from its file. -/
  | unreadable (reason : String)
  /-- The configuration is malformed. -/
  | malformed (reason : String)
  deriving DecidableEq, Repr

/-- The wording of a fault. -/
def ConfigError.message : ConfigError → String
  | .invalidAddress address reason =>
    "invalid endpoint address " ++ Text.quoted address ++ ": " ++ reason
  | .zero field => field ++ " must be greater than zero"
  | .tooLarge field value limit =>
    field ++ " must be at most " ++ toString limit ++ ", got " ++ toString value
  | .missingValue metric => "metric " ++ Text.quoted metric ++ " has no value template"
  | .invalidName name => "invalid metric name " ++ Text.quoted name
  | .unknownSlot slot => "unknown dimension slot " ++ Text.quoted slot
  | .duplicateSlot slot => "dimension slot " ++ Text.quoted slot ++ " is configured twice"
  | .samplePercent percent => "sample percent " ++ toString percent ++ " is out of range"
  | .template metric cause =>
    "template error in metric " ++ Text.quoted metric ++ ": " ++ cause.message
  | .unreadable reason => "failed to read config: " ++ reason
  | .malformed reason => "failed to parse config: " ++ reason

/-- The bytes one sample takes in the cache. -/
def sampleSize : Nat := 8

namespace EndpointConfig

/-- A way to resolve endpoints. -/
abbrev Resolver := EndpointConfig → Except ConfigError ResolvedEndpoint

/-- Checks the values of the settings; the first fault decides. A cap of no samples at all is
allowed, the cache then takes counters only. -/
def validate (config : EndpointConfig) : Except ConfigError Unit :=
  if Text.isAllBlank config.address then
    .error (.invalidAddress config.address SocketAddress.Flaw.empty.message)
  else if config.bufferSize = 0 then .error (.zero "buffer_size")
  else if config.splitsMax = 0 then .error (.zero "splits_max")
  else if 0 < config.aggregateSize ∧ config.aggregateSize / sampleSize < config.aggregateValues then
    .error (.tooLarge "aggregate_values" config.aggregateValues (config.aggregateSize / sampleSize))
  else .ok ()

/-- Checks the settings and looks the address up; the first one that is found counts. -/
def resolveBy (lookup : SocketAddress.Lookup) (config : EndpointConfig) :
    Except ConfigError ResolvedEndpoint := do
  config.validate
  match lookup (Text.trim config.address) with
  | .error reason => .error (.invalidAddress config.address reason)
  | .ok [] => .error (.invalidAddress config.address SocketAddress.noneFound)
  | .ok (address :: _) =>
    return {
      address
      bufferSize := config.bufferSize
      flushInterval := config.flushInterval
      splitsMax := config.splitsMax
      flushAfterRequest := config.flushAfterRequest
      aggregateSize := config.aggregateSize
      aggregateValues := config.aggregateValues }

/-- Checks the settings and resolves the address, which has to be numeric. -/
def resolve (config : EndpointConfig) : Except ConfigError ResolvedEndpoint :=
  config.resolveBy SocketAddress.numericLookup

end EndpointConfig

/-- Checks the endpoints of all sites in order. -/
def PipelineConfig.validate (config : PipelineConfig) : Except ConfigError Unit :=
  config.sites.forM fun site =>
    match site.destination? with
    | some endpoint => endpoint.validate
    | none => .ok ()

end MetricPipeline
