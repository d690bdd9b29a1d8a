import MetricPipeline.Config
import MetricPipeline.Json.Reader

/-!
Reading configurations from JSON.

A record is an object with known fields, each at most once, or an array of the fields in their order;
trailing fields that have a default may be missing from the array. A word of an enumeration may also
be written as an object with that word as its only name and null as its value.
-/

namespace MetricPipeline.Json

/-! ## Parts of any configuration -/

/-- The values of the named fields of a record, in the order of the names. A field may not stand
twice, and one without a name is refused unless the record is lenient. -/
def record? (names : List String) (lenient : Bool) : Json → Option (List (Option Json))
  | .object fields =>
    let known := (fields.map Prod.fst).filter names.contains
    if !decide known.Nodup then none
    else if !lenient && fields.any (fun field => !names.contains field.1) then none
    else some (names.map fun name => fields.lookup name)
  | .array items =>
    if names.length < items.length then none
    else some (items.map some ++ List.replicate (names.length - items.length) none)
  | _ => none

/-- A string. -/
def text? : Json → Option String
  | .string text => some text
  | _ => none

/-- A word of truth. -/
def flag? : Json → Option Bool
  | .bool flag => some flag
  | _ => none

/-- A whole number below a bound. -/
def natural? (bound : Nat) : Json → Option Nat
  | .number (.whole value) => if 0 ≤ value ∧ value < bound then some value.toNat else none
  | _ => none

/-- An unsigned word of sixty-four bits. -/
def word64? (json : Json) : Option Nat := natural? UInt64.size json

/-- A list whose items are read in order. -/
def list? {α : Type} (read : Json → Option α) : Json → Option (List α)
  | .array items => items.mapM read
  | _ => none

/-- A value that may be null. -/
def nullable? {α : Type} (read : Json → Option α) : Json → Option (Option α)
  | .null => some none
  | json => (read json).map some

/-- The value of a field, or a default when the field is missing. -/
def orDefault {α : Type} (fallback : α) (read : Json → Option α) : Option Json → Option α
  | some json => read json
  | none => some fallback

/-- A word of an enumeration, alone or as the only name of an object with the value null. -/
def word? {α : Type} (ofWord : String → Option α) : Json → Option α
  | .string text => ofWord text
  | .object [(name, .null)] => ofWord name
  | _ => none

/-! ## Records -/

/-- A kind. -/
def kind? (json : Json) : Option Kind := word? Kind.ofWord? json

/-- The settings of an endpoint. -/
def endpointConfig? (json : Json) : Option EndpointConfig := do
  let fallback := EndpointConfig.default
  match ← record? ["address", "buffer_size", "flush_interval_ms", "splits_max",
      "flush_after_request", "aggregate_size", "aggregate_values"] false json with
  | [address, bufferSize, flushInterval, splitsMax, flushAfterRequest, aggregateSize,
      aggregateValues] =>
    return {
      address := ← orDefault fallback.address text? address
      bufferSize := ← orDefault fallback.bufferSize word64? bufferSize
      flushInterval := ← orDefault fallback.flushInterval word64? flushInterval
      splitsMax := ← orDefault fallback.splitsMax word64? splitsMax
      flushAfterRequest := ← orDefault fallback.flushAfterRequest flag? flushAfterRequest
      aggregateSize := ← orDefault fallback.aggregateSize word64? aggregateSize
      aggregateValues := ← orDefault fallback.aggregateValues word64? aggregateValues }
  | _ => none

/-- A dimension. -/
def keyConfig? (json : Json) : Option KeyConfig := do
  match ← record? ["slot", "value", "split", "exists"] false json with
  | [some slot, some value, split, guard] =>
    return {
      slot := ← text? slot
      value := ← text? value
      split := ← orDefault false flag? split
      guard := ← orDefault none (nullable? text?) guard }
  | _ => none

/-- A condition: a text, or a lenient record, which must be an object. -/
def conditionConfig? : Json → Option ConditionConfig
  | .string value => some (.plain value)
  | .object fields => do
    match ← record? ["value", "exists"] true (.object fields) with
    | [some value, some guard] => return .guarded (← text? value) (← text? guard)
    | _ => none
  | _ => none

/-- A metric. -/
def metricConfig? (json : Json) : Option MetricConfig := do
  match ← record? ["name", "kind", "value", "split", "keys", "conditions", "timeout_secs",
      "sample_percent", "phase"] false json with
  | [some name, some kind, some value, split, keys, conditions, timeoutSeconds, samplePercent,
      phase] =>
    return {
      name := ← text? name
      kind := ← kind? kind
      value := ← text? value
      split := ← orDefault false flag? split
      keys := ← orDefault [] (list? keyConfig?) keys
      conditions := ← orDefault [] (list? conditionConfig?) conditions
      timeoutSeconds := ← orDefault 0 word64? timeoutSeconds
      samplePercent := ← orDefault 0 (natural? 256) samplePercent
      phase := ← orDefault none (nullable? text?) phase }
  | _ => none

/-- What a site says about its endpoint: the word off, or settings. -/
def siteEndpoint? (json : Json) : Option SiteEndpoint :=
  match word? (fun text => if text = "off" then some () else none) json with
  | some () => some .off
  | none => (endpointConfig? json).map .to

/-- A site. -/
def siteConfig? (json : Json) : Option SiteConfig := do
  match ← record? ["name", "endpoint", "metrics"] false json with
  | [some name, endpoint, metrics] =>
    return {
      name := ← text? name
      endpoint := ← orDefault none (nullable? siteEndpoint?) endpoint
      metrics := ← orDefault [] (list? metricConfig?) metrics }
  | _ => none

/-- All sites. -/
def pipelineConfig? (json : Json) : Option PipelineConfig := do
  match ← record? ["sites"] false json with
  | [sites] => return { sites := ← orDefault [] (list? siteConfig?) sites }
  | _ => none

end MetricPipeline.Json
