import MetricPipeline.Number.Real64

/-!
Metric events: what is measured, and under which dimensions.

A sample is one measurement. An event carries the samples of one kind under one name, with an ordered
list of dimensions. A counter keeps the running sum of its samples, the other kinds keep every sample
in order of arrival.
-/

namespace MetricPipeline

/-- What is measured. -/
inductive Kind where
  /-- How often something happened. -/
  | counter
  /-- How large something was. -/
  | value
  /-- Which of many things it was. -/
  | unique
  deriving DecidableEq, Repr, Inhabited

namespace Kind

/-- The word for a kind. -/
def word : Kind → String
  | .counter => "counter"
  | .value => "value"
  | .unique => "unique"

/-- The kind of a word; "count" is another word for a counter. -/
def ofWord? (text : String) : Option Kind :=
  match text with
  | "counter" | "count" => some .counter
  | "value" => some .value
  | "unique" => some .unique
  | _ => none

/-- The bit that announces a kind in the field mask of a record. -/
def mask : Kind → UInt32
  | .counter => 1
  | .value => 2
  | .unique => 4

/-- The kind that a field mask announces; a record has exactly one. -/
def ofMask? (mask : UInt32) : Option Kind :=
  if mask = 1 then some .counter
  else if mask = 2 then some .value
  else if mask = 4 then some .unique
  else none

end Kind

/-- One measurement. -/
inductive Sample where
  /-- An amount to add. -/
  | counter (amount : Real64)
  /-- A size. -/
  | value (size : Real64)
  /-- The number of a thing. -/
  | unique (id : Int64)
  deriving DecidableEq, Repr

namespace Sample

/-- The zero measurement of a kind. -/
def zero : Kind → Sample
  | .counter => .counter Real64.zero
  | .value => .value Real64.zero
  | .unique => .unique 0

/-- The kind of a measurement. -/
def kind : Sample → Kind
  | .counter _ => .counter
  | .value _ => .value
  | .unique _ => .unique

/-- The word of sixty-four bits that carries a measurement. -/
def word : Sample → UInt64
  | .counter amount => amount.bits
  | .value size => size.bits
  | .unique id => id.toUInt64

/-- The measurement of a kind that a word carries. -/
def ofWord : Kind → UInt64 → Sample
  | .counter, word => .counter ⟨word⟩
  | .value, word => .value ⟨word⟩
  | .unique, word => .unique word.toInt64

end Sample

/-- The measurements of an event. -/
inductive Samples where
  /-- The sum of what was counted. -/
  | counter (sum : Real64)
  /-- The sizes in order of arrival. -/
  | value (sizes : List Real64)
  /-- The things in order of arrival. -/
  | unique (ids : List Int64)
  deriving DecidableEq, Repr

namespace Samples

/-- The kind of the measurements. -/
def kind : Samples → Kind
  | .counter _ => .counter
  | .value _ => .value
  | .unique _ => .unique

/-- A single measurement. -/
def ofSample : Sample → Samples
  | .counter amount => .counter amount
  | .value size => .value [size]
  | .unique id => .unique [id]

/-- How many measurements there are; a counter always has one. -/
def length : Samples → Nat
  | .counter _ => 1
  | .value sizes => sizes.length
  | .unique ids => ids.length

/-- Takes in one more measurement: a counter adds it, the other kinds append it. A measurement of
another kind is refused. -/
def push? : Samples → Sample → Option Samples
  | .counter sum, .counter amount => some (.counter (sum + amount))
  | .value sizes, .value size => some (.value (sizes ++ [size]))
  | .unique ids, .unique id => some (.unique (ids ++ [id]))
  | _, _ => none

/-- The measurement, when there is exactly one. -/
def single? : Samples → Option Sample
  | .counter sum => some (.counter sum)
  | .value [size] => some (.value size)
  | .unique [id] => some (.unique id)
  | _ => none

end Samples

/-- A key and the value an event has for it. -/
structure Dimension where
  /-- The key. -/
  key : String
  /-- The value. -/
  value : String
  deriving DecidableEq, Repr

/-- Measurements under a name and dimensions. -/
structure Event where
  /-- The name of the metric. -/
  name : String
  /-- What was measured. -/
  samples : Samples
  /-- The dimensions, in order. -/
  dimensions : List Dimension
  deriving DecidableEq, Repr

/-- How many dimensions an event takes. -/
def maxDimensions : Nat := 17

namespace Event

/-- An event of one measurement and no dimensions. -/
def ofSample (name : String) (sample : Sample) : Event :=
  { name, samples := .ofSample sample, dimensions := [] }

/-- The kind of an event. -/
def kind (event : Event) : Kind := event.samples.kind

/-- The event with one more dimension at the end; none once all are taken. -/
def addDimension? (event : Event) (dimension : Dimension) : Option Event :=
  if maxDimensions ≤ event.dimensions.length then none
  else some { event with dimensions := event.dimensions ++ [dimension] }

/-- The event with one more dimension, or as it is once all are taken. -/
def addDimension (event : Event) (dimension : Dimension) : Event :=
  (event.addDimension? dimension).getD event

/-- The event with one more measurement of its kind. -/
def addSample? (event : Event) (sample : Sample) : Option Event :=
  (event.samples.push? sample).map fun samples => { event with samples }

/-- The value of the first dimension with a key. -/
def dimension? (event : Event) (key : String) : Option String :=
  (event.dimensions.find? (·.key = key)).map (·.value)

/-- The event's only measurement, if it has exactly one. -/
def single? (event : Event) : Option Sample := event.samples.single?

end Event

end MetricPipeline
