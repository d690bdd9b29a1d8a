import MetricPipeline.Event
import MetricPipeline.Slot

/-!
Metric definitions: what a metric measures, under which dimensions, when and how often.

A definition holds templates of any template language. Its only state is the time at which it last
got past its rate limit. Times are milliseconds on one clock, which need not be monotonic.
-/

namespace MetricPipeline

/-- Where the measurements of a metric come from. -/
structure ValueTemplate (τ : Type) where
  /-- What is measured. -/
  kind : Kind
  /-- The template of the value. -/
  template : τ
  /-- Whether the value is a compound text with one item per event. -/
  split : Bool
  deriving Repr

/-- Where the value of a dimension comes from. -/
structure DimensionTemplate (τ : Type) where
  /-- The key of the dimension. -/
  key : String
  /-- The template of the value. -/
  template : τ
  /-- Whether the value is a compound text whose items are spread over the events. -/
  split : Bool
  /-- Set when the variable the dimension depends on cannot exist. -/
  disabled : Bool
  deriving Repr

/-- A configured metric. -/
structure Definition (τ : Type) where
  /-- The name of the metric. -/
  name : String
  /-- Where its measurements come from. -/
  value : ValueTemplate τ
  /-- The configured dimensions by slot. -/
  dimensions : Slot → Option (DimensionTemplate τ)
  /-- Templates that must not be empty or zero. -/
  conditions : List τ
  /-- The least time between two emissions; zero is no limit. -/
  minInterval : Nat
  /-- The percentage of triggers that emit; zero is all of them. -/
  samplePercent : Nat
  /-- The tag of the triggers that concern this metric. -/
  phase : Option String
  /-- When the metric last got past its rate limit. -/
  lastEmission : Option Nat

namespace Definition

variable {τ : Type}

/-- A definition without dimensions, conditions or limits. -/
def new (name : String) (kind : Kind) (template : τ) : Definition τ :=
  { name
    value := { kind, template, split := false }
    dimensions := fun _ => none
    conditions := []
    minInterval := 0
    samplePercent := 0
    phase := none
    lastEmission := none }

/-- The kind of the metric. -/
def kind (definition : Definition τ) : Kind := definition.value.kind

/-- Makes the value a compound text. -/
def splitValue (definition : Definition τ) : Definition τ :=
  { definition with value := { definition.value with split := true } }

/-- Puts a dimension into a slot. -/
def putDimension (definition : Definition τ) (slot : Slot) (dimension : DimensionTemplate τ) :
    Definition τ :=
  { definition with
    dimensions := fun other => if other = slot then some dimension else definition.dimensions other }

/-- Configures a slot, which gives the dimension its key. A number that is no slot is ignored. -/
def withDimension (definition : Definition τ) (slot : Nat) (template : τ) (split : Bool) :
    Definition τ :=
  if inRange : slot < slotCount then
    let slot : Slot := ⟨slot, inRange⟩
    definition.putDimension slot { key := slot.name, template, split, disabled := false }
  else definition

/-- Sets whether the dimension of a configured slot is disabled. -/
def setDisabled (definition : Definition τ) (slot : Nat) (disabled : Bool) : Definition τ :=
  if inRange : slot < slotCount then
    match definition.dimensions ⟨slot, inRange⟩ with
    | some dimension => definition.putDimension ⟨slot, inRange⟩ { dimension with disabled }
    | none => definition
  else definition

/-- Adds a condition. -/
def withCondition (definition : Definition τ) (template : τ) : Definition τ :=
  { definition with conditions := definition.conditions ++ [template] }

/-- An untagged definition answers untagged triggers, a tagged one those with its tag. -/
def matchesPhase (definition : Definition τ) (phase : Option String) : Bool :=
  definition.phase = phase

/-- Whether the rate limit refuses a call at a time: the last one that got past it is less than the
least interval ago. A time before that one counts as no time at all. -/
def isLimited (definition : Definition τ) (now : Nat) : Bool :=
  match definition.lastEmission with
  | some last => definition.minInterval ≠ 0 ∧ now - last < definition.minInterval
  | none => false

/-- The definition after a call got past the rate limit. -/
def passLimit (definition : Definition τ) (now : Nat) : Definition τ :=
  if definition.minInterval = 0 then definition else { definition with lastEmission := some now }

/-- The configured slots in ascending order, with their dimensions. -/
def configured (definition : Definition τ) : List (Slot × DimensionTemplate τ) :=
  Slot.all.filterMap fun slot => (definition.dimensions slot).map fun dimension => (slot, dimension)

end Definition

end MetricPipeline
