import MetricPipeline.Compound
import MetricPipeline.Definition
import MetricPipeline.Measurement

/-!
One definition and one request give metric events.

A split value gives one event per item. A split dimension spreads its items over the events in order,
and further events are made up when it has more items than there are events. The caller bounds the
number of events.
-/

namespace MetricPipeline

/-- An enabled dimension with the text its template resolved to. -/
structure ResolvedDimension where
  /-- The key of the dimension. -/
  key : String
  /-- Whether its items are spread over the events. -/
  split : Bool
  /-- The resolved text. -/
  text : String
  deriving DecidableEq, Repr

namespace ResolvedDimension

/-- The value an event gets from a dimension that is not split, unless it counts as empty. -/
def whole? (resolved : ResolvedDimension) : Option Dimension :=
  if resolved.split ∨ Compound.isEmptyValue resolved.text then none
  else some ⟨resolved.key, resolved.text⟩

/-- The items of a split dimension, at most so many. A text that counts as empty has none. -/
def items (resolved : ResolvedDimension) (max : Nat) : List String :=
  if Compound.isEmptyValue resolved.text then [] else (Compound.items resolved.text).take max

/-- An event with an item of the dimension, unless the item counts as empty. -/
def addItem (resolved : ResolvedDimension) (event : Event) (item : String) : Event :=
  if Compound.isEmptyValue item then event else event.addDimension ⟨resolved.key, item⟩

end ResolvedDimension

namespace Definition

variable {τ : Type}

/-- How templates are resolved against one request. -/
abbrev Resolver (τ : Type) := τ → Except ResolveError String

/-- Whether all conditions hold. The first one that is empty or zero decides. -/
def conditionsHold (resolve : Resolver τ) : List τ → Except ResolveError Bool
  | [] => .ok true
  | condition :: rest => do
    let text ← resolve condition
    if text = "" ∨ text = "0" then return false else conditionsHold resolve rest

/-- The texts of the enabled dimensions, in the order given. -/
def resolveDimensions (resolve : Resolver τ) :
    List (DimensionTemplate τ) → Except ResolveError (List ResolvedDimension)
  | [] => .ok []
  | dimension :: rest =>
    if dimension.disabled then resolveDimensions resolve rest
    else do
      let text ← resolve dimension.template
      let others ← resolveDimensions resolve rest
      return { key := dimension.key, split := dimension.split, text } :: others

/-- The items of the resolved value: those of a compound text, or the text itself unless it is
empty; at most so many. -/
def valueItems (split : Bool) (max : Nat) (text : String) : List String :=
  if split then (Compound.items text).take max
  else if text = "" then []
  else [text].take max

/-- The measurements of items, up to the first one that is malformed. -/
def readItems (kind : Kind) : List String → Except CompileError (List Sample)
  | [] => .ok []
  | item :: rest => do
    let sample ← Measurement.read kind item
    let others ← readItems kind rest
    return sample :: others

/-- The event that is made up when a split dimension has more items than there are events: the
given measurements and the whole dimensions that come earlier. -/
def filler (name : String) (samples : Samples) (earlier : List ResolvedDimension) : Event :=
  (earlier.filterMap ResolvedDimension.whole?).foldl Event.addDimension
    { name, samples, dimensions := [] }

/-- Events with the items of a split dimension, one after another; those left over fill up copies of
the given event. -/
def spread (resolved : ResolvedDimension) (blank : Event) : List Event → List String → List Event
  | events, [] => events
  | [], item :: items => resolved.addItem blank item :: spread resolved blank [] items
  | event :: events, item :: items =>
    resolved.addItem event item :: spread resolved blank events items

/-- Events with all resolved dimensions, one after another; the earlier ones are already there. -/
def addDimensions (name : String) (samples : Samples) (max : Nat)
    (earlier : List ResolvedDimension) :
    List ResolvedDimension → List Event → List Event
  | [], events => events
  | resolved :: rest, events =>
    let widened :=
      if resolved.split then
        spread resolved (filler name samples earlier) events (resolved.items max)
      else
        match resolved.whole? with
        | some dimension => events.map (·.addDimension dimension)
        | none => events
    addDimensions name samples max (earlier ++ [resolved]) rest widened

/-- The measurements of an event that is made up: those of the first event, or a zero measurement
when the value is split. -/
def fillerSamples (value : ValueTemplate τ) (first : Samples) : Samples :=
  if value.split then .ofSample (.zero value.kind) else first

/-- The events of a definition past its rate limit. -/
def evaluate (definition : Definition τ) (resolve : Resolver τ) (max : Nat) :
    Except CompileError (List Event) := do
  let holds ← (conditionsHold resolve definition.conditions).mapError .resolve
  if !holds then return []
  let text ← (resolve definition.value.template).mapError .resolve
  let resolved ←
    (resolveDimensions resolve (definition.configured.map (·.2))).mapError .resolve
  let samples ← readItems definition.kind (valueItems definition.value.split max text)
  match samples.map (Event.ofSample definition.name) with
  | [] => return []
  | first :: others =>
    return addDimensions definition.name (fillerSamples definition.value first.samples) max []
      resolved (first :: others)

/-- Evaluates a definition for one request: the definition afterwards, and at most `max` events.
There are none when the rate limit or a condition declines, or when the value is empty. -/
def compile (definition : Definition τ) (resolve : Resolver τ) (max now : Nat) :
    Definition τ × Except CompileError (List Event) :=
  if definition.isLimited now then (definition, .ok [])
  else (definition.passLimit now, definition.evaluate resolve max)

end Definition

end MetricPipeline
