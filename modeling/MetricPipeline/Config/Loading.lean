import MetricPipeline.Config
import MetricPipeline.Config.MetricName
import MetricPipeline.Definition

/-!
Building definitions from their configuration.

Templates are compiled by the host's language. A dimension whose guard fails stays configured but is
disabled, a condition whose guard fails is dropped. The first fault decides: name, value, sample
percentage, value template, then the dimensions one by one, then the conditions one by one.
-/

namespace MetricPipeline

namespace Definition

variable {τ : Type}

/-- Compiles a template of a metric. -/
def compileTemplate (language : TemplateLanguage τ) (metric source : String) :
    Except ConfigError τ :=
  (language.compile source).mapError (.template metric)

/-- Whether a guard fails: it names a variable that cannot exist. -/
def guardFails (language : TemplateLanguage τ) : Option String → Bool
  | some name => !language.canExist name
  | none => false

/-- The definition with the dimensions of a list added. The slots already taken are listed. -/
def addKeys (language : TemplateLanguage τ) (taken : List Slot) (definition : Definition τ) :
    List KeyConfig → Except ConfigError (Definition τ)
  | [] => .ok definition
  | config :: rest =>
    match Slot.ofText? config.slot with
    | none => .error (.unknownSlot config.slot)
    | some slot =>
      if slot ∈ taken then .error (.duplicateSlot config.slot)
      else do
        let template ← compileTemplate language definition.name config.value
        let dimension : DimensionTemplate τ :=
          { key := slot.name
            template
            split := config.split
            disabled := guardFails language config.guard }
        addKeys language (slot :: taken) (definition.putDimension slot dimension) rest

/-- The source of a condition and its guard. -/
def conditionParts : ConditionConfig → String × Option String
  | .plain value => (value, none)
  | .guarded value guard => (value, some guard)

/-- The definition with the conditions of a list added, those whose guard fails left out. -/
def addConditions (language : TemplateLanguage τ) (definition : Definition τ) :
    List ConditionConfig → Except ConfigError (Definition τ)
  | [] => .ok definition
  | config :: rest =>
    let (source, guard) := conditionParts config
    if guardFails language guard then addConditions language definition rest
    else do
      let template ← compileTemplate language definition.name source
      addConditions language (definition.withCondition template) rest

/-- The definition of a metric without its dimensions and conditions. -/
def ofConfigBase (language : TemplateLanguage τ) (config : MetricConfig) :
    Except ConfigError (Definition τ) :=
  match MetricName.parse? config.name with
  | none => .error (.invalidName config.name)
  | some name =>
    if config.value = "" then .error (.missingValue name)
    else if 100 < config.samplePercent then .error (.samplePercent config.samplePercent)
    else do
      let template ← compileTemplate language name config.value
      return {
        Definition.new name config.kind template with
        value := { kind := config.kind, template, split := config.split }
        minInterval := config.timeoutSeconds * 1000
        samplePercent := config.samplePercent
        phase := config.phase.filter (· ≠ "") }

/-- The definition of a metric. -/
def ofConfig (language : TemplateLanguage τ) (config : MetricConfig) :
    Except ConfigError (Definition τ) := do
  let base ← ofConfigBase language config
  let withKeys ← addKeys language [] base config.keys
  addConditions language withKeys config.conditions

end Definition

end MetricPipeline
