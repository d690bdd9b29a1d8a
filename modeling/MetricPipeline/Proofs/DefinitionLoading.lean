import Mathlib.Data.List.Basic
import MetricPipeline.Config.Loading
import MetricPipeline.Proofs.CompileMatrix
import MetricPipeline.Proofs.SharedEndpoints

/-!
Which configurations of metrics are accepted, and what is built from them.

A configuration has a list of faults, in the order in which they are looked for. Whether it has any can
be said without that order, so it is accepted just when it is valid, and otherwise its first fault is
reported. The dimensions of a definition are those that the keys name, under whatever spelling: a
slot is taken once, by the key that names it, and a guard that fails only disables it.
-/

namespace MetricPipeline

/-! ## Names and slots -/

namespace MetricName

/-- A name of a metric: an ASCII letter, and then ASCII letters, digits, underscores and points. -/
def IsName (name : String) : Prop :=
  (∃ first ∈ name.toList.head?, first.isAlpha) ∧
    ∀ c ∈ name.toList.tail, c.isAlphanum ∨ c = '_' ∨ c = '.'

instance : DecidablePred IsName := fun _ => inferInstanceAs (Decidable (_ ∧ _))

theorem parse?_eq (text : String) :
    parse? text = if IsName (Text.trim text) then some (Text.trim text) else none := by
  simp only [parse?, IsName, Text.trim, String.toList_ofList]
  cases Text.trimChars text.toList with
  | nil => simp
  | cons first rest => simp [isNameChar, or_assoc]

end MetricName

namespace Slot

/-- The ways to write a slot: the collector's name, that name after "key", and "skey" for the string
key. -/
def Spells (text : String) (slot : Slot) : Prop :=
  text = slot.name ∨ text = "key" ++ slot.name ∨ text = "skey" ∧ slot = stringKey

instance (text : String) (slot : Slot) : Decidable (Spells text slot) :=
  inferInstanceAs (Decidable (_ ∨ _))

theorem name_injective : ∀ first second : Slot, first.name = second.name → first = second := by
  decide

/-- No name begins as the longer spellings do. -/
theorem name_ne_key : ∀ (slot : Slot) (rest : List Char),
    slot.name.toList ≠ 'k' :: 'e' :: 'y' :: rest := by
  have head : ∀ slot : Slot, slot.name.toList.head? ≠ some 'k' := by decide
  intro slot rest same
  exact head slot (by rw [same]; rfl)

theorem name_ne_skey : ∀ slot : Slot, slot.name ≠ "skey" := by decide

theorem ofName?_eq_some_iff {name : String} {slot : Slot} :
    ofName? name = some slot ↔ name = slot.name := by
  have named {other : Slot} (found : ofName? name = some other) : other.name = name := by
    simpa using List.find?_some found
  constructor
  · intro found
    exact (named found).symm
  · rintro rfl
    have known : (ofName? slot.name).isSome :=
      List.find?_isSome.mpr ⟨slot, List.mem_finRange slot, decide_eq_true rfl⟩
    obtain ⟨other, found⟩ := Option.isSome_iff_exists.mp known
    rw [found, name_injective other slot (named found)]

/-- A text is read as the slot it spells. -/
theorem ofText?_eq_some_iff {text : String} {slot : Slot} :
    ofText? text = some slot ↔ Spells text slot := by
  have long : text = "key" ++ slot.name ↔ text.toList = 'k' :: 'e' :: 'y' :: slot.name.toList := by
    rw [← String.toList_inj, String.toList_append]
    rfl
  rw [ofText?, Spells, long]
  split
  · rename_i isKey
    subst isKey
    simp [(name_ne_skey slot).symm, eq_comm]
  · rename_i other
    rw [or_iff_left fun skey : text = "skey" ∧ _ => other skey.1]
    split
    · rename_i rest chars
      have unnamed : text ≠ slot.name := fun same => name_ne_key slot rest (same ▸ chars)
      rw [ofName?_eq_some_iff, or_iff_right unnamed, chars, ← String.toList_inj,
        String.toList_ofList]
      simp
    · rename_i chars
      rw [ofName?_eq_some_iff, or_iff_left (chars _)]

/-- A text spells at most one slot. -/
theorem Spells.unique {text : String} {first second : Slot} (one : Spells text first)
    (other : Spells text second) : first = second :=
  Option.some.inj ((ofText?_eq_some_iff.mpr one).symm.trans (ofText?_eq_some_iff.mpr other))

theorem ofText?_eq_none_iff {text : String} : ofText? text = none ↔ ∀ slot, ¬ Spells text slot := by
  simp only [Option.eq_none_iff_forall_ne_some, ne_eq, ofText?_eq_some_iff]

end Slot

variable {τ : Type}

/-! ## Valid configurations -/

/-- The source of a template compiles. -/
def TemplateLanguage.Compiles (language : TemplateLanguage τ) (source : String) : Prop :=
  ∃ template, language.compile source = .ok template

/-- Two keys name one slot, under the same spelling or not. -/
def KeyConfig.SharesSlot (first second : KeyConfig) : Prop :=
  ∃ slot, Slot.Spells first.slot slot ∧ Slot.Spells second.slot slot

instance (first second : KeyConfig) : Decidable (first.SharesSlot second) :=
  inferInstanceAs (Decidable (∃ _, _))

/-- The guard of a dimension names a variable that cannot exist. -/
def KeyConfig.GuardFails (language : TemplateLanguage τ) (key : KeyConfig) : Prop :=
  ∃ name, key.guard = some name ∧ language.canExist name = false

/-- The source of the template of a condition. -/
def ConditionConfig.source : ConditionConfig → String
  | .plain value | .guarded value _ => value

/-- Whether a condition has no guard, or one that passes. -/
def ConditionConfig.isKept (language : TemplateLanguage τ) : ConditionConfig → Bool
  | .plain _ => true
  | .guarded _ name => language.canExist name

/-- A configuration of a metric without faults. -/
structure MetricConfig.Valid (language : TemplateLanguage τ) (config : MetricConfig) : Prop where
  /-- What is left of the name without the blanks around it is a name. -/
  name : MetricName.IsName (Text.trim config.name)
  /-- There is a value. -/
  value : config.value ≠ ""
  /-- The percentage is one. -/
  percent : config.samplePercent ≤ 100
  /-- The template of the value compiles. -/
  template : language.Compiles config.value
  /-- Every key names a slot. -/
  known : ∀ key ∈ config.keys, ∃ slot, Slot.Spells key.slot slot
  /-- No two keys name the same one. -/
  distinct : config.keys.Pairwise fun first second => ¬ first.SharesSlot second
  /-- The template of every key compiles, whether or not its guard fails. -/
  dimensions : ∀ key ∈ config.keys, language.Compiles key.value
  /-- So does that of every condition that is kept. -/
  conditions : ∀ condition ∈ config.conditions, condition.isKept language = true →
    language.Compiles condition.source

/-! ## What a configuration says -/

/-- What a key says about the dimension of its slot. -/
structure KeyConfig.Configures (language : TemplateLanguage τ) (key : KeyConfig) (slot : Slot)
    (dimension : DimensionTemplate τ) : Prop where
  /-- The dimension has the collector's name of the slot. -/
  name : dimension.key = slot.name
  /-- Its template is that of the key. -/
  template : language.compile key.value = .ok dimension.template
  /-- It is split as the key says. -/
  split : dimension.split = key.split
  /-- It is disabled just when the guard fails. -/
  disabled : dimension.disabled = true ↔ key.GuardFails language

/-- The slots are configured by keys. -/
structure Definition.Dimensioned (language : TemplateLanguage τ) (keys : List KeyConfig)
    (dimensions : Slot → Option (DimensionTemplate τ)) : Prop where
  /-- A slot is configured just when a key names it. -/
  configured : ∀ slot, (∃ dimension, dimensions slot = some dimension) ↔
    ∃ key ∈ keys, Slot.Spells key.slot slot
  /-- It has the dimension that the key says. -/
  each : ∀ key ∈ keys, ∀ slot dimension, Slot.Spells key.slot slot →
    dimensions slot = some dimension → key.Configures language slot dimension

/-- A definition is what a configuration says. -/
structure Definition.Built (language : TemplateLanguage τ) (config : MetricConfig)
    (definition : Definition τ) : Prop where
  /-- The name has no blanks around it. -/
  name : definition.name = Text.trim config.name
  /-- The kind is the same. -/
  kind : definition.value.kind = config.kind
  /-- The template of the value is compiled. -/
  template : language.compile config.value = .ok definition.value.template
  /-- The value is split or not. -/
  split : definition.value.split = config.split
  /-- The keys configure the slots. -/
  dimensions : Dimensioned language config.keys definition.dimensions
  /-- The conditions are those that are kept, in order. -/
  conditions : definition.conditions.map .ok =
    (config.conditions.filter (·.isKept language)).map (language.compile ·.source)
  /-- The interval is in milliseconds. -/
  interval : definition.minInterval = config.timeoutSeconds * 1000
  /-- The percentage is the same. -/
  percent : definition.samplePercent = config.samplePercent
  /-- An empty tag is none. -/
  phase : definition.phase = config.phase.filter (· ≠ "")
  /-- Nothing has been emitted yet. -/
  fresh : definition.lastEmission = none

/-! ## Faults in order -/

/-- What is wrong with the source of a template. -/
def templateFaults (language : TemplateLanguage τ) (metric source : String) : List ConfigError :=
  match language.compile source with
  | .ok _ => []
  | .error cause => [.template metric cause]

/-- What is wrong with the slot of a key that stands behind others. -/
def KeyConfig.slotFaults (earlier : List KeyConfig) (key : KeyConfig) : List ConfigError :=
  (if ∃ slot, Slot.Spells key.slot slot then [] else [.unknownSlot key.slot]) ++
    if ∃ other ∈ earlier, other.SharesSlot key then [.duplicateSlot key.slot] else []

/-- What is wrong with keys that stand behind others, key by key: the slot, and then the template. -/
def keyFaults (language : TemplateLanguage τ) (metric : String) (earlier : List KeyConfig) :
    List KeyConfig → List ConfigError
  | [] => []
  | key :: rest =>
    key.slotFaults earlier ++ templateFaults language metric key.value ++
      keyFaults language metric (earlier ++ [key]) rest

/-- What is wrong with the conditions that are kept, one by one. -/
def conditionFaults (language : TemplateLanguage τ) (metric : String)
    (conditions : List ConditionConfig) : List ConfigError :=
  (conditions.filter (·.isKept language)).flatMap fun condition =>
    templateFaults language metric condition.source

/-- What is wrong with the metric itself: its name, its value, its percentage, its template. -/
def MetricConfig.ownFaults (language : TemplateLanguage τ) (config : MetricConfig) :
    List ConfigError :=
  let name := Text.trim config.name
  (if MetricName.IsName name then [] else [.invalidName config.name]) ++
    (if config.value = "" then [.missingValue name] else []) ++
    (if 100 < config.samplePercent then [.samplePercent config.samplePercent] else []) ++
    templateFaults language name config.value

/-- All that is wrong with a configuration, in the order in which it is looked for. -/
def MetricConfig.faults (language : TemplateLanguage τ) (config : MetricConfig) :
    List ConfigError :=
  let name := Text.trim config.name
  config.ownFaults language ++ keyFaults language name [] config.keys ++
    conditionFaults language name config.conditions

section Faults

variable {language : TemplateLanguage τ} {metric : String}

theorem templateFaults_eq_nil {source : String} :
    templateFaults language metric source = [] ↔ language.Compiles source := by
  unfold templateFaults TemplateLanguage.Compiles
  cases language.compile source <;> simp

theorem slotFaults_eq_nil {earlier : List KeyConfig} {key : KeyConfig} :
    key.slotFaults earlier = [] ↔
      (∃ slot, Slot.Spells key.slot slot) ∧ ∀ other ∈ earlier, ¬ other.SharesSlot key := by
  simp only [KeyConfig.slotFaults, List.append_eq_nil_iff, ite_eq_left_iff, ite_eq_right_iff,
    List.cons_ne_nil, imp_false, not_not]
  refine and_congr_right fun _ => ?_
  simp only [not_exists, not_and]

theorem keyFaults_eq_nil {earlier keys : List KeyConfig} :
    keyFaults language metric earlier keys = [] ↔
      (∀ key ∈ keys, ∃ slot, Slot.Spells key.slot slot) ∧
      keys.Pairwise (fun first second => ¬ first.SharesSlot second) ∧
      (∀ other ∈ earlier, ∀ key ∈ keys, ¬ other.SharesSlot key) ∧
      ∀ key ∈ keys, language.Compiles key.value := by
  induction keys generalizing earlier with
  | nil => simp [keyFaults]
  | cons key rest ih =>
    simp only [keyFaults, List.append_eq_nil_iff, slotFaults_eq_nil, templateFaults_eq_nil, ih,
      List.forall_mem_cons, List.pairwise_cons, List.forall_mem_append, List.mem_singleton,
      forall_eq]
    constructor
    · rintro ⟨⟨⟨named, fresh⟩, compiles⟩, known, distinct, ⟨others, apart⟩, dimensions⟩
      exact ⟨⟨named, known⟩, ⟨apart, distinct⟩,
        fun other member => ⟨fresh other member, others other member⟩, compiles, dimensions⟩
    · rintro ⟨⟨named, known⟩, ⟨apart, distinct⟩, fresh, compiles, dimensions⟩
      exact ⟨⟨⟨named, fun other member => (fresh other member).1⟩, compiles⟩, known, distinct,
        ⟨fun other member => (fresh other member).2, apart⟩, dimensions⟩

theorem conditionFaults_eq_nil {conditions : List ConditionConfig} :
    conditionFaults language metric conditions = [] ↔
      ∀ condition ∈ conditions, condition.isKept language = true →
        language.Compiles condition.source := by
  simp only [conditionFaults, List.flatMap_eq_nil_iff, List.mem_filter, templateFaults_eq_nil,
    and_imp]

/-- A configuration is valid just when it has no faults. -/
theorem faults_eq_nil {config : MetricConfig} :
    config.faults language = [] ↔ config.Valid language := by
  simp only [MetricConfig.faults, MetricConfig.ownFaults, List.append_eq_nil_iff,
    ite_eq_left_iff, ite_eq_right_iff, List.cons_ne_nil, imp_false, not_not, Nat.not_lt,
    templateFaults_eq_nil, keyFaults_eq_nil, conditionFaults_eq_nil]
  constructor
  · rintro ⟨⟨⟨⟨⟨name, value⟩, percent⟩, template⟩, known, distinct, -, dimensions⟩, conditions⟩
    exact ⟨name, value, percent, template, known, distinct, dimensions, conditions⟩
  · rintro ⟨name, value, percent, template, known, distinct, dimensions, conditions⟩
    exact ⟨⟨⟨⟨⟨name, value⟩, percent⟩, template⟩, known, distinct, nofun, dimensions⟩, conditions⟩

/-! ## The first fault is reported -/

/-- Of two computations the first fault is reported, and the second one is not looked at before. -/
theorem fault?_chain {ε α β : Type} {first : Except ε α} {follow : α → Except ε β}
    {own later : List ε} (mine : fault? first = own.head?)
    (theirs : ∀ value, first = .ok value → fault? (follow value) = later.head?) :
    fault? (first >>= follow) = (own ++ later).head? := by
  rw [List.head?_append, ← mine]
  cases done : first with
  | error error => rfl
  | ok value => exact theirs value done

theorem fault?_bind_pure {ε α β : Type} (first : Except ε α) (result : α → β) :
    fault? (first >>= fun value => pure (result value)) = fault? first := by
  cases first <;> rfl

namespace Definition

theorem compileTemplate_eq_ok {source : String} {template : τ} :
    compileTemplate language metric source = .ok template ↔
      language.compile source = .ok template := by
  rw [compileTemplate, mapError_eq_ok]

theorem addConditions_cons (definition : Definition τ) (condition : ConditionConfig)
    (rest : List ConditionConfig) :
    addConditions language definition (condition :: rest) =
      if condition.isKept language then do
        let template ← compileTemplate language definition.name condition.source
        addConditions language (definition.withCondition template) rest
      else addConditions language definition rest := by
  cases condition with
  | plain value => rfl
  | guarded value name =>
    by_cases exists_ : language.canExist name = true <;>
      simp [addConditions, conditionParts, guardFails, ConditionConfig.isKept,
        ConditionConfig.source, exists_]

theorem fault?_compileTemplate (language : TemplateLanguage τ) (metric source : String) :
    fault? (compileTemplate language metric source) =
      (templateFaults language metric source).head? := by
  rw [compileTemplate, templateFaults]
  cases language.compile source <;> rfl

theorem used_nil (slot : Slot) :
    slot ∈ ([] : List Slot) ↔ ∃ key ∈ ([] : List KeyConfig), Slot.Spells key.slot slot := by
  simp

/-- The slots that are taken are those that the keys so far have named. -/
theorem mem_cons_used {taken : List Slot} {earlier : List KeyConfig} {key : KeyConfig} {slot : Slot}
    (used : ∀ slot, slot ∈ taken ↔ ∃ key ∈ earlier, Slot.Spells key.slot slot)
    (spelled : Slot.Spells key.slot slot) (other : Slot) :
    other ∈ slot :: taken ↔ ∃ named ∈ earlier ++ [key], Slot.Spells named.slot other := by
  simp only [List.mem_cons, used, List.mem_append, List.not_mem_nil, or_false, or_and_right,
    exists_or, exists_eq_left]
  rw [or_comm]
  exact or_congr_right ⟨fun same => same ▸ spelled, fun also => also.unique spelled⟩

theorem fault?_addKeys {taken : List Slot} {definition : Definition τ}
    {earlier keys : List KeyConfig}
    (used : ∀ slot, slot ∈ taken ↔ ∃ key ∈ earlier, Slot.Spells key.slot slot) :
    fault? (addKeys language taken definition keys) =
      (keyFaults language definition.name earlier keys).head? := by
  induction keys generalizing taken definition earlier with
  | nil => rfl
  | cons key rest ih =>
    rw [addKeys, keyFaults, KeyConfig.slotFaults]
    cases read : Slot.ofText? key.slot with
    | none =>
      have unnamed := Slot.ofText?_eq_none_iff.mp read
      rw [if_neg (not_exists.mpr unnamed)]
      rfl
    | some slot =>
      have spelled := Slot.ofText?_eq_some_iff.mp read
      have shares : (∃ other ∈ earlier, other.SharesSlot key) ↔ slot ∈ taken := by
        rw [used]
        refine exists_congr fun other => and_congr_right fun _ => ⟨?_, fun same => ⟨slot, same, spelled⟩⟩
        rintro ⟨shared, same, also⟩
        rwa [spelled.unique also]
      rw [if_pos ⟨slot, spelled⟩, List.nil_append]
      dsimp only
      by_cases again : slot ∈ taken
      · rw [if_pos again, if_pos (shares.mpr again)]
        rfl
      · rw [if_neg again, if_neg (again ∘ shares.mp), List.nil_append]
        exact fault?_chain (fault?_compileTemplate _ _ _) fun template _ =>
          ih (mem_cons_used used spelled)

theorem fault?_addConditions {definition : Definition τ} {conditions : List ConditionConfig} :
    fault? (addConditions language definition conditions) =
      (conditionFaults language definition.name conditions).head? := by
  induction conditions generalizing definition with
  | nil => rfl
  | cons condition rest ih =>
    rw [addConditions_cons, conditionFaults]
    by_cases kept : condition.isKept language
    · rw [if_pos kept, List.filter_cons_of_pos kept, List.flatMap_cons]
      exact fault?_chain (fault?_compileTemplate _ _ _) fun template _ => ih
    · rw [if_neg kept, List.filter_cons_of_neg kept]
      exact ih

/-! ## What is built -/

theorem guardFails_iff {key : KeyConfig} :
    guardFails language key.guard = true ↔ key.GuardFails language := by
  rw [KeyConfig.GuardFails]
  cases key.guard <;> simp [guardFails]

theorem dimensioned_nil : Dimensioned language [] fun _ => none := by
  refine ⟨fun slot => ?_, nofun⟩
  simp

/-- One more key fills the slot that it names, if no key before it has. -/
theorem Dimensioned.put {definition : Definition τ} {earlier : List KeyConfig} {key : KeyConfig}
    {slot : Slot} {dimension : DimensionTemplate τ}
    (dimensioned : Dimensioned language earlier definition.dimensions)
    (spelled : Slot.Spells key.slot slot)
    (fresh : ¬ ∃ other ∈ earlier, Slot.Spells other.slot slot)
    (configures : key.Configures language slot dimension) :
    Dimensioned language (earlier ++ [key]) (definition.putDimension slot dimension).dimensions := by
  have put (other : Slot) : (definition.putDimension slot dimension).dimensions other =
      if other = slot then some dimension else definition.dimensions other := rfl
  constructor
  case configured =>
    intro other
    rw [put]
    by_cases same : other = slot
    · subst same
      exact iff_of_true ⟨dimension, if_pos rfl⟩
        ⟨key, List.mem_append_right earlier (List.mem_singleton.mpr rfl), spelled⟩
    · rw [if_neg same, dimensioned.configured other]
      refine exists_congr fun named => ?_
      rw [List.mem_append, List.mem_singleton]
      refine and_congr_left fun spells => (or_iff_left ?_).symm
      rintro rfl
      exact same (spells.unique spelled)
  case each =>
    intro named member other found spells here
    rw [put] at here
    rcases List.mem_append.mp member with old | new
    · have different : other ≠ slot := by
        rintro rfl
        exact fresh ⟨named, old, spells⟩
      rw [if_neg different] at here
      exact dimensioned.each named old other found spells here
    · obtain rfl := List.mem_singleton.mp new
      obtain rfl := spells.unique spelled
      rw [if_pos rfl] at here
      obtain rfl := Option.some.inj here
      exact configures

theorem addKeys_eq_ok {taken : List Slot} {definition built : Definition τ}
    {earlier keys : List KeyConfig}
    (used : ∀ slot, slot ∈ taken ↔ ∃ key ∈ earlier, Slot.Spells key.slot slot)
    (dimensioned : Dimensioned language earlier definition.dimensions)
    (added : addKeys language taken definition keys = .ok built) :
    ∃ dimensions, built = { definition with dimensions } ∧
      Dimensioned language (earlier ++ keys) dimensions := by
  induction keys generalizing taken definition earlier with
  | nil =>
    obtain rfl := Except.ok.inj added
    rw [List.append_nil]
    exact ⟨definition.dimensions, rfl, dimensioned⟩
  | cons key rest ih =>
    rw [addKeys] at added
    split at added
    · cases added
    · rename_i slot read
      have spelled := Slot.ofText?_eq_some_iff.mp read
      split at added
      · cases added
      · rename_i new
        obtain ⟨template, compiled, follows⟩ := chain_eq_ok.mp added
        have configures : key.Configures language slot
            { key := slot.name, template, split := key.split,
              disabled := guardFails language key.guard } :=
          ⟨rfl, compileTemplate_eq_ok.mp compiled, rfl, guardFails_iff⟩
        have put :=
          dimensioned.put spelled (fun again => new ((used slot).mpr again)) configures
        obtain ⟨dimensions, rfl, all⟩ := ih (mem_cons_used used spelled) put follows
        rw [List.append_assoc] at all
        exact ⟨dimensions, rfl, all⟩

theorem addConditions_eq_ok {definition built : Definition τ} {conditions : List ConditionConfig}
    (added : addConditions language definition conditions = .ok built) :
    ∃ templates, built = { definition with conditions := definition.conditions ++ templates } ∧
      templates.map .ok =
        (conditions.filter (·.isKept language)).map (language.compile ·.source) := by
  induction conditions generalizing definition with
  | nil =>
    obtain rfl := Except.ok.inj added
    exact ⟨[], by rw [List.append_nil], rfl⟩
  | cons condition rest ih =>
    rw [addConditions_cons] at added
    by_cases kept : condition.isKept language
    · rw [if_pos kept] at added
      obtain ⟨template, compiled, follows⟩ := chain_eq_ok.mp added
      obtain ⟨templates, rfl, each⟩ := ih follows
      rw [List.filter_cons_of_pos kept, List.map_cons, compileTemplate_eq_ok.mp compiled, ← each]
      refine ⟨template :: templates, ?_, rfl⟩
      simp [withCondition]
    · rw [if_neg kept] at added
      obtain ⟨templates, rfl, each⟩ := ih added
      rw [List.filter_cons_of_neg kept]
      exact ⟨templates, rfl, each⟩

/-- A metric without faults of its own begins with these settings. -/
theorem ofConfigBase_eq_ok {config : MetricConfig} {base : Definition τ}
    (begins : ofConfigBase language config = .ok base) :
    ∃ template, language.compile config.value = .ok template ∧
      base = {
        name := Text.trim config.name
        value := { kind := config.kind, template, split := config.split }
        dimensions := fun _ => none
        conditions := []
        minInterval := config.timeoutSeconds * 1000
        samplePercent := config.samplePercent
        phase := config.phase.filter (· ≠ "")
        lastEmission := none } := by
  rw [ofConfigBase, MetricName.parse?_eq] at begins
  by_cases named : MetricName.IsName (Text.trim config.name)
  · rw [if_pos named] at begins
    dsimp only at begins
    split at begins
    · cases begins
    · split at begins
      · cases begins
      · obtain ⟨template, compiled, made⟩ := chain_eq_ok.mp begins
        exact ⟨template, compileTemplate_eq_ok.mp compiled, (Except.ok.inj made).symm⟩
  · rw [if_neg named] at begins
    cases begins

theorem fault?_ofConfigBase (config : MetricConfig) :
    fault? (ofConfigBase language config) = (config.ownFaults language).head? := by
  rw [ofConfigBase, MetricName.parse?_eq, MetricConfig.ownFaults]
  by_cases named : MetricName.IsName (Text.trim config.name)
  · rw [if_pos named, if_pos named]
    dsimp only
    by_cases missing : config.value = ""
    · rw [if_pos missing, if_pos missing]
      rfl
    · rw [if_neg missing, if_neg missing]
      by_cases beyond : 100 < config.samplePercent
      · rw [if_pos beyond, if_pos beyond]
        rfl
      · rw [if_neg beyond, if_neg beyond]
        exact (fault?_bind_pure _ _).trans (fault?_compileTemplate _ _ _)
  · rw [if_neg named, if_neg named]
    rfl

/-- Loading reports the first fault of a configuration, and fails only if there is one. -/
theorem fault?_ofConfig (language : TemplateLanguage τ) (config : MetricConfig) :
    fault? (ofConfig language config) = (config.faults language).head? := by
  rw [ofConfig, MetricConfig.faults, List.append_assoc]
  refine fault?_chain (fault?_ofConfigBase config) fun base begins => ?_
  obtain ⟨template, -, rfl⟩ := ofConfigBase_eq_ok begins
  refine fault?_chain (fault?_addKeys used_nil) fun withKeys added => ?_
  obtain ⟨dimensions, rfl, -⟩ := addKeys_eq_ok used_nil dimensioned_nil added
  exact fault?_addConditions

/-- What is built says all that its configuration says. -/
theorem built_of_ofConfig {config : MetricConfig} {definition : Definition τ}
    (loaded : ofConfig language config = .ok definition) : Built language config definition := by
  obtain ⟨base, begins, follows⟩ := chain_eq_ok.mp loaded
  obtain ⟨withKeys, added, ends⟩ := chain_eq_ok.mp follows
  obtain ⟨template, compiled, rfl⟩ := ofConfigBase_eq_ok begins
  obtain ⟨dimensions, rfl, dimensioned⟩ :=
    addKeys_eq_ok used_nil dimensioned_nil added
  obtain ⟨templates, rfl, each⟩ := addConditions_eq_ok ends
  exact ⟨rfl, rfl, compiled, rfl, dimensioned, each, rfl, rfl, rfl, rfl⟩

/-- A configuration says all that there is to a definition. -/
theorem Dimensioned.unique {keys : List KeyConfig}
    {first second : Slot → Option (DimensionTemplate τ)} (one : Dimensioned language keys first)
    (other : Dimensioned language keys second) : first = second := by
  funext slot
  cases here : first slot with
  | none =>
    cases there : second slot with
    | none => rfl
    | some dimension =>
      obtain ⟨_, found⟩ := (one.configured slot).mpr ((other.configured slot).mp ⟨dimension, there⟩)
      cases here.symm.trans found
  | some dimension =>
    obtain ⟨key, member, spells⟩ := (one.configured slot).mp ⟨dimension, here⟩
    obtain ⟨found, there⟩ := (other.configured slot).mpr ⟨key, member, spells⟩
    have stated := one.each key member slot dimension spells here
    have again := other.each key member slot found spells there
    obtain ⟨name, template, split, disabled⟩ := dimension
    obtain ⟨otherName, otherTemplate, otherSplit, otherDisabled⟩ := found
    obtain rfl : name = otherName := stated.name.trans again.name.symm
    obtain rfl : template = otherTemplate :=
      Except.ok.inj (stated.template.symm.trans again.template)
    obtain rfl : split = otherSplit := stated.split.trans again.split.symm
    obtain rfl : disabled = otherDisabled :=
      Bool.eq_iff_iff.mpr (stated.disabled.trans again.disabled.symm)
    exact there.symm

theorem Built.unique {config : MetricConfig} {first second : Definition τ}
    (one : Built language config first) (other : Built language config second) :
    first = second := by
  have dimensions := one.dimensions.unique other.dimensions
  have conditions : first.conditions = second.conditions :=
    List.map_injective_iff.mpr (fun _ _ same => Except.ok.inj same)
      (one.conditions.trans other.conditions.symm)
  obtain ⟨name, ⟨kind, template, split⟩, _, _, interval, percent, phase, fresh⟩ := first
  obtain ⟨otherName, ⟨otherKind, otherTemplate, otherSplit⟩, _, _, otherInterval, otherPercent,
    otherPhase, otherFresh⟩ := second
  obtain rfl : name = otherName := one.name.trans other.name.symm
  obtain rfl : kind = otherKind := one.kind.trans other.kind.symm
  obtain rfl : template = otherTemplate := Except.ok.inj (one.template.symm.trans other.template)
  obtain rfl : split = otherSplit := one.split.trans other.split.symm
  obtain rfl : interval = otherInterval := one.interval.trans other.interval.symm
  obtain rfl : percent = otherPercent := one.percent.trans other.percent.symm
  obtain rfl : phase = otherPhase := one.phase.trans other.phase.symm
  obtain rfl : fresh = otherFresh := one.fresh.trans other.fresh.symm
  cases dimensions
  cases conditions
  rfl

/-- **Valid configurations are accepted, and what is built is what they say.** A definition is built
just when the configuration is valid; otherwise its first fault is reported, in the order of name,
value, percentage, template, keys and conditions. What is built is the one definition that the
configuration describes: a slot is configured just when a key names it, under whatever spelling, and
a guard that fails disables it without changing its template or its split. -/
theorem ofConfig_accepts_valid (language : TemplateLanguage τ) (config : MetricConfig) :
    ((∃ definition, ofConfig language config = .ok definition) ↔ config.Valid language) ∧
      (∀ error, ofConfig language config = .error error ↔
        (config.faults language).head? = some error) ∧
      ∀ definition, ofConfig language config = .ok definition ↔
        config.Valid language ∧ Built language config definition := by
  have first := fault?_ofConfig language config
  have accepted : (∃ definition, ofConfig language config = .ok definition) ↔
      config.Valid language := by
    rw [← fault?_eq_none_iff, first, List.head?_eq_none_iff, faults_eq_nil]
  refine ⟨accepted, fun error => ?_, fun definition => ⟨fun loaded => ?_, ?_⟩⟩
  · rw [← first]
    cases ofConfig language config <;> simp [fault?]
  · exact ⟨accepted.mp ⟨definition, loaded⟩, built_of_ofConfig loaded⟩
  · rintro ⟨valid, built⟩
    obtain ⟨other, loaded⟩ := accepted.mpr valid
    rw [loaded, built.unique (built_of_ofConfig loaded)]

end Definition

end Faults

end MetricPipeline
