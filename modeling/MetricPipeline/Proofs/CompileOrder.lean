import MetricPipeline.Proofs.CompileClosedForm

/-!
In which order a definition is evaluated, and where an evaluation ends.

An evaluation goes through stages: the conditions, the value, the enabled dimensions in ascending
order, and then the items of the value. A stage passes, declines or fails, and the first one that
does not pass decides. So the stages say which calls fail and with which error, which calls give
nothing, and what a call does not look at: no template behind the deciding stage, none of a disabled
dimension, and no item of the value beyond those that are allowed.
-/

namespace MetricPipeline.Definition

variable {τ : Type}

/-! ## Stages -/

/-- What an evaluation finds at one stage. -/
inductive Finding where
  /-- It goes on. -/
  | passes
  /-- It ends without events. -/
  | declines
  /-- It ends with an error. -/
  | fails (error : CompileError)
  deriving DecidableEq

/-- What an evaluation looks at. -/
inductive Stage (τ : Type) where
  /-- A condition. -/
  | condition (template : τ)
  /-- The template of the value. -/
  | value (template : τ)
  /-- The template of a dimension. -/
  | dimension (template : τ)
  /-- An item of the value. -/
  | item (text : String)
  deriving DecidableEq

/-- What is found at a stage. A condition must not be empty or zero, other templates must resolve,
and an item must be a measurement of the kind. -/
def Stage.finding (resolve : Resolver τ) (kind : Kind) : Stage τ → Finding
  | .condition template =>
    match resolve template with
    | .error cause => .fails (.resolve cause)
    | .ok text => if text = "" ∨ text = "0" then .declines else .passes
  | .value template | .dimension template =>
    match resolve template with
    | .error cause => .fails (.resolve cause)
    | .ok _ => .passes
  | .item text =>
    match Measurement.read kind text with
    | .error error => .fails error
    | .ok _ => .passes

/-- The dimensions that are not disabled, in ascending order. -/
def enabled (definition : Definition τ) : List (DimensionTemplate τ) :=
  (definition.configured.map (·.2)).filter (!·.disabled)

/-- The items of the resolved value, no more than are allowed. -/
def items (definition : Definition τ) (resolve : Resolver τ) (limit : Nat) : List String :=
  valueItems definition.value.split limit (textOf resolve definition.value.template)

/-- The stages of an evaluation, in order. -/
def stages (definition : Definition τ) (resolve : Resolver τ) (limit : Nat) : List (Stage τ) :=
  definition.conditions.map .condition ++
    (.value definition.value.template ::
      (definition.enabled.map (.dimension ·.template) ++
        (definition.items resolve limit).map .item))

/-- The first stage that does not pass finds this. -/
def StopsWith (resolve : Resolver τ) (kind : Kind) (stages : List (Stage τ)) (found : Finding) :
    Prop :=
  ∃ passed stage rest, stages = passed ++ stage :: rest ∧
    (∀ earlier ∈ passed, earlier.finding resolve kind = .passes) ∧
    stage.finding resolve kind = found

/-- The stages up to the first one that does not pass, or all of them. -/
def reached (resolve : Resolver τ) (kind : Kind) : List (Stage τ) → List (Stage τ)
  | [] => []
  | stage :: rest =>
    stage :: if stage.finding resolve kind = .passes then reached resolve kind rest else []

/-- Another resolver gives the same at a stage. Of the value only its items count. -/
def Stage.Alike (resolve other : Resolver τ) (items : String → List String) : Stage τ → Prop
  | .condition template | .dimension template => other template = resolve template
  | .value template => (other template).map items = (resolve template).map items
  | .item _ => True

/-- How an evaluation ends: as the first stage that does not pass, if there is one. -/
def ending (resolve : Resolver τ) (kind : Kind) : List (Stage τ) → Finding
  | [] => .passes
  | stage :: rest =>
    if stage.finding resolve kind = .passes then ending resolve kind rest
    else stage.finding resolve kind

variable {resolve other : Resolver τ} {kind : Kind} {front back : List (Stage τ)}

theorem ending_append (resolve : Resolver τ) (kind : Kind) (front back : List (Stage τ)) :
    ending resolve kind (front ++ back) =
      if ending resolve kind front = .passes then ending resolve kind back
      else ending resolve kind front := by
  induction front with
  | nil => simp [ending]
  | cons stage rest ih =>
    rw [List.cons_append, ending, ending]
    split
    · exact ih
    · rfl

theorem ending_eq_passes :
    ending resolve kind front = .passes ↔
      ∀ stage ∈ front, stage.finding resolve kind = .passes := by
  induction front with
  | nil => simp [ending]
  | cons stage rest ih =>
    rw [ending, List.forall_mem_cons]
    split
    · rename_i here
      rw [ih]
      exact (and_iff_right here).symm
    · rename_i stops
      exact iff_of_false stops fun both => stops both.1

theorem ending_eq_iff {found : Finding} (stops : found ≠ .passes) :
    ending resolve kind front = found ↔ StopsWith resolve kind front found := by
  constructor
  · intro ends
    induction front with
    | nil => exact absurd ends.symm stops
    | cons stage rest ih =>
      rw [ending] at ends
      split at ends
      · rename_i here
        obtain ⟨passed, last, after, rfl, passes, finds⟩ := ih ends
        exact ⟨stage :: passed, last, after, rfl, List.forall_mem_cons.mpr ⟨here, passes⟩, finds⟩
      · exact ⟨[], stage, rest, rfl, nofun, ends⟩
  · rintro ⟨passed, stage, rest, rfl, passes, finds⟩
    rw [ending_append, if_pos (ending_eq_passes.mpr passes), ending, finds, if_neg stops]

theorem reached_append (passes : ending resolve kind front = .passes) :
    reached resolve kind (front ++ back) = front ++ reached resolve kind back := by
  induction front with
  | nil => rfl
  | cons stage rest ih =>
    obtain ⟨here, others⟩ := List.forall_mem_cons.mp (ending_eq_passes.mp passes)
    rw [List.cons_append, reached, if_pos here, ih (ending_eq_passes.mpr others), List.cons_append]

/-- What is reached of the first stages is reached whatever comes behind them. -/
theorem mem_reached_append {stage : Stage τ} (early : stage ∈ reached resolve kind front) :
    stage ∈ reached resolve kind (front ++ back) := by
  induction front with
  | nil => cases early
  | cons first rest ih =>
    rw [reached] at early
    rw [List.cons_append, reached]
    rcases List.mem_cons.mp early with rfl | later
    · exact List.mem_cons_self
    · split at later
      · rename_i here
        rw [if_pos here]
        exact List.mem_cons_of_mem first (ih later)
      · cases later

/-! ## Conditions, dimensions and items as stages -/

/-- What a part of an evaluation finds, when it goes on with `true` and declines with `false`. -/
def Finding.outcome : Finding → Except CompileError Bool
  | .passes => .ok true
  | .declines => .ok false
  | .fails error => .error error

theorem conditionsHold_eq (resolve : Resolver τ) (kind : Kind) (conditions : List τ) :
    (conditionsHold resolve conditions).mapError .resolve =
      (ending resolve kind (conditions.map .condition)).outcome := by
  induction conditions with
  | nil => rfl
  | cons condition rest ih =>
    rw [conditionsHold, List.map_cons, ending, Stage.finding]
    cases resolve condition with
    | error cause => rfl
    | ok text =>
      by_cases closed : text = "" ∨ text = "0"
      · simp only [if_pos closed, reduceCtorEq, if_false]
        show Except.mapError _ (if _ then _ else _) = _
        rw [if_pos closed]
        rfl
      · simp only [if_neg closed, if_true, ← ih]
        show Except.mapError _ (if _ then _ else _) = _
        rw [if_neg closed]

theorem ending_of_holds {conditions : List τ}
    (holds : conditionsHold resolve conditions = .ok true) :
    ending resolve kind (conditions.map .condition) = .passes := by
  have same := conditionsHold_eq resolve kind conditions
  rw [holds] at same
  cases found : ending resolve kind (conditions.map .condition) with
  | passes => rfl
  | declines => rw [found] at same; cases same
  | fails error => rw [found] at same; cases same

theorem resolveDimensions_eq (resolve : Resolver τ) (kind : Kind)
    (dimensions : List (DimensionTemplate τ)) :
    ((resolveDimensions resolve dimensions).mapError .resolve).map (fun _ => true) =
      (ending resolve kind
        ((dimensions.filter (!·.disabled)).map (.dimension ·.template))).outcome := by
  induction dimensions with
  | nil => rfl
  | cons dimension rest ih =>
    rw [resolveDimensions]
    split
    · rename_i disabled
      rw [List.filter_cons_of_neg (by simp [disabled]), ih]
    · rename_i enabled
      rw [List.filter_cons_of_pos (by simp [enabled]), List.map_cons, ending, Stage.finding]
      cases resolve dimension.template with
      | error cause => rfl
      | ok text =>
        simp only [if_true, ← ih]
        cases resolveDimensions resolve rest <;> rfl

theorem readItems_eq (resolve : Resolver τ) (kind : Kind) (items : List String) :
    (readItems kind items).map (fun _ => true) =
      (ending resolve kind (items.map .item)).outcome := by
  induction items with
  | nil => rfl
  | cons item rest ih =>
    rw [readItems, List.map_cons, ending, Stage.finding]
    cases Measurement.read kind item with
    | error error => rfl
    | ok sample =>
      simp only [if_true, ← ih]
      cases readItems kind rest <;> rfl

/-- A part that yields more than whether it goes on either goes on or fails. -/
theorem Finding.of_outcome {α : Type} {part : Except CompileError α} {found : Finding}
    (same : part.map (fun _ => true) = found.outcome) :
    (found = .passes ∧ ∃ result, part = .ok result) ∨
      ∃ error, found = .fails error ∧ part = .error error := by
  cases part with
  | error error =>
    cases found <;> cases same
    exact .inr ⟨error, rfl, rfl⟩
  | ok result =>
    cases found <;> cases same
    exact .inl ⟨rfl, result, rfl⟩

/-! ## The whole evaluation -/

/-- Further dimensions take no event away. -/
theorem addDimensions_ne_nil {events : List Event} (some : events ≠ []) (name : String)
    (samples : Samples) (limit : Nat) (earlier rest : List ResolvedDimension) :
    addDimensions name samples limit earlier rest events ≠ [] := by
  induction rest generalizing earlier events with
  | nil => exact some
  | cons resolved rest ih =>
    rw [addDimensions_cons]
    refine ih ?_ _
    obtain ⟨first, others, rfl⟩ := List.exists_cons_of_ne_nil some
    unfold addRow
    split
    · cases resolved.items limit <;> simp [spread]
    · split <;> simp

theorem chain_of_ok {ε α β : Type} {first : Except ε α} {follow : α → Except ε β} {middle : α}
    (done : first = .ok middle) : (first >>= follow) = follow middle := by
  rw [done]
  rfl

theorem chain_of_error {ε α β : Type} {first : Except ε α} {follow : α → Except ε β} {error : ε}
    (failed : first = .error error) : (first >>= follow) = .error error := by
  rw [failed]
  rfl

/-- When the conditions hold and the value and the dimensions resolve, the items decide. -/
theorem evaluate_of_resolved {definition : Definition τ} {limit : Nat} {raw : String}
    {resolved : List ResolvedDimension}
    (holds : conditionsHold resolve definition.conditions = .ok true)
    (value : resolve definition.value.template = .ok raw)
    (dimensions : resolveDimensions resolve (definition.configured.map (·.2)) = .ok resolved) :
    definition.evaluate resolve limit =
      readItems definition.kind (valueItems definition.value.split limit raw) >>= fun samples =>
        match samples.map (Event.ofSample definition.name) with
        | [] => .ok []
        | first :: others =>
          .ok (addDimensions definition.name (fillerSamples definition.value first.samples) limit []
            resolved (first :: others)) := by
  rw [evaluate, chain_of_ok (mapError_eq_ok.mpr holds), Bool.not_true, if_neg Bool.false_ne_true,
    chain_of_ok (mapError_eq_ok.mpr value), chain_of_ok (mapError_eq_ok.mpr dimensions)]
  rfl

/-- An evaluation ends as its stages say; when all of them pass it gives something, unless the value
has no items. -/
theorem evaluate_ending (definition : Definition τ) (resolve : Resolver τ) (limit : Nat) :
    match ending resolve definition.kind (definition.stages resolve limit) with
    | .fails error => definition.evaluate resolve limit = .error error
    | .declines => definition.evaluate resolve limit = .ok []
    | .passes => ∃ events, definition.evaluate resolve limit = .ok events ∧
        (events = [] ↔ definition.items resolve limit = []) := by
  have conditions := conditionsHold_eq resolve definition.kind definition.conditions
  rw [stages, ending_append]
  generalize ending resolve definition.kind (definition.conditions.map .condition) = first
    at conditions
  cases first with
  | fails error =>
    exact chain_of_error conditions
  | declines =>
    exact chain_of_ok conditions
  | passes =>
    have holds : _ = Except.ok true := conditions
    rw [if_pos rfl, ending, Stage.finding, items]
    cases value : resolve definition.value.template with
    | error cause =>
      have failed : (resolve definition.value.template).mapError CompileError.resolve =
          .error (.resolve cause) := by rw [value]; rfl
      exact (chain_of_ok holds).trans (chain_of_error failed)
    | ok raw =>
      rw [textOf_eq value, if_pos rfl, ending_append, enabled]
      rcases Finding.of_outcome (resolveDimensions_eq resolve definition.kind
        (definition.configured.map (·.2))) with ⟨passes, resolved, done⟩ | ⟨error, fails, failed⟩
      · rw [passes, if_pos rfl,
          evaluate_of_resolved (mapError_eq_ok.mp holds) value (mapError_eq_ok.mp done)]
        rcases Finding.of_outcome (readItems_eq resolve definition.kind
          (valueItems definition.value.split limit raw)) with
          ⟨passes, samples, read⟩ | ⟨error, fails, failed⟩
        · have sizes := congrArg List.length (readItems_eq_ok read)
          rw [List.length_map, List.length_map] at sizes
          rw [passes, chain_of_ok read]
          cases samples with
          | nil => exact ⟨[], rfl, iff_of_true rfl (List.length_eq_zero_iff.mp sizes)⟩
          | cons sample others =>
            have some := addDimensions_ne_nil (List.cons_ne_nil
              (Event.ofSample definition.name sample)
              (others.map (Event.ofSample definition.name)))
            refine ⟨_, rfl, iff_of_false (some _ _ _ _ _) ?_⟩
            intro none
            rw [none] at sizes
            cases sizes
        · rw [fails]
          exact chain_of_error failed
      · rw [fails]
        exact (chain_of_ok holds).trans ((chain_of_ok (mapError_eq_ok.mpr value)).trans
          (chain_of_error failed))

/-! ## What an evaluation does not look at -/

section Alike

variable {items : String → List String}

theorem conditionsHold_congr {conditions : List τ}
    (alike : ∀ stage ∈ reached resolve kind (conditions.map .condition),
      stage.Alike resolve other items) :
    conditionsHold other conditions = conditionsHold resolve conditions := by
  induction conditions with
  | nil => rfl
  | cons condition rest ih =>
    rw [List.map_cons, reached, List.forall_mem_cons] at alike
    obtain ⟨same, later⟩ := alike
    have same : other condition = resolve condition := same
    rw [conditionsHold, conditionsHold, same]
    cases found : resolve condition with
    | error cause => rfl
    | ok text =>
      by_cases closed : text = "" ∨ text = "0"
      · rw [chain_of_ok rfl, chain_of_ok rfl, if_pos closed, if_pos closed]
      · have passes : (Stage.condition condition).finding resolve kind = .passes := by
          rw [Stage.finding, found]
          exact if_neg closed
        rw [if_pos passes] at later
        rw [chain_of_ok rfl, chain_of_ok rfl, if_neg closed, if_neg closed, ih later]

theorem resolveDimensions_filter (resolve : Resolver τ) (dimensions : List (DimensionTemplate τ)) :
    resolveDimensions resolve dimensions =
      resolveDimensions resolve (dimensions.filter (!·.disabled)) := by
  induction dimensions with
  | nil => rfl
  | cons dimension rest ih =>
    cases disabled : dimension.disabled with
    | true =>
      rw [List.filter_cons_of_neg (by simp [disabled]), resolveDimensions, if_pos disabled, ih]
    | false =>
      rw [List.filter_cons_of_pos (by simp [disabled]), resolveDimensions, resolveDimensions, ih]

theorem resolveDimensions_congr {dimensions : List (DimensionTemplate τ)}
    (alike : ∀ stage ∈ reached resolve kind
      ((dimensions.filter (!·.disabled)).map (.dimension ·.template)),
      stage.Alike resolve other items) :
    resolveDimensions other dimensions = resolveDimensions resolve dimensions := by
  induction dimensions with
  | nil => rfl
  | cons dimension rest ih =>
    rw [resolveDimensions, resolveDimensions]
    split
    · rename_i disabled
      rw [List.filter_cons_of_neg (by simp [disabled])] at alike
      exact ih alike
    · rename_i enabled
      rw [List.filter_cons_of_pos (by simp [enabled]), List.map_cons, reached,
        List.forall_mem_cons] at alike
      obtain ⟨same, later⟩ := alike
      have same : other dimension.template = resolve dimension.template := same
      rw [same]
      cases found : resolve dimension.template with
      | error cause => rfl
      | ok text =>
        have passes : (Stage.dimension dimension.template).finding resolve kind = .passes := by
          rw [Stage.finding, found]
        rw [if_pos passes] at later
        rw [chain_of_ok rfl, chain_of_ok rfl, ih later]

/-- A resolver that gives the same at the stages that are reached gives the same evaluation. -/
theorem evaluate_congr (definition : Definition τ) {limit : Nat}
    (alike : ∀ stage ∈ reached resolve definition.kind (definition.stages resolve limit),
      stage.Alike resolve other (valueItems definition.value.split limit)) :
    definition.evaluate other limit = definition.evaluate resolve limit := by
  have conditions := conditionsHold_congr fun stage early => alike stage (mem_reached_append early)
  cases held : conditionsHold resolve definition.conditions with
  | error cause =>
    rw [held] at conditions
    rw [evaluate, evaluate, conditions, held]
    rfl
  | ok holds =>
    rw [held] at conditions
    cases holds with
    | false =>
      rw [evaluate, evaluate, conditions, held]
      rfl
    | true =>
      rw [stages, reached_append (ending_of_holds held), reached] at alike
      obtain ⟨here, later⟩ := List.forall_mem_cons.mp fun stage late =>
        alike stage (List.mem_append_right _ late)
      have here : (other definition.value.template).map (valueItems definition.value.split limit) =
          (resolve definition.value.template).map (valueItems definition.value.split limit) := here
      cases value : resolve definition.value.template with
      | error cause =>
        rw [value] at here
        cases same : other definition.value.template with
        | ok text => rw [same] at here; cases here
        | error otherCause =>
          rw [same] at here
          cases here
          rw [evaluate, evaluate, conditions, held, value, same]
          rfl
      | ok raw =>
        rw [value] at here
        cases same : other definition.value.template with
        | error cause => rw [same] at here; cases here
        | ok otherRaw =>
          rw [same] at here
          have sameItems : valueItems definition.value.split limit otherRaw =
            valueItems definition.value.split limit raw := Except.ok.inj here
          have passes : (Stage.value definition.value.template).finding resolve definition.kind =
              .passes := by
            rw [Stage.finding, value]
          rw [if_pos passes, enabled] at later
          have dimensions := resolveDimensions_congr fun stage early =>
            later stage (mem_reached_append early)
          cases resolved : resolveDimensions resolve (definition.configured.map (·.2)) with
          | error cause =>
            rw [resolved] at dimensions
            rw [evaluate, evaluate, conditions, held, value, same, dimensions, resolved]
            rfl
          | ok texts =>
            rw [resolved] at dimensions
            rw [evaluate_of_resolved conditions same dimensions,
              evaluate_of_resolved held value resolved, sameItems]

end Alike

theorem enabled_eq (definition : Definition τ) :
    definition.enabled = Slot.all.filterMap fun slot =>
      (definition.dimensions slot).filter (!·.disabled) := by
  rw [enabled, configured, List.map_filterMap, ← List.filterMap_eq_filter, List.filterMap_filterMap]
  refine List.filterMap_congr fun slot _ => ?_
  cases definition.dimensions slot with
  | none => rfl
  | some dimension =>
    cases disabled : dimension.disabled <;> simp [disabled, Option.guard, Option.filter]

/-- Dimensions that differ only where they are disabled give the same evaluation. -/
theorem evaluate_disabled (definition : Definition τ) (resolve : Resolver τ) (limit : Nat)
    {dimensions : Slot → Option (DimensionTemplate τ)}
    (same : ∀ slot, (dimensions slot).filter (!·.disabled) =
      (definition.dimensions slot).filter (!·.disabled)) :
    { definition with dimensions }.evaluate resolve limit = definition.evaluate resolve limit := by
  have enabled : { definition with dimensions }.enabled = definition.enabled := by
    rw [enabled_eq, enabled_eq]
    exact List.filterMap_congr fun slot _ => same slot
  have resolved (anyDefinition : Definition τ) :
      resolveDimensions resolve (anyDefinition.configured.map (·.2)) =
        resolveDimensions resolve anyDefinition.enabled :=
    resolveDimensions_filter resolve (anyDefinition.configured.map (·.2))
  rw [evaluate, evaluate, resolved, resolved, enabled]
  rfl

/-! ## The main statement -/

theorem evaluate_eq_error_iff {definition : Definition τ} {limit : Nat} {error : CompileError} :
    definition.evaluate resolve limit = .error error ↔
      StopsWith resolve definition.kind (definition.stages resolve limit) (.fails error) := by
  rw [← ending_eq_iff Finding.noConfusion]
  have ends := evaluate_ending definition resolve limit
  cases found : ending resolve definition.kind (definition.stages resolve limit) with
  | passes =>
    rw [found] at ends
    obtain ⟨events, gives, -⟩ := ends
    exact iff_of_false (by rw [gives]; nofun) nofun
  | declines =>
    rw [found] at ends
    exact iff_of_false (by rw [ends]; nofun) nofun
  | fails cause =>
    rw [found] at ends
    rw [ends, Except.error.injEq, Finding.fails.injEq]

theorem evaluate_eq_nil_iff {definition : Definition τ} {limit : Nat} :
    definition.evaluate resolve limit = .ok [] ↔
      StopsWith resolve definition.kind (definition.stages resolve limit) .declines ∨
        (∀ stage ∈ definition.stages resolve limit,
          stage.finding resolve definition.kind = .passes) ∧
        definition.items resolve limit = [] := by
  rw [← ending_eq_iff Finding.noConfusion, ← ending_eq_passes]
  have ends := evaluate_ending definition resolve limit
  cases found : ending resolve definition.kind (definition.stages resolve limit) with
  | passes =>
    rw [found] at ends
    obtain ⟨events, gives, empty⟩ := ends
    rw [gives, Except.ok.injEq, empty]
    simp
  | declines =>
    rw [found] at ends
    exact iff_of_true ends (.inl rfl)
  | fails cause =>
    rw [found] at ends
    exact iff_of_false (by rw [ends]; nofun) (by simp)

/-- **Which calls decline or fail, and what they change.** A rate-limited call gives nothing,
whatever templates resolve to, and changes nothing. Any other one notes the time if there is a least
interval, and changes nothing else. It fails exactly with the error of the first stage that does not
pass, and gives nothing exactly when that stage declines or all of them pass over a value without
items. What resolves differently behind that stage, beyond the allowed items of the value or in a
disabled dimension makes no difference. -/
theorem compile_order (definition : Definition τ) (resolve : Resolver τ) (limit now : Nat) :
    (definition.isLimited now = true → ∀ anyResolver anyLimit,
      definition.compile anyResolver anyLimit now = (definition, .ok [])) ∧
    (definition.isLimited now = false →
      (definition.compile resolve limit now).1 =
        { definition with
          lastEmission :=
            if definition.minInterval = 0 then definition.lastEmission else some now } ∧
      (∀ error, (definition.compile resolve limit now).2 = .error error ↔
        StopsWith resolve definition.kind (definition.stages resolve limit) (.fails error)) ∧
      ((definition.compile resolve limit now).2 = .ok [] ↔
        StopsWith resolve definition.kind (definition.stages resolve limit) .declines ∨
          (∀ stage ∈ definition.stages resolve limit,
            stage.finding resolve definition.kind = .passes) ∧
          definition.items resolve limit = []) ∧
      (∀ other : Resolver τ,
        (∀ stage ∈ reached resolve definition.kind (definition.stages resolve limit),
          stage.Alike resolve other (valueItems definition.value.split limit)) →
        definition.compile other limit now = definition.compile resolve limit now) ∧
      ∀ dimensions : Slot → Option (DimensionTemplate τ),
        (∀ slot, (dimensions slot).filter (!·.disabled) =
          (definition.dimensions slot).filter (!·.disabled)) →
        ({ definition with dimensions }.compile resolve limit now).2 =
          (definition.compile resolve limit now).2) := by
  constructor
  · intro limited anyResolver anyLimit
    rw [compile, if_pos limited]
  · intro unlimited
    have evaluates (anyResolver : Resolver τ) : definition.compile anyResolver limit now =
        (definition.passLimit now, definition.evaluate anyResolver limit) := by
      rw [compile, unlimited, if_neg Bool.false_ne_true]
    rw [evaluates resolve]
    refine ⟨?_, fun error => evaluate_eq_error_iff, evaluate_eq_nil_iff, ?_, ?_⟩
    · unfold passLimit
      split <;> rfl
    · intro other alike
      rw [evaluates other, evaluate_congr definition alike]
    · intro dimensions same
      have alsoUnlimited : { definition with dimensions }.isLimited now = false := unlimited
      rw [compile, alsoUnlimited, if_neg Bool.false_ne_true]
      exact evaluate_disabled definition resolve limit same

/-- A definition with a condition, a split value, a disabled dimension before an enabled one, and a
least interval that it got past at five. -/
def auditDefinition : Definition String :=
  let valued := (Definition.new "audit" .unique "list").splitValue.withCondition "on"
  let guarded := (valued.withDimension 1 "gone" false).setDisabled 1 true
  { guarded.withDimension 3 "host" false with minInterval := 1000, lastEmission := some 5 }

/-- It knows all variables but `gone`, and the third item of the list is malformed. -/
def auditResolver : Resolver String
  | "on" => .ok "1"
  | "list" => .ok "7,8,x"
  | "host" => .ok "web"
  | name => .error (.unknownVariable name)

/-- It knows `gone` as well, and another third item. -/
def otherAuditResolver : Resolver String
  | "list" => .ok "7,8,9"
  | "gone" => .ok "here"
  | name => auditResolver name

theorem audit_order :
    auditDefinition.isLimited 10 = true ∧
      auditDefinition.compile otherAuditResolver 3 10 = (auditDefinition, .ok []) ∧
      auditDefinition.isLimited 2000 = false ∧
      (auditDefinition.compile auditResolver 3 2000).1.lastEmission = some 2000 ∧
      (auditDefinition.compile auditResolver 3 2000).2 = .error (.invalidUnique "x") ∧
      auditDefinition.compile otherAuditResolver 2 2000 =
        auditDefinition.compile auditResolver 2 2000 ∧
      ({ auditDefinition with dimensions := fun slot =>
          if slot.val = 1 then none else auditDefinition.dimensions slot }.compile
        auditResolver 2 2000).2 = (auditDefinition.compile auditResolver 2 2000).2 := by
  have limited : auditDefinition.isLimited 10 = true := by decide +kernel
  have unlimited : auditDefinition.isLimited 2000 = false := by decide +kernel
  obtain ⟨declines, -⟩ := compile_order auditDefinition auditResolver 3 10
  obtain ⟨-, opens⟩ := compile_order auditDefinition auditResolver 3 2000
  obtain ⟨state, fails, -⟩ := opens unlimited
  obtain ⟨-, narrow⟩ := compile_order auditDefinition auditResolver 2 2000
  obtain ⟨-, -, -, alike, disabled⟩ := narrow unlimited
  have stages : reached auditResolver .unique (auditDefinition.stages auditResolver 2) =
      [.condition "on", .value "list", .dimension "host", .item "7", .item "8"] := by
    decide +kernel
  refine ⟨limited, declines limited otherAuditResolver 3, unlimited, ?_, ?_, ?_, ?_⟩
  · rw [state]
    rfl
  · rw [fails]
    exact ⟨[.condition "on", .value "list", .dimension "host", .item "7", .item "8"], .item "x", [],
      by decide +kernel, by decide +kernel, by decide +kernel⟩
  · refine alike otherAuditResolver ?_
    show ∀ stage ∈ reached auditResolver .unique (auditDefinition.stages auditResolver 2), _
    rw [stages]
    have items : (otherAuditResolver "list").map (valueItems true 2) =
      (auditResolver "list").map (valueItems true 2) := by decide +kernel
    simp only [List.forall_mem_cons]
    exact ⟨rfl, items, rfl, trivial, trivial, nofun⟩
  · refine disabled _ fun slot => ?_
    split
    · rename_i second
      obtain rfl : slot = ⟨1, by decide⟩ := Fin.ext second
      rfl
    · rfl

end MetricPipeline.Definition
