import MetricPipeline.Proofs.CompileMatrix

/-!
The events of a definition in closed form.

What a definition gives for one request can be said without building it up: how many events there
are, and for each of them the sample and the dimensions, read off the resolved texts. The steps by
which templates are resolved and items are read are opened here, and the matrix is put in terms of
slots.
-/

namespace MetricPipeline.Definition

variable {τ : Type}

/-! ## The closed form -/

/-- The items of a slot whose dimension is enabled and split, unless its text counts as empty. -/
def slotItems (definition : Definition τ) (text : Slot → String) (limit : Nat) (slot : Slot) :
    List String :=
  match definition.dimensions slot with
  | some dimension =>
    if dimension.disabled ∨ !dimension.split ∨ Compound.isEmptyValue (text slot) then []
    else (Compound.items (text slot)).take limit
  | none => []

/-- The dimension that a slot has for the event of a column: its item in that column if it is split,
its whole text if not, and none where that counts as empty. -/
def slotCell? (definition : Definition τ) (text : Slot → String) (limit column : Nat)
    (slot : Slot) : Option Dimension :=
  match definition.dimensions slot with
  | some dimension =>
    let value? :=
      if dimension.disabled then none
      else if dimension.split then (definition.slotItems text limit slot)[column]?
      else some (text slot)
    match value? with
    | some value => if Compound.isEmptyValue value then none else some ⟨dimension.key, value⟩
    | none => none
  | none => none

/-- The sample of the event of a column. A value that is not split is in all of them; to the right
of the items of one that is split there are zeros. -/
def columnSample (definition : Definition τ) (raw : String) (limit column : Nat) :
    Except CompileError Sample :=
  if definition.value.split then
    match ((Compound.items raw).take limit)[column]? with
    | some item => Measurement.read definition.kind item
    | none => .ok (.zero definition.kind)
  else Measurement.read definition.kind raw

/-- How many events there are: one for every item of the value and of each slot. -/
def columnCount (definition : Definition τ) (raw : String) (text : Slot → String) (limit : Nat) :
    Nat :=
  (Slot.all.map fun slot => (definition.slotItems text limit slot).length).foldl max
    (valueItems definition.value.split limit raw).length

/-- Events are those of the closed form, for given texts of the value and of the slots. -/
structure ClosedForm (definition : Definition τ) (raw : String) (text : Slot → String) (limit : Nat)
    (events : List Event) : Prop where
  /-- A value without items gives nothing. -/
  nothing : valueItems definition.value.split limit raw = [] → events = []
  /-- Any other gives as many events as are needed, and no more than allowed. -/
  count : valueItems definition.value.split limit raw ≠ [] →
    events.length = definition.columnCount raw text limit ∧ events.length ≤ limit
  /-- Each of them has the name, the kind, and the sample and dimensions of its column. -/
  event : ∀ (column : Nat) (inside : column < events.length),
    events[column].kind = definition.kind ∧
      ∃ sample, definition.columnSample raw limit column = .ok sample ∧
        events[column] =
          { name := definition.name
            samples := .ofSample sample
            dimensions := Slot.all.filterMap (definition.slotCell? text limit column) }

/-! ## Opening the steps -/

variable {definition : Definition τ} {resolve : Resolver τ} {limit : Nat}

/-- The text that a template resolves to, if it does. -/
def textOf (resolve : Resolver τ) (template : τ) : String :=
  match resolve template with
  | .ok text => text
  | .error _ => ""

theorem textOf_eq {template : τ} {text : String} (resolved : resolve template = .ok text) :
    textOf resolve template = text := by
  rw [textOf, resolved]

theorem conditionsHold_of_open {conditions : List τ} {holds : Bool}
    (done : conditionsHold resolve conditions = .ok holds)
    (passing : ∀ condition ∈ conditions, resolve condition ≠ .ok "" ∧ resolve condition ≠ .ok "0") :
    holds = true := by
  induction conditions with
  | nil => exact (Except.ok.inj done).symm
  | cons condition rest ih =>
    obtain ⟨first, others⟩ := List.forall_mem_cons.mp passing
    rw [conditionsHold] at done
    obtain ⟨text, resolved, after⟩ := chain_eq_ok.mp done
    have open_ : ¬(text = "" ∨ text = "0") := by
      rintro (rfl | rfl)
      · exact first.1 resolved
      · exact first.2 resolved
    rw [if_neg open_] at after
    exact ih after others

theorem resolveDimensions_eq_ok {dimensions : List (DimensionTemplate τ)}
    {resolved : List ResolvedDimension}
    (done : resolveDimensions resolve dimensions = .ok resolved) :
    (∀ dimension ∈ dimensions, dimension.disabled = false →
      resolve dimension.template = .ok (textOf resolve dimension.template)) ∧
    resolved = dimensions.filterMap fun dimension =>
      if dimension.disabled then none
      else some
        { key := dimension.key
          split := dimension.split
          text := textOf resolve dimension.template } := by
  induction dimensions generalizing resolved with
  | nil => exact ⟨by simp, (Except.ok.inj done).symm⟩
  | cons dimension rest ih =>
    rw [resolveDimensions] at done
    split at done
    · rename_i disabled
      obtain ⟨texts, rfl⟩ := ih done
      refine ⟨List.forall_mem_cons.mpr ⟨fun enabled => ?_, texts⟩, ?_⟩
      · rw [disabled] at enabled
        cases enabled
      · rw [List.filterMap_cons, if_pos disabled]
    · rename_i enabled
      obtain ⟨text, here, after⟩ := chain_eq_ok.mp done
      obtain ⟨others, there, last⟩ := chain_eq_ok.mp after
      obtain ⟨texts, rfl⟩ := ih there
      obtain rfl := Except.ok.inj last
      have same : textOf resolve dimension.template = text := textOf_eq here
      refine ⟨List.forall_mem_cons.mpr ⟨fun _ => same ▸ here, texts⟩, ?_⟩
      rw [List.filterMap_cons, if_neg enabled, same]

theorem readItems_eq_ok {kind : Kind} {items : List String} {samples : List Sample}
    (done : readItems kind items = .ok samples) :
    items.map (Measurement.read kind) = samples.map .ok := by
  induction items generalizing samples with
  | nil =>
    obtain rfl := Except.ok.inj done
    rfl
  | cons item rest ih =>
    rw [readItems] at done
    obtain ⟨sample, read, after⟩ := chain_eq_ok.mp done
    obtain ⟨others, there, last⟩ := chain_eq_ok.mp after
    obtain rfl := Except.ok.inj last
    rw [List.map_cons, List.map_cons, read, ih there]

theorem read_kind {kind : Kind} {item : String} {sample : Sample}
    (read : Measurement.read kind item = .ok sample) : sample.kind = kind := by
  unfold Measurement.read at read
  split at read
  · obtain rfl := Except.ok.inj read
    cases kind <;> rfl
  · cases kind with
    | counter =>
      cases parsed : Measurement.integer? item <;> simp only [parsed] at read
      · cases read
      · obtain rfl := Except.ok.inj read
        rfl
    | value =>
      cases parsed : Measurement.size? item <;> simp only [parsed] at read
      · cases read
      · obtain rfl := Except.ok.inj read
        rfl
    | unique =>
      cases parsed : Measurement.integer? item <;> simp only [parsed] at read
      · cases read
      · obtain rfl := Except.ok.inj read
        rfl

/-! ## From dimensions to slots -/

/-- The dimension that a slot resolves to, unless it is not configured or disabled. -/
def resolvedIn (definition : Definition τ) (text : Slot → String) (slot : Slot) :
    Option ResolvedDimension :=
  match definition.dimensions slot with
  | some dimension =>
    if dimension.disabled then none
    else some { key := dimension.key, split := dimension.split, text := text slot }
  | none => none

/-- The text of the dimension of a slot. -/
def slotText (definition : Definition τ) (resolve : Resolver τ) (slot : Slot) : String :=
  match definition.dimensions slot with
  | some dimension => textOf resolve dimension.template
  | none => ""

/-- The dimensions in ascending order are the slots in ascending order. -/
theorem resolveDimensions_configured {resolved : List ResolvedDimension}
    (done : resolveDimensions resolve (definition.configured.map (·.2)) = .ok resolved) :
    (∀ slot dimension, definition.dimensions slot = some dimension → dimension.disabled = false →
      resolve dimension.template = .ok (definition.slotText resolve slot)) ∧
    resolved = Slot.all.filterMap (definition.resolvedIn (definition.slotText resolve)) := by
  obtain ⟨texts, rfl⟩ := resolveDimensions_eq_ok done
  constructor
  · intro slot dimension configured enabled
    have member : dimension ∈ definition.configured.map (·.2) := by
      refine List.mem_map.mpr ⟨(slot, dimension), ?_, rfl⟩
      refine List.mem_filterMap.mpr ⟨slot, List.mem_finRange slot, ?_⟩
      rw [configured, Option.map_some]
    rw [slotText, configured]
    exact texts dimension member enabled
  · rw [Definition.configured, List.map_filterMap, List.filterMap_filterMap]
    refine List.filterMap_congr fun slot _ => ?_
    unfold resolvedIn slotText
    cases definition.dimensions slot <;> rfl

/-- What a slot has for a column is the cell of its dimension. -/
theorem slotCell?_eq (definition : Definition τ) (text : Slot → String) (limit column : Nat)
    (slot : Slot) :
    definition.slotCell? text limit column slot =
      (definition.resolvedIn text slot).bind (·.cell? limit column) := by
  unfold slotCell? slotItems resolvedIn
  cases definition.dimensions slot with
  | none => rfl
  | some dimension =>
    obtain ⟨key, template, split, disabled⟩ := dimension
    cases disabled with
    | true => rfl
    | false =>
      cases split with
      | true =>
        by_cases empty : Compound.isEmptyValue (text slot) = true
        · simp [ResolvedDimension.cell?, ResolvedDimension.items, empty]
        · cases found : ((Compound.items (text slot)).take limit)[column]? <;>
            simp [ResolvedDimension.cell?, ResolvedDimension.items, empty, found]
      | false =>
        by_cases empty : Compound.isEmptyValue (text slot) = true <;>
          simp [ResolvedDimension.cell?, ResolvedDimension.whole?, empty]

theorem slotItems_length (definition : Definition τ) (text : Slot → String) (limit : Nat)
    (slot : Slot) :
    (definition.slotItems text limit slot).length =
      ((definition.resolvedIn text slot).map (·.width limit)).getD 0 := by
  unfold slotItems resolvedIn
  cases definition.dimensions slot with
  | none => rfl
  | some dimension =>
    obtain ⟨key, template, split, disabled⟩ := dimension
    cases disabled with
    | true => rfl
    | false =>
      cases split with
      | true =>
        by_cases empty : Compound.isEmptyValue (text slot) = true <;>
          simp [ResolvedDimension.width, ResolvedDimension.items, empty]
      | false => rfl

/-- Slots without a dimension need no columns. -/
theorem width_filterMap {α : Type} (dimension? : α → Option ResolvedDimension) (slots : List α)
    (start limit : Nat) :
    width start limit (slots.filterMap dimension?) =
      (slots.map fun slot => ((dimension? slot).map (·.width limit)).getD 0).foldl max start := by
  unfold width
  induction slots generalizing start with
  | nil => rfl
  | cons slot rest ih =>
    rw [List.filterMap_cons, List.map_cons, List.foldl_cons, ← ih]
    cases dimension? slot <;> simp

/-! ## The main statement -/

variable {raw : String} {samples : List Sample}

/-- The sample in a column of the matrix. -/
def sampleAt (samples : List Sample) (blank : Sample) (column : Nat) : Samples :=
  .ofSample (samples[column]?.getD blank)

theorem matrix_nil (name : String) (samples : List Sample) (blank : Sample) (limit : Nat) :
    matrix name (sampleAt samples blank) samples.length limit [] =
      samples.map (Event.ofSample name) := by
  apply List.ext_getElem?
  intro index
  rw [matrix_getElem?, List.getElem?_map]
  show (if index < samples.length then _ else none) = _
  split
  · rename_i inside
    rw [List.getElem?_eq_getElem inside, Option.map_some, column, sampleAt,
      List.getElem?_eq_getElem inside]
    rfl
  · rename_i outside
    rw [List.getElem?_eq_none (Nat.le_of_not_lt outside), Option.map_none]

/-- The sample of a made-up event. -/
def blankSample (definition : Definition τ) (first : Sample) : Sample :=
  if definition.value.split then .zero definition.kind else first

theorem fillerSamples_ofSample (definition : Definition τ) (first : Sample) :
    fillerSamples definition.value (.ofSample first) =
      .ofSample (definition.blankSample first) := by
  unfold fillerSamples blankSample
  split <;> rfl

/-- Past the conditions, the events are the matrix over the samples of the value. -/
theorem evaluate_eq_ok {events : List Event} (done : definition.evaluate resolve limit = .ok events)
    (passing : ∀ condition ∈ definition.conditions,
      resolve condition ≠ .ok "" ∧ resolve condition ≠ .ok "0") :
    ∃ raw resolved samples,
      resolve definition.value.template = .ok raw ∧
      resolveDimensions resolve (definition.configured.map (·.2)) = .ok resolved ∧
      readItems definition.kind (valueItems definition.value.split limit raw) = .ok samples ∧
      (samples = [] → events = []) ∧
      ∀ first others, samples = first :: others →
        events = addDimensions definition.name (.ofSample (definition.blankSample first)) limit []
          resolved (samples.map (Event.ofSample definition.name)) := by
  rw [evaluate] at done
  obtain ⟨holds, held, done⟩ := chain_eq_ok.mp done
  obtain rfl := conditionsHold_of_open (mapError_eq_ok.mp held) passing
  obtain ⟨raw, value, done⟩ := chain_eq_ok.mp done
  obtain ⟨resolved, dimensions, done⟩ := chain_eq_ok.mp done
  obtain ⟨samples, read, done⟩ := chain_eq_ok.mp done
  refine ⟨raw, resolved, samples, mapError_eq_ok.mp value, mapError_eq_ok.mp dimensions, read,
    ?_, ?_⟩
  · rintro rfl
    exact (Except.ok.inj done).symm
  · rintro first others rfl
    obtain rfl := Except.ok.inj done
    rw [← fillerSamples_ofSample]
    rfl

/-- Every column of the matrix has the sample of the closed form. -/
theorem columnSample_eq {first : Sample} {others : List Sample}
    (read : readItems definition.kind (valueItems definition.value.split limit raw) =
      .ok (first :: others)) (column : Nat) :
    definition.columnSample raw limit column =
      .ok ((first :: others)[column]?.getD (definition.blankSample first)) := by
  have items := readItems_eq_ok read
  unfold columnSample blankSample
  cases split : definition.value.split with
  | true =>
    rw [split, valueItems, if_pos rfl] at items
    have here := congrArg (·[column]?) items
    simp only [List.getElem?_map] at here
    rw [if_pos rfl, if_pos rfl]
    cases found : ((Compound.items raw).take limit)[column]? with
    | none =>
      rw [found] at here
      cases there : (first :: others)[column]? with
      | none => rfl
      | some sample => rw [there] at here; cases here
    | some item =>
      rw [found] at here
      cases there : (first :: others)[column]? with
      | none => rw [there] at here; cases here
      | some sample => rw [there] at here; exact Option.some.inj here
  | false =>
    rw [split, valueItems, if_neg Bool.false_ne_true] at items
    rw [if_neg Bool.false_ne_true, if_neg Bool.false_ne_true]
    split at items
    · cases items
    · cases limit with
      | zero => cases items
      | succ limit =>
        rw [List.take_succ_cons, List.take_nil, List.map_cons, List.map_cons] at items
        obtain ⟨whole, none⟩ := List.cons.inj items
        obtain rfl := List.map_eq_nil_iff.mp none.symm
        rw [whole]
        cases column <;> rfl

theorem columnSample_kind {column : Nat} {sample : Sample}
    (read : definition.columnSample raw limit column = .ok sample) :
    sample.kind = definition.kind := by
  unfold columnSample at read
  split at read
  · split at read
    · exact read_kind read
    · obtain rfl := Except.ok.inj read
      cases definition.kind <;> rfl
  · exact read_kind read

theorem valueItems_length_le (split : Bool) (limit : Nat) (raw : String) :
    (valueItems split limit raw).length ≤ limit := by
  unfold valueItems
  split
  · exact List.length_take_le ..
  · split
    · exact Nat.zero_le limit
    · exact List.length_take_le ..

theorem ofSample_kind (sample : Sample) : (Samples.ofSample sample).kind = sample.kind := by
  cases sample <;> rfl

theorem row_eq (definition : Definition τ) (text : Slot → String) (limit column : Nat) :
    (Slot.all.filterMap (definition.resolvedIn text)).filterMap (·.cell? limit column) =
      Slot.all.filterMap (definition.slotCell? text limit column) := by
  rw [List.filterMap_filterMap]
  exact List.filterMap_congr fun slot _ => (definition.slotCell?_eq text limit column slot).symm

/-- The matrix over the samples of the value is the closed form. -/
theorem matrix_closedForm {text : Slot → String} {first : Sample} {others : List Sample}
    (read : readItems definition.kind (valueItems definition.value.split limit raw) =
      .ok (first :: others)) :
    definition.ClosedForm raw text limit
      (matrix definition.name (sampleAt (first :: others) (definition.blankSample first))
        (first :: others).length limit (Slot.all.filterMap (definition.resolvedIn text))) := by
  have sizes : (valueItems definition.value.split limit raw).length = (first :: others).length := by
    have lengths := congrArg List.length (readItems_eq_ok read)
    rwa [List.length_map, List.length_map] at lengths
  have width : width (first :: others).length limit
      (Slot.all.filterMap (definition.resolvedIn text)) =
        definition.columnCount raw text limit := by
    rw [width_filterMap, columnCount, sizes]
    simp only [slotItems_length]
  constructor
  · intro values
    rw [values] at sizes
    cases sizes
  · intro _
    rw [matrix, List.length_map, List.length_range]
    exact ⟨width, width_le (sizes ▸ valueItems_length_le _ limit raw) _⟩
  · intro index inside
    have sample := columnSample_eq read index
    have event : (matrix definition.name (sampleAt (first :: others) (definition.blankSample first))
        (first :: others).length limit (Slot.all.filterMap (definition.resolvedIn text)))[index] =
        column definition.name (sampleAt (first :: others) (definition.blankSample first)) limit
          (Slot.all.filterMap (definition.resolvedIn text)) index := by
      simp [matrix]
    rw [event]
    refine ⟨?_, _, sample, ?_⟩
    · exact (ofSample_kind _).trans (columnSample_kind sample)
    · rw [column, row_eq]
      rfl

/-- **Compiling is the closed form.** When a definition is not rate limited, none of its conditions
declines and it compiles, the value and every enabled dimension resolve to some texts, and the
events are those of the closed form for these texts. -/
theorem compile_closedForm (definition : Definition τ) (resolve : Resolver τ) (limit now : Nat)
    (events : List Event) (unlimited : definition.isLimited now = false)
    (passing : ∀ condition ∈ definition.conditions,
      resolve condition ≠ .ok "" ∧ resolve condition ≠ .ok "0")
    (compiled : (definition.compile resolve limit now).2 = .ok events) :
    ∃ (raw : String) (text : Slot → String),
      resolve definition.value.template = .ok raw ∧
      (∀ slot dimension, definition.dimensions slot = some dimension → dimension.disabled = false →
        resolve dimension.template = .ok (text slot)) ∧
      definition.ClosedForm raw text limit events := by
  rw [compile, unlimited, if_neg Bool.false_ne_true] at compiled
  obtain ⟨raw, resolved, samples, value, dimensions, read, none, some⟩ :=
    evaluate_eq_ok compiled passing
  obtain ⟨texts, rfl⟩ := resolveDimensions_configured dimensions
  refine ⟨raw, definition.slotText resolve, value, texts, ?_⟩
  cases samples with
  | nil =>
    obtain rfl := none rfl
    have lengths := congrArg List.length (readItems_eq_ok read)
    rw [List.length_map, List.map_nil] at lengths
    refine ⟨fun _ => rfl, fun values => ?_, fun column inside => ?_⟩
    · exact absurd (List.length_eq_zero_iff.mp lengths) values
    · exact absurd inside (Nat.not_lt_zero column)
  | cons first others =>
    have room : ([] ++ Slot.all.filterMap
        (definition.resolvedIn (definition.slotText resolve))).length ≤ maxDimensions :=
      Nat.le_trans (List.length_filterMap_le _ _) (Nat.le_of_eq List.length_finRange)
    rw [some first others rfl, ← matrix_nil _ _ (definition.blankSample first) limit,
      addDimensions_matrix room, List.nil_append]
    · exact matrix_closedForm read
    · intro index beyond
      rw [sampleAt, List.getElem?_eq_none beyond, Option.getD_none]

/-- A definition whose texts are its templates: two items of a value, a whole dimension, a split one
with a label and a zero among its five items, and a disabled one. -/
def crawlDefinition : Definition String :=
  let valued := (Definition.new "crawl" .unique "7,8").splitValue.withCondition "1"
  let whole := valued.withDimension 0 "web" false
  let split := whole.withDimension 2 "all : a, 0, c, d, e" true
  (split.withDimension 5 "gone" false).setDisabled 5 true

/-- Its events, when no more than four are allowed. -/
def crawlEvents : List Event :=
  let host : Dimension := { key := "0", value := "web" }
  let page (value : String) : Dimension := { key := "2", value }
  [{ name := "crawl", samples := .unique [7], dimensions := [host, page "a"] },
    { name := "crawl", samples := .unique [8], dimensions := [host] },
    { name := "crawl", samples := .unique [0], dimensions := [host, page "c"] },
    { name := "crawl", samples := .unique [0], dimensions := [host, page "d"] }]

theorem crawl_closedForm :
    crawlDefinition.isLimited 0 = false ∧
      (∀ condition ∈ crawlDefinition.conditions,
        Except.ok condition ≠ (.ok "" : Except ResolveError String) ∧
          Except.ok condition ≠ (.ok "0" : Except ResolveError String)) ∧
      (crawlDefinition.compile .ok 4 0).2 = .ok crawlEvents ∧
      ∃ (raw : String) (text : Slot → String),
        Except.ok crawlDefinition.value.template = (.ok raw : Except ResolveError String) ∧
        (∀ slot dimension, crawlDefinition.dimensions slot = some dimension →
          dimension.disabled = false →
          Except.ok dimension.template = (.ok (text slot) : Except ResolveError String)) ∧
        crawlDefinition.ClosedForm raw text 4 crawlEvents := by
  have unlimited : crawlDefinition.isLimited 0 = false := by decide +kernel
  have passing : ∀ condition ∈ crawlDefinition.conditions,
      Except.ok condition ≠ (.ok "" : Except ResolveError String) ∧
        Except.ok condition ≠ (.ok "0" : Except ResolveError String) := by decide +kernel
  have compiled : (crawlDefinition.compile .ok 4 0).2 = .ok crawlEvents := by decide +kernel
  exact ⟨unlimited, passing, compiled,
    compile_closedForm crawlDefinition .ok 4 0 crawlEvents unlimited passing compiled⟩

end MetricPipeline.Definition
