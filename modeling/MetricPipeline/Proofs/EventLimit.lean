import MetricPipeline.Proofs.CompileOrder

/-!
What the limit on the number of events does.

The limit cuts the items of the value and those of every split dimension, each list on its own, so
under another limit events may be made up at other slots. But a column of the matrix has the same
sample and the same cells under every limit that it lies below. A lower limit therefore drops the
events from its place on, and the ones before stay as they are.
-/

namespace MetricPipeline

variable {fewer more : Nat}

/-! ## Columns under two limits -/

namespace ResolvedDimension

theorem items_of_le (resolved : ResolvedDimension) (lower : fewer ≤ more) :
    resolved.items fewer = (resolved.items more).take fewer := by
  unfold items
  split
  · rw [List.take_nil]
  · rw [List.take_take, Nat.min_eq_left lower]

theorem width_of_le (resolved : ResolvedDimension) (lower : fewer ≤ more) :
    resolved.width fewer = min fewer (resolved.width more) := by
  unfold width
  split
  · rw [resolved.items_of_le lower, List.length_take]
  · rw [Nat.min_zero]

/-- A column has the same cells under every limit that it lies below. -/
theorem cell?_of_le (resolved : ResolvedDimension) (lower : fewer ≤ more) {column : Nat}
    (inside : column < fewer) : resolved.cell? fewer column = resolved.cell? more column := by
  unfold cell?
  rw [resolved.items_of_le lower, List.getElem?_take_of_lt inside]

end ResolvedDimension

namespace Definition

variable {τ : Type}

theorem width_of_le (start : Nat) (lower : fewer ≤ more) (dimensions : List ResolvedDimension) :
    width (min fewer start) fewer dimensions = min fewer (width start more dimensions) := by
  unfold width
  induction dimensions generalizing start with
  | nil => rfl
  | cons resolved rest ih =>
    rw [List.map_cons, List.map_cons, List.foldl_cons, List.foldl_cons, resolved.width_of_le lower,
      ← min_max_distrib_left, ih]

/-- The columns below the lower limit make the matrix of that limit. -/
theorem matrix_of_le {cut samples : Nat → Samples} (name : String) (start : Nat)
    (lower : fewer ≤ more) (dimensions : List ResolvedDimension)
    (same : ∀ index < fewer, cut index = samples index) :
    matrix name cut (min fewer start) fewer dimensions =
      (matrix name samples start more dimensions).take fewer := by
  apply List.ext_getElem?
  intro index
  rw [matrix_getElem?, List.getElem?_take, matrix_getElem?, width_of_le start lower]
  by_cases inside : index < fewer
  · have cells : dimensions.filterMap (·.cell? fewer index) =
        dimensions.filterMap (·.cell? more index) :=
      List.filterMap_congr fun resolved _ => resolved.cell?_of_le lower inside
    simp only [lt_min_iff, inside, true_and, if_true, column, cells, same index inside]
  · simp only [lt_min_iff, inside, false_and, if_false]

/-! ## Evaluations under two limits -/

variable {definition : Definition τ} {resolve : Resolver τ}

theorem valueItems_of_le (split : Bool) (raw : String) (lower : fewer ≤ more) :
    valueItems split fewer raw = (valueItems split more raw).take fewer := by
  unfold valueItems
  split
  · rw [List.take_take, Nat.min_eq_left lower]
  · split
    · rw [List.take_nil]
    · rw [List.take_take, Nat.min_eq_left lower]

/-- Fewer of the items are read as fewer of the samples. -/
theorem readItems_take {kind : Kind} {items : List String} {samples : List Sample}
    (read : readItems kind items = .ok samples) (count : Nat) :
    readItems kind (items.take count) = .ok (samples.take count) := by
  induction items generalizing samples count with
  | nil =>
    obtain rfl := Except.ok.inj read
    simp [readItems]
  | cons item rest ih =>
    rw [readItems] at read
    obtain ⟨sample, here, read⟩ := chain_eq_ok.mp read
    obtain ⟨others, there, last⟩ := chain_eq_ok.mp read
    obtain rfl := Except.ok.inj last
    cases count with
    | zero => rfl
    | succ count =>
      rw [List.take_succ_cons, List.take_succ_cons, readItems, chain_of_ok here,
        chain_of_ok (ih there count)]
      rfl

/-- The events over the samples of the value: none without samples, and else their matrix. -/
def eventsOver (definition : Definition τ) (resolved : List ResolvedDimension) (limit : Nat) :
    List Sample → List Event
  | [] => []
  | first :: others =>
    matrix definition.name (sampleAt (first :: others) (definition.blankSample first))
      (first :: others).length limit resolved

/-- An event has room for all dimensions of a definition. -/
theorem resolved_length_le {resolved : List ResolvedDimension}
    (done : resolveDimensions resolve (definition.configured.map (·.2)) = .ok resolved) :
    resolved.length ≤ maxDimensions := by
  obtain ⟨-, rfl⟩ := resolveDimensions_configured done
  exact Nat.le_trans (List.length_filterMap_le _ _) (Nat.le_of_eq List.length_finRange)

theorem evaluate_of_read {limit : Nat} {raw : String} {resolved : List ResolvedDimension}
    {samples : List Sample}
    (holds : conditionsHold resolve definition.conditions = .ok true)
    (value : resolve definition.value.template = .ok raw)
    (dimensions : resolveDimensions resolve (definition.configured.map (·.2)) = .ok resolved)
    (read : readItems definition.kind (valueItems definition.value.split limit raw) =
      .ok samples) :
    definition.evaluate resolve limit = .ok (definition.eventsOver resolved limit samples) := by
  rw [evaluate_of_resolved holds value dimensions, chain_of_ok read]
  cases samples with
  | nil => rfl
  | cons first others =>
    let blank := definition.blankSample first
    have filled : addDimensions definition.name (.ofSample blank) limit [] resolved
        (matrix definition.name (sampleAt (first :: others) blank) (first :: others).length limit
          []) = definition.eventsOver resolved limit (first :: others) :=
      addDimensions_matrix (resolved_length_le dimensions) fun index beyond => by
        rw [sampleAt, List.getElem?_eq_none beyond, Option.getD_none]
    rw [matrix_nil, ← fillerSamples_ofSample] at filled
    exact congrArg Except.ok filled

/-- An evaluation that succeeds was declined by a condition or gives the events over its samples. -/
theorem exists_of_evaluate {limit : Nat} {events : List Event}
    (done : definition.evaluate resolve limit = .ok events) :
    (conditionsHold resolve definition.conditions = .ok false ∧ events = []) ∨
    ∃ raw resolved samples,
      conditionsHold resolve definition.conditions = .ok true ∧
      resolve definition.value.template = .ok raw ∧
      resolveDimensions resolve (definition.configured.map (·.2)) = .ok resolved ∧
      readItems definition.kind (valueItems definition.value.split limit raw) = .ok samples ∧
      events = definition.eventsOver resolved limit samples := by
  have whole := done
  rw [evaluate] at done
  obtain ⟨holds, held, done⟩ := chain_eq_ok.mp done
  have held := mapError_eq_ok.mp held
  cases holds with
  | false => exact .inl ⟨held, (Except.ok.inj done).symm⟩
  | true =>
    obtain ⟨raw, value, done⟩ := chain_eq_ok.mp done
    obtain ⟨resolved, dimensions, done⟩ := chain_eq_ok.mp done
    obtain ⟨samples, read, -⟩ := chain_eq_ok.mp done
    have value := mapError_eq_ok.mp value
    have dimensions := mapError_eq_ok.mp dimensions
    have gives := evaluate_of_read held value dimensions read
    exact .inr ⟨raw, resolved, samples, held, value, dimensions, read,
      Except.ok.inj (whole.symm.trans gives)⟩

/-- Over fewer samples, and with fewer events allowed, there are the first of the events. -/
theorem eventsOver_of_le (definition : Definition τ) (resolved : List ResolvedDimension)
    (lower : fewer ≤ more) (samples : List Sample) :
    definition.eventsOver resolved fewer (samples.take fewer) =
      (definition.eventsOver resolved more samples).take fewer := by
  cases samples with
  | nil => simp [eventsOver]
  | cons first others =>
    cases fewer with
    | zero => rfl
    | succ fewer =>
      -- The first sample is kept, so made-up events stay as they are.
      have size : (first :: others.take fewer).length = min (fewer + 1) (first :: others).length :=
        List.length_take (l := first :: others) (i := fewer + 1)
      rw [List.take_succ_cons, eventsOver, eventsOver, size]
      refine matrix_of_le definition.name _ lower resolved fun index inside => ?_
      rw [sampleAt, sampleAt, ← List.take_succ_cons, List.getElem?_take_of_lt inside]

theorem evaluate_of_le {events : List Event} (lower : fewer ≤ more)
    (done : definition.evaluate resolve more = .ok events) :
    definition.evaluate resolve fewer = .ok (events.take fewer) := by
  rcases exists_of_evaluate done with ⟨declined, rfl⟩ |
    ⟨raw, resolved, samples, holds, value, dimensions, read, rfl⟩
  · rw [evaluate, declined, List.take_nil]
    rfl
  · have cut := readItems_take read fewer
    rw [← valueItems_of_le _ _ lower] at cut
    rw [evaluate_of_read holds value dimensions cut, eventsOver_of_le definition resolved lower]

/-- **The limit only cuts events off.** When a definition compiles, it also compiles under any lower
limit: it gives the first of the same events, as many as the lower limit allows or all of them, each
with the same samples and dimensions, and leaves the definition in the same state. -/
theorem compile_of_lower_limit (definition : Definition τ) (resolve : Resolver τ) (now : Nat)
    {fewer more : Nat} (lower : fewer ≤ more) {events : List Event}
    (compiled : (definition.compile resolve more now).2 = .ok events) :
    definition.compile resolve fewer now =
      ((definition.compile resolve more now).1, .ok (events.take (min fewer events.length))) := by
  rw [← List.take_eq_take_min]
  cases limited : definition.isLimited now with
  | true =>
    rw [compile, if_pos limited] at compiled
    obtain rfl := Except.ok.inj compiled
    rw [compile, compile, if_pos limited, if_pos limited, List.take_nil]
  | false =>
    rw [compile, limited, if_neg Bool.false_ne_true] at compiled
    rw [compile, compile, limited, if_neg Bool.false_ne_true, if_neg Bool.false_ne_true,
      evaluate_of_le lower compiled]

/-- One event less than `crawlEvents`: the one with the fourth item of the page is gone. -/
theorem crawl_of_lower_limit :
    3 ≤ 4 ∧ (crawlDefinition.compile .ok 4 0).2 = .ok crawlEvents ∧
      crawlDefinition.compile .ok 3 0 =
        ((crawlDefinition.compile .ok 4 0).1,
          .ok (crawlEvents.take (min 3 crawlEvents.length))) ∧
      (crawlEvents.take (min 3 crawlEvents.length)).length = 3 := by
  have compiled : (crawlDefinition.compile .ok 4 0).2 = .ok crawlEvents := by decide +kernel
  exact ⟨by decide, compiled, compile_of_lower_limit crawlDefinition .ok 0 (by decide) compiled,
    by decide⟩

end Definition

end MetricPipeline
