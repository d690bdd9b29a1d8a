import MetricPipeline.Compile

/-!
How a rate limit spaces the calls of a definition.

A definition notes the time of every call that gets past its limit, whatever comes of the call
afterwards. A clock may go back, but the noted time never does, since a call that comes before it is
refused. So the noted time is always that of the latest call that got past the limit, it alone decides
about the next one, and any two calls that get past are at least the least interval apart.
-/

namespace MetricPipeline.Definition

variable {τ : Type}

/-! ## Calls one after another -/

/-- What a definition is called with. -/
structure Call (τ : Type) where
  /-- How templates are resolved against the request. -/
  resolve : Resolver τ
  /-- How many events are allowed. -/
  limit : Nat
  /-- When the call is made. -/
  now : Nat

/-- A call and the definition as it finds it. -/
structure Visit (τ : Type) where
  /-- What earlier calls have left. -/
  definition : Definition τ
  /-- The call. -/
  call : Call τ

namespace Visit

/-- What the call leaves and what it gives. -/
def result (visit : Visit τ) : Definition τ × Except CompileError (List Event) :=
  visit.definition.compile visit.call.resolve visit.call.limit visit.call.now

/-- Whether the rate limit refuses the call. -/
def isLimited (visit : Visit τ) : Bool := visit.definition.isLimited visit.call.now

/-- The call gives at least one event. -/
def GivesEvents (visit : Visit τ) : Prop := ∃ events, visit.result.2 = .ok events ∧ events ≠ []

end Visit

/-- A run of calls, each made to what the one before it has left. -/
def visits (definition : Definition τ) : List (Call τ) → List (Visit τ)
  | [] => []
  | call :: rest =>
    ⟨definition, call⟩ :: visits (Visit.result ⟨definition, call⟩).1 rest

theorem visits_cons (definition : Definition τ) (call : Call τ) (rest : List (Call τ)) :
    definition.visits (call :: rest) =
      ⟨definition, call⟩ :: (Visit.result ⟨definition, call⟩).1.visits rest := rfl

/-- The latest of some calls that got past the limit. -/
def latestPast (visits : List (Visit τ)) : Option (Visit τ) :=
  (visits.filter (!·.isLimited)).getLast?

/-! ## One call -/

variable {definition : Definition τ} {visit : Visit τ}

/-- The limit refuses a call at any time before the end of the interval, also before its start. -/
theorem isLimited_iff (limits : 0 < definition.minInterval) (now : Nat) :
    definition.isLimited now = true ↔
      ∃ last, definition.lastEmission = some last ∧ now < last + definition.minInterval := by
  unfold isLimited
  cases definition.lastEmission with
  | none => simp
  | some last =>
    simp only [ne_eq, decide_eq_true_eq, Option.some.injEq, exists_eq_left']
    omega

namespace Visit

theorem result_of_limited (limited : visit.isLimited = true) :
    visit.result = (visit.definition, .ok []) := by
  have limited : visit.definition.isLimited visit.call.now = true := limited
  rw [result, compile, if_pos limited]

theorem result_of_past (limits : 0 < visit.definition.minInterval)
    (past : visit.isLimited = false) :
    visit.result = ({ visit.definition with lastEmission := some visit.call.now },
      visit.definition.evaluate visit.call.resolve visit.call.limit) := by
  have past : visit.definition.isLimited visit.call.now = false := past
  rw [result, compile, past, if_neg Bool.false_ne_true, passLimit, if_neg (Nat.ne_of_gt limits)]

theorem lastEmission_of_past (limits : 0 < visit.definition.minInterval)
    (past : visit.isLimited = false) : visit.result.1.lastEmission = some visit.call.now := by
  rw [result_of_past limits past]

theorem past_of_givesEvents (gives : visit.GivesEvents) : visit.isLimited = false := by
  obtain ⟨events, given, some⟩ := gives
  cases limited : visit.isLimited with
  | false => rfl
  | true =>
    rw [result_of_limited limited] at given
    exact absurd (Except.ok.inj given).symm some

/-- No call changes the least interval. -/
theorem minInterval_result (visit : Visit τ) :
    visit.result.1.minInterval = visit.definition.minInterval := by
  unfold result compile passLimit
  split
  · rfl
  · split <;> rfl

end Visit

/-! ## A run of calls -/

theorem minInterval_visits (calls : List (Call τ)) :
    ∀ visit ∈ definition.visits calls,
      visit.definition.minInterval = definition.minInterval := by
  induction calls generalizing definition with
  | nil => nofun
  | cons call rest ih =>
    rw [visits_cons, List.forall_mem_cons]
    refine ⟨rfl, fun later member => ?_⟩
    rw [ih later member, Visit.minInterval_result]

/-- Calls past the limit come at least the interval after the time that is noted before them. -/
theorem visits_after_mark {last : Nat} (limits : 0 < definition.minInterval)
    (noted : definition.lastEmission = some last) (calls : List (Call τ)) :
    ∀ visit ∈ definition.visits calls, visit.isLimited = false →
      last + definition.minInterval ≤ visit.call.now := by
  induction calls generalizing definition last with
  | nil => nofun
  | cons call rest ih =>
    rw [visits_cons, List.forall_mem_cons]
    have same := Visit.minInterval_result ⟨definition, call⟩
    cases here : Visit.isLimited ⟨definition, call⟩ with
    | true =>
      rw [Visit.result_of_limited here]
      exact ⟨nofun, ih limits noted⟩
    | false =>
      have spaced : last + definition.minInterval ≤ call.now := by
        have unlimited := mt (isLimited_iff limits call.now).mpr (Bool.eq_false_iff.mp here)
        exact Nat.le_of_not_lt fun early => unlimited ⟨last, noted, early⟩
      -- The mark moves forward here, so what holds of the calls after the new mark holds after the old.
      have moved := Visit.lastEmission_of_past limits here
      refine ⟨fun _ => spaced, fun later member past => ?_⟩
      have afterwards := ih (same ▸ limits) moved later member past
      rw [same] at afterwards
      exact Nat.le_trans (Nat.add_le_add_right (Nat.le_of_add_right_le spaced) _) afterwards

/-- Any two calls of a run that get past the limit are at least the interval apart. -/
theorem visits_pairwise (limits : 0 < definition.minInterval) (calls : List (Call τ)) :
    (definition.visits calls).Pairwise fun earlier later =>
      earlier.isLimited = false → later.isLimited = false →
        earlier.call.now + definition.minInterval ≤ later.call.now := by
  induction calls generalizing definition with
  | nil => exact .nil
  | cons call rest ih =>
    rw [visits_cons]
    have same := Visit.minInterval_result ⟨definition, call⟩
    have others := ih (same ▸ limits)
    rw [same] at others
    refine .cons (fun later member here past => ?_) others
    have apart := visits_after_mark (same ▸ limits) (Visit.lastEmission_of_past limits here) rest
    rw [same] at apart
    exact apart later member past

theorem latestPast_cons_of_limited (limited : visit.isLimited = true) (rest : List (Visit τ)) :
    latestPast (visit :: rest) = latestPast rest := by
  rw [latestPast, List.filter_cons_of_neg (by simp [limited]), latestPast]

theorem latestPast_cons_of_past (past : visit.isLimited = false) (rest : List (Visit τ)) :
    latestPast (visit :: rest) = some ((latestPast rest).getD visit) := by
  rw [latestPast, List.filter_cons_of_pos (by simp [past]), List.getLast?_cons, latestPast]

/-- The time that a call finds noted is that of the latest call past the limit, or the one that the
run began with. -/
theorem lastEmission_visits (limits : 0 < definition.minInterval) {calls : List (Call τ)}
    {before after : List (Visit τ)} (run : definition.visits calls = before ++ visit :: after) :
    visit.definition.lastEmission =
      match latestPast before with
      | some latest => some latest.call.now
      | none => definition.lastEmission := by
  induction before generalizing definition calls with
  | nil =>
    cases calls with
    | nil => cases run
    | cons call rest =>
      obtain ⟨rfl, -⟩ := List.cons.inj run
      rfl
  | cons first before ih =>
    cases calls with
    | nil => cases run
    | cons call rest =>
      obtain ⟨rfl, later⟩ := List.cons.inj run
      -- The rest of the run starts from what the first call has left.
      rw [ih (Visit.minInterval_result ⟨definition, call⟩ ▸ limits) later]
      cases here : Visit.isLimited ⟨definition, call⟩ with
      | true => rw [latestPast_cons_of_limited here, Visit.result_of_limited here]
      | false =>
        rw [latestPast_cons_of_past here, Visit.lastEmission_of_past limits here]
        cases latestPast before <;> rfl

/-- **A rate limit spaces the calls of a run.** The times of the calls that get past it increase, and
any two of them, in particular any two that give events, are at least the least interval apart. A call
is refused exactly when an earlier one got past the limit and the latest such call is less than the
interval ago or still to come. A refused call gives and changes nothing; any other is evaluated, and
its time is noted whatever comes of it. -/
theorem visits_spaced (definition : Definition τ) (calls : List (Call τ))
    (limits : 0 < definition.minInterval) (fresh : definition.lastEmission = none) :
    (definition.visits calls).Pairwise (fun earlier later =>
      earlier.isLimited = false → later.isLimited = false →
        earlier.call.now < later.call.now ∧
          earlier.call.now + definition.minInterval ≤ later.call.now) ∧
    (definition.visits calls).Pairwise (fun earlier later =>
      earlier.GivesEvents → later.GivesEvents →
        earlier.call.now + definition.minInterval ≤ later.call.now) ∧
    (∀ before visit after, definition.visits calls = before ++ visit :: after →
      (visit.isLimited = true ↔
        ∃ latest, latestPast before = some latest ∧
          visit.call.now < latest.call.now + definition.minInterval)) ∧
    ∀ visit ∈ definition.visits calls,
      visit.result =
        if visit.isLimited then (visit.definition, .ok [])
        else ({ visit.definition with lastEmission := some visit.call.now },
          visit.definition.evaluate visit.call.resolve visit.call.limit) := by
  have spaced := visits_pairwise limits calls
  refine ⟨?_, ?_, ?_, ?_⟩
  · refine spaced.imp fun {earlier later} apart first second => ?_
    have apart := apart first second
    exact ⟨by omega, apart⟩
  · exact spaced.imp fun apart first second =>
      apart (Visit.past_of_givesEvents first) (Visit.past_of_givesEvents second)
  · intro before visit after run
    have member : visit ∈ definition.visits calls := by
      rw [run]
      exact List.mem_append_right _ List.mem_cons_self
    have interval := minInterval_visits calls visit member
    rw [Visit.isLimited, isLimited_iff (interval ▸ limits), lastEmission_visits limits run, interval]
    cases latestPast before with
    | none => simp [fresh]
    | some latest => simp
  · intro visit member
    have interval := minInterval_visits calls visit member
    split
    · rename_i limited
      exact Visit.result_of_limited limited
    · rename_i past
      exact Visit.result_of_past (interval ▸ limits) (Bool.eq_false_iff.mpr past)

/-- A definition with a least interval of ten, which nothing has got past yet. -/
def pollDefinition : Definition String :=
  { Definition.new "polls" .counter "1" with minInterval := 10 }

/-- Calls on a clock that goes back once; the one at fifteen gets past the limit and fails. -/
def pollCalls : List (Call String) :=
  [⟨.ok, 4, 5⟩, ⟨.ok, 4, 3⟩, ⟨.ok, 4, 14⟩, ⟨fun name => .error (.unknownVariable name), 4, 15⟩,
    ⟨.ok, 4, 24⟩, ⟨.ok, 4, 25⟩]

theorem poll_spaced :
    0 < pollDefinition.minInterval ∧ pollDefinition.lastEmission = none ∧
      (pollDefinition.visits pollCalls).map (fun visit => (visit.call.now, visit.isLimited)) =
        [(5, false), (3, true), (14, true), (15, false), (24, true), (25, false)] ∧
      (pollDefinition.visits pollCalls).Pairwise (fun earlier later =>
        earlier.isLimited = false → later.isLimited = false →
          earlier.call.now < later.call.now ∧ earlier.call.now + 10 ≤ later.call.now) ∧
      ∀ before visit after, pollDefinition.visits pollCalls = before ++ visit :: after →
        (visit.isLimited = true ↔
          ∃ latest, latestPast before = some latest ∧
            visit.call.now < latest.call.now + 10) := by
  have limits : 0 < pollDefinition.minInterval := by decide
  obtain ⟨spaced, -, refused, -⟩ := visits_spaced pollDefinition pollCalls limits rfl
  exact ⟨limits, rfl, by decide +kernel, spaced, refused⟩

end MetricPipeline.Definition
