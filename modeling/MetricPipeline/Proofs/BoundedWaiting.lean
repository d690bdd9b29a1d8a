import Mathlib.Algebra.Order.BigOperators.Group.List
import Mathlib.Algebra.Order.Group.Nat
import Mathlib.Data.List.Induction
import MetricPipeline.Proofs.BufferHistory
import MetricPipeline.Proofs.EndpointDelivery
import MetricPipeline.Proofs.ServedTimers

/-!
Nothing waits for long.

A timer that is armed stays as it is, so it may be left over from work that is gone, and a flush that
fails arms it for later. Neither makes it late: while the clock does not go back, an armed timer is due
at the latest one interval after any record that was not tried yet came, or any entry that is still
there. Once it was served it is due later, so what is overdue by then is not waiting any more.
-/

namespace MetricPipeline

open Wire (recordBytes)

/-! ## Caches -/

namespace Cache

variable {cache next : Cache} {clock now : Nat}

/-- What an operation of an open endpoint does with the cache. -/
inductive Changes (now : Nat) (cache : Cache) : Cache → Prop where
  | offered {next : Cache} (offered : Offered now cache next) : Changes now cache next
  | served : Changes now cache (cache.onTimer now).1

theorem Changes.refl (now : Nat) (cache : Cache) : Changes now cache cache :=
  .offered (.thinned (Thins.refl cache))

theorem Changes.ages (changes : Changes now cache next) : Ages now cache next := by
  cases changes with
  | offered offered => exact offered.ages
  | served => exact ages_onTimer cache now

theorem Changes.punctual (changes : Changes now cache next) (later : clock ≤ now)
    (punctual : Punctual clock cache) : Punctual now next := by
  cases changes with
  | offered offered => exact punctual.offered later offered
  | served => exact punctual.onTimer later

end Cache

/-! ## Transports -/

namespace Transport

variable {network : Network} {clock now : Nat} {log past : List Happening}
  {transport last : Transport}

/-- The history accounts for the transport, and the timer, if it is armed, is due before any record
that was not tried yet has waited for longer than the interval. -/
structure OnTime (clock : Nat) (log : List Happening) (transport : Transport) : Prop where
  explained : Explained log transport.attempts transport.buffer
  early : ∀ {due event time}, transport.timer.time = some due → Untried log event time →
    due ≤ time + transport.interval
  soon : ∀ {due}, transport.timer.time = some due → due ≤ clock + transport.interval

/-- Besides, the timer is armed while bytes wait. -/
structure Punctual (clock : Nat) (log : List Happening) (transport : Transport) : Prop
    extends OnTime clock log transport where
  armed : transport.timer.time = none → transport.buffer = []

theorem Punctual.later (punctual : Punctual clock log transport) (later : clock ≤ now) :
    Punctual now log transport := by
  refine ⟨⟨punctual.explained, punctual.early, ?_⟩, punctual.armed⟩
  intro due armed
  exact Nat.le_trans (punctual.soon armed) (Nat.add_le_add_right later _)

theorem flush_interval (transport : Transport) (network : Network) (exiting : Bool) :
    (transport.flush network exiting).1.interval = transport.interval := by
  obtain ⟨buffer, isConnected, attempts, flushed⟩ := transport.flush_eq network exiting
  rw [flushed]

theorem flush_empty (empty : transport.buffer = []) (network : Network) (exiting : Bool) :
    transport.flush network exiting = (transport, .empty) := by
  rw [flush, if_pos empty]

theorem OnTime.flush (onTime : OnTime clock log transport) (network : Network) :
    OnTime clock (log ++ transport.flushHistory) (transport.flush network false).1 := by
  refine ⟨explained_flush network onTime.explained, ?_, ?_⟩
  · intro due event time _ untried
    exact absurd untried (not_untried_flush onTime.explained)
  · intro due armed
    rw [flush_timer] at armed
    rw [flush_interval]
    exact onTime.soon armed

theorem Punctual.flush (punctual : Punctual clock log transport) (network : Network) :
    Punctual clock (log ++ transport.flushHistory) (transport.flush network false).1 := by
  refine ⟨punctual.toOnTime.flush network, ?_⟩
  intro unarmed
  rw [flush_timer] at unarmed
  have empty := punctual.armed unarmed
  rw [flush_empty empty]
  exact empty

theorem OnTime.cancelTimer (onTime : OnTime clock log transport) :
    OnTime clock log transport.cancelTimer := ⟨onTime.explained, nofun, nofun⟩

theorem OnTime.append (onTime : OnTime now log transport) (event : Event) :
    OnTime now (log ++ [.put event now]) (transport.append event) := by
  refine ⟨onTime.explained.put event now, ?_, onTime.soon⟩
  intro due other time armed untried
  rcases untried.of_put with ⟨rfl, rfl⟩ | before
  · exact onTime.soon armed
  · exact onTime.early armed before

/-- Arming is late for nothing if only records of this time were not tried while it was unarmed. -/
theorem OnTime.armTimer (onTime : OnTime now log transport) (positive : 0 < transport.interval)
    (recent : transport.timer.time = none → ∀ {event time}, Untried log event time → now ≤ time) :
    Punctual now log (transport.armTimer now false) := by
  by_cases empty : transport.buffer = []
  · have same : transport.armTimer now false = transport := if_pos (.inr (.inl empty))
    rw [same]
    exact ⟨onTime, fun _ => empty⟩
  · have armed : transport.armTimer now false =
        { transport with timer := transport.timer.arm (now + transport.interval) } :=
      if_neg (by simp [Nat.ne_of_gt positive, empty])
    have due := transport.timer.arm_time (now + transport.interval)
    rw [armed]
    refine ⟨⟨onTime.explained, ?_, ?_⟩, fun unarmed => nomatch due.symm.trans unarmed⟩
    · intro set event time found untried
      obtain rfl := Option.some.inj (due.symm.trans found)
      cases before : transport.timer.time with
      | none => exact Nat.add_le_add_right (recent before untried) _
      | some earlier => exact onTime.early before untried
    · intro set found
      obtain rfl := Option.some.inj (due.symm.trans found)
      cases before : transport.timer.time with
      | none => exact Nat.le_refl _
      | some earlier => exact onTime.soon before

theorem Punctual.put (punctual : Punctual now log transport) (positive : 0 < transport.interval)
    (event : Event) :
    Punctual now (log ++ [.put event now]) ((transport.append event).armTimer now false) := by
  refine (punctual.toOnTime.append event).armTimer positive ?_
  -- where the timer was not armed the buffer was empty, so only the new record is not tried
  intro unarmed other time untried
  rcases untried.of_put with ⟨rfl, rfl⟩ | before
  · exact Nat.le_refl _
  · have waits := punctual.explained.waits before
    rw [punctual.armed unarmed, List.infix_nil] at waits
    exact absurd waits (Wire.recordBytes_ne_nil other)

theorem Punctual.serve (punctual : Punctual now log transport) (positive : 0 < transport.interval)
    (network : Network) :
    Punctual now (log ++ transport.flushHistory)
      ((transport.cancelTimer.flush network false).1.armTimer now false) := by
  have cancelled := punctual.toOnTime.cancelTimer
  -- the timer is armed anew, but the flush has left no record that was not tried
  refine (cancelled.flush network).armTimer ?_ ?_
  · rw [flush_interval]
    exact positive
  · intro _ event time untried
    exact absurd untried (not_untried_flush cancelled.explained)

theorem Steps.interval (steps : Steps network now transport log last) :
    last.interval = transport.interval := by
  induction steps with
  | refl => rfl
  | @flush _ last steps ih => exact (flush_interval last network false).trans ih
  | @put _ last event steps ih =>
    obtain ⟨timer, armed⟩ := armTimer_eq (last.append event) now false
    rw [armed]
    exact ih
  | drop event steps ih => exact ih
  | @serve _ last steps ih =>
    obtain ⟨timer, armed⟩ := armTimer_eq (last.cancelTimer.flush network false).1 now false
    rw [armed]
    exact (flush_interval last.cancelTimer network false).trans ih

/-- Whatever is done, the timer goes on being punctual. -/
theorem Steps.punctual (steps : Steps network now transport log last)
    (positive : 0 < transport.interval) (punctual : Punctual now past transport) :
    Punctual now (past ++ log) last := by
  induction steps with
  | refl =>
    rw [List.append_nil]
    exact punctual
  | flush steps ih =>
    rw [← List.append_assoc]
    exact ih.flush network
  | put event steps ih =>
    rw [← List.append_assoc]
    exact ih.put (steps.interval ▸ positive) event
  | drop event steps ih => exact ⟨⟨ih.explained, ih.early, ih.soon⟩, ih.armed⟩
  | serve steps ih =>
    rw [← List.append_assoc]
    exact ih.serve (steps.interval ▸ positive) network

/-- While the timer waits every record that is overdue has been tried. -/
theorem Punctual.tried_of_waiting (punctual : Punctual clock log transport)
    (waits : ∀ due, transport.deadline = some due → now < due) {earlier later : List Happening}
    {event : Event} {time : Nat} (split : log = earlier ++ .put event time :: later)
    (overdue : time + transport.interval ≤ now) :
    ∃ bytes, .attempt bytes ∈ later ∧ recordBytes event <:+: bytes := by
  rcases punctual.explained.tried split with tried | none
  · exact tried
  · have untried : Untried log event time := ⟨earlier, later, split, none⟩
    cases armed : transport.timer.time with
    | none =>
      have pending := punctual.explained.waits untried
      rw [punctual.armed armed, List.infix_nil] at pending
      exact absurd pending (Wire.recordBytes_ne_nil event)
    | some due =>
      have late := waits due armed
      have early := punctual.early armed untried
      omega

end Transport

/-! ## Endpoints -/

namespace Endpoint

variable {network : Network} {clock now number time period : Nat} {log : List Happening}
  {ledger : Ledger} {operation : Operation}

/-- When the entry of a number came, if it is there. -/
def arrival? (endpoint : Endpoint) (number : Nat) : Option Nat :=
  endpoint.cache.bind (·.arrival? number)

theorem step_isExiting (ledger : Ledger) (keepsOpen : operation.KeepsOpen) :
    (ledger.step network operation).endpoint.isExiting = ledger.endpoint.isExiting := by
  cases operation with
  | send event time =>
    show (ledger.endpoint.send network event time).1.isExiting = _
    unfold send
    split
    · rfl
    · dsimp only
      split
      · rfl
      · rfl
      · rfl
  | flush => rfl
  | flushAfterRequest =>
    show (ledger.endpoint.flushAfterRequest network).1.isExiting = _
    unfold flushAfterRequest
    split
    · rfl
    · rfl
  | onTimer time => rfl
  | shutdown time => exact keepsOpen.elim

theorem step_changes (keepsOpen : operation.KeepsOpen) (timely : operation.time?.getD now = now)
    {next : Cache} (here : (ledger.step network operation).endpoint.cache = some next) :
    ∃ cache, ledger.endpoint.cache = some cache ∧ cache.Changes now next := by
  cases operation with
  | send event time =>
    obtain rfl : time = now := timely
    change (ledger.endpoint.send network event time).1.cache = some next at here
    rw [send_cache] at here
    obtain ⟨cache, before, rfl⟩ := exists_of_shed here
    exact ⟨cache, before, .offered (cache.offered_ingest event time _)⟩
  | flush => exact ⟨next, here, .refl now next⟩
  | flushAfterRequest =>
    change (ledger.endpoint.flushAfterRequest network).1.cache = some next at here
    unfold flushAfterRequest at here
    split at here
    · exact ⟨next, here, .refl now next⟩
    · exact ⟨next, here, .refl now next⟩
  | onTimer time =>
    obtain rfl : time = now := timely
    obtain ⟨cache, before, rfl⟩ := exists_of_shed here
    exact ⟨cache, before, .served⟩
  | shutdown time => exact keepsOpen.elim

/-- Both timers of an open endpoint are punctual, and the history accounts for its transport. -/
structure Punctual (period clock : Nat) (log : List Happening) (endpoint : Endpoint) : Prop where
  isOpen : endpoint.isExiting = false
  interval : endpoint.transport.interval = period
  explained : Explained log endpoint.transport.attempts endpoint.transport.buffer
  transport : 0 < period → endpoint.transport.Punctual clock log
  window : ∀ {cache}, endpoint.cache = some cache → cache.window = period
  cache : ∀ {cache}, endpoint.cache = some cache → cache.Punctual clock

theorem punctual_new {config : ResolvedEndpoint} {endpoint : Endpoint}
    (created : Endpoint.create config = .ok endpoint) (clock : Nat) :
    Punctual config.flushInterval clock [] endpoint := by
  obtain ⟨made, found, rfl⟩ := create_eq_ok created
  have fresh : ∀ {cache}, made = some cache →
      cache = Cache.empty config.aggregateSize config.flushInterval config.aggregateValues := by
    intro cache here
    obtain rfl := here
    unfold cacheOf at found
    split at found
    · cases found
    · split at found
      · cases found
      · exact (Option.some.inj (Except.ok.inj found)).symm
  refine ⟨rfl, rfl, .nil, fun _ => ⟨⟨.nil, nofun, nofun⟩, fun _ => rfl⟩, ?_, ?_⟩
  · intro cache here
    rw [fresh here]
    rfl
  · intro cache here
    rw [fresh here]
    exact Cache.punctual_empty _ _ _ clock

theorem Punctual.later {endpoint : Endpoint} (punctual : Punctual period clock log endpoint)
    (later : clock ≤ now) : Punctual period now log endpoint :=
  ⟨punctual.isOpen, punctual.interval, punctual.explained,
    fun positive => (punctual.transport positive).later later, punctual.window,
    fun here => (punctual.cache here).thins later (Cache.Thins.refl _)⟩

theorem Punctual.step (punctual : Punctual period now log ledger.endpoint)
    (keepsOpen : operation.KeepsOpen) (timely : operation.time?.getD now = now)
    (network : Network) :
    Punctual period now (log ++ ledger.endpoint.history network operation)
      (ledger.step network operation).endpoint := by
  have steps : Transport.Steps network now _ _ _ := steps_step punctual.isOpen keepsOpen timely
  refine ⟨?_, steps.interval.trans punctual.interval, steps.explained punctual.explained, ?_, ?_, ?_⟩
  · rw [step_isExiting ledger keepsOpen]
    exact punctual.isOpen
  · intro positive
    exact steps.punctual (punctual.interval ▸ positive) (punctual.transport positive)
  · intro next here
    obtain ⟨cache, before, changes⟩ := step_changes keepsOpen timely here
    exact changes.ages.window.trans (punctual.window before)
  · intro next here
    obtain ⟨cache, before, changes⟩ := step_changes keepsOpen timely here
    exact changes.punctual (Nat.le_refl now) (punctual.cache before)

/-- The time of an operation, or a given one if it has none. -/
theorem Operation.getD_time? (operation : Operation) (now : Nat) :
    operation.time?.getD (operation.time?.getD now) = operation.time?.getD now := by
  cases operation.time? with
  | none => rfl
  | some time => rfl

/-- Operations whose times do not decrease keep an open endpoint punctual. -/
theorem run_punctual {config : ResolvedEndpoint} {endpoint : Endpoint}
    (created : Endpoint.create config = .ok endpoint) (network : Network)
    {operations : List Operation} (keepOpen : ∀ operation ∈ operations, operation.KeepsOpen)
    (ordered : (operations.filterMap Operation.time?).Pairwise (· ≤ ·))
    (reached : ∀ time ∈ operations.filterMap Operation.time?, time ≤ now) :
    Punctual config.flushInterval now ((Ledger.new endpoint).history network operations)
      ((Ledger.new endpoint).run network operations).endpoint := by
  -- from the end, since the clock is at the time of the last operation
  induction operations using List.reverseRecOn generalizing now with
  | nil => exact punctual_new created now
  | append_singleton rest operation ih =>
    rw [List.filterMap_append, List.pairwise_append] at ordered
    rw [List.filterMap_append, List.forall_mem_append] at reached
    obtain ⟨restOrdered, -, restBefore⟩ := ordered
    obtain ⟨restReached, lastReached⟩ := reached
    obtain ⟨restOpen, lastOpen⟩ := List.forall_mem_append.mp keepOpen
    have before : ∀ time ∈ rest.filterMap Operation.time?, time ≤ operation.time?.getD now := by
      intro time member
      cases given : operation.time? with
      | none => exact restReached time member
      | some last => exact restBefore time member last (by simp [given])
    have passed : operation.time?.getD now ≤ now := by
      cases given : operation.time? with
      | none => exact Nat.le_refl now
      | some last => exact lastReached last (by simp [given])
    have punctual := ih restOpen restOrdered before
    rw [Ledger.history_concat, Ledger.run_concat]
    exact (punctual.step (lastOpen operation List.mem_cons_self) (operation.getD_time? now)
      network).later passed

/-- The entry of a number came at a time. It may have left. -/
def Dated (number time : Nat) (endpoint : Endpoint) : Prop :=
  ∀ cache, endpoint.cache = some cache → cache.Dated number time

theorem dated_of_arrival (keepsOpen : operation.KeepsOpen) (timely : operation.time? = some time)
    (absent : ledger.endpoint.arrival? number = none)
    (present : (ledger.step network operation).endpoint.arrival? number ≠ none) :
    Dated number time (ledger.step network operation).endpoint := by
  intro next here
  obtain ⟨cache, before, changes⟩ := step_changes keepsOpen (by rw [timely]; rfl) here
  rw [arrival?, before] at absent
  rw [arrival?, here] at present
  exact changes.ages.dated absent present

theorem Dated.run (dated : Dated number time ledger.endpoint) (network : Network)
    {operations : List Operation} (keepOpen : ∀ operation ∈ operations, operation.KeepsOpen) :
    Dated number time (ledger.run network operations).endpoint := by
  unfold Ledger.run
  induction operations generalizing ledger with
  | nil => exact dated
  | cons operation rest ih =>
    obtain ⟨first, others⟩ := List.forall_mem_cons.mp keepOpen
    refine ih ?_ others
    intro next here
    obtain ⟨cache, before, changes⟩ := step_changes first (operation.getD_time? 0) here
    exact (dated cache before).ages changes.ages

variable {endpoint : Endpoint}

theorem Punctual.deadline_ne_none (punctual : Punctual period clock log endpoint)
    (waits : endpoint.aggregated ≠ 0 ∨ 0 < period ∧ endpoint.pending ≠ 0) :
    endpoint.deadline ≠ none := by
  intro idle
  obtain ⟨ofTransport, ofCache⟩ := Deadline.earliest_eq_none.mp idle
  rcases waits with entries | ⟨positive, bytes⟩
  · cases here : endpoint.cache with
    | none =>
      rw [aggregated, here] at entries
      exact entries rfl
    | some cache =>
      rw [aggregated, here] at entries
      rw [here] at ofCache
      exact (punctual.cache here).deadline_ne_none entries ofCache
  · exact bytes (congrArg List.length ((punctual.transport positive).armed ofTransport))

/-- While nothing is due an entry that is overdue has left. -/
theorem Punctual.arrival?_eq_none (punctual : Punctual period clock log endpoint)
    (waits : ∀ due, endpoint.deadline = some due → now < due) (dated : Dated number time endpoint)
    (overdue : time + period ≤ now) : endpoint.arrival? number = none := by
  have ofCache := (Deadline.lt_earliest.mp waits).2
  unfold arrival?
  cases here : endpoint.cache with
  | none => rfl
  | some cache =>
    rw [here] at ofCache
    refine Option.eq_none_iff_forall_ne_some.mpr fun came live => ?_
    have young := (punctual.cache here).lt_of_waiting ofCache live
    rw [(dated cache here).2 came live, punctual.window here] at young
    omega

/-- **Bounded waiting.** In every run of an open endpoint whose times do not decrease, under every
network, something is due while the cache holds entries, and while bytes wait unless the interval is
zero. Once the timers were served at some time, every record that came an interval or more ago has
been part of an attempt since it came, unless the interval is zero, and every entry that came so long
ago has left. -/
theorem run_waits_boundedly (network : Network) (config : ResolvedEndpoint) (endpoint : Endpoint)
    (created : Endpoint.create config = .ok endpoint) (operations : List Operation)
    (keepOpen : ∀ operation ∈ operations, operation.KeepsOpen)
    (ordered : (operations.filterMap Operation.time?).Pairwise (· ≤ ·)) :
    let start := Ledger.new endpoint
    let final := (start.run network operations).endpoint
    Explained (start.history network operations) final.transport.attempts final.transport.buffer ∧
      (final.aggregated ≠ 0 ∨ 0 < config.flushInterval ∧ final.pending ≠ 0 →
        final.deadline ≠ none) ∧
      ∀ now, (∀ time ∈ operations.filterMap Operation.time?, time ≤ now) →
        let served := operations ++ [.onTimer now]
        (0 < config.flushInterval → ∀ earlier event time later,
          start.history network served = earlier ++ .put event time :: later →
          time + config.flushInterval ≤ now →
          ∃ bytes, .attempt bytes ∈ later ∧ recordBytes event <:+: bytes) ∧
        ∀ before operation after number time, operations = before ++ operation :: after →
          operation.time? = some time →
          (start.run network before).endpoint.arrival? number = none →
          (start.run network (before ++ [operation])).endpoint.arrival? number ≠ none →
          time + config.flushInterval ≤ now →
          (start.run network served).endpoint.arrival? number = none := by
  intro start final
  have reached : ∀ time ∈ operations.filterMap Operation.time?,
      time ≤ (operations.filterMap Operation.time?).sum := fun time => List.le_sum_of_mem
  have punctual := run_punctual created network keepOpen ordered reached
  refine ⟨punctual.explained, punctual.deadline_ne_none, ?_⟩
  intro now reached served
  have serves : (Operation.onTimer now).KeepsOpen := trivial
  have quiet : ∀ due, (start.run network served).endpoint.deadline = some due → now < due := by
    intro due armed
    rw [Ledger.run_concat] at armed
    exact onTimer_deadline final armed
  have punctual : Punctual config.flushInterval now (start.history network served)
      (start.run network served).endpoint := by
    rw [Ledger.history_concat, Ledger.run_concat]
    exact (run_punctual created network keepOpen ordered reached).step serves rfl network
  constructor
  · intro positive earlier event time later split overdue
    exact (punctual.transport positive).tried_of_waiting (Deadline.lt_earliest.mp quiet).1 split
      (punctual.interval ▸ overdue)
  · intro before operation after number time split timely absent present overdue
    subst split
    obtain ⟨-, restOpen⟩ := List.forall_mem_append.mp keepOpen
    obtain ⟨first, others⟩ := List.forall_mem_cons.mp restOpen
    rw [Ledger.run_concat] at present
    have dated := (dated_of_arrival first timely absent present).run network
      (List.forall_mem_append.mpr ⟨others, List.forall_mem_singleton.mpr serves⟩)
    have whole : start.run network served =
        ((start.run network before).step network operation).run network
          (after ++ [.onTimer now]) := by
      show List.foldl _ start (before ++ operation :: after ++ [.onTimer now]) = _
      rw [List.append_assoc, List.foldl_append]
      rfl
    rw [← whole] at dated
    exact punctual.arrival?_eq_none quiet dated overdue

/-- An entry, a record whose flush was refused, and a record that came later but not too late. -/
theorem refusedFlush_waits_boundedly :
    let single : Event := { name := "single", samples := .unique [1], dimensions := [] }
    let pair : Event := { name := "pair", samples := .unique [1, 2], dimensions := [] }
    let rest : List Operation := [.send pair 5, .flush, .send pair 12]
    let operations := .send single 5 :: rest
    let start := Ledger.new smallEndpoint
    let final := (start.run refusingNetwork operations).endpoint
    let log := start.history refusingNetwork (operations ++ [.onTimer 22])
    Endpoint.create smallEndpoint.config = .ok smallEndpoint ∧
      (∀ operation ∈ operations, operation.KeepsOpen) ∧
      (operations.filterMap Operation.time?).Pairwise (· ≤ ·) ∧
      final.aggregated ≠ 0 ∧ final.deadline ≠ none ∧
      log = [] ++ .put pair 5 :: log.tail ∧
      (∃ bytes, .attempt bytes ∈ log.tail ∧ recordBytes pair <:+: bytes) ∧
      (start.run refusingNetwork ([] ++ [.send single 5])).endpoint.arrival? 0 ≠ none ∧
      (start.run refusingNetwork (operations ++ [.onTimer 22])).endpoint.arrival? 0 = none := by
  intro single pair rest operations start final log
  have created : Endpoint.create smallEndpoint.config = .ok smallEndpoint := rfl
  have keepOpen : ∀ operation ∈ operations, operation.KeepsOpen := by decide
  have ordered : (operations.filterMap Operation.time?).Pairwise (· ≤ ·) := by decide
  have entries : final.aggregated ≠ 0 := by decide +kernel
  have first : log = [] ++ .put pair 5 :: log.tail := by decide +kernel
  have came : (start.run refusingNetwork ([] ++ [.send single 5])).endpoint.arrival? 0 ≠ none := by
    decide +kernel
  obtain ⟨-, due, serves⟩ := run_waits_boundedly refusingNetwork smallEndpoint.config smallEndpoint
    created operations keepOpen ordered
  obtain ⟨tried, left⟩ := serves 22 (by decide)
  exact ⟨created, keepOpen, ordered, entries, due (.inl entries), first,
    tried (by decide) [] pair 5 _ first (by decide), came,
    left [] (.send single 5) rest 0 5 rfl rfl rfl came (by decide)⟩

end Endpoint

end MetricPipeline
