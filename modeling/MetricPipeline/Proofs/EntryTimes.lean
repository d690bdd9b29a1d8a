import Mathlib.Data.List.TakeWhile
import MetricPipeline.Proofs.CacheSteps

/-!
When the entries of a cache came, and when they leave.

Entries are numbered as they come, and each of them remembers the time. An operation does little to
these times: some of the oldest entries leave, and at most one comes, at the time of the operation.
The timer follows the oldest entry, but nobody moves it when that entry leaves early. While the clock
does not go back this makes the timer early at worst, so an entry whose window has passed is gone
once the timer was served.
-/

namespace MetricPipeline.Cache

variable {cache middle next : Cache} {clock now number time : Nat}

/-! ## Entries by number -/

/-- When the live entry of a number came. -/
def arrival? (cache : Cache) (number : Nat) : Option Nat :=
  (cache.ring.tag? number).map (·.inserted)

/-- How many entries have come so far. The next one gets this number. -/
def admitted (cache : Cache) : Nat := cache.ring.released + cache.ring.length

theorem lt_admitted (live : cache.arrival? number = some time) : number < cache.admitted := by
  obtain ⟨entry, found, -⟩ := Option.map_eq_some_iff.mp live
  exact RingBuffer.tag?_bound found

theorem released_le (live : cache.arrival? number = some time) :
    cache.ring.released ≤ number := by
  obtain ⟨entry, found, -⟩ := Option.map_eq_some_iff.mp live
  obtain ⟨record, here, -⟩ := Option.map_eq_some_iff.mp found
  obtain ⟨before, after, -, rfl⟩ := RingBuffer.record?_eq_some here
  exact Nat.le_add_right _ _

theorem arrival?_front {record : Record Entry}
    (front : cache.ring.front? = some (number, record)) :
    number = cache.ring.released ∧ cache.arrival? number = some record.tag.inserted := by
  obtain ⟨first, head, same⟩ := Option.map_eq_some_iff.mp front
  obtain ⟨rfl, rfl⟩ := Prod.mk.inj same
  obtain ⟨rest, records⟩ := List.head?_eq_some_iff.mp head
  simp [arrival?, RingBuffer.tag?, RingBuffer.record?, records]

theorem records_eq_nil_of_front? (front : cache.ring.front? = none) : cache.ring.records = [] :=
  List.head?_eq_none_iff.mp (Option.map_eq_none_iff.mp front)

theorem arrival?_of_records_eq_nil (none : cache.ring.records = []) (number : Nat) :
    cache.arrival? number = .none := by
  simp [arrival?, RingBuffer.tag?, RingBuffer.record?, none]

/-! ## Entries over time -/

/-- Entries may have left, and none has come. -/
structure Thins (cache next : Cache) : Prop where
  window : next.window = cache.window
  timer : next.timer = cache.timer
  admitted : next.admitted = cache.admitted
  kept : ∀ {number time}, next.arrival? number = some time → cache.arrival? number = some time

/-- Entries may have left, and those that have come since are of this time. -/
structure Ages (now : Nat) (cache next : Cache) : Prop where
  window : next.window = cache.window
  admitted : cache.admitted ≤ next.admitted
  kept : ∀ {number time}, number < cache.admitted → next.arrival? number = some time →
    cache.arrival? number = some time
  fresh : ∀ {number time}, cache.admitted ≤ number → next.arrival? number = some time → time = now

/-- Besides, the timer has not been moved. -/
structure Passes (now : Nat) (cache next : Cache) : Prop extends Ages now cache next where
  timer : next.timer = cache.timer

theorem Thins.refl (cache : Cache) : Thins cache cache := ⟨rfl, rfl, rfl, id⟩

theorem Thins.trans (first : Thins cache middle) (second : Thins middle next) :
    Thins cache next :=
  ⟨second.window.trans first.window, second.timer.trans first.timer,
    second.admitted.trans first.admitted, fun live => first.kept (second.kept live)⟩

theorem Thins.passes (thins : Thins cache next) (now : Nat) : Passes now cache next := by
  refine ⟨⟨thins.window, Nat.le_of_eq thins.admitted.symm, fun _ => thins.kept, ?_⟩, thins.timer⟩
  intro number time new live
  have old := lt_admitted (thins.kept live)
  omega

theorem Passes.trans (first : Passes now cache middle) (second : Passes now middle next) :
    Passes now cache next := by
  refine ⟨⟨second.window.trans first.window, Nat.le_trans first.admitted second.admitted, ?_, ?_⟩,
    second.timer.trans first.timer⟩
  · intro number time old live
    exact first.kept old (second.kept (Nat.lt_of_lt_of_le old first.admitted) live)
  · intro number time new live
    by_cases since : number < middle.admitted
    · exact first.fresh new (second.kept since live)
    · exact second.fresh (Nat.le_of_not_lt since) live

theorem Ages.armTimer (ages : Ages now cache next) : Ages now cache next.armTimer := by
  obtain ⟨timer, armed⟩ := armTimer_eq next
  rw [armed]
  exact ⟨ages.window, ages.admitted, ages.kept, ages.fresh⟩

/-- The entry of a number came at a time. It may have left. -/
def Dated (number time : Nat) (cache : Cache) : Prop :=
  number < cache.admitted ∧ ∀ other, cache.arrival? number = some other → other = time

theorem Ages.dated (ages : Ages now cache next) (absent : cache.arrival? number = none)
    (present : next.arrival? number ≠ none) : Dated number now next := by
  obtain ⟨time, live⟩ := Option.ne_none_iff_exists'.mp present
  refine ⟨lt_admitted live, fun other found => ?_⟩
  by_cases old : number < cache.admitted
  · cases absent.symm.trans (ages.kept old found)
  · exact ages.fresh (Nat.le_of_not_lt old) found

theorem Dated.ages (dated : Dated number time cache) (ages : Ages now cache next) :
    Dated number time next :=
  ⟨Nat.lt_of_lt_of_le dated.1 ages.admitted, fun other live => dated.2 other (ages.kept dated.1 live)⟩

/-! ## Leaving -/

theorem release_records (cache : Cache) : cache.release.ring.records = cache.ring.records.drop 1 := by
  cases popped : cache.ring.pop? with
  | none =>
    have same : cache.release = cache := by rw [release, popped]
    have empty := RingBuffer.pop?_eq_none.mp popped
    rw [RingBuffer.cells, List.map_eq_nil_iff] at empty
    rw [same, empty, List.drop_nil]
  | some pair =>
    obtain ⟨record, ring⟩ := pair
    obtain ⟨found, -⟩ := RingBuffer.pop?_eq_some popped
    rw [(release_eq popped).1, found, List.drop_one, List.tail_cons]

theorem releaseMany_records (cache : Cache) (count : Nat) :
    (cache.releaseMany count).ring.records = cache.ring.records.drop count := by
  induction count generalizing cache with
  | zero => rfl
  | succ count ih => rw [releaseMany, ih, release_records, List.drop_drop, Nat.add_comm]

theorem thins_release (cache : Cache) : Thins cache cache.release := by
  cases popped : cache.ring.pop? with
  | none =>
    have same : cache.release = cache := by rw [release, popped]
    rw [same]
    exact Thins.refl cache
  | some pair =>
    obtain ⟨record, ring⟩ := pair
    obtain ⟨remaining, -⟩ := release_eq popped
    obtain ⟨found, released, -⟩ := RingBuffer.pop?_eq_some popped
    refine ⟨?_, ?_, ?_, ?_⟩
    · unfold release
      rw [popped]
      dsimp only
      split <;> rfl
    · unfold release
      rw [popped]
      dsimp only
      split <;> rfl
    · simp only [admitted, RingBuffer.length, remaining, released, found, List.length_cons]
      omega
    · intro number time live
      rw [arrival?, remaining, RingBuffer.pop?_tag? popped] at live
      split at live
      · cases live
      · exact live

theorem thins_releaseMany (cache : Cache) (count : Nat) : Thins cache (cache.releaseMany count) := by
  induction count generalizing cache with
  | zero => exact Thins.refl cache
  | succ count ih => exact (thins_release cache).trans (ih cache.release)

theorem thins_reclaim (cache : Cache) (now : Nat) (all : Bool) :
    Thins cache (cache.reclaim now all).1 := thins_releaseMany cache _

/-- What remains after a reclaim starts with an entry whose window has not passed. -/
theorem reclaim_front {record : Record Entry}
    (front : (cache.reclaim now false).1.ring.front? = some (number, record)) :
    now < record.tag.inserted + cache.window := by
  obtain ⟨first, head, same⟩ := Option.map_eq_some_iff.mp front
  obtain ⟨-, rfl⟩ := Prod.mk.inj same
  have rest : (cache.reclaim now false).1.ring.records =
      cache.ring.records.dropWhile fun record =>
        false || record.tag.isExpired cache.window now := by
    have cut := congrArg (List.drop (cache.leaving now false)) (List.takeWhile_append_dropWhile
      (p := fun record : Record Entry => false || record.tag.isExpired cache.window now)
      (l := cache.ring.records))
    exact (releaseMany_records cache _).trans (cut.symm.trans List.drop_left)
  have waits := List.head?_dropWhile_not
    (fun record : Record Entry => false || record.tag.isExpired cache.window now)
    cache.ring.records
  rw [← rest, head] at waits
  simp only [Bool.false_or, Entry.isExpired, decide_eq_false_iff_not] at waits
  omega

/-- A drained cache is empty. -/
theorem drain_records (cache : Cache) (now : Nat) : (cache.drain now).1.ring.records = [] := by
  show (releaseMany _ (leaving _ now true)).ring.records = []
  rw [releaseMany_records]
  apply List.drop_eq_nil_of_le
  have whole := List.takeWhile_eq_self_iff.mpr fun record (_ : record ∈ cache.ring.records) =>
    Bool.true_or (record.tag.isExpired cache.window now)
  exact Nat.le_of_eq (congrArg List.length whole).symm

/-! ## Arriving -/

theorem admitted_write (ring : RingBuffer Entry) (number position : Nat) (bytes : List UInt8) :
    (ring.write number position bytes).released + (ring.write number position bytes).length =
      ring.released + ring.length := by
  unfold RingBuffer.write
  split <;> rfl

theorem admitted_setTag (ring : RingBuffer Entry) (number : Nat) (entry : Entry) :
    (ring.setTag number entry).released + (ring.setTag number entry).length =
      ring.released + ring.length := by
  unfold RingBuffer.setTag
  split
  · rfl
  · simp [RingBuffer.length]

theorem passes_insert? {event : Event} {sample : Sample} {inserted : Cache}
    (done : cache.insert? event sample now = some inserted) :
    ∃ grown, Passes now cache grown ∧ inserted = grown.armTimer := by
  obtain ⟨⟨given, ring⟩, allocated, rfl⟩ := Option.map_eq_some_iff.mp done
  refine ⟨_, ?_, rfl⟩
  obtain ⟨offset, -, numbered, records, -, -, -, -, released⟩ := RingBuffer.alloc?_eq_some allocated
  have tags := RingBuffer.alloc?_tag? allocated
  have arrivals : ∀ other, (setIndex { cache with
      ring := (ring.write given 0 (Wire.word64 sample.word)).write given
        (cache.room event.kind * sampleSize) event.valueBytes } (cache.keyOf event) given).arrival?
        other = if other = cache.admitted then some now else cache.arrival? other := by
    intro other
    rw [arrival?, setIndex, RingBuffer.tag?_write, RingBuffer.tag?_write, tags, numbered]
    unfold admitted
    split
    · rfl
    · rfl
  refine ⟨⟨rfl, ?_, ?_, ?_⟩, rfl⟩
  · show cache.admitted ≤ _ + _
    rw [setIndex, admitted_write, admitted_write]
    simp only [admitted, RingBuffer.length, records, released, List.length_append]
    omega
  · intro other time old live
    rw [arrivals, if_neg (Nat.ne_of_lt old)] at live
    exact live
  · intro other time new live
    rw [arrivals] at live
    split at live
    · exact (Option.some.inj live).symm
    · have old := lt_admitted live
      omega

/-- What an event that is offered does to the entries: some may leave, or one may come and the timer
be armed. -/
inductive Offered (now : Nat) (cache : Cache) : Cache → Prop where
  | thinned {next : Cache} (thins : Thins cache next) : Offered now cache next
  | grown {grown : Cache} (passes : Passes now cache grown) : Offered now cache grown.armTimer

theorem offered_insert (cache : Cache) (event : Event) (sample : Sample) (now : Nat) :
    Offered now cache (cache.insert event sample now).1 := by
  unfold insert
  split
  · rename_i inserted done
    obtain ⟨grown, passes, rfl⟩ := passes_insert? done
    exact .grown passes
  · have thins := thins_reclaim cache now false
    dsimp only
    split
    · exact .thinned thins
    · split
      · rename_i inserted done
        obtain ⟨grown, passes, rfl⟩ := passes_insert? done
        exact .grown ((thins.passes now).trans passes)
      · exact .thinned thins

theorem Offered.after (offered : Offered now middle next) (thins : Thins cache middle) :
    Offered now cache next := by
  cases offered with
  | thinned more => exact .thinned (thins.trans more)
  | grown passes => exact .grown ((thins.passes now).trans passes)

theorem Offered.ages (offered : Offered now cache next) : Ages now cache next := by
  cases offered with
  | thinned thins => exact (thins.passes now).toAges
  | grown passes => exact passes.toAges.armTimer

theorem thins_setTag {record : Record Entry} (found : cache.ring.record? number = some record)
    {entry : Entry} (same : entry.inserted = record.tag.inserted) :
    Thins cache { cache with ring := cache.ring.setTag number entry } := by
  refine ⟨rfl, rfl, admitted_setTag _ _ _, ?_⟩
  intro other time live
  have tag : cache.ring.tag? number = some record.tag := by rw [RingBuffer.tag?, found]; rfl
  rw [arrival?, RingBuffer.tag?_setTag, tag] at live
  split at live
  · rename_i here
    subst here
    rw [arrival?, tag]
    exact (congrArg some same).symm.trans live
  · exact live

theorem thins_merge? {record : Record Entry} (found : cache.ring.record? number = some record)
    {sample : Sample} {merged : Cache} (done : cache.merge? number record sample = some merged) :
    Thins cache merged := by
  have written : ∀ position bytes, Thins cache
      { cache with ring := cache.ring.write number position bytes } := by
    intro position bytes
    refine ⟨rfl, rfl, admitted_write _ _ _ _, ?_⟩
    intro other time live
    rwa [arrival?, RingBuffer.tag?_write] at live
  have again : ∀ position bytes, (cache.ring.write number position bytes).record? number =
      some record := by
    intro position bytes
    unfold RingBuffer.write
    split
    · exact found
    · exact found
  cases sample with
  | counter amount =>
    obtain rfl := Option.some.inj done
    exact written _ _
  | value size =>
    obtain ⟨-, made⟩ := Option.ite_none_right_eq_some.mp done
    obtain rfl := Option.some.inj made
    exact (written _ _).trans (thins_setTag (again _ _) rfl)
  | unique id =>
    obtain ⟨-, made⟩ := Option.ite_none_right_eq_some.mp done
    obtain rfl := Option.some.inj made
    exact (written _ _).trans (thins_setTag (again _ _) rfl)

/-- A full entry is only marked, so it keeps its time. -/
theorem thins_detach {record : Record Entry} (found : cache.ring.record? number = some record) :
    Thins cache (cache.detach number record.tag) := by
  have marked : Thins cache
      { cache with ring := cache.ring.setTag number { record.tag with isIndexed := false } } :=
    thins_setTag found rfl
  exact marked.trans ⟨rfl, rfl, rfl, id⟩

theorem offered_ingest (cache : Cache) (event : Event) (now : Nat) (exiting : Bool) :
    Offered now cache (cache.ingest event now exiting).1 := by
  unfold ingest
  dsimp only
  split
  · exact .thinned (Thins.refl cache)
  · split
    · exact .thinned (Thins.refl cache)
    · rename_i sample single
      split
      · exact offered_insert cache event sample now
      · split
        · exact .thinned (Thins.refl cache)
        · rename_i record found
          split
          · split
            · rename_i merged done
              exact .thinned (thins_merge? found done)
            · exact (offered_insert _ event sample now).after (thins_detach found)
          · exact .thinned (Thins.refl cache)

/-! ## Entries in order -/

/-- No entry is of a later time than the clock, and entries came in the order of their numbers. -/
structure InOrder (clock : Nat) (cache : Cache) : Prop where
  past : ∀ {number time}, cache.arrival? number = some time → time ≤ clock
  ordered : ∀ {first second earlier later}, first ≤ second → cache.arrival? first = some earlier →
    cache.arrival? second = some later → earlier ≤ later

theorem inOrder_empty (size window cap clock : Nat) :
    InOrder clock (Cache.empty size window cap) := by
  have vacant := arrival?_of_records_eq_nil (rfl : (Cache.empty size window cap).ring.records = [])
  constructor
  · intro number time live
    rw [vacant] at live
    cases live
  · intro first second earlier later _ live
    rw [vacant] at live
    cases live

theorem InOrder.ages (inOrder : InOrder clock cache) (later : clock ≤ now)
    (ages : Ages now cache next) : InOrder now next := by
  have past : ∀ {number time}, next.arrival? number = some time → time ≤ now := by
    intro number time live
    by_cases old : number < cache.admitted
    · exact Nat.le_trans (inOrder.past (ages.kept old live)) later
    · exact Nat.le_of_eq (ages.fresh (Nat.le_of_not_lt old) live)
  refine ⟨past, ?_⟩
  intro first second earlier newer order atFirst atSecond
  by_cases old : second < cache.admitted
  · exact inOrder.ordered order (ages.kept (Nat.lt_of_le_of_lt order old) atFirst)
      (ages.kept old atSecond)
  · rw [ages.fresh (Nat.le_of_not_lt old) atSecond]
    exact past atFirst

/-! ## The timer is never late -/

/-- No entry is of a later time than the clock, entries came in the order of their numbers, and the
timer, if it is armed, is due before the window of any entry has passed. -/
structure OnTime (clock : Nat) (cache : Cache) : Prop where
  past : ∀ {number time}, cache.arrival? number = some time → time ≤ clock
  ordered : ∀ {first second earlier later}, first ≤ second → cache.arrival? first = some earlier →
    cache.arrival? second = some later → earlier ≤ later
  early : ∀ {due number time}, cache.timer.time = some due → cache.arrival? number = some time →
    due ≤ time + cache.window
  soon : ∀ {due}, cache.timer.time = some due → due ≤ clock + cache.window

/-- Besides, the timer is armed while there are entries. -/
structure Punctual (clock : Nat) (cache : Cache) : Prop extends OnTime clock cache where
  armed : cache.timer.time = none → ∀ number, cache.arrival? number = none

theorem punctual_empty (size window cap clock : Nat) :
    Punctual clock (Cache.empty size window cap) := by
  have vacant := arrival?_of_records_eq_nil (rfl : (Cache.empty size window cap).ring.records = [])
  have inOrder := inOrder_empty size window cap clock
  exact ⟨⟨inOrder.past, inOrder.ordered, nofun, nofun⟩, fun _ => vacant⟩

theorem OnTime.passes (onTime : OnTime clock cache) (later : clock ≤ now)
    (passes : Passes now cache next) : OnTime now next := by
  have inOrder : InOrder clock cache := ⟨onTime.past, onTime.ordered⟩
  obtain ⟨past, ordered⟩ := inOrder.ages later passes.toAges
  have soon : ∀ {due}, next.timer.time = some due → due ≤ now + next.window := by
    intro due armed
    rw [passes.timer] at armed
    have bound := onTime.soon armed
    rw [passes.window]
    omega
  refine ⟨past, ordered, ?_, soon⟩
  intro due number time armed live
  by_cases old : number < cache.admitted
  · rw [passes.timer] at armed
    rw [passes.window]
    exact onTime.early armed (passes.kept old live)
  · rw [passes.fresh (Nat.le_of_not_lt old) live]
    exact soon armed

theorem Punctual.thins (punctual : Punctual clock cache) (later : clock ≤ now)
    (thins : Thins cache next) : Punctual now next := by
  refine ⟨punctual.passes later (thins.passes now), fun unarmed number => ?_⟩
  rw [thins.timer] at unarmed
  cases live : next.arrival? number with
  | none => rfl
  | some time =>
    have gone := punctual.armed unarmed number
    rw [thins.kept live] at gone
    cases gone

theorem OnTime.disarm (onTime : OnTime clock cache) :
    OnTime clock { cache with timer := Deadline.unarmed } :=
  ⟨onTime.past, onTime.ordered, nofun, nofun⟩

/-- The timer is armed for the oldest entry, which is the first to be overdue. -/
theorem OnTime.armTimer (onTime : OnTime clock cache) : Punctual clock cache.armTimer := by
  cases front : cache.ring.front? with
  | none =>
    have same : cache.armTimer = cache := by rw [Cache.armTimer, front]
    have vacant := arrival?_of_records_eq_nil (records_eq_nil_of_front? front)
    rw [same]
    exact ⟨onTime, fun _ => vacant⟩
  | some pair =>
    obtain ⟨oldest, record⟩ := pair
    obtain ⟨rfl, first⟩ := arrival?_front front
    have armed : cache.armTimer =
        { cache with timer := cache.timer.arm (record.tag.inserted + cache.window) } := by
      rw [Cache.armTimer, front]
    have due : cache.armTimer.timer.time =
        some (cache.timer.time.getD (record.tag.inserted + cache.window)) := by
      rw [armed, Deadline.arm_time]
    have early : ∀ {number time}, cache.arrival? number = some time →
        cache.timer.time.getD (record.tag.inserted + cache.window) ≤ time + cache.window := by
      intro number time live
      cases before : cache.timer.time with
      | none => exact Nat.add_le_add_right (onTime.ordered (released_le live) first live) _
      | some set => exact onTime.early before live
    rw [armed] at due ⊢
    refine ⟨⟨onTime.past, onTime.ordered, ?_, ?_⟩, ?_⟩
    · intro set number time now live
      obtain rfl := Option.some.inj (due.symm.trans now)
      exact early live
    · intro set now
      obtain rfl := Option.some.inj (due.symm.trans now)
      exact Nat.le_trans (early first) (Nat.add_le_add_right (onTime.past first) _)
    · intro unarmed
      cases due.symm.trans unarmed

theorem Punctual.offered (punctual : Punctual clock cache) (later : clock ≤ now)
    (offered : Offered now cache next) : Punctual now next := by
  cases offered with
  | thinned thins => exact punctual.thins later thins
  | grown passes => exact (punctual.passes later passes).armTimer

/-! ## Serving the timer -/

theorem onTimer_of_due (due : cache.timer.isDue now = true) :
    (cache.onTimer now).1 =
      (Cache.reclaim { cache with timer := Deadline.unarmed } now false).1.armTimer := by
  rw [onTimer, if_pos due]

theorem onTimer_of_not_due (early : ¬ cache.timer.isDue now = true) :
    cache.onTimer now = (cache, []) := by
  rw [onTimer, if_neg early]

/-- Once the timer was served it is not due again at the same time. -/
theorem onTimer_deadline (cache : Cache) (now : Nat) {due : Nat}
    (armed : (cache.onTimer now).1.deadline = some due) : now < due := by
  by_cases served : cache.timer.isDue now = true
  · rw [onTimer_of_due served] at armed
    have thins := thins_reclaim { cache with timer := Deadline.unarmed } now false
    generalize here : (Cache.reclaim { cache with timer := Deadline.unarmed } now false).1 = rest
      at armed thins
    have unarmed : rest.timer.time = none := congrArg Deadline.time thins.timer
    cases front : rest.ring.front? with
    | none =>
      rw [armTimer, front] at armed
      cases unarmed.symm.trans armed
    | some pair =>
      obtain ⟨oldest, record⟩ := pair
      rw [armTimer, front, deadline, Deadline.arm_time, unarmed, thins.window] at armed
      obtain rfl := Option.some.inj armed
      exact reclaim_front (here ▸ front)
  · rw [onTimer_of_not_due served] at armed
    exact Deadline.lt_of_not_isDue served armed

theorem ages_onTimer (cache : Cache) (now : Nat) : Ages now cache (cache.onTimer now).1 := by
  by_cases served : cache.timer.isDue now = true
  · rw [onTimer_of_due served]
    have thins := thins_reclaim { cache with timer := Deadline.unarmed } now false
    have ages := (thins.passes now).toAges
    exact Ages.armTimer ⟨ages.window, ages.admitted, ages.kept, ages.fresh⟩
  · rw [onTimer_of_not_due served]
    exact ((Thins.refl cache).passes now).toAges

theorem Punctual.onTimer (punctual : Punctual clock cache) (later : clock ≤ now) :
    Punctual now (cache.onTimer now).1 := by
  by_cases served : cache.timer.isDue now = true
  · rw [onTimer_of_due served]
    have thins := thins_reclaim { cache with timer := Deadline.unarmed } now false
    exact (punctual.disarm.passes later (thins.passes now)).armTimer
  · rw [onTimer_of_not_due served]
    exact punctual.thins later (Thins.refl cache)

/-- While the timer waits no entry is overdue. -/
theorem Punctual.lt_of_waiting (punctual : Punctual clock cache)
    (waits : ∀ due, cache.deadline = some due → now < due)
    (live : cache.arrival? number = some time) : now < time + cache.window := by
  cases armed : cache.timer.time with
  | none =>
    rw [punctual.armed armed] at live
    cases live
  | some due => exact Nat.lt_of_lt_of_le (waits due armed) (punctual.early armed live)

/-- A cache with entries has its timer armed. -/
theorem Punctual.deadline_ne_none (punctual : Punctual clock cache) (holds : cache.length ≠ 0) :
    cache.deadline ≠ none := by
  intro unarmed
  cases front : cache.ring.front? with
  | none => exact holds (congrArg List.length (records_eq_nil_of_front? front))
  | some pair =>
    obtain ⟨oldest, record⟩ := pair
    cases (punctual.armed unarmed oldest).symm.trans (arrival?_front front).2

end MetricPipeline.Cache
