import MetricPipeline.Cache
import MetricPipeline.Proofs.RingCells

/-!
The index of a cache finds exactly the entries that can still be merged into.

Entries are detached when they are full, leave when their window has passed, and are replaced under
a key that other shapes may share. Through all of this a key leads to a number just when the live
entry of that number is marked as indexed and has the key, and of the live entries of one key only
the newest can be marked. Neither depends on how wide events are.
-/

namespace MetricPipeline.Cache

variable {cache next : Cache}

/-! ## The index as a map -/

theorem lookup_unindex (cache : Cache) (key other : Key) :
    (cache.unindex key).index.lookup other =
      if other = key then none else cache.index.lookup other := by
  unfold unindex
  induction cache.index with
  | nil => simp
  | cons pair rest ih =>
    obtain ⟨first, number⟩ := pair
    by_cases removed : first = key
    · rw [List.filter_cons_of_neg (by simp [removed]), ih, List.lookup_cons]
      by_cases same : other = key
      · rw [if_pos same, if_pos same]
      · have missed : (other == first) = false := beq_false_of_ne (removed ▸ same)
        rw [if_neg same, if_neg same, missed]
    · rw [List.filter_cons_of_pos (by simp [removed]), List.lookup_cons, List.lookup_cons, ih]
      by_cases same : other = first
      · have kept : other ≠ key := same ▸ removed
        simp only [if_neg kept]
      · have missed : (other == first) = false := beq_false_of_ne same
        rw [missed]

theorem lookup_setIndex (cache : Cache) (key : Key) (number : Nat) (other : Key) :
    (cache.setIndex key number).index.lookup other =
      if other = key then some number else cache.index.lookup other := by
  rw [setIndex, List.lookup_cons, lookup_unindex]
  by_cases same : other = key
  · simp [same]
  · have missed : (other == key) = false := beq_false_of_ne same
    rw [missed, if_neg same, if_neg same]

/-! ## Index and entries agree -/

/-- The index leads to the entries that are marked as indexed, and to nothing else. -/
structure Findable (cache : Cache) : Prop where
  /-- A key leads to the live entry that is marked and has this key. -/
  found : ∀ key number, cache.index.lookup key = some number ↔
    ∃ entry, cache.ring.tag? number = some entry ∧ entry.isIndexed = true ∧ entry.key = key
  /-- Of two live entries of one key the older one is not marked. -/
  newest : ∀ first second older newer, first < second → cache.ring.tag? first = some older →
    cache.ring.tag? second = some newer → older.key = newer.key → older.isIndexed = false

theorem Findable.congr (findable : Findable cache) (index : next.index = cache.index)
    (tags : ∀ number, next.ring.tag? number = cache.ring.tag? number) : Findable next := by
  constructor
  · intro key number
    rw [index, tags]
    exact findable.found key number
  · intro first second older newer before
    rw [tags, tags]
    exact findable.newest first second older newer before

/-- Two marked entries of one key are one entry. -/
theorem Findable.unique (findable : Findable cache) {first second : Nat} {one other : Entry}
    (atFirst : cache.ring.tag? first = some one) (atSecond : cache.ring.tag? second = some other)
    (marked : one.isIndexed = true) (alsoMarked : other.isIndexed = true)
    (same : one.key = other.key) : first = second := by
  have leads := (findable.found other.key first).mpr ⟨one, atFirst, marked, same⟩
  have alsoLeads := (findable.found other.key second).mpr ⟨other, atSecond, alsoMarked, rfl⟩
  exact Option.some.inj (leads.symm.trans alsoLeads)

theorem findable_empty (size window cap : Nat) : Findable (Cache.empty size window cap) := by
  have vacant : ∀ number, (Cache.empty size window cap).ring.tag? number = none := by
    intro number
    simp [Cache.empty, RingBuffer.empty, RingBuffer.tag?, RingBuffer.record?]
  constructor
  · intro key number
    rw [vacant]
    simp [Cache.empty]
  · intro first second older newer before
    rw [vacant]
    simp

/-- While entries keep their keys and none is marked anew, only the newest of one key can be
marked. -/
theorem Findable.newest_of_kept (findable : Findable cache) {ring : RingBuffer Entry}
    (kept : ∀ number entry, ring.tag? number = some entry → ∃ was,
      cache.ring.tag? number = some was ∧ was.key = entry.key ∧
        (was.isIndexed = false → entry.isIndexed = false)) :
    ∀ first second older newer, first < second → ring.tag? first = some older →
      ring.tag? second = some newer → older.key = newer.key → older.isIndexed = false := by
  intro first second older newer before atFirst atSecond same
  obtain ⟨wasOlder, wasFirst, olderKey, unmarked⟩ := kept first older atFirst
  obtain ⟨wasNewer, wasSecond, newerKey, -⟩ := kept second newer atSecond
  exact unmarked (findable.newest first second wasOlder wasNewer before wasFirst wasSecond
    (by rw [olderKey, newerKey, same]))

/-- Releasing an entry forgets its key just when the key led to it. -/
theorem Findable.release (findable : Findable cache) : Findable cache.release := by
  unfold Cache.release
  split
  · exact findable
  · rename_i record ring popped
    have head := RingBuffer.pop?_tag?_released popped
    have tags := RingBuffer.pop?_tag? popped
    have newest := findable.newest_of_kept (fun number entry live => by
      rw [tags] at live
      split at live
      · cases live
      · exact ⟨entry, live, rfl, id⟩)
    dsimp only
    split
    · rename_i marked
      refine ⟨fun key number => ?_, newest⟩
      rw [lookup_unindex]
      show _ ↔ ∃ entry, ring.tag? number = some entry ∧ _
      rw [tags]
      constructor
      · intro leads
        split at leads
        · cases leads
        · rename_i other
          obtain ⟨entry, live, indexed, rfl⟩ := (findable.found key number).mp leads
          have kept : number ≠ cache.ring.released := by
            rintro rfl
            rw [head] at live
            exact other (congrArg Entry.key (Option.some.inj live).symm)
          exact ⟨entry, by rw [if_neg kept]; exact live, indexed, rfl⟩
      · rintro ⟨entry, live, indexed, rfl⟩
        split at live
        · cases live
        · rename_i kept
          have other : entry.key ≠ record.tag.key := fun same =>
            kept (findable.unique live head indexed marked same)
          rw [if_neg other]
          exact (findable.found entry.key number).mpr ⟨entry, live, indexed, rfl⟩
    · rename_i unmarked
      refine ⟨fun key number => ?_, newest⟩
      show cache.index.lookup key = some number ↔ ∃ entry, ring.tag? number = some entry ∧ _
      rw [findable.found, tags]
      refine exists_congr fun entry => and_congr_left fun ⟨indexed, _⟩ => ?_
      split
      · rename_i first
        subst first
        refine iff_of_false (fun live => ?_) (fun impossible => by cases impossible)
        rw [head] at live
        obtain rfl := Option.some.inj live
        exact unmarked indexed
      · exact Iff.rfl

/-- The number of samples of an entry does not matter to the index. -/
theorem Findable.recount (findable : Findable cache) {number : Nat} {entry : Entry}
    (live : cache.ring.tag? number = some entry) (samples : Nat) :
    Findable { cache with ring := cache.ring.setTag number { entry with samples } } := by
  have tags := RingBuffer.tag?_setTag cache.ring number { entry with samples }
  refine ⟨fun key other => ?_, findable.newest_of_kept fun other changed there => ?_⟩
  · show cache.index.lookup key = some other ↔
      ∃ found, (cache.ring.setTag number _).tag? other = _ ∧ _
    rw [findable.found, tags]
    by_cases same : other = number
    · subst same
      simp [live]
    · rw [if_neg same]
  · rw [tags] at there
    split at there
    · rename_i same
      subst same
      rw [live] at there
      obtain rfl := Option.some.inj there
      exact ⟨entry, live, rfl, id⟩
    · exact ⟨changed, there, rfl, id⟩

/-- A detached entry is not found any more, and neither is any other entry of its key. -/
theorem Findable.detach (findable : Findable cache) {number : Nat} {entry : Entry}
    (live : cache.ring.tag? number = some entry) (marked : entry.isIndexed = true) :
    Findable (cache.detach number entry) ∧
      (cache.detach number entry).index.lookup entry.key = none := by
  have tags := RingBuffer.tag?_setTag cache.ring number { entry with isIndexed := false }
  have looked : ∀ key, (cache.detach number entry).index.lookup key =
      if key = entry.key then none else cache.index.lookup key := fun key => by
    unfold Cache.detach
    rw [lookup_unindex]
  have ring : (cache.detach number entry).ring =
      cache.ring.setTag number { entry with isIndexed := false } := rfl
  refine ⟨⟨fun key other => ?_, findable.newest_of_kept fun other changed there => ?_⟩,
    by rw [looked, if_pos rfl]⟩
  · rw [looked, ring, tags]
    by_cases same : other = number
    · subst same
      rw [if_pos rfl, live]
      refine iff_of_false (fun leads => ?_) ?_
      · split at leads
        · cases leads
        · rename_i different
          obtain ⟨found, there, -, rfl⟩ := (findable.found key other).mp leads
          rw [live] at there
          exact different (congrArg Entry.key (Option.some.inj there).symm)
      · rintro ⟨found, there, indexed, -⟩
        obtain rfl := Option.some.inj there
        cases indexed
    · rw [if_neg same]
      split
      · rename_i sameKey
        subst sameKey
        refine iff_of_false (fun impossible => by cases impossible) ?_
        rintro ⟨found, there, indexed, sameKey⟩
        exact same (findable.unique there live indexed marked sameKey)
      · exact findable.found key other
  · rw [ring, tags] at there
    split at there
    · rename_i same
      subst same
      rw [live] at there
      obtain rfl := Option.some.inj there
      exact ⟨entry, live, rfl, fun _ => rfl⟩
    · exact ⟨changed, there, rfl, id⟩

/-- A new entry is found by its key, which led nowhere before. -/
theorem Findable.insert (findable : Findable cache) {ring : RingBuffer Entry} {number size : Nat}
    {entry : Entry} (allocated : cache.ring.alloc? size entry = some (number, ring))
    (marked : entry.isIndexed = true) (unknown : cache.index.lookup entry.key = none) :
    Findable ({ cache with ring }.setIndex entry.key number) := by
  have tags := RingBuffer.alloc?_tag? allocated
  obtain ⟨offset, -, numbered, -⟩ := RingBuffer.alloc?_eq_some allocated
  have vacant : ∀ other found, cache.ring.tag? other = some found → found.key = entry.key →
      found.isIndexed = false := by
    intro other found live same
    cases indexed : found.isIndexed with
    | false => rfl
    | true =>
      have leads := (findable.found entry.key other).mpr ⟨found, live, indexed, same⟩
      rw [unknown] at leads
      cases leads
  constructor
  · intro key other
    rw [lookup_setIndex]
    show _ ↔ ∃ found, ring.tag? other = some found ∧ _
    rw [tags]
    by_cases new : other = number
    · subst new
      simp only [if_true, Option.some.injEq, exists_eq_left', marked, true_and]
      by_cases same : key = entry.key
      · rw [if_pos same]
        exact iff_of_true rfl same.symm
      · rw [if_neg same]
        refine iff_of_false (fun leads => ?_) (fun equal => same equal.symm)
        obtain ⟨found, live, -⟩ := (findable.found key other).mp leads
        have bound := RingBuffer.tag?_bound live
        omega
    · rw [if_neg new]
      by_cases same : key = entry.key
      · rw [if_pos same, same]
        refine iff_of_false (fun equal => new (Option.some.inj equal).symm) ?_
        rintro ⟨found, live, indexed, sameKey⟩
        rw [vacant other found live sameKey] at indexed
        cases indexed
      · rw [if_neg same]
        exact findable.found key other
  · intro first second older newer before atFirst atSecond sameKey
    have firstTag : ring.tag? first = some older := atFirst
    have secondTag : ring.tag? second = some newer := atSecond
    rw [tags] at firstTag secondTag
    split at firstTag
    · -- nothing is newer than the new entry
      rw [if_neg (by omega)] at secondTag
      have bound := RingBuffer.tag?_bound secondTag
      omega
    · split at secondTag
      · obtain rfl := Option.some.inj secondTag
        exact vacant first older firstTag sameKey
      · exact findable.newest first second older newer before firstTag secondTag sameKey

end MetricPipeline.Cache
