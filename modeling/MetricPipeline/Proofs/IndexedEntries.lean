import MetricPipeline.Proofs.FullEntries

/-!
The index of a cache lists the entries that samples can still be merged into, and nothing else.

The index is edited where a full entry is detached, where entries make room for another one or leave
for good, and where a new entry is filed. Each time a key is forgotten before it is listed again, so
none is listed twice and no pair is hidden behind another. What a key leads to is then what is listed
under it: the live entry that is marked as indexed and has this key. The entries that are live but
cannot be found are those that took as many samples as the cap allows. How wide the events are does not
matter.
-/

namespace MetricPipeline.Cache

variable {cache next : Cache}

/-! ## No key is listed twice -/

/-- The index lists each key once. -/
def Distinct (cache : Cache) : Prop := (cache.index.map (·.1)).Nodup

theorem distinct_empty (size window cap : Nat) : Distinct (Cache.empty size window cap) :=
  List.nodup_nil

theorem Distinct.congr (distinct : Distinct cache) (index : next.index = cache.index) :
    Distinct next := by
  rwa [Distinct, index]

theorem Distinct.unindex (distinct : Distinct cache) (key : Key) :
    Distinct (cache.unindex key) :=
  distinct.sublist (List.filter_sublist.map _)

theorem Distinct.setIndex (distinct : Distinct cache) (key : Key) (number : Nat) :
    Distinct (cache.setIndex key number) := by
  refine List.nodup_cons.mpr ⟨?_, distinct.unindex key⟩
  simp [Cache.unindex]

theorem Distinct.armTimer (distinct : Distinct cache) : Distinct cache.armTimer := by
  obtain ⟨timer, armed⟩ := armTimer_eq cache
  exact armed ▸ distinct.congr rfl

theorem Distinct.release (distinct : Distinct cache) : Distinct cache.release := by
  unfold Cache.release
  split
  · exact distinct
  · rename_i record ring popped
    have rest : Distinct { cache with ring } := distinct.congr rfl
    dsimp only
    split
    · exact rest.unindex record.tag.key
    · exact rest

theorem Distinct.releaseMany (distinct : Distinct cache) (count : Nat) :
    Distinct (cache.releaseMany count) := by
  induction count generalizing cache with
  | zero => exact distinct
  | succ count ih => exact ih distinct.release

theorem Distinct.reclaim (distinct : Distinct cache) (now : Nat) (all : Bool) :
    Distinct (cache.reclaim now all).1 := distinct.releaseMany _

theorem Distinct.drain (distinct : Distinct cache) (now : Nat) : Distinct (cache.drain now).1 := by
  have disarmed : Distinct { cache with timer := Deadline.unarmed } := distinct.congr rfl
  exact disarmed.reclaim now true

theorem Distinct.onTimer (distinct : Distinct cache) (now : Nat) :
    Distinct (cache.onTimer now).1 := by
  unfold Cache.onTimer
  split
  · have disarmed : Distinct { cache with timer := Deadline.unarmed } := distinct.congr rfl
    exact (disarmed.reclaim now false).armTimer
  · exact distinct

theorem Distinct.insert? (distinct : Distinct cache) {event : Event} {sample : Sample} {now : Nat}
    (done : cache.insert? event sample now = some next) : Distinct next := by
  obtain ⟨number, ring, -, -, index, -⟩ := insert?_eq_some done
  exact (distinct.setIndex (cache.keyOf event) number).congr index

theorem Distinct.insert (distinct : Distinct cache) (event : Event) (sample : Sample) (now : Nat) :
    Distinct (cache.insert event sample now).1 := by
  have rest := distinct.reclaim now false
  unfold Cache.insert
  split
  · rename_i done
    exact distinct.insert? done
  · dsimp only
    split
    · exact rest
    · split
      · rename_i done
        exact rest.insert? done
      · exact rest

/-- A merge does not touch the index. -/
theorem merge?_index {number : Nat} {record : Record Entry} {sample : Sample}
    (done : cache.merge? number record sample = some next) : next.index = cache.index := by
  cases sample with
  | counter amount =>
    obtain rfl := Option.some.inj done
    rfl
  | value _ | unique _ =>
    obtain ⟨-, made⟩ := Option.ite_none_right_eq_some.mp done
    obtain rfl := Option.some.inj made
    rfl

theorem Distinct.detach (distinct : Distinct cache) (number : Nat) (entry : Entry) :
    Distinct (cache.detach number entry) := distinct.unindex entry.key

theorem Distinct.ingest (distinct : Distinct cache) (event : Event) (now : Nat) (exiting : Bool) :
    Distinct (cache.ingest event now exiting).1 := by
  unfold Cache.ingest
  dsimp only
  split
  · exact distinct
  · split
    · exact distinct
    · split
      · exact distinct.insert event _ now
      · split
        · exact distinct
        · split
          · split
            · rename_i done
              exact distinct.congr (merge?_index done)
            · exact (distinct.detach _ _).insert event _ now
          · exact distinct

theorem Trace.step_distinct {trace : Trace} (distinct : Distinct trace.cache)
    (operation : Operation) : Distinct (trace.step operation).cache := by
  cases operation with
  | ingest event now exiting =>
    have after : (trace.step (.ingest event now exiting)).cache =
        (trace.cache.ingest event now exiting).1 := Trace.answered_cache _ event _
    exact after ▸ distinct.ingest event now exiting
  | reclaim now all => exact distinct.reclaim now all
  | onTimer now => exact distinct.onTimer now
  | drain now => exact distinct.drain now

theorem Trace.run_distinct {trace : Trace} (distinct : Distinct trace.cache)
    (operations : List Operation) : Distinct (operations.foldl Trace.step trace).cache := by
  induction operations generalizing trace with
  | nil => exact distinct
  | cons operation rest ih => exact ih (Trace.step_distinct distinct operation)

/-- Where no key is listed twice, a key leads to what is listed under it. -/
theorem mem_iff_lookup {listed : List (Key × Nat)} (once : (listed.map (·.1)).Nodup) {key : Key}
    {number : Nat} : (key, number) ∈ listed ↔ listed.lookup key = some number := by
  induction listed with
  | nil => simp
  | cons pair rest ih =>
    obtain ⟨first, held⟩ := pair
    obtain ⟨fresh, others⟩ := List.nodup_cons.mp once
    rw [List.mem_cons, List.lookup_cons, ih others]
    by_cases same : key = first
    · subst same
      have absent : rest.lookup key ≠ some number := fun leads =>
        fresh (List.mem_map.mpr ⟨(key, number), (ih others).mpr leads, rfl⟩)
      simp [absent, eq_comm]
    · simp [same, beq_false_of_ne same]

/-! ## The main statement -/

/-- The cap never changes. -/
theorem enduring_capped (cap : Nat) :
    Enduring fun cache => Filed cache ∧ cache.sampleCap = cap where
  placed holds := holds.1.placed
  loses holds loses := ⟨holds.1.loses loses, loses.cap.trans holds.2⟩
  answers holds answers := ⟨holds.1.answers answers, answers.cap.trans holds.2⟩

/-- A live entry that is not marked is full. -/
theorem Filed.unmarked_full (filed : Filed cache) {number : Nat} {record : Record Entry}
    (live : cache.ring.record? number = some record) (unmarked : record.tag.isIndexed = false) :
    (record.tag.key.kind = .value ∨ record.tag.key.kind = .unique) ∧
      record.tag.samples = cache.sampleCap ∧
      (cache.eventOf record).samples.length = cache.sampleCap := by
  obtain ⟨older, newer, stands⟩ := RingBuffer.exists_stands live
  have filled := filed.filled _ stands.mem
  obtain ⟨notCounter, full⟩ := filled.full unmarked
  refine ⟨?_, full, (filled.samples_length notCounter).trans full⟩
  cases kind : record.tag.key.kind with
  | counter => exact absurd kind notCounter
  | value => exact .inl rfl
  | unique => exact .inr rfl

/-- **Index and entries agree.** In every state of every run, over events of any width, the index lists
each key once, and it lists a number under a key just when the live entry of that number is marked as
indexed and has this key. So at most one live entry of a key is marked, and every live entry that is
not marked has values or identifiers, exactly as many as the cap. -/
theorem run_index_exact (size window sampleCap : Nat) (operations : List Operation) :
    let cache := (run size window sampleCap operations).cache
    let cap := min sampleCap (size / sampleSize)
    (cache.index.map (·.1)).Nodup ∧
    (∀ key number, (key, number) ∈ cache.index ↔ cache.index.lookup key = some number) ∧
    (∀ key number, cache.index.lookup key = some number ↔
      ∃ entry, cache.ring.tag? number = some entry ∧ entry.isIndexed = true ∧ entry.key = key) ∧
    (∀ first second one other, cache.ring.tag? first = some one →
      cache.ring.tag? second = some other → one.isIndexed = true → other.isIndexed = true →
        one.key = other.key → first = second) ∧
    ∀ number record, cache.ring.record? number = some record → record.tag.isIndexed = false →
      (record.tag.key.kind = .value ∨ record.tag.key.kind = .unique) ∧
        record.tag.samples = cap ∧ (cache.eventOf record).samples.length = cap := by
  intro cache cap
  have distinct : Distinct cache := Trace.run_distinct (distinct_empty size window sampleCap) operations
  obtain ⟨filed, limit⟩ : Filed cache ∧ cache.sampleCap = cap :=
    (enduring_capped cap).run ⟨filed_empty size window sampleCap, rfl⟩ operations
  have findable := filed.placed.findable
  refine ⟨distinct, fun key number => mem_iff_lookup distinct, findable.found, ?_, ?_⟩
  · intro first second one other atFirst atSecond marked alsoMarked same
    exact findable.unique atFirst atSecond marked alsoMarked same
  · intro number record live unmarked
    exact limit ▸ filed.unmarked_full live unmarked

/-- After a full entry was detached, its key leads to the entry that took its place. -/
theorem crowdedRun_index_exact :
    let cache := (run 400 10 2 crowdedRun).cache
    let key := cache.keyOf (sized "ab" "c" 6)
    cache.index = [(key, 1)] ∧
      (∃ entry, cache.ring.tag? 1 = some entry ∧ entry.isIndexed = true ∧ entry.key = key) ∧
      ∃ record, cache.ring.record? 0 = some record ∧ record.tag.isIndexed = false ∧
        record.tag.key = key ∧ (cache.eventOf record).samples.length = 2 := by
  intro cache key
  have listed : cache.index = [(key, 1)] := by decide +kernel
  obtain ⟨-, mem, found, -, full⟩ := run_index_exact 400 10 2 crowdedRun
  have leads := (mem key 1).mp (listed ▸ List.mem_singleton_self _)
  obtain ⟨record, live, unmarked, same⟩ : ∃ record ∈ cache.ring.record? 0,
      record.tag.isIndexed = false ∧ record.tag.key = key := by decide +kernel
  exact ⟨listed, (found key 1).mp leads, record, live, unmarked, same,
    (full 0 record live unmarked).2.2⟩

end MetricPipeline.Cache
