import MetricPipeline.Endpoint
import MetricPipeline.Proofs.EntryTimes
import MetricPipeline.Proofs.FullEntries

/-!
What a reclaim hands over, and what it leaves behind.

A reclaim goes through the queue from the front. It reads the oldest entry from its bytes, hands the
event to a sink and releases the entry, until it meets one whose window has not passed. Every entry
of every run can be read, so none leaves unseen and the count is right. What stays is not touched:
its number, its bytes and the way to it are the same, also when an older entry of the same key
leaves, so it takes the samples that it would have taken before.
-/

namespace MetricPipeline.Cache

universe u

variable {cache next merged : Cache} {event : Event} {now number : Nat} {all : Bool}

/-! ## Reading an entry -/

/-- How many bytes the values of stored dimensions take. -/
def storedSize : List StoredDimension → Nat
  | [] => 0
  | dimension :: rest => dimension.size + storedSize rest

/-- How far reading an entry goes into its bytes: over its samples, and over the values behind the
room for more of them. -/
def Entry.reach (entry : Entry) (room : Nat) : Nat :=
  max (entry.samples * sampleSize) (room * sampleSize + storedSize entry.dimensions)

/-- Reads the event of the entry of a number; none when the entry has left or its bytes end too
early. -/
def event? (cache : Cache) (number : Nat) : Option Event :=
  (cache.ring.record? number).bind fun record =>
    if record.tag.reach (cache.room record.tag.key.kind) ≤ record.extent.size then
      some (cache.eventOf record)
    else none

/-- The bytes of a cell go as far as reading it does. -/
structure Readable (cache : Cache) (cell : Entry × List UInt8) : Prop where
  /-- There is room for its samples. -/
  samples : cell.1.samples ≤ cache.room cell.1.key.kind
  /-- The values come behind that room. -/
  values : cache.room cell.1.key.kind * sampleSize + storedSize cell.1.dimensions ≤ cell.2.length

theorem Readable.reach {cell : Entry × List UInt8} (readable : Readable cache cell) :
    cell.1.reach (cache.room cell.1.key.kind) ≤ cell.2.length := by
  have samples := Nat.mul_le_mul_right sampleSize readable.samples
  have values := readable.values
  exact Nat.max_le.mpr ⟨by omega, values⟩

theorem Readable.congr {cell : Entry × List UInt8} (readable : Readable cache cell)
    (cap : next.sampleCap = cache.sampleCap) : Readable next cell := by
  obtain ⟨samples, values⟩ := readable
  rw [← room_congr cap] at samples values
  exact ⟨samples, values⟩

theorem storedSize_take_le (dimensions : List Dimension) (count : Nat) :
    storedSize ((dimensions.take count).map .ofDimension) ≤ valuesSize dimensions := by
  induction dimensions generalizing count with
  | nil => rw [List.take_nil]; exact Nat.le_refl 0
  | cons dimension rest ih =>
    cases count with
    | zero => exact Nat.zero_le _
    | succ count =>
      have size : (StoredDimension.ofDimension dimension).size ≤ dimension.value.utf8ByteSize :=
        Nat.mod_le _ _
      exact Nat.add_le_add size (ih count)

theorem Entry.absorb?_eq_some {entry after : Entry} {bytes others : List UInt8} {room : Nat}
    {sample : Sample} (absorbed : entry.absorb? room bytes sample = some (after, others)) :
    others.length = bytes.length ∧ ∃ count, after = { entry with samples := count } ∧
      (entry.samples ≤ room → count ≤ room) := by
  cases sample with
  | counter amount =>
    obtain ⟨rfl, rfl⟩ := Prod.mk.inj (Option.some.inj absorbed)
    exact ⟨overlay_length _ _ _, _, rfl, id⟩
  | value size =>
    obtain ⟨more, made⟩ := Option.ite_none_right_eq_some.mp absorbed
    obtain ⟨rfl, rfl⟩ := Prod.mk.inj (Option.some.inj made)
    exact ⟨overlay_length _ _ _, _, rfl, fun _ => more⟩
  | unique id =>
    obtain ⟨more, made⟩ := Option.ite_none_right_eq_some.mp absorbed
    obtain ⟨rfl, rfl⟩ := Prod.mk.inj (Option.some.inj made)
    exact ⟨overlay_length _ _ _, _, rfl, fun _ => more⟩

/-- The overhead pays for the sample that is not charged. -/
theorem room_values_le (cache : Cache) {event : Event} (roomy : cache.room event.kind ≠ 0) :
    cache.room event.kind * sampleSize + event.valueSize ≤ cache.entrySize event := by
  obtain ⟨room, roomEq⟩ := Nat.exists_eq_succ_of_ne_zero roomy
  rw [entrySize, roomEq, Nat.succ_sub_one, Nat.succ_mul, entryOverhead, sampleSize]
  omega

/-- An event that is offered leaves every cell readable. -/
theorem Alters.readable {cells after : List (Entry × List UInt8)} {intake : Intake}
    (alters : Alters cache event now cells intake after)
    (readable : ∀ cell ∈ cells, Readable cache cell) : ∀ cell ∈ after, Readable cache cell := by
  induction alters with
  | rejected cells => exact readable
  | buffered cells sample fresh single roomy size =>
    refine List.forall_mem_append.mpr ⟨readable, List.forall_mem_singleton.mpr ⟨?_, ?_⟩⟩
    · exact Nat.one_le_iff_ne_zero.mpr roomy
    · have stored := storedSize_take_le event.dimensions maxDimensions
      rw [newCell, overlay_length, overlay_length, size]
      exact Nat.le_trans (Nat.add_le_add_left stored _) (cache.room_values_le roomy)
  | merged older newer entry after bytes others sample single finds absorbed =>
    rw [List.forall_mem_append, List.forall_mem_cons] at readable ⊢
    obtain ⟨before, ⟨samples, values⟩, behind⟩ := readable
    obtain ⟨size, count, rfl, kept⟩ := Entry.absorb?_eq_some absorbed
    have kind : entry.key.kind = event.kind := congrArg Key.kind finds.key
    rw [← kind] at kept
    exact ⟨before, ⟨kept samples, size ▸ values⟩, behind⟩
  | detached older newer after entry bytes sample intake single finds full further ih =>
    apply ih
    rw [List.forall_mem_append, List.forall_mem_cons] at readable ⊢
    obtain ⟨before, ⟨samples, values⟩, behind⟩ := readable
    exact ⟨before, ⟨samples, values⟩, behind⟩

/-- Everything is in place, and every cell can be read. -/
structure Legible (cache : Cache) : Prop where
  /-- Everything is in place. -/
  placed : Placed cache
  /-- Every cell can be read. -/
  readable : ∀ cell ∈ cache.ring.cells, Readable cache cell

theorem legible_empty (size window cap : Nat) : Legible (Cache.empty size window cap) :=
  ⟨placed_empty size window cap, fun _ member => absurd member List.not_mem_nil⟩

theorem Legible.loses (legible : Legible cache) {left : List Event}
    (loses : Loses cache next left) : Legible next :=
  ⟨loses.placed, fun cell member => (legible.readable cell (loses.mem member)).congr loses.cap⟩

theorem Legible.answers (legible : Legible cache) {answer : Cache × Intake × List Event}
    (answers : Answers cache event now answer) : Legible answer.1 := by
  obtain ⟨altered, alters, remain⟩ := answers.exists_alters
  refine ⟨answers.placed, fun cell member => ?_⟩
  exact (alters.readable legible.readable cell (remain cell member)).congr answers.cap

theorem enduring_legible : Enduring Legible :=
  ⟨fun legible => legible.placed, fun legible => legible.loses, fun legible => legible.answers⟩

/-- So the oldest entry is read, and its event is the oldest one. -/
theorem Legible.event?_front (legible : Legible cache) {record : Record Entry}
    {rest : List (Record Entry)} (records : cache.ring.records = record :: rest) :
    cache.event? cache.ring.released = some (cache.eventOf record) := by
  have found : cache.ring.record? cache.ring.released = some record := by
    simp [RingBuffer.record?, records]
  have member : (record.tag, cache.ring.bytesOf record.extent) ∈ cache.ring.cells :=
    List.mem_map_of_mem (records ▸ List.mem_cons_self)
  have reach := (legible.readable _ member).reach
  rw [RingBuffer.bytesOf, Region.read_length] at reach
  rw [event?, found, Option.bind_some, if_pos reach]

/-! ## The loop -/

/-- Somebody who is told about the events that leave, and about the end of a batch of them. -/
structure Sink (σ : Type u) where
  /-- An event has left. -/
  flushEvent : σ → Event → σ
  /-- Events have left, and no more do. -/
  batchComplete : σ → σ

variable {σ : Type u}

theorem release_length {found : Nat × Record Entry} (front : cache.ring.front? = some found) :
    cache.release.length < cache.length := by
  obtain ⟨record, head, -⟩ := Option.map_eq_some_iff.mp front
  obtain ⟨rest, records⟩ := List.head?_eq_some_iff.mp head
  rw [length, length, RingBuffer.length, RingBuffer.length, release_records, records]
  exact Nat.lt_succ_self rest.length

/-- Releases the oldest entry while its window has passed, or in any case, tells a sink about its
event if it can be read, and counts on. -/
def reclaimFrom (sink : Sink σ) (now : Nat) (all : Bool) (cache : Cache) (state : σ)
    (count : Nat) : Cache × σ × Nat :=
  match _front : cache.ring.front? with
  | none => (cache, state, count)
  | some (number, record) =>
    if all = false ∧ now - record.tag.inserted < cache.window then (cache, state, count)
    else
      let told :=
        match cache.event? number with
        | some event => sink.flushEvent state event
        | none => state
      reclaimFrom sink now all cache.release told (count + 1)
termination_by cache.length
decreasing_by exact release_length _front

/-- Hands over the entries whose window has passed, or all of them, and completes the batch if there
is one. Answers with the rest and with the number of entries that left. -/
def reclaimInto (cache : Cache) (sink : Sink σ) (state : σ) (now : Nat) (all : Bool) :
    Cache × σ × Nat :=
  let (rest, told, count) := cache.reclaimFrom sink now all state 0
  (rest, if 0 < count then sink.batchComplete told else told, count)

theorem release_window (cache : Cache) : cache.release.window = cache.window :=
  (thins_release cache).window

/-- An entry stays while its window has not passed. -/
theorem leaves_eq_false {record : Record Entry} {window : Nat} :
    (all || record.tag.isExpired window now) = false ↔
      all = false ∧ now - record.tag.inserted < window := by
  rw [Bool.or_eq_false_iff, Entry.isExpired, decide_eq_false_iff_not, Nat.not_le]

/-- How many entries leave is decided one by one. -/
theorem leaving_of_records {record : Record Entry} {rest : List (Record Entry)}
    (records : cache.ring.records = record :: rest) :
    cache.leaving now all =
      if all = false ∧ now - record.tag.inserted < cache.window then 0
      else cache.release.leaving now all + 1 := by
  by_cases stays : all = false ∧ now - record.tag.inserted < cache.window
  · rw [if_pos stays, leaving, records, List.takeWhile_cons, leaves_eq_false.mpr stays]
    rfl
  · have leaves := eq_true_of_ne_false (mt leaves_eq_false.mp stays)
    rw [if_neg stays, leaving, leaving, release_window, release_records, records,
      List.takeWhile_cons, leaves]
    rfl

theorem reclaimFrom_of_nil (none : cache.ring.records = []) (sink : Sink σ) (state : σ)
    (count : Nat) : cache.reclaimFrom sink now all state count = (cache, state, count) := by
  have front : cache.ring.front? = .none := by rw [RingBuffer.front?, none]; rfl
  rw [reclaimFrom]
  split
  · rfl
  · rename_i found
    cases front.symm.trans found

/-- One round of the loop. The event of the oldest entry can always be read. -/
theorem Legible.reclaimFrom_of_cons (legible : Legible cache) {record : Record Entry}
    {rest : List (Record Entry)} (records : cache.ring.records = record :: rest) (sink : Sink σ)
    (state : σ) (count : Nat) :
    cache.reclaimFrom sink now all state count =
      if all = false ∧ now - record.tag.inserted < cache.window then (cache, state, count)
      else
        cache.release.reclaimFrom sink now all (sink.flushEvent state (cache.eventOf record))
          (count + 1) := by
  have front : cache.ring.front? = some (cache.ring.released, record) := by
    rw [RingBuffer.front?, records]
    rfl
  rw [reclaimFrom]
  split
  · rename_i found
    cases front.symm.trans found
  · rename_i number first found
    obtain ⟨rfl, rfl⟩ := Prod.mk.inj (Option.some.inj (front.symm.trans found))
    simp only [legible.event?_front records]

/-- The loop releases the entries that leave, and tells about their events in the order of the
queue. -/
theorem Legible.reclaimFrom_eq (legible : Legible cache) (sink : Sink σ) (now : Nat) (all : Bool)
    (state : σ) (count : Nat) :
    cache.reclaimFrom sink now all state count =
      (cache.releaseMany (cache.leaving now all),
        (cache.events.take (cache.leaving now all)).foldl sink.flushEvent state,
        count + cache.leaving now all) := by
  induction records : cache.ring.records generalizing cache state count with
  | nil =>
    have nobody : cache.leaving now all = 0 := by rw [leaving, records]; rfl
    rw [reclaimFrom_of_nil records, nobody]
    rfl
  | cons record rest ih =>
    rw [legible.reclaimFrom_of_cons records, leaving_of_records records]
    split
    · rfl
    · have one := legible.placed.release
      have remaining : cache.release.ring.records = rest := by
        rw [release_records, records, List.drop_one, List.tail_cons]
      have oldest : cache.events.take 1 = [cache.eventOf record] := by rw [events, records]; rfl
      have first : cache.events = cache.eventOf record :: cache.release.events :=
        (oldest ▸ one.events).symm
      rw [ih (legible.loses one) _ _ remaining, first, List.take_succ_cons, List.foldl_cons,
        releaseMany, Nat.add_assoc, Nat.add_comm 1]

theorem leaving_le (cache : Cache) (now : Nat) (all : Bool) :
    cache.leaving now all ≤ cache.ring.records.length := (List.takeWhile_prefix _).length_le

theorem reclaim_length (cache : Cache) (now : Nat) (all : Bool) :
    (cache.reclaim now all).2.length = cache.leaving now all := by
  rw [reclaim, List.length_map, List.length_take_of_le (leaving_le cache now all)]

theorem reclaim_eq_take (cache : Cache) (now : Nat) (all : Bool) :
    (cache.reclaim now all).2 = cache.events.take (cache.reclaim now all).2.length := by
  rw [reclaim_length, events, ← List.map_take, reclaim]

theorem reclaim_eq_releaseMany (cache : Cache) (now : Nat) (all : Bool) :
    (cache.reclaim now all).1 = cache.releaseMany (cache.reclaim now all).2.length := by
  rw [reclaim_length, reclaim]

/-- The loop hands over what a reclaim hands over. -/
theorem Legible.reclaimInto_eq (legible : Legible cache) (sink : Sink σ) (state : σ) (now : Nat)
    (all : Bool) :
    cache.reclaimInto sink state now all =
      ((cache.reclaim now all).1,
        if (cache.reclaim now all).2 = [] then state
        else sink.batchComplete ((cache.reclaim now all).2.foldl sink.flushEvent state),
        (cache.reclaim now all).2.length) := by
  rw [reclaimInto, legible.reclaimFrom_eq, ← reclaim_length, ← reclaim_eq_take, Nat.zero_add,
    ← reclaim_eq_releaseMany]
  cases (cache.reclaim now all).2 with
  | nil => rfl
  | cons event later => simp

/-- The sink of an endpoint: events go to the transport, and a batch is flushed. -/
def forwarding (network : Network) (now : Nat) (exiting : Bool) :
    Sink (Transport × FlushOutcome) where
  flushEvent := fun (transport, flushed) event =>
    ((transport.send network event now exiting).1, flushed)
  batchComplete := fun (transport, flushed) =>
    let (transport, outcome) := transport.flush network exiting
    (transport, flushed.and outcome)

/-- An endpoint forwards what the loop hands to its sink. -/
theorem Legible.reclaimInto_forwarding (legible : Legible cache) (network : Network)
    (transport : Transport) (now : Nat) (all exiting : Bool) :
    cache.reclaimInto (forwarding network now exiting) (transport, .empty) now all =
      ((cache.reclaim now all).1,
        Endpoint.forward transport network now exiting (cache.reclaim now all).2,
        (cache.reclaim now all).2.length) := by
  have sent (left : List Event) :
      left.foldl (forwarding network now exiting).flushEvent (transport, .empty) =
        (Endpoint.sendAll transport network now exiting left, .empty) :=
    List.foldl_hom (fun transport => (transport, FlushOutcome.empty)) fun _ _ => rfl
  have flushed (outcome : FlushOutcome) : FlushOutcome.empty.and outcome = outcome := by
    cases outcome <;> rfl
  rw [legible.reclaimInto_eq, sent, Endpoint.forward]
  simp only [forwarding, flushed]

end MetricPipeline.Cache

/-! ## Changes of a record that stays -/

namespace MetricPipeline.RingBuffer

variable {α : Type} {ring next : RingBuffer α} {record : Record α} {number : Nat}

/-- A ring with a live record has an oldest one. -/
theorem exists_pop? (found : ring.record? number = some record) :
    ∃ oldest next, ring.pop? = some (oldest, next) := by
  obtain ⟨before, after, records, -⟩ := record?_eq_some found
  unfold pop?
  split
  · rename_i none
    cases (List.append_eq_nil_iff.mp (records.symm.trans none)).2
  · exact ⟨_, _, rfl⟩

/-- A release leaves the records of all other numbers as they are. -/
theorem pop?_record? (popped : ring.pop? = some (record, next)) (stays : number ≠ ring.released) :
    next.record? number = ring.record? number := by
  obtain ⟨found, released, -⟩ := pop?_eq_some popped
  simp only [record?, found, released]
  grind

/-- A write into a record that stays can come before a release or after it. -/
theorem pop?_write (popped : ring.pop? = some (record, next)) (stays : number ≠ ring.released)
    (position : Nat) (bytes : List UInt8) :
    (ring.write number position bytes).pop? = some (record, next.write number position bytes) := by
  obtain ⟨-, -, region, -⟩ := pop?_eq_some popped
  rw [write, write, pop?_record? popped stays, region]
  cases ring.record? number with
  | none => exact popped
  | some other =>
    unfold pop? at popped ⊢
    dsimp only
    split at popped
    · cases popped
    · obtain ⟨rfl, rfl⟩ := Prod.mk.inj (Option.some.inj popped)
      rfl

/-- So can a change of tag. -/
theorem pop?_setTag (popped : ring.pop? = some (record, next)) (stays : number ≠ ring.released)
    (tag : α) : (ring.setTag number tag).pop? = some (record, next.setTag number tag) := by
  obtain ⟨records, released, -⟩ := pop?_eq_some popped
  rw [setTag, setTag, pop?_record? popped stays]
  cases found : ring.record? number with
  | none => exact popped
  | some other =>
    obtain ⟨before, after, -, numbered⟩ := record?_eq_some found
    have later : number - ring.released = number - next.released + 1 := by omega
    rw [records, later]
    unfold pop? at popped ⊢
    split at popped
    · cases popped
    · obtain ⟨rfl, rfl⟩ := Prod.mk.inj (Option.some.inj popped)
      simp only [List.set_cons_succ, List.set_eq_nil_iff]

/-- What does not look at bytes does not see a write. -/
theorem write_eq (ring : RingBuffer α) (number position : Nat) (bytes : List UInt8) :
    ∃ region, ring.write number position bytes = { ring with region } := by
  unfold write
  split
  · exact ⟨ring.region, rfl⟩
  · exact ⟨_, rfl⟩

/-- What is the same in the old and the new tag does not see a change of tag. -/
theorem map_records_setTag {β : Type} (field : α → β) (found : ring.record? number = some record)
    {tag : α} (same : field tag = field record.tag) :
    ((ring.setTag number tag).records.map fun record => field record.tag) =
      ring.records.map fun record => field record.tag := by
  obtain ⟨before, after, split, numbered⟩ := record?_eq_some found
  rw [setTag, found]
  simp [numbered, split, same]

end MetricPipeline.RingBuffer

namespace MetricPipeline.Cache

variable {cache next merged : Cache} {event : Event} {now number : Nat} {all : Bool}

/-- A change of the ring that can wait for a release of the oldest record can wait for a release of
the oldest entry. -/
theorem release_edit {record : Record Entry} {ring : RingBuffer Entry}
    (edit : RingBuffer Entry → RingBuffer Entry) (popped : cache.ring.pop? = some (record, ring))
    (edited : (edit cache.ring).pop? = some (record, edit ring)) :
    release { cache with ring := edit cache.ring } =
      { cache.release with ring := edit cache.release.ring } := by
  unfold release
  rw [popped, edited]
  dsimp only
  split <;> rfl

/-- A merge into an entry that stays can come before the oldest entry leaves or after it. -/
theorem merge?_release {oldest record : Record Entry} {ring : RingBuffer Entry}
    (popped : cache.ring.pop? = some (oldest, ring)) (stays : number ≠ cache.ring.released)
    {sample : Sample} (done : cache.merge? number record sample = some merged) :
    cache.release.merge? number record sample = some merged.release := by
  obtain ⟨remaining, cap, -⟩ := release_eq popped
  have bytes : cache.release.ring.bytesOf = cache.ring.bytesOf := by
    obtain ⟨-, -, region, -⟩ := RingBuffer.pop?_eq_some popped
    funext extent
    rw [remaining, RingBuffer.bytesOf, RingBuffer.bytesOf, region]
  have written (position : Nat) (word : UInt64) :=
    RingBuffer.pop?_write popped stays position (Wire.word64 word)
  have appended (position : Nat) (word : UInt64) (entry : Entry) :
      ((cache.ring.write number position (Wire.word64 word)).setTag number entry).pop? =
        some (oldest, (ring.write number position (Wire.word64 word)).setTag number entry) := by
    apply RingBuffer.pop?_setTag (written position word)
    obtain ⟨region, same⟩ := cache.ring.write_eq number position (Wire.word64 word)
    rwa [same]
  cases sample with
  | counter amount =>
    obtain rfl := Option.some.inj done
    rw [merge?, bytes]
    exact congrArg some (release_edit (·.write _ _ _) popped (written _ _)).symm
  | value _ | unique _ =>
    obtain ⟨more, made⟩ := Option.ite_none_right_eq_some.mp done
    obtain rfl := Option.some.inj made
    rw [merge?, room_congr cap, if_pos more]
    exact congrArg some
      (release_edit (fun ring => (ring.write _ _ _).setTag _ _) popped (appended _ _ _)).symm

/-! ## Merging into an entry that stays -/

/-- At a time, an event is merged into the entry of a number, and this is the cache afterwards. -/
structure MergesInto (cache : Cache) (event : Event) (time number : Nat) (merged : Cache) :
    Prop where
  /-- The key of the event leads to the entry. -/
  leads : cache.index.lookup (cache.keyOf event) = some number
  /-- The event is merged. -/
  answer : cache.ingest event time false = (merged, .merged, [])

theorem insert_ne_merged (cache : Cache) (event : Event) (sample : Sample) (now : Nat) :
    (cache.insert event sample now).2.1 ≠ .merged := by
  unfold insert
  split
  · nofun
  · dsimp only
    split
    · nofun
    · split <;> nofun

/-- What a merge says about the cache. None of it depends on the time. -/
theorem MergesInto.inv {time : Nat} (into : MergesInto cache event time number merged) :
    ∃ sample record, cache.room event.kind ≠ 0 ∧ event.single? = some sample ∧
      cache.ring.record? number = some record ∧ cache.hasShapeOf record event = true ∧
      cache.merge? number record sample = some merged := by
  obtain ⟨leads, answer⟩ := into
  have inserts (cache : Cache) (sample : Sample) :
      cache.insert event sample time ≠ (merged, .merged, []) := fun same =>
    cache.insert_ne_merged event sample time (congrArg (·.2.1) same)
  unfold ingest at answer
  dsimp only at answer
  rw [leads] at answer
  split at answer
  · cases answer
  · rename_i open_
    split at answer
    · cases answer
    · rename_i sample single
      dsimp only at answer
      split at answer
      · cases answer
      · rename_i record found
        split at answer
        · rename_i alike
          split at answer
          · rename_i other done
            obtain rfl := congrArg Prod.fst answer
            exact ⟨sample, record, (not_or.mp open_).2, single, found, alike, done⟩
          · exact absurd answer (inserts _ sample)
        · cases answer

/-- An event is merged into an entry after the oldest one has left as it was before, also when both
have the same key. -/
theorem MergesInto.release {time later : Nat} (into : MergesInto cache event time number merged)
    (placed : Placed cache) (stays : number ≠ cache.ring.released) :
    MergesInto cache.release event later number merged.release := by
  obtain ⟨sample, record, roomy, single, found, alike, done⟩ := into.inv
  obtain ⟨oldest, ring, popped⟩ := RingBuffer.exists_pop? found
  obtain ⟨remaining, cap, -⟩ := release_eq popped
  obtain ⟨-, -, region, -⟩ := RingBuffer.pop?_eq_some popped
  have leads : cache.release.index.lookup (cache.release.keyOf event) = some number := by
    obtain ⟨entry, live, marked, key⟩ := (placed.findable.found _ _).mp into.leads
    refine (placed.findable.release.found _ _).mpr ⟨entry, ?_, marked, ?_⟩
    · rw [remaining, RingBuffer.pop?_tag? popped, if_neg stays]
      exact live
    · rw [key, keyOf_congr cap]
  have still : cache.release.ring.record? number = some record := by
    rw [remaining, RingBuffer.pop?_record? popped stays]
    exact found
  have shaped : cache.release.hasShapeOf record event = true := by
    rw [hasShapeOf, remaining, RingBuffer.bytesOf, region, room_congr cap]
    exact alike
  exact ⟨leads, ingest_of_merge? (room_congr cap ▸ roomy) single leads still shaped
    (merge?_release popped stays done) later⟩

theorem MergesInto.releaseMany {time later : Nat}
    (into : MergesInto cache event time number merged) (placed : Placed cache) {count : Nat}
    (stays : cache.ring.released + count ≤ number) :
    MergesInto (cache.releaseMany count) event later number (merged.releaseMany count) := by
  induction count generalizing cache merged time with
  | zero =>
    obtain ⟨sample, record, roomy, single, found, alike, done⟩ := into.inv
    exact ⟨into.leads, ingest_of_merge? roomy single into.leads found alike done later⟩
  | succ count ih =>
    have one : MergesInto cache.release event time number merged.release :=
      into.release placed (by omega)
    obtain ⟨_, _, -, -, found, -⟩ := into.inv
    obtain ⟨oldest, ring, popped⟩ := RingBuffer.exists_pop? found
    obtain ⟨-, released, -⟩ := RingBuffer.pop?_eq_some popped
    refine ih one placed.release.placed ?_
    rw [(release_eq popped).1, released]
    omega

/-- How many entries leave depends on when they came. -/
theorem leaving_congr (window : next.window = cache.window)
    (times : next.ring.records.map (·.tag.inserted) = cache.ring.records.map (·.tag.inserted)) :
    next.leaving now all = cache.leaving now all := by
  have counted (cache : Cache) : cache.leaving now all =
      ((cache.ring.records.map (·.tag.inserted)).takeWhile fun time =>
        all || decide (cache.window ≤ now - time)).length := by
    rw [List.takeWhile_map, List.length_map]
    rfl
  rw [counted, counted, window, times]

/-- A merge does not change when entries came. -/
theorem leaving_merge? {record : Record Entry} (found : cache.ring.record? number = some record)
    {sample : Sample} (done : cache.merge? number record sample = some merged) :
    merged.leaving now all = cache.leaving now all := by
  cases sample with
  | counter amount =>
    obtain rfl := Option.some.inj done
    refine leaving_congr rfl ?_
    obtain ⟨region, written⟩ := cache.ring.write_eq number 0 (Wire.word64 _)
    dsimp only
    rw [written]
  | value _ | unique _ =>
    obtain ⟨-, made⟩ := Option.ite_none_right_eq_some.mp done
    obtain rfl := Option.some.inj made
    refine leaving_congr rfl ?_
    obtain ⟨region, written⟩ := cache.ring.write_eq number (record.tag.samples * sampleSize)
      (Wire.word64 _)
    dsimp only
    rw [written]
    have still : RingBuffer.record? { cache.ring with region } number = some record := found
    exact RingBuffer.map_records_setTag Entry.inserted still rfl

/-- What a reclaim leaves takes the same samples before and after it. -/
theorem MergesInto.reclaim {time later : Nat} (into : MergesInto cache event time number merged)
    (placed : Placed cache) (stays : cache.ring.released + cache.leaving now all ≤ number) :
    MergesInto (cache.reclaim now all).1 event later number (merged.reclaim now all).1 := by
  obtain ⟨_, _, -, -, found, -, done⟩ := into.inv
  rw [Cache.reclaim, Cache.reclaim, leaving_merge? found done]
  exact into.releaseMany placed stays

/-- An event is merged into an entry: its sample joins those of the entry, and no other event
changes. -/
theorem MergesInto.takes {time : Nat} (into : MergesInto cache event time number merged)
    (filed : Filed cache) :
    ∃ older held newer sample samples, number = cache.ring.released + older.length ∧
      event.single? = some sample ∧ cache.events = older ++ held :: newer ∧
      held.shape = event.shape ∧ held.samples.push? sample = some samples ∧
      merged.events = older ++ { held with samples } :: newer := by
  obtain ⟨sample, record, -, single, found, alike, done⟩ := into.inv
  obtain ⟨older, newer, stands⟩ := RingBuffer.exists_stands found
  obtain ⟨-, cap, after, others, absorbed, altered⟩ := filed.placed.merge? stands done
  rw [← (Event.single?_eq_some single).1] at absorbed
  have finds := filed.placed.finds into.leads alike stands
  obtain ⟨words, rest, area⟩ := (filed.filled _ stands.mem).area
  obtain ⟨count, more, samples, -, -, pushed, holds, -⟩ := finds.absorb single area absorbed
  refine ⟨older.map cache.eventIn, _, newer.map cache.eventIn, sample, samples, ?_, single, ?_,
    finds.same, pushed, ?_⟩
  · rw [List.length_map, stands.number]
  · rw [events_eq, stands.cells, List.map_append, List.map_cons]
  · rw [events_of_cells cap altered, List.map_append, List.map_cons, holds]

/-! ## Runs -/

/-- When an operation takes place. -/
def Operation.time : Operation → Nat
  | .ingest _ now _ | .reclaim now _ | .onTimer now | .drain now => now

theorem Trace.step_ages (trace : Trace) (operation : Operation) :
    Ages operation.time trace.cache (trace.step operation).cache := by
  cases operation with
  | ingest event now exiting =>
    have after : (trace.step (.ingest event now exiting)).cache =
        (trace.cache.ingest event now exiting).1 := Trace.answered_cache _ event _
    rw [after]
    exact (offered_ingest trace.cache event now exiting).ages
  | reclaim now all => exact ((thins_reclaim trace.cache now all).passes now).toAges
  | onTimer now => exact ages_onTimer trace.cache now
  | drain now =>
    have ages := ((thins_reclaim { trace.cache with timer := Deadline.unarmed } now true).passes
      now).toAges
    exact ⟨ages.window, ages.admitted, ages.kept, ages.fresh⟩

theorem Trace.run_window (trace : Trace) (operations : List Operation) :
    (operations.foldl Trace.step trace).cache.window = trace.cache.window := by
  induction operations generalizing trace with
  | nil => rfl
  | cons operation rest ih => exact (ih _).trans (trace.step_ages operation).window

/-- While times do not decrease, entries are in the order of the times at which they came. -/
theorem Trace.run_inOrder {trace : Trace} {clock : Nat} {operations : List Operation}
    (inOrder : InOrder clock trace.cache)
    (times : (clock :: operations.map Operation.time).Pairwise (· ≤ ·)) :
    ∃ later, InOrder later (operations.foldl Trace.step trace).cache := by
  induction operations generalizing trace clock with
  | nil => exact ⟨clock, inOrder⟩
  | cons operation rest ih =>
    obtain ⟨first, others⟩ := List.pairwise_cons.mp times
    exact ih (inOrder.ages (first _ List.mem_cons_self) (trace.step_ages operation)) others

/-! ## The main statement -/

/-- All entries that leave have been held for the window, or all entries leave. -/
theorem mem_leaving {record : Record Entry}
    (member : record ∈ cache.ring.records.take (cache.leaving now all)) :
    all = true ∨ cache.window ≤ now - record.tag.inserted := by
  rw [leaving, ← List.prefix_iff_eq_take.mp (List.takeWhile_prefix _)] at member
  have leaves := List.mem_takeWhile_imp member
  rwa [Bool.or_eq_true, Entry.isExpired, decide_eq_true_eq] at leaves

/-- The first one that stays has not. -/
theorem first_staying {record : Record Entry}
    (first : cache.ring.records[cache.leaving now all]? = some record) :
    all = false ∧ now - record.tag.inserted < cache.window := by
  have rest : cache.ring.records.drop (cache.leaving now all) =
      cache.ring.records.dropWhile fun record => all || record.tag.isExpired cache.window now := by
    have cut := congrArg (List.drop (cache.leaving now all)) (List.takeWhile_append_dropWhile
      (p := fun record : Record Entry => all || record.tag.isExpired cache.window now)
      (l := cache.ring.records))
    exact cut.symm.trans List.drop_left
  have stays := List.head?_dropWhile_not
    (fun record : Record Entry => all || record.tag.isExpired cache.window now) cache.ring.records
  rw [← rest, List.head?_drop, first] at stays
  exact leaves_eq_false.mp stays

theorem reclaim_released (cache : Cache) (now : Nat) (all : Bool) :
    (cache.reclaim now all).1.ring.released = cache.ring.released + cache.leaving now all := by
  have admitted := (thins_reclaim cache now all).admitted
  have enough := leaving_le cache now all
  have remaining : (cache.reclaim now all).1.ring.records.length = _ :=
    congrArg List.length (releaseMany_records cache (cache.leaving now all))
  rw [List.length_drop] at remaining
  unfold Cache.admitted RingBuffer.length at admitted
  omega

/-- In order, no entry is expired once the first one is not. -/
theorem InOrder.reclaim {clock : Nat} (inOrder : InOrder clock cache) {record : Record Entry}
    (stays : record ∈ (cache.reclaim now false).1.ring.records) :
    now - record.tag.inserted < cache.window := by
  have arrived (place : Nat) (inside : place < cache.ring.records.length) :
      cache.arrival? (cache.ring.released + place) =
        some cache.ring.records[place].tag.inserted := by
    simp [arrival?, RingBuffer.tag?, RingBuffer.record?, inside]
  rw [Cache.reclaim, releaseMany_records, List.mem_drop_iff_getElem] at stays
  obtain ⟨behind, inside, rfl⟩ := stays
  have first : cache.leaving now false < cache.ring.records.length := by omega
  have older := inOrder.ordered (by omega) (arrived _ first)
    (arrived (cache.leaving now false + behind) (by omega))
  obtain ⟨-, young⟩ := first_staying (List.getElem?_eq_getElem first)
  omega

/-- **A reclaim is exact.** In every state of every run, the events that are handed over are the
longest prefix of the queue whose entries have been held for the window, or the whole queue. The
loop tells any sink about each of them once, in the order of the queue, completes the batch if there
is one, and counts them. The other entries are as they were, and an event that would have been
merged into one of them before is merged into it afterwards. While the times of a run do not
decrease, no entry that stays has been held for the window. -/
theorem reclaim_exact (size window sampleCap : Nat) (operations : List Operation) (now : Nat)
    (all : Bool) :
    let cache := (run size window sampleCap operations).cache
    let rest := (cache.reclaim now all).1
    let left := (cache.reclaim now all).2
    left = cache.events.take left.length ∧
      (∀ record ∈ cache.ring.records.take left.length,
        all = true ∨ window ≤ now - record.tag.inserted) ∧
      (∀ record, cache.ring.records[left.length]? = some record →
        all = false ∧ now - record.tag.inserted < window) ∧
      (∀ (σ : Type u) (sink : Sink σ) (state : σ), cache.reclaimInto sink state now all =
        (rest, if left = [] then state else sink.batchComplete (left.foldl sink.flushEvent state),
          left.length)) ∧
      rest.ring.records = cache.ring.records.drop left.length ∧
      rest.events = cache.events.drop left.length ∧
      (∀ event time number merged, cache.MergesInto event time number merged →
        rest.ring.released ≤ number →
        ∀ later, rest.MergesInto event later number (merged.reclaim now all).1) ∧
      ((operations.map Operation.time).Pairwise (· ≤ ·) →
        ∀ record ∈ (cache.reclaim now false).1.ring.records,
          now - record.tag.inserted < window) := by
  intro cache rest left
  have legible : Legible cache :=
    enduring_legible.run (legible_empty size window sampleCap) operations
  have lasting : cache.window = window := Trace.run_window _ operations
  have count : left.length = cache.leaving now all := reclaim_length cache now all
  refine ⟨reclaim_eq_take cache now all, ?_, ?_,
    fun σ sink state => legible.reclaimInto_eq sink state now all, ?_, ?_, ?_, ?_⟩
  · intro record member
    rw [count] at member
    exact lasting ▸ mem_leaving member
  · intro record first
    rw [count] at first
    exact lasting ▸ first_staying first
  · rw [count]
    exact releaseMany_records cache _
  · have split : left ++ rest.events = cache.events := (legible.placed.reclaim now all).events
    rw [← split, List.drop_left]
  · intro event time number merged into stays later
    have bound : cache.ring.released + cache.leaving now all ≤ number :=
      reclaim_released cache now all ▸ stays
    exact into.reclaim legible.placed bound
  · intro times record stays
    have since : (0 :: operations.map Operation.time).Pairwise (· ≤ ·) :=
      List.pairwise_cons.mpr ⟨fun _ _ => Nat.zero_le _, times⟩
    obtain ⟨clock, inOrder⟩ : ∃ clock, InOrder clock cache :=
      Trace.run_inOrder (inOrder_empty size window sampleCap 0) since
    exact lasting ▸ inOrder.reclaim stays

/-- A delay without dimensions. -/
def delay (bits : UInt64) : Event :=
  { name := "delay", samples := .value [⟨bits⟩], dimensions := [] }

/-- Three delays, of which an entry takes two: the third one gets another entry of the same key. -/
def successorRun : List Operation :=
  [.ingest (delay 1) 5 false, .ingest (delay 2) 6 false, .ingest (delay 3) 9 false]

theorem successorRun_reclaim_exact :
    let cache := (run 400 10 2 successorRun).cache
    let rest := (cache.reclaim 16 false).1
    let left := (cache.reclaim 16 false).2
    let merged := (cache.ingest (delay 4) 9 false).1
    (successorRun.map Operation.time).Pairwise (· ≤ ·) ∧ cache.length = 2 ∧
      (∀ record ∈ cache.ring.records, record.tag.key = cache.keyOf (delay 4)) ∧
      cache.MergesInto (delay 4) 9 1 merged ∧ rest.ring.released = 1 ∧ left.length = 1 ∧
      left = cache.events.take 1 ∧
      (∀ (σ : Type) (sink : Sink σ) (state : σ), cache.reclaimInto sink state 16 false =
        (rest, if left = [] then state else sink.batchComplete (left.foldl sink.flushEvent state),
          left.length)) ∧
      rest.events = cache.events.drop 1 ∧
      (∀ later, rest.MergesInto (delay 4) later 1 (merged.reclaim 16 false).1) ∧
      ∀ record ∈ rest.ring.records, 16 - record.tag.inserted < 10 := by
  intro cache rest left merged
  have times : (successorRun.map Operation.time).Pairwise (· ≤ ·) := by decide
  have into : cache.MergesInto (delay 4) 9 1 merged := by
    constructor
    · decide +kernel
    · decide +kernel
  have oldest : rest.ring.released = 1 := by decide +kernel
  have one : left.length = 1 := by decide +kernel
  obtain ⟨taken, -, -, loop, -, stay, merges, young⟩ :=
    reclaim_exact 400 10 2 successorRun 16 false
  exact ⟨times, by decide +kernel, by decide +kernel, into, oldest, one, one ▸ taken, loop,
    one ▸ stay, merges _ _ _ _ into (Nat.le_of_eq oldest), young times⟩

end MetricPipeline.Cache
