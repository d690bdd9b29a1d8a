import MetricPipeline.Proofs.EntrySlots

/-!
No access to the bytes of an entry strays, whatever is asked of a cache.

The operations of a cache are written once more with every access checked: the words of samples are
copied in front of the values, the values one by one behind the room for all samples, and entries are
compared and read as they leave. Every operation gives the answer that it gives without the checks,
and so does a run. Events may be of any width, and their values of any length.
-/

namespace MetricPipeline.Cache

/-! ## Operations with every access checked -/

/-- Copies bytes into the slot of a number from a position on, unless this access strays. -/
def copyInSlot (ring : RingBuffer Entry) (number room : Nat) (zone : Zone) (start : Nat)
    (bytes : List UInt8) : Except Access (RingBuffer Entry) :=
  match ring.record? number with
  | none => return ring
  | some record =>
    let access : Access := { zone, start, size := bytes.length }
    if access.Within room record.extent.size then .ok (ring.write number start bytes)
    else .error access

/-- Copies the values of dimensions into a slot, one after another from a position on. -/
def copyValuesInSlot (ring : RingBuffer Entry) (number room : Nat) :
    Nat → List Dimension → Except Access (RingBuffer Entry)
  | _, [] => return ring
  | start, dimension :: rest => do
    let value := dimension.value.toUTF8.data.toList
    let copied ← copyInSlot ring number room .values start value
    copyValuesInSlot copied number room (start + value.length) rest

/-- Puts an event into an entry of its own; none when the ring has no room. -/
def insertInSlot (cache : Cache) (event : Event) (sample : Sample) (now : Nat) :
    Except Access (Option Cache) :=
  let key := cache.keyOf event
  let room := cache.room event.kind
  match cache.ring.alloc? key.size (.ofEvent key event now) with
  | none => return none
  | some (number, ring) => do
    let sampled ← copyInSlot ring number room .samples 0 (Wire.word64 sample.word)
    let ring ← copyValuesInSlot sampled number room (room * sampleSize) event.dimensions
    return some ({ cache with ring }.setIndex key number).armTimer

/-- Releases the oldest entry while its window has passed, or in any case, keeps its event if it can
be read, and counts on. -/
def reclaimFromInSlots (now : Nat) (all : Bool) (cache : Cache) (left : List Event) (count : Nat) :
    Except Access (Cache × List Event × Nat) :=
  match _front : cache.ring.front? with
  | none => return (cache, left, count)
  | some (number, record) =>
    if all = false ∧ now - record.tag.inserted < cache.window then return (cache, left, count)
    else do
      let event ← cache.eventInSlot number
      reclaimFromInSlots now all cache.release (left ++ event.toList) (count + 1)
termination_by cache.length
decreasing_by exact release_length _front

/-- Hands over the entries whose window has passed, or all of them, and counts them. -/
def reclaimInSlots (cache : Cache) (now : Nat) (all : Bool) :
    Except Access (Cache × List Event × Nat) :=
  cache.reclaimFromInSlots now all [] 0

/-- Puts an event into an entry of its own. When there is no room, the entries whose window has passed
make room. -/
def insertInSlots (cache : Cache) (event : Event) (sample : Sample) (now : Nat) :
    Except Access (Cache × Intake × List Event) := do
  match ← cache.insertInSlot event sample now with
  | some inserted => return (inserted, .buffered, [])
  | none =>
    let (rest, left, count) ← cache.reclaimInSlots now false
    if count = 0 then return (rest, .rejected, left)
    else
      match ← rest.insertInSlot event sample now with
      | some inserted => return (inserted, .buffered, left)
      | none => return (rest, .rejected, left)

/-- Merges a sample into the record of a number and says what became of it; none when the entry is
full. -/
def mergeInSlot (cache : Cache) (number : Nat) (record : Record Entry) (sample : Sample) :
    Except Access (Option (Cache × Intake)) :=
  let room := cache.room sample.kind
  match sample with
  | .counter amount => do
    match ← firstInSlot .counter room (cache.ring.bytesOf record.extent) with
    | .counter sum =>
      let ring ← copyInSlot cache.ring number room .samples 0 (Wire.word64 (sum + amount).bits)
      return some ({ cache with ring }, .merged)
    | .value _ | .unique _ => return some (cache, .rejected)
  | .value _ | .unique _ =>
    if record.tag.samples < room then do
      let ring ← copyInSlot cache.ring number room .samples (record.tag.samples * sampleSize)
        (Wire.word64 sample.word)
      return some ({ cache with
        ring := ring.setTag number { record.tag with samples := record.tag.samples + 1 } }, .merged)
    else return none

/-- Offers an event to the cache. -/
def ingestInSlots (cache : Cache) (event : Event) (now : Nat) (exiting : Bool) :
    Except Access (Cache × Intake × List Event) :=
  let rejected := (cache, Intake.rejected, [])
  if exiting ∨ cache.room event.kind = 0 then return rejected
  else
    match event.single? with
    | none => return rejected
    | some sample =>
      match cache.index.lookup (cache.keyOf event) with
      | none => cache.insertInSlots event sample now
      | some number => do
        if ← cache.hasShapeInSlot number event then
          match cache.ring.record? number with
          | none => (cache.unindex (cache.keyOf event)).insertInSlots event sample now
          | some record =>
            match ← cache.mergeInSlot number record sample with
            | some (merged, intake) => return (merged, intake, [])
            | none => (cache.detach number record.tag).insertInSlots event sample now
        else return rejected

/-- Hands over the entries whose window has passed, once the timer is due. -/
def onTimerInSlots (cache : Cache) (now : Nat) : Except Access (Cache × List Event) :=
  if cache.timer.isDue now then do
    let (rest, left, _) ← { cache with timer := Deadline.unarmed }.reclaimInSlots now false
    return (rest.armTimer, left)
  else return (cache, [])

/-- Hands over all entries. -/
def drainInSlots (cache : Cache) (now : Nat) : Except Access (Cache × List Event) := do
  let (rest, left, _) ← { cache with timer := Deadline.unarmed }.reclaimInSlots now true
  return (rest, left)

/-- One operation. -/
def Trace.stepInSlots (trace : Trace) : Operation → Except Access Trace
  | .ingest event now exiting => do
    let (cache, intake, left) ← trace.cache.ingestInSlots event now exiting
    return (trace.hands cache left).answered event intake
  | .reclaim now all => do
    let (cache, left, _) ← trace.cache.reclaimInSlots now all
    return trace.hands cache left
  | .onTimer now => do
    let (cache, left) ← trace.cache.onTimerInSlots now
    return trace.hands cache left
  | .drain now => do
    let (cache, left) ← trace.cache.drainInSlots now
    return trace.hands cache left

/-- A run of a cache from its creation on. -/
def runInSlots (size window sampleCap : Nat) (operations : List Operation) : Except Access Trace :=
  operations.foldlM Trace.stepInSlots (Trace.new size window sampleCap)

variable {cache next : Cache} {event : Event} {now number : Nat} {all : Bool}

/-! ## Nothing that is written strays -/

theorem region_write_append (region : Region) (position : Nat) (first second : List UInt8) :
    region.write position (first ++ second) =
      (region.write position first).write (position + first.length) second := by
  induction first generalizing region position with
  | nil => rfl
  | cons byte rest ih =>
    rw [List.cons_append, Region.write, Region.write, ih, List.length_cons, Nat.add_assoc,
      Nat.add_comm 1]

theorem record?_write (ring : RingBuffer Entry) (number position : Nat) (bytes : List UInt8) :
    (ring.write number position bytes).record? = ring.record? := by
  obtain ⟨region, written⟩ := ring.write_eq number position bytes
  rw [written]
  rfl

theorem write_of_fits {ring : RingBuffer Entry} {record : Record Entry}
    (live : ring.record? number = some record) {position : Nat} {bytes : List UInt8}
    (fits : position + bytes.length ≤ record.extent.size) :
    ring.write number position bytes =
      { ring with region := ring.region.write (record.extent.offset + position) bytes } := by
  have whole : bytes.take (record.extent.size - position) = bytes :=
    List.take_of_length_le (by omega)
  simp only [RingBuffer.write, live, whole]

/-- What fits a slot can be written piece by piece. -/
theorem write_append {ring : RingBuffer Entry} {record : Record Entry}
    (live : ring.record? number = some record) {position : Nat} {first second : List UInt8}
    (fits : position + (first.length + second.length) ≤ record.extent.size) :
    ring.write number position (first ++ second) =
      (ring.write number position first).write number (position + first.length) second := by
  have written : (ring.write number position first).record? number = some record := by
    rw [record?_write, live]
  have whole : position + (first ++ second).length ≤ record.extent.size := by
    rwa [List.length_append]
  have front : position + first.length ≤ record.extent.size := by omega
  have back : position + first.length + second.length ≤ record.extent.size := by omega
  rw [write_of_fits live whole, write_of_fits written back, write_of_fits live front]
  simp only [region_write_append, Nat.add_assoc]

theorem copyInSlot_eq {ring : RingBuffer Entry} {record : Record Entry}
    (live : ring.record? number = some record) {room start : Nat} {zone : Zone}
    {bytes : List UInt8}
    (within : Access.Within { zone, start, size := bytes.length } room record.extent.size) :
    copyInSlot ring number room zone start bytes = .ok (ring.write number start bytes) := by
  rw [copyInSlot, live]
  exact if_pos within

/-- Values that are copied one by one are written as a whole. -/
theorem copyValuesInSlot_eq {ring : RingBuffer Entry} {record : Record Entry}
    (live : ring.record? number = some record) {room start : Nat} {dimensions : List Dimension}
    (behind : room * sampleSize ≤ start)
    (fits : start + valuesSize dimensions ≤ record.extent.size) :
    copyValuesInSlot ring number room start dimensions =
      .ok (ring.write number start (storedValues dimensions)) := by
  induction dimensions generalizing ring start with
  | nil =>
    rw [copyValuesInSlot, RingBuffer.write, live]
    simp only [storedValues, List.flatMap_nil, List.take_nil, Region.write]
    rfl
  | cons dimension rest ih =>
    have value := value_length dimension
    rw [valuesSize, ← value] at fits
    have inside : start + dimension.value.toUTF8.data.toList.length ≤ record.extent.size := by omega
    have written (bytes : List UInt8) :
        (ring.write number start bytes).record? number = some record := by
      rw [record?_write, live]
    rw [copyValuesInSlot, copyInSlot_eq live (Access.within_values behind inside)]
    refine (ih (written _) (Nat.le_add_right_of_le behind) (by omega)).trans ?_
    have split : storedValues (dimension :: rest) =
        dimension.value.toUTF8.data.toList ++ storedValues rest := rfl
    rw [split, write_append live]
    rw [storedValues_length]
    exact fits

/-- An event gets an entry of its own as before. -/
theorem insertInSlot_eq (cache : Cache) {event : Event} (roomy : cache.room event.kind ≠ 0)
    (sample : Sample) (now : Nat) :
    cache.insertInSlot event sample now = .ok (cache.insert? event sample now) := by
  unfold insertInSlot insert?
  dsimp only
  cases allocated : cache.ring.alloc? (cache.keyOf event).size
      (.ofEvent (cache.keyOf event) event now) with
  | none => rfl
  | some pair =>
    obtain ⟨number, ring⟩ := pair
    obtain ⟨fresh, size, stands, -⟩ := RingBuffer.alloc?_stands allocated
    obtain ⟨-, record, -, -, -, live, -, cell, -⟩ := stands.found
    have slot : record.extent.size = cache.entrySize event := by
      rw [(Prod.mk.inj cell).2, RingBuffer.bytesOf, Region.read_length] at size
      exact size
    have holds := slot ▸ cache.room_values_le roomy
    have wide := Nat.le_of_add_right_le holds
    have first : 0 + (Wire.word64 sample.word).length ≤ cache.room event.kind * sampleSize := by
      rw [word_length, Nat.zero_add]
      exact Nat.le_mul_of_pos_left sampleSize (Nat.pos_of_ne_zero roomy)
    have sampled :
        (ring.write number 0 (Wire.word64 sample.word)).record? number = some record := by
      rw [record?_write, live]
    simp only [copyInSlot_eq live (Access.within_samples first wide),
      copyValuesInSlot_eq sampled (Nat.le_refl _) holds, bind, Except.bind, Option.map_some]
    rfl

/-! ## Every operation -/

/-- Somebody who keeps the events that leave. -/
def collecting : Sink (List Event) where
  flushEvent left event := left ++ [event]
  batchComplete left := left

/-- The loop hands over what it would hand to a list. -/
theorem Fitting.reclaimFromInSlots_eq (fitting : Fitting cache) (now : Nat) (all : Bool)
    (left : List Event) (count : Nat) :
    cache.reclaimFromInSlots now all left count =
      .ok (cache.reclaimFrom collecting now all left count) := by
  fun_induction reclaimFrom collecting now all cache left count with
  -- nobody is left; the oldest entry stays; the oldest entry leaves, and its event can be read
  | case1 cache left count front =>
    rw [reclaimFromInSlots]
    split
    · rfl
    · rename_i found
      cases front.symm.trans found
  | case2 cache left count number record front stays =>
    rw [reclaimFromInSlots]
    split
    · rfl
    · rename_i found
      obtain ⟨rfl, rfl⟩ := Prod.mk.inj (Option.some.inj (front.symm.trans found))
      rw [if_pos stays]
      rfl
  | case3 cache left count number record front leaves told ih =>
    obtain ⟨first, head, same⟩ := Option.map_eq_some_iff.mp front
    obtain ⟨rfl, rfl⟩ := Prod.mk.inj same
    obtain ⟨rest, records⟩ := List.head?_eq_some_iff.mp head
    have live : cache.ring.record? cache.ring.released = some first := by
      simp [RingBuffer.record?, records]
    have hears : told = left ++ [cache.eventOf first] := by
      simp only [told, fitting.legible.event?_front records]
      rfl
    rw [← ih (fitting.loses fitting.placed.release), hears, reclaimFromInSlots]
    split
    · rename_i found
      cases front.symm.trans found
    · rename_i found
      obtain ⟨rfl, rfl⟩ := Prod.mk.inj (Option.some.inj (front.symm.trans found))
      rw [if_neg leaves, fitting.eventInSlot live]
      rfl

theorem collecting_foldl (left events : List Event) :
    events.foldl collecting.flushEvent left = left ++ events := by
  induction events generalizing left with
  | nil => exact (List.append_nil left).symm
  | cons event rest ih =>
    rw [List.foldl_cons, ih, collecting, List.append_assoc, List.singleton_append]

/-- Entries leave as before, and their events can be read. -/
theorem Fitting.reclaimInSlots (fitting : Fitting cache) (now : Nat) (all : Bool) :
    cache.reclaimInSlots now all =
      .ok ((cache.reclaim now all).1, (cache.reclaim now all).2,
        (cache.reclaim now all).2.length) := by
  rw [Cache.reclaimInSlots, fitting.reclaimFromInSlots_eq, fitting.legible.reclaimFrom_eq,
    collecting_foldl, List.nil_append, ← reclaim_length, ← reclaim_eq_take, Nat.zero_add,
    ← reclaim_eq_releaseMany]

/-- An event gets an entry at once, or after others have left, as before. -/
theorem Fitting.insertInSlots (fitting : Fitting cache) {event : Event}
    (roomy : cache.room event.kind ≠ 0) (sample : Sample) (now : Nat) :
    cache.insertInSlots event sample now = .ok (cache.insert event sample now) := by
  have cap := (fitting.placed.reclaim now false).cap
  rw [Cache.insertInSlots, Cache.insert, insertInSlot_eq cache roomy]
  cases cache.insert? event sample now with
  | some inserted => rfl
  | none =>
    simp only [bind, Except.bind, fitting.reclaimInSlots]
    generalize cache.reclaim now false = reclaimed at cap
    obtain ⟨rest, left⟩ := reclaimed
    cases left with
    | nil => rfl
    | cons first others =>
      have stillRoomy : rest.room event.kind ≠ 0 := by rwa [room_congr cap]
      dsimp only [List.length_cons]
      rw [if_neg (Nat.succ_ne_zero _), if_neg (List.cons_ne_nil _ _), insertInSlot_eq rest stillRoomy]
      cases rest.insert? event sample now with
      | some inserted => rfl
      | none => rfl

/-- A sample joins an entry of its kind as before. -/
theorem Fitting.mergeInSlot (fitting : Fitting cache) {record : Record Entry}
    (live : cache.ring.record? number = some record) {sample : Sample}
    (kind : record.tag.key.kind = sample.kind) :
    cache.mergeInSlot number record sample =
      .ok ((cache.merge? number record sample).map fun merged => (merged, .merged)) := by
  obtain ⟨⟨-, holds⟩, roomy⟩ := fitting.live live
  have wide := Nat.le_of_add_right_le holds
  dsimp only at wide roomy
  rw [kind] at wide roomy
  have size : (cache.ring.bytesOf record.extent).length = record.extent.size :=
    Region.read_length _ _ _
  have within {position : Nat} (inside : position < cache.room sample.kind) (word : UInt64) :
      Access.Within { zone := .samples, start := position * sampleSize,
                      size := (Wire.word64 word).length }
        (cache.room sample.kind) record.extent.size := by
    refine Access.within_samples ?_ (size ▸ wide)
    rw [word_length, ← Nat.succ_mul]
    exact Nat.mul_le_mul_right sampleSize (Nat.succ_le_of_lt inside)
  cases sample with
  | counter amount =>
    have positive := Nat.pos_of_ne_zero roomy
    have first : firstInSlot .counter (cache.room .counter) (cache.ring.bytesOf record.extent) = _ :=
      firstInSlot_eq roomy wide
    have summed (word : UInt64) := copyInSlot_eq live (within positive word)
    rw [Nat.zero_mul] at summed
    simp only [Cache.mergeInSlot, Sample.kind, first, Sample.ofWord, bind, Except.bind] at summed ⊢
    rw [summed]
    rfl
  | value _ | unique _ =>
    unfold Cache.mergeInSlot Cache.merge?
    dsimp only
    split
    · rename_i more
      rw [copyInSlot_eq live (within more _)]
      rfl
    · rfl

/-- An entry that is full loses its mark; nothing else changes. -/
theorem Fitting.detach (fitting : Fitting cache) {record : Record Entry}
    (live : cache.ring.record? number = some record) (marked : record.tag.isIndexed = true) :
    Fitting (cache.detach number record.tag) := by
  obtain ⟨older, newer, stands⟩ := RingBuffer.exists_stands live
  obtain ⟨placed, -, cells⟩ := fitting.placed.detach stands marked
  obtain ⟨⟨counted, holds⟩, here⟩ := fitting.live live
  have others (cell : Entry × List UInt8)
      (member : cell ∈ (cache.detach number record.tag).ring.cells) :
      cell = ({ record.tag with isIndexed := false }, cache.ring.bytesOf record.extent) ∨
        cell ∈ cache.ring.cells := by
    rw [cells, List.mem_append, List.mem_cons] at member
    rw [stands.cells, List.mem_append, List.mem_cons]
    rcases member with before | same | behind
    · exact .inr (.inl before)
    · exact .inl same
    · exact .inr (.inr (.inr behind))
  refine ⟨⟨placed, fun cell member => ?_⟩, fun cell member => ?_⟩
  · rcases others cell member with rfl | same
    · exact ⟨counted, holds⟩
    · exact (fitting.legible.readable cell same).congr rfl
  · rcases others cell member with rfl | same
    · exact here
    · exact fitting.roomy cell same

/-- An event is answered as before. -/
theorem Fitting.ingestInSlots (fitting : Fitting cache) (event : Event) (now : Nat)
    (exiting : Bool) :
    cache.ingestInSlots event now exiting = .ok (cache.ingest event now exiting) := by
  unfold Cache.ingestInSlots Cache.ingest
  dsimp only
  split
  · rfl
  · rename_i open_
    obtain ⟨-, roomy⟩ := not_or.mp open_
    cases single : event.single? with
    | none => rfl
    | some sample =>
      cases leads : cache.index.lookup (cache.keyOf event) with
      | none => exact fitting.insertInSlots roomy sample now
      | some number =>
        -- what the key leads to is live, and is an entry of the kind of the sample
        obtain ⟨entry, tag, marked, key⟩ := (fitting.placed.findable.found _ _).mp leads
        obtain ⟨record, live, rfl⟩ := Option.map_eq_some_iff.mp tag
        have kind : record.tag.key.kind = sample.kind :=
          (congrArg Key.kind key).trans (Event.single?_eq_some single).1
        simp only [fitting.hasShapeInSlot live event, live, bind, Except.bind]
        split
        · rw [fitting.mergeInSlot live kind]
          cases cache.merge? number record sample with
          | some merged => rfl
          | none => exact (fitting.detach live marked).insertInSlots roomy sample now
        · rfl

theorem Fitting.disarm (fitting : Fitting cache) :
    Fitting { cache with timer := Deadline.unarmed } := fitting.loses fitting.placed.disarm

/-- The timer is served as before. -/
theorem Fitting.onTimerInSlots (fitting : Fitting cache) (now : Nat) :
    cache.onTimerInSlots now = .ok (cache.onTimer now) := by
  unfold Cache.onTimerInSlots Cache.onTimer
  split
  · rw [fitting.disarm.reclaimInSlots]
    rfl
  · rfl

/-- Everything is handed over as before. -/
theorem Fitting.drainInSlots (fitting : Fitting cache) (now : Nat) :
    cache.drainInSlots now = .ok (cache.drain now) := by
  rw [Cache.drainInSlots, fitting.disarm.reclaimInSlots]
  rfl

/-- No operation strays. -/
theorem Trace.stepInSlots_eq {trace : Trace} (fitting : Fitting trace.cache)
    (operation : Operation) : trace.stepInSlots operation = .ok (trace.step operation) := by
  cases operation with
  | ingest event now exiting =>
    rw [stepInSlots, fitting.ingestInSlots]
    rfl
  | reclaim now all =>
    rw [stepInSlots, fitting.reclaimInSlots]
    rfl
  | onTimer now =>
    rw [stepInSlots, fitting.onTimerInSlots]
    rfl
  | drain now =>
    rw [stepInSlots, fitting.drainInSlots]
    rfl

theorem Trace.foldlM_stepInSlots {trace : Trace} (fitting : Fitting trace.cache)
    (operations : List Operation) :
    operations.foldlM stepInSlots trace = .ok (operations.foldl step trace) := by
  induction operations generalizing trace with
  | nil => rfl
  | cons operation rest ih =>
    rw [List.foldlM_cons, stepInSlots_eq fitting]
    exact ih (enduring_fitting.step fitting operation)

/-! ## The main statement -/

/-- **No access strays.** Whatever is asked of a cache of any size, over events of any width, the run
in which every access to the bytes of an entry is checked has no fault, and it is the run. In the state
after it a live entry has no more samples than there is room for, and behind that room its slot holds
all its values. So it can be compared with any event, and its own event can be read. -/
theorem run_stays_in_slots (size window sampleCap : Nat) (operations : List Operation) :
    let final := run size window sampleCap operations
    runInSlots size window sampleCap operations = .ok final ∧
    ∀ number record, final.cache.ring.record? number = some record →
      let room := final.cache.room record.tag.key.kind
      record.tag.samples ≤ room ∧
      room * sampleSize + storedSize record.tag.dimensions ≤ record.extent.size ∧
      (∀ event, final.cache.hasShapeInSlot number event =
        .ok (final.cache.hasShapeOf record event)) ∧
      final.cache.eventInSlot number = .ok (some (final.cache.eventOf record)) := by
  intro final
  have start := fitting_empty size window sampleCap
  have fitting : Fitting final.cache := enduring_fitting.run start operations
  refine ⟨Trace.foldlM_stepInSlots start operations, fun number record live => ?_⟩
  obtain ⟨⟨counted, holds⟩, -⟩ := fitting.live live
  rw [RingBuffer.bytesOf, Region.read_length] at holds
  exact ⟨counted, holds, fitting.hasShapeInSlot live, fitting.eventInSlot live⟩

/-- A count under one dimension more than an entry keeps, and two sizes of one shape. -/
def mixedRun : List Operation :=
  let dimension : Dimension := { key := "k", value := "v" }
  let wide : Event :=
    { name := "hits", samples := .counter ⟨1⟩, dimensions := List.replicate 18 dimension }
  [.ingest wide 0 false, .ingest (sized "ab" "c" 1) 1 false, .ingest (sized "ab" "c" 2) 2 false]

theorem mixedRun_stays_in_slots :
    let cache := (run 4096 1000 3 mixedRun).cache
    (∃ record, cache.ring.record? 0 = some record ∧ record.tag.dimensions.length = 17 ∧
      8 + storedSize record.tag.dimensions ≤ record.extent.size ∧
      cache.eventInSlot 0 = .ok (some (cache.eventOf record))) ∧
    ∃ record, cache.ring.record? 1 = some record ∧ record.tag.samples = 2 ∧
      24 + storedSize record.tag.dimensions ≤ record.extent.size ∧
      cache.eventInSlot 1 = .ok (some (cache.eventOf record)) := by
  intro cache
  obtain ⟨first, atFirst, counted, wide⟩ : ∃ record ∈ cache.ring.record? 0,
      cache.room record.tag.key.kind = 1 ∧ record.tag.dimensions.length = 17 := by decide +kernel
  obtain ⟨second, atSecond, three, two⟩ : ∃ record ∈ cache.ring.record? 1,
      cache.room record.tag.key.kind = 3 ∧ record.tag.samples = 2 := by decide +kernel
  obtain ⟨-, live⟩ := run_stays_in_slots 4096 1000 3 mixedRun
  obtain ⟨-, holds, -, read⟩ := live 0 first atFirst
  obtain ⟨-, alsoHolds, -, alsoRead⟩ := live 1 second atSecond
  rw [show Cache.room _ _ = 1 from counted] at holds
  rw [show Cache.room _ _ = 3 from three] at alsoHolds
  exact ⟨⟨first, atFirst, wide, holds, read⟩, second, atSecond, two, alsoHolds, alsoRead⟩

end MetricPipeline.Cache
