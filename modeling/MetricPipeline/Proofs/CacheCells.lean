import MetricPipeline.Proofs.CacheEntries
import MetricPipeline.Proofs.CacheIndex

/-!
What each operation of a cache does to its cells.

A cell is an entry with its bytes, and stands for an event. An operation hands over the events of
the oldest cells and keeps the others, and offering an event changes at most one cell: a new one
comes last, or the one that the key leads to takes the sample or, when it is full, loses its mark.
All of this holds for events of any width.
-/

namespace MetricPipeline.Cache

variable {cache next : Cache}

/-! ## Cells as events -/

/-- The event that a cell stands for. -/
def eventIn (cache : Cache) (cell : Entry × List UInt8) : Event :=
  cell.1.event (cache.room cell.1.key.kind) cell.2

theorem events_eq (cache : Cache) : cache.events = cache.ring.cells.map cache.eventIn := by
  rw [events, RingBuffer.cells, List.map_map]
  rfl

/-- The room of an entry, the key of an event and the event of a cell depend on the cap alone. -/
theorem room_congr (cap : next.sampleCap = cache.sampleCap) : next.room = cache.room := by
  funext kind
  cases kind with
  | counter => rfl
  | value => exact cap
  | unique => exact cap

theorem keyOf_congr (cap : next.sampleCap = cache.sampleCap) : next.keyOf = cache.keyOf := by
  funext event
  rw [keyOf, keyOf, entrySize, entrySize, room_congr cap]

theorem eventIn_congr (cap : next.sampleCap = cache.sampleCap) : next.eventIn = cache.eventIn := by
  funext cell
  rw [eventIn, eventIn, room_congr cap]

/-- So the events of a cache can be read off its cells with another cache of the same cap. -/
theorem events_of_cells (cap : next.sampleCap = cache.sampleCap) {cells : List (Entry × List UInt8)}
    (holds : next.ring.cells = cells) : next.events = cells.map cache.eventIn := by
  rw [events_eq, eventIn_congr cap, holds]

theorem eventIn_kind (cache : Cache) (cell : Entry × List UInt8) :
    (cache.eventIn cell).kind = cell.1.key.kind := by
  show (cell.1.samplesIn cell.2).kind = _
  unfold Entry.samplesIn
  split <;> rename_i kind <;> rw [kind] <;> rfl

theorem room_of_ne_counter (cache : Cache) {kind : Kind} (notCounter : kind ≠ .counter) :
    cache.room kind = cache.sampleCap := by
  cases kind with
  | counter => exact absurd rfl notCounter
  | value => rfl
  | unique => rfl

/-! ## Leaving -/

/-- The ring is well laid out, and the index finds its entries. -/
structure Placed (cache : Cache) : Prop where
  /-- No two entries overlap. -/
  layout : cache.ring.Layout
  /-- Index and entries agree. -/
  findable : Findable cache

/-- The events of the oldest cells left, and the other cells stayed as they were. -/
structure Loses (cache next : Cache) (left : List Event) : Prop where
  /-- The rest is still in place. -/
  placed : Placed next
  /-- What was there is what is gone and what is there. -/
  cells : ∃ gone, cache.ring.cells = gone ++ next.ring.cells ∧ left = gone.map cache.eventIn
  /-- The cap is the same. -/
  cap : next.sampleCap = cache.sampleCap
  /-- A key that led nowhere still does. -/
  unknown : ∀ key, cache.index.lookup key = none → next.index.lookup key = none

/-- What stays was there. -/
theorem Loses.mem {left : List Event} (loses : Loses cache next left) {cell : Entry × List UInt8}
    (member : cell ∈ next.ring.cells) : cell ∈ cache.ring.cells := by
  obtain ⟨gone, cells, -⟩ := loses.cells
  exact cells ▸ List.mem_append_right gone member

theorem Loses.refl (placed : Placed cache) : Loses cache cache [] :=
  ⟨placed, ⟨[], rfl, rfl⟩, rfl, fun _ unknown => unknown⟩

theorem Loses.trans {last : Cache} {first second : List Event} (loses : Loses cache next first)
    (more : Loses next last second) : Loses cache last (first ++ second) := by
  obtain ⟨gone, before, rfl⟩ := loses.cells
  obtain ⟨later, after, rfl⟩ := more.cells
  refine ⟨more.placed, ⟨gone ++ later, ?_, ?_⟩, more.cap.trans loses.cap,
    fun key unknown => more.unknown key (loses.unknown key unknown)⟩
  · rw [before, after, List.append_assoc]
  · rw [List.map_append, eventIn_congr loses.cap]

theorem Loses.withTimer {left : List Event} (loses : Loses cache next left) (timer : Deadline) :
    Loses cache { next with timer } left :=
  ⟨⟨loses.placed.layout, loses.placed.findable.congr rfl fun _ => rfl⟩, loses.cells, loses.cap,
    loses.unknown⟩

theorem armTimer_eq (cache : Cache) : ∃ timer, cache.armTimer = { cache with timer } := by
  unfold armTimer
  split
  · exact ⟨_, rfl⟩
  · exact ⟨cache.timer, rfl⟩

theorem Loses.armTimer {left : List Event} (loses : Loses cache next left) :
    Loses cache next.armTimer left := by
  obtain ⟨timer, armed⟩ := armTimer_eq next
  rw [armed]
  exact loses.withTimer timer

theorem placed_empty (size window cap : Nat) : Placed (Cache.empty size window cap) :=
  ⟨RingBuffer.layout_empty size, findable_empty size window cap⟩

/-- A release changes the ring and may forget a key. -/
theorem release_eq {record : Record Entry} {ring : RingBuffer Entry}
    (popped : cache.ring.pop? = some (record, ring)) :
    cache.release.ring = ring ∧ cache.release.sampleCap = cache.sampleCap ∧
      ∀ key, cache.index.lookup key = none → cache.release.index.lookup key = none := by
  unfold Cache.release
  rw [popped]
  dsimp only
  split
  · refine ⟨rfl, rfl, fun key unknown => ?_⟩
    exact (lookup_unindex { cache with ring } record.tag.key key).trans (by rw [unknown, ite_self])
  · exact ⟨rfl, rfl, fun _ unknown => unknown⟩

/-- A release hands over the oldest event, if there is one. -/
theorem Placed.release (placed : Placed cache) :
    Loses cache cache.release (cache.events.take 1) := by
  cases popped : cache.ring.pop? with
  | none =>
    have nothing : cache.events = [] := by
      rw [events_eq, RingBuffer.pop?_eq_none.mp popped, List.map_nil]
    have same : cache.release = cache := by rw [Cache.release, popped]
    rw [same, nothing]
    exact Loses.refl placed
  | some pair =>
    obtain ⟨record, ring⟩ := pair
    obtain ⟨remaining, cap, unknown⟩ := release_eq popped
    have cells := RingBuffer.pop?_cells popped
    rw [← remaining] at cells
    refine ⟨⟨?_, placed.findable.release⟩, ⟨[_], cells, ?_⟩, cap, unknown⟩
    · rw [remaining]
      exact placed.layout.pop popped
    · rw [events_eq, cells, List.map_cons, List.take_succ_cons, List.take_zero]
      rfl

theorem Loses.events {left : List Event} (loses : Loses cache next left) :
    left ++ next.events = cache.events := by
  obtain ⟨gone, cells, rfl⟩ := loses.cells
  rw [events_of_cells loses.cap rfl, events_eq, cells, List.map_append]

theorem Placed.releaseMany (placed : Placed cache) (count : Nat) :
    Loses cache (cache.releaseMany count) (cache.events.take count) := by
  induction count generalizing cache with
  | zero => exact Loses.refl placed
  | succ count ih =>
    have one := placed.release
    have rest : cache.release.events = cache.events.drop 1 :=
      List.append_cancel_left (one.events.trans (List.take_append_drop 1 cache.events).symm)
    have all := one.trans (ih one.placed)
    rwa [rest, ← List.take_add, Nat.add_comm 1 count] at all

theorem Placed.reclaim (placed : Placed cache) (now : Nat) (all : Bool) :
    Loses cache (cache.reclaim now all).1 (cache.reclaim now all).2 := by
  have loses := placed.releaseMany (cache.leaving now all)
  rwa [Cache.events, ← List.map_take] at loses

theorem Placed.disarm (placed : Placed cache) :
    Loses cache { cache with timer := Deadline.unarmed } [] :=
  (Loses.refl placed).withTimer Deadline.unarmed

theorem Placed.onTimer (placed : Placed cache) (now : Nat) :
    Loses cache (cache.onTimer now).1 (cache.onTimer now).2 := by
  unfold Cache.onTimer
  split
  · have disarmed := placed.disarm
    exact disarmed.trans (disarmed.placed.reclaim now false).armTimer
  · exact Loses.refl placed

theorem Placed.drain (placed : Placed cache) (now : Nat) :
    Loses cache (cache.drain now).1 (cache.drain now).2 :=
  placed.disarm.trans (placed.disarm.placed.reclaim now true)

/-! ## Arriving -/

/-- The key of an event leads to this cell, and the cell has the shape of the event. No newer cell
has the key. -/
structure Finds (cache : Cache) (event : Event) (entry : Entry) (bytes : List UInt8)
    (newer : List (Entry × List UInt8)) : Prop where
  /-- It can be found. -/
  marked : entry.isIndexed = true
  /-- It is found by the key of the event. -/
  key : entry.key = cache.keyOf event
  /-- Its event has the shape of the other one. -/
  same : (cache.eventIn (entry, bytes)).shape = event.shape
  /-- It is the newest one. -/
  newest : ∀ cell ∈ newer, cell.1.key ≠ cache.keyOf event

/-- A cell that takes the sample of an event changes nothing but its samples, which take it too. -/
theorem Finds.absorb {event : Event} {sample : Sample} {entry after : Entry}
    {bytes others rest : List UInt8} {newer : List (Entry × List UInt8)} {words : List UInt64}
    (finds : Finds cache event entry bytes newer) (single : event.single? = some sample)
    (area : entry.Area (cache.room entry.key.kind) bytes words rest)
    (absorbed : entry.absorb? (cache.room event.kind) bytes sample = some (after, others)) :
    ∃ count more samples, after = { entry with samples := count } ∧
      after.Area (cache.room entry.key.kind) others more rest ∧
      (cache.eventIn (entry, bytes)).samples.push? sample = some samples ∧
      cache.eventIn (after, others) = { cache.eventIn (entry, bytes) with samples } ∧
      (event.kind ≠ .counter → samples.length ≤ cache.sampleCap) := by
  have kind : entry.key.kind = event.kind := congrArg Key.kind finds.key
  have sampled : event.kind = sample.kind := (Event.single?_eq_some single).1
  rw [← kind] at absorbed
  obtain ⟨count, more, rfl, grown, pushed⟩ := area.absorb (fun counter => by
    rw [kind, sampled, counter]
    rfl) absorbed
  rw [← sampled, ← kind] at pushed
  refine ⟨count, more, .ofWords entry.key.kind more, rfl, grown, ?_, ?_, fun notCounter => ?_⟩
  · exact (congrArg (·.push? sample) area.samplesIn).trans pushed
  · simp only [eventIn, grown.event, area.event]
  · have roomy := grown.roomy
    rwa [kind, Samples.ofWords_length notCounter, ← cache.room_of_ne_counter notCounter, ← kind]

/-- The cell of a new entry, whose bytes were others before. -/
def newCell (cache : Cache) (event : Event) (sample : Sample) (now : Nat) (fresh : List UInt8) :
    Entry × List UInt8 :=
  (.ofEvent (cache.keyOf event) event now,
    overlay (overlay fresh 0 (Wire.word64 sample.word)) (cache.room event.kind * sampleSize)
      event.valueBytes)

theorem area_newCell (event : Event) (sample : Sample) (now : Nat) {fresh : List UInt8}
    (roomy : cache.room event.kind ≠ 0) (size : fresh.length = cache.entrySize event) :
    ∃ slack, (cache.newCell event sample now fresh).1.Area (cache.room event.kind)
      (cache.newCell event sample now fresh).2 [sample.word] (event.valueBytes ++ slack) := by
  obtain ⟨room, roomEq⟩ := Nat.exists_eq_succ_of_ne_zero roomy
  rw [entrySize, roomEq, Nat.succ_sub_one] at size
  rw [newCell, roomEq]
  exact Entry.area_ofEvent event (cache.keyOf event) now sample.word room size

/-- What an event that is offered does to the cells. -/
inductive Alters (cache : Cache) (event : Event) (now : Nat) :
    List (Entry × List UInt8) → Intake → List (Entry × List UInt8) → Prop where
  /-- Nothing. -/
  | rejected (cells : List (Entry × List UInt8)) : Alters cache event now cells .rejected cells
  /-- It comes last. -/
  | buffered (cells : List (Entry × List UInt8)) (sample : Sample) (fresh : List UInt8)
      (single : event.single? = some sample) (roomy : cache.room event.kind ≠ 0)
      (size : fresh.length = cache.entrySize event) :
      Alters cache event now cells .buffered (cells ++ [cache.newCell event sample now fresh])
  /-- The cell that it finds takes its sample. -/
  | merged (older newer : List (Entry × List UInt8)) (entry after : Entry)
      (bytes others : List UInt8) (sample : Sample) (single : event.single? = some sample)
      (finds : Finds cache event entry bytes newer)
      (absorbed : entry.absorb? (cache.room event.kind) bytes sample = some (after, others)) :
      Alters cache event now (older ++ (entry, bytes) :: newer) .merged
        (older ++ (after, others) :: newer)
  /-- The cell that it finds has no room and loses its mark; and then something else. -/
  | detached (older newer after : List (Entry × List UInt8)) (entry : Entry) (bytes : List UInt8)
      (sample : Sample) (intake : Intake) (single : event.single? = some sample)
      (finds : Finds cache event entry bytes newer)
      (full : entry.absorb? (cache.room event.kind) bytes sample = none)
      (further : Alters cache event now
        (older ++ ({ entry with isIndexed := false }, bytes) :: newer) intake after) :
      Alters cache event now (older ++ (entry, bytes) :: newer) intake after

/-- Altering depends on the cap alone. -/
theorem Alters.congr {event : Event} {now : Nat} {cells after : List (Entry × List UInt8)}
    {intake : Intake} (alters : Alters next event now cells intake after)
    (cap : next.sampleCap = cache.sampleCap) : Alters cache event now cells intake after := by
  have finds {entry : Entry} {bytes : List UInt8} {newer : List (Entry × List UInt8)}
      (finds : Finds next event entry bytes newer) : Finds cache event entry bytes newer := by
    obtain ⟨marked, key, same, newest⟩ := finds
    rw [keyOf_congr cap] at key newest
    rw [eventIn_congr cap] at same
    exact ⟨marked, key, same, newest⟩
  have room := room_congr cap
  have size : next.entrySize event = cache.entrySize event :=
    congrArg Key.size (congrFun (keyOf_congr cap) event)
  induction alters with
  | rejected cells => exact .rejected cells
  | buffered cells sample fresh single roomy length =>
    rw [newCell, keyOf_congr cap, room]
    exact .buffered cells sample fresh single (room ▸ roomy) (length.trans size)
  | merged older newer entry after bytes others sample single found absorbed =>
    exact .merged older newer entry after bytes others sample single (finds found)
      (room ▸ absorbed)
  | detached older newer after entry bytes sample intake single found full further ih =>
    exact .detached older newer after entry bytes sample intake single (finds found) (room ▸ full)
      ih

/-- An answer to an event: it altered the cells, and then the oldest of them may have left. -/
structure Answers (cache : Cache) (event : Event) (now : Nat)
    (answer : Cache × Intake × List Event) : Prop where
  /-- Everything is still in place. -/
  placed : Placed answer.1
  /-- The cap is the same. -/
  cap : answer.1.sampleCap = cache.sampleCap
  /-- What became of the cells. -/
  cells : ∃ altered gone, Alters cache event now cache.ring.cells answer.2.1 altered ∧
    altered = gone ++ answer.1.ring.cells ∧ answer.2.2 = gone.map cache.eventIn

/-- What stays is among what the event altered. -/
theorem Answers.exists_alters {event : Event} {now : Nat} {answer : Cache × Intake × List Event}
    (answers : Answers cache event now answer) :
    ∃ altered, Alters cache event now cache.ring.cells answer.2.1 altered ∧
      ∀ cell ∈ answer.1.ring.cells, cell ∈ altered := by
  obtain ⟨altered, gone, alters, cells, -⟩ := answers.cells
  exact ⟨altered, alters, fun cell member => cells ▸ List.mem_append_right gone member⟩

theorem Placed.reject (placed : Placed cache) (event : Event) (now : Nat) :
    Answers cache event now (cache, .rejected, []) :=
  ⟨placed, rfl, _, [], .rejected _, rfl, rfl⟩

/-- What an insertion does, when there is room. -/
theorem insert?_eq_some {event : Event} {sample : Sample} {now : Nat} {inserted : Cache}
    (done : cache.insert? event sample now = some inserted) :
    ∃ number ring,
      cache.ring.alloc? (cache.keyOf event).size (.ofEvent (cache.keyOf event) event now) =
        some (number, ring) ∧
      inserted.ring = (ring.write number 0 (Wire.word64 sample.word)).write number
        (cache.room event.kind * sampleSize) event.valueBytes ∧
      inserted.index = (cache.setIndex (cache.keyOf event) number).index ∧
      inserted.sampleCap = cache.sampleCap := by
  obtain ⟨⟨number, ring⟩, allocated, made⟩ := Option.map_eq_some_iff.mp done
  dsimp only at made
  obtain ⟨timer, armed⟩ := armTimer_eq (Cache.setIndex { cache with
    ring := (ring.write number 0 (Wire.word64 sample.word)).write number
      (cache.room event.kind * sampleSize) event.valueBytes } (cache.keyOf event) number)
  obtain rfl := made.symm.trans armed
  exact ⟨number, ring, allocated, rfl, rfl, rfl⟩

/-- A new entry stands behind all others. -/
theorem Placed.insert? (placed : Placed cache) {event : Event} {sample : Sample} {now : Nat}
    {inserted : Cache} (unknown : cache.index.lookup (cache.keyOf event) = none)
    (done : cache.insert? event sample now = some inserted) :
    Placed inserted ∧ inserted.sampleCap = cache.sampleCap ∧
      ∃ fresh, fresh.length = cache.entrySize event ∧
        inserted.ring.cells = cache.ring.cells ++ [cache.newCell event sample now fresh] := by
  obtain ⟨number, ring, allocated, written, index, cap⟩ := insert?_eq_some done
  have findable := placed.findable.insert allocated rfl unknown
  have layout := placed.layout.alloc allocated
  obtain ⟨fresh, size, stands, -⟩ := RingBuffer.alloc?_stands allocated
  have filled := (stands.write layout 0 (Wire.word64 sample.word)).write
    (layout.write number 0 _) (cache.room event.kind * sampleSize) event.valueBytes
  rw [← written] at filled
  refine ⟨⟨?_, findable.congr index fun other => ?_⟩, cap, fresh, size, filled.cells⟩
  · rw [written]
    exact (layout.write _ _ _).write _ _ _
  · rw [written]
    exact (RingBuffer.tag?_write _ _ _ _ _).trans (RingBuffer.tag?_write _ _ _ _ _)

/-- An event whose key leads nowhere gets an entry at once, or after others have left, or none. -/
theorem Placed.insert (placed : Placed cache) {event : Event} {sample : Sample}
    (single : event.single? = some sample) (now : Nat) (roomy : cache.room event.kind ≠ 0)
    (unknown : cache.index.lookup (cache.keyOf event) = none) :
    Answers cache event now (cache.insert event sample now) := by
  unfold Cache.insert
  split
  · rename_i inserted done
    obtain ⟨still, cap, fresh, size, cells⟩ := placed.insert? unknown done
    exact ⟨still, cap, _, [], .buffered _ sample fresh single roomy size, cells.symm, rfl⟩
  · have loses := placed.reclaim now false
    generalize cache.reclaim now false = reclaimed at loses
    obtain ⟨rest, left⟩ := reclaimed
    obtain ⟨gone, before, leaves⟩ := loses.cells
    have leaves : left = gone.map cache.eventIn := leaves
    dsimp only
    split
    · rename_i none
      subst none
      obtain rfl := List.map_eq_nil_iff.mp leaves.symm
      exact ⟨loses.placed, loses.cap, _, [], .rejected _, before, rfl⟩
    · split
      · rename_i inserted done
        have unknown : rest.index.lookup (rest.keyOf event) = none := by
          rw [keyOf_congr loses.cap]
          exact loses.unknown _ unknown
        obtain ⟨still, cap, fresh, size, cells⟩ := loses.placed.insert? unknown done
        have sameSize : rest.entrySize event = cache.entrySize event :=
          congrArg Key.size (congrFun (keyOf_congr loses.cap) event)
        rw [newCell, keyOf_congr loses.cap, room_congr loses.cap] at cells
        refine ⟨still, cap.trans loses.cap, _, gone,
          .buffered _ sample fresh single roomy (size.trans sameSize), ?_, leaves⟩
        rw [before, List.append_assoc, cells]
        rfl
      · exact ⟨loses.placed, loses.cap, _, gone, .rejected _, before, leaves⟩

/-- A key leads to the newest cell with this key. -/
theorem Placed.finds (placed : Placed cache) {event : Event} {number : Nat} {record : Record Entry}
    {older newer : List (Entry × List UInt8)}
    (leads : cache.index.lookup (cache.keyOf event) = some number)
    (alike : cache.hasShapeOf record event = true)
    (stands : cache.ring.Stands number older (record.tag, cache.ring.bytesOf record.extent) newer) :
    Finds cache event record.tag (cache.ring.bytesOf record.extent) newer := by
  obtain ⟨entry, live, marked, key⟩ := (placed.findable.found _ _).mp leads
  obtain rfl : record.tag = entry := Option.some.inj (stands.tag?.symm.trans live)
  refine ⟨marked, key, ?_, fun cell member same => ?_⟩
  · obtain ⟨name, dimensions⟩ := Entry.dimensionsIn_of_hasShape alike
    have kind : (cache.eventIn (record.tag, cache.ring.bytesOf record.extent)).kind =
        event.kind := by
      rw [eventIn_kind, key]
      rfl
    rw [Event.shape, Event.shape, kind, ← name, ← dimensions]
    rfl
  · -- behind a newer cell of this key, this one would not be marked
    obtain ⟨higher, above, there⟩ := stands.newer cell member
    have unmarked := placed.findable.newest number higher _ _ above live there (key.trans same.symm)
    rw [marked] at unmarked
    cases unmarked

theorem absorb?_of_merge?_eq_none {number : Nat} {record : Record Entry} {sample : Sample}
    (full : cache.merge? number record sample = none) :
    record.tag.absorb? (cache.room sample.kind) (cache.ring.bytesOf record.extent) sample =
      none := by
  cases sample with
  | counter amount => cases full
  | value size =>
    simpa only [Cache.merge?, Entry.absorb?, ite_eq_right_iff, reduceCtorEq, imp_false] using full
  | unique id =>
    simpa only [Cache.merge?, Entry.absorb?, ite_eq_right_iff, reduceCtorEq, imp_false] using full

/-- A merge lets a cell take the sample. -/
theorem Placed.merge? (placed : Placed cache) {number : Nat} {record : Record Entry}
    {older newer : List (Entry × List UInt8)}
    (stands : cache.ring.Stands number older (record.tag, cache.ring.bytesOf record.extent) newer)
    {sample : Sample} {merged : Cache} (done : cache.merge? number record sample = some merged) :
    Placed merged ∧ merged.sampleCap = cache.sampleCap ∧ ∃ after others,
      record.tag.absorb? (cache.room sample.kind) (cache.ring.bytesOf record.extent) sample =
        some (after, others) ∧
      merged.ring.cells = older ++ (after, others) :: newer := by
  have writes (position : Nat) (bytes : List UInt8) :
      Placed { cache with ring := cache.ring.write number position bytes } :=
    ⟨placed.layout.write _ _ _,
      placed.findable.congr rfl fun other => RingBuffer.tag?_write _ _ _ _ _⟩
  by_cases isCounter : sample.kind = .counter
  · cases sample with
    | value size => cases isCounter
    | unique id => cases isCounter
    | counter amount =>
      obtain rfl := Option.some.inj done
      exact ⟨writes _ _, rfl, _, _, rfl, (stands.write placed.layout _ _).cells⟩
  · have appended : record.tag.samples < cache.room sample.kind ∧ merged =
        { cache with
          ring := (cache.ring.write number (record.tag.samples * sampleSize)
            (Wire.word64 sample.word)).setTag number
              { record.tag with samples := record.tag.samples + 1 } } := by
      cases sample with
      | counter amount => exact absurd rfl isCounter
      | value size =>
        obtain ⟨more, made⟩ := Option.ite_none_right_eq_some.mp done
        exact ⟨more, (Option.some.inj made).symm⟩
      | unique id =>
        obtain ⟨more, made⟩ := Option.ite_none_right_eq_some.mp done
        exact ⟨more, (Option.some.inj made).symm⟩
    obtain ⟨more, rfl⟩ := appended
    have written := stands.write placed.layout (record.tag.samples * sampleSize)
      (Wire.word64 sample.word)
    refine ⟨⟨(placed.layout.write _ _ _).setTag _ _,
      (writes _ _).findable.recount written.tag? (record.tag.samples + 1)⟩, rfl, _, _, ?_,
      (written.setTag _).cells⟩
    cases sample with
    | counter amount => exact absurd rfl isCounter
    | value size => exact if_pos more
    | unique id => exact if_pos more

theorem Placed.detach (placed : Placed cache) {number : Nat} {entry : Entry} {bytes : List UInt8}
    {older newer : List (Entry × List UInt8)}
    (stands : cache.ring.Stands number older (entry, bytes) newer)
    (marked : entry.isIndexed = true) :
    Placed (cache.detach number entry) ∧
      (cache.detach number entry).index.lookup entry.key = none ∧
      (cache.detach number entry).ring.cells =
        older ++ ({ entry with isIndexed := false }, bytes) :: newer := by
  obtain ⟨findable, unknown⟩ := placed.findable.detach stands.tag? marked
  exact ⟨⟨placed.layout.setTag _ _, findable⟩, unknown, (stands.setTag _).cells⟩

/-- Whatever becomes of an event, the cells say so. -/
theorem Placed.ingest (placed : Placed cache) (event : Event) (now : Nat) (exiting : Bool) :
    Answers cache event now (cache.ingest event now exiting) := by
  unfold Cache.ingest
  dsimp only
  split
  · exact placed.reject event now
  · rename_i open_
    obtain ⟨-, roomy⟩ := not_or.mp open_
    split
    · exact placed.reject event now
    · rename_i sample single
      split
      · rename_i unknown
        exact placed.insert single now roomy unknown
      · rename_i number leads
        split
        · exact placed.reject event now
        · rename_i record found
          split
          · rename_i alike
            obtain ⟨older, newer, stands⟩ := RingBuffer.exists_stands found
            have finds := placed.finds leads alike stands
            have kind : sample.kind = event.kind := (Event.single?_eq_some single).1.symm
            split
            · rename_i merged done
              obtain ⟨still, cap, after, others, absorbed, cells⟩ := placed.merge? stands done
              rw [kind] at absorbed
              refine ⟨still, cap, _, [], ?_, cells.symm, rfl⟩
              rw [stands.cells]
              exact .merged older newer _ after _ others sample single finds absorbed
            · rename_i full
              obtain ⟨still, unknown, cells⟩ := placed.detach stands finds.marked
              rw [finds.key] at unknown
              obtain ⟨placed, cap, altered, gone, alters, after, left⟩ :=
                still.insert single now roomy unknown
              refine ⟨placed, cap, altered, gone, ?_, after, left⟩
              have full := absorb?_of_merge?_eq_none full
              rw [kind] at full
              rw [stands.cells]
              rw [cells] at alters
              exact .detached older newer altered _ _ sample _ single finds full (alters.congr rfl)
          · exact placed.reject event now

end MetricPipeline.Cache
