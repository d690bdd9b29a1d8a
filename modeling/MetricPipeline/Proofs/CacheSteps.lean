import MetricPipeline.Proofs.CacheCells

/-!
What each operation of a cache does to the events it holds.

An operation hands over the oldest events and keeps the others, and offering an event does one of
three things to them: nothing, one more event at the end, or one more sample in the newest event of
the same shape. That the newest one is found although keys collide rests on the index and on every
entry having the key of the event it stands for.
-/

namespace MetricPipeline.Cache

variable {cache next : Cache}

/-! ## What holds of every cache that is used -/

/-- Events of one shape have one key. -/
theorem keyOf_shape (cache : Cache) {first second : Event} (same : first.shape = second.shape) :
    cache.keyOf first = cache.keyOf second := by
  obtain ⟨name, kind, dimensions⟩ := Shape.mk.inj same
  simp only [keyOf, entrySize, Event.digest, Event.valueSize, name, kind, dimensions]

/-- A cell keeps the samples and dimensions of some event, under the key of that event. -/
def Kept (cache : Cache) (cell : Entry × List UInt8) : Prop :=
  ∃ words dimensions, cell.1.Keeps (cache.room cell.1.key.kind) cell.2 words dimensions ∧
    cell.1.key = cache.keyOf (cache.eventIn cell)

theorem Kept.congr {cell : Entry × List UInt8} (kept : Kept cache cell)
    (cap : next.sampleCap = cache.sampleCap) : Kept next cell := by
  unfold Kept
  rw [room_congr cap, keyOf_congr cap, eventIn_congr cap]
  exact kept

/-- So a cell has the key of every event of its shape. -/
theorem Kept.key {cell : Entry × List UInt8} (kept : Kept cache cell) {event : Event}
    (same : (cache.eventIn cell).shape = event.shape) : cell.1.key = cache.keyOf event := by
  obtain ⟨-, -, -, keyed⟩ := kept
  rw [keyed, cache.keyOf_shape same]

/-- And it can be told from its bytes that it has this shape. -/
theorem Kept.hasShape {cell : Entry × List UInt8} (kept : Kept cache cell) {event : Event}
    (same : (cache.eventIn cell).shape = event.shape) :
    cell.1.hasShape (cache.room cell.1.key.kind) cell.2 event = true := by
  obtain ⟨words, dimensions, keeps, -⟩ := kept
  obtain ⟨name, -, held⟩ := Shape.mk.inj same
  have read : (cache.eventIn cell).dimensions = dimensions := congrArg Event.dimensions keeps.event
  exact keeps.hasShape name (read.symm.trans held)

/-- The ring is well laid out, the index finds its entries, and every entry keeps an event. -/
structure Sound (cache : Cache) : Prop where
  /-- No two entries overlap. -/
  layout : cache.ring.Layout
  /-- Index and entries agree. -/
  findable : Findable cache
  /-- Every entry keeps an event. -/
  kept : ∀ cell ∈ cache.ring.cells, Kept cache cell

theorem Sound.placed (sound : Sound cache) : Placed cache := ⟨sound.layout, sound.findable⟩

theorem sound_empty (size window cap : Nat) : Sound (Cache.empty size window cap) :=
  ⟨RingBuffer.layout_empty size, findable_empty size window cap,
    fun _ member => absurd member List.not_mem_nil⟩

/-! ## Leaving -/

/-- Some events left a cache, the oldest ones, and it is still sound. -/
structure Sheds (cache next : Cache) (left : List Event) : Prop where
  /-- What holds of every cache holds of the rest. -/
  sound : Sound next
  /-- What left and what is left is what was there. -/
  events : left ++ next.events = cache.events
  /-- The cap is the same. -/
  cap : next.sampleCap = cache.sampleCap

theorem Sound.sheds (sound : Sound cache) {left : List Event} (loses : Loses cache next left) :
    Sheds cache next left := by
  refine ⟨⟨loses.placed.layout, loses.placed.findable, fun cell member => ?_⟩, loses.events,
    loses.cap⟩
  exact (sound.kept cell (loses.mem member)).congr loses.cap

theorem Sound.reclaim (sound : Sound cache) (now : Nat) (all : Bool) :
    Sheds cache (cache.reclaim now all).1 (cache.reclaim now all).2 :=
  sound.sheds (sound.placed.reclaim now all)

theorem Sound.onTimer (sound : Sound cache) (now : Nat) :
    Sheds cache (cache.onTimer now).1 (cache.onTimer now).2 :=
  sound.sheds (sound.placed.onTimer now)

theorem Sound.drain (sound : Sound cache) (now : Nat) :
    Sheds cache (cache.drain now).1 (cache.drain now).2 :=
  sound.sheds (sound.placed.drain now)

/-! ## Arriving -/

/-- What offering an event does to the events that are held. -/
inductive Taken (cap : Nat) (event : Event) : List Event → Intake → List Event → Prop where
  /-- It is not taken. -/
  | rejected (held : List Event) : Taken cap event held .rejected held
  /-- It is held on its own. -/
  | buffered (held : List Event) (sample : Sample) (single : event.single? = some sample)
      (roomy : event.kind ≠ .counter → 1 ≤ cap) : Taken cap event held .buffered (held ++ [event])
  /-- Its sample is added to the newest event of its shape. -/
  | merged (older newer : List Event) (target : Event) (sample : Sample) (samples : Samples)
      (single : event.single? = some sample) (same : target.shape = event.shape)
      (newest : ∀ other ∈ newer, other.shape ≠ event.shape)
      (pushed : target.samples.push? sample = some samples)
      (roomy : event.kind ≠ .counter → samples.length ≤ cap) :
      Taken cap event (older ++ target :: newer) .merged
        (older ++ { target with samples } :: newer)

theorem Taken.eq_of_rejected {cap : Nat} {event : Event} {held after : List Event}
    (taken : Taken cap event held .rejected after) : after = held := by
  cases taken
  rfl

/-- An answer to an event: the cache is still sound, and what left it and what is left is what was
held, changed in one of three ways. -/
structure Admits (cache : Cache) (event : Event) (answer : Cache × Intake × List Event) : Prop where
  /-- What holds of every cache holds afterwards. -/
  sound : Sound answer.1
  /-- The cap is the same. -/
  cap : answer.1.sampleCap = cache.sampleCap
  /-- What became of the event. -/
  taken : Taken cache.sampleCap event cache.events answer.2.1 (answer.2.2 ++ answer.1.events)

/-- The cell of a new entry keeps its event. -/
theorem kept_newCell {event : Event} (storable : event.Storable) {sample : Sample}
    (single : event.single? = some sample) (roomy : cache.room event.kind ≠ 0) (now : Nat)
    {fresh : List UInt8} (size : fresh.length = cache.entrySize event) :
    Kept cache (cache.newCell event sample now fresh) ∧
      cache.eventIn (cache.newCell event sample now fresh) = event := by
  obtain ⟨slack, area⟩ := cache.area_newCell event sample now roomy size
  have stored : (cache.newCell event sample now fresh).1.dimensions =
      event.dimensions.map .ofDimension := by
    rw [newCell, Entry.ofEvent, List.take_of_length_le storable.1]
  have keeps := Entry.Area.keeps area stored storable.2
  have holds : cache.eventIn (cache.newCell event sample now fresh) = event :=
    keeps.event.trans (Event.single?_eq_some single).2.symm
  exact ⟨⟨_, _, keeps, congrArg cache.keyOf holds.symm⟩, holds⟩

/-- When every cell keeps an event, offering one more changes the events as it should. -/
theorem Alters.taken {event : Event} (storable : event.Storable) {now : Nat}
    {cells after : List (Entry × List UInt8)} {intake : Intake}
    (alters : Alters cache event now cells intake after) (kept : ∀ cell ∈ cells, Kept cache cell) :
    (∀ cell ∈ after, Kept cache cell) ∧
      Taken cache.sampleCap event (cells.map cache.eventIn) intake (after.map cache.eventIn) := by
  induction alters with
  | rejected cells => exact ⟨kept, .rejected _⟩
  | buffered cells sample fresh single roomy size =>
    obtain ⟨new, holds⟩ := kept_newCell storable single roomy now size
    rw [List.map_append, List.map_singleton, holds]
    refine ⟨List.forall_mem_append.mpr ⟨kept, List.forall_mem_singleton.mpr new⟩, ?_⟩
    refine .buffered _ sample single fun notCounter => ?_
    rw [← cache.room_of_ne_counter notCounter]
    exact Nat.one_le_iff_ne_zero.mpr roomy
  | merged older newer entry taking bytes others sample single finds absorbed =>
    obtain ⟨before, ⟨words, dimensions, keeps, key⟩, behind⟩ :
        (∀ cell ∈ older, Kept cache cell) ∧ Kept cache (entry, bytes) ∧
          ∀ cell ∈ newer, Kept cache cell := by
      simpa only [List.forall_mem_append, List.forall_mem_cons] using kept
    obtain ⟨slack, area⟩ := keeps.area
    obtain ⟨count, more, samples, rfl, grown, pushed, holds, capped⟩ :=
      finds.absorb single area absorbed
    have shape : (cache.eventIn ({ entry with samples := count }, others)).shape = event.shape := by
      rw [← finds.same, Event.shape, Event.shape, eventIn_kind, eventIn_kind, holds]
    have new : Kept cache ({ entry with samples := count }, others) :=
      ⟨more, dimensions, grown.keeps keeps.stored keeps.small,
        by rw [cache.keyOf_shape shape]; exact finds.key⟩
    constructor
    · simpa only [List.forall_mem_append, List.forall_mem_cons] using ⟨before, new, behind⟩
    · rw [List.map_append, List.map_append, List.map_cons, List.map_cons, holds]
      refine .merged _ _ _ sample samples single finds.same ?_ pushed capped
      rintro other member same
      obtain ⟨cell, later, rfl⟩ := List.mem_map.mp member
      exact finds.newest cell later ((behind cell later).key same)
  | detached older newer after entry bytes sample intake single finds full further ih =>
    obtain ⟨before, ⟨words, dimensions, keeps, key⟩, behind⟩ :
        (∀ cell ∈ older, Kept cache cell) ∧ Kept cache (entry, bytes) ∧
          ∀ cell ∈ newer, Kept cache cell := by
      simpa only [List.forall_mem_append, List.forall_mem_cons] using kept
    have marked : Kept cache ({ entry with isIndexed := false }, bytes) :=
      ⟨words, dimensions, keeps.detach, key⟩
    have all := ih (by
      simpa only [List.forall_mem_append, List.forall_mem_cons] using ⟨before, marked, behind⟩)
    rw [List.map_append, List.map_cons] at all ⊢
    exact all

/-- Whatever becomes of an event, the cache accounts for it. -/
theorem Sound.ingest (sound : Sound cache) {event : Event} (storable : event.Storable) (now : Nat)
    (exiting : Bool) : Admits cache event (cache.ingest event now exiting) := by
  obtain ⟨placed, cap, altered, gone, alters, cells, left⟩ := sound.placed.ingest event now exiting
  obtain ⟨kept, taken⟩ := alters.taken storable sound.kept
  refine ⟨⟨placed.layout, placed.findable, fun cell member => ?_⟩, cap, ?_⟩
  · exact (kept cell (cells ▸ List.mem_append_right gone member)).congr cap
  · rw [left, events_of_cells cap rfl, ← List.map_append, ← cells, events_eq]
    exact taken

end MetricPipeline.Cache
