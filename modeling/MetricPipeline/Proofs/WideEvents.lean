import MetricPipeline.Proofs.FullEntries

/-!
What a cache keeps of events of any width.

An entry keeps the first dimensions of the event it is made for, although its key and its bytes come
from all of them. So an accepted event that is wider comes back without the others, and no further
event of its shape can join it. Every other accepted event comes back in one that has exactly its
shape: an event joins only an entry that stands for its shape as a whole.
-/

namespace MetricPipeline

/-! ## What remains of an event -/

/-- What an entry keeps of the shape of the event it is made for. -/
structure Event.Remains (opener : Event) (shape : Shape) : Prop where
  /-- The name is the same. -/
  name : shape.name = opener.name
  /-- So is the kind. -/
  kind : shape.kind = opener.kind
  /-- Of the dimensions the first ones remain, if no length among them is cut. -/
  dimensions : (∀ dimension ∈ opener.dimensions.take maxDimensions,
    dimension.value.utf8ByteSize < UInt32.size) →
      shape.dimensions = opener.dimensions.take maxDimensions
  /-- Only an event that can be stored comes back whole. -/
  whole : shape = opener.shape ↔ opener.Storable

/-- An event that was held, the event it began as, and the events that joined it, in order. -/
structure Parcel where
  /-- The event. -/
  event : Event
  /-- The event whose entry it is. -/
  opener : Event
  /-- The events that were merged into the entry. -/
  joined : List Event

/-- The events whose samples a parcel carries. -/
def Parcel.sources (parcel : Parcel) : List Event := parcel.opener :: parcel.joined

/-- A parcel carries the samples of its sources, in order, under what remains of the first one's
shape. That is exactly the shape of all others. -/
structure Parcel.Fair (parcel : Parcel) : Prop where
  /-- What remains of the first event. -/
  remains : parcel.opener.Remains parcel.event.shape
  /-- An event joins only under its own shape. -/
  alike : ∀ source ∈ parcel.joined, source.shape = parcel.event.shape
  /-- No sample is lost. -/
  carries : parcel.event.samples.StandsFor (parcel.sources.flatMap (·.samples.list))

/-- Every event that is held has its parcel, the parcels are in the order of their first events, and
every accepted event is in one of them. -/
structure Packs (parcels : List Parcel) (held opened accepted : List Event) : Prop where
  /-- The events that are held. -/
  held : parcels.map (·.event) = held
  /-- The events they began as. -/
  opened : parcels.map (·.opener) = opened
  /-- No accepted event is missing or there twice. -/
  complete : (parcels.flatMap (·.sources)).Perm accepted
  /-- Every parcel is fair. -/
  fair : ∀ parcel ∈ parcels, parcel.Fair

variable {parcels : List Parcel} {held opened accepted : List Event}

/-- An event opens a parcel behind all others. -/
theorem Packs.opens (packs : Packs parcels held opened accepted) {event kept : Event}
    (remains : event.Remains kept.shape) (samples : kept.samples = event.samples) :
    ∃ grown, Packs grown (held ++ [kept]) (opened ++ [event]) (accepted ++ [event]) := by
  refine ⟨parcels ++ [{ event := kept, opener := event, joined := [] }], ?_, ?_, ?_, ?_⟩
  · rw [List.map_append, packs.held, List.map_singleton]
  · rw [List.map_append, packs.opened, List.map_singleton]
  · rw [List.flatMap_append, List.flatMap_singleton]
    exact packs.complete.append_right [event]
  · refine List.forall_mem_append.mpr ⟨packs.fair, List.forall_mem_singleton.mpr ?_⟩
    refine ⟨remains, nofun, ?_⟩
    rw [Parcel.sources, List.flatMap_singleton, samples]
    exact event.samples.standsFor_list

/-- An event joins a parcel of its shape. -/
theorem Packs.joins {older newer : List Event} {target event : Event}
    (packs : Packs parcels (older ++ target :: newer) opened accepted) {sample : Sample}
    {samples : Samples} (single : event.single? = some sample) (same : target.shape = event.shape)
    (pushed : target.samples.push? sample = some samples) :
    ∃ grown, Packs grown (older ++ { target with samples } :: newer) opened
      (accepted ++ [event]) := by
  obtain ⟨front, tail, rfl, rfl, rest⟩ := List.map_eq_append_iff.mp packs.held
  obtain ⟨parcel, back, rfl, rfl, rfl⟩ := List.map_eq_cons_iff.mp rest
  have shape : ({ parcel.event with samples } : Event).shape = parcel.event.shape := by
    simp only [Event.shape, Event.kind, Samples.push?_kind pushed]
  obtain ⟨inFront, fair, behind⟩ : (∀ other ∈ front, other.Fair) ∧ parcel.Fair ∧
      ∀ other ∈ back, other.Fair := by
    simpa only [List.forall_mem_append, List.forall_mem_cons] using packs.fair
  refine ⟨front ++ { parcel with
    event := { parcel.event with samples }, joined := parcel.joined ++ [event] } :: back,
    ?_, ?_, ?_, ?_⟩
  · rw [List.map_append, List.map_cons]
  · rw [← packs.opened, List.map_append, List.map_append, List.map_cons, List.map_cons]
  · -- the event moves from the end of its parcel to the end of all
    have moves (behind : List Event) : ([event] ++ behind).Perm (behind ++ [event]) :=
      List.perm_append_comm
    refine List.Perm.trans ?_ (packs.complete.append_right [event])
    simp only [List.flatMap_append, List.flatMap_cons, Parcel.sources, List.append_assoc,
      List.cons_append]
    exact (((moves _).append_left _).cons _).append_left _
  · rw [List.forall_mem_append, List.forall_mem_cons]
    refine ⟨inFront, ⟨shape ▸ fair.remains, ?_, ?_⟩, behind⟩
    · rw [shape]
      exact List.forall_mem_append.mpr ⟨fair.alike, List.forall_mem_singleton.mpr same.symm⟩
    · have alone : event.samples.list = [sample] := Samples.list_of_single single
      have stands := fair.carries.push pushed
      rw [← alone] at stands
      simpa only [Parcel.sources, List.flatMap_cons, List.flatMap_append, List.flatMap_nil,
        List.append_nil, List.append_assoc] using stands

namespace Cache

theorem readDimensions_length (stored : List StoredDimension) (bytes : List UInt8) :
    (readDimensions stored bytes).length = stored.length := by
  induction stored generalizing bytes with
  | nil => rfl
  | cons dimension rest ih => rw [readDimensions, List.length_cons, List.length_cons, ih]

/-- No length was cut of values that are read back as they were: a value that is cut loses many bytes,
and those that are left of its last character are few. -/
theorem small_of_readDimensions {dimensions : List Dimension} {slack : List UInt8}
    (same : readDimensions (dimensions.map .ofDimension) (storedValues dimensions ++ slack) =
      dimensions) :
    ∀ dimension ∈ dimensions, dimension.value.utf8ByteSize < UInt32.size := by
  induction dimensions with
  | nil => exact nofun
  | cons dimension rest ih =>
    have size : (StoredDimension.ofDimension dimension).size =
        dimension.value.utf8ByteSize % UInt32.size := rfl
    have whole : dimension.value.toUTF8.data.toList.length = dimension.value.utf8ByteSize := rfl
    rw [List.map_cons, readDimensions, size, storedValues, List.flatMap_cons, List.append_assoc,
      List.cons.injEq] at same
    obtain ⟨first, others⟩ := same
    have short : dimension.value.utf8ByteSize < UInt32.size := by
      refine Nat.lt_of_not_le fun long => ?_
      have value := congrArg Dimension.value first
      rw [List.take_append_of_le_length (whole ▸ Nat.mod_le _ _)] at value
      refine Text.decoded_take_ne ?_ value
      rw [UInt32.size] at long ⊢
      omega
    rw [Nat.mod_eq_of_lt short, List.drop_left' whole] at others
    exact List.forall_mem_cons.mpr ⟨short, ih others⟩

theorem storedValues_append (front back : List Dimension) :
    storedValues (front ++ back) = storedValues front ++ storedValues back := List.flatMap_append

variable {cache next : Cache}

/-- A new entry keeps the sample of its event, and of its shape what remains. -/
theorem remains_newCell {event : Event} {sample : Sample} (single : event.single? = some sample)
    (now : Nat) {fresh : List UInt8} (roomy : cache.room event.kind ≠ 0)
    (size : fresh.length = cache.entrySize event) :
    event.Remains (cache.eventIn (cache.newCell event sample now fresh)).shape ∧
      (cache.eventIn (cache.newCell event sample now fresh)).samples = event.samples := by
  obtain ⟨slack, area⟩ := cache.area_newCell event sample now roomy size
  have holds : cache.eventIn (cache.newCell event sample now fresh) =
      { name := event.name
        samples := event.samples
        dimensions := readDimensions ((event.dimensions.take maxDimensions).map .ofDimension)
          (event.valueBytes ++ slack) } := by
    have samples := congrArg Event.samples (Event.single?_eq_some single).2
    rw [samples]
    exact area.event
  rw [holds]
  have values : event.valueBytes = storedValues (event.dimensions.take maxDimensions) ++
      storedValues (event.dimensions.drop maxDimensions) := by
    rw [← storedValues_append, List.take_append_drop]
    rfl
  have first : (∀ dimension ∈ event.dimensions.take maxDimensions,
      dimension.value.utf8ByteSize < UInt32.size) →
        readDimensions ((event.dimensions.take maxDimensions).map .ofDimension)
          (event.valueBytes ++ slack) = event.dimensions.take maxDimensions := by
    intro short
    rw [values, List.append_assoc, readDimensions_stored _ short]
  refine ⟨⟨rfl, rfl, first, ?_⟩, rfl⟩
  constructor
  · intro same
    have read : readDimensions _ _ = event.dimensions := congrArg Shape.dimensions same
    have length := congrArg List.length read
    rw [readDimensions_length, List.length_map, List.length_take] at length
    have narrow : event.dimensions.length ≤ maxDimensions := by omega
    rw [List.take_of_length_le narrow] at read
    exact ⟨narrow, small_of_readDimensions read⟩
  · intro storable
    have all : event.dimensions.take maxDimensions = event.dimensions :=
      List.take_of_length_le storable.1
    rw [Event.shape, first (all.symm ▸ storable.2), all]
    rfl

/-! ## Runs -/

/-- What offering an event of any width does to the events that are held. -/
inductive Admitted (event : Event) : List Event → Intake → List Event → Prop where
  /-- It is not taken. -/
  | rejected (held : List Event) : Admitted event held .rejected held
  /-- What remains of it is held on its own. -/
  | buffered (held : List Event) (kept : Event) (remains : event.Remains kept.shape)
      (samples : kept.samples = event.samples) : Admitted event held .buffered (held ++ [kept])
  /-- Its sample is added to an event of its shape. -/
  | merged (older newer : List Event) (target : Event) (sample : Sample) (samples : Samples)
      (single : event.single? = some sample) (same : target.shape = event.shape)
      (pushed : target.samples.push? sample = some samples) :
      Admitted event (older ++ target :: newer) .merged (older ++ { target with samples } :: newer)

theorem Alters.admitted {event : Event} {now : Nat} {cells after : List (Entry × List UInt8)}
    {intake : Intake} (alters : Alters cache event now cells intake after)
    (filled : ∀ cell ∈ cells, Filled cache cell) :
    Admitted event (cells.map cache.eventIn) intake (after.map cache.eventIn) := by
  induction alters with
  | rejected cells => exact .rejected _
  | buffered cells sample fresh single roomy size =>
    obtain ⟨remains, samples⟩ := remains_newCell single now roomy size
    rw [List.map_append, List.map_singleton]
    exact .buffered _ _ remains samples
  | merged older newer entry after bytes others sample single finds absorbed =>
    obtain ⟨⟨words, rest, area⟩, -⟩ := filled (entry, bytes) (by simp)
    obtain ⟨count, more, samples, rfl, -, pushed, holds, -⟩ := finds.absorb single area absorbed
    rw [List.map_append, List.map_append, List.map_cons, List.map_cons, holds]
    exact .merged _ _ _ sample samples single finds.same pushed
  | detached older newer after entry bytes sample intake single finds full further ih =>
    rw [List.forall_mem_append, List.forall_mem_cons] at filled
    obtain ⟨before, here, behind⟩ := filled
    have same := ih (by
      rw [List.forall_mem_append, List.forall_mem_cons]
      exact ⟨before, here.detach single finds full, behind⟩)
    rw [List.map_append, List.map_cons] at same ⊢
    exact same

/-- The cache is filed, and there are parcels for all that passed through it. -/
structure Trace.Packed (trace : Trace) : Prop where
  /-- What holds of every cache. -/
  filed : Filed trace.cache
  /-- What the events carry. -/
  packs : ∃ parcels, Packs parcels trace.held trace.opened trace.accepted

variable {trace : Trace}

theorem packed_new (size window sampleCap : Nat) : (Trace.new size window sampleCap).Packed :=
  ⟨filed_empty size window sampleCap, [], rfl, rfl, .refl [], nofun⟩

theorem Trace.Packed.hands (packed : trace.Packed) {left : List Event}
    (loses : Loses trace.cache next left) : (trace.hands next left).Packed := by
  obtain ⟨parcels, packs⟩ := packed.packs
  have same : (trace.hands next left).held = trace.held := by
    simp only [Trace.held, Trace.hands, List.append_assoc, loses.events]
  exact ⟨packed.filed.loses loses, parcels, same ▸ packs⟩

theorem Trace.Packed.answered (packed : trace.Packed) {event : Event} {now : Nat} {intake : Intake}
    {left : List Event} (answers : Answers trace.cache event now (next, intake, left)) :
    ((trace.hands next left).answered event intake).Packed := by
  obtain ⟨parcels, packs⟩ := packed.packs
  have filed : Filed next := packed.filed.answers answers
  obtain ⟨-, cap, altered, gone, alters, cells, leaves⟩ := answers
  have admitted := alters.admitted packed.filed.filled
  have held : (trace.hands next left).held = trace.flushed ++ altered.map trace.cache.eventIn := by
    have leaves : left = gone.map trace.cache.eventIn := leaves
    simp only [Trace.held, Trace.hands, List.append_assoc, leaves, events_of_cells cap rfl, cells,
      List.map_append]
  rw [Trace.held, events_eq] at packs
  generalize trace.cache.ring.cells.map trace.cache.eventIn = before at admitted packs
  generalize altered.map trace.cache.eventIn = after at admitted held
  cases admitted with
  | rejected =>
    exact ⟨filed, parcels, held ▸ packs⟩
  | buffered _ kept remains samples =>
    obtain ⟨grown, packed⟩ := packs.opens remains samples
    rw [List.append_assoc, ← held] at packed
    exact ⟨filed, grown, packed⟩
  | merged older newer target sample samples single same pushed =>
    rw [← List.append_assoc] at packs
    obtain ⟨grown, packed⟩ := packs.joins single same pushed
    rw [List.append_assoc, ← held] at packed
    exact ⟨filed, grown, packed⟩

theorem Trace.step_packed (packed : trace.Packed) (operation : Operation) :
    (trace.step operation).Packed := by
  cases operation with
  | ingest event now exiting => exact packed.answered (packed.filed.placed.ingest event now exiting)
  | reclaim now all => exact packed.hands (packed.filed.placed.reclaim now all)
  | onTimer now => exact packed.hands (packed.filed.placed.onTimer now)
  | drain now => exact packed.hands (packed.filed.placed.drain now)

theorem Trace.run_packed (packed : trace.Packed) (operations : List Operation) :
    (operations.foldl Trace.step trace).Packed := by
  induction operations generalizing trace with
  | nil => exact packed
  | cons operation rest ih => exact ih (Trace.step_packed packed operation)

/-- **A cache cuts the events that it cannot store, and no others.** In every run over events of any
width, what was handed over and then what is still held comes in parcels: one for each event that
got an entry of its own, in the same order, with the samples of this event and of those that were
merged into the entry, and every accepted event is in exactly one of them. An event that was merged
comes back under exactly its shape. The first event of a parcel does so just when it can be stored;
of a wider one only the first dimensions come back. So no event is cut just when all that got an
entry can be stored. -/
theorem run_cuts_wide_events (size window sampleCap : Nat) (operations : List Operation) :
    let final := run size window sampleCap operations
    ∃ parcels : List Parcel,
      parcels.map (·.event) = final.flushed ++ final.cache.events ∧
      parcels.map (·.opener) = final.opened ∧
      (parcels.flatMap (·.sources)).Perm final.accepted ∧
      (∀ parcel ∈ parcels, parcel.Fair) ∧
      ((∀ parcel ∈ parcels, ∀ source ∈ parcel.sources, parcel.event.shape = source.shape) ↔
        ∀ event ∈ final.opened, event.Storable) := by
  intro final
  obtain ⟨-, parcels, packs⟩ : final.Packed :=
    Trace.run_packed (packed_new size window sampleCap) operations
  refine ⟨parcels, packs.held, packs.opened, packs.complete, packs.fair, ?_⟩
  rw [← packs.opened]
  constructor
  · intro whole event member
    obtain ⟨parcel, among, rfl⟩ := List.mem_map.mp member
    exact (packs.fair parcel among).remains.whole.mp (whole parcel among _ List.mem_cons_self)
  · intro storable parcel among source member
    have fair := packs.fair parcel among
    rcases List.mem_cons.mp member with rfl | later
    · exact fair.remains.whole.mpr (storable _ (List.mem_map_of_mem among))
    · exact (fair.alike source later).symm

/-- A count under eighteen dimensions comes back under seventeen. -/
example :
    let dimension : Dimension := { key := "k", value := "v" }
    let counted (width : Nat) : Event :=
      { name := "hits", samples := .counter ⟨1⟩, dimensions := List.replicate width dimension }
    (run 4096 1000 3 [.ingest (counted 18) 0 false, .drain 1]).flushed = [counted 17] := by
  decide +kernel

end Cache

end MetricPipeline
