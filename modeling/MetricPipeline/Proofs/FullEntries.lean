import MetricPipeline.Proofs.CacheConservation

/-!
An entry that can still take a sample is found.

Only full entries lose their mark, so of the entries of one shape all but the newest are full, and
the newest is full or the key leads to it. A cache therefore merges as much as its cap allows,
whatever other entries share the key.
-/

namespace MetricPipeline.Cache

variable {cache next : Cache}

/-! ## Unmarked entries are full -/

/-- A cell has words and room for more, and if it is not marked the room is used up. -/
structure Filled (cache : Cache) (cell : Entry × List UInt8) : Prop where
  /-- The words of its samples come first. -/
  area : ∃ words rest, cell.1.Area (cache.room cell.1.key.kind) cell.2 words rest
  /-- Only a full entry is not found any more. Counters are never full. -/
  full : cell.1.isIndexed = false → cell.1.key.kind ≠ .counter ∧ cell.1.samples = cache.sampleCap

theorem Filled.congr {cell : Entry × List UInt8} (filled : Filled cache cell)
    (cap : next.sampleCap = cache.sampleCap) : Filled next cell := by
  obtain ⟨area, full⟩ := filled
  rw [← room_congr cap] at area
  rw [← cap] at full
  exact ⟨area, full⟩

/-- Everything is in place, and every cell is filled. Events may be of any width. -/
structure Filed (cache : Cache) : Prop where
  /-- Everything is in place. -/
  placed : Placed cache
  /-- Every cell is filled. -/
  filled : ∀ cell ∈ cache.ring.cells, Filled cache cell

theorem filed_empty (size window cap : Nat) : Filed (Cache.empty size window cap) :=
  ⟨placed_empty size window cap, fun _ member => absurd member List.not_mem_nil⟩

theorem Filed.loses (filed : Filed cache) {left : List Event} (loses : Loses cache next left) :
    Filed next :=
  ⟨loses.placed, fun cell member => (filed.filled cell (loses.mem member)).congr loses.cap⟩

/-- A cell that cannot take the sample of an event is full, so it may lose its mark. -/
theorem Filled.detach {event : Event} {sample : Sample} {entry : Entry} {bytes : List UInt8}
    {newer : List (Entry × List UInt8)} (filled : Filled cache (entry, bytes))
    (single : event.single? = some sample) (finds : Finds cache event entry bytes newer)
    (full : entry.absorb? (cache.room event.kind) bytes sample = none) :
    Filled cache ({ entry with isIndexed := false }, bytes) := by
  obtain ⟨⟨words, rest, area⟩, -⟩ := filled
  refine ⟨⟨words, rest, area.detach⟩, fun _ => ?_⟩
  have kind : entry.key.kind = event.kind := congrArg Key.kind finds.key
  obtain ⟨notCounter, used⟩ := Entry.absorb?_eq_none.mp full
  rw [← (Event.single?_eq_some single).1] at notCounter
  have counted : entry.samples ≤ cache.room entry.key.kind := area.counted ▸ area.roomy
  rw [kind, cache.room_of_ne_counter notCounter] at counted
  rw [cache.room_of_ne_counter notCounter] at used
  exact ⟨kind ▸ notCounter, Nat.le_antisymm counted used⟩

/-- An event that is offered leaves every cell filled. -/
theorem Alters.filled {event : Event} {now : Nat} {cells after : List (Entry × List UInt8)}
    {intake : Intake} (alters : Alters cache event now cells intake after)
    (filled : ∀ cell ∈ cells, Filled cache cell) : ∀ cell ∈ after, Filled cache cell := by
  induction alters with
  | rejected cells => exact filled
  | buffered cells sample fresh single roomy size =>
    obtain ⟨slack, area⟩ := cache.area_newCell event sample now roomy size
    refine List.forall_mem_append.mpr ⟨filled, List.forall_mem_singleton.mpr ⟨⟨_, _, area⟩, ?_⟩⟩
    intro unmarked
    cases unmarked
  | merged older newer entry after bytes others sample single finds absorbed =>
    rw [List.forall_mem_append, List.forall_mem_cons] at filled ⊢
    obtain ⟨before, ⟨⟨words, rest, area⟩, -⟩, behind⟩ := filled
    obtain ⟨count, more, -, rfl, grown, -⟩ := finds.absorb single area absorbed
    refine ⟨before, ⟨⟨more, rest, grown⟩, fun unmarked => ?_⟩, behind⟩
    cases finds.marked.symm.trans unmarked
  | detached older newer after entry bytes sample intake single finds full further ih =>
    apply ih
    rw [List.forall_mem_append, List.forall_mem_cons] at filled ⊢
    obtain ⟨before, here, behind⟩ := filled
    exact ⟨before, here.detach single finds full, behind⟩

theorem Filed.answers (filed : Filed cache) {event : Event} {now : Nat}
    {answer : Cache × Intake × List Event} (answers : Answers cache event now answer) :
    Filed answer.1 := by
  obtain ⟨altered, alters, remain⟩ := answers.exists_alters
  refine ⟨answers.placed, fun cell member => ?_⟩
  exact (alters.filled filed.filled cell (remain cell member)).congr answers.cap

theorem Trace.answered_cache (trace : Trace) (event : Event) (intake : Intake) :
    (trace.answered event intake).cache = trace.cache := by
  cases intake <;> rfl

/-- Something that is kept when cells leave and when an event is answered. -/
structure Enduring (Holds : Cache → Prop) : Prop where
  /-- Everything is in place. -/
  placed : ∀ {cache}, Holds cache → Placed cache
  /-- It is kept when cells leave. -/
  loses : ∀ {cache next left}, Holds cache → Loses cache next left → Holds next
  /-- It is kept when an event is answered. -/
  answers : ∀ {cache event now answer}, Holds cache → Answers cache event now answer →
    Holds answer.1

variable {Holds : Cache → Prop} {trace : Trace}

theorem Enduring.step (enduring : Enduring Holds) (holds : Holds trace.cache)
    (operation : Operation) : Holds (trace.step operation).cache := by
  have placed := enduring.placed holds
  cases operation with
  | ingest event now exiting =>
    have after : (trace.step (.ingest event now exiting)).cache =
        (trace.cache.ingest event now exiting).1 := Trace.answered_cache _ event _
    rw [after]
    exact enduring.answers holds (placed.ingest event now exiting)
  | reclaim now all => exact enduring.loses holds (placed.reclaim now all)
  | onTimer now => exact enduring.loses holds (placed.onTimer now)
  | drain now => exact enduring.loses holds (placed.drain now)

theorem Enduring.run (enduring : Enduring Holds) (holds : Holds trace.cache)
    (operations : List Operation) : Holds (operations.foldl Trace.step trace).cache := by
  induction operations generalizing trace with
  | nil => exact holds
  | cons operation rest ih => exact ih (enduring.step holds operation)

theorem enduring_filed : Enduring Filed :=
  ⟨fun filed => filed.placed, fun filed => filed.loses, fun filed => filed.answers⟩

theorem Trace.run_filed (filed : Filed trace.cache) (operations : List Operation) :
    Filed (operations.foldl Trace.step trace).cache := enduring_filed.run filed operations

/-! ## Entries of one shape -/

/-- Of two live entries of one key the older one is not marked. -/
theorem Findable.pairwise (findable : Findable cache) :
    cache.ring.cells.Pairwise fun older newer =>
      older.1.key = newer.1.key → older.1.isIndexed = false := by
  rw [List.pairwise_iff_getElem]
  intro first second inFirst inSecond before same
  have stands : cache.ring.Stands (cache.ring.released + first) (cache.ring.cells.take first)
      cache.ring.cells[first] (cache.ring.cells.drop (first + 1)) := by
    refine ⟨?_, by rw [List.length_take_of_le (Nat.le_of_lt inFirst)]⟩
    rw [← List.drop_eq_getElem_cons inFirst, List.take_append_drop]
  have later : cache.ring.cells[second] ∈ cache.ring.cells.drop (first + 1) :=
    List.mem_drop_iff_getElem.mpr ⟨second - (first + 1), by omega, by congr 1; omega⟩
  obtain ⟨higher, above, there⟩ := stands.newer _ later
  exact findable.newest _ higher _ _ above stands.tag? there same

theorem Filled.samples_length {cell : Entry × List UInt8} (filled : Filled cache cell)
    (notCounter : cell.1.key.kind ≠ .counter) :
    (cache.eventIn cell).samples.length = cell.1.samples := by
  obtain ⟨words, rest, area⟩ := filled.area
  have samples : (cache.eventIn cell).samples = .ofWords cell.1.key.kind words := area.samplesIn
  rw [samples, Samples.ofWords_length notCounter, area.counted]

/-- Of the events of one shape all but the newest are full. -/
theorem Filed.pairwise (filed : Filed cache) (sound : Sound cache) :
    cache.events.Pairwise fun older newer => older.shape = newer.shape →
      older.kind ≠ .counter ∧ older.samples.length = cache.sampleCap := by
  rw [events_eq, List.pairwise_map]
  refine filed.placed.findable.pairwise.imp_of_mem ?_
  intro older newer isOlder isNewer unmarked same
  have filled := filed.filled older isOlder
  have newerKey := (sound.kept newer isNewer).key rfl
  obtain ⟨notCounter, full⟩ :=
    filled.full (unmarked (((sound.kept older isOlder).key same).trans newerKey.symm))
  rw [eventIn_kind, filled.samples_length notCounter]
  exact ⟨notCounter, full⟩

/-! ## Entries with room -/

/-- An entry that still has room can be found. -/
theorem Filled.marked {cell : Entry × List UInt8} (filled : Filled cache cell)
    (roomy : cell.1.key.kind ≠ .counter → cell.1.samples < cache.sampleCap) :
    cell.1.isIndexed = true := by
  cases marked : cell.1.isIndexed with
  | true => rfl
  | false =>
    obtain ⟨notCounter, used⟩ := filled.full marked
    exact absurd used (Nat.ne_of_lt (roomy notCounter))

theorem ingest_of_merge? {event : Event} {sample : Sample} {number : Nat} {record : Record Entry}
    {merged : Cache} (roomy : cache.room event.kind ≠ 0) (single : event.single? = some sample)
    (leads : cache.index.lookup (cache.keyOf event) = some number)
    (found : cache.ring.record? number = some record) (alike : cache.hasShapeOf record event = true)
    (done : cache.merge? number record sample = some merged) (now : Nat) :
    cache.ingest event now false = (merged, .merged, []) := by
  have open_ : ¬ (false = true ∨ cache.room event.kind = 0) := by simp [roomy]
  rw [Cache.ingest]
  simp only [if_neg open_, single, leads, found, alike, if_true, done]

/-- An entry with the shape and the key of an event takes its sample, if it has room. -/
theorem Filed.merges (filed : Filed cache) {event : Event} {sample : Sample}
    (single : event.single? = some sample) {cell : Entry × List UInt8}
    (member : cell ∈ cache.ring.cells) (key : cell.1.key = cache.keyOf event)
    (alike : cell.1.hasShape (cache.room cell.1.key.kind) cell.2 event = true)
    (roomy : event.kind ≠ .counter → cell.1.samples < cache.sampleCap) (now : Nat) :
    ∃ merged older newer samples, cache.ingest event now false = (merged, .merged, []) ∧
      cache.events = older ++ cache.eventIn cell :: newer ∧
      (cache.eventIn cell).samples.push? sample = some samples ∧
      merged.events = older ++ { cache.eventIn cell with samples } :: newer := by
  have kind : cell.1.key.kind = event.kind := congrArg Key.kind key
  have filled := filed.filled cell member
  have marked : cell.1.isIndexed = true := filled.marked (kind ▸ roomy)
  obtain ⟨words, rest, area⟩ := filled.area
  have nonzero : cache.room event.kind ≠ 0 := by
    intro none
    have counted := area.roomy
    rw [kind, none] at counted
    exact area.nonempty (List.length_eq_zero_iff.mp (Nat.le_zero.mp counted))
  -- the cell is that of a record, and the index leads to it
  obtain ⟨older, newer, cells⟩ := List.append_of_mem member
  have stands : cache.ring.Stands (cache.ring.released + older.length) older cell newer :=
    ⟨cells, rfl⟩
  obtain ⟨before, record, after, -, -, found, -, rfl, -⟩ := stands.found
  have leads := (filed.placed.findable.found (cache.keyOf event) _).mpr
    ⟨record.tag, stands.tag?, marked, key⟩
  have sampled : sample.kind = event.kind := (Event.single?_eq_some single).1.symm
  cases done : cache.merge? _ record sample with
  | none =>
    obtain ⟨notCounter, used⟩ := Entry.absorb?_eq_none.mp (absorb?_of_merge?_eq_none done)
    rw [sampled] at notCounter used
    rw [cache.room_of_ne_counter notCounter] at used
    exact absurd used (Nat.not_le_of_lt (roomy notCounter))
  | some merged =>
    obtain ⟨-, cap, after, others, absorbed, altered⟩ := filed.placed.merge? stands done
    rw [sampled] at absorbed
    obtain ⟨count, more, samples, rfl, -, pushed, holds, -⟩ :=
      (filed.placed.finds leads alike stands).absorb single area absorbed
    refine ⟨merged, older.map cache.eventIn, newer.map cache.eventIn, samples,
      ingest_of_merge? nonzero single leads found alike done now, ?_, pushed, ?_⟩
    · rw [events_eq, cells, List.map_append, List.map_cons]
    · rw [events_of_cells cap altered, List.map_append, List.map_cons, holds]

/-! ## The main statement -/

theorem events_length (cache : Cache) : cache.events.length = cache.length := List.length_map _

/-- When events of one shape are no counters but for the newest, a counter has at most one. -/
theorem counter_filter_length {events : List Event} {cap : Nat}
    (pairs : events.Pairwise fun older newer => older.shape = newer.shape →
      older.kind ≠ .counter ∧ older.samples.length = cap)
    {shape : Shape} (counter : shape.kind = .counter) :
    (events.filter (·.shape = shape)).length ≤ 1 := by
  have alike : ∀ event ∈ events.filter (·.shape = shape), event.shape = shape := fun event member =>
    of_decide_eq_true (List.mem_filter.mp member).2
  have pairs := pairs.filter (·.shape = shape)
  generalize events.filter (·.shape = shape) = chosen at alike pairs
  match chosen with
  | [] => exact Nat.zero_le 1
  | [_] => exact Nat.le_refl 1
  | older :: newer :: rest =>
    have first := alike older List.mem_cons_self
    have second := alike newer (List.mem_cons_of_mem _ List.mem_cons_self)
    obtain ⟨notCounter, -⟩ := (List.pairwise_cons.mp pairs).1 newer List.mem_cons_self
      (first.trans second.symm)
    exact absurd ((congrArg Shape.kind first).trans counter) notCounter

/-- **A cache merges as much as its cap allows.** In every state of every run, the entries of one
shape are full but for the newest one, and a counter has at most one. A sample whose shape has an
entry with room, or any entry if it is a counter, is merged into it: no entry is created, and
nothing else changes, whatever other entries share the digest, the size or the kind. -/
theorem run_merges_to_cap (size window sampleCap : Nat) (operations : List Operation)
    (storable : ∀ operation ∈ operations, operation.Storable) :
    let cache := (run size window sampleCap operations).cache
    let cap := min sampleCap (size / sampleSize)
    (cache.events.Pairwise fun older newer => older.shape = newer.shape →
      older.kind ≠ .counter ∧ older.samples.length = cap) ∧
    (∀ shape : Shape, shape.kind = .counter → (cache.events.filter (·.shape = shape)).length ≤ 1) ∧
    ∀ event sample held now, event.single? = some sample → held ∈ cache.events →
      held.shape = event.shape → (held.kind = .counter ∨ held.samples.length < cap) →
      ∃ merged older newer samples, cache.ingest event now false = (merged, .merged, []) ∧
        merged.length = cache.length ∧
        cache.events = older ++ held :: newer ∧
        held.samples.push? sample = some samples ∧
        merged.events = older ++ { held with samples } :: newer := by
  intro cache cap
  have filed : Filed cache := Trace.run_filed (filed_empty size window sampleCap) operations
  have balanced : (run size window sampleCap operations).Balanced cap :=
    Trace.run_balanced (balanced_new size window sampleCap) storable
  have sound : Sound cache := balanced.sound
  have limit : cache.sampleCap = cap := balanced.limit
  have pairs := filed.pairwise sound
  rw [limit] at pairs
  refine ⟨pairs, fun shape => counter_filter_length pairs, ?_⟩
  intro event sample held now single live same room
  rw [events_eq] at live
  obtain ⟨cell, member, rfl⟩ := List.mem_map.mp live
  have kind : (cache.eventIn cell).kind = event.kind := congrArg Shape.kind same
  have roomy : event.kind ≠ .counter → cell.1.samples < cache.sampleCap := by
    intro notCounter
    have more := room.resolve_left (kind ▸ notCounter)
    rw [eventIn_kind] at kind
    rwa [limit, ← (filed.filled cell member).samples_length (kind ▸ notCounter)]
  obtain ⟨merged, older, newer, samples, answer, before, pushed, after⟩ :=
    filed.merges single member ((sound.kept cell member).key same)
      ((sound.kept cell member).hasShape same) roomy now
  refine ⟨merged, older, newer, samples, answer, ?_, before, pushed, after⟩
  rw [← events_length, ← events_length, after, before, List.length_append, List.length_append,
    List.length_cons, List.length_cons]

/-- A size under one dimension. The digest does not tell where the name ends and the key begins. -/
def sized (name key : String) (bits : UInt64) : Event :=
  { name, samples := .value [⟨bits⟩], dimensions := [{ key, value := "v" }] }

/-- Three sizes of one shape, of which an entry takes two, and two of another shape of the same key.
-/
def crowdedRun : List Operation :=
  [.ingest (sized "ab" "c" 1) 5 false, .ingest (sized "ab" "c" 2) 3 false,
    .ingest (sized "a" "bc" 3) 4 false, .ingest (sized "ab" "c" 4) 4 false,
    .ingest (sized "a" "bc" 5) 5 false]

theorem crowdedRun_merges_to_cap :
    (∀ operation ∈ crowdedRun, operation.Storable) ∧
      let cache := (run 400 10 2 crowdedRun).cache
      cache.keyOf (sized "ab" "c" 6) = cache.keyOf (sized "a" "bc" 6) ∧
        cache.length = 2 ∧ sized "ab" "c" 4 ∈ cache.events ∧
        (cache.events.Pairwise fun older newer => older.shape = newer.shape →
          older.kind ≠ .counter ∧ older.samples.length = 2) ∧
        ∃ merged older newer samples, cache.ingest (sized "ab" "c" 6) 6 false =
            (merged, .merged, []) ∧
          merged.length = cache.length ∧
          cache.events = older ++ sized "ab" "c" 4 :: newer ∧
          (sized "ab" "c" 4).samples.push? (.value ⟨6⟩) = some samples ∧
          merged.events = older ++ { sized "ab" "c" 4 with samples } :: newer := by
  have storable : ∀ operation ∈ crowdedRun, operation.Storable := by decide
  have live : sized "ab" "c" 4 ∈ (run 400 10 2 crowdedRun).cache.events := by decide +kernel
  obtain ⟨pairs, -, merges⟩ := run_merges_to_cap 400 10 2 crowdedRun storable
  exact ⟨storable, by decide +kernel, by decide +kernel, live, pairs,
    merges (sized "ab" "c" 6) (.value ⟨6⟩) (sized "ab" "c" 4) 6 rfl live rfl (.inr (by decide))⟩

end MetricPipeline.Cache
