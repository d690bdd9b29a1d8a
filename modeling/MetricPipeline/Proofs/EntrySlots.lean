import MetricPipeline.Proofs.ReclaimedEntries

/-!
What is read from the bytes of an entry stays in its zone of the slot.

The slot of an entry is sized by a sum that counts one sample less than there may be, and the values
of all dimensions although only the first ones are listed. Into it go the words of the samples, one
by one, and behind the room for all of them the values. So reading an entry and comparing it with an
event are written once more with every access checked: an access to samples has to stay in front of
the values, one to values behind the samples, and either inside the slot. In every cache of every run
the slots are large enough, so no check fails, and the answers are the same.
-/

namespace MetricPipeline.Cache

/-! ## Accesses -/

/-- A part of the slot of an entry. The parts have no byte in common. -/
inductive Zone where
  /-- The words of the samples, and room for more of them. -/
  | samples
  /-- What comes behind: the values of the dimensions. -/
  | values
  deriving DecidableEq, Repr

/-- Where a zone starts in a slot with room for so many samples. -/
def Zone.start (room : Nat) : Zone → Nat
  | .samples => 0
  | .values => room * sampleSize

/-- Where a zone stops in a slot of a size. -/
def Zone.stop (room slot : Nat) : Zone → Nat
  | .samples => room * sampleSize
  | .values => slot

/-- An access to consecutive bytes of an entry. -/
structure Access where
  /-- The part of the slot that they should be in. -/
  zone : Zone
  /-- Where they start. -/
  start : Nat
  /-- How many there are. -/
  size : Nat
  deriving DecidableEq, Repr

/-- An access stays in its zone, and in the slot. -/
def Access.Within (access : Access) (room slot : Nat) : Prop :=
  access.zone.start room ≤ access.start ∧
    access.start + access.size ≤ access.zone.stop room slot ∧ access.start + access.size ≤ slot

instance (access : Access) (room slot : Nat) : Decidable (access.Within room slot) :=
  inferInstanceAs (Decidable (_ ∧ _ ∧ _))

/-- The bytes of an access, unless it strays. -/
def Access.read (access : Access) (room : Nat) (bytes : List UInt8) :
    Except Access (List UInt8) :=
  if access.Within room bytes.length then
    .ok ((bytes.drop access.start).take access.size)
  else .error access

/-! ## Reading with every access checked -/

/-- The sample at the front of a slot. -/
def firstInSlot (kind : Kind) (room : Nat) (bytes : List UInt8) : Except Access Sample := do
  let word ← Access.read { zone := .samples, start := 0, size := sampleSize } room bytes
  return .ofWord kind (firstWord word)

/-- The samples of an entry; none when what is read is not of its kind. -/
def samplesInSlot (entry : Entry) (room : Nat) (bytes : List UInt8) :
    Except Access (Option Samples) :=
  match entry.key.kind with
  | .counter => do
    match ← firstInSlot .counter room bytes with
    | .counter sum => return some (.counter sum)
    | .value _ | .unique _ => return none
  | kind => do
    let words ←
      Access.read { zone := .samples, start := 0, size := entry.samples * sampleSize } room bytes
    return some (.ofWords kind (readWords (words.length / sampleSize) words))

/-- Dimensions whose values stand one after another from a position on. -/
def dimensionsInSlot (room : Nat) (bytes : List UInt8) :
    Nat → List StoredDimension → Except Access (List Dimension)
  | _, [] => return []
  | start, stored :: rest => do
    let value ← Access.read { zone := .values, start, size := stored.size } room bytes
    let others ← dimensionsInSlot room bytes (start + stored.size) rest
    return { key := stored.key, value := Text.decoded value } :: others

/-- The event of the entry of a number; none when the entry has left. -/
def eventInSlot (cache : Cache) (number : Nat) : Except Access (Option Event) :=
  match cache.ring.record? number with
  | none => return none
  | some record => do
    let entry := record.tag
    let room := cache.room entry.key.kind
    let bytes := cache.ring.bytesOf record.extent
    match ← samplesInSlot entry room bytes with
    | none => return none
    | some samples =>
      let dimensions ← dimensionsInSlot room bytes (room * sampleSize) entry.dimensions
      return some { name := entry.name, samples, dimensions }

/-- Whether dimensions have the keys and the values that are stored from a position on. Behind the
first one that differs nothing is read. -/
def dimensionsMatchInSlot (room : Nat) (bytes : List UInt8) :
    Nat → List StoredDimension → List Dimension → Except Access Bool
  | start, stored :: rest, dimension :: others =>
    if stored.key ≠ dimension.key then return false
    else do
      let value ← Access.read { zone := .values, start, size := stored.size } room bytes
      if value ≠ dimension.value.toUTF8.data.toList then return false
      else dimensionsMatchInSlot room bytes (start + stored.size) rest others
  | _, _, _ => return true

/-- Whether an event has the name and the dimensions of the entry of a number. -/
def hasShapeInSlot (cache : Cache) (number : Nat) (event : Event) : Except Access Bool :=
  match cache.ring.record? number with
  | none => return false
  | some record =>
    let entry := record.tag
    if entry.name ≠ event.name ∨ entry.dimensions.length ≠ event.dimensions.length then return false
    else
      let room := cache.room entry.key.kind
      dimensionsMatchInSlot room (cache.ring.bytesOf record.extent) (room * sampleSize)
        entry.dimensions event.dimensions

/-! ## Slots that are large enough -/

variable {cache next : Cache} {event : Event} {now number : Nat}

/-- An event that is offered leaves every entry with room for a sample. -/
theorem Alters.roomy {cells after : List (Entry × List UInt8)} {intake : Intake}
    (alters : Alters cache event now cells intake after)
    (roomy : ∀ cell ∈ cells, cache.room cell.1.key.kind ≠ 0) :
    ∀ cell ∈ after, cache.room cell.1.key.kind ≠ 0 := by
  induction alters with
  | rejected cells => exact roomy
  | buffered cells sample fresh single here size =>
    exact List.forall_mem_append.mpr ⟨roomy, List.forall_mem_singleton.mpr here⟩
  | merged older newer entry after bytes others sample single finds absorbed =>
    rw [List.forall_mem_append, List.forall_mem_cons] at roomy ⊢
    obtain ⟨-, count, rfl, -⟩ := Entry.absorb?_eq_some absorbed
    exact roomy
  | detached older newer after entry bytes sample intake single finds full further ih =>
    apply ih
    rw [List.forall_mem_append, List.forall_mem_cons] at roomy ⊢
    exact roomy

/-- Every cell can be read, and has room for a sample. -/
structure Fitting (cache : Cache) : Prop where
  /-- Every cell can be read. -/
  legible : Legible cache
  /-- There is room for a sample. -/
  roomy : ∀ cell ∈ cache.ring.cells, cache.room cell.1.key.kind ≠ 0

theorem fitting_empty (size window cap : Nat) : Fitting (Cache.empty size window cap) :=
  ⟨legible_empty size window cap, fun _ member => absurd member List.not_mem_nil⟩

theorem Fitting.placed (fitting : Fitting cache) : Placed cache := fitting.legible.placed

theorem Fitting.loses (fitting : Fitting cache) {left : List Event}
    (loses : Loses cache next left) : Fitting next := by
  refine ⟨fitting.legible.loses loses, fun cell member => ?_⟩
  rw [room_congr loses.cap]
  exact fitting.roomy cell (loses.mem member)

theorem Fitting.answers (fitting : Fitting cache) {answer : Cache × Intake × List Event}
    (answers : Answers cache event now answer) : Fitting answer.1 := by
  obtain ⟨altered, alters, remain⟩ := answers.exists_alters
  refine ⟨fitting.legible.answers answers, fun cell member => ?_⟩
  rw [room_congr answers.cap]
  exact alters.roomy fitting.roomy cell (remain cell member)

theorem enduring_fitting : Enduring Fitting :=
  ⟨fun fitting => fitting.placed, fun fitting => fitting.loses, fun fitting => fitting.answers⟩

/-- What holds of the cell of a live entry: its bytes go as far as reading it does, and there is room
for a sample. -/
theorem Fitting.live (fitting : Fitting cache) {record : Record Entry}
    (live : cache.ring.record? number = some record) :
    Readable cache (record.tag, cache.ring.bytesOf record.extent) ∧
      cache.room record.tag.key.kind ≠ 0 := by
  obtain ⟨older, newer, stands⟩ := RingBuffer.exists_stands live
  exact ⟨fitting.legible.readable _ stands.mem, fitting.roomy _ stands.mem⟩

/-! ## Nothing that is read strays -/

theorem Access.within_samples {room slot start size : Nat}
    (inside : start + size ≤ room * sampleSize) (wide : room * sampleSize ≤ slot) :
    Access.Within { zone := .samples, start, size } room slot :=
  ⟨Nat.zero_le _, inside, Nat.le_trans inside wide⟩

theorem Access.within_values {room slot start size : Nat} (behind : room * sampleSize ≤ start)
    (inside : start + size ≤ slot) : Access.Within { zone := .values, start, size } room slot :=
  ⟨behind, inside, inside⟩

theorem Access.read_eq {access : Access} {room : Nat} {bytes : List UInt8}
    (within : access.Within room bytes.length) :
    access.read room bytes = .ok ((bytes.drop access.start).take access.size) :=
  if_pos within

/-- Words are found among as many bytes as they take. -/
theorem readWords_take (count : Nat) (bytes : List UInt8) :
    readWords count (bytes.take (count * sampleSize)) = readWords count bytes := by
  induction count generalizing bytes with
  | zero => rfl
  | succ count ih =>
    have wide : (count + 1) * sampleSize = sampleSize + count * sampleSize := by
      rw [Nat.succ_mul, Nat.add_comm]
    rw [readWords, readWords, wide, firstWord, List.take_take, Nat.min_eq_left (Nat.le_add_right ..),
      List.drop_take, Nat.add_sub_cancel_left, ih]
    rfl

theorem firstInSlot_eq {kind : Kind} {room : Nat} {bytes : List UInt8}
    (roomy : room ≠ 0) (wide : room * sampleSize ≤ bytes.length) :
    firstInSlot kind room bytes = .ok (.ofWord kind (firstWord bytes)) := by
  have first : 0 + sampleSize ≤ room * sampleSize :=
    (Nat.zero_add _).symm ▸ Nat.le_mul_of_pos_left _ (Nat.pos_of_ne_zero roomy)
  rw [firstInSlot, Access.read_eq (Access.within_samples first wide)]
  show Except.ok (Sample.ofWord kind (firstWord (bytes.take sampleSize))) = _
  rw [firstWord, List.take_take, Nat.min_self, ← firstWord]

theorem samplesInSlot_eq {entry : Entry} {room : Nat} {bytes : List UInt8}
    (roomy : room ≠ 0) (samples : entry.samples ≤ room) (wide : room * sampleSize ≤ bytes.length) :
    samplesInSlot entry room bytes = .ok (some (entry.samplesIn bytes)) := by
  have used := Nat.mul_le_mul_right sampleSize samples
  have front : 0 + entry.samples * sampleSize ≤ room * sampleSize := by rwa [Nat.zero_add]
  have within := Access.within_samples front wide
  have count : (bytes.take (entry.samples * sampleSize)).length / sampleSize = entry.samples := by
    rw [List.length_take_of_le (Nat.le_trans used wide)]
    exact Nat.mul_div_cancel _ (by decide)
  unfold samplesInSlot Entry.samplesIn
  cases entry.key.kind with
  | counter =>
    rw [firstInSlot_eq roomy wide]
    rfl
  | value | unique =>
    simp only [Access.read_eq within, bind, Except.bind, pure, Except.pure, List.drop_zero,
      count, readWords_take]
    rfl

theorem dimensionsInSlot_eq {room start : Nat} {bytes : List UInt8} {stored : List StoredDimension}
    (behind : room * sampleSize ≤ start) (wide : start + storedSize stored ≤ bytes.length) :
    dimensionsInSlot room bytes start stored = .ok (readDimensions stored (bytes.drop start)) := by
  induction stored generalizing start with
  | nil => rfl
  | cons dimension rest ih =>
    rw [storedSize, ← Nat.add_assoc] at wide
    have within := Access.within_values behind (Nat.le_of_add_right_le wide)
    rw [dimensionsInSlot, Access.read_eq within, ih (Nat.le_add_right_of_le behind) wide,
      readDimensions, List.drop_drop]
    rfl

/-- The event of a live entry can be read. -/
theorem Fitting.eventInSlot (fitting : Fitting cache) {record : Record Entry}
    (live : cache.ring.record? number = some record) :
    cache.eventInSlot number = .ok (some (cache.eventOf record)) := by
  obtain ⟨⟨counted, wide⟩, roomy⟩ := fitting.live live
  have samples := samplesInSlot_eq roomy counted (Nat.le_of_add_right_le wide)
  have dimensions := dimensionsInSlot_eq (Nat.le_refl _) wide
  dsimp only at samples dimensions
  rw [Cache.eventInSlot, live]
  simp only [samples, dimensions, bind, Except.bind, pure, Except.pure]
  rfl

/-! ## No comparison strays -/

/-- The bytes of the values are compared one after another. -/
theorem dimensionsMatchInSlot_eq {room start : Nat} {bytes : List UInt8}
    {stored : List StoredDimension} (dimensions : List Dimension) (behind : room * sampleSize ≤ start)
    (wide : start + storedSize stored ≤ bytes.length) :
    dimensionsMatchInSlot room bytes start stored dimensions =
      .ok (dimensionsMatch stored (bytes.drop start) dimensions) := by
  induction stored generalizing start dimensions with
  | nil => rfl
  | cons first rest ih =>
    cases dimensions with
    | nil => rfl
    | cons dimension others =>
      rw [storedSize, ← Nat.add_assoc] at wide
      have within := Access.within_values behind (Nat.le_of_add_right_le wide)
      simp only [dimensionsMatchInSlot, Access.read_eq within, bind, Except.bind,
        ih others (Nat.le_add_right_of_le behind) wide, dimensionsMatch, List.drop_drop]
      by_cases key : first.key = dimension.key
      · by_cases value : (bytes.drop start).take first.size = dimension.value.toUTF8.data.toList
        · simp [key, value]
        · simp only [key, value, ne_eq, not_true_eq_false, not_false_eq_true, if_true, if_false]
          rfl
      · simp only [key, ne_eq, not_false_eq_true, if_true]
        rfl

/-- A live entry can be compared with any event, and the answer is that of the cache. -/
theorem Fitting.hasShapeInSlot (fitting : Fitting cache) {record : Record Entry}
    (live : cache.ring.record? number = some record) (event : Event) :
    cache.hasShapeInSlot number event = .ok (cache.hasShapeOf record event) := by
  obtain ⟨⟨-, holds⟩, -⟩ := fitting.live live
  have answer := dimensionsMatchInSlot_eq event.dimensions (Nat.le_refl _) holds
  dsimp only at answer
  rw [Cache.hasShapeInSlot, live, hasShapeOf, Entry.hasShape]
  by_cases name : record.tag.name = event.name
  · by_cases count : record.tag.dimensions.length = event.dimensions.length
    · simp only [name, count, ne_eq, not_true_eq_false, or_self, if_false, answer, decide_true,
        Bool.true_and]
    · simp [count, pure, Except.pure]
  · simp [name, pure, Except.pure]

end MetricPipeline.Cache
