import MetricPipeline.Cache.Entry
import MetricPipeline.Proofs.RingCells
import MetricPipeline.Proofs.TextDecoding
import MetricPipeline.Proofs.WireSizes

/-!
What an entry keeps as bytes is the event it stands for.

The bytes of an entry are the words of its samples, room for as many more as the cap allows, the
values of its dimensions, and some bytes that are never used. An entry is made for one event, takes
more words while there is room, or has the one word of a counter replaced; through all of this the
dimensions stay as they were, and reading the entry gives its samples bit for bit.
-/

namespace MetricPipeline

/-- What events must share to be merged. -/
structure Shape where
  /-- The name of the metric. -/
  name : String
  /-- What is measured. -/
  kind : Kind
  /-- The dimensions, in order. -/
  dimensions : List Dimension
  deriving DecidableEq

/-- The shape of an event. -/
def Event.shape (event : Event) : Shape :=
  { name := event.name, kind := event.kind, dimensions := event.dimensions }

/-- An event whose dimensions an entry can keep whole: there are not too many of them, and the
length of every value fits thirty-two bits. -/
def Event.Storable (event : Event) : Prop :=
  event.dimensions.length ≤ maxDimensions ∧
    ∀ dimension ∈ event.dimensions, dimension.value.utf8ByteSize < UInt32.size

instance (event : Event) : Decidable event.Storable := inferInstanceAs (Decidable (_ ∧ _))

/-! ## Samples as words -/

/-- The samples of a kind that words carry. A counter has one word, its sum. -/
def Samples.ofWords : Kind → List UInt64 → Samples
  | .counter, words => .counter ⟨words.headD 0⟩
  | .value, words => .value (words.map fun word => ⟨word⟩)
  | .unique, words => .unique (words.map (·.toInt64))

theorem Samples.ofWords_length {kind : Kind} (notCounter : kind ≠ .counter) (words : List UInt64) :
    (Samples.ofWords kind words).length = words.length := by
  cases kind with
  | counter => exact absurd rfl notCounter
  | value => exact List.length_map _
  | unique => exact List.length_map _

theorem Samples.single?_eq_some {samples : Samples} {sample : Sample}
    (single : samples.single? = some sample) :
    samples.kind = sample.kind ∧ samples = .ofWords sample.kind [sample.word] := by
  unfold Samples.single? at single
  split at single
  · obtain rfl := Option.some.inj single
    exact ⟨rfl, rfl⟩
  · obtain rfl := Option.some.inj single
    exact ⟨rfl, rfl⟩
  · rename_i id
    obtain rfl := Option.some.inj single
    refine ⟨rfl, ?_⟩
    simp [Samples.ofWords, Sample.kind, Sample.word]
  · cases single

theorem Event.single?_eq_some {event : Event} {sample : Sample}
    (single : event.single? = some sample) :
    event.kind = sample.kind ∧ event =
      { name := event.name
        samples := .ofWords event.kind [sample.word]
        dimensions := event.dimensions } := by
  obtain ⟨kind, samples⟩ := Samples.single?_eq_some single
  refine ⟨kind, ?_⟩
  rw [Event.kind, kind, ← samples]

/-- One more word is one more sample, but for counters. -/
theorem Samples.push?_ofWords {sample : Sample} (notCounter : sample.kind ≠ .counter)
    (words : List UInt64) :
    (Samples.ofWords sample.kind words).push? sample =
      some (.ofWords sample.kind (words ++ [sample.word])) := by
  cases sample with
  | counter amount => exact absurd rfl notCounter
  | value size => simp [Samples.ofWords, Samples.push?, Sample.kind, Sample.word]
  | unique id => simp [Samples.ofWords, Samples.push?, Sample.kind, Sample.word]

namespace Cache

/-! ## Words and texts are read back -/

theorem word_length (word : UInt64) : (Wire.word64 word).length = sampleSize :=
  Wire.word64_length word

theorem firstWord_append (word : UInt64) (rest : List UInt8) :
    firstWord (Wire.word64 word ++ rest) = word := by
  rw [firstWord, List.take_left' (word_length word), Wire.ofLittleEndian_word64]

theorem readWords_append (words : List UInt64) (rest : List UInt8) :
    readWords words.length (words.flatMap Wire.word64 ++ rest) = words := by
  induction words with
  | nil => rfl
  | cons word words ih =>
    rw [List.length_cons, readWords, List.flatMap_cons, List.append_assoc, firstWord_append,
      List.drop_left' (word_length word), ih]

/-- The values of dimensions as bytes, one after another. -/
def storedValues (dimensions : List Dimension) : List UInt8 :=
  dimensions.flatMap fun dimension => dimension.value.toUTF8.data.toList

theorem value_length (dimension : Dimension) :
    dimension.value.toUTF8.data.toList.length = dimension.value.utf8ByteSize := rfl

@[simp] theorem storedValues_length (dimensions : List Dimension) :
    (storedValues dimensions).length = valuesSize dimensions := by
  induction dimensions with
  | nil => rfl
  | cons dimension rest ih =>
    rw [storedValues, List.flatMap_cons, List.length_append, value_length, valuesSize]
    exact congrArg _ ih

/-- Dimensions whose values are not too long match what is stored of them. -/
theorem dimensionsMatch_stored {dimensions : List Dimension} (slack : List UInt8)
    (small : ∀ dimension ∈ dimensions, dimension.value.utf8ByteSize < UInt32.size) :
    dimensionsMatch (dimensions.map .ofDimension) (storedValues dimensions ++ slack) dimensions =
      true := by
  induction dimensions with
  | nil => rfl
  | cons dimension rest ih =>
    obtain ⟨first, others⟩ := List.forall_mem_cons.mp small
    have size : (StoredDimension.ofDimension dimension).size =
        dimension.value.toUTF8.data.toList.length := by
      rw [StoredDimension.ofDimension, value_length, Nat.mod_eq_of_lt first]
    have key : (StoredDimension.ofDimension dimension).key = dimension.key := rfl
    rw [List.map_cons, dimensionsMatch, size, storedValues, List.flatMap_cons, List.append_assoc,
      List.take_left' rfl, List.drop_left' rfl, decide_eq_true key, decide_eq_true rfl]
    exact ih others

/-- Dimensions that match what is stored are what is read back. -/
theorem readDimensions_of_match {stored : List StoredDimension} {bytes : List UInt8}
    {dimensions : List Dimension} (count : stored.length = dimensions.length)
    (matched : dimensionsMatch stored bytes dimensions = true) :
    readDimensions stored bytes = dimensions := by
  induction stored generalizing bytes dimensions with
  | nil => exact (List.eq_nil_of_length_eq_zero count.symm).symm
  | cons first rest ih =>
    cases dimensions with
    | nil => cases count
    | cons dimension others =>
      simp only [dimensionsMatch, Bool.and_eq_true, decide_eq_true_eq] at matched
      obtain ⟨key, value, further⟩ := matched
      rw [readDimensions, key, value, Text.decoded_bytes, ih (Nat.succ.inj count) further]

/-- Dimensions whose values are not too long are read back. -/
theorem readDimensions_stored {dimensions : List Dimension} (slack : List UInt8)
    (small : ∀ dimension ∈ dimensions, dimension.value.utf8ByteSize < UInt32.size) :
    readDimensions (dimensions.map .ofDimension) (storedValues dimensions ++ slack) =
      dimensions :=
  readDimensions_of_match (List.length_map _) (dimensionsMatch_stored slack small)

namespace Entry

/-! ## The area of the samples -/

/-- The front of the bytes of an entry with room for so many samples: words, and room. What stands
behind is left open. -/
structure Area (room : Nat) (entry : Entry) (bytes : List UInt8) (words : List UInt64)
    (rest : List UInt8) : Prop where
  /-- The words are counted. -/
  counted : entry.samples = words.length
  /-- There is at least one. -/
  nonempty : words ≠ []
  /-- There is room for all of them. -/
  roomy : words.length ≤ room
  /-- The words come first; the rest starts where the last word would end. -/
  parts : ∃ gap, gap.length + words.length * sampleSize = room * sampleSize ∧
    bytes = words.flatMap Wire.word64 ++ (gap ++ rest)

/-- An entry and its bytes after they have taken a sample: a counter adds it to its word, the other
kinds have one more word, if there is room. -/
def absorb? (room : Nat) (entry : Entry) (bytes : List UInt8) (sample : Sample) :
    Option (Entry × List UInt8) :=
  match sample with
  | .counter amount =>
    let sum : Real64 := ⟨firstWord bytes⟩ + amount
    some (entry, overlay bytes 0 (Wire.word64 sum.bits))
  | .value _ | .unique _ =>
    if entry.samples < room then
      some ({ entry with samples := entry.samples + 1 },
        overlay bytes (entry.samples * sampleSize) (Wire.word64 sample.word))
    else none

theorem words_bytes_length (words : List UInt64) :
    (words.flatMap Wire.word64).length = words.length * sampleSize := by
  rw [Wire.words_length (fun word => word), sampleSize, Nat.mul_comm]

theorem exists_cut {bytes : List UInt8} {count : Nat} (enough : count ≤ bytes.length) :
    ∃ front back, bytes = front ++ back ∧ front.length = count :=
  ⟨bytes.take count, bytes.drop count, (List.take_append_drop _ _).symm,
    List.length_take_of_le enough⟩

variable {room : Nat} {entry after : Entry} {bytes others rest : List UInt8}
  {words : List UInt64} {sample : Sample}

theorem Area.firstWord {word : UInt64} {more : List UInt64}
    (area : Area room entry bytes (word :: more) rest) : Cache.firstWord bytes = word := by
  obtain ⟨gap, length, rfl⟩ := area.parts
  rw [List.flatMap_cons, List.append_assoc, firstWord_append]

theorem Area.samplesIn (area : Area room entry bytes words rest) :
    entry.samplesIn bytes = .ofWords entry.key.kind words := by
  unfold Entry.samplesIn
  cases entry.key.kind with
  | counter =>
    cases words with
    | nil => exact absurd rfl area.nonempty
    | cons word more => simp only [area.firstWord, Samples.ofWords, List.headD_cons]
  | value =>
    obtain ⟨gap, length, rfl⟩ := area.parts
    simp only [area.counted, readWords_append, Samples.ofWords]
  | unique =>
    obtain ⟨gap, length, rfl⟩ := area.parts
    simp only [area.counted, readWords_append, Samples.ofWords]

/-- The rest stands behind the room for all words. -/
theorem Area.drop_eq (area : Area room entry bytes words rest) :
    bytes.drop (room * sampleSize) = rest := by
  obtain ⟨gap, length, rfl⟩ := area.parts
  have start : (words.flatMap Wire.word64 ++ gap).length = room * sampleSize := by
    rw [List.length_append, words_bytes_length]
    omega
  rw [← List.append_assoc, List.drop_left' start]

/-- Reading an entry gives its words as samples, and dimensions from what stands behind them. -/
theorem Area.event (area : Area room entry bytes words rest) :
    entry.event room bytes =
      { name := entry.name
        samples := .ofWords entry.key.kind words
        dimensions := readDimensions entry.dimensions rest } := by
  rw [Entry.event, area.samplesIn, Entry.dimensionsIn, area.drop_eq]

theorem Area.detach (area : Area room entry bytes words rest) :
    Area room { entry with isIndexed := false } bytes words rest :=
  ⟨area.counted, area.nonempty, area.roomy, area.parts⟩

/-- One more word goes where the room begins. -/
theorem Area.append (area : Area room entry bytes words rest) (word : UInt64)
    (more : entry.samples < room) :
    Area room { entry with samples := entry.samples + 1 }
      (overlay bytes (entry.samples * sampleSize) (Wire.word64 word)) (words ++ [word]) rest := by
  have counted := area.counted
  obtain ⟨gap, length, rfl⟩ := area.parts
  have wide : sampleSize ≤ gap.length := by
    rw [counted] at more
    have next := Nat.mul_le_mul_right sampleSize (Nat.succ_le_of_lt more)
    rw [Nat.succ_mul] at next
    omega
  obtain ⟨taken, left, rfl, takenLength⟩ := exists_cut wide
  refine ⟨by rw [List.length_append, counted]; rfl,
    List.append_ne_nil_of_right_ne_nil _ (List.cons_ne_nil _ _),
    by rw [List.length_append, ← counted]; exact more, left, ?_, ?_⟩
  · rw [List.length_append, List.length_singleton, Nat.succ_mul]
    rw [List.length_append] at length
    omega
  · have position : entry.samples * sampleSize = (words.flatMap Wire.word64).length := by
      rw [counted, words_bytes_length]
    rw [position, List.append_assoc taken,
      overlay_middle _ _ _ ((word_length word).trans takenLength.symm), List.flatMap_append,
      List.flatMap_singleton, List.append_assoc]

theorem Area.replace {old : UInt64} (area : Area room entry bytes [old] rest) (word : UInt64) :
    Area room entry (overlay bytes 0 (Wire.word64 word)) [word] rest := by
  obtain ⟨gap, length, rfl⟩ := area.parts
  refine ⟨area.counted, List.cons_ne_nil _ _, area.roomy, gap, length, ?_⟩
  have same : (Wire.word64 word).length = (Wire.word64 old).length :=
    (word_length word).trans (word_length old).symm
  simp only [List.flatMap_cons, List.flatMap_nil, List.append_nil]
  exact overlay_middle [] (Wire.word64 old) _ same

theorem absorb?_eq_none :
    absorb? room entry bytes sample = none ↔ sample.kind ≠ .counter ∧ room ≤ entry.samples := by
  cases sample <;> simp [absorb?, Sample.kind]

/-- An entry that takes a sample changes nothing but its words, and its samples take it too. The
room of a counter is one, so it has one word. -/
theorem Area.absorb (area : Area room entry bytes words rest)
    (one : sample.kind = .counter → room = 1)
    (absorbed : absorb? room entry bytes sample = some (after, others)) :
    ∃ count more, after = { entry with samples := count } ∧ Area room after others more rest ∧
      (Samples.ofWords sample.kind words).push? sample = some (.ofWords sample.kind more) := by
  by_cases isCounter : sample.kind = .counter
  · cases sample with
    | value size => cases isCounter
    | unique id => cases isCounter
    | counter amount =>
      obtain ⟨rfl, rfl⟩ := Prod.mk.inj (Option.some.inj absorbed)
      have roomy := area.roomy
      rw [one rfl] at roomy
      obtain ⟨old, rfl⟩ : ∃ old, words = [old] :=
        List.length_eq_one_iff.mp (Nat.le_antisymm roomy (List.length_pos_iff.mpr area.nonempty))
      refine ⟨_, _, rfl, area.replace _, ?_⟩
      rw [area.firstWord]
      rfl
  · have appended : entry.samples < room ∧ ({ entry with samples := entry.samples + 1 },
        overlay bytes (entry.samples * sampleSize) (Wire.word64 sample.word)) =
          (after, others) := by
      cases sample with
      | counter amount => exact absurd rfl isCounter
      | value size => exact (Option.ite_none_right_eq_some.mp absorbed).imp_right Option.some.inj
      | unique id => exact (Option.ite_none_right_eq_some.mp absorbed).imp_right Option.some.inj
    obtain ⟨more, made⟩ := appended
    obtain ⟨rfl, rfl⟩ := Prod.mk.inj made
    exact ⟨_, _, rfl, area.append sample.word more, Samples.push?_ofWords isCounter words⟩

/-- A new entry has the one sample of its event and then the values, whatever its bytes were. -/
theorem area_ofEvent (event : Event) (key : Key) (now : Nat) (word : UInt64) (room : Nat)
    {fresh : List UInt8}
    (size : fresh.length = entryOverhead + event.valueSize + room * sampleSize) :
    ∃ slack, Area (room + 1) (ofEvent key event now)
      (overlay (overlay fresh 0 (Wire.word64 word)) ((room + 1) * sampleSize) event.valueBytes)
      [word] (event.valueBytes ++ slack) := by
  have values : event.valueBytes.length = event.valueSize := storedValues_length event.dimensions
  -- the new bytes are cut where the word, the room, the values and the rest begin
  have forWord : sampleSize ≤ fresh.length := by
    rw [size, entryOverhead, sampleSize]
    omega
  obtain ⟨first, later, rfl, firstLength⟩ := exists_cut forWord
  rw [List.length_append, entryOverhead] at size
  have forRoom : room * sampleSize ≤ later.length := by
    rw [sampleSize] at firstLength
    omega
  obtain ⟨gap, behind, rfl, gapLength⟩ := exists_cut forRoom
  rw [List.length_append] at size
  have forValues : event.valueSize ≤ behind.length := by
    rw [sampleSize] at firstLength
    omega
  obtain ⟨old, slack, rfl, oldLength⟩ := exists_cut forValues
  have sampled : overlay (first ++ (gap ++ (old ++ slack))) 0 (Wire.word64 word) =
      (Wire.word64 word ++ gap) ++ (old ++ slack) := by
    rw [List.append_assoc]
    exact overlay_middle [] first _ ((word_length word).trans firstLength.symm)
  have position : (Wire.word64 word ++ gap).length = (room + 1) * sampleSize := by
    rw [List.length_append, word_length, gapLength, Nat.succ_mul, Nat.add_comm]
  refine ⟨slack, rfl, List.cons_ne_nil _ _, Nat.succ_le_succ (Nat.zero_le _), gap, ?_, ?_⟩
  · rw [gapLength, List.length_singleton, Nat.one_mul, Nat.succ_mul]
  · rw [sampled, ← position, overlay_middle _ _ _ (values.trans oldLength.symm)]
    simp only [List.flatMap_cons, List.flatMap_nil, List.append_nil, List.append_assoc]

/-- An entry with the shape of an event is read back as one with its name and its dimensions, also when
lengths were cut. -/
theorem dimensionsIn_of_hasShape {event : Event} (alike : entry.hasShape room bytes event = true) :
    entry.name = event.name ∧ entry.dimensionsIn room bytes = event.dimensions := by
  simp only [hasShape, Bool.and_eq_true, decide_eq_true_eq] at alike
  obtain ⟨⟨name, count⟩, matched⟩ := alike
  exact ⟨name, readDimensions_of_match count matched⟩

/-! ## What an entry keeps -/

/-- The bytes of an entry with room for so many samples: words, room, values, and bytes left
over. -/
structure Keeps (room : Nat) (entry : Entry) (bytes : List UInt8) (words : List UInt64)
    (dimensions : List Dimension) : Prop where
  /-- The words are counted. -/
  counted : entry.samples = words.length
  /-- There is at least one. -/
  nonempty : words ≠ []
  /-- There is room for all of them. -/
  roomy : words.length ≤ room
  /-- The keys of the dimensions and the lengths of their values. -/
  stored : entry.dimensions = dimensions.map .ofDimension
  /-- No length was cut. -/
  small : ∀ dimension ∈ dimensions, dimension.value.utf8ByteSize < UInt32.size
  /-- The words come first; the values start where the last word would end. -/
  parts : ∃ gap slack, gap.length + words.length * sampleSize = room * sampleSize ∧
    bytes = words.flatMap Wire.word64 ++ (gap ++ (storedValues dimensions ++ slack))

variable {dimensions : List Dimension}

theorem Keeps.area (keeps : Keeps room entry bytes words dimensions) :
    ∃ slack, Area room entry bytes words (storedValues dimensions ++ slack) := by
  obtain ⟨gap, slack, parts⟩ := keeps.parts
  exact ⟨slack, keeps.counted, keeps.nonempty, keeps.roomy, gap, parts⟩

theorem Area.keeps {slack : List UInt8}
    (area : Area room entry bytes words (storedValues dimensions ++ slack))
    (stored : entry.dimensions = dimensions.map .ofDimension)
    (small : ∀ dimension ∈ dimensions, dimension.value.utf8ByteSize < UInt32.size) :
    Keeps room entry bytes words dimensions := by
  obtain ⟨gap, parts⟩ := area.parts
  exact ⟨area.counted, area.nonempty, area.roomy, stored, small, gap, slack, parts⟩

/-- Reading an entry gives the event it stands for. -/
theorem Keeps.event (keeps : Keeps room entry bytes words dimensions) :
    entry.event room bytes =
      { name := entry.name, samples := .ofWords entry.key.kind words, dimensions } := by
  obtain ⟨slack, area⟩ := keeps.area
  rw [area.event, keeps.stored, readDimensions_stored slack keeps.small]

/-- It has the shape of this event. -/
theorem Keeps.hasShape (keeps : Keeps room entry bytes words dimensions) {event : Event}
    (name : entry.name = event.name) (same : dimensions = event.dimensions) :
    entry.hasShape room bytes event = true := by
  obtain ⟨slack, area⟩ := keeps.area
  subst same
  rw [Entry.hasShape, area.drop_eq, keeps.stored, dimensionsMatch_stored slack keeps.small, name,
    List.length_map]
  simp

theorem Keeps.detach (keeps : Keeps room entry bytes words dimensions) :
    Keeps room { entry with isIndexed := false } bytes words dimensions := by
  obtain ⟨slack, area⟩ := keeps.area
  exact area.detach.keeps keeps.stored keeps.small

end Entry

end Cache

end MetricPipeline
