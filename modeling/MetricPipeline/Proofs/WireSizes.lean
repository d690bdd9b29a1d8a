import Mathlib.Algebra.Group.Nat.Defs
import MetricPipeline.Wire.Reader

/-!
How long written forms are, and that words survive being written.

The size functions of the writer predict lengths without writing. A transport trusts them when it
decides whether a record still fits its buffer, so each of them is compared with the bytes that the
writer appends.
-/

namespace MetricPipeline.Wire

/-! ## Words -/

@[simp] theorem littleEndian_length (count number : Nat) :
    (littleEndian count number).length = count := by
  induction count generalizing number with
  | zero => rfl
  | succ count ih => rw [littleEndian, List.length_cons, ih]

@[simp] theorem word32_length (word : UInt32) : (word32 word).length = 4 := littleEndian_length _ _

@[simp] theorem count32_length (count : Nat) : (count32 count).length = 4 := word32_length _

@[simp] theorem word64_length (word : UInt64) : (word64 word).length = 8 := littleEndian_length _ _

/-- So many bytes hold a number up to the power of 256 they can tell apart. -/
theorem ofLittleEndian_littleEndian (count number : Nat) :
    ofLittleEndian (littleEndian count number) = number % 256 ^ count := by
  induction count generalizing number with
  | zero => rw [littleEndian, ofLittleEndian, Nat.pow_zero, Nat.mod_one]
  | succ count ih =>
    have lowest : (UInt8.ofNat number).toNat = number % 256 := by simp
    rw [littleEndian, ofLittleEndian, ih, lowest, Nat.pow_succ', Nat.mod_mul]

/-- Words are read back as they were written. -/
theorem ofLittleEndian_word32 (word : UInt32) :
    UInt32.ofNat (ofLittleEndian (word32 word)) = word := by
  have bound : word.toNat < 256 ^ 4 := word.toNat_lt
  rw [word32, ofLittleEndian_littleEndian, Nat.mod_eq_of_lt bound, UInt32.ofNat_toNat]

theorem ofLittleEndian_word64 (word : UInt64) :
    UInt64.ofNat (ofLittleEndian (word64 word)) = word := by
  have bound : word.toNat < 256 ^ 8 := word.toNat_lt
  rw [word64, ofLittleEndian_littleEndian, Nat.mod_eq_of_lt bound, UInt64.ofNat_toNat]

/-! ## Strings, events and records -/

/-- The bytes of a text are read back as that text. -/
theorem fromUTF8?_bytes (text : String) :
    String.fromUTF8? ⟨text.toUTF8.data.toList.toArray⟩ = some text := by
  rw [Array.toArray_toList, String.fromUTF8?]
  exact dif_pos text.isValidUTF8

/-- Bytes are read as a text just when they are its bytes. -/
theorem fromUTF8?_eq_some_iff {bytes : List UInt8} {text : String} :
    String.fromUTF8? ⟨bytes.toArray⟩ = some text ↔ text.toUTF8.data.toList = bytes := by
  constructor
  · intro read
    unfold String.fromUTF8? at read
    split at read
    · obtain rfl := Option.some.inj read
      rfl
    · cases read
  · rintro rfl
    exact fromUTF8?_bytes text

@[simp] theorem clampedBytes_length (text : String) :
    (clampedBytes text).length = clampedSize text := by
  have whole : text.toUTF8.data.size = text.utf8ByteSize := rfl
  simp only [clampedBytes, clampedSize, ByteArray.data_extract, Array.length_toList,
    Array.size_extract, whole, Nat.sub_zero, Nat.min_comm]

theorem stringHeader_length (length : Nat) :
    (stringHeader length).length = if length ≤ maxShortString then 1 else 4 := by
  unfold stringHeader
  split
  · rfl
  · rw [List.length_cons, littleEndian_length]

@[simp] theorem stringBytes_length (text : String) :
    (stringBytes text).length = stringSize text := by
  simp only [stringBytes, stringSize, List.length_append, stringHeader_length,
    clampedBytes_length, List.length_replicate, Nat.add_assoc]

@[simp] theorem dimensions_length (dimensions : List Dimension) :
    (dimensions.flatMap dimensionBytes).length = dimensionsSize dimensions := by
  induction dimensions with
  | nil => rfl
  | cons dimension rest ih =>
    rw [List.flatMap_cons, List.length_append, ih, dimensionBytes, List.length_append,
      stringBytes_length, stringBytes_length, dimensionsSize]

/-- Words that stand one after another take eight bytes each. -/
theorem words_length {α : Type} (word : α → UInt64) (items : List α) :
    (items.flatMap fun item => word64 (word item)).length = 8 * items.length := by
  induction items with
  | nil => rfl
  | cons item rest ih =>
    rw [List.flatMap_cons, List.length_append, ih, word64_length, List.length_cons]
    omega

@[simp] theorem samplesBytes_length (samples : Samples) :
    (samplesBytes samples).length = samplesSize samples := by
  cases samples with
  | counter sum => exact word64_length _
  | value sizes =>
    rw [samplesBytes, List.length_append, count32_length, words_length, samplesSize]
  | unique ids =>
    rw [samplesBytes, List.length_append, count32_length, words_length, samplesSize]

@[simp] theorem eventBytes_length (event : Event) :
    (eventBytes event).length = eventSize event := by
  simp only [eventBytes, eventSize, List.length_append, word32_length, stringBytes_length,
    count32_length, dimensions_length, samplesBytes_length]

@[simp] theorem events_length (events : List Event) :
    (events.flatMap eventBytes).length = eventsSize events := by
  induction events with
  | nil => rfl
  | cons event rest ih =>
    rw [List.flatMap_cons, List.length_append, ih, eventBytes_length, eventsSize]

/-- A batch is as long as its size says, whatever the events. -/
@[simp] theorem batchBytes_length (events : List Event) :
    (batchBytes events).length = batchSize events := by
  simp only [batchBytes, batchSize, batchHeaderSize, List.length_append, word32_length,
    count32_length, events_length]

/-- A record is as long as its size says. -/
@[simp] theorem recordBytes_length (event : Event) :
    (recordBytes event).length = recordSize event := batchBytes_length [event]

/-- No record is without bytes. -/
theorem recordBytes_ne_nil (event : Event) : recordBytes event ≠ [] := by
  have length := recordBytes_length event
  intro empty
  rw [empty, List.length_nil, recordSize, batchHeaderSize] at length
  omega

/-! ## Whole fields -/

/-- Behind a string with one byte of length, and behind one with four, the padding fills up a field. -/
theorem stringSize_aligned (text : String) : 4 ∣ stringSize text := by
  simp only [stringSize, stringPadding]
  by_cases short : clampedSize text ≤ maxShortString
  · rw [if_pos short, if_pos short]
    omega
  · rw [if_neg short, if_neg short]
    omega

theorem dimensionsSize_aligned (dimensions : List Dimension) : 4 ∣ dimensionsSize dimensions := by
  induction dimensions with
  | nil => exact Nat.dvd_zero 4
  | cons dimension rest ih =>
    have key := stringSize_aligned dimension.key
    have value := stringSize_aligned dimension.value
    rw [dimensionsSize]
    omega

theorem samplesSize_aligned (samples : Samples) : 4 ∣ samplesSize samples := by
  cases samples <;> simp only [samplesSize] <;> omega

theorem eventSize_aligned (event : Event) : 4 ∣ eventSize event := by
  have name := stringSize_aligned event.name
  have dimensions := dimensionsSize_aligned event.dimensions
  have samples := samplesSize_aligned event.samples
  rw [eventSize]
  omega

theorem batchSize_aligned (events : List Event) : 4 ∣ batchSize events := by
  rw [batchSize, batchHeaderSize]
  refine Nat.dvd_add (by decide) ?_
  induction events with
  | nil => exact Nat.dvd_zero 4
  | cons event rest ih => exact Nat.dvd_add (eventSize_aligned event) ih

/-! ## Writing at the end of a buffer -/

/-- A buffer has grown at its end by whole fields that take a number of bytes. -/
structure Grown (buffer after : List UInt8) (size : Nat) : Prop where
  /-- What was there is still there. -/
  kept : buffer <+: after
  /-- So many bytes came behind it. -/
  length : after.length = buffer.length + size
  /-- They are whole fields. -/
  aligned : 4 ∣ size

theorem grown_append (buffer : List UInt8) {bytes : List UInt8} {size : Nat}
    (length : bytes.length = size) (aligned : 4 ∣ size) : Grown buffer (buffer ++ bytes) size where
  kept := List.prefix_append buffer bytes
  length := by rw [List.length_append, length]
  aligned := aligned

/-- **Sizes mirror the writers.** Whatever is in a buffer, writing any string, event, record or batch
leaves it there and puts exactly as many bytes behind it as the size function says, which is a
multiple of four. -/
theorem writers_grow_by_size (buffer : List UInt8) :
    (∀ text, Grown buffer (writeString buffer text) (stringSize text)) ∧
      (∀ event, Grown buffer (writeEvent buffer event) (eventSize event)) ∧
      (∀ event, Grown buffer (writeRecord buffer event) (recordSize event)) ∧
      ∀ events, Grown buffer (writeBatch buffer events) (batchSize events) := by
  refine ⟨fun text => ?_, fun event => ?_, fun event => ?_, fun events => ?_⟩
  · exact grown_append buffer (stringBytes_length text) (stringSize_aligned text)
  · exact grown_append buffer (eventBytes_length event) (eventSize_aligned event)
  · exact grown_append buffer (recordBytes_length event) (batchSize_aligned [event])
  · exact grown_append buffer (batchBytes_length events) (batchSize_aligned events)

end MetricPipeline.Wire
