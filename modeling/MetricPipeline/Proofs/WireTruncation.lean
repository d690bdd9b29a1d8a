import MetricPipeline.Proofs.WireConcatenation

/-!
Bytes that break off are known to be broken off.

A batch may be cut anywhere: inside a length, inside a text, inside its padding or between two fields.
A reader takes the bytes of a field before it looks at what they say, so it misses some of them before
it could find a wrong tag, a mask without a kind or bytes that are no text. Where a field is whole, the
reader goes on behind it, and the cut is in what follows.
-/

namespace MetricPipeline.Wire

variable {α β : Type}

/-! ## Readers in front of bytes that break off -/

/-- Wherever some bytes break off, a reader misses those behind, at a place no further than the end. -/
def Misses (reader : Reader α) (bytes : List UInt8) : Prop :=
  ∀ front back offset, front ++ back = bytes → back ≠ [] →
    ∃ place, reader { rest := front, offset } = .error (.truncated place) ∧
      place ≤ offset + front.length

/-- What comes after a reader does not matter when the cut is in its own bytes. -/
theorem Misses.first {reader : Reader α} {follow : α → Reader β} {bytes : List UInt8}
    (misses : Misses reader bytes) : Misses (reader >>= follow) bytes := by
  intro front back offset whole cut
  obtain ⟨place, missed, within⟩ := misses front back offset whole cut
  exact ⟨place, bind_eq_error.mpr (.inl missed), within⟩

/-- The cut is in the bytes of the first reader or in those of the next one. -/
theorem Misses.bind {reader : Reader α} {follow : α → Reader β} {first second : List UInt8}
    {value : α} (misses : Misses reader first) (reads : Reads reader first value)
    (follows : Misses (follow value) second) : Misses (reader >>= follow) (first ++ second) := by
  intro front back offset whole cut
  rcases List.append_eq_append_iff.mp whole with ⟨rest, rfl, rfl⟩ | ⟨taken, rfl, rfl⟩
  · cases rest with
    | nil =>
      -- the cut is between the two
      rw [List.append_nil] at reads misses
      obtain ⟨place, missed, within⟩ :=
        follows [] second (offset + front.length) rfl cut
      refine ⟨place, ?_, within⟩
      have next := reads.bind_eq follow [] offset
      rw [List.append_nil] at next
      exact next.trans missed
    | cons byte rest => exact misses.first front (byte :: rest) offset rfl (List.cons_ne_nil _ _)
  · obtain ⟨place, missed, within⟩ := follows taken back (offset + first.length) rfl cut
    refine ⟨place, (reads.bind_eq follow taken offset).trans missed, ?_⟩
    rw [List.length_append]
    omega

theorem Misses.get {follow : Cursor → Reader α} {bytes : List UInt8}
    (misses : ∀ cursor, Misses (follow cursor) bytes) : Misses (get >>= follow) bytes :=
  fun front back offset whole cut => misses { rest := front, offset } front back offset whole cut

theorem misses_nil (reader : Reader α) : Misses reader [] := by
  intro front back offset whole cut
  exact absurd (List.append_eq_nil_iff.mp whole).2 cut

theorem splitBytes?_of_lt {count : Nat} {bytes : List UInt8} (short : bytes.length < count) :
    splitBytes? count bytes = none := by
  cases found : splitBytes? count bytes with
  | none => rfl
  | some parts =>
    obtain ⟨length, whole⟩ := splitBytes?_eq_some found
    have total := congrArg List.length whole
    simp only [List.length_append] at total
    omega

theorem misses_takeBytes {count : Nat} {bytes : List UInt8} (length : bytes.length = count) :
    Misses (takeBytes count) bytes := by
  rintro front back offset rfl cut
  have missing := List.length_pos_iff.mpr cut
  have short : front.length < count := by
    rw [List.length_append] at length
    omega
  exact ⟨offset, by simp [takeBytes, splitBytes?_of_lt short], Nat.le_add_right _ _⟩

/-- The cut is in one of several values, or between two of them. -/
theorem misses_readMany {reader : Reader α} {write : β → List UInt8} {value : β → α}
    (items : List β) (reads : ∀ item ∈ items, Reads reader (write item) (value item))
    (misses : ∀ item ∈ items, Misses reader (write item)) :
    Misses (readMany reader items.length) (items.flatMap write) := by
  induction items with
  | nil => exact misses_nil _
  | cons item rest ih =>
    obtain ⟨firstReads, othersRead⟩ := List.forall_mem_cons.mp reads
    obtain ⟨firstMisses, othersMiss⟩ := List.forall_mem_cons.mp misses
    exact firstMisses.bind firstReads (ih othersRead othersMiss).first

/-! ## Words and strings -/

theorem misses_word32 (word : UInt32) : Misses readWord32 (word32 word) :=
  (misses_takeBytes (word32_length word)).first

theorem misses_word64 (word : UInt64) : Misses readWord64 (word64 word) :=
  (misses_takeBytes (word64_length word)).first

/-- A length of three bytes may be cut behind its marker. -/
theorem misses_stringHeader (length : Nat) : Misses readStringLength (stringHeader length) := by
  unfold readStringLength stringHeader
  split
  · exact (misses_takeBytes rfl).first
  · have marker : Reads (takeBytes 1) [longStringMarker] [longStringMarker] := reads_takeBytes rfl
    have missed : Misses (takeBytes 1) [longStringMarker] := misses_takeBytes rfl
    refine missed.bind marker ?_
    rw [if_pos rfl]
    exact (misses_takeBytes (littleEndian_length 3 length)).first

/-- The bytes of a text and its padding are taken before it is looked at as a text. -/
theorem misses_string (text : String) : Misses readString (stringBytes text) := by
  refine Misses.get fun cursor => ?_
  refine (misses_stringHeader _).bind (reads_stringHeader (clampedSize_le text)) ?_
  refine (misses_takeBytes (clampedBytes_length text)).bind
    (reads_takeBytes (clampedBytes_length text)) ?_
  exact (misses_takeBytes List.length_replicate).first

/-! ## Events and batches -/

theorem misses_dimension {dimension : Dimension} (key : dimension.key.utf8ByteSize ≤ maxString) :
    Misses readDimension (dimensionBytes dimension) :=
  (misses_string dimension.key).bind (reads_string key) (misses_string dimension.value).first

/-- The cut is in the number of some words or in the words. -/
theorem misses_words {word : β → UInt64} {follow : List UInt64 → Reader α} (items : List β)
    (small : items.length < UInt32.size) :
    Misses (do
        let count ← readWord32
        let words ← readMany readWord64 count.toNat
        follow words)
      (count32 items.length ++ items.flatMap fun item => word64 (word item)) := by
  refine (misses_word32 _).bind (reads_word32 _) ?_
  rw [UInt32.toNat_ofNat_of_lt' small]
  exact (misses_readMany items (fun item _ => reads_word64 (word item))
    fun item _ => misses_word64 (word item)).first

theorem misses_samples {event : Event} (small : event.samples.length < UInt32.size)
    (counted : Counted event) : Misses (readSamples event.kind) (samplesBytes event.samples) := by
  obtain ⟨name, samples, dimensions⟩ := event
  cases samples with
  | counter sum => exact (misses_word64 sum.bits).first
  | value sizes => exact misses_words sizes small
  | unique ids =>
    obtain ⟨id, rfl⟩ := List.length_eq_one_iff.mp (counted rfl)
    exact misses_words [id] small

theorem misses_event {event : Event} (writable : Writable event) (counted : Counted event) :
    Misses readEvent (eventBytes event) := by
  have each : ∀ dimension ∈ event.dimensions,
      Reads readDimension (dimensionBytes dimension) (id dimension) := fun dimension member =>
    reads_dimension (writable.keys dimension member) (writable.values dimension member)
  have dimensions : Reads (readMany readDimension event.dimensions.length)
      (event.dimensions.flatMap dimensionBytes) (event.dimensions.map id) :=
    reads_readMany event.dimensions each
  simp only [eventBytes, List.append_assoc]
  refine (misses_word32 _).bind (reads_word32 _) ?_
  rw [ofMask?_mask]
  refine (misses_string event.name).bind (reads_string writable.name) ?_
  refine (misses_word32 _).bind (reads_word32 _) ?_
  rw [UInt32.toNat_ofNat_of_lt' writable.width]
  refine (misses_readMany event.dimensions each fun dimension member =>
    misses_dimension (writable.keys dimension member)).bind dimensions ?_
  exact (misses_samples writable.samples counted).first

theorem misses_batch {events : List Event} (few : events.length < UInt32.size)
    (writable : ∀ event ∈ events, Writable event) (counted : ∀ event ∈ events, Counted event) :
    Misses readBatch (batchBytes events) := by
  have each : ∀ event ∈ events, Reads readEvent (eventBytes event) (id event) :=
    fun event member => reads_event (writable event member) (counted event member)
  simp only [batchBytes, List.append_assoc]
  refine (misses_word32 _).bind (reads_word32 _) ?_
  rw [if_neg (fun differs => differs rfl)]
  refine (misses_word32 _).bind (reads_word32 _) ?_
  refine (misses_word32 _).bind (reads_word32 _) ?_
  rw [UInt32.toNat_ofNat_of_lt' few]
  exact misses_readMany events each fun event member =>
    misses_event (writable event member) (counted event member)

/-- **A batch that breaks off is never taken for another.** Let the strings and counts of some events
fit the format, and let every event of kind unique have one identifier. Of the bytes of their batch any
part from the front, neither nothing nor all of them, is decoded to one fault: bytes are missing, at an
offset no further than the end of that part. -/
theorem decode_brokenOff {events : List Event} {front : List UInt8}
    (few : events.length < UInt32.size) (writable : ∀ event ∈ events, Writable event)
    (counted : ∀ event ∈ events, event.kind = .unique → event.samples.length = 1)
    (part : front <+: batchBytes events) (some : front ≠ []) (notAll : front ≠ batchBytes events) :
    ∃ offset, decode front = .error (.truncated offset) ∧ offset ≤ front.length := by
  obtain ⟨back, whole⟩ := part
  have cut : back ≠ [] := by
    rintro rfl
    exact notAll (by simpa using whole)
  obtain ⟨offset, missed, within⟩ := misses_batch few writable counted front back 0 whole cut
  refine ⟨offset, ?_, by simpa using within⟩
  rw [decode, readBatches_eq some, missed]
  rfl

/-- The first bytes of a batch that breaks off inside a long value. -/
def cutValue : List UInt8 := (batchBytes mixedBatch).take 200

theorem cutValue_brokenOff :
    mixedBatch.length < UInt32.size ∧ (∀ event ∈ mixedBatch, Writable event) ∧
      (∀ event ∈ mixedBatch, event.kind = .unique → event.samples.length = 1) ∧
      cutValue <+: batchBytes mixedBatch ∧ cutValue ≠ [] ∧ cutValue ≠ batchBytes mixedBatch ∧
      ∃ offset, decode cutValue = .error (.truncated offset) ∧ offset ≤ 200 := by
  have few : mixedBatch.length < UInt32.size := by decide
  have writable : ∀ event ∈ mixedBatch, Writable event := by decide +kernel
  have counted : ∀ event ∈ mixedBatch, event.kind = .unique → event.samples.length = 1 := by decide
  have part : cutValue <+: batchBytes mixedBatch := List.take_prefix 200 _
  have total : (batchBytes mixedBatch).length = 424 := by
    rw [batchBytes_length]
    decide +kernel
  have length : cutValue.length = 200 := by simp only [cutValue, List.length_take, total]; decide
  have some : cutValue ≠ [] := List.ne_nil_of_length_pos (by omega)
  have notAll : cutValue ≠ batchBytes mixedBatch := by
    intro same
    have lengths := congrArg List.length same
    omega
  have broken := decode_brokenOff few writable counted part some notAll
  rw [length] at broken
  exact ⟨few, writable, counted, part, some, notAll, broken⟩

end MetricPipeline.Wire
