import MetricPipeline.Proofs.WireSizes
import MetricPipeline.Wire.Batches

/-!
Which events are read back from the batch that is written for them.

Every reader is put in front of the bytes its writer left, followed by any others, and takes exactly
those bytes. One field is written and read by different rules: what stands before identifiers is
always one. An event of kind unique therefore comes back if it has one identifier. If it has none or
several, whatever is read in its place has one, and the batch is not read back.
-/

namespace MetricPipeline.Wire

variable {α β : Type}

/-! ## Readers in front of written bytes -/

/-- A reader takes exactly some bytes, whatever follows them, and gives a value. -/
def Reads (reader : Reader α) (bytes : List UInt8) (value : α) : Prop :=
  ∀ rest offset, reader { rest := bytes ++ rest, offset } =
    .ok (value, { rest, offset := offset + bytes.length })

/-- The next reader goes on where the bytes of the first one end. -/
theorem Reads.bind_eq {reader : Reader α} {front : List UInt8} {value : α}
    (reads : Reads reader front value) (follow : α → Reader β) (rest : List UInt8) (offset : Nat) :
    (reader >>= follow) { rest := front ++ rest, offset } =
      follow value { rest, offset := offset + front.length } := by
  simp only [bind, StateT.bind, Except.bind, reads rest offset]

theorem Reads.pure (value : α) : Reads (pure value) [] value := fun _ _ => rfl

theorem Reads.bind {reader : Reader α} {follow : α → Reader β} {front back : List UInt8} {first : α}
    {second : β} (reads : Reads reader front first) (follows : Reads (follow first) back second) :
    Reads (reader >>= follow) (front ++ back) second := by
  intro rest offset
  rw [List.append_assoc, reads.bind_eq, follows, List.length_append, Nat.add_assoc]

/-- A step that takes no bytes may come last. -/
theorem Reads.last {reader : Reader α} {follow : α → Reader β} {bytes : List UInt8} {first : α}
    {second : β} (reads : Reads reader bytes first) (follows : Reads (follow first) [] second) :
    Reads (reader >>= follow) bytes second := by
  have both := reads.bind follows
  rwa [List.append_nil] at both

/-- Where the reader stands does not matter to what it reads. -/
theorem Reads.get {follow : Cursor → Reader α} {bytes : List UInt8} {value : α}
    (reads : ∀ cursor, Reads (follow cursor) bytes value) :
    Reads (get >>= follow) bytes value := by
  intro rest offset
  exact reads { rest := bytes ++ rest, offset } rest offset

theorem splitBytes?_append (front back : List UInt8) :
    splitBytes? front.length (front ++ back) = some (front, back) := by
  induction front with
  | nil => rfl
  | cons byte front ih => simp [splitBytes?, ih]

theorem reads_takeBytes {count : Nat} {bytes : List UInt8} (length : bytes.length = count) :
    Reads (takeBytes count) bytes bytes := by
  subst length
  intro rest offset
  simp only [takeBytes, splitBytes?_append]

theorem reads_readMany {reader : Reader α} {write : β → List UInt8} {value : β → α} (items : List β)
    (each : ∀ item ∈ items, Reads reader (write item) (value item)) :
    Reads (readMany reader items.length) (items.flatMap write) (items.map value) := by
  induction items with
  | nil => exact Reads.pure []
  | cons item rest ih =>
    obtain ⟨first, others⟩ := List.forall_mem_cons.mp each
    exact first.bind ((ih others).last (Reads.pure _))

theorem map_eq_ok {change : α → β} {result : Except DecodeError α} {value : β} :
    result.map change = .ok value ↔ ∃ first, result = .ok first ∧ change first = value := by
  cases result <;> simp [Except.map]

/-- However it ends, a repeated reader gives as many values as it was asked for. -/
theorem readMany_length {reader : Reader α} {count : Nat} {cursor next : Cursor} {values : List α}
    (read : readMany reader count cursor = .ok (values, next)) : values.length = count := by
  induction count generalizing cursor next values with
  | zero =>
    obtain ⟨rfl, -⟩ := pure_eq_ok.mp read
    rfl
  | succ count ih =>
    obtain ⟨first, between, -, rest⟩ := bind_eq_ok.mp read
    obtain ⟨others, last, more, done⟩ := bind_eq_ok.mp rest
    obtain ⟨rfl, -⟩ := pure_eq_ok.mp done
    rw [List.length_cons, ih more]

/-! ## Words and strings -/

theorem reads_word32 (word : UInt32) : Reads readWord32 (word32 word) word := by
  refine (reads_takeBytes (word32_length word)).last ?_
  rw [ofLittleEndian_word32]
  exact Reads.pure word

theorem reads_word64 (word : UInt64) : Reads readWord64 (word64 word) word := by
  refine (reads_takeBytes (word64_length word)).last ?_
  rw [ofLittleEndian_word64]
  exact Reads.pure word

theorem reads_stringHeader {length : Nat} (writable : length ≤ maxString) :
    Reads readStringLength (stringHeader length) length := by
  unfold readStringLength stringHeader
  by_cases short : length ≤ maxShortString
  · rw [if_pos short]
    have low : (UInt8.ofNat length).toNat = length := by
      apply UInt8.toNat_ofNat_of_lt'
      simp only [maxShortString, UInt8.size] at short ⊢
      omega
    have plain : [UInt8.ofNat length] ≠ [longStringMarker] := by
      intro same
      have marked : length = 254 := low.symm.trans (congrArg UInt8.toNat (List.singleton_inj.mp same))
      simp only [maxShortString] at short
      omega
    have byte : Reads (takeBytes 1) [UInt8.ofNat length] [UInt8.ofNat length] := reads_takeBytes rfl
    refine byte.last ?_
    rw [if_neg plain, ofLittleEndian, ofLittleEndian, low]
    exact Reads.pure length
  · rw [if_neg short]
    have fits : length < 256 ^ 3 := by
      simp only [maxString] at writable
      omega
    have marker : Reads (takeBytes 1) [longStringMarker] [longStringMarker] := reads_takeBytes rfl
    refine marker.bind ?_
    rw [if_pos rfl]
    refine (reads_takeBytes (littleEndian_length 3 length)).last ?_
    rw [ofLittleEndian_littleEndian, Nat.mod_eq_of_lt fits]
    exact Reads.pure length

/-- A text that can be written whole is. -/
theorem clampedBytes_eq {text : String} (writable : text.utf8ByteSize ≤ maxString) :
    clampedBytes text = text.toUTF8.data.toList := by
  rw [clampedBytes, ByteArray.data_extract, Array.extract_eq_self_of_le]
  exact writable

theorem clampedSize_le (text : String) : clampedSize text ≤ maxString := Nat.min_le_right _ _

theorem reads_string {text : String} (writable : text.utf8ByteSize ≤ maxString) :
    Reads readString (stringBytes text) text := by
  refine Reads.get fun cursor => ?_
  refine (reads_stringHeader (clampedSize_le text)).bind ?_
  refine (reads_takeBytes (clampedBytes_length text)).bind ?_
  refine (reads_takeBytes List.length_replicate).last ?_
  rw [clampedBytes_eq writable, fromUTF8?_bytes]
  exact Reads.pure text

/-! ## Events -/

/-- An event whose strings can be written whole and whose counts fit their words. -/
structure Writable (event : Event) : Prop where
  /-- The name. -/
  name : event.name.utf8ByteSize ≤ maxString
  /-- The number of dimensions. -/
  width : event.dimensions.length < UInt32.size
  /-- The keys. -/
  keys : ∀ dimension ∈ event.dimensions, dimension.key.utf8ByteSize ≤ maxString
  /-- The values. -/
  values : ∀ dimension ∈ event.dimensions, dimension.value.utf8ByteSize ≤ maxString
  /-- The number of samples. -/
  samples : event.samples.length < UInt32.size

instance (event : Event) : Decidable (Writable event) :=
  decidable_of_iff (event.name.utf8ByteSize ≤ maxString ∧ event.dimensions.length < UInt32.size ∧
      (∀ dimension ∈ event.dimensions, dimension.key.utf8ByteSize ≤ maxString) ∧
      (∀ dimension ∈ event.dimensions, dimension.value.utf8ByteSize ≤ maxString) ∧
      event.samples.length < UInt32.size)
    ⟨fun ⟨name, width, keys, values, samples⟩ => ⟨name, width, keys, values, samples⟩,
      fun ⟨name, width, keys, values, samples⟩ => ⟨name, width, keys, values, samples⟩⟩

/-- What stands before the samples of an event is their number. -/
def Counted (event : Event) : Prop := event.kind = .unique → event.samples.length = 1

theorem reads_dimension {dimension : Dimension} (key : dimension.key.utf8ByteSize ≤ maxString)
    (value : dimension.value.utf8ByteSize ≤ maxString) :
    Reads readDimension (dimensionBytes dimension) dimension :=
  (reads_string key).bind ((reads_string value).last (Reads.pure dimension))

theorem ofMask?_mask (kind : Kind) : Kind.ofMask? kind.mask = some kind := by
  cases kind <;> rfl

/-- Words that are counted are read back. -/
theorem reads_words {word : β → UInt64} {follow : List UInt64 → Reader α} {value : α}
    (items : List β) (small : items.length < UInt32.size)
    (follows : Reads (follow (items.map word)) [] value) :
    Reads (do
        let count ← readWord32
        let words ← readMany readWord64 count.toNat
        follow words)
      (count32 items.length ++ items.flatMap fun item => word64 (word item)) value := by
  refine (reads_word32 _).bind ?_
  rw [UInt32.toNat_ofNat_of_lt' small]
  exact (reads_readMany items fun item _ => reads_word64 (word item)).last follows

theorem reads_samples {event : Event} (small : event.samples.length < UInt32.size)
    (counted : Counted event) :
    Reads (readSamples event.kind) (samplesBytes event.samples) event.samples := by
  obtain ⟨name, samples, dimensions⟩ := event
  cases samples with
  | counter sum => exact (reads_word64 sum.bits).last (Reads.pure _)
  | value sizes =>
    refine reads_words sizes small ?_
    have same : (sizes.map Real64.bits).map (fun word => (⟨word⟩ : Real64)) = sizes := by
      rw [List.map_map]
      exact List.map_id sizes
    rw [same]
    exact Reads.pure _
  | unique ids =>
    obtain ⟨id, rfl⟩ := List.length_eq_one_iff.mp (counted rfl)
    refine reads_words [id] small ?_
    simpa using Reads.pure (Samples.unique [id])

/-- Before identifiers a one is written, so one is read, if anything is. -/
theorem length_of_readSamples_unique {ids : List Int64} {rest : List UInt8} {offset : Nat}
    {samples : Samples} {next : Cursor}
    (read : readSamples .unique { rest := samplesBytes (.unique ids) ++ rest, offset } =
      .ok (samples, next)) : samples.length = 1 := by
  rw [samplesBytes, List.append_assoc] at read
  have announced := (reads_word32 (UInt32.ofNat 1)).bind_eq
    (fun count => readMany readWord64 count.toNat >>= fun words =>
      pure (Samples.unique (words.map (·.toInt64))))
  obtain ⟨words, between, many, done⟩ := bind_eq_ok.mp ((announced _ _).symm.trans read)
  obtain ⟨rfl, -⟩ := pure_eq_ok.mp done
  rw [Samples.length, List.length_map, readMany_length many]
  rfl

/-- What is written of an event before its samples. -/
def headBytes (event : Event) : List UInt8 :=
  word32 event.kind.mask ++ stringBytes event.name ++ count32 event.dimensions.length ++
    event.dimensions.flatMap dimensionBytes

/-- Reading an event comes down to reading its samples. -/
theorem readEvent_eq {event : Event} (writable : Writable event) (rest : List UInt8)
    (offset : Nat) :
    readEvent { rest := eventBytes event ++ rest, offset } =
      (readSamples event.kind >>= fun samples => pure { event with samples })
        { rest := samplesBytes event.samples ++ rest
          offset := offset + (headBytes event).length } := by
  have dimensions : Reads (readMany readDimension event.dimensions.length)
      (event.dimensions.flatMap dimensionBytes) (event.dimensions.map id) :=
    reads_readMany event.dimensions fun dimension member =>
      reads_dimension (writable.keys dimension member) (writable.values dimension member)
  rw [List.map_id] at dimensions
  have bytes : eventBytes event ++ rest = word32 event.kind.mask ++ (stringBytes event.name ++
      (count32 event.dimensions.length ++ (event.dimensions.flatMap dimensionBytes ++
        (samplesBytes event.samples ++ rest)))) := by
    simp only [eventBytes, List.append_assoc]
  rw [bytes, readEvent, (reads_word32 _).bind_eq, ofMask?_mask]
  dsimp only
  rw [(reads_string writable.name).bind_eq, count32, (reads_word32 _).bind_eq,
    UInt32.toNat_ofNat_of_lt' writable.width, dimensions.bind_eq]
  simp only [headBytes, count32, List.length_append, Nat.add_assoc]

theorem reads_event {event : Event} (writable : Writable event) (counted : Counted event) :
    Reads readEvent (eventBytes event) event := by
  intro rest offset
  rw [readEvent_eq writable, (reads_samples writable.samples counted).bind_eq]
  have length : (eventBytes event).length =
      (headBytes event).length + (samplesBytes event.samples).length := List.length_append
  rw [length, ← Nat.add_assoc]
  rfl

/-- An event that is read back from its bytes has as many samples as they announce. -/
theorem counted_of_readEvent {event : Event} (writable : Writable event) {rest : List UInt8}
    {offset : Nat} {next : Cursor}
    (read : readEvent { rest := eventBytes event ++ rest, offset } = .ok (event, next)) :
    Counted event := by
  intro unique
  rw [readEvent_eq writable, unique] at read
  obtain ⟨samples, between, sampled, done⟩ := bind_eq_ok.mp read
  obtain ⟨same, -⟩ := pure_eq_ok.mp done
  obtain ⟨name, own, dimensions⟩ := event
  obtain rfl : own = samples := congrArg Event.samples same
  cases own with
  | counter sum => cases unique
  | value sizes => cases unique
  | unique ids => exact length_of_readSamples_unique sampled

/-! ## Batches -/

/-- Events that are all read back have as many samples as their bytes announce: the first one that
has not would be read as another event. -/
theorem counted_of_readMany {events : List Event} (writable : ∀ event ∈ events, Writable event)
    {rest : List UInt8} {offset : Nat} {next : Cursor}
    (read : readMany readEvent events.length
      { rest := events.flatMap eventBytes ++ rest, offset } = .ok (events, next)) :
    ∀ event ∈ events, Counted event := by
  induction events generalizing offset next with
  | nil => intro event member; cases member
  | cons event others ih =>
    obtain ⟨first, later⟩ := List.forall_mem_cons.mp writable
    rw [List.flatMap_cons, List.append_assoc] at read
    obtain ⟨value, between, one, more⟩ := bind_eq_ok.mp read
    obtain ⟨values, last, many, done⟩ := bind_eq_ok.mp more
    obtain ⟨same, -⟩ := pure_eq_ok.mp done
    obtain ⟨rfl, rfl⟩ := List.cons.inj same
    have counted := counted_of_readEvent first one
    rw [reads_event first counted] at one
    obtain ⟨-, rfl⟩ := Prod.mk.inj (Except.ok.inj one)
    exact List.forall_mem_cons.mpr ⟨counted, ih later many⟩

/-- Reading a batch comes down to reading so many events. -/
theorem readBatch_eq {events : List Event} (few : events.length < UInt32.size) (rest : List UInt8)
    (offset : Nat) :
    readBatch { rest := batchBytes events ++ rest, offset } =
      readMany readEvent events.length
        { rest := events.flatMap eventBytes ++ rest, offset := offset + 12 } := by
  have bytes : batchBytes events ++ rest = word32 batchTag ++ (word32 0 ++
      (count32 events.length ++ (events.flatMap eventBytes ++ rest))) := by
    simp only [batchBytes, List.append_assoc]
  rw [bytes, readBatch, (reads_word32 _).bind_eq, if_neg (fun differs => differs rfl), readBatchBody,
    (reads_word32 _).bind_eq, count32, (reads_word32 _).bind_eq,
    UInt32.toNat_ofNat_of_lt' few]
  simp only [word32_length]

theorem reads_batch {events : List Event} (few : events.length < UInt32.size)
    (writable : ∀ event ∈ events, Writable event) (counted : ∀ event ∈ events, Counted event) :
    Reads readBatch (batchBytes events) events := by
  intro rest offset
  have each : Reads (readMany readEvent events.length) (events.flatMap eventBytes)
      (events.map id) := reads_readMany events fun event member =>
    reads_event (writable event member) (counted event member)
  rw [List.map_id] at each
  have length : (batchBytes events).length = 12 + (events.flatMap eventBytes).length := by
    simp only [batchBytes, List.length_append, word32_length, count32_length]
  rw [readBatch_eq few, each, length, Nat.add_assoc]

/-- Batches are read one after another; the first fault ends it. -/
theorem readBatches_eq {cursor : Cursor} (more : cursor.rest ≠ []) :
    readBatches cursor = readBatch cursor >>= fun (events, next) =>
      (readBatches next).map (events ++ ·) := by
  rw [readBatches, if_neg more]
  split
  · rename_i fault failed
    rw [failed]
    rfl
  · rename_i events next read
    rw [read]
    show _ = (readBatches next).map (events ++ ·)
    cases readBatches next <;> rfl

theorem readBatches_nil (offset : Nat) : readBatches { rest := [], offset } = .ok [] := by
  rw [readBatches, if_pos rfl]

theorem batchBytes_ne_nil (events : List Event) : batchBytes events ≠ [] := by
  intro none
  have length := congrArg List.length none
  simp only [batchBytes, List.length_append, word32_length, List.length_nil] at length
  omega

/-- **What is written is read back just when identifiers stand alone.** For events whose strings and
counts fit the format, a batch is read back as the same events, in the same order and bit for bit, if
and only if every event of kind unique has exactly one sample. -/
theorem decode_batchBytes_iff (events : List Event) (few : events.length < UInt32.size)
    (writable : ∀ event ∈ events, Writable event) :
    decode (batchBytes events) = .ok events ↔
      ∀ event ∈ events, event.kind = .unique → event.samples.length = 1 := by
  have whole : batchBytes events ++ [] = batchBytes events := List.append_nil _
  rw [decode, readBatches_eq (batchBytes_ne_nil events)]
  constructor
  · intro decoded
    cases read : readBatch { rest := batchBytes events, offset := 0 } with
    | error fault =>
      rw [read] at decoded
      cases decoded
    | ok pair =>
      obtain ⟨first, next⟩ := pair
      rw [read] at decoded
      obtain ⟨others, -, together⟩ := map_eq_ok.mp decoded
      rw [← whole, readBatch_eq few] at read
      obtain ⟨rfl, -⟩ := List.append_inj (together.trans (List.append_nil events).symm)
        (readMany_length read)
      exact counted_of_readMany writable read
  · intro counted
    have read := reads_batch few writable counted [] 0
    rw [whole] at read
    rw [read]
    show (readBatches _).map (events ++ ·) = _
    rw [readBatches_nil, Except.map, List.append_nil]

/-- One event of each kind, one of them with a long value. -/
def mixedBatch : List Event :=
  let path := String.ofList (List.replicate 300 '/')
  [{ name := "latency"
     samples := .value [⟨0x3fc0000000000000⟩, ⟨0x7ff8000000000001⟩]
     dimensions := [{ key := "0", value := "" }, { key := "_s", value := path }] },
    { name := "visitors", samples := .unique [-42], dimensions := [] },
    { name := "requests", samples := .counter ⟨0x8000000000000000⟩, dimensions := [] }]

/-- Two identifiers in one event. -/
def pairedBatch : List Event := [{ name := "visitors", samples := .unique [10, 11], dimensions := [] }]

theorem mixedBatch_decodes :
    (mixedBatch.length < UInt32.size ∧ (∀ event ∈ mixedBatch, Writable event) ∧
        (decode (batchBytes mixedBatch) = .ok mixedBatch ↔
          ∀ event ∈ mixedBatch, event.kind = .unique → event.samples.length = 1)) ∧
      decode (batchBytes mixedBatch) = .ok mixedBatch ∧
      decode (batchBytes pairedBatch) ≠ .ok pairedBatch := by
  have writable : ∀ event ∈ mixedBatch, Writable event := by decide +kernel
  have decodes := decode_batchBytes_iff mixedBatch (by decide) writable
  have refuses := decode_batchBytes_iff pairedBatch (by decide) (by decide)
  exact ⟨⟨by decide, writable, decodes⟩, decodes.mpr (by decide),
    fun decoded => absurd (refuses.mp decoded) (by decide)⟩

end MetricPipeline.Wire
