import MetricPipeline.Proofs.WireRoundTrip

/-!
Reading bytes that were put behind others.

A datagram may hold any number of records, and the bytes of one say nothing about those of the next.
That rests on what a reader may depend on: the bytes in front of it, and nothing of where they stand
or what follows those it takes. Only the faults tell where they were found, so they move with the
bytes. This holds of every reader and of all bytes, written by a writer or not.
-/

namespace MetricPipeline.Wire

variable {α β : Type}

/-- The same fault in bytes that have others in front of them. -/
def DecodeError.behind (shift : Nat) : DecodeError → DecodeError
  | .truncated offset => .truncated (offset + shift)
  | .badTag tag => .badTag tag
  | .badFieldMask mask => .badFieldMask mask
  | .notUtf8 offset => .notUtf8 (offset + shift)

/-- A reader for which only the bytes in front of it count. -/
structure Portable (reader : Reader α) : Prop where
  /-- What it has read from some bytes, it reads from them anywhere, whatever follows. -/
  reads : ∀ {rest : List UInt8} {offset : Nat} {value : α} {next : Cursor},
    reader { rest, offset } = .ok (value, next) →
      ∃ bytes, rest = bytes ++ next.rest ∧ Reads reader bytes value
  /-- The fault it has found in some bytes, it finds in them anywhere. -/
  fails : ∀ {rest : List UInt8} {offset : Nat} {fault : DecodeError} (shift : Nat),
    reader { rest, offset } = .error fault →
      reader { rest, offset := offset + shift } = .error (fault.behind shift)

/-- Two readers in a row fail when one of them does. -/
theorem bind_eq_error {reader : Reader α} {follow : α → Reader β} {cursor : Cursor}
    {fault : DecodeError} : (reader >>= follow) cursor = .error fault ↔
      reader cursor = .error fault ∨ ∃ value next, reader cursor = .ok (value, next) ∧
        follow value next = .error fault := by
  simp only [bind, StateT.bind, Except.bind]
  cases reader cursor with
  | error first => simp
  | ok pair =>
    obtain ⟨value, next⟩ := pair
    constructor
    · intro followed
      exact .inr ⟨value, next, rfl, followed⟩
    · rintro (failed | ⟨_, _, same, followed⟩)
      · cases failed
      · cases same
        exact followed

/-- After what a portable reader has read, the next one stands behind exactly those bytes. -/
theorem Portable.exists_reads {reader : Reader α} (portable : Portable reader)
    {rest : List UInt8} {offset : Nat} {value : α} {next : Cursor}
    (read : reader { rest, offset } = .ok (value, next)) :
    ∃ bytes, rest = bytes ++ next.rest ∧ next.offset = offset + bytes.length ∧
      Reads reader bytes value := by
  obtain ⟨bytes, rfl, reads⟩ := portable.reads read
  rw [reads] at read
  obtain ⟨-, stands⟩ := Prod.mk.inj (Except.ok.inj read)
  exact ⟨bytes, rfl, (congrArg Cursor.offset stands).symm, reads⟩

/-! ## Readers that are put together -/

theorem Portable.pure (value : α) : Portable (pure value) where
  reads read := by
    obtain ⟨rfl, rfl⟩ := pure_eq_ok.mp read
    exact ⟨[], rfl, Reads.pure _⟩
  fails shift failed := by cases failed

/-- A fault that tells no place is the same anywhere. -/
theorem Portable.throw {fault : DecodeError} (placeless : ∀ shift, fault.behind shift = fault) :
    Portable (throw fault : Reader α) where
  reads read := absurd read throw_ne_ok
  fails shift failed := by
    cases failed
    exact congrArg Except.error (placeless shift).symm

theorem Portable.bind {reader : Reader α} {follow : α → Reader β} (first : Portable reader)
    (second : ∀ value, Portable (follow value)) : Portable (reader >>= follow) where
  reads both := by
    obtain ⟨value, between, read, followed⟩ := bind_eq_ok.mp both
    obtain ⟨front, rfl, reads⟩ := first.reads read
    obtain ⟨back, rest, follows⟩ := (second value).reads followed
    exact ⟨front ++ back, by rw [rest, List.append_assoc], reads.bind follows⟩
  fails {rest offset fault} shift failed := by
    rcases bind_eq_error.mp failed with alone | ⟨value, between, read, after⟩
    · exact bind_eq_error.mpr (.inl (first.fails shift alone))
    · obtain ⟨front, rfl, place, reads⟩ := first.exists_reads read
      have moved := (second value).fails shift after
      rw [place, Nat.add_right_comm] at moved
      rw [reads.bind_eq]
      exact moved

theorem Portable.readMany {reader : Reader α} (one : Portable reader) (count : Nat) :
    Portable (readMany reader count) := by
  induction count with
  | zero => exact Portable.pure []
  | succ count ih => exact one.bind fun _ => ih.bind fun _ => Portable.pure _

theorem Portable.takeBytes (count : Nat) : Portable (takeBytes count) where
  reads {rest offset value next} read := by
    unfold Wire.takeBytes at read
    split at read
    · rename_i bytes back cut
      cases read
      obtain ⟨length, whole⟩ := splitBytes?_eq_some cut
      exact ⟨value, whole.symm, reads_takeBytes length⟩
    · cases read
  fails {rest offset fault} shift failed := by
    unfold Wire.takeBytes at failed ⊢
    split at failed
    · cases failed
    · rename_i short
      cases failed
      simp only [short]
      rfl

/-! ## Words and strings -/

theorem Portable.readWord32 : Portable readWord32 :=
  (Portable.takeBytes 4).bind fun _ => Portable.pure _

theorem Portable.readWord64 : Portable readWord64 :=
  (Portable.takeBytes 8).bind fun _ => Portable.pure _

theorem Portable.readStringLength : Portable readStringLength := by
  refine (Portable.takeBytes 1).bind fun first => ?_
  split
  · exact (Portable.takeBytes 3).bind fun _ => Portable.pure _
  · exact Portable.pure _

/-- Reads the bytes of a string and its padding. -/
def readStringBytes : Reader (List UInt8) := do
  let length ← readStringLength
  let bytes ← takeBytes length
  let _ ← takeBytes (stringPadding length)
  return bytes

theorem Portable.readStringBytes : Portable readStringBytes :=
  Portable.readStringLength.bind fun _ => (Portable.takeBytes _).bind fun _ =>
    (Portable.takeBytes _).bind fun _ => Portable.pure _

/-- Makes a text of the bytes of a string, or finds that they make none. -/
def textAt (start : Nat) (bytes : List UInt8) : Reader String :=
  match String.fromUTF8? ⟨bytes.toArray⟩ with
  | some text => return text
  | none => throw (.notUtf8 start)

theorem textAt_eq_ok {start : Nat} {bytes : List UInt8} {cursor next : Cursor} {text : String} :
    textAt start bytes cursor = .ok (text, next) ↔
      String.fromUTF8? ⟨bytes.toArray⟩ = some text ∧ next = cursor := by
  unfold textAt
  cases String.fromUTF8? ⟨bytes.toArray⟩ with
  | none => simp [throw_ne_ok]
  | some made =>
    rw [pure_eq_ok, Option.some.injEq]
    exact and_congr_left' eq_comm

theorem textAt_eq_error {start : Nat} {bytes : List UInt8} {cursor : Cursor} {fault : DecodeError} :
    textAt start bytes cursor = .error fault ↔
      String.fromUTF8? ⟨bytes.toArray⟩ = none ∧ fault = .notUtf8 start := by
  unfold textAt
  cases String.fromUTF8? ⟨bytes.toArray⟩ with
  | none =>
    constructor
    · intro failed
      cases failed
      exact ⟨rfl, rfl⟩
    · rintro ⟨-, rfl⟩
      rfl
  | some made =>
    constructor
    · intro failed
      cases failed
    · rintro ⟨none, -⟩
      cases none

/-- A string is read as bytes and made a text; the fault of bytes that make none tells where the
string starts. -/
theorem readString_eq (rest : List UInt8) (offset : Nat) :
    readString { rest, offset } = (readStringBytes >>= textAt offset) { rest, offset } := by
  simp only [readStringBytes, bind_assoc, pure_bind]
  rfl

theorem Portable.readString : Portable readString where
  reads {rest offset value next} read := by
    rw [readString_eq] at read
    obtain ⟨bytes, between, taken, made⟩ := bind_eq_ok.mp read
    obtain ⟨front, whole, reads⟩ := Portable.readStringBytes.reads taken
    obtain ⟨text, rfl⟩ := textAt_eq_ok.mp made
    refine ⟨front, whole, fun rest offset => ?_⟩
    rw [readString_eq, reads.bind_eq]
    exact textAt_eq_ok.mpr ⟨text, rfl⟩
  fails {rest offset fault} shift failed := by
    rw [readString_eq] at failed ⊢
    rcases bind_eq_error.mp failed with cut | ⟨bytes, between, taken, made⟩
    · exact bind_eq_error.mpr (.inl (Portable.readStringBytes.fails shift cut))
    · obtain ⟨front, rfl, reads⟩ := Portable.readStringBytes.reads taken
      obtain ⟨none, rfl⟩ := textAt_eq_error.mp made
      rw [reads.bind_eq]
      exact textAt_eq_error.mpr ⟨none, rfl⟩

/-! ## Events and batches -/

theorem Portable.readDimension : Portable readDimension :=
  Portable.readString.bind fun _ => Portable.readString.bind fun _ => Portable.pure _

theorem Portable.readSamples (kind : Kind) : Portable (readSamples kind) := by
  cases kind with
  | counter => exact Portable.readWord64.bind fun _ => Portable.pure _
  | value =>
    exact Portable.readWord32.bind fun count =>
      (Portable.readWord64.readMany count.toNat).bind fun _ => Portable.pure _
  | unique =>
    exact Portable.readWord32.bind fun count =>
      (Portable.readWord64.readMany count.toNat).bind fun _ => Portable.pure _

theorem Portable.readEvent : Portable readEvent := by
  refine Portable.readWord32.bind fun mask => ?_
  split
  · exact Portable.throw fun _ => rfl
  · exact Portable.readString.bind fun _ => Portable.readWord32.bind fun count =>
      (Portable.readDimension.readMany count.toNat).bind fun _ =>
        (Portable.readSamples _).bind fun _ => Portable.pure _

theorem Portable.readBatch : Portable readBatch := by
  refine Portable.readWord32.bind fun tag => ?_
  split
  · exact Portable.throw fun _ => rfl
  · exact Portable.readWord32.bind fun _ => Portable.readWord32.bind fun count =>
      Portable.readEvent.readMany count.toNat

/-- A run of batches goes on behind its first one. -/
theorem readBatches_of_reads {front rest : List UInt8} {first : List Event}
    (reads : Reads readBatch front first) (some : front ++ rest ≠ []) (offset : Nat) :
    readBatches { rest := front ++ rest, offset } =
      (readBatches { rest, offset := offset + front.length }).map (first ++ ·) := by
  rw [readBatches_eq some, reads]
  rfl

/-- Batches that are read to their end are read wherever they stand, and what follows them is read
next. -/
theorem readBatches_append {cursor : Cursor} {events : List Event}
    (read : readBatches cursor = .ok events) (rest : List UInt8) (offset : Nat) :
    readBatches { rest := cursor.rest ++ rest, offset } =
      (readBatches { rest, offset := offset + cursor.rest.length }).map (events ++ ·) := by
  fun_induction readBatches cursor generalizing events offset with
  | case1 cursor empty =>
    cases read
    rw [empty, List.nil_append, List.length_nil, Nat.add_zero]
    cases readBatches { rest, offset } <;> rfl
  | case2 cursor more fault failed => cases read
  | case3 cursor more first next one fault failed ih => cases read
  | case4 cursor more first next one others later ih =>
    cases read
    obtain ⟨front, whole, reads⟩ := Portable.readBatch.reads one
    have some : front ++ (next.rest ++ rest) ≠ [] := by
      rw [← List.append_assoc, ← whole]
      exact List.append_ne_nil_of_left_ne_nil more rest
    rw [whole, List.append_assoc, readBatches_of_reads reads some, ih later, List.length_append,
      ← Nat.add_assoc]
    cases readBatches { rest, offset := offset + front.length + next.rest.length } with
    | error fault => rfl
    | ok further => exact congrArg Except.ok (List.append_assoc first others further).symm

/-- Batches that are read to their end are read wherever they stand. -/
theorem readBatches_moved {rest : List UInt8} {start : Nat} {events : List Event}
    (read : readBatches { rest, offset := start } = .ok events) (offset : Nat) :
    readBatches { rest, offset } = .ok events := by
  have alone := readBatches_append read [] offset
  rw [List.append_nil, readBatches_nil] at alone
  rw [alone, Except.map, List.append_nil]

/-- A fault in a run of batches moves with the bytes. -/
theorem readBatches_behind {cursor : Cursor} {fault : DecodeError}
    (failed : readBatches cursor = .error fault) (shift : Nat) :
    readBatches { rest := cursor.rest, offset := cursor.offset + shift } =
      .error (fault.behind shift) := by
  fun_induction readBatches cursor with
  | case1 cursor empty => cases failed
  | case2 cursor more first one =>
    cases failed
    have moved := @readBatches_eq { rest := cursor.rest, offset := cursor.offset + shift } more
    rw [moved, Portable.readBatch.fails shift one]
    rfl
  | case3 cursor more first next one later broken ih =>
    cases failed
    obtain ⟨front, whole, place, reads⟩ := Portable.readBatch.exists_reads one
    have behind := ih broken
    rw [place, Nat.add_right_comm] at behind
    rw [whole] at more ⊢
    rw [readBatches_of_reads reads more, behind]
    rfl
  | case4 cursor more first next one others later ih => cases failed

/-- **Decoding goes on behind what was decoded.** When some bytes are a run of batches, the bytes
behind them are decoded as they would be alone: their events come after those of the first, and a
fault in them is the same fault, as much further back as the first bytes are long. -/
theorem decode_append {front back : List UInt8} {events : List Event}
    (decoded : decode front = .ok events) :
    (∀ others, decode back = .ok others → decode (front ++ back) = .ok (events ++ others)) ∧
      ∀ fault, decode back = .error fault →
        decode (front ++ back) = .error (fault.behind front.length) := by
  have goesOn := readBatches_append decoded back 0
  constructor
  · intro others decodedToo
    rw [decode, goesOn, readBatches_moved decodedToo]
    rfl
  · intro fault failed
    rw [decode, goesOn, readBatches_behind failed front.length]
    rfl

/-- An event that was counted once. -/
def countedOnce : Event :=
  { name := "a", samples := .counter ⟨0x3ff0000000000000⟩, dimensions := [] }

/-- A batch that breaks off behind its tag. -/
def brokenOff : List UInt8 := word32 batchTag ++ [0, 0]

theorem countedOnce_decodes_in_front :
    decode (recordBytes countedOnce) = .ok [countedOnce] ∧
      decode (recordBytes countedOnce ++ recordBytes countedOnce) =
        .ok [countedOnce, countedOnce] ∧
      decode (recordBytes countedOnce ++ brokenOff) = .error (.truncated 36) := by
  have counted : ∀ event ∈ [countedOnce], Counted event :=
    List.forall_mem_singleton.mpr fun unique => absurd unique (by decide)
  have alone : decode (recordBytes countedOnce) = .ok [countedOnce] := by
    have reads : Reads readBatch (recordBytes countedOnce) [countedOnce] :=
      reads_batch (by decide) (by decide) counted
    have some : recordBytes countedOnce ++ [] ≠ [] := by decide
    have whole := readBatches_of_reads reads some 0
    rw [List.append_nil, readBatches_nil] at whole
    exact whole
  have broken : decode brokenOff = .error (.truncated 4) := by
    rw [decode, readBatches_eq (by decide)]
    rfl
  exact ⟨alone, (decode_append alone).1 _ alone, (decode_append alone).2 _ broken⟩

end MetricPipeline.Wire
