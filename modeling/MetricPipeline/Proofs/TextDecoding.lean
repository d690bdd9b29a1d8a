import MetricPipeline.Text.Decoding

/-!
Bytes of a text are read as that text, and its front as little more than its front.

Characters that are encoded one after another are read one after another, whatever follows them. Where
a text is cut off inside a character, the bytes that are left of it are replaced; there are at most three
of them, so at most three characters take their place.
-/

namespace MetricPipeline.Text

/-! ## Encoded characters -/

/-- The bytes of characters. -/
def utf8 (chars : List Char) : List UInt8 := chars.flatMap String.utf8EncodeChar

@[simp] theorem utf8_nil : utf8 [] = [] := rfl

theorem utf8_cons (c : Char) (rest : List Char) :
    utf8 (c :: rest) = String.utf8EncodeChar c ++ utf8 rest := rfl

@[simp] theorem utf8_append (front behind : List Char) :
    utf8 (front ++ behind) = utf8 front ++ utf8 behind := List.flatMap_append

theorem utf8_toList (text : String) : utf8 text.toList = text.toUTF8.data.toList := by
  have encoded : text.toList.utf8Encode = text.toUTF8 := String.utf8Encode_toList
  rw [← encoded, List.utf8Encode, utf8]
  simp

theorem utf8_length_toList (text : String) : (utf8 text.toList).length = text.utf8ByteSize := by
  rw [utf8_toList]
  rfl

theorem utf8_length_le (chars : List Char) : (utf8 chars).length ≤ 4 * chars.length := by
  induction chars with
  | nil => exact Nat.le_refl 0
  | cons c rest ih =>
    have most := c.utf8Size_le_four
    rw [utf8_cons, List.length_append, String.length_utf8EncodeChar, List.length_cons]
    omega

/-! ## Reading them -/

/-- Bytes that are skipped do not count. -/
theorem decode_eq_drop (skipped : Nat) (bytes : List UInt8) :
    decode skipped bytes = decode 0 (bytes.drop skipped) := by
  induction skipped generalizing bytes with
  | zero => rfl
  | succ skipped ih =>
    cases bytes with
    | nil => rfl
    | cons byte rest => exact ih rest

theorem firstChar?_encoded (c : Char) (rest : List UInt8) :
    firstChar? (String.utf8EncodeChar c ++ rest) = some c := by
  have short : (String.utf8EncodeChar c).length ≤ 4 := by
    rw [String.length_utf8EncodeChar]
    exact c.utf8Size_le_four
  rw [firstChar?, List.take_append, List.take_of_length_le short, List.toByteArray_append]
  exact ByteArray.utf8DecodeChar?_utf8EncodeChar_append

theorem decode_encoded (c : Char) (rest : List UInt8) :
    decode 0 (String.utf8EncodeChar c ++ rest) = c :: decode 0 rest := by
  have first := firstChar?_encoded c rest
  have size : (String.utf8EncodeChar c).length = c.utf8Size := String.length_utf8EncodeChar c
  obtain ⟨byte, more, encoded⟩ := List.exists_cons_of_ne_nil (@String.utf8EncodeChar_ne_nil c)
  rw [encoded, List.cons_append] at first ⊢
  rw [encoded, List.length_cons] at size
  simp only [decode, first]
  rw [decode_eq_drop, ← size, Nat.add_sub_cancel, List.drop_left]

/-- Encoded characters are read, whatever follows them. -/
theorem decode_utf8_append (chars : List Char) (rest : List UInt8) :
    decode 0 (utf8 chars ++ rest) = chars ++ decode 0 rest := by
  induction chars with
  | nil => rfl
  | cons c others ih => rw [utf8_cons, List.append_assoc, decode_encoded, ih, List.cons_append]

/-- The bytes of a text are read as that text. -/
theorem decoded_bytes (text : String) : decoded text.toUTF8.data.toList = text := by
  have read := decode_utf8_append text.toList []
  rw [List.append_nil, utf8_toList] at read
  rw [decoded, read, decode, List.append_nil, String.ofList_toList]

/-- There are no more characters than bytes. -/
theorem decode_length_le (skipped : Nat) (bytes : List UInt8) :
    (decode skipped bytes).length ≤ bytes.length := by
  induction bytes generalizing skipped with
  | nil => cases skipped <;> exact Nat.le_refl 0
  | cons byte rest ih =>
    cases skipped with
    | succ skipped => exact Nat.le_succ_of_le (ih skipped)
    | zero =>
      unfold decode
      cases firstChar? (byte :: rest) with
      | some c => exact Nat.succ_le_succ (ih _)
      | none => exact Nat.succ_le_succ (ih _)

/-! ## Reading a front of them -/

/-- What is cut off after a number of bytes is read as the characters that are there as a whole, and at
most three others. -/
theorem exists_decode_take (chars : List Char) (count : Nat) :
    ∃ front broken, decode 0 ((utf8 chars).take count) = front ++ broken ∧
      (utf8 front).length ≤ count ∧ broken.length ≤ 3 := by
  induction chars generalizing count with
  | nil => exact ⟨[], [], by rw [utf8_nil, List.take_nil, decode, List.append_nil],
      Nat.zero_le _, Nat.zero_le _⟩
  | cons c rest ih =>
    have size : (String.utf8EncodeChar c).length = c.utf8Size := String.length_utf8EncodeChar c
    by_cases whole : c.utf8Size ≤ count
    · obtain ⟨front, broken, read, within, few⟩ := ih (count - c.utf8Size)
      refine ⟨c :: front, broken, ?_, ?_, few⟩
      · rw [utf8_cons, List.take_append, List.take_of_length_le (size ▸ whole), decode_encoded, size,
          read, List.cons_append]
      · rw [utf8_cons, List.length_append, size]
        omega
    · have most := c.utf8Size_le_four
      refine ⟨[], _, (List.nil_append _).symm, Nat.zero_le _, Nat.le_trans (decode_length_le _ _) ?_⟩
      exact Nat.le_trans (List.length_take_le ..) (by omega)

/-- A text that lost more than a few bytes is not read back. -/
theorem decoded_take_ne {text : String} {count : Nat} (lost : count + 12 < text.utf8ByteSize) :
    decoded (text.toUTF8.data.toList.take count) ≠ text := by
  intro same
  obtain ⟨front, broken, read, within, few⟩ := exists_decode_take text.toList count
  have chars : text.toList = front ++ broken := by
    have all := congrArg String.toList same
    rw [decoded, String.toList_ofList, ← utf8_toList, read] at all
    exact all.symm
  have size := utf8_length_toList text
  have added := utf8_length_le broken
  rw [chars, utf8_append, List.length_append] at size
  omega

/-- Three bytes of a character that needs four are replaced at once, and so is each byte that begins
none. -/
example : decoded ([0x48, 0xF0, 0x90, 0x80, 0x57] ++ [0xFF, 0xC0]) = "H\uFFFDW\uFFFD\uFFFD" := by
  decide +kernel

end MetricPipeline.Text
