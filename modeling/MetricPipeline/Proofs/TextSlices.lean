import MetricPipeline.Proofs.TextDecoding
import MetricPipeline.Proofs.WireSizes

/-!
Walks over the bytes of a text.

A walk keeps a position in the bytes, looks at single bytes, and cuts texts out of them. It breaks off
where a position is behind the end, where a cut is inside a character, where the bytes of a cut are no
text, and where a round of a loop does not advance. A walk that stays between characters has none of
these faults: no encoded character begins inside another one, so bytes of signs that are a single byte
long are found only where the signs are.
-/

namespace MetricPipeline.Walk

open Text

variable {σ ρ : Type}

/-! ## What can go wrong -/

/-- Why a walk breaks off. -/
inductive Fault where
  /-- A position is behind the end, or the end of a cut is in front of its start. -/
  | outOfRange
  /-- A cut starts or ends inside a character. -/
  | insideCharacter
  /-- The bytes of a cut are no text. -/
  | notText
  /-- A round does not advance, or goes behind the end. -/
  | stalled
  deriving DecidableEq, Repr

/-- The byte at a position. -/
def byteAt (bytes : List UInt8) (position : Nat) : Except Fault UInt8 :=
  match bytes[position]? with
  | some byte => .ok byte
  | none => .error .outOfRange

/-- The bytes from a position on. -/
def bytesFrom (bytes : List UInt8) (position : Nat) : Except Fault (List UInt8) :=
  if position ≤ bytes.length then .ok (bytes.drop position) else .error .outOfRange

/-- Whether a position is not inside a character: it is the end, or a character starts there. -/
def isBoundary (bytes : List UInt8) (position : Nat) : Bool :=
  match bytes[position]? with
  | some byte => byte.IsUTF8FirstByte
  | none => position = bytes.length

/-- Cuts a text out of the bytes. -/
def slice (bytes : List UInt8) (start stop : Nat) : Except Fault String :=
  if ¬ (start ≤ stop ∧ stop ≤ bytes.length) then .error .outOfRange
  else if ¬ (isBoundary bytes start ∧ isBoundary bytes stop) then .error .insideCharacter
  else
    match String.fromUTF8? ⟨((bytes.drop start).take (stop - start)).toArray⟩ with
    | some text => .ok text
    | none => .error .notText

/-- What comes after a round of a loop. -/
inductive Round (σ ρ : Type) where
  /-- Nothing; this is the result. -/
  | done (result : ρ)
  /-- Another round, from a position on. -/
  | again (next : Nat) (state : σ)

/-- Goes round after round. Each has to start further on than the one before, and not behind the
limit. -/
def rounds (limit : Nat) (round : Nat → σ → Except Fault (Round σ ρ)) (position : Nat)
    (state : σ) : Except Fault ρ :=
  match round position state with
  | .error fault => .error fault
  | .ok (.done result) => .ok result
  | .ok (.again next state) =>
    if position < next ∧ next ≤ limit then rounds limit round next state else .error .stalled
termination_by limit - position
decreasing_by omega

/-! ## Loops -/

/-- What holds where a round starts holds again where the next one starts, which is further on. If
there is no other one, the result is right. -/
def Round.Keeps (Holds : Nat → σ → Prop) (Right : ρ → Prop) (position : Nat) : Round σ ρ → Prop
  | .done result => Right result
  | .again next state => position < next ∧ Holds next state

theorem Round.Keeps.imp {Holds Carries : Nat → σ → Prop} {Right Fine : ρ → Prop} {position : Nat}
    {round : Round σ ρ} (keeps : round.Keeps Holds Right position)
    (carries : ∀ next state, position < next → Holds next state → Carries next state)
    (fine : ∀ result, Right result → Fine result) : round.Keeps Carries Fine position := by
  cases round with
  | done result => exact fine result keeps
  | again next state => exact ⟨keeps.1, carries next state keeps.1 keeps.2⟩

/-- A loop whose rounds all advance has a result, and the result is right. -/
theorem rounds_ok {limit : Nat} {round : Nat → σ → Except Fault (Round σ ρ)}
    {Holds : Nat → σ → Prop} {Right : ρ → Prop}
    (bounded : ∀ position state, Holds position state → position ≤ limit)
    (step : ∀ position state, Holds position state →
      ∃ answer, round position state = .ok answer ∧ answer.Keeps Holds Right position)
    {position : Nat} {state : σ} (start : Holds position state) :
    ∃ result, rounds limit round position state = .ok result ∧ Right result := by
  -- every round leaves less in front of the limit
  induction left : limit - position using Nat.strongRecOn generalizing position state with
  | ind _ ih =>
    obtain ⟨answer, answered, keeps⟩ := step position state start
    rw [rounds, answered]
    cases answer with
    | done result => exact ⟨result, rfl, keeps⟩
    | again next state =>
      obtain ⟨advances, holds⟩ := keeps
      have inside := bounded next state holds
      dsimp only
      rw [if_pos ⟨advances, inside⟩]
      exact ih _ (by omega) holds rfl

/-! ## Encoded characters -/

/-- A text is cut out just when the cut is in range, starts and stops between characters, and has the
bytes of the text. -/
theorem slice_eq_ok_iff {bytes : List UInt8} {start stop : Nat} {text : String} :
    slice bytes start stop = .ok text ↔
      (start ≤ stop ∧ stop ≤ bytes.length) ∧
        (isBoundary bytes start = true ∧ isBoundary bytes stop = true) ∧
          utf8 text.toList = (bytes.drop start).take (stop - start) := by
  rw [utf8_toList, ← Wire.fromUTF8?_eq_some_iff, slice]
  split
  · rename_i strays
    exact iff_of_false nofun fun cut => strays cut.1
  · rename_i inRange
    split
    · rename_i inside
      exact iff_of_false nofun fun cut => inside cut.2.1
    · rename_i between
      rw [and_iff_right (Decidable.not_not.mp inRange),
        and_iff_right (Decidable.not_not.mp between)]
      cases String.fromUTF8? ⟨((bytes.drop start).take (stop - start)).toArray⟩ with
      | none => exact iff_of_false nofun nofun
      | some found => rw [Except.ok.injEq, Option.some.injEq]

/-- The second half of a character is no text. -/
example : slice (utf8 ['é']) 1 2 = .error .insideCharacter := rfl

theorem utf8_length_pos {chars : List Char} (nonempty : chars ≠ []) : 0 < (utf8 chars).length := by
  obtain ⟨c, rest, rfl⟩ := List.exists_cons_of_ne_nil nonempty
  rw [utf8_cons]
  exact List.length_pos_iff.mpr
    (List.append_ne_nil_of_left_ne_nil String.utf8EncodeChar_ne_nil _)

/-- A sign that is a single byte long is this byte. -/
theorem utf8_cons_sign {sign : Char} (ascii : sign.utf8Size = 1) (rest : List Char) :
    utf8 (sign :: rest) = sign.toUInt8 :: utf8 rest := by
  rw [utf8_cons, String.utf8EncodeChar_eq_singleton ascii]
  rfl

theorem utf8_singleton {sign : Char} (ascii : sign.utf8Size = 1) : utf8 [sign] = [sign.toUInt8] :=
  utf8_cons_sign ascii []

/-- Characters stand in front where their bytes do. -/
theorem utf8_prefix_iff {signs behind : List Char} :
    utf8 signs <+: utf8 behind ↔ signs <+: behind := by
  constructor
  · rintro ⟨rest, encoded⟩
    refine List.isPrefix_of_utf8Encode_append_eq_utf8Encode rest.toByteArray ?_
    rw [List.utf8Encode, List.utf8Encode, ← List.toByteArray_append]
    exact congrArg List.toByteArray encoded
  · rintro ⟨rest, rfl⟩
    rw [utf8_append]
    exact List.prefix_append _ _

theorem drop_utf8_cons (c : Char) (rest : List Char) (more : Nat) :
    (utf8 (c :: rest)).drop ((String.utf8EncodeChar c).length + more) = (utf8 rest).drop more := by
  rw [utf8_cons, List.drop_append, List.drop_eq_nil_of_le (Nat.le_add_right _ _), List.nil_append,
    Nat.add_sub_cancel_left]

/-- A character begins with a first byte, and has no other. -/
theorem isFirst_iff {c : Char} {rest : List Char} {position : Nat} {byte : UInt8}
    (within : position < (String.utf8EncodeChar c).length)
    (found : (utf8 (c :: rest))[position]? = some byte) : byte.IsUTF8FirstByte ↔ position = 0 := by
  rw [utf8_cons, List.getElem?_append_left within, List.getElem?_eq_getElem within] at found
  rw [← Option.some.inj found]
  exact UInt8.isUTF8FirstByte_getElem_utf8EncodeChar

/-- Characters have a byte to begin with. -/
theorem exists_first (c : Char) (rest : List Char) :
    ∃ byte, (utf8 (c :: rest))[0]? = some byte ∧ byte.IsUTF8FirstByte := by
  have some : 0 < (String.utf8EncodeChar c).length :=
    List.length_pos_iff.mpr String.utf8EncodeChar_ne_nil
  have found : (utf8 (c :: rest))[0]? = .some (String.utf8EncodeChar c)[0] := by
    rw [utf8_cons, List.getElem?_append_left some, List.getElem?_eq_getElem some]
  exact ⟨_, found, (isFirst_iff some found).mpr rfl⟩

/-- No characters begin inside another one. -/
theorem not_prefix_inside {c : Char} {rest signs : List Char} {position : Nat}
    (nonempty : signs ≠ []) (positive : 0 < position)
    (within : position < (String.utf8EncodeChar c).length) :
    ¬ utf8 signs <+: (utf8 (c :: rest)).drop position := by
  intro begins
  obtain ⟨sign, others, rfl⟩ := List.exists_cons_of_ne_nil nonempty
  obtain ⟨byte, found, isFirst⟩ := exists_first sign others
  obtain ⟨inside, found⟩ := List.getElem?_eq_some_iff.mp found
  have there := List.prefix_iff_getElem?.mp begins 0 inside
  rw [found, List.getElem?_drop, Nat.add_zero] at there
  exact Nat.ne_of_gt positive ((isFirst_iff within there).mp isFirst)

/-- A sign that is found at a byte of a character is that character, found at its start. -/
theorem sign_prefix_iff {c sign : Char} {rest : List Char} {position : Nat}
    (within : position < (String.utf8EncodeChar c).length) :
    utf8 [sign] <+: (utf8 (c :: rest)).drop position ↔ position = 0 ∧ sign = c := by
  rcases Nat.eq_zero_or_pos position with rfl | positive
  · rw [List.drop_zero, utf8_prefix_iff, List.cons_prefix_cons]
    simp
  · refine iff_of_false (not_prefix_inside (List.cons_ne_nil _ _) positive within) fun found => ?_
    exact Nat.ne_of_gt positive found.1

/-! ## Positions between characters -/

/-- A position between two characters of a text, with these characters behind it. -/
def Between (bytes : List UInt8) (position : Nat) (behind : List Char) : Prop :=
  ∃ front, bytes = utf8 (front ++ behind) ∧ position = (utf8 front).length

theorem between_start (text : String) : Between text.toUTF8.data.toList 0 text.toList :=
  ⟨[], (utf8_toList text).symm, rfl⟩

variable {bytes : List UInt8} {position : Nat} {behind rest : List Char}

theorem Between.length (between : Between bytes position behind) :
    bytes.length = position + (utf8 behind).length := by
  obtain ⟨front, rfl, rfl⟩ := between
  rw [utf8_append, List.length_append]

theorem Between.le (between : Between bytes position behind) : position ≤ bytes.length :=
  between.length ▸ Nat.le_add_right _ _

theorem Between.atEnd_iff (between : Between bytes position behind) :
    bytes.length ≤ position ↔ behind = [] := by
  rw [between.length]
  cases behind with
  | nil => exact iff_of_true (Nat.le_refl _) rfl
  | cons c rest =>
    have some := utf8_length_pos (List.cons_ne_nil c rest)
    exact iff_of_false (by omega) (List.cons_ne_nil c rest)

theorem Between.drop (between : Between bytes position behind) :
    bytes.drop position = utf8 behind := by
  obtain ⟨front, rfl, rfl⟩ := between
  rw [utf8_append, List.drop_left]

/-- A position stays between characters when it goes over some. -/
theorem Between.past {front : List Char} (between : Between bytes position (front ++ behind)) :
    Between bytes (position + (utf8 front).length) behind := by
  obtain ⟨earlier, rfl, rfl⟩ := between
  refine ⟨earlier ++ front, by rw [List.append_assoc], ?_⟩
  rw [utf8_append, List.length_append]

/-- A sign that is a single byte long is a single byte long. -/
theorem Between.next {sign : Char} (between : Between bytes position (sign :: behind))
    (ascii : sign.utf8Size = 1) : Between bytes (position + 1) behind := by
  have split : Between bytes position ([sign] ++ behind) := between
  have past := split.past
  rwa [utf8_singleton ascii] at past

theorem Between.bytesFrom (between : Between bytes position behind) :
    bytesFrom bytes position = .ok (utf8 behind) := by
  rw [Walk.bytesFrom, if_pos between.le, between.drop]

theorem Between.isBoundary (between : Between bytes position behind) :
    isBoundary bytes position = true := by
  have here : bytes[position]? = (utf8 behind)[0]? := by
    rw [← between.drop, List.getElem?_drop, Nat.add_zero]
  rw [Walk.isBoundary, here]
  cases behind with
  | nil =>
    have length := between.length
    simpa using length.symm
  | cons c rest =>
    obtain ⟨byte, found, isFirst⟩ := exists_first c rest
    rw [found]
    exact decide_eq_true isFirst

/-- What lies between two such positions can be cut out. -/
theorem Between.slice {middle : List Char} (between : Between bytes position (middle ++ behind)) :
    slice bytes position (position + (utf8 middle).length) = .ok (String.ofList middle) := by
  have past := between.past
  refine slice_eq_ok_iff.mpr ⟨⟨Nat.le_add_right _ _, past.le⟩,
    ⟨between.isBoundary, past.isBoundary⟩, ?_⟩
  rw [between.drop, utf8_append, Nat.add_sub_cancel_left, List.take_left, String.toList_ofList]

/-- What lies behind such a position can be cut out. -/
theorem Between.slice_end (between : Between bytes position behind) :
    Walk.slice bytes position bytes.length = .ok (String.ofList behind) := by
  rw [← List.append_nil behind] at between
  rw [between.length, List.append_nil]
  exact between.slice

/-! ## Looking for signs -/

/-- Whether a byte stands at a position, if that is in front of the end. -/
def isByteAt (bytes : List UInt8) (byte : UInt8) (position : Nat) : Except Fault Bool :=
  if position < bytes.length then do
    let found ← byteAt bytes position
    return found = byte
  else return false

theorem exists_byteAt (inside : position < bytes.length) :
    ∃ found, byteAt bytes position = .ok found ∧
      ∀ byte, found = byte ↔ [byte] <+: bytes.drop position := by
  refine ⟨bytes[position], ?_, fun byte => ?_⟩
  · rw [byteAt, List.getElem?_eq_getElem inside]
  · rw [List.drop_eq_getElem_cons inside, List.cons_prefix_cons, and_iff_left List.nil_prefix,
      eq_comm]

theorem isByteAt_eq (bytes : List UInt8) (byte : UInt8) (position : Nat) :
    isByteAt bytes byte position = .ok (decide ([byte] <+: bytes.drop position)) := by
  unfold isByteAt
  split
  · rename_i further
    obtain ⟨found, here, equals⟩ := exists_byteAt further
    simp only [here, bind, Except.bind, equals]
    rfl
  · rename_i none
    have behind : ¬ [byte] <+: bytes.drop position := by
      simp [List.drop_eq_nil_of_le (Nat.le_of_not_lt none)]
    rw [decide_eq_false behind]
    rfl

/-- A sign that is a single byte long stands where its byte does. -/
theorem Between.isByteAt {sign : Char} (between : Between bytes position behind)
    (ascii : sign.utf8Size = 1) :
    isByteAt bytes sign.toUInt8 position = .ok (decide ([sign] <+: behind)) := by
  simp only [isByteAt_eq, between.drop, ← utf8_singleton ascii, utf8_prefix_iff]

theorem Between.getElem?_iff {sign : Char} (between : Between bytes position behind)
    (ascii : sign.utf8Size = 1) : bytes[position]? = some sign.toUInt8 ↔ [sign] <+: behind := by
  rw [← utf8_prefix_iff, ← between.drop, utf8_singleton ascii, List.prefix_iff_getElem?]
  simp

end MetricPipeline.Walk
