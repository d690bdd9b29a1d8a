import MetricPipeline.Proofs.CompoundSlices
import MetricPipeline.Proofs.TemplateSources

/-!
Templates parsed by positions.

The pieces of a source are found on a walk over its bytes: to the next dollar sign, over a name or to a
closing brace. Literals and names are cut out of the bytes. The walk has no faults whatever the source
is, and it parses the template.
-/

namespace MetricPipeline.Template

open Text Walk

/-! ## The walk -/

/-- A byte of a name without braces. -/
def isNameByte (byte : UInt8) : Bool :=
  'A'.toUInt8 ≤ byte && byte ≤ 'Z'.toUInt8 || 'a'.toUInt8 ≤ byte && byte ≤ 'z'.toUInt8 ||
    '0'.toUInt8 ≤ byte && byte ≤ '9'.toUInt8 || byte = '_'.toUInt8

/-- How many bytes stand in front of the first occurrence of a sign. -/
def find? (sign : Char) (text : String) : Option Nat :=
  if sign ∈ text.toList then some (utf8 (text.toList.takeWhile (· ≠ sign))).length else none

/-- What has been parsed so far. -/
structure Draft where
  /-- The pieces that are complete. -/
  segments : List Segment
  /-- The text behind them. -/
  literal : String

/-- All of it as pieces. -/
def Draft.complete (draft : Draft) : List Segment :=
  if draft.literal = "" then draft.segments else draft.segments ++ [.literal draft.literal]

/-- A dollar sign and a name make a reference; without a name the dollar sign stands for itself. -/
def Draft.refer (draft : Draft) (name : String) : Draft :=
  if name = "" then { draft with literal := draft.literal ++ "$" }
  else { segments := draft.complete ++ [.reference name], literal := "" }

/-- The name behind a dollar sign, and the position behind it; none when a brace is not closed. -/
def nameAt (bytes : List UInt8) (position : Nat) : Except Fault (Option (String × Nat)) := do
  if bytes[position]? = some '\x7b'.toUInt8 then
    let following ← slice bytes position bytes.length
    match find? '\x7d' following with
    | none => return none
    | some close =>
      let name ← slice bytes (position + 1) (position + close)
      return some (name, position + close + 1)
  else
    let following ← bytesFrom bytes position
    let size := (following.takeWhile isNameByte).length
    let name ← slice bytes position (position + size)
    return some (name, position + size)

/-- One round: up to the next dollar sign, and over what it refers to. -/
def parseRound (source : String) (bytes : List UInt8) (position : Nat) (draft : Draft) :
    Except Fault (Round Draft (Except ResolveError Draft)) := do
  if position < bytes.length then
    let following ← slice bytes position bytes.length
    match find? '$' following with
    | none => return .done (.ok { draft with literal := draft.literal ++ following })
    | some offset =>
      let front ← slice bytes position (position + offset)
      match ← nameAt bytes (position + offset + 1) with
      | none => return .done (.error (.unterminated source))
      | some (name, next) =>
        return .again next ({ draft with literal := draft.literal ++ front }.refer name)
  else return .done (.ok draft)

/-- Parses the source of a template on a walk over its bytes. -/
def parseBySlices (source : String) : Except Fault (Except ResolveError Template) := do
  let bytes := source.toUTF8.data.toList
  let parsed ← rounds bytes.length (parseRound source bytes) 0 { segments := [], literal := "" }
  return parsed.map fun draft => { segments := draft.complete }

/-! ## Bytes of names -/

theorem isNameChar_eq (c : Char) :
    isNameChar c = (decide ('A'.val ≤ c.val ∧ c.val ≤ 'Z'.val) ||
      decide ('a'.val ≤ c.val) && decide (c.val ≤ 'z'.val) ||
      decide ('0'.val ≤ c.val) && decide (c.val ≤ '9'.val) || decide (c = '_')) := rfl

/-- A character of a name is a single byte long. -/
theorem ascii_of_isNameChar {c : Char} (name : isNameChar c) : c.utf8Size = 1 := by
  simp only [isNameChar_eq, Bool.or_eq_true, Bool.and_eq_true, decide_eq_true_eq] at name
  rw [Char.utf8Size_eq_one_iff]
  rcases name with ((⟨-, upper⟩ | ⟨-, lower⟩) | ⟨-, digit⟩) | rfl
  · exact UInt32.le_trans upper (by decide)
  · exact UInt32.le_trans lower (by decide)
  · exact UInt32.le_trans digit (by decide)
  · decide

theorem isNameByte_toUInt8 {c : Char} (ascii : c.utf8Size = 1) :
    isNameByte c.toUInt8 = isNameChar c := by
  have small := UInt32.le_iff_toNat_le.mp (Char.utf8Size_eq_one_iff.mp ascii)
  have value : c.toUInt8.toNat = c.val.toNat := by
    rw [Char.toUInt8, UInt32.toNat_toUInt8]
    exact Nat.mod_eq_of_lt (Nat.lt_of_le_of_lt small (by decide))
  simp only [isNameByte, isNameChar_eq, UInt8.le_iff_toNat_le, value, UInt32.le_iff_toNat_le,
    Char.ext_iff, ← UInt8.toNat_inj, ← UInt32.toNat_inj, Bool.decide_and]
  rfl

/-- A byte of a name is the byte of a sign. -/
theorem exists_sign {byte : UInt8} (name : isNameByte byte) :
    ∃ sign : Char, sign.utf8Size = 1 ∧ sign.toUInt8 = byte := by
  have small : byte ≤ 127 := by
    simp only [isNameByte, Bool.or_eq_true, Bool.and_eq_true, decide_eq_true_eq] at name
    rcases name with ((⟨-, upper⟩ | ⟨-, lower⟩) | ⟨-, digit⟩) | rfl
    · exact UInt8.le_trans upper (by decide)
    · exact UInt8.le_trans lower (by decide)
    · exact UInt8.le_trans digit (by decide)
    · decide
  refine ⟨Char.ofUInt8 byte, ?_, UInt8.toUInt8_toUInt32 byte⟩
  rw [Char.utf8Size_eq_one_iff, UInt32.le_iff_toNat_le]
  exact (UInt8.toNat_toUInt32 byte).symm ▸ UInt8.le_iff_toNat_le.mp small

/-- The bytes of a name are those of its characters. -/
theorem takeWhile_utf8 (chars : List Char) :
    (utf8 chars).takeWhile isNameByte = utf8 (chars.takeWhile isNameChar) := by
  induction chars with
  | nil => rfl
  | cons c rest ih =>
    by_cases name : isNameChar c
    · have ascii := ascii_of_isNameChar name
      rw [utf8_cons_sign ascii, List.takeWhile_cons_of_pos ((isNameByte_toUInt8 ascii).trans name),
        ih, List.takeWhile_cons_of_pos name, utf8_cons_sign ascii]
    · rw [List.takeWhile_cons_of_neg name]
      cases encoded : utf8 (c :: rest) with
      | nil => rfl
      | cons byte tail =>
        refine List.takeWhile_cons_of_neg fun first => name ?_
        obtain ⟨sign, ascii, rfl⟩ := exists_sign first
        have stands : utf8 [sign] <+: utf8 (c :: rest) := by
          rw [encoded, utf8_singleton ascii]
          exact List.prefix_append [_] tail
        obtain rfl := (List.cons_prefix_cons.mp (utf8_prefix_iff.mp stands)).1
        exact (isNameByte_toUInt8 ascii).symm.trans first

/-! ## Names -/

variable {bytes : List UInt8} {position : Nat} {chars front rest : List Char} {sign : Char}

theorem find?_eq_none (absent : sign ∉ chars) : find? sign (String.ofList chars) = none := by
  rw [find?, String.toList_ofList, if_neg absent]

theorem find?_eq_some (absent : sign ∉ front) (rest : List Char) :
    find? sign (String.ofList (front ++ sign :: rest)) = some (utf8 front).length := by
  have before : ∀ c ∈ front, decide (c ≠ sign) = true := by
    intro c member
    exact decide_eq_true fun same => absent (same ▸ member)
  rw [find?, String.toList_ofList, if_pos (List.mem_append_right front List.mem_cons_self),
    List.takeWhile_append_of_pos before, List.takeWhile_cons_of_neg (by simp), List.append_nil]

/-- What is read behind a dollar sign is what the scan reads there. -/
def Names (bytes : List UInt8) (position : Nat) (behind : List Char) :
    Option (String × Nat) → Prop
  | none => ∀ text, scan (.literal text) ('$' :: behind) = none
  | some (name, next) => position ≤ next ∧ ∃ rest, Between bytes next rest ∧
    ∀ text, scan (.literal text) ('$' :: behind) =
      if name = "" then scan (.literal ('$' :: text)) rest
      else (scan (.literal []) rest).map (referenceSegments text name.toList.reverse ++ ·)

/-- Characters of a name come in front of what ends it. -/
theorem exists_name (chars : List Char) :
    ∃ name rest, chars = name ++ rest ∧ chars.takeWhile isNameChar = name ∧
      (∀ c ∈ name, isNameChar c) ∧ ∀ c, rest.head? = some c → ¬ isNameChar c := by
  refine ⟨_, _, List.takeWhile_append_dropWhile.symm, rfl, fun c => List.mem_takeWhile_imp, ?_⟩
  intro c first
  have stops := List.head?_dropWhile_not isNameChar chars
  rw [first] at stops
  simpa using stops

theorem nameAt_braced {inner : List Char} (between : Between bytes position ('\x7b' :: inner)) :
    ∃ answer, nameAt bytes position = .ok answer ∧ Names bytes position ('\x7b' :: inner) answer := by
  have brace : bytes[position]? = some '\x7b'.toUInt8 :=
    (between.getElem?_iff rfl).mpr (List.prefix_append ['\x7b'] inner)
  by_cases closed : '\x7d' ∈ inner
  · obtain ⟨name, rest, rfl, absent⟩ := List.eq_append_cons_of_mem closed
    have before : '\x7d' ∉ '\x7b' :: name := by simpa using absent
    have close : find? '\x7d' (String.ofList ('\x7b' :: (name ++ '\x7d' :: rest))) =
        some (utf8 ('\x7b' :: name)).length := find?_eq_some before rest
    have size : position + (utf8 ('\x7b' :: name)).length = position + 1 + (utf8 name).length := by
      rw [utf8_cons_sign rfl, List.length_cons]
      omega
    have inside : Between bytes (position + 1) (name ++ '\x7d' :: rest) := between.next rfl
    have behind : Between bytes (position + 1 + (utf8 name).length + 1) rest := inside.past.next rfl
    refine ⟨some (String.ofList name, position + 1 + (utf8 name).length + 1), ?_, by omega, rest,
      behind, fun text => ?_⟩
    · simp only [nameAt, brace, if_true, between.slice_end, close, bind, Except.bind, size,
        inside.slice]
      rfl
    · by_cases nothing : name = []
      · rw [nothing, if_pos (String.ofList_eq_empty_iff.mpr rfl)]
        exact scan_hollow
      · rw [if_neg (mt String.ofList_eq_empty_iff.mp nothing), String.toList_ofList]
        exact scan_braced nothing absent
  · refine ⟨none, ?_, fun text => scan_unclosed closed⟩
    have unclosed : find? '\x7d' (String.ofList ('\x7b' :: inner)) = none :=
      find?_eq_none (by simpa using closed)
    simp only [nameAt, brace, if_true, between.slice_end, unclosed, bind, Except.bind]
    rfl

theorem nameAt_plain (noBrace : ¬ ['\x7b'] <+: chars) (between : Between bytes position chars) :
    ∃ answer, nameAt bytes position = .ok answer ∧ Names bytes position chars answer := by
  have brace : ¬ bytes[position]? = some '\x7b'.toUInt8 := mt (between.getElem?_iff rfl).mp noBrace
  obtain ⟨name, rest, rfl, named, all, ends⟩ := exists_name chars
  have behind : Between bytes (position + (utf8 name).length) rest := between.past
  refine ⟨some (String.ofList name, position + (utf8 name).length), ?_, by omega, rest, behind,
    fun text => ?_⟩
  · simp only [nameAt, brace, if_false, between.bytesFrom, bind, Except.bind, takeWhile_utf8, named,
      between.slice]
    rfl
  · by_cases nothing : name = []
    · subst nothing
      have lone : Lone rest := by
        intro c first
        obtain ⟨later, rfl⟩ := List.head?_eq_some_iff.mp first
        refine ⟨?_, ends c first⟩
        rintro rfl
        exact noBrace (List.prefix_append ['\x7b'] later)
      rw [if_pos (String.ofList_eq_empty_iff.mpr rfl)]
      exact scan_lone lone
    · rw [if_neg (mt String.ofList_eq_empty_iff.mp nothing), String.toList_ofList]
      exact scan_named nothing all ends

theorem nameAt_ok (between : Between bytes position chars) :
    ∃ answer, nameAt bytes position = .ok answer ∧ Names bytes position chars answer := by
  by_cases brace : ['\x7b'] <+: chars
  · obtain ⟨inner, rfl⟩ := brace
    exact nameAt_braced between
  · exact nameAt_plain brace between

/-! ## Pieces -/

variable {source : String} {draft : Draft} {pieces : Option (List Segment)}

theorem Draft.complete_eq (draft : Draft) :
    draft.complete = draft.segments ++ literalSegment draft.literal.toList.reverse := by
  have empty : draft.literal.toList.reverse = [] ↔ draft.literal = "" := by simp
  rw [Draft.complete, literalSegment, List.reverse_reverse, String.ofList_toList]
  simp only [empty]
  split
  · rw [List.append_nil]
  · rfl

/-- A draft and what the scan makes of the rest. -/
def Draft.followedBy (draft : Draft) (behind : List Char) : Option (List Segment) :=
  (scan (.literal draft.literal.toList.reverse) behind).map (draft.segments ++ ·)

theorem Draft.followedBy_nil (draft : Draft) : draft.followedBy [] = some draft.complete := by
  rw [complete_eq]
  rfl

/-- Text without a dollar sign belongs to the literal. -/
theorem Draft.followedBy_text (draft : Draft) (plain : '$' ∉ front) (behind : List Char) :
    draft.followedBy (front ++ behind) =
      Draft.followedBy { draft with literal := draft.literal ++ String.ofList front } behind := by
  rw [followedBy, followedBy, scan_text plain, String.toList_append, String.toList_ofList,
    List.reverse_append]

/-- A dollar sign and a name make a reference, or the dollar sign belongs to the literal. -/
theorem Draft.followedBy_refer (draft : Draft) (name : String) (rest : List Char) :
    (draft.refer name).followedBy rest =
      (if name = "" then scan (.literal ('$' :: draft.literal.toList.reverse)) rest
        else (scan (.literal []) rest).map
          (referenceSegments draft.literal.toList.reverse name.toList.reverse ++ ·)).map
        (draft.segments ++ ·) := by
  unfold refer followedBy
  split
  · rw [String.toList_append, List.reverse_append]
    rfl
  · rw [Option.map_map, complete_eq, referenceSegments, List.reverse_reverse, String.ofList_toList]
    simp only [Function.comp_def, List.append_assoc]
    rfl

/-- From a position on, what is parsed so far is followed by the rest of the pieces. -/
def Reads (bytes : List UInt8) (pieces : Option (List Segment)) (position : Nat) (draft : Draft) :
    Prop :=
  ∃ behind, Between bytes position behind ∧ draft.followedBy behind = pieces

/-- All pieces are there, or a brace is not closed. -/
def Parses (source : String) (pieces : Option (List Segment)) : Except ResolveError Draft → Prop
  | .ok draft => some draft.complete = pieces
  | .error error => pieces = none ∧ error = .unterminated source

theorem parseRound_ok (source : String) (reads : Reads bytes pieces position draft) :
    ∃ answer, parseRound source bytes position draft = .ok answer ∧
      answer.Keeps (Reads bytes pieces) (Parses source pieces) position := by
  obtain ⟨behind, between, rfl⟩ := reads
  by_cases atEnd : bytes.length ≤ position
  · obtain rfl := between.atEnd_iff.mp atEnd
    refine ⟨.done (.ok draft), ?_, draft.followedBy_nil.symm⟩
    rw [parseRound, if_neg (Nat.not_lt.mpr atEnd)]
    rfl
  · have further := Nat.lt_of_not_le atEnd
    by_cases dollar : '$' ∈ behind
    · obtain ⟨front, rest, rfl, plain⟩ := List.eq_append_cons_of_mem dollar
      have after : Between bytes (position + (utf8 front).length + 1) rest := between.past.next rfl
      obtain ⟨answer, named, names⟩ := nameAt_ok after
      have follows := draft.followedBy_text plain ('$' :: rest)
      have round : parseRound source bytes position draft = .ok (match answer with
          | none => .done (.error (.unterminated source))
          | some (name, next) => .again next (Draft.refer
            { draft with literal := draft.literal ++ String.ofList front } name)) := by
        simp only [parseRound, further, if_true, between.slice_end, find?_eq_some plain,
          between.slice, named, bind, Except.bind]
        cases answer with
        | none => rfl
        | some pair => rfl
      refine ⟨_, round, ?_⟩
      rw [follows]
      match answer, names with
      | none, unclosed =>
        refine ⟨?_, rfl⟩
        rw [Draft.followedBy, unclosed]
        rfl
      | some (name, next), ⟨forward, behind, there, reads⟩ =>
        refine ⟨by omega, behind, there, ?_⟩
        rw [Draft.followedBy_refer, ← reads, Draft.followedBy]
    · have plain : Draft.followedBy draft (behind ++ []) = _ := draft.followedBy_text dollar []
      rw [List.append_nil] at plain
      refine ⟨.done (.ok { draft with literal := draft.literal ++ String.ofList behind }), ?_, ?_⟩
      · simp only [parseRound, further, if_true, between.slice_end, find?_eq_none dollar, bind,
          Except.bind]
        rfl
      · rw [plain, Draft.followedBy_nil]
        exact rfl

/-- The walk has no faults, and parses the template. -/
theorem parseBySlices_eq (source : String) : parseBySlices source = .ok (parse source) := by
  let bytes := source.toUTF8.data.toList
  let pieces := scan (.literal []) source.toList
  have bounded (position : Nat) (draft : Draft) (reads : Reads bytes pieces position draft) :
      position ≤ bytes.length := by
    obtain ⟨behind, between, -⟩ := reads
    exact between.le
  have start : Reads bytes pieces 0 { segments := [], literal := "" } :=
    ⟨source.toList, between_start source, Option.map_id'⟩
  obtain ⟨parsed, walked, parses⟩ := rounds_ok bounded (fun _ _ => parseRound_ok source) start
  have template : parse source = parsed.map fun draft => { segments := draft.complete } := by
    rw [parse]
    cases parsed with
    | ok draft =>
      rw [show scan _ _ = some draft.complete from parses.symm]
      rfl
    | error error =>
      obtain ⟨unclosed, rfl⟩ := parses
      rw [show scan _ _ = none from unclosed]
      rfl
  rw [template, parseBySlices, walked]
  rfl

/-! ## The main statement -/

/-- **No walk over a text breaks off.** Whatever a text is, the walk for its items and the walk for its
pieces cut it in range and between characters only, every cut is a text, and every round starts further
on than the one before. So both come to an end, with the items and with the template of the text. -/
theorem walks_stay_between_characters (text : String) :
    Compound.itemsBySlices text = .ok (Compound.items text) ∧
      parseBySlices text = .ok (parse text) :=
  ⟨Compound.itemsBySlices_eq text, parseBySlices_eq text⟩

end MetricPipeline.Template
