import MetricPipeline.Proofs.CompoundPieces
import MetricPipeline.Proofs.TextSlices

/-!
Compound texts taken apart by positions.

The items of a text are found on a walk over its bytes: over separators, byte by byte to the end of an
item, back over one blank, and over the separators behind it. Every item is cut out of the bytes. The
walk has no faults whatever the text is, and it finds the items.
-/

namespace MetricPipeline.Compound

open Text Walk

/-! ## The walk -/

/-- The bytes of the separator of groups. -/
def groupSeparator : List UInt8 := [' '.toUInt8, ':'.toUInt8, ' '.toUInt8]

/-- Whether a separator of groups stands at a position. -/
def isGroupAt (bytes : List UInt8) (position : Nat) : Except Fault Bool := do
  let following ← bytesFrom bytes position
  return groupSeparator <+: following

/-- One step over separators. Behind a separator of groups, the group has had no item yet. -/
def skipRound (bytes : List UInt8) (position : Nat) (fresh : Bool) :
    Except Fault (Round Bool (Nat × Bool)) := do
  if ← isGroupAt bytes position then return .again (position + groupSeparator.length) true
  else if ← isByteAt bytes ' '.toUInt8 position then return .again (position + 1) fresh
  else return .done (position, fresh)

/-- Goes over separators. -/
def skip (bytes : List UInt8) : Nat → Bool → Except Fault (Nat × Bool) :=
  rounds bytes.length (skipRound bytes)

/-- One byte of an item. -/
def stopRound (bytes : List UInt8) (position : Nat) (_ : Unit) : Except Fault (Round Unit Nat) :=
  if position < bytes.length then do
    let found ← byteAt bytes position
    if found = ','.toUInt8 then return .done position
    else if ← isGroupAt bytes position then return .done position
    else return .again (position + 1) ()
  else return .done position

/-- Goes to the end of an item. -/
def stopFrom (bytes : List UInt8) (position : Nat) : Except Fault Nat :=
  rounds bytes.length (stopRound bytes) position ()

/-- The end of an item without one blank. -/
def trimEnd (bytes : List UInt8) (start stop : Nat) : Except Fault Nat :=
  if start < stop then do
    let last ← byteAt bytes (stop - 1)
    return if last = ' '.toUInt8 then stop - 1 else stop
  else return stop

/-- One round of the search for an item, which passes over a label: the item, where the next search
starts, and whether the group has had no item yet. -/
def itemRound (bytes : List UInt8) (position : Nat) (fresh : Bool) :
    Except Fault (Round Bool (Option (String × Nat × Bool))) := do
  let (start, fresh) ← skip bytes position fresh
  if bytes.length ≤ start then return .done none
  else
    let stop ← stopFrom bytes start
    let comma ← isByteAt bytes ','.toUInt8 stop
    let closesLabel := stop < bytes.length ∧ comma = false ∧ fresh = true
    let trimmed ← trimEnd bytes start stop
    let (next, following) ← skip bytes (if comma then stop + 1 else stop) false
    if closesLabel then return .again next following
    else
      let item ← slice bytes start trimmed
      if item = "" ∧ bytes.length ≤ next then return .done none
      else return .done (some (if item = "-" then "" else item, next, following))

/-- The next item, if there is one. -/
def nextItem (bytes : List UInt8) : Nat → Bool → Except Fault (Option (String × Nat × Bool)) :=
  rounds bytes.length (itemRound bytes)

/-- One more item behind those that were found. -/
def collectRound (bytes : List UInt8) (position : Nat) :
    Bool × List String → Except Fault (Round (Bool × List String) (List String))
  | (fresh, found) => do
    match ← nextItem bytes position fresh with
    | none => return .done found
    | some (item, next, following) => return .again next (following, found ++ [item])

/-- The items of a text, cut out of its bytes. -/
def itemsBySlices (text : String) : Except Fault (List String) :=
  let bytes := text.toUTF8.data.toList
  rounds bytes.length (collectRound bytes) 0 (true, [])

/-! ## Separators -/

variable {bytes : List UInt8} {position : Nat} {behind rest content : List Char} {fresh : Bool}

theorem isGroupAt_eq (inside : position ≤ bytes.length) :
    isGroupAt bytes position = .ok (decide (groupSeparator <+: bytes.drop position)) := by
  rw [isGroupAt, bytesFrom, if_pos inside]
  rfl

theorem groupSeparator_eq : groupSeparator = utf8 [' ', ':', ' '] := by decide

theorem isGroupAt_of_between (between : Between bytes position behind) :
    isGroupAt bytes position = .ok (decide ([' ', ':', ' '] <+: behind)) := by
  simp only [isGroupAt_eq between.le, between.drop, groupSeparator_eq, utf8_prefix_iff]

/-- A place on the way over separators. -/
structure Skips (bytes : List UInt8) (position : Nat) (fresh : Bool) (behind : List Char)
    (next : Nat) (following : Bool) (rest : List Char) : Prop where
  /-- It is between characters. -/
  between : Between bytes next rest
  /-- It is not in front of the start. -/
  forward : position ≤ next
  /-- The items are the same from there on. -/
  items : scan (.between following) rest = scan (.between fresh) behind
  /-- So is whether anything but separators is left. -/
  spent : isSeparators rest = isSeparators behind

/-- Where no blank stands, it is the end just when nothing but separators was left. -/
theorem Skips.atEnd_iff {next : Nat} {following : Bool}
    (skips : Skips bytes position fresh behind next following rest) (stops : ¬ [' '] <+: rest) :
    rest = [] ↔ isSeparators behind = true := by
  rw [← skips.spent]
  cases rest with
  | nil => exact iff_of_true rfl rfl
  | cons c later =>
    have noBlank : c ≠ ' ' := by
      rintro rfl
      exact stops (List.prefix_append [' '] later)
    refine iff_of_false (List.cons_ne_nil c later) ?_
    rw [isSeparators]
    · exact Bool.false_ne_true
    · exact fun _ blank => absurd blank noBlank
    · exact noBlank

theorem scan_blank (fresh : Bool) (noGroup : ¬ [' ', ':', ' '] <+: ' ' :: rest) :
    scan (.between fresh) (' ' :: rest) = scan (.between fresh) rest ∧
      isSeparators (' ' :: rest) = isSeparators rest := by
  have noMore (later : List Char) : rest = ':' :: ' ' :: later → False := by
    rintro rfl
    exact noGroup (List.prefix_append [' ', ':', ' '] later)
  constructor
  · rw [scan, if_pos rfl]
    exact fun later _ => noMore later
  · rw [isSeparators]
    exact noMore

/-- Some characters stand behind such a place. -/
def Skipping (bytes : List UInt8) (position : Nat) (fresh : Bool) (behind : List Char)
    (next : Nat) (following : Bool) : Prop :=
  ∃ rest, Skips bytes position fresh behind next following rest

/-- The first of them is no blank. -/
def Skipped (bytes : List UInt8) (position : Nat) (fresh : Bool) (behind : List Char) :
    Nat × Bool → Prop
  | (next, following) =>
    ∃ rest, Skips bytes position fresh behind next following rest ∧ ¬ [' '] <+: rest

theorem skipRound_ok {next : Nat} {following : Bool}
    (skipping : Skipping bytes position fresh behind next following) :
    ∃ answer, skipRound bytes next following = .ok answer ∧
      answer.Keeps (Skipping bytes position fresh behind) (Skipped bytes position fresh behind)
        next := by
  obtain ⟨rest, between, forward, items, spent⟩ := skipping
  have isGroup := isGroupAt_of_between between
  have isBlank := between.isByteAt (rfl : ' '.utf8Size = 1)
  by_cases group : [' ', ':', ' '] <+: rest
  · rw [decide_eq_true group] at isGroup
    obtain ⟨later, rfl⟩ := group
    refine ⟨.again (next + groupSeparator.length) true, ?_, Nat.lt_add_of_pos_right (by decide),
      later, between.past, Nat.le_add_right_of_le forward, items, spent⟩
    rw [skipRound, isGroup]
    rfl
  · rw [decide_eq_false group] at isGroup
    by_cases blank : [' '] <+: rest
    · rw [decide_eq_true blank] at isBlank
      obtain ⟨later, rfl⟩ := blank
      obtain ⟨sameItems, sameSpent⟩ := scan_blank following group
      refine ⟨.again (next + 1) following, ?_, Nat.lt_succ_self next, later, between.next rfl,
        Nat.le_add_right_of_le forward, sameItems.symm.trans items, sameSpent.symm.trans spent⟩
      rw [skipRound, isGroup, isBlank]
      rfl
    · rw [decide_eq_false blank] at isBlank
      refine ⟨.done (next, following), ?_, rest, ⟨between, forward, items, spent⟩, blank⟩
      rw [skipRound, isGroup, isBlank]
      rfl

theorem skip_ok (between : Between bytes position behind) (fresh : Bool) :
    ∃ next following rest, skip bytes position fresh = .ok (next, following) ∧
      Skips bytes position fresh behind next following rest ∧ ¬ [' '] <+: rest := by
  have bounded (next : Nat) (following : Bool)
      (skipping : Skipping bytes position fresh behind next following) : next ≤ bytes.length := by
    obtain ⟨rest, skips⟩ := skipping
    exact skips.between.le
  have start : Skipping bytes position fresh behind position fresh :=
    ⟨behind, between, Nat.le_refl _, rfl, rfl⟩
  obtain ⟨⟨next, following⟩, skipped, rest, skips, stops⟩ :=
    rounds_ok bounded (fun _ _ => skipRound_ok) start
  exact ⟨next, following, rest, skipped, skips, stops⟩

/-! ## The end of an item -/

/-- What stands here belongs to no item: a comma or a separator of groups. -/
def Stops (behind : List Char) : Prop := [','] <+: behind ∨ [' ', ':', ' '] <+: behind

/-- Characters of an item up to what ends it. -/
inductive Stretch : List Char → List Char → Prop where
  /-- There are no more. -/
  | ends (rest : List Char) (stops : rest = [] ∨ Stops rest) : Stretch [] rest
  /-- One more. -/
  | more (c : Char) (content rest : List Char) (inside : ¬ Stops (c :: (content ++ rest)))
      (later : Stretch content rest) : Stretch (c :: content) rest

theorem exists_stretch (behind : List Char) :
    ∃ content rest, behind = content ++ rest ∧ Stretch content rest := by
  induction behind with
  | nil => exact ⟨[], [], rfl, .ends [] (.inl rfl)⟩
  | cons c behind ih =>
    by_cases stops : Stops (c :: behind)
    · exact ⟨[], c :: behind, rfl, .ends _ (.inr stops)⟩
    · obtain ⟨content, rest, rfl, stretch⟩ := ih
      exact ⟨c :: content, rest, rfl, .more c content rest stops stretch⟩

theorem Stretch.stops (stretch : Stretch content rest) : rest = [] ∨ Stops rest := by
  induction stretch with
  | ends rest stops => exact stops
  | more c content rest inside later ih => exact ih

theorem scan_within {c : Char} (inside : ¬ Stops (c :: rest)) (fresh : Bool) (read : List Char) :
    scan (.within fresh read) (c :: rest) = scan (.within fresh (c :: read)) rest := by
  obtain ⟨noComma, noGroup⟩ := not_or.mp inside
  rw [scan, if_neg]
  · rintro rfl
    exact noComma (List.prefix_append [','] rest)
  · rintro later rfl rfl
    exact noGroup (List.prefix_append [' ', ':', ' '] later)

/-- The scan reads them all. -/
theorem Stretch.scan_eq (stretch : Stretch content rest) (fresh : Bool) (read : List Char) :
    scan (.within fresh read) (content ++ rest) =
      scan (.within fresh (content.reverse ++ read)) rest := by
  induction stretch generalizing read with
  | ends rest stops => rfl
  | more c content rest inside later ih =>
    rw [List.cons_append, scan_within inside, ih, List.reverse_cons, List.append_assoc]
    rfl

/-- Nothing that ends an item begins at any of their bytes. -/
theorem Stretch.inside (stretch : Stretch content rest) {offset : Nat}
    (within : offset < (utf8 content).length) :
    ¬ utf8 [','] <+: (utf8 (content ++ rest)).drop offset ∧
      ¬ utf8 [' ', ':', ' '] <+: (utf8 (content ++ rest)).drop offset := by
  induction stretch generalizing offset with
  | ends rest stops => cases within
  | more c content rest inside later ih =>
    rw [utf8_cons, List.length_append] at within
    rcases Nat.eq_zero_or_pos offset with rfl | positive
    · rw [List.drop_zero, utf8_prefix_iff, utf8_prefix_iff]
      exact not_or.mp inside
    · by_cases first : offset < (String.utf8EncodeChar c).length
      · exact ⟨not_prefix_inside (List.cons_ne_nil _ _) positive first,
          not_prefix_inside (List.cons_ne_nil _ _) positive first⟩
      · obtain ⟨further, rfl⟩ := Nat.exists_eq_add_of_le (Nat.le_of_not_lt first)
        rw [List.cons_append, drop_utf8_cons]
        exact ih (by omega)

theorem stopRound_eq (inside : position ≤ bytes.length) :
    stopRound bytes position () =
      .ok (if bytes.drop position = [] ∨ [','.toUInt8] <+: bytes.drop position ∨
          groupSeparator <+: bytes.drop position then .done position
        else .again (position + 1) ()) := by
  unfold stopRound
  split
  · rename_i further
    obtain ⟨found, here, equals⟩ := exists_byteAt further
    have more : bytes.drop position ≠ [] := by simpa using further
    simp only [here, isGroupAt_eq inside, bind, Except.bind, equals, more, false_or]
    by_cases comma : [','.toUInt8] <+: bytes.drop position
    · simp only [comma, true_or, if_true]
      rfl
    · by_cases group : groupSeparator <+: bytes.drop position
      · simp only [comma, group, or_true, if_true, if_false, decide_true]
        rfl
      · simp only [comma, group, or_false, if_false, decide_false]
        rfl
  · rename_i none
    rw [if_pos (.inl (List.drop_eq_nil_of_le (Nat.le_of_not_lt none)))]
    rfl

/-- A round stops behind them, and nowhere inside a character. -/
theorem stopRound_ok (stretch : Stretch content rest)
    (between : Between bytes position (content ++ rest)) {next : Nat} (forward : position ≤ next)
    (notBehind : next ≤ position + (utf8 content).length) :
    ∃ answer, stopRound bytes next () = .ok answer ∧ answer.Keeps
      (fun next _ => position ≤ next ∧ next ≤ position + (utf8 content).length)
      (· = position + (utf8 content).length) next := by
  have after : Between bytes (position + (utf8 content).length) rest := between.past
  refine ⟨_, stopRound_eq (Nat.le_trans notBehind after.le), ?_⟩
  rcases Nat.eq_or_lt_of_le notBehind with rfl | within
  · rw [if_pos]
    · exact rfl
    · rw [after.drop, ← utf8_singleton rfl, groupSeparator_eq, utf8_prefix_iff, utf8_prefix_iff]
      exact stretch.stops.imp_left (congrArg utf8)
  · obtain ⟨offset, rfl⟩ := Nat.exists_eq_add_of_le forward
    obtain ⟨noComma, noGroup⟩ := stretch.inside (Nat.lt_of_add_lt_add_left within)
    have more : bytes.drop (position + offset) ≠ [] := by
      simpa using Nat.lt_of_lt_of_le within after.le
    rw [← between.drop, List.drop_drop, utf8_singleton rfl] at noComma
    rw [← between.drop, List.drop_drop, ← groupSeparator_eq] at noGroup
    rw [if_neg (not_or.mpr ⟨more, not_or.mpr ⟨noComma, noGroup⟩⟩)]
    exact ⟨Nat.lt_succ_self _, Nat.le_succ_of_le forward, Nat.succ_le_of_lt within⟩

theorem stopFrom_eq (stretch : Stretch content rest)
    (between : Between bytes position (content ++ rest)) :
    stopFrom bytes position = .ok (position + (utf8 content).length) := by
  have after : Between bytes (position + (utf8 content).length) rest := between.past
  have bounded (next : Nat) (_ : Unit)
      (holds : position ≤ next ∧ next ≤ position + (utf8 content).length) :
      next ≤ bytes.length := Nat.le_trans holds.2 after.le
  obtain ⟨result, found, rfl⟩ :=
    rounds_ok bounded (fun _ _ holds => stopRound_ok stretch between holds.1 holds.2)
      ⟨Nat.le_refl position, Nat.le_add_right _ _⟩
  exact found

/-- Characters of an item without one blank behind them. -/
def trimmed (content : List Char) : List Char :=
  if content.getLast? = some ' ' then content.dropLast else content

theorem trimmed_prefix (content : List Char) : trimmed content <+: content := by
  unfold trimmed
  split
  · exact List.dropLast_prefix content
  · exact List.prefix_refl content

theorem trimmed_ne_nil {first : Char} (noBlank : first ≠ ' ') (others : List Char) :
    trimmed (first :: others) ≠ [] := by
  cases others with
  | nil => simp [trimmed, noBlank]
  | cons second others =>
    unfold trimmed
    split
    · exact List.cons_ne_nil first _
    · exact List.cons_ne_nil first _

/-- They make the item. -/
theorem finish_reverse (content : List Char) :
    finish content.reverse = if trimmed content = ['-'] then [] else trimmed content := by
  have dash (kept : List Char) : kept.reverse = ['-'] ↔ kept = ['-'] := List.reverse_eq_iff
  rcases List.eq_nil_or_concat content with rfl | ⟨front, last, rfl⟩
  · rfl
  · have held : (front ++ [last]).reverse = last :: front.reverse := List.reverse_concat
    rw [List.concat_eq_append, trimmed, List.getLast?_concat, List.dropLast_concat]
    by_cases blank : last = ' '
    · rw [held, blank, if_pos rfl]
      show (if front.reverse = ['-'] then [] else front.reverse.reverse) = _
      simp only [dash, List.reverse_reverse]
    · rw [if_neg (fun same => blank (Option.some.inj same)), held, finish_of_ne blank, ← held]
      simp only [dash, List.reverse_reverse]

/-- The byte in front of the end of an item is a blank just when its last character is. -/
theorem trimEnd_eq (between : Between bytes position (content ++ rest)) :
    trimEnd bytes position (position + (utf8 content).length) =
      .ok (position + (utf8 (trimmed content)).length) := by
  rcases List.eq_nil_or_concat content with rfl | ⟨front, last, rfl⟩
  · exact if_neg (Nat.lt_irrefl _)
  · rw [List.concat_eq_append, List.append_assoc] at between
    rw [List.concat_eq_append, trimmed, List.getLast?_concat, List.dropLast_concat]
    have before : Between bytes (position + (utf8 front).length) (last :: rest) := between.past
    obtain ⟨more, size⟩ : ∃ more, (String.utf8EncodeChar last).length = more + 1 :=
      Nat.exists_eq_add_one.mpr (List.length_pos_iff.mpr String.utf8EncodeChar_ne_nil)
    have stop : (utf8 (front ++ [last])).length = (utf8 front).length + (more + 1) := by
      rw [utf8_append, List.length_append, utf8_cons, utf8_nil, List.append_nil, size]
    have inside : position + (utf8 front).length + more < bytes.length := by
      have length := before.length
      rw [utf8_cons, List.length_append, size] at length
      omega
    obtain ⟨found, here, equals⟩ := exists_byteAt inside
    have isBlank : found = ' '.toUInt8 ↔ more = 0 ∧ ' ' = last := by
      rw [equals, ← List.drop_drop, before.drop, ← utf8_singleton rfl]
      exact sign_prefix_iff (by omega)
    have lastByte : position + ((utf8 front).length + (more + 1)) - 1 =
        position + (utf8 front).length + more := by omega
    rw [trimEnd, if_pos (by omega), stop, lastByte, here]
    show Except.ok (if found = ' '.toUInt8 then _ else _) = _
    by_cases blank : last = ' '
    · obtain rfl : more = 0 := by
        rw [blank] at size
        exact (Nat.succ.inj size).symm
      rw [if_pos (isBlank.mpr ⟨rfl, blank.symm⟩), if_pos (congrArg some blank), Nat.add_zero]
    · rw [if_neg (fun same => blank (isBlank.mp same).2.symm),
        if_neg (fun same => blank (Option.some.inj same)), stop]

/-! ## Items -/

/-- What is behind the comma, if one ends an item, and else what ends it. -/
def behindComma (rest : List Char) : List Char := if [','] <+: rest then rest.drop 1 else rest

/-- The step over that comma. -/
def overComma (position : Nat) (rest : List Char) : Nat :=
  if [','] <+: rest then position + 1 else position

theorem between_behindComma (between : Between bytes position rest) :
    Between bytes (overComma position rest) (behindComma rest) := by
  unfold overComma behindComma
  split
  · rename_i comma
    obtain ⟨later, rfl⟩ := comma
    exact between.next rfl
  · exact between

/-- What the scan makes of characters that have ended: they are a label or an item. -/
theorem scan_ended (ended : rest = [] ∨ Stops rest) (fresh : Bool) (read : List Char) :
    scan (.within fresh read) rest =
      if rest ≠ [] ∧ ¬ [','] <+: rest ∧ fresh = true then scan (.between false) (behindComma rest)
      else finish read :: scan (.between false) (behindComma rest) := by
  rcases ended with rfl | ⟨later, rfl⟩ | ⟨later, rfl⟩
  · rfl
  · rfl
  · have noComma : ¬ [','] <+: [' ', ':', ' '] ++ later := by simp
    cases fresh with
    | true => simp [behindComma, scan]
    | false => simp [behindComma, scan]

/-- One round, when the first characters behind the separators are these. -/
theorem itemRound_eq {start : Nat} {opened : Bool}
    (skipped : skip bytes position fresh = .ok (start, opened))
    (between : Between bytes start (content ++ rest)) (more : content ++ rest ≠ [])
    (stretch : Stretch content rest) :
    ∃ next following last,
      Skips bytes (overComma (start + (utf8 content).length) rest) false (behindComma rest) next
        following last ∧ ¬ [' '] <+: last ∧
      itemRound bytes position fresh =
        .ok (if rest ≠ [] ∧ ¬ [','] <+: rest ∧ opened = true then .again next following
          else if trimmed content = [] ∧ last = [] then .done none
          else .done (some (String.ofList (finish content.reverse), next, following))) := by
  have stops := stopFrom_eq stretch between
  have trims := trimEnd_eq between
  have after : Between bytes (start + (utf8 content).length) rest := between.past
  have comma := after.isByteAt (rfl : ','.utf8Size = 1)
  obtain ⟨next, following, last, further, skips, stands⟩ :=
    skip_ok (between_behindComma after) false
  have cut : slice bytes start (start + (utf8 (trimmed content)).length) =
      .ok (String.ofList (trimmed content)) := by
    obtain ⟨blank, split⟩ := trimmed_prefix content
    rw [← split, List.append_assoc] at between
    exact between.slice
  refine ⟨next, following, last, skips, stands, ?_⟩
  have notAtEnd : ¬ bytes.length ≤ start := mt between.atEnd_iff.mp more
  have ended : start + (utf8 content).length < bytes.length ↔ rest ≠ [] :=
    Nat.not_le.symm.trans (not_congr after.atEnd_iff)
  have isDash : String.ofList (trimmed content) = "-" ↔ trimmed content = ['-'] :=
    String.ofList_inj
  have item : (if String.ofList (trimmed content) = "-" then "" else String.ofList (trimmed content)) =
      String.ofList (finish content.reverse) := by
    simp only [finish_reverse, isDash]
    split
    · rfl
    · rfl
  simp only [overComma] at further
  simp only [itemRound, skipped, notAtEnd, stops, comma, trims, bind, Except.bind, decide_eq_true_eq,
    further, if_false, cut, ended, decide_eq_false_iff_not, String.ofList_eq_empty_iff,
    skips.between.atEnd_iff, item]
  split
  · rfl
  · split
    · rfl
    · rfl

variable {left : List (List Char)}

/-- From a position on, a text has these items. -/
def Reads (bytes : List UInt8) (left : List (List Char)) (position : Nat) (fresh : Bool) : Prop :=
  ∃ behind, Between bytes position behind ∧ scan (.between fresh) behind = left

/-- The first of the items, if there is one, and a position further on for the others. -/
def Finds (bytes : List UInt8) (left : List (List Char)) (position : Nat) :
    Option (String × Nat × Bool) → Prop
  | none => left = []
  | some (item, next, fresh) =>
    position < next ∧ ∃ later, left = item.toList :: later ∧ Reads bytes later next fresh

/-- An item has characters unless a comma stands in its place. -/
theorem Skips.content_cases {start : Nat} {opened : Bool}
    (skips : Skips bytes position fresh behind start opened (content ++ rest))
    (noBlank : ¬ [' '] <+: content ++ rest) (more : content ++ rest ≠ [])
    (stretch : Stretch content rest) :
    (content = [] ∧ ∃ later, rest = ',' :: later) ∨
      content ≠ [] ∧ trimmed content ≠ [] ∧
        scan (.between opened) (content ++ rest) = scan (.within opened content.reverse) rest := by
  cases stretch with
  | ends rest stops =>
    refine .inl ⟨rfl, ?_⟩
    rcases stops with none | ⟨later, rfl⟩ | ⟨later, rfl⟩
    · exact absurd none more
    · exact ⟨later, rfl⟩
    · exact absurd (List.prefix_append [' '] (':' :: ' ' :: later)) noBlank
  | more first others rest inside later =>
    have noBlank : first ≠ ' ' := by
      rintro rfl
      exact noBlank (List.prefix_append [' '] _)
    have noComma : first ≠ ',' := by
      rintro rfl
      exact inside (.inl (List.prefix_append [','] _))
    refine .inr ⟨List.cons_ne_nil first others, trimmed_ne_nil noBlank others, ?_⟩
    rw [List.cons_append, scan, if_neg noBlank, if_neg noComma, later.scan_eq, List.reverse_cons]
    exact fun _ blank => absurd blank noBlank

theorem itemRound_ok (reads : Reads bytes left position fresh) :
    ∃ answer, itemRound bytes position fresh = .ok answer ∧
      answer.Keeps (Reads bytes left) (Finds bytes left position) position := by
  obtain ⟨behind, between, rfl⟩ := reads
  obtain ⟨start, opened, remaining, skipped, skips, noBlank⟩ := skip_ok between fresh
  by_cases none : remaining = []
  · -- nothing but separators was left
    subst none
    have atEnd := skips.between.atEnd_iff.mpr rfl
    refine ⟨.done .none, ?_, skips.items.symm⟩
    simp only [itemRound, skipped, bind, Except.bind, atEnd, if_true]
    rfl
  · obtain ⟨content, rest, rfl, stretch⟩ := exists_stretch remaining
    obtain ⟨next, following, last, further, stands, round⟩ :=
      itemRound_eq skipped skips.between none stretch
    refine ⟨_, round, ?_⟩
    have reads : Reads bytes (scan (.between false) (behindComma rest)) next following :=
      ⟨last, further.between, further.items⟩
    have forward := further.forward
    have notBehind := skips.forward
    rw [← skips.items]
    rcases skips.content_cases noBlank none stretch with ⟨rfl, later, rfl⟩ | ⟨some, kept, read⟩
    · -- a comma stands in the place of an item, which counts unless the rest is spent
      have comma : [','] <+: ',' :: later := List.prefix_append [','] later
      rw [overComma, if_pos comma] at forward
      rw [if_neg (fun label => label.2.1 comma)]
      have first : scan (.between opened) (',' :: later) =
          if isSeparators later then [] else [] :: scan (.between false) later := rfl
      have spent : last = [] ↔ isSeparators later = true := further.atEnd_iff stands
      rw [List.nil_append, first]
      by_cases atEnd : last = []
      · rw [if_pos (spent.mp atEnd), if_pos ⟨rfl, atEnd⟩]
        rfl
      · rw [if_neg (mt spent.mpr atEnd), if_neg (fun empty => atEnd empty.2)]
        exact ⟨by omega, _, rfl, reads⟩
    · -- these characters are a label or an item, and none of their bytes is passed twice
      have bytesOf := utf8_length_pos some
      have advances : position < next := by
        unfold overComma at forward
        split at forward
        · omega
        · omega
      rw [read, scan_ended stretch.stops]
      split
      · exact ⟨advances, reads⟩
      · rw [if_neg (fun empty => kept empty.1)]
        exact ⟨advances, _, by rw [String.toList_ofList], reads⟩

theorem Reads.le (reads : Reads bytes left position fresh) : position ≤ bytes.length := by
  obtain ⟨behind, between, -⟩ := reads
  exact between.le

theorem Finds.of_le {next : Nat} {found : Option (String × Nat × Bool)}
    (finds : Finds bytes left next found) (forward : position ≤ next) :
    Finds bytes left position found := by
  cases found with
  | none => exact finds
  | some stop => exact ⟨Nat.lt_of_le_of_lt forward finds.1, finds.2⟩

theorem nextItem_ok (reads : Reads bytes left position fresh) :
    ∃ found, nextItem bytes position fresh = .ok found ∧ Finds bytes left position found := by
  have bounded (next : Nat) (following : Bool)
      (holds : position ≤ next ∧ Reads bytes left next following) : next ≤ bytes.length :=
    holds.2.le
  refine rounds_ok bounded (fun next following holds => ?_) ⟨Nat.le_refl _, reads⟩
  obtain ⟨forward, reads⟩ := holds
  obtain ⟨answer, round, keeps⟩ := itemRound_ok reads
  refine ⟨answer, round, keeps.imp (fun further state advances reads => ⟨?_, reads⟩)
    fun found finds => finds.of_le forward⟩
  exact Nat.le_of_lt (Nat.lt_of_le_of_lt forward advances)

/-- What has been found, and what is left from a position on, are the items of a text. -/
def Collects (text : String) (position : Nat) (state : Bool × List String) : Prop :=
  ∃ left, Reads text.toUTF8.data.toList left position state.1 ∧
    state.2 ++ left.map String.ofList = items text

theorem collectRound_ok {text : String} {state : Bool × List String}
    (collects : Collects text position state) :
    ∃ answer, collectRound text.toUTF8.data.toList position state = .ok answer ∧
      answer.Keeps (Collects text) (· = items text) position := by
  obtain ⟨fresh, found⟩ := state
  obtain ⟨left, reads, together⟩ := collects
  obtain ⟨next, search, finds⟩ := nextItem_ok reads
  rw [collectRound, search]
  cases next with
  | none =>
    obtain rfl : left = [] := finds
    exact ⟨.done found, rfl, (List.append_nil found).symm.trans together⟩
  | some stop =>
    obtain ⟨item, next, following⟩ := stop
    obtain ⟨advances, later, split, reads⟩ := finds
    refine ⟨.again next (following, found ++ [item]), rfl, advances, later, reads, ?_⟩
    rw [split, List.map_cons, String.ofList_toList] at together
    rw [List.append_assoc]
    exact together

/-- **Items are cut out between characters.** The walk over the bytes of a text has no faults, and
finds the items of the text. -/
theorem itemsBySlices_eq (text : String) : itemsBySlices text = .ok (items text) := by
  have bounded (position : Nat) (state : Bool × List String)
      (collects : Collects text position state) : position ≤ text.toUTF8.data.toList.length := by
    obtain ⟨left, reads, -⟩ := collects
    exact reads.le
  have start : Collects text 0 (true, []) := ⟨_, ⟨text.toList, between_start text, rfl⟩, rfl⟩
  obtain ⟨found, search, rfl⟩ := rounds_ok bounded (fun _ _ => collectRound_ok) start
  exact search

end MetricPipeline.Compound
