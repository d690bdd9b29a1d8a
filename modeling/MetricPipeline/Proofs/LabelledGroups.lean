import Mathlib.Data.List.Basic
import Mathlib.Data.List.Flatten
import MetricPipeline.Proofs.CompoundPieces

/-!
Which items come back from labelled groups that are written one after another.

The same separator ends a label and ends a group, and what stands behind one may be a label again. So
the label of each group falls away, and an item that stands alone behind its label falls away with it
if another group follows. Groups of several items keep all of them, and so does the last group.
-/

namespace MetricPipeline.Compound

/-- A text that can stand between separators. -/
structure Word where
  /-- The text. -/
  text : String
  /-- It is not empty. -/
  ne_empty : text.toList ≠ []
  /-- It has no blank. -/
  noBlank : ' ' ∉ text.toList
  /-- It has no comma. -/
  noComma : ',' ∉ text.toList
  /-- It does not stand for the empty item. -/
  noDash : text.toList ≠ ['-']

/-- A label and the items it stands in front of. -/
structure Group where
  /-- The label. -/
  label : Word
  /-- The items, in order. -/
  items : List Word
  /-- There is an item. -/
  nonempty : items ≠ []

/-- The texts of the items of a group. -/
def Group.texts (group : Group) : List String := group.items.map Word.text

/-- The written form of a group: its label, a separator of groups, and its items with commas between
them. -/
def Group.written (group : Group) : String :=
  group.label.text ++ " : " ++ ",".intercalate group.texts

/-- The written form of groups, with a separator between each two of them. -/
def written (groups : List Group) : String := " : ".intercalate (groups.map Group.written)

/-! ## Pieces of words -/

/-- Characters that are no blank and no comma are not cut apart. -/
theorem cut_append {front : List Char} (noBlank : ' ' ∉ front) (noComma : ',' ∉ front)
    (rest : List Char) : cut (front ++ rest) = inFront front (cut rest) := by
  induction front with
  | nil => rw [List.nil_append, inFront_nil]
  | cons c front ih =>
    rw [List.mem_cons, not_or] at noBlank noComma
    have inside : ∀ later, c = ' ' → front ++ rest = ':' :: ' ' :: later → False :=
      fun _ blank _ => noBlank.1 blank.symm
    rw [List.cons_append, cut_other inside (Ne.symm noComma.1), ih noBlank.2 noComma.2,
      inFront_inFront]
    rfl

/-- A word in front of a separator, or at the end of a text, is a piece. -/
theorem Word.cut_eq (word : Word) {tail : List Char} {ending : Ending} {later : List Piece}
    (ends : cut tail = { content := [], ending } :: later) :
    cut (word.text.toList ++ tail) = { content := word.text.toList, ending } :: later := by
  rw [cut_append word.noBlank word.noComma, ends, inFront, List.append_nil]

/-- A word has a first character, and it is no blank. -/
theorem Word.exists_eq_cons (word : Word) :
    ∃ first rest, first ≠ ' ' ∧ word.text.toList = first :: rest := by
  obtain ⟨first, rest, chars⟩ := List.exists_cons_of_ne_nil word.ne_empty
  refine ⟨first, rest, ?_, chars⟩
  rintro rfl
  exact word.noBlank (chars ▸ List.mem_cons_self)

/-- The item of a word is its text. -/
theorem Word.item_eq (word : Word) (ending : Ending) :
    Piece.item { content := word.text.toList, ending } = word.text.toList := by
  obtain ⟨first, rest, noBlank, chars⟩ := word.exists_eq_cons
  have whole : word.text.toList.dropWhile (· = ' ') = word.text.toList := by
    rw [chars, List.dropWhile_cons_of_neg (by simpa using noBlank)]
  have noLast : word.text.toList.getLast? ≠ some ' ' :=
    fun last => word.noBlank (List.mem_of_getLast? last)
  rw [Piece.item, whole, if_neg noLast, if_neg word.noDash]

/-- A word is a label or an item. -/
theorem Word.readPieces_eq (word : Word) (opens : Bool) (ending : Ending) (later : List Piece) :
    readPieces opens ({ content := word.text.toList, ending } :: later) =
      if ending = .group ∧ opens then readPieces (ending = .group) later
      else word.text.toList :: readPieces (ending = .group) later := by
  obtain ⟨first, rest, noBlank, chars⟩ := word.exists_eq_cons
  have item := word.item_eq ending
  rw [chars] at item ⊢
  rw [readPieces_of_ne noBlank, item]

/-! ## Groups -/

/-- Words with commas between them are items. Only a single word is none, if it stands where a label
may stand and a separator of groups ends it. -/
theorem readPieces_words {words : List Word} (nonempty : words ≠ []) (opens : Bool)
    {tail : List Char} {ending : Ending} {later : List Piece}
    (ends : cut tail = { content := [], ending } :: later) :
    readPieces opens (cut ((",".intercalate (words.map Word.text)).toList ++ tail)) =
      (if ending = .group ∧ opens ∧ words.length = 1 then []
        else (words.map Word.text).map String.toList) ++ readPieces (ending = .group) later := by
  induction words generalizing opens with
  | nil => exact absurd rfl nonempty
  | cons word others ih =>
    cases others with
    | nil =>
      rw [List.map_singleton, String.intercalate_singleton, word.cut_eq ends, word.readPieces_eq]
      by_cases label : ending = .group ∧ opens = true
      · rw [if_pos label, if_pos ⟨label.1, label.2, rfl⟩, List.nil_append]
      · rw [if_neg label, if_neg (fun single => label ⟨single.1, single.2.1⟩)]
        rfl
    | cons next others =>
      -- behind the first comma no label may stand any more
      have rest := ih (List.cons_ne_nil next others) false
      rw [if_neg (fun single => absurd single.2.1 Bool.false_ne_true)] at rest
      have text : (",".intercalate ((word :: next :: others).map Word.text)).toList ++ tail =
          word.text.toList ++
            (',' :: ((",".intercalate ((next :: others).map Word.text)).toList ++ tail)) := by
        simp
      rw [text, word.cut_eq (cut_comma _), word.readPieces_eq, if_neg (by simp), if_neg (by simp)]
      exact congrArg (word.text.toList :: ·) rest

/-- Whether a group has several items. -/
def Group.isPlural (group : Group) : Bool := 1 < group.items.length

/-- A group is read up to what ends it. Its label falls away, and so does a single item in front of
a separator of groups. -/
theorem Group.readPieces_written (group : Group) {tail : List Char} {ending : Ending}
    {later : List Piece} (ends : cut tail = { content := [], ending } :: later) :
    readPieces true (cut (group.written.toList ++ tail)) =
      (if ending = .group ∧ ¬ group.isPlural then [] else group.texts.map String.toList) ++
        readPieces (ending = .group) later := by
  have text : group.written.toList ++ tail = group.label.text.toList ++
      (' ' :: ':' :: ' ' :: ((",".intercalate group.texts).toList ++ tail)) := by
    simp [Group.written]
  have single : group.items.length = 1 ↔ ¬ group.isPlural := by
    have positive := List.length_pos_iff.mpr group.nonempty
    rw [Group.isPlural, decide_eq_true_iff]
    omega
  have body := readPieces_words group.nonempty true ends
  simp only [single, true_and] at body
  rw [text, group.label.cut_eq (cut_group _), group.label.readPieces_eq, if_pos ⟨rfl, rfl⟩]
  exact body

/-- The groups whose items come back: those of several items, and the last one. -/
def kept (groups : List Group) : List Group :=
  groups.dropLast.filter Group.isPlural ++ groups.getLast?.toList

theorem readPieces_written (groups : List Group) :
    readPieces true (cut (written groups).toList) =
      ((kept groups).flatMap Group.texts).map String.toList := by
  induction groups with
  | nil => rfl
  | cons group others ih =>
    cases others with
    | nil =>
      have ends : cut [] = [{ content := [], ending := .text }] := by rw [cut]
      have read := group.readPieces_written ends
      rw [List.append_nil] at read
      rw [written, List.map_singleton, String.intercalate_singleton, read]
      simp [kept, readPieces]
    | cons next others =>
      have text : (written (group :: next :: others)).toList =
          group.written.toList ++ (' ' :: ':' :: ' ' :: (written (next :: others)).toList) := by
        simp [written]
      have read := group.readPieces_written (cut_group (written (next :: others)).toList)
      simp only [decide_true, true_and] at read
      rw [text, read, ih]
      by_cases plural : group.isPlural = true <;> simp [kept, plural]

/-- With what is filtered out nothing is lost only if nothing is filtered out. -/
theorem flatMap_filter_eq_iff {α β : Type} {keep : α → Bool} {f : α → List β}
    {items : List α} (nonempty : ∀ item ∈ items, f item ≠ []) :
    (items.filter keep).flatMap f = items.flatMap f ↔ ∀ item ∈ items, keep item := by
  have shorter (part : List α) :
      ((part.filter keep).flatMap f).length ≤ (part.flatMap f).length :=
    (List.filter_sublist.flatMap f).length_le
  constructor
  · intro same item member
    by_contra dropped
    obtain ⟨front, back, rfl⟩ := List.append_of_mem member
    have lengths := congrArg List.length same
    rw [List.filter_append, List.filter_cons_of_neg dropped, List.flatMap_append,
      List.flatMap_append, List.flatMap_cons, List.length_append, List.length_append,
      List.length_append] at lengths
    have lost := List.length_pos_iff.mpr (nonempty item member)
    have before := shorter front
    have behind := shorter back
    omega
  · intro all
    rw [List.filter_eq_self.mpr all]

/-- **Labelled groups come back without labels, and without items that stand alone.** The items of
the written form of groups are those of the last group and of all groups of several items, in order.
So every item comes back if and only if no group but the last has a single one. -/
theorem items_written (groups : List Group) :
    items (written groups) = (kept groups).flatMap Group.texts ∧
      (items (written groups) = groups.flatMap Group.texts ↔
        ∀ group ∈ groups.dropLast, group.isPlural) := by
  have read : items (written groups) = (kept groups).flatMap Group.texts := by
    rw [items, scan_eq_readPieces_cut, readPieces_written, List.map_map]
    simp
  have whole : groups.flatMap Group.texts =
      groups.dropLast.flatMap Group.texts ++ groups.getLast?.toList.flatMap Group.texts := by
    rw [← List.flatMap_append]
    cases last : groups.getLast? with
    | none =>
      rw [List.getLast?_eq_none_iff.mp last]
      rfl
    | some group => rw [Option.toList_some, List.dropLast_append_getLast? group last]
  have nonempty : ∀ group ∈ groups.dropLast, group.texts ≠ [] :=
    fun group _ none => group.nonempty (List.map_eq_nil_iff.mp none)
  refine ⟨read, ?_⟩
  rw [read, kept, List.flatMap_append, whole, List.append_left_inj]
  exact flatMap_filter_eq_iff nonempty

/-- A word of one letter. -/
def Word.ofLetter (letter : Char) (plain : letter ≠ ' ' ∧ letter ≠ ',' ∧ letter ≠ '-') :
    Word where
  text := String.singleton letter
  ne_empty := by simp
  noBlank := by simpa using plain.1.symm
  noComma := by simpa using plain.2.1.symm
  noDash := by simpa using plain.2.2

/-- Two groups of one item each. -/
def singleItems : List Group :=
  [{ label := .ofLetter 'x' (by decide)
     items := [.ofLetter 'a' (by decide)]
     nonempty := by simp },
    { label := .ofLetter 'y' (by decide)
      items := [.ofLetter 'b' (by decide)]
      nonempty := by simp }]

/-- The first item of two is lost when each stands alone in its group. -/
theorem singleItems_lose_first :
    written singleItems = "x : a : y : b" ∧ items "x : a : y : b" = ["b"] ∧
      items (written singleItems) ≠ singleItems.flatMap Group.texts := by
  have text : written singleItems = "x : a : y : b" := by decide
  obtain ⟨read, whole⟩ := items_written singleItems
  refine ⟨text, ?_, ?_⟩
  · rw [← text, read]
    decide
  · rw [Ne, whole]
    decide

end MetricPipeline.Compound
