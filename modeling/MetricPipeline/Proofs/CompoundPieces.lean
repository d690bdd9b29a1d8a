import MetricPipeline.Compound

/-!
Compound texts read in two stages.

A text is cut at its separators first, from left to right, and every piece remembers what ended it.
Then the pieces are looked at one after another. The scan does both in one go, character by character,
with a flag that tells where a label may stand and a look ahead for what is spent. Both stages together
give the same items, and they say what a text means without the order in which it is scanned.
-/

namespace MetricPipeline.Compound

/-! ## Cutting a text -/

/-- What ends a piece. -/
inductive Ending where
  /-- A comma. -/
  | comma
  /-- The separator of groups. -/
  | group
  /-- The end of the text. -/
  | text
  deriving DecidableEq, Repr

/-- A stretch of a text up to its next separator. -/
structure Piece where
  /-- The characters of the stretch. -/
  content : List Char
  /-- What stands behind them. -/
  ending : Ending
  deriving DecidableEq, Repr

/-- Pieces with more characters in front of the first one. -/
def inFront (front : List Char) : List Piece → List Piece
  | [] => []
  | piece :: later => { piece with content := front ++ piece.content } :: later

/-- The pieces of a text, which is cut from left to right at each comma and at each separator of
groups. -/
def cut : List Char → List Piece
  | [] => [{ content := [], ending := .text }]
  | ' ' :: ':' :: ' ' :: rest => { content := [], ending := .group } :: cut rest
  | c :: rest =>
    if c = ',' then { content := [], ending := .comma } :: cut rest else inFront [c] (cut rest)

theorem cut_group (rest : List Char) :
    cut (' ' :: ':' :: ' ' :: rest) = { content := [], ending := .group } :: cut rest := by
  rw [cut]

theorem cut_comma (rest : List Char) :
    cut (',' :: rest) = { content := [], ending := .comma } :: cut rest := by
  simp [cut]

/-- A character that is no comma and starts no separator belongs to the first piece. -/
theorem cut_other {c : Char} {rest : List Char}
    (inside : ∀ later, c = ' ' → rest = ':' :: ' ' :: later → False) (noComma : c ≠ ',') :
    cut (c :: rest) = inFront [c] (cut rest) := by
  rw [cut, if_neg noComma]
  exact inside

theorem inFront_nil (pieces : List Piece) : inFront [] pieces = pieces := by
  cases pieces <;> rfl

theorem inFront_inFront (first second : List Char) (pieces : List Piece) :
    inFront first (inFront second pieces) = inFront (first ++ second) pieces := by
  cases pieces with
  | nil => rfl
  | cons piece later => simp only [inFront, List.append_assoc]

/-- Every text has a first piece. -/
theorem exists_cut_eq (text : List Char) : ∃ piece later, cut text = piece :: later := by
  fun_induction cut text with
  | case1 => exact ⟨_, _, rfl⟩
  | case2 rest ih => exact ⟨_, _, rfl⟩
  | case3 rest _ ih => exact ⟨_, _, rfl⟩
  | case4 c rest _ _ ih =>
    obtain ⟨piece, later, pieces⟩ := ih
    exact ⟨_, _, congrArg (inFront [c]) pieces⟩

/-! ## The items of pieces -/

/-- Whether a piece has no characters but blanks. -/
def Piece.isBlank (piece : Piece) : Bool := piece.content.all (· = ' ')

/-- The item in a piece: its characters without the blanks in front of them and without one blank
behind them, or none of them when a dash is left. -/
def Piece.item (piece : Piece) : List Char :=
  let tail := piece.content.dropWhile (· = ' ')
  let kept := if tail.getLast? = some ' ' then tail.dropLast else tail
  if kept = ['-'] then [] else kept

/-- Whether nothing but blanks and separators of groups is left. -/
def isSpent (pieces : List Piece) : Bool :=
  pieces.all fun piece => piece.isBlank && piece.ending ≠ .comma

/-- The items of pieces, looked at in order. The flag tells whether the first piece opens a group,
which it does at the start of the text and behind a separator of groups. A piece that opens a group
and ends with a separator of groups is a label. A blank piece is an item only in front of a comma,
and only if more is to come. -/
def readPieces : Bool → List Piece → List (List Char)
  | _, [] => []
  | opens, piece :: later =>
    let following := readPieces (piece.ending = .group) later
    if piece.isBlank then
      if piece.ending = .comma ∧ ¬ isSpent later then [] :: following else following
    else if piece.ending = .group ∧ opens then following
    else piece.item :: following

theorem isBlank_of_ne {first : Char} (noBlank : first ≠ ' ') (rest : List Char)
    (ending : Ending) : Piece.isBlank { content := first :: rest, ending } = false := by
  simp [Piece.isBlank, noBlank]

theorem item_blank (content : List Char) (ending : Ending) :
    Piece.item { content := ' ' :: content, ending } = Piece.item { content, ending } := by
  simp [Piece.item]

theorem isSpent_blank (pieces : List Piece) : isSpent (inFront [' '] pieces) = isSpent pieces := by
  cases pieces with
  | nil => rfl
  | cons piece later => simp [inFront, isSpent, Piece.isBlank]

/-- Blanks in front of a piece do not matter. -/
theorem readPieces_blank (opens : Bool) (pieces : List Piece) :
    readPieces opens (inFront [' '] pieces) = readPieces opens pieces := by
  cases pieces with
  | nil => rfl
  | cons piece later =>
    simp only [inFront, readPieces, List.singleton_append, item_blank]
    simp [Piece.isBlank]

/-- What is spent has no items. -/
theorem readPieces_of_isSpent {opens : Bool} {pieces : List Piece} (spent : isSpent pieces) :
    readPieces opens pieces = [] := by
  induction pieces generalizing opens with
  | nil => rfl
  | cons piece later ih =>
    simp only [isSpent, List.all_cons, Bool.and_eq_true, decide_eq_true_eq] at spent
    obtain ⟨⟨blank, noComma⟩, rest⟩ := spent
    rw [readPieces, if_pos blank, if_neg (fun comma => noComma comma.1)]
    exact ih rest

/-- With nothing in front of a comma there is an empty item, unless the rest is spent. -/
theorem readPieces_comma (opens : Bool) (later : List Piece) :
    readPieces opens ({ content := [], ending := .comma } :: later) =
      if isSpent later then [] else [] :: readPieces false later := by
  by_cases spent : isSpent later = true
  · simp [readPieces, Piece.isBlank, spent, readPieces_of_isSpent]
  · simp [readPieces, Piece.isBlank, spent]

/-- A piece whose first character is no blank is a label or an item. -/
theorem readPieces_of_ne {first : Char} (noBlank : first ≠ ' ') (opens : Bool) (rest : List Char)
    (ending : Ending) (later : List Piece) :
    readPieces opens ({ content := first :: rest, ending } :: later) =
      if ending = .group ∧ opens then readPieces (ending = .group) later
      else Piece.item { content := first :: rest, ending } ::
        readPieces (ending = .group) later := by
  rw [readPieces, isBlank_of_ne noBlank, if_neg Bool.false_ne_true]

/-! ## The scan -/

/-- The look ahead of the scan tells whether the pieces to come are spent. -/
theorem isSeparators_eq (text : List Char) : isSeparators text = isSpent (cut text) := by
  fun_induction isSeparators text with
  | case1 => rfl
  | case2 rest ih =>
    rw [ih]
    rfl
  | case3 rest inside ih =>
    rw [ih, cut_other (fun later _ => inside later) (by decide), isSpent_blank]
  | case4 c rest _ noBlank =>
    by_cases comma : c = ','
    · rw [comma, cut_comma]
      rfl
    · obtain ⟨piece, later, pieces⟩ := exists_cut_eq rest
      rw [cut_other (fun later blank => absurd blank noBlank) comma, pieces]
      simp [inFront, isSpent, isBlank_of_ne noBlank]

/-- Without a blank at its end, all that has been read is kept. -/
theorem finish_of_ne {last : Char} (noBlank : last ≠ ' ') (earlier : List Char) :
    finish (last :: earlier) =
      if last :: earlier = ['-'] then [] else (last :: earlier).reverse := by
  simp [finish, noBlank]

/-- The characters of an item, last one first, make the item of their piece. -/
theorem finish_eq {read rest : List Char} {first : Char} (noBlank : first ≠ ' ')
    (held : read.reverse = first :: rest) (ending : Ending) :
    finish read = Piece.item { content := first :: rest, ending } := by
  have tail : (first :: rest).dropWhile (· = ' ') = read.reverse := by
    rw [held, List.dropWhile_cons_of_neg (by simpa using noBlank)]
  have dash (kept : List Char) : kept.reverse = ['-'] ↔ kept = ['-'] := List.reverse_eq_iff
  rw [Piece.item, tail, List.getLast?_reverse, List.dropLast_reverse]
  cases read with
  | nil => cases held
  | cons last earlier =>
    by_cases blank : last = ' '
    · subst blank
      simp only [finish, List.head?_cons, if_true, List.tail_cons, dash]
    · simp only [finish_of_ne blank, List.head?_cons, Option.some.injEq, blank, if_false, dash]

/-- Whether the current group has had no item yet. -/
def Position.isFresh : Position → Bool
  | .between fresh => fresh
  | .within fresh _ => fresh

/-- The characters of the item that the scan is inside of, in their order. -/
def Position.held : Position → List Char
  | .between _ => []
  | .within _ read => read.reverse

/-- Inside an item there is a first character, and it is no blank. -/
def Position.Opened : Position → Prop
  | .between _ => True
  | .within _ read => ∃ first rest, first ≠ ' ' ∧ read.reverse = first :: rest

theorem Position.Opened.more {fresh : Bool} {read : List Char}
    (opened : Opened (.within fresh read)) (c : Char) : Opened (.within fresh (c :: read)) := by
  obtain ⟨first, rest, noBlank, held⟩ := opened
  exact ⟨first, rest ++ [c], noBlank, by rw [List.reverse_cons, held, List.cons_append]⟩

/-- What the scan holds when a piece ends is a label or an item. -/
theorem readPieces_held {fresh : Bool} {read : List Char}
    (opened : Position.Opened (.within fresh read)) (ending : Ending) (later : List Piece) :
    readPieces fresh (inFront read.reverse ({ content := [], ending } :: later)) =
      if ending = .group ∧ fresh then readPieces (ending = .group) later
      else finish read :: readPieces (ending = .group) later := by
  obtain ⟨first, rest, noBlank, held⟩ := opened
  rw [inFront, List.append_nil, finish_eq noBlank held ending, held, readPieces_of_ne noBlank]

/-- From wherever it stands, the scan gives the items of the pieces that are left; the first of them
begins with what it holds. -/
theorem scan_eq_readPieces (position : Position) (text : List Char) (opened : position.Opened) :
    scan position text = readPieces position.isFresh (inFront position.held (cut text)) := by
  fun_induction scan position text with
  -- the end of the text
  | case1 fresh => rfl
  | case2 fresh read => exact (readPieces_held opened .text []).symm
  -- a separator of groups: between items, behind a label, behind an item
  | case3 fresh rest ih =>
    rw [ih trivial, Position.held, inFront_nil]
    rfl
  | case4 read rest ih =>
    have label := readPieces_held opened .group (cut rest)
    rw [if_pos ⟨rfl, rfl⟩] at label
    rw [ih trivial, Position.held, inFront_nil]
    exact label.symm
  | case5 fresh read rest stale ih =>
    have item := readPieces_held opened .group (cut rest)
    rw [if_neg (fun label => stale label.2)] at item
    rw [ih trivial, Position.held, inFront_nil]
    exact item.symm
  -- between items: a blank, a comma with the rest spent or not, the start of an item
  | case6 fresh rest inside ih =>
    rw [ih trivial, cut_other inside (by decide)]
    simp only [Position.held, Position.isFresh, inFront_nil, readPieces_blank]
  | case7 fresh rest spent =>
    rw [isSeparators_eq] at spent
    rw [cut_comma, Position.held, inFront_nil, readPieces_comma, if_pos spent]
  | case8 fresh rest more _ _ ih =>
    rw [isSeparators_eq] at more
    rw [ih trivial, cut_comma, Position.held, inFront_nil, Position.held, inFront_nil,
      readPieces_comma, if_neg more]
    rfl
  | case9 fresh c rest inside noBlank noComma ih =>
    rw [ih ⟨c, [], noBlank, rfl⟩, cut_other inside noComma, Position.held, Position.held,
      inFront_nil]
    rfl
  -- inside an item: a comma, or one more character
  | case10 fresh read rest _ ih =>
    rw [ih trivial, cut_comma, Position.held, inFront_nil]
    exact (readPieces_held opened .comma (cut rest)).symm
  | case11 fresh read c rest inside noComma ih =>
    rw [ih (opened.more c), cut_other inside noComma, Position.held, Position.held,
      inFront_inFront, List.reverse_cons]
    rfl

/-- From the start of a text the scan gives the items of its pieces. -/
theorem scan_eq_readPieces_cut (text : List Char) :
    scan (.between true) text = readPieces true (cut text) := by
  have start : Position.Opened (.between true) := trivial
  rw [scan_eq_readPieces _ _ start, Position.held, inFront_nil, Position.isFresh]

/-- **A compound text is read piece by piece.** The items of every text are those of its pieces: it
is cut at its separators, labels and blank pieces fall away, and what else stands in a piece is an
item. -/
theorem items_eq_readPieces (text : String) :
    items text = (readPieces true (cut text.toList)).map String.ofList := by
  rw [items, scan_eq_readPieces_cut]

end MetricPipeline.Compound
