/-!
Compound texts: several items in one text, in labelled groups.

Items are separated by commas. The sequence space, colon, space separates groups; it never belongs to
an item. Blanks before an item are skipped and one blank after it is dropped. What stands before the
first group separator of a group, if no comma comes earlier, is the label of the group and is dropped
too. A lone dash stands for the empty item, and an empty item at the very end of the text is none.
-/

namespace MetricPipeline.Compound

/-- Where a scan of a compound text stands. The flag tells whether the current group has had no
item yet, so that a label may still come. -/
inductive Position where
  /-- Between items. -/
  | between (fresh : Bool)
  /-- Inside an item, whose characters so far are listed last one first. -/
  | within (fresh : Bool) (read : List Char)
  deriving DecidableEq, Repr

/-- Whether a text consists of blanks and group separators alone. -/
def isSeparators : List Char → Bool
  | [] => true
  | ' ' :: ':' :: ' ' :: rest => isSeparators rest
  | ' ' :: rest => isSeparators rest
  | _ :: _ => false

/-- The item whose characters, last one first, have been read: without one blank at its end, and
empty when it is a dash. -/
def finish (read : List Char) : List Char :=
  let kept := match read with
    | ' ' :: earlier => earlier
    | all => all
  if kept = ['-'] then [] else kept.reverse

/-- The items of the rest of a compound text. -/
def scan : Position → List Char → List (List Char)
  | .between _, [] => []
  | .within _ read, [] => [finish read]
  | .between _, ' ' :: ':' :: ' ' :: rest => scan (.between true) rest
  | .within fresh read, ' ' :: ':' :: ' ' :: rest =>
    if fresh then scan (.between true) rest
    else finish read :: scan (.between true) rest
  | .between fresh, c :: rest =>
    if c = ' ' then scan (.between fresh) rest
    else if c = ',' then
      if isSeparators rest then [] else [] :: scan (.between false) rest
    else scan (.within fresh [c]) rest
  | .within fresh read, c :: rest =>
    if c = ',' then finish read :: scan (.between false) rest
    else scan (.within fresh (c :: read)) rest

/-- The items of a compound text. -/
def items (text : String) : List String :=
  (scan (.between true) text.toList).map String.ofList

/-- Texts that never become a dimension. -/
def isEmptyValue (text : String) : Bool := text = "" || text = "0" || text = "-"

end MetricPipeline.Compound
