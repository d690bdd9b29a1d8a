import MetricPipeline.Json.Numeral

/-!
The lexemes of a JSON text.

The text is read character by character by a small automaton: between lexemes, inside a string,
inside an escape, inside a numeral, inside a word. Every character moves the automaton on, so the
scan is a recursion on the text itself.
-/

namespace MetricPipeline.Json

/-- A lexeme. -/
inductive Token where
  /-- The bracket that opens an array. -/
  | openArray
  /-- The bracket that closes an array. -/
  | closeArray
  /-- The brace that opens an object. -/
  | openObject
  /-- The brace that closes an object. -/
  | closeObject
  /-- A comma. -/
  | comma
  /-- A colon. -/
  | colon
  /-- A string; none when it holds half of a surrogate pair. -/
  | text (value : Option String)
  /-- A word or a numeral. -/
  | plain (value : Json)
  deriving Repr, Inhabited

/-- The characters of a string read so far, last one first; none after half of a surrogate pair. -/
abbrev Partial := Option (List Char)

/-- Where the scan stands. -/
inductive Scan where
  /-- Between lexemes. -/
  | between
  /-- In a string; the high surrogate is the one that has just been read and waits for its pair. -/
  | text (read : Partial) (high : Option Nat)
  /-- After a backslash in a string. -/
  | escape (read : Partial) (high : Option Nat)
  /-- In the hexadecimal digits of an escape: their value so far and how many are missing. -/
  | unicode (read : Partial) (high : Option Nat) (code : Nat) (missing : Nat)
  /-- In a numeral, its characters last one first. -/
  | numeral (read : List Char)
  /-- In a word, its characters last one first. -/
  | word (read : List Char)
  deriving Repr, Inhabited

/-- The white space of JSON. -/
def isSpace (c : Char) : Bool := c = ' ' || c = '\n' || c = '\t' || c = '\r'

/-- A character of which a numeral can consist. -/
def isNumeralChar (c : Char) : Bool :=
  c.isDigit || c = '-' || c = '+' || c = '.' || c = 'e' || c = 'E'

/-- The character that a letter stands for after a backslash. -/
def escaped? (c : Char) : Option Char :=
  if c = '"' ∨ c = '\\' ∨ c = '/' then some c
  else if c = 'b' then some '\x08'
  else if c = 'f' then some '\x0c'
  else if c = 'n' then some '\n'
  else if c = 'r' then some '\r'
  else if c = 't' then some '\t'
  else none

/-- The value of a hexadecimal digit, in either case. -/
def hexDigit? (c : Char) : Option Nat :=
  let code := c.toNat
  if 48 ≤ code ∧ code ≤ 57 then some (code - 48)
  else if 97 ≤ code ∧ code ≤ 102 then some (code - 87)
  else if 65 ≤ code ∧ code ≤ 70 then some (code - 55)
  else none

/-- The string with one more character, unless a high surrogate still waits for its pair. -/
def Partial.push (read : Partial) (high : Option Nat) (c : Char) : Partial :=
  match high with
  | none => read.map (c :: ·)
  | some _ => none

/-- The string after an escape with four hexadecimal digits, and the high surrogate that now waits.
A low surrogate completes the high one before it; any other surrogate is half of a pair. -/
def Partial.pushCode (read : Partial) (high : Option Nat) (code : Nat) : Partial × Option Nat :=
  let isLow := 0xdc00 ≤ code && code ≤ 0xdfff
  let isHigh := 0xd800 ≤ code && code ≤ 0xdbff
  match high with
  | some first =>
    if isLow then
      (read.map (Char.ofNat (0x10000 + (first - 0xd800) * 0x400 + (code - 0xdc00)) :: ·), none)
    else (none, none)
  | none =>
    if isHigh then (read, some code)
    else if isLow then (none, none)
    else (read.map (Char.ofNat code :: ·), none)

/-- The lexeme of a finished string. -/
def Partial.token (read : Partial) (high : Option Nat) : Token :=
  match high with
  | none => .text (read.map fun chars => String.ofList chars.reverse)
  | some _ => .text none

/-- The lexeme of a finished numeral. -/
def numeralToken? (read : List Char) : Option Token :=
  (Numeral.read? read.reverse).map fun numeral => .plain numeral.value

/-- The lexeme of a finished word. -/
def wordToken? (read : List Char) : Option Token :=
  match String.ofList read.reverse with
  | "null" => some (.plain .null)
  | "true" => some (.plain (.bool true))
  | "false" => some (.plain (.bool false))
  | _ => none

/-- The lexemes, and the new state, that a character between lexemes gives. -/
def start? (c : Char) : Option (List Token × Scan) :=
  if isSpace c then some ([], .between)
  else if c = '[' then some ([.openArray], .between)
  else if c = ']' then some ([.closeArray], .between)
  else if c = '\x7b' then some ([.openObject], .between)
  else if c = '\x7d' then some ([.closeObject], .between)
  else if c = ',' then some ([.comma], .between)
  else if c = ':' then some ([.colon], .between)
  else if c = '"' then some ([], .text (some []) none)
  else if c.isDigit || c = '-' then some ([], .numeral [c])
  else if c.isLower then some ([], .word [c])
  else none

/-- The lexemes, and the new state, that a character gives in a state; none when the text is no
JSON. -/
def step? (scan : Scan) (c : Char) : Option (List Token × Scan) :=
  match scan with
  | .between => start? c
  | .text read high =>
    if c = '"' then some ([read.token high], .between)
    else if c = '\\' then some ([], .escape read high)
    else if c.toNat < 0x20 then none
    else some ([], .text (read.push high c) none)
  | .escape read high =>
    if c = 'u' then some ([], .unicode read high 0 4)
    else (escaped? c).map fun char => ([], .text (read.push high char) none)
  | .unicode read high code missing =>
    (hexDigit? c).map fun digit =>
      let next := code * 16 + digit
      if missing ≤ 1 then
        let (longer, waiting) := read.pushCode high next
        ([], .text longer waiting)
      else ([], .unicode read high next (missing - 1))
  | .numeral read =>
    if isNumeralChar c then some ([], .numeral (c :: read))
    else do
      let token ← numeralToken? read
      let (tokens, after) ← start? c
      return (token :: tokens, after)
  | .word read =>
    if c.isLower then some ([], .word (c :: read))
    else do
      let token ← wordToken? read
      let (tokens, after) ← start? c
      return (token :: tokens, after)

/-- The lexemes that the end of the text completes. -/
def Scan.finish? : Scan → Option (List Token)
  | .between => some []
  | .numeral read => (numeralToken? read).map ([·])
  | .word read => (wordToken? read).map ([·])
  | _ => none

/-- The lexemes of a text, the earlier ones already found last one first. -/
def tokensFrom (scan : Scan) (found : List Token) : List Char → Option (List Token)
  | [] => (scan.finish?).map fun last => (last.reverse ++ found).reverse
  | c :: rest =>
    match step? scan c with
    | some (tokens, after) => tokensFrom after (tokens.reverse ++ found) rest
    | none => none

/-- The lexemes of a text; none when it cannot be cut into lexemes. -/
def tokens? (text : String) : Option (List Token) := tokensFrom .between [] text.toList

end MetricPipeline.Json
