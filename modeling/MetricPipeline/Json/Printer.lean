import MetricPipeline.Json.Value
import MetricPipeline.Number.Shortest

/-!
The compact text of a JSON value.

There is no space between the parts. An object lists each name once, with its last value, in the
order of the names' code points. A number that is not whole has the fewest digits that read back; it
is positional while the point stands within the first sixteen digits or at most four zeros follow the
point, and always shows a point or an exponent.
-/

namespace MetricPipeline.Json

/-- A hexadecimal digit in lower case. -/
def hexDigit (n : Nat) : Char := (Nat.digitChar (n % 16))

/-- One character inside the quotes of a string. -/
def printChar (c : Char) : List Char :=
  if c = '"' then ['\\', '"']
  else if c = '\\' then ['\\', '\\']
  else if c = '\n' then ['\\', 'n']
  else if c = '\r' then ['\\', 'r']
  else if c = '\t' then ['\\', 't']
  else if c = '\x08' then ['\\', 'b']
  else if c = '\x0c' then ['\\', 'f']
  else if c.toNat < 0x20 then
    ['\\', 'u', '0', '0', hexDigit (c.toNat / 16), hexDigit c.toNat]
  else [c]

/-- A string in quotes. -/
def printString (text : String) : List Char := '"' :: text.toList.flatMap printChar ++ ['"']

/-- An integer in decimal, with a minus sign when it is negative. -/
def printInt (value : Int) : List Char :=
  if value < 0 then '-' :: Nat.toDigits 10 value.natAbs else Nat.toDigits 10 value.natAbs

/-- The longest number that is written without an exponent, in digits before the point. -/
def positionalDigits : Int := 16

/-- The number of zeros between the point and the first digit from which on an exponent is used. -/
def positionalZeros : Int := 5

/-- A shortest decimal: positional, or with the point after the first digit and an exponent. -/
def printDecimal (number : Shortest.Decimal) : List Char :=
  let digits := Nat.toDigits 10 number.digits
  let point : Int := digits.length + number.exponent
  if 0 ≤ number.exponent ∧ point ≤ positionalDigits then
    digits ++ List.replicate number.exponent.toNat '0' ++ ['.', '0']
  else if 0 < point ∧ point ≤ positionalDigits then
    digits.take point.toNat ++ '.' :: digits.drop point.toNat
  else if -positionalZeros < point ∧ point ≤ 0 then
    '0' :: '.' :: List.replicate (-point).toNat '0' ++ digits
  else
    let mantissa := match digits with
      | first :: second :: rest => first :: '.' :: second :: rest
      | short => short
    mantissa ++ 'e' :: printInt (point - 1)

/-- A finite number. -/
def printReal (value : Real64) : List Char :=
  let magnitude : Real64 := if value.isNegative then value.neg else value
  let unsigned :=
    if magnitude = Real64.zero then ['0', '.', '0'] else printDecimal (Shortest.decimal magnitude)
  if value.isNegative then '-' :: unsigned else unsigned

/-- Parts with a comma between neighbours. -/
def joinParts (parts : List (List Char)) : List Char := [','].intercalate parts

/-- Puts a printed field into a list of printed fields in ascending order of names, in the place of
a field with the same name. -/
def insertField (name : String) (text : List Char) :
    List (String × List Char) → List (String × List Char)
  | [] => [(name, text)]
  | (other, otherText) :: rest =>
    if name < other then (name, text) :: (other, otherText) :: rest
    else if name = other then (name, text) :: rest
    else (other, otherText) :: insertField name text rest

mutual

/-- The characters of the compact text of a value. -/
def print : Json → List Char
  | .null => "null".toList
  | .bool true => "true".toList
  | .bool false => "false".toList
  | .number (.whole value) => printInt value
  | .number (.real value) => printReal value
  | .string text => printString text
  | .array items => '[' :: joinParts (printItems items) ++ [']']
  | .object fields =>
    let parts := (printFields [] fields).map fun (name, text) => printString name ++ ':' :: text
    '\x7b' :: joinParts parts ++ ['\x7d']
  | .flawed => []

/-- The texts of the items of an array. -/
def printItems : List Json → List (List Char)
  | [] => []
  | item :: rest => print item :: printItems rest

/-- The texts of the fields of an object, put one after another into those already there. -/
def printFields (sorted : List (String × List Char)) :
    List (String × Json) → List (String × List Char)
  | [] => sorted
  | (name, value) :: rest => printFields (insertField name (print value) sorted) rest

end

/-- The compact text of a value. -/
def compact (value : Json) : String := String.ofList value.print

end MetricPipeline.Json
