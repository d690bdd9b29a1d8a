import MetricPipeline.Json.Value

/-!
Numerals of JSON and the numbers they stand for.

A numeral is a sign, digits without a superfluous leading zero, and optionally a fraction and an
exponent. Digits alone that fit a 64-bit word are a whole number. Otherwise the digits are gathered
into a 64-bit significand as far as they fit, digits of the integer part beyond that count as powers
of ten and digits of the fraction beyond that are dropped; the significand is then rounded to a float
and scaled by one multiplication or division. The result may differ from the nearest float in the
last bit.
-/

namespace MetricPipeline.Json

/-- The parts of a numeral, digits as their values. -/
structure Numeral where
  /-- Whether it starts with a minus sign. -/
  negative : Bool
  /-- The digits before the point. -/
  whole : List Nat
  /-- The digits after the point, none when there is no point. -/
  fraction : List Nat
  /-- Whether it is digits alone, without a point or an exponent. -/
  plain : Bool
  /-- The written exponent, zero when there is none. -/
  exponent : Int
  deriving DecidableEq, Repr, Inhabited

/-- The value of a decimal digit. -/
def digit? (c : Char) : Option Nat := if c.isDigit then some (c.toNat - 48) else none

/-- The digits at the front of a text, and what follows them. -/
def takeDigits : List Char → List Nat × List Char
  | [] => ([], [])
  | c :: rest =>
    match digit? c with
    | some digit => let (digits, after) := takeDigits rest; (digit :: digits, after)
    | none => ([], c :: rest)

/-- The number that decimal digits spell. -/
def ofDigits (digits : List Nat) : Nat := digits.foldl (fun value digit => value * 10 + digit) 0

namespace Numeral

/-- The integer part: a single zero, or digits that do not start with one. -/
def readWhole (chars : List Char) : Option (List Nat × List Char) :=
  match takeDigits chars with
  | ([], _) => none
  | (0 :: _ :: _, _) => none
  | parts => some parts

/-- The fraction, when a point follows; at least one digit stands after it. -/
def readFraction : List Char → Option (List Nat × List Char)
  | '.' :: rest =>
    match takeDigits rest with
    | ([], _) => none
    | parts => some parts
  | chars => some ([], chars)

/-- The exponent at the end of the numeral: the letter, an optional sign and at least one digit. -/
def readExponent : List Char → Option Int
  | [] => some 0
  | letter :: rest =>
    if letter = 'e' ∨ letter = 'E' then
      let (negative, digits) := match rest with
        | '+' :: digits => (false, digits)
        | '-' :: digits => (true, digits)
        | digits => (false, digits)
      match takeDigits digits with
      | ([], _) => none
      | (found, []) => some (if negative then -(ofDigits found : Int) else ofDigits found)
      | (_, _ :: _) => none
    else none

/-- The parts of a whole text that is one numeral. -/
def read? (chars : List Char) : Option Numeral := do
  let (negative, unsigned) := match chars with
    | '-' :: rest => (true, rest)
    | rest => (false, rest)
  let (whole, afterWhole) ← readWhole unsigned
  let (fraction, afterFraction) ← readFraction afterWhole
  let exponent ← readExponent afterFraction
  return { negative, whole, fraction, plain := afterWhole.isEmpty, exponent }

/-- One more than the largest significand. -/
def limit : Nat := UInt64.size

/-- The significand of the digits of the integer part, and the number of digits left out because
the significand was full. -/
def gatherWhole (significand : Nat) : List Nat → Nat × Nat
  | [] => (significand, 0)
  | digit :: rest =>
    if significand * 10 + digit < limit then gatherWhole (significand * 10 + digit) rest
    else (significand, rest.length + 1)

/-- The significand after the digits of the fraction, and the number of digits it took in. -/
def gatherFraction (significand : Nat) : List Nat → Nat × Nat
  | [] => (significand, 0)
  | digit :: rest =>
    if significand * 10 + digit < limit then
      let (result, taken) := gatherFraction (significand * 10 + digit) rest
      (result, taken + 1)
    else (significand, 0)

/-- The power of ten as a float. -/
def powerOfTen (exponent : Nat) : Float := Float.ofScientific 1 false exponent

/-- A float divided by a power of ten, by 10^308 at a time while the power is not a float. -/
def divide (value : Float) (exponent : Nat) : Float :=
  if exponent < 309 then value / powerOfTen exponent
  else if value == 0 then value
  else divide (value / powerOfTen 308) (exponent - 308)
termination_by exponent

/-- The float of a significand times a power of ten; none when it is beyond every float. -/
def scale (significand : Nat) (exponent : Int) : Option Float :=
  let value := significand.toUInt64.toFloat
  if 0 ≤ exponent then
    if exponent < 309 then
      let product := value * powerOfTen exponent.toNat
      if product.isInf then none else some product
    else if value == 0 then some value
    else none
  else some (divide value (-exponent).toNat)

/-- The largest written exponent that is told apart from still larger ones. -/
def largestExponent : Nat := 0x7fffffff

/-- The number of a numeral that is not a whole number. -/
def real? (numeral : Numeral) : Option Real64 := do
  let (gathered, leftOut) := gatherWhole 0 numeral.whole
  let (significand, taken) := gatherFraction gathered numeral.fraction
  let magnitude ←
    if largestExponent < numeral.exponent.natAbs then
      if significand ≠ 0 ∧ 0 < numeral.exponent then none else some 0
    else scale significand (numeral.exponent + leftOut - taken)
  let number := Real64.ofFloat magnitude
  return if numeral.negative then number.neg else number

/-- The whole number of a numeral that is digits alone, if a 64-bit word can hold it. -/
def whole? (numeral : Numeral) : Option Int :=
  let value := ofDigits numeral.whole
  if numeral.plain then
    if numeral.negative then
      if 0 < value ∧ value ≤ 0x8000000000000000 then some (-(value : Int)) else none
    else if value < limit then some value else none
  else none

/-- The value of a numeral; one that is beyond every float has none. -/
def value (numeral : Numeral) : Json :=
  match numeral.whole? with
  | some whole => .number (.whole whole)
  | none =>
    match numeral.real? with
    | some real => .number (.real real)
    | none => .flawed

end Numeral

end MetricPipeline.Json
