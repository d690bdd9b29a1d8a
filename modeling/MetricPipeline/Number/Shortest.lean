import MetricPipeline.Number.Real64

/-!
The fewest decimal digits that read back as a given floating-point number.

The numbers that round to a float form an interval around it, ends included when the float's
mantissa is even. Decimal grids of one, two, … digits are tried in turn; on each only the two
neighbours of the float can lie in the interval. The first grid with a hit decides the number of
digits, and of two hits the nearer one is taken, an even last digit in a tie.
-/

namespace MetricPipeline.Shortest

/-- A decimal number `digits · 10^exponent`. -/
structure Decimal where
  /-- The digits, read as one natural number. -/
  digits : Nat
  /-- The power of ten they are scaled by. -/
  exponent : Int
  deriving DecidableEq, Repr, Inhabited

/-- An interval of positive rationals with one denominator, and the number it surrounds. -/
structure Interval where
  /-- The numerator of the lower end. -/
  low : Nat
  /-- The numerator of the number itself. -/
  value : Nat
  /-- The numerator of the upper end. -/
  high : Nat
  /-- The denominator of all three. -/
  denominator : Nat
  /-- Whether the ends belong to the interval. -/
  closed : Bool
  deriving Repr

/-- The interval of the reals that round to a positive finite number. The gap below a power of two
is half as wide as the one above it. -/
def Interval.around (x : Real64) : Interval :=
  let field := x.exponentField
  let fraction := x.fractionField
  let mantissa := if field = 0 then fraction else fraction + 0x10000000000000
  let exponent : Int := (max field 1 : Nat) - 1077
  let below := if fraction = 0 ∧ 1 < field then 1 else 2
  let scale := Nat.pow 2 exponent.toNat
  { low := (4 * mantissa - below) * scale
    value := 4 * mantissa * scale
    high := (4 * mantissa + 2) * scale
    denominator := Nat.pow 2 (-exponent).toNat
    closed := mantissa % 2 = 0 }

/-- Whether a numerator over the interval's denominator lies in the interval. -/
def Interval.holds (interval : Interval) (numerator : Nat) : Bool :=
  if interval.closed then interval.low ≤ numerator && numerator ≤ interval.high
  else interval.low < numerator && numerator < interval.high

/-- The interval measured in units of `10^exponent`. -/
def Interval.inUnits (interval : Interval) (exponent : Int) : Interval :=
  let up := Nat.pow 10 (-exponent).toNat
  { interval with
    low := interval.low * up
    value := interval.value * up
    high := interval.high * up
    denominator := interval.denominator * Nat.pow 10 exponent.toNat }

/-- The exponent of the leading decimal digit of the number in the interval. -/
def Interval.leading (interval : Interval) : Int :=
  let guess : Int :=
    (Nat.toDigits 10 interval.value).length - (Nat.toDigits 10 interval.denominator).length
  let scaled := interval.inUnits guess
  if scaled.denominator ≤ scaled.value then guess else guess - 1

/-- The point of the grid `10^exponent` that reads back as the number, if there is one. -/
def Interval.nearestOn (interval : Interval) (exponent : Int) : Option Decimal :=
  let scaled := interval.inUnits exponent
  let down := scaled.value / scaled.denominator
  let up := down + 1
  let downHits := scaled.holds (down * scaled.denominator)
  let upHits := scaled.holds (up * scaled.denominator)
  let downGap := scaled.value - down * scaled.denominator
  let upGap := up * scaled.denominator - scaled.value
  match downHits, upHits with
  | true, true =>
    if downGap < upGap ∨ (downGap = upGap ∧ down % 2 = 0) then some ⟨down, exponent⟩
    else some ⟨up, exponent⟩
  | true, false => some ⟨down, exponent⟩
  | false, true => some ⟨up, exponent⟩
  | false, false => none

/-- A decimal number without trailing zeros in its digits. -/
def Decimal.strip (number : Decimal) : Decimal :=
  if number.digits ≠ 0 ∧ number.digits % 10 = 0 then
    Decimal.strip ⟨number.digits / 10, number.exponent + 1⟩
  else number
termination_by number.digits

/-- The shortest decimal that reads back as a positive finite number. -/
def decimal (x : Real64) : Decimal :=
  let interval := Interval.around x
  let leading := interval.leading
  let found := (List.range 17).findSome? fun count =>
    interval.nearestOn (leading - (count : Nat))
  (found.getD ⟨0, 0⟩).strip

end MetricPipeline.Shortest
