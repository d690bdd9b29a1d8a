/-!
Sixty-four bit floating-point numbers, kept as their bit patterns.

A measurement travels as eight bytes and must arrive as the same eight bytes, a NaN with its
payload included. The pattern is therefore the value; the arithmetic of the pipeline (running sums,
fixed-point scaling, negation) is defined on patterns.
-/

namespace MetricPipeline

/-- A floating-point number given by its bit pattern. -/
structure Real64 where
  /-- Sign, eleven bits of exponent, fifty-two bits of fraction. -/
  bits : UInt64
  deriving DecidableEq, Repr, Inhabited

namespace Real64

/-- Positive zero. -/
def zero : Real64 := ⟨0⟩

/-- The number of a machine float. -/
def ofFloat (x : Float) : Real64 := ⟨x.toBits⟩

/-- The machine float of a number. -/
def toFloat (x : Real64) : Float := Float.ofBits x.bits

/-- The eleven bits of exponent. -/
def exponentField (x : Real64) : Nat := (x.bits >>> 52).toNat % 0x800

/-- The fifty-two bits of fraction. -/
def fractionField (x : Real64) : Nat := x.bits.toNat % 0x10000000000000

/-- Whether the sign bit is set. -/
def isNegative (x : Real64) : Bool := x.bits >>> 63 == 1

/-- The patterns that are no number: a full exponent and a fraction that is not zero. -/
def isNaN (x : Real64) : Bool := x.exponentField == 2047 && x.fractionField != 0

/-- A NaN with its quiet bit set. -/
def quiet (x : Real64) : Real64 := ⟨x.bits ||| 0x0008000000000000⟩

/-- The NaN of an invalid operation. -/
def invalid : Real64 := ⟨0xfff8000000000000⟩

/-- The opposite number: the same pattern with the other sign bit. -/
def neg (x : Real64) : Real64 := ⟨x.bits ^^^ 0x8000000000000000⟩

theorem toNat_bits_neg (x : Real64) : x.neg.bits.toNat = x.bits.toNat ^^^ 0x8000000000000000 :=
  UInt64.toNat_xor _ _

theorem isNegative_eq_testBit (x : Real64) : x.isNegative = x.bits.toNat.testBit 63 := by
  have shifted : (x.bits >>> 63).toNat = x.bits.toNat >>> 63 := UInt64.toNat_shiftRight _ _
  have small : x.bits.toNat >>> 63 < 2 := by
    rw [Nat.shiftRight_eq_div_pow]
    exact Nat.div_lt_of_lt_mul x.bits.toNat_lt
  have last : x.bits >>> 63 = 1 ↔ x.bits.toNat >>> 63 = 1 := by
    rw [← UInt64.toNat_inj, shifted]
    rfl
  rw [isNegative, Nat.testBit, Nat.one_and_eq_mod_two, Nat.mod_eq_of_lt small, Bool.eq_iff_iff,
    beq_iff_eq, last, bne_iff_ne]
  omega

/-- The opposite number has the other sign, -/
theorem isNegative_neg (x : Real64) : x.neg.isNegative = !x.isNegative := by
  have sign : Nat.testBit 0x8000000000000000 63 = true := rfl
  rw [isNegative_eq_testBit, isNegative_eq_testBit, toNat_bits_neg, Nat.testBit_xor, sign,
    Bool.xor_true]

/-- the same exponent -/
theorem exponentField_neg (x : Real64) : x.neg.exponentField = x.exponentField := by
  have shifted (bits : UInt64) : (bits >>> 52).toNat = bits.toNat >>> 52 :=
    UInt64.toNat_shiftRight _ _
  rw [exponentField, exponentField, shifted, shifted, toNat_bits_neg, Nat.shiftRight_xor_distrib]
  exact (Nat.xor_mod_two_pow : (_ ^^^ _) % 2 ^ 11 = _).trans (Nat.xor_zero _)

/-- and the same fraction. -/
theorem fractionField_neg (x : Real64) : x.neg.fractionField = x.fractionField := by
  rw [fractionField, fractionField, toNat_bits_neg]
  exact (Nat.xor_mod_two_pow : (_ ^^^ _) % 2 ^ 52 = _).trans (Nat.xor_zero _)

/-- So no number is its own opposite, not even zero. -/
theorem neg_ne (x : Real64) : x.neg ≠ x := by
  intro same
  have turned := x.isNegative_neg
  rw [same] at turned
  exact (Bool.eq_not_self _).mp turned

/-- The rounded sum. A NaN operand is passed on, the left one first; a sum without a value, such as
that of opposite infinities, is the NaN of an invalid operation. -/
def add (x y : Real64) : Real64 :=
  if x.isNaN then x.quiet
  else if y.isNaN then y.quiet
  else
    let sum := ofFloat (x.toFloat + y.toFloat)
    if sum.isNaN then invalid else sum

instance : Add Real64 := ⟨add⟩

/-- The number nearest to a natural number below 2^64. -/
def ofNat (n : Nat) : Real64 := ofFloat n.toUInt64.toFloat

/-- The number nearest to a natural number below 2^64, divided by 10^8 and rounded again. -/
def ofHundredMillionths (n : Nat) : Real64 := ofFloat (n.toUInt64.toFloat / 100000000.0)

end Real64

end MetricPipeline
