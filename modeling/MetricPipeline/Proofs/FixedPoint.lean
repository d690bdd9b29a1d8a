import MetricPipeline.Measurement
import Mathlib.Algebra.Order.Floor.Semifield
import Mathlib.Data.Rat.Floor
import Mathlib.Tactic.FieldSimp
import Mathlib.Tactic.Ring

/-!
Decimals read as fixed-point numbers.

A decimal is digits with at most one point among them, and it stands for a rational number: what its
digits before the point spell, and behind it tenths, hundredths and so on. Reading it with a number of
places gives the largest integer that is no larger than that number times the power of ten, as long as
it is in range: a partial result never exceeds the final one, so no step overflows unless that does, and
digits beyond the last place cannot change it. With no places at all this fails: then the digits before
the point are skipped like those beyond the last place, and every decimal reads as zero.
-/

namespace MetricPipeline.Measurement

/-! ## Decimals and what they stand for -/

/-- Digits, and at most one point among them. -/
def DigitsWithPoint (chars : List Char) : Prop :=
  (∀ c ∈ chars, c.isDigit = true ∨ c = '.') ∧ chars.count '.' ≤ 1

/-- A text of digits with at most one point, in any place. -/
def IsDecimal (text : String) : Prop := text.toList ≠ [] ∧ DigitsWithPoint text.toList

instance : DecidablePred DigitsWithPoint := fun chars =>
  decidable_of_iff (chars.all (fun c => c.isDigit || c == '.') = true ∧ chars.count '.' ≤ 1)
    (by simp [DigitsWithPoint])

instance : DecidablePred IsDecimal := fun _ => inferInstanceAs (Decidable (_ ∧ _))

/-- What stands before the point. -/
def whole (chars : List Char) : List Char := chars.takeWhile (· ≠ '.')

/-- What stands behind the point. -/
def fraction (chars : List Char) : List Char := (chars.dropWhile (· ≠ '.')).tail

/-- The number with these digits before and behind its point. -/
def numberOf (whole fraction : List Char) : ℚ :=
  Nat.ofDigitChars 10 whole 0 + Nat.ofDigitChars 10 fraction 0 / 10 ^ fraction.length

/-- The number that a decimal stands for. Digits that are missing count as zero. -/
def decimalValue (text : String) : ℚ := numberOf (whole text.toList) (fraction text.toList)

/-! ## Digits -/

variable {value places n : Nat} {c : Char} {chars rest : List Char}

theorem ofDigitChars_lt (digits : ∀ c ∈ chars, c.isDigit = true) :
    Nat.ofDigitChars 10 chars 0 < 10 ^ chars.length := by
  induction chars with
  | nil => simp
  | cons c rest ih =>
    obtain ⟨here, later⟩ := List.forall_mem_cons.mp digits
    obtain ⟨-, small⟩ := Char.isDigit_iff_toNat.mp here
    have digit : c.toNat - '0'.toNat ≤ 9 := Nat.sub_le_sub_right small _
    rw [Nat.ofDigitChars_cons, Nat.mul_zero, Nat.zero_add, Nat.ofDigitChars_eq_ofDigitChars_zero,
      List.length_cons]
    calc 10 ^ rest.length * (c.toNat - '0'.toNat) + Nat.ofDigitChars 10 rest 0
        < 10 ^ rest.length * (c.toNat - '0'.toNat) + 10 ^ rest.length :=
          Nat.add_lt_add_left (ih later) _
      _ = 10 ^ rest.length * (c.toNat - '0'.toNat + 1) := (Nat.mul_succ ..).symm
      _ ≤ 10 ^ rest.length * 10 := Nat.mul_le_mul_left _ (Nat.succ_le_succ digit)
      _ = 10 ^ (rest.length + 1) := (pow_succ ..).symm

theorem ofDigitChars_cons_eq (c : Char) (rest : List Char) (value : Nat) :
    Nat.ofDigitChars 10 (c :: rest) value =
      Nat.ofDigitChars 10 rest (Nat.ofDigitChars 10 [c] value) := by
  rw [← Nat.ofDigitChars_append, List.singleton_append]

/-- No number gets smaller by further digits. -/
theorem le_ofDigitChars (value : Nat) (chars : List Char) :
    value ≤ Nat.ofDigitChars 10 chars value := by
  rw [Nat.ofDigitChars_eq_ofDigitChars_zero]
  exact Nat.le_add_right_of_le (Nat.le_mul_of_pos_left value (Nat.pow_pos (by decide)))

theorem le_ofDigitChars_mul (value : Nat) (chars : List Char) (zeros : Nat) :
    value ≤ Nat.ofDigitChars 10 chars value * 10 ^ zeros :=
  Nat.le_trans (le_ofDigitChars value chars) (Nat.le_mul_of_pos_right _ (Nat.pow_pos (by decide)))

/-- A partial number never exceeds the last one, so it goes out of range only if that one does. -/
theorem inRange_and_iff {read shape : Prop} {next last : Nat} (grows : next ≤ last)
    (later : next ≤ maxInteger → (read ↔ shape ∧ n = last ∧ n ≤ maxInteger)) :
    next ≤ maxInteger ∧ read ↔ shape ∧ n = last ∧ n ≤ maxInteger := by
  constructor
  · rintro ⟨fits, read⟩
    exact (later fits).mp read
  · rintro ⟨shape, rfl, inRange⟩
    have fits := Nat.le_trans grows inRange
    exact ⟨fits, (later fits).mpr ⟨shape, rfl, inRange⟩⟩

/-- One more digit is read when it is one and the number stays in range. -/
theorem appendDigit_eq_some {follow : Nat → Option Nat} :
    (do
      let digit ← digit? c
      let next ← appendDigit? value digit
      follow next) = some n ↔
      c.isDigit = true ∧ Nat.ofDigitChars 10 [c] value ≤ maxInteger ∧
        follow (Nat.ofDigitChars 10 [c] value) = some n := by
  rw [Nat.ofDigitChars_cons, Nat.ofDigitChars_nil, Nat.mul_comm]
  unfold digit? appendDigit?
  generalize c.toNat - '0'.toNat = digit
  split
  · rename_i isDigit
    rw [Option.bind_eq_bind, Option.bind_some]
    split
    · rename_i small
      exact ⟨fun read => ⟨isDigit, small, read⟩, fun ⟨_, _, read⟩ => read⟩
    · rename_i large
      exact iff_of_false nofun fun ⟨_, small, _⟩ => large small
  · rename_i other
    exact iff_of_false nofun fun ⟨isDigit, _⟩ => other isDigit

/-- Shifting multiplies by the power of ten, in range. -/
theorem shift?_eq_some_iff (small : value ≤ maxInteger) :
    shift? value places = some n ↔ n = value * 10 ^ places ∧ n ≤ maxInteger := by
  induction places generalizing value with
  | zero =>
    rw [shift?, pow_zero, Nat.mul_one, Option.some.injEq]
    exact ⟨fun same => ⟨same.symm, same ▸ small⟩, fun ⟨same, _⟩ => same.symm⟩
  | succ places ih =>
    rw [shift?]
    split
    · rename_i zero
      rw [zero, Nat.zero_mul, Option.some.injEq]
      exact ⟨fun same => ⟨same.symm, same ▸ Nat.zero_le _⟩, fun ⟨same, _⟩ => same.symm⟩
    · rename_i positive
      have grows : value * 10 ^ (places + 1) = value * 10 * 10 ^ places := by
        rw [pow_succ', Nat.mul_assoc]
      rw [grows, appendDigit?, Nat.add_zero]
      split
      · rename_i fits
        exact ih fits
      · rename_i large
        refine iff_of_false nofun ?_
        rintro ⟨rfl, fits⟩
        exact large (Nat.le_trans (Nat.le_mul_of_pos_right _ (Nat.pow_pos (by decide))) fits)

/-! ## Reading on both sides of the point -/

/-- Once no place is left, a digit is only checked. -/
theorem fixedPointFrom_check {afterPoint : Bool} (other : c ≠ '.') :
    fixedPointFrom value 0 afterPoint (c :: rest) = some n ↔
      c.isDigit = true ∧ fixedPointFrom value 0 afterPoint rest = some n := by
  rw [fixedPointFrom, if_neg other, digit?]
  split
  · rename_i digit
    exact (and_iff_right digit).symm
  · rename_i none
    exact iff_of_false nofun fun ⟨digit, _⟩ => none digit

/-- While there are places a digit is appended, and behind the point it takes one of them. -/
theorem fixedPointFrom_digit {afterPoint : Bool} (other : c ≠ '.') (left : places ≠ 0) :
    fixedPointFrom value places afterPoint (c :: rest) = some n ↔
      c.isDigit = true ∧ Nat.ofDigitChars 10 [c] value ≤ maxInteger ∧
        fixedPointFrom (Nat.ofDigitChars 10 [c] value)
          (if afterPoint then places - 1 else places) afterPoint rest = some n := by
  simp only [fixedPointFrom, if_neg other, if_neg left]
  exact appendDigit_eq_some

/-- Behind the point, digits are appended while there are places, and the places left over are filled
with zeros. -/
theorem fixedPointFrom_fraction (small : value ≤ maxInteger) :
    fixedPointFrom value places true chars = some n ↔
      (∀ c ∈ chars, c.isDigit = true) ∧
        n = Nat.ofDigitChars 10 (chars.take places) value * 10 ^ (places - chars.length) ∧
        n ≤ maxInteger := by
  induction chars generalizing value places with
  | nil =>
    rw [fixedPointFrom, shift?_eq_some_iff small, List.take_nil, Nat.ofDigitChars_nil]
    exact (and_iff_right nofun).symm
  | cons c rest ih =>
    rw [List.forall_mem_cons, and_assoc]
    by_cases point : c = '.'
    · -- A second point is refused, and it is no digit.
      subst point
      exact iff_of_false nofun fun ⟨digit, _⟩ => by cases digit
    · cases places with
      | zero =>
        rw [fixedPointFrom_check point, ih small, List.take_zero, List.take_zero, Nat.zero_sub,
          Nat.zero_sub]
      | succ places =>
        rw [fixedPointFrom_digit point (Nat.succ_ne_zero places), if_pos rfl, Nat.succ_sub_one,
          List.take_succ_cons, ofDigitChars_cons_eq c (rest.take places), List.length_cons,
          Nat.add_sub_add_right]
        exact and_congr_right fun _ => inRange_and_iff (le_ofDigitChars_mul _ _ _) ih

theorem digitsWithPoint_nil : DigitsWithPoint [] := ⟨nofun, Nat.zero_le 1⟩

theorem digitsWithPoint_point :
    DigitsWithPoint ('.' :: rest) ↔ ∀ c ∈ rest, c.isDigit = true := by
  rw [DigitsWithPoint, List.forall_mem_cons, List.count_cons_self, Nat.add_le_add_iff_right,
    Nat.le_zero, List.count_eq_zero]
  constructor
  · rintro ⟨⟨-, chars⟩, single⟩ c member
    exact (chars c member).resolve_right fun point => single (point ▸ member)
  · intro digits
    refine ⟨⟨.inr rfl, fun c member => .inl (digits c member)⟩, fun member => ?_⟩
    cases digits '.' member

theorem digitsWithPoint_cons (other : c ≠ '.') :
    DigitsWithPoint (c :: rest) ↔ c.isDigit = true ∧ DigitsWithPoint rest := by
  rw [DigitsWithPoint, List.forall_mem_cons, List.count_cons_of_ne other, and_assoc,
    or_iff_left other]
  rfl

theorem whole_cons (other : c ≠ '.') : whole (c :: rest) = c :: whole rest :=
  List.takeWhile_cons_of_pos (by simp [other])

theorem fraction_cons (other : c ≠ '.') : fraction (c :: rest) = fraction rest := by
  rw [fraction, List.dropWhile_cons_of_pos (by simp [other]), fraction]

/-- Before the point all digits are appended; those behind it follow. -/
theorem fixedPointFrom_whole (small : value ≤ maxInteger) (left : places ≠ 0) :
    fixedPointFrom value places false chars = some n ↔
      DigitsWithPoint chars ∧
        n = Nat.ofDigitChars 10 (whole chars ++ (fraction chars).take places) value *
          10 ^ (places - (fraction chars).length) ∧
        n ≤ maxInteger := by
  induction chars generalizing value with
  | nil =>
    have none : fraction [] = [] := rfl
    rw [fixedPointFrom, shift?_eq_some_iff small, none, List.take_nil]
    exact (and_iff_right digitsWithPoint_nil).symm
  | cons c rest ih =>
    by_cases point : c = '.'
    · subst point
      -- The point itself changes neither the number nor the places, so the fraction takes over.
      rw [digitsWithPoint_point]
      exact fixedPointFrom_fraction small
    · rw [fixedPointFrom_digit point left, if_neg Bool.false_ne_true, digitsWithPoint_cons point,
        whole_cons point, fraction_cons point, List.cons_append, ofDigitChars_cons_eq c (_ ++ _),
        and_assoc]
      exact and_congr_right fun _ => inRange_and_iff (le_ofDigitChars_mul _ _ _) ih

/-- Without places the digits before the point are skipped as well. -/
theorem fixedPointFrom_zero (small : value ≤ maxInteger) :
    fixedPointFrom value 0 false chars = some n ↔ DigitsWithPoint chars ∧ n = value := by
  induction chars with
  | nil =>
    rw [fixedPointFrom, shift?, Option.some.injEq, eq_comm]
    exact (and_iff_right digitsWithPoint_nil).symm
  | cons c rest ih =>
    by_cases point : c = '.'
    · subst point
      rw [digitsWithPoint_point]
      refine (fixedPointFrom_fraction small).trans (and_congr_right fun _ => ?_)
      rw [List.take_zero, Nat.zero_sub, pow_zero, Nat.mul_one, Nat.ofDigitChars_nil]
      exact and_iff_left_of_imp fun same => same ▸ small
    · rw [fixedPointFrom_check point, ih, digitsWithPoint_cons point, and_assoc]

/-! ## The floor -/

/-- With places for all digits the scaled number is whole. -/
theorem numberOf_mul_of_le (whole : List Char) {fraction : List Char}
    (room : fraction.length ≤ places) :
    numberOf whole fraction * 10 ^ places =
      ((Nat.ofDigitChars 10 (whole ++ fraction) 0 * 10 ^ (places - fraction.length) : ℕ) : ℚ) := by
  obtain ⟨zeros, rfl⟩ := Nat.exists_eq_add_of_le room
  rw [numberOf, Nat.ofDigitChars_append,
    @Nat.ofDigitChars_eq_ofDigitChars_zero fraction (Nat.ofDigitChars 10 whole 0),
    Nat.add_sub_cancel_left, pow_add]
  push_cast
  field_simp

/-- Further digits add less than one to the scaled number. -/
theorem numberOf_append_mul (whole kept cut : List Char) :
    numberOf whole (kept ++ cut) * 10 ^ kept.length =
      (Nat.ofDigitChars 10 cut 0 : ℕ) / (10 ^ cut.length : ℕ) +
        (Nat.ofDigitChars 10 (whole ++ kept) 0 : ℕ) := by
  rw [numberOf, Nat.ofDigitChars_append, Nat.ofDigitChars_append,
    @Nat.ofDigitChars_eq_ofDigitChars_zero cut (Nat.ofDigitChars 10 kept 0),
    @Nat.ofDigitChars_eq_ofDigitChars_zero kept (Nat.ofDigitChars 10 whole 0),
    List.length_append, pow_add]
  push_cast
  field_simp
  ring

/-- The places that a fraction fills decide the floor, the digits behind them do not. -/
theorem floor_numberOf_mul (whole : List Char) {fraction : List Char} (places : Nat)
    (digits : ∀ c ∈ fraction, c.isDigit = true) :
    ⌊numberOf whole fraction * 10 ^ places⌋₊ =
      Nat.ofDigitChars 10 (whole ++ fraction.take places) 0 * 10 ^ (places - fraction.length) := by
  rcases Nat.le_total fraction.length places with room | tight
  · rw [List.take_of_length_le room, numberOf_mul_of_le whole room, Nat.floor_natCast]
  · -- The digits that are cut off are worth less than one unit of the last place.
    have filled : (fraction.take places).length = places := List.length_take_of_le tight
    have behind : Nat.ofDigitChars 10 (fraction.drop places) 0 <
        10 ^ (fraction.drop places).length :=
      ofDigitChars_lt fun c member => digits c (List.mem_of_mem_drop member)
    have split := numberOf_append_mul whole (fraction.take places) (fraction.drop places)
    rw [List.take_append_drop, filled] at split
    rw [split, Nat.floor_add_natCast (by positivity), Nat.floor_div_eq_div,
      Nat.div_eq_of_lt behind, Nat.zero_add, Nat.sub_eq_zero_of_le tight, pow_zero, Nat.mul_one]

theorem DigitsWithPoint.fraction (shape : DigitsWithPoint chars) :
    ∀ c ∈ fraction chars, c.isDigit = true := by
  induction chars with
  | nil => nofun
  | cons c rest ih =>
    by_cases point : c = '.'
    · subst point
      exact digitsWithPoint_point.mp shape
    · rw [fraction_cons point]
      exact ih ((digitsWithPoint_cons point).mp shape).2

/-- With at least one place, a text is read exactly when it is a decimal and the floor is in range. -/
theorem fixedPoint?_eq_some_iff {text : String} (left : places ≠ 0) :
    fixedPoint? text places = some n ↔
      IsDecimal text ∧ n = ⌊decimalValue text * 10 ^ places⌋₊ ∧ n ≤ maxInteger := by
  unfold fixedPoint? IsDecimal decimalValue
  generalize text.toList = chars
  split
  · exact iff_of_false nofun fun ⟨⟨nonempty, _⟩, _⟩ => nonempty rfl
  · rename_i nonempty
    rw [fixedPointFrom_whole (Nat.zero_le _) left, and_iff_right nonempty]
    refine and_congr_right fun shape => ?_
    rw [floor_numberOf_mul _ _ shape.fraction]

/-- Without places, every decimal is read as zero. -/
theorem fixedPoint?_zero_eq_some_iff {text : String} :
    fixedPoint? text 0 = some n ↔ IsDecimal text ∧ n = 0 := by
  unfold fixedPoint? IsDecimal
  generalize text.toList = chars
  split
  · exact iff_of_false nofun fun ⟨⟨nonempty, _⟩, _⟩ => nonempty rfl
  · rename_i nonempty
    rw [fixedPointFrom_zero (Nat.zero_le _), and_iff_right nonempty]

/-! ## Digits beyond the last place -/

section Written

variable {front back : List Char}

theorem digit_ne_point (digit : c.isDigit = true) : c ≠ '.' := by
  rintro rfl
  cases digit

theorem isDecimal_written :
    IsDecimal (String.ofList (front ++ '.' :: back)) ↔
      (∀ c ∈ front, c.isDigit = true) ∧ ∀ c ∈ back, c.isDigit = true := by
  rw [IsDecimal, String.toList_ofList, and_iff_right (by simp)]
  induction front with
  | nil => rw [List.nil_append, digitsWithPoint_point, and_iff_right nofun]
  | cons c rest ih =>
    rw [List.cons_append, List.forall_mem_cons, and_assoc]
    by_cases point : c = '.'
    · subst point
      rw [digitsWithPoint_point]
      refine iff_of_false (fun digits => ?_) fun ⟨digit, _⟩ => digit_ne_point digit rfl
      exact digit_ne_point (digits '.' (by simp)) rfl
    · rw [digitsWithPoint_cons point, ih]

theorem decimalValue_written (digits : ∀ c ∈ front, c.isDigit = true) :
    decimalValue (String.ofList (front ++ '.' :: back)) = numberOf front back := by
  have passes : ∀ c ∈ front, decide (c ≠ '.') = true := fun c member =>
    decide_eq_true (digit_ne_point (digits c member))
  rw [decimalValue, String.toList_ofList, whole, fraction,
    List.takeWhile_append_of_pos passes, List.dropWhile_append_of_pos passes]
  simp

/-- Digits beyond the last place are checked and make no other difference. -/
theorem fixedPoint?_take (front : List Char) (places : Nat)
    (digits : ∀ c ∈ back, c.isDigit = true) :
    fixedPoint? (String.ofList (front ++ '.' :: back)) places =
      fixedPoint? (String.ofList (front ++ '.' :: back.take places)) places := by
  have kept : ∀ c ∈ back.take places, c.isDigit = true := fun c member =>
    digits c (List.mem_of_mem_take member)
  have alike : IsDecimal (String.ofList (front ++ '.' :: back)) ↔
      IsDecimal (String.ofList (front ++ '.' :: back.take places)) := by
    rw [isDecimal_written, isDecimal_written, and_iff_left digits, and_iff_left kept]
  apply Option.ext
  intro n
  by_cases left : places = 0
  · rw [left] at alike ⊢
    rw [fixedPoint?_zero_eq_some_iff, fixedPoint?_zero_eq_some_iff, alike]
  · rw [fixedPoint?_eq_some_iff left, fixedPoint?_eq_some_iff left, alike]
    refine and_congr_right fun decimal => ?_
    have whole := (isDecimal_written.mp decimal).1
    have missing : places - (back.take places).length = places - back.length := by
      rw [List.length_take]
      omega
    rw [decimalValue_written whole, decimalValue_written whole, floor_numberOf_mul _ _ digits,
      floor_numberOf_mul _ _ kept, missing, List.take_take, Nat.min_self]

end Written

/-! ## The main statement -/

/-- **Reading a decimal is exact when there are places.** With at least one place, the texts that are
read are the decimals whose scaled number has a floor in range, and this floor is what they are read
as. Without places every decimal is read as zero, which is right only for those below one. In any case
digits beyond the last place have to be digits and make no other difference. -/
theorem reads_decimals_exactly (text : String) (places : Nat) :
    (places ≠ 0 → ∀ n, fixedPoint? text places = some n ↔
      IsDecimal text ∧ n = ⌊decimalValue text * 10 ^ places⌋₊ ∧ n ≤ maxInteger) ∧
    (∀ n, fixedPoint? text 0 = some n ↔ IsDecimal text ∧ n = 0) ∧
    (IsDecimal text →
      (fixedPoint? text 0 = some ⌊decimalValue text * 10 ^ 0⌋₊ ↔ decimalValue text < 1)) ∧
    ∀ front fraction : List Char, (∀ c ∈ fraction, c.isDigit = true) →
      fixedPoint? (String.ofList (front ++ '.' :: fraction)) places =
        fixedPoint? (String.ofList (front ++ '.' :: fraction.take places)) places := by
  refine ⟨fun left n => fixedPoint?_eq_some_iff left, fun n => fixedPoint?_zero_eq_some_iff,
    fun decimal => ?_, fun front fraction digits => fixedPoint?_take front places digits⟩
  rw [fixedPoint?_zero_eq_some_iff, and_iff_right decimal, pow_zero, mul_one, Nat.floor_eq_zero]

/-- A decimal with three digits behind the point is cut at two places. Without places those before the
point are lost as well. -/
theorem marathon_read :
    IsDecimal "42.195" ∧ decimalValue "42.195" = 42195 / 1000 ∧
      fixedPoint? "42.195" 2 = some 4219 ∧ fixedPoint? "42.195" 0 = some 0 ∧
      fixedPoint? "42.195" 0 ≠ some ⌊decimalValue "42.195" * 10 ^ 0⌋₊ := by
  have decimal : IsDecimal "42.195" := by decide +kernel
  have front : whole "42.195".toList = ['4', '2'] := by decide +kernel
  have back : fraction "42.195".toList = ['1', '9', '5'] := by decide +kernel
  have value : decimalValue "42.195" = 42195 / 1000 := by
    have tens : Nat.ofDigitChars 10 ['4', '2'] 0 = 42 := by decide
    have thousandths : Nat.ofDigitChars 10 ['1', '9', '5'] 0 = 195 := by decide
    rw [decimalValue, front, back, numberOf, tens, thousandths]
    norm_num
  obtain ⟨exactly, -⟩ := reads_decimals_exactly "42.195" 2
  obtain ⟨-, lost, wrong, -⟩ := reads_decimals_exactly "42.195" 0
  refine ⟨decimal, value, (exactly (by decide) 4219).mpr ⟨decimal, ?_, by decide⟩,
    (lost 0).mpr ⟨decimal, rfl⟩, fun right => ?_⟩
  · rw [value, eq_comm, Nat.floor_eq_iff (by norm_num)]
    norm_num
  · have small := (wrong decimal).mp right
    rw [value] at small
    norm_num at small

end MetricPipeline.Measurement
