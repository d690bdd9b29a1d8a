import MetricPipeline.Proofs.FixedPoint

/-!
Which items are measurements, and of what.

What an item denotes is said without the readers. A count or an identifier is a row of digits, a size a
decimal that may follow one minus sign; the number has to be below 2^63, for a size as a count of
hundred millionths. Reading an item gives precisely what it denotes. An item that denotes nothing of
its kind is refused with the error of that kind, which holds the item as it came.
-/

namespace MetricPipeline.Measurement

/-! ## What items denote -/

/-- A text of digits only, at least one. -/
def IsNumeral (text : String) : Prop := text.toList ≠ [] ∧ ∀ c ∈ text.toList, c.isDigit = true

instance : DecidablePred IsNumeral := fun text =>
  decidable_of_iff (text.toList ≠ [] ∧ text.toList.all Char.isDigit = true)
    (by simp [IsNumeral])

/-- The number that a numeral spells. -/
def numeralValue (text : String) : Nat := Nat.ofDigitChars 10 text.toList 0

/-- How many whole hundred millionths the number of a decimal has. -/
def hundredMillionths (text : String) : Nat := ⌊decimalValue text * 10 ^ 8⌋₊

/-- What a nonempty item denotes as a measurement of a kind. -/
inductive Denotes : Kind → String → Sample → Prop where
  /-- A counter is given by a numeral in range. -/
  | counter {item : String} (digits : IsNumeral item) (small : numeralValue item < 2 ^ 63) :
    Denotes .counter item (.counter (Real64.ofNat (numeralValue item)))
  /-- A unique is given by a numeral that is the identifier itself. -/
  | unique {item : String} {id : Int64} (digits : IsNumeral item)
      (same : id.toInt = numeralValue item) :
    Denotes .unique item (.unique id)
  /-- A value is given by a decimal with its hundred millionths in range. -/
  | size {item : String} (decimal : IsDecimal item) (small : hundredMillionths item < 2 ^ 63) :
    Denotes .value item (.value (Real64.ofHundredMillionths (hundredMillionths item)))
  /-- One minus sign before such a decimal makes the value negative. -/
  | negative {size : String} (decimal : IsDecimal size) (small : hundredMillionths size < 2 ^ 63) :
    Denotes .value ("-" ++ size) (.value (Real64.ofHundredMillionths (hundredMillionths size)).neg)

/-- How an item is refused as a measurement of a kind. -/
def invalid : Kind → String → CompileError
  | .counter => .invalidCounter
  | .value => .invalidValue
  | .unique => .invalidUnique

/-! ## Counts and identifiers -/

variable {value n : Nat} {chars : List Char} {item : String}

theorem le_maxInteger : n ≤ maxInteger ↔ n < 2 ^ 63 := Nat.lt_succ_iff.symm

/-- Digits are appended as long as the number is in range, so the last number decides. -/
theorem integerFrom_eq_some_iff (small : value ≤ maxInteger) :
    integerFrom value chars = some n ↔
      (∀ c ∈ chars, c.isDigit = true) ∧ n = Nat.ofDigitChars 10 chars value ∧ n ≤ maxInteger := by
  induction chars generalizing value with
  | nil =>
    rw [integerFrom, Option.some.injEq, Nat.ofDigitChars_nil, and_iff_right nofun]
    exact ⟨fun same => ⟨same.symm, same ▸ small⟩, fun ⟨same, _⟩ => same.symm⟩
  | cons c rest ih =>
    rw [List.forall_mem_cons, and_assoc, ofDigitChars_cons_eq]
    refine appendDigit_eq_some.trans (and_congr_right fun _ => ?_)
    exact inRange_and_iff (le_ofDigitChars _ rest) ih

/-- The texts read as integers are the numerals in range. -/
theorem integer?_eq_some_iff :
    integer? item = some n ↔ IsNumeral item ∧ n = numeralValue item ∧ n < 2 ^ 63 := by
  unfold integer? IsNumeral numeralValue
  rw [← le_maxInteger]
  generalize item.toList = chars
  split
  · exact iff_of_false nofun fun ⟨⟨nonempty, _⟩, _⟩ => nonempty rfl
  · rename_i nonempty
    rw [integerFrom_eq_some_iff (Nat.zero_le _), and_iff_right nonempty]

/-! ## Sizes -/

/-- A text read with the places of a size. -/
theorem fixedPoint?_valuePlaces :
    fixedPoint? item valuePlaces = some n ↔
      IsDecimal item ∧ n = hundredMillionths item ∧ n < 2 ^ 63 := by
  rw [fixedPoint?_eq_some_iff (by decide), le_maxInteger]
  rfl

/-- No decimal begins with a minus sign. -/
theorem not_isDecimal_minus (size : String) : ¬ IsDecimal ("-" ++ size) := by
  rintro ⟨-, digits, -⟩
  have minus : '-' ∈ ("-" ++ size).toList := by
    rw [String.toList_append]
    exact List.mem_append_left _ (List.mem_singleton_self _)
  rcases digits '-' minus with digit | point
  · cases digit
  · cases point

theorem size?_minus (size : String) :
    size? ("-" ++ size) =
      (fixedPoint? size valuePlaces).map fun scaled => (Real64.ofHundredMillionths scaled).neg := by
  have shape : ("-" ++ size).toList = '-' :: size.toList := String.toList_append
  rw [size?, shape]
  simp only [String.ofList_toList]

theorem size?_unsigned (unsigned : ∀ size, item ≠ "-" ++ size) :
    size? item = (fixedPoint? item valuePlaces).map Real64.ofHundredMillionths := by
  unfold size?
  split
  · rename_i rest shape
    refine absurd ?_ (unsigned (String.ofList rest))
    rw [← String.toList_inj, shape, String.toList_append, @String.toList_ofList rest]
    rfl
  · rfl

/-! ## The main statement -/

/-- What the readers make of a nonempty item. -/
def sample? : Kind → String → Option Sample
  | .counter, item => (integer? item).map fun count => .counter (Real64.ofNat count)
  | .value, item => (size? item).map .value
  | .unique, item => (integer? item).map fun id => .unique (Int64.ofNat id)

theorem read_eq (kind : Kind) (nonempty : item ≠ "") :
    read kind item = (sample? kind item).elim (.error (invalid kind item)) .ok := by
  cases kind with
  | counter =>
    rw [read, if_neg nonempty, sample?]
    cases integer? item <;> rfl
  | value =>
    rw [read, if_neg nonempty, sample?]
    cases size? item <;> rfl
  | unique =>
    rw [read, if_neg nonempty, sample?]
    cases integer? item <;> rfl

theorem sample?_counter_iff {sample : Sample} :
    sample? .counter item = some sample ↔ Denotes .counter item sample := by
  rw [sample?, Option.map_eq_some_iff]
  constructor
  · rintro ⟨count, found, rfl⟩
    obtain ⟨digits, rfl, small⟩ := integer?_eq_some_iff.mp found
    exact .counter digits small
  · intro denoted
    cases denoted with
    | counter digits small => exact ⟨_, integer?_eq_some_iff.mpr ⟨digits, rfl, small⟩, rfl⟩

theorem sample?_unique_iff {sample : Sample} :
    sample? .unique item = some sample ↔ Denotes .unique item sample := by
  rw [sample?, Option.map_eq_some_iff]
  constructor
  · rintro ⟨id, found, rfl⟩
    obtain ⟨digits, rfl, small⟩ := integer?_eq_some_iff.mp found
    exact .unique digits (Int64.toInt_ofNat_of_lt small)
  · intro denoted
    cases denoted with
    | @unique _ id digits same =>
      -- An identifier has only 63 bits beside its sign, so the numeral is in range.
      have small : numeralValue item < 2 ^ 63 := Int.ofNat_lt.mp (same ▸ id.toInt_lt)
      refine ⟨_, integer?_eq_some_iff.mpr ⟨digits, rfl, small⟩, ?_⟩
      rw [Sample.unique.injEq, ← Int64.toInt_inj, Int64.toInt_ofNat_of_lt small, same]

theorem sample?_value_iff {sample : Sample} :
    sample? .value item = some sample ↔ Denotes .value item sample := by
  by_cases signed : ∃ size, item = "-" ++ size
  · obtain ⟨size, rfl⟩ := signed
    rw [sample?, size?_minus, Option.map_map, Option.map_eq_some_iff]
    constructor
    · rintro ⟨scaled, found, rfl⟩
      obtain ⟨decimal, rfl, small⟩ := fixedPoint?_valuePlaces.mp found
      exact .negative decimal small
    · generalize signed : "-" ++ size = item
      intro denoted
      cases denoted with
      | size decimal small => exact absurd (signed ▸ decimal) (not_isDecimal_minus size)
      | negative decimal small =>
        -- Only one minus sign is taken off, so the rest is the same decimal.
        obtain rfl := (String.append_right_inj "-").mp signed
        exact ⟨_, fixedPoint?_valuePlaces.mpr ⟨decimal, rfl, small⟩, rfl⟩
  · have unsigned : ∀ size, item ≠ "-" ++ size := fun size same => signed ⟨size, same⟩
    rw [sample?, size?_unsigned unsigned, Option.map_map, Option.map_eq_some_iff]
    constructor
    · rintro ⟨scaled, found, rfl⟩
      obtain ⟨decimal, rfl, small⟩ := fixedPoint?_valuePlaces.mp found
      exact .size decimal small
    · intro denoted
      cases denoted with
      | size decimal small =>
        exact ⟨_, fixedPoint?_valuePlaces.mpr ⟨decimal, rfl, small⟩, rfl⟩
      | negative => exact absurd rfl (unsigned _)

theorem sample?_eq_some_iff (kind : Kind) {sample : Sample} :
    sample? kind item = some sample ↔ Denotes kind item sample := by
  cases kind with
  | counter => exact sample?_counter_iff
  | value => exact sample?_value_iff
  | unique => exact sample?_unique_iff

/-- **Exactly the numbers of a kind are read.** A nonempty item is read as what it denotes as a
measurement of the kind, whatever it denotes. Otherwise it is refused as invalid for the kind, with the
item unchanged in the error; there is no other failure. -/
theorem read_exactly_denoted (kind : Kind) (item : String) (nonempty : item ≠ "") :
    (∀ sample, read kind item = .ok sample ↔ Denotes kind item sample) ∧
    ∀ error, read kind item = .error error ↔
      error = invalid kind item ∧ ∀ sample, ¬ Denotes kind item sample := by
  simp only [read_eq kind nonempty, ← sample?_eq_some_iff kind]
  cases sample? kind item with
  | none => simp [eq_comm]
  | some sample => simp

/-- Leading zeros count for nothing, a sign stays apart from the digits and turns the first bit around,
and the first number that is out of range is no identifier. -/
theorem edge_items_read :
    read .counter "007" = .ok (.counter ⟨0x401C000000000000⟩) ∧
    read .value "0042.5" = .ok (.value ⟨0x4045400000000000⟩) ∧
    read .value "-0042.5" = .ok (.value ⟨0xC045400000000000⟩) ∧
    read .unique "9223372036854775807" = .ok (.unique Int64.maxValue) ∧
    read .unique "9223372036854775808" = .error (.invalidUnique "9223372036854775808") := by
  have decimal : IsDecimal "0042.5" := by decide +kernel
  have scaled : hundredMillionths "0042.5" = 4250000000 := by
    have front : whole "0042.5".toList = ['0', '0', '4', '2'] := by decide +kernel
    have back : fraction "0042.5".toList = ['5'] := by decide +kernel
    have digits : ∀ c ∈ ['5'], c.isDigit = true := List.forall_mem_singleton.mpr rfl
    rw [hundredMillionths, decimalValue, front, back, floor_numberOf_mul _ _ digits]
    decide
  have size : Real64.ofHundredMillionths 4250000000 = ⟨0x4045400000000000⟩ := by decide +kernel
  have unsigned := Denotes.size decimal (by rw [scaled]; decide)
  have signed := Denotes.negative decimal (by rw [scaled]; decide)
  rw [scaled, size] at unsigned signed
  have seven : Real64.ofNat (numeralValue "007") = ⟨0x401C000000000000⟩ := by decide +kernel
  have count : Denotes .counter "007" (.counter (Real64.ofNat (numeralValue "007"))) :=
    .counter (by decide +kernel) (by decide +kernel)
  rw [seven] at count
  have last : Denotes .unique "9223372036854775807" (.unique Int64.maxValue) :=
    .unique (by decide +kernel) (by decide +kernel)
  refine ⟨((read_exactly_denoted .counter "007" (by decide)).1 _).mpr count,
    ((read_exactly_denoted .value "0042.5" (by decide)).1 _).mpr unsigned,
    ((read_exactly_denoted .value "-0042.5" (by decide)).1 _).mpr signed,
    ((read_exactly_denoted .unique "9223372036854775807" (by decide)).1 _).mpr last,
    ((read_exactly_denoted .unique "9223372036854775808" (by decide)).2 _).mpr ⟨rfl, ?_⟩⟩
  intro sample denoted
  cases denoted with
  | @unique _ id digits same =>
    have value : numeralValue "9223372036854775808" = 2 ^ 63 := by decide +kernel
    have bound := id.toInt_lt
    rw [same, value] at bound
    exact absurd bound (by decide)

end MetricPipeline.Measurement
