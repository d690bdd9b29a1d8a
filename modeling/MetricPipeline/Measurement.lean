import MetricPipeline.Event
import MetricPipeline.Template

/-!
Reading the items of a value template as measurements.

Counts and identifiers are unsigned decimal integers below 2^63. Sizes are unsigned decimals with an
optional minus sign; they are read as fixed-point numbers with eight places, further places being
checked and dropped. An empty item is a zero measurement.
-/

namespace MetricPipeline

/-- Why a definition could not be turned into events. -/
inductive CompileError where
  /-- A template could not be resolved. -/
  | resolve (cause : ResolveError)
  /-- An item of a counter is no count. -/
  | invalidCounter (item : String)
  /-- An item of a value is no size. -/
  | invalidValue (item : String)
  /-- An item of a unique is no identifier. -/
  | invalidUnique (item : String)
  deriving DecidableEq, Repr

/-- The wording of a failure. -/
def CompileError.message : CompileError → String
  | .resolve cause => "failed to resolve template: " ++ cause.message
  | .invalidCounter item => "invalid counter value " ++ Text.quoted item
  | .invalidValue item => "invalid value " ++ Text.quoted item
  | .invalidUnique item => "invalid unique value " ++ Text.quoted item

namespace Measurement

/-- The largest integer a measurement can have. -/
def maxInteger : Nat := 0x7fffffffffffffff

/-- The value of an ASCII digit. -/
def digit? (c : Char) : Option Nat := if c.isDigit then some (c.toNat - '0'.toNat) else none

/-- A number with one more decimal digit at its end, while it stays in range. -/
def appendDigit? (value digit : Nat) : Option Nat :=
  if value * 10 + digit ≤ maxInteger then some (value * 10 + digit) else none

/-- The integer of the digits read so far and those still to come. -/
def integerFrom (value : Nat) : List Char → Option Nat
  | [] => some value
  | c :: rest => do
    let digit ← digit? c
    let next ← appendDigit? value digit
    integerFrom next rest

/-- An unsigned decimal integer; neither signs nor blanks are allowed. -/
def integer? (text : String) : Option Nat :=
  match text.toList with
  | [] => none
  | chars => integerFrom 0 chars

/-- A number times a power of ten, while it stays in range. Zero needs no steps. -/
def shift? (value : Nat) : Nat → Option Nat
  | 0 => some value
  | places + 1 =>
    if value = 0 then some 0
    else do
      let next ← appendDigit? value 0
      shift? next places

/-- The scaled number of the digits read so far and those still to come. The places are those still
to fill; they are used up only after the point. Once none is left, digits are only checked. -/
def fixedPointFrom (value places : Nat) (afterPoint : Bool) : List Char → Option Nat
  | [] => shift? value places
  | c :: rest =>
    if c = '.' then
      if afterPoint then none else fixedPointFrom value places true rest
    else do
      let digit ← digit? c
      if places = 0 then fixedPointFrom value 0 afterPoint rest
      else
        let next ← appendDigit? value digit
        fixedPointFrom next (if afterPoint then places - 1 else places) afterPoint rest

/-- An unsigned decimal as an integer scaled by a power of ten. -/
def fixedPoint? (text : String) (places : Nat) : Option Nat :=
  match text.toList with
  | [] => none
  | chars => fixedPointFrom 0 places false chars

/-- The decimal places a size carries. -/
def valuePlaces : Nat := 8

/-- A decimal with an optional minus sign as a floating-point number. -/
def size? (item : String) : Option Real64 :=
  match item.toList with
  | '-' :: rest =>
    (fixedPoint? (String.ofList rest) valuePlaces).map fun scaled =>
      (Real64.ofHundredMillionths scaled).neg
  | _ => (fixedPoint? item valuePlaces).map Real64.ofHundredMillionths

/-- The measurement an item stands for. -/
def read (kind : Kind) (item : String) : Except CompileError Sample :=
  if item = "" then .ok (.zero kind)
  else
    match kind with
    | .counter =>
      match integer? item with
      | some count => .ok (.counter (Real64.ofNat count))
      | none => .error (.invalidCounter item)
    | .value =>
      match size? item with
      | some size => .ok (.value size)
      | none => .error (.invalidValue item)
    | .unique =>
      match integer? item with
      | some id => .ok (.unique (Int64.ofNat id))
      | none => .error (.invalidUnique item)

end Measurement

end MetricPipeline
