import MetricPipeline.Number.Real64

/-!
JSON values as they are written: the fields of an object keep their order and their repetitions, and
whole numbers stay apart from the others.
-/

namespace MetricPipeline

/-- A number of a JSON text. -/
inductive Json.Number where
  /-- Digits alone, in the range of signed or unsigned 64-bit words. -/
  | whole (value : Int)
  /-- Any other number; a negative zero is one. -/
  | real (value : Real64)
  deriving DecidableEq, Repr, Inhabited

/-- A JSON value. -/
inductive Json where
  /-- The word null. -/
  | null
  /-- The words true and false. -/
  | bool (value : Bool)
  /-- A number. -/
  | number (value : Json.Number)
  /-- A string. -/
  | string (value : String)
  /-- An array. -/
  | array (items : List Json)
  /-- An object; a name may stand in it more than once. -/
  | object (fields : List (String × Json))
  /-- Well-formed text without a value: a number beyond every float, a string with half of a
  surrogate pair, or a nesting that is too deep. Only a reader that skips the value can accept it. -/
  | flawed
  deriving Repr, Inhabited

namespace Json

mutual

/-- Whether no part of the value is flawed. -/
def sound : Json → Bool
  | .flawed => false
  | .array items => soundItems items
  | .object fields => soundFields fields
  | _ => true

/-- Whether every item of an array is sound. -/
def soundItems : List Json → Bool
  | [] => true
  | item :: rest => item.sound && soundItems rest

/-- Whether every value of an object is sound. -/
def soundFields : List (String × Json) → Bool
  | [] => true
  | (_, value) :: rest => value.sound && soundFields rest

end

/-- The value a name has in a list of fields: the last one, when it stands there more than once. -/
def lookupLast (name : String) (fields : List (String × Json)) : Option Json :=
  fields.reverse.lookup name

end Json

end MetricPipeline
