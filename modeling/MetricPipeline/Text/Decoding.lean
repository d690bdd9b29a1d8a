/-!
The text of bytes, also when some of them are not UTF-8.

A character that is encoded is read as it is. Where none is, the longest front that could still have
become one is replaced by a single replacement character, or one byte if there is no such front.
-/

namespace MetricPipeline.Text

/-- The character in place of bytes that encode none. -/
def replacement : Char := '\uFFFD'

/-- Whether a byte can only continue a character. -/
def isContinuation (byte : UInt8) : Bool := 0x80 ≤ byte && byte ≤ 0xBF

/-- Whether two bytes begin characters of three or four bytes. Some first bytes leave only a part of the
continuations: the others would spell a shorter character, half of a pair or no code point. -/
def beginsLong (first second : UInt8) : Bool :=
  if first = 0xE0 then 0xA0 ≤ second && second ≤ 0xBF
  else if first = 0xED then 0x80 ≤ second && second ≤ 0x9F
  else if first = 0xF0 then 0x90 ≤ second && second ≤ 0xBF
  else if first = 0xF4 then 0x80 ≤ second && second ≤ 0x8F
  else 0xE0 < first && first < 0xF4 && isContinuation second

/-- How many bytes are replaced at once where no character is encoded. -/
def brokenSize : List UInt8 → Nat
  | first :: second :: rest =>
    if ¬ beginsLong first second then 1
    else
      match rest with
      | third :: _ => if 0xF0 ≤ first && isContinuation third then 3 else 2
      | [] => 2
  | _ => 1

/-- The character encoded at the front of bytes. -/
def firstChar? (bytes : List UInt8) : Option Char := (bytes.take 4).toByteArray.utf8DecodeChar? 0

/-- The characters of bytes behind so many that belong to the one before. -/
def decode : Nat → List UInt8 → List Char
  | _, [] => []
  | skipped + 1, _ :: rest => decode skipped rest
  | 0, byte :: rest =>
    match firstChar? (byte :: rest) with
    | some c => c :: decode (c.utf8Size - 1) rest
    | none => replacement :: decode (brokenSize (byte :: rest) - 1) rest

/-- The text of bytes. -/
def decoded (bytes : List UInt8) : String := String.ofList (decode 0 bytes)

end MetricPipeline.Text
