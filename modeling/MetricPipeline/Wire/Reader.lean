import MetricPipeline.Wire.Writer

/-!
The binary batch format of the collector: reading.

A datagram is a run of batches. The reader goes through its bytes once, from front to back, and stops
at the first fault: bytes that are missing, a batch without its tag, a field mask that announces no
kind, or a string that is not UTF-8.
-/

namespace MetricPipeline.Wire

/-- Why bytes are no run of batches. -/
inductive DecodeError where
  /-- Bytes are missing at an offset. -/
  | truncated (offset : Nat)
  /-- A batch starts with another word. -/
  | badTag (tag : UInt32)
  /-- A field mask announces no kind. -/
  | badFieldMask (mask : UInt32)
  /-- The string at an offset is not UTF-8. -/
  | notUtf8 (offset : Nat)
  deriving DecidableEq, Repr

/-- A number in lower-case hexadecimal after "0x", with zeros in front up to a number of digits. -/
def hexadecimal (minDigits number : Nat) : String :=
  let digits := Nat.toDigits 16 number
  "0x" ++ String.ofList (List.replicate (minDigits - digits.length) '0' ++ digits)

/-- The wording of a fault. -/
def DecodeError.message : DecodeError → String
  | .truncated offset => "unexpected end of batch at offset " ++ toString offset
  | .badTag tag => "unexpected batch tag " ++ hexadecimal 8 tag.toNat
  | .badFieldMask mask => "unsupported metric field mask " ++ hexadecimal 0 mask.toNat
  | .notUtf8 offset => "string at offset " ++ toString offset ++ " is not valid utf-8"

/-- What is left to read. -/
structure Cursor where
  /-- The bytes still to come. -/
  rest : List UInt8
  /-- How many bytes came before them. -/
  offset : Nat
  deriving DecidableEq, Repr

/-- A reader of some value: it gives the value and moves the cursor on, or fails. -/
abbrev Reader (α : Type) := StateT Cursor (Except DecodeError) α

/-- The first bytes of a list, so many of them, and the bytes after them. -/
def splitBytes? : Nat → List UInt8 → Option (List UInt8 × List UInt8)
  | 0, bytes => some ([], bytes)
  | _ + 1, [] => none
  | count + 1, byte :: bytes =>
    (splitBytes? count bytes).map fun (front, back) => (byte :: front, back)

/-- Reads a number of bytes. -/
def takeBytes (count : Nat) : Reader (List UInt8) := fun cursor =>
  match splitBytes? count cursor.rest with
  | some (bytes, rest) => .ok (bytes, { rest, offset := cursor.offset + count })
  | none => .error (.truncated cursor.offset)

/-- The number whose lowest byte comes first. -/
def ofLittleEndian : List UInt8 → Nat
  | [] => 0
  | byte :: bytes => byte.toNat + 256 * ofLittleEndian bytes

/-- Reads a word of thirty-two bits. -/
def readWord32 : Reader UInt32 := do
  let bytes ← takeBytes 4
  return UInt32.ofNat (ofLittleEndian bytes)

/-- Reads a word of sixty-four bits. -/
def readWord64 : Reader UInt64 := do
  let bytes ← takeBytes 8
  return UInt64.ofNat (ofLittleEndian bytes)

/-- Reads the length in front of a string. -/
def readStringLength : Reader Nat := do
  let first ← takeBytes 1
  if first = [longStringMarker] then
    let length ← takeBytes 3
    return ofLittleEndian length
  else return ofLittleEndian first

/-- Reads a string and its padding. -/
def readString : Reader String := do
  let start := (← get).offset
  let length ← readStringLength
  let bytes ← takeBytes length
  let _ ← takeBytes (stringPadding length)
  match String.fromUTF8? ⟨bytes.toArray⟩ with
  | some text => return text
  | none => throw (.notUtf8 start)

/-- Reads several values, one after another. -/
def readMany {α : Type} (reader : Reader α) : Nat → Reader (List α)
  | 0 => return []
  | count + 1 => do
    let first ← reader
    let others ← readMany reader count
    return first :: others

/-- Reads a dimension. -/
def readDimension : Reader Dimension := do
  let key ← readString
  let value ← readString
  return { key, value }

/-- Reads the measurements of a kind. -/
def readSamples : Kind → Reader Samples
  | .counter => do
    let sum ← readWord64
    return .counter ⟨sum⟩
  | .value => do
    let count ← readWord32
    let sizes ← readMany readWord64 count.toNat
    return .value (sizes.map fun word => ⟨word⟩)
  | .unique => do
    let count ← readWord32
    let ids ← readMany readWord64 count.toNat
    return .unique (ids.map (·.toInt64))

/-- Reads an event. -/
def readEvent : Reader Event := do
  let mask ← readWord32
  match Kind.ofMask? mask with
  | none => throw (.badFieldMask mask)
  | some kind =>
    let name ← readString
    let count ← readWord32
    let dimensions ← readMany readDimension count.toNat
    let samples ← readSamples kind
    return { name, samples, dimensions }

/-- Reads the events of a batch after its tag. -/
def readBatchBody : Reader (List Event) := do
  let _ ← readWord32
  let count ← readWord32
  readMany readEvent count.toNat

/-- Reads a batch. -/
def readBatch : Reader (List Event) := do
  let tag ← readWord32
  if tag ≠ batchTag then throw (.badTag tag) else readBatchBody

end MetricPipeline.Wire
