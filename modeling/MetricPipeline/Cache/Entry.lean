import MetricPipeline.Config
import MetricPipeline.Digest
import MetricPipeline.Text.Decoding
import MetricPipeline.Wire.Reader

/-!
Entries of the aggregation cache: how events that are merged are kept as bytes.

The samples come first, in a fixed area with room for as many as an entry may hold; the values of the
dimensions follow, one after another. Beside the bytes an entry keeps the name, the keys, and how
long each value is.
-/

namespace MetricPipeline

/-- The bytes of an event that tell it apart from others: its name, its keys and its values. -/
def Event.digest (event : Event) : UInt64 :=
  event.dimensions.foldl
    (fun digest dimension =>
      Digest.extendText (Digest.extendText digest dimension.key) dimension.value)
    (Digest.extendText Digest.start event.name)

/-- The values of the dimensions, one after another. -/
def Event.valueBytes (event : Event) : List UInt8 :=
  event.dimensions.flatMap fun dimension => dimension.value.toUTF8.data.toList

/-- How many bytes the values of dimensions take. -/
def valuesSize : List Dimension → Nat
  | [] => 0
  | dimension :: rest => dimension.value.utf8ByteSize + valuesSize rest

/-- How many bytes the values of the dimensions of an event take. -/
def Event.valueSize (event : Event) : Nat := valuesSize event.dimensions

namespace Cache

/-- The bytes charged to every entry; they include room for one sample. -/
def entryOverhead : Nat := 64

/-- What an entry is found by. Different events may share a key. -/
structure Key where
  /-- The digest of the event. -/
  digest : UInt64
  /-- The size of the entry in bytes. -/
  size : Nat
  /-- What is measured. -/
  kind : Kind
  deriving DecidableEq, Repr

/-- A dimension whose value is kept in the bytes of the entry. -/
structure StoredDimension where
  /-- The key. -/
  key : String
  /-- The length of the value in bytes. -/
  size : Nat
  deriving DecidableEq, Repr

/-- Events that are merged. -/
structure Entry where
  /-- What the entry is found by. -/
  key : Key
  /-- The name of the events. -/
  name : String
  /-- Their dimensions. -/
  dimensions : List StoredDimension
  /-- When the first event came. -/
  inserted : Nat
  /-- How many samples the entry holds. -/
  samples : Nat
  /-- Whether the entry can be found by its key. -/
  isIndexed : Bool
  deriving DecidableEq, Repr

/-- How a dimension is stored; lengths are kept in thirty-two bits. -/
def StoredDimension.ofDimension (dimension : Dimension) : StoredDimension :=
  { key := dimension.key, size := dimension.value.utf8ByteSize % UInt32.size }

/-- The word of sixty-four bits at the front of some bytes. -/
def firstWord (bytes : List UInt8) : UInt64 :=
  UInt64.ofNat (Wire.ofLittleEndian (bytes.take sampleSize))

/-- A number of words at the front of some bytes. -/
def readWords : Nat → List UInt8 → List UInt64
  | 0, _ => []
  | count + 1, bytes => firstWord bytes :: readWords count (bytes.drop sampleSize)

/-- Dimensions whose values stand one after another. A value whose length was cut may end inside a
character. -/
def readDimensions : List StoredDimension → List UInt8 → List Dimension
  | [], _ => []
  | stored :: rest, bytes =>
    { key := stored.key, value := Text.decoded (bytes.take stored.size) } ::
      readDimensions rest (bytes.drop stored.size)

/-- Whether dimensions have the keys and the values that are stored one after another. The bytes of the
values are compared. -/
def dimensionsMatch : List StoredDimension → List UInt8 → List Dimension → Bool
  | stored :: rest, bytes, dimension :: others =>
    decide (stored.key = dimension.key) &&
      (decide (bytes.take stored.size = dimension.value.toUTF8.data.toList) &&
        dimensionsMatch rest (bytes.drop stored.size) others)
  | _, _, _ => true

namespace Entry

/-- A new entry for an event. -/
def ofEvent (key : Key) (event : Event) (now : Nat) : Entry :=
  { key
    name := event.name
    dimensions := (event.dimensions.take maxDimensions).map .ofDimension
    inserted := now
    samples := 1
    isIndexed := true }

/-- The samples an entry holds. -/
def samplesIn (entry : Entry) (bytes : List UInt8) : Samples :=
  match entry.key.kind with
  | .counter => .counter ⟨firstWord bytes⟩
  | .value => .value ((readWords entry.samples bytes).map fun word => ⟨word⟩)
  | .unique => .unique ((readWords entry.samples bytes).map (·.toInt64))

/-- The dimensions of an entry whose samples' area has room for so many samples. -/
def dimensionsIn (entry : Entry) (room : Nat) (bytes : List UInt8) : List Dimension :=
  readDimensions entry.dimensions (bytes.drop (room * sampleSize))

/-- The event of all that an entry holds. -/
def event (entry : Entry) (room : Nat) (bytes : List UInt8) : Event :=
  { name := entry.name
    samples := entry.samplesIn bytes
    dimensions := entry.dimensionsIn room bytes }

/-- Whether an entry whose samples' area has room for so many samples has the name and the dimensions of
an event. -/
def hasShape (entry : Entry) (room : Nat) (bytes : List UInt8) (event : Event) : Bool :=
  entry.name = event.name && entry.dimensions.length = event.dimensions.length &&
    dimensionsMatch entry.dimensions (bytes.drop (room * sampleSize)) event.dimensions

/-- Whether the window of an entry has passed. An entry from the future has no age. -/
def isExpired (entry : Entry) (window now : Nat) : Bool := window ≤ now - entry.inserted

end Entry

end Cache

end MetricPipeline
