import MetricPipeline.Event

/-!
The binary batch format of the collector: writing.

All words are little-endian and every field fills a multiple of four bytes. A string of up to 253
bytes has one byte of length in front of it, a longer one a marker and three bytes; strings longer
than three bytes of length can say are cut. `stringSize`, `eventSize` and `batchSize` say how long
the written form will be without writing it.
-/

namespace MetricPipeline.Wire

/-- The word that starts every batch. -/
def batchTag : UInt32 := 0x56580239

/-- The longest string with one byte of length. -/
def maxShortString : Nat := 253

/-- The byte that starts a string with three bytes of length. -/
def longStringMarker : UInt8 := 0xfe

/-- The longest string that can be written whole. -/
def maxString : Nat := 0xffffff

/-- The bytes of a batch before its events. -/
def batchHeaderSize : Nat := 12

/-- The lowest bytes of a number, the lowest one first. -/
def littleEndian : Nat → Nat → List UInt8
  | 0, _ => []
  | count + 1, number => UInt8.ofNat number :: littleEndian count (number / 256)

/-- A word of thirty-two bits. -/
def word32 (word : UInt32) : List UInt8 := littleEndian 4 word.toNat

/-- A count, as a word of thirty-two bits. -/
def count32 (count : Nat) : List UInt8 := word32 (UInt32.ofNat count)

/-- A word of sixty-four bits. -/
def word64 (word : UInt64) : List UInt8 := littleEndian 8 word.toNat

/-- The bytes of a text, no more than can be written. -/
def clampedBytes (text : String) : List UInt8 := (text.toUTF8.extract 0 maxString).data.toList

/-- The number of bytes of a text that are written. -/
def clampedSize (text : String) : Nat := min text.utf8ByteSize maxString

/-- The zero bytes that follow a string of a given length, so that with its one byte of length, or
after its four, it fills a multiple of four. -/
def stringPadding (length : Nat) : Nat :=
  let framed := if length ≤ maxShortString then length + 1 else length
  (4 - framed % 4) % 4

/-- The length in front of a string. -/
def stringHeader (length : Nat) : List UInt8 :=
  if length ≤ maxShortString then [UInt8.ofNat length]
  else longStringMarker :: littleEndian 3 length

/-- The written form of a string. -/
def stringBytes (text : String) : List UInt8 :=
  let length := clampedSize text
  stringHeader length ++ (clampedBytes text ++ List.replicate (stringPadding length) 0)

/-- The length of the written form of a string. -/
def stringSize (text : String) : Nat :=
  let length := clampedSize text
  let header := if length ≤ maxShortString then 1 else 4
  header + length + stringPadding length

/-- Writes a string at the end of a buffer. -/
def writeString (buffer : List UInt8) (text : String) : List UInt8 := buffer ++ stringBytes text

/-- The written form of a dimension. -/
def dimensionBytes (dimension : Dimension) : List UInt8 :=
  stringBytes dimension.key ++ stringBytes dimension.value

/-- The written form of measurements. Sizes are counted. What stands before identifiers is no count:
the collector takes it as a sign that they are there, and it is always one. -/
def samplesBytes : Samples → List UInt8
  | .counter sum => word64 sum.bits
  | .value sizes => count32 sizes.length ++ sizes.flatMap fun size => word64 size.bits
  | .unique ids => count32 1 ++ ids.flatMap fun id => word64 id.toUInt64

/-- The length of the written form of measurements. -/
def samplesSize : Samples → Nat
  | .counter _ => 8
  | .value sizes => 4 + 8 * sizes.length
  | .unique ids => 4 + 8 * ids.length

/-- The written form of an event. -/
def eventBytes (event : Event) : List UInt8 :=
  word32 event.kind.mask ++ stringBytes event.name ++ count32 event.dimensions.length ++
    event.dimensions.flatMap dimensionBytes ++ samplesBytes event.samples

/-- The length of the written form of dimensions. -/
def dimensionsSize : List Dimension → Nat
  | [] => 0
  | dimension :: rest =>
    stringSize dimension.key + stringSize dimension.value + dimensionsSize rest

/-- The length of the written form of an event. -/
def eventSize (event : Event) : Nat :=
  4 + stringSize event.name + 4 + dimensionsSize event.dimensions + samplesSize event.samples

/-- Writes an event at the end of a buffer. -/
def writeEvent (buffer : List UInt8) (event : Event) : List UInt8 := buffer ++ eventBytes event

/-- The written form of a batch: the tag, a word of flags, the number of events, the events. -/
def batchBytes (events : List Event) : List UInt8 :=
  word32 batchTag ++ word32 0 ++ count32 events.length ++ events.flatMap eventBytes

/-- The length of the written form of events. -/
def eventsSize : List Event → Nat
  | [] => 0
  | event :: rest => eventSize event + eventsSize rest

/-- The length of the written form of a batch. -/
def batchSize (events : List Event) : Nat := batchHeaderSize + eventsSize events

/-- Writes a batch at the end of a buffer. -/
def writeBatch (buffer : List UInt8) (events : List Event) : List UInt8 :=
  buffer ++ batchBytes events

/-- The record of an event: a batch of its own. -/
def recordBytes (event : Event) : List UInt8 := batchBytes [event]

/-- The length of a record. -/
def recordSize (event : Event) : Nat := batchHeaderSize + eventSize event

/-- Writes a record at the end of a buffer. -/
def writeRecord (buffer : List UInt8) (event : Event) : List UInt8 := writeBatch buffer [event]

end MetricPipeline.Wire
