import MetricPipeline.RingBuffer.Region

/-!
A ring: records of bytes in one region of fixed capacity, released in the order of their allocation.

The bytes of a record are allocated one after another from the end of the newest record on. When the
region ends there, allocation starts over at its beginning, as far as the oldest records have been
released. An allocation needs more room than it takes, so that a full ring is never mistaken for an
empty one. Records are numbered from zero in the order of their allocation.
-/

namespace MetricPipeline

/-- Some consecutive bytes of the region of a ring. -/
structure Extent where
  /-- Where they start. -/
  offset : Nat
  /-- How many there are. -/
  size : Nat
  deriving DecidableEq, Repr

/-- A live record. -/
structure Record (α : Type) where
  /-- Its bytes. -/
  extent : Extent
  /-- What is kept beside them. -/
  tag : α
  deriving DecidableEq, Repr

/-- Records in one region. -/
structure RingBuffer (α : Type) where
  /-- The size of the region. -/
  capacity : Nat
  /-- The bytes. -/
  region : Region
  /-- Where the newest record ends. -/
  head : Nat
  /-- Where the space after the newest record ends, once allocation has started over. -/
  tail : Nat
  /-- The live records, oldest first. -/
  records : List (Record α)
  /-- How many records have been released. -/
  released : Nat
  deriving DecidableEq, Repr

namespace RingBuffer

variable {α : Type}

/-- A ring without records. -/
def empty (capacity : Nat) : RingBuffer α :=
  { capacity, region := Region.zeros, head := 0, tail := 0, records := [], released := 0 }

/-- How many records are live. -/
def length (ring : RingBuffer α) : Nat := ring.records.length

/-- Where a record of a size can be placed: after the newest record, or at the beginning of the
region unless allocation has already started over. -/
def place? (ring : RingBuffer α) (size : Nat) : Option Nat :=
  if ring.tail ≤ ring.head then
    if size < ring.capacity - ring.head then some ring.head
    else if size < ring.tail then some 0
    else none
  else if size < ring.tail - ring.head then some ring.head
  else none

/-- Allocates a record and gives its number; none when there is no room. -/
def alloc? (ring : RingBuffer α) (size : Nat) (tag : α) : Option (Nat × RingBuffer α) :=
  (ring.place? size).map fun offset =>
    (ring.released + ring.length,
      { ring with
        head := offset + size
        records := ring.records ++ [{ extent := { offset, size }, tag }] })

/-- Releases the oldest record. -/
def pop? (ring : RingBuffer α) : Option (Record α × RingBuffer α) :=
  match ring.records with
  | [] => none
  | record :: rest =>
    let tail := (if record.extent.offset = 0 then 0 else ring.tail) + record.extent.size
    some (record,
      { ring with
        head := if rest = [] then 0 else ring.head
        tail := if rest = [] then 0 else tail
        records := rest
        released := ring.released + 1 })

/-- The number of the oldest record, and the record. -/
def front? (ring : RingBuffer α) : Option (Nat × Record α) :=
  ring.records.head?.map fun record => (ring.released, record)

/-- The live record of a number. -/
def record? (ring : RingBuffer α) (number : Nat) : Option (Record α) :=
  if number < ring.released then none else ring.records[number - ring.released]?

/-- The tag of a live record. -/
def tag? (ring : RingBuffer α) (number : Nat) : Option α := (ring.record? number).map (·.tag)

/-- The bytes of an extent. -/
def bytesOf (ring : RingBuffer α) (extent : Extent) : List UInt8 :=
  ring.region.read extent.offset extent.size

/-- The bytes of a live record. -/
def bytes? (ring : RingBuffer α) (number : Nat) : Option (List UInt8) :=
  (ring.record? number).map fun record => ring.bytesOf record.extent

/-- Writes bytes into a live record, from a position in it on; what does not fit is left out. -/
def write (ring : RingBuffer α) (number position : Nat) (bytes : List UInt8) : RingBuffer α :=
  match ring.record? number with
  | none => ring
  | some { extent, .. } =>
    { ring with
      region :=
        ring.region.write (extent.offset + position) (bytes.take (extent.size - position)) }

/-- Changes the tag of a live record. -/
def setTag (ring : RingBuffer α) (number : Nat) (tag : α) : RingBuffer α :=
  match ring.record? number with
  | none => ring
  | some record =>
    { ring with
      records := ring.records.set (number - ring.released) { record with tag } }

end RingBuffer

end MetricPipeline
