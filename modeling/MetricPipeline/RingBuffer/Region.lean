/-!
A region of bytes that starts out as zeros.

A byte that was never written is a zero, so only the bytes up to the last one written are kept. What
a write does is said through `byte`: it changes the bytes it covers and no other.
-/

namespace MetricPipeline

/-- Bytes that start out as zeros. -/
structure Region where
  /-- The bytes up to the last one written. -/
  written : Array UInt8
  deriving DecidableEq, Repr

namespace Region

/-- A region without a written byte. -/
def zeros : Region := { written := #[] }

/-- The byte at a position. -/
def byte (region : Region) (position : Nat) : UInt8 := region.written.getD position 0

/-- The bytes from a position on. -/
def read (region : Region) (position size : Nat) : List UInt8 :=
  (List.range size).map fun index => region.byte (position + index)

/-- Writes one byte. -/
def put (region : Region) (position : Nat) (byte : UInt8) : Region :=
  if position < region.written.size then { written := region.written.setIfInBounds position byte }
  else
    { written :=
        (region.written ++ Array.replicate (position - region.written.size) 0).push byte }

/-- Writes bytes from a position on. -/
def write (region : Region) (position : Nat) : List UInt8 → Region
  | [] => region
  | byte :: bytes => (region.put position byte).write (position + 1) bytes

theorem byte_put (region : Region) (position : Nat) (byte : UInt8) (index : Nat) :
    (region.put position byte).byte index = if index = position then byte else region.byte index := by
  unfold put Region.byte
  split
  · by_cases same : index = position
    · subst same
      simp_all [Array.getD_eq_getD_getElem?]
    · simp [Array.getD_eq_getD_getElem?, same, Ne.symm same]
  · rename_i beyond
    simp only [Array.getD_eq_getD_getElem?, Array.getElem?_push, Array.size_append,
      Array.size_replicate, Array.getElem?_append, Array.getElem?_replicate]
    grind

/-- A write changes the bytes it covers and no other. -/
theorem byte_write (region : Region) (position : Nat) (bytes : List UInt8) (index : Nat) :
    (region.write position bytes).byte index =
      if position ≤ index then (bytes[index - position]?).getD (region.byte index)
      else region.byte index := by
  induction bytes generalizing region position with
  | nil => simp [write]
  | cons byte bytes ih =>
    rw [write, ih, byte_put]
    grind

/-- What was written can be read back. -/
theorem read_write (region : Region) (position : Nat) (bytes : List UInt8) :
    (region.write position bytes).read position bytes.length = bytes := by
  apply List.ext_getElem?
  intro index
  unfold read
  by_cases inside : index < bytes.length
  · simp [byte_write, inside]
  · simp [inside]

end Region

end MetricPipeline
