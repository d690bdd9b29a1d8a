import MetricPipeline.Proofs.RingLayout

/-!
A ring as a queue of independent byte arrays.

Since live records do not overlap, a ring can be seen as a list of cells, a tag and some bytes each:
an allocation adds a cell at the end, a release takes one from the front, and a write changes the
bytes of one cell. Whatever is built on a ring looks at its cells alone.
-/

namespace MetricPipeline

/-! ## Writing into bytes -/

/-- Bytes with others written over them from a position on; what goes beyond the end is left out. -/
def overlay (old : List UInt8) (position : Nat) (bytes : List UInt8) : List UInt8 :=
  old.take position ++ bytes.take (old.length - position) ++ old.drop (position + bytes.length)

@[simp] theorem overlay_length (old : List UInt8) (position : Nat) (bytes : List UInt8) :
    (overlay old position bytes).length = old.length := by
  simp only [overlay, List.length_append, List.length_take, List.length_drop]
  omega

theorem overlay_getElem? (old : List UInt8) (position : Nat) (bytes : List UInt8) (index : Nat)
    (inside : index < old.length) :
    (overlay old position bytes)[index]? =
      if position ≤ index then bytes[index - position]?.or old[index]? else old[index]? := by
  simp only [overlay, List.append_assoc, List.getElem?_append, List.getElem?_take,
    List.length_take, List.getElem?_drop]
  grind

/-- Bytes written over as many others replace them. -/
theorem overlay_middle (front middle back : List UInt8) {bytes : List UInt8}
    (same : bytes.length = middle.length) :
    overlay (front ++ (middle ++ back)) front.length bytes = front ++ (bytes ++ back) := by
  have behind : front.length + bytes.length - (front ++ middle).length = 0 := by
    rw [List.length_append, same, Nat.sub_self]
  have whole : bytes.take ((front ++ (middle ++ back)).length - front.length) = bytes := by
    apply List.take_of_length_le
    rw [List.length_append, List.length_append]
    omega
  rw [overlay, whole, List.take_left' rfl, ← List.append_assoc front middle,
    List.drop_append_of_le_length (by rw [List.length_append]; omega),
    List.drop_of_length_le (by rw [List.length_append]; omega), List.nil_append, List.append_assoc]

theorem Region.read_length (region : Region) (position size : Nat) :
    (region.read position size).length = size := by
  rw [read, List.length_map, List.length_range]

/-- A write inside an extent is a write into its bytes. -/
theorem Region.read_write_inside (region : Region) (extent : Extent) (position : Nat)
    (bytes : List UInt8) :
    (region.write (extent.offset + position) (bytes.take (extent.size - position))).read
        extent.offset extent.size =
      overlay (region.read extent.offset extent.size) position bytes := by
  apply List.ext_getElem?
  intro index
  by_cases inside : index < extent.size
  · rw [overlay_getElem? _ _ _ _ (by rw [read_length]; exact inside)]
    simp only [read, List.getElem?_map, List.getElem?_range inside, Option.map_some, byte_write,
      List.getElem?_take]
    grind
  · rw [List.getElem?_eq_none (by rw [read_length]; omega),
      List.getElem?_eq_none (by rw [overlay_length, read_length]; omega)]

/-- A write inside an extent leaves every other extent alone. -/
theorem Region.read_write_apart (region : Region) {written other : Extent}
    (apart : Extent.Apart written other) (position : Nat) (bytes : List UInt8) :
    (region.write (written.offset + position) (bytes.take (written.size - position))).read
        other.offset other.size =
      region.read other.offset other.size := by
  refine List.map_congr_left fun index member => ?_
  have inside : index < other.size := List.mem_range.mp member
  simp only [Extent.Apart, Extent.stop] at apart
  rw [byte_write, List.getElem?_take]
  grind

namespace RingBuffer

variable {α : Type} {ring next : RingBuffer α}

/-! ## Cells -/

/-- The tags of the live records with their bytes, oldest first. -/
def cells (ring : RingBuffer α) : List (α × List UInt8) :=
  ring.records.map fun record => (record.tag, ring.bytesOf record.extent)

/-- The record of a number cuts the live records into the older and the newer ones. -/
theorem record?_eq_some {number : Nat} {record : Record α}
    (found : ring.record? number = some record) :
    ∃ before after, ring.records = before ++ record :: after ∧
      number = ring.released + before.length := by
  unfold record? at found
  split at found
  · cases found
  · obtain ⟨inside, rfl⟩ := List.getElem?_eq_some_iff.mp found
    refine ⟨ring.records.take (number - ring.released),
      ring.records.drop (number - ring.released + 1), ?_, ?_⟩
    · rw [← List.drop_eq_getElem_cons inside, List.take_append_drop]
    · rw [List.length_take_of_le (Nat.le_of_lt inside)]
      omega

/-- A live record stands behind the older ones and before the newer ones. -/
structure Stands (ring : RingBuffer α) (number : Nat) (older : List (α × List UInt8))
    (cell : α × List UInt8) (newer : List (α × List UInt8)) : Prop where
  /-- All cells of the ring. -/
  cells : ring.cells = older ++ cell :: newer
  /-- Records are numbered in the order of their allocation. -/
  number : number = ring.released + older.length

theorem cells_length (ring : RingBuffer α) : ring.cells.length = ring.length := List.length_map _

theorem exists_stands {number : Nat} {record : Record α}
    (found : ring.record? number = some record) :
    ∃ older newer, Stands ring number older (record.tag, ring.bytesOf record.extent) newer := by
  obtain ⟨before, after, split, numbered⟩ := record?_eq_some found
  refine ⟨_, _, ⟨by rw [RingBuffer.cells, split, List.map_append, List.map_cons], ?_⟩⟩
  rw [List.length_map, numbered]

theorem Stands.mem {number : Nat} {older newer : List (α × List UInt8)} {cell : α × List UInt8}
    (stands : Stands ring number older cell newer) : cell ∈ ring.cells := by
  rw [stands.cells]
  exact List.mem_append_right older List.mem_cons_self

/-- What stands among the cells is a record that is found by its number. -/
theorem Stands.found {number : Nat} {older newer : List (α × List UInt8)} {cell : α × List UInt8}
    (stands : Stands ring number older cell newer) :
    ∃ before record after, ring.records = before ++ record :: after ∧
      number = ring.released + before.length ∧ ring.record? number = some record ∧
      older = before.map (fun earlier => (earlier.tag, ring.bytesOf earlier.extent)) ∧
      cell = (record.tag, ring.bytesOf record.extent) ∧
      newer = after.map (fun later => (later.tag, ring.bytesOf later.extent)) := by
  obtain ⟨cells, number⟩ := stands
  obtain ⟨before, rest, split, rfl, tail⟩ := List.map_eq_append_iff.mp cells
  obtain ⟨record, after, rfl, rfl, rfl⟩ := List.map_eq_cons_iff.mp tail
  rw [List.length_map] at number
  refine ⟨before, record, after, split, number, ?_, rfl, rfl, rfl⟩
  rw [record?, if_neg (by omega), number, Nat.add_sub_cancel_left, split,
    List.getElem?_append_right (Nat.le_refl _), Nat.sub_self, List.getElem?_cons_zero]

/-! ## What the operations do to the cells -/

/-- An allocation adds a cell of the size asked for. What its bytes are is not said. -/
theorem alloc?_stands {size number : Nat} {tag : α}
    (allocated : ring.alloc? size tag = some (number, next)) :
    ∃ fresh, fresh.length = size ∧ Stands next number ring.cells (tag, fresh) [] ∧
      next.released = ring.released := by
  obtain ⟨offset, -, numbered, records, -, -, -, region, released⟩ := alloc?_eq_some allocated
  refine ⟨next.bytesOf { offset := offset, size := size }, Region.read_length _ _ _, ⟨?_, ?_⟩,
    released⟩
  · rw [RingBuffer.cells, records, List.map_append, List.map_cons, List.map_nil, RingBuffer.cells]
    simp only [bytesOf, region]
  · rw [numbered, cells_length, released]

theorem pop?_cells {record : Record α} (popped : ring.pop? = some (record, next)) :
    ring.cells = (record.tag, ring.bytesOf record.extent) :: next.cells := by
  obtain ⟨found, -, region, -, -, -⟩ := pop?_eq_some popped
  rw [RingBuffer.cells, found, List.map_cons, RingBuffer.cells]
  simp only [bytesOf, region]

theorem pop?_eq_none : ring.pop? = none ↔ ring.cells = [] := by
  rw [RingBuffer.cells, List.map_eq_nil_iff]
  unfold pop?
  split <;> simp_all

/-- A write changes the bytes of its own cell and nothing else. -/
theorem Stands.write {number : Nat} {older newer : List (α × List UInt8)} {cell : α × List UInt8}
    (stands : Stands ring number older cell newer) (layout : Layout ring) (position : Nat)
    (bytes : List UInt8) :
    Stands (ring.write number position bytes) number older
      (cell.1, overlay cell.2 position bytes) newer := by
  obtain ⟨before, record, after, split, numbered, found, rfl, rfl, rfl⟩ := stands.found
  have apart := layout.apart
  rw [extents, split, List.map_append, List.map_cons] at apart
  obtain ⟨-, ofNewer, ofOlder⟩ := List.pairwise_append.mp apart
  have written : ring.write number position bytes =
      { ring with
        region := ring.region.write (record.extent.offset + position)
          (bytes.take (record.extent.size - position)) } := by
    rw [RingBuffer.write, found]
  refine ⟨?_, by rw [written, List.length_map, numbered]⟩
  rw [written, RingBuffer.cells]
  simp only [split, List.map_append, List.map_cons]
  congr 1
  · refine List.map_congr_left fun earlier member => ?_
    have clear := ofOlder earlier.extent (List.mem_map_of_mem member) record.extent
      (List.mem_cons_self ..)
    rw [bytesOf, bytesOf, Region.read_write_apart _ clear.symm]
  · congr 1
    · rw [bytesOf, bytesOf, Region.read_write_inside]
    · refine List.map_congr_left fun later member => ?_
      have clear := (List.pairwise_cons.mp ofNewer).1 later.extent (List.mem_map_of_mem member)
      rw [bytesOf, bytesOf, Region.read_write_apart _ clear]

/-- A change of tag changes the tag of its own cell and nothing else. -/
theorem Stands.setTag {number : Nat} {older newer : List (α × List UInt8)} {cell : α × List UInt8}
    (stands : Stands ring number older cell newer) (tag : α) :
    Stands (ring.setTag number tag) number older (tag, cell.2) newer := by
  obtain ⟨before, record, after, split, numbered, found, rfl, rfl, rfl⟩ := stands.found
  have changed : (ring.setTag number tag).records = before ++ { record with tag } :: after := by
    rw [RingBuffer.setTag, found]
    simp only [numbered, Nat.add_sub_cancel_left, split, List.set_append_right _ _ (Nat.le_refl _),
      Nat.sub_self, List.set_cons_zero]
  have region : (ring.setTag number tag).region = ring.region := by
    rw [RingBuffer.setTag, found]
  have released : (ring.setTag number tag).released = ring.released := by
    rw [RingBuffer.setTag, found]
  refine ⟨?_, by rw [released, List.length_map, numbered]⟩
  rw [RingBuffer.cells, changed, List.map_append, List.map_cons]
  simp only [bytesOf, region]

/-- Neither writes nor changes of tags move a record. -/
theorem Layout.write (layout : Layout ring) (number position : Nat) (bytes : List UInt8) :
    Layout (ring.write number position bytes) := by
  unfold RingBuffer.write
  split
  · exact layout
  · exact layout.congr rfl rfl rfl rfl

theorem Layout.setTag (layout : Layout ring) (number : Nat) (tag : α) :
    Layout (ring.setTag number tag) := by
  unfold RingBuffer.setTag
  split
  · exact layout
  · rename_i record found
    obtain ⟨before, after, split, numbered⟩ := record?_eq_some found
    refine layout.congr rfl rfl rfl ?_
    simp only [extents, split, numbered, Nat.add_sub_cancel_left,
      List.set_append_right _ _ (Nat.le_refl _), Nat.sub_self, List.set_cons_zero, List.map_append,
      List.map_cons]

/-! ## Tags by number -/

theorem alloc?_tag? {size number : Nat} {tag : α}
    (allocated : ring.alloc? size tag = some (number, next)) (other : Nat) :
    next.tag? other = if other = number then some tag else ring.tag? other := by
  obtain ⟨offset, -, rfl, records, -, -, -, -, released⟩ := alloc?_eq_some allocated
  simp only [tag?, record?, records, released, length, List.getElem?_append]
  grind

/-- A release takes the tag of the lowest live number. -/
theorem pop?_tag? {record : Record α} (popped : ring.pop? = some (record, next)) (other : Nat) :
    next.tag? other = if other = ring.released then none else ring.tag? other := by
  obtain ⟨found, released, -⟩ := pop?_eq_some popped
  simp only [tag?, record?, found, released]
  grind

theorem pop?_tag?_released {record : Record α} (popped : ring.pop? = some (record, next)) :
    ring.tag? ring.released = some record.tag := by
  obtain ⟨found, -⟩ := pop?_eq_some popped
  simp [tag?, record?, found]

@[simp] theorem tag?_write (ring : RingBuffer α) (number position : Nat) (bytes : List UInt8)
    (other : Nat) : (ring.write number position bytes).tag? other = ring.tag? other := by
  unfold RingBuffer.write
  split <;> rfl

/-- A change of tag is one of its own number only. -/
theorem tag?_setTag (ring : RingBuffer α) (number : Nat) (tag : α) (other : Nat) :
    (ring.setTag number tag).tag? other =
      if other = number then (ring.tag? number).map fun _ => tag else ring.tag? other := by
  unfold RingBuffer.setTag
  split
  · rename_i missing
    simp only [tag?, missing]
    grind
  · rename_i record found
    obtain ⟨before, after, split, rfl⟩ := record?_eq_some found
    simp only [tag?, record?, split, Nat.add_sub_cancel_left,
      List.set_append_right _ _ (Nat.le_refl _), Nat.sub_self, List.set_cons_zero,
      List.getElem?_append]
    grind

/-- Live numbers are below the one that the next allocation gives. -/
theorem tag?_bound {number : Nat} {tag : α} (live : ring.tag? number = some tag) :
    number < ring.released + ring.length := by
  obtain ⟨record, found, -⟩ := Option.map_eq_some_iff.mp live
  obtain ⟨before, after, split, rfl⟩ := record?_eq_some found
  rw [length, split, List.length_append, List.length_cons]
  omega

theorem Stands.tag? {number : Nat} {older newer : List (α × List UInt8)} {cell : α × List UInt8}
    (stands : Stands ring number older cell newer) : ring.tag? number = some cell.1 := by
  obtain ⟨before, record, after, -, -, found, -, rfl, -⟩ := stands.found
  rw [RingBuffer.tag?, found, Option.map_some]

theorem Stands.newer {number : Nat} {older newer : List (α × List UInt8)} {cell : α × List UInt8}
    (stands : Stands ring number older cell newer) :
    ∀ later ∈ newer, ∃ higher, number < higher ∧ ring.tag? higher = some later.1 := by
  intro later member
  obtain ⟨between, after, rfl⟩ := List.append_of_mem member
  have moved : Stands ring (number + 1 + between.length) (older ++ cell :: between) later
      after := by
    refine ⟨?_, ?_⟩
    · rw [stands.cells, List.append_assoc, List.cons_append]
    · rw [stands.number, List.length_append, List.length_cons]
      omega
  exact ⟨_, by omega, moved.tag?⟩

end RingBuffer

end MetricPipeline
