import MetricPipeline.RingBuffer

/-!
Where the live records of a ring are.

The records share one region that is reused without being cleared. They stand one after another,
from the tail to the head, or in two such runs once allocation has started over. Allocations and
releases keep this layout, and it follows that no two live records overlap and that all lie in the
region.
-/

namespace MetricPipeline

/-- Where an extent ends. -/
def Extent.stop (extent : Extent) : Nat := extent.offset + extent.size

/-- Two extents without a common byte. -/
def Extent.Apart (first second : Extent) : Prop :=
  first.stop ≤ second.offset ∨ second.stop ≤ first.offset

theorem Extent.Apart.symm {first second : Extent} (apart : Apart first second) :
    Apart second first := apart.elim Or.inr Or.inl

namespace RingBuffer

variable {α : Type} {ring next : RingBuffer α}

/-! ## Layout -/

/-- Extents that stand one after another from a start on, and where the last one ends. -/
def Run (start : Nat) : List Extent → Nat → Prop
  | [], stop => start = stop
  | extent :: rest, stop => extent.offset = start ∧ Run extent.stop rest stop

theorem Run.le {extents : List Extent} {start stop : Nat} (run : Run start extents stop) :
    start ≤ stop := by
  induction extents generalizing start with
  | nil => exact Nat.le_of_eq run
  | cons extent rest ih =>
    obtain ⟨rfl, others⟩ := run
    exact Nat.le_trans (Nat.le_add_right _ _) (ih others)

theorem Run.snoc {extents : List Extent} {start stop : Nat} (run : Run start extents stop)
    (size : Nat) : Run start (extents ++ [{ offset := stop, size }]) (stop + size) := by
  induction extents generalizing start with
  | nil =>
    obtain rfl := run
    exact ⟨rfl, rfl⟩
  | cons extent rest ih => exact ⟨run.1, ih run.2⟩

/-- The extents of a run lie between its ends. -/
theorem Run.between {extents : List Extent} {start stop : Nat} (run : Run start extents stop) :
    ∀ extent ∈ extents, start ≤ extent.offset ∧ extent.stop ≤ stop := by
  induction extents generalizing start with
  | nil => intro extent member; cases member
  | cons first rest ih =>
    obtain ⟨rfl, others⟩ := run
    intro extent member
    rcases List.mem_cons.mp member with rfl | later
    · exact ⟨Nat.le_refl _, others.le⟩
    · obtain ⟨after, before⟩ := ih others extent later
      exact ⟨Nat.le_trans (Nat.le_add_right _ _) after, before⟩

theorem Run.apart {extents : List Extent} {start stop : Nat} (run : Run start extents stop) :
    extents.Pairwise Extent.Apart := by
  induction extents generalizing start with
  | nil => exact List.Pairwise.nil
  | cons first rest ih =>
    obtain ⟨-, others⟩ := run
    refine List.pairwise_cons.mpr ⟨fun extent later => ?_, ih others⟩
    exact Or.inl (others.between extent later).1

/-- The extents of the live records, oldest first. -/
def extents (ring : RingBuffer α) : List Extent := ring.records.map (·.extent)

/-- Where the live records are: in one run that ends at the head, or in two, the second one of which
starts at the beginning of the region and ends below the first. -/
inductive Layout (ring : RingBuffer α) : Prop where
  /-- One run. A ring without records has its head at the beginning. -/
  | straight (run : Run ring.tail ring.extents ring.head) (fits : ring.head ≤ ring.capacity)
      (idle : ring.records = [] → ring.head = 0)
  /-- Two runs. -/
  | wrapped (older newer : List Extent) (limit : Nat) (split : ring.extents = older ++ newer)
      (nonempty : newer ≠ []) (first : Run ring.tail older limit) (second : Run 0 newer ring.head)
      (below : ring.head < ring.tail) (fits : limit ≤ ring.capacity)

/-- The layout is one of the cursors and the extents. -/
theorem Layout.congr (layout : Layout ring) (capacity : next.capacity = ring.capacity)
    (head : next.head = ring.head) (tail : next.tail = ring.tail)
    (extents : next.extents = ring.extents) : Layout next := by
  cases layout with
  | straight run fits idle =>
    refine .straight (by rw [tail, extents, head]; exact run)
      (by rw [head, capacity]; exact fits) ?_
    intro none
    rw [head]
    apply idle
    rw [RingBuffer.extents, RingBuffer.extents, none, List.map_nil] at extents
    exact List.map_eq_nil_iff.mp extents.symm
  | wrapped older newer limit split nonempty first second below fits =>
    exact .wrapped older newer limit (extents.trans split) nonempty (by rw [tail]; exact first)
      (by rw [head]; exact second) (by rw [head, tail]; exact below) (by rw [capacity]; exact fits)

theorem layout_empty (capacity : Nat) : Layout (empty capacity : RingBuffer α) :=
  .straight rfl (Nat.zero_le _) fun _ => rfl

/-- No two live records overlap. -/
theorem Layout.apart (layout : Layout ring) : ring.extents.Pairwise Extent.Apart := by
  cases layout with
  | straight run => exact run.apart
  | wrapped older newer limit split nonempty first second below =>
    rw [split]
    refine List.pairwise_append.mpr ⟨first.apart, second.apart, fun old isOld new isNew => ?_⟩
    have above := (first.between old isOld).1
    have under := (second.between new isNew).2
    exact Or.inr (by omega)

/-- Live records lie inside the region. -/
theorem Layout.inside (layout : Layout ring) :
    ∀ extent ∈ ring.extents, extent.stop ≤ ring.capacity := by
  cases layout with
  | straight run fits =>
    exact fun extent member => Nat.le_trans (run.between extent member).2 fits
  | wrapped older newer limit split nonempty first second below fits =>
    intro extent member
    rw [split] at member
    rcases List.mem_append.mp member with isOld | isNew
    · exact Nat.le_trans (first.between extent isOld).2 fits
    · have under := (second.between extent isNew).2
      have limited := first.le
      omega

/-! ## Allocation and release -/

/-- What an allocation does, when there is room. -/
theorem alloc?_eq_some {size number : Nat} {tag : α}
    (allocated : ring.alloc? size tag = some (number, next)) :
    ∃ offset, ring.place? size = some offset ∧ number = ring.released + ring.length ∧
      next.records = ring.records ++ [{ extent := { offset := offset, size := size }, tag }] ∧
      next.head = offset + size ∧ next.tail = ring.tail ∧ next.capacity = ring.capacity ∧
      next.region = ring.region ∧ next.released = ring.released := by
  obtain ⟨offset, placed, result⟩ := Option.map_eq_some_iff.mp allocated
  obtain ⟨rfl, rfl⟩ := Prod.mk.inj result
  exact ⟨offset, placed, rfl, rfl, rfl, rfl, rfl, rfl, rfl⟩

theorem Layout.alloc (layout : Layout ring) {size number : Nat} {tag : α}
    (allocated : ring.alloc? size tag = some (number, next)) : Layout next := by
  obtain ⟨offset, placed, -, records, head, tail, capacity, -, -⟩ := alloc?_eq_some allocated
  have extended : next.extents = ring.extents ++ [{ offset := offset, size := size }] := by
    rw [extents, records, List.map_append, List.map_cons, List.map_nil, extents]
  have busy : next.records ≠ [] := by
    rw [records]
    exact List.append_ne_nil_of_right_ne_nil _ (List.cons_ne_nil _ _)
  unfold place? at placed
  cases layout with
  | straight run fits =>
    have ordered := run.le
    rw [if_pos ordered] at placed
    split at placed
    · obtain rfl := Option.some.inj placed
      refine .straight ?_ (by omega) (fun none => absurd none busy)
      rw [tail, extended, head]
      exact run.snoc size
    · split at placed
      · obtain rfl := Option.some.inj placed
        exact .wrapped ring.extents [{ offset := 0, size }] ring.head extended
          (List.cons_ne_nil _ _) (tail ▸ run) ⟨rfl, head.symm⟩ (by omega) (capacity ▸ fits)
      · cases placed
  | wrapped older newer limit split nonempty first second below fits =>
    rw [if_neg (Nat.not_le_of_lt below)] at placed
    split at placed
    · obtain rfl := Option.some.inj placed
      refine .wrapped older (newer ++ [{ offset := ring.head, size }]) limit ?_
        (List.append_ne_nil_of_left_ne_nil nonempty _) (tail ▸ first)
        (head ▸ second.snoc size) (by omega) (capacity ▸ fits)
      rw [extended, split, List.append_assoc]
    · cases placed

theorem pop?_eq_some {record : Record α} (popped : ring.pop? = some (record, next)) :
    ring.records = record :: next.records ∧ next.released = ring.released + 1 ∧
      next.region = ring.region ∧ next.capacity = ring.capacity ∧
      next.head = (if next.records = [] then 0 else ring.head) ∧
      next.tail = (if next.records = [] then 0
        else (if record.extent.offset = 0 then 0 else ring.tail) + record.extent.size) := by
  unfold pop? at popped
  split at popped
  · cases popped
  · rename_i first rest found
    obtain ⟨rfl, rfl⟩ := Prod.mk.inj (Option.some.inj popped)
    exact ⟨found, rfl, rfl, rfl, rfl, rfl⟩

theorem pop?_extents {record : Record α} (popped : ring.pop? = some (record, next)) :
    ring.extents = record.extent :: next.extents := by
  obtain ⟨found, -⟩ := pop?_eq_some popped
  rw [extents, found, List.map_cons, extents]

theorem Layout.pop (layout : Layout ring) {record : Record α}
    (popped : ring.pop? = some (record, next)) : Layout next := by
  obtain ⟨-, -, -, capacity, head, tail⟩ := pop?_eq_some popped
  have listed := pop?_extents popped
  by_cases last : next.records = []
  · rw [if_pos last] at head tail
    refine .straight ?_ (by omega) (fun _ => head)
    rw [extents, last, head, tail, List.map_nil]
    exact rfl
  · rw [if_neg last] at head tail
    cases layout with
    | straight run fits =>
      rw [listed] at run
      obtain ⟨start, others⟩ := run
      have moved : next.tail = record.extent.stop := by
        rw [tail, Extent.stop]
        split <;> omega
      refine .straight ?_ (by omega) (fun none => absurd none last)
      rw [moved, head]
      exact others
    | wrapped older newer limit split nonempty first second below fits =>
      rw [listed] at split
      cases older with
      | nil =>
        -- the first run is used up: the second one starts with the released record
        rw [List.nil_append] at split
        rw [← split] at second
        obtain ⟨start, others⟩ := second
        have moved : next.tail = record.extent.stop := by
          rw [tail, if_pos start, Extent.stop, start]
        have limited : ring.tail = limit := first
        refine .straight ?_ (by omega) (fun none => absurd none last)
        rw [moved, head]
        exact others
      | cons extent rest =>
        obtain ⟨rfl, remaining⟩ := List.cons.inj split
        obtain ⟨start, others⟩ := first
        have moved : next.tail = record.extent.stop := by
          rw [tail, Extent.stop, if_neg (by omega), start]
        refine .wrapped rest newer limit remaining nonempty (moved ▸ others) (head ▸ second) ?_
          (capacity ▸ fits)
        rw [moved, head, Extent.stop]
        omega

end RingBuffer

end MetricPipeline
