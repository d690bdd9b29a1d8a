import Mathlib.Order.Nat
import MetricPipeline.Proofs.RingGeometry

/-!
When a ring refuses a record.

An allocation looks at the cursors only. Beside them stand the stretches of the region that no live
record occupies: the one behind the newest record, and the one in front of the oldest. As long as the
tail stands where the oldest record begins, the ring refuses a record exactly when neither stretch is
longer than it. The tail leaves that place in one situation. Allocation has started over, and the last
of the records from before that was released. The tail then stands where this record ended, whereas the
oldest record is the one at the beginning of the region, and what is behind the tail is not used until
that one is released too.
-/

namespace MetricPipeline.RingBuffer

variable {α : Type} {ring next : RingBuffer α}

/-! ## Unoccupied stretches -/

/-- Where the next live record behind a position begins, or where the region ends. A record without
bytes is not behind the position that it stands at. -/
def nextBehind (ring : RingBuffer α) (position : Nat) : Nat :=
  ((ring.extents.filter fun extent => position ≤ extent.offset ∧ position < extent.stop).map
    (·.offset)).foldr min ring.capacity

/-- How many bytes there are behind the newest record, up to the next one or to the end of the region:
all of them in a ring without records. -/
def roomBehind (ring : RingBuffer α) : Nat :=
  match ring.extents.getLast? with
  | none => ring.capacity
  | some newest => ring.nextBehind newest.stop - newest.stop

/-- How many bytes there are in front of the oldest record, if no other one is in front of it. -/
def roomInFront (ring : RingBuffer α) : Nat :=
  match ring.extents.head? with
  | none => 0
  | some oldest =>
    if ∃ extent ∈ ring.extents, extent.offset < oldest.offset then 0 else oldest.offset

/-- The oldest record begins in front of the tail. -/
def Lags (ring : RingBuffer α) : Prop := ∃ oldest ∈ ring.extents.head?, oldest.offset < ring.tail

instance (ring : RingBuffer α) : Decidable ring.Lags :=
  inferInstanceAs (Decidable (∃ oldest ∈ ring.extents.head?, oldest.offset < ring.tail))

theorem le_foldr_min {bound limit : Nat} {positions : List Nat} :
    bound ≤ positions.foldr min limit ↔ bound ≤ limit ∧ ∀ position ∈ positions, bound ≤ position := by
  induction positions with
  | nil => simp
  | cons position rest ih =>
    rw [List.foldr_cons, Nat.le_min, ih, List.forall_mem_cons]
    exact and_left_comm

/-- The stretch behind a position ends at the first of the records behind it. -/
theorem le_nextBehind {position bound : Nat} :
    bound ≤ ring.nextBehind position ↔ bound ≤ ring.capacity ∧
      ∀ extent ∈ ring.extents, position ≤ extent.offset → position < extent.stop →
        bound ≤ extent.offset := by
  rw [nextBehind, le_foldr_min, List.forall_mem_map]
  simp

theorem nextBehind_eq_capacity {position : Nat}
    (nothing : ∀ extent ∈ ring.extents, extent.stop ≤ position) :
    ring.nextBehind position = ring.capacity := by
  apply eq_of_forall_le_iff
  intro bound
  rw [le_nextBehind, and_iff_left_iff_imp]
  intro _ extent member _ behind
  exact absurd behind (Nat.not_lt_of_le (nothing extent member))

theorem Run.newest {extents : List Extent} {start stop : Nat} (run : Run start extents stop)
    (nonempty : extents ≠ []) : ∃ newest, extents.getLast? = some newest ∧ newest.stop = stop := by
  induction extents generalizing start with
  | nil => exact absurd rfl nonempty
  | cons extent rest ih =>
    cases rest with
    | nil => exact ⟨extent, rfl, run.2⟩
    | cons other others =>
      obtain ⟨newest, last, ends⟩ := ih run.2 (List.cons_ne_nil _ _)
      exact ⟨newest, by simpa using last, ends⟩

/-- The newest record ends at the head. -/
theorem roomBehind_eq {older newer : List Extent} {start : Nat}
    (split : ring.extents = older ++ newer) (run : Run start newer ring.head)
    (nonempty : newer ≠ []) : ring.roomBehind = ring.nextBehind ring.head - ring.head := by
  obtain ⟨newest, last, ends⟩ := run.newest nonempty
  rw [← ends]
  simp [roomBehind, split, List.getLast?_append, last]

/-! ## The room that each layout leaves -/

/-- With one run from the tail on, there is room on both sides of it. -/
theorem straight_room (run : Run ring.tail ring.extents ring.head)
    (idle : ring.records = [] → ring.head = 0) :
    ¬ ring.Lags ∧ ring.roomBehind = ring.capacity - ring.head ∧ ring.roomInFront = ring.tail := by
  cases listed : ring.extents with
  | nil =>
    rw [listed] at run
    have start : ring.tail = ring.head := run
    have none : ring.head = 0 := idle (List.map_eq_nil_iff.mp listed)
    simp [Lags, roomBehind, roomInFront, listed, start, none]
  | cons oldest rest =>
    have between := run.between
    have nonempty : ring.extents ≠ [] := listed ▸ List.cons_ne_nil _ _
    have first : oldest.offset = ring.tail := by
      rw [listed] at run
      exact run.1
    have alone : ¬ ∃ extent ∈ ring.extents, extent.offset < ring.tail := by
      rintro ⟨extent, member, before⟩
      exact Nat.not_lt_of_le (between extent member).1 before
    refine ⟨?_, ?_, ?_⟩
    · simp [Lags, listed, first]
    · rw [roomBehind_eq (List.nil_append _).symm run nonempty,
        nextBehind_eq_capacity fun extent member => (between extent member).2]
    · rw [listed] at alone
      simp only [roomInFront, listed, List.head?_cons, first, if_neg alone]

/-- With two runs, the room is between them. -/
theorem wrapped_room {older newer : List Extent} {limit : Nat}
    (split : ring.extents = older ++ newer) (waiting : older ≠ []) (nonempty : newer ≠ [])
    (first : Run ring.tail older limit) (second : Run 0 newer ring.head)
    (below : ring.head < ring.tail) (fits : limit ≤ ring.capacity) :
    ¬ ring.Lags ∧ ring.roomBehind = ring.tail - ring.head ∧ ring.roomInFront = 0 := by
  obtain ⟨oldest, rest, rfl⟩ := List.exists_cons_of_ne_nil waiting
  obtain ⟨turned, others, rfl⟩ := List.exists_cons_of_ne_nil nonempty
  have start : oldest.offset = ring.tail := first.1
  have again : turned.offset = 0 := second.1
  -- what is behind the head is the older run, which begins at the tail
  have reaches : ring.nextBehind ring.head = ring.tail := by
    apply eq_of_forall_le_iff
    intro bound
    rw [le_nextBehind, split]
    constructor
    · rintro ⟨-, behind⟩
      have inside : ring.head < oldest.stop := by
        rw [Extent.stop]
        omega
      exact start ▸ behind oldest (by simp) (by omega) inside
    · intro within
      refine ⟨Nat.le_trans within (Nat.le_trans first.le fits), fun extent member _ behind => ?_⟩
      rcases List.mem_append.mp member with isOld | isNew
      · exact Nat.le_trans within (first.between extent isOld).1
      · exact absurd behind (Nat.not_lt_of_le (second.between extent isNew).2)
  refine ⟨?_, ?_, ?_⟩
  · simp [Lags, split, start]
  · rw [roomBehind_eq split second nonempty, reaches]
  · have before : ∃ extent ∈ ring.extents, extent.offset < oldest.offset :=
      ⟨turned, by simp [split], by omega⟩
    rw [split, List.cons_append] at before
    simp only [roomInFront, split, List.cons_append, List.head?_cons, if_pos before]

/-- With a run that starts over and nothing left of the one before, all the room is behind it, however
far the tail. -/
theorem lagging_room (nonempty : ring.extents ≠ []) (run : Run 0 ring.extents ring.head)
    (below : ring.head < ring.tail) :
    ring.Lags ∧ ring.roomBehind = ring.capacity - ring.head ∧ ring.roomInFront = 0 := by
  obtain ⟨oldest, rest, listed⟩ := List.exists_cons_of_ne_nil nonempty
  have start : oldest.offset = 0 := by
    rw [listed] at run
    exact run.1
  refine ⟨?_, ?_, ?_⟩
  · have front : oldest.offset < ring.tail := by omega
    simpa [Lags, listed] using front
  · rw [roomBehind_eq (List.nil_append _).symm run nonempty,
      nextBehind_eq_capacity fun extent member => (run.between extent member).2]
  · simp [roomInFront, listed, start]

/-! ## Refusals -/

theorem alloc?_eq_none {size : Nat} {tag : α} :
    ring.alloc? size tag = none ↔
      if ring.tail ≤ ring.head then ring.capacity - ring.head ≤ size ∧ ring.tail ≤ size
      else ring.tail - ring.head ≤ size := by
  rw [alloc?, Option.map_eq_none_iff, place?]
  split
  · split
    · simp; omega
    · split <;> simp <;> omega
  · split <;> simp <;> omega

/-- When the tail does not lag, a record is refused only for want of room. -/
theorem Layout.refuses_iff (layout : Layout ring) (settled : ¬ ring.Lags) (size : Nat) (tag : α) :
    ring.alloc? size tag = none ↔ ring.roomBehind ≤ size ∧ ring.roomInFront ≤ size := by
  rw [alloc?_eq_none]
  cases layout with
  | straight run fits idle =>
    obtain ⟨-, behind, inFront⟩ := straight_room run idle
    rw [if_pos run.le, behind, inFront]
  | wrapped older newer limit split nonempty first second below fits =>
    -- with nothing left of the older run the tail would lag
    have waiting : older ≠ [] := by
      rintro rfl
      rw [List.nil_append] at split
      subst split
      exact settled (lagging_room nonempty second below).1
    obtain ⟨-, behind, inFront⟩ := wrapped_room split waiting nonempty first second below fits
    rw [if_neg (Nat.not_le_of_lt below), behind, inFront]
    exact (and_iff_left (Nat.zero_le size)).symm

/-- When the tail lags, all records are in one run at the beginning of the region. -/
theorem Layout.lagging_run (layout : Layout ring) (lags : ring.Lags) :
    Run 0 ring.extents ring.head ∧ ring.head < ring.tail ∧ ring.extents ≠ [] := by
  cases layout with
  | straight run fits idle => exact absurd lags (straight_room run idle).1
  | wrapped older newer limit split nonempty first second below fits =>
    by_cases waiting : older = []
    · rw [waiting, List.nil_append] at split
      subst split
      exact ⟨second, below, nonempty⟩
    · exact absurd lags (wrapped_room split waiting nonempty first second below fits).1

/-- A release moves the tail to the end of the released record, unless it is the last one. -/
theorem Layout.pop_tail (layout : Layout ring) {record : Record α}
    (popped : ring.pop? = some (record, next)) (more : next.records ≠ []) :
    next.tail = record.extent.stop := by
  obtain ⟨-, -, -, -, -, tail⟩ := pop?_eq_some popped
  rw [tail, if_neg more, Extent.stop]
  rcases layout.oldest (pop?_extents popped) with start | start <;> split <;> omega

/-- The next release ends the lag: what was behind the released record is now behind the tail. -/
theorem Layout.pop_settles (layout : Layout ring) (lags : ring.Lags) {record : Record α}
    (popped : ring.pop? = some (record, next)) : ¬ next.Lags := by
  obtain ⟨run, -, -⟩ := layout.lagging_run lags
  rw [pop?_extents popped] at run
  rintro ⟨oldest, first, before⟩
  obtain ⟨rest, others⟩ := List.head?_eq_some_iff.mp first
  have more : next.records ≠ [] := by
    rintro none
    simp [extents, none] at others
  rw [others] at run
  have stands : oldest.offset = record.extent.stop := run.2.1
  rw [stands, layout.pop_tail popped more] at before
  exact Nat.lt_irrefl _ before

/-- **Refusals of a ring.** Whatever was asked of a ring, unless its tail lags it refuses a record just
when neither the stretch behind the newest record nor the one in front of the oldest is longer than it.
While the tail lags, the records stand in one run at the beginning of the region, only the bytes up to
the tail count as room instead of all that are behind the run, and the next release ends the lag. -/
theorem serve_refuses_iff (capacity : Nat) (requests : List (Request α)) (size : Nat) (tag : α) :
    let ring := ((RingBuffer.empty capacity).serve requests).1
    (¬ ring.Lags →
      (ring.alloc? size tag = none ↔ ring.roomBehind ≤ size ∧ ring.roomInFront ≤ size)) ∧
    (ring.Lags →
      Run 0 ring.extents ring.head ∧ ring.head < ring.tail ∧ ring.tail ≤ capacity ∧
      ring.roomBehind = capacity - ring.head ∧ ring.roomInFront = 0 ∧
      (ring.alloc? size tag = none ↔ ring.tail - ring.head ≤ size) ∧
      ∀ record next, ring.pop? = some (record, next) → ¬ next.Lags) := by
  intro ring
  have start : Represents (RingBuffer.empty capacity : RingBuffer α) Queue.empty :=
    represents_empty capacity
  obtain ⟨queue, -, represents⟩ := start.serve requests
  have layout : Layout ring := represents.layout
  have region : ring.capacity = capacity := capacity_serve _ requests
  refine ⟨fun settled => layout.refuses_iff settled size tag, fun lags => ?_⟩
  obtain ⟨run, below, nonempty⟩ := layout.lagging_run lags
  obtain ⟨-, behind, inFront⟩ := lagging_room nonempty run below
  refine ⟨run, below, region ▸ layout.cursors.2, region ▸ behind, inFront, ?_, ?_⟩
  · rw [alloc?_eq_none, if_neg (Nat.not_le_of_lt below)]
  · exact fun record next popped => layout.pop_settles lags popped

/-- A record that starts over at the beginning, and the release of both records before it. -/
def laggingTail : List (Request Nat) :=
  [.alloc 40 0, .alloc 40 1, .pop, .alloc 30 2, .pop]

theorem laggingTail_refusal :
    let ring := ((RingBuffer.empty 100).serve laggingTail).1
    ring.Lags ∧ ring.tail - ring.head = 50 ∧ ring.roomBehind = 70 ∧ ring.alloc? 50 3 = none := by
  intro ring
  have lags : ring.Lags := by decide
  obtain ⟨-, -, -, behind, -, refuses, -⟩ := (serve_refuses_iff 100 laggingTail 50 3).2 lags
  exact ⟨lags, by decide, behind, refuses.mpr (by decide)⟩

/-- It is not true that a ring refuses a record only when neither stretch is longer than it. -/
theorem refusal_despite_room :
    ¬ ∀ (capacity : Nat) (requests : List (Request Nat)) (size tag : Nat),
      let ring := ((RingBuffer.empty capacity).serve requests).1
      ring.alloc? size tag = none → ring.roomBehind ≤ size ∧ ring.roomInFront ≤ size := by
  intro law
  have refused : (((RingBuffer.empty 100).serve laggingTail).1.alloc? 50 3) = none := by decide
  have short : ((RingBuffer.empty 100).serve laggingTail).1.roomBehind ≤ 50 :=
    (law 100 laggingTail 50 3 refused).1
  exact absurd short (by decide)

end MetricPipeline.RingBuffer
