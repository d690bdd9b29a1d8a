import MetricPipeline.Proofs.RingQueue

/-!
Where a ring puts its records, and that it calculates with words only.

Positions, sizes and numbers are natural numbers here, and a difference of them stops at zero. A
machine has words instead: a sum can outgrow them, and a difference can fall below zero. So the
allocation and the release are written once more with words, and a calculation without a result is a
fault. Whatever is asked of a ring, none of the cursors is ever in a place where that could happen.
Only the numbers of the records grow without end, by one with each allocation.
-/

namespace MetricPipeline

/-! ## Calculating with words -/

/-- Why a calculation with words has no result. -/
inductive WordFault where
  /-- A sum is larger than any word. -/
  | overflow
  /-- A difference is less than nothing. -/
  | underflow
  deriving DecidableEq, Repr

/-- The sum of two words, if it is no more than the largest one. -/
def wordSum (largest first second : Nat) : Except WordFault Nat :=
  if first + second ≤ largest then .ok (first + second) else .error .overflow

/-- The difference of two words, if there is one. -/
def wordDifference (first second : Nat) : Except WordFault Nat :=
  if second ≤ first then .ok (first - second) else .error .underflow

theorem wordSum_of_le {largest first second : Nat} (fits : first + second ≤ largest) :
    wordSum largest first second = .ok (first + second) := if_pos fits

theorem wordSum_of_lt {largest first second : Nat} (beyond : largest < first + second) :
    wordSum largest first second = .error .overflow := if_neg (Nat.not_le_of_lt beyond)

theorem wordDifference_of_le {first second : Nat} (fits : second ≤ first) :
    wordDifference first second = .ok (first - second) := if_pos fits

namespace RingBuffer

/-- The words that a ring calculates with. -/
structure Words where
  /-- The largest word for a position or a size. -/
  largestSize : Nat
  /-- The largest word for the number of a record. -/
  largestNumber : Nat

variable {α : Type}

/-- Where a record of a size can be placed, in words. -/
def placeInWords (ring : RingBuffer α) (size : Nat) : Except WordFault (Option Nat) :=
  if ring.tail ≤ ring.head then do
    let behind ← wordDifference ring.capacity ring.head
    return if size < behind then some ring.head else if size < ring.tail then some 0 else none
  else do
    let between ← wordDifference ring.tail ring.head
    return if size < between then some ring.head else none

/-- The number of the newest of some live records, in words. -/
def newestInWords (words : Words) (released live : Nat) : Except WordFault Nat := do
  let allocated ← wordSum words.largestNumber released live
  wordDifference allocated 1

/-- Allocates a record, in words. -/
def allocInWords (words : Words) (ring : RingBuffer α) (size : Nat) (tag : α) :
    Except WordFault (Option (Nat × RingBuffer α)) := do
  match ← ring.placeInWords size with
  | none => return none
  | some offset =>
    let head ← wordSum words.largestSize offset size
    let records := ring.records ++ [{ extent := { offset, size }, tag }]
    let number ← newestInWords words ring.released records.length
    return some (number, { ring with head, records })

/-- Releases the oldest record, in words. -/
def popInWords (words : Words) (ring : RingBuffer α) :
    Except WordFault (Option (Record α × RingBuffer α)) :=
  match ring.records with
  | [] => return none
  | record :: rest => do
    let released ← wordSum words.largestNumber ring.released 1
    let tail ← wordSum words.largestSize (if record.extent.offset = 0 then 0 else ring.tail)
      record.extent.size
    return some (record,
      { ring with
        head := if rest = [] then 0 else ring.head
        tail := if rest = [] then 0 else tail
        records := rest
        released })

/-- Answers a request, in words. Nothing but an allocation or a release calculates. -/
def performInWords (words : Words) (ring : RingBuffer α) :
    Request α → Except WordFault (RingBuffer α × Answer α)
  | .alloc size tag => do
    match ← ring.allocInWords words size tag with
    | some (number, next) => return (next, .allocated (some number))
    | none => return (ring, .allocated none)
  | .pop => do
    match ← ring.popInWords words with
    | some (record, next) => return (next, .released (some (record.extent.size, record.tag)))
    | none => return (ring, .released none)
  | request => return ring.perform request

/-- Answers requests one after another, in words. -/
def serveInWords (words : Words) (ring : RingBuffer α) :
    List (Request α) → Except WordFault (RingBuffer α × List (Request α × Answer α))
  | [] => return (ring, [])
  | request :: rest => do
    let (next, answer) ← ring.performInWords words request
    let (last, history) ← next.serveInWords words rest
    return (last, (request, answer) :: history)

variable {ring next : RingBuffer α} {queue : Queue α}

/-! ## The cursors -/

/-- The cursors stay in the region. -/
theorem Layout.cursors (layout : Layout ring) :
    ring.head ≤ ring.capacity ∧ ring.tail ≤ ring.capacity := by
  cases layout with
  | straight run fits => exact ⟨fits, Nat.le_trans run.le fits⟩
  | wrapped older newer limit split nonempty first second below fits =>
    have inRegion := Nat.le_trans first.le fits
    exact ⟨by omega, inRegion⟩

/-- The oldest record stands where the tail is, or at the beginning of the region. -/
theorem Layout.oldest (layout : Layout ring) {extent : Extent} {rest : List Extent}
    (listed : ring.extents = extent :: rest) : extent.offset = ring.tail ∨ extent.offset = 0 := by
  cases layout with
  | straight run =>
    rw [listed] at run
    exact .inl run.1
  | wrapped older newer limit split nonempty first second =>
    rw [listed] at split
    cases older with
    | nil =>
      rw [← List.nil_append newer, ← split] at second
      exact .inr second.1
    | cons other others =>
      obtain ⟨rfl, -⟩ := List.cons.inj split
      exact .inl first.1

/-- A record that finds a place ends inside the region. -/
theorem Layout.place_fits (layout : Layout ring) {size offset : Nat}
    (placed : ring.place? size = some offset) : offset + size ≤ ring.capacity := by
  obtain ⟨headFits, tailFits⟩ := layout.cursors
  unfold place? at placed
  split at placed
  · split at placed
    · obtain rfl := Option.some.inj placed
      omega
    · split at placed
      · obtain rfl := Option.some.inj placed
        omega
      · cases placed
  · split at placed
    · obtain rfl := Option.some.inj placed
      omega
    · cases placed

/-! ## No fault but that of the numbers -/

theorem Layout.placeInWords (layout : Layout ring) (size : Nat) :
    ring.placeInWords size = .ok (ring.place? size) := by
  obtain ⟨headFits, -⟩ := layout.cursors
  unfold RingBuffer.placeInWords place?
  split
  · rw [wordDifference_of_le headFits]
    rfl
  · rename_i below
    rw [wordDifference_of_le (Nat.le_of_not_le below)]
    rfl

theorem newestInWords_eq (words : Words) (released live : Nat) :
    newestInWords words released (live + 1) =
      if released + live + 1 ≤ words.largestNumber then .ok (released + live)
      else .error .overflow := by
  unfold newestInWords
  by_cases fits : released + live + 1 ≤ words.largestNumber
  · have sum : wordSum words.largestNumber released (live + 1) = .ok (released + live + 1) :=
      wordSum_of_le fits
    rw [sum, if_pos fits]
    exact wordDifference_of_le (Nat.le_add_left 1 _)
  · have sum : wordSum words.largestNumber released (live + 1) = .error .overflow :=
      wordSum_of_lt (Nat.lt_of_not_le fits)
    rw [sum, if_neg fits]
    rfl

/-- An allocation fails at most because there are too many numbers. -/
theorem Layout.allocInWords (layout : Layout ring) {words : Words}
    (region : ring.capacity ≤ words.largestSize) (size : Nat) (tag : α) :
    ring.allocInWords words size tag =
      match ring.alloc? size tag with
      | none => .ok none
      | some (number, next) =>
        if number + 1 ≤ words.largestNumber then .ok (some (number, next)) else .error .overflow := by
  rw [RingBuffer.allocInWords, layout.placeInWords, RingBuffer.alloc?]
  cases placed : ring.place? size with
  | none => rfl
  | some offset =>
    have fits := Nat.le_trans (layout.place_fits placed) region
    simp only [Option.map_some, bind, Except.bind, wordSum_of_le fits, List.length_append,
      List.length_singleton, newestInWords_eq, length]
    by_cases more : ring.released + ring.records.length + 1 ≤ words.largestNumber
    · simp only [if_pos more]
      rfl
    · simp only [if_neg more]

/-- A release never fails, as long as the numbers of the live records are words. -/
theorem Layout.popInWords (layout : Layout ring) {words : Words}
    (region : ring.capacity ≤ words.largestSize)
    (numbered : ring.released + ring.length ≤ words.largestNumber) :
    ring.popInWords words = .ok ring.pop? := by
  unfold RingBuffer.popInWords pop?
  cases records : ring.records with
  | nil => rfl
  | cons record rest =>
    have listed : ring.extents = record.extent :: rest.map (·.extent) := by
      rw [extents, records, List.map_cons]
    have more : ring.released + 1 ≤ words.largestNumber := by
      rw [length, records, List.length_cons] at numbered
      omega
    have inRegion := layout.inside record.extent (by rw [listed]; exact List.mem_cons_self)
    have fits : (if record.extent.offset = 0 then 0 else ring.tail) + record.extent.size ≤
        words.largestSize := by
      rw [Extent.stop] at inRegion
      rcases layout.oldest listed with start | start <;> split <;> omega
    simp only [bind, Except.bind, wordSum_of_le more, wordSum_of_le fits]
    rfl

/-- How many records a request has allocated. -/
def admissions (request : Request α) (answer : Answer α) : Nat :=
  (Queue.admitted? (request, answer)).toList.length

theorem Represents.total (represents : Represents ring queue) :
    ring.released + ring.length = queue.sizes.length := by
  have cells := congrArg List.length represents.cells
  have entered := represents.entered
  rw [cells_length, List.length_map, List.length_drop] at cells
  rw [cells, represents.released, Queue.sizes, List.length_map]
  omega

/-- Every number is given once. -/
theorem Represents.total_perform (represents : Represents ring queue) (request : Request α) :
    (ring.perform request).1.released + (ring.perform request).1.length =
      ring.released + ring.length + admissions request (ring.perform request).2 := by
  obtain ⟨after, step, next⟩ := represents.step request
  have counted := congrArg List.length step.admitted
  rw [List.length_append, List.length_mapIdx, List.length_mapIdx] at counted
  rw [next.total, represents.total, ← counted, admissions]

/-- A request meets a fault just when the number it would give is no word. -/
theorem Represents.performInWords (represents : Represents ring queue) {words : Words}
    (region : ring.capacity ≤ words.largestSize)
    (numbered : ring.released + ring.length ≤ words.largestNumber) (request : Request α) :
    ring.performInWords words request =
      if ring.released + ring.length + admissions request (ring.perform request).2 ≤
          words.largestNumber then
        .ok (ring.perform request)
      else .error .overflow := by
  have layout := represents.layout
  cases request with
  | alloc size tag =>
    rw [RingBuffer.performInWords, layout.allocInWords region, perform]
    cases allocated : ring.alloc? size tag with
    | none => exact (if_pos numbered).symm
    | some pair =>
      obtain ⟨number, next⟩ := pair
      obtain ⟨-, -, rfl, -⟩ := alloc?_eq_some allocated
      show _ = if ring.released + ring.length + 1 ≤ words.largestNumber then _ else _
      dsimp only
      split <;> rfl
  | pop =>
    rw [RingBuffer.performInWords, layout.popInWords region numbered, perform]
    cases ring.pop? with
    | none => exact (if_pos numbered).symm
    | some pair => exact (if_pos numbered).symm
  | front | tag | bytes | write | setTag => exact (if_pos numbered).symm

theorem capacity_perform (ring : RingBuffer α) (request : Request α) :
    (ring.perform request).1.capacity = ring.capacity := by
  cases request with
  | alloc size tag =>
    cases allocated : ring.alloc? size tag with
    | none => rw [perform, allocated]
    | some pair =>
      obtain ⟨offset, -, -, -, -, -, capacity, -⟩ := alloc?_eq_some allocated
      rw [perform, allocated, capacity]
  | pop =>
    cases popped : ring.pop? with
    | none => rw [perform, popped]
    | some pair =>
      obtain ⟨-, -, -, capacity, -⟩ := pop?_eq_some popped
      rw [perform, popped, capacity]
  | write number position bytes =>
    rw [perform, RingBuffer.write]
    split <;> rfl
  | setTag number tag =>
    rw [perform, RingBuffer.setTag]
    split <;> rfl
  | front | tag | bytes => rfl

theorem capacity_serve (ring : RingBuffer α) (requests : List (Request α)) :
    (ring.serve requests).1.capacity = ring.capacity := by
  induction requests generalizing ring with
  | nil => rfl
  | cons request rest ih => exact (ih _).trans (capacity_perform ring request)

/-- Requests meet a fault just when more numbers are given than there are words for them. -/
theorem Represents.serveInWords (represents : Represents ring queue) {words : Words}
    (region : ring.capacity ≤ words.largestSize)
    (numbered : ring.released + ring.length ≤ words.largestNumber) (requests : List (Request α)) :
    ring.serveInWords words requests =
      if ring.released + ring.length + ((ring.serve requests).2.filterMap Queue.admitted?).length ≤
          words.largestNumber then
        .ok (ring.serve requests)
      else .error .overflow := by
  induction requests generalizing ring queue with
  | nil => exact (if_pos numbered).symm
  | cons request rest ih =>
    obtain ⟨after, step, represented⟩ := represents.step request
    have total := represents.total_perform request
    have noted : ((ring.serve (request :: rest)).2.filterMap Queue.admitted?).length =
        admissions request (ring.perform request).2 +
          (((ring.perform request).1.serve rest).2.filterMap Queue.admitted?).length := by
      rw [RingBuffer.serve, List.filterMap_cons, admissions]
      cases Queue.admitted? (request, (ring.perform request).2) with
      | none => exact (Nat.zero_add _).symm
      | some admitted => exact Nat.add_comm _ 1
    rw [RingBuffer.serveInWords, represents.performInWords region numbered, noted, ← Nat.add_assoc,
      ← total]
    by_cases more : (ring.perform request).1.released + (ring.perform request).1.length ≤
        words.largestNumber
    · have others := ih represented ((capacity_perform ring request).symm ▸ region) more
      simp only [if_pos more, bind, Except.bind, others]
      by_cases enough : (ring.perform request).1.released + (ring.perform request).1.length +
          (((ring.perform request).1.serve rest).2.filterMap Queue.admitted?).length ≤
            words.largestNumber
      · simp only [if_pos enough]
        rfl
      · simp only [if_neg enough]
    · rw [if_neg more, if_neg (by omega)]
      rfl

/-- **The geometry of a ring.** Whatever was asked of a ring, its live records lie in the region and do
not overlap. Oldest first, they stand one after another up to the head, or in two such runs, of which
the second one begins where the region does and ends at the head, below the tail. Neither cursor
leaves the region. With words that hold the capacity, however large the sizes that were asked for, no
sum or difference of an allocation or a release is without a result, unless more records were
allocated than there are words to number them. -/
theorem serve_geometry (capacity : Nat) (requests : List (Request α)) :
    let ring := ((RingBuffer.empty capacity).serve requests).1
    let history := ((RingBuffer.empty capacity).serve requests).2
    (∀ extent ∈ ring.extents, extent.stop ≤ capacity) ∧
    ring.extents.Pairwise Extent.Apart ∧
    (Run ring.tail ring.extents ring.head ∨
      ∃ older newer limit, ring.extents = older ++ newer ∧ newer ≠ [] ∧ Run ring.tail older limit ∧
        Run 0 newer ring.head ∧ ring.head < ring.tail) ∧
    ring.head ≤ capacity ∧ ring.tail ≤ capacity ∧
    ∀ words : Words, capacity ≤ words.largestSize →
      (RingBuffer.empty capacity).serveInWords words requests =
        if (history.filterMap Queue.admitted?).length ≤ words.largestNumber then .ok (ring, history)
        else .error .overflow := by
  intro ring history
  have start : Represents (RingBuffer.empty capacity : RingBuffer α) Queue.empty :=
    represents_empty capacity
  obtain ⟨queue, -, represents⟩ := start.serve requests
  have layout : Layout ring := represents.layout
  have region : ring.capacity = capacity := capacity_serve _ requests
  obtain ⟨headFits, tailFits⟩ := layout.cursors
  rw [region] at headFits tailFits
  refine ⟨fun extent member => region ▸ layout.inside extent member, layout.apart, ?runs, headFits,
    tailFits, fun words fits => ?calculates⟩
  case runs =>
    cases layout with
    | straight run => exact .inl run
    | wrapped older newer limit split nonempty first second below =>
      exact .inr ⟨older, newer, limit, split, nonempty, first, second, below⟩
  case calculates =>
    have none : (RingBuffer.empty capacity : RingBuffer α).released +
        (RingBuffer.empty capacity : RingBuffer α).length = 0 := rfl
    have served := start.serveInWords fits (none ▸ Nat.zero_le _) requests
    rwa [none, Nat.zero_add] at served

/-- Four allocations, of which one finds no room and one starts over at the beginning. -/
def startingOver : List (Request Nat) :=
  [.alloc 40 1, .alloc 40 2, .alloc 30 3, .pop, .alloc 30 4]

theorem startingOver_geometry :
    let words : Words := { largestSize := UInt64.size - 1, largestNumber := UInt64.size - 1 }
    let ring := ((RingBuffer.empty 100).serve startingOver).1
    let history := ((RingBuffer.empty 100).serve startingOver).2
    ring.head = 30 ∧ ring.tail = 40 ∧
      ring.extents = [{ offset := 40, size := 40 }, { offset := 0, size := 30 }] ∧
      100 ≤ words.largestSize ∧
      (RingBuffer.empty 100).serveInWords words startingOver = .ok (ring, history) := by
  intro words ring history
  have fits : 100 ≤ words.largestSize := by decide
  obtain ⟨-, -, -, -, -, calculates⟩ := serve_geometry 100 startingOver
  have few : (history.filterMap Queue.admitted?).length ≤ words.largestNumber := by decide
  exact ⟨by decide, by decide, by decide, fits, (calculates words fits).trans (if_pos few)⟩

end RingBuffer

end MetricPipeline
