import MetricPipeline.Proofs.RingCells

/-!
A ring is a queue of byte arrays that have nothing to do with each other.

The queue keeps every array that ever entered it and knows how many have left. Arrays are numbered as
they enter and leave in that order, and a change of one array is a change of that one only. Whether an
array finds room, and which bytes a new one shows, the queue leaves open: the ring never clears its
region. In every other respect each answer of a ring is that of the queue.
-/

namespace MetricPipeline.RingBuffer

variable {α : Type}

/-! ## Queues of independent arrays -/

/-- An array of bytes: the size it was asked for with, what is kept beside it, and its bytes. -/
structure Item (α : Type) where
  size : Nat
  tag : α
  bytes : List UInt8

/-- Arrays in the order in which they entered, those that have left included. -/
structure Queue (α : Type) where
  items : List (Item α)
  /-- How many have left. -/
  left : Nat

/-- What the owner of a ring can ask for: a new record, the release of the oldest one, a look at the
oldest one or at that of a number, bytes written into a record from a position on, another tag. -/
inductive Request (α : Type) where
  | alloc (size : Nat) (tag : α)
  | pop
  | front
  | tag (number : Nat)
  | bytes (number : Nat)
  | write (number position : Nat) (bytes : List UInt8)
  | setTag (number : Nat) (tag : α)

/-- What the owner learns: the number of the new record, the size and the tag of the released one, the
number and the tag of the oldest one, a tag, bytes, or whether there was a record to change. -/
inductive Answer (α : Type) where
  | allocated (number : Option Nat)
  | released (record : Option (Nat × α))
  | front (record : Option (Nat × α))
  | tag (tag : Option α)
  | bytes (bytes : Option (List UInt8))
  | changed (live : Bool)

/-- Whether a request is to change the record of a number. -/
def Request.changes : Request α → Nat → Prop
  | .write target _ _, number | .setTag target _, number => target = number
  | _, _ => False

namespace Queue

def empty : Queue α := { items := [], left := 0 }

/-- The array of a number, until it leaves. -/
def live? (queue : Queue α) (number : Nat) : Option (Item α) :=
  if number < queue.left then none else queue.items[number]?

/-- A queue with one array changed, unless that one has left. -/
def change (queue : Queue α) (number : Nat) (next : Item α → Item α) : Queue α :=
  if number < queue.left then queue
  else { queue with items := queue.items.modify number next }

/-- What a queue answers to a request, and what it is afterwards. -/
inductive Step (queue : Queue α) : Request α → Answer α → Queue α → Prop where
  /-- A new array may find no room. -/
  | refuse (size : Nat) (tag : α) : Step queue (.alloc size tag) (.allocated none) queue
  /-- Or it enters behind the others, with any bytes. -/
  | enter (size : Nat) (tag : α) (bytes : List UInt8) (length : bytes.length = size) :
    Step queue (.alloc size tag) (.allocated (some queue.items.length))
      { queue with items := queue.items ++ [{ size, tag, bytes }] }
  /-- The array that has waited longest leaves. -/
  | release (item : Item α) (oldest : queue.live? queue.left = some item) :
    Step queue .pop (.released (some (item.size, item.tag))) { queue with left := queue.left + 1 }
  /-- Nothing leaves when nothing waits. -/
  | idle (empty : queue.live? queue.left = none) : Step queue .pop (.released none) queue
  | front : Step queue .front
      (.front ((queue.live? queue.left).map fun item => (queue.left, item.tag))) queue
  | tag (number : Nat) : Step queue (.tag number) (.tag ((queue.live? number).map (·.tag))) queue
  | bytes (number : Nat) :
    Step queue (.bytes number) (.bytes ((queue.live? number).map (·.bytes))) queue
  /-- Bytes are written over those of one array; what goes beyond its end is left out. -/
  | write (number position : Nat) (bytes : List UInt8) :
    Step queue (.write number position bytes) (.changed (queue.live? number).isSome)
      (queue.change number fun item => { item with bytes := overlay item.bytes position bytes })
  | setTag (number : Nat) (tag : α) :
    Step queue (.setTag number tag) (.changed (queue.live? number).isSome)
      (queue.change number fun item => { item with tag })

/-- The number and the size of a record that was allocated. -/
def admitted? : Request α × Answer α → Option (Nat × Nat)
  | (.alloc size _, .allocated (some number)) => some (number, size)
  | _ => none

/-- The size of a record that was released. -/
def released? : Request α × Answer α → Option Nat
  | (_, .released (some (size, _))) => some size
  | _ => none

/-- What happens to a queue over some requests and their answers. -/
inductive Run : Queue α → List (Request α × Answer α) → Queue α → Prop where
  | nil (queue : Queue α) : Run queue [] queue
  | cons {first next last : Queue α} {request : Request α} {answer : Answer α}
      {history : List (Request α × Answer α)} (step : Step first request answer next)
      (run : Run next history last) : Run first ((request, answer) :: history) last

variable {queue next : Queue α} {request : Request α} {answer : Answer α}

theorem live?_eq_some {number : Nat} {item : Item α} :
    queue.live? number = some item ↔ queue.left ≤ number ∧ queue.items[number]? = some item := by
  unfold live?
  by_cases gone : number < queue.left
  · simp [gone, Nat.not_le_of_lt gone]
  · simp [gone, Nat.le_of_not_lt gone]

@[simp] theorem change_left (queue : Queue α) (number : Nat) (change : Item α → Item α) :
    (queue.change number change).left = queue.left := by
  unfold Queue.change
  split <;> rfl

theorem change_getElem? (queue : Queue α) (number : Nat) (change : Item α → Item α) (index : Nat) :
    (queue.change number change).items[index]? =
      if queue.left ≤ number ∧ number = index then queue.items[index]?.map change
      else queue.items[index]? := by
  unfold Queue.change
  by_cases gone : number < queue.left
  · simp [gone, Nat.not_le_of_lt gone]
  · by_cases here : number = index
    · subst here
      simp [gone, Nat.le_of_not_lt gone]
    · simp [gone, here]

/-- A change of an array that has not left leaves those before and behind it. -/
theorem change_middle {front back : List (Item α)} {item : Item α}
    (cut : queue.items = front ++ item :: back) (waits : queue.left ≤ front.length)
    (change : Item α → Item α) :
    queue.change front.length change = { queue with items := front ++ change item :: back } := by
  unfold Queue.change
  rw [if_neg (Nat.not_lt_of_le waits), cut]
  simp [List.modify_eq_take_drop]

/-- A change of one array keeps what it does not change of any. -/
theorem change_map {β : Type} (queue : Queue α) (number : Nat) {change : Item α → Item α}
    {view : Item α → β} (same : ∀ item, view (change item) = view item) :
    (queue.change number change).items.map view = queue.items.map view := by
  apply List.ext_getElem?
  intro index
  rw [List.getElem?_map, List.getElem?_map, change_getElem?]
  split
  · cases queue.items[index]? <;> simp [same]
  · rfl

theorem live?_change (queue : Queue α) (number : Nat) (change : Item α → Item α) (other : Nat) :
    (queue.change number change).live? other =
      if number = other then (queue.live? other).map change else queue.live? other := by
  unfold live?
  rw [change_left, change_getElem?]
  by_cases gone : other < queue.left
  · simp [gone]
  · by_cases here : number = other
    · simp [gone, here, Nat.le_of_not_lt gone]
    · simp [gone, here]

/-! ### What the answers of a run say -/

/-- The sizes that were asked for, in the order of entering. -/
def sizes (queue : Queue α) : List Nat := queue.items.map (·.size)

/-- An array is live from its entering until it leaves. -/
theorem live?_isSome (queue : Queue α) (number : Nat) :
    (queue.live? number).isSome = true ↔ queue.left ≤ number ∧ number < queue.sizes.length := by
  rw [Option.isSome_iff_exists, sizes, List.length_map]
  constructor
  · rintro ⟨item, live⟩
    obtain ⟨waits, found⟩ := live?_eq_some.mp live
    obtain ⟨inside, -⟩ := List.getElem?_eq_some_iff.mp found
    exact ⟨waits, inside⟩
  · rintro ⟨waits, inside⟩
    exact ⟨_, live?_eq_some.mpr ⟨waits, List.getElem?_eq_getElem inside⟩⟩

@[simp] theorem sizes_write (queue : Queue α) (number position : Nat) (bytes : List UInt8) :
    (queue.change number fun item =>
      { item with bytes := overlay item.bytes position bytes }).sizes = queue.sizes :=
  change_map queue number fun _ => rfl

@[simp] theorem sizes_setTag (queue : Queue α) (number : Nat) (tag : α) :
    (queue.change number fun item => { item with tag }).sizes = queue.sizes :=
  change_map queue number fun _ => rfl

theorem Step.admitted (step : Step queue request answer next) :
    queue.sizes.mapIdx Prod.mk ++ (admitted? (request, answer)).toList =
      next.sizes.mapIdx Prod.mk := by
  cases step with
  | enter size tag bytes length => simp [sizes, admitted?, List.mapIdx_append]
  | write | setTag => simp [admitted?]
  | refuse | release | idle | front | tag | bytes => exact List.append_nil _

/-- Only what has entered leaves, and it leaves in the order of entering. -/
theorem Step.released (step : Step queue request answer next)
    (entered : queue.left ≤ queue.sizes.length) :
    next.left ≤ next.sizes.length ∧
      queue.sizes.take queue.left ++ (released? (request, answer)).toList =
        next.sizes.take next.left := by
  cases step with
  | enter size tag bytes length =>
    have more : queue.left ≤ (queue.sizes ++ [size]).length := by
      rw [List.length_append]
      exact Nat.le_add_right_of_le entered
    have same : (queue.sizes ++ [size]).take queue.left = queue.sizes.take queue.left :=
      List.take_append_of_le_length entered
    simpa [sizes, released?] using And.intro more same.symm
  | release item oldest =>
    obtain ⟨-, found⟩ := live?_eq_some.mp oldest
    obtain ⟨inside, -⟩ := List.getElem?_eq_some_iff.mp found
    refine ⟨by rw [sizes, List.length_map]; exact inside, ?_⟩
    simp [sizes, released?, List.take_add_one, found]
  | write | setTag => simpa [released?] using entered
  | refuse | idle | front | tag | bytes => exact ⟨entered, List.append_nil _⟩

theorem Run.admitted {history : List (Request α × Answer α)} (run : Run queue history next) :
    queue.sizes.mapIdx Prod.mk ++ history.filterMap admitted? = next.sizes.mapIdx Prod.mk := by
  induction run with
  | nil => exact List.append_nil _
  | cons step run ih =>
    rw [← ih, ← step.admitted, List.append_assoc, List.filterMap_cons]
    cases admitted? _ <;> rfl

theorem Run.released {history : List (Request α × Answer α)} (run : Run queue history next)
    (entered : queue.left ≤ queue.sizes.length) :
    next.left ≤ next.sizes.length ∧
      queue.sizes.take queue.left ++ history.filterMap released? = next.sizes.take next.left := by
  induction run with
  | nil => exact ⟨entered, List.append_nil _⟩
  | cons step run ih =>
    obtain ⟨between, first⟩ := step.released entered
    obtain ⟨after, rest⟩ := ih between
    refine ⟨after, ?_⟩
    rw [← rest, ← first, List.append_assoc, List.filterMap_cons]
    cases released? _ <;> rfl

/-- A request that is not to change an array keeps it, unless the array leaves. -/
theorem Step.keeps (step : Step queue request answer next) {number : Nat}
    (other : ¬ request.changes number) (stays : request = .pop → number ≠ queue.left)
    {item : Item α} (live : queue.live? number = some item) : next.live? number = some item := by
  cases step with
  | enter size tag bytes length =>
    obtain ⟨waits, found⟩ := live?_eq_some.mp live
    obtain ⟨inside, -⟩ := List.getElem?_eq_some_iff.mp found
    exact live?_eq_some.mpr ⟨waits, by rw [List.getElem?_append_left inside]; exact found⟩
  | release oldest front =>
    obtain ⟨waits, found⟩ := live?_eq_some.mp live
    have later := stays rfl
    exact live?_eq_some.mpr ⟨by show queue.left + 1 ≤ number; omega, found⟩
  | write target position bytes =>
    rwa [live?_change, if_neg (show target ≠ number from other)]
  | setTag target tag =>
    rwa [live?_change, if_neg (show target ≠ number from other)]
  | refuse | idle | front | tag | bytes => exact live

end Queue

/-! ## A ring as a queue -/

/-- A ring shows the arrays of a queue that have not left. -/
structure Represents (ring : RingBuffer α) (queue : Queue α) : Prop where
  /-- No two records overlap. -/
  layout : ring.Layout
  /-- As many records were released as arrays have left. -/
  released : ring.released = queue.left
  /-- Only what has entered can leave. -/
  entered : queue.left ≤ queue.items.length
  /-- The records are the arrays that are left. -/
  cells : ring.cells = (queue.items.drop queue.left).map fun item => (item.tag, item.bytes)
  /-- Every array has the size it was asked for with. -/
  sized : ∀ item ∈ queue.items, item.bytes.length = item.size

variable {ring next : RingBuffer α} {queue : Queue α}

theorem represents_empty (capacity : Nat) :
    Represents (RingBuffer.empty capacity : RingBuffer α) Queue.empty :=
  ⟨layout_empty capacity, rfl, Nat.le_refl _, rfl, by simp [Queue.empty]⟩

theorem Represents.record? (represents : Represents ring queue) (number : Nat) :
    (ring.record? number).map (fun record => (record.tag, ring.bytesOf record.extent)) =
      (queue.live? number).map fun item => (item.tag, item.bytes) := by
  unfold RingBuffer.record? Queue.live?
  rw [represents.released]
  by_cases gone : number < queue.left
  · rw [if_pos gone, if_pos gone]
    rfl
  · have position : queue.left + (number - queue.left) = number := by omega
    have shown := congrArg (·[number - queue.left]?) represents.cells
    simpa [gone, RingBuffer.cells, position] using shown

theorem Represents.tag? (represents : Represents ring queue) (number : Nat) :
    ring.tag? number = (queue.live? number).map (·.tag) := by
  have same := congrArg (Option.map Prod.fst) (represents.record? number)
  simpa [RingBuffer.tag?, Function.comp_def] using same

theorem Represents.bytes? (represents : Represents ring queue) (number : Nat) :
    ring.bytes? number = (queue.live? number).map (·.bytes) := by
  have same := congrArg (Option.map Prod.snd) (represents.record? number)
  simpa [RingBuffer.bytes?, Function.comp_def] using same

theorem Represents.isSome (represents : Represents ring queue) (number : Nat) :
    (ring.record? number).isSome = (queue.live? number).isSome := by
  have same := congrArg Option.isSome (represents.record? number)
  simpa using same

/-- The oldest array stands at the front of the ring. -/
theorem Represents.front (represents : Represents ring queue) :
    ring.cells.head? = (queue.live? queue.left).map fun item => (item.tag, item.bytes) := by
  rw [represents.cells, List.head?_map, List.head?_drop, Queue.live?, if_neg (Nat.lt_irrefl _)]

/-- When a cell of the ring and the array of its number change alike, nothing else differs. -/
theorem Represents.recell (represents : Represents ring queue) {number : Nat}
    {older newer : List (α × List UInt8)} {cell other : α × List UInt8}
    (stands : ring.Stands number older cell newer) (becomes : next.Stands number older other newer)
    (layout : next.Layout) (released : next.released = ring.released) {change : Item α → Item α}
    (sizes : ∀ item, (change item).size = item.size)
    (lengths : ∀ item, (change item).bytes.length = item.bytes.length)
    (same : ∀ item, (item.tag, item.bytes) = cell →
      ((change item).tag, (change item).bytes) = other) :
    Represents next (queue.change number change) := by
  -- the cell cuts the items into those that have left, older ones, its own, and newer ones
  have shown := represents.cells.symm.trans stands.cells
  obtain ⟨front, tail, live, rfl, rest⟩ := List.map_eq_append_iff.mp shown
  obtain ⟨item, back, rfl, rfl, rfl⟩ := List.map_eq_cons_iff.mp rest
  have gone : (queue.items.take queue.left).length = queue.left :=
    List.length_take_of_le represents.entered
  have cut : queue.items = (queue.items.take queue.left ++ front) ++ item :: back := by
    rw [List.append_assoc, ← live, List.take_append_drop]
  have position : number = (queue.items.take queue.left ++ front).length := by
    rw [stands.number, List.length_map, List.length_append, gone, represents.released]
  rw [position, Queue.change_middle cut (by rw [List.length_append, gone]; exact Nat.le_add_right _ _)]
  have changed : (queue.items.take queue.left ++ front ++ change item :: back).drop queue.left =
      front ++ change item :: back := by
    rw [List.append_assoc, List.drop_left' gone]
  refine ⟨layout, released.trans represents.released, ?_, ?_, ?_⟩
  · show queue.left ≤ (queue.items.take queue.left ++ front ++ change item :: back).length
    rw [List.append_assoc, List.length_append, gone]
    exact Nat.le_add_right _ _
  · show next.cells =
      ((queue.items.take queue.left ++ front ++ change item :: back).drop queue.left).map _
    rw [becomes.cells, changed, List.map_append, List.map_cons, same item rfl]
  · have all := represents.sized
    rw [cut] at all
    obtain ⟨before, here, behind⟩ : _ ∧ _ ∧ ∀ other ∈ back, other.bytes.length = other.size := by
      simpa only [List.forall_mem_append, List.forall_mem_cons] using all
    refine List.forall_mem_append.mpr ⟨?_, List.forall_mem_cons.mpr ⟨?_, behind⟩⟩
    · exact List.forall_mem_append.mpr before
    · rw [lengths, sizes, here]

/-- A request changes the ring, or not, and is answered. -/
def perform (ring : RingBuffer α) : Request α → RingBuffer α × Answer α
  | .alloc size tag =>
    match ring.alloc? size tag with
    | some (number, next) => (next, .allocated (some number))
    | none => (ring, .allocated none)
  | .pop =>
    match ring.pop? with
    | some (record, next) => (next, .released (some (record.extent.size, record.tag)))
    | none => (ring, .released none)
  | .front => (ring, .front (ring.front?.map fun (number, record) => (number, record.tag)))
  | .tag number => (ring, .tag (ring.tag? number))
  | .bytes number => (ring, .bytes (ring.bytes? number))
  | .write number position bytes =>
    (ring.write number position bytes, .changed (ring.record? number).isSome)
  | .setTag number tag => (ring.setTag number tag, .changed (ring.record? number).isSome)

theorem Represents.alloc (represents : Represents ring queue) {size number : Nat} {tag : α}
    (allocated : ring.alloc? size tag = some (number, next)) :
    ∃ bytes, bytes.length = size ∧ number = queue.items.length ∧
      Represents next { queue with items := queue.items ++ [{ size, tag, bytes }] } := by
  obtain ⟨fresh, length, stands, released⟩ := alloc?_stands allocated
  have entered := represents.entered
  refine ⟨fresh, length, ?_, represents.layout.alloc allocated, ?_, ?_, ?_, ?_⟩
  · rw [stands.number, released, represents.released, represents.cells, List.length_map,
      List.length_drop]
    omega
  · rw [released, represents.released]
  · exact Nat.le_trans entered (by rw [List.length_append]; exact Nat.le_add_right _ _)
  · rw [stands.cells, represents.cells, List.drop_append_of_le_length entered, List.map_append]
    rfl
  · intro item member
    rcases List.mem_append.mp member with earlier | new
    · exact represents.sized item earlier
    · obtain rfl := List.mem_singleton.mp new
      exact length

theorem Represents.pop (represents : Represents ring queue) {record : Record α}
    (popped : ring.pop? = some (record, next)) :
    ∃ item, queue.live? queue.left = some item ∧ record.extent.size = item.size ∧
      record.tag = item.tag ∧ Represents next { queue with left := queue.left + 1 } := by
  have front := represents.front
  have cells := pop?_cells popped
  obtain ⟨-, released, -⟩ := pop?_eq_some popped
  rw [cells, List.head?_cons] at front
  obtain ⟨item, oldest, view⟩ := Option.map_eq_some_iff.mp front.symm
  obtain ⟨tag, bytes⟩ := Prod.mk.inj view
  obtain ⟨-, found⟩ := Queue.live?_eq_some.mp oldest
  obtain ⟨inside, rfl⟩ := List.getElem?_eq_some_iff.mp found
  refine ⟨_, oldest, ?_, tag.symm, represents.layout.pop popped, ?_, inside, ?_,
    represents.sized⟩
  · rw [← represents.sized _ (List.getElem_mem inside), bytes]
    exact (Region.read_length _ _ _).symm
  · rw [released, represents.released]
  · have all := cells.symm.trans represents.cells
    rw [List.drop_eq_getElem_cons inside, List.map_cons] at all
    exact (List.cons.inj all).2

/-- A change of what the ring does not show leaves what it shows. -/
theorem Represents.absent (represents : Represents ring queue) {number : Nat}
    (missing : ring.record? number = none) (change : Item α → Item α) :
    Represents ring (queue.change number change) := by
  have gone : queue.live? number = none := by
    have same := represents.isSome number
    rw [missing] at same
    exact Option.not_isSome_iff_eq_none.mp (by rw [← same]; exact Bool.false_ne_true)
  have same : queue.change number change = queue := by
    unfold Queue.change
    unfold Queue.live? at gone
    split
    · rfl
    · rename_i inside
      rw [if_neg inside, List.getElem?_eq_none_iff] at gone
      rw [List.modify_eq_self gone]
  rw [same]
  exact represents

theorem Represents.write (represents : Represents ring queue) (number position : Nat)
    (bytes : List UInt8) :
    Represents (ring.write number position bytes)
      (queue.change number fun item => { item with bytes := overlay item.bytes position bytes }) := by
  cases found : ring.record? number with
  | none =>
    have same : ring.write number position bytes = ring := by rw [RingBuffer.write, found]
    rw [same]
    exact represents.absent found _
  | some record =>
    obtain ⟨older, newer, stands⟩ := exists_stands found
    refine represents.recell stands (stands.write represents.layout position bytes)
      (represents.layout.write number position bytes) ?_ (fun _ => rfl)
      (fun _ => overlay_length _ _ _) ?_
    · rw [RingBuffer.write, found]
    · intro item view
      rw [← view]

theorem Represents.setTag (represents : Represents ring queue) (number : Nat) (tag : α) :
    Represents (ring.setTag number tag) (queue.change number fun item => { item with tag }) := by
  cases found : ring.record? number with
  | none =>
    have same : ring.setTag number tag = ring := by rw [RingBuffer.setTag, found]
    rw [same]
    exact represents.absent found _
  | some record =>
    obtain ⟨older, newer, stands⟩ := exists_stands found
    refine represents.recell stands (stands.setTag tag) (represents.layout.setTag number tag) ?_
      (fun _ => rfl) (fun _ => rfl) ?_
    · rw [RingBuffer.setTag, found]
    · intro item view
      rw [← view]

/-- Whatever is asked, the ring answers like the queue it represents. -/
theorem Represents.step (represents : Represents ring queue) (request : Request α) :
    ∃ after, Queue.Step queue request (ring.perform request).2 after ∧
      Represents (ring.perform request).1 after := by
  cases request with
  | alloc size tag =>
    cases allocated : ring.alloc? size tag with
    | none =>
      simp only [perform, allocated]
      exact ⟨queue, .refuse size tag, represents⟩
    | some pair =>
      obtain ⟨number, next⟩ := pair
      obtain ⟨bytes, length, rfl, after⟩ := represents.alloc allocated
      simp only [perform, allocated]
      exact ⟨_, .enter size tag bytes length, after⟩
  | pop =>
    cases popped : ring.pop? with
    | none =>
      simp only [perform, popped]
      have front := represents.front
      rw [pop?_eq_none.mp popped] at front
      exact ⟨queue, .idle (Option.map_eq_none_iff.mp front.symm), represents⟩
    | some pair =>
      obtain ⟨record, next⟩ := pair
      obtain ⟨item, oldest, size, tag, after⟩ := represents.pop popped
      simp only [perform, popped, size, tag]
      exact ⟨_, .release item oldest, after⟩
  | front =>
    have shown : ring.front?.map (fun (number, record) => (number, record.tag)) =
        (queue.live? queue.left).map fun item => (queue.left, item.tag) := by
      have front := congrArg (Option.map fun cell => (queue.left, cell.1)) represents.front
      simpa [RingBuffer.front?, RingBuffer.cells, represents.released, Function.comp_def] using front
    refine ⟨queue, ?_, represents⟩
    rw [perform, shown]
    exact .front
  | tag number =>
    refine ⟨queue, ?_, represents⟩
    rw [perform, represents.tag?]
    exact .tag number
  | bytes number =>
    refine ⟨queue, ?_, represents⟩
    rw [perform, represents.bytes?]
    exact .bytes number
  | write number position bytes =>
    refine ⟨_, ?_, represents.write number position bytes⟩
    rw [perform, represents.isSome]
    exact .write number position bytes
  | setTag number tag =>
    refine ⟨_, ?_, represents.setTag number tag⟩
    rw [perform, represents.isSome]
    exact .setTag number tag

/-- Requests are made one after another, and each is noted with its answer. -/
def serve (ring : RingBuffer α) : List (Request α) → RingBuffer α × List (Request α × Answer α)
  | [] => (ring, [])
  | request :: rest =>
    let (next, answer) := ring.perform request
    let (last, history) := next.serve rest
    (last, (request, answer) :: history)

theorem Represents.serve (represents : Represents ring queue) (requests : List (Request α)) :
    ∃ after, Queue.Run queue (ring.serve requests).2 after ∧
      Represents (ring.serve requests).1 after := by
  induction requests generalizing ring queue with
  | nil => exact ⟨queue, .nil queue, represents⟩
  | cons request rest ih =>
    obtain ⟨next, step, between⟩ := represents.step request
    obtain ⟨last, run, after⟩ := ih between
    exact ⟨last, .cons step run, after⟩

/-! ## What follows for a ring -/

theorem Represents.live (represents : Represents ring queue) (number : Nat) :
    ((ring.tag? number).isSome = true ↔ queue.left ≤ number ∧ number < queue.sizes.length) ∧
      ((ring.bytes? number).isSome = true ↔ queue.left ≤ number ∧ number < queue.sizes.length) := by
  rw [represents.tag?, represents.bytes?, Option.isSome_map, Option.isSome_map,
    Queue.live?_isSome]
  exact ⟨Iff.rfl, Iff.rfl⟩

theorem Represents.bytes?_length (represents : Represents ring queue) {number : Nat}
    {bytes : List UInt8} (shown : ring.bytes? number = some bytes) :
    queue.sizes[number]? = some bytes.length := by
  rw [represents.bytes?] at shown
  obtain ⟨item, live, rfl⟩ := Option.map_eq_some_iff.mp shown
  obtain ⟨-, found⟩ := Queue.live?_eq_some.mp live
  rw [represents.sized item (List.mem_of_getElem? found), Queue.sizes, List.getElem?_map, found]
  rfl

theorem Represents.pop_answer (represents : Represents ring queue) {size : Nat} {tag : α}
    (answer : (ring.perform .pop).2 = .released (some (size, tag))) :
    queue.sizes[queue.left]? = some size ∧ ring.tag? queue.left = some tag := by
  obtain ⟨next, step, -⟩ := represents.step .pop
  rw [answer] at step
  cases step with
  | release item oldest =>
    obtain ⟨-, found⟩ := Queue.live?_eq_some.mp oldest
    rw [represents.tag?, oldest, Queue.sizes, List.getElem?_map, found]
    exact ⟨rfl, rfl⟩

theorem Represents.keeps (represents : Represents ring queue) {request : Request α} {number : Nat}
    (other : ¬ request.changes number) (stays : request = .pop → number ≠ queue.left)
    (waits : queue.left ≤ number) (inside : number < queue.sizes.length) :
    (ring.perform request).1.tag? number = ring.tag? number ∧
      (ring.perform request).1.bytes? number = ring.bytes? number := by
  obtain ⟨next, step, after⟩ := represents.step request
  obtain ⟨item, live⟩ := Option.isSome_iff_exists.mp
    ((Queue.live?_isSome queue number).mpr ⟨waits, inside⟩)
  have kept := step.keeps other stays live
  rw [after.tag?, after.bytes?, represents.tag?, represents.bytes?, kept, live]
  exact ⟨rfl, rfl⟩

/-- Whatever is asked of an empty ring, its answers are those of a queue of independent arrays. So
the arrays are numbered as they are admitted; they are released in that order, with the sizes they
were admitted with and the tags they have; the live ones are those admitted and not yet released; and
no request changes another array than its own. -/
theorem serve_refines_queue (capacity : Nat) (requests : List (Request α)) :
    let ring := ((RingBuffer.empty capacity).serve requests).1
    let history := ((RingBuffer.empty capacity).serve requests).2
    let admitted := history.filterMap Queue.admitted?
    let released := history.filterMap Queue.released?
    (∃ queue, Queue.Run Queue.empty history queue ∧
      (∀ number, ring.tag? number = (queue.live? number).map (·.tag)) ∧
      ∀ number, ring.bytes? number = (queue.live? number).map (·.bytes)) ∧
    (∀ index number size : Nat, admitted[index]? = some (number, size) → number = index) ∧
    released <+: admitted.map (·.2) ∧
    (∀ (size : Nat) (tag : α), (ring.perform .pop).2 = .released (some (size, tag)) →
      admitted[released.length]? = some (released.length, size) ∧
        ring.tag? released.length = some tag) ∧
    (∀ number : Nat,
      ((ring.tag? number).isSome = true ↔
        released.length ≤ number ∧ number < admitted.length) ∧
      ((ring.bytes? number).isSome = true ↔
        released.length ≤ number ∧ number < admitted.length)) ∧
    (∀ (number : Nat) (bytes : List UInt8), ring.bytes? number = some bytes →
      admitted[number]? = some (number, bytes.length)) ∧
    ∀ (request : Request α) (number : Nat), ¬ request.changes number →
      (request = .pop → number ≠ released.length) →
      released.length ≤ number → number < admitted.length →
      (ring.perform request).1.tag? number = ring.tag? number ∧
        (ring.perform request).1.bytes? number = ring.bytes? number := by
  intro ring history admitted released
  obtain ⟨queue, run, represents⟩ := (represents_empty capacity).serve requests
  obtain ⟨within, left⟩ := run.released (Nat.le_refl _)
  have entered : admitted = queue.sizes.mapIdx Prod.mk := run.admitted
  have left : released = queue.sizes.take queue.left := left
  have admittedLength : admitted.length = queue.sizes.length := by rw [entered, List.length_mapIdx]
  have releasedLength : released.length = queue.left := by rw [left, List.length_take_of_le within]
  have admittedSizes : admitted.map (·.2) = queue.sizes := by
    apply List.ext_getElem?
    intro index
    rw [entered, List.getElem?_map, List.getElem?_mapIdx]
    cases queue.sizes[index]? <;> rfl
  have admittedAt {number size : Nat} (found : queue.sizes[number]? = some size) :
      admitted[number]? = some (number, size) := by
    rw [entered, List.getElem?_mapIdx, found, Option.map_some]
  rw [releasedLength, admittedLength, admittedSizes]
  refine ⟨⟨queue, run, represents.tag?, represents.bytes?⟩, ?numbered, ?order, ?oldest,
    represents.live, fun number bytes shown => admittedAt (represents.bytes?_length shown),
    fun request number other stays => represents.keeps other stays⟩
  case numbered =>
    intro index number size found
    rw [entered, List.getElem?_mapIdx] at found
    obtain ⟨_, -, same⟩ := Option.map_eq_some_iff.mp found
    exact (congrArg Prod.fst same).symm
  case order =>
    rw [left]
    exact List.take_prefix queue.left queue.sizes
  case oldest =>
    intro size tag answer
    obtain ⟨found, shown⟩ := represents.pop_answer answer
    exact ⟨admittedAt found, shown⟩

/-- Two records fill a ring. A third finds room once the oldest is released, and shows the bytes that
were written there. What is written beyond the end of the second is left out. -/
example :
    let (ring, history) := (RingBuffer.empty 8).serve
      [.alloc 3 'a', .write 0 0 [1, 2, 3], .alloc 3 'b', .alloc 2 'c', .pop, .alloc 2 'd',
        .write 1 1 [7, 8, 9]]
    history.filterMap Queue.admitted? = [(0, 3), (1, 3), (2, 2)] ∧
      [0, 1, 2, 3].map ring.tag? = [none, some 'b', some 'd', none] ∧
      [0, 1, 2, 3].map ring.bytes? = [none, some [0, 7, 8], some [1, 2], none] := by
  decide +kernel

end MetricPipeline.RingBuffer
