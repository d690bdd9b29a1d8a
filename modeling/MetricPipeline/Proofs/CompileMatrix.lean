import Mathlib.Data.List.Basic
import Mathlib.Order.MinMax
import MetricPipeline.Compile

/-!
The events of a definition form a matrix.

The events are built slot by slot: a dimension that is not split goes to all events there are, one
that is split is spread over them and may make up further events, which are then given the
dimensions they missed. What comes out does not depend on this order of work. There is a column for
every item of the value and of each split dimension, and every column takes from each slot, in
ascending order, the cell that the slot has for it.
-/

namespace MetricPipeline

/-! ## Chains that may fail -/

theorem chain_eq_ok {ε α β : Type} {first : Except ε α} {follow : α → Except ε β} {last : β} :
    (first >>= follow) = .ok last ↔ ∃ middle, first = .ok middle ∧ follow middle = .ok last := by
  cases first <;> simp [bind, Except.bind]

theorem mapError_eq_ok {ε ε' α : Type} {outcome : Except ε α} {wrap : ε → ε'} {result : α} :
    outcome.mapError wrap = .ok result ↔ outcome = .ok result := by
  cases outcome <;> simp [Except.mapError]

/-! ## Adding dimensions while there is room -/

namespace Event

theorem addDimension_of_lt {event : Event} (dimension : Dimension)
    (room : event.dimensions.length < maxDimensions) :
    event.addDimension dimension =
      { event with dimensions := event.dimensions ++ [dimension] } := by
  rw [addDimension, addDimension?, if_neg (Nat.not_le_of_lt room), Option.getD_some]

theorem foldl_addDimension (event : Event) (dimensions : List Dimension)
    (room : event.dimensions.length + dimensions.length ≤ maxDimensions) :
    dimensions.foldl addDimension event =
      { event with dimensions := event.dimensions ++ dimensions } := by
  induction dimensions generalizing event with
  | nil => simp
  | cons dimension rest ih =>
    rw [List.length_cons] at room
    rw [List.foldl_cons, addDimension_of_lt dimension (by omega), ih]
    · simp
    · simp only [List.length_append, List.length_singleton]
      omega

end Event

/-! ## Cells and columns -/

namespace ResolvedDimension

/-- What an event in a column gets from a dimension: its item in this column or its whole text,
unless that counts as empty. -/
def cell? (resolved : ResolvedDimension) (limit column : Nat) : Option Dimension :=
  if resolved.split then
    match (resolved.items limit)[column]? with
    | some item => if Compound.isEmptyValue item then none else some ⟨resolved.key, item⟩
    | none => none
  else resolved.whole?

/-- How many columns a dimension needs. -/
def width (resolved : ResolvedDimension) (limit : Nat) : Nat :=
  if resolved.split then (resolved.items limit).length else 0

variable {resolved : ResolvedDimension} {limit : Nat}

theorem width_le (resolved : ResolvedDimension) (limit : Nat) : resolved.width limit ≤ limit := by
  unfold width items
  split
  · split
    · exact Nat.zero_le limit
    · exact List.length_take_le ..
  · exact Nat.zero_le limit

/-- To the right of its items a dimension has the cells of a made-up event. -/
theorem cell?_of_width_le {column : Nat} (beyond : resolved.width limit ≤ column) :
    resolved.cell? limit column = resolved.whole? := by
  unfold width at beyond
  unfold cell?
  split
  · rename_i split
    rw [if_pos split] at beyond
    rw [List.getElem?_eq_none beyond, whole?, if_pos (Or.inl split)]
  · rfl

theorem addItem_eq {column : Nat} {item : String} {event : Event} (split : resolved.split = true)
    (found : (resolved.items limit)[column]? = some item)
    (room : event.dimensions.length < maxDimensions) :
    resolved.addItem event item =
      { event with dimensions := event.dimensions ++ (resolved.cell? limit column).toList } := by
  rw [cell?, if_pos split, found, addItem]
  dsimp only
  split
  · simp
  · rw [Event.addDimension_of_lt _ room, Option.toList_some]

end ResolvedDimension

namespace Definition

/-- Spreading items changes the columns that have one, and the others not. -/
theorem spread_getElem? (resolved : ResolvedDimension) (blank : Event) (events : List Event)
    (items : List String) (column : Nat) :
    (spread resolved blank events items)[column]? =
      match items[column]? with
      | some item => some (resolved.addItem (events[column]?.getD blank) item)
      | none => events[column]? := by
  induction events, items using spread.induct generalizing column with
  | case1 events => simp [spread]
  | case2 item items ih =>
    cases column with
    | zero => simp [spread]
    | succ column => simpa [spread] using ih column
  | case3 event events item items ih =>
    cases column with
    | zero => simp [spread]
    | succ column => simpa [spread] using ih column

/-- How many columns there are: enough for those at the start and for every dimension. -/
def width (start limit : Nat) (dimensions : List ResolvedDimension) : Nat :=
  (dimensions.map (·.width limit)).foldl max start

/-- The event of a column. -/
def column (name : String) (samples : Nat → Samples) (limit : Nat)
    (dimensions : List ResolvedDimension) (index : Nat) : Event :=
  { name
    samples := samples index
    dimensions := dimensions.filterMap (·.cell? limit index) }

/-- The events of all columns. -/
def matrix (name : String) (samples : Nat → Samples) (start limit : Nat)
    (dimensions : List ResolvedDimension) : List Event :=
  (List.range (width start limit dimensions)).map (column name samples limit dimensions)

variable {name : String} {samples : Nat → Samples} {start limit : Nat}
  {earlier : List ResolvedDimension} {resolved : ResolvedDimension} {blank : Samples}

theorem width_append (start limit : Nat) (earlier : List ResolvedDimension)
    (resolved : ResolvedDimension) :
    width start limit (earlier ++ [resolved]) =
      max (width start limit earlier) (resolved.width limit) := by
  simp [width]

theorem start_le_width (start limit : Nat) (dimensions : List ResolvedDimension) :
    start ≤ width start limit dimensions := by
  unfold width
  induction dimensions generalizing start with
  | nil => exact Nat.le_refl start
  | cons first rest ih => exact Nat.le_trans (Nat.le_max_left ..) (ih _)

theorem width_of_mem {dimensions : List ResolvedDimension} (member : resolved ∈ dimensions) :
    resolved.width limit ≤ width start limit dimensions := by
  induction dimensions generalizing start with
  | nil => cases member
  | cons first rest ih =>
    rcases List.mem_cons.mp member with rfl | later
    · exact Nat.le_trans (Nat.le_max_right ..) (start_le_width _ limit rest)
    · exact ih later

theorem width_le (within : start ≤ limit) (dimensions : List ResolvedDimension) :
    width start limit dimensions ≤ limit := by
  unfold width
  induction dimensions generalizing start with
  | nil => exact within
  | cons first rest ih => exact ih (Nat.max_le.mpr ⟨within, first.width_le limit⟩)

theorem matrix_getElem? (index : Nat) :
    (matrix name samples start limit earlier)[index]? =
      if index < width start limit earlier then some (column name samples limit earlier index)
      else none := by
  rw [matrix, List.getElem?_map]
  split
  · rename_i inside
    rw [List.getElem?_range inside, Option.map_some]
  · rename_i outside
    rw [List.getElem?_eq_none (by simpa using outside), Option.map_none]

theorem column_append (name : String) (samples : Nat → Samples) (limit : Nat)
    (earlier : List ResolvedDimension) (resolved : ResolvedDimension) (index : Nat) :
    column name samples limit (earlier ++ [resolved]) index =
      { column name samples limit earlier index with
        dimensions := (column name samples limit earlier index).dimensions ++
          (resolved.cell? limit index).toList } := by
  simp [column, List.filterMap_append, List.filterMap_cons, List.filterMap_nil]
  cases resolved.cell? limit index <;> rfl

/-- A made-up event is what stands to the right of all columns. -/
theorem filler_eq_column (room : earlier.length ≤ maxDimensions)
    {index : Nat} (beyond : width start limit earlier ≤ index) (made : samples index = blank) :
    filler name blank earlier = column name samples limit earlier index := by
  have cells : earlier.filterMap ResolvedDimension.whole? =
      earlier.filterMap (·.cell? limit index) := by
    refine List.filterMap_congr fun resolved member => ?_
    exact (ResolvedDimension.cell?_of_width_le (Nat.le_trans (width_of_mem member) beyond)).symm
  have short := List.length_filterMap_le ResolvedDimension.whole? earlier
  have room : ([] : List Dimension).length +
      (earlier.filterMap ResolvedDimension.whole?).length ≤ maxDimensions := by
    rw [List.length_nil]
    omega
  rw [filler, Event.foldl_addDimension _ _ room, cells, column, made]
  rfl

/-- Events with one more dimension; the earlier ones are already there. -/
def addRow (name : String) (blank : Samples) (limit : Nat) (earlier : List ResolvedDimension)
    (resolved : ResolvedDimension) (events : List Event) : List Event :=
  if resolved.split then
    spread resolved (filler name blank earlier) events (resolved.items limit)
  else
    match resolved.whole? with
    | some dimension => events.map (·.addDimension dimension)
    | none => events

theorem addDimensions_cons (name : String) (blank : Samples) (limit : Nat)
    (earlier : List ResolvedDimension) (resolved : ResolvedDimension)
    (rest : List ResolvedDimension) (events : List Event) :
    addDimensions name blank limit earlier (resolved :: rest) events =
      addDimensions name blank limit (earlier ++ [resolved]) rest
        (addRow name blank limit earlier resolved events) := rfl

/-- One more dimension is one more row of the matrix. -/
theorem addRow_matrix (room : earlier.length < maxDimensions)
    (made : ∀ index, start ≤ index → samples index = blank) :
    addRow name blank limit earlier resolved (matrix name samples start limit earlier) =
      matrix name samples start limit (earlier ++ [resolved]) := by
  have fits : ∀ index,
      (column name samples limit earlier index).dimensions.length < maxDimensions := fun index =>
    Nat.lt_of_le_of_lt (List.length_filterMap_le _ earlier) room
  apply List.ext_getElem?
  intro index
  rw [matrix_getElem?, column_append, width_append, addRow]
  simp only [lt_max_iff]
  split
  · rename_i split
    have width : resolved.width limit = (resolved.items limit).length := by
      rw [ResolvedDimension.width, if_pos split]
    rw [spread_getElem?, matrix_getElem?, width]
    cases found : (resolved.items limit)[index]? with
    | none =>
      -- this column has no item of the dimension, so it stays as it was
      have outside := List.getElem?_eq_none_iff.mp found
      have none : resolved.cell? limit index = none := by
        rw [ResolvedDimension.cell?, if_pos split, found]
      simp only [none, Option.toList_none, List.append_nil, Nat.not_lt.mpr outside, or_false]
    | some item =>
      obtain ⟨inside, -⟩ := List.getElem?_eq_some_iff.mp found
      have event : (if index < Definition.width start limit earlier
          then some (column name samples limit earlier index) else none).getD
            (filler name blank earlier) = column name samples limit earlier index := by
        split
        · rfl
        · rename_i beyond
          have beyond := Nat.le_of_not_lt beyond
          exact filler_eq_column (Nat.le_of_lt room) beyond
            (made index (Nat.le_trans (start_le_width start limit earlier) beyond))
      dsimp only
      rw [event, if_pos (Or.inr inside), ResolvedDimension.addItem_eq split found (fits index)]
  · rename_i split
    have width : resolved.width limit = 0 := by rw [ResolvedDimension.width, if_neg split]
    have cell : resolved.cell? limit index = resolved.whole? := by
      rw [ResolvedDimension.cell?, if_neg split]
    rw [width, cell]
    simp only [Nat.not_lt_zero, or_false]
    cases resolved.whole? with
    | none => simp [matrix_getElem?]
    | some dimension =>
      simp only [List.getElem?_map, matrix_getElem?]
      split
      · simp [Event.addDimension_of_lt dimension (fits index)]
      · rfl

/-- So are all slots together. -/
theorem addDimensions_matrix {rest : List ResolvedDimension}
    (room : (earlier ++ rest).length ≤ maxDimensions)
    (made : ∀ index, start ≤ index → samples index = blank) :
    addDimensions name blank limit earlier rest (matrix name samples start limit earlier) =
      matrix name samples start limit (earlier ++ rest) := by
  induction rest generalizing earlier with
  | nil => rw [addDimensions, List.append_nil]
  | cons resolved rest ih =>
    have short : earlier.length < maxDimensions := by
      rw [List.length_append, List.length_cons] at room
      omega
    have next : (earlier ++ [resolved] ++ rest).length ≤ maxDimensions := by
      rwa [List.append_assoc, List.singleton_append]
    rw [addDimensions_cons, addRow_matrix short made, ih next, List.append_assoc,
      List.singleton_append]

end Definition

end MetricPipeline
