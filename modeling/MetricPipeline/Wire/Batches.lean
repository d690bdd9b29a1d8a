import MetricPipeline.Wire.Reader

/-!
Reading a run of batches to its end.

Every reader leaves no more bytes than it found, and a batch takes at least its tag. So the bytes get
fewer with each batch, and reading batches until no byte is left comes to an end.
-/

namespace MetricPipeline.Wire

/-- A reader that succeeds leaves no more bytes than it found. -/
def Shrinks {α : Type} (reader : Reader α) : Prop :=
  ∀ cursor value next, reader cursor = .ok (value, next) → next.rest.length ≤ cursor.rest.length

/-- Two readers in a row succeed when both do. -/
theorem bind_eq_ok {α β : Type} {reader : Reader α} {follow : α → Reader β} {cursor next : Cursor}
    {value : β} : (reader >>= follow) cursor = .ok (value, next) ↔
      ∃ first between, reader cursor = .ok (first, between) ∧
        follow first between = .ok (value, next) := by
  constructor
  · intro both
    cases read : reader cursor with
    | error fault =>
      simp only [bind, StateT.bind, Except.bind, read] at both
      cases both
    | ok pair =>
      obtain ⟨first, between⟩ := pair
      simp only [bind, StateT.bind, Except.bind, read] at both
      exact ⟨first, between, rfl, both⟩
  · rintro ⟨first, between, read, followed⟩
    simp only [bind, StateT.bind, Except.bind, read]
    exact followed

/-- A reader that takes nothing. -/
theorem pure_eq_ok {α : Type} {value result : α} {cursor next : Cursor} :
    (pure value : Reader α) cursor = .ok (result, next) ↔ result = value ∧ next = cursor := by
  constructor
  · intro succeeded
    cases succeeded
    exact ⟨rfl, rfl⟩
  · rintro ⟨rfl, rfl⟩
    rfl

/-- A failing reader does not succeed. -/
theorem throw_ne_ok {α : Type} {fault : DecodeError} {cursor next : Cursor} {value : α} :
    (throw fault : Reader α) cursor ≠ .ok (value, next) := by
  intro succeeded
  cases succeeded

/-- The parts of a list that is cut after a number of bytes. -/
theorem splitBytes?_eq_some {count : Nat} {bytes front back : List UInt8}
    (cut : splitBytes? count bytes = some (front, back)) :
    front.length = count ∧ front ++ back = bytes := by
  induction count generalizing bytes front back with
  | zero =>
    simp only [splitBytes?, Option.some.injEq, Prod.mk.injEq] at cut
    obtain ⟨rfl, rfl⟩ := cut
    exact ⟨rfl, rfl⟩
  | succ count ih =>
    cases bytes with
    | nil => simp [splitBytes?] at cut
    | cons byte bytes =>
      simp only [splitBytes?, Option.map_eq_some_iff, Prod.exists, Prod.mk.injEq] at cut
      obtain ⟨front', back', cut', rfl, rfl⟩ := cut
      obtain ⟨length, whole⟩ := ih cut'
      exact ⟨by simp [length], by simp [whole]⟩

/-- Reading bytes takes exactly those bytes. -/
theorem takeBytes_length {count : Nat} {cursor next : Cursor} {bytes : List UInt8}
    (read : takeBytes count cursor = .ok (bytes, next)) :
    next.rest.length + count = cursor.rest.length := by
  unfold takeBytes at read
  split at read
  · rename_i front back cut
    simp only [Except.ok.injEq, Prod.mk.injEq] at read
    obtain ⟨rfl, rfl⟩ := read
    obtain ⟨length, whole⟩ := splitBytes?_eq_some cut
    rw [← whole, List.length_append, length]
    exact Nat.add_comm _ _
  · cases read

theorem Shrinks.takeBytes (count : Nat) : Shrinks (takeBytes count) := by
  intro cursor bytes next read
  have := takeBytes_length read
  omega

theorem Shrinks.pure {α : Type} (value : α) : Shrinks (pure value) := by
  intro cursor result next read
  obtain ⟨_, rfl⟩ := pure_eq_ok.1 read
  exact Nat.le_refl _

theorem Shrinks.throw {α : Type} (fault : DecodeError) :
    Shrinks (throw fault : Reader α) := fun _ _ _ read => absurd read throw_ne_ok

theorem Shrinks.get : Shrinks (get : Reader Cursor) := by
  intro cursor result next read
  cases read
  exact Nat.le_refl _

theorem Shrinks.bind {α β : Type} {reader : Reader α} {follow : α → Reader β}
    (first : Shrinks reader) (second : ∀ value, Shrinks (follow value)) :
    Shrinks (reader >>= follow) := by
  intro cursor value next both
  obtain ⟨middle, between, read, followed⟩ := bind_eq_ok.1 both
  exact Nat.le_trans (second _ _ _ _ followed) (first _ _ _ read)

theorem Shrinks.readMany {α : Type} {reader : Reader α} (one : Shrinks reader) (count : Nat) :
    Shrinks (readMany reader count) := by
  induction count with
  | zero => exact Shrinks.pure _
  | succ count ih => exact one.bind fun _ => ih.bind fun _ => Shrinks.pure _

theorem Shrinks.readWord32 : Shrinks readWord32 := (Shrinks.takeBytes 4).bind fun _ => Shrinks.pure _

theorem Shrinks.readWord64 : Shrinks readWord64 := (Shrinks.takeBytes 8).bind fun _ => Shrinks.pure _

theorem Shrinks.readStringLength : Shrinks readStringLength := by
  refine (Shrinks.takeBytes 1).bind fun first => ?_
  split
  · exact (Shrinks.takeBytes 3).bind fun _ => Shrinks.pure _
  · exact Shrinks.pure _

theorem Shrinks.readString : Shrinks readString := by
  refine Shrinks.get.bind fun _ => Shrinks.readStringLength.bind fun _ =>
    (Shrinks.takeBytes _).bind fun _ => (Shrinks.takeBytes _).bind fun _ => ?_
  split
  · exact Shrinks.pure _
  · exact Shrinks.throw _

theorem Shrinks.readDimension : Shrinks readDimension :=
  Shrinks.readString.bind fun _ => Shrinks.readString.bind fun _ => Shrinks.pure _

theorem Shrinks.readSamples (kind : Kind) : Shrinks (readSamples kind) := by
  cases kind
  · exact Shrinks.readWord64.bind fun _ => Shrinks.pure _
  · exact Shrinks.readWord32.bind fun _ => (Shrinks.readMany Shrinks.readWord64 _).bind fun _ =>
      Shrinks.pure _
  · exact Shrinks.readWord32.bind fun _ => (Shrinks.readMany Shrinks.readWord64 _).bind fun _ =>
      Shrinks.pure _

theorem Shrinks.readEvent : Shrinks readEvent := by
  refine Shrinks.readWord32.bind fun mask => ?_
  split
  · exact Shrinks.throw _
  · exact Shrinks.readString.bind fun _ => Shrinks.readWord32.bind fun _ =>
      (Shrinks.readMany Shrinks.readDimension _).bind fun _ => (Shrinks.readSamples _).bind fun _ =>
        Shrinks.pure _

theorem Shrinks.readBatchBody : Shrinks readBatchBody :=
  Shrinks.readWord32.bind fun _ => Shrinks.readWord32.bind fun _ =>
    Shrinks.readMany Shrinks.readEvent _

/-- A batch takes at least one byte. -/
theorem readBatch_length {cursor next : Cursor} {events : List Event}
    (read : readBatch cursor = .ok (events, next)) :
    next.rest.length < cursor.rest.length := by
  obtain ⟨tag, afterTag, tagRead, bodyRead⟩ := bind_eq_ok.1 read
  obtain ⟨bytes, afterBytes, taken, wordRead⟩ := bind_eq_ok.1 tagRead
  obtain ⟨_, rfl⟩ := pure_eq_ok.1 wordRead
  have length := takeBytes_length taken
  have shrinks : next.rest.length ≤ afterTag.rest.length := by
    split at bodyRead
    · exact absurd bodyRead throw_ne_ok
    · exact Shrinks.readBatchBody _ _ _ bodyRead
  omega

/-- Reads batches until no byte is left. -/
def readBatches (cursor : Cursor) : Except DecodeError (List Event) :=
  if cursor.rest = [] then .ok []
  else
    match _read : readBatch cursor with
    | .error fault => .error fault
    | .ok (events, next) =>
      match readBatches next with
      | .error fault => .error fault
      | .ok others => .ok (events ++ others)
termination_by cursor.rest.length
decreasing_by exact readBatch_length _read

/-- The events of a datagram: those of all its batches, in order. -/
def decode (bytes : List UInt8) : Except DecodeError (List Event) :=
  readBatches { rest := bytes, offset := 0 }

end MetricPipeline.Wire
