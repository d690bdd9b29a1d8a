import MetricPipeline.Proofs.WireSizes
import MetricPipeline.Transport

/-!
What a transport took is what it delivered and what still waits, in the order in which it was taken.

Flushes start in several places and may fail in each of them, so the order of events is not read off
the datagrams. It is kept beside the transport instead: every datagram is the records of a group of
events, the buffer is the records of the events after the last group, and all these events together
are the accepted ones. A flush that succeeds closes a group; nothing else moves a record.
-/

namespace MetricPipeline

/-- The records of events, one after another. -/
def Wire.records (events : List Event) : List UInt8 := events.flatMap Wire.recordBytes

namespace Transport

open Wire (records recordSize recordBytes)

/-! ## Accepted events -/

/-- How the accepted events are spread over the datagrams and the buffer of a transport. -/
structure Spread (transport : Transport) (accepted : List Event) (groups : List (List Event))
    (waiting : List Event) : Prop where
  /-- Every datagram is the records of one group. -/
  delivered : transport.delivered = groups.map records
  /-- The buffer is the records of the events that wait. -/
  buffer : transport.buffer = records waiting
  /-- The groups come first, in order, then the events that wait. -/
  order : groups.flatten ++ waiting = accepted
  /-- No datagram was empty or larger than the buffer may grow. -/
  sent : ∀ group ∈ groups, group ≠ [] ∧ (records group).length ≤ transport.capacity
  /-- The buffer has not grown too large. -/
  fits : transport.buffer.length ≤ transport.capacity

/-- The accepted events are spread over datagrams and buffer in some way. -/
def Carries (transport : Transport) (accepted : List Event) : Prop :=
  ∃ groups waiting, Spread transport accepted groups waiting

variable {transport other : Transport} {accepted : List Event} {network : Network}

/-- Only what was attempted, the buffer and its capacity matter. -/
theorem Carries.congr (carries : Carries transport accepted)
    (attempts : other.attempts = transport.attempts) (buffer : other.buffer = transport.buffer)
    (capacity : other.capacity = transport.capacity) : Carries other accepted := by
  obtain ⟨groups, waiting, spread⟩ := carries
  have delivered : other.delivered = transport.delivered := by
    rw [Transport.delivered, Transport.delivered, attempts]
  refine ⟨groups, waiting, ?_, ?_, spread.order, ?_, ?_⟩
  · rw [delivered]; exact spread.delivered
  · rw [buffer]; exact spread.buffer
  · rw [capacity]; exact spread.sent
  · rw [buffer, capacity]; exact spread.fits

/-! ## The timer and the connection move no record -/

theorem armTimer_eq (transport : Transport) (now : Nat) (exiting : Bool) :
    ∃ timer, transport.armTimer now exiting = { transport with timer } := by
  unfold armTimer
  split
  · exact ⟨transport.timer, rfl⟩
  · exact ⟨_, rfl⟩

theorem Carries.armTimer (carries : Carries transport accepted) (now : Nat) (exiting : Bool) :
    Carries (transport.armTimer now exiting) accepted := by
  obtain ⟨timer, armed⟩ := armTimer_eq transport now exiting
  rw [armed]
  exact carries.congr rfl rfl rfl

theorem Carries.cancelTimer (carries : Carries transport accepted) :
    Carries transport.cancelTimer accepted := carries.congr rfl rfl rfl

theorem Carries.close (carries : Carries transport accepted) : Carries transport.close accepted :=
  carries.congr rfl rfl rfl

theorem Carries.drop (carries : Carries transport accepted) (event : Event) :
    Carries (transport.drop event) accepted := carries.congr rfl rfl rfl

/-! ## Flushing and sending -/

/-- A flush that succeeds makes a group of the events that wait; one that fails leaves them. -/
theorem Carries.flush (carries : Carries transport accepted) (exiting : Bool) :
    Carries (transport.flush network exiting).1 accepted := by
  unfold Transport.flush
  split
  · exact carries
  · rename_i pending
    split
    · obtain ⟨groups, waiting, spread⟩ := carries
      have nonempty : waiting ≠ [] := by
        rintro rfl
        exact pending spread.buffer
      refine ⟨groups ++ [waiting], [], ?_, rfl, ?_, ?_, Nat.zero_le _⟩
      · have delivered := spread.delivered
        simp only [Transport.delivered] at delivered
        simp only [Transport.delivered, List.filterMap_append, List.map_append, delivered,
          List.filterMap_cons, List.filterMap_nil, List.map_cons, List.map_nil, spread.buffer]
      · rw [List.append_nil, List.flatten_append, List.flatten_singleton, spread.order]
      · intro group member
        rcases List.mem_append.mp member with earlier | last
        · exact spread.sent group earlier
        · obtain rfl := List.mem_singleton.mp last
          exact ⟨nonempty, spread.buffer ▸ spread.fits⟩
    · obtain ⟨groups, waiting, spread⟩ := carries
      refine ⟨groups, waiting, ?_, spread.buffer, spread.order, spread.sent, spread.fits⟩
      have delivered := spread.delivered
      simp only [Transport.delivered] at delivered
      simp only [Transport.delivered, List.filterMap_append, delivered, List.filterMap_cons,
        List.filterMap_nil, List.append_nil]

/-- The record of one more event goes behind those that wait. -/
theorem Carries.append (carries : Carries transport accepted) {event : Event}
    (room : recordSize event ≤ transport.room) :
    Carries (transport.append event) (accepted ++ [event]) := by
  obtain ⟨groups, waiting, spread⟩ := carries
  have fits := spread.fits
  rw [Transport.room, Transport.pending] at room
  refine ⟨groups, waiting ++ [event], spread.delivered, ?_, ?_, spread.sent, ?_⟩
  · show transport.buffer ++ recordBytes event = _
    rw [spread.buffer, records, records, List.flatMap_append, List.flatMap_singleton]
  · rw [← List.append_assoc, spread.order]
  · show (transport.buffer ++ recordBytes event).length ≤ transport.capacity
    rw [List.length_append, Wire.recordBytes_length]
    omega

/-- The events accepted after one more was handed over with some outcome. -/
def acceptedAfter (accepted : List Event) (event : Event) : SendOutcome → List Event
  | .buffered => accepted ++ [event]
  | .tooBig => accepted

/-- A record is put into the transport as it is or after a flush, if it fits. -/
theorem send_eq (transport : Transport) (network : Network) (event : Event) (now : Nat)
    (exiting : Bool) :
    ∃ ready, (ready = transport ∨ ready = (transport.flush network exiting).1) ∧
      transport.send network event now exiting =
        if ready.room < recordSize event then (ready.drop event, .tooBig)
        else ((ready.append event).armTimer now exiting, .buffered) := by
  unfold Transport.send
  by_cases full : transport.room < recordSize event
  · exact ⟨_, .inr rfl, by simp only [if_pos full]⟩
  · exact ⟨_, .inl rfl, by simp only [if_neg full]⟩

/-- An event is accepted as a whole or leaves no trace among the accepted ones. -/
theorem Carries.send (carries : Carries transport accepted) (event : Event) (now : Nat)
    (exiting : Bool) :
    Carries (transport.send network event now exiting).1
      (acceptedAfter accepted event (transport.send network event now exiting).2) := by
  obtain ⟨ready, attempt, sent⟩ := send_eq transport network event now exiting
  have still : Carries ready accepted := by
    rcases attempt with rfl | rfl
    · exact carries
    · exact carries.flush exiting
  rw [sent]
  split
  · exact still.drop event
  · rename_i room
    exact (still.append (Nat.le_of_not_lt room)).armTimer now exiting

theorem Carries.onTimer (carries : Carries transport accepted) (now : Nat) (exiting : Bool) :
    Carries (transport.onTimer network now exiting).1 accepted := by
  unfold Transport.onTimer
  split
  · exact (carries.cancelTimer.flush exiting).armTimer now exiting
  · exact carries

/-! ## The capacity never changes -/

@[simp] theorem armTimer_capacity (transport : Transport) (now : Nat) (exiting : Bool) :
    (transport.armTimer now exiting).capacity = transport.capacity := by
  obtain ⟨timer, armed⟩ := armTimer_eq transport now exiting
  rw [armed]

@[simp] theorem flush_capacity (transport : Transport) (network : Network) (exiting : Bool) :
    (transport.flush network exiting).1.capacity = transport.capacity := by
  unfold Transport.flush
  split
  · rfl
  · split <;> rfl

@[simp] theorem send_capacity (transport : Transport) (network : Network) (event : Event)
    (now : Nat) (exiting : Bool) :
    (transport.send network event now exiting).1.capacity = transport.capacity := by
  obtain ⟨ready, attempt, sent⟩ := send_eq transport network event now exiting
  have same : ready.capacity = transport.capacity := by
    rcases attempt with rfl | rfl
    · rfl
    · exact flush_capacity transport network exiting
  rw [sent]
  split
  · exact same
  · rw [armTimer_capacity]
    exact same

@[simp] theorem onTimer_capacity (transport : Transport) (network : Network) (now : Nat)
    (exiting : Bool) :
    (transport.onTimer network now exiting).1.capacity = transport.capacity := by
  unfold Transport.onTimer
  split
  · rw [armTimer_capacity, flush_capacity, cancelTimer]
  · rfl

/-! ## Runs -/

/-- What the owner of a transport can ask for. -/
inductive Operation where
  /-- Take an event. -/
  | send (event : Event) (now : Nat) (exiting : Bool)
  /-- Send what waits. -/
  | flush (exiting : Bool)
  /-- Serve the timer. -/
  | onTimer (now : Nat) (exiting : Bool)
  /-- Give up the timer. -/
  | cancelTimer
  /-- Give up the connection. -/
  | close

/-- A transport and the events it answered to have buffered, oldest first. -/
structure Trace where
  /-- The transport. -/
  transport : Transport
  /-- The events of the sends that were answered so. -/
  accepted : List Event

/-- One operation. -/
def Trace.step (network : Network) (trace : Trace) : Operation → Trace
  | .send event now exiting =>
    let (transport, outcome) := trace.transport.send network event now exiting
    { transport, accepted := acceptedAfter trace.accepted event outcome }
  | .flush exiting => { trace with transport := (trace.transport.flush network exiting).1 }
  | .onTimer now exiting =>
    { trace with transport := (trace.transport.onTimer network now exiting).1 }
  | .cancelTimer => { trace with transport := trace.transport.cancelTimer }
  | .close => { trace with transport := trace.transport.close }

/-- A run of a transport from its creation on. -/
def run (network : Network) (address : SocketAddress) (capacity interval : Nat)
    (operations : List Operation) : Trace :=
  operations.foldl (Trace.step network)
    { transport := Transport.new address capacity interval, accepted := [] }

theorem carries_new (address : SocketAddress) (capacity interval : Nat) :
    Carries (Transport.new address capacity interval) [] :=
  ⟨[], [], rfl, rfl, rfl, by simp, Nat.zero_le _⟩

/-- One operation keeps all accepted events, in order. -/
theorem Trace.step_carries (trace : Trace) (carries : Carries trace.transport trace.accepted)
    (operation : Operation) :
    Carries (trace.step network operation).transport (trace.step network operation).accepted := by
  cases operation with
  | send event now exiting => exact carries.send event now exiting
  | flush exiting => exact carries.flush exiting
  | onTimer now exiting => exact carries.onTimer now exiting
  | cancelTimer => exact carries.cancelTimer
  | close => exact carries.close

theorem Trace.step_capacity (trace : Trace) (operation : Operation) :
    (trace.step network operation).transport.capacity = trace.transport.capacity := by
  cases operation with
  | send event now exiting => exact send_capacity _ _ _ _ _
  | flush exiting => exact flush_capacity _ _ _
  | onTimer now exiting => exact onTimer_capacity _ _ _ _
  | cancelTimer => rfl
  | close => rfl

/-- So does a run, from any trace on. -/
theorem Trace.run_carries (trace : Trace) (carries : Carries trace.transport trace.accepted)
    (operations : List Operation) :
    let final := operations.foldl (Trace.step network) trace
    Carries final.transport final.accepted ∧
      final.transport.capacity = trace.transport.capacity := by
  induction operations generalizing trace with
  | nil => exact ⟨carries, rfl⟩
  | cons operation rest ih =>
    obtain ⟨kept, same⟩ := ih (trace.step network operation) (trace.step_carries carries operation)
    exact ⟨kept, same.trans (trace.step_capacity operation)⟩

theorem records_flatten (groups : List (List Event)) :
    (groups.map records).flatten = records groups.flatten := by
  induction groups with
  | nil => rfl
  | cons group rest ih =>
    rw [List.map_cons, List.flatten_cons, ih, List.flatten_cons, records, records, records,
      List.flatMap_append]

/-- Records are what the writer puts into an empty buffer. -/
theorem records_eq_written (events : List Event) :
    records events = events.flatMap (Wire.writeRecord []) := by
  have alone : recordBytes = Wire.writeRecord [] := by
    funext event
    rw [Wire.writeRecord, Wire.writeBatch, List.nil_append, recordBytes]
  rw [records, alone]

/-- **Accepted records are neither lost, repeated, reordered nor split.** In every run, under every
network, the delivered datagrams and then the buffer are the records of the accepted events, in the
order of acceptance. A datagram is the records of a group of these events, it is not empty, and
neither a datagram nor the buffer is larger than the capacity. -/
theorem accepted_records_form_stream (network : Network) (address : SocketAddress)
    (capacity interval : Nat) (operations : List Operation) :
    let final := run network address capacity interval operations
    final.transport.delivered.flatten ++ final.transport.buffer =
        final.accepted.flatMap (Wire.writeRecord []) ∧
      (∃ (groups : List (List Event)) (waiting : List Event),
        groups.flatten ++ waiting = final.accepted ∧
        final.transport.delivered = groups.map records ∧
        final.transport.buffer = records waiting) ∧
      (∀ datagram ∈ final.transport.delivered,
        datagram ≠ [] ∧ datagram.length ≤ capacity) ∧
      final.transport.buffer.length ≤ capacity := by
  intro final
  have kept : Carries final.transport final.accepted ∧ final.transport.capacity = capacity :=
    Trace.run_carries _ (carries_new address capacity interval) operations
  clear_value final
  obtain ⟨⟨groups, waiting, spread⟩, within⟩ := kept
  have delivered : final.transport.delivered = groups.map records := spread.delivered
  have buffer : final.transport.buffer = records waiting := spread.buffer
  refine ⟨?_, ⟨groups, waiting, spread.order, delivered, buffer⟩, ?_, within ▸ spread.fits⟩
  · calc final.transport.delivered.flatten ++ final.transport.buffer
        = records groups.flatten ++ records waiting := by rw [delivered, buffer, records_flatten]
      _ = records (groups.flatten ++ waiting) := List.flatMap_append.symm
      _ = records final.accepted := congrArg records spread.order
      _ = final.accepted.flatMap (Wire.writeRecord []) := records_eq_written _
  · intro datagram member
    rw [delivered] at member
    obtain ⟨group, grouped, rfl⟩ := List.mem_map.mp member
    obtain ⟨nonempty, small⟩ := spread.sent group grouped
    refine ⟨?_, within ▸ small⟩
    cases group with
    | nil => exact absurd rfl nonempty
    | cons event rest =>
      rw [records, List.flatMap_cons]
      exact List.append_ne_nil_of_left_ne_nil (Wire.recordBytes_ne_nil event) _

/-- A flush that fails keeps its record for the next datagram. An event that no buffer could hold is
left out, and the events around it are delivered or wait. -/
example :
    let address : SocketAddress := .v4 [127, 0, 0, 1] 13337
    let network := Network.following [.failed (.connect address "Network is unreachable")]
    let count (name : String) : Event := { name, samples := .counter ⟨1⟩, dimensions := [] }
    let wide : Event :=
      { name := "sizes", samples := .value (List.replicate 9 ⟨0⟩), dimensions := [] }
    let final := run network address 80 0
      [.send (count "a") 0 false, .flush false, .send (count "b") 1 false,
        .send (count "c") 2 false, .send wide 3 false, .send (count "d") 4 false]
    final.accepted = ["a", "b", "c", "d"].map count ∧
      final.transport.delivered = [records [count "a", count "b"], records [count "c"]] ∧
      final.transport.buffer = records [count "d"] := by
  decide +kernel

end Transport

end MetricPipeline
