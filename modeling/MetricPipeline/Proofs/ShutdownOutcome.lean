import Mathlib.Algebra.GroupWithZero.Nat
import MetricPipeline.Proofs.EndpointDelivery
import MetricPipeline.Proofs.ShutdownFinality

/-!
What the outcome of a shutdown tells about the flushes it made.

A shutdown flushes in three places: while the drained events are handed over, whenever the buffer is
full; after the last of them; and once more at the end, if bytes are left. Every flush that has
something to send is one attempt, so the attempts of the call are known, and so is the outcome they
have together. The outcome that the call answers leaves out the flushes that a full buffer forced: it
is the outcome of all attempts only when there were none of these, or when it is a failure anyway.
-/

namespace MetricPipeline

/-! ## The outcome of attempts -/

namespace Attempt

/-- What became of the flush that made an attempt. -/
def outcome : Attempt → FlushOutcome
  | .delivered datagram => .sent datagram.length
  | .failed _ => .failed

/-- How many bytes an attempt delivered. -/
def size : Attempt → Nat
  | .delivered datagram => datagram.length
  | .failed _ => 0

/-- How many bytes attempts delivered. -/
def total (attempts : List Attempt) : Nat := (attempts.map size).sum

theorem total_append (first second : List Attempt) :
    total (first ++ second) = total first + total second := by
  rw [total, List.map_append, List.sum_append]
  rfl

end Attempt

namespace FlushOutcome

@[simp] theorem empty_and (outcome : FlushOutcome) : empty.and outcome = outcome := by
  cases outcome <;> rfl

@[simp] theorem and_empty (outcome : FlushOutcome) : outcome.and empty = outcome := by
  cases outcome <;> rfl

@[simp] theorem failed_and (outcome : FlushOutcome) : failed.and outcome = failed := by
  cases outcome <;> rfl

theorem and_assoc (first second third : FlushOutcome) :
    (first.and second).and third = first.and (second.and third) := by
  cases first <;> cases second <;> cases third <;>
    simp only [FlushOutcome.and, Nat.add_assoc]

/-- The outcome of the flushes that made some attempts, one after another. -/
def ofAttempts : List Attempt → FlushOutcome
  | [] => .empty
  | attempt :: later => attempt.outcome.and (ofAttempts later)

theorem ofAttempts_append (first second : List Attempt) :
    ofAttempts (first ++ second) = (ofAttempts first).and (ofAttempts second) := by
  induction first with
  | nil => exact (empty_and _).symm
  | cons attempt later ih => rw [List.cons_append, ofAttempts, ofAttempts, ih, and_assoc]

/-- Attempts either deliver all their datagrams, or count as failed. -/
theorem ofAttempts_cons (attempt : Attempt) (later : List Attempt) :
    ofAttempts (attempt :: later) = .sent (Attempt.total (attempt :: later)) ∨
      ofAttempts (attempt :: later) = .failed := by
  induction later generalizing attempt with
  | nil => cases attempt <;> simp [ofAttempts, Attempt.outcome, Attempt.total, Attempt.size]
  | cons next later ih =>
    rw [ofAttempts]
    rcases ih next with sent | failed
    · rw [sent]
      cases attempt with
      | delivered datagram => exact .inl rfl
      | failed error => exact .inr rfl
    · rw [failed]
      exact .inr (and_failed _)

theorem total_of_sent {attempts : List Attempt} {size : Nat}
    (sent : ofAttempts attempts = .sent size) : Attempt.total attempts = size := by
  cases attempts with
  | nil => cases sent
  | cons attempt later =>
    rcases ofAttempts_cons attempt later with all | failed
    · exact FlushOutcome.sent.inj (all.symm.trans sent)
    · exact absurd (failed.symm.trans sent) nofun

theorem total_pos_of_sent {attempt : Attempt} {later : List Attempt} {size : Nat}
    (loaded : attempt ≠ .delivered []) (sent : ofAttempts (attempt :: later) = .sent size) :
    0 < size := by
  cases attempt with
  | failed error =>
    rw [ofAttempts, Attempt.outcome, failed_and] at sent
    cases sent
  | delivered datagram =>
    have nonempty : datagram ≠ [] := fun empty => loaded (congrArg _ empty)
    rw [← total_of_sent sent]
    exact Nat.add_pos_left (List.length_pos_iff.mpr nonempty) _

/-- A later outcome is that of earlier attempts too only if there were none, or if it is a failure. -/
theorem eq_ofAttempts_and {attempts : List Attempt}
    (loaded : ∀ attempt ∈ attempts, attempt ≠ .delivered []) (later : FlushOutcome) :
    later = (ofAttempts attempts).and later ↔ attempts = [] ∨ later = .failed := by
  cases attempts with
  | nil => simp [ofAttempts]
  | cons attempt rest =>
    rw [or_iff_right (List.cons_ne_nil attempt rest)]
    rcases ofAttempts_cons attempt rest with sent | failed
    · have positive := total_pos_of_sent (loaded attempt List.mem_cons_self) sent
      rw [sent]
      cases later with
      | empty => simp
      | failed => simp [and_failed]
      | sent size =>
        simp only [FlushOutcome.and, FlushOutcome.sent.injEq, reduceCtorEq, iff_false]
        omega
    · rw [failed, failed_and]

end FlushOutcome

/-! ## What a transport attempts -/

namespace Transport

open Wire (recordSize recordBytes)

/-- What was attempted between two states of a transport; every datagram held something. -/
structure Attempted (before after : Transport) (attempts : List Attempt) : Prop where
  record : after.attempts = before.attempts ++ attempts
  loaded : ∀ attempt ∈ attempts, attempt ≠ .delivered []

variable {before between after : Transport} {first second : List Attempt} {network : Network}

theorem Attempted.none (same : after.attempts = before.attempts) : Attempted before after [] :=
  ⟨same.trans (List.append_nil _).symm, nofun⟩

theorem Attempted.trans (earlier : Attempted before between first)
    (later : Attempted between after second) : Attempted before after (first ++ second) := by
  refine ⟨by rw [later.record, earlier.record, List.append_assoc], fun attempt among => ?_⟩
  rcases List.mem_append.mp among with early | late
  · exact earlier.loaded attempt early
  · exact later.loaded attempt late

/-- The outcome of a flush is that of the attempt it makes, if it has anything to send. -/
theorem attempted_flush (transport : Transport) (network : Network) (exiting : Bool) :
    ∃ attempts, Attempted transport (transport.flush network exiting).1 attempts ∧
      (transport.flush network exiting).2 = .ofAttempts attempts := by
  unfold flush
  split
  · exact ⟨[], .none rfl, rfl⟩
  · rename_i waits
    split
    · refine ⟨[.delivered transport.buffer], ⟨rfl, ?_⟩, rfl⟩
      simpa using waits
    · exact ⟨[.failed _], ⟨rfl, by simp⟩, rfl⟩

theorem attempted_send (transport : Transport) (network : Network) (event : Event) (now : Nat)
    (exiting : Bool) :
    ∃ attempts, Attempted transport (transport.send network event now exiting).1 attempts := by
  obtain ⟨ready, attempt, sent⟩ := send_eq transport network event now exiting
  have reached : ∃ attempts, Attempted transport ready attempts := by
    rcases attempt with rfl | rfl
    · exact ⟨[], .none rfl⟩
    · obtain ⟨attempts, flushed, -⟩ := attempted_flush transport network exiting
      exact ⟨attempts, flushed⟩
  obtain ⟨attempts, attempted⟩ := reached
  refine ⟨attempts, ?_⟩
  rw [sent]
  split
  · exact ⟨attempted.record, attempted.loaded⟩
  · obtain ⟨timer, armed⟩ := armTimer_eq (ready.append event) now exiting
    rw [armed]
    exact ⟨attempted.record, attempted.loaded⟩

theorem attempted_sendAll (transport : Transport) (network : Network) (now : Nat) (exiting : Bool)
    (events : List Event) :
    ∃ attempts, Attempted transport (Endpoint.sendAll transport network now exiting events)
      attempts := by
  induction events generalizing transport with
  | nil => exact ⟨[], .none rfl⟩
  | cons event rest ih =>
    obtain ⟨first, sent⟩ := attempted_send transport network event now exiting
    obtain ⟨others, all⟩ := ih (transport.send network event now exiting).1
    exact ⟨first ++ others, sent.trans all⟩

/-- Events for which there is room force no flush. -/
theorem sendAll_of_room {transport : Transport} {events : List Event}
    (room : transport.pending + (events.map recordSize).sum ≤ transport.capacity)
    (network : Network) (now : Nat) (exiting : Bool) :
    (Endpoint.sendAll transport network now exiting events).attempts = transport.attempts := by
  induction events generalizing transport with
  | nil => rfl
  | cons event rest ih =>
    rw [List.map_cons, List.sum_cons] at room
    have fits : ¬ transport.room < recordSize event := by
      rw [Transport.room]
      omega
    obtain ⟨timer, armed⟩ := armTimer_eq (transport.append event) now exiting
    have sent : (transport.send network event now exiting).1 =
        { transport.append event with timer } := by
      rw [← armed, Transport.send]
      simp only [if_neg fits]
    have waiting : (transport.append event).pending = transport.pending + recordSize event := by
      show (transport.buffer ++ recordBytes event).length = _
      rw [List.length_append, Wire.recordBytes_length]
      rfl
    have later : ({ transport.append event with timer } : Transport).pending +
        (rest.map recordSize).sum ≤ transport.capacity := by
      show (transport.append event).pending + _ ≤ _
      omega
    show (Endpoint.sendAll (transport.send network event now exiting).1 network now exiting
      rest).attempts = _
    rw [sent]
    exact ih later

end Transport

namespace Endpoint

open Wire (recordSize)
open Transport (Attempted)

variable {network : Network}

/-- After the last event there is one more flush. -/
theorem attempted_forward (transport : Transport) (network : Network) (now : Nat) (exiting : Bool)
    (events : List Event) :
    ∃ attempts,
      Attempted (sendAll transport network now exiting events)
        (forward transport network now exiting events).1 attempts ∧
      (forward transport network now exiting events).2 = .ofAttempts attempts := by
  unfold forward
  split
  · rename_i none
    subst none
    exact ⟨[], .none rfl, rfl⟩
  · exact Transport.attempted_flush _ network exiting

/-- **A shutdown does not report the flushes that a full buffer forces.** The attempts of a shutdown
are those made while the drained events were handed over, and the last ones; the outcome is that of the
last ones. It is the outcome of all attempts exactly when none was forced, or when it is a failure; and
when it tells how many bytes were sent, those of the forced flushes come on top. None is forced when the
buffer has room for all that is drained. -/
theorem shutdown_omits_forced_flushes (network : Network) (endpoint : Endpoint) (now : Nat) :
    let final := (endpoint.shutdown network now).1
    let outcome := (endpoint.shutdown network now).2
    let left := (endpoint.shed (·.drain now)).2
    let handed := sendAll endpoint.transport.cancelTimer network now true left
    ∃ forced last : List Attempt,
      handed.attempts = endpoint.transport.attempts ++ forced ∧
      final.transport.attempts = endpoint.transport.attempts ++ (forced ++ last) ∧
      outcome = .ofAttempts last ∧
      (outcome = .ofAttempts (forced ++ last) ↔ forced = [] ∨ outcome = .failed) ∧
      (∀ size, outcome = .sent size →
        Attempt.total (forced ++ last) = Attempt.total forced + size) ∧
      (endpoint.pending + (left.map recordSize).sum ≤ endpoint.transport.capacity →
        forced = []) := by
  intro final outcome left handed
  obtain ⟨forced, handing⟩ :=
    Transport.attempted_sendAll endpoint.transport.cancelTimer network now true left
  obtain ⟨drained, forwarding, drainOutcome⟩ :=
    attempted_forward endpoint.transport.cancelTimer network now true left
  obtain ⟨rest, flushing, restOutcome⟩ := Transport.attempted_flush
    (forward endpoint.transport.cancelTimer network now true left).1 network true
  have reported : outcome = .ofAttempts (drained ++ rest) := by
    rw [FlushOutcome.ofAttempts_append, ← drainOutcome, ← restOutcome]
    rfl
  have attempts : final.transport.attempts =
      endpoint.transport.attempts ++ (forced ++ (drained ++ rest)) :=
    (handing.trans (forwarding.trans flushing)).record
  refine ⟨forced, drained ++ rest, handing.record, attempts, reported, ?_, ?_, ?_⟩
  · rw [FlushOutcome.ofAttempts_append, ← reported]
    exact FlushOutcome.eq_ofAttempts_and handing.loaded outcome
  · intro size sent
    rw [Attempt.total_append, FlushOutcome.total_of_sent (reported.symm.trans sent)]
  · intro room
    have same : handed.attempts = endpoint.transport.attempts := Transport.sendAll_of_room
      (show endpoint.transport.cancelTimer.pending + _ ≤ _ from room) network now true
    exact List.append_right_eq_self.mp (handing.record.symm.trans same)

/-- Two counters that do not fit the buffer together are both delivered, and only the second one is
reported. -/
theorem forcedFlush_unreported :
    let network := Network.reaching fun _ => false
    let hits (name : String) : Event := { name, samples := .counter ⟨1⟩, dimensions := [] }
    let sends : List Operation := [.send (hits "a") 0, .send (hits "b") 1]
    let held := ((Ledger.new tightEndpoint).run network sends).endpoint
    Endpoint.create tightEndpoint.config = .ok tightEndpoint ∧
      let final := (held.shutdown network 2).1
      let outcome := (held.shutdown network 2).2
      outcome = .sent 32 ∧ final.transport.delivered.map List.length = [32, 32] ∧
        outcome ≠ .ofAttempts final.transport.attempts ∧
        Attempt.total final.transport.attempts = 32 + 32 := by
  intro network hits sends held
  have runs : held.transport.attempts = [] ∧ (held.shutdown network 2).2 = .sent 32 ∧
      (held.shutdown network 2).1.transport.delivered.map List.length = [32, 32] ∧
      Attempt.total (sendAll held.transport.cancelTimer network 2 true
        (held.shed (·.drain 2)).2).attempts = 32 := by
    decide +kernel
  obtain ⟨fresh, sent, delivered, early⟩ := runs
  obtain ⟨forced, last, handed, attempts, -, only, total, -⟩ :=
    shutdown_omits_forced_flushes network held 2
  rw [fresh, List.nil_append] at handed attempts
  rw [handed] at early
  refine ⟨rfl, sent, delivered, ?_, ?_⟩
  · rw [attempts]
    intro all
    rcases only.mp all with rfl | failed
    · cases early
    · exact absurd (sent.symm.trans failed) nofun
  · rw [attempts, total 32 sent, early]

end Endpoint

end MetricPipeline
