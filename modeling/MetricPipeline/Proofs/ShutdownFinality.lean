import MetricPipeline.Proofs.ServedTimers

/-!
A shutdown is final.

While the cache is drained the transport may flush, fail and connect again, and later operations go on
using the endpoint. But an owner that is exiting arms no timer and offers nothing to the cache, and
each of its flushes gives up the connection whether it succeeds or fails. So what a shutdown leaves
behind stays as it is: nothing is cached, nothing is due, and there is no connection.
-/

namespace MetricPipeline

variable {network : Network} {now : Nat}

/-! ## What an exiting owner does -/

theorem Cache.ingest_exiting (cache : Cache) (event : Event) (now : Nat) :
    cache.ingest event now true = (cache, .rejected, []) := by
  simp [ingest]

namespace Transport

theorem armTimer_exiting (transport : Transport) (now : Nat) :
    transport.armTimer now true = transport := by
  simp [armTimer]

theorem flush_closed {transport : Transport} (closed : transport.isConnected = false)
    (network : Network) : (transport.flush network true).1.isConnected = false := by
  unfold flush
  split
  · exact closed
  · split
    · rfl
    · rfl

theorem flush_buffer {transport : Transport} {exiting : Bool}
    (done : (transport.flush network exiting).2 ≠ .failed) :
    (transport.flush network exiting).1.buffer = [] := by
  unfold flush at done ⊢
  split
  · assumption
  · rename_i waits
    rw [if_neg waits] at done
    split
    · rfl
    · rename_i refused
      simp only [refused] at done
      exact absurd rfl done

theorem send_exiting (transport : Transport) (network : Network) (event : Event) (now : Nat) :
    ∃ ready, (ready = transport ∨ ready = (transport.flush network true).1) ∧
      ((transport.send network event now true).1 = ready.drop event ∨
        (transport.send network event now true).1 = ready.append event) := by
  obtain ⟨ready, attempt, sent⟩ := send_eq transport network event now true
  refine ⟨ready, attempt, ?_⟩
  rw [sent]
  split
  · exact .inl rfl
  · exact .inr (armTimer_exiting _ now)

theorem send_timer (transport : Transport) (network : Network) (event : Event) (now : Nat) :
    (transport.send network event now true).1.timer = transport.timer := by
  obtain ⟨ready, attempt, sent⟩ := send_exiting transport network event now
  have same : ready.timer = transport.timer := by
    rcases attempt with rfl | rfl
    · rfl
    · exact flush_timer transport network true
  rcases sent with sent | sent
  · rw [sent]
    exact same
  · rw [sent]
    exact same

theorem send_closed {transport : Transport} (closed : transport.isConnected = false)
    (network : Network) (event : Event) (now : Nat) :
    (transport.send network event now true).1.isConnected = false := by
  obtain ⟨ready, attempt, sent⟩ := send_exiting transport network event now
  have still : ready.isConnected = false := by
    rcases attempt with rfl | rfl
    · exact closed
    · exact flush_closed closed network
  rcases sent with sent | sent
  · rw [sent]
    exact still
  · rw [sent]
    exact still

end Transport

theorem FlushOutcome.and_failed (outcome : FlushOutcome) : outcome.and .failed = .failed := by
  cases outcome <;> rfl

namespace Endpoint

theorem forward_timer (transport : Transport) (network : Network) (now : Nat) (events : List Event) :
    (forward transport network now true events).1.timer = transport.timer := by
  have all : (sendAll transport network now true events).timer = transport.timer := by
    induction events generalizing transport with
    | nil => rfl
    | cons event rest ih => exact (ih _).trans (transport.send_timer network event now)
  unfold forward
  split
  · rfl
  · rw [Transport.flush_timer, all]

/-! ## Endpoints that are down -/

/-- An endpoint that has been shut down. -/
structure Down (endpoint : Endpoint) : Prop where
  exiting : endpoint.isExiting = true
  drained : ∀ cache, endpoint.cache = some cache →
    cache.ring.records = [] ∧ cache.timer.time = none
  unarmed : endpoint.transport.timer.time = none
  closed : endpoint.transport.isConnected = false

variable {endpoint : Endpoint}

theorem Down.aggregated (down : endpoint.Down) : endpoint.aggregated = 0 := by
  unfold Endpoint.aggregated
  cases here : endpoint.cache with
  | none => rfl
  | some cache => exact congrArg List.length (down.drained cache here).1

theorem Down.deadline (down : endpoint.Down) : endpoint.deadline = none := by
  refine Deadline.earliest_eq_none.mpr ⟨down.unarmed, ?_⟩
  cases here : endpoint.cache with
  | none => rfl
  | some cache => exact (down.drained cache here).2

/-- A shutdown takes down an endpoint in whatever state it is. -/
theorem down_shutdown (endpoint : Endpoint) (network : Network) (now : Nat) :
    (endpoint.shutdown network now).1.Down := by
  refine ⟨rfl, ?_, ?_, rfl⟩
  · intro drained found
    change (endpoint.shed (·.drain now)).1 = some drained at found
    obtain ⟨cache, -, rfl⟩ := exists_of_shed found
    have thins := Cache.thins_reclaim { cache with timer := Deadline.unarmed } now true
    exact ⟨cache.drain_records now, congrArg Deadline.time thins.timer⟩
  · show ((forward _ network now true _).1.flush network true).1.timer.time = none
    rw [Transport.flush_timer, forward_timer]
    rfl

theorem Down.send (down : endpoint.Down) (network : Network) (event : Event) (now : Nat) :
    (endpoint.send network event now).1.Down := by
  have unarmed := congrArg Deadline.time (endpoint.transport.send_timer network event now)
  have closed := Transport.send_closed down.closed network event now
  cases here : endpoint.cache with
  | none =>
    rw [Ledger.send_of_none here, down.exiting]
    exact ⟨rfl, here ▸ down.drained, unarmed.trans down.unarmed, closed⟩
  | some cache =>
    have answer := cache.ingest_exiting event now
    rw [← down.exiting] at answer
    rw [Ledger.send_of_rejected here answer, down.exiting]
    exact ⟨rfl, here ▸ down.drained, unarmed.trans down.unarmed, closed⟩

theorem Down.flush (down : endpoint.Down) (network : Network) :
    (endpoint.flush network).1.Down := by
  have unarmed := congrArg Deadline.time (endpoint.transport.flush_timer network true)
  rw [Endpoint.flush, down.exiting]
  exact ⟨rfl, down.drained, unarmed.trans down.unarmed,
    Transport.flush_closed down.closed network⟩

theorem Down.step {ledger : Ledger} (down : ledger.endpoint.Down) (network : Network)
    (operation : Operation) : (ledger.step network operation).endpoint.Down := by
  cases operation with
  | send event now => exact down.send network event now
  | flush => exact down.flush network
  | flushAfterRequest =>
    show (ledger.endpoint.flushAfterRequest network).1.Down
    unfold Endpoint.flushAfterRequest
    split
    · exact down.flush network
    · exact down
  | onTimer now =>
    have quiet : ledger.endpoint.onTimer network now = ledger.endpoint := by
      apply onTimer_of_waiting
      rw [down.deadline]
      nofun
    show (ledger.endpoint.onTimer network now).Down
    rw [quiet]
    exact down
  | shutdown now => exact ledger.endpoint.down_shutdown network now

theorem Down.run {ledger : Ledger} (down : ledger.endpoint.Down) (network : Network)
    (operations : List Operation) : (ledger.run network operations).endpoint.Down := by
  unfold Ledger.run
  induction operations generalizing ledger with
  | nil => exact down
  | cons operation rest ih => exact ih (down.step network operation)

/-- **A shutdown is final.** In whatever state an endpoint is shut down and whatever is asked of it
later, other shutdowns included, its cache is empty, nothing is due and there is no connection. Right
after a shutdown that did not fail, no bytes wait. -/
theorem shutdown_is_final (network : Network) (endpoint : Endpoint) (now : Nat) :
    (∀ later : List Operation,
      let final := ((Ledger.new (endpoint.shutdown network now).1).run network later).endpoint
      final.aggregated = 0 ∧ final.deadline = none ∧ final.transport.isConnected = false) ∧
      ((endpoint.shutdown network now).2 ≠ .failed →
        (endpoint.shutdown network now).1.pending = 0) := by
  constructor
  · intro later final
    have start : (Ledger.new (endpoint.shutdown network now).1).endpoint.Down :=
      endpoint.down_shutdown network now
    have down : final.Down := start.run network later
    exact ⟨down.aggregated, down.deadline, down.closed⟩
  · intro done
    have sent : (endpoint.shutdown network now).1.transport.buffer = [] := by
      apply Transport.flush_buffer
      intro failed
      apply done
      show FlushOutcome.and _ _ = .failed
      exact (congrArg _ failed).trans (FlushOutcome.and_failed _)
    exact congrArg List.length sent

/-- What waited in the cache and in the buffer is sent, and what comes too late is kept but not due. -/
theorem refusedFlush_shutdown :
    let pair : Event := { name := "pair", samples := .unique [1, 2], dimensions := [] }
    let single : Event := { name := "single", samples := .unique [1], dimensions := [] }
    let refused := ((Ledger.new smallEndpoint).run refusingNetwork
      [.send single 5, .send pair 5, .flush]).endpoint
    let late : List Operation := [.send single 8, .onTimer 30, .flush, .shutdown 31, .send pair 32]
    refused.aggregated = 1 ∧ refused.pending ≠ 0 ∧
      (refused.shutdown refusingNetwork 7).2 ≠ .failed ∧
      (refused.shutdown refusingNetwork 7).1.pending = 0 ∧
      let final :=
        ((Ledger.new (refused.shutdown refusingNetwork 7).1).run refusingNetwork late).endpoint
      final.aggregated = 0 ∧ final.deadline = none ∧ final.transport.isConnected = false := by
  intro pair single refused late
  have sent : (refused.shutdown refusingNetwork 7).2 ≠ .failed := by decide +kernel
  obtain ⟨stays, empties⟩ := shutdown_is_final refusingNetwork refused 7
  exact ⟨by decide +kernel, by decide +kernel, sent, empties sent, stays late⟩

end Endpoint

end MetricPipeline
