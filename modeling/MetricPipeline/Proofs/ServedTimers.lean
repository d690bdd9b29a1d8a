import MetricPipeline.Proofs.EndpointAccounting
import MetricPipeline.Proofs.EntryTimes
import MetricPipeline.Service

/-!
A timer that was served waits.

Serving the cache hands records to the transport, which may arm the transport's timer, which is then
served itself and may be armed again because the flush failed. Whatever happens on the way, nothing is
due afterwards at the time at which it was served: a transport with bytes left waits for an interval
that is not zero, and a cache waits for an entry whose window has not passed. Nothing is asked of the
state or of the clock.
-/

namespace MetricPipeline

variable {network : Network} {now due : Nat}

namespace Transport

theorem flush_eq (transport : Transport) (network : Network) (exiting : Bool) :
    ∃ buffer isConnected attempts,
      (transport.flush network exiting).1 = { transport with buffer, isConnected, attempts } := by
  unfold flush
  split
  · exact ⟨_, _, _, rfl⟩
  · split
    · exact ⟨_, _, _, rfl⟩
    · exact ⟨_, _, _, rfl⟩

theorem flush_timer (transport : Transport) (network : Network) (exiting : Bool) :
    (transport.flush network exiting).1.timer = transport.timer := by
  obtain ⟨buffer, isConnected, attempts, flushed⟩ := transport.flush_eq network exiting
  rw [flushed]

/-- Once the timer was served it is not due again at the same time, even if the flush failed. -/
theorem onTimer_deadline (transport : Transport) (exiting : Bool)
    (armed : (transport.onTimer network now exiting).1.deadline = some due) : now < due := by
  by_cases served : transport.timer.isDue now = true
  · have unarmed := flush_timer transport.cancelTimer network exiting
    rw [onTimer, if_pos served] at armed
    simp only [deadline, armTimer] at armed
    split at armed
    · rw [unarmed] at armed
      cases armed
    · rename_i runs
      rw [Deadline.arm_time, unarmed] at armed
      obtain rfl := Option.some.inj armed
      simp only [not_or] at runs
      exact Nat.lt_add_of_pos_right (Nat.pos_of_ne_zero runs.1)
  · rw [onTimer, if_neg served] at armed
    exact Deadline.lt_of_not_isDue served armed

end Transport

namespace Endpoint

/-- Nothing is done before it is due. -/
theorem onTimer_of_waiting {endpoint : Endpoint}
    (waits : ∀ due, endpoint.deadline = some due → now < due) (network : Network) :
    endpoint.onTimer network now = endpoint := by
  obtain ⟨ofTransport, ofCache⟩ := Deadline.lt_earliest.mp waits
  have still : ∀ network, endpoint.transport.onTimer network now endpoint.isExiting =
      (endpoint.transport, .empty) :=
    fun network => if_neg (Deadline.not_isDue ofTransport)
  obtain ⟨config, transport, cache, isExiting⟩ := endpoint
  cases cache with
  | none =>
    simp only [onTimer, forward, if_true]
    rw [still]
  | some cache =>
    have quiet := Cache.onTimer_of_not_due (Deadline.not_isDue ofCache)
    simp only [onTimer, quiet, forward, if_true]
    rw [still]

theorem onTimer_deadline (endpoint : Endpoint)
    (armed : (endpoint.onTimer network now).deadline = some due) : now < due := by
  refine Deadline.lt_earliest.mpr ⟨?_, ?_⟩ due armed
  · intro time ofTransport
    exact Transport.onTimer_deadline _ _ ofTransport
  · intro time ofCache
    obtain ⟨rest, left, late⟩ := Option.bind_eq_some_iff.mp ofCache
    obtain ⟨cache, -, rfl⟩ := exists_of_shed left
    exact Cache.onTimer_deadline cache now late

/-- To serve the timers again at once changes nothing. -/
theorem onTimer_again (endpoint : Endpoint) (network other : Network) (now : Nat) :
    (endpoint.onTimer network now).onTimer other now = endpoint.onTimer network now :=
  onTimer_of_waiting (fun _ armed => endpoint.onTimer_deadline armed) other

end Endpoint

namespace Service

/-! ## Services -/

theorem handle_frame (network : Network) (now : Nat) (service : Service) (command : Command) :
    (service.handle network now command).queue = service.queue ∧
      (service.handle network now command).isCancelled = service.isCancelled ∧
      (service.handle network now command).isRunning = service.isRunning := by
  cases command <;> exact ⟨rfl, rfl, rfl⟩

/-- Commands leave the queue, the token and the service itself alone. -/
theorem serve_frame (network : Network) (now : Nat) (service : Service) (commands : List Command) :
    (serve network now service commands).1.queue = service.queue ∧
      (serve network now service commands).1.isCancelled = service.isCancelled ∧
      (serve network now service commands).1.isRunning = service.isRunning := by
  induction commands generalizing service with
  | nil => exact ⟨rfl, rfl, rfl⟩
  | cons command rest ih =>
    obtain ⟨queue, cancelled, running⟩ := handle_frame network now service command
    obtain ⟨laterQueue, laterCancelled, laterRunning⟩ := ih (service.handle network now command)
    cases command with
    | shutdown => exact ⟨rfl, rfl, rfl⟩
    | sendBatch events | flushAfterRequest | flush ticket =>
      exact ⟨laterQueue.trans queue, laterCancelled.trans cancelled, laterRunning.trans running⟩

/-- A service that goes on after it woke up has emptied its queue and done what was due. -/
theorem wake_of_running {service : Service} {isAbandoned : Bool}
    (goesOn : (service.wake network now isAbandoned).isRunning = true) :
    (service.wake network now isAbandoned).queue = [] ∧
      ((service.wake network now isAbandoned).isCancelled || isAbandoned) = false ∧
      ∃ endpoint : Endpoint,
        (service.wake network now isAbandoned).endpoint = endpoint.onTimer network now := by
  unfold wake at goesOn ⊢
  by_cases running : service.isRunning = true
  · obtain ⟨queue, cancelled, -⟩ :=
      serve_frame network now { service with queue := [] } service.queue
    simp only [if_pos running] at goesOn ⊢
    by_cases stops : ((serve network now { service with queue := [] } service.queue).2 ||
      service.isCancelled || isAbandoned) = true
    · rw [if_pos stops] at goesOn
      cases goesOn
    · rw [if_neg stops]
      simp only [Bool.or_eq_true, not_or, Bool.not_eq_true] at stops
      refine ⟨queue, ?_, _, rfl⟩
      rw [cancelled]
      simp only [stops, Bool.or_false]
  · rw [if_neg running] at goesOn
    exact absurd goesOn running

theorem wake_deadline {service : Service} {isAbandoned : Bool}
    (goesOn : (service.wake network now isAbandoned).isRunning = true)
    (armed : (service.wake network now isAbandoned).endpoint.deadline = some due) : now < due := by
  obtain ⟨-, -, endpoint, served⟩ := wake_of_running goesOn
  rw [served] at armed
  exact endpoint.onTimer_deadline armed

/-- A service that has nothing queued and goes on does what is due. -/
theorem wake_of_idle {service : Service} {isAbandoned : Bool} (running : service.isRunning = true)
    (idle : service.queue = []) (stays : (service.isCancelled || isAbandoned) = false)
    (network : Network) (now : Nat) :
    service.wake network now isAbandoned =
      { service with endpoint := service.endpoint.onTimer network now } := by
  obtain ⟨endpoint, queue, replies, oversized, token, isCancelled, isRunning⟩ := service
  obtain rfl : queue = [] := idle
  rw [wake, if_pos running]
  simp only [serve, Bool.false_or]
  rw [if_neg (by rw [stays]; exact Bool.false_ne_true)]

/-- To wake a service again at once changes nothing. -/
theorem wake_again (service : Service) (network other : Network) (now : Nat) (isAbandoned : Bool) :
    (service.wake network now isAbandoned).wake other now isAbandoned =
      service.wake network now isAbandoned := by
  by_cases goesOn : (service.wake network now isAbandoned).isRunning = true
  · obtain ⟨idle, stays, endpoint, served⟩ := wake_of_running goesOn
    have quiet := endpoint.onTimer_again network other now
    rw [← served] at quiet
    rw [wake_of_idle goesOn idle stays other now, quiet]
  · rw [wake, if_neg goesOn]

end Service

/-- **Timers never spin.** Whatever the state, the clock and the network, an endpoint that was served
is due later or never, and serving it again at the same time does nothing. So a service that goes on
after it woke up sleeps until a later time, and to wake it again at once changes nothing. -/
theorem served_timers_wait (network : Network) (now : Nat) :
    (∀ endpoint : Endpoint,
      (∀ due, (endpoint.onTimer network now).deadline = some due → now < due) ∧
        ∀ other, (endpoint.onTimer network now).onTimer other now = endpoint.onTimer network now) ∧
      ∀ (service : Service) (isAbandoned : Bool),
        let woken := service.wake network now isAbandoned
        (woken.isRunning = true → ∀ due, woken.endpoint.deadline = some due → now < due) ∧
          ∀ other, woken.wake other now isAbandoned = woken := by
  constructor
  · intro endpoint
    exact ⟨fun due armed => endpoint.onTimer_deadline armed,
      fun other => endpoint.onTimer_again network other now⟩
  · intro service isAbandoned
    exact ⟨fun goesOn due armed => Service.wake_deadline goesOn armed,
      fun other => service.wake_again network other now isAbandoned⟩

/-- The bytes of a flush that was refused wait for another interval. -/
theorem refusedFlush_timers_wait :
    let pair : Event := { name := "pair", samples := .unique [1, 2], dimensions := [] }
    let sent := (Endpoint.smallEndpoint.send Endpoint.refusingNetwork pair 5).1
    let served := sent.onTimer Endpoint.refusingNetwork 20
    sent.deadline = some 15 ∧ served.pending ≠ 0 ∧ served.deadline = some 30 ∧ 20 < 30 ∧
      served.onTimer Endpoint.refusingNetwork 20 = served := by
  intro pair sent served
  have rearmed : served.deadline = some 30 := by decide +kernel
  obtain ⟨waits, again⟩ := (served_timers_wait Endpoint.refusingNetwork 20).1 sent
  exact ⟨by decide +kernel, by decide +kernel, rearmed, waits 30 rearmed, again _⟩

end MetricPipeline
