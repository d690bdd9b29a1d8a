import MetricPipeline.Proofs.EndpointAccounting
import MetricPipeline.Proofs.ServedTimers

/-!
The three ways to stop a service come to the same end.

A service attends to one thing at a time: first to its token, then to its queue, and to its timers only
while nothing is queued. A cancelled service empties its queue in a loop of its own. One that is asked
to stop meets the request in its queue, and one that nobody can reach any more gets to the end of it.
Each of them takes what was queued before the first shutdown, in order, shuts its endpoint down once
and leaves the rest of its queue alone, whatever is due meanwhile.
-/

namespace MetricPipeline

variable {network : Network} {now : Nat} {isAbandoned : Bool}

namespace Command

/-- The commands before the first shutdown. -/
def heeded (commands : List Command) : List Command := commands.takeWhile (· ≠ .shutdown)

theorem heeded_cons {command : Command} (goesOn : command ≠ .shutdown) (rest : List Command) :
    heeded (command :: rest) = command :: heeded rest := by
  simp [heeded, goesOn]

theorem heeded_concat (commands : List Command) :
    heeded (commands ++ [.shutdown]) = heeded commands := by
  induction commands with
  | nil => rfl
  | cons command rest ih =>
    by_cases shutdown : command = .shutdown
    · subst shutdown
      rfl
    · rw [List.cons_append, heeded_cons shutdown, heeded_cons shutdown, ih]

theorem shutdown_not_mem_heeded (commands : List Command) : .shutdown ∉ heeded commands := by
  intro among
  simpa using List.mem_takeWhile_imp among

/-- What a command asks of an endpoint. -/
def operations (now : Nat) : Command → List Endpoint.Operation
  | .sendBatch events => events.map (.send · now)
  | .flushAfterRequest => [.flushAfterRequest]
  | .flush _ => [.flush]
  | .shutdown => [.shutdown now]

/-- The replies to the flushes among commands: each has the outcome of a flush of the endpoint as the
commands before it have left it. -/
def replies (network : Network) (now : Nat) :
    Endpoint.Ledger → List Command → List (Nat × FlushOutcome)
  | _, [] => []
  | ledger, command :: rest =>
    let others := replies network now (ledger.run network (command.operations now)) rest
    match command with
    | .flush ticket => (ticket, (ledger.endpoint.flush network).2) :: others
    | .sendBatch _ | .flushAfterRequest | .shutdown => others

end Command

namespace Service

/-! ## The loop of a service -/

/-- The service with another queue. -/
def withQueue (service : Service) (queue : List Command) : Service := { service with queue }

/-- How a cancelled service empties its queue, which takes no more commands. -/
inductive Drains (network : Network) (now : Nat) : Service → Service → Prop where
  | emptied {service : Service} (idle : service.queue = []) : Drains network now service service
  | asked {service : Service} {rest : List Command} (next : service.queue = .shutdown :: rest) :
      Drains network now service (service.withQueue rest)
  | taken {service drained : Service} {command : Command} {rest : List Command}
      (next : service.queue = command :: rest) (goesOn : command ≠ .shutdown)
      (drains : Drains network now ((service.withQueue rest).handle network now command) drained) :
      Drains network now service drained

/-- Leaves the loop: the queue is given up and the endpoint is shut down. -/
def leave (service : Service) (network : Network) (now : Nat) : Service :=
  (service.withQueue []).stop network now

/-- One round of the loop at a given time. -/
inductive Round (network : Network) (now : Nat) (isAbandoned : Bool) : Service → Service → Prop where
  | cancelled {service drained : Service} (running : service.isRunning = true)
      (token : service.isCancelled = true) (drains : Drains network now service drained) :
      Round network now isAbandoned service (drained.leave network now)
  | command {service : Service} {command : Command} {rest : List Command}
      (running : service.isRunning = true) (token : service.isCancelled = false)
      (next : service.queue = command :: rest) (goesOn : command ≠ .shutdown) :
      Round network now isAbandoned service ((service.withQueue rest).handle network now command)
  | asked {service : Service} {rest : List Command} (running : service.isRunning = true)
      (token : service.isCancelled = false) (next : service.queue = .shutdown :: rest) :
      Round network now isAbandoned service (service.leave network now)
  | abandoned {service : Service} (running : service.isRunning = true)
      (token : service.isCancelled = false) (idle : service.queue = [])
      (alone : isAbandoned = true) :
      Round network now isAbandoned service (service.leave network now)
  | timer {service : Service} {due : Nat} (running : service.isRunning = true)
      (token : service.isCancelled = false) (idle : service.queue = [])
      (reachable : isAbandoned = false) (armed : service.endpoint.deadline = some due)
      (come : due ≤ now) :
      Round network now isAbandoned service
        { service with endpoint := service.endpoint.onTimer network now }

/-- Rounds follow each other until the service has stopped or waits. -/
inductive Runs (network : Network) (now : Nat) (isAbandoned : Bool) : Service → Service → Prop where
  | rests {service : Service} (still : ∀ next, ¬ Round network now isAbandoned service next) :
      Runs network now isAbandoned service service
  | goesOn {service next final : Service} (round : Round network now isAbandoned service next)
      (runs : Runs network now isAbandoned next final) :
      Runs network now isAbandoned service final

/-! ## What a service does when it is woken -/

theorem handle_withQueue (network : Network) (now : Nat) (service : Service) (queue : List Command)
    (command : Command) :
    (service.withQueue queue).handle network now command =
      (service.handle network now command).withQueue queue := by
  cases command <;> rfl

theorem serve_cons {command : Command} (goesOn : command ≠ .shutdown) (network : Network)
    (now : Nat) (service : Service) (rest : List Command) :
    serve network now service (command :: rest) =
      serve network now (service.handle network now command) rest := by
  cases command with
  | shutdown => exact absurd rfl goesOn
  | sendBatch events | flushAfterRequest | flush ticket => rfl

theorem serve_withQueue (network : Network) (now : Nat) (service : Service) (queue : List Command)
    (commands : List Command) :
    (serve network now (service.withQueue queue) commands).1 =
      (serve network now service commands).1.withQueue queue := by
  induction commands generalizing service with
  | nil => rfl
  | cons command rest ih =>
    by_cases shutdown : command = .shutdown
    · subst shutdown
      rfl
    · rw [serve_cons shutdown, serve_cons shutdown, handle_withQueue]
      exact ih _

/-- A service handles the commands before the first shutdown. -/
theorem serve_eq (network : Network) (now : Nat) (service : Service) (commands : List Command) :
    serve network now service commands =
      ((Command.heeded commands).foldl (·.handle network now ·) service,
        decide (Command.shutdown ∈ commands)) := by
  induction commands generalizing service with
  | nil => rfl
  | cons command rest ih =>
    by_cases shutdown : command = .shutdown
    · subst shutdown
      simp [serve, Command.heeded]
    · rw [serve_cons shutdown, ih, Command.heeded_cons shutdown, List.foldl_cons]
      simp [Ne.symm shutdown]

theorem wake_of_stopped {service : Service} (stopped : service.isRunning = false)
    (network : Network) (now : Nat) (isAbandoned : Bool) :
    service.wake network now isAbandoned = service := by
  simp [wake, stopped]

/-- A service that is woken handles its commands, and then stops or does what is due. -/
theorem wake_eq {service : Service} (running : service.isRunning = true) (network : Network)
    (now : Nat) (isAbandoned : Bool) :
    service.wake network now isAbandoned =
      let served := (serve network now service service.queue).1.withQueue []
      if .shutdown ∈ service.queue ∨ service.isCancelled = true ∨ isAbandoned = true then
        served.stop network now
      else { served with endpoint := served.endpoint.onTimer network now } := by
  have asked : (serve network now (service.withQueue []) service.queue).2 =
      decide (Command.shutdown ∈ service.queue) := by
    rw [serve_eq]
  rw [wake, if_pos running, ← serve_withQueue]
  show (if ((serve network now (service.withQueue []) service.queue).2 || service.isCancelled ||
    isAbandoned) = true then _ else _) = _
  simp only [asked, Bool.or_eq_true, decide_eq_true_eq, or_assoc]
  rfl

/-- To take the command at the head of the queue first makes no difference. -/
theorem wake_cons {service : Service} {command : Command} {rest : List Command}
    (running : service.isRunning = true) (next : service.queue = command :: rest)
    (goesOn : command ≠ .shutdown) (network : Network) (now : Nat) (isAbandoned : Bool) :
    ((service.withQueue rest).handle network now command).wake network now isAbandoned =
      service.wake network now isAbandoned := by
  obtain ⟨-, token, runs⟩ := handle_frame network now service command
  have later : ((service.handle network now command).withQueue rest).isRunning = true :=
    runs.trans running
  rw [handle_withQueue, wake_eq later, wake_eq running, next, serve_cons goesOn, serve_withQueue]
  simp only [withQueue, token, List.mem_cons, Ne.symm goesOn, false_or]

theorem Drains.eq_serve {service drained : Service} (drains : Drains network now service drained) :
    drained.withQueue [] = (serve network now service service.queue).1.withQueue [] := by
  induction drains with
  | emptied idle => rw [idle, serve]
  | asked next =>
    rw [next, serve]
    rfl
  | @taken service drained command rest next goesOn drains ih =>
    rw [ih, next, serve_cons goesOn, handle_withQueue, serve_withQueue]
    rfl

theorem exists_drains (network : Network) (now : Nat) (service : Service) :
    ∃ drained, Drains network now service drained := by
  obtain ⟨queue, same⟩ : ∃ queue, service.queue = queue := ⟨_, rfl⟩
  induction queue generalizing service with
  | nil => exact ⟨service, .emptied same⟩
  | cons command rest ih =>
    by_cases shutdown : command = .shutdown
    · subst shutdown
      exact ⟨_, .asked same⟩
    · obtain ⟨drained, drains⟩ := ih ((service.withQueue rest).handle network now command)
        (handle_frame network now _ command).1
      exact ⟨drained, .taken same shutdown drains⟩

/-! ## A run of the loop is what a service does when it is woken -/

/-- A round leads no further than the service gets when it is woken. -/
theorem Round.wake_eq {service next : Service}
    (round : Round network now isAbandoned service next) :
    next.wake network now isAbandoned = service.wake network now isAbandoned := by
  cases round with
  | cancelled running token drains =>
    rw [wake_of_stopped rfl, Service.wake_eq running, if_pos (.inr (.inl token))]
    exact congrArg (·.stop network now) drains.eq_serve
  | command running token next goesOn => exact wake_cons running next goesOn network now isAbandoned
  | asked running token next =>
    rw [wake_of_stopped rfl, Service.wake_eq running, next, if_pos (.inl List.mem_cons_self)]
    rfl
  | abandoned running token idle alone =>
    rw [wake_of_stopped rfl, Service.wake_eq running, if_pos (.inr (.inr alone)), idle]
    rfl
  | timer running token idle reachable armed come =>
    have stays : (service.isCancelled || isAbandoned) = false := by
      rw [token, reachable]
      rfl
    have served := wake_of_idle running idle stays network now
    rw [← served]
    exact wake_again service network network now isAbandoned

/-- A service that has nothing to do is not changed by being woken. -/
theorem wake_of_still {service : Service}
    (still : ∀ next, ¬ Round network now isAbandoned service next) :
    service.wake network now isAbandoned = service := by
  by_cases running : service.isRunning = true
  · by_cases token : service.isCancelled = true
    · obtain ⟨drained, drains⟩ := exists_drains network now service
      exact absurd (.cancelled running token drains) (still _)
    · rw [Bool.not_eq_true] at token
      cases queued : service.queue with
      | cons command rest =>
        by_cases shutdown : command = .shutdown
        · exact absurd (.asked running token (shutdown ▸ queued)) (still _)
        · exact absurd (.command running token queued shutdown) (still _)
      | nil =>
        by_cases alone : isAbandoned = true
        · exact absurd (.abandoned running token queued alone) (still _)
        · rw [Bool.not_eq_true] at alone
          have waits : ∀ due, service.endpoint.deadline = some due → now < due := by
            intro due armed
            by_contra come
            exact still _ (.timer running token queued alone armed (Nat.le_of_not_lt come))
          rw [wake_of_idle running queued (by rw [token, alone]; rfl),
            Endpoint.onTimer_of_waiting waits]
  · exact wake_of_stopped (Bool.eq_false_iff.mpr running) network now isAbandoned

theorem Round.running {service next : Service}
    (round : Round network now isAbandoned service next) : service.isRunning = true := by
  cases round with
  | cancelled running | command running | asked running | abandoned running | timer running =>
    exact running

/-- Nothing is left to do for a service that has been woken. -/
theorem still_of_wake (service next : Service) :
    ¬ Round network now isAbandoned (service.wake network now isAbandoned) next := by
  intro round
  obtain ⟨idle, stays, -⟩ := wake_of_running round.running
  rw [Bool.or_eq_false_iff] at stays
  cases round with
  | cancelled running token => exact Bool.false_ne_true (stays.1.symm.trans token)
  | command running token queued => exact absurd (idle.symm.trans queued) nofun
  | asked running token queued => exact absurd (idle.symm.trans queued) nofun
  | abandoned running token empty alone => exact Bool.false_ne_true (stays.2.symm.trans alone)
  | timer running token empty reachable armed come =>
    exact Nat.not_le_of_lt (wake_deadline running armed) come

/-- A round takes a command, or else it is the last one. -/
theorem Round.last {service next : Service} (round : Round network now isAbandoned service next) :
    (∃ command, service.queue = command :: next.queue) ∨
      next = service.wake network now isAbandoned := by
  cases round with
  | @command command rest running token queued goesOn =>
    have same : ((service.withQueue rest).handle network now command).queue = rest :=
      (handle_frame network now _ command).1
    exact .inl ⟨command, by rw [same, queued]⟩
  | timer running token idle reachable armed come =>
    exact .inr (wake_of_idle running idle (by rw [token, reachable]; rfl) network now).symm
  | cancelled running token drains =>
    exact .inr ((wake_of_stopped rfl _ _ _).symm.trans
      (Round.cancelled running token drains).wake_eq)
  | asked running token queued =>
    exact .inr ((wake_of_stopped rfl _ _ _).symm.trans (Round.asked running token queued).wake_eq)
  | abandoned running token idle alone =>
    exact .inr ((wake_of_stopped rfl _ _ _).symm.trans
      (Round.abandoned running token idle alone).wake_eq)

theorem runs_wake (network : Network) (now : Nat) (isAbandoned : Bool) (service : Service) :
    Runs network now isAbandoned service (service.wake network now isAbandoned) := by
  obtain ⟨queue, same⟩ : ∃ queue, service.queue = queue := ⟨_, rfl⟩
  -- Every round but the last one shortens the queue.
  induction queue generalizing service with
  | nil =>
    by_cases still : ∀ next, ¬ Round network now isAbandoned service next
    · rw [wake_of_still still]
      exact .rests still
    · obtain ⟨next, round⟩ := not_forall_not.mp still
      rcases round.last with ⟨command, queued⟩ | rfl
      · exact absurd (same.symm.trans queued) nofun
      · exact .goesOn round (.rests (still_of_wake service))
  | cons command rest ih =>
    by_cases still : ∀ next, ¬ Round network now isAbandoned service next
    · rw [wake_of_still still]
      exact .rests still
    · obtain ⟨next, round⟩ := not_forall_not.mp still
      rcases round.last with ⟨command, queued⟩ | rfl
      · rw [← round.wake_eq]
        exact .goesOn round (ih next (List.cons.inj (same.symm.trans queued)).2.symm)
      · exact .goesOn round (.rests (still_of_wake service))

/-- The loop comes to an end, and only to one. -/
theorem runs_iff {service final : Service} :
    Runs network now isAbandoned service final ↔ final = service.wake network now isAbandoned := by
  constructor
  · intro runs
    induction runs with
    | rests still => exact (wake_of_still still).symm
    | goesOn round runs ih => exact ih.trans round.wake_eq
  · rintro rfl
    exact runs_wake network now isAbandoned service

end Service

/-! ## Three endings -/

/-- How a service is stopped that has commands in its queue. -/
inductive Ending where
  /-- Its token is cancelled. -/
  | cancelled
  /-- It is asked to stop after these commands. -/
  | asked
  /-- Nobody can send it commands any more. -/
  | abandoned
  deriving DecidableEq, Repr

namespace Ending

/-- The service before it runs. -/
def applied (ending : Ending) (service : Service) : Service :=
  match ending with
  | .cancelled => { service with isCancelled := true }
  | .asked => { service with queue := service.queue ++ [.shutdown] }
  | .abandoned => service

/-- Whether nobody can send it commands any more. -/
def abandons (ending : Ending) : Bool := ending = .abandoned

end Ending

namespace Service

open Endpoint (Ledger)

theorem sendEvents_endpoint (network : Network) (now : Nat) (ledger : Ledger)
    (events : List Event) :
    (sendEvents network now ledger.endpoint events).1 =
      (ledger.run network (events.map (.send · now))).endpoint := by
  unfold Ledger.run
  induction events generalizing ledger with
  | nil => rfl
  | cons event rest ih => exact ih (ledger.step network (.send event now))

theorem handle_endpoint {command : Command} (goesOn : command ≠ .shutdown) (network : Network)
    (now : Nat) {service : Service} {ledger : Ledger} (same : ledger.endpoint = service.endpoint) :
    (ledger.run network (command.operations now)).endpoint =
      (service.handle network now command).endpoint := by
  cases command with
  | sendBatch events =>
    rw [Command.operations, ← sendEvents_endpoint, same]
    rfl
  | flushAfterRequest =>
    show (ledger.endpoint.flushAfterRequest network).1 = _
    rw [same]
    rfl
  | flush ticket =>
    show (ledger.endpoint.flush network).1 = _
    rw [same]
    rfl
  | shutdown => exact absurd rfl goesOn

theorem handleAll_endpoint {commands : List Command} (goesOn : .shutdown ∉ commands)
    (network : Network) (now : Nat) {service : Service} {ledger : Ledger}
    (same : ledger.endpoint = service.endpoint) :
    (ledger.run network (commands.flatMap (·.operations now))).endpoint =
      (commands.foldl (·.handle network now ·) service).endpoint := by
  induction commands generalizing service ledger with
  | nil => exact same
  | cons command rest ih =>
    rw [List.mem_cons, not_or] at goesOn
    obtain ⟨first, others⟩ := goesOn
    rw [List.flatMap_cons, Ledger.run, List.foldl_append, List.foldl_cons]
    exact ih others (handle_endpoint (Ne.symm first) network now same)

/-- A service replies to the flushes it was asked for, in order. -/
theorem handleAll_replies {commands : List Command} (goesOn : .shutdown ∉ commands)
    (network : Network) (now : Nat) {service : Service} {ledger : Ledger}
    (same : ledger.endpoint = service.endpoint) :
    (commands.foldl (·.handle network now ·) service).replies =
      service.replies ++ Command.replies network now ledger commands := by
  induction commands generalizing service ledger with
  | nil => exact (List.append_nil _).symm
  | cons command rest ih =>
    rw [List.mem_cons, not_or] at goesOn
    obtain ⟨first, others⟩ := goesOn
    rw [List.foldl_cons, ih others (handle_endpoint (Ne.symm first) network now same)]
    cases command with
    | sendBatch events | flushAfterRequest => rfl
    | flush ticket =>
      rw [Command.replies, same]
      exact List.append_assoc _ [_] _
    | shutdown => exact absurd rfl first

theorem handleAll_frame (network : Network) (now : Nat) (service : Service)
    (queue : List Command) (isCancelled : Bool) (commands : List Command) :
    commands.foldl (·.handle network now ·) { service with queue, isCancelled } =
      { commands.foldl (·.handle network now ·) service with queue, isCancelled } := by
  induction commands generalizing service with
  | nil => rfl
  | cons command rest ih =>
    rw [List.foldl_cons, List.foldl_cons, ← ih]
    cases command <;> rfl

/-- However a service is stopped, it handles what was queued before the first shutdown. -/
theorem wake_applied (network : Network) (now : Nat) (endpoint : Endpoint) (token : Nat)
    (commands : List Command) (ending : Ending) :
    let applied := ending.applied ((new endpoint token).withQueue commands)
    applied.wake network now ending.abandons =
      { ((Command.heeded commands).foldl (·.handle network now ·) (new endpoint token)).leave
          network now with isCancelled := ending = .cancelled } := by
  intro applied
  have running : applied.isRunning = true := by cases ending <;> rfl
  have stops : .shutdown ∈ applied.queue ∨ applied.isCancelled = true ∨
      ending.abandons = true := by
    cases ending with
    | cancelled => exact .inr (.inl rfl)
    | asked => exact .inl (List.mem_append_right _ List.mem_cons_self)
    | abandoned => exact .inr (.inr rfl)
  have heeded : Command.heeded applied.queue = Command.heeded commands := by
    cases ending with
    | cancelled | abandoned => rfl
    | asked => exact Command.heeded_concat commands
  have framed : applied = { new endpoint token with
      queue := applied.queue, isCancelled := ending = .cancelled } := by
    cases ending <;> rfl
  rw [wake_eq running, if_pos stops, serve_eq, heeded]
  dsimp only
  rw [framed, handleAll_frame]
  rfl

/-- **The three ways to stop a service come to the same end.** Whatever the endpoint, whatever is due
and whatever the network answers: a service with commands in its queue that is cancelled, asked to stop
after them or abandoned runs to one state, and that state is the same but for the token. The commands
before the first shutdown have been handled in order, the endpoint has been shut down once after them,
and nothing else was done. The replies are the outcomes of the flushes among these commands. -/
theorem endings_agree (network : Network) (now : Nat) (endpoint : Endpoint) (token : Nat)
    (commands : List Command) :
    let queued := (new endpoint token).withQueue commands
    let heeded := Command.heeded commands
    let stopped := (heeded.foldl (·.handle network now ·) (new endpoint token)).leave network now
    (∀ ending : Ending,
      let final := { stopped with isCancelled := ending = .cancelled }
      (ending.applied queued).wake network now ending.abandons = final ∧
        ∀ other, Runs network now ending.abandons (ending.applied queued) other ↔ other = final) ∧
      stopped.endpoint = ((Ledger.new endpoint).run network
        (heeded.flatMap (·.operations now) ++ [.shutdown now])).endpoint ∧
      stopped.replies = Command.replies network now (Ledger.new endpoint) heeded := by
  intro queued heeded stopped
  have goesOn : .shutdown ∉ heeded := Command.shutdown_not_mem_heeded commands
  have same : (Ledger.new endpoint).endpoint = (new endpoint token).endpoint := rfl
  refine ⟨?_, ?_, handleAll_replies goesOn network now same⟩
  · intro ending final
    have woken : (ending.applied queued).wake network now ending.abandons = final :=
      wake_applied network now endpoint token commands ending
    refine ⟨woken, fun other => ?_⟩
    rw [runs_iff, woken]
  · rw [Ledger.run, List.foldl_append]
    show _ = (Endpoint.shutdown (Ledger.run network _ _).endpoint network now).1
    rw [handleAll_endpoint goesOn network now same]
    rfl

/-- Two flushes before a shutdown are answered, the one behind it is not, however the service ends. -/
example :
    let endpoint : Endpoint :=
      { config :=
          { address := .v4 [127, 0, 0, 1] 13337, bufferSize := 4096, flushInterval := 1000
            splitsMax := 16, flushAfterRequest := false, aggregateSize := 0, aggregateValues := 24 }
        transport := Transport.new (.v4 [127, 0, 0, 1] 13337) 4096 1000
        cache := none
        isExiting := false }
    let hits : Event := { name := "hits", samples := .counter ⟨1⟩, dimensions := [] }
    let commands : List Command :=
      [.flush 1, .sendBatch [hits], .flush 2, .shutdown, .sendBatch [hits], .flush 3]
    let queued := (new endpoint 0).withQueue commands
    ∀ ending ∈ [Ending.cancelled, .asked, .abandoned],
      ((ending.applied queued).wake (Network.reaching fun _ => false) 0 ending.abandons).replies =
        [(1, .empty), (2, .sent 36)] := by
  decide +kernel

end Service

end MetricPipeline
