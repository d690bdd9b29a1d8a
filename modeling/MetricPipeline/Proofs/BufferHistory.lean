import Mathlib.Data.List.Infix
import MetricPipeline.Proofs.EndpointAccounting

/-!
The history of a buffer: when records were put into it, and which bytes each attempt was made with.

A transport remembers how its attempts ended, but neither the bytes of those that failed nor the time at
which a record came. Both are read off the operations here, in the order in which they happen, also in
the middle of an operation: a send may flush before it puts its record, and what leaves the cache is
sent one by one and then flushed. That this history is the true one is a theorem: it accounts for every
attempt and for the bytes that wait.
-/

namespace MetricPipeline

open Wire (recordBytes recordSize)

/-- Something that happens to a buffer. -/
inductive Happening where
  /-- The record of an event is put at its end. -/
  | put (event : Event) (time : Nat)
  /-- An attempt is made to send these bytes. -/
  | attempt (bytes : List UInt8)
  deriving DecidableEq, Repr

/-- A history accounts for the attempts that were made and for the bytes that wait. A record is put
behind them, an attempt is made with all of them, and one that fails keeps them. -/
inductive Explained : List Happening → List Attempt → List UInt8 → Prop where
  | nil : Explained [] [] []
  | put {log : List Happening} {attempts : List Attempt} {buffer : List UInt8} (event : Event)
      (time : Nat) (explained : Explained log attempts buffer) :
      Explained (log ++ [.put event time]) attempts (buffer ++ recordBytes event)
  | delivered {log : List Happening} {attempts : List Attempt} {buffer : List UInt8}
      (explained : Explained log attempts buffer) :
      Explained (log ++ [.attempt buffer]) (attempts ++ [.delivered buffer]) []
  | failed {log : List Happening} {attempts : List Attempt} {buffer : List UInt8}
      (error : TransportError) (explained : Explained log attempts buffer) :
      Explained (log ++ [.attempt buffer]) (attempts ++ [.failed error]) buffer

/-- A record was put at a time, and no attempt has been made since. -/
def Untried (log : List Happening) (event : Event) (time : Nat) : Prop :=
  ∃ earlier later, log = earlier ++ .put event time :: later ∧ ∀ bytes, .attempt bytes ∉ later

section

variable {log earlier later : List Happening} {last : Happening} {attempts : List Attempt}
  {buffer bytes : List UInt8} {event other : Event} {time now : Nat}

theorem concat_eq_split (split : log ++ [last] = earlier ++ .put event time :: later) :
    (last = .put event time ∧ later = []) ∨
      ∃ middle, later = middle ++ [last] ∧ log = earlier ++ .put event time :: middle := by
  rcases List.eq_nil_or_concat later with rfl | ⟨middle, final, rfl⟩
  · obtain ⟨-, same⟩ := List.append_inj' split rfl
    exact .inl ⟨List.singleton_inj.mp same, rfl⟩
  · rw [List.concat_eq_append, ← List.cons_append, ← List.append_assoc] at split
    obtain ⟨front, same⟩ := List.append_inj' split rfl
    obtain rfl := List.singleton_inj.mp same
    exact .inr ⟨middle, List.concat_eq_append, front⟩

theorem Untried.of_put (untried : Untried (log ++ [.put other now]) event time) :
    (event = other ∧ time = now) ∨ Untried log event time := by
  obtain ⟨earlier, later, split, none⟩ := untried
  rcases concat_eq_split split with ⟨same, -⟩ | ⟨middle, rfl, before⟩
  · cases same
    exact .inl ⟨rfl, rfl⟩
  · exact .inr ⟨earlier, middle, before, fun bytes member => none bytes (List.mem_append_left _ member)⟩

theorem not_untried_attempt : ¬ Untried (log ++ [.attempt bytes]) event time := by
  rintro ⟨earlier, later, split, none⟩
  rcases concat_eq_split split with ⟨same, -⟩ | ⟨middle, rfl, -⟩
  · cases same
  · exact none bytes (List.mem_append_right _ List.mem_cons_self)

/-- A record that was not tried yet waits. -/
theorem Explained.waits (explained : Explained log attempts buffer)
    (untried : Untried log event time) : recordBytes event <:+: buffer := by
  induction explained with
  | nil =>
    obtain ⟨earlier, later, split, -⟩ := untried
    cases List.nil_eq_append_iff.mp split |>.2
  | put other now explained ih =>
    rcases untried.of_put with ⟨rfl, rfl⟩ | before
    · exact (List.suffix_append _ _).isInfix
    · exact (ih before).trans (List.prefix_append _ _).isInfix
  | delivered explained ih => exact absurd untried not_untried_attempt
  | failed error explained ih => exact absurd untried not_untried_attempt

/-- An attempt is made with every record that was not tried before. -/
theorem Explained.attempt (explained : Explained log attempts buffer)
    (split : log = earlier ++ .put event time :: later)
    (before : (∃ bytes, .attempt bytes ∈ later ∧ recordBytes event <:+: bytes) ∨
      ∀ bytes, .attempt bytes ∉ later) :
    ∃ bytes, .attempt bytes ∈ later ++ [.attempt buffer] ∧ recordBytes event <:+: bytes := by
  rcases before with ⟨bytes, member, part⟩ | none
  · exact ⟨bytes, List.mem_append_left _ member, part⟩
  · have part := explained.waits ⟨earlier, later, split, none⟩
    exact ⟨buffer, List.mem_append_right _ List.mem_cons_self, part⟩

/-- Every record that was put has been part of an attempt since, unless none was made. -/
theorem Explained.tried (explained : Explained log attempts buffer)
    (split : log = earlier ++ .put event time :: later) :
    (∃ bytes, .attempt bytes ∈ later ∧ recordBytes event <:+: bytes) ∨
      ∀ bytes, .attempt bytes ∉ later := by
  induction explained generalizing later with
  | nil => cases List.nil_eq_append_iff.mp split |>.2
  | put other now explained ih =>
    rcases concat_eq_split split with ⟨-, rfl⟩ | ⟨middle, rfl, before⟩
    · exact .inr fun _ => List.not_mem_nil
    · rcases ih before with ⟨bytes, member, part⟩ | none
      · exact .inl ⟨bytes, List.mem_append_left _ member, part⟩
      · refine .inr fun bytes member => ?_
        rcases List.mem_append.mp member with old | new
        · exact none bytes old
        · cases List.mem_singleton.mp new
  | delivered explained ih =>
    rcases concat_eq_split split with ⟨same, -⟩ | ⟨middle, rfl, before⟩
    · cases same
    · exact .inl (explained.attempt before (ih before))
  | failed error explained ih =>
    rcases concat_eq_split split with ⟨same, -⟩ | ⟨middle, rfl, before⟩
    · cases same
    · exact .inl (explained.attempt before (ih before))

end

/-! ## Histories of transports -/

namespace Transport

def flushHistory (transport : Transport) : List Happening :=
  if transport.buffer = [] then [] else [.attempt transport.buffer]

def sendHistory (transport : Transport) (network : Network) (event : Event) (now : Nat)
    (exiting : Bool) : List Happening :=
  let full := transport.room < recordSize event
  let ready := if full then (transport.flush network exiting).1 else transport
  (if full then transport.flushHistory else []) ++
    if ready.room < recordSize event then [] else [.put event now]

def onTimerHistory (transport : Transport) (now : Nat) : List Happening :=
  if transport.timer.isDue now then transport.flushHistory else []

/-- What an owner that is not exiting may do with a transport at a time, one thing after another, and
what happens to the buffer meanwhile. -/
inductive Steps (network : Network) (now : Nat) (transport : Transport) :
    List Happening → Transport → Prop where
  | refl : Steps network now transport [] transport
  | flush {log : List Happening} {last : Transport} (steps : Steps network now transport log last) :
      Steps network now transport (log ++ last.flushHistory) (last.flush network false).1
  | put {log : List Happening} {last : Transport} (event : Event)
      (steps : Steps network now transport log last) :
      Steps network now transport (log ++ [.put event now]) ((last.append event).armTimer now false)
  | drop {log : List Happening} {last : Transport} (event : Event)
      (steps : Steps network now transport log last) :
      Steps network now transport log (last.drop event)
  | serve {log : List Happening} {last : Transport} (steps : Steps network now transport log last) :
      Steps network now transport (log ++ last.flushHistory)
        ((last.cancelTimer.flush network false).1.armTimer now false)

variable {network : Network} {now : Nat} {transport middle last : Transport}
  {log more : List Happening}

theorem Steps.trans (first : Steps network now transport log middle)
    (second : Steps network now middle more last) :
    Steps network now transport (log ++ more) last := by
  induction second with
  | refl =>
    rw [List.append_nil]
    exact first
  | flush steps ih =>
    rw [← List.append_assoc]
    exact ih.flush
  | put event steps ih =>
    rw [← List.append_assoc]
    exact ih.put event
  | drop event steps ih => exact ih.drop event
  | serve steps ih =>
    rw [← List.append_assoc]
    exact ih.serve

theorem steps_send (transport : Transport) (network : Network) (event : Event) (now : Nat) :
    Steps network now transport (transport.sendHistory network event now false)
      (transport.send network event now false).1 := by
  unfold sendHistory send
  by_cases full : transport.room < recordSize event
  · simp only [if_pos full]
    split
    · rw [List.append_nil]
      exact Steps.refl.flush.drop event
    · exact Steps.refl.flush.put event
  · simp only [if_neg full]
    exact Steps.refl.put event

theorem steps_onTimer (transport : Transport) (network : Network) (now : Nat) :
    Steps network now transport (transport.onTimerHistory now)
      (transport.onTimer network now false).1 := by
  unfold onTimerHistory onTimer
  split
  · exact Steps.refl.serve
  · exact Steps.refl

theorem explained_flush {past : List Happening} (network : Network)
    (explained : Explained past transport.attempts transport.buffer) :
    Explained (past ++ transport.flushHistory) (transport.flush network false).1.attempts
      (transport.flush network false).1.buffer := by
  unfold flushHistory flush
  split
  · rw [List.append_nil]
    exact explained
  · split
    · exact explained.delivered
    · exact explained.failed _

/-- After a flush every record has been tried. -/
theorem not_untried_flush {past : List Happening} {event : Event} {time : Nat}
    (explained : Explained past transport.attempts transport.buffer) :
    ¬ Untried (past ++ transport.flushHistory) event time := by
  unfold flushHistory
  split
  · rename_i empty
    rw [List.append_nil]
    intro untried
    have waits := explained.waits untried
    rw [empty, List.infix_nil] at waits
    exact Wire.recordBytes_ne_nil event waits
  · exact not_untried_attempt

/-- Whatever is done, the history goes on accounting for the attempts and the buffer. -/
theorem Steps.explained (steps : Steps network now transport log last) {past : List Happening}
    (explained : Explained past transport.attempts transport.buffer) :
    Explained (past ++ log) last.attempts last.buffer := by
  induction steps with
  | refl =>
    rw [List.append_nil]
    exact explained
  | flush steps ih =>
    rw [← List.append_assoc]
    exact explained_flush network ih
  | @put _ last event steps ih =>
    obtain ⟨timer, armed⟩ := armTimer_eq (last.append event) now false
    rw [← List.append_assoc, armed]
    exact ih.put event now
  | drop event steps ih => exact ih
  | @serve _ last steps ih =>
    obtain ⟨timer, armed⟩ := armTimer_eq (last.cancelTimer.flush network false).1 now false
    have cancelled : Explained _ last.cancelTimer.attempts last.cancelTimer.buffer := ih
    rw [← List.append_assoc, armed]
    exact explained_flush network cancelled

end Transport

/-! ## Histories of endpoints -/

namespace Endpoint

open Transport (Steps)

def sendAllHistory (transport : Transport) (network : Network) (now : Nat) (exiting : Bool) :
    List Event → List Happening
  | [] => []
  | event :: rest =>
    transport.sendHistory network event now exiting ++
      sendAllHistory (transport.send network event now exiting).1 network now exiting rest

def forwardHistory (transport : Transport) (network : Network) (now : Nat) (exiting : Bool)
    (events : List Event) : List Happening :=
  if events = [] then []
  else
    sendAllHistory transport network now exiting events ++
      (sendAll transport network now exiting events).flushHistory

/-- What happens to the buffer of an endpoint during an operation. -/
def history (endpoint : Endpoint) (network : Network) : Operation → List Happening
  | .send event now =>
    let offer (cache : Cache) := cache.ingest event now endpoint.isExiting
    let left := (endpoint.shed fun cache => ((offer cache).1, (offer cache).2.2)).2
    let forwarded := (forward endpoint.transport network now endpoint.isExiting left).1
    forwardHistory endpoint.transport network now endpoint.isExiting left ++
      if endpoint.aggregates event now then []
      else forwarded.sendHistory network event now endpoint.isExiting
  | .flush => endpoint.transport.flushHistory
  | .flushAfterRequest =>
    if endpoint.config.flushAfterRequest then endpoint.transport.flushHistory else []
  | .onTimer now =>
    let left := (endpoint.shed (·.onTimer now)).2
    let forwarded := (forward endpoint.transport network now endpoint.isExiting left).1
    forwardHistory endpoint.transport network now endpoint.isExiting left ++
      forwarded.onTimerHistory now
  | .shutdown now =>
    let left := (endpoint.shed (·.drain now)).2
    let forwarded := (forward endpoint.transport.cancelTimer network now true left).1
    forwardHistory endpoint.transport.cancelTimer network now true left ++ forwarded.flushHistory

/-- What happens to the buffer during a run. -/
def Ledger.history (network : Network) (ledger : Ledger) : List Operation → List Happening
  | [] => []
  | operation :: rest =>
    ledger.endpoint.history network operation ++ (ledger.step network operation).history network rest

theorem Ledger.history_concat (network : Network) (ledger : Ledger) (operations : List Operation)
    (operation : Operation) :
    ledger.history network (operations ++ [operation]) =
      ledger.history network operations ++
        (ledger.run network operations).endpoint.history network operation := by
  induction operations generalizing ledger with
  | nil => exact List.append_nil _
  | cons first rest ih =>
    rw [List.cons_append, history, ih, history, List.append_assoc]
    rfl

theorem steps_sendAll (transport : Transport) (network : Network) (now : Nat)
    (events : List Event) :
    Steps network now transport (sendAllHistory transport network now false events)
      (sendAll transport network now false events) := by
  induction events generalizing transport with
  | nil => exact Steps.refl
  | cons event rest ih => exact (transport.steps_send network event now).trans (ih _)

theorem steps_forward (transport : Transport) (network : Network) (now : Nat)
    (events : List Event) :
    Steps network now transport (forwardHistory transport network now false events)
      (forward transport network now false events).1 := by
  unfold forwardHistory forward
  split
  · exact Steps.refl
  · exact (steps_sendAll transport network now events).flush

/-- When an operation takes place, if that matters. -/
def Operation.time? : Operation → Option Nat
  | .send _ now | .onTimer now | .shutdown now => some now
  | .flush | .flushAfterRequest => none

/-- Whether an operation leaves the endpoint open. -/
def Operation.KeepsOpen : Operation → Prop
  | .shutdown _ => False
  | _ => True

instance : DecidablePred Operation.KeepsOpen
  | .shutdown _ => inferInstanceAs (Decidable False)
  | .send _ _ | .flush | .flushAfterRequest | .onTimer _ => inferInstanceAs (Decidable True)

variable {network : Network} {now : Nat}

theorem steps_endpointSend {endpoint : Endpoint} (running : endpoint.isExiting = false)
    (network : Network) (event : Event) (now : Nat) :
    Steps network now endpoint.transport (endpoint.history network (.send event now))
      (endpoint.send network event now).1.transport := by
  unfold history shed aggregates
  rw [running]
  cases here : endpoint.cache with
  | none =>
    rw [Ledger.send_of_none here, running]
    exact endpoint.transport.steps_send network event now
  | some cache =>
    cases answer : cache.ingest event now false with
    | mk next rest =>
      obtain ⟨intake, left⟩ := rest
      have forwarded := steps_forward endpoint.transport network now left
      rw [← running] at answer
      by_cases rejected : intake = .rejected
      · subst rejected
        rw [Ledger.send_of_rejected here answer, running]
        rw [running] at answer
        simp only [answer]
        exact forwarded.trans (Transport.steps_send _ network event now)
      · rw [Ledger.send_of_taken here answer rejected, running]
        rw [running] at answer
        simp only [answer, ne_eq, rejected, not_false_eq_true, decide_true, if_true, List.append_nil]
        exact forwarded

/-- An operation of an open endpoint does one thing after another with its transport. -/
theorem steps_step {ledger : Ledger} (running : ledger.endpoint.isExiting = false)
    {operation : Operation} (keepsOpen : operation.KeepsOpen)
    (timely : operation.time?.getD now = now) :
    Steps network now ledger.endpoint.transport (ledger.endpoint.history network operation)
      (ledger.step network operation).endpoint.transport := by
  have flushed : Steps network now ledger.endpoint.transport
      ledger.endpoint.transport.flushHistory (ledger.endpoint.flush network).1.transport := by
    rw [flush, running]
    exact Steps.refl.flush
  cases operation with
  | send event time =>
    obtain rfl : time = now := timely
    exact steps_endpointSend running network event time
  | flush => exact flushed
  | flushAfterRequest =>
    show Steps network now ledger.endpoint.transport
      (if ledger.endpoint.config.flushAfterRequest then _ else [])
      (ledger.endpoint.flushAfterRequest network).1.transport
    unfold flushAfterRequest
    split
    · exact flushed
    · exact Steps.refl
  | onTimer time =>
    obtain rfl : time = now := timely
    have forwarded := steps_forward ledger.endpoint.transport network time
      (ledger.endpoint.shed (·.onTimer time)).2
    show Steps network time ledger.endpoint.transport _
      ((forward _ network time ledger.endpoint.isExiting _).1.onTimer network time
        ledger.endpoint.isExiting).1
    unfold history
    rw [running]
    exact forwarded.trans (Transport.steps_onTimer _ network time)
  | shutdown time => exact keepsOpen.elim

end Endpoint

end MetricPipeline
