import MetricPipeline.Endpoint
import MetricPipeline.Proofs.SampleLots
import MetricPipeline.Proofs.TransportStream

/-!
An endpoint accounts for every sample it accepted.

A send can make the cache hand over events, flush in the middle and again at the end, and then keep
its event in the cache or in the buffer, and every flush may fail. Beside the endpoint a ledger is
kept: which events were accepted, which the transport took, in order, and which left the cache
although no buffer could hold them. Whatever is in a datagram, in the buffer, in the cache or lost
in this way stands for exactly the samples that were accepted, each of them once. The transport
keeps its records and the cache its events in order; here it only matters that an event moves from
one place to the next.
-/

namespace MetricPipeline

/-! ## Accounts -/

/-- The events in some places stand for the samples of the accepted events, each of them once. The
order does not matter. -/
def Accounts (places accepted : List Event) : Prop :=
  ∃ lots : List Lot, (lots.map (·.event)).Perm places ∧
    (∀ lot ∈ lots, lot.event.samples.StandsFor lot.block) ∧
    ∀ shape, (Lot.samplesOf shape lots).Perm (samplesOf shape accepted)

namespace Accounts

variable {places accepted : List Event}

theorem nil : Accounts [] [] := ⟨[], .nil, by simp, fun _ => .nil⟩

theorem perm (accounts : Accounts places accepted) {others : List Event}
    (same : others.Perm places) : Accounts others accepted := by
  obtain ⟨lots, events, stands, samples⟩ := accounts
  exact ⟨lots, events.trans same.symm, stands, samples⟩

/-- An event in a place of its own stands for its own samples. -/
theorem add (accounts : Accounts places accepted) (event : Event) :
    Accounts (places ++ [event]) (accepted ++ [event]) := by
  obtain ⟨lots, events, stands, samples⟩ := accounts
  refine ⟨lots ++ [{ event, opener := event, block := event.samples.list }], ?_, ?_, ?_⟩
  · rw [List.map_append, List.map_singleton]
    exact events.append_right [event]
  · intro lot member
    rcases List.mem_append.mp member with earlier | new
    · exact stands lot earlier
    · obtain rfl := List.mem_singleton.mp new
      exact event.samples.standsFor_list
  · intro shape
    rw [Lot.samplesOf_append, samplesOf_append]
    refine (samples shape).append ?_
    rw [samplesOf_singleton, Lot.samplesOf_cons]
    simp [Lot.samplesOf]

/-- A sample that is added to an event is one more that the event stands for. -/
theorem merge {target event : Event} (accounts : Accounts (target :: places) accepted)
    {sample : Sample} {samples : Samples} (single : event.single? = some sample)
    (same : target.shape = event.shape) (pushed : target.samples.push? sample = some samples) :
    Accounts ({ target with samples } :: places) (accepted ++ [event]) := by
  obtain ⟨lots, events, stands, blocks⟩ := accounts
  have alone : event.samples.list = [sample] := Samples.list_of_single single
  have kind : samples.kind = target.samples.kind := Samples.push?_kind pushed
  have member : target ∈ lots.map (·.event) := events.symm.mem_iff.mp List.mem_cons_self
  obtain ⟨lot, among, rfl⟩ := List.mem_map.mp member
  obtain ⟨front, back, rfl⟩ := List.append_of_mem among
  have shape : ({ lot.event with samples } : Event).shape = lot.event.shape := by
    simp only [Event.shape, Event.kind, kind]
  have rest : ((front ++ back).map (·.event)).Perm places := by
    have moved : ((lot :: (front ++ back)).map (·.event)).Perm (lot.event :: places) :=
      (List.perm_middle.symm.map _).trans events
    exact moved.cons_inv
  refine ⟨{ lot with event := { lot.event with samples }, block := lot.block ++ [sample] } ::
    (front ++ back), rest.cons _, ?_, fun any => ?_⟩
  · intro other found
    rcases List.mem_cons.mp found with rfl | elsewhere
    · exact (stands lot among).push pushed
    · rcases List.mem_append.mp elsewhere with earlier | later
      · exact stands other (List.mem_append_left _ earlier)
      · exact stands other (List.mem_append_right _ (List.mem_cons_of_mem _ later))
  · have before : (Lot.samplesOf any (lot :: (front ++ back))).Perm (samplesOf any accepted) :=
      ((List.perm_middle.symm.filter _).flatMap_right _).trans (blocks any)
    rw [Lot.samplesOf_cons] at before ⊢
    rw [samplesOf_append, samplesOf_singleton, alone, shape, ← same]
    by_cases mine : lot.event.shape = any
    · rw [if_pos mine] at before ⊢
      rw [if_pos mine]
      have moved : (lot.block ++ [sample] ++ Lot.samplesOf any (front ++ back)).Perm
          (lot.block ++ Lot.samplesOf any (front ++ back) ++ [sample]) := by
        rw [List.append_assoc, List.append_assoc]
        exact List.perm_append_comm.append_left _
      exact moved.trans (before.append_right [sample])
    · rw [if_neg mine] at before ⊢
      rw [if_neg mine, List.append_nil]
      exact before

/-- So does what a cache does with an event, wherever else events are. -/
theorem taken {cap : Nat} {event : Event} {front held after back : List Event} {intake : Intake}
    (accounts : Accounts (front ++ held ++ back) accepted)
    (taken : Cache.Taken cap event held intake after) :
    Accounts (front ++ after ++ back)
      (if intake = .rejected then accepted else accepted ++ [event]) := by
  cases taken with
  | rejected => exact accounts
  | buffered _ sample single roomy =>
    have moved : (front ++ (held ++ [event]) ++ back).Perm (front ++ held ++ back ++ [event]) := by
      rw [← List.append_assoc front, List.append_assoc (front ++ held), List.append_assoc _ back]
      exact List.perm_append_comm.append_left _
    exact (accounts.add event).perm moved
  | merged older newer target sample samples single same newest pushed roomy =>
    have cut : ∀ any, (front ++ (older ++ any :: newer) ++ back).Perm
        (any :: (front ++ older ++ (newer ++ back))) := by
      intro any
      rw [← List.append_assoc front, List.append_assoc _ (any :: newer), List.cons_append]
      exact List.perm_middle
    have joined := (accounts.perm (cut target).symm).merge single same pushed
    exact joined.perm (cut { target with samples })

/-- But for counters the places list the accepted samples. -/
theorem samplesOf_perm (accounts : Accounts places accepted) {shape : Shape}
    (notCounter : shape.kind ≠ .counter) :
    (samplesOf shape accepted).Perm (samplesOf shape places) := by
  obtain ⟨lots, events, stands, samples⟩ := accounts
  have listed := Lot.samplesOf_eq_list notCounter stands
  have moved : (samplesOf shape (lots.map (·.event))).Perm (samplesOf shape places) :=
    (events.filter _).flatMap_right _
  exact (samples shape).symm.trans (listed ▸ moved)

end Accounts

namespace Endpoint

open Wire (records)
open Transport (Carries acceptedAfter)

/-! ## Handing events over -/

/-- The answers of a transport to events that are handed to it one after another. -/
def answers (transport : Transport) (network : Network) (now : Nat) (exiting : Bool) :
    List Event → List (Event × SendOutcome)
  | [] => []
  | event :: rest =>
    let (next, outcome) := transport.send network event now exiting
    (event, outcome) :: answers next network now exiting rest

/-- The events that were answered in one way. -/
def answered (outcome : SendOutcome) (answers : List (Event × SendOutcome)) : List Event :=
  (answers.filter (·.2 = outcome)).map (·.1)

/-- Every event is answered, in one of two ways. -/
theorem answered_perm (transport : Transport) (network : Network) (now : Nat) (exiting : Bool)
    (events : List Event) :
    (answered .buffered (answers transport network now exiting events) ++
      answered .tooBig (answers transport network now exiting events)).Perm events := by
  induction events generalizing transport with
  | nil => exact .nil
  | cons event rest ih =>
    have others := ih (transport.send network event now exiting).1
    rw [answers]
    dsimp only
    cases outcome : (transport.send network event now exiting).2 with
    | buffered => simpa [answered] using others.cons event
    | tooBig => simpa [answered] using List.perm_middle.trans (others.cons event)

theorem sendAll_carries {transport : Transport} {shipped : List Event}
    (carries : Carries transport shipped) (network : Network) (now : Nat) (exiting : Bool)
    (events : List Event) :
    Carries (sendAll transport network now exiting events)
      (shipped ++ answered .buffered (answers transport network now exiting events)) := by
  induction events generalizing transport shipped with
  | nil => simpa [sendAll, answers, answered] using carries
  | cons event rest ih =>
    have sent : Carries (transport.send network event now exiting).1 _ :=
      carries.send event now exiting
    have all := ih sent
    rw [sendAll, List.foldl_cons]
    rw [answers]
    dsimp only
    cases outcome : (transport.send network event now exiting).2 with
    | buffered =>
      rw [outcome, acceptedAfter, List.append_assoc] at all
      simpa [answered, sendAll] using all
    | tooBig =>
      rw [outcome, acceptedAfter] at all
      simpa [answered, sendAll] using all

/-- Forwarding takes the events that fit, and then flushes. -/
theorem forward_carries {transport : Transport} {shipped : List Event}
    (carries : Carries transport shipped) (network : Network) (now : Nat) (exiting : Bool)
    (events : List Event) :
    Carries (forward transport network now exiting events).1
      (shipped ++ answered .buffered (answers transport network now exiting events)) := by
  unfold forward
  split
  · rename_i none
    subst none
    simpa [answers, answered] using carries
  · exact (sendAll_carries carries network now exiting events).flush exiting

/-! ## The ledger -/

/-- What the owner of an endpoint can ask for. -/
inductive Operation where
  /-- Take an event. -/
  | send (event : Event) (now : Nat)
  /-- Send what waits in the transport. -/
  | flush
  /-- End a unit of work. -/
  | flushAfterRequest
  /-- Do what is due. -/
  | onTimer (now : Nat)
  /-- Stop aggregating, and send what is left. -/
  | shutdown (now : Nat)

/-- The events that are sent can be kept whole. -/
def Operation.Storable : Operation → Prop
  | .send event _ => event.Storable
  | _ => True

instance : DecidablePred Operation.Storable
  | .send event _ => inferInstanceAs (Decidable event.Storable)
  | .flush | .flushAfterRequest | .onTimer _ | .shutdown _ => inferInstanceAs (Decidable True)

/-- The events in the cache, oldest first. -/
def live (endpoint : Endpoint) : List Event :=
  match endpoint.cache with
  | some cache => cache.events
  | none => []

/-- What is left in the cache after an operation of its own, and the events that it hands over.
Without a cache there are none. -/
def shed (endpoint : Endpoint) (operation : Cache → Cache × List Event) :
    Option Cache × List Event :=
  match endpoint.cache with
  | some cache => let (rest, left) := operation cache; (some rest, left)
  | none => (none, [])

theorem exists_of_shed {endpoint : Endpoint} {operation : Cache → Cache × List Event} {rest : Cache}
    (left : (endpoint.shed operation).1 = some rest) :
    ∃ cache, endpoint.cache = some cache ∧ (operation cache).1 = rest := by
  unfold shed at left
  cases here : endpoint.cache with
  | none =>
    rw [here] at left
    cases left
  | some cache =>
    rw [here] at left
    exact ⟨cache, rfl, Option.some.inj left⟩

/-- What the transport answers to the events that the cache hands over during an operation. -/
def handedOver (endpoint : Endpoint) (network : Network) : Operation → List (Event × SendOutcome)
  | .send event now =>
    let offer (cache : Cache) := cache.ingest event now endpoint.isExiting
    answers endpoint.transport network now endpoint.isExiting
      (endpoint.shed fun cache => ((offer cache).1, (offer cache).2.2)).2
  | .onTimer now =>
    answers endpoint.transport network now endpoint.isExiting (endpoint.shed (·.onTimer now)).2
  | .shutdown now =>
    answers endpoint.transport.cancelTimer network now true (endpoint.shed (·.drain now)).2
  | .flush | .flushAfterRequest => []

/-- Whether the cache takes the event of a send. -/
def aggregates (endpoint : Endpoint) (event : Event) (now : Nat) : Bool :=
  match endpoint.cache with
  | some cache => (cache.ingest event now endpoint.isExiting).2.1 ≠ .rejected
  | none => false

/-- The cache is sound, if there is one. -/
def Sound (endpoint : Endpoint) : Prop := ∀ cache, endpoint.cache = some cache → cache.Sound

/-- The events that a cache hands over are the oldest ones it held. -/
theorem Sound.shed {endpoint next : Endpoint} (sound : endpoint.Sound)
    {operation : Cache → Cache × List Event}
    (sheds : ∀ cache : Cache, cache.Sound →
      Cache.Sheds cache (operation cache).1 (operation cache).2)
    (rest : next.cache = (endpoint.shed operation).1) :
    next.Sound ∧ (endpoint.shed operation).2 ++ next.live = endpoint.live := by
  unfold Endpoint.shed at rest ⊢
  cases here : endpoint.cache with
  | none =>
    rw [here] at rest
    refine ⟨fun cache absent => ?_, ?_⟩
    · rw [rest] at absent
      cases absent
    · simp [live, here, rest]
  | some cache =>
    rw [here] at rest
    have done := sheds cache (sound cache here)
    refine ⟨fun other same => ?_, ?_⟩
    · rw [rest] at same
      obtain rfl := Option.some.inj same
      exact done.sound
    · simpa [live, here, rest] using done.events

/-- An endpoint and what became of the events that passed through it. -/
structure Ledger where
  /-- The endpoint. -/
  endpoint : Endpoint
  /-- The events of the sends that were answered to be buffered. -/
  accepted : List Event
  /-- The events that the transport answered to have buffered, oldest first. -/
  shipped : List Event
  /-- The events that the cache handed over and the transport answered to be too big. -/
  lost : List Event

namespace Ledger

/-- One operation. An event that the cache does not take is handed to the transport by the send
itself, after those that the cache hands over. -/
def step (network : Network) (ledger : Ledger) (operation : Operation) : Ledger :=
  let handed := ledger.endpoint.handedOver network operation
  let shipped := ledger.shipped ++ answered .buffered handed
  let lost := ledger.lost ++ answered .tooBig handed
  match operation with
  | .send event now =>
    let (endpoint, outcome) := ledger.endpoint.send network event now
    { endpoint
      accepted := acceptedAfter ledger.accepted event outcome
      shipped :=
        if ledger.endpoint.aggregates event now then shipped
        else acceptedAfter shipped event outcome
      lost }
  | .flush => { ledger with endpoint := (ledger.endpoint.flush network).1, shipped, lost }
  | .flushAfterRequest =>
    { ledger with endpoint := (ledger.endpoint.flushAfterRequest network).1, shipped, lost }
  | .onTimer now => { ledger with endpoint := ledger.endpoint.onTimer network now, shipped, lost }
  | .shutdown now =>
    { ledger with endpoint := (ledger.endpoint.shutdown network now).1, shipped, lost }

/-- The ledger of an endpoint that has not been used. -/
def new (endpoint : Endpoint) : Ledger := { endpoint, accepted := [], shipped := [], lost := [] }

/-- All places an accepted event can be in. -/
def places (ledger : Ledger) : List Event := ledger.shipped ++ ledger.endpoint.live ++ ledger.lost

/-- The cache is sound, the transport has what was shipped, and all places together account for what
was accepted. -/
structure Balanced (ledger : Ledger) : Prop where
  /-- What holds of every cache. -/
  sound : ledger.endpoint.Sound
  /-- What holds of every transport. -/
  carries : Carries ledger.endpoint.transport ledger.shipped
  /-- No sample is lost or repeated. -/
  accounts : Accounts ledger.places ledger.accepted

variable {ledger : Ledger} {network : Network}

/-- Events that leave the cache are shipped or lost. -/
theorem places_perm (shipped after lost : List Event) {left buffered tooBig : List Event}
    (all : (buffered ++ tooBig).Perm left) :
    (shipped ++ buffered ++ after ++ (lost ++ tooBig)).Perm
      (shipped ++ (left ++ after) ++ lost) := by
  rw [List.perm_iff_count]
  intro event
  have counted := all.count_eq event
  simp only [List.count_append] at counted ⊢
  omega

/-- When events leave the cache and nothing arrives, the account stays balanced. -/
theorem Balanced.sheds (balanced : ledger.Balanced) {endpoint : Endpoint}
    {left buffered tooBig : List Event} (all : (buffered ++ tooBig).Perm left)
    (sound : endpoint.Sound)
    (carries : Carries endpoint.transport (ledger.shipped ++ buffered))
    (events : left ++ endpoint.live = ledger.endpoint.live) :
    Balanced
      { ledger with
        endpoint
        shipped := ledger.shipped ++ buffered
        lost := ledger.lost ++ tooBig } := by
  refine ⟨sound, carries, balanced.accounts.perm ?_⟩
  refine (places_perm _ _ _ all).trans ?_
  rw [events]
  exact List.Perm.refl _

/-- An event that is handed to the transport directly is shipped if it is accepted. -/
theorem accounts_direct {shipped live lost accepted : List Event}
    (accounts : Accounts (shipped ++ live ++ lost) accepted) (event : Event)
    (outcome : SendOutcome) :
    Accounts (acceptedAfter shipped event outcome ++ live ++ lost)
      (acceptedAfter accepted event outcome) := by
  cases outcome with
  | tooBig => exact accounts
  | buffered =>
    refine (accounts.add event).perm ?_
    rw [List.perm_iff_count]
    intro any
    simp only [acceptedAfter, List.count_append]
    omega

theorem send_of_none {endpoint : Endpoint} (here : endpoint.cache = none) (network : Network)
    (event : Event) (now : Nat) :
    endpoint.send network event now =
      let sent := endpoint.transport.send network event now endpoint.isExiting
      ({ endpoint with transport := sent.1 }, sent.2) := by
  obtain ⟨config, transport, cache, isExiting⟩ := endpoint
  obtain rfl : cache = none := here
  rfl

/-- What a cache takes is not sent any further. -/
theorem send_of_taken {endpoint : Endpoint} {cache next : Cache} {event : Event} {now : Nat}
    {intake : Intake} {left : List Event} (here : endpoint.cache = some cache)
    (answer : cache.ingest event now endpoint.isExiting = (next, intake, left))
    (taken : intake ≠ .rejected) (network : Network) :
    endpoint.send network event now =
      ({ endpoint with
          transport := (forward endpoint.transport network now endpoint.isExiting left).1
          cache := some next }, .buffered) := by
  rw [Endpoint.send, here]
  dsimp only
  rw [answer]
  cases intake with
  | rejected => exact absurd rfl taken
  | merged => rfl
  | buffered => rfl

/-- What it does not take goes to the transport, after the events that left it. -/
theorem send_of_rejected {endpoint : Endpoint} {cache next : Cache} {event : Event} {now : Nat}
    {left : List Event} (here : endpoint.cache = some cache)
    (answer : cache.ingest event now endpoint.isExiting = (next, .rejected, left))
    (network : Network) :
    endpoint.send network event now =
      let forwarded := (forward endpoint.transport network now endpoint.isExiting left).1
      let sent := forwarded.send network event now endpoint.isExiting
      ({ endpoint with transport := sent.1, cache := some next }, sent.2) := by
  rw [Endpoint.send, here]
  dsimp only
  rw [answer]

/-- An event that does not go to the cache is handed to the transport. -/
theorem Balanced.direct (balanced : ledger.Balanced) (network : Network) (event : Event)
    (now : Nat) :
    let sent := ledger.endpoint.transport.send network event now ledger.endpoint.isExiting
    Balanced
      { endpoint := { ledger.endpoint with transport := sent.1 }
        accepted := acceptedAfter ledger.accepted event sent.2
        shipped := acceptedAfter ledger.shipped event sent.2
        lost := ledger.lost } :=
  ⟨balanced.sound, balanced.carries.send event now ledger.endpoint.isExiting,
    accounts_direct balanced.accounts event _⟩

/-- A send leaves the account balanced, wherever its event goes. -/
theorem Balanced.send (balanced : ledger.Balanced) {event : Event} (storable : event.Storable)
    (now : Nat) : (ledger.step network (.send event now)).Balanced := by
  cases here : ledger.endpoint.cache with
  | none =>
    have sent := balanced.direct network event now
    simpa [step, handedOver, shed, aggregates, here, send_of_none here, answers,
      answered] using sent
  | some cache =>
    have admits := (balanced.sound cache here).ingest storable now ledger.endpoint.isExiting
    cases answer : cache.ingest event now ledger.endpoint.isExiting with
    | mk next rest =>
      obtain ⟨intake, left⟩ := rest
      rw [answer] at admits
      have taken : Cache.Taken cache.sampleCap event cache.events intake (left ++ next.events) :=
        admits.taken
      have sound : ∀ other, some next = some other → other.Sound := by
        intro other same
        obtain rfl := Option.some.inj same
        exact admits.sound
      have all := answered_perm ledger.endpoint.transport network now ledger.endpoint.isExiting left
      have carries := forward_carries balanced.carries network now ledger.endpoint.isExiting left
      by_cases rejected : intake = .rejected
      · subst rejected
        have events : left ++ next.events = ledger.endpoint.live := by
          rw [live, here]
          exact taken.eq_of_rejected
        have forwarded : Balanced
            { ledger with
              endpoint := { ledger.endpoint with transport := _, cache := some next }
              shipped := _
              lost := _ } := balanced.sheds all sound carries events
        have sent := forwarded.direct network event now
        simpa [step, handedOver, shed, aggregates, here, answer,
          send_of_rejected here answer] using sent
      · have accounts := balanced.accounts
        rw [places, live, here] at accounts
        have moved := (accounts.taken taken).perm (places_perm _ _ _ all)
        rw [if_neg rejected] at moved
        have held : Balanced
            { endpoint := { ledger.endpoint with transport := _, cache := some next }
              accepted := _
              shipped := _
              lost := _ } := ⟨sound, carries, moved⟩
        simpa [step, handedOver, shed, aggregates, here, answer, rejected, acceptedAfter,
          send_of_taken here answer rejected] using held

/-- One operation moves events, and the account stays balanced. -/
theorem step_balanced (balanced : ledger.Balanced) {operation : Operation}
    (storable : operation.Storable) : (ledger.step network operation).Balanced := by
  have flushed : (ledger.step network .flush).Balanced :=
    balanced.sheds .nil balanced.sound
      ((List.append_nil ledger.shipped).symm ▸ balanced.carries.flush ledger.endpoint.isExiting) rfl
  cases operation with
  | flush => exact flushed
  | flushAfterRequest =>
    by_cases asked : ledger.endpoint.config.flushAfterRequest = true
    · have same : ledger.endpoint.flushAfterRequest network = ledger.endpoint.flush network :=
        if_pos asked
      simpa [step, same, handedOver, answered] using flushed
    · have same : ledger.endpoint.flushAfterRequest network = (ledger.endpoint, .empty) :=
        if_neg asked
      simpa [step, same, handedOver, answered] using balanced
  | onTimer now =>
    have left : (ledger.endpoint.onTimer network now).Sound ∧
        _ ++ (ledger.endpoint.onTimer network now).live = ledger.endpoint.live :=
      balanced.sound.shed (fun _ kept => kept.onTimer now) rfl
    have forwarded := forward_carries balanced.carries network now ledger.endpoint.isExiting
      (ledger.endpoint.shed (·.onTimer now)).2
    exact balanced.sheds (answered_perm ..) left.1 (forwarded.onTimer now _) left.2
  | shutdown now =>
    have left : (ledger.endpoint.shutdown network now).1.Sound ∧
        _ ++ (ledger.endpoint.shutdown network now).1.live = ledger.endpoint.live :=
      balanced.sound.shed (fun _ kept => kept.drain now) rfl
    have forwarded := forward_carries balanced.carries.cancelTimer network now true
      (ledger.endpoint.shed (·.drain now)).2
    exact balanced.sheds (answered_perm ..) left.1 (forwarded.flush true).close left.2
  | send event now => exact balanced.send storable now

/-- A run from any ledger on. -/
def run (network : Network) (ledger : Ledger) (operations : List Operation) : Ledger :=
  operations.foldl (step network) ledger

theorem run_balanced (balanced : ledger.Balanced) {operations : List Operation}
    (storable : ∀ operation ∈ operations, operation.Storable) :
    (ledger.run network operations).Balanced := by
  unfold run
  induction operations generalizing ledger with
  | nil => exact balanced
  | cons operation rest ih =>
    obtain ⟨first, others⟩ := List.forall_mem_cons.mp storable
    exact ih (step_balanced balanced first) others

theorem balanced_new {config : ResolvedEndpoint} {endpoint : Endpoint}
    (created : Endpoint.create config = .ok endpoint) : (Ledger.new endpoint).Balanced := by
  have fresh : ∀ cache, cacheOf config = .ok cache →
      (Ledger.new
        { config
          transport := Transport.new config.address config.bufferSize config.flushInterval
          cache
          isExiting := false }).Balanced := by
    intro cache made
    unfold cacheOf at made
    split at made
    · obtain rfl := Except.ok.inj made
      exact ⟨nofun, Transport.carries_new _ _ _, Accounts.nil⟩
    · split at made
      · cases made
      · obtain rfl := Except.ok.inj made
        refine ⟨fun cache same => ?_, Transport.carries_new _ _ _, Accounts.nil⟩
        obtain rfl := Option.some.inj same
        exact Cache.sound_empty _ _ _
  unfold Endpoint.create at created
  cases made : cacheOf config with
  | error error => rw [made] at created; cases created
  | ok cache =>
    rw [made] at created
    obtain rfl := Except.ok.inj created
    exact fresh cache made

/-- An event that is too big is nowhere afterwards, although others may have moved. -/
theorem Balanced.send_tooBig (balanced : ledger.Balanced) {event : Event}
    (storable : event.Storable) {now : Nat}
    (tooBig : (ledger.endpoint.send network event now).2 = .tooBig) :
    (ledger.step network (.send event now)).accepted = ledger.accepted ∧
      (ledger.step network (.send event now)).places.Perm ledger.places := by
  refine ⟨by simp only [step, tooBig, acceptedAfter], ?_⟩
  cases here : ledger.endpoint.cache with
  | none =>
    rw [send_of_none here] at tooBig
    simp [step, handedOver, shed, aggregates, here, send_of_none here, answers, answered, places,
      live, tooBig, acceptedAfter]
  | some cache =>
    have admits := (balanced.sound cache here).ingest storable now ledger.endpoint.isExiting
    cases answer : cache.ingest event now ledger.endpoint.isExiting with
    | mk next rest =>
      obtain ⟨intake, left⟩ := rest
      rw [answer] at admits
      have taken : Cache.Taken cache.sampleCap event cache.events intake (left ++ next.events) :=
        admits.taken
      by_cases rejected : intake = .rejected
      · subst rejected
        have all := answered_perm ledger.endpoint.transport network now
          ledger.endpoint.isExiting left
        have moved := places_perm ledger.shipped next.events ledger.lost all
        rw [send_of_rejected here answer] at tooBig
        rw [taken.eq_of_rejected] at moved
        simpa [step, handedOver, shed, aggregates, here, answer, send_of_rejected here answer,
          places, live, tooBig, acceptedAfter] using moved
      · rw [send_of_taken here answer rejected] at tooBig
        cases tooBig

end Ledger

/-- **An endpoint accounts for every accepted sample.** In every run, under every network, the
datagrams and the buffer are the records of the shipped events in order, and the events in
datagrams, in the buffer, in the cache and those lost because they were too big stand for the
accepted samples, each of them once. But for counters they list these samples. A further send that
is answered to be too big puts its event in none of these places. -/
theorem run_accounts_for_samples (network : Network) (config : ResolvedEndpoint)
    (endpoint : Endpoint) (created : Endpoint.create config = .ok endpoint)
    (operations : List Operation) (storable : ∀ operation ∈ operations, operation.Storable) :
    let final := (Ledger.new endpoint).run network operations
    (∃ (groups : List (List Event)) (waiting : List Event),
      final.endpoint.transport.delivered = groups.map records ∧
      final.endpoint.transport.buffer = records waiting ∧
      groups.flatten ++ waiting = final.shipped ∧
      Accounts (groups.flatten ++ waiting ++ final.endpoint.live ++ final.lost) final.accepted ∧
      ∀ shape, shape.kind ≠ .counter →
        (samplesOf shape final.accepted).Perm
          (samplesOf shape groups.flatten ++ samplesOf shape waiting ++
            samplesOf shape final.endpoint.live ++ samplesOf shape final.lost)) ∧
      ∀ event now, event.Storable → (final.endpoint.send network event now).2 = .tooBig →
        let next := final.step network (.send event now)
        next.accepted = final.accepted ∧ next.places.Perm final.places := by
  intro final
  have balanced : final.Balanced := Ledger.run_balanced (Ledger.balanced_new created) storable
  refine ⟨?_, fun event now kept tooBig => balanced.send_tooBig kept tooBig⟩
  obtain ⟨groups, waiting, spread⟩ := balanced.carries
  have accounts := balanced.accounts
  rw [Ledger.places, ← spread.order] at accounts
  refine ⟨groups, waiting, spread.delivered, spread.buffer, spread.order, accounts, ?_⟩
  intro shape notCounter
  simpa only [samplesOf_append] using accounts.samplesOf_perm notCounter

/-- An endpoint with a small buffer and a cache whose entries take two samples. -/
def smallEndpoint : Endpoint :=
  let config : ResolvedEndpoint :=
    { address := .v4 [127, 0, 0, 1] 13337
      bufferSize := 80
      flushInterval := 10
      splitsMax := 4
      flushAfterRequest := true
      aggregateSize := 200
      aggregateValues := 2 }
  { config
    transport := Transport.new config.address 80 10
    cache := some (Cache.empty 200 10 2)
    isExiting := false }

/-- A network that refuses the first connection. -/
def refusingNetwork : Network :=
  Network.following [.failed (.connect smallEndpoint.config.address "Connection refused")]

/-- Events that are merged, that do not fit the cache, that go past it, and that fit no buffer. -/
def mixedRun : List Operation :=
  let size (bits : UInt64) (host : String) : Event :=
    { name := "size", samples := .value [⟨bits⟩], dimensions := [{ key := "0", value := host }] }
  let long := "a-host-whose-name-is-too-long-for-the-buffer"
  let pair : Event := { name := "pair", samples := .unique [1, 2], dimensions := [] }
  [.send (size 1 "a") 5, .send (size 2 "a") 6, .send (size 3 long) 7, .send (size 4 "a") 7, .flush,
    .onTimer 20, .send pair 21, .flushAfterRequest, .send (size 5 "b") 22, .shutdown 23,
    .send (size 6 long) 24, .send (size 7 "a") 25]

theorem mixedRun_accounts_for_samples :
    Endpoint.create smallEndpoint.config = .ok smallEndpoint ∧
      (∀ operation ∈ mixedRun, operation.Storable) ∧
      let final := (Ledger.new smallEndpoint).run refusingNetwork mixedRun
      final.accepted.length = 7 ∧ final.shipped.length = 5 ∧ final.lost.length = 1 ∧
        (∃ (groups : List (List Event)) (waiting : List Event),
          final.endpoint.transport.delivered = groups.map records ∧
          final.endpoint.transport.buffer = records waiting ∧
          groups.flatten ++ waiting = final.shipped ∧
          Accounts (groups.flatten ++ waiting ++ final.endpoint.live ++ final.lost)
            final.accepted ∧
          ∀ shape, shape.kind ≠ .counter →
            (samplesOf shape final.accepted).Perm
              (samplesOf shape groups.flatten ++ samplesOf shape waiting ++
                samplesOf shape final.endpoint.live ++ samplesOf shape final.lost)) ∧
        ∀ event now, event.Storable →
          (final.endpoint.send refusingNetwork event now).2 = .tooBig →
          let next := final.step refusingNetwork (.send event now)
          next.accepted = final.accepted ∧ next.places.Perm final.places := by
  have created : Endpoint.create smallEndpoint.config = .ok smallEndpoint := rfl
  have storable : ∀ operation ∈ mixedRun, operation.Storable := by decide
  have sizes :
      let final := (Ledger.new smallEndpoint).run refusingNetwork mixedRun
      (final.accepted.length, final.shipped.length, final.lost.length) = (7, 5, 1) := by
    decide +kernel
  obtain ⟨accepted, rest⟩ := Prod.mk.inj sizes
  obtain ⟨shipped, lost⟩ := Prod.mk.inj rest
  exact ⟨created, storable, accepted, shipped, lost,
    run_accounts_for_samples refusingNetwork smallEndpoint.config smallEndpoint created mixedRun
      storable⟩

end Endpoint

end MetricPipeline
