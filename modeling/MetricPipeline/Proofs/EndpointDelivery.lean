import Mathlib.Data.List.TakeWhile
import MetricPipeline.Proofs.FlushProgress

/-!
What aggregation may lose that direct sending would deliver.

Events are accepted one sample at a time, but what leaves the cache is a record of many samples. How
many is bounded by the cap, and the cap is checked against the size of the cache only. So a merged
record can be too big for the buffer although each of its samples fitted alone, and it is dropped
when it leaves the cache. On a network that delivers, nothing else is lost.
-/

namespace MetricPipeline

open Wire (records recordSize)
open Transport (acceptedAfter)

/-! ## Sizes of records -/

theorem samplesSize_of_kind {these those : Samples} (same : these.kind = those.kind) :
    Wire.samplesSize these + sampleSize * those.length =
      Wire.samplesSize those + sampleSize * these.length := by
  cases these <;> cases those <;> cases same <;>
    simp only [Wire.samplesSize, Samples.length, sampleSize]
  · omega
  · omega

/-- But for its samples the size of a record is a matter of its shape. -/
theorem recordSize_of_shape {first second : Event} (same : first.shape = second.shape) :
    recordSize first + sampleSize * second.samples.length =
      recordSize second + sampleSize * first.samples.length := by
  obtain ⟨name, kind, dimensions⟩ := Shape.mk.inj same
  have samples := samplesSize_of_kind kind
  simp only [recordSize, Wire.eventSize, name, dimensions]
  omega

theorem clampedSize_le_stringSize (text : String) : Wire.clampedSize text ≤ Wire.stringSize text := by
  simp only [Wire.stringSize]
  omega

theorem clampedSize_le_dimensionsSize {dimensions : List Dimension} {dimension : Dimension}
    (member : dimension ∈ dimensions) :
    Wire.clampedSize dimension.value ≤ Wire.dimensionsSize dimensions := by
  have small := clampedSize_le_stringSize dimension.value
  induction dimensions with
  | nil => cases member
  | cons first rest ih =>
    rw [Wire.dimensionsSize]
    rcases List.mem_cons.mp member with rfl | later
    · omega
    · have := ih later
      omega

/-- An event whose record fits a datagram has no value that is too long for the cache. -/
theorem Event.storable_of_recordSize {event : Event}
    (few : event.dimensions.length ≤ maxDimensions) (fits : recordSize event ≤ maxDatagram) :
    event.Storable := by
  refine ⟨few, fun dimension member => ?_⟩
  have small := clampedSize_le_dimensionsSize member
  rw [recordSize, Wire.eventSize, maxDatagram] at fits
  rw [Wire.clampedSize, Wire.maxString] at small
  show dimension.value.utf8ByteSize < 4294967296
  omega

/-! ## Samples that were accepted -/

theorem exists_of_mem_samplesOf {shape : Shape} {events : List Event} {sample : Sample}
    (member : sample ∈ samplesOf shape events) :
    ∃ event ∈ events, event.shape = shape ∧ 1 ≤ event.samples.length := by
  obtain ⟨event, among, listed⟩ := List.mem_flatMap.mp member
  obtain ⟨there, same⟩ := List.mem_filter.mp among
  refine ⟨event, there, of_decide_eq_true same, ?_⟩
  rw [← Samples.list_length]
  exact List.length_pos_of_mem listed

theorem Samples.StandsFor.ne_nil {samples : Samples} {block : List Sample}
    (stands : samples.StandsFor block) (some : 1 ≤ samples.length) : block ≠ [] := by
  cases samples with
  | counter sum =>
    obtain ⟨first, rest, rfl, -⟩ := stands
    simp
  | value sizes =>
    obtain rfl := stands
    simpa [Samples.length, Nat.one_le_iff_ne_zero] using some
  | unique ids =>
    obtain rfl := stands
    simpa [Samples.length, Nat.one_le_iff_ne_zero] using some

/-- An event with samples has an accepted event of its shape. -/
theorem Accounts.exists_accepted {places accepted : List Event} (accounts : Accounts places accepted)
    {event : Event} (member : event ∈ places) (some : 1 ≤ event.samples.length) :
    ∃ first ∈ accepted, first.shape = event.shape ∧ 1 ≤ first.samples.length := by
  obtain ⟨lots, events, stands, samples⟩ := accounts
  obtain ⟨lot, among, rfl⟩ := List.mem_map.mp (events.symm.mem_iff.mp member)
  obtain ⟨sample, listed⟩ := List.exists_mem_of_ne_nil _ ((stands lot among).ne_nil some)
  have found : sample ∈ Lot.samplesOf lot.event.shape lots :=
    List.mem_flatMap.mpr ⟨lot, List.mem_filter.mpr ⟨among, decide_eq_true rfl⟩, listed⟩
  exact exists_of_mem_samplesOf ((samples lot.event.shape).mem_iff.mp found)

/-! ## Events in the cache -/

/-- An event has samples, and but for counters no more than the cap. -/
structure Event.Within (cap : Nat) (event : Event) : Prop where
  some : 1 ≤ event.samples.length
  capped : event.kind ≠ .counter → event.samples.length ≤ cap

theorem Samples.push?_length {samples more : Samples} {sample : Sample}
    (pushed : samples.push? sample = some more) : 1 ≤ more.length := by
  unfold Samples.push? at pushed
  split at pushed
  · obtain rfl := Option.some.inj pushed
    exact Nat.le_refl 1
  · obtain rfl := Option.some.inj pushed
    simp [Samples.length]
  · obtain rfl := Option.some.inj pushed
    simp [Samples.length]
  · cases pushed

namespace Cache

theorem Taken.within {cap : Nat} {event : Event} {held after : List Event} {intake : Intake}
    (taken : Taken cap event held intake after) (before : ∀ other ∈ held, other.Within cap) :
    ∀ other ∈ after, other.Within cap := by
  cases taken with
  | rejected => exact before
  | buffered _ sample single roomy =>
    have alone : event.samples.length = 1 := by
      rw [← Samples.list_length, Samples.list_of_single single]
      rfl
    intro other member
    rcases List.mem_append.mp member with earlier | new
    · exact before other earlier
    · obtain rfl := List.mem_singleton.mp new
      exact ⟨Nat.le_of_eq alone.symm, fun notCounter => alone ▸ roomy notCounter⟩
  | merged older newer target sample samples single same newest pushed roomy =>
    have kind : samples.kind = event.kind :=
      (Samples.push?_kind pushed).trans (congrArg Shape.kind same)
    intro other member
    rcases List.mem_append.mp member with earlier | rest
    · exact before other (List.mem_append_left _ earlier)
    rcases List.mem_cons.mp rest with rfl | later
    · exact ⟨Samples.push?_length pushed, fun notCounter => roomy (kind ▸ notCounter)⟩
    · exact before other (List.mem_append_right _ (List.mem_cons_of_mem _ later))

/-- A drained cache is empty. -/
theorem Sound.drain_events {cache : Cache} (sound : cache.Sound) (now : Nat) :
    (cache.drain now).1.events = [] := by
  have whole : cache.leaving now true = cache.ring.records.length :=
    congrArg List.length (List.takeWhile_eq_self_iff.mpr fun _ _ => Bool.true_or _)
  have all : (cache.drain now).2 = cache.events := by
    show (cache.ring.records.take (cache.leaving now true)).map cache.eventOf = cache.events
    rw [whole, List.take_length, events]
  have kept := (sound.drain now).events
  rw [all] at kept
  exact List.append_right_eq_self.mp kept

/-- What holds of every cache, with its cap and the samples of its events. -/
structure Confined (limit : Nat) (cache : Cache) : Prop where
  sound : cache.Sound
  cap : cache.sampleCap = limit
  events : ∀ event ∈ cache.events, event.Within limit

variable {cache next : Cache} {cap : Nat} {left : List Event}

theorem Confined.sheds (confined : cache.Confined cap) (sheds : Sheds cache next left) :
    next.Confined cap ∧ ∀ event ∈ left, event.Within cap := by
  have all := confined.events
  rw [← sheds.events, List.forall_mem_append] at all
  exact ⟨⟨sheds.sound, sheds.cap.trans confined.cap, all.2⟩, all.1⟩

theorem Confined.admits (confined : cache.Confined cap) {event : Event} {intake : Intake}
    (admits : Admits cache event (next, intake, left)) :
    next.Confined cap ∧ ∀ event ∈ left, event.Within cap := by
  have taken := admits.taken
  rw [confined.cap] at taken
  have all := taken.within confined.events
  rw [List.forall_mem_append] at all
  exact ⟨⟨admits.sound, admits.cap.trans confined.cap, all.2⟩, all.1⟩

end Cache

namespace Endpoint

variable {network : Network}

/-! ## What is lost -/

/-- Where datagrams are delivered, only an event that does not fit the buffer is too big. -/
theorem answered_tooBig {transport : Transport} {limit : Nat}
    (sendable : transport.Sendable limit) (serves : network.Serves limit) (now : Nat)
    (exiting : Bool) (events : List Event) :
    ∀ event ∈ answered .tooBig (answers transport network now exiting events),
      event ∈ events ∧ limit < recordSize event := by
  induction events generalizing transport with
  | nil => simp [answers, answered]
  | cons first rest ih =>
    intro event member
    have later {event : Event} :=
      ih ((Transport.sendable_lasting serves).send sendable first now exiting) event
    rw [answers] at member
    dsimp only at member
    obtain ⟨⟨_, outcome⟩, among, rfl⟩ := List.mem_map.mp member
    obtain ⟨found, tooBig⟩ := List.mem_filter.mp among
    rcases List.mem_cons.mp found with here | there
    · obtain ⟨rfl, answer⟩ := Prod.mk.inj here
      refine ⟨List.mem_cons_self, Nat.lt_of_not_le fun fits => ?_⟩
      have taken := (sendable.send serves fits now exiting).1
      cases (of_decide_eq_true tooBig).symm.trans (answer.trans taken)
    · obtain ⟨among, large⟩ :=
        later (List.mem_map.mpr ⟨_, List.mem_filter.mpr ⟨there, tooBig⟩, rfl⟩)
      exact ⟨List.mem_cons_of_mem _ among, large⟩

/-- The cache is confined, if there is one. -/
def Confined (cap : Nat) (endpoint : Endpoint) : Prop :=
  ∀ cache, endpoint.cache = some cache → cache.Confined cap

theorem Confined.shed {endpoint next : Endpoint} {cap : Nat} (confined : endpoint.Confined cap)
    {operation : Cache → Cache × List Event}
    (keeps : ∀ cache : Cache, cache.Confined cap →
      (operation cache).1.Confined cap ∧ ∀ event ∈ (operation cache).2, event.Within cap)
    (rest : next.cache = (endpoint.shed operation).1) :
    next.Confined cap ∧ ∀ event ∈ (endpoint.shed operation).2, event.Within cap := by
  unfold Endpoint.shed at rest ⊢
  cases here : endpoint.cache with
  | none =>
    rw [here] at rest
    refine ⟨fun cache absent => ?_, nofun⟩
    rw [rest] at absent
    cases absent
  | some cache =>
    rw [here] at rest
    obtain ⟨kept, left⟩ := keeps cache (confined cache here)
    refine ⟨fun other same => ?_, left⟩
    rw [rest] at same
    obtain rfl := Option.some.inj same
    exact kept

/-- The cache after a send is the one that took the event, or did not. -/
theorem send_cache (endpoint : Endpoint) (network : Network) (event : Event) (now : Nat) :
    (endpoint.send network event now).1.cache =
      (endpoint.shed fun cache =>
        ((cache.ingest event now endpoint.isExiting).1,
          (cache.ingest event now endpoint.isExiting).2.2)).1 := by
  unfold Endpoint.shed
  cases here : endpoint.cache with
  | none =>
    rw [Ledger.send_of_none here]
    exact here
  | some cache =>
    cases answer : cache.ingest event now endpoint.isExiting with
    | mk next rest =>
      obtain ⟨intake, left⟩ := rest
      by_cases rejected : intake = .rejected
      · subst rejected
        rw [Ledger.send_of_rejected here answer]
        dsimp only
        rw [answer]
      · rw [Ledger.send_of_taken here answer rejected]
        dsimp only
        rw [answer]

/-- The events that are sent have no more dimensions than an entry keeps, and fit alone. -/
def Operation.Fits (limit : Nat) : Operation → Prop
  | .send event _ => event.dimensions.length ≤ maxDimensions ∧ recordSize event ≤ limit
  | _ => True

instance (limit : Nat) : DecidablePred (Operation.Fits limit)
  | .send event _ => inferInstanceAs
      (Decidable (event.dimensions.length ≤ maxDimensions ∧ recordSize event ≤ limit))
  | .flush | .flushAfterRequest | .onTimer _ | .shutdown _ => inferInstanceAs (Decidable True)

theorem Operation.Fits.storable {limit : Nat} {operation : Operation}
    (fits : operation.Fits limit) (small : limit ≤ maxDatagram) : operation.Storable := by
  cases operation with
  | send event now => exact Event.storable_of_recordSize fits.1 (Nat.le_trans fits.2 small)
  | flush | flushAfterRequest | onTimer | shutdown => trivial

namespace Ledger

/-- No attempt has failed, the cache is confined, what was accepted fits alone, and what was lost came
from the cache and did not fit. -/
structure Confined (limit cap : Nat) (ledger : Ledger) : Prop where
  sendable : ledger.endpoint.transport.Sendable limit
  cache : ledger.endpoint.Confined cap
  accepted : ∀ event ∈ ledger.accepted, recordSize event ≤ limit
  lost : ∀ event ∈ ledger.lost, event.Within cap ∧ limit < recordSize event

variable {ledger next : Ledger} {limit cap : Nat}

theorem Confined.hands (confined : ledger.Confined limit cap) (serves : network.Serves limit)
    {transport : Transport} (sendable : transport.Sendable limit)
    {now : Nat} {exiting : Bool} {left : List Event} (within : ∀ event ∈ left, event.Within cap) :
    ∀ event ∈ ledger.lost ++ answered .tooBig (answers transport network now exiting left),
      event.Within cap ∧ limit < recordSize event := by
  intro event member
  rcases List.mem_append.mp member with earlier | new
  · exact confined.lost event earlier
  · obtain ⟨among, large⟩ := answered_tooBig sendable serves now exiting left event new
    exact ⟨within event among, large⟩

theorem Confined.send (confined : ledger.Confined limit cap) (serves : network.Serves limit)
    {event : Event} {now : Nat}
    (fits : (Operation.send event now).Fits limit) :
    (ledger.step network (.send event now)).Confined limit cap := by
  have storable : event.Storable := fits.storable serves.small
  obtain ⟨kept, within⟩ := confined.cache.shed
    (fun cache held => held.admits (held.sound.ingest storable now ledger.endpoint.isExiting))
    (send_cache ledger.endpoint network event now)
  refine ⟨(Transport.sendable_lasting serves).step confined.sendable (.send event now), kept,
    ?_, confined.hands serves confined.sendable within⟩
  show ∀ other ∈ acceptedAfter ledger.accepted event (ledger.endpoint.send network event now).2,
    recordSize other ≤ limit
  cases (ledger.endpoint.send network event now).2 with
  | tooBig => exact confined.accepted
  | buffered =>
    exact List.forall_mem_append.mpr
      ⟨confined.accepted, fun other new => List.mem_singleton.mp new ▸ fits.2⟩

theorem step_confined (confined : ledger.Confined limit cap) (serves : network.Serves limit)
    {operation : Operation} (fits : operation.Fits limit) :
    (ledger.step network operation).Confined limit cap := by
  have lasting := Transport.sendable_lasting serves
  have sendable := lasting.step confined.sendable operation
  have nothing : ∀ event ∈ ledger.lost ++ [], event.Within cap ∧ limit < recordSize event := by
    rw [List.append_nil]
    exact confined.lost
  cases operation with
  | send event now => exact confined.send serves fits
  | flush => exact ⟨sendable, confined.cache, confined.accepted, nothing⟩
  | flushAfterRequest =>
    refine ⟨sendable, ?_, confined.accepted, nothing⟩
    show (ledger.endpoint.flushAfterRequest network).1.Confined cap
    unfold Endpoint.flushAfterRequest
    split
    · exact confined.cache
    · exact confined.cache
  | onTimer now =>
    obtain ⟨kept, within⟩ := confined.cache.shed
      (fun cache held => held.sheds (held.sound.onTimer now))
      (rfl : (ledger.endpoint.onTimer network now).cache = _)
    exact ⟨sendable, kept, confined.accepted,
      confined.hands serves confined.sendable within⟩
  | shutdown now =>
    obtain ⟨kept, within⟩ := confined.cache.shed
      (fun cache held => held.sheds (held.sound.drain now))
      (rfl : (ledger.endpoint.shutdown network now).1.cache = _)
    exact ⟨sendable, kept, confined.accepted,
      confined.hands serves (lasting.timer confined.sendable _) within⟩

theorem run_confined (confined : ledger.Confined limit cap) (serves : network.Serves limit)
    {operations : List Operation}
    (fits : ∀ operation ∈ operations, operation.Fits limit) :
    (ledger.run network operations).Confined limit cap := by
  unfold run
  induction operations generalizing ledger with
  | nil => exact confined
  | cons operation rest ih =>
    obtain ⟨first, others⟩ := List.forall_mem_cons.mp fits
    exact ih (step_confined confined serves first) others

theorem confined_new {config : ResolvedEndpoint} {endpoint : Endpoint}
    (created : Endpoint.create config = .ok endpoint) :
    (Ledger.new endpoint).Confined config.bufferSize
      (min config.aggregateValues (config.aggregateSize / sampleSize)) := by
  obtain ⟨made, found, rfl⟩ := create_eq_ok created
  refine ⟨Transport.sendable_new _ _ _, fun cache here => ?_, nofun, nofun⟩
  obtain rfl : made = some cache := here
  unfold cacheOf at found
  split at found
  · cases found
  · split at found
    · cases found
    · obtain rfl := Option.some.inj (Except.ok.inj found)
      exact ⟨Cache.sound_empty _ _ _, rfl, nofun⟩

/-- A lost event is no counter, but several samples that were accepted one by one. -/
theorem Confined.of_lost (confined : ledger.Confined limit cap)
    (accounts : Accounts ledger.places ledger.accepted) {event : Event}
    (member : event ∈ ledger.lost) :
    event.kind ≠ .counter ∧ 2 ≤ event.samples.length ∧ event.samples.length ≤ cap ∧
      ∃ first ∈ ledger.accepted, first.shape = event.shape ∧
        recordSize event ≤ recordSize first + sampleSize * (event.samples.length - 1) := by
  obtain ⟨within, large⟩ := confined.lost event member
  obtain ⟨first, among, same, some⟩ :=
    accounts.exists_accepted (List.mem_append_right _ member) within.some
  -- the accepted event fits alone, so the lost one of its shape has more samples
  have small := confined.accepted first among
  have sizes := recordSize_of_shape same
  rw [sampleSize] at sizes ⊢
  have more : first.samples.length < event.samples.length := by omega
  have notCounter : event.kind ≠ .counter := by
    intro counter
    have alone : event.samples.length = 1 := by
      rw [Event.kind] at counter
      cases kind : event.samples with
      | counter sum => rfl
      | value sizes => rw [kind] at counter; cases counter
      | unique ids => rw [kind] at counter; cases counter
    omega
  exact ⟨notCounter, by omega, within.capped notCounter, first, among, same, by omega⟩

/-- Nothing is lost when every accepted event has room for as many samples as the cap allows. -/
theorem Confined.lost_eq_nil (confined : ledger.Confined limit cap)
    (accounts : Accounts ledger.places ledger.accepted)
    (roomy : ∀ event ∈ ledger.accepted, event.kind ≠ .counter →
      recordSize event + sampleSize * (cap - 1) ≤ limit) : ledger.lost = [] := by
  refine List.eq_nil_iff_forall_not_mem.mpr fun event member => ?_
  obtain ⟨notCounter, -, capped, first, among, same, bound⟩ := confined.of_lost accounts member
  have large := (confined.lost event member).2
  have kind : first.kind = event.kind := congrArg Shape.kind same
  have room := roomy first among (kind ▸ notCounter)
  have fewer := Nat.mul_le_mul_left sampleSize (Nat.sub_le_sub_right capped 1)
  omega

theorem records_eq_nil {events : List Event} (none : records events = []) : events = [] := by
  cases events with
  | nil => rfl
  | cons event rest =>
    rw [records, List.flatMap_cons, List.append_eq_nil_iff] at none
    exact absurd none.1 (Wire.recordBytes_ne_nil event)

/-- When nothing waits, every accepted sample was delivered or lost. -/
theorem Balanced.delivered (balanced : ledger.Balanced)
    (sent : ledger.endpoint.transport.buffer = []) (drained : ledger.endpoint.live = []) :
    ∃ groups : List (List Event), ledger.endpoint.transport.delivered = groups.map records ∧
      Accounts (groups.flatten ++ ledger.lost) ledger.accepted := by
  have accounts := balanced.accounts
  obtain ⟨groups, waiting, spread⟩ := balanced.carries
  obtain rfl := records_eq_nil (spread.buffer.symm.trans sent)
  rw [places, ← spread.order, drained, List.append_nil, List.append_nil] at accounts
  exact ⟨groups, spread.delivered, accounts⟩

theorem run_concat (ledger : Ledger) (network : Network) (operations : List Operation)
    (operation : Operation) :
    ledger.run network (operations ++ [operation]) =
      (ledger.run network operations).step network operation := by
  rw [run, run, List.foldl_append, List.foldl_cons, List.foldl_nil]

end Ledger

theorem live_shutdown {endpoint : Endpoint} (sound : endpoint.Sound) (network : Network)
    (now : Nat) : (endpoint.shutdown network now).1.live = [] := by
  have rest : (endpoint.shutdown network now).1.cache = (endpoint.shed (·.drain now)).1 := rfl
  unfold shed at rest
  cases here : endpoint.cache with
  | none =>
    rw [here] at rest
    rw [live, rest]
  | some cache =>
    rw [here] at rest
    rw [live, rest]
    exact (sound cache here).drain_events now

/-- **Only merged records that are too big are lost.** On a network that delivers datagrams, let every
event that is sent fit the buffer alone. After a shutdown nothing waits, and what was delivered and
what was lost stands for the accepted samples, each of them once. What was lost are values and
identifiers that had been merged, at most as many as the cap allows, into a record too big for the
buffer. So nothing is lost if every accepted event leaves room for as many samples as the cap
allows. The address of the endpoint may be numeric or a name that is looked up. -/
theorem shutdown_delivers_samples (network : Network) (reaches : network.Reaches)
    (lookup : SocketAddress.Lookup) (config : EndpointConfig) (resolved : ResolvedEndpoint)
    (endpoint : Endpoint) (valid : config.resolveBy lookup = .ok resolved)
    (created : Endpoint.create resolved = .ok endpoint)
    (small : config.bufferSize ≤ maxDatagram) (operations : List Operation)
    (fits : ∀ operation ∈ operations, operation.Fits config.bufferSize) (now : Nat) :
    let final := (Ledger.new endpoint).run network (operations ++ [.shutdown now])
    (∃ groups : List (List Event),
      final.endpoint.transport.delivered = groups.map records ∧
      Accounts (groups.flatten ++ final.lost) final.accepted ∧
      ∀ shape, shape.kind ≠ .counter →
        (samplesOf shape final.accepted).Perm
          (samplesOf shape groups.flatten ++ samplesOf shape final.lost)) ∧
      final.endpoint.transport.buffer = [] ∧ final.endpoint.live = [] ∧
      (∀ event ∈ final.lost, event.kind ≠ .counter ∧ 2 ≤ event.samples.length ∧
        event.samples.length ≤ config.aggregateValues ∧ config.bufferSize < recordSize event) ∧
      ((∀ event ∈ final.accepted, event.kind ≠ .counter →
        recordSize event + sampleSize * (config.aggregateValues - 1) ≤ config.bufferSize) →
          final.lost = []) := by
  intro final
  obtain ⟨size, cacheSize, values⟩ := resolve_sizes valid
  have serves : network.Serves config.bufferSize := ⟨reaches, small⟩
  have before := Ledger.run_confined (Ledger.confined_new created) (size ▸ serves) (size ▸ fits)
  rw [size, cacheSize, values] at before
  have last : final = ((Ledger.new endpoint).run network operations).step network (.shutdown now) :=
    Ledger.run_concat _ _ _ _
  have confined : final.Confined config.bufferSize _ :=
    last ▸ Ledger.step_confined before serves
      (show (Operation.shutdown now).Fits config.bufferSize from trivial)
  have balanced : final.Balanced := by
    have kept : ((Ledger.new endpoint).run network operations).Balanced :=
      Ledger.run_balanced (Ledger.balanced_new created)
        fun operation member => (fits operation member).storable small
    exact last ▸ Ledger.step_balanced kept (show (Operation.shutdown now).Storable from trivial)
  have sent : final.endpoint.transport.buffer = [] := by
    rw [last]
    exact (shutdown_of_sendable before.sendable serves now).2
  have drained : final.endpoint.live = [] := by
    rw [last]
    exact live_shutdown (fun cache here => (before.cache cache here).sound) network now
  have most : min config.aggregateValues (config.aggregateSize / sampleSize) ≤
      config.aggregateValues := Nat.min_le_left _ _
  clear_value final
  obtain ⟨groups, delivered, accounts⟩ := balanced.delivered sent drained
  refine ⟨⟨groups, delivered, accounts, fun shape notCounter => ?_⟩, sent, drained, ?_, ?_⟩
  · rw [← samplesOf_append]
    exact accounts.samplesOf_perm notCounter
  · intro event member
    obtain ⟨notCounter, several, capped, -⟩ := confined.of_lost balanced.accounts member
    exact ⟨notCounter, several, Nat.le_trans capped most, (confined.lost event member).2⟩
  · intro roomy
    refine confined.lost_eq_nil balanced.accounts fun event member notCounter => ?_
    have room := roomy event member notCounter
    have fewer := Nat.mul_le_mul_left sampleSize (Nat.sub_le_sub_right most 1)
    exact Nat.le_trans (Nat.add_le_add_left fewer _) room

/-- An endpoint whose buffer takes a record of one sample, but not of two. -/
def tightEndpoint : Endpoint := unused 40 4096 (some (Cache.empty 4096 1000 24))

/-- A size that is measured. -/
def sizeOf (bits : UInt64) : Event := { name := "a", samples := .value [⟨bits⟩], dimensions := [] }

/-- Every record of a run may fit the buffer, every datagram be delivered, and all that was accepted
be lost. -/
theorem merged_record_lost :
    (settings 40 4096).resolve = .ok tightEndpoint.config ∧
      Endpoint.create tightEndpoint.config = .ok tightEndpoint ∧
      tightEndpoint.config.bufferSize ≤ maxDatagram ∧
      let network := Network.reaching fun _ => false
      let sends : List Operation := [.send (sizeOf 1) 0, .send (sizeOf 2) 1]
      network.Reaches ∧ (∀ operation ∈ sends, operation.Fits tightEndpoint.config.bufferSize) ∧
        let final := (Ledger.new tightEndpoint).run network (sends ++ [.shutdown 2])
        final.accepted = [sizeOf 1, sizeOf 2] ∧ final.endpoint.transport.delivered = [] := by
  refine ⟨resolve_settings _ rfl, rfl, Nat.le_of_ble_eq_true rfl,
    Network.limited_reaching.toReaches, by decide, ?_⟩
  decide +kernel

/-- Sizes that are merged and lost, and a counter that is merged and delivered. -/
def mergingRun : List Operation :=
  let hits : Event := { name := "b", samples := .counter ⟨1⟩, dimensions := [] }
  [.send (sizeOf 1) 0, .send hits 1, .send (sizeOf 2) 2, .send hits 3]

theorem mergingRun_delivers_samples :
    let network := Network.reaching fun _ => false
    network.Reaches ∧ (settings 40 4096).resolve = .ok tightEndpoint.config ∧
      Endpoint.create tightEndpoint.config = .ok tightEndpoint ∧
      (settings 40 4096).bufferSize ≤ maxDatagram ∧
      (∀ operation ∈ mergingRun, operation.Fits (settings 40 4096).bufferSize) ∧
      let final := (Ledger.new tightEndpoint).run network (mergingRun ++ [.shutdown 4])
      final.accepted.length = 4 ∧ final.lost.length = 1 ∧
        final.endpoint.transport.delivered.length = 1 ∧
        (∃ groups : List (List Event),
          final.endpoint.transport.delivered = groups.map records ∧
          Accounts (groups.flatten ++ final.lost) final.accepted ∧
          ∀ shape, shape.kind ≠ .counter →
            (samplesOf shape final.accepted).Perm
              (samplesOf shape groups.flatten ++ samplesOf shape final.lost)) ∧
        ∀ event ∈ final.lost, event.kind ≠ .counter ∧ 2 ≤ event.samples.length ∧
          event.samples.length ≤ 24 ∧ 40 < recordSize event := by
  have reaches := Network.limited_reaching.toReaches
  have valid : (settings 40 4096).resolve = .ok tightEndpoint.config :=
    resolve_settings _ rfl
  have created : Endpoint.create tightEndpoint.config = .ok tightEndpoint := rfl
  have small : (settings 40 4096).bufferSize ≤ maxDatagram := Nat.le_of_ble_eq_true rfl
  have fits : ∀ operation ∈ mergingRun, operation.Fits (settings 40 4096).bufferSize := by decide
  have sizes :
      let final := (Ledger.new tightEndpoint).run (Network.reaching fun _ => false)
        (mergingRun ++ [.shutdown 4])
      (final.accepted.length, final.lost.length, final.endpoint.transport.delivered.length) =
        (4, 1, 1) := by
    decide +kernel
  obtain ⟨accepted, rest⟩ := Prod.mk.inj sizes
  obtain ⟨lost, delivered⟩ := Prod.mk.inj rest
  obtain ⟨places, -, -, merged, -⟩ :=
    shutdown_delivers_samples _ reaches _ _ _ _ valid created small mergingRun fits 4
  exact ⟨reaches, valid, created, small, fits, accepted, lost, delivered, places, merged⟩

end Endpoint

end MetricPipeline
