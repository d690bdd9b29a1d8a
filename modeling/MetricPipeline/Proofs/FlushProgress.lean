import MetricPipeline.Proofs.EndpointAccounting

/-!
Whether what an endpoint buffers can be sent.

A flush that fails keeps its bytes, so a buffer that no datagram can hold is never emptied again. On
a network that delivers every datagram up to a limit, and none beyond it, the size of the buffer
decides. While it is within the limit no attempt fails, whatever was sent before. When it is beyond
the limit a single event ends all delivery.
-/

namespace MetricPipeline

open Wire (recordSize recordBytes)

/-! ## Networks -/

/-- Every connection is made, and every datagram up to the limit is delivered. -/
structure Network.Reaches (network : Network) : Prop where
  connects : ∀ address attempts, network.connect address attempts = .ok ()
  delivers : ∀ address attempts datagram, datagram.length ≤ maxDatagram →
    network.send address attempts datagram = .ok ()

/-- None beyond the limit is. -/
structure Network.Limited (network : Network) : Prop extends Network.Reaches network where
  refuses : ∀ address attempts datagram, maxDatagram < datagram.length →
    ∃ reason, network.send address attempts datagram = .error reason

/-- Every datagram is delivered that a buffer of this size can become. -/
structure Network.Serves (network : Network) (limit : Nat) : Prop where
  reaches : network.Reaches
  small : limit ≤ maxDatagram

theorem Network.limited_reaching : (Network.reaching fun _ => false).Limited := by
  refine ⟨⟨fun _ _ => rfl, fun _ _ datagram within => if_pos within⟩, fun _ _ datagram beyond => ?_⟩
  exact ⟨_, if_neg (Nat.not_le_of_lt beyond)⟩

namespace Transport

variable {transport : Transport} {network : Network}

/-! ## One flush -/

theorem ship_of_reaches (reaches : network.Reaches)
    (within : transport.buffer.length ≤ maxDatagram) : transport.ship network = .ok () := by
  have sent := reaches.delivers transport.address transport.attempts transport.buffer within
  rw [ship, reaches.connects, sent]
  cases transport.isConnected <;> rfl

theorem ship_of_limited (limited : network.Limited)
    (beyond : maxDatagram < transport.buffer.length) :
    ∃ error, transport.ship network = .error error := by
  obtain ⟨reason, refused⟩ :=
    limited.refuses transport.address transport.attempts transport.buffer beyond
  refine ⟨.send transport.pending reason, ?_⟩
  rw [ship, limited.connects, refused]
  cases transport.isConnected <;> rfl

/-- What a datagram can hold is sent. -/
theorem flush_of_reaches (reaches : network.Reaches)
    (within : transport.buffer.length ≤ maxDatagram) (exiting : Bool) :
    (transport.flush network exiting).2 ≠ .failed ∧
      (transport.flush network exiting).1.buffer = [] ∧
      (transport.flush network exiting).1.attempts = transport.attempts ++
        if transport.buffer = [] then [] else [.delivered transport.buffer] := by
  by_cases empty : transport.buffer = []
  · rw [flush, if_pos empty, if_pos empty]
    exact ⟨nofun, empty, (List.append_nil _).symm⟩
  · rw [flush, if_neg empty, if_neg empty, ship_of_reaches reaches within]
    exact ⟨nofun, rfl, rfl⟩

theorem delivered_flush (reaches : network.Reaches)
    (within : transport.buffer.length ≤ maxDatagram) (exiting : Bool) :
    (transport.flush network exiting).1.delivered =
      transport.delivered ++ if transport.buffer = [] then [] else [transport.buffer] := by
  obtain ⟨-, -, attempts⟩ := flush_of_reaches reaches within exiting
  rw [delivered, attempts, List.filterMap_append, delivered]
  split <;> rfl

/-- What no datagram can hold is kept. -/
theorem flush_of_limited (limited : network.Limited)
    (beyond : maxDatagram < transport.buffer.length) (exiting : Bool) :
    (transport.flush network exiting).2 = .failed ∧
      (transport.flush network exiting).1.buffer = transport.buffer ∧
      (transport.flush network exiting).1.delivered = transport.delivered := by
  obtain ⟨error, refused⟩ := ship_of_limited limited beyond
  have waits : transport.buffer ≠ [] := List.ne_nil_of_length_pos (Nat.zero_lt_of_lt beyond)
  rw [flush, if_neg waits, refused]
  exact ⟨rfl, rfl, by simp [delivered]⟩

/-! ## Properties that last -/

/-- A property of transports that nothing their owner asks for takes away. -/
structure Lasting (network : Network) (holds : Transport → Prop) : Prop where
  timer : ∀ {transport}, holds transport → ∀ timer, holds { transport with timer }
  close : ∀ {transport}, holds transport → holds transport.close
  drop : ∀ {transport}, holds transport → ∀ event, holds (transport.drop event)
  append : ∀ {transport}, holds transport → ∀ event, recordSize event ≤ transport.room →
    holds (transport.append event)
  flush : ∀ {transport}, holds transport → ∀ exiting, holds (transport.flush network exiting).1

namespace Lasting

variable {holds : Transport → Prop}

theorem armTimer (lasting : Lasting network holds) (held : holds transport) (now : Nat)
    (exiting : Bool) : holds (transport.armTimer now exiting) := by
  obtain ⟨timer, armed⟩ := armTimer_eq transport now exiting
  rw [armed]
  exact lasting.timer held timer

theorem send (lasting : Lasting network holds) (held : holds transport) (event : Event) (now : Nat)
    (exiting : Bool) : holds (transport.send network event now exiting).1 := by
  obtain ⟨ready, attempt, sent⟩ := send_eq transport network event now exiting
  have still : holds ready := by
    rcases attempt with rfl | rfl
    · exact held
    · exact lasting.flush held exiting
  rw [sent]
  split
  · exact lasting.drop still event
  · rename_i room
    exact lasting.armTimer (lasting.append still event (Nat.le_of_not_lt room)) now exiting

theorem onTimer (lasting : Lasting network holds) (held : holds transport) (now : Nat)
    (exiting : Bool) : holds (transport.onTimer network now exiting).1 := by
  unfold Transport.onTimer
  split
  · exact lasting.armTimer (lasting.flush (lasting.timer held _) exiting) now exiting
  · exact held

theorem sendAll (lasting : Lasting network holds) (held : holds transport) (now : Nat)
    (exiting : Bool) (events : List Event) :
    holds (Endpoint.sendAll transport network now exiting events) := by
  induction events generalizing transport with
  | nil => exact held
  | cons event rest ih => exact ih (lasting.send held event now exiting)

theorem forward (lasting : Lasting network holds) (held : holds transport) (now : Nat)
    (exiting : Bool) (events : List Event) :
    holds (Endpoint.forward transport network now exiting events).1 := by
  unfold Endpoint.forward
  split
  · exact held
  · exact lasting.flush (lasting.sendAll held now exiting events) exiting

theorem endpointSend {endpoint : Endpoint} (lasting : Lasting network holds)
    (held : holds endpoint.transport) (event : Event) (now : Nat) :
    holds (endpoint.send network event now).1.transport := by
  cases here : endpoint.cache with
  | none =>
    rw [Endpoint.Ledger.send_of_none here]
    exact lasting.send held event now endpoint.isExiting
  | some cache =>
    cases answer : cache.ingest event now endpoint.isExiting with
    | mk next rest =>
      obtain ⟨intake, left⟩ := rest
      have forwarded := lasting.forward held now endpoint.isExiting left
      by_cases rejected : intake = .rejected
      · subst rejected
        rw [Endpoint.Ledger.send_of_rejected here answer]
        exact lasting.send forwarded event now endpoint.isExiting
      · rw [Endpoint.Ledger.send_of_taken here answer rejected]
        exact forwarded

/-- What holds of the transport of an endpoint holds after one operation of the endpoint. -/
theorem step {ledger : Endpoint.Ledger} (lasting : Lasting network holds)
    (held : holds ledger.endpoint.transport) (operation : Endpoint.Operation) :
    holds (ledger.step network operation).endpoint.transport := by
  cases operation with
  | send event now => exact lasting.endpointSend held event now
  | flush => exact lasting.flush held _
  | flushAfterRequest =>
    show holds (ledger.endpoint.flushAfterRequest network).1.transport
    unfold Endpoint.flushAfterRequest
    split
    · exact lasting.flush held _
    · exact held
  | onTimer now => exact lasting.onTimer (lasting.forward held now _ _) now _
  | shutdown now =>
    exact lasting.close (lasting.flush (lasting.forward (lasting.timer held _) now true _) true)

/-- So it holds after every run. -/
theorem run {ledger : Endpoint.Ledger} (lasting : Lasting network holds)
    (held : holds ledger.endpoint.transport) (operations : List Endpoint.Operation) :
    holds (ledger.run network operations).endpoint.transport := by
  unfold Endpoint.Ledger.run
  induction operations generalizing ledger with
  | nil => exact held
  | cons operation rest ih => exact ih (lasting.step held operation)

end Lasting

theorem capacity_lasting (network : Network) (limit : Nat) :
    Lasting network (·.capacity = limit) where
  timer same _ := same
  close same := same
  drop same _ := same
  append same _ _ := same
  flush same _ := (flush_capacity _ _ _).trans same

/-- The buffer stays within its capacity, and no attempt has failed. -/
structure Sendable (limit : Nat) (transport : Transport) : Prop where
  capacity : transport.capacity = limit
  fits : transport.buffer.length ≤ limit
  delivered : ∀ attempt ∈ transport.attempts, ∃ datagram, attempt = .delivered datagram

theorem sendable_new (address : SocketAddress) (capacity interval : Nat) :
    Sendable capacity (Transport.new address capacity interval) :=
  ⟨rfl, Nat.zero_le _, nofun⟩

variable {limit : Nat}

theorem Sendable.within (sendable : Sendable limit transport) (serves : network.Serves limit) :
    transport.buffer.length ≤ maxDatagram := Nat.le_trans sendable.fits serves.small

/-- A flush does not fail and leaves nothing. -/
theorem Sendable.flush (sendable : Sendable limit transport) (serves : network.Serves limit)
    (exiting : Bool) :
    (transport.flush network exiting).2 ≠ .failed ∧
      (transport.flush network exiting).1.buffer = [] := by
  obtain ⟨done, empty, -⟩ := flush_of_reaches serves.reaches (sendable.within serves) exiting
  exact ⟨done, empty⟩

theorem sendable_lasting (serves : network.Serves limit) : Lasting network (Sendable limit) where
  timer sendable _ := ⟨sendable.capacity, sendable.fits, sendable.delivered⟩
  close sendable := ⟨sendable.capacity, sendable.fits, sendable.delivered⟩
  drop sendable _ := ⟨sendable.capacity, sendable.fits, sendable.delivered⟩
  append := by
    intro transport sendable event room
    refine ⟨sendable.capacity, ?_, sendable.delivered⟩
    show (transport.buffer ++ recordBytes event).length ≤ limit
    have fits := sendable.fits
    rw [Transport.room, Transport.pending, sendable.capacity] at room
    rw [List.length_append, Wire.recordBytes_length]
    omega
  flush := by
    intro transport sendable exiting
    obtain ⟨-, empty, attempts⟩ :=
      flush_of_reaches serves.reaches (sendable.within serves) exiting
    refine ⟨(flush_capacity _ _ _).trans sendable.capacity, ?_, ?_⟩
    · rw [empty]
      exact Nat.zero_le _
    · rw [attempts]
      intro attempt member
      rcases List.mem_append.mp member with earlier | last
      · exact sendable.delivered attempt earlier
      · split at last
        · cases last
        · exact ⟨_, List.mem_singleton.mp last⟩

/-- The buffer has become larger than a datagram, and no more than these datagrams were delivered. -/
structure Stuck (datagrams : List (List UInt8)) (transport : Transport) : Prop where
  beyond : maxDatagram < transport.buffer.length
  delivered : transport.delivered = datagrams

theorem stuck_lasting (limited : network.Limited) (datagrams : List (List UInt8)) :
    Lasting network (Stuck datagrams) where
  timer stuck _ := ⟨stuck.beyond, stuck.delivered⟩
  close stuck := ⟨stuck.beyond, stuck.delivered⟩
  drop stuck _ := ⟨stuck.beyond, stuck.delivered⟩
  append := by
    intro transport stuck event _
    refine ⟨?_, stuck.delivered⟩
    show maxDatagram < (transport.buffer ++ recordBytes event).length
    rw [List.length_append]
    exact Nat.lt_add_right _ stuck.beyond
  flush := by
    intro transport stuck exiting
    obtain ⟨-, kept, delivered⟩ := flush_of_limited limited stuck.beyond exiting
    exact ⟨by rw [kept]; exact stuck.beyond, delivered.trans stuck.delivered⟩

/-! ## One more event -/

/-- What a record is put into: the transport as it is, or after a flush if it has no room. -/
def readyFor (transport : Transport) (network : Network) (event : Event) (exiting : Bool) :
    Transport :=
  if transport.room < recordSize event then (transport.flush network exiting).1 else transport

theorem send_of_room {event : Event} {exiting : Bool}
    (room : recordSize event ≤ (transport.readyFor network event exiting).room) (now : Nat) :
    (transport.send network event now exiting).2 = .buffered ∧
      (transport.send network event now exiting).1.buffer =
        (transport.readyFor network event exiting).buffer ++ recordBytes event := by
  have taken : transport.send network event now exiting =
      (((transport.readyFor network event exiting).append event).armTimer now exiting, .buffered) :=
    if_neg (Nat.not_lt_of_le room)
  obtain ⟨timer, armed⟩ :=
    armTimer_eq ((transport.readyFor network event exiting).append event) now exiting
  rw [taken, armed]
  exact ⟨rfl, rfl⟩

/-- After a flush that was done there is room for whatever the buffer can hold. -/
theorem room_readyFor (reaches : network.Reaches)
    (within : transport.buffer.length ≤ maxDatagram) {event : Event}
    (fits : recordSize event ≤ transport.capacity) (exiting : Bool) :
    recordSize event ≤ (transport.readyFor network event exiting).room := by
  unfold readyFor
  split
  · obtain ⟨-, empty, -⟩ := flush_of_reaches reaches within exiting
    rw [room, pending, flush_capacity, empty]
    exact fits
  · rename_i room
    exact Nat.le_of_not_lt room

/-- An event that fits alone is taken. -/
theorem Sendable.send (sendable : Sendable limit transport) (serves : network.Serves limit)
    {event : Event} (fits : recordSize event ≤ limit) (now : Nat) (exiting : Bool) :
    (transport.send network event now exiting).2 = .buffered ∧
      recordBytes event <:+ (transport.send network event now exiting).1.buffer := by
  obtain ⟨answer, buffer⟩ := send_of_room (room_readyFor serves.reaches
    (sendable.within serves) (sendable.capacity ▸ fits) exiting) now
  exact ⟨answer, buffer ▸ List.suffix_append _ _⟩

/-- An event that fits the buffer and no datagram leaves the buffer too large, in whatever state the
transport was. -/
theorem beyond_send (limited : network.Limited) {event : Event}
    (large : maxDatagram < recordSize event) (fits : recordSize event ≤ transport.capacity)
    (now : Nat) (exiting : Bool) :
    maxDatagram < (transport.send network event now exiting).1.buffer.length := by
  -- what waits either can be sent to make room, or is too large already and stays
  by_cases within : transport.buffer.length ≤ maxDatagram
  · obtain ⟨-, buffer⟩ := send_of_room (room_readyFor limited.toReaches within fits exiting) now
    rw [buffer, List.length_append, Wire.recordBytes_length]
    exact Nat.lt_add_left _ large
  · exact ((stuck_lasting limited transport.delivered).send
      ⟨Nat.lt_of_not_le within, rfl⟩ event now exiting).beyond

end Transport

namespace Endpoint

variable {network : Network}

/-! ## An event that fits no datagram -/

theorem utf8ByteSize_pushn (text : String) (count : Nat) :
    (text.pushn 'x' count).utf8ByteSize = text.utf8ByteSize + count := by
  induction count with
  | zero => rfl
  | succ count ih =>
    have pushed : text.pushn 'x' (count + 1) = (text.pushn 'x' count).push 'x' := rfl
    rw [pushed, String.utf8ByteSize_push, ih]
    rfl

/-- An event with two samples, which no cache takes. -/
def pairUnder (name : String) : Event :=
  { name, samples := .value [⟨0⟩, ⟨0⟩], dimensions := [] }

/-- Under a name of this size its record is one byte larger than the largest datagram. -/
theorem recordSize_pairUnder {name : String} (size : name.utf8ByteSize = 65464) :
    recordSize (pairUnder name) = maxDatagram + 1 := by
  have clamped : Wire.clampedSize name = 65464 := by
    rw [Wire.clampedSize, size]
    rfl
  have written : Wire.stringSize name = 65468 := by
    rw [Wire.stringSize, clamped]
    rfl
  rw [recordSize, Wire.eventSize, pairUnder, written]
  rfl

/-- Such an event. -/
def wideEvent : Event := pairUnder ("".pushn 'x' 65464)

theorem recordSize_wideEvent : recordSize wideEvent = maxDatagram + 1 :=
  recordSize_pairUnder (by rw [utf8ByteSize_pushn, String.utf8ByteSize_empty, Nat.zero_add])

/-- An event that has not exactly one sample goes past the cache. -/
theorem send_of_plural (endpoint : Endpoint) {event : Event} (plural : event.single? = none)
    (network : Network) (now : Nat) :
    endpoint.send network event now =
      let sent := endpoint.transport.send network event now endpoint.isExiting
      ({ endpoint with transport := sent.1 }, sent.2) := by
  cases here : endpoint.cache with
  | none =>
    rw [Ledger.send_of_none here, here]
  | some cache =>
    have answer : cache.ingest event now endpoint.isExiting = (cache, .rejected, []) := by
      unfold Cache.ingest
      rw [plural]
      exact ite_self _
    rw [Ledger.send_of_rejected here answer, ← here]
    rfl

theorem beyond_send_of_plural {endpoint : Endpoint} {event : Event} (plural : event.single? = none)
    (limited : network.Limited) (large : maxDatagram < recordSize event)
    (fits : recordSize event ≤ endpoint.transport.capacity) (now : Nat) :
    maxDatagram < (endpoint.send network event now).1.transport.buffer.length := by
  rw [send_of_plural endpoint plural]
  exact Transport.beyond_send limited large fits now endpoint.isExiting

/-! ## Endpoints -/

/-- Resolving changes none of the sizes, whatever addresses are found. -/
theorem resolve_sizes {lookup : SocketAddress.Lookup} {config : EndpointConfig}
    {resolved : ResolvedEndpoint} (accepted : config.resolveBy lookup = .ok resolved) :
    resolved.bufferSize = config.bufferSize ∧ resolved.aggregateSize = config.aggregateSize ∧
      resolved.aggregateValues = config.aggregateValues := by
  unfold EndpointConfig.resolveBy at accepted
  cases checked : config.validate with
  | error error =>
    rw [checked] at accepted
    cases accepted
  | ok valid =>
    rw [checked] at accepted
    cases found : lookup (Text.trim config.address) with
    | error reason =>
      rw [found] at accepted
      cases accepted
    | ok addresses =>
      rw [found] at accepted
      cases addresses with
      | nil => cases accepted
      | cons address others =>
        obtain rfl := Except.ok.inj accepted
        exact ⟨rfl, rfl, rfl⟩

theorem create_eq_ok {config : ResolvedEndpoint} {endpoint : Endpoint}
    (created : Endpoint.create config = .ok endpoint) :
    ∃ cache, cacheOf config = .ok cache ∧ endpoint =
      { config
        transport := Transport.new config.address config.bufferSize config.flushInterval
        cache
        isExiting := false } := by
  unfold Endpoint.create at created
  cases made : cacheOf config with
  | error error =>
    rw [made] at created
    cases created
  | ok cache =>
    rw [made] at created
    exact ⟨cache, rfl, (Except.ok.inj created).symm⟩

variable {endpoint : Endpoint} {limit : Nat}

theorem forward_ne_failed {transport : Transport} (sendable : transport.Sendable limit)
    (serves : network.Serves limit) (now : Nat) (exiting : Bool) (events : List Event) :
    (forward transport network now exiting events).2 ≠ .failed := by
  unfold forward
  split
  · nofun
  · have sent := (Transport.sendable_lasting serves).sendAll sendable now exiting events
    exact (sent.flush serves exiting).1

theorem and_ne_failed {first second : FlushOutcome} (one : first ≠ .failed)
    (other : second ≠ .failed) : first.and second ≠ .failed := by
  cases first <;> cases second <;> simp_all [FlushOutcome.and]

/-- A shutdown sends all that is left. -/
theorem shutdown_of_sendable (sendable : endpoint.transport.Sendable limit)
    (serves : network.Serves limit) (now : Nat) :
    (endpoint.shutdown network now).2 ≠ .failed ∧
      (endpoint.shutdown network now).1.transport.buffer = [] := by
  have lasting := Transport.sendable_lasting serves
  have cancelled : endpoint.transport.cancelTimer.Sendable limit := lasting.timer sendable _
  have forwarded := lasting.forward cancelled now true (endpoint.shed (·.drain now)).2
  obtain ⟨done, empty⟩ := forwarded.flush serves true
  exact ⟨and_ne_failed (forward_ne_failed cancelled serves now true _) done, empty⟩

/-- An event that fits alone is buffered, and stands at the end of the buffer unless the cache has
it. -/
theorem send_of_sendable (sendable : endpoint.transport.Sendable limit)
    (serves : network.Serves limit) {event : Event} (fits : recordSize event ≤ limit) (now : Nat) :
    (endpoint.send network event now).2 = .buffered ∧
      (endpoint.aggregates event now = false →
        recordBytes event <:+ (endpoint.send network event now).1.transport.buffer) := by
  cases here : endpoint.cache with
  | none =>
    obtain ⟨answer, buffer⟩ := sendable.send serves fits now endpoint.isExiting
    rw [Ledger.send_of_none here]
    exact ⟨answer, fun _ => buffer⟩
  | some cache =>
    cases answered : cache.ingest event now endpoint.isExiting with
    | mk next rest =>
      obtain ⟨intake, left⟩ := rest
      by_cases rejected : intake = .rejected
      · subst rejected
        have forwarded := (Transport.sendable_lasting serves).forward sendable now
          endpoint.isExiting left
        obtain ⟨answer, buffer⟩ := forwarded.send serves fits now endpoint.isExiting
        rw [Ledger.send_of_rejected here answered]
        exact ⟨answer, fun _ => buffer⟩
      · rw [Ledger.send_of_taken here answered rejected]
        refine ⟨rfl, fun passed => ?_⟩
        simp [aggregates, here, answered, rejected] at passed

/-- An endpoint that sends what it has and takes what fits. -/
structure Flowing (network : Network) (limit : Nat) (endpoint : Endpoint) : Prop where
  /-- No attempt has failed. -/
  attempts : ∀ attempt ∈ endpoint.transport.attempts, ∃ datagram, attempt = .delivered datagram
  /-- A flush does not fail and leaves nothing. -/
  flush : (endpoint.flush network).2 ≠ .failed ∧ (endpoint.flush network).1.transport.buffer = []
  /-- Neither does the end of a unit of work. -/
  flushAfterRequest : (endpoint.flushAfterRequest network).2 ≠ .failed
  /-- A shutdown does not fail and leaves nothing. -/
  shutdown : ∀ now, (endpoint.shutdown network now).2 ≠ .failed ∧
    (endpoint.shutdown network now).1.transport.buffer = []
  /-- An event that fits is taken, and unless the cache has it the next flush delivers it. -/
  send : ∀ event now, recordSize event ≤ limit →
    (endpoint.send network event now).2 = .buffered ∧
      (endpoint.aggregates event now = false → ∃ datagrams datagram,
        ((endpoint.send network event now).1.flush network).1.transport.delivered =
            datagrams ++ [datagram] ∧
          recordBytes event <:+ datagram)

/-- An endpoint that delivers nothing: no more than these datagrams were delivered, and a flush fails
and keeps what waits. -/
structure Blocked (network : Network) (datagrams : List (List UInt8)) (endpoint : Endpoint) :
    Prop where
  delivered : endpoint.transport.delivered = datagrams
  fails : (endpoint.flush network).2 = .failed
  keeps : (endpoint.flush network).1.transport.buffer ≠ []

theorem flowing_of_sendable (sendable : endpoint.transport.Sendable limit)
    (serves : network.Serves limit) : Flowing network limit endpoint := by
  have flushed := sendable.flush serves endpoint.isExiting
  refine ⟨sendable.delivered, flushed, ?_, shutdown_of_sendable sendable serves, ?_⟩
  · unfold Endpoint.flushAfterRequest
    split
    · exact flushed.1
    · nofun
  · intro event now fits
    obtain ⟨answer, buffer⟩ := send_of_sendable sendable serves fits now
    refine ⟨answer, fun passed => ?_⟩
    have later := (Transport.sendable_lasting serves).endpointSend sendable event now
    have delivered := Transport.delivered_flush serves.reaches (later.within serves)
      (endpoint.send network event now).1.isExiting
    have waits : (endpoint.send network event now).1.transport.buffer ≠ [] := fun none =>
      Wire.recordBytes_ne_nil event (List.suffix_nil.mp (none ▸ buffer passed))
    rw [if_neg waits] at delivered
    exact ⟨_, _, delivered, buffer passed⟩

theorem blocked_of_stuck {datagrams : List (List UInt8)}
    (stuck : endpoint.transport.Stuck datagrams) (limited : network.Limited) :
    Blocked network datagrams endpoint := by
  obtain ⟨failed, kept, -⟩ := Transport.flush_of_limited limited stuck.beyond endpoint.isExiting
  refine ⟨stuck.delivered, failed, fun none => ?_⟩
  have waits : endpoint.transport.buffer ≠ [] :=
    List.ne_nil_of_length_pos (Nat.zero_lt_of_lt stuck.beyond)
  exact waits (kept.symm.trans none)

/-- **The size of the buffer decides whether delivery can be blocked.** Where every datagram up to the
limit is delivered and none beyond it, an endpoint whose buffer is within the limit flows in every
state of every run. When the buffer is larger, one event is enough to block the endpoint for good, in
whatever state it comes. The address of the endpoint may be numeric or a name that is looked up. -/
theorem run_flows_or_blocks (network : Network) (limited : network.Limited)
    (lookup : SocketAddress.Lookup) (config : EndpointConfig) (resolved : ResolvedEndpoint)
    (endpoint : Endpoint) (accepted : config.resolveBy lookup = .ok resolved)
    (created : Endpoint.create resolved = .ok endpoint) :
    (config.bufferSize ≤ maxDatagram → ∀ operations : List Operation,
      Flowing network config.bufferSize ((Ledger.new endpoint).run network operations).endpoint) ∧
      (maxDatagram < config.bufferSize →
        recordSize wideEvent ≤ config.bufferSize ∧
        ∀ (before : List Operation) (now : Nat) (after : List Operation),
          let wide := ((Ledger.new endpoint).run network before).step network (.send wideEvent now)
          Blocked network wide.endpoint.transport.delivered (wide.run network after).endpoint) := by
  obtain ⟨size, -, -⟩ := resolve_sizes accepted
  obtain ⟨cache, -, fresh⟩ := create_eq_ok created
  have new : endpoint.transport.Sendable config.bufferSize := by
    rw [fresh, ← size]
    exact Transport.sendable_new _ _ _
  constructor
  · intro within operations
    have serves : network.Serves config.bufferSize := ⟨limited.toReaches, within⟩
    have sendable := (Transport.sendable_lasting serves).run
      (show (Ledger.new endpoint).endpoint.transport.Sendable _ from new) operations
    exact flowing_of_sendable sendable serves
  · intro beyond
    have fits : recordSize wideEvent ≤ config.bufferSize := by
      rw [recordSize_wideEvent]
      exact beyond
    refine ⟨fits, ?_⟩
    intro before now after wide
    have capacity : ((Ledger.new endpoint).run network before).endpoint.transport.capacity =
        config.bufferSize := (Transport.capacity_lasting network _).run new.capacity before
    have large : maxDatagram < wide.endpoint.transport.buffer.length :=
      beyond_send_of_plural (rfl : wideEvent.single? = none) limited
        (recordSize_wideEvent ▸ Nat.lt_succ_self maxDatagram) (capacity ▸ fits) now
    exact blocked_of_stuck ((Transport.stuck_lasting limited _).run ⟨large, rfl⟩ after) limited

/-- The settings that say nothing but the sizes of the buffer and the cache. -/
def settings (bufferSize aggregateSize : Nat) : EndpointConfig :=
  { EndpointConfig.default with bufferSize, aggregateSize }

/-- The endpoint they give, with some cache. -/
def unused (bufferSize aggregateSize : Nat) (cache : Option Cache) : Endpoint :=
  { config :=
      { address := .v4 [127, 0, 0, 1] 13337
        bufferSize
        flushInterval := 1000
        splitsMax := 16
        flushAfterRequest := false
        aggregateSize
        aggregateValues := 24 }
    transport := Transport.new (.v4 [127, 0, 0, 1] 13337) bufferSize 1000
    cache
    isExiting := false }

theorem resolve_settings {bufferSize aggregateSize : Nat} (cache : Option Cache)
    (valid : (settings bufferSize aggregateSize).validate = .ok ()) :
    (settings bufferSize aggregateSize).resolve =
      .ok (unused bufferSize aggregateSize cache).config := by
  have address : SocketAddress.numericLookup
      (Text.trim (settings bufferSize aggregateSize).address) =
        .ok [.v4 [127, 0, 0, 1] 13337] := by
    show SocketAddress.numericLookup (Text.trim "127.0.0.1:13337") = _
    rfl
  unfold EndpointConfig.resolve EndpointConfig.resolveBy
  rw [valid, address]
  rfl

theorem largeBuffer_blocks :
    let network := Network.reaching fun _ => false
    network.Limited ∧
      (settings 4096 0).resolve = .ok (unused 4096 0 none).config ∧
      Endpoint.create (unused 4096 0 none).config = .ok (unused 4096 0 none) ∧
      (∀ operations : List Operation,
        Flowing network 4096
          ((Ledger.new (unused 4096 0 none)).run network operations).endpoint) ∧
      (settings 100000 0).resolve = .ok (unused 100000 0 none).config ∧
      Endpoint.create (unused 100000 0 none).config = .ok (unused 100000 0 none) ∧
      ∀ (before : List Operation) (now : Nat) (after : List Operation),
        let wide := ((Ledger.new (unused 100000 0 none)).run network before).step network
          (.send wideEvent now)
        Blocked network wide.endpoint.transport.delivered (wide.run network after).endpoint := by
  have limited := Network.limited_reaching
  have usual : (settings 4096 0).resolve = .ok (unused 4096 0 none).config :=
    resolve_settings none rfl
  have usualCreated : create (unused 4096 0 none).config = .ok (unused 4096 0 none) := rfl
  have within : 4096 ≤ maxDatagram := Nat.le_of_ble_eq_true rfl
  have large : (settings 100000 0).resolve = .ok (unused 100000 0 none).config :=
    resolve_settings none rfl
  have largeCreated : create (unused 100000 0 none).config = .ok (unused 100000 0 none) := rfl
  have beyond : maxDatagram < 100000 := Nat.le_of_ble_eq_true rfl
  exact ⟨limited, usual, usualCreated,
    (run_flows_or_blocks _ limited _ _ _ _ usual usualCreated).1 within, large, largeCreated,
    ((run_flows_or_blocks _ limited _ _ _ _ large largeCreated).2 beyond).2⟩

end Endpoint

end MetricPipeline
