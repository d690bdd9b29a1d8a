import MetricPipeline.Proofs.TransportStream

/-!
When a transport drops a record.

A record that is larger than the whole buffer can never be sent. But the room is measured after a
flush that may have failed, and a failed flush keeps what waits: a record that an empty buffer would
take is then dropped as well, and reported as too big. Nothing that waits is lost by it, and a
reachable network never lets it happen.
-/

namespace MetricPipeline.Transport

open Wire (recordSize recordBytes)

variable {transport : Transport} {network : Network} {exiting : Bool}

/-! ## What a flush leaves -/

/-- A flush fails only while something waits. It keeps what waits and gives up the connection. -/
theorem flush_of_failed (failed : (transport.flush network exiting).2 = .failed) :
    transport.buffer ≠ [] ∧ ∃ error, (transport.flush network exiting).1 =
      { transport with
        isConnected := false
        attempts := transport.attempts ++ [.failed error] } := by
  unfold Transport.flush at failed ⊢
  split at failed
  · cases failed
  · rename_i waits
    split at failed
    · cases failed
    · rename_i error refused
      rw [if_neg waits]
      exact ⟨waits, error, rfl⟩

/-- A flush that does not fail leaves nothing. -/
theorem flush_of_not_failed (done : (transport.flush network exiting).2 ≠ .failed) :
    (transport.flush network exiting).1.buffer = [] := by
  unfold Transport.flush at done ⊢
  split at done
  · rename_i empty
    rw [if_pos empty]
    exact empty
  · rename_i waits
    rw [if_neg waits]
    split at done
    · rfl
    · exact absurd rfl done

/-- Where no connection can be made, nothing that waits is sent. -/
theorem flush_of_unreachable (waits : transport.buffer ≠ [])
    (offline : transport.isConnected = false)
    (exiting : Bool) :
    (transport.flush (Network.reaching fun _ => true) exiting).2 = .failed := by
  have refused : ∃ error, transport.ship (Network.reaching fun _ => true) = .error error := by
    unfold ship
    rw [offline]
    exact ⟨_, rfl⟩
  obtain ⟨error, refused⟩ := refused
  rw [flush, if_neg waits, refused]

/-! ## One record -/

/-- How much room a flush makes: all of it, or none when it fails. -/
theorem room_flush (transport : Transport) (network : Network) (exiting : Bool) :
    (transport.flush network exiting).1.room =
      if (transport.flush network exiting).2 = .failed then transport.room
      else transport.capacity := by
  split
  · rename_i failed
    obtain ⟨-, error, kept⟩ := flush_of_failed failed
    rw [kept]
    rfl
  · rename_i done
    rw [room, pending, flush_capacity, flush_of_not_failed done]
    rfl

/-- A record is dropped when it is larger than the buffer, and when it is larger than the room and
the flush that should have made room failed. -/
theorem send_tooBig_iff (transport : Transport) (network : Network) (event : Event) (now : Nat)
    (exiting : Bool) :
    (transport.send network event now exiting).2 = .tooBig ↔
      transport.capacity < recordSize event ∨
        (transport.room < recordSize event ∧ (transport.flush network exiting).2 = .failed) := by
  have made := room_flush transport network exiting
  by_cases full : transport.room < recordSize event
  · have answer : (transport.send network event now exiting).2 = .tooBig ↔
        (transport.flush network exiting).1.room < recordSize event := by
      unfold send
      simp only [if_pos full]
      split <;> simp_all only [reduceCtorEq]
    rw [answer, made]
    split
    · rename_i failed
      exact ⟨fun _ => .inr ⟨full, failed⟩, fun _ => full⟩
    · rename_i done
      exact ⟨.inl, fun either => either.resolve_right fun both => done both.2⟩
  · have answer : (transport.send network event now exiting).2 = .buffered := by
      unfold send
      simp only [if_neg full]
    rw [answer]
    refine iff_of_false nofun ?_
    rintro (large | ⟨tight, -⟩)
    · exact full (Nat.lt_of_le_of_lt (Nat.sub_le _ _) large)
    · exact full tight

/-- A record that an empty buffer would take is dropped without a change to what waits. -/
theorem send_of_failed {event : Event} (now : Nat) (tight : transport.room < recordSize event)
    (failed : (transport.flush network exiting).2 = .failed) :
    ∃ error, transport.send network event now exiting =
      ({ transport with
          isConnected := false
          attempts := transport.attempts ++ [.failed error]
          dropped := transport.dropped ++
            [{ event, size := recordSize event, capacity := transport.capacity }] },
        .tooBig) := by
  obtain ⟨-, error, kept⟩ := flush_of_failed failed
  refine ⟨error, ?_⟩
  unfold send
  simp only [if_pos tight, kept]
  exact if_pos tight

/-! ## Records of a run -/

/-- In every state of a run the buffer is within its capacity. -/
theorem run_within (network : Network) (address : SocketAddress) (capacity interval : Nat)
    (operations : List Operation) :
    let transport := (run network address capacity interval operations).transport
    transport.capacity = capacity ∧ transport.pending ≤ capacity := by
  obtain ⟨⟨groups, waiting, spread⟩, within⟩ := Trace.run_carries
    { transport := Transport.new address capacity interval, accepted := [] }
    (carries_new address capacity interval) operations
  exact ⟨within, Nat.le_trans spread.fits (Nat.le_of_eq within)⟩

/-- A transport whose first record waits because nothing can be reached. -/
theorem run_single (network : Network) (address : SocketAddress) {capacity : Nat} (interval : Nat)
    {first : Event} (fits : recordSize first ≤ capacity) :
    let transport := (run network address capacity interval [.send first 0 false]).transport
    transport.buffer = recordBytes first ∧ transport.isConnected = false ∧
      transport.capacity = capacity := by
  intro transport
  have room : ¬ (Transport.new address capacity interval).room < recordSize first := by
    simpa [Transport.room, pending, new] using fits
  have sent : transport =
      ((Transport.new address capacity interval).append first).armTimer 0 false := by
    simp only [transport, run, List.foldl_cons, List.foldl_nil, Trace.step, send, if_neg room]
  obtain ⟨timer, armed⟩ :=
    armTimer_eq ((Transport.new address capacity interval).append first) 0 false
  rw [sent, armed]
  exact ⟨List.nil_append _, rfl, rfl⟩

/-- **A record is dropped when it fits no buffer, and also when a failed flush leaves it no room.**
In every state of every run, under every network: a send answers that the record is too big just
when it is larger than the capacity, or when it and what waits are and the flush fails. In the
second case it would have fitted an empty buffer; what waits is kept, nothing is delivered, and only
the record is gone. Any two records that fit the buffer each but not together come to this where
nothing can be reached: the second one is dropped. -/
theorem failed_flush_drops_record (network : Network) (address : SocketAddress)
    (capacity interval : Nat) (operations : List Operation) (event : Event) (now : Nat)
    (exiting : Bool) :
    let transport := (run network address capacity interval operations).transport
    let answer := transport.send network event now exiting
    (answer.2 = .tooBig ↔
        capacity < recordSize event ∨
          (capacity < transport.pending + recordSize event ∧
            (transport.flush network exiting).2 = .failed)) ∧
      (answer.2 = .tooBig → recordSize event ≤ capacity →
        transport.buffer ≠ [] ∧ answer.1.buffer = transport.buffer ∧
          answer.1.delivered = transport.delivered ∧
          answer.1.dropped =
            transport.dropped ++ [{ event, size := recordSize event, capacity }]) ∧
      (∀ first, recordSize first ≤ capacity → recordSize event ≤ capacity →
        capacity < recordSize first + recordSize event →
        let nowhere := Network.reaching fun _ => true
        let waiting := (run nowhere address capacity interval [.send first 0 false]).transport
        waiting.buffer = recordBytes first ∧
          (waiting.send nowhere event now exiting).2 = .tooBig) := by
  intro transport answer
  obtain ⟨within, fits⟩ : transport.capacity = capacity ∧ transport.pending ≤ capacity :=
    run_within network address capacity interval operations
  have tight : transport.room < recordSize event ↔
      capacity < transport.pending + recordSize event := by
    rw [room, within]
    omega
  have answers := send_tooBig_iff transport network event now exiting
  rw [within, tight] at answers
  refine ⟨answers, ?_, ?_⟩
  · intro dropped alone
    obtain ⟨full, failed⟩ := (answers.mp dropped).resolve_left (Nat.not_lt_of_le alone)
    obtain ⟨error, sent⟩ := send_of_failed now (tight.mpr full) failed
    refine ⟨(flush_of_failed failed).1, ?_, ?_, ?_⟩
    · simp only [answer, sent]
    · simp [answer, sent, delivered]
    · simp only [answer, sent, within]
  · intro first small alone together nowhere waiting
    obtain ⟨buffer, offline, same⟩ := run_single nowhere address interval small
    refine ⟨buffer, (send_tooBig_iff waiting nowhere event now exiting).mpr (.inr ⟨?_, ?_⟩)⟩
    · rw [room, pending, buffer, Wire.recordBytes_length, same]
      omega
    · exact flush_of_unreachable (buffer ▸ Wire.recordBytes_ne_nil first) offline exiting

/-- A count of one under a name. -/
def countOf (name : String) : Event :=
  { name, samples := .counter ⟨0x3ff0000000000000⟩, dimensions := [] }

/-- A transport that nothing can be reached from, with one record of thirty-two bytes in a buffer of
forty. -/
def heldBack : Transport :=
  (run (Network.reaching fun _ => true) (.v4 [127, 0, 0, 1] 13337) 40 0
    [.send (countOf "a") 0 false]).transport

theorem heldBack_drops_record :
    recordSize (countOf "a") = 32 ∧ recordSize (countOf "b") = 32 ∧
      heldBack.buffer = recordBytes (countOf "a") ∧
      (heldBack.send (Network.reaching fun _ => true) (countOf "b") 1 false).2 = .tooBig ∧
      (heldBack.send (Network.reaching fun _ => true) (countOf "b") 1 false).1.buffer =
        heldBack.buffer ∧
      (heldBack.send (Network.reaching fun _ => true) (countOf "b") 1 false).1.dropped =
        heldBack.dropped ++ [{ event := countOf "b", size := 32, capacity := 40 }] := by
  have first : recordSize (countOf "a") = 32 := by decide +kernel
  have second : recordSize (countOf "b") = 32 := by decide +kernel
  obtain ⟨-, kept, loses⟩ := failed_flush_drops_record (Network.reaching fun _ => true)
    (.v4 [127, 0, 0, 1] 13337) 40 0 [.send (countOf "a") 0 false] (countOf "b") 1 false
  obtain ⟨waits, dropped⟩ := loses (countOf "a") (by omega) (by omega) (by omega)
  obtain ⟨-, buffer, -, remembered⟩ := kept dropped (by omega)
  rw [second] at remembered
  exact ⟨first, second, waits, dropped, buffer, remembered⟩

end MetricPipeline.Transport
