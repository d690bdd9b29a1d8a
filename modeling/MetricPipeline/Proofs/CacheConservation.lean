import MetricPipeline.Proofs.SampleLots

/-!
A cache neither loses nor repeats a sample.

In every run the events that were handed over, and then those that are still in the cache, are one
for each event that got an entry of its own, in the order in which these came. Every accepted sample
is in exactly one of them: values and identifiers as they were, in order, and counters in the sums
of consecutive amounts. Nothing is said about when an event leaves, so clocks may go back, and it
does not matter which events collide in the index.
-/

namespace MetricPipeline.Cache

/-! ## Runs -/

/-- What the owner of a cache can ask for. -/
inductive Operation where
  /-- Offer an event. -/
  | ingest (event : Event) (now : Nat) (exiting : Bool)
  /-- Hand over what has been held for the window, or everything. -/
  | reclaim (now : Nat) (all : Bool)
  /-- Serve the timer. -/
  | onTimer (now : Nat)
  /-- Hand over everything. -/
  | drain (now : Nat)

/-- The events that are offered can be kept whole. -/
def Operation.Storable : Operation → Prop
  | .ingest event _ _ => event.Storable
  | _ => True

instance : DecidablePred Operation.Storable
  | .ingest event _ _ => inferInstanceAs (Decidable event.Storable)
  | .reclaim _ _ | .onTimer _ | .drain _ => inferInstanceAs (Decidable True)

/-- A cache and what has passed through it, oldest first. -/
structure Trace where
  /-- The cache. -/
  cache : Cache
  /-- The events that were handed over. -/
  flushed : List Event
  /-- The events that were answered to be buffered. -/
  opened : List Event
  /-- The events that were answered to be buffered or merged. -/
  accepted : List Event

/-- Remembers how an event was answered. -/
def Trace.answered (trace : Trace) (event : Event) : Intake → Trace
  | .buffered =>
    { trace with opened := trace.opened ++ [event], accepted := trace.accepted ++ [event] }
  | .merged => { trace with accepted := trace.accepted ++ [event] }
  | .rejected => trace

/-- Remembers which events were handed over. -/
def Trace.hands (trace : Trace) (cache : Cache) (left : List Event) : Trace :=
  { trace with cache, flushed := trace.flushed ++ left }

/-- One operation. -/
def Trace.step (trace : Trace) : Operation → Trace
  | .ingest event now exiting =>
    let (cache, intake, left) := trace.cache.ingest event now exiting
    (trace.hands cache left).answered event intake
  | .reclaim now all =>
    let (cache, left) := trace.cache.reclaim now all
    trace.hands cache left
  | .onTimer now =>
    let (cache, left) := trace.cache.onTimer now
    trace.hands cache left
  | .drain now =>
    let (cache, left) := trace.cache.drain now
    trace.hands cache left

/-- The trace of a cache that has not been used. -/
def Trace.new (size window sampleCap : Nat) : Trace :=
  { cache := Cache.empty size window sampleCap, flushed := [], opened := [], accepted := [] }

/-- A run of a cache from its creation on. -/
def run (size window sampleCap : Nat) (operations : List Operation) : Trace :=
  operations.foldl Trace.step (Trace.new size window sampleCap)

/-- All events that were handed over or can still be. -/
def Trace.held (trace : Trace) : List Event := trace.flushed ++ trace.cache.events

/-! ## Every operation keeps the account -/

/-- The cache is sound, and there is a tally for all that passed through it. -/
structure Trace.Balanced (trace : Trace) (cap : Nat) : Prop where
  /-- What holds of every cache. -/
  sound : Sound trace.cache
  /-- The cap has not changed. -/
  limit : trace.cache.sampleCap = cap
  /-- What the events stand for. -/
  tally : ∃ lots, Tally cap lots trace.held trace.opened trace.accepted

variable {trace : Trace} {cap : Nat}

theorem balanced_new (size window sampleCap : Nat) :
    (Trace.new size window sampleCap).Balanced (min sampleCap (size / sampleSize)) :=
  ⟨sound_empty size window sampleCap, rfl, [], tally_nil _⟩

/-- What is handed over is still accounted for. -/
theorem Trace.Balanced.hands (balanced : trace.Balanced cap) {next : Cache} {left : List Event}
    (sheds : Sheds trace.cache next left) : (trace.hands next left).Balanced cap := by
  obtain ⟨lots, tally⟩ := balanced.tally
  refine ⟨sheds.sound, sheds.cap.trans balanced.limit, lots, ?_⟩
  have same : (trace.hands next left).held = trace.held := by
    simp only [Trace.held, Trace.hands, List.append_assoc, sheds.events]
  rw [same]
  exact tally

/-- So is an event that is offered, whatever becomes of it. -/
theorem Trace.Balanced.answered (balanced : trace.Balanced cap) {event : Event} {next : Cache}
    {intake : Intake} {left : List Event} (admits : Admits trace.cache event (next, intake, left)) :
    ((trace.hands next left).answered event intake).Balanced cap := by
  obtain ⟨lots, tally⟩ := balanced.tally
  obtain ⟨sound, sameCap, taken⟩ := admits
  have limit := sameCap.trans balanced.limit
  rw [balanced.limit] at taken
  generalize before : trace.cache.events = events at taken
  generalize after : left ++ next.events = remaining at taken
  have held : (trace.hands next left).held = trace.flushed ++ remaining := by
    simp only [Trace.held, Trace.hands, List.append_assoc, after]
  rw [Trace.held, before] at tally
  cases taken with
  | rejected =>
    refine ⟨sound, limit, lots, ?_⟩
    show Tally _ lots (trace.hands next left).held trace.opened trace.accepted
    rw [held]
    exact tally
  | buffered _ sample single roomy =>
    obtain ⟨grown, opened⟩ := tally.opens single roomy
    refine ⟨sound, limit, grown, ?_⟩
    show Tally _ grown (trace.hands next left).held (trace.opened ++ [event])
      (trace.accepted ++ [event])
    rw [held, ← List.append_assoc]
    exact opened
  | merged older newer target sample samples single same newest pushed roomy =>
    rw [← List.append_assoc] at tally
    obtain ⟨grown, joined⟩ := tally.joins single same newest pushed roomy
    refine ⟨sound, limit, grown, ?_⟩
    show Tally _ grown (trace.hands next left).held trace.opened (trace.accepted ++ [event])
    rw [held, ← List.append_assoc]
    exact joined

theorem Trace.step_balanced (balanced : trace.Balanced cap) {operation : Operation}
    (storable : operation.Storable) : (trace.step operation).Balanced cap := by
  cases operation with
  | ingest event now exiting =>
    exact balanced.answered (balanced.sound.ingest storable now exiting)
  | reclaim now all => exact balanced.hands (balanced.sound.reclaim now all)
  | onTimer now => exact balanced.hands (balanced.sound.onTimer now)
  | drain now => exact balanced.hands (balanced.sound.drain now)

theorem Trace.run_balanced (balanced : trace.Balanced cap) {operations : List Operation}
    (storable : ∀ operation ∈ operations, operation.Storable) :
    (operations.foldl Trace.step trace).Balanced cap := by
  induction operations generalizing trace with
  | nil => exact balanced
  | cons operation rest ih =>
    obtain ⟨first, others⟩ := List.forall_mem_cons.mp storable
    exact ih (Trace.step_balanced balanced first) others

/-- **A cache conserves what it accepts.** In every run, what was handed over and then what is still
held has a tally: these events are one for each that got an entry of its own, in the same order, and
the blocks they stand for are the accepted samples of each shape in the order of acceptance. Values
and identifiers are therefore all there one by one, and no event holds more of them than the cap. -/
theorem run_conserves_samples (size window sampleCap : Nat) (operations : List Operation)
    (storable : ∀ operation ∈ operations, operation.Storable) :
    let final := run size window sampleCap operations
    let held := final.flushed ++ final.cache.events
    let cap := min sampleCap (size / sampleSize)
    (∃ lots, Tally cap lots held final.opened final.accepted) ∧
      (∀ shape, shape.kind ≠ .counter → samplesOf shape held = samplesOf shape final.accepted) ∧
      (∀ event ∈ held, event.kind ≠ .counter →
        1 ≤ event.samples.length ∧ event.samples.length ≤ cap) := by
  intro final held cap
  have balanced : final.Balanced cap :=
    Trace.run_balanced (balanced_new size window sampleCap) storable
  obtain ⟨lots, tally⟩ := balanced.tally
  refine ⟨⟨lots, tally⟩, ?_, ?_⟩
  · intro shape notCounter
    exact tally.samplesOf_held notCounter
  · intro event member notCounter
    exact tally.length_held member notCounter

/-- Three sizes of one shape, of which an entry takes two, then a counter, and a timer that is
due. -/
def fullEntryRun : List Operation :=
  let dimensions : List Dimension := [{ key := "host", value := "a" }]
  let size (bits : UInt64) : Event := { name := "size", samples := .value [⟨bits⟩], dimensions }
  let hits : Event := { name := "hits", samples := .counter ⟨4⟩, dimensions }
  [.ingest (size 1) 5 false, .ingest (size 2) 3 false, .ingest (size 3) 4 false,
    .ingest hits 4 false, .onTimer 15]

theorem fullEntryRun_conserves_samples :
    (∀ operation ∈ fullEntryRun, operation.Storable) ∧
      let final := run 400 10 2 fullEntryRun
      let held := final.flushed ++ final.cache.events
      final.flushed.length = 3 ∧ final.accepted.length = 4 ∧
        (∃ lots, Tally 2 lots held final.opened final.accepted) ∧
        (∀ shape, shape.kind ≠ .counter → samplesOf shape held = samplesOf shape final.accepted) ∧
        (∀ event ∈ held, event.kind ≠ .counter →
          1 ≤ event.samples.length ∧ event.samples.length ≤ 2) := by
  have storable : ∀ operation ∈ fullEntryRun, operation.Storable := by decide
  exact ⟨storable, by decide +kernel, by decide +kernel,
    run_conserves_samples 400 10 2 fullEntryRun storable⟩

end MetricPipeline.Cache
