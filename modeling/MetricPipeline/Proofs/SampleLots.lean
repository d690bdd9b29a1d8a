import MetricPipeline.Proofs.CacheSteps

/-!
Which samples an event stands for.

An event that left a cache, or is still in it, stands for a block of the samples that were offered:
a counter for those whose sum it carries, any other event for the samples it lists. A tally gives
every such event its block. Offering one more event changes a tally at its end or in the newest
block of one shape, so the blocks of a shape, one after another, stay the samples of that shape in
the order in which they were offered.
-/

namespace MetricPipeline

/-! ## Samples one by one -/

/-- The samples of an event, one by one; a counter has one. -/
def Samples.list : Samples → List Sample
  | .counter sum => [.counter sum]
  | .value sizes => sizes.map .value
  | .unique ids => ids.map .unique

/-- The samples of the events of one shape, one after another. -/
def samplesOf (shape : Shape) (events : List Event) : List Sample :=
  (events.filter (·.shape = shape)).flatMap (·.samples.list)

/-- Whether samples carry a block: a counter carries the sum of its block from left to right, the
other kinds carry every sample. -/
def Samples.StandsFor : Samples → List Sample → Prop
  | .counter sum, block =>
    ∃ first rest, block = (first :: rest).map .counter ∧ sum = rest.foldl (· + ·) first
  | .value sizes, block => block = sizes.map .value
  | .unique ids, block => block = ids.map .unique

namespace Samples

variable {samples more : Samples} {sample : Sample} {block : List Sample}

@[simp] theorem list_length (samples : Samples) : samples.list.length = samples.length := by
  cases samples <;> simp [list, length]

theorem standsFor_list (samples : Samples) : samples.StandsFor samples.list := by
  cases samples with
  | counter sum => exact ⟨sum, [], rfl, rfl⟩
  | value sizes => rfl
  | unique ids => rfl

theorem list_of_single (single : samples.single? = some sample) : samples.list = [sample] := by
  unfold single? at single
  split at single <;> simp_all [list]

theorem StandsFor.eq_list (stands : samples.StandsFor block)
    (notCounter : samples.kind ≠ .counter) : block = samples.list := by
  cases samples with
  | counter sum => exact absurd rfl notCounter
  | value sizes => exact stands
  | unique ids => exact stands

theorem push?_kind (pushed : samples.push? sample = some more) : more.kind = samples.kind := by
  unfold push? at pushed
  split at pushed
  · obtain rfl := Option.some.inj pushed; rfl
  · obtain rfl := Option.some.inj pushed; rfl
  · obtain rfl := Option.some.inj pushed; rfl
  · cases pushed

/-- One more sample is one more at the end of the block. -/
theorem StandsFor.push (stands : samples.StandsFor block)
    (pushed : samples.push? sample = some more) : more.StandsFor (block ++ [sample]) := by
  unfold push? at pushed
  split at pushed
  · obtain rfl := Option.some.inj pushed
    obtain ⟨first, rest, rfl, rfl⟩ := stands
    rename_i amount
    refine ⟨first, rest ++ [amount], by simp, by simp⟩
  · obtain rfl := Option.some.inj pushed
    obtain rfl := stands
    simp [StandsFor]
  · obtain rfl := Option.some.inj pushed
    obtain rfl := stands
    simp [StandsFor]
  · cases pushed

end Samples

@[simp] theorem samplesOf_append (shape : Shape) (front back : List Event) :
    samplesOf shape (front ++ back) = samplesOf shape front ++ samplesOf shape back := by
  simp [samplesOf]

theorem samplesOf_singleton (shape : Shape) (event : Event) :
    samplesOf shape [event] = if event.shape = shape then event.samples.list else [] := by
  by_cases same : event.shape = shape <;> simp [samplesOf, same]

/-! ## Tallies -/

/-- An event, the event it began as, and the samples it stands for. -/
structure Lot where
  /-- The event. -/
  event : Event
  /-- The event that was offered first. -/
  opener : Event
  /-- The samples that were offered. -/
  block : List Sample

/-- The samples that lots of one shape stand for, one after another. -/
def Lot.samplesOf (shape : Shape) (lots : List Lot) : List Sample :=
  (lots.filter (·.event.shape = shape)).flatMap (·.block)

/-- The event of a lot stands for its block, which begins with the first sample and is not too
long. -/
structure Lot.Fair (cap : Nat) (lot : Lot) : Prop where
  /-- It has the shape it began with. -/
  shape : lot.event.shape = lot.opener.shape
  /-- It carries the block. -/
  stands : lot.event.samples.StandsFor lot.block
  /-- The block begins with the sample of the first event. -/
  starts : ∃ first, lot.opener.single? = some first ∧ [first] <+: lot.block
  /-- But for counters the cap is kept. -/
  capped : lot.event.kind ≠ .counter → lot.block.length ≤ cap

/-- Every event that is held has its lot, the lots are in the order of their first events, and their
blocks are the accepted samples. -/
structure Tally (cap : Nat) (lots : List Lot) (held opened accepted : List Event) : Prop where
  /-- The events that are held. -/
  held : lots.map (·.event) = held
  /-- The events they began as. -/
  opened : lots.map (·.opener) = opened
  /-- Every lot is fair. -/
  fair : ∀ lot ∈ lots, lot.Fair cap
  /-- No sample of any shape is lost, repeated or out of order. -/
  complete : ∀ shape, Lot.samplesOf shape lots = samplesOf shape accepted

theorem tally_nil (cap : Nat) : Tally cap [] [] [] [] :=
  ⟨rfl, rfl, by simp, fun _ => rfl⟩

@[simp] theorem Lot.samplesOf_append (shape : Shape) (front back : List Lot) :
    Lot.samplesOf shape (front ++ back) =
      Lot.samplesOf shape front ++ Lot.samplesOf shape back := by
  simp [Lot.samplesOf]

theorem Lot.samplesOf_cons (shape : Shape) (lot : Lot) (rest : List Lot) :
    Lot.samplesOf shape (lot :: rest) =
      (if lot.event.shape = shape then lot.block else []) ++ Lot.samplesOf shape rest := by
  by_cases same : lot.event.shape = shape <;> simp [Lot.samplesOf, same]

theorem Lot.samplesOf_eq_nil {shape : Shape} {lots : List Lot}
    (other : ∀ lot ∈ lots, lot.event.shape ≠ shape) : Lot.samplesOf shape lots = [] := by
  have none : lots.filter (·.event.shape = shape) = [] := by
    simpa [List.filter_eq_nil_iff] using other
  rw [Lot.samplesOf, none, List.flatMap_nil]

variable {cap : Nat} {lots : List Lot} {held opened accepted : List Event}

/-- An event with a single sample opens a lot behind all others. -/
theorem Tally.opens (tally : Tally cap lots held opened accepted) {event : Event} {sample : Sample}
    (single : event.single? = some sample) (roomy : event.kind ≠ .counter → 1 ≤ cap) :
    ∃ grown, Tally cap grown (held ++ [event]) (opened ++ [event]) (accepted ++ [event]) := by
  have alone : event.samples.list = [sample] := Samples.list_of_single single
  refine ⟨lots ++ [{ event, opener := event, block := [sample] }], ?_, ?_, ?_, ?_⟩
  · rw [List.map_append, tally.held, List.map_singleton]
  · rw [List.map_append, tally.opened, List.map_singleton]
  · intro lot member
    rcases List.mem_append.mp member with earlier | new
    · exact tally.fair lot earlier
    · obtain rfl := List.mem_singleton.mp new
      exact ⟨rfl, alone ▸ event.samples.standsFor_list, ⟨sample, single, List.prefix_rfl⟩, roomy⟩
  · intro shape
    rw [Lot.samplesOf_append, MetricPipeline.samplesOf_append, tally.complete, samplesOf_singleton,
      alone, Lot.samplesOf_cons]
    simp [Lot.samplesOf]

/-- A sample of an event joins the newest lot of its shape. -/
theorem Tally.joins {older newer : List Event} {target event : Event}
    (tally : Tally cap lots (older ++ target :: newer) opened accepted) {sample : Sample}
    {samples : Samples} (single : event.single? = some sample) (same : target.shape = event.shape)
    (newest : ∀ other ∈ newer, other.shape ≠ event.shape)
    (pushed : target.samples.push? sample = some samples)
    (roomy : event.kind ≠ .counter → samples.length ≤ cap) :
    ∃ grown, Tally cap grown (older ++ { target with samples } :: newer) opened
      (accepted ++ [event]) := by
  have alone : event.samples.list = [sample] := Samples.list_of_single single
  have kind : samples.kind = target.samples.kind := Samples.push?_kind pushed
  obtain ⟨front, tail, rfl, rfl, rest⟩ := List.map_eq_append_iff.mp tally.held
  obtain ⟨lot, back, rfl, rfl, rfl⟩ := List.map_eq_cons_iff.mp rest
  have shape : ({ lot.event with samples } : Event).shape = lot.event.shape := by
    simp only [Event.shape, Event.kind, kind]
  have fair := tally.fair lot (by simp)
  have stands := fair.stands.push pushed
  refine ⟨front ++ { lot with
    event := { lot.event with samples }, block := lot.block ++ [sample] } :: back, ?_, ?_, ?_, ?_⟩
  · simp
  · simpa using tally.opened
  · intro other member
    rcases List.mem_append.mp member with earlier | later
    · exact tally.fair other (List.mem_append_left _ earlier)
    rcases List.mem_cons.mp later with rfl | later
    · obtain ⟨first, opener, starts⟩ := fair.starts
      refine ⟨shape.trans fair.shape, stands, ⟨first, opener, starts.trans ?_⟩,
        fun notCounter => ?_⟩
      · exact List.prefix_append _ _
      · rw [stands.eq_list notCounter, Samples.list_length]
        have kinds : event.kind = samples.kind := by
          rw [kind]
          exact (congrArg Shape.kind same).symm
        exact roomy (kinds ▸ notCounter)
    · exact tally.fair other (by simp [later])
  · intro any
    have before := tally.complete any
    rw [Lot.samplesOf_append, Lot.samplesOf_cons] at before
    rw [Lot.samplesOf_append, Lot.samplesOf_cons, MetricPipeline.samplesOf_append, ← before,
      samplesOf_singleton, alone, shape, ← same]
    by_cases mine : lot.event.shape = any
    · have others : Lot.samplesOf any back = [] :=
        Lot.samplesOf_eq_nil fun other member =>
          mine ▸ same ▸ newest other.event (List.mem_map_of_mem member)
      simp [mine, others]
    · simp [mine]

/-- But for counters the blocks of lots are what their events list. -/
theorem Lot.samplesOf_eq_list {shape : Shape} (notCounter : shape.kind ≠ .counter)
    (stands : ∀ lot ∈ lots, lot.event.samples.StandsFor lot.block) :
    Lot.samplesOf shape lots = MetricPipeline.samplesOf shape (lots.map (·.event)) := by
  induction lots with
  | nil => rfl
  | cons lot rest ih =>
    obtain ⟨first, others⟩ := List.forall_mem_cons.mp stands
    have split := MetricPipeline.samplesOf_append shape [lot.event] (rest.map (·.event))
    rw [List.map_cons, Lot.samplesOf_cons, ih others]
    refine Eq.trans ?_ split.symm
    rw [samplesOf_singleton]
    by_cases same : lot.event.shape = shape
    · have kind : lot.event.samples.kind = shape.kind := congrArg Shape.kind same
      rw [if_pos same, if_pos same, first.eq_list (kind ▸ notCounter)]
    · rw [if_neg same, if_neg same]

theorem Tally.samplesOf_held (tally : Tally cap lots held opened accepted) {shape : Shape}
    (notCounter : shape.kind ≠ .counter) : samplesOf shape held = samplesOf shape accepted := by
  rw [← tally.complete, ← tally.held]
  exact (Lot.samplesOf_eq_list notCounter fun lot member => (tally.fair lot member).stands).symm

/-- But for counters an event lists at least one sample and at most as many as the cap allows. -/
theorem Tally.length_held (tally : Tally cap lots held opened accepted) {event : Event}
    (member : event ∈ held) (notCounter : event.kind ≠ .counter) :
    1 ≤ event.samples.length ∧ event.samples.length ≤ cap := by
  rw [← tally.held] at member
  obtain ⟨lot, among, rfl⟩ := List.mem_map.mp member
  have fair := tally.fair lot among
  have block : lot.block = lot.event.samples.list := fair.stands.eq_list notCounter
  have size : lot.block.length = lot.event.samples.length := by rw [block, Samples.list_length]
  obtain ⟨first, -, starts⟩ := fair.starts
  rw [← size]
  exact ⟨starts.length_le, fair.capped notCounter⟩

end MetricPipeline
