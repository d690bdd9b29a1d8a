import MetricPipeline.Pipeline
import MetricPipeline.Proofs.EndpointAccounting

/-!
A trigger treats every definition on its own.

The definitions of a site run one after another, each with a rate limit of its own, and they share the
stream of draws. Without sampling a draw decides nothing, so what a definition makes of a trigger does
not depend on the others: the batch, the report and the definitions afterwards can be read off each of
them alone. What the trigger sends ends up at the end of one queue, and nothing else changes.
-/

namespace MetricPipeline

variable {τ : Type}

/-! ## One definition -/

/-- No draw leaves a trigger of the definition out. -/
def Definition.Unsampled (definition : Definition τ) : Prop :=
  definition.samplePercent = 0 ∨ 100 ≤ definition.samplePercent

instance : DecidablePred (Definition.Unsampled (τ := τ)) := fun definition =>
  inferInstanceAs (Decidable (definition.samplePercent = 0 ∨ 100 ≤ definition.samplePercent))

namespace Verdict

def ofResult : Except CompileError (List Event) → Verdict
  | .ok [] => .declined
  | .ok (event :: rest) => .emitted (event :: rest)
  | .error error => .failed error

theorem events_ofResult (result : Except CompileError (List Event)) :
    (ofResult result).events = result.toOption.getD [] := by
  cases result with
  | error error => rfl
  | ok events =>
    cases events with
    | nil => rfl
    | cons event rest => rfl

theorem isDeclined_ofResult (result : Except CompileError (List Event)) :
    (ofResult result).isDeclined = decide (result.toOption = some []) := by
  cases result with
  | error error => rfl
  | ok events =>
    cases events with
    | nil => rfl
    | cons event rest => rfl

theorem isFailed_ofResult (result : Except CompileError (List Event)) :
    (ofResult result).isFailed = !result.isOk := by
  cases result with
  | error error => rfl
  | ok events =>
    cases events with
    | nil => rfl
    | cons event rest => rfl

end Verdict

/-- A percentage that leaves nothing out takes a draw all the same, unless it is zero. -/
theorem Sampler.leavesOut_eq (sampler : Sampler) {percent : Nat}
    (all : percent = 0 ∨ 100 ≤ percent) :
    sampler.leavesOut percent =
      ({ sampler with taken := sampler.taken + if percent = 0 then 0 else 1 }, false) := by
  by_cases zero : percent = 0
  · simp [leavesOut, zero]
  · have most := all.resolve_left zero
    have below : ¬ percent ≤ (sampler.draws sampler.taken).val := by
      have draw := (sampler.draws sampler.taken).isLt
      omega
    simp [leavesOut, zero, below]

theorem Definition.trigger_eq {definition : Definition τ} (unsampled : definition.Unsampled)
    (sampler : Sampler) (resolve : Resolver τ) (max now : Nat) :
    definition.trigger sampler resolve max now =
      ({ sampler with
          taken := sampler.taken + if definition.samplePercent = 0 then 0 else 1 },
        (definition.compile resolve max now).1,
        .ofResult (definition.compile resolve max now).2) := by
  rw [trigger, sampler.leavesOut_eq unsampled]
  cases compiled : definition.compile resolve max now with
  | mk after result =>
    cases result with
    | error error => rfl
    | ok events =>
      cases events with
      | nil => rfl
      | cons event rest => rfl

theorem Emitter.dispatchesFor_eq (handle : Handle) (events : List Event) :
    dispatchesFor handle events =
      ((if events = [] then [] else [Command.sendBatch events]) ++
        if handle.flushAfterRequest then [Command.flushAfterRequest] else []).map
          fun command => ⟨handle.service, command⟩ := by
  unfold dispatchesFor
  rw [List.map_append]
  split <;> split <;> rfl

/-! ## All definitions of a site -/

theorem Emitter.triggerAll_eq {definitions : List (Definition τ)}
    (unsampled : ∀ definition ∈ definitions, definition.Unsampled)
    (resolve : Definition.Resolver τ) (phase : Option String) (max now : Nat) (sampler : Sampler) :
    let matching := definitions.filter (·.matchesPhase phase)
    triggerAll resolve phase max now sampler definitions =
      ({ sampler with taken := sampler.taken + matching.countP (·.samplePercent ≠ 0) },
        definitions.map fun definition =>
          if definition.matchesPhase phase then (definition.compile resolve max now).1
          else definition,
        matching.map fun definition => .ofResult (definition.compile resolve max now).2) := by
  induction definitions generalizing sampler with
  | nil => rfl
  | cons definition rest ih =>
    obtain ⟨first, others⟩ := List.forall_mem_cons.mp unsampled
    have follows := ih others
    by_cases matched : definition.matchesPhase phase = true
    · have draws : ∀ taken more, taken + (if definition.samplePercent = 0 then 0 else 1) + more =
          taken + (more + if definition.samplePercent ≠ 0 then 1 else 0) := by
        intro taken more
        by_cases zero : definition.samplePercent = 0
        · simp [zero]
        · simp only [zero, if_false, ne_eq, not_false_eq_true, if_true]
          omega
      simp only [triggerAll, matched, if_true, Definition.trigger_eq first, follows,
        List.filter_cons_of_pos, List.map_cons, List.countP_cons, decide_eq_true_eq, draws]
    · simp only [triggerAll, matched, follows, Bool.false_eq_true, if_false, List.map_cons,
        List.filter_cons_of_neg, not_false_eq_true]

theorem Report.ofVerdicts_ofResult (results : List (Except CompileError (List Event))) :
    Report.ofVerdicts (results.map Verdict.ofResult) =
      { events := (results.flatMap fun result => result.toOption.getD []).length
        declined := results.countP (·.toOption = some [])
        failed := results.countP (!·.isOk) } := by
  simp only [ofVerdicts, List.flatMap_map, List.countP_map, Function.comp_def,
    Verdict.events_ofResult, Verdict.isDeclined_ofResult, Verdict.isFailed_ofResult]

/-! ## Queues -/

namespace Pipeline

/-- A service that runs queues commands, and nothing else changes. -/
theorem postAll_of_running (pipeline : Pipeline τ) {number : Nat} {service : Service}
    (found : pipeline.services[number]? = some service) (running : service.isRunning = true)
    (commands : List Command) :
    pipeline.postAll (commands.map fun command => ⟨number, command⟩) =
      { pipeline with
        services :=
          pipeline.services.set number { service with queue := service.queue ++ commands } } := by
  induction commands generalizing pipeline service with
  | nil =>
    obtain ⟨inRange, here⟩ := List.getElem?_eq_some_iff.mp found
    have same : pipeline.services.set number service = pipeline.services := by
      rw [← here, List.set_getElem_self]
    simp only [List.append_nil, same]
    rfl
  | cons command rest ih =>
    obtain ⟨inRange, -⟩ := List.getElem?_eq_some_iff.mp found
    have posted : pipeline.post ⟨number, command⟩ =
        { pipeline with
          services :=
            pipeline.services.set number { service with queue := service.queue ++ [command] } } := by
      simp [post, post?, found, Service.enqueue?, running]
    have queued : (pipeline.post ⟨number, command⟩).services[number]? =
        some { service with queue := service.queue ++ [command] } := by
      rw [posted]
      exact List.getElem?_set_self inRange
    have others := ih _ queued running
    simp only [posted, List.set_set, List.append_assoc, List.singleton_append] at others
    rw [List.map_cons, postAll, List.foldl_cons, posted]
    exact others

theorem emit_of_off {pipeline : Pipeline τ} {site : Nat}
    (off : ∀ found, pipeline.emitter.sites[site]? = some found → found.handle = none)
    (resolve : Definition.Resolver τ) (phase : Option String) :
    pipeline.emit site resolve phase = (pipeline, Report.zero) := by
  have nothing : pipeline.emitter.emit site resolve phase pipeline.clock =
      (pipeline.emitter, Report.zero, []) := by
    unfold Emitter.emit
    cases here : pipeline.emitter.sites[site]? with
    | none => rfl
    | some found => simp only [off found here]
  simp only [emit, nothing]
  rfl

/-- **A trigger treats every definition on its own, and accounts for each.** If no draw can leave a
definition of the site out and its service runs, the batch is what the definitions of the phase compile
to, in order; one that fails or gives nothing adds nothing. It is queued unless it is empty, and then
the end of the unit of work, if the endpoint wants to know of it. The report counts the events of the
batch and the definitions that gave nothing or failed. Only the definitions of the phase, the draws and
the queue of that service are changed. A site that is off, or none at all, changes nothing. -/
theorem emit_isolates_definitions (pipeline : Pipeline τ) (site : Nat)
    (resolve : Definition.Resolver τ) (phase : Option String) :
    (∀ found handle service, pipeline.emitter.sites[site]? = some found →
      found.handle = some handle → pipeline.services[handle.service]? = some service →
      service.isRunning = true → (∀ definition ∈ found.definitions, definition.Unsampled) →
      let compiled (definition : Definition τ) :=
        definition.compile resolve handle.splitsMax pipeline.clock
      let matching := found.definitions.filter (·.matchesPhase phase)
      let results := matching.map fun definition => (compiled definition).2
      let batch := results.flatMap fun result => result.toOption.getD []
      let commands := (if batch = [] then [] else [.sendBatch batch]) ++
        if handle.flushAfterRequest then [.flushAfterRequest] else []
      let after := found.definitions.map fun definition =>
        if definition.matchesPhase phase then (compiled definition).1 else definition
      let taken := pipeline.emitter.sampler.taken + matching.countP (·.samplePercent ≠ 0)
      let emitter : Emitter τ :=
        { sites := pipeline.emitter.sites.set site { found with definitions := after }
          sampler := { pipeline.emitter.sampler with taken } }
      pipeline.emit site resolve phase =
        ({ pipeline with
            emitter
            services := pipeline.services.set handle.service
              { service with queue := service.queue ++ commands } },
          { events := batch.length
            declined := results.countP (·.toOption = some [])
            failed := results.countP (!·.isOk) })) ∧
      ((∀ found, pipeline.emitter.sites[site]? = some found → found.handle = none) →
        pipeline.emit site resolve phase = (pipeline, Report.zero)) := by
  refine ⟨?_, fun off => emit_of_off off resolve phase⟩
  intro found handle service here live queue running unsampled compiled matching results batch
    commands after taken emitter
  have triggered : Emitter.triggerAll resolve phase handle.splitsMax pipeline.clock
      pipeline.emitter.sampler found.definitions =
        ({ pipeline.emitter.sampler with taken }, after, results.map Verdict.ofResult) := by
    rw [Emitter.triggerAll_eq unsampled, List.map_map]
    rfl
  have shipped : (results.map Verdict.ofResult).flatMap Verdict.events = batch := by
    rw [List.flatMap_map]
    exact congrArg results.flatMap (funext Verdict.events_ofResult)
  have emitted : pipeline.emitter.emit site resolve phase pipeline.clock =
      (emitter, Report.ofVerdicts (results.map Verdict.ofResult),
        commands.map fun command => ⟨handle.service, command⟩) := by
    simp only [Emitter.emit, here, live, triggered, shipped, emitter]
    rw [Emitter.dispatchesFor_eq]
  rw [emit, emitted, Report.ofVerdicts_ofResult]
  exact congrArg (·, _) (postAll_of_running { pipeline with emitter } queue running commands)

/-- One definition that emits, one that declines, one that fails, one for another phase, and one that
takes a draw. -/
theorem mixedSite_isolates_definitions :
    let site : Site String :=
      { name := "api"
        definitions := [.new "user" .unique "3", .new "idle" .counter "", .new "hits" .counter "many",
          { Definition.new "late" .unique "5" with phase := some "log" },
          { Definition.new "host" .unique "7" with samplePercent := 100 }]
        handle := some { service := 0, splitsMax := 4, flushAfterRequest := true } }
    let off : Site String := { site with handle := none }
    let pipeline : Pipeline String :=
      { emitter := { sites := [site, off], sampler := Sampler.ofSeed 1 }
        services := [Service.new Endpoint.smallEndpoint 0]
        clock := 5
        isAbandoned := false
        nextTicket := 0 }
    let emitted := pipeline.emit 0 .ok none
    let batch : List Event :=
      [{ name := "user", samples := .unique [3], dimensions := [] },
        { name := "host", samples := .unique [7], dimensions := [] }]
    (∀ definition ∈ site.definitions, definition.Unsampled) ∧
      emitted.2 = { events := 2, declined := 1, failed := 1 } ∧
      emitted.1.services.map (·.queue) = [[.sendBatch batch, .flushAfterRequest]] ∧
      emitted.1.emitter.sampler.taken = 1 ∧
      pipeline.emit 1 .ok none = (pipeline, Report.zero) := by
  intro site off pipeline emitted batch
  have unsampled : ∀ definition ∈ site.definitions, definition.Unsampled := by decide
  obtain ⟨live, -⟩ := emit_isolates_definitions pipeline 0 .ok none
  have sent : emitted = _ := live site _ _ rfl rfl rfl rfl unsampled
  have switchedOff : ∀ found, pipeline.emitter.sites[1]? = some found → found.handle = none := by
    intro found here
    obtain rfl := Option.some.inj here
    rfl
  refine ⟨unsampled, ?_, ?_, ?_, (emit_isolates_definitions pipeline 1 .ok none).2 switchedOff⟩
  · rw [sent]
    decide +kernel
  · rw [sent]
    decide +kernel
  · rw [sent]
    decide +kernel

end Pipeline

end MetricPipeline
