import Mathlib.Algebra.GroupWithZero.Nat
import MetricPipeline.Host
import MetricPipeline.Proofs.ServiceEndings
import MetricPipeline.Proofs.SharedEndpoints
import MetricPipeline.Proofs.TriggerIsolation

/-!
Lines that run no trigger leave no trace.

While the host reads its input the clock goes on, and the services run whenever they get to it. What is
queued on them, and the totals, depend on none of this, nor on any line that is blank, is no trigger or
names a site that does not exist. They are what the triggers make of the emitter one after another, each
at the time the clock showed when its line was read. The services only ever take from the front of
their queues, and a host that reads its input never asks one to stop: this is the invariant of a run.
-/

namespace MetricPipeline

namespace Host

/-! ## Reading the input -/

/-- What happens while a host reads its input. -/
inductive Happening where
  /-- A line is read. -/
  | line (text : String)
  /-- The clock comes to show another time. -/
  | clock (time : Nat)
  /-- The services run until they have nothing left to do. -/
  | services (network : Network)

/-- The commands that wait in the queue of a service. -/
def queueAt (services : List Service) (number : Nat) : List Command :=
  (services[number]?.map Service.queue).getD []

/-- A host that reads its input, and the commands its services have taken from their queues. -/
structure Session where
  host : Host
  taken : Nat → List Command

namespace Session

/-- A host that has read nothing yet. -/
def start (host : Host) : Session := { host, taken := fun _ => [] }

/-- Services that run take all that waits for them. -/
def step (read : Trigger.Reader) (session : Session) : Happening → Session
  | .line text => { session with host := (session.host.takeLineBy read (.readable text)).1 }
  | .clock time =>
    { session with
      host := { session.host with pipeline := { session.host.pipeline with clock := time } } }
  | .services network =>
    { host := { session.host with pipeline := session.host.pipeline.settle network }
      taken := fun number => session.taken number ++ queueAt session.host.pipeline.services number }

def run (read : Trigger.Reader) (session : Session) (happenings : List Happening) : Session :=
  happenings.foldl (step read) session

/-- All commands that were ever queued on a service. -/
def queued (session : Session) (number : Nat) : List Command :=
  session.taken number ++ queueAt session.host.pipeline.services number

end Session

/-- The input goes on after any line that can be read. -/
theorem takeLineBy_goesOn (read : Trigger.Reader) (host : Host) (text : String) :
    (host.takeLineBy read (.readable text)).2.2 = true := by
  unfold takeLineBy
  by_cases blank : Text.isAllBlank text = true
  · simp only [if_pos blank]
  · simp only [if_neg blank]
    cases read text <;> rfl

/-- The loop of the host is a session in which the services run after each line. -/
theorem takeLinesBy_eq_run (read : Trigger.Reader) (network : Network) (session : Session)
    (texts : List String) :
    (takeLinesBy read network session.host (texts.map .readable)).1 =
      (session.run read (texts.flatMap fun text => [.line text, .services network])).host := by
  induction texts generalizing session with
  | nil => rfl
  | cons text rest ih =>
    rw [List.map_cons, takeLinesBy]
    simp only [takeLineBy_goesOn, if_true]
    exact ih ((session.step read (.line text)).step read (.services network))

/-- A line, and what the clock shows when it is read. -/
structure Reading where
  text : String
  now : Nat
  deriving DecidableEq

/-- The lines that are read, from a given time on. -/
def readings (now : Nat) : List Happening → List Reading
  | [] => []
  | .line text :: rest => ⟨text, now⟩ :: readings now rest
  | .clock time :: rest => readings time rest
  | .services _ :: rest => readings now rest

/-! ## Triggers -/

/-- Whether a line is blank, is no trigger, or names a site that does not exist. -/
def isJunk (read : Trigger.Reader) (names : List String) (text : String) : Bool :=
  Text.isAllBlank text ||
    match read text with
    | .error _ => true
    | .ok trigger => trigger.site.any (· ∉ names)

/-- A trigger that is run on one site. -/
structure Call where
  trigger : Trigger
  site : Nat
  now : Nat

/-- The sites a trigger runs on: all of them in order, or the first one of its name. -/
def sitesAmong (names : List String) (trigger : Trigger) : List Nat :=
  match trigger.site with
  | none => List.range names.length
  | some name => [names.idxOf name]

/-- The calls of a line. -/
def Reading.calls (read : Trigger.Reader) (names : List String) (reading : Reading) : List Call :=
  if isJunk read names reading.text then []
  else (read reading.text).toOption.toList.flatMap fun trigger =>
    (sitesAmong names trigger).map fun site => ⟨trigger, site, reading.now⟩

/-- What calls have made of an emitter so far. -/
structure Emissions where
  emitter : Emitter Template
  reports : List Report
  dispatches : List Dispatch

namespace Emissions

def none (emitter : Emitter Template) : Emissions := ⟨emitter, [], []⟩

def after (made : Emissions) (call : Call) : Emissions :=
  let resolve := interpolator.resolve (Variables.ofJson call.trigger.bindings)
  let (emitter, report, dispatches) :=
    made.emitter.emit call.site resolve call.trigger.phase call.now
  ⟨emitter, made.reports ++ [report], made.dispatches ++ dispatches⟩

/-- The sums of the reports. -/
def total (made : Emissions) : Report :=
  { events := (made.reports.map (·.events)).sum
    declined := (made.reports.map (·.declined)).sum
    failed := (made.reports.map (·.failed)).sum }

/-- The commands for a service, in order. -/
def commands (made : Emissions) (number : Nat) : List Command :=
  (made.dispatches.filter (·.service = number)).map (·.command)

end Emissions

end Host

/-! ## Emitters -/

namespace Emitter

variable {τ : Type}

/-- What a trigger can do: nothing, or a site gets new definitions and its service gets commands, none
of which asks it to stop. -/
theorem emit_cases (emitter : Emitter τ) (site : Nat) (resolve : Definition.Resolver τ)
    (phase : Option String) (now : Nat) :
    emitter.emit site resolve phase now = (emitter, Report.zero, []) ∨
      ∃ found handle sampler definitions report, ∃ commands : List Command,
        emitter.sites[site]? = some found ∧ found.handle = some handle ∧
        Command.shutdown ∉ commands ∧
        emitter.emit site resolve phase now =
          ({ sites := emitter.sites.set site { found with definitions }, sampler }, report,
            commands.map fun command => ⟨handle.service, command⟩) := by
  unfold emit
  cases here : emitter.sites[site]? with
  | none => exact .inl rfl
  | some found =>
    obtain ⟨name, definitions, handle⟩ := found
    cases handle with
    | none => exact .inl rfl
    | some handle =>
      simp only [dispatchesFor_eq]
      refine .inr ⟨_, handle, _, _, _, _, rfl, rfl, ?_, rfl⟩
      rw [List.mem_append]
      rintro (batch | request)
      · split at batch <;> simp at batch
      · split at request <;> simp at request

theorem names_set {sites : List (Site τ)} {site : Nat} {found : Site τ}
    (here : sites[site]? = some found) (definitions : List (Definition τ)) :
    (sites.set site { found with definitions }).map (·.name) = sites.map (·.name) := by
  obtain ⟨inRange, rfl⟩ := List.getElem?_eq_some_iff.mp here
  have mapped : site < (sites.map (·.name)).length := by rwa [List.length_map]
  rw [List.map_set]
  simpa only [List.getElem_map] using List.set_getElem_self mapped

theorem siteNumber?_eq (emitter : Emitter τ) (name : String) :
    emitter.siteNumber? name = (emitter.sites.map (·.name)).idxOf? name := by
  rw [siteNumber?, List.idxOf?, List.findIdx?_map]
  rfl

end Emitter

/-! ## A run -/

/-- A service that goes on, and is not asked to stop. -/
structure Service.Attends (service : Service) : Prop where
  running : service.isRunning = true
  token : service.isCancelled = false
  queue : Command.shutdown ∉ service.queue

theorem Service.Attends.wake {service : Service} (attends : service.Attends) (network : Network)
    (now : Nat) :
    (service.wake network now false).Attends ∧ (service.wake network now false).queue = [] := by
  obtain ⟨running, token, queue⟩ := attends
  obtain ⟨-, keptToken, keptRunning⟩ := serve_frame network now service service.queue
  rw [wake_eq running]
  simp only [queue, token, Bool.false_eq_true, or_self, if_false]
  exact ⟨⟨keptRunning.trans running, keptToken.trans token, List.not_mem_nil⟩, rfl⟩

namespace Host

/-- A session that follows calls: its emitter is what they made of it, its totals are the sums of their
reports, and their commands were queued on services that all go on. -/
structure Session.Follows (names : List String) (now : Nat) (session : Session)
    (made : Emissions) : Prop where
  clock : session.host.pipeline.clock = now
  emitter : session.host.pipeline.emitter = made.emitter
  names : made.emitter.sites.map (·.name) = names
  inRange : ∀ site ∈ made.emitter.sites, ∀ handle, site.handle = some handle →
    handle.service < session.host.pipeline.services.length
  attends : ∀ service ∈ session.host.pipeline.services, service.Attends
  reachable : session.host.pipeline.isAbandoned = false
  total : session.host.total = made.total
  queued : ∀ number, session.queued number = made.commands number

variable {read : Trigger.Reader} {names : List String} {now : Nat} {session : Session}
  {made : Emissions}

theorem queueAt_of_idle {services : List Service} (idle : ∀ service ∈ services, service.queue = [])
    (number : Nat) : queueAt services number = [] := by
  unfold queueAt
  cases present : services[number]? with
  | none => rfl
  | some service => exact idle service (List.mem_of_getElem? present)

theorem queueAt_set {services : List Service} {number : Nat} {service : Service}
    (found : services[number]? = some service) (commands : List Command) (other : Nat) :
    queueAt (services.set number { service with queue := service.queue ++ commands }) other =
      queueAt services other ++ if number = other then commands else [] := by
  unfold queueAt
  by_cases same : number = other
  · subst same
    obtain ⟨inRange, rfl⟩ := List.getElem?_eq_some_iff.mp found
    simp [inRange]
  · simp [List.getElem?_set_ne same, same]

theorem Emissions.commands_snoc (made : Emissions) (emitter : Emitter Template)
    (reports : List Report) (service : Nat) (commands : List Command) (number : Nat) :
    Emissions.commands
        ⟨emitter, reports, made.dispatches ++ commands.map fun command => ⟨service, command⟩⟩ number =
      made.commands number ++ if service = number then commands else [] := by
  unfold Emissions.commands
  by_cases same : service = number
  · simp [List.filter_map, Function.comp_def, same]
  · simp [List.filter_map, Function.comp_def, same]

theorem Emissions.total_snoc (made : Emissions) (emitter : Emitter Template) (report : Report)
    (dispatches : List Dispatch) :
    Emissions.total ⟨emitter, made.reports ++ [report], dispatches⟩ = made.total + report := by
  show _ = Report.add _ _
  simp [Emissions.total, Report.add]

theorem emit_of_nothing {trigger : Trigger} {host : Host} {site : Nat}
    (nothing : host.pipeline.emitter.emit site
        (interpolator.resolve (Variables.ofJson trigger.bindings)) trigger.phase
        host.pipeline.clock = (host.pipeline.emitter, Report.zero, [])) :
    (emit trigger host site).1 = { host with total := host.total + Report.zero } := by
  simp only [emit, Pipeline.emit, nothing]
  rfl

theorem emit_of_posts {trigger : Trigger} {host : Host} {site number : Nat} {service : Service}
    {emitter : Emitter Template} {report : Report} {commands : List Command}
    (called : host.pipeline.emitter.emit site
        (interpolator.resolve (Variables.ofJson trigger.bindings)) trigger.phase
        host.pipeline.clock = (emitter, report, commands.map fun command => ⟨number, command⟩))
    (present : host.pipeline.services[number]? = some service) (running : service.isRunning = true) :
    (emit trigger host site).1 =
      { pipeline :=
          { host.pipeline with
            emitter
            services := host.pipeline.services.set number
              { service with queue := service.queue ++ commands } }
        total := host.total + report } := by
  simp only [emit, Pipeline.emit, called]
  exact congrArg (Host.mk · _)
    (Pipeline.postAll_of_running { host.pipeline with emitter } present running commands)

/-- A call adds its report, and its commands to the queue of a service that goes on. -/
theorem Session.Follows.emit (follows : session.Follows names now made) (trigger : Trigger)
    (site : Nat) :
    Session.Follows names now { session with host := (emit trigger session.host site).1 }
      (made.after ⟨trigger, site, now⟩) := by
  obtain ⟨clock, emitter, names, inRange, attends, reachable, total, queued⟩ := follows
  have grown : ∀ report, session.host.total + report =
      Emissions.total { made with reports := made.reports ++ [report] } := by
    intro report
    rw [total, made.total_snoc]
  have called := made.emitter.emit_cases site
    (interpolator.resolve (Variables.ofJson trigger.bindings)) trigger.phase now
  rcases called with nothing | ⟨found, handle, sampler, definitions, report, commands, here, ships,
    goesOn, called⟩
  · rw [Emissions.after, nothing]
    rw [← emitter, ← clock] at nothing
    rw [emit_of_nothing nothing]
    simp only [List.append_nil]
    exact ⟨clock, emitter, names, inRange, attends, reachable, grown _, queued⟩
  · have among : handle.service < session.host.pipeline.services.length :=
      inRange found (List.mem_of_getElem? here) handle ships
    have present := List.getElem?_eq_getElem among
    have attending := attends _ (List.getElem_mem among)
    rw [Emissions.after, called]
    rw [← emitter, ← clock] at called
    rw [emit_of_posts called present attending.running]
    refine ⟨clock, by rw [emitter], ?_, ?_, ?_, reachable, grown report, ?_⟩
    · exact (Emitter.names_set here definitions).trans names
    · intro other among
      rw [List.length_set]
      rcases List.mem_or_eq_of_mem_set among with old | rfl
      · exact inRange other old
      · exact inRange found (List.mem_of_getElem? here)
    · intro other among
      rcases List.mem_or_eq_of_mem_set among with old | rfl
      · exact attends other old
      · exact ⟨attending.running, attending.token,
          fun asked => (List.mem_append.mp asked).elim attending.queue goesOn⟩
    · intro number
      rw [made.commands_snoc, ← queued]
      show session.taken number ++ queueAt (session.host.pipeline.services.set _ _) number = _
      rw [queueAt_set present, ← List.append_assoc]
      rfl

theorem Session.Follows.emitAll (follows : session.Follows names now made) (trigger : Trigger)
    (sites : List Nat) :
    Session.Follows names now { session with host := (emitAll trigger session.host sites).1 }
      ((sites.map fun site => ⟨trigger, site, now⟩).foldl Emissions.after made) := by
  induction sites generalizing session made with
  | nil => exact follows
  | cons site rest ih => exact ih (follows.emit trigger site)

theorem sitesOf?_eq {host : Host}
    (configured : host.pipeline.emitter.sites.map (·.name) = names) (trigger : Trigger) :
    host.sitesOf? trigger =
      if trigger.site.any (· ∉ names) then none else some (sitesAmong names trigger) := by
  subst configured
  unfold sitesOf? sitesAmong
  cases trigger.site with
  | none => simp [Emitter.siteNumbers]
  | some name =>
    show Option.map _ (host.pipeline.emitter.siteNumber? name) = _
    rw [Emitter.siteNumber?_eq]
    by_cases known : name ∈ host.pipeline.emitter.sites.map (·.name)
    · simp only [idxOf?_of_mem known, known, Option.any_some, not_true_eq_false, decide_false,
        Bool.false_eq_true, if_false, Option.map_some]
    · simp only [List.idxOf?_eq_none_iff.mpr known, known, Option.any_some, not_false_eq_true,
        decide_true, if_true, Option.map_none]

/-- A line that runs no trigger changes nothing. -/
theorem takeLineBy_of_junk {host : Host}
    (configured : host.pipeline.emitter.sites.map (·.name) = names) {text : String}
    (junk : isJunk read names text = true) :
    (host.takeLineBy read (.readable text)).1 = host := by
  unfold isJunk at junk
  unfold takeLineBy
  by_cases blank : Text.isAllBlank text = true
  · simp only [if_pos blank]
  · simp only [blank, Bool.false_or] at junk
    simp only [if_neg blank]
    cases found : read text with
    | error reason => rfl
    | ok trigger =>
      simp only [found] at junk
      simp only [run, sitesOf?_eq configured, junk, if_true]

theorem takeLineBy_of_trigger {host : Host}
    (configured : host.pipeline.emitter.sites.map (·.name) = names) {text : String}
    (runs : isJunk read names text = false) :
    ∃ trigger, read text = .ok trigger ∧
      (host.takeLineBy read (.readable text)).1 =
        (emitAll trigger host (sitesAmong names trigger)).1 := by
  obtain ⟨blank, runs⟩ := Bool.or_eq_false_iff.mp runs
  cases found : read text with
  | error reason =>
    rw [found] at runs
    cases runs
  | ok trigger =>
    rw [found] at runs
    refine ⟨trigger, rfl, ?_⟩
    simp only [takeLineBy, blank, found, run, sitesOf?_eq configured, runs, Bool.false_eq_true,
      if_false]

theorem Session.Follows.line (follows : session.Follows names now made) (text : String) :
    (session.step read (.line text)).Follows names now
      ((Reading.calls read names ⟨text, now⟩).foldl Emissions.after made) := by
  have configured : session.host.pipeline.emitter.sites.map (·.name) = names :=
    follows.emitter ▸ follows.names
  unfold Reading.calls
  cases junk : isJunk read names text with
  | true =>
    rw [if_pos rfl, step, takeLineBy_of_junk configured junk]
    exact follows
  | false =>
    obtain ⟨trigger, found, taken⟩ := takeLineBy_of_trigger configured junk
    rw [if_neg Bool.false_ne_true, step, taken, found, Except.toOption, Option.toList_some,
      List.flatMap_singleton]
    exact follows.emitAll trigger _

theorem Session.Follows.tick (follows : session.Follows names now made) (time : Nat) :
    (session.step read (.clock time)).Follows names time made :=
  ⟨rfl, follows.emitter, follows.names, follows.inRange, follows.attends, follows.reachable,
    follows.total, follows.queued⟩

theorem Session.Follows.services (follows : session.Follows names now made) (network : Network) :
    (session.step read (.services network)).Follows names now made := by
  obtain ⟨clock, emitter, names, inRange, attends, reachable, total, queued⟩ := follows
  have woken : ∀ service ∈ (session.host.pipeline.settle network).services,
      service.Attends ∧ service.queue = [] := by
    intro service among
    obtain ⟨before, present, rfl⟩ := List.mem_map.mp among
    rw [reachable]
    exact (attends before present).wake network _
  refine ⟨clock, emitter, names, ?_, fun service among => (woken service among).1, reachable, total,
    ?_⟩
  · intro site among handle ships
    show _ < (session.host.pipeline.services.map _).length
    rw [List.length_map]
    exact inRange site among handle ships
  · intro number
    show _ ++ queueAt (session.host.pipeline.settle network).services number = _
    rw [queueAt_of_idle fun service among => (woken service among).2, List.append_nil]
    exact queued number

theorem Session.Follows.run (follows : session.Follows names now made)
    (happenings : List Happening) :
    ∃ later, (session.run read happenings).Follows names later
      (((readings now happenings).flatMap (Reading.calls read names)).foldl Emissions.after
        made) := by
  induction happenings generalizing session now made with
  | nil => exact ⟨now, follows⟩
  | cons happening rest ih =>
    cases happening with
    | line text =>
      rw [readings, List.flatMap_cons, List.foldl_append]
      exact ih (follows.line text)
    | clock time => exact ih (follows.tick time)
    | services network => exact ih (follows.services network)

theorem follows_start {resolve : EndpointConfig.Resolver} {sampler : Sampler} {config : PipelineConfig} {host : Host}
    (created : (createBy resolve sampler config).2 = some host) :
    (Session.start host).Follows (config.sites.map (·.name)) 0 (.none host.pipeline.emitter) := by
  unfold createBy Pipeline.ofConfigBy at created
  cases loaded : Emitter.ofConfigBy resolve interpolator.language sampler config with
  | error error =>
    rw [loaded] at created
    cases created
  | ok both =>
    obtain ⟨emitter, services⟩ := both
    rw [loaded] at created
    obtain rfl := Option.some.inj created
    obtain ⟨-, shares⟩ := Emitter.shares_of_ofConfigBy loaded
    have fresh : ∀ service ∈ services.map fun service => { service with token := 0 },
        service.Attends ∧ service.queue = [] := by
      intro service among
      obtain ⟨before, present, rfl⟩ := List.mem_map.mp among
      obtain ⟨number, here⟩ := List.mem_iff_getElem?.mp present
      rw [(shares.created number before here).1]
      exact ⟨⟨rfl, rfl, List.not_mem_nil⟩, rfl⟩
    refine ⟨rfl, rfl, shares.names, ?_, fun service among => (fresh service among).1, rfl, rfl, ?_⟩
    · intro site among handle ships
      obtain ⟨number, here⟩ := List.mem_iff_getElem?.mp among
      show _ < (services.map _).length
      rw [List.length_map]
      exact shares.inRange (Option.bind_eq_some_iff.mpr ⟨site, here, ships⟩)
    · exact queueAt_of_idle fun service among => (fresh service among).2

theorem calls_of_kept (read : Trigger.Reader) (names : List String) (reads : List Reading) :
    (reads.filter fun reading => !isJunk read names reading.text).flatMap
        (Reading.calls read names) =
      reads.flatMap (Reading.calls read names) := by
  induction reads with
  | nil => rfl
  | cons reading rest ih =>
    cases junk : isJunk read names reading.text with
    | true => simp [Reading.calls, junk, ih]
    | false => simp [junk, ih]

/-- **Junk lines do not disturb the host.** Whatever happens while the host reads its input, what is
queued on its services, its totals and its emitter are those of the lines that run a trigger, each at
the time it was read: to remove the other lines changes nothing, whenever the services run and whatever
the network does. Every trigger is run on the sites it concerns, one after another; the totals are the
sums of the reports, and each service gets the commands of its sites in order. How triggers are read
from lines, and endpoints are resolved, makes no difference. -/
theorem junk_lines_leave_no_trace (read : Trigger.Reader) (resolve : EndpointConfig.Resolver)
    (sampler : Sampler) (config : PipelineConfig) {host : Host}
    (created : (createBy resolve sampler config).2 = some host) (happenings : List Happening) :
    let names := config.sites.map (·.name)
    let ended := (Session.start host).run read happenings
    (∀ others, readings 0 others =
        (readings 0 happenings).filter (fun reading => !isJunk read names reading.text) →
      let short := (Session.start host).run read others
      short.queued = ended.queued ∧ short.host.total = ended.host.total ∧
        short.host.pipeline.emitter = ended.host.pipeline.emitter) ∧
    let calls := (readings 0 happenings).flatMap (Reading.calls read names)
    let made := calls.foldl Emissions.after (.none host.pipeline.emitter)
    ended.queued = made.commands ∧ ended.host.total = made.total ∧
      ended.host.pipeline.emitter = made.emitter := by
  intro names ended
  obtain ⟨_, follows⟩ := (follows_start created).run happenings
  refine ⟨?_, funext follows.queued, follows.total, follows.emitter⟩
  intro others kept short
  obtain ⟨_, alike⟩ := (follows_start created).run others
  rw [kept, calls_of_kept] at alike
  exact ⟨funext fun number => (alike.queued number).trans (follows.queued number).symm,
    alike.total.trans follows.total.symm, alike.emitter.trans follows.emitter.symm⟩

/-- Two sites that share an endpoint, which flushes after each unit of work. -/
def sharingSites : PipelineConfig :=
  let metric (name : String) : MetricConfig :=
    { name, kind := .unique, value := "$n", split := false, keys := [], conditions := []
      timeoutSeconds := 0, samplePercent := 0, phase := none }
  let site (name : String) (metrics : List MetricConfig) : SiteConfig :=
    { name
      endpoint := some (.to
        { EndpointConfig.default with address := "127.0.0.1:13337", flushAfterRequest := true })
      metrics }
  { sites := [site "first" [metric "hits"], site "second" [metric "runs"]] }

theorem noisyInput_leaves_no_trace :
    let ofSecond := "\x7b\"site\": \"second\", \"vars\": \x7b\"n\": 2\x7d\x7d"
    let ofAll := "\x7b\"vars\": \x7b\"n\": 3\x7d\x7d"
    let happenings : List Happening :=
      [.line "  ", .clock 5, .line ofSecond, .services Endpoint.refusingNetwork, .line "nonsense",
        .clock 7, .line "\x7b\"site\": \"nobody\"\x7d", .line ofAll]
    let others : List Happening := [.clock 5, .line ofSecond, .clock 7, .line ofAll]
    let event (name : String) (value : Int64) : Command :=
      .sendBatch [{ name, samples := .unique [value], dimensions := [] }]
    ∃ host, (create (Sampler.ofSeed 1) sharingSites).2 = some host ∧
      let ended := (Session.start host).run Trigger.read happenings
      let short := (Session.start host).run Trigger.read others
      readings 0 others = (readings 0 happenings).filter
          (fun reading => !isJunk Trigger.read (sharingSites.sites.map (·.name)) reading.text) ∧
        short.queued = ended.queued ∧ short.host.total = ended.host.total ∧
        ended.queued 0 = [event "runs" 2, .flushAfterRequest, event "hits" 3, .flushAfterRequest,
          event "runs" 3, .flushAfterRequest] ∧
        ended.host.total = { events := 3, declined := 0, failed := 0 } := by
  intro ofSecond ofAll happenings others event
  refine ⟨_, rfl, ?_⟩
  intro ended short
  have kept : readings 0 others = (readings 0 happenings).filter
      (fun reading => !isJunk Trigger.read (sharingSites.sites.map (·.name)) reading.text) := by
    decide +kernel
  obtain ⟨same, -⟩ :=
    junk_lines_leave_no_trace Trigger.read EndpointConfig.resolve (Sampler.ofSeed 1) sharingSites rfl
      happenings
  obtain ⟨queued, total, -⟩ := same others kept
  exact ⟨kept, queued, total, by decide +kernel, by decide +kernel⟩

end Host

end MetricPipeline
