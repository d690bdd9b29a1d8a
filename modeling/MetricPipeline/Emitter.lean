import MetricPipeline.Compile
import MetricPipeline.Config.Loading
import MetricPipeline.Registry
import MetricPipeline.Sampler

/-!
The emitter: sites with their definitions, and what a trigger makes of them.

A trigger evaluates the definitions of a site that its phase concerns, in their order. A definition may
decline or fail without effect on the others. The events go to the service of the site in one batch.
-/

namespace MetricPipeline

/-- Metrics that are evaluated together. A site without a handle is switched off. -/
structure Site (τ : Type) where
  /-- The name of the site. -/
  name : String
  /-- Its definitions. -/
  definitions : List (Definition τ)
  /-- The service it ships to. -/
  handle : Option Handle

/-- What one definition made of a trigger. -/
inductive Verdict where
  /-- Nothing. -/
  | declined
  /-- Its evaluation failed. -/
  | failed (error : CompileError)
  /-- At least one event. -/
  | emitted (events : List Event)
  deriving DecidableEq, Repr

/-- The events of a verdict. -/
def Verdict.events : Verdict → List Event
  | .emitted events => events
  | .declined | .failed _ => []

/-- Whether a definition declined. -/
def Verdict.isDeclined : Verdict → Bool
  | .declined => true
  | _ => false

/-- Whether a definition failed. -/
def Verdict.isFailed : Verdict → Bool
  | .failed _ => true
  | _ => false

/-- What triggers did. -/
structure Report where
  /-- Events handed to services. -/
  events : Nat
  /-- Definitions that gave nothing. -/
  declined : Nat
  /-- Definitions whose evaluation failed. -/
  failed : Nat
  deriving DecidableEq, Repr

namespace Report

/-- The report of no trigger. -/
def zero : Report := { events := 0, declined := 0, failed := 0 }

/-- The report of two parts together. -/
def add (first second : Report) : Report :=
  { events := first.events + second.events
    declined := first.declined + second.declined
    failed := first.failed + second.failed }

instance : Add Report := ⟨add⟩

/-- The report of the definitions of one site. -/
def ofVerdicts (verdicts : List Verdict) : Report :=
  { events := (verdicts.flatMap Verdict.events).length
    declined := verdicts.countP Verdict.isDeclined
    failed := verdicts.countP Verdict.isFailed }

end Report

/-- A command for the service of a number. -/
structure Dispatch where
  /-- The number of the service. -/
  service : Nat
  /-- What it is asked to do. -/
  command : Command
  deriving DecidableEq, Repr

/-- All sites, and the stream of draws they share. -/
structure Emitter (τ : Type) where
  /-- The sites in order. -/
  sites : List (Site τ)
  /-- The draws for sampling. -/
  sampler : Sampler

variable {τ : Type}

/-- Evaluates a definition for a trigger, unless sampling leaves it out. -/
def Definition.trigger (definition : Definition τ) (sampler : Sampler)
    (resolve : Definition.Resolver τ) (max now : Nat) : Sampler × Definition τ × Verdict :=
  let (sampler, isLeftOut) := sampler.leavesOut definition.samplePercent
  if isLeftOut then (sampler, definition, .declined)
  else
    let (definition, result) := definition.compile resolve max now
    match result with
    | .ok [] => (sampler, definition, .declined)
    | .ok events => (sampler, definition, .emitted events)
    | .error error => (sampler, definition, .failed error)

namespace Emitter

/-- An emitter without sites. -/
def empty (sampler : Sampler) : Emitter τ := { sites := [], sampler }

/-- The number of the first site of a name. -/
def siteNumber? (emitter : Emitter τ) (name : String) : Option Nat :=
  emitter.sites.findIdx? (·.name = name)

/-- The numbers of all sites. -/
def siteNumbers (emitter : Emitter τ) : List Nat := List.range emitter.sites.length

/-- How the number of a site is shown. -/
def siteLabel (site : Nat) : String := "site#" ++ toString site

/-- The handle of the service of a site, unless there is no such site or it is off. -/
def handle? (emitter : Emitter τ) (site : Nat) : Option Handle :=
  emitter.sites[site]?.bind Site.handle

/-- Evaluates the definitions that a phase concerns, in order, and keeps the others as they are. -/
def triggerAll (resolve : Definition.Resolver τ) (phase : Option String) (max now : Nat) :
    Sampler → List (Definition τ) → Sampler × List (Definition τ) × List Verdict
  | sampler, [] => (sampler, [], [])
  | sampler, definition :: rest =>
    if definition.matchesPhase phase then
      let (sampler, definition, verdict) := definition.trigger sampler resolve max now
      let (sampler, others, verdicts) := triggerAll resolve phase max now sampler rest
      (sampler, definition :: others, verdict :: verdicts)
    else
      let (sampler, others, verdicts) := triggerAll resolve phase max now sampler rest
      (sampler, definition :: others, verdicts)

/-- The commands that ship events: the batch, unless it is empty, and then the end of the unit of work,
if the endpoint wants to know of it. -/
def dispatchesFor (handle : Handle) (events : List Event) : List Dispatch :=
  (if events = [] then [] else [⟨handle.service, .sendBatch events⟩]) ++
    if handle.flushAfterRequest then [⟨handle.service, .flushAfterRequest⟩] else []

/-- Triggers a site. A site that is off, or none at all, does nothing. -/
def emit (emitter : Emitter τ) (site : Nat) (resolve : Definition.Resolver τ)
    (phase : Option String) (now : Nat) : Emitter τ × Report × List Dispatch :=
  match emitter.sites[site]? with
  | none => (emitter, Report.zero, [])
  | some found =>
    match found.handle with
    | none => (emitter, Report.zero, [])
    | some handle =>
      let (sampler, definitions, verdicts) :=
        triggerAll resolve phase handle.splitsMax now emitter.sampler found.definitions
      ({ sites := emitter.sites.set site { found with definitions }, sampler },
        Report.ofVerdicts verdicts,
        dispatchesFor handle (verdicts.flatMap Verdict.events))

/-- The command that ships a ready-made event of a site, unless there is no such site or it is off. -/
def statDispatch? (emitter : Emitter τ) (site : Nat) (event : Event) : Option Dispatch :=
  (emitter.handle? site).map fun handle => ⟨handle.service, .sendBatch [event]⟩

/-- The commands that stop every service, one for each site that is not off. -/
def shutdownDispatches (emitter : Emitter τ) : List Dispatch :=
  (emitter.sites.filterMap Site.handle).map fun handle => ⟨handle.service, .shutdown⟩

/-! ## Loading -/

/-- The handle for the endpoint of a site, and the registry afterwards. -/
def register (resolve : EndpointConfig.Resolver) (registry : Registry) : Option EndpointConfig →
    Except CreationError (Option Handle × Registry)
  | none => .ok (none, registry)
  | some config => do
    let resolved ← (resolve config).mapError .config
    let (handle, registry) ← registry.getOrCreate resolved
    return (some handle, registry)

/-- The sites of a configuration: for each in turn, first its endpoint and then its metrics. -/
def loadSites (resolve : EndpointConfig.Resolver) (language : TemplateLanguage τ)
    (registry : Registry) : List SiteConfig → Except CreationError (List (Site τ) × Registry)
  | [] => .ok ([], registry)
  | config :: rest => do
    let (handle, registry) ← register resolve registry config.destination?
    let definitions ← (config.metrics.mapM (Definition.ofConfig language)).mapError .config
    let (others, registry) ← loadSites resolve language registry rest
    return ({ name := config.name, definitions, handle } :: others, registry)

/-- The emitter of a configuration whose endpoints are resolved in some way, and the services it ships
to. -/
def ofConfigBy (resolve : EndpointConfig.Resolver) (language : TemplateLanguage τ)
    (sampler : Sampler) (config : PipelineConfig) :
    Except CreationError (Emitter τ × List Service) := do
  let (sites, registry) ← loadSites resolve language Registry.empty config.sites
  return ({ sites, sampler }, registry.takeServices.1)

/-- The emitter of a configuration, and the services it ships to. -/
def ofConfig (language : TemplateLanguage τ) (sampler : Sampler) (config : PipelineConfig) :
    Except CreationError (Emitter τ × List Service) :=
  ofConfigBy EndpointConfig.resolve language sampler config

end Emitter

end MetricPipeline
