import Mathlib.Data.List.Forall2
import MetricPipeline.Emitter

/-!
Sites share an endpoint exactly when they ask for the same settings.

The sites of a configuration are loaded one after another, and each of them may fail: its endpoint
cannot be resolved or created, or one of its metrics is refused. Whether it fails does not depend on
the sites before it, for a registry only ever holds settings with which an endpoint can be created. So
the first fault of the configuration decides; and when there is none, the registry holds what the sites
have asked for, each setting once and in the order of first use, and every site keeps the number of its
own.
-/

namespace MetricPipeline

variable {τ : Type}

/-! ## Faults -/

/-- Why a computation failed, if it did. -/
def fault? {ε α : Type} : Except ε α → Option ε
  | .ok _ => none
  | .error error => some error

theorem fault?_eq_none_iff {ε α : Type} {computed : Except ε α} :
    fault? computed = none ↔ ∃ value, computed = .ok value := by
  cases computed <;> simp [fault?]

theorem mapM_eq_error {ε α β : Type} {step : α → Except ε β} {items : List α} {error : ε}
    {others : List ε} (first : items.filterMap (fun item => fault? (step item)) = error :: others) :
    items.mapM step = .error error := by
  induction items with
  | nil => cases first
  | cons item rest ih =>
    rw [List.mapM_cons]
    cases here : step item with
    | error cause =>
      rw [List.filterMap_cons, here] at first
      rw [(List.cons.inj first).1]
      rfl
    | ok value =>
      rw [List.filterMap_cons, here] at first
      rw [ih first]
      rfl

theorem mapM_eq_ok {ε α β : Type} {step : α → Except ε β} {items : List α}
    (none : items.filterMap (fun item => fault? (step item)) = []) :
    ∃ values, items.mapM step = .ok values ∧ values.map .ok = items.map step := by
  induction items with
  | nil => exact ⟨[], rfl, rfl⟩
  | cons item rest ih =>
    cases here : step item with
    | error cause =>
      rw [List.filterMap_cons, here] at none
      cases none
    | ok value =>
      rw [List.filterMap_cons, here] at none
      obtain ⟨values, done, same⟩ := ih none
      refine ⟨value :: values, ?_, ?_⟩
      · rw [List.mapM_cons, here, done]
        rfl
      · rw [List.map_cons, List.map_cons, here, same]

theorem idxOf?_of_mem {α : Type} [BEq α] [LawfulBEq α] {list : List α} {item : α}
    (known : item ∈ list) : list.idxOf? item = some (list.idxOf item) := by
  cases found : list.idxOf? item with
  | none => exact absurd known (List.idxOf?_eq_none_iff.mp found)
  | some number => rw [List.idxOf_eq_getD_idxOf?, found, Option.getD_some]

/-- An endpoint can be created with these settings. -/
def ResolvedEndpoint.Creatable (settings : ResolvedEndpoint) : Prop :=
  settings.aggregateSize = 0 ∨ Cache.entryOverhead < settings.aggregateSize

instance : DecidablePred ResolvedEndpoint.Creatable := fun settings =>
  inferInstanceAs (Decidable (settings.aggregateSize = 0 ∨ _))

namespace SiteConfig

/-- The settings a site asks for, if it asks for any and they can be resolved. -/
def settings? (resolve : EndpointConfig.Resolver) (site : SiteConfig) : Option ResolvedEndpoint :=
  site.destination?.bind fun config => (resolve config).toOption

/-- What is wrong with the endpoint of a site. -/
def endpointFault? (resolve : EndpointConfig.Resolver) (site : SiteConfig) :
    Option CreationError :=
  site.destination?.bind fun config =>
    match resolve config with
    | .error error => some (.config error)
    | .ok settings =>
      if settings.Creatable then none else some (.arena settings.aggregateSize)

/-- What is wrong with the metrics of a site, in order. -/
def metricFaults (language : TemplateLanguage τ) (site : SiteConfig) : List CreationError :=
  (site.metrics.filterMap fun metric => fault? (Definition.ofConfig language metric)).map .config

/-- What is wrong with a site: first its endpoint, then its metrics. -/
def faults (resolve : EndpointConfig.Resolver) (language : TemplateLanguage τ)
    (site : SiteConfig) : List CreationError :=
  (site.endpointFault? resolve).toList ++ site.metricFaults language

end SiteConfig

/-! ## Creating endpoints -/

theorem Endpoint.create_of_creatable {settings : ResolvedEndpoint} (fits : settings.Creatable) :
    ∃ endpoint, Endpoint.create settings = .ok endpoint ∧ endpoint.config = settings := by
  unfold Endpoint.create cacheOf
  split
  · exact ⟨_, rfl, rfl⟩
  · rename_i aggregates
    rw [if_neg (Nat.not_le_of_lt (fits.resolve_left aggregates))]
    exact ⟨_, rfl, rfl⟩

theorem Endpoint.create_of_not_creatable {settings : ResolvedEndpoint}
    (small : ¬ settings.Creatable) :
    Endpoint.create settings = .error (.arena settings.aggregateSize) := by
  obtain ⟨aggregates, within⟩ := not_or.mp small
  rw [Endpoint.create, cacheOf, if_neg aggregates, if_pos (Nat.le_of_not_lt within)]
  rfl

theorem Endpoint.creatable_of_create {settings : ResolvedEndpoint} {endpoint : Endpoint}
    (created : Endpoint.create settings = .ok endpoint) : settings.Creatable := by
  by_contra small
  rw [create_of_not_creatable small] at created
  cases created

/-! ## The registry -/

namespace Registry

/-- The registry serves what was asked for so far: each setting once, in the order of first use, with a
service of its own that has not run yet. -/
structure Serves (registry : Registry) (asked : List ResolvedEndpoint) : Prop where
  settings : registry.settings = asked.eraseDups
  services : registry.waiting.map (·.endpoint.config) = registry.settings
  created : ∀ number service, registry.waiting[number]? = some service →
    service = Service.new service.endpoint number ∧
      Endpoint.create service.endpoint.config = .ok service.endpoint

variable {registry : Registry} {asked : List ResolvedEndpoint} {settings : ResolvedEndpoint}

theorem serves_empty : empty.Serves [] := by
  refine ⟨rfl, rfl, fun number service here => ?_⟩
  simp [empty] at here

theorem Serves.creatable (serves : registry.Serves asked) (known : settings ∈ registry.settings) :
    settings.Creatable := by
  rw [← serves.services] at known
  obtain ⟨service, among, rfl⟩ := List.mem_map.mp known
  obtain ⟨number, here⟩ := List.mem_iff_getElem?.mp among
  exact Endpoint.creatable_of_create (serves.created number service here).2

/-- The handle that goes with settings in a list. -/
def handleIn (settings : List ResolvedEndpoint) (config : ResolvedEndpoint) : Handle :=
  handleOf (settings.idxOf config) config

theorem Serves.again (serves : registry.Serves asked) (old : settings ∈ asked) :
    registry.Serves (asked ++ [settings]) := by
  refine ⟨?_, serves.services, serves.created⟩
  rw [serves.settings, List.eraseDups_append]
  simp [List.removeAll, old]

/-- New settings get the next number and a service of their own. -/
theorem Serves.add {endpoint : Endpoint} (serves : registry.Serves asked) (new : settings ∉ asked)
    (created : Endpoint.create settings = .ok endpoint) (config : endpoint.config = settings) :
    Serves
      { settings := registry.settings ++ [settings]
        waiting := registry.waiting ++ [Service.new endpoint registry.length] }
      (asked ++ [settings]) := by
  constructor
  case settings =>
    show registry.settings ++ [settings] = _
    rw [serves.settings, List.eraseDups_append]
    simp [List.removeAll, new, List.eraseDups_cons]
  case services =>
    show (registry.waiting ++ [_]).map _ = registry.settings ++ [settings]
    rw [List.map_append, serves.services]
    show registry.settings ++ [endpoint.config] = _
    rw [config]
  case created =>
    intro number service here
    have count : registry.waiting.length = registry.length := by
      rw [length, ← serves.services, List.length_map]
    rw [List.getElem?_append] at here
    split at here
    · exact serves.created number service here
    · rename_i past
      cases gap : number - registry.waiting.length with
      | succ beyond => rw [gap] at here; cases here
      | zero =>
        rw [gap] at here
        obtain rfl := Option.some.inj here
        have last : number = registry.length := by omega
        rw [last]
        exact ⟨rfl, config.symm ▸ created⟩

theorem getOrCreate_of_creatable (serves : registry.Serves asked) (fits : settings.Creatable) :
    ∃ after, registry.getOrCreate settings = .ok (handleIn after.settings settings, after) ∧
      after.Serves (asked ++ [settings]) := by
  by_cases known : settings ∈ registry.settings
  · have old : settings ∈ asked := List.mem_eraseDups.mp (serves.settings ▸ known)
    refine ⟨registry, ?_, serves.again old⟩
    rw [getOrCreate, idxOf?_of_mem known]
    rfl
  · have new : settings ∉ asked := fun old => known (serves.settings ▸ List.mem_eraseDups.mpr old)
    obtain ⟨endpoint, created, config⟩ := Endpoint.create_of_creatable fits
    refine ⟨_, ?_, serves.add new created config⟩
    rw [getOrCreate, List.idxOf?_eq_none_iff.mpr known, created, handleIn]
    show Except.ok _ = _
    rw [List.idxOf_append_of_notMem known, List.idxOf_cons_self, Nat.add_zero, length]

theorem getOrCreate_of_not_creatable (serves : registry.Serves asked)
    (small : ¬ settings.Creatable) :
    registry.getOrCreate settings = .error (.arena settings.aggregateSize) := by
  have unknown : settings ∉ registry.settings := fun known => small (serves.creatable known)
  rw [getOrCreate, List.idxOf?_eq_none_iff.mpr unknown, Endpoint.create_of_not_creatable small]
  rfl

/-- The number of settings does not change when more is asked for. -/
theorem Serves.handleIn_eq {later : Registry} {more : List ResolvedEndpoint}
    (serves : registry.Serves asked) (after : later.Serves (asked ++ more))
    (known : settings ∈ asked) :
    handleIn registry.settings settings = handleIn later.settings settings := by
  rw [handleIn, handleIn, serves.settings, after.settings, List.eraseDups_append,
    List.idxOf_append_of_mem (List.mem_eraseDups.mpr known)]

end Registry

/-! ## Loading sites -/

namespace Emitter

open Registry SiteConfig

variable {resolve : EndpointConfig.Resolver} {language : TemplateLanguage τ} {registry : Registry}
  {asked : List ResolvedEndpoint} {site : SiteConfig} {error : CreationError}

theorem register_eq_error (serves : registry.Serves asked)
    (fault : site.endpointFault? resolve = some error) :
    register resolve registry site.destination? = .error error := by
  rw [endpointFault?] at fault
  obtain ⟨config, ships, fault⟩ := Option.bind_eq_some_iff.mp fault
  rw [ships, register]
  cases resolved : resolve config with
  | error cause =>
    rw [resolved] at fault
    cases fault
    rfl
  | ok settings =>
    rw [resolved] at fault
    by_cases fits : settings.Creatable
    · simp only [if_pos fits] at fault
      cases fault
    · simp only [if_neg fits] at fault
      cases fault
      show (registry.getOrCreate settings >>= _) = _
      rw [getOrCreate_of_not_creatable serves fits]
      rfl

theorem register_eq_ok (serves : registry.Serves asked)
    (sound : site.endpointFault? resolve = none) :
    ∃ after, register resolve registry site.destination? =
        .ok ((site.settings? resolve).map (handleIn after.settings), after) ∧
      after.Serves (asked ++ (site.settings? resolve).toList) := by
  rw [endpointFault?] at sound
  rw [settings?]
  cases ships : site.destination? with
  | none =>
    refine ⟨registry, rfl, ?_⟩
    show registry.Serves (asked ++ [])
    rwa [List.append_nil]
  | some config =>
    rw [ships, Option.bind_some] at sound
    rw [register, Option.bind_some]
    cases resolved : resolve config with
    | error cause =>
      rw [resolved] at sound
      cases sound
    | ok settings =>
      rw [resolved] at sound
      have fits : settings.Creatable := by
        by_contra small
        simp only [if_neg small] at sound
        cases sound
      obtain ⟨after, got, serves⟩ := getOrCreate_of_creatable serves fits
      refine ⟨after, ?_, serves⟩
      show (registry.getOrCreate settings >>= _) = _
      rw [got]
      rfl

/-- What loading makes of a site when the registry ends up with these settings: the name stays, each
metric gives its definition, and the handle is that of the settings the site asked for. -/
structure Loads (resolve : EndpointConfig.Resolver) (language : TemplateLanguage τ)
    (settings : List ResolvedEndpoint) (config : SiteConfig) (site : Site τ) : Prop where
  name : site.name = config.name
  definitions : site.definitions.map .ok = config.metrics.map (Definition.ofConfig language)
  handle : site.handle = (config.settings? resolve).map (handleIn settings)

theorem definitions_eq_error {others : List CreationError}
    (first : site.metricFaults language = error :: others) :
    (site.metrics.mapM (Definition.ofConfig language)).mapError CreationError.config =
      .error error := by
  obtain ⟨fault, rest, faults, rfl, -⟩ := List.map_eq_cons_iff.mp first
  rw [mapM_eq_error faults]
  rfl

theorem definitions_eq_ok (none : site.metricFaults language = []) :
    ∃ definitions, (site.metrics.mapM (Definition.ofConfig language)).mapError
        CreationError.config = .ok definitions ∧
      definitions.map .ok = site.metrics.map (Definition.ofConfig language) := by
  obtain ⟨definitions, defined, same⟩ := mapM_eq_ok (List.map_eq_nil_iff.mp none)
  refine ⟨definitions, ?_, same⟩
  rw [defined]
  rfl

theorem loadSites_eq_error {sites : List SiteConfig} {others : List CreationError}
    (serves : registry.Serves asked)
    (first : sites.flatMap (faults resolve language) = error :: others) :
    loadSites resolve language registry sites = .error error := by
  induction sites generalizing registry asked with
  | nil => cases first
  | cons site rest ih =>
    rw [List.flatMap_cons, faults] at first
    rw [loadSites]
    cases endpoint : site.endpointFault? resolve with
    | some fault =>
      rw [endpoint] at first
      obtain ⟨rfl, -⟩ := List.cons.inj first
      rw [register_eq_error serves endpoint]
      rfl
    | none =>
      rw [endpoint, Option.toList_none, List.nil_append] at first
      obtain ⟨after, registered, serves⟩ := register_eq_ok serves endpoint
      rw [registered]
      show (Except.mapError _ _ >>= _) = _
      cases metrics : site.metricFaults language with
      | cons fault faults =>
        rw [metrics] at first
        obtain ⟨rfl, -⟩ := List.cons.inj first
        rw [definitions_eq_error metrics]
        rfl
      | nil =>
        rw [metrics] at first
        obtain ⟨definitions, defined, -⟩ := definitions_eq_ok metrics
        rw [defined]
        show (loadSites resolve language after rest >>= _) = _
        rw [ih serves first]
        rfl

theorem loadSites_eq_ok {sites : List SiteConfig} (serves : registry.Serves asked)
    (sound : sites.flatMap (faults resolve language) = []) :
    ∃ loaded after, loadSites resolve language registry sites = .ok (loaded, after) ∧
      after.Serves (asked ++ sites.filterMap (settings? resolve)) ∧
      List.Forall₂ (Loads resolve language after.settings) sites loaded := by
  induction sites generalizing registry asked with
  | nil => exact ⟨[], registry, rfl, by rwa [List.filterMap_nil, List.append_nil], .nil⟩
  | cons site rest ih =>
    obtain ⟨here, others⟩ := List.append_eq_nil_iff.mp sound
    obtain ⟨endpoint, metrics⟩ := List.append_eq_nil_iff.mp here
    obtain ⟨between, registered, reached⟩ := register_eq_ok serves (Option.toList_eq_nil_iff.mp endpoint)
    obtain ⟨definitions, defined, same⟩ := definitions_eq_ok metrics
    obtain ⟨loaded, after, done, serves, each⟩ := ih reached others
    have joined : asked ++ (site.settings? resolve).toList ++ rest.filterMap (settings? resolve) =
        asked ++ (site :: rest).filterMap (settings? resolve) := by
      rw [List.filterMap_eq_flatMap_toList, List.filterMap_eq_flatMap_toList, List.flatMap_cons,
        List.append_assoc]
    refine ⟨⟨site.name, definitions, (site.settings? resolve).map (handleIn between.settings)⟩ :: loaded,
      after, ?_, joined ▸ serves, .cons ⟨rfl, same, ?_⟩ each⟩
    · rw [loadSites, registered]
      show (Except.mapError _ _ >>= _) = _
      rw [defined]
      show (loadSites resolve language between rest >>= _) = _
      rw [done]
      rfl
    · refine Option.map_congr fun settings asks => reached.handleIn_eq serves ?_
      exact List.mem_append_right _ (Option.mem_toList.mpr asks)

theorem handle?_of_loads {settings : List ResolvedEndpoint} {configs : List SiteConfig}
    {sites : List (Site τ)} (each : List.Forall₂ (Loads resolve language settings) configs sites)
    (number : Nat) :
    sites[number]?.bind Site.handle =
      (configs[number]?.bind (settings? resolve)).map (handleIn settings) := by
  induction each generalizing number with
  | nil => rfl
  | cons here _ ih =>
    cases number with
    | zero => exact here.handle
    | succ number => exact ih number

theorem names_of_loads {settings : List ResolvedEndpoint} {configs : List SiteConfig}
    {sites : List (Site τ)} (each : List.Forall₂ (Loads resolve language settings) configs sites) :
    sites.map (·.name) = configs.map (·.name) := by
  induction each with
  | nil => rfl
  | cons here _ ih => rw [List.map_cons, List.map_cons, here.name, ih]

/-- The sites and the services of a configuration go together. -/
structure Shares (resolve : EndpointConfig.Resolver) (language : TemplateLanguage τ)
    (config : PipelineConfig) (emitter : Emitter τ) (services : List Service) : Prop where
  /-- The services are one for each setting that is asked for, in the order of first use. -/
  distinct : services.map (·.endpoint.config) =
    (config.sites.filterMap (settings? resolve)).eraseDups
  /-- Each service is a new one with an endpoint that is created from its settings. -/
  created : ∀ number service, services[number]? = some service →
    service = Service.new service.endpoint number ∧
      Endpoint.create service.endpoint.config = .ok service.endpoint
  /-- The sites keep their order, and each keeps its name, its definitions and its settings. -/
  sites : List.Forall₂ (Loads resolve language (services.map (·.endpoint.config)))
    config.sites emitter.sites
  /-- A site ships to the service with exactly the settings it asks for, and to none if it is off. -/
  leads : ∀ number,
    ((emitter.handle? number).bind fun handle => services[handle.service]?.map (·.endpoint.config)) =
      config.sites[number]?.bind (settings? resolve)
  /-- Two sites that are not off share a service exactly when they ask for the same settings. -/
  shared : ∀ first second one other,
    emitter.handle? first = some one → emitter.handle? second = some other →
      (one.service = other.service ↔
        config.sites[first]?.bind (settings? resolve) = config.sites[second]?.bind (settings? resolve))

namespace Shares

variable {config : PipelineConfig} {emitter : Emitter τ} {services : List Service}

theorem names (shares : Shares resolve language config emitter services) :
    emitter.sites.map (·.name) = config.sites.map (·.name) :=
  names_of_loads shares.sites

theorem inRange (shares : Shares resolve language config emitter services) {number : Nat}
    {handle : Handle} (ships : emitter.handle? number = some handle) :
    handle.service < services.length := by
  have leads := shares.leads number
  have asks := ships
  rw [handle?, handle?_of_loads shares.sites] at asks
  obtain ⟨settings, asks, -⟩ := Option.map_eq_some_iff.mp asks
  rw [ships, asks] at leads
  obtain ⟨service, here, -⟩ := Option.map_eq_some_iff.mp leads
  exact (List.getElem?_eq_some_iff.mp here).1

end Shares

theorem shares_of_loads {config : PipelineConfig} {emitter : Emitter τ}
    (serves : registry.Serves (config.sites.filterMap (settings? resolve)))
    (each : List.Forall₂ (Loads resolve language registry.settings) config.sites emitter.sites) :
    Shares resolve language config emitter registry.waiting := by
  -- whoever asks for settings has them among those of the registry
  have known : ∀ {number : Nat} {settings}, config.sites[number]?.bind (settings? resolve) = some settings →
      settings ∈ registry.settings := by
    intro number settings asks
    obtain ⟨site, here, asks⟩ := Option.bind_eq_some_iff.mp asks
    rw [serves.settings, List.mem_eraseDups]
    exact List.mem_filterMap.mpr ⟨site, List.mem_of_getElem? here, asks⟩
  refine
    { distinct := serves.services.trans serves.settings
      created := serves.created
      sites := serves.services.symm ▸ each
      leads := fun number => ?_
      shared := fun first second one other ships also => ?_ }
  · rw [handle?, handle?_of_loads each]
    cases asks : config.sites[number]?.bind (settings? resolve) with
    | none => rfl
    | some settings =>
      show registry.waiting[registry.settings.idxOf settings]?.map _ = some settings
      rw [← List.getElem?_map, serves.services, List.getElem?_idxOf (known asks)]
  · rw [handle?, handle?_of_loads each] at ships also
    obtain ⟨settings, asks, rfl⟩ := Option.map_eq_some_iff.mp ships
    obtain ⟨others, asksToo, rfl⟩ := Option.map_eq_some_iff.mp also
    rw [asks, asksToo, Option.some_inj]
    exact List.idxOf_inj (known asks)

end Emitter

/-- Nothing is wrong with a site: its endpoint, unless it is off, resolves to settings with which an
endpoint can be created, and each of its metrics is accepted. -/
def SiteConfig.Sound (resolve : EndpointConfig.Resolver) (language : TemplateLanguage τ)
    (site : SiteConfig) : Prop :=
  (∀ endpoint, site.destination? = some endpoint →
    ∃ settings, resolve endpoint = .ok settings ∧ settings.Creatable) ∧
  ∀ metric ∈ site.metrics, ∃ definition, Definition.ofConfig language metric = .ok definition

theorem SiteConfig.endpointFault?_eq_none_iff {resolve : EndpointConfig.Resolver}
    {site : SiteConfig} :
    site.endpointFault? resolve = none ↔ ∀ endpoint, site.destination? = some endpoint →
      ∃ settings, resolve endpoint = .ok settings ∧ settings.Creatable := by
  rw [endpointFault?, Option.bind_eq_none_iff]
  refine forall₂_congr fun endpoint _ => ?_
  cases resolve endpoint with
  | error cause => simp
  | ok settings => simp

theorem SiteConfig.faults_eq_nil_iff {resolve : EndpointConfig.Resolver}
    {language : TemplateLanguage τ} {site : SiteConfig} :
    site.faults resolve language = [] ↔ site.Sound resolve language := by
  rw [faults, List.append_eq_nil_iff, Option.toList_eq_nil_iff, endpointFault?_eq_none_iff,
    metricFaults, List.map_eq_nil_iff, List.filterMap_eq_nil_iff, Sound]
  simp only [fault?_eq_none_iff]

namespace Emitter

open SiteConfig

variable {resolve : EndpointConfig.Resolver} {language : TemplateLanguage τ}
  {config : PipelineConfig}

theorem ofConfigBy_of_faulty {first : CreationError} {others : List CreationError}
    (faulty : config.sites.flatMap (faults resolve language) = first :: others)
    (sampler : Sampler) : ofConfigBy resolve language sampler config = .error first := by
  rw [ofConfigBy, loadSites_eq_error Registry.serves_empty faulty]
  rfl

theorem ofConfigBy_of_faultless (faultless : config.sites.flatMap (faults resolve language) = [])
    (sampler : Sampler) : ∃ emitter services,
      ofConfigBy resolve language sampler config = .ok (emitter, services) ∧
        emitter.sampler = sampler ∧ Shares resolve language config emitter services := by
  obtain ⟨sites, registry, loaded, serves, each⟩ := loadSites_eq_ok Registry.serves_empty faultless
  refine ⟨{ sites, sampler }, registry.waiting, ?_, rfl, shares_of_loads serves each⟩
  rw [ofConfigBy, loaded]
  rfl

theorem shares_of_ofConfigBy {sampler : Sampler} {emitter : Emitter τ} {services : List Service}
    (loaded : ofConfigBy resolve language sampler config = .ok (emitter, services)) :
    emitter.sampler = sampler ∧ Shares resolve language config emitter services := by
  cases faulty : config.sites.flatMap (faults resolve language) with
  | nil =>
    obtain ⟨_, _, same, shares⟩ := ofConfigBy_of_faultless faulty sampler
    cases loaded.symm.trans same
    exact shares
  | cons first others => cases (ofConfigBy_of_faulty faulty sampler).symm.trans loaded

/-- **Sites share endpoints exactly.** A configuration is loaded if and only if nothing is wrong with
any of its sites; otherwise the first fault, in the order of the sites and with the endpoint of a site
before its metrics, is the error. A loaded configuration has one service for each setting that is asked
for, and its sites share a service exactly when they ask for the same settings. -/
theorem ofConfigBy_shares (resolve : EndpointConfig.Resolver) (language : TemplateLanguage τ)
    (sampler : Sampler) (config : PipelineConfig) :
    ((∃ loaded, ofConfigBy resolve language sampler config = .ok loaded) ↔
      ∀ site ∈ config.sites, site.Sound resolve language) ∧
    (∀ error, ofConfigBy resolve language sampler config = .error error ↔
      (config.sites.flatMap (faults resolve language)).head? = some error) ∧
    ∀ emitter services, ofConfigBy resolve language sampler config = .ok (emitter, services) →
      emitter.sampler = sampler ∧ Shares resolve language config emitter services := by
  have sound : (∀ site ∈ config.sites, site.Sound resolve language) ↔
      config.sites.flatMap (faults resolve language) = [] := by
    rw [List.flatMap_eq_nil_iff]
    exact forall₂_congr fun _ _ => faults_eq_nil_iff.symm
  rw [sound]
  refine and_assoc.mp ⟨?_, fun _ _ => shares_of_ofConfigBy⟩
  cases faulty : config.sites.flatMap (faults resolve language) with
  | nil =>
    obtain ⟨emitter, services, result, -⟩ := ofConfigBy_of_faultless faulty sampler
    rw [result]
    exact ⟨iff_of_true ⟨_, rfl⟩ rfl, fun error => iff_of_false nofun nofun⟩
  | cons first others =>
    rw [ofConfigBy_of_faulty faulty]
    refine ⟨iff_of_false nofun nofun, fun error => ?_⟩
    rw [List.head?_cons, Except.error.injEq, Option.some_inj]

/-- Sites that ask for one endpoint in two spellings, for none at all, and for one with a smaller
buffer. -/
def spelledTwice : PipelineConfig :=
  let metric : MetricConfig :=
    { name := " hits ", kind := .counter, value := "$n", split := false, keys := [],
      conditions := [], timeoutSeconds := 0, samplePercent := 0, phase := none }
  let site (name : String) (endpoint : SiteEndpoint) : SiteConfig :=
    { name, endpoint := some endpoint, metrics := [metric] }
  let usual : EndpointConfig := { EndpointConfig.default with address := "127.0.0.1:13337" }
  { sites :=
      [ site "first" (.to usual),
        site "off" .off,
        site "second" (.to { usual with address := " 127.0.0.1:13337 " }),
        site "small" (.to { usual with bufferSize := 512 }) ] }

theorem spelledTwice_shares :
    let interpolator : Interpolator := { known := none, strict := false }
    ∃ emitter services,
      ofConfig interpolator.language (Sampler.ofSeed 1) spelledTwice = .ok (emitter, services) ∧
      services.map (·.endpoint.config.bufferSize) = [4096, 512] ∧
      (List.range 4).map (fun number => (emitter.handle? number).map (·.service)) =
        [some 0, none, some 0, some 1] ∧
      emitter.sites.map (fun site => site.definitions.map (·.name)) =
        [["hits"], ["hits"], ["hits"], ["hits"]] ∧
      Shares EndpointConfig.resolve interpolator.language spelledTwice emitter services := by
  intro interpolator
  have seen : ((ofConfig interpolator.language (Sampler.ofSeed 1) spelledTwice).toOption.map
      fun (emitter, services) =>
        (services.map (·.endpoint.config.bufferSize),
          (List.range 4).map fun number => (emitter.handle? number).map (·.service),
          emitter.sites.map fun site => site.definitions.map (·.name))) =
      some ([4096, 512], [some 0, none, some 0, some 1],
        [["hits"], ["hits"], ["hits"], ["hits"]]) := by
    decide +kernel
  cases loaded : ofConfig interpolator.language (Sampler.ofSeed 1) spelledTwice with
  | error error =>
    rw [loaded] at seen
    cases seen
  | ok both =>
    obtain ⟨emitter, services⟩ := both
    simp only [loaded, Except.toOption, Option.map_some, Option.some.injEq, Prod.mk.injEq] at seen
    obtain ⟨sizes, numbers, names⟩ := seen
    exact ⟨emitter, services, rfl, sizes, numbers, names, ((ofConfigBy_shares EndpointConfig.resolve
      interpolator.language (Sampler.ofSeed 1) spelledTwice).2.2 _ _ loaded).2⟩

end Emitter

end MetricPipeline
