import MetricPipeline.Config.MetricName
import MetricPipeline.Host.Log
import MetricPipeline.Host.Trigger
import MetricPipeline.Pipeline

/-!
The host: it loads a configuration, runs a trigger for each line of its input, and stops.

A line that is no trigger is skipped. Everything the host says is a notice; what its services have to
say is read off what they did.
-/

namespace MetricPipeline

/-- What is known about a configuration file: its bytes, or why it cannot be read. -/
abbrev FileContent := Except String (List UInt8)

/-- What is said about bytes that are not UTF-8. -/
def notUtf8 : String := "stream did not contain valid UTF-8"

/-- The configuration of a file. -/
def PipelineConfig.ofFile (content : FileContent) : Except ConfigError PipelineConfig :=
  match content with
  | .error reason => .error (.unreadable reason)
  | .ok bytes =>
    match InputLine.ofBytes bytes with
    | .notUtf8 => .error (.unreadable notUtf8)
    | .readable text =>
      match (Json.parse? text).bind Json.pipelineConfig? with
      | some config => .ok config
      | none => .error (.malformed "this is not a pipeline")

/-! ## Notices of the services -/

/-- What a transport has to say. -/
def Transport.notices (transport : Transport) : List Notice :=
  let say := fun severity text => ({ severity, target := "statshouse::transport", text } : Notice)
  transport.dropped.map (fun dropped => say .warn dropped.message) ++
    transport.attempts.filterMap fun
      | .failed (.connect address reason) =>
        some (say .error (TransportError.connect address reason).message)
      | _ => none

/-- What a service has to say. -/
def Service.notices (service : Service) : List Notice :=
  service.endpoint.transport.notices ++
    service.oversized.map fun count =>
      { severity := .warn
        target := "statshouse::service"
        text := "Total of " ++ toString count ++ " metrics were too big to send" }

/-! ## The host -/

/-- A host that runs. -/
structure Host where
  /-- Sites and services. -/
  pipeline : Pipeline Template
  /-- What all triggers did so far. -/
  total : Report

namespace Host

/-- The templates of the host: any variable can exist, and an unknown one is empty. -/
def interpolator : Interpolator := { known := none, strict := false }

/-- A notice of the host itself. -/
def say (severity : Severity) (text : String) : Notice :=
  { severity, target := "statshouse_emit", text }

/-- What is said when a pipeline cannot be created. -/
def creationNotices (error : CreationError) : List Notice :=
  let complaint := match error with
    | .config (.invalidName name) => MetricName.complaint? name
    | _ => none
  (complaint.map fun text => ({ severity := .warn, target := "statshouse::util", text } : Notice)).toList
    ++ [say .error ("Error creating metric pipeline: " ++ error.message)]

/-- A host with a configuration whose endpoints are resolved in some way, unless its pipeline cannot be
created, and what is said. -/
def createBy (resolve : EndpointConfig.Resolver) (sampler : Sampler) (config : PipelineConfig) :
    List Notice × Option Host :=
  match Pipeline.ofConfigBy resolve interpolator.language sampler config with
  | .error error => (creationNotices error, none)
  | .ok pipeline =>
    ([say .info ("statshouse-emit: " ++ toString config.sites.length ++ " sites, " ++
        toString pipeline.services.length ++ " endpoints")],
      some { pipeline := pipeline.shareToken, total := Report.zero })

/-- A host with a configuration, unless its pipeline cannot be created, and what is said. -/
def create (sampler : Sampler) (config : PipelineConfig) : List Notice × Option Host :=
  createBy EndpointConfig.resolve sampler config

/-- A host that is told the path of its configuration, unless it cannot start, and what is said. -/
def start (sampler : Sampler) (path : Option String) (read : String → FileContent) :
    List Notice × Option Host :=
  let enabled := say .debug "Logging subsystem enabled"
  match path with
  | none =>
    ([enabled, say .error "No configuration given, set STATSHOUSE_CONFIG or pass a path"], none)
  | some path =>
    match PipelineConfig.ofFile (read path) with
    | .error error =>
      let text := "Error loading configuration from " ++ path ++ ": " ++ error.message
      ([enabled, say .error text], none)
    | .ok config =>
      let (notices, host) := create sampler config
      (enabled :: notices, host)

/-- The text of a report. -/
def reportText (report : Report) : String :=
  "EmitReport \x7b events: " ++ toString report.events ++ ", declined: " ++
    toString report.declined ++ ", failed: " ++ toString report.failed ++ " \x7d"

/-- Runs a trigger on one site. -/
def emit (trigger : Trigger) (host : Host) (site : Nat) : Host × Notice :=
  let resolve := interpolator.resolve (Variables.ofJson trigger.bindings)
  let (pipeline, report) := host.pipeline.emit site resolve trigger.phase
  ({ pipeline, total := host.total + report },
    say .debug (Emitter.siteLabel site ++ ": " ++ reportText report))

/-- Runs a trigger on several sites, one after another. -/
def emitAll (trigger : Trigger) : Host → List Nat → Host × List Notice
  | host, [] => (host, [])
  | host, site :: rest =>
    let (emitted, notice) := emit trigger host site
    let (final, notices) := emitAll trigger emitted rest
    (final, notice :: notices)

/-- The sites a trigger concerns: the first one of its name, or all of them; none when there is no site
of that name. -/
def sitesOf? (host : Host) (trigger : Trigger) : Option (List Nat) :=
  match trigger.site with
  | some name => (host.pipeline.emitter.siteNumber? name).map ([·])
  | none => some host.pipeline.emitter.siteNumbers

/-- Runs a trigger. -/
def run (host : Host) (trigger : Trigger) : Host × List Notice :=
  match host.sitesOf? trigger with
  | some sites => emitAll trigger host sites
  | none => (host, [say .warn ("Unknown site " ++ trigger.site.getD "")])

/-- Takes a line of the input, with some way to read triggers, and tells whether the input goes on. -/
def takeLineBy (read : Trigger.Reader) (host : Host) : InputLine → Host × List Notice × Bool
  | .notUtf8 => (host, [say .error ("Error reading stdin: " ++ notUtf8)], false)
  | .readable line =>
    if Text.isAllBlank line then (host, [], true)
    else
      match read line with
      | .error reason => (host, [say .warn ("Skipping malformed trigger: " ++ reason)], true)
      | .ok trigger =>
        let (ran, notices) := host.run trigger
        (ran, notices, true)

/-- Takes a line of the input. -/
def takeLine (host : Host) (line : InputLine) : Host × List Notice × Bool :=
  host.takeLineBy Trigger.read line

/-- Takes lines until one cannot be read. After each of them the services run. -/
def takeLinesBy (read : Trigger.Reader) (network : Network) :
    Host → List InputLine → Host × List Notice
  | host, [] => (host, [])
  | host, line :: rest =>
    let (taken, notices, goesOn) := host.takeLineBy read line
    let settled := { taken with pipeline := taken.pipeline.settle network }
    if goesOn then
      let (final, others) := takeLinesBy read network settled rest
      (final, notices ++ others)
    else (settled, notices)

/-- Takes the lines of an input. -/
def takeLines (network : Network) (host : Host) (lines : List InputLine) : Host × List Notice :=
  takeLinesBy Trigger.read network host lines

/-- Stops: the services are cancelled, and what was done is told. -/
def stopping (host : Host) : Host × List Notice :=
  let notice := say .info ("Emitted " ++ toString host.total.events ++ " events, " ++
    toString host.total.declined ++ " declined, " ++ toString host.total.failed ++ " failed")
  ({ host with pipeline := host.pipeline.cancel 0 }, [notice])

/-- Stops, and the services run once more. -/
def finish (network : Network) (host : Host) : Host × List Notice :=
  let (stopped, notices) := host.stopping
  ({ stopped with pipeline := stopped.pipeline.settle network }, notices)

/-! ## A whole run -/

/-- How the host is called. -/
structure Invocation where
  /-- The log filter, if one is set. -/
  level : Option String
  /-- The path set in the environment. -/
  environmentPath : Option String
  /-- The path passed as an argument. -/
  argumentPath : Option String

/-- The path of the configuration: the environment comes before the arguments. -/
def Invocation.path (invocation : Invocation) : Option String :=
  invocation.environmentPath <|> invocation.argumentPath

/-- The log filter; none when it is malformed. -/
def Invocation.filter? (invocation : Invocation) : Option LogFilter :=
  match invocation.level with
  | some text => LogFilter.parse? text
  | none => some LogFilter.standard

/-- The exit status of a host whose log filter is malformed. -/
def brokenStatus : Nat := 101

/-- What a whole run leaves behind. -/
structure Execution where
  /-- The exit status. -/
  status : Nat
  /-- The notices of the host that are shown, in order. -/
  notices : List Notice
  /-- The notices of the services that are shown. -/
  serviceNotices : List Notice
  /-- The services; none when the host did not start. -/
  services : List Service

/-- The notices of a run over the lines of an input, and the services afterwards. -/
def runAll (network : Network) (sampler : Sampler) (path : Option String)
    (read : String → FileContent) (input : List InputLine) : List Notice × List Service :=
  match start sampler path read with
  | (notices, none) => (notices, [])
  | (notices, some host) =>
    let (taken, lineNotices) := takeLines network host input
    let (finished, last) := finish network taken
    (notices ++ lineNotices ++ last, finished.pipeline.services)

/-- A whole run. -/
def execute (network : Network) (sampler : Sampler) (invocation : Invocation)
    (read : String → FileContent) (input : List UInt8) : Execution :=
  match invocation.filter? with
  | none => { status := brokenStatus, notices := [], serviceNotices := [], services := [] }
  | some filter =>
    let (notices, services) :=
      runAll network sampler invocation.path read (InputLine.ofInput input)
    { status := 0
      notices := notices.filter filter.shows
      serviceNotices := (services.flatMap Service.notices).filter filter.shows
      services }

end Host

end MetricPipeline
