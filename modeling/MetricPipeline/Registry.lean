import MetricPipeline.Service

/-!
The registry of endpoints: one service for each resolved setting, in the order of first use.
-/

namespace MetricPipeline

/-- What a site needs to know about a service in order to send it commands. -/
structure Handle where
  /-- The number of the service. -/
  service : Nat
  /-- The number of events one metric may give at most. -/
  splitsMax : Nat
  /-- Whether the endpoint flushes at the end of a unit of work. -/
  flushAfterRequest : Bool
  deriving DecidableEq, Repr

/-- The settings that have a service. -/
structure Registry where
  /-- The settings in the order of their first use; the position is the number of the service. -/
  settings : List ResolvedEndpoint
  /-- The services that have not been taken yet. -/
  waiting : List Service
  deriving DecidableEq, Repr

namespace Registry

/-- A registry without settings. -/
def empty : Registry := { settings := [], waiting := [] }

/-- How many settings there are. -/
def length (registry : Registry) : Nat := registry.settings.length

/-- The handle of a service with given settings. -/
def handleOf (number : Nat) (config : ResolvedEndpoint) : Handle :=
  { service := number
    splitsMax := config.splitsMax
    flushAfterRequest := config.flushAfterRequest }

/-- The handle for settings. Their first use creates the service. -/
def getOrCreate (registry : Registry) (config : ResolvedEndpoint) :
    Except CreationError (Handle × Registry) :=
  match registry.settings.idxOf? config with
  | some number => .ok (handleOf number config, registry)
  | none => do
    let endpoint ← Endpoint.create config
    let number := registry.length
    return (handleOf number config,
      { settings := registry.settings ++ [config]
        waiting := registry.waiting ++ [Service.new endpoint number] })

/-- The services created since they were last taken. -/
def takeServices (registry : Registry) : List Service × Registry :=
  (registry.waiting, { registry with waiting := [] })

end Registry

end MetricPipeline
