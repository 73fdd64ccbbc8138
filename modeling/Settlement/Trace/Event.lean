import Settlement.Error
import Settlement.Trace.Record

/-!
# Events

What each activity of the library reports about itself, and how it is shown.  Every activity has its
own type of events, so an activity cannot speak for another one; a run of several activities reports
the events of all of them, each under its own type.
-/

namespace Settlement

/-- What the keeping of a registry reports. -/
inductive RegistryEvent where
  /-- A manifest was read from a file. -/
  | manifestLoaded (path : String) (settlers : Nat)
  /-- A settler with a shared instance was declared without being a singleton, and stays one. -/
  | keepsSingleton (settler : SettlerId)
  /-- A settler with a factory was declared a singleton and lost its factory. -/
  | factoryDropped (settler : SettlerId)
  | declared (settler : SettlerId)
  /-- A settler was registered, but its factory was refused. -/
  | factoryRejected (settler : SettlerId) (singleton : Bool) (cause : DiscoveryError)
deriving DecidableEq

/-- What selectors, producers, acceptors and scopes report. -/
inductive StrategyEvent where
  /-- A value of a settler is made, or its shared instance handed out. -/
  | constructing (settler : SettlerId) (shared : Bool)
  /-- A settler was left out because it is private. -/
  | skippedPrivate (settler : SettlerId) (group : Marker) (selector : String)
  /-- A settler was left out because it has no instances. -/
  | skippedUninstantiable (settler : SettlerId) (group : Marker) (kind : Settler.Kind)
      (production : ProductionMode)
  /-- A scan of a scope is complete. -/
  | selected (colony : ColonyId) (group : Marker) (selector : String) (count : Nat)
  /-- A candidate is about to be constructed. -/
  | constructsCandidate (settler : SettlerId) (singleton : Bool)
  /-- The produce callback is about to be called. -/
  | callsProduce (settler : SettlerId) (bound : Bool)
  /-- The accept callback is about to be called. -/
  | callsAccept (settler : SettlerId) (bound : Bool)
  /-- A value is dropped. -/
  | forgets (settler : SettlerId)
deriving DecidableEq

/-- What the building of a founder reports. -/
inductive CompositionEvent where
  /-- The settlers of a group could not be selected yet. -/
  | selectFailed (group : Marker) (cause : DiscoveryError)
  /-- A settler asks for a production mode that no settler before it has asked for. -/
  | producerOverride (group : Marker) (settler : SettlerId) (mode : ProductionMode)
  /-- A settler asks for an acceptance mode that no settler before it has asked for. -/
  | acceptorOverride (group : Marker) (settler : SettlerId) (mode : AcceptanceMode)
  | built (colony : ColonyId) (groups : Nat)
deriving DecidableEq

/-- What a founder reports. -/
inductive FoundingEvent where
  /-- A run begins. -/
  | opened (colony : ColonyId) (filter : Option Marker)
  /-- A run has ended, well or not. -/
  | closed
  /-- The candidates of a group are known. -/
  | groupStarted (group : Marker) (selector : String) (producer : ProductionMode)
      (acceptor : AcceptanceMode) (candidates : Nat)
  /-- A produced value has been accepted. -/
  | settled (group : Marker) (settler : SettlerId)
  /-- All candidates of a group have been settled. -/
  | groupDone (group : Marker) (count : Nat)
  /-- No group has the wanted name. -/
  | noMatchingGroup
deriving DecidableEq

/-- What an orchestrator reports. -/
inductive OrchestratorEvent where
  | registered (colony : ColonyId) (groups : Nat)
  /-- A colony has no founder. -/
  | noFounder (colony : ColonyId)
  /-- A colony is about to be settled. -/
  | settling (colony : ColonyId) (filter : Option Marker)
  /-- Settling a colony stopped. -/
  | settleFailed (colony : ColonyId) (cause : SettleError)
deriving DecidableEq

namespace RegistryEvent

/-- The record of an event. -/
def records : RegistryEvent → List Trace.Record
  | .manifestLoaded path settlers =>
      [.event "colonist.registry.manifest_loaded" .debug
        [("path", .text path), ("settlers", .count settlers)]]
  | .keepsSingleton settler =>
      [.event "colonist.registry.keeps_singleton" .debug [("settler", .text settler.name)]]
  | .factoryDropped settler =>
      [.event "colonist.registry.factory_dropped" .warn [("settler", .text settler.name)]]
  | .declared settler =>
      [.event "colonist.registry.declare" .debug [("settler", .text settler.name)]]
  | .factoryRejected settler singleton cause =>
      [.event "colonist.registry.factory_rejected" .warn
        [("settler", .text settler.name), ("singleton", .flag singleton),
          ("error", .text cause.message)]]

end RegistryEvent

namespace StrategyEvent

/-- The record of an event. -/
def records : StrategyEvent → List Trace.Record
  | .constructing settler shared =>
      [.event "colonist.registry.construct" .trace
        [("settler", .text settler.name), ("shared", .flag shared)]]
  | .skippedPrivate settler group selector =>
      [.event "colonist.select.skip_private" .warn
        [("settler", .text settler.name), ("group", .text group.name),
          ("selector", .text selector)]]
  | .skippedUninstantiable settler group kind production =>
      [.event "colonist.select.skip_uninstantiable" .debug
        [("settler", .text settler.name), ("group", .text group.name),
          ("kind", .text kind.title), ("production", .text production.word)]]
  | .selected colony group selector count =>
      [.event "colonist.select.done" .debug
        [("colony", .text colony.name), ("group", .text group.name),
          ("selector", .text selector), ("selected", .count count)]]
  | .constructsCandidate settler singleton =>
      [.event "colonist.produce.construct" .trace
        [("settler", .text settler.name), ("singleton", .flag singleton)]]
  | .callsProduce settler bound =>
      [.event "colonist.produce.callback" .trace
        [("settler", .text settler.name), ("bound", .flag bound)]]
  | .callsAccept settler bound =>
      [.event "colonist.accept.callback" .trace
        [("settler", .text settler.name), ("bound", .flag bound)]]
  | .forgets settler =>
      [.event "colonist.accept.forget" .trace [("settler", .text settler.name)]]

end StrategyEvent

namespace CompositionEvent

/-- The record of an event. -/
def records : CompositionEvent → List Trace.Record
  | .selectFailed group cause =>
      [.event "colonist.composition.select_failed" .debug
        [("group", .text group.name), ("error", .text cause.message)]]
  | .producerOverride group settler mode =>
      [.event "colonist.composition.producer_override" .debug
        [("group", .text group.name), ("settler", .text settler.name),
          ("producer", .text mode.word)]]
  | .acceptorOverride group settler mode =>
      [.event "colonist.composition.acceptor_override" .debug
        [("group", .text group.name), ("settler", .text settler.name),
          ("acceptor", .text mode.word)]]
  | .built colony groups =>
      [.event "colonist.composition.built" .debug
        [("colony", .text colony.name), ("groups", .count groups)]]

end CompositionEvent

namespace FoundingEvent

/-- The records of an event: a run is a span that is entered as soon as it is opened. -/
def records : FoundingEvent → List Trace.Record
  | .opened colony filter =>
      [.span "colonist.found" .info
        (("colony", .text colony.name) :: Trace.given "filter" (filter.map (·.name))), .enter]
  | .closed => [.leave]
  | .groupStarted group selector producer acceptor candidates =>
      [.event "colonist.group.start" .debug
        [("group", .text group.name), ("selector", .text selector),
          ("producer", .text producer.word), ("acceptor", .text acceptor.word),
          ("candidates", .count candidates)]]
  | .settled group settler =>
      [.event "colonist.settler.settled" .trace
        [("group", .text group.name), ("settler", .text settler.name)]]
  | .groupDone group count =>
      [.event "colonist.group.done" .debug
        [("group", .text group.name), ("settled", .count count)]]
  | .noMatchingGroup => [.event "colonist.found.no_matching_group" .debug []]

end FoundingEvent

namespace OrchestratorEvent

/-- The record of an event. -/
def records : OrchestratorEvent → List Trace.Record
  | .registered colony groups =>
      [.event "colonist.orch.register" .debug
        [("colony", .text colony.name), ("groups", .count groups)]]
  | .noFounder colony =>
      [.event "colonist.orch.no_founder" .warn [("colony", .text colony.name)]]
  | .settling colony filter =>
      [.event "colonist.orch.settle" .info
        (("colony", .text colony.name) :: Trace.given "filter" (filter.map (·.name)))]
  | .settleFailed colony cause =>
      [.event "colonist.orch.settle_failed" .warn
        (("colony", .text colony.name) :: Trace.given "group" (cause.group?.map (·.name))
          ++ Trace.given "settler" (cause.settler?.map (·.name))
          ++ [("error", .text cause.message)])]

end OrchestratorEvent

end Settlement
