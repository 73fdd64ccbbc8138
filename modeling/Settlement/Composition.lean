import Settlement.Founder
import Settlement.Selector.Rule

/-!
# Compositions

A composition gathers what a colony type declares: groups given as strategies, groups given as data,
the scope that the latter select from, and the colony's callbacks.  Building it resolves the
declared groups and checks that everything fits together: every group has a name of its own, every
callback that is needed is there, and every callback that is there is needed.

A settler may insist on a mode that is not its group's.  So each declared group is selected once
while building, and gets an alternative strategy for each such mode.  A selection that fails then is
no failure of the building; settling the group will report it.
-/

namespace Settlement

/-- A group of a composition. -/
inductive Composition.Entry (χ ω ν : Type) where
  /-- Given as strategies. -/
  | explicit (group : Group χ ω StrategyEvent ν)
  /-- Given as data. -/
  | declared (group : GroupDeclaration)

/-- The name of a group. -/
def Composition.Entry.marker {χ ω ν : Type} : Composition.Entry χ ω ν → Marker
  | .explicit group => group.marker
  | .declared group => group.marker

/-- What a colony type declares. -/
structure Composition (χ ω ν : Type) where
  colony : ColonyId
  scope : Option (Scope ω ν) := none
  entries : List (Composition.Entry χ ω ν) := []
  produceCallbacks : List (Marker × ProduceCallback χ ω StrategyEvent ν) := []
  acceptCallbacks : List (Marker × AcceptCallback χ ω StrategyEvent ν) := []

namespace Composition

variable {χ ω ν α : Type}

/-- A step of the building. -/
abbrev Building (ω α : Type) :=
  Action ω (CompositionEvent ⊕ StrategyEvent) CompositionError α

/-! ## Declaring -/

/-- The composition of a blueprint; a colony without a name goes by the name of its type. -/
def ofBlueprint (typeName : ColonyId) (b : Blueprint) : Composition χ ω ν :=
  { colony := b.colony.getD typeName, entries := b.groups.map .declared }

/-- The scope that declared groups select from and construct with. -/
def withScope (c : Composition χ ω ν) (scope : Scope ω ν) : Composition χ ω ν :=
  { c with scope := some scope }

/-- Registers a produce callback for a group. -/
def onProduce (c : Composition χ ω ν) (group : Marker)
    (call : ProduceCallback χ ω StrategyEvent ν) : Composition χ ω ν :=
  { c with produceCallbacks := c.produceCallbacks ++ [(group, call)] }

/-- Registers an accept callback for a group. -/
def onAccept (c : Composition χ ω ν) (group : Marker)
    (call : AcceptCallback χ ω StrategyEvent ν) : Composition χ ω ν :=
  { c with acceptCallbacks := c.acceptCallbacks ++ [(group, call)] }

/-- One more group, given as strategies. -/
def withGroup (c : Composition χ ω ν) (g : Group χ ω StrategyEvent ν) : Composition χ ω ν :=
  { c with entries := c.entries ++ [.explicit g] }

/-- One more group, given as data. -/
def withDeclaration (c : Composition χ ω ν) (g : GroupDeclaration) : Composition χ ω ν :=
  { c with entries := c.entries ++ [.declared g] }

/-! ## Resolving declared groups -/

/-- The callback that is registered for a group. -/
def callbackFor (callbacks : List (Marker × α)) (group : Marker) : Option α :=
  (callbacks.find? fun entry => entry.1 == group).map (·.2)

/-- The producer of a mode for a group. -/
def producer (c : Composition χ ω ν) (scope : Scope ω ν) (group : Marker) :
    ProductionMode → Except CompositionError (Producer χ ω StrategyEvent ν)
  | .construct => .ok (.construct scope)
  | .callback =>
      match callbackFor c.produceCallbacks group with
      | some call => .ok (.callback call)
      | none => .error (.missingCallback c.colony group .produce)
  | .identity => .ok .identity

/-- The acceptor of a mode for a group. -/
def acceptor (c : Composition χ ω ν) (group : Marker) :
    AcceptanceMode → Except CompositionError (Acceptor χ ω StrategyEvent ν)
  | .callback =>
      match callbackFor c.acceptCallbacks group with
      | some call => .ok (.callback call)
      | none => .error (.missingCallback c.colony group .accept)
  | .forget => .ok .forget

/-- A mode that a settler asks for in place of its group's. -/
inductive Override where
  | producer (settler : SettlerId) (mode : ProductionMode)
  | acceptor (settler : SettlerId) (mode : AcceptanceMode)
deriving DecidableEq

/-- The event that reports an override. -/
def Override.event (group : Marker) : Override → CompositionEvent
  | .producer settler mode => .producerOverride group settler mode
  | .acceptor settler mode => .acceptorOverride group settler mode

/-- The production mode of an override. -/
def Override.production? : Override → Option ProductionMode
  | .producer _ mode => some mode
  | .acceptor _ _ => none

/-- The acceptance mode of an override. -/
def Override.acceptance? : Override → Option AcceptanceMode
  | .producer _ _ => none
  | .acceptor _ mode => some mode

/-- The modes that candidates ask for and that are not served yet, each where it comes first. -/
def overrides (g : GroupDeclaration) :
    (producers : List ProductionMode) → (acceptors : List AcceptanceMode) → List Candidate →
      List Override
  | _, _, [] => []
  | producers, acceptors, c :: rest =>
      let production := c.production g.producer
      let acceptance := c.acceptance g.acceptor
      let newProducers := if producers.contains production then [] else [production]
      let newAcceptors := if acceptors.contains acceptance then [] else [acceptance]
      newProducers.map (.producer c.id) ++ newAcceptors.map (.acceptor c.id)
        ++ overrides g (producers ++ newProducers) (acceptors ++ newAcceptors) rest

/-- Selects the candidates of a declared group ahead of time, for the modes they ask for. -/
def foresee (c : Composition χ ω ν) (g : GroupDeclaration)
    (selector : Selector ω StrategyEvent) : Building ω (List Override) := do
  let ctx : SelectionContext := { colony := c.colony, group := g.marker, production := g.producer }
  match ← Action.attempt (selector.select ctx).below with
  | .error cause =>
      Action.note (.selectFailed g.marker cause)
      return []
  | .ok candidates =>
      let found := overrides g [g.producer] [g.acceptor] candidates
      found.forM fun o => Action.note (o.event g.marker)
      return found

/-- A group that is ready, and which of the colony's callbacks it calls. -/
structure Resolved (χ ω ν : Type) where
  group : Group χ ω StrategyEvent ν
  callsProduce : Bool := false
  callsAccept : Bool := false

/-- The strategies of a declared group whose selector and whose overrides are known. -/
def assemble (c : Composition χ ω ν) (scope : Scope ω ν) (g : GroupDeclaration)
    (selector : Selector ω StrategyEvent) (found : List Override) :
    Except CompositionError (Resolved χ ω ν) := do
  let producers := found.filterMap Override.production?
  let acceptors := found.filterMap Override.acceptance?
  let producer ← c.producer scope g.marker g.producer
  let acceptor ← c.acceptor g.marker g.acceptor
  let altProducers ← producers.mapM (c.producer scope g.marker)
  let altAcceptors ← acceptors.mapM (c.acceptor g.marker)
  let plain : Group χ ω StrategyEvent ν := { marker := g.marker, selector, producer, acceptor }
  return {
    group :=
      altAcceptors.foldl Group.withAltAcceptor (altProducers.foldl Group.withAltProducer plain)
    callsProduce := (g.producer :: producers).contains .callback
    callsAccept := (g.acceptor :: acceptors).contains .callback }

/-- Makes a declared group ready: only the selection of its candidates looks at the world. -/
def resolveDeclared (c : Composition χ ω ν) (scope : Scope ω ν) (g : GroupDeclaration) :
    Building ω (Resolved χ ω ν) := do
  let selector ←
    Action.ofExcept ((Selector.ofRule scope g.selector).mapError (.invalidSelector g.marker))
  let found ← c.foresee g selector
  Action.ofExcept (c.assemble scope g selector found)

/-- Makes a group ready.  A declared one needs a scope. -/
def resolve (c : Composition χ ω ν) : Entry χ ω ν → Building ω (Resolved χ ω ν)
  | .explicit group => return { group }
  | .declared g =>
      match c.scope with
      | none =>
          Action.fail (.malformed (
            s!"group {g.marker.name} of colony {c.colony.name} is declared "
              ++ "but the composition has no scope"))
      | some scope => c.resolveDeclared scope g

/-! ## Building -/

/-- The first marker of a list that stands in it before. -/
def firstRepeated : (seen : List Marker) → List Marker → Option Marker
  | _, [] => none
  | seen, m :: rest => if seen.contains m then some m else firstRepeated (m :: seen) rest

/-- Refuses a list of markers in which one comes twice. -/
def checkDistinct (markers : List Marker) (refusal : Marker → CompositionError) :
    Except CompositionError Unit :=
  match firstRepeated [] markers with
  | some m => .error (refusal m)
  | none => .ok ()

/-- Refuses callbacks for groups that do not call them. -/
def checkUsed (registered used : List Marker) (refusal : Marker → CompositionError) :
    Except CompositionError Unit :=
  match registered.find? fun m => !used.contains m with
  | some m => .error (refusal m)
  | none => .ok ()

/-- The founder of a composition. -/
def build (c : Composition χ ω ν) : Building ω (Founder χ ω StrategyEvent ν) := do
  let produceMarkers := c.produceCallbacks.map (·.1)
  let acceptMarkers := c.acceptCallbacks.map (·.1)
  Action.ofExcept do
    checkDistinct (c.entries.map (·.marker)) (.duplicateGroup c.colony)
    checkDistinct produceMarkers (.duplicateCallback c.colony · .produce)
    checkDistinct acceptMarkers (.duplicateCallback c.colony · .accept)
  let resolved ← c.entries.mapM c.resolve
  Action.ofExcept do
    checkUsed produceMarkers ((resolved.filter (·.callsProduce)).map (·.group.marker))
      (.orphanCallback c.colony · .produce)
    checkUsed acceptMarkers ((resolved.filter (·.callsAccept)).map (·.group.marker))
      (.orphanCallback c.colony · .accept)
  Action.note (.built c.colony resolved.length)
  return { colony := c.colony, groups := resolved.map (·.group) }

/-- A composition by its colony type, the names of its groups, and whether it has a scope. -/
def outline (c : Composition χ ω ν) : String :=
  Text.openOutline "Composition"
    [("colony", c.colony.outline),
      ("groups", Text.listed (c.entries.map fun e => e.marker.outline)),
      ("has_scope", if c.scope.isSome then "true" else "false")]

end Composition

end Settlement
