import Settlement.Format.Settler
import Settlement.Scope

/-!
# Registries

A registry holds settlers in memory, in the order of their first declaration, and binds them to what
makes their values: a factory, or the one shared instance of a singleton.  A singleton never has a
factory, and a settler with a shared instance is always a singleton; every operation sees to that.

An index gives the place of each settler in the list.  Factories are handles of a type `φ` that the
registry does not look into; how one is called is told to it when it constructs a value.
-/

namespace Settlement

/-- What makes the values of a settler. -/
inductive Binding (φ ν : Type) where
  /-- A factory makes a new value every time. -/
  | factory (handle : φ)
  /-- All values are one shared instance. -/
  | shared (instanceOf : Shared ν)
deriving DecidableEq

/-- Whether a binding is to a shared instance. -/
def Binding.isShared {φ ν : Type} : Binding φ ν → Bool
  | .factory _ => false
  | .shared _ => true

/-- Settlers and what makes their values. -/
structure Registry (φ ν : Type) where
  /-- The settlers, in the order of their first declaration. -/
  settlers : List Settler := []
  /-- The place of each settler in the list. -/
  index : Std.TreeMap SettlerId Nat := {}
  bindings : Std.TreeMap SettlerId (Binding φ ν) := {}

/-- What declaring a settler does to the binding that its identity has already. -/
inductive Redeclaration where
  /-- Nothing. -/
  | plain
  /-- The shared instance stays, and with it the settler stays a singleton. -/
  | keepsSingleton
  /-- The factory goes, because the settler is a singleton now. -/
  | dropsFactory
deriving DecidableEq

namespace Registry

variable {φ ν ω : Type}

/-- The settler with an identity. -/
def settler? (r : Registry φ ν) (id : SettlerId) : Option Settler := do
  let slot ← r.index[id]?
  r.settlers[slot]?

/-- Whether an identity is declared. -/
def contains (r : Registry φ ν) (id : SettlerId) : Bool :=
  r.index.contains id

/-- Whether an identity is bound to anything. -/
def isBound (r : Registry φ ν) (id : SettlerId) : Bool :=
  r.bindings.contains id

/-- The number of settlers. -/
def size (r : Registry φ ν) : Nat :=
  r.settlers.length

/-- Whether nothing is declared. -/
def isEmpty (r : Registry φ ν) : Bool :=
  r.settlers.isEmpty

/-- The registry with a settler in its place: the one it had, or else the last. -/
def put (r : Registry φ ν) (s : Settler) : Registry φ ν :=
  match r.index[s.id]? with
  | some slot => { r with settlers := r.settlers.set slot s }
  | none =>
      { r with
        settlers := r.settlers ++ [s]
        index := r.index.insert s.id r.settlers.length }

/-- The registry with a binding, in place of any other of the same identity. -/
def bind (r : Registry φ ν) (id : SettlerId) (b : Binding φ ν) : Registry φ ν :=
  { r with bindings := r.bindings.insert id b }

/-- The registry without the binding of an identity. -/
def unbind (r : Registry φ ν) (id : SettlerId) : Registry φ ν :=
  { r with bindings := r.bindings.erase id }

/-- What declaring a settler does to the binding of its identity. -/
def redeclaration (r : Registry φ ν) (s : Settler) : Redeclaration :=
  match r.bindings[s.id]? with
  | some (.shared _) => if s.singleton then .plain else .keepsSingleton
  | some (.factory _) => if s.singleton then .dropsFactory else .plain
  | none => .plain

/-- The registry after a declaration. -/
def afterDeclaring (r : Registry φ ν) (s : Settler) : Registry φ ν :=
  match r.redeclaration s with
  | .plain => r.put s
  | .keepsSingleton => r.put s.asSingleton
  | .dropsFactory => (r.unbind s.id).put s

/-- A step in the keeping of a registry. -/
abbrev Upkeep (φ ν α : Type) :=
  Action (Registry φ ν) RegistryEvent DiscoveryError α

/-- Declares a settler without binding it.  A second declaration of one identity takes the place of
the first, and keeps its rank in the discovery order. -/
def declare (s : Settler) : Upkeep φ ν Unit := do
  match (← Action.read).redeclaration s with
  | .plain => pure ()
  | .keepsSingleton => Action.report (.keepsSingleton s.id)
  | .dropsFactory => Action.report (.factoryDropped s.id)
  Action.report (.declared s.id)
  Action.update (·.afterDeclaring s)

/-- Binds a declared settler to a factory, which a singleton cannot have. -/
def bindFactory (id : SettlerId) (handle : φ) : Upkeep φ ν Unit := do
  match (← Action.read).settler? id with
  | none => Action.fail (.unknownSettler id)
  | some s =>
      if s.singleton then Action.fail (.singletonFactory id)
      else Action.update (·.bind id (.factory handle))

/-- Binds a declared settler to its shared instance, and makes it a singleton. -/
def bindSingleton (id : SettlerId) (instanceOf : Shared ν) : Upkeep φ ν Unit := do
  match (← Action.read).settler? id with
  | none => Action.fail (.unknownSettler id)
  | some s => Action.update fun r => (r.put s.asSingleton).bind id (.shared instanceOf)

/-- Declares a settler and binds it to a factory.  The declaration of a singleton stands, although
its factory is refused. -/
def registerWith (s : Settler) (handle : φ) : Upkeep φ ν Unit := do
  declare s
  match ← Action.attempt (bindFactory s.id handle) with
  | .ok () => pure ()
  | .error cause => Action.report (.factoryRejected s.id s.singleton cause)

/-- Declares a settler as a singleton and binds it to its shared instance. -/
def registerSingleton (s : Settler) (instanceOf : Shared ν) : Upkeep φ ν Unit := do
  declare s.asSingleton
  Action.update (·.bind s.id (.shared instanceOf))

/-- Declares the settlers of a manifest, in their order. -/
def declareAll (settlers : List Settler) : Upkeep φ ν Unit :=
  settlers.forM declare

/-- Starts over with the settlers of a manifest, none of which is bound. -/
def load (m : Manifest) : Upkeep φ ν Unit := do
  Action.update fun _ => {}
  declareAll m.settlers

/-- Starts over with a manifest in JSON. -/
def loadJson (json : String) : Upkeep φ ν Unit := do
  load (← Action.ofExcept (Manifest.ofJson json))

/-- Starts over with the manifest in the file at a path, whose content is given. -/
def loadFile (path : String) (content : Except FileFault ByteArray) : Upkeep φ ν Unit := do
  let m ← Action.ofExcept (Manifest.ofFile path content)
  Action.report (.manifestLoaded path m.settlers.length)
  load m

/-- The registry of a manifest: all its settlers are declared, and none is bound. -/
def ofManifest (m : Manifest) : Registry φ ν :=
  m.settlers.foldl afterDeclaring {}

/-- Makes a value of a settler: its shared instance, or a new value from its factory. -/
def construct (r : Registry φ ν) (call : φ → Action ω StrategyEvent String ν) (id : SettlerId) :
    Action ω StrategyEvent ProductionError (Produced ν) := do
  match r.bindings[id]? with
  | none => Action.fail (.noFactory id)
  | some b =>
      Action.report (.constructing id b.isShared)
      match b with
      | .shared instanceOf => return .shared instanceOf
      | .factory handle => return .owned (← (call handle).mapError (.construction id))

/-- A registry as a source of settlers.  It is only read, so its answers never change. -/
def scope (r : Registry φ ν) (call : φ → Action ω StrategyEvent String ν) : Scope ω ν where
  settlers := pure r.settlers
  settler id := pure (r.settler? id)
  construct := r.construct call
  unlisted := 0

/-- A registry by the names of its settlers and the number of those that are bound. -/
def outline (r : Registry φ ν) : String :=
  Text.outline "SettlerRegistry"
    [("settlers", Text.listed (r.settlers.map fun s => Text.quoted s.id.name)),
      ("bound", toString r.bindings.size)]

end Registry

end Settlement
