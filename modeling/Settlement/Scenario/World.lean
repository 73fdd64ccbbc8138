import Settlement.Registry.Basic
import Settlement.Scenario.Payload

/-!
# The world of a scenario

Scenarios try compositions out in a world of their own.  It has scopes by name, each over a registry
that may still change and each able to misbehave; factories that count their calls; logs of what
happened; and the records that test doubles keep.
-/

namespace Settlement.Scenario

/-- What a factory makes, and when it fails. -/
structure FactoryScript where
  value : Payload
  /-- Whether the values show the number of the call. -/
  counts : Bool := false
  /-- The text of the failure and the number of the first call that fails. -/
  failure : Option (String × Nat) := none

/-- A handle on a factory. -/
inductive Factory where
  /-- Makes the plainest value of a form, unseen. -/
  | plain (form : Form)
  /-- Follows a script, and logs its calls. -/
  | scripted (number : Nat) (settler : SettlerId) (script : FactoryScript)

/-- The registries of scenarios. -/
abbrev Books :=
  Registry Factory Payload

/-- How a scope makes values. -/
inductive Construction where
  /-- As its registry does. -/
  | registry
  /-- A new text each time: the name of the settler. -/
  | fresh
  /-- Only the identity of the settler. -/
  | identity
  /-- Not at all. -/
  | refusal
deriving DecidableEq

/-- How a scope behaves, apart from what its registry says. -/
structure Manner where
  /-- Why the settlers cannot be listed. -/
  unavailable : Option String := none
  /-- The settlers that cannot be looked up. -/
  failingLookups : List SettlerId := []
  /-- Whether a settler is looked up by going through the list. -/
  searches : Bool := false
  construction : Construction := .registry
  /-- Whether calls are logged. -/
  logs : Bool := false

/-- A scope by its registry and its manner. -/
structure Place where
  books : Books := {}
  manner : Manner := {}

/-- What the world logs. -/
inductive LogEntry where
  /-- A factory was called for the given time. -/
  | construct (settler : SettlerId) (call : Nat)
  | produce (settler : SettlerId)
  | accept (value : Produced Payload)
  | settlers
  | settler (id : SettlerId)

/-- What test doubles report, in one common order. -/
inductive DoubleStep where
  | select (group : Marker)
  | produce (settler : SettlerId)
  | accept (settler : SettlerId)

/-- A producer that counts its calls. -/
structure Counter where
  failingOn : Option SettlerId := none
  calls : Nat := 0

/-- An acceptor that records which settlers it accepted, and whether as mere identities. -/
structure Recorder where
  failingOn : Option SettlerId := none
  entries : List (SettlerId × Bool) := []

/-- The world of a scenario. -/
structure World where
  places : Std.TreeMap String Place := {}
  /-- The number of shared instances made so far. -/
  instances : Nat := 0
  /-- The number of calls of each factory made so far. -/
  factoryCalls : List Nat := []
  counters : Std.TreeMap String Counter := {}
  recorders : Std.TreeMap String Recorder := {}
  log : List LogEntry := []
  doubleSteps : List DoubleStep := []

namespace World

variable {η ε : Type}

/-- The scope with a name, which is empty at first. -/
def place (w : World) (name : String) : Place :=
  w.places[name]?.getD {}

/-- The world with another scope of a name. -/
def setPlace (w : World) (name : String) (p : Place) : World :=
  { w with places := w.places.insert name p }

/-- Adds to the log. -/
def logged (e : LogEntry) : Action World η ε Unit :=
  Action.update fun w => { w with log := w.log ++ [e] }

/-- Adds to what test doubles report. -/
def doubled (s : DoubleStep) : Action World η ε Unit :=
  Action.update fun w => { w with doubleSteps := w.doubleSteps ++ [s] }

/-- Makes a new shared instance. -/
def share (value : Payload) : Action World η ε (Shared Payload) := do
  let w ← Action.read
  Action.update fun w => { w with instances := w.instances + 1 }
  return ⟨w.instances, value⟩

/-- Makes a new factory that follows a script. -/
def newFactory (settler : SettlerId) (script : FactoryScript) : Action World η ε Factory := do
  let w ← Action.read
  Action.update fun w => { w with factoryCalls := w.factoryCalls ++ [0] }
  return .scripted w.factoryCalls.length settler script

/-- Calls a factory. -/
def callFactory : Factory → Action World η String Payload
  | .plain form => return form.plain
  | .scripted number settler script => do
      let call := (← Action.read).factoryCalls.getD number 0 + 1
      Action.update fun w => { w with factoryCalls := w.factoryCalls.set number call }
      logged (.construct settler call)
      match script.failure with
      | some (cause, first) => if first ≤ call then Action.fail cause
      | none => pure ()
      return if script.counts then script.value.numbered call else script.value

/-- The settlers of a scope, as its manner allows. -/
def listing (name : String) : Action World η DiscoveryError (List Settler) := do
  let p := (← Action.read).place name
  if p.manner.logs then logged .settlers
  match p.manner.unavailable with
  | some reason => Action.fail (.scopeUnavailable reason)
  | none => return p.books.settlers

/-- The scope with a name.  It always answers from the registry that the scope has at the time. -/
def scope (name : String) : Scope World Payload where
  settlers := listing name
  settler id := do
    let p := (← Action.read).place name
    if p.manner.logs then logged (.settler id)
    if p.manner.failingLookups.contains id then
      Action.fail (.other s!"lookup of {id.name} failed")
    else if p.manner.searches then
      return (← listing name).find? fun s => s.id == id
    else return p.books.settler? id
  construct id := do
    let p := (← Action.read).place name
    match p.manner.construction with
    | .registry => p.books.construct callFactory id
    | .fresh => return .owned (.text id.name)
    | .identity => return .identity id
    | .refusal => Action.fail (.other s!"cannot build {id.name}")
  unlisted := 0

end World

end Settlement.Scenario
