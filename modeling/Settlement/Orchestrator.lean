import Settlement.Founder

/-!
# Orchestrators

An orchestrator settles colonies of many types.  It keeps one founder for each colony type, the
first that was registered for it, and hands a colony to the founder of its type.  A founder takes
only colonies of the type it was built for, which need not be the one it is registered under.

Colony types are told apart by tags `τ`, and the colonies with tag `t` are of type `χ t`.
-/

namespace Settlement

variable {τ : Type} {χ : τ → Type} {ω η ν : Type}

/-- A colony of any type. -/
structure AnyColony (χ : τ → Type) where
  type : τ
  value : χ type

/-- A founder for colonies of some type. -/
structure AnyFounder (χ : τ → Type) (ω η ν : Type) where
  type : τ
  founder : Founder (χ type) ω η ν

namespace AnyFounder

/-- The name of the founder's colony type. -/
def colony (f : AnyFounder χ ω η ν) : ColonyId :=
  f.founder.colony

/-- Settles a colony of the founder's type, and refuses any other without touching it. -/
def found [DecidableEq τ] (f : AnyFounder χ ω η ν) (filter : Option Marker) :
    Founder.Run (AnyColony χ) ω η Unit :=
  ⟨fun site =>
    if h : site.colony.type = f.type then
      let o := (f.founder.found filter).run ⟨h ▸ site.colony.value, site.world⟩
      ⟨o.result, ⟨⟨f.type, o.state.colony⟩, o.state.world⟩, o.events⟩
    else ⟨.error (.composition (.colonyMismatch f.colony)), site, []⟩⟩

end AnyFounder

/-- The founders of colony types, in the order of their registration. -/
structure Orchestrator (χ : τ → Type) (ω η ν : Type) where
  table : List (τ × AnyFounder χ ω η ν) := []

namespace Orchestrator

/-- The founder of a colony type. -/
def founder? [DecidableEq τ] (o : Orchestrator χ ω η ν) (t : τ) : Option (AnyFounder χ ω η ν) :=
  (o.table.find? fun entry => entry.1 == t).map (·.2)

/-- Whether a colony type has a founder. -/
def isComposed [DecidableEq τ] (o : Orchestrator χ ω η ν) (t : τ) : Bool :=
  (o.founder? t).isSome

/-- Registers a founder for a colony type that has none yet. -/
def register [DecidableEq τ] (t : τ) (f : AnyFounder χ ω η ν) :
    Action (Orchestrator χ ω η ν) OrchestratorEvent CompositionError Unit := do
  match (← Action.read).founder? t with
  | some existing => Action.fail (.duplicateColony existing.colony)
  | none =>
      Action.report (.registered f.colony f.founder.groups.length)
      Action.update fun o => { o with table := o.table ++ [(t, f)] }

/-- Registers a founder for the colony type it was built for. -/
def compose [DecidableEq τ] (f : AnyFounder χ ω η ν) :
    Action (Orchestrator χ ω η ν) OrchestratorEvent CompositionError Unit :=
  register f.type f

/-- A step of settling a colony. -/
abbrev Settling (χ : τ → Type) (ω η α : Type) :=
  Action (Site (AnyColony χ) ω) (OrchestratorEvent ⊕ (FoundingEvent ⊕ η)) SettleError α

/-- Hands the colony to the founder of its type; without one, the type is reported by `nameOf`. -/
def run [DecidableEq τ] (o : Orchestrator χ ω η ν) (nameOf : τ → ColonyId)
    (filter : Option Marker) : Settling χ ω η Unit := do
  let t := (← Action.read).colony.type
  match o.founder? t with
  | none =>
      Action.note (.noFounder (nameOf t))
      Action.fail (.composition (.noFounder (nameOf t)))
  | some f =>
      Action.note (.settling f.colony filter)
      (f.found filter).below.onFailure fun cause => .inl (.settleFailed f.colony cause)

/-- Settles all groups of the colony, whose type has a name. -/
def settle [DecidableEq τ] (o : Orchestrator χ ω η ν) (typeName : τ → ColonyId) :
    Settling χ ω η Unit :=
  o.run typeName none

/-- Settles one group of the colony, whose type has a name. -/
def settleGroup [DecidableEq τ] (o : Orchestrator χ ω η ν) (typeName : τ → ColonyId)
    (group : Marker) : Settling χ ω η Unit :=
  o.run typeName (some group)

/-- Settles a colony whose type is not known by name; it is reported by its tag, written as
`tagText` does. -/
def settleUntyped [DecidableEq τ] (o : Orchestrator χ ω η ν) (tagText : τ → ColonyId)
    (filter : Option Marker) : Settling χ ω η Unit :=
  o.run tagText filter

/-- The names of the colony types that have founders, in code point order. -/
def colonies (o : Orchestrator χ ω η ν) : List ColonyId :=
  (o.table.map fun entry => entry.2.colony).mergeSort ColonyId.precedes

/-- An orchestrator by the colony types that have founders. -/
def outline (o : Orchestrator χ ω η ν) : String :=
  Text.outline "Colonist" [("colonies", Text.listed (o.colonies.map ColonyId.outline))]

end Orchestrator

end Settlement
