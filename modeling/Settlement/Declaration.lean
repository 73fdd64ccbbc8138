import Settlement.Settler

/-!
# Declared compositions

What a composition says as data: a `Blueprint` names a colony type and lists its groups, and each
`GroupDeclaration` says by which rule it selects settlers, how it produces and how it accepts them.
-/

namespace Settlement

/-- The rule by which a declared group finds its candidates. -/
inductive SelectionRule where
  /-- Settlers that carry a capability. -/
  | byMarker (marker : Marker)
  /-- Settlers that extend or implement a type, directly or not. -/
  | bySupertype (supertype : SettlerId)
  /-- Settlers whose name matches a pattern. -/
  | byName (pattern : String)
  /-- The settlers of a list, in its order. -/
  | registered (settlers : List SettlerId)
deriving DecidableEq

/-- One group of a composition, as data. -/
structure GroupDeclaration where
  /-- The name of the group. -/
  marker : Marker
  selector : SelectionRule
  producer : ProductionMode
  acceptor : AcceptanceMode
deriving DecidableEq

/-- The groups of a colony type, as data. -/
structure Blueprint where
  /-- The colony type; when absent, the colony goes by the name of its own type. -/
  colony : Option ColonyId := none
  groups : List GroupDeclaration := []
deriving DecidableEq

/-- One more group, after those already declared. -/
def Blueprint.withGroup (b : Blueprint) (g : GroupDeclaration) : Blueprint :=
  { b with groups := b.groups ++ [g] }

end Settlement
