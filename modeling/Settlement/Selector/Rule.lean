import Settlement.Declaration
import Settlement.Pattern.Parser
import Settlement.Selector.Supertype

/-!
# Selectors of declared groups

The selector of each selection rule: by a capability, by a supertype, by a pattern for names, and by
a list, all of whose settlers must be known to the scope.
-/

namespace Settlement.Selector

variable {ω ν : Type}

/-- Settlers that carry a capability. -/
def byMarker (scope : Scope ω ν) (marker : Marker) : Selector ω StrategyEvent :=
  let describe := s!"marker {marker.name}"
  { describe
    select ctx := scanPlainly scope describe ctx (·.carries marker) }

/-- Settlers whose name matches a pattern. -/
def byName (scope : Scope ω ν) (pattern : Pattern) : Selector ω StrategyEvent :=
  let describe := s!"name /{pattern.source}/"
  { describe
    select ctx := scanPlainly scope describe ctx fun s => pattern.isMatch s.id.name }

/-- The candidates of the admitted settlers of a list, all of which the scope must know. -/
def lookUp (scope : Scope ω ν) (describe : String) (ctx : SelectionContext) :
    List SettlerId → Selection ω (List Candidate)
  | [] => return []
  | id :: rest => do
      match ← scope.settler id with
      | none => Action.fail (.unknownSettler id)
      | some s =>
          let isChosen ← admits describe ctx s
          let others ← lookUp scope describe ctx rest
          return if isChosen then s.candidate :: others else others

/-- The settlers of a list, in its order. -/
def registered (scope : Scope ω ν) (settlers : List SettlerId) : Selector ω StrategyEvent :=
  let describe := s!"registered list of {settlers.length}"
  { describe
    select ctx := lookUp scope describe ctx settlers }

/-- The selector of a rule. -/
def ofRule (scope : Scope ω ν) : SelectionRule → Except DiscoveryError (Selector ω StrategyEvent)
  | .byMarker marker => .ok (byMarker scope marker)
  | .bySupertype supertype => .ok (bySupertype scope supertype)
  | .byName pattern =>
      match Pattern.ofString pattern with
      | .ok compiled => .ok (byName scope compiled)
      | .error reason => .error (.invalidPattern pattern reason)
  | .registered settlers => .ok (registered scope settlers)

end Settlement.Selector
