import Settlement.Action
import Settlement.Produced
import Settlement.Trace.Event

/-!
# Scopes

Where settlers come from: a scope lists the settler types it knows, looks one up, and makes values
of them.  All three may fail, and may change the world around the scope.

The list need not agree with the look-up, which may know types that are not listed.  How many of them
there may be is part of a scope, since a walk up the supertypes must end; what holds of every scope
holds whatever that number is.
-/

namespace Settlement

/-- A source of settlers in a world `ω`, whose values are of type `ν`. -/
structure Scope (ω ν : Type) where
  /-- All settlers, in discovery order. -/
  settlers : Action ω StrategyEvent DiscoveryError (List Settler)
  /-- The settler with an identity, if the scope knows it. -/
  settler : SettlerId → Action ω StrategyEvent DiscoveryError (Option Settler)
  /-- Makes a value of a settler. -/
  construct : SettlerId → Action ω StrategyEvent ProductionError (Produced ν)
  /-- How many types the scope may know besides those it lists.  It bounds how deep the visits of a
  walk up the supertypes nest, and nothing else depends on it. -/
  unlisted : Nat

/-- Looks a settler up by going through the list of all. -/
def Scope.search {ω ν : Type} (scope : Scope ω ν) (id : SettlerId) :
    Action ω StrategyEvent DiscoveryError (Option Settler) := do
  return (← scope.settlers).find? fun s => s.id == id

end Settlement
