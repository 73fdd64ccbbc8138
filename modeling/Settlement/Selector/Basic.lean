import Settlement.Scope

/-!
# Selectors

A selector chooses the candidates of a group.  All selectors of this library admit the same
settlers: public ones that can be produced in the mode of the group, or in their own mode if they
insist on one.  A settler without instances cannot be constructed.
-/

namespace Settlement

/-- What a selector is told about the group it selects for. -/
structure SelectionContext where
  colony : ColonyId
  group : Marker
  /-- The production mode of the group. -/
  production : ProductionMode
deriving DecidableEq

/-- A way to choose the candidates of a group, in the order in which they are settled. -/
structure Selector (ω η : Type) where
  /-- What is selected, for messages. -/
  describe : String
  select : SelectionContext → Action ω η DiscoveryError (List Candidate)

/-- Whether a settler may be selected for a group that produces in mode `production`. -/
def Settler.isAdmitted (s : Settler) (production : ProductionMode) : Bool :=
  s.isPublic && (s.production production != .construct || s.kind.isInstantiable)

namespace Selector

variable {ω ν σ : Type}

/-- A step of a selection. -/
abbrev Selection (ω α : Type) :=
  Action ω StrategyEvent DiscoveryError α

/-- Whether a settler is admitted, with a report when it is not. -/
def admits (describe : String) (ctx : SelectionContext) (s : Settler) : Selection ω Bool := do
  if !s.isPublic then
    Action.report (.skippedPrivate s.id ctx.group describe)
    return false
  else if !s.isAdmitted ctx.production then
    Action.report
      (.skippedUninstantiable s.id ctx.group s.kind (s.production ctx.production))
    return false
  else return true

/-- The candidates of the admitted settlers that pass a test.  The test may carry what it has found
out about one settler on to the next. -/
def keep (describe : String) (ctx : SelectionContext)
    (test : σ → Settler → Selection ω (Bool × σ)) : σ → List Settler → Selection ω (List Candidate)
  | _, [] => return []
  | memory, s :: rest => do
      let (passes, memory) ← test memory s
      let isChosen ← if passes then admits describe ctx s else pure false
      let others ← keep describe ctx test memory rest
      return if isChosen then s.candidate :: others else others

/-- Goes through all settlers of a scope, keeping the admitted ones that pass a test, and reports
how many they are. -/
def scan (describe : String) (ctx : SelectionContext) (test : σ → Settler → Selection ω (Bool × σ))
    (memory : σ) (settlers : List Settler) : Selection ω (List Candidate) := do
  let candidates ← keep describe ctx test memory settlers
  Action.report (.selected ctx.colony ctx.group describe candidates.length)
  return candidates

/-- Goes through a scope with a test that remembers nothing and always has an answer. -/
def scanPlainly (scope : Scope ω ν) (describe : String) (ctx : SelectionContext)
    (test : Settler → Bool) : Selection ω (List Candidate) := do
  scan describe ctx (fun () s => pure (test s, ())) () (← scope.settlers)

end Selector

end Settlement
