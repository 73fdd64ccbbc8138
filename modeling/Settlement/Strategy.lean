import Settlement.Callback
import Settlement.Scope

/-!
# Producers and acceptors

A producer makes a value for each candidate, and an acceptor hands it on, each in one mode.  The
strategies of this library construct values through a scope, call the callbacks of the colony, pass
identities on, and drop values.
-/

namespace Settlement

/-- A way to make a value for a candidate. -/
structure Producer (χ ω η ν : Type) where
  mode : ProductionMode
  produce : Candidate → Action (Site χ ω) η ProductionError (Produced ν)

/-- A way to hand a produced value on. -/
structure Acceptor (χ ω η ν : Type) where
  mode : AcceptanceMode
  accept : Candidate → Produced ν → Action (Site χ ω) η AcceptanceError Unit

namespace Producer

variable {χ ω η ν : Type}

/-- Constructs values through a scope.  A singleton must come as its shared instance. -/
def construct (scope : Scope ω ν) : Producer χ ω StrategyEvent ν where
  mode := .construct
  produce c := do
    Action.report (.constructsCandidate c.id c.singleton)
    let value ← (scope.construct c.id).inWorld
    if c.singleton && !value.isShared then Action.fail (.notShared c.id)
    else return value

/-- Calls the produce callback of the colony. -/
def callback (call : ProduceCallback χ ω StrategyEvent ν) : Producer χ ω StrategyEvent ν where
  mode := .callback
  produce c := do
    Action.report (.callsProduce c.id call.isBound)
    (call.invoke c.id).mapError (.callback c.id)

/-- Passes the identity of the candidate on. -/
def identity : Producer χ ω η ν where
  mode := .identity
  produce c := return .identity c.id

end Producer

namespace Acceptor

variable {χ ω ν : Type}

/-- Calls the accept callback of the colony. -/
def callback (call : AcceptCallback χ ω StrategyEvent ν) : Acceptor χ ω StrategyEvent ν where
  mode := .callback
  accept c value := do
    Action.report (.callsAccept c.id call.isBound)
    (call.invoke value).mapError (.callback c.id)

/-- Drops every value. -/
def forget : Acceptor χ ω StrategyEvent ν where
  mode := .forget
  accept c _ := Action.report (.forgets c.id)

end Acceptor

end Settlement
