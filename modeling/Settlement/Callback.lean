import Settlement.Action
import Settlement.Produced

/-!
# Callbacks

A colony may hook into production and acceptance by callbacks.  A bound callback works on the colony
that is being settled, an unbound one never sees it; both are invoked in the same way.
-/

namespace Settlement

/-- A function of a colony type: from arguments `α` to answers `β`, with failures `ε`. -/
inductive Callback (χ ω η ε α β : Type) where
  | unbound (run : α → Action ω η ε β)
  | bound (run : α → Action (Site χ ω) η ε β)

namespace Callback

variable {χ ω η ε α β : Type}

/-- Calls a callback at a site; only a bound one can change the colony. -/
def invoke : Callback χ ω η ε α β → α → Action (Site χ ω) η ε β
  | .unbound run, a => (run a).inWorld
  | .bound run, a => run a

/-- Whether a callback works on the colony. -/
def isBound : Callback χ ω η ε α β → Bool
  | .unbound _ => false
  | .bound _ => true

/-- The kind of a callback, without the function. -/
def outline : Callback χ ω η ε α β → String
  | .unbound _ => "Callback::Unbound"
  | .bound _ => "Callback::Bound"

end Callback

/-- Makes a value for a settler; failures are texts. -/
abbrev ProduceCallback (χ ω η ν : Type) :=
  Callback χ ω η String SettlerId (Produced ν)

/-- Receives a produced value; failures are texts. -/
abbrev AcceptCallback (χ ω η ν : Type) :=
  Callback χ ω η String (Produced ν) Unit

end Settlement
