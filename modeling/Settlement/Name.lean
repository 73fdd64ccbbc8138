import Std.Data.TreeMap

/-!
# Names

Settler types, colony types and markers are told apart by name only.  Each kind of name is its own
type, so that one cannot stand for another; nothing in the library looks inside a name, except the
selector that matches settler names against a pattern.

Settler names are ordered by code point, which makes them keys of ordered maps.
-/

namespace Settlement

/-- The identity of a settler type. -/
structure SettlerId where
  name : String
deriving DecidableEq

/-- The identity of a colony type. -/
structure ColonyId where
  name : String
deriving DecidableEq

/-- A label: a capability that settlers carry, or the name of a strategy group. -/
structure Marker where
  name : String
deriving DecidableEq

namespace SettlerId

instance : Ord SettlerId where
  compare a b := compare a.name b.name

theorem compare_eq (a b : SettlerId) : compare a b = compare a.name b.name :=
  rfl

instance : Std.OrientedOrd SettlerId where
  eq_swap {a b} := Std.OrientedOrd.eq_swap (a := a.name) (b := b.name)

instance : Std.TransOrd SettlerId where
  isLE_trans {a b c} := Std.TransOrd.isLE_trans (a := a.name) (b := b.name) (c := c.name)

instance : Std.LawfulEqOrd SettlerId where
  compare_self {a} := Std.ReflOrd.compare_self (a := a.name)
  eq_of_compare {a b} h := by
    have hname : a.name = b.name := Std.LawfulEqOrd.eq_of_compare h
    cases a
    cases b
    exact congrArg SettlerId.mk hname

end SettlerId

/-- Colony names in code point order. -/
def ColonyId.precedes (a b : ColonyId) : Bool :=
  decide (a.name ≤ b.name)

end Settlement
