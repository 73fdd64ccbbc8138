import Settlement.Selector.Basic

/-!
# Settlers below a supertype

A settler is below a type if it is that type, or if one of its supertypes is or leads to it.  The
walk up the supertypes goes through the scope: a supertype that the scope does not know ends its
branch, and so does one that is being visited already, since the links may form cycles.

The walk is a recursion on how deep its visits may still nest.  Only unvisited types are entered, so
no limit is met that leaves room for all types the scope knows, those it lists and those it does not.

Answers are remembered for the whole selection.  A positive answer is final.  A negative one may
only mean that a branch was cut at a type under visit, so it is remembered only where no visit is
open.
-/

namespace Settlement.Selector

variable {ω ν : Type}

/-- What the walks of one selection have found out, and which types are being visited. -/
structure Walk where
  /-- Whether a type is below the wanted one, for those of which it is known. -/
  known : Std.TreeMap SettlerId Bool := {}
  /-- The types between the settler asked about and the one looked at. -/
  visiting : List SettlerId := []

/-- Before any walk only the wanted type itself is known. -/
def Walk.start (base : SettlerId) : Walk :=
  { known := ({} : Std.TreeMap SettlerId Bool).insert base true }

/-- Enters a type. -/
def Walk.enter (w : Walk) (id : SettlerId) : Walk :=
  { w with visiting := id :: w.visiting }

/-- Leaves a type with an answer, which is remembered if it is final. -/
def Walk.leave (w : Walk) (id : SettlerId) (found : Bool) : Walk :=
  let visiting := w.visiting.erase id
  if found || visiting.isEmpty then { known := w.known.insert id found, visiting }
  else { w with visiting }

/-- Whether one of some supertypes is the wanted type or leads to it; the first that does ends the
search. -/
def reaches (scope : Scope ω ν) (base : SettlerId)
    (visit : Settler → Walk → Selection ω (Bool × Walk)) :
    List SettlerId → Walk → Selection ω (Bool × Walk)
  | [], w => return (false, w)
  | parent :: rest, w => do
      if parent == base then return (true, w)
      match ← scope.settler parent with
      | none => reaches scope base visit rest w
      | some s =>
          let (found, w) ← visit s w
          if found then return (true, w) else reaches scope base visit rest w

/-- Whether a settler is below the wanted type.  At most `depth` visits nest inside one another, and
a walk that needs more fails. -/
def walk (scope : Scope ω ν) (base : SettlerId) : (depth : Nat) → Settler → Walk →
    Selection ω (Bool × Walk)
  | 0, _, _ => Action.fail (.other "visits of supertypes nest too deep")
  | depth + 1, s, w => do
      match w.known[s.id]? with
      | some found => return (found, w)
      | none =>
          if w.visiting.contains s.id then return (false, w)
          else
            let (found, w) ← reaches scope base (walk scope base depth) s.supertypes (w.enter s.id)
            return (found, w.leave s.id found)

/-- Settlers that are, extend or implement a type.  A type is under visit at most once at a time, and
a last visit may find it there: so the limit is not met in a scope that knows no more types than it
lists and counts as unlisted. -/
def bySupertype (scope : Scope ω ν) (base : SettlerId) : Selector ω StrategyEvent :=
  let describe := s!"supertype {base.name}"
  { describe
    select ctx := do
      let settlers ← scope.settlers
      let test (w : Walk) (s : Settler) : Selection ω (Bool × Walk) :=
        walk scope base (settlers.length + scope.unlisted + 1) s { w with visiting := [] }
      scan describe ctx test (Walk.start base) settlers }

end Settlement.Selector
