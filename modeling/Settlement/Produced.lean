import Settlement.Text.Outline

/-!
# Produced values

What a producer hands to an acceptor: a new value, the shared instance of a singleton, or only the
identity of a settler.  Two shared values are one instance when their serial numbers agree.
-/

namespace Settlement

/-- An instance that several holders share, with the number that tells it from all others. -/
structure Shared (ν : Type) where
  serial : Nat
  value : ν
deriving DecidableEq

/-- What a producer hands to an acceptor. -/
inductive Produced (ν : Type) where
  /-- A value that belongs to whoever accepts it. -/
  | owned (value : ν)
  /-- The shared instance of a singleton. -/
  | shared (instanceOf : Shared ν)
  /-- The identity of a settler, without an instance. -/
  | identity (settler : SettlerId)
deriving DecidableEq

namespace Produced

variable {ν α : Type}

/-- The identity that is passed on, if nothing else is. -/
def identity? : Produced ν → Option SettlerId
  | .identity settler => some settler
  | .owned _ => none
  | .shared _ => none

/-- Whether only an identity is passed on. -/
def isIdentity (p : Produced ν) : Bool :=
  p.identity?.isSome

/-- Whether the value is a shared instance. -/
def isShared : Produced ν → Bool
  | .shared _ => true
  | .owned _ => false
  | .identity _ => false

/-- Takes a new value of some form, or gives everything back. -/
def takeOwned (form : ν → Option α) (p : Produced ν) : Except (Produced ν) α :=
  match p with
  | .owned value =>
      match form value with
      | some a => .ok a
      | none => .error p
  | _ => .error p

/-- Takes a shared instance whose value is of some form, or gives everything back. -/
def takeShared (form : ν → Option α) (p : Produced ν) : Except (Produced ν) (Shared α) :=
  match p with
  | .shared instanceOf =>
      match form instanceOf.value with
      | some a => .ok ⟨instanceOf.serial, a⟩
      | none => .error p
  | _ => .error p

/-- Looks at a value of some form, new or shared. -/
def view? (form : ν → Option α) : Produced ν → Option α
  | .owned value => form value
  | .shared instanceOf => form instanceOf.value
  | .identity _ => none

/-- The kind of a produced value, without the value. -/
def outline : Produced ν → String
  | .owned _ => Text.wrapped "Instance" ".."
  | .shared _ => Text.wrapped "Shared" ".."
  | .identity settler => Text.wrapped "Identity" settler.outline

end Produced

end Settlement
