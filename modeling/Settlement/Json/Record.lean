import Settlement.Json.Codec

/-!
# Records in JSON

A record is written as an object and read from an object or from a list.  In an object the members
may come in any order and unknown ones are passed over, but no known one may come twice; in a list
they come in the order of their declaration.  A member that is not given has its default, if it has
one.

A schema lists the members of a record.  Its values are nested pairs with a component for each
member, and so is what has been read of a value so far, with an optional component for each member.
-/

namespace Settlement.Json

/-- The members of a record in the order of their declaration, with the type `r` of the records and
the type `slots` of what has been read of one.  `absent` is the value of a member that is not given,
and a member is not written where `isLeftOut` holds. -/
inductive Schema : (r slots : Type) → Type 1 where
  | done : Schema Unit Unit
  | field {α r slots : Type} (key : String) (codec : Codec α) (absent : Option α)
      (isLeftOut : α → Bool) (more : Schema r slots) : Schema (α × r) (Option α × slots)

namespace Schema

variable {α r slots : Type}

/-- A member that must be given. -/
def required (key : String) (codec : Codec α) (more : Schema r slots) :
    Schema (α × r) (Option α × slots) :=
  .field key codec none (fun _ => false) more

/-- A member with a default, which is always written. -/
def defaulted (key : String) (codec : Codec α) (absent : α) (more : Schema r slots) :
    Schema (α × r) (Option α × slots) :=
  .field key codec (some absent) (fun _ => false) more

/-- A member that is written only when it has a value. -/
def optional (key : String) (codec : Codec α) (more : Schema r slots) :
    Schema (Option α × r) (Option (Option α) × slots) :=
  .field key codec.nullable (some none) Option.isNone more

/-- Nothing has been read. -/
def vacant : {r slots : Type} → Schema r slots → slots
  | _, _, .done => ()
  | _, _, .field _ _ _ _ more => (none, more.vacant)

/-- The number of members. -/
def size : {r slots : Type} → Schema r slots → Nat
  | _, _, .done => 0
  | _, _, .field _ _ _ _ more => more.size + 1

/-- Reads the value of the member with a key, or passes over a value that belongs to no member. -/
def readMember : {r slots : Type} → Schema r slots → Nat → String → slots → Reader slots
  | _, _, .done, _, _, _ => do
      Reader.colon
      Reader.skip
  | _, _, .field own codec _ _ more, depth, key, (slot, rest) =>
      if key == own then
        match slot with
        | some _ => throw (.duplicateField key)
        | none => do
            Reader.colon
            return (some (← codec.read depth), rest)
      else do
        return (slot, ← more.readMember depth key rest)

/-- The record that has been read, with defaults for the members not met. -/
def close : {r slots : Type} → Schema r slots → slots → Except ReadError r
  | _, _, .done, _ => pure ()
  | _, _, .field key _ absent _ more, (slot, rest) => do
      match slot.or absent with
      | none => throw (.missingField key)
      | some a => return (a, ← more.close rest)

/-- Reads the members from the items of a list; `index` counts those read before. -/
def readItems : {r slots : Type} → Schema r slots → (index depth : Nat) → (expected : String) →
    Reader r
  | _, _, .done, _, _, _ => pure ()
  | _, _, .field _ codec absent _ more, index, depth, expected => do
      if ← Reader.nextItem (index == 0) then
        let a ← codec.read depth
        return (a, ← more.readItems (index + 1) depth expected)
      else
        match absent with
        | none => throw (.wrongLength index expected)
        | some a => return (a, ← more.readItems (index + 1) depth expected)

/-- The members of a record as they are written. -/
def writeMembers : {r slots : Type} → Schema r slots → r → List (List Char)
  | _, _, .done, _ => []
  | _, _, .field key codec _ isLeftOut more, (a, rest) =>
      if isLeftOut a then more.writeMembers rest
      else (writeText key ++ ':' :: codec.write a) :: more.writeMembers rest

end Schema

/-- A number of members in words. -/
def elementCount (n : Nat) : String :=
  if n = 1 then "1 element" else s!"{n} elements"

/-- Records of a schema. -/
def Codec.record {r slots : Type} (name : String) (s : Schema r slots) : Codec r where
  read depth := do
    match ← Reader.peek? with
    | some '\x7b' =>
        let depth ← Reader.descend depth
        Reader.drop
        let member (known : slots) : Reader slots := do
          Reader.drop
          s.readMember depth (← Reader.text) known
        let known ← Reader.members member s.vacant
        let r ← (s.close known : Except ReadError r)
        Reader.drop
        return r
    | some '[' =>
        let depth ← Reader.descend depth
        Reader.drop
        let r ← s.readItems 0 depth s!"struct {name} with {elementCount s.size}"
        Reader.closeList
        return r
    | _ => Reader.refuse s!"struct {name}"
  write r := '\x7b' :: separated (s.writeMembers r) ++ ['\x7d']

end Settlement.Json
