import Settlement.Name
import Settlement.Text.Quoted

/-!
# Outlines

The one-line description of a value by its parts: `Name \x7b field: value, … \x7d` for a record,
`Name(part)` for a wrapped value and `[item, …]` for a list.
-/

namespace Settlement.Text

/-- A wrapped value. -/
def wrapped (name part : String) : String :=
  name ++ "(" ++ part ++ ")"

/-- A list of described items. -/
def listed (items : List String) : String :=
  "[" ++ ", ".intercalate items ++ "]"

/-- A name and a list of parts in braces. -/
def braced (name : String) (parts : List String) : String :=
  name ++ " \x7b " ++ ", ".intercalate parts ++ " \x7d"

/-- A field of a record with its described value. -/
def field (name value : String) : String :=
  name ++ ": " ++ value

/-- A record with all of its fields. -/
def outline (name : String) (fields : List (String × String)) : String :=
  braced name (fields.map fun f => field f.1 f.2)

/-- A record with some of its fields, the others being left out. -/
def openOutline (name : String) (fields : List (String × String)) : String :=
  braced name ((fields.map fun f => field f.1 f.2) ++ [".."])

end Settlement.Text

namespace Settlement

/-- A settler name as a part of an outline. -/
def SettlerId.outline (id : SettlerId) : String :=
  Text.wrapped "SettlerId" (Text.quoted id.name)

/-- A colony name as a part of an outline. -/
def ColonyId.outline (id : ColonyId) : String :=
  Text.wrapped "ColonyId" (Text.quoted id.name)

/-- A marker as a part of an outline. -/
def Marker.outline (m : Marker) : String :=
  Text.wrapped "Marker" (Text.quoted m.name)

end Settlement
