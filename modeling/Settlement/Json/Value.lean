import Settlement.Json.Text
import Settlement.Json.Number

/-!
# JSON values

A value of unknown form is read whole, or only passed over.  Where a value of another form is
wanted, the fault names what stands there: a number, a string or a word is read first, and its own
faults come before the fault of being there.
-/

namespace Settlement.Json

/-- A JSON value; an object keeps its members in order, repeated keys included. -/
inductive Value where
  | null
  | bool (value : Bool)
  | number (value : Number)
  | text (value : String)
  | list (items : List Value)
  | object (members : List (String × Value))

/-- How a value is named where it is not wanted. -/
def Value.found : Value → Found
  | .null => .null
  | .bool value => .bool value
  | .number value => .number value
  | .text value => .text value
  | .list _ => .list
  | .object _ => .object

namespace Reader

/-- Reports what stands in the text in place of something expected. -/
def refuse {α : Type} (expected : String) : Reader α := do
  match ← peek? with
  | none => throw .endOfValue
  | some 'n' =>
      drop
      word ['u', 'l', 'l']
      throw (.wrongType .null expected)
  | some 't' =>
      drop
      word ['r', 'u', 'e']
      throw (.wrongType (.bool true) expected)
  | some 'f' =>
      drop
      word ['a', 'l', 's', 'e']
      throw (.wrongType (.bool false) expected)
  | some '"' =>
      drop
      throw (.wrongType (.text (← text)) expected)
  | some '[' => throw (.wrongType .list expected)
  | some '\x7b' => throw (.wrongType .object expected)
  | some c =>
      if c == '-' || c.isDigit then throw (.wrongType (.number (← number)) expected)
      else throw .noValue

/-- Reads a string where a string is expected. -/
def textAs (expected : String) : Reader String := do
  match ← peek? with
  | some '"' =>
      drop
      text
  | _ => refuse expected

/-- Takes the word `null` where nothing else will do. -/
def unit : Reader Unit := do
  match ← peek? with
  | some 'n' =>
      drop
      word ['u', 'l', 'l']
  | _ => refuse "unit"

/-- One member of an object, added to those before it. -/
def member {α : Type} (value : Reader α) (before : List (String × α)) :
    Reader (List (String × α)) := do
  drop
  let key ← text
  colon
  return before ++ [(key, ← value)]

/-- Reads a value of any form that opens fewer than `depth` containers inside one another. -/
def value : Nat → Reader Value
  | 0 => throw .tooDeep
  | depth + 1 => do
      match ← peek? with
      | none => throw .endOfValue
      | some 'n' =>
          drop
          word ['u', 'l', 'l']
          return .null
      | some 't' =>
          drop
          word ['r', 'u', 'e']
          return .bool true
      | some 'f' =>
          drop
          word ['a', 'l', 's', 'e']
          return .bool false
      | some '"' =>
          drop
          return .text (← text)
      | some '[' =>
          let _ ← descend (depth + 1)
          drop
          let list ← items (value depth) true
          drop
          return .list list
      | some '\x7b' =>
          let _ ← descend (depth + 1)
          drop
          let list ← members (member (value depth)) []
          drop
          return .object list
      | some c =>
          if c == '-' || c.isDigit then return .number (← number)
          else throw .noValue

mutual

/-- Passes over a value; `fuel` bounds the number of its parts. -/
def skipValue : Nat → Reader Unit
  | 0 => throw .endOfValue
  | fuel + 1 => do
      match ← peek? with
      | none => throw .endOfValue
      | some 'n' =>
          drop
          word ['u', 'l', 'l']
      | some 't' =>
          drop
          word ['r', 'u', 'e']
      | some 'f' =>
          drop
          word ['a', 'l', 's', 'e']
      | some '"' =>
          drop
          skipText
      | some '[' =>
          drop
          match ← peek? with
          | none => throw .endOfList
          | some ']' => drop
          | some _ => skipItems fuel
      | some '\x7b' =>
          drop
          match ← peek? with
          | none => throw .endOfObject
          | some '\x7d' => drop
          | some _ => skipMembers fuel
      | some c => if c == '-' || c.isDigit then skipNumber else throw .noValue

/-- Passes over the items of a list and its closing bracket. -/
def skipItems : Nat → Reader Unit
  | 0 => throw .endOfList
  | fuel + 1 => do
      skipValue fuel
      match ← peek? with
      | none => throw .endOfList
      | some ']' => drop
      | some ',' =>
          drop
          skipItems fuel
      | some _ => throw .noListComma

/-- Passes over the members of an object and its closing brace. -/
def skipMembers : Nat → Reader Unit
  | 0 => throw .endOfObject
  | fuel + 1 => do
      match ← peek? with
      | none => throw .endOfObject
      | some '"' =>
          drop
          skipText
          colon
          skipValue fuel
          match ← peek? with
          | none => throw .endOfObject
          | some '\x7d' => drop
          | some ',' =>
              drop
              skipMembers fuel
          | some _ => throw .noObjectComma
      | some _ => throw .keyNoText

end

/-- Passes over a value of any form and depth.  Every part of it takes a character. -/
def skip : Reader Unit := do
  skipValue (2 * (← get).length + 1)

end Reader

end Settlement.Json
