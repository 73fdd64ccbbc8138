import Settlement.Json.Error

/-!
# Reading JSON text

A reader takes what it needs from the front of a text and leaves the rest, or stops at a fault. 
Here are the steps that all readers share: blanks, words, the separators of lists and of objects,
and the loops over items and over members, which see each item at least one character further on.
-/

namespace Settlement.Json

/-- A step over a text: it yields a value and the rest of the text, or the first fault. -/
abbrev Reader :=
  StateT (List Char) (Except ReadError)

namespace Reader

/-- The characters that may stand between tokens. -/
def isBlank (c : Char) : Bool :=
  c == ' ' || c == '\n' || c == '\t' || c == '\r'

/-- Passes over blanks and shows the character after them. -/
def peek? : Reader (Option Char) := do
  modify (·.dropWhile isBlank)
  return (← get).head?

/-- Takes the next character. -/
def drop : Reader Unit :=
  modify List.tail

/-- Takes exactly these letters. -/
def word : List Char → Reader Unit
  | [] => pure ()
  | letter :: letters => do
      match ← get with
      | [] => throw .endOfValue
      | c :: rest =>
          if c == letter then
            set rest
            word letters
          else throw .brokenWord

/-- Takes the colon between a key and its value. -/
def colon : Reader Unit := do
  match ← peek? with
  | none => throw .endOfObject
  | some ':' => drop
  | some _ => throw .noColon

/-- One container further inside: how many more may be opened there. -/
def descend : Nat → Reader Nat
  | depth + 2 => pure (depth + 1)
  | _ => throw .tooDeep

/-- Whether another item of a list follows; takes the comma before it. -/
def nextItem (first : Bool) : Reader Bool := do
  match ← peek? with
  | none => throw .endOfList
  | some ']' => return false
  | some c =>
      if first then return true
      else if c == ',' then
        drop
        match ← peek? with
        | none => throw .endOfValue
        | some ']' => throw .trailingComma
        | some _ => return true
      else throw .noListComma

/-- Whether another member of an object follows; takes the comma before it. -/
def nextMember (first : Bool) : Reader Bool := do
  match ← peek? with
  | none => throw .endOfObject
  | some '\x7d' => return false
  | some c =>
      if first then
        if c == '"' then return true else throw .keyNoText
      else if c == ',' then
        drop
        match ← peek? with
        | none => throw .endOfValue
        | some '"' => return true
        | some '\x7d' => throw .trailingComma
        | some _ => throw .keyNoText
      else throw .noObjectComma

/-- Takes the bracket that closes a list of which all wanted items have been read. -/
def closeList : Reader Unit := do
  match ← peek? with
  | none => throw .endOfList
  | some ']' => drop
  | some ',' =>
      drop
      match ← peek? with
      | some ']' => throw .trailingComma
      | _ => throw .trailingCharacters
  | some _ => throw .trailingCharacters

/-- The items of a list, up to its closing bracket; `fuel` bounds their number. -/
def itemsWithin {α : Type} (item : Reader α) : Nat → Bool → Reader (List α)
  | 0, _ => throw .endOfList
  | fuel + 1, first => do
      if ← nextItem first then
        let a ← item
        return a :: (← itemsWithin item fuel false)
      else return []

/-- The items of a list, up to its closing bracket.  Every item takes a character. -/
def items {α : Type} (item : Reader α) (first : Bool) : Reader (List α) := do
  itemsWithin item ((← get).length + 1) first

/-- Reads the members of an object into `σ`, up to its closing brace; `fuel` bounds their number. -/
def membersWithin {σ : Type} (member : σ → Reader σ) : Nat → Bool → σ → Reader σ
  | 0, _, _ => throw .endOfObject
  | fuel + 1, first, slots => do
      if ← nextMember first then
        let slots ← member slots
        membersWithin member fuel false slots
      else return slots

/-- Reads the members of an object, up to its closing brace.  Every member takes a character. -/
def members {σ : Type} (member : σ → Reader σ) (slots : σ) : Reader σ := do
  membersWithin member ((← get).length + 1) true slots

end Reader

end Settlement.Json
