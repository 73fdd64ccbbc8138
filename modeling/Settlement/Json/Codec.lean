import Settlement.Json.Value

/-!
# Codecs

A codec reads values of one type from JSON text and writes them.  Here are the codecs of strings,
booleans, lists, values that may be absent, and words that choose one of several values; a whole
text is decoded when nothing but blanks is left.
-/

namespace Settlement.Json

/-- How values of a type are read and written.  A reader is told how many containers may still be
opened inside one another. -/
structure Codec (α : Type) where
  read : Nat → Reader α
  write : α → List Char

/-- The items of a list with commas between them. -/
def separated : List (List Char) → List Char
  | [] => []
  | [item] => item
  | item :: rest => item ++ ',' :: separated rest

namespace Codec

variable {α β : Type}

/-- The same text for values of another type. -/
def imap (c : Codec α) (make : α → β) (view : β → α) : Codec β where
  read depth := make <$> c.read depth
  write b := c.write (view b)

/-- Strings. -/
def text : Codec String where
  read _ := Reader.textAs "a string"
  write := writeText

/-- Booleans. -/
def flag : Codec Bool where
  read _ := do
    match ← Reader.peek? with
    | some 't' =>
        Reader.drop
        Reader.word ['r', 'u', 'e']
        return true
    | some 'f' =>
        Reader.drop
        Reader.word ['a', 'l', 's', 'e']
        return false
    | _ => Reader.refuse "a boolean"
  write b := if b then ['t', 'r', 'u', 'e'] else ['f', 'a', 'l', 's', 'e']

/-- Lists. -/
def list (c : Codec α) : Codec (List α) where
  read depth := do
    match ← Reader.peek? with
    | some '[' =>
        let depth ← Reader.descend depth
        Reader.drop
        let items ← Reader.items (c.read depth) true
        Reader.drop
        return items
    | _ => Reader.refuse "a sequence"
  write items := '[' :: separated (items.map c.write) ++ [']']

/-- Values that may be absent, which is written `null`. -/
def nullable (c : Codec α) : Codec (Option α) where
  read depth := do
    match ← Reader.peek? with
    | some 'n' =>
        Reader.drop
        Reader.word ['u', 'l', 'l']
        return none
    | _ => some <$> c.read depth
  write
    | none => ['n', 'u', 'l', 'l']
    | some a => c.write a

/-- The value that a word chooses. -/
def pick (word : α → String) (values : List α) (s : String) : Reader α :=
  match values.find? fun a => word a == s with
  | some a => pure a
  | none => throw (.unknownWord s (values.map word))

/-- A value that is chosen by a word: the word alone, or an object that gives it the value `null`.
-/
def choice (word : α → String) (values : List α) : Codec α where
  read depth := do
    match ← Reader.peek? with
    | none => throw .endOfValue
    | some '"' =>
        Reader.drop
        pick word values (← Reader.text)
    | some '\x7b' =>
        let _ ← Reader.descend depth
        Reader.drop
        unless ← Reader.nextMember true do throw .noValue
        Reader.drop
        let a ← pick word values (← Reader.text)
        Reader.colon
        Reader.unit
        match ← Reader.peek? with
        | none => throw .endOfObject
        | some '\x7d' =>
            Reader.drop
            return a
        | some _ => throw .noValue
    | some _ => throw .noValue
  write a := writeText (word a)

/-- How many containers may be open at one place of a text. -/
def depthLimit : Nat :=
  128

/-- Reads a whole text. -/
def decode (c : Codec α) (s : String) : Except ReadError α := do
  let (a, rest) ← (c.read depthLimit).run s.toList
  if rest.all Reader.isBlank then return a else throw .trailingCharacters

/-- Writes a value without any blanks. -/
def encode (c : Codec α) (a : α) : String :=
  String.ofList (c.write a)

end Codec

end Settlement.Json
