import Settlement.Declaration
import Settlement.Format.Settler

/-!
# Declared compositions as data

Selection rules, groups and blueprints as JSON.  A rule is an object whose member `type` names its
form, at any place among the members; so the object is read whole before its other member is looked
at.  A rule may also be a list of the name of the form and the one argument.
-/

namespace Settlement

open Json (Codec ReadError Reader Schema Value)

/-- The form of a selection rule. -/
inductive SelectionRule.Form where
  | byMarker
  | bySupertype
  | byName
  | registered
deriving DecidableEq

namespace SelectionRule

namespace Form

/-- The word for a form in data. -/
def word : Form → String
  | .byMarker => "by_marker"
  | .bySupertype => "by_supertype"
  | .byName => "by_name"
  | .registered => "registered"

/-- The name of a form in messages about its length. -/
def title : Form → String
  | .byMarker => "ByMarker"
  | .bySupertype => "BySupertype"
  | .byName => "ByName"
  | .registered => "Registered"

/-- The member that holds the argument of a form. -/
def member : Form → String
  | .byMarker => "marker"
  | .bySupertype => "supertype"
  | .byName => "pattern"
  | .registered => "settlers"

/-- All forms. -/
def all : List Form :=
  [.byMarker, .bySupertype, .byName, .registered]

/-- Reads the name of a form. -/
def read : Reader Form := do
  Codec.pick word all (← Reader.textAs "variant identifier")

end Form

/-- The string that a value must be. -/
def textOf : Value → Except ReadError String
  | .text s => pure s
  | v => throw (.wrongType v.found "a string")

/-- The list that a value must be. -/
def listOf : Value → Except ReadError (List Value)
  | .list items => pure items
  | v => throw (.wrongType v.found "a sequence")

/-- The rule of a form with an argument. -/
def ofArgument (form : Form) (v : Value) : Except ReadError SelectionRule :=
  match form with
  | .byMarker => do return .byMarker ⟨← textOf v⟩
  | .bySupertype => do return .bySupertype ⟨← textOf v⟩
  | .byName => do return .byName (← textOf v)
  | .registered => do
      return .registered (← (← listOf v).mapM fun item => SettlerId.mk <$> textOf item)

/-- The rule of a form with its argument among the members of an object; `found` is the rule of the
members before. -/
def ofMembers (form : Form) (found : Option SelectionRule) :
    List (String × Value) → Except ReadError SelectionRule
  | [] =>
      match found with
      | some rule => pure rule
      | none => throw (.missingField form.member)
  | (key, v) :: rest =>
      if key == form.member then
        match found with
        | some _ => throw (.duplicateField key)
        | none => do ofMembers form (some (← ofArgument form v)) rest
      else ofMembers form found rest

/-- The rule of a form with a list of arguments, of which there must be one. -/
def ofItems (form : Form) : List Value → Except ReadError SelectionRule
  | [] => throw (.wrongLength 0 s!"struct variant SelectorSpec::{form.title} with 1 element")
  | v :: rest => do
      let rule ← ofArgument form v
      if rest.isEmpty then return rule
      else throw (.wrongLength (rest.length + 1) "1 element in sequence")

/-- What has been read of a rule: its form, and the other members in their order. -/
structure Slots where
  form : Option Form := none
  members : List (String × Value) := []

/-- Reads one member of a rule. -/
def readMember (depth : Nat) (slots : Slots) : Reader Slots := do
  Reader.drop
  let key ← Reader.text
  if key == "type" then
    if slots.form.isSome then throw (.duplicateField key)
    Reader.colon
    return { slots with form := some (← Form.read) }
  else
    Reader.colon
    return { slots with members := slots.members ++ [(key, ← Reader.value depth)] }

/-- Reads a rule. -/
def read (depth : Nat) : Reader SelectionRule := do
  match ← Reader.peek? with
  | some '\x7b' =>
      let depth ← Reader.descend depth
      Reader.drop
      let slots ← Reader.members (readMember depth) {}
      match slots.form with
      | none => throw (.missingField "type")
      | some form =>
          Reader.drop
          (ofMembers form none slots.members : Except ReadError _)
  | some '[' =>
      let depth ← Reader.descend depth
      Reader.drop
      if ← Reader.nextItem true then
        let form ← Form.read
        let items ← Reader.items (Reader.value depth) false
        Reader.drop
        (ofItems form items : Except ReadError _)
      else throw (.missingField "type")
  | _ => Reader.refuse "internally tagged enum SelectorSpec"

/-- The form of a rule. -/
def form : SelectionRule → Form
  | .byMarker _ => .byMarker
  | .bySupertype _ => .bySupertype
  | .byName _ => .byName
  | .registered _ => .registered

/-- The argument of a rule as it is written. -/
def writeArgument : SelectionRule → List Char
  | .byMarker marker => Marker.codec.write marker
  | .bySupertype supertype => SettlerId.codec.write supertype
  | .byName pattern => Codec.text.write pattern
  | .registered settlers => (Codec.list SettlerId.codec).write settlers

/-- A rule as an object: its form first, then its argument. -/
def write (rule : SelectionRule) : List Char :=
  '\x7b' :: Json.separated
      [Json.writeText "type" ++ ':' :: Json.writeText rule.form.word,
        Json.writeText rule.form.member ++ ':' :: rule.writeArgument]
    ++ ['\x7d']

/-- Selection rules. -/
def codec : Codec SelectionRule where
  read := read
  write := write

end SelectionRule

/-- A group as a record, all of whose members must be given. -/
def GroupDeclaration.codec : Codec GroupDeclaration :=
  let schema :=
    Schema.required "marker" Marker.codec <|
    Schema.required "selector" SelectionRule.codec <|
    Schema.required "producer" ProductionMode.codec <|
    Schema.required "acceptor" AcceptanceMode.codec <|
    Schema.done
  (Codec.record "GroupSpec" schema).imap
    (fun (marker, selector, producer, acceptor, ()) => { marker, selector, producer, acceptor })
    (fun g => (g.marker, g.selector, g.producer, g.acceptor, ()))

namespace Blueprint

/-- A blueprint as a record; an absent colony is written, too. -/
def codec : Codec Blueprint :=
  let schema :=
    Schema.defaulted "colony" ColonyId.codec.nullable none <|
    Schema.defaulted "groups" (.list GroupDeclaration.codec) [] <|
    Schema.done
  (Codec.record "CompositionSpec" schema).imap
    (fun (colony, groups, ()) => { colony, groups })
    (fun b => (b.colony, b.groups, ()))

/-- Reads a blueprint from JSON text. -/
def ofJson (json : String) : Except CompositionError Blueprint :=
  (codec.decode json).mapError fun fault => .malformed fault.message

end Blueprint

end Settlement
