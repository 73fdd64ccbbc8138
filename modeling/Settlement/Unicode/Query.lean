import Settlement.Unicode.Class
import Settlement.Unicode.Property
import Settlement.Unicode.Script
import Settlement.Unicode.ScriptExtension

/-!
# Sets of characters by name

A property of characters is asked for by the name of a two-valued property, of a general category or
of a script, or by a property and its value.  Case, blanks, hyphens, underscores and a leading `is`
do not count in names.
-/

namespace Settlement.Unicode

/-- A name without what does not count in it. -/
def plainName (name : List Char) : String :=
  let (isMarked, body) :=
    match name with
    | a :: b :: rest =>
        if a.toLower == 'i' && b.toLower == 's' then (true, rest) else (false, name)
    | short => (false, short)
  let counts (c : Char) : Bool := c.toNat < 0x80 && c != ' ' && c != '_' && c != '-'
  let kept := (body.filter counts).map Char.toLower
  -- `isc` is a name of its own, not a marked `c`
  if isMarked && kept == ['c'] then "isc" else String.ofList kept

/-- Two-valued properties that the class tables hold. -/
def classProperty? : String → Option CharSet
  | "alphabetic" => some alphabetic
  | "alpha" => some alphabetic
  | "whitespace" => some whiteSpace
  | "wspace" => some whiteSpace
  | "space" => some whiteSpace
  | "joincontrol" => some joinControl
  | "joinc" => some joinControl
  | "graphemeextend" => some graphemeExtend
  | "grext" => some graphemeExtend
  | _ => none

/-- The categories that a name of several categories stands for. -/
def categoryGroup? : String → Option (List String)
  | "l" | "letter" => some ["lu", "ll", "lt", "lm", "lo"]
  | "lc" | "casedletter" => some ["lu", "ll", "lt"]
  | "m" | "mark" | "combiningmark" => some ["mn", "mc", "me"]
  | "n" | "number" => some ["nd", "nl", "no"]
  | "p" | "punctuation" | "punct" => some ["pc", "pd", "ps", "pe", "pi", "pf", "po"]
  | "s" | "symbol" => some ["sm", "sc", "sk", "so"]
  | "z" | "separator" => some ["zs", "zl", "zp"]
  | "c" | "other" => some ["cc", "cf", "cn", "co"]
  | _ => none

/-- The characters of a category, or of a group of categories. -/
def category? (name : String) : Option CharSet :=
  match name with
  | "any" => some .all
  | "ascii" => some (.range '\x00' '\x7f')
  | "assigned" => some (ofCategories ["cn"]).compl
  | name =>
      match categoryGroup? name with
      | some names => some (ofCategories names)
      | none => NamedSet.find? categories name

/-- The characters that a single name stands for. -/
def named? (name : List Char) : Option CharSet :=
  let name := plainName name
  classProperty? name <|> NamedSet.find? properties name <|> category? name
    <|> NamedSet.find? scripts name

/-- The characters for which a property has a value. -/
def valued? (property value : List Char) : Option CharSet :=
  let value := plainName value
  match plainName property with
  | "gc" | "generalcategory" => category? value
  | "sc" | "script" => NamedSet.find? scripts value
  | "scx" | "scriptextensions" => NamedSet.find? scriptExtensions value
  | _ => none

end Settlement.Unicode
