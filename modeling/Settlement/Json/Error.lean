import Settlement.Decimal.Shortest
import Settlement.Text.Quoted

/-!
# Faults in JSON text

What can be wrong with a text that should hold a value of a certain form: its notation can be
broken, or it can be well written and of the wrong form.  Only the first fault from the left is
reported.
-/

namespace Settlement.Json

/-- A JSON number: an integer of at most 64 bits, or else a double, given by its bits. -/
inductive Number where
  | integer (value : Int)
  | double (bits : UInt64)
deriving DecidableEq

/-- What stands in a text where something else is wanted. -/
inductive Found where
  | null
  | bool (value : Bool)
  | number (value : Number)
  | text (value : String)
  | list
  | object
deriving DecidableEq

/-- The first fault of a text. -/
inductive ReadError where
  | endOfValue
  | endOfText
  | endOfList
  | endOfObject
  | brokenWord
  | noValue
  | noColon
  | noListComma
  | noObjectComma
  | trailingComma
  | keyNoText
  | badEscape
  | rawControl
  | loneSurrogate
  | brokenSurrogatePair
  | badNumber
  | numberOutOfRange
  | tooDeep
  | trailingCharacters
  /-- A member of a record is given twice. -/
  | duplicateField (key : String)
  /-- A member of a record that has no default is not given. -/
  | missingField (key : String)
  /-- A list that stands for a record has the wrong length. -/
  | wrongLength (length : Nat) (expected : String)
  /-- A value of another form is wanted. -/
  | wrongType (found : Found) (expected : String)
  /-- A word is none of the known ones. -/
  | unknownWord (word : String) (known : List String)
deriving DecidableEq

/-- Doubles are written positionally from `1e-5` up to, but not including, `1e16`. -/
def Number.style : Decimal.Style :=
  ⟨-5, 15⟩

/-- A word between backquotes. -/
def backquoted (word : String) : String :=
  "`" ++ word ++ "`"

/-- What was found in place of what was expected, with its value unless it has parts. -/
def Found.describe : Found → String
  | .null => "null"
  | .bool value => "boolean " ++ backquoted (if value then "true" else "false")
  | .number (.integer value) => "integer " ++ backquoted (toString value)
  | .number (.double bits) => "floating point " ++ backquoted (Number.style.write bits)
  | .text value => "string " ++ Text.quoted value
  | .list => "sequence"
  | .object => "map"

/-- A choice of words: `a`, `a` or `b`, one of `a`, `b`, `c`. -/
def alternatives : List String → String
  | [] => "nothing"
  | [a] => backquoted a
  | [a, b] => s!"{backquoted a} or {backquoted b}"
  | words => "one of " ++ ", ".intercalate (words.map backquoted)

/-- What a failed reading says, without line and column. -/
def ReadError.message : ReadError → String
  | .endOfValue => "EOF while parsing a value"
  | .endOfText => "EOF while parsing a string"
  | .endOfList => "EOF while parsing a list"
  | .endOfObject => "EOF while parsing an object"
  | .brokenWord => "expected ident"
  | .noValue => "expected value"
  | .noColon => "expected `:`"
  | .noListComma => "expected `,` or `]`"
  | .noObjectComma => "expected `,` or `\x7d`"
  | .trailingComma => "trailing comma"
  | .keyNoText => "key must be a string"
  | .badEscape => "invalid escape"
  | .rawControl => "control character (\\u0000-\\u001F) found while parsing a string"
  | .loneSurrogate => "lone leading surrogate in hex escape"
  | .brokenSurrogatePair => "unexpected end of hex escape"
  | .badNumber => "invalid number"
  | .numberOutOfRange => "number out of range"
  | .tooDeep => "recursion limit exceeded"
  | .trailingCharacters => "trailing characters"
  | .duplicateField key => s!"duplicate field {backquoted key}"
  | .missingField key => s!"missing field {backquoted key}"
  | .wrongLength length expected => s!"invalid length {length}, expected {expected}"
  | .wrongType found expected => s!"invalid type: {found.describe}, expected {expected}"
  | .unknownWord word known =>
      s!"unknown variant {backquoted word}, expected {alternatives known}"

end Settlement.Json
