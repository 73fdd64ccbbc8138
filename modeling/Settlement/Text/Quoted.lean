import Settlement.Unicode.Class

/-!
# Quoted text

A text in double quotes, in which every character can be seen: a quote and a backslash are escaped
by a backslash, the common controls by their letters, and a character that has no form of its own,
or that would melt into its neighbour, is given by its code point.
-/

namespace Settlement.Text

/-- The lower-case hexadecimal digits of a number, without leading zeros. -/
def hexDigits (n : Nat) : List Char :=
  Nat.toDigits 16 n

/-- Whether a character is shown as its code point. -/
def isVeiled (c : Char) : Bool :=
  if ' ' ≤ c ∧ c ≤ '~' then false
  else Unicode.invisible.mem c || Unicode.graphemeExtend.mem c

/-- One character of a quoted text. -/
def escape (c : Char) : List Char :=
  match c with
  | '"' => ['\\', '"']
  | '\\' => ['\\', '\\']
  | '\n' => ['\\', 'n']
  | '\r' => ['\\', 'r']
  | '\t' => ['\\', 't']
  | '\x00' => ['\\', '0']
  | c =>
      if isVeiled c then ['\\', 'u', '\x7b'] ++ hexDigits c.toNat ++ ['\x7d'] else [c]

/-- A text in double quotes, with escapes for what cannot be seen. -/
def quoted (s : String) : String :=
  String.ofList ('"' :: s.toList.flatMap escape ++ ['"'])

end Settlement.Text
