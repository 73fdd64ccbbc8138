import Settlement.Json.Reader
import Settlement.Unicode.CharSet

/-!
# Strings in JSON

A string stands between quotes.  A quote, a backslash and the controls are escaped; a character
beyond the first plane may be written as an escaped pair of surrogates.  A string that is only
passed over may hold surrogates in any order.
-/

namespace Settlement.Json

open Unicode (hexDigit?)

/-- The character that a one-letter escape stands for. -/
def escapedChar? : Char → Option Char
  | '"' => some '"'
  | '\\' => some '\\'
  | '/' => some '/'
  | 'b' => some '\x08'
  | 'f' => some '\x0c'
  | 'n' => some '\n'
  | 'r' => some '\r'
  | 't' => some '\t'
  | _ => none

/-- The number of four hexadecimal digits. -/
def hexCode? (a b c d : Char) : Option Nat := do
  let a ← hexDigit? a
  let b ← hexDigit? b
  let c ← hexDigit? c
  let d ← hexDigit? d
  return ((a * 16 + b) * 16 + c) * 16 + d

/-- What is wrong with a text that should go on with four hexadecimal digits: it ends before their
four bytes, or it holds something else. -/
def hexFault (rest : List Char) : ReadError :=
  if (String.ofList (rest.take 4)).utf8ByteSize < 4 then .endOfText else .badEscape

/-- Whether a number is the first half of a surrogate pair. -/
def isHighSurrogate (n : Nat) : Bool :=
  0xD800 ≤ n && n < 0xDC00

/-- Whether a number is the second half of a surrogate pair. -/
def isLowSurrogate (n : Nat) : Bool :=
  0xDC00 ≤ n && n < 0xE000

/-- The character of a surrogate pair. -/
def surrogatePair (high low : Nat) : Char :=
  Char.ofNat (0x10000 + (high - 0xD800) * 0x400 + (low - 0xDC00))

/-- The characters of a string up to its closing quote, and the text after it. -/
def readChars : List Char → Except ReadError (List Char × List Char)
  | [] => .error .endOfText
  | '"' :: rest => .ok ([], rest)
  | '\\' :: 'u' :: a :: b :: c :: d :: rest =>
      match hexCode? a b c d with
      | none => .error (hexFault (a :: b :: c :: d :: rest))
      | some n =>
          if isLowSurrogate n then .error .loneSurrogate
          else if isHighSurrogate n then
            match rest with
            | [] => .error .endOfText
            | ['\\'] => .error .endOfText
            | '\\' :: 'u' :: e :: f :: g :: h :: rest =>
                match hexCode? e f g h with
                | none => .error (hexFault (e :: f :: g :: h :: rest))
                | some m =>
                    if isLowSurrogate m then do
                      let (cs, rest) ← readChars rest
                      return (surrogatePair n m :: cs, rest)
                    else .error .loneSurrogate
            | '\\' :: 'u' :: rest => .error (hexFault rest)
            | _ => .error .brokenSurrogatePair
          else do
            let (cs, rest) ← readChars rest
            return (Char.ofNat n :: cs, rest)
  | '\\' :: 'u' :: rest => .error (hexFault rest)
  | ['\\'] => .error .endOfText
  | '\\' :: c :: rest =>
      match escapedChar? c with
      | none => .error .badEscape
      | some c => do
          let (cs, rest) ← readChars rest
          return (c :: cs, rest)
  | c :: rest =>
      if c < ' ' then .error .rawControl
      else do
        let (cs, rest) ← readChars rest
        return (c :: cs, rest)

/-- The text after the closing quote of a string that is passed over. -/
def skipChars : List Char → Except ReadError (List Char)
  | [] => .error .endOfText
  | '"' :: rest => .ok rest
  | '\\' :: 'u' :: a :: b :: c :: d :: rest =>
      match hexCode? a b c d with
      | none => .error (hexFault (a :: b :: c :: d :: rest))
      | some _ => skipChars rest
  | '\\' :: 'u' :: rest => .error (hexFault rest)
  | ['\\'] => .error .endOfText
  | '\\' :: c :: rest =>
      match escapedChar? c with
      | none => .error .badEscape
      | some _ => skipChars rest
  | c :: rest => if c < ' ' then .error .rawControl else skipChars rest

/-- Reads a string after its opening quote. -/
def Reader.text : Reader String := do
  let (cs, rest) ← (readChars (← get) : Except ReadError _)
  set rest
  return String.ofList cs

/-- Passes over a string after its opening quote. -/
def Reader.skipText : Reader Unit := do
  set (← (skipChars (← get) : Except ReadError _))

/-- The two hexadecimal digits of a number below 256. -/
def twoHexDigits (n : Nat) : List Char :=
  [Nat.digitChar (n / 16), Nat.digitChar (n % 16)]

/-- One character inside a string. -/
def writeChar (c : Char) : List Char :=
  match c with
  | '"' => ['\\', '"']
  | '\\' => ['\\', '\\']
  | '\x08' => ['\\', 'b']
  | '\x0c' => ['\\', 'f']
  | '\n' => ['\\', 'n']
  | '\r' => ['\\', 'r']
  | '\t' => ['\\', 't']
  | c => if c < ' ' then ['\\', 'u', '0', '0'] ++ twoHexDigits c.toNat else [c]

/-- A string with its quotes. -/
def writeText (s : String) : List Char :=
  '"' :: s.toList.flatMap writeChar ++ ['"']

end Settlement.Json
