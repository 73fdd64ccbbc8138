import Settlement.Json.Reader

/-!
# Numbers in JSON

A number is an integer when it has neither a point nor an exponent and fits 64 bits, and `-0` does
not; all others are doubles.  The digits of a double are gathered as long as they fit 64 bits and
are then scaled by a power of ten, so that the result need not be the nearest double.
-/

namespace Settlement.Json

/-- The largest integer of 64 bits without a sign. -/
def largestInteger : Nat :=
  Nat.pow 2 64 - 1

/-- The largest exponent that is counted out. -/
def largestExponent : Nat :=
  Nat.pow 2 31 - 1

/-- Splits a text after its leading digits. -/
def splitDigits (cs : List Char) : List Char × List Char :=
  (cs.takeWhile Char.isDigit, cs.dropWhile Char.isDigit)

/-- The value of a digit. -/
def digitValue (c : Char) : Nat :=
  c.toNat - '0'.toNat

/-- Appends digits to a number as long as it stays within a limit; returns the digits left over. -/
def gather (limit : Nat) : Nat → List Char → Nat × List Char
  | n, [] => (n, [])
  | n, d :: ds =>
      let next := 10 * n + digitValue d
      if next ≤ limit then gather limit next ds else (n, d :: ds)

/-- Divides by powers of ten beyond the range of a double, step by step. -/
def divideDown : Nat → Float → Nat → Float
  | 0, f, _ => f
  | fuel + 1, f, exponent =>
      if exponent ≤ 308 then f / Float.ofScientific 1 false exponent
      else divideDown fuel (f / Float.ofScientific 1 false 308) (exponent - 308)

/-- The double `significand * 10 ^ exponent`, if it is finite. -/
def scale (negative : Bool) (significand : Nat) (exponent : Int) : Except ReadError Number := do
  let f := significand.toUInt64.toFloat
  let f ←
    match exponent with
    | .ofNat e =>
        if e ≤ 308 then
          let f := f * Float.ofScientific 1 false e
          if f.isInf then throw .numberOutOfRange else pure f
        else if significand = 0 then pure f
        else throw .numberOutOfRange
    -- the second quotient by `1e308` is zero already
    | .negSucc e => pure (divideDown 4 f (e + 1))
  return .double (if negative then -f else f).toBits

/-- A zero with a sign. -/
def zero (negative : Bool) : Number :=
  .double (if negative then (-0.0 : Float) else 0.0).toBits

/-- What a number lacks at a place where a digit is due. -/
def digitFault : List Char → ReadError
  | [] => .endOfValue
  | _ => .badNumber

/-- Reads an exponent after its letter and scales the number gathered so far. -/
def readExponent (negative : Bool) (significand : Nat) (exponent : Int) (cs : List Char) :
    Except ReadError (Number × List Char) := do
  let (down, cs) :=
    match cs with
    | '+' :: rest => (false, rest)
    | '-' :: rest => (true, rest)
    | rest => (false, rest)
  let (digits, rest) := splitDigits cs
  if digits.isEmpty then throw (digitFault rest)
  let (value, beyond) := gather largestExponent 0 digits
  if beyond.isEmpty then
    let number ← scale negative significand (exponent + if down then -(value : Int) else value)
    return (number, rest)
  else if significand ≠ 0 ∧ down = false then throw .numberOutOfRange
  else return (zero negative, rest)

/-- Reads the exponent of a number, if there is one. -/
def finish (negative : Bool) (significand : Nat) (exponent : Int) (cs : List Char) :
    Except ReadError (Number × List Char) :=
  match cs with
  | 'e' :: rest => readExponent negative significand exponent rest
  | 'E' :: rest => readExponent negative significand exponent rest
  | rest => do return (← scale negative significand exponent, rest)

/-- Reads the digits after the point and what follows them. -/
def readFraction (negative : Bool) (significand : Nat) (exponent : Int) (cs : List Char) :
    Except ReadError (Number × List Char) := do
  let (digits, rest) := splitDigits cs
  if digits.isEmpty then throw (digitFault rest)
  let (value, beyond) := gather largestInteger significand digits
  finish negative value (exponent - (digits.length - beyond.length : Nat)) rest

/-- The number of an integer without point and exponent. -/
def integral (negative : Bool) (n : Nat) : Number :=
  if negative then
    if n = 0 ∨ Nat.pow 2 63 < n then .double (-n.toUInt64.toFloat).toBits
    else .integer (-(n : Int))
  else .integer n

/-- Reads a number after its sign. -/
def readUnsigned (negative : Bool) (cs : List Char) : Except ReadError (Number × List Char) := do
  let (digits, rest) := splitDigits cs
  match digits with
  | [] => throw (digitFault rest)
  | '0' :: _ :: _ => throw .badNumber
  | digits =>
      let (n, beyond) := gather largestInteger 0 digits
      match rest with
      | '.' :: rest => readFraction negative n beyond.length rest
      | rest =>
          if rest.head? = some 'e' ∨ rest.head? = some 'E' ∨ beyond ≠ [] then
            finish negative n beyond.length rest
          else return (integral negative n, rest)

/-- Reads a number. -/
def Reader.number : Reader Number := do
  let (n, rest) ←
    match ← get with
    | '-' :: cs => (readUnsigned true cs : Except ReadError _)
    | cs => (readUnsigned false cs : Except ReadError _)
  set rest
  return n

/-- Passes over digits, of which there must be one. -/
def skipDigits (cs : List Char) : Except ReadError (List Char) :=
  match splitDigits cs with
  | ([], _) => .error .badNumber
  | (_, rest) => .ok rest

/-- Passes over the exponent of a number, if there is one. -/
def skipExponent (cs : List Char) : Except ReadError (List Char) :=
  let unsigned (rest : List Char) : List Char :=
    if rest.head? = some '+' ∨ rest.head? = some '-' then rest.tail else rest
  match cs with
  | 'e' :: rest => skipDigits (unsigned rest)
  | 'E' :: rest => skipDigits (unsigned rest)
  | rest => .ok rest

/-- Passes over the fraction and the exponent of a number, as far as there are any. -/
def skipFraction : List Char → Except ReadError (List Char)
  | '.' :: rest => do skipExponent (← skipDigits rest)
  | rest => skipExponent rest

/-- Passes over a number, whatever its size. -/
def Reader.skipNumber : Reader Unit := do
  let cs := (← get)
  let cs := if cs.head? = some '-' then cs.tail else cs
  let (digits, rest) := splitDigits cs
  match digits with
  | [] => throw .badNumber
  | '0' :: _ :: _ => throw .badNumber
  | _ => set (← (skipFraction rest : Except ReadError _))

end Settlement.Json
