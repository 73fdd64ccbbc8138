/-!
# Sets of characters

A set of characters is a list of ranges of code points, in increasing order and with a gap between
each two neighbours.  Surrogate code points count like the others, but no character is one.

Data about characters is written as runs: a text of hexadecimal numbers, in which the length of each
gap is followed by the length of the range after it.
-/

namespace Settlement.Unicode

/-- A set of code points, as ranges with both ends included. -/
structure CharSet where
  ranges : List (Nat × Nat) := []
deriving DecidableEq

/-- The value of a hexadecimal digit. -/
def hexDigit? (c : Char) : Option Nat :=
  if '0' ≤ c ∧ c ≤ '9' then some (c.toNat - '0'.toNat)
  else if 'a' ≤ c ∧ c ≤ 'f' then some (c.toNat - 'a'.toNat + 10)
  else if 'A' ≤ c ∧ c ≤ 'F' then some (c.toNat - 'A'.toNat + 10)
  else none

/-- The number that a list of hexadecimal digits writes, other characters being passed over. -/
def hexValue (digits : List Char) : Nat :=
  digits.foldl (fun n c => 16 * n + (hexDigit? c).getD 0) 0

/-- The hexadecimal numbers of a text, which are set apart by blanks and line ends. -/
def hexWords (text : String) : List Nat :=
  let isDigit (c : Char) : Bool := (hexDigit? c).isSome
  (text.toList.splitBy fun a b => isDigit a == isDigit b).filterMap fun word =>
    if word.any isDigit then some (hexValue word) else none

namespace CharSet

/-- The largest code point. -/
def last : Nat :=
  0x10FFFF

/-- Whether a code point belongs to a set. -/
def contains (s : CharSet) (c : Nat) : Bool :=
  s.ranges.any fun r => r.1 ≤ c && c ≤ r.2

/-- Whether a character belongs to a set. -/
def mem (s : CharSet) (c : Char) : Bool :=
  s.contains c.toNat

/-- Joins a range with the ranges of an increasing list that touch it. -/
def absorb : Nat × Nat → List (Nat × Nat) → List (Nat × Nat)
  | r, [] => [r]
  | r, next :: rest =>
      if next.1 ≤ r.2 + 1 then absorb (r.1, max r.2 next.2) rest
      else r :: absorb next rest

/-- The set of the code points of some ranges, which may overlap and come in any order. -/
def ofRanges (ranges : List (Nat × Nat)) : CharSet :=
  match (ranges.filter fun r => r.1 ≤ r.2).mergeSort fun a b => a.1 ≤ b.1 with
  | [] => ⟨[]⟩
  | r :: rest => ⟨absorb r rest⟩

/-- The characters from one to another. -/
def range (first final : Char) : CharSet :=
  ofRanges [(first.toNat, final.toNat)]

/-- All code points. -/
def all : CharSet :=
  ⟨[(0, last)]⟩

/-- The gaps of an increasing list of ranges, from a code point on. -/
def gaps : Nat → List (Nat × Nat) → List (Nat × Nat)
  | start, [] => if start ≤ last then [(start, last)] else []
  | start, (first, final) :: rest =>
      if start < first then (start, first - 1) :: gaps (final + 1) rest
      else gaps (final + 1) rest

/-- The code points outside a set. -/
def compl (s : CharSet) : CharSet :=
  ⟨gaps 0 s.ranges⟩

/-- The code points of one set or the other. -/
def union (s t : CharSet) : CharSet :=
  ofRanges (s.ranges ++ t.ranges)

/-- The code points of some set of a list. -/
def unions (sets : List CharSet) : CharSet :=
  ofRanges (sets.flatMap (·.ranges))

/-- The code points of both sets. -/
def inter (s t : CharSet) : CharSet :=
  (s.compl.union t.compl).compl

/-- The code points of the first set outside the second. -/
def diff (s t : CharSet) : CharSet :=
  s.inter t.compl

/-- The code points of exactly one of the two sets. -/
def symmDiff (s t : CharSet) : CharSet :=
  (s.diff t).union (t.diff s)

/-- Whether all members of the set are below a code point. -/
def isBelow (s : CharSet) (limit : Nat) : Bool :=
  s.ranges.all fun r => r.2 < limit

/-- Whether the set has no members. -/
def isEmpty (s : CharSet) : Bool :=
  s.ranges.isEmpty

/-- Lays out alternating gaps and lengths from a code point on. -/
def layRuns : Nat → List Nat → List (Nat × Nat)
  | start, gap :: length :: rest =>
      (start + gap, start + gap + length - 1) :: layRuns (start + gap + length) rest
  | _, _ => []

/-- The set that a text of runs describes. -/
def ofRuns (runs : String) : CharSet :=
  ⟨layRuns 0 (hexWords runs)⟩

end CharSet

/-- A set of characters with the names it goes by. -/
structure NamedSet where
  names : List String
  /-- The members, as runs. -/
  runs : String

/-- The members of a named set. -/
def NamedSet.set (entry : NamedSet) : CharSet :=
  .ofRuns entry.runs

/-- The set of a table that goes by a name. -/
def NamedSet.find? (table : List NamedSet) (name : String) : Option CharSet :=
  (table.find? fun entry => entry.names.contains name).map (·.set)

end Settlement.Unicode
