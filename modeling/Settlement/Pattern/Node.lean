import Settlement.Unicode.Class

/-!
# Patterns as trees

A pattern is a tree of characters, conditions on places, sequences, choices and repetitions. 
Matching works on sets of places: a place lies before, between or after the characters of a text,
and a set of places is the number whose binary digits say which places belong to it.  Each node maps
the set of places where it may begin to the set of those where it may end, so that a text matches
when some place can be reached from some place.
-/

namespace Settlement.Pattern

open Unicode (CharSet)

/-- A condition on the characters before and after a place.  The conditions on words come with the
set of the characters that words are made of. -/
inductive Look where
  | textStart
  | textEnd
  | lineStart
  | lineEnd
  /-- Lines that end in a line feed, a carriage return, or both. -/
  | anyLineStart
  | anyLineEnd
  | wordBoundary (word : CharSet)
  | notWordBoundary (word : CharSet)
  | wordStart (word : CharSet)
  | wordEnd (word : CharSet)
  | wordStartHalf (word : CharSet)
  | wordEndHalf (word : CharSet)
deriving DecidableEq

/-- A pattern. -/
inductive Node where
  | empty
  | set (chars : CharSet)
  | look (condition : Look)
  | seq (first second : Node)
  | alt (left right : Node)
  /-- At least `least` and at most `most` times the same pattern. -/
  | repeated (least : Nat) (most : Option Nat) (body : Node)
deriving DecidableEq

/-- Whether a condition holds between two characters, either of which may be missing. -/
def Look.holds (look : Look) (before after : Option Char) : Bool :=
  let isWord (word : CharSet) (c : Option Char) : Bool := c.any word.mem
  match look with
  | .textStart => before.isNone
  | .textEnd => after.isNone
  | .lineStart => before.all (· == '\n')
  | .lineEnd => after.all (· == '\n')
  | .anyLineStart =>
      before.all fun c => c == '\n' || (c == '\r' && after != some '\n')
  | .anyLineEnd =>
      after.all fun c => c == '\r' || (c == '\n' && before != some '\r')
  | .wordBoundary word => isWord word before != isWord word after
  | .notWordBoundary word => isWord word before == isWord word after
  | .wordStart word => !isWord word before && isWord word after
  | .wordEnd word => isWord word before && !isWord word after
  | .wordStartHalf word => !isWord word before
  | .wordEndHalf word => !isWord word after

/-- The places of a text at which a test on the characters around them holds, the first place being
number `place`. -/
def placesWhere (test : Option Char → Option Char → Bool) :
    (place : Nat) → (before : Option Char) → List Char → Nat
  | place, before, [] => if test before none then 1 <<< place else 0
  | place, before, c :: rest =>
      (if test before (some c) then 1 <<< place else 0)
        ||| placesWhere test (place + 1) (some c) rest

/-- Applies a function up to `n` times, but no more once it changes nothing. -/
def iterate (f : Nat → Nat) : Nat → Nat → Nat
  | 0, x => x
  | n + 1, x =>
      let y := f x
      if y = x then x else iterate f n y

/-- The places where a pattern may end that begins at one of some places. -/
def Node.ends (text : List Char) : Node → Nat → Nat
  | .empty, places => places
  | .set chars, places =>
      (places &&& placesWhere (fun _ after => after.any chars.mem) 0 none text) <<< 1
  | .look condition, places => places &&& placesWhere condition.holds 0 none text
  | .seq first second, places => second.ends text (first.ends text places)
  | .alt left right, places => left.ends text places ||| right.ends text places
  | .repeated least most body, places =>
      let start := iterate (body.ends text) least places
      -- a text of `n` characters has `n + 1` places
      iterate (fun reached => reached ||| body.ends text reached)
        (match most with
          | some most => most - least
          | none => text.length + 1)
        start

/-- Whether a pattern matches some part of a text. -/
def Node.isMatch (node : Node) (text : String) : Bool :=
  let chars := text.toList
  node.ends chars (Nat.pow 2 (chars.length + 1) - 1) != 0

/-- Whether a pattern can only match the empty text. -/
def Node.isVoid : Node → Bool
  | .empty => true
  | .set _ => false
  | .look _ => true
  | .seq first second => first.isVoid && second.isVoid
  | .alt left right => left.isVoid && right.isVoid
  | .repeated _ most body => body.isVoid || most == some 0

/-- The room, in bytes, that a set of characters takes in an automaton over encoded text. -/
def setRoom (chars : CharSet) : Nat :=
  chars.ranges.foldl (fun room r => room + if r.2 < 0x80 then 8 else 60) 32

/-- The room, in bytes, that a pattern takes in an automaton, where repetitions are written out. -/
def Node.room : Node → Nat
  | .empty => 32
  | .set chars => if chars.ranges.length = 1 && chars.isBelow 0x80 then 32 else setRoom chars
  | .look _ => 32
  | .seq first second => first.room + second.room
  | .alt left right => left.room + right.room + 64
  | .repeated least most body =>
      let once := body.room
      let least := if body.isVoid then min least 1 else least
      match most with
      | none => (max least 1) * once + 64
      | some most =>
          let most := if body.isVoid then min most 1 else most
          least * once + (most - least) * (once + 64)

/-- The room that a pattern may take. -/
def roomLimit : Nat :=
  10 * Nat.pow 2 20

end Settlement.Pattern
