import Settlement.Pattern.Node
import Settlement.Unicode.Folding
import Settlement.Unicode.Query

/-!
# Reading patterns

The notation of patterns.  Switches in parentheses change how the rest of the enclosing group is
read: without regard to case, with `^` and `$` at every line, with a dot that matches line ends,
with blanks and comments, and by ASCII rules.  By ASCII rules a set may only hold ASCII characters,
because all others are more than one byte long.

Only well-formed patterns have a reading, and only those that nest and unfold within limits.
-/

namespace Settlement.Pattern

open Unicode (CharSet hexDigit? hexValue)

/-- The switches in force at one place of a pattern. -/
structure Flags where
  ignoreCase : Bool := false
  multiLine : Bool := false
  dotAll : Bool := false
  swapGreed : Bool := false
  unicode : Bool := true
  crlf : Bool := false
  verbose : Bool := false
deriving DecidableEq

/-- What a reader of patterns keeps: the rest of the text, the switches, and the names of groups. -/
structure State where
  rest : List Char
  flags : Flags := {}
  names : List (List Char) := []

/-- A step over a pattern, which fails where the pattern is not well formed. -/
abbrev Parser :=
  StateT State Option

/-- A part of a pattern, and how deeply it nests. -/
structure Piece where
  node : Node
  height : Nat := 0
  /-- The part only sets switches, and cannot be repeated. -/
  isSwitch : Bool := false

/-- What stands at one place of a pattern or of a set. -/
inductive Atom where
  | literal (c : Char)
  | set (chars : CharSet)
  | look (condition : Look)

namespace Parser

/-- Characters that do not count in a verbose pattern. -/
def isBlank (c : Char) : Bool :=
  Unicode.whiteSpace.mem c

/-- Passes over blanks and comments. -/
def dropBlanks : (inComment : Bool) → List Char → List Char
  | _, [] => []
  | true, c :: rest => dropBlanks (c != '\n') rest
  | false, c :: rest =>
      if isBlank c then dropBlanks false rest
      else if c == '#' then dropBlanks true rest
      else c :: rest

/-- Passes over what does not count, in a verbose pattern. -/
def space : Parser Unit :=
  modify fun s => if s.flags.verbose then { s with rest := dropBlanks false s.rest } else s

/-- The next character, if there is one. -/
def peek? : Parser (Option Char) :=
  return (← get).rest.head?

/-- The next character. -/
def peek : Parser Char := do
  (← get).rest.head?

/-- Takes the next character. -/
def bump : Parser Unit :=
  modify fun s => { s with rest := s.rest.tail }

/-- Takes the next character and what does not count after it. -/
def bumpSpace : Parser Unit := do
  bump
  space

/-- Takes the next character and requires another one. -/
def bumpOn : Parser Unit := do
  bumpSpace
  let _ ← peek

/-- Takes a given text if it comes next. -/
def bumpIf (text : String) : Parser Bool := do
  let s ← get
  if text.toList.isPrefixOf s.rest then
    set { s with rest := s.rest.drop text.length }
    return true
  else return false

/-- The character after the next one, as far as a range of a set is concerned. -/
def peekSecond? : Parser (Option Char) := do
  let s ← get
  let rest := s.rest.tail
  if s.flags.verbose then
    let afterBlanks := rest.dropWhile isBlank
    let body :=
      match afterBlanks with
      | '#' :: comment => comment.dropWhile fun c => isBlank c || c == '#'
      | other => other
    return if body.isEmpty then rest.head? else body.head?
  else return rest.head?

/-- Gathers characters as long as a test holds, with what does not count between them. -/
def gather (test : Char → Bool) : Nat → Parser (List Char)
  | 0 => return []
  | fuel + 1 => do
      match ← peek? with
      | some c =>
          if test c then
            bumpSpace
            return c :: (← gather test fuel)
          else return []
      | none => return []

/-- Gathers all characters for which a test holds. -/
def gatherAll (test : Char → Bool) : Parser (List Char) := do
  gather test (← get).rest.length

/-! ## Sets of characters -/

/-- Whether a set may stand in a pattern: by ASCII rules it may hold ASCII characters only. -/
def admitted (flags : Flags) (s : CharSet) : Option CharSet :=
  if flags.unicode || s.isBelow 0x80 then some s else none

/-- The set with the letters that count as the same. -/
def foldCase (flags : Flags) (s : CharSet) : CharSet :=
  if !flags.ignoreCase then s
  else if flags.unicode then s.foldCase
  else s.foldAsciiCase

/-- A set after folding of case and negation. -/
def finishSet (flags : Flags) (isNegated : Bool) (s : CharSet) : Option CharSet :=
  let s := foldCase flags s
  admitted flags (if isNegated then s.compl else s)

/-- ASCII letters, digits and the underscore. -/
def asciiWord : CharSet :=
  .ofRanges [(0x30, 0x39), (0x41, 0x5A), (0x5F, 0x5F), (0x61, 0x7A)]

/-- The characters that words are made of. -/
def wordSet (flags : Flags) : CharSet :=
  if flags.unicode then Unicode.word else asciiWord

/-- The digits. -/
def digitSet (flags : Flags) : CharSet :=
  if flags.unicode then Unicode.digit else .range '0' '9'

/-- The blanks. -/
def blankSet (flags : Flags) : CharSet :=
  if flags.unicode then Unicode.whiteSpace else .ofRanges [(0x09, 0x0D), (0x20, 0x20)]

/-- The ASCII characters of a class with a name. -/
def asciiClass? : String → Option CharSet
  | "alnum" => some (.ofRanges [(0x30, 0x39), (0x41, 0x5A), (0x61, 0x7A)])
  | "alpha" => some (.ofRanges [(0x41, 0x5A), (0x61, 0x7A)])
  | "ascii" => some (.ofRanges [(0, 0x7F)])
  | "blank" => some (.ofRanges [(0x09, 0x09), (0x20, 0x20)])
  | "cntrl" => some (.ofRanges [(0, 0x1F), (0x7F, 0x7F)])
  | "digit" => some (.ofRanges [(0x30, 0x39)])
  | "graph" => some (.ofRanges [(0x21, 0x7E)])
  | "lower" => some (.ofRanges [(0x61, 0x7A)])
  | "print" => some (.ofRanges [(0x20, 0x7E)])
  | "punct" => some (.ofRanges [(0x21, 0x2F), (0x3A, 0x40), (0x5B, 0x60), (0x7B, 0x7E)])
  | "space" => some (.ofRanges [(0x09, 0x0D), (0x20, 0x20)])
  | "upper" => some (.ofRanges [(0x41, 0x5A)])
  | "word" => some asciiWord
  | "xdigit" => some (.ofRanges [(0x30, 0x39), (0x41, 0x46), (0x61, 0x66)])
  | _ => none

/-! ## Escapes -/

/-- The character with a number, if there is one. -/
def scalar? (n : Nat) : Option Char :=
  if h : n.isValidChar then some (Char.ofNatAux n h) else none

/-- Whether a character is a hexadecimal digit. -/
def isHex (c : Char) : Bool :=
  (hexDigit? c).isSome

/-- Exactly `n` hexadecimal digits. -/
def hexDigits : Nat → Parser (List Char)
  | 0 => return []
  | n + 1 => do
      let c ← peek
      guard (isHex c)
      bumpSpace
      return c :: (← hexDigits n)

/-- A character by its number, after the backslash and at the letter `x`, `u` or `U`. -/
def hexEscape (digits : Nat) : Parser Char := do
  bumpOn
  if (← peek) == '\x7b' then
    bumpSpace
    let digits ← gatherAll isHex
    guard ((← peek) == '\x7d')
    bumpSpace
    guard (!digits.isEmpty)
    scalar? (hexValue digits)
  else
    let c ← scalar? (hexValue (← hexDigits digits))
    -- by ASCII rules two digits name a byte
    guard (digits != 2 || c.toNat < 0x80 || (← get).flags.unicode)
    return c

/-- Splits a text at the first place where another one begins. -/
def splitAt (mark : List Char) : List Char → Option (List Char × List Char)
  | [] => none
  | c :: rest =>
      if mark.isPrefixOf (c :: rest) then some ([], (c :: rest).drop mark.length)
      else (splitAt mark rest).map fun (before, after) => (c :: before, after)

/-- The characters with a property, after the backslash and at the letter `p` or `P`.  A colon, an
equality sign and `!=` all set a property apart from its value, and none of them negates. -/
def propertyEscape (isNegated : Bool) : Parser CharSet := do
  guard (← get).flags.unicode
  bumpOn
  let c ← peek
  let found ←
    if c == '\x7b' then do
      bumpSpace
      let name ← gatherAll (· != '\x7d')
      guard ((← peek) == '\x7d')
      bump
      match splitAt ['!', '='] name <|> splitAt [':'] name <|> splitAt ['='] name with
      | some (property, value) => Unicode.valued? property value
      | none => Unicode.named? name
    else do
      guard (c != '\\')
      bumpSpace
      Unicode.named? [c]
  finishSet (← get).flags isNegated found

/-- The condition on words that stands in braces after `\b`, if one does. -/
def specialBoundary? : Parser (Option Look) := do
  let isLetter (c : Char) : Bool := c.isAlpha || c == '-'
  if (← peek?) != some '\x7b' then return none
  let s ← get
  bumpOn
  if !isLetter (← peek) then
    set s
    return none
  let name ← gatherAll isLetter
  guard ((← peek) == '\x7d')
  bump
  let word := wordSet s.flags
  match String.ofList name with
  | "start" => return some (.wordStart word)
  | "end" => return some (.wordEnd word)
  | "start-half" => return some (.wordStartHalf word)
  | "end-half" => return some (.wordEndHalf word)
  | _ => failure

/-- Whether a backslash before a character only takes away its meaning. -/
def isEscapable (c : Char) : Bool :=
  c.toNat < 0x80 && !c.isAlphanum && c != '<' && c != '>'

/-- What a backslash and the text after it stand for. -/
def escape : Parser Atom := do
  bump
  let c ← peek
  let flags := (← get).flags
  let plain (s : CharSet) (isNegated : Bool) : Parser Atom := do
    bump
    return .set (← (admitted flags (if isNegated then s.compl else s) : Option CharSet))
  let one (atom : Atom) : Parser Atom := do
    bump
    return atom
  match c with
  | 'x' => return .literal (← hexEscape 2)
  | 'u' => return .literal (← hexEscape 4)
  | 'U' => return .literal (← hexEscape 8)
  | 'p' => return .set (← propertyEscape false)
  | 'P' => return .set (← propertyEscape true)
  | 'd' => plain (digitSet flags) false
  | 'D' => plain (digitSet flags) true
  | 's' => plain (blankSet flags) false
  | 'S' => plain (blankSet flags) true
  | 'w' => plain (wordSet flags) false
  | 'W' => plain (wordSet flags) true
  | 'a' => one (.literal '\x07')
  | 'f' => one (.literal '\x0c')
  | 't' => one (.literal '\t')
  | 'n' => one (.literal '\n')
  | 'r' => one (.literal '\r')
  | 'v' => one (.literal '\x0b')
  | 'A' => one (.look .textStart)
  | 'z' => one (.look .textEnd)
  | 'B' => one (.look (.notWordBoundary (wordSet flags)))
  | '<' => one (.look (.wordStart (wordSet flags)))
  | '>' => one (.look (.wordEnd (wordSet flags)))
  | 'b' =>
      bump
      return .look ((← specialBoundary?).getD (.wordBoundary (wordSet flags)))
  | c =>
      guard (isEscapable c)
      one (.literal c)

/-! ## Sets in brackets -/

/-- A set that has been read, and how deeply it nests. -/
structure ReadSet where
  set : CharSet
  height : Nat := 0

/-- How two sets are combined. -/
inductive SetOp where
  | inter
  | diff
  | symmDiff

/-- All members of some sets. -/
def unite (items : List ReadSet) : ReadSet :=
  match items with
  | [] => ⟨{}, 0⟩
  | [item] => item
  | items => ⟨.unions (items.map (·.set)), 1 + (items.map (·.height)).foldl max 0⟩

/-- The set on the right of an operation, combined with what stands on its left. -/
def combine (flags : Flags) (left : Option (SetOp × ReadSet)) (right : ReadSet) : ReadSet :=
  match left with
  | none => right
  | some (op, left) =>
      let a := foldCase flags left.set
      let b := foldCase flags right.set
      let set :=
        match op with
        | .inter => a.inter b
        | .diff => a.diff b
        | .symmDiff => a.symmDiff b
      ⟨set, 1 + max left.height right.height⟩

/-- A class of ASCII characters by name, such as `[:alpha:]`, if one comes next. -/
def asciiClass : Parser (Option ReadSet) := do
  let s ← get
  match s.rest with
  | '[' :: ':' :: rest =>
      let (isNegated, rest) :=
        match rest with
        | '^' :: rest => (true, rest)
        | rest => (false, rest)
      let name := rest.takeWhile (· != ':')
      match rest.dropWhile (· != ':') with
      | ':' :: ']' :: after =>
          match asciiClass? (String.ofList name) with
          | some chars =>
              set { s with rest := after }
              return some ⟨← (finishSet s.flags isNegated chars : Option CharSet), 0⟩
          | none => return none
      | _ => return none
  | _ => return none

/-- A character or an escape inside a set. -/
def setAtom : Parser Atom := do
  let c ← peek
  if c == '\\' then escape
  else
    bump
    return .literal c

/-- A character that may stand in a set. -/
def setChar (c : Char) : Parser CharSet := do
  admitted (← get).flags (.range c c)

/-- A character, an escape or a range inside a set. -/
def setItem : Parser ReadSet := do
  let first ← setAtom
  space
  let c ← peek
  let second? ← peekSecond?
  if c != '-' || second? == some ']' || second? == some '-' then
    match first with
    | .literal c => return ⟨← setChar c, 0⟩
    | .set chars => return ⟨chars, 0⟩
    | .look _ => failure
  else
    bumpOn
    match first, ← setAtom with
    | .literal a, .literal b =>
        guard (a ≤ b)
        let _ ← setChar a
        let _ ← setChar b
        return ⟨.range a b, 0⟩
    | _, _ => failure

/-- The hyphens at the beginning of a set, which stand for themselves. -/
def leadingHyphens : Nat → Parser (List ReadSet)
  | 0 => return []
  | fuel + 1 => do
      if (← peek) == '-' then
        bumpOn
        return ⟨.range '-' '-', 0⟩ :: (← leadingHyphens fuel)
      else return []

mutual

/-- A set in brackets, at its opening bracket. -/
def bracketed : Nat → Parser ReadSet
  | 0 => failure
  | fuel + 1 => do
      bumpOn
      let isNegated := (← peek) == '^'
      if isNegated then bumpOn
      let hyphens ← leadingHyphens (← get).rest.length
      let items ←
        if hyphens.isEmpty && (← peek) == ']' then do
          bumpOn
          pure [⟨.range ']' ']', 0⟩]
        else pure hyphens
      let inner ← setBody fuel none items
      let chars ← finishSet (← get).flags isNegated inner.set
      return ⟨chars, inner.height + 1⟩

/-- The rest of a set up to its closing bracket, after an operation and some items. -/
def setBody : Nat → Option (SetOp × ReadSet) → List ReadSet → Parser ReadSet
  | 0, _, _ => failure
  | fuel + 1, left, items => do
      space
      let flags := (← get).flags
      let whole := combine flags left (unite items)
      match ← peek with
      | '[' =>
          match ← asciiClass with
          | some item => setBody fuel left (items ++ [item])
          | none =>
              let inner ← bracketed fuel
              setBody fuel left (items ++ [inner])
      | ']' =>
          bump
          return whole
      | _ =>
          if ← bumpIf "&&" then setBody fuel (some (.inter, whole)) []
          else if ← bumpIf "--" then setBody fuel (some (.diff, whole)) []
          else if ← bumpIf "~~" then setBody fuel (some (.symmDiff, whole)) []
          else
            let item ← setItem
            setBody fuel left (items ++ [item])

end

/-! ## Groups and repetitions -/

/-- A switch by its letter. -/
def switch? : Char → Option (Bool → Flags → Flags)
  | 'i' => some fun on flags => { flags with ignoreCase := on }
  | 'm' => some fun on flags => { flags with multiLine := on }
  | 's' => some fun on flags => { flags with dotAll := on }
  | 'U' => some fun on flags => { flags with swapGreed := on }
  | 'u' => some fun on flags => { flags with unicode := on }
  | 'R' => some fun on flags => { flags with crlf := on }
  | 'x' => some fun on flags => { flags with verbose := on }
  | _ => none

/-- The switches up to `:` or `)`, applied in turn; no switch and no hyphen may come twice, and a
hyphen may not come last. -/
def readSwitches (isOn : Bool) (seen : List Char) (flags : Flags) : List Char →
    Option (Flags × List Char × List Char)
  | [] => none
  | c :: rest =>
      if c == ':' || c == ')' then
        if seen.head? == some '-' then none else some (flags, seen, c :: rest)
      else if seen.contains c then none
      else if c == '-' then readSwitches false (c :: seen) flags rest
      else
        match switch? c with
        | some f => readSwitches isOn (c :: seen) (f isOn flags) rest
        | none => none

/-- Whether a character may stand in the name of a group. -/
def isNameChar (isFirst : Bool) (c : Char) : Bool :=
  c == '_' || Unicode.alphabetic.mem c
    || (!isFirst && (c == '.' || c == '[' || c == ']' || Unicode.numeric.mem c))

/-- The name of a group and its closing angle bracket. -/
def groupName : Parser Unit := do
  let s ← get
  let name := s.rest.takeWhile (· != '>')
  let rest := s.rest.dropWhile (· != '>')
  guard (!rest.isEmpty)
  guard (!s.names.contains name)
  match name with
  | [] => failure
  | first :: others => guard (isNameChar true first && others.all (isNameChar false))
  set { s with rest := rest.tail, names := name :: s.names }

/-- A decimal number with blanks around it, or nothing. -/
def decimal? : Parser (Option Nat) := do
  modify fun s => { s with rest := s.rest.dropWhile isBlank }
  let digits ← gatherAll fun c => '0' ≤ c && c ≤ '9'
  let _ ← gatherAll isBlank
  if digits.isEmpty then return none
  let n := digits.foldl (fun n c => 10 * n + (c.toNat - '0'.toNat)) 0
  guard (n < Nat.pow 2 32)
  return some n

/-- Takes the question mark that makes a repetition reluctant; matching at all does not depend on
it. -/
def reluctance : Parser Unit := do
  if (← peek?) == some '?' then bump

/-- The bounds of a counted repetition, at its opening brace. -/
def bounds : Parser (Nat × Option Nat) := do
  bumpOn
  let least? ← decimal?
  let result ←
    if (← peek) != ',' then do
      let n ← least?
      pure (n, some n)
    else do
      bumpOn
      if (← peek) == '\x7d' then do
        let least ← least?
        pure (least, none)
      else do
        let least ← least?
        let most ← (← decimal?)
        guard (least ≤ most)
        pure (least, some most)
  guard ((← peek) == '\x7d')
  bumpSpace
  reluctance
  return result

/-- Parts one after the other. -/
def sequence (parts : List Piece) : Piece :=
  match parts with
  | [] => { node := .empty }
  | [part] => part
  | parts =>
      { node := parts.foldr (fun part node => .seq part.node node) .empty
        height := 1 + (parts.map (·.height)).foldl max 0 }

/-- A part repeated; the last of the parts before the operator. -/
def repeatLast (least : Nat) (most : Option Nat) (parts : List Piece) : Option (List Piece) :=
  match parts with
  | last :: before =>
      if last.isSwitch then none
      else some ({ node := .repeated least most last.node, height := last.height + 1 } :: before)
  | [] => none

/-- A dot, an anchor, an escape or a character that stands for itself. -/
def primitive : Parser Piece := do
  let c ← peek
  let flags := (← get).flags
  match c with
  | '\\' =>
      match ← escape with
      | .literal c => return { node := .set (foldCase flags (.range c c)) }
      | .set chars => return { node := .set chars }
      | .look condition => return { node := .look condition }
  | '.' =>
      bump
      guard flags.unicode
      let chars : CharSet :=
        if flags.dotAll then .all
        else if flags.crlf then (CharSet.ofRanges [(0x0A, 0x0A), (0x0D, 0x0D)]).compl
        else (CharSet.range '\n' '\n').compl
      return { node := .set chars }
  | '^' =>
      bump
      let anchor : Look :=
        if !flags.multiLine then .textStart else if flags.crlf then .anyLineStart else .lineStart
      return { node := .look anchor }
  | '$' =>
      bump
      let anchor : Look :=
        if !flags.multiLine then .textEnd else if flags.crlf then .anyLineEnd else .lineEnd
      return { node := .look anchor }
  | c =>
      bump
      return { node := .set (foldCase flags (.range c c)) }

/-- What opens a group: whether it has a body, or only sets switches. -/
def groupHead : Parser Bool := do
  bumpSpace
  if (← bumpIf "?=") || (← bumpIf "?!") || (← bumpIf "?<=") || (← bumpIf "?<!") then failure
  if (← bumpIf "?P<") || (← bumpIf "?<") then
    groupName
    return true
  else if ← bumpIf "?" then
    let s ← get
    let (flags, seen, rest) ← readSwitches true [] s.flags s.rest
    set { s with rest := rest.tail, flags := flags }
    if rest.head? == some ')' then
      guard (!seen.isEmpty)
      return false
    else return true
  else return true

mutual

/-- Choices up to the end of the enclosing group. -/
def choices : Nat → Parser Piece
  | 0 => failure
  | fuel + 1 => do
      let first ← branch fuel []
      let rest ← moreChoices fuel
      match rest with
      | [] => return first
      | rest =>
          let all := first :: rest
          return { node := rest.foldl (fun node part => .alt node part.node) first.node
                   height := 1 + (all.map (·.height)).foldl max 0 }

/-- The choices after a bar, as far as there are any. -/
def moreChoices : Nat → Parser (List Piece)
  | 0 => failure
  | fuel + 1 => do
      if (← peek?) == some '|' then
        bump
        let next ← branch fuel []
        return next :: (← moreChoices fuel)
      else return []

/-- One choice: parts one after the other, the last of those already read coming first. -/
def branch : Nat → List Piece → Parser Piece
  | 0, _ => failure
  | fuel + 1, parts => do
      space
      match ← peek? with
      | none => return sequence parts.reverse
      | some ')' => return sequence parts.reverse
      | some '|' => return sequence parts.reverse
      | some '(' =>
          let outer := (← get).flags
          if ← groupHead then
            let body ← choices fuel
            guard ((← peek) == ')')
            bump
            modify fun s => { s with flags := outer }
            branch fuel ({ node := body.node, height := body.height + 1 } :: parts)
          else branch fuel ({ node := .empty, isSwitch := true } :: parts)
      | some '[' =>
          let read ← bracketed fuel
          branch fuel ({ node := .set read.set, height := read.height } :: parts)
      | some '?' =>
          bump
          reluctance
          branch fuel (← repeatLast 0 (some 1) parts)
      | some '*' =>
          bump
          reluctance
          branch fuel (← repeatLast 0 none parts)
      | some '+' =>
          bump
          reluctance
          branch fuel (← repeatLast 1 none parts)
      | some '\x7b' =>
          let (least, most) ← bounds
          branch fuel (← repeatLast least most parts)
      | some _ =>
          let part ← primitive
          branch fuel (part :: parts)

end

end Parser

/-- How deeply a pattern may nest. -/
def heightLimit : Nat :=
  250

/-- The pattern that a text writes, if it is well formed and within the limits. -/
def parse? (source : String) : Option Node := do
  let chars := source.toList
  -- every call but the first two comes after a character that has been taken
  let (piece, final) ← (Parser.choices (3 * chars.length + 3)).run { rest := chars }
  guard final.rest.isEmpty
  guard (piece.height ≤ heightLimit)
  guard (piece.node.room ≤ roomLimit)
  return piece.node

end Settlement.Pattern

namespace Settlement

/-- A pattern with the text it was read from. -/
structure Pattern where
  source : String
  node : Pattern.Node
deriving DecidableEq

namespace Pattern

/-- Why a text is not a pattern; the text itself is reported beside it. -/
def rejection : String :=
  "<regex>"

/-- Reads a pattern. -/
def ofString (source : String) : Except String Pattern :=
  match parse? source with
  | some node => .ok { source, node }
  | none => .error rejection

/-- Whether a pattern matches some part of a text. -/
def isMatch (p : Pattern) (text : String) : Bool :=
  p.node.isMatch text

end Pattern

end Settlement
