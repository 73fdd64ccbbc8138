import Settlement.Json.Record

/-!
# JSON texts as trees

A JSON text is the text of a tree that keeps everything in it: how each string is spelled, how each
number is written, and the blanks between tokens.  A string may be spelled with halves of surrogate
pairs that stand alone; then it spells no text.  A number may be written that is out of range.  So
not every tree can be read as a value, and `Readable` says which ones can.
-/

namespace Settlement.Json

/-- Blanks between tokens. -/
abbrev Blanks :=
  { cs : List Char // ∀ c ∈ cs, Reader.isBlank c = true }

/-- Something between blanks. -/
structure Padded (α : Type) where
  before : Blanks
  inner : α
  after : Blanks

theorem Padded.sizeOf_inner_lt {α : Type} [SizeOf α] {l : List (Padded α)} {p : Padded α}
    (member : p ∈ l) : sizeOf p.inner < sizeOf l := by
  have smaller := List.sizeOf_lt_of_mem member
  rcases p with ⟨before, inner, after⟩
  simp only [Padded.mk.sizeOf_spec] at smaller ⊢
  omega

theorem Padded.sizeOf_inner_snd_lt {α β : Type} [SizeOf α] [SizeOf β]
    {l : List (Padded α × Padded β)} {m : Padded α × Padded β} (member : m ∈ l) :
    sizeOf m.2.inner < sizeOf l := by
  have smaller := List.sizeOf_lt_of_mem member
  rcases m with ⟨key, before, inner, after⟩
  simp only [Prod.mk.sizeOf_spec, Padded.mk.sizeOf_spec] at smaller ⊢
  omega

/-! ## Strings -/

/-- What stands between the quotes of a string. -/
inductive Piece where
  /-- A character that stands for itself. -/
  | plain (c : Char) (noQuote : c ≠ '"') (noEscape : c ≠ '\\') (noControl : ¬c < ' ')
  /-- An escape of one letter. -/
  | escape (letter c : Char) (escapes : escapedChar? letter = some c)
  /-- An escape of four hexadecimal digits. -/
  | code (a b c d : Char) (n : Nat) (codes : hexCode? a b c d = some n)

namespace Piece

/-- How a piece is written: as the character that it is, or as an escape behind a backslash. -/
def text : Piece → List Char
  | .plain c _ _ _ => [c]
  | .escape letter _ _ => ['\\', letter]
  | .code a b c d _ _ => ['\\', 'u', a, b, c, d]

/-- The characters that are spelled, if all surrogates come in pairs. -/
def spell? : List Piece → Option (List Char)
  | [] => some []
  | .plain c _ _ _ :: rest => (spell? rest).map (c :: ·)
  | .escape _ c _ :: rest => (spell? rest).map (c :: ·)
  | .code _ _ _ _ n _ :: rest =>
      if isLowSurrogate n then none
      else if isHighSurrogate n then
        match rest with
        | .code _ _ _ _ m _ :: rest =>
            if isLowSurrogate m then (spell? rest).map (surrogatePair n m :: ·) else none
        | _ => none
      else (spell? rest).map (Char.ofNat n :: ·)

end Piece

/-- A string by its pieces. -/
abbrev Literal :=
  List Piece

namespace Literal

/-- The text after the opening quote. -/
def body (l : Literal) : List Char :=
  l.flatMap Piece.text ++ ['"']

/-- The text between its quotes, both of them included. -/
def text (l : Literal) : List Char :=
  '"' :: l.body

/-- The string that is spelled. -/
def string? (l : Literal) : Option String :=
  (Piece.spell? l).map String.ofList

end Literal

/-! ## Numbers -/

/-- Digits, at least one. -/
structure Digits where
  text : List Char
  isNonempty : text ≠ []
  areDigits : ∀ c ∈ text, c.isDigit = true

/-- The sign of an exponent. -/
inductive Sign where
  | none
  | plus
  | minus

namespace Sign

/-- The sign as it is written, which may be left out. -/
def text : Sign → List Char
  | .none => []
  | .plus => ['+']
  | .minus => ['-']

/-- Whether an exponent is below zero. -/
def isDown : Sign → Bool
  | .minus => true
  | _ => false

end Sign

/-- The exponent of a number. -/
structure Exponent where
  letter : Char
  isLetter : letter = 'e' ∨ letter = 'E'
  sign : Sign
  digits : Digits

/-- How a number is written. -/
structure Numeral where
  negative : Bool
  whole : Digits
  noLeadingZero : whole.text.head? = some '0' → whole.text = ['0']
  fraction : Option Digits
  exponent : Option Exponent

namespace Numeral

/-- The point and the digits behind it, or nothing. -/
def fractionText : Option Digits → List Char
  | none => []
  | some digits => '.' :: digits.text

/-- The exponent with its letter, or nothing. -/
def exponentText : Option Exponent → List Char
  | none => []
  | some e => e.letter :: (e.sign.text ++ e.digits.text)

/-- The numeral as it is written: sign, whole digits, fraction and exponent. -/
def text (n : Numeral) : List Char :=
  (if n.negative then ['-'] else []) ++ n.whole.text ++ fractionText n.fraction ++
    exponentText n.exponent

/-- The number that is written, if it is in range. -/
def value? (n : Numeral) : Option Number :=
  (Reader.number.run n.text).toOption.map Prod.fst

end Numeral

/-! ## Trees -/

/-- A JSON value as it is written. -/
inductive Tree where
  | null
  | bool (value : Bool)
  | number (numeral : Numeral)
  | text (literal : Literal)
  | list (lead : Blanks) (items : List (Padded Tree))
  | object (lead : Blanks) (members : List (Padded Literal × Padded Tree))

/-- A member of an object: its key and its value. -/
abbrev Member :=
  Padded Literal × Padded Tree

namespace Tree

/-- What holds of a tree if it holds of its parts holds of all trees. -/
@[induction_eliminator]
theorem induct {motive : Tree → Prop} (null : motive .null) (bool : ∀ b, motive (.bool b))
    (number : ∀ n, motive (.number n)) (text : ∀ l, motive (.text l))
    (list : ∀ lead items, (∀ item ∈ items, motive item.inner) → motive (.list lead items))
    (object : ∀ lead members, (∀ m ∈ members, motive m.2.inner) → motive (.object lead members))
    (t : Tree) : motive t :=
  match t with
  | .null => null
  | .bool b => bool b
  | .number n => number n
  | .text l => text l
  | .list lead items =>
      list lead items fun item _ => induct null bool number text list object item.inner
  | .object lead members =>
      object lead members fun m _ => induct null bool number text list object m.2.inner
termination_by t
decreasing_by
  · rename_i member
    have smaller := Padded.sizeOf_inner_lt member
    simp only [Tree.list.sizeOf_spec]
    omega
  · rename_i member
    have smaller := Padded.sizeOf_inner_snd_lt member
    simp only [Tree.object.sizeOf_spec]
    omega

/-- The text of a tree. -/
def write : Tree → List Char
  | .null => ['n', 'u', 'l', 'l']
  | .bool true => ['t', 'r', 'u', 'e']
  | .bool false => ['f', 'a', 'l', 's', 'e']
  | .number n => n.text
  | .text l => l.text
  | .list lead items =>
      '[' :: lead.val ++
        separated (items.map fun item => item.before.val ++ item.inner.write ++ item.after.val) ++
        [']']
  | .object lead members =>
      '\x7b' :: lead.val ++
        separated (members.map fun m =>
          m.1.before.val ++ m.1.inner.text ++ m.1.after.val ++
            ':' :: (m.2.before.val ++ m.2.inner.write ++ m.2.after.val)) ++
        ['\x7d']
termination_by t => t
decreasing_by
  · rename_i member
    have smaller := Padded.sizeOf_inner_lt member
    simp only [Tree.list.sizeOf_spec]
    omega
  · rename_i member
    have smaller := Padded.sizeOf_inner_snd_lt member
    simp only [Tree.object.sizeOf_spec]
    omega

/-- A tree that can be read as a value: at most `depth` containers are inside one another, numbers
are in range, and strings spell texts. -/
inductive Readable : (depth : Nat) → Tree → Prop where
  | null {depth : Nat} : Readable depth .null
  | bool {depth : Nat} {b : Bool} : Readable depth (.bool b)
  | number {depth : Nat} {n : Numeral} : n.value?.isSome → Readable depth (.number n)
  | text {depth : Nat} {l : Literal} : l.string?.isSome → Readable depth (.text l)
  | list {depth : Nat} {lead : Blanks} {items : List (Padded Tree)} :
      (∀ item ∈ items, Readable depth item.inner) → Readable (depth + 1) (.list lead items)
  | object {depth : Nat} {lead : Blanks} {members : List Member} :
      (∀ m ∈ members, m.1.inner.string?.isSome) → (∀ m ∈ members, Readable depth m.2.inner) →
      Readable (depth + 1) (.object lead members)

end Tree

end Settlement.Json
