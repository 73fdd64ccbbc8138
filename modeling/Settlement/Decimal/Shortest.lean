/-!
# Shortest decimals

The decimal with the fewest digits that still names a given floating-point number, and its notation.

A finite binary number is `m * 2 ^ q`; the reals that round to it form an interval around it, whose
ends are half way to its neighbours and belong to it when `m` is even.  On the grid of multiples of
`10 ^ k` one of the two neighbours of the number is in the interval as soon as any point is.  So the
coarsest grid with such a neighbour gives the fewest digits.  Of two neighbours the nearer one
counts, and of two that are equally near the even one.
-/

namespace Settlement.Decimal

/-- A positive binary number `m * 2 ^ q`, and whether it is the least with its exponent, so that the
number below it is half as far away as the one above. -/
structure Binary where
  m : Nat
  q : Int
  atBoundary : Bool
deriving DecidableEq

/-- The number behind the bits of a double, without its sign. -/
def Binary.ofBits (bits : UInt64) : Binary :=
  let fraction : Nat := bits.toNat % Nat.pow 2 52
  let exponent : Nat := bits.toNat / Nat.pow 2 52 % Nat.pow 2 11
  if exponent = 0 then ⟨fraction, -1074, false⟩
  else ⟨fraction + Nat.pow 2 52, (exponent : Int) - 1075, fraction = 0 && exponent != 1⟩

/-- The interval of a number `m * 2 ^ q` over a common denominator: lower end, the number itself and
upper end as numerators, and the denominator. -/
structure Span where
  low : Nat
  mid : Nat
  high : Nat
  den : Nat
  closed : Bool

/-- The reals that round to a number. -/
def Binary.span (b : Binary) : Span :=
  let up := Nat.pow 2 b.q.toNat
  let low := if b.atBoundary then 4 * b.m - 1 else 4 * b.m - 2
  ⟨low * up, 4 * b.m * up, (4 * b.m + 2) * up, 4 * Nat.pow 2 (-b.q).toNat, b.m % 2 = 0⟩

/-- Whether `n * 10 ^ k` lies in the interval. -/
def Span.contains (s : Span) (n : Nat) (k : Int) : Bool :=
  let x := n * Nat.pow 10 k.toNat * s.den
  let scale := Nat.pow 10 (-k).toNat
  if s.closed then s.low * scale ≤ x && x ≤ s.high * scale
  else s.low * scale < x && x < s.high * scale

/-- The neighbour on the grid of `10 ^ k` that stands for the number, if one does. -/
def Span.onGrid? (s : Span) (k : Int) : Option Nat :=
  let num := s.mid * Nat.pow 10 (-k).toNat
  let den := s.den * Nat.pow 10 k.toNat
  let below := num / den
  let above := below + 1
  match s.contains below k, s.contains above k with
  | true, true =>
      let twice := 2 * (num - below * den)
      some (if twice < den || twice == den && below % 2 == 0 then below else above)
  | true, false => some below
  | false, true => some above
  | false, false => none

/-- The first of a falling row of exponents whose grid has a point in the interval. -/
def Span.search (s : Span) : Nat → Int → Nat × Int
  | 0, k => ((s.onGrid? k).getD 0, k)
  | steps + 1, k =>
      match s.onGrid? k with
      | some n => if n = 0 then s.search steps (k - 1) else (n, k)
      | none => s.search steps (k - 1)

/-- The digits of the shortest decimal of a positive number, and the exponent of the last of them.
-/
def Binary.shortest (b : Binary) : List Char × Int :=
  let (n, k) := b.span.search 700 309
  let digits := Nat.toDigits 10 n
  let kept := (digits.reverse.dropWhile (· == '0')).reverse
  (kept, k + (digits.length - kept.length : Nat))

/-- How decimals are written: positionally when the exponent of the first digit lies between two
bounds, and otherwise with an exponent after the digits. -/
structure Style where
  least : Int
  most : Int

/-- Digits with a point after the first `whole` of them, and zeros where digits are missing. -/
def positional (digits : List Char) (whole : Int) : List Char :=
  if whole ≤ 0 then
    ['0', '.'] ++ List.replicate (-whole).toNat '0' ++ digits
  else
    let front := digits.take whole.toNat
    let back := digits.drop whole.toNat
    front ++ List.replicate (whole.toNat - front.length) '0' ++ ['.']
      ++ (if back.isEmpty then ['0'] else back)

/-- A digit, a point and the other digits if there are any, and the exponent with its sign. -/
def scientific (digits : List Char) (exponent : Int) : List Char :=
  let sign := if exponent < 0 then '-' else '+'
  digits.take 1 ++ (if digits.length = 1 then [] else '.' :: digits.drop 1)
    ++ ['e', sign] ++ Nat.toDigits 10 exponent.natAbs

/-- The text of a finite double. -/
def Style.write (style : Style) (bits : UInt64) : String :=
  let sign := if bits.toNat / Nat.pow 2 63 = 1 then ['-'] else []
  let b := Binary.ofBits bits
  let text :=
    if b.m = 0 then ['0', '.', '0']
    else
      let (digits, last) := b.shortest
      let exponent := last + (digits.length : Int) - 1
      if style.least ≤ exponent ∧ exponent ≤ style.most then positional digits (exponent + 1)
      else scientific digits exponent
  String.ofList (sign ++ text)

end Settlement.Decimal
