import Settlement.Proofs.Json.Outcome

/-!
# Strings and numbers in front of other text

What is read of a string does not depend on what comes after its closing quote.  A number has no
closing mark: it ends where the text does not go on with a digit, a point or an exponent.  Both are
passed over whatever they stand for.
-/

namespace Settlement.Json

variable {α : Type}

/-! ## Strings -/

@[simp]
theorem toOption_followedBy (c : Char) (answer : Except ReadError (List Char × List Char)) :
    (followedBy c answer).toOption = answer.toOption.map fun (cs, rest) => (c :: cs, rest) := by
  cases answer <;> rfl

section Codes

variable {a b c d : Char} {n : Nat}

theorem readChars_code (codes : hexCode? a b c d = some n) (noLow : isLowSurrogate n = false)
    (noHigh : isHighSurrogate n = false) (rest : List Char) :
    readChars ('\\' :: 'u' :: a :: b :: c :: d :: rest) =
      followedBy (Char.ofNat n) (readChars rest) := by
  rw [readChars]
  simp only [codes, noLow, noHigh, Bool.false_eq_true, if_false]
  cases readChars rest <;> rfl

/-- The second half of a pair does not come first. -/
theorem readChars_low (codes : hexCode? a b c d = some n) (low : isLowSurrogate n = true)
    (rest : List Char) :
    readChars ('\\' :: 'u' :: a :: b :: c :: d :: rest) = .error .loneSurrogate := by
  rw [readChars]
  simp only [codes, low, if_true]

theorem readChars_pair {e f g h : Char} {m : Nat} (codes : hexCode? a b c d = some n)
    (noLow : isLowSurrogate n = false) (high : isHighSurrogate n = true)
    (codes' : hexCode? e f g h = some m) (low : isLowSurrogate m = true) (rest : List Char) :
    readChars ('\\' :: 'u' :: a :: b :: c :: d :: '\\' :: 'u' :: e :: f :: g :: h :: rest) =
      followedBy (surrogatePair n m) (readChars rest) := by
  rw [readChars]
  simp only [codes, noLow, high, codes', low, Bool.false_eq_true, if_true, if_false]
  cases readChars rest <;> rfl

/-- The first half of a pair is not without the second one. -/
theorem readChars_unpaired (codes : hexCode? a b c d = some n) (noLow : isLowSurrogate n = false)
    (high : isHighSurrogate n = true) {rest : List Char}
    (unpaired : ∀ e f g h more, rest = '\\' :: 'u' :: e :: f :: g :: h :: more →
      ∃ m, hexCode? e f g h = some m ∧ isLowSurrogate m = false) :
    (readChars ('\\' :: 'u' :: a :: b :: c :: d :: rest)).toOption = none := by
  rw [readChars]
  simp only [codes, noLow, high, Bool.false_eq_true, if_true, if_false]
  split
  case h_3 e f g h more =>
    obtain ⟨m, codes', noLow'⟩ := unpaired e f g h more rfl
    simp only [codes', noLow', Bool.false_eq_true, if_false]
    rfl
  all_goals rfl

end Codes

@[simp]
theorem body_cons (p : Piece) (l : Literal) (rest : List Char) :
    Literal.body (p :: l) ++ rest = p.text ++ (Literal.body l ++ rest) := by
  simp [Literal.body]

/-- An escape of four digits comes from nothing else. -/
theorem body_ne_code {l : Literal}
    (noCode : ∀ a b c d n codes more, l ≠ .code a b c d n codes :: more) (rest s : List Char) :
    l.body ++ rest ≠ '\\' :: 'u' :: s := by
  intro isCode
  rcases l with _ | ⟨p, l⟩
  · simp [Literal.body] at isCode
  · rw [body_cons] at isCode
    cases p with
    | plain c _ noEscape _ => exact noEscape (List.cons.inj isCode).1
    | escape letter c escapes =>
        have isU : letter = 'u' := (List.cons.inj (List.cons.inj isCode).2).1
        subst isU
        contradiction
    | code a b c d n codes => exact noCode a b c d n codes l rfl

/-- A string is read up to its closing quote, if its surrogates come in pairs. -/
theorem readChars_body (l : Literal) (rest : List Char) :
    (readChars (l.body ++ rest)).toOption = (Piece.spell? l).map fun cs => (cs, rest) := by
  have gathered (c : Char) {l : Literal}
      (ih : (readChars (l.body ++ rest)).toOption = (Piece.spell? l).map fun cs => (cs, rest)) :
      (followedBy c (readChars (l.body ++ rest))).toOption =
        ((Piece.spell? l).map (c :: ·)).map fun cs => (cs, rest) := by
    rw [toOption_followedBy, ih]
    cases Piece.spell? l <;> rfl
  fun_induction Piece.spell? l with
  | case1 => rfl
  | case2 c noQuote noEscape noControl more ih =>
      rw [body_cons]
      exact (congrArg _ (readChars_plain noQuote noEscape noControl _)).trans (gathered c ih)
  | case3 letter c escapes more ih =>
      rw [body_cons]
      exact (congrArg _ (readChars_escape escapes _)).trans (gathered c ih)
  | case4 a b c d n codes more low =>
      rw [body_cons]
      exact congrArg _ (readChars_low codes low _)
  | case5 a b c d n codes noLow high e f g h m codes' more low ih =>
      rw [body_cons, body_cons]
      have noLow := Bool.eq_false_iff.mpr noLow
      exact (congrArg _ (readChars_pair codes noLow high codes' low _)).trans (gathered _ ih)
  | case6 a b c d n codes noLow high e f g h m codes' more noLow' =>
      rw [body_cons, body_cons]
      apply readChars_unpaired codes (Bool.eq_false_iff.mpr noLow) high
      intro e' f' g' h' rest' same
      cases same
      exact ⟨m, codes', Bool.eq_false_iff.mpr noLow'⟩
  | case7 a b c d n codes more noLow high noCode =>
      rw [body_cons]
      apply readChars_unpaired codes (Bool.eq_false_iff.mpr noLow) high
      exact fun e f g h rest' same => absurd same (body_ne_code noCode _ _)
  | case8 a b c d n codes more noLow noHigh ih =>
      rw [body_cons]
      have noLow := Bool.eq_false_iff.mpr noLow
      have noHigh := Bool.eq_false_iff.mpr noHigh
      exact (congrArg _ (readChars_code codes noLow noHigh _)).trans (gathered _ ih)

theorem skipChars_plain {c : Char} (noQuote : c ≠ '"') (noEscape : c ≠ '\\')
    (noControl : ¬c < ' ') (rest : List Char) : skipChars (c :: rest) = skipChars rest := by
  rw [skipChars, if_neg noControl]
  case x_1 => exact noQuote
  case x_2 => exact fun _ _ _ _ _ isEscape => absurd isEscape noEscape
  case x_3 => exact fun _ isEscape => absurd isEscape noEscape
  case x_4 => exact fun isEscape => absurd isEscape noEscape
  case x_5 => exact fun _ _ isEscape => absurd isEscape noEscape

theorem skipChars_escape {letter c : Char} (escapes : escapedChar? letter = some c)
    (rest : List Char) : skipChars ('\\' :: letter :: rest) = skipChars rest := by
  have other : letter ≠ 'u' := by
    rintro rfl
    contradiction
  rw [skipChars, escapes]
  case x_1 => exact fun _ _ _ _ _ isU => absurd isU other
  case x_2 => exact other

theorem skipChars_code {a b c d : Char} {n : Nat} (codes : hexCode? a b c d = some n)
    (rest : List Char) :
    skipChars ('\\' :: 'u' :: a :: b :: c :: d :: rest) = skipChars rest := by
  rw [skipChars, codes]

/-- A string is passed over up to its closing quote, whatever it spells. -/
theorem skipChars_body (l : Literal) (rest : List Char) :
    skipChars (l.body ++ rest) = .ok rest := by
  induction l with
  | nil => rfl
  | cons p l ih =>
      rw [body_cons]
      cases p with
      | plain c noQuote noEscape noControl =>
          exact (skipChars_plain noQuote noEscape noControl _).trans ih
      | escape letter c escapes => exact (skipChars_escape escapes _).trans ih
      | code a b c d n codes => exact (skipChars_code codes _).trans ih

/-! ## Numbers -/

/-- That a text does not go on with a number. -/
def Ends (rest : List Char) : Prop :=
  ∀ c, rest.head? = some c → c.isDigit = false ∧ c ≠ '.' ∧ c ≠ 'e' ∧ c ≠ 'E'

theorem ends_nil : Ends [] := by
  intro c isHead
  contradiction

theorem ends_cons {c : Char} (stops : c.isDigit = false ∧ c ≠ '.' ∧ c ≠ 'e' ∧ c ≠ 'E')
    (rest : List Char) : Ends (c :: rest) := by
  intro c isHead
  cases isHead
  exact stops

/-- Blanks end a number, too. -/
theorem Ends.blanks {rest : List Char} (ends : Ends rest) (lead : Blanks) :
    Ends (lead.val ++ rest) := by
  rcases lead with ⟨cs, areBlank⟩
  cases cs with
  | nil => exact ends
  | cons c cs =>
      apply ends_cons
      have isBlank := areBlank c List.mem_cons_self
      simp only [Reader.isBlank, Bool.or_eq_true, beq_iff_eq] at isBlank
      rcases isBlank with ((rfl | rfl) | rfl) | rfl <;> decide

theorem splitDigits_append (digits : Digits) {rest : List Char}
    (stops : ∀ c, rest.head? = some c → c.isDigit = false) :
    splitDigits (digits.text ++ rest) = (digits.text, rest) := by
  have none : rest.takeWhile Char.isDigit = [] ∧ rest.dropWhile Char.isDigit = rest := by
    cases rest with
    | nil => exact ⟨rfl, rfl⟩
    | cons c rest => simp [stops c rfl]
  rw [splitDigits, List.takeWhile_append_of_pos digits.areDigits,
    List.dropWhile_append_of_pos digits.areDigits, none.1, none.2, List.append_nil]

/-- Digits begin with a digit. -/
theorem head_digits (digits : Digits) {rest : List Char} {c : Char}
    (isHead : (digits.text ++ rest).head? = some c) : c.isDigit = true := by
  obtain ⟨d, ds, text⟩ := List.exists_cons_of_ne_nil digits.isNonempty
  rw [text] at isHead
  cases isHead
  apply digits.areDigits
  rw [text]
  exact List.mem_cons_self

/-- That what is read of a text does not depend on what comes after it, if that does not go on with
a number. -/
def Settled (read : List Char → Except ReadError (α × List Char)) (text : List Char) : Prop :=
  ∃ answer : Option α, ∀ rest, Ends rest →
    (read (text ++ rest)).toOption = answer.map fun a => (a, rest)

/-- A number with an exponent of some digits. -/
def scaleBy (negative : Bool) (significand : Nat) (exponent : Int) (down : Bool)
    (digits : List Char) : Except ReadError Number := do
  let (value, beyond) := gather largestExponent 0 digits
  if beyond.isEmpty then
    scale negative significand (exponent + if down then -(value : Int) else value)
  else if significand ≠ 0 ∧ down = false then throw .numberOutOfRange
  else return zero negative

/-- An answer in front of the rest of a text. -/
theorem bind_return_eq_map (answer : Except ReadError α) (rest : List Char) :
    (do return (← answer, rest)) = answer.map fun a => (a, rest) := by
  cases answer <;> rfl

open Numeral (exponentText fractionText)

section Numerals

variable (negative : Bool) (significand : Nat) (exponent : Int)

theorem readExponent_eq (e : Exponent) {rest : List Char} (ends : Ends rest) :
    readExponent negative significand exponent (e.sign.text ++ (e.digits.text ++ rest)) =
      (scaleBy negative significand exponent e.sign.isDown e.digits.text).map
        fun number => (number, rest) := by
  have read := splitDigits_append e.digits fun c isHead => (ends c isHead).1
  have given : e.digits.text.isEmpty = false := by simp [e.digits.isNonempty]
  have unsigned (c : Char) (noDigit : c.isDigit = false) (more : List Char)
      (same : e.digits.text ++ rest = c :: more) : False := by
    have isDigit := head_digits e.digits (congrArg List.head? same)
    simp [noDigit] at isDigit
  cases e.sign with
  | none =>
      rw [Sign.text, List.nil_append, readExponent]
      · simp only [read, given, bind_return_eq_map, scaleBy, Sign.isDown, apply_ite (Except.map _)]
        rfl
      · exact unsigned '+' (by decide)
      · exact unsigned '-' (by decide)
  | plus =>
      simp only [Sign.text, List.cons_append, readExponent, List.nil_append, read, given,
        bind_return_eq_map, scaleBy, Sign.isDown, apply_ite (Except.map _)]
      rfl
  | minus =>
      simp only [Sign.text, List.cons_append, readExponent, List.nil_append, read, given,
        bind_return_eq_map, scaleBy, apply_ite (Except.map _)]
      rfl

/-- What follows the digits of a number is no digit. -/
theorem head_exponentText (e : Option Exponent) {rest : List Char} (ends : Ends rest) {c : Char}
    (isHead : (exponentText e ++ rest).head? = some c) : c.isDigit = false ∧ c ≠ '.' := by
  cases e with
  | none => exact ⟨(ends c isHead).1, (ends c isHead).2.1⟩
  | some e =>
      cases isHead
      rcases e.isLetter with isE | isE <;> rw [isE] <;> decide

/-- An exponent begins with its letter. -/
theorem head_exponentText_eq_letter_iff (e : Option Exponent) {rest : List Char}
    (ends : Ends rest) :
    (exponentText e ++ rest).head? = some 'e' ∨ (exponentText e ++ rest).head? = some 'E' ↔
      e.isSome := by
  cases e with
  | none =>
      have noLetter : ¬(rest.head? = some 'e' ∨ rest.head? = some 'E') := by
        rintro (isHead | isHead)
        · exact (ends 'e' isHead).2.2.1 rfl
        · exact (ends 'E' isHead).2.2.2 rfl
      simpa [exponentText] using noLetter
  | some e => simpa [exponentText] using e.isLetter

theorem settled_finish (e : Option Exponent) :
    Settled (finish negative significand exponent) (exponentText e) := by
  cases e with
  | none =>
      exists (scale negative significand exponent).toOption
      intro rest ends
      rw [exponentText, List.nil_append, finish]
      · cases scale negative significand exponent <;> rfl
      · rintro more rfl
        exact (ends 'e' rfl).2.2.1 rfl
      · rintro more rfl
        exact (ends 'E' rfl).2.2.2 rfl
  | some e =>
      exists (scaleBy negative significand exponent e.sign.isDown e.digits.text).toOption
      intro rest ends
      have reads : finish negative significand exponent (exponentText (some e) ++ rest) =
          readExponent negative significand exponent
            (e.sign.text ++ (e.digits.text ++ rest)) := by
        rw [exponentText, List.cons_append, List.append_assoc]
        rcases e.isLetter with isE | isE <;> rw [isE] <;> rfl
      rw [reads, readExponent_eq negative significand exponent e ends]
      cases scaleBy negative significand exponent e.sign.isDown e.digits.text <;> rfl

theorem settled_readFraction (digits : Digits) (e : Option Exponent) :
    Settled (readFraction negative significand exponent) (digits.text ++ exponentText e) := by
  rcases settled_finish negative (gather largestInteger significand digits.text).1
    (exponent - (digits.text.length -
      (gather largestInteger significand digits.text).2.length : Nat)) e with ⟨answer, settles⟩
  exists answer
  intro rest ends
  have read := splitDigits_append digits fun c isHead => (head_exponentText e ends isHead).1
  have given : digits.text.isEmpty = false := by simp [digits.isNonempty]
  rw [List.append_assoc, readFraction, read, ← settles rest ends]
  simp only [given]
  rfl

/-- A point after the first digits of a number. -/
theorem readUnsigned_point (n : Numeral) (rest : List Char) :
    readUnsigned negative (n.whole.text ++ '.' :: rest) =
      readFraction negative (gather largestInteger 0 n.whole.text).1
        (gather largestInteger 0 n.whole.text).2.length rest := by
  rw [readUnsigned, splitDigits_append n.whole (by rintro c ⟨⟩; rfl)]
  simp only
  split
  case h_1 nothing => exact absurd nothing n.whole.isNonempty
  case h_2 leading => simpa [leading] using n.noLeadingZero (by rw [leading]; rfl)
  case h_3 => rfl

/-- No point after the first digits of a number. -/
theorem readUnsigned_noPoint (n : Numeral) {rest : List Char}
    (stops : ∀ c, rest.head? = some c → c.isDigit = false ∧ c ≠ '.') :
    readUnsigned negative (n.whole.text ++ rest) =
      if rest.head? = some 'e' ∨ rest.head? = some 'E' ∨
          (gather largestInteger 0 n.whole.text).2 ≠ [] then
        finish negative (gather largestInteger 0 n.whole.text).1
          (gather largestInteger 0 n.whole.text).2.length rest
      else .ok (integral negative (gather largestInteger 0 n.whole.text).1, rest) := by
  rw [readUnsigned, splitDigits_append n.whole fun c isHead => (stops c isHead).1]
  simp only
  split
  case h_1 nothing => exact absurd nothing n.whole.isNonempty
  case h_2 leading => simpa [leading] using n.noLeadingZero (by rw [leading]; rfl)
  case h_3 =>
    split
    case h_1 => exact absurd rfl (stops '.' rfl).2
    case h_2 => rfl

theorem head_fractionText (f : Option Digits) (e : Option Exponent) {rest : List Char}
    (ends : Ends rest) {c : Char}
    (isHead : (fractionText f ++ (exponentText e ++ rest)).head? = some c) :
    c.isDigit = false := by
  cases f with
  | none => exact (head_exponentText e ends isHead).1
  | some digits =>
      cases isHead
      rfl

theorem settled_readUnsigned (n : Numeral) :
    Settled (readUnsigned negative)
      (n.whole.text ++ fractionText n.fraction ++ exponentText n.exponent) := by
  cases isFraction : n.fraction with
  | some digits =>
      rcases settled_readFraction negative (gather largestInteger 0 n.whole.text).1
        (gather largestInteger 0 n.whole.text).2.length digits n.exponent with ⟨answer, settles⟩
      exists answer
      intro rest ends
      rw [fractionText, List.append_assoc, List.append_assoc, List.cons_append,
        readUnsigned_point, ← settles rest ends, List.append_assoc]
  | none =>
      rw [fractionText, List.append_nil]
      have same {rest : List Char} (ends : Ends rest) := readUnsigned_noPoint negative n
        fun c isHead => head_exponentText n.exponent ends (c := c) isHead
      by_cases isDouble : n.exponent.isSome ∨ (gather largestInteger 0 n.whole.text).2 ≠ []
      · rcases settled_finish negative (gather largestInteger 0 n.whole.text).1
          (gather largestInteger 0 n.whole.text).2.length n.exponent with ⟨answer, settles⟩
        exists answer
        intro rest ends
        rw [← head_exponentText_eq_letter_iff n.exponent ends, or_assoc] at isDouble
        rw [List.append_assoc, same ends, if_pos isDouble, settles rest ends]
      · exists integral negative (gather largestInteger 0 n.whole.text).1
        intro rest ends
        have noExponent : n.exponent = none := by
          rw [← Option.not_isSome_iff_eq_none]
          exact fun given => isDouble (.inl given)
        rw [← head_exponentText_eq_letter_iff n.exponent ends, or_assoc] at isDouble
        rw [List.append_assoc, same ends, if_neg isDouble, noExponent]
        rfl

end Numerals

/-! ### Numbers that are passed over -/

theorem skipDigits_append (digits : Digits) {rest : List Char}
    (stops : ∀ c, rest.head? = some c → c.isDigit = false) :
    skipDigits (digits.text ++ rest) = .ok rest := by
  rw [skipDigits, splitDigits_append digits stops]
  split
  case h_1 nothing => exact absurd (congrArg Prod.fst nothing) digits.isNonempty
  case h_2 same => rw [← (Prod.mk.inj same).2]

theorem skipExponent_append (e : Option Exponent) {rest : List Char} (ends : Ends rest) :
    skipExponent (exponentText e ++ rest) = .ok rest := by
  cases e with
  | none =>
      rw [exponentText, List.nil_append, skipExponent]
      · rintro more rfl
        exact (ends 'e' rfl).2.2.1 rfl
      · rintro more rfl
        exact (ends 'E' rfl).2.2.2 rfl
  | some e =>
      have digits := skipDigits_append e.digits fun c isHead => (ends c isHead).1
      have unsigned : ¬((e.digits.text ++ rest).head? = some '+' ∨
          (e.digits.text ++ rest).head? = some '-') := by
        rintro (isHead | isHead)
        · exact absurd (head_digits e.digits isHead) (by decide)
        · exact absurd (head_digits e.digits isHead) (by decide)
      rw [exponentText, List.cons_append, List.append_assoc]
      rcases e.isLetter with isE | isE <;> rw [isE, skipExponent] <;> cases e.sign
      case inl.none | inr.none => exact (congrArg skipDigits (if_neg unsigned)).trans digits
      all_goals exact digits

theorem skipFraction_append (f : Option Digits) (e : Option Exponent) {rest : List Char}
    (ends : Ends rest) :
    skipFraction (fractionText f ++ (exponentText e ++ rest)) = .ok rest := by
  cases f with
  | none =>
      rw [fractionText, List.nil_append, skipFraction, skipExponent_append e ends]
      intro more isPoint
      exact (head_exponentText e ends (by rw [isPoint]; rfl)).2 rfl
  | some digits =>
      rw [fractionText, List.cons_append, skipFraction,
        skipDigits_append digits fun c isHead => (head_exponentText e ends isHead).1]
      exact skipExponent_append e ends

/-- A number is written with its sign before what has none. -/
theorem text_eq_sign_append (n : Numeral) (rest : List Char) :
    n.text ++ rest = (if n.negative then ['-'] else []) ++
      (n.whole.text ++ (fractionText n.fraction ++ (exponentText n.exponent ++ rest))) := by
  simp only [Numeral.text, List.append_assoc]

/-- A number begins with its sign or with a digit. -/
theorem exists_numeral_eq_cons (n : Numeral) :
    ∃ c more, n.text = c :: more ∧ (c = '-' ∨ c.isDigit = true) := by
  obtain ⟨d, ds, digits⟩ := List.exists_cons_of_ne_nil n.whole.isNonempty
  have isDigit : d.isDigit = true := n.whole.areDigits d (by rw [digits]; exact List.mem_cons_self)
  rw [← List.append_nil n.text, text_eq_sign_append, digits]
  cases n.negative with
  | true => exact ⟨'-', _, rfl, .inl rfl⟩
  | false => exact ⟨d, _, rfl, .inr isDigit⟩

namespace Reader

theorem outcome?_text (l : Literal) (rest : List Char) :
    text.outcome? (l.body ++ rest) = l.string?.map fun s => (s, rest) := by
  simp only [text, outcome?_bind, outcome?_get, outcome?_liftM, Option.bind_some, readChars_body,
    Literal.string?]
  cases Piece.spell? l <;> rfl

theorem outcome?_skipText (l : Literal) (rest : List Char) :
    skipText.outcome? (l.body ++ rest) = some ((), rest) := by
  simp only [skipText, outcome?_bind, outcome?_get, outcome?_liftM, Option.bind_some,
    skipChars_body]
  rfl

theorem outcome?_number_negative (cs : List Char) :
    number.outcome? ('-' :: cs) = (readUnsigned true cs).toOption := by
  simp only [number, outcome?_bind, outcome?_get, outcome?_liftM, Option.bind_some]
  cases readUnsigned true cs <;> rfl

theorem outcome?_number_unsigned {cs : List Char} (unsigned : ∀ more, cs ≠ '-' :: more) :
    number.outcome? cs = (readUnsigned false cs).toOption := by
  simp only [number, outcome?_bind, outcome?_get, outcome?_liftM, Option.bind_some]
  cases readUnsigned false cs <;> rfl

/-- A number is read up to its end, if it is in range. -/
theorem outcome?_number (n : Numeral) {rest : List Char} (ends : Ends rest) :
    number.outcome? (n.text ++ rest) = n.value?.map fun number => (number, rest) := by
  have reads (rest : List Char) :
      number.outcome? (n.text ++ rest) =
        (readUnsigned n.negative (n.whole.text ++ (fractionText n.fraction ++
          (exponentText n.exponent ++ rest)))).toOption := by
    rw [text_eq_sign_append]
    cases n.negative with
    | true => exact outcome?_number_negative _
    | false =>
        apply outcome?_number_unsigned
        intro more same
        exact absurd (head_digits n.whole (congrArg List.head? same)) (by decide)
  rcases settled_readUnsigned n.negative n with ⟨answer, settles⟩
  simp only [List.append_assoc] at settles
  have value : n.value? = answer := by
    have alone := (reads []).trans (settles [] ends_nil)
    rw [List.append_nil] at alone
    rw [Numeral.value?]
    change (number.outcome? n.text).map Prod.fst = answer
    rw [alone]
    cases answer <;> rfl
  rw [reads, settles rest ends, value]

/-- A number is passed over up to its end. -/
theorem outcome?_skipNumber (n : Numeral) {rest : List Char} (ends : Ends rest) :
    skipNumber.outcome? (n.text ++ rest) = some ((), rest) := by
  have unsigned : (if (n.text ++ rest).head? = some '-' then (n.text ++ rest).tail
      else n.text ++ rest) =
        n.whole.text ++ (fractionText n.fraction ++ (exponentText n.exponent ++ rest)) := by
    rw [text_eq_sign_append]
    cases n.negative with
    | true => rfl
    | false =>
        apply if_neg
        intro isHead
        exact absurd (head_digits n.whole isHead) (by decide)
  have read := splitDigits_append n.whole fun c isHead =>
    head_fractionText n.fraction n.exponent ends isHead
  simp only [skipNumber, outcome?_bind, outcome?_get, Option.bind_some, unsigned, read]
  split
  case h_1 nothing => exact absurd nothing n.whole.isNonempty
  case h_2 leading => simpa [leading] using n.noLeadingZero (by rw [leading]; rfl)
  case h_3 =>
    simp only [outcome?_bind, outcome?_liftM, skipFraction_append n.fraction n.exponent ends]
    rfl

end Reader

end Settlement.Json
