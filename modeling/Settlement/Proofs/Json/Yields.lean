import Mathlib.Data.List.Forall2
import Settlement.Json.Codec

/-!
# What readers yield

A reader that succeeds takes some characters from the front of a text, yields a value and leaves the
rest.  Here is what the readers of single tokens, of strings, of items and of members yield on text
as it is written; the rest of the text may be anything.
-/

namespace Settlement.Json

variable {α β σ : Type}

/-! ## Strings -/

/-- What comes before other characters. -/
abbrev followedBy (c : Char) (answer : Except ReadError (List Char × List Char)) :
    Except ReadError (List Char × List Char) :=
  answer.map fun (cs, rest) => (c :: cs, rest)

/-- A one-letter escape is read as its character. -/
theorem readChars_escape {letter c : Char} (escapes : escapedChar? letter = some c)
    (rest : List Char) :
    readChars ('\\' :: letter :: rest) = followedBy c (readChars rest) := by
  have other : letter ≠ 'u' := by
    rintro rfl
    contradiction
  rw [readChars, escapes]
  case x_1 => exact fun _ _ _ _ _ isU => absurd isU other
  case x_2 => exact other
  cases readChars rest <;> rfl

/-- The two digits of a control give its number back. -/
theorem hexCode?_twoHexDigits : ∀ n < 32,
    hexCode? '0' '0' (Nat.digitChar (n / 16)) (Nat.digitChar (n % 16)) = some n := by
  decide

theorem readChars_control {c : Char} (isControl : c.toNat < 32) (rest : List Char) :
    readChars (['\\', 'u', '0', '0'] ++ twoHexDigits c.toNat ++ rest) =
      followedBy c (readChars rest) := by
  have code := hexCode?_twoHexDigits c.toNat isControl
  have low : isLowSurrogate c.toNat = false := by
    simp only [isLowSurrogate, Bool.and_eq_false_iff, decide_eq_false_iff_not]
    omega
  have high : isHighSurrogate c.toNat = false := by
    simp only [isHighSurrogate, Bool.and_eq_false_iff, decide_eq_false_iff_not]
    omega
  simp only [twoHexDigits, List.cons_append, List.nil_append]
  rw [readChars]
  simp only [code, low, high, Bool.false_eq_true, if_false, Char.ofNat_toNat]
  cases readChars rest <;> rfl

theorem readChars_plain {c : Char} (noQuote : c ≠ '"') (noEscape : c ≠ '\\')
    (noControl : ¬c < ' ') (rest : List Char) :
    readChars (c :: rest) = followedBy c (readChars rest) := by
  rw [readChars, if_neg noControl]
  case x_1 => exact noQuote
  case x_2 => exact fun _ _ _ _ _ isEscape => absurd isEscape noEscape
  case x_3 => exact fun _ isEscape => absurd isEscape noEscape
  case x_4 => exact fun isEscape => absurd isEscape noEscape
  case x_5 => exact fun _ _ isEscape => absurd isEscape noEscape
  cases readChars rest <;> rfl

theorem readChars_writeChar (c : Char) (rest : List Char) :
    readChars (writeChar c ++ rest) = followedBy c (readChars rest) := by
  unfold writeChar
  split
  case h_8 c noQuote noEscape _ _ _ _ _ =>
    split
    case isTrue control => exact readChars_control control rest
    case isFalse plain => exact readChars_plain noQuote noEscape plain rest
  all_goals exact readChars_escape rfl rest

theorem readChars_written (cs rest : List Char) :
    readChars (cs.flatMap writeChar ++ '"' :: rest) = .ok (cs, rest) := by
  induction cs with
  | nil => rfl
  | cons c cs ih =>
      rw [List.flatMap_cons, List.append_assoc, readChars_writeChar, ih]
      rfl

theorem writeText_append (s : String) (rest : List Char) :
    writeText s ++ rest = '"' :: (s.toList.flatMap writeChar ++ '"' :: rest) := by
  rw [writeText, List.append_assoc]
  rfl

namespace Reader

/-- That a reader takes the front of a text, yields a value, and leaves the rest of the text. -/
def Yields (x : Reader α) (s : List Char) (a : α) (rest : List Char) : Prop :=
  x.run s = .ok (a, rest)

namespace Yields

variable {s s' s'' : List Char} {a : α} {b : β}

theorem pure (a : α) (s : List Char) : Yields (pure a) s a s :=
  rfl

theorem bind {x : Reader α} {f : α → Reader β} (first : Yields x s a s')
    (second : Yields (f a) s' b s'') : Yields (x >>= f) s b s'' := by
  unfold Yields at *
  rw [StateT.run_bind, first]
  exact second

theorem map {x : Reader α} (yields : Yields x s a s') (f : α → β) :
    Yields (f <$> x) s (f a) s' := by
  rw [← bind_pure_comp]
  exact yields.bind (.pure _ _)

/-- An answer that needs no text. -/
theorem ofExcept {answer : Except ReadError α} (answered : answer = .ok a) (s : List Char) :
    Yields (liftM answer) s a s := by
  subst answered
  rfl

end Yields

/-! ## Tokens -/

theorem yields_peek? {c : Char} (solid : isBlank c = false) (s : List Char) :
    Yields peek? (c :: s) (some c) (c :: s) := by
  have same : (c :: s).dropWhile isBlank = c :: s := List.dropWhile_cons_of_neg (by simp [solid])
  have first : Yields (modify (List.dropWhile isBlank)) (c :: s) PUnit.unit (c :: s) :=
    congrArg (fun s => Except.ok (PUnit.unit, s)) same
  exact first.bind rfl

theorem yields_drop (c : Char) (s : List Char) : Yields drop (c :: s) () s :=
  rfl

theorem yields_word (letters s : List Char) : Yields (word letters) (letters ++ s) () s := by
  induction letters with
  | nil => rfl
  | cons letter letters ih =>
      have got : Yields get (letter :: letters ++ s) (letter :: letters ++ s) _ := rfl
      apply got.bind
      change Yields (if letter == letter then do set (letters ++ s); word letters
        else throw .brokenWord) _ _ _
      rw [if_pos BEq.rfl]
      exact Yields.bind (x := set (letters ++ s)) rfl ih

theorem yields_colon (s : List Char) : Yields colon (':' :: s) () s :=
  (yields_peek? rfl s).bind (yields_drop ':' s)

/-- One container may be opened if more than one may. -/
theorem yields_descend {depth : Nat} (isDeep : 1 < depth) (s : List Char) :
    Yields (descend depth) s (depth - 1) s := by
  obtain ⟨n, rfl⟩ := Nat.exists_eq_add_of_le' isDeep
  rfl

theorem yields_text (s : String) (rest : List Char) :
    Yields text (s.toList.flatMap writeChar ++ '"' :: rest) s rest := by
  have got : Yields get (s.toList.flatMap writeChar ++ '"' :: rest) _ _ := rfl
  have answer : Yields (pure (String.ofList s.toList)) rest s rest := by
    rw [String.ofList_toList]
    exact .pure s rest
  apply got.bind
  apply (Yields.ofExcept (readChars_written s.toList rest) _).bind
  exact Yields.bind (x := set rest) rfl answer

/-- A string is read where one is expected. -/
theorem yields_textAs (expected s : String) (rest : List Char) :
    Yields (textAs expected) (writeText s ++ rest) s rest := by
  rw [writeText_append]
  apply (yields_peek? rfl _).bind
  apply (yields_drop '"' _).bind
  exact yields_text s rest

/-! ## Items of lists -/

/-- That something is written with a character at its front that readers do not pass over and that
does not close a list. -/
def Opens (text : List Char) : Prop :=
  ∃ c more, text = c :: more ∧ isBlank c = false ∧ c ≠ ']'

theorem separated_cons (item : List Char) (items : List (List Char)) :
    separated (item :: items) = item ++ items.flatMap (',' :: ·) := by
  induction items generalizing item with
  | nil => simp [separated]
  | cons next rest ih =>
      rw [separated, ih, List.flatMap_cons, List.cons_append]
      exact List.cons_ne_nil next rest

/-- Every item takes a character. -/
theorem length_le_flatMap_cons (comma : Char) (items : List (List Char)) :
    items.length ≤ (items.flatMap (comma :: ·)).length := by
  induction items with
  | nil => exact Nat.zero_le _
  | cons item rest ih =>
      simp only [List.flatMap_cons, List.length_append, List.length_cons]
      omega

theorem yields_nextItem_first {text : List Char} (opens : Opens text) (rest : List Char) :
    Yields (nextItem true) (text ++ rest) true (text ++ rest) := by
  obtain ⟨c, more, rfl, solid, stays⟩ := opens
  apply (yields_peek? solid (more ++ rest)).bind
  split
  case h_1 => contradiction
  case h_2 closes => exact absurd (Option.some.inj closes) stays
  case h_3 => exact .pure true _

theorem yields_nextItem_later {text : List Char} (opens : Opens text) (rest : List Char) :
    Yields (nextItem false) (',' :: text ++ rest) true (text ++ rest) := by
  obtain ⟨c, more, rfl, solid, stays⟩ := opens
  apply (yields_peek? rfl (c :: more ++ rest)).bind
  apply (yields_drop ',' _).bind
  apply (yields_peek? solid (more ++ rest)).bind
  split
  case h_1 => contradiction
  case h_2 closes => exact absurd (Option.some.inj closes) stays
  case h_3 => exact .pure true _

theorem yields_nextItem_end (first : Bool) (rest : List Char) :
    Yields (nextItem first) (']' :: rest) false (']' :: rest) :=
  (yields_peek? rfl rest).bind (.pure false _)

/-- That a reader of items yields a value for an item as it is written, whatever comes after it. -/
def ReadsItem (item : Reader α) (text : List Char) (a : α) : Prop :=
  Opens text ∧ ∀ rest, Yields item (text ++ rest) a rest

/-- Items behind the first one, up to the closing bracket. -/
theorem yields_itemsWithin_later {item : Reader α} {texts : List (List Char)} {values : List α}
    (reads : List.Forall₂ (ReadsItem item) texts values) {fuel : Nat}
    (enough : values.length < fuel) (rest : List Char) :
    Yields (itemsWithin item fuel false) (texts.flatMap (',' :: ·) ++ ']' :: rest) values
      (']' :: rest) := by
  induction reads generalizing fuel with
  | nil =>
      obtain ⟨fuel, rfl⟩ := Nat.exists_eq_add_of_lt enough
      exact (yields_nextItem_end false rest).bind (.pure [] _)
  | @cons text a texts values first _ ih =>
      obtain ⟨opens, reads⟩ := first
      cases fuel with
      | zero => contradiction
      | succ fuel =>
          rw [List.flatMap_cons, List.append_assoc]
          apply (yields_nextItem_later opens _).bind
          apply (reads _).bind
          apply (ih (Nat.lt_of_succ_lt_succ enough)).bind
          exact .pure _ _

/-- The items of a list, up to the closing bracket. -/
theorem yields_items {item : Reader α} {texts : List (List Char)} {values : List α}
    (reads : List.Forall₂ (ReadsItem item) texts values) (rest : List Char) :
    Yields (items item true) (separated texts ++ ']' :: rest) values (']' :: rest) := by
  have got : Yields get (separated texts ++ ']' :: rest) _ _ := rfl
  apply got.bind
  cases reads with
  | nil => exact (yields_nextItem_end true rest).bind (.pure [] _)
  | @cons text a texts values first later =>
      obtain ⟨opens, reads⟩ := first
      rw [separated_cons, List.append_assoc]
      apply (yields_nextItem_first opens _).bind
      apply (reads _).bind
      apply (yields_itemsWithin_later later _ rest).bind
      · exact .pure _ _
      · have taken := length_le_flatMap_cons ',' texts
        have paired := later.length_eq
        simp only [List.length_append, List.length_cons]
        omega

/-! ## Members of objects -/

/-- How members, as they are written, fill what is known of an object. -/
inductive Fills (member : σ → Reader σ) : σ → List (List Char) → σ → Prop where
  | nil (known : σ) : Fills member known [] known
  | cons {known known' known'' : σ} {text : List Char} {texts : List (List Char)} :
      (∀ rest, Yields (member known) ('"' :: text ++ rest) known' rest) →
      Fills member known' texts known'' → Fills member known (('"' :: text) :: texts) known''

theorem yields_nextMember_end (first : Bool) (rest : List Char) :
    Yields (nextMember first) ('\x7d' :: rest) false ('\x7d' :: rest) :=
  (yields_peek? rfl rest).bind (.pure false _)

theorem yields_nextMember_first (rest : List Char) :
    Yields (nextMember true) ('"' :: rest) true ('"' :: rest) :=
  (yields_peek? rfl rest).bind (.pure true _)

theorem yields_nextMember_later (rest : List Char) :
    Yields (nextMember false) (',' :: '"' :: rest) true ('"' :: rest) := by
  apply (yields_peek? rfl _).bind
  apply (yields_drop ',' _).bind
  exact (yields_peek? rfl rest).bind (.pure true _)

/-- Members behind the first one, up to the closing brace. -/
theorem yields_membersWithin_later {member : σ → Reader σ} {known known' : σ}
    {texts : List (List Char)} (fills : Fills member known texts known') {fuel : Nat}
    (enough : texts.length < fuel) (rest : List Char) :
    Yields (membersWithin member fuel false known) (texts.flatMap (',' :: ·) ++ '\x7d' :: rest)
      known' ('\x7d' :: rest) := by
  induction fills generalizing fuel with
  | nil known =>
      obtain ⟨fuel, rfl⟩ := Nat.exists_eq_add_of_lt enough
      exact (yields_nextMember_end false rest).bind (.pure known _)
  | @cons known known' known'' text texts reads _ ih =>
      cases fuel with
      | zero => contradiction
      | succ fuel =>
          rw [List.flatMap_cons, List.append_assoc]
          apply (yields_nextMember_later _).bind
          apply (reads _).bind
          exact ih (Nat.lt_of_succ_lt_succ enough)

/-- The members of an object, up to the closing brace. -/
theorem yields_members {member : σ → Reader σ} {known known' : σ} {texts : List (List Char)}
    (fills : Fills member known texts known') (rest : List Char) :
    Yields (members member known) (separated texts ++ '\x7d' :: rest) known'
      ('\x7d' :: rest) := by
  have got : Yields get (separated texts ++ '\x7d' :: rest) _ _ := rfl
  apply got.bind
  cases fills with
  | nil => exact (yields_nextMember_end true rest).bind (.pure known _)
  | @cons _ known' _ text texts reads later =>
      rw [separated_cons, List.append_assoc]
      apply (yields_nextMember_first _).bind
      apply (reads _).bind
      apply yields_membersWithin_later later
      have taken := length_le_flatMap_cons ',' texts
      simp only [List.length_append, List.length_cons]
      omega

end Reader

end Settlement.Json
