import Settlement.Json.Value
import Settlement.Proofs.Json.Tree
import Settlement.Proofs.Json.Yields

/-!
# Outcomes of readers

A reader has an outcome where it succeeds: its value, and the rest of the text.  The outcome of a
chain of steps goes from step to step, so that it can be computed along the text of a tree; which
fault is reported does not matter for it.
-/

namespace Settlement.Json

variable {α β : Type}

namespace Reader

/-- The value that a reader yields and the rest of the text, if there is no fault. -/
def outcome? (x : Reader α) (s : List Char) : Option (α × List Char) :=
  (x.run s).toOption

theorem Yields.outcome? {x : Reader α} {s rest : List Char} {a : α} (yields : Yields x s a rest) :
    x.outcome? s = some (a, rest) :=
  congrArg Except.toOption yields

@[simp]
theorem outcome?_bind (x : Reader α) (f : α → Reader β) (s : List Char) :
    outcome? (x >>= f) s = (x.outcome? s).bind fun (a, rest) => (f a).outcome? rest := by
  unfold outcome?
  rw [StateT.run_bind]
  cases x.run s <;> rfl

/-- A chain of steps goes on where its first step succeeds. -/
theorem outcome?_bind_of_eq_some {x : Reader α} {s rest : List Char} {a : α}
    (first : x.outcome? s = some (a, rest)) (f : α → Reader β) :
    outcome? (x >>= f) s = (f a).outcome? rest := by
  rw [outcome?_bind, first]
  rfl

@[simp]
theorem outcome?_map (f : α → β) (x : Reader α) (s : List Char) :
    outcome? (f <$> x) s = (x.outcome? s).map fun (a, rest) => (f a, rest) := by
  rw [← bind_pure_comp, outcome?_bind]
  cases x.outcome? s <;> rfl

theorem outcome?_bind_pure (x : Reader α) (f : α → β) (s : List Char) :
    outcome? (do return f (← x)) s = (x.outcome? s).map fun (a, rest) => (f a, rest) := by
  rw [bind_pure_comp, outcome?_map]

@[simp]
theorem outcome?_get (s : List Char) : outcome? get s = some (s, s) :=
  rfl

@[simp]
theorem outcome?_liftM (answer : Except ReadError α) (s : List Char) :
    outcome? (liftM answer) s = answer.toOption.map fun a => (a, s) := by
  cases answer <;> rfl

/-! ## Tokens -/

theorem outcome?_drop_bind (f : Unit → Reader α) (c : Char) (s : List Char) :
    outcome? (drop >>= f) (c :: s) = (f ()).outcome? s :=
  rfl

@[simp]
theorem dropWhile_blanks (lead : Blanks) (s : List Char) :
    (lead.val ++ s).dropWhile isBlank = s.dropWhile isBlank := by
  rcases lead with ⟨cs, areBlank⟩
  induction cs with
  | nil => rfl
  | cons c cs ih =>
      rw [List.forall_mem_cons] at areBlank
      rw [List.cons_append, List.dropWhile_cons_of_pos areBlank.1]
      exact ih areBlank.2

/-- Blanks are passed over before a look at the next character. -/
theorem outcome?_peek?_bind_blanks (f : Option Char → Reader α) (lead : Blanks) (s : List Char) :
    outcome? (peek? >>= f) (lead.val ++ s) = outcome? (peek? >>= f) s := by
  have looks (s : List Char) :
      peek?.outcome? s = some ((s.dropWhile isBlank).head?, s.dropWhile isBlank) := rfl
  rw [outcome?_bind, outcome?_bind, looks, looks, dropWhile_blanks]

/-- The next character after blanks decides what is read. -/
theorem outcome?_peek?_bind (f : Option Char → Reader α) (lead : Blanks) {c : Char}
    (solid : isBlank c = false) (s : List Char) :
    outcome? (peek? >>= f) (lead.val ++ c :: s) = (f (some c)).outcome? (c :: s) := by
  rw [outcome?_peek?_bind_blanks, outcome?_bind, (yields_peek? solid s).outcome?]
  rfl

theorem outcome?_word (letters s : List Char) :
    (word letters).outcome? (letters ++ s) = some ((), s) :=
  (yields_word letters s).outcome?

theorem outcome?_colon (lead : Blanks) (s : List Char) :
    colon.outcome? (lead.val ++ ':' :: s) = some ((), s) :=
  outcome?_peek?_bind _ lead rfl s

/-- Another container is opened if more than one may be. -/
theorem outcome?_descend_bind {depth : Nat} (isDeep : 1 < depth) (f : Nat → Reader α)
    (s : List Char) : outcome? (descend depth >>= f) s = (f (depth - 1)).outcome? s :=
  outcome?_bind_of_eq_some (yields_descend isDeep s).outcome? f

theorem outcome?_descend_bind_none {depth : Nat} (isFlat : ¬1 < depth) (f : Nat → Reader α)
    (s : List Char) : outcome? (descend depth >>= f) s = none := by
  match depth with
  | 0 => rfl
  | 1 => rfl
  | depth + 2 => exact absurd (Nat.succ_lt_succ depth.succ_pos) isFlat

/-- A chain of steps fails if all ways on from its first step do. -/
theorem outcome?_bind_eq_none {x : Reader α} {f : α → Reader β}
    (fails : ∀ a s, (f a).outcome? s = none) (s : List Char) : outcome? (x >>= f) s = none := by
  rw [outcome?_bind, Option.bind_eq_none_iff]
  exact fun found _ => fails found.1 found.2

/-- Nothing is read where something else is wanted. -/
theorem outcome?_refuse (expected : String) (s : List Char) :
    outcome? (refuse expected : Reader α) s = none := by
  have reports {β : Type} (x : Reader β) (fault : β → ReadError) (s : List Char) :
      outcome? (do throw (fault (← x)) : Reader α) s = none :=
    outcome?_bind_eq_none (fun _ _ => rfl) s
  apply outcome?_bind_eq_none
  intro found s
  split
  case h_1 => rfl
  case h_2 => exact outcome?_bind_eq_none (fun _ => reports _ _) s
  case h_3 => exact outcome?_bind_eq_none (fun _ => reports _ _) s
  case h_4 => exact outcome?_bind_eq_none (fun _ => reports _ _) s
  case h_5 => exact outcome?_bind_eq_none (fun _ => reports _ _) s
  case h_6 => rfl
  case h_7 => rfl
  case h_8 =>
    split
    case isTrue => exact reports _ _ s
    case isFalse => rfl

end Reader

end Settlement.Json
