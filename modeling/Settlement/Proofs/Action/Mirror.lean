import Settlement.Action

/-!
# Actions that mirror others

Two actions over one state may do the same and differ only in how they put it: the answers and the
failures of the one are those of the other in another form.  What they report may differ.

One rule for each combinator carries this through a run.
-/

namespace Settlement.Action

variable {σ χ ω η ζ ε ε' δ δ' α α' β β' : Type}

/-- That `y` does what `x` does, with failures and answers in another form. -/
def Mirrors (x : Action σ η ε α) (y : Action σ ζ δ β) (failure : ε → δ) (answer : α → β) : Prop :=
  ∀ s, (y.run s).result = ((x.run s).result.map answer).mapError failure ∧
    (y.run s).state = (x.run s).state

namespace Mirrors

variable {failure : ε → δ} {answer : α → β}

theorem refl (x : Action σ η ε α) : Mirrors x x id id := by
  intro s
  cases (x.run s).result <;> exact ⟨rfl, rfl⟩

theorem pure {a : α} {b : β} (same : b = answer a) :
    Mirrors (pure a : Action σ η ε α) (pure b : Action σ ζ δ β) failure answer := by
  subst same
  exact fun s => ⟨rfl, rfl⟩

theorem fail {e : ε} {d : δ} (same : d = failure e) :
    Mirrors (fail e : Action σ η ε α) (fail d : Action σ ζ δ β) failure answer := by
  subst same
  exact fun s => ⟨rfl, rfl⟩

theorem report (e : η) (e' : ζ) :
    Mirrors (report e : Action σ η ε Unit) (report e' : Action σ ζ δ Unit) failure id :=
  fun _ => ⟨rfl, rfl⟩

theorem bind {x : Action σ η ε α} {y : Action σ ζ δ β} (first : Mirrors x y failure answer)
    {k : α → Action σ η ε α'} {k' : β → Action σ ζ δ β'} {answer' : α' → β'}
    (second : ∀ a, Mirrors (k a) (k' (answer a)) failure answer') :
    Mirrors (x >>= k) (y >>= k') failure answer' := by
  intro s
  obtain ⟨result, state⟩ := first s
  cases outcome : (x.run s).result with
  | error e =>
      rw [outcome] at result
      rw [run_bind_of_error outcome, run_bind_of_error result]
      exact ⟨rfl, state⟩
  | ok a =>
      rw [outcome] at result
      rw [run_bind_of_ok outcome, run_bind_of_ok result, state]
      exact second a (x.run s).state

theorem mapError {x : Action σ η ε α} {y : Action σ ζ δ β} (mirrors : Mirrors x y failure answer)
    {locate : ε → ε'} {locate' : δ → δ'} {failure' : ε' → δ'}
    (located : ∀ e, locate' (failure e) = failure' (locate e)) :
    Mirrors (x.mapError locate) (y.mapError locate') failure' answer := by
  intro s
  obtain ⟨result, state⟩ := mirrors s
  refine ⟨?_, state⟩
  rw [run_mapError, run_mapError, result]
  cases (x.run s).result with
  | error e => exact congrArg Except.error (located e)
  | ok a => rfl

theorem inWorld {x : Action ω η ε α} {y : Action ω ζ δ β} (mirrors : Mirrors x y failure answer) :
    Mirrors (x.inWorld : Action (Site χ ω) η ε α) (y.inWorld : Action (Site χ ω) ζ δ β) failure
      answer := by
  intro site
  obtain ⟨result, state⟩ := mirrors site.world
  exact ⟨result, congrArg (Site.mk site.colony) state⟩

/-- What is made of the answers may differ in the same way. -/
theorem map {x : Action σ η ε α} {y : Action σ ζ δ β} (mirrors : Mirrors x y failure answer)
    {f : α → α'} {g : β → β'} {answer' : α' → β'} (same : ∀ a, g (answer a) = answer' (f a)) :
    Mirrors (f <$> x) (g <$> y) failure answer' := by
  rw [← bind_pure_comp, ← bind_pure_comp]
  exact mirrors.bind fun a => .pure (same a)

end Mirrors

end Settlement.Action
