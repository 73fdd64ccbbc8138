import Settlement.Proofs.Action.Events

/-!
# Runs that do the same

Two runs may do the same although they are not the same action, at states that stand for each
other.  Whatever is composed of such runs does the same again.
-/

namespace Settlement

variable {σ τ η ε α β : Type}

/-- At the states that `place` leads to, a run does what another does at the states it leads from,
and stays among them. -/
def Embeds (place : σ → τ) (x : Action σ η ε α) (y : Action τ η ε α) : Prop :=
  ∀ s, y.run (place s) = ⟨(x.run s).result, place (x.run s).state, (x.run s).events⟩

namespace Embeds

variable {place : σ → τ} {x : Action σ η ε α} {y : Action τ η ε α}

theorem pure (a : α) :
    Embeds place (Pure.pure a : Action σ η ε α) (Pure.pure a : Action τ η ε α) :=
  fun _ => rfl

theorem bind {f : α → Action σ η ε β} {g : α → Action τ η ε β} (first : Embeds place x y)
    (second : ∀ a, Embeds place (f a) (g a)) : Embeds place (x >>= f) (y >>= g) := by
  intro s
  cases outcome : (x.run s).result with
  | error e =>
      have outcome' : (y.run (place s)).result = .error e := by rw [first s, outcome]
      rw [Action.run_bind_of_error outcome, Action.run_bind_of_error outcome', first s]
  | ok a =>
      have outcome' : (y.run (place s)).result = .ok a := by rw [first s, outcome]
      rw [Action.run_bind_of_ok outcome, Action.run_bind_of_ok outcome', first s, second a]

theorem forM {l : List β} {f : β → Action σ η ε PUnit} {g : β → Action τ η ε PUnit}
    (each : ∀ b, Embeds place (f b) (g b)) : Embeds place (forM l f) (forM l g) := by
  induction l with
  | nil => exact .pure _
  | cons b rest ih => exact (each b).bind fun _ => ih

theorem keepEvents {ζ : Type} (p : η → Option ζ) (embeds : Embeds place x y) :
    Embeds place (x.keepEvents p) (y.keepEvents p) := by
  intro s
  rw [Action.run_keepEvents, embeds s]
  rfl

/-- The same run cannot be embedded as two different ones. -/
theorem run_eq {x' : Action σ η ε α} {y' : Action τ η ε α} (first : Embeds place x y)
    (second : Embeds place x' y') (same : x = x') (s : σ) :
    y.run (place s) = y'.run (place s) := by
  rw [first s, second s, same]

end Embeds

end Settlement
