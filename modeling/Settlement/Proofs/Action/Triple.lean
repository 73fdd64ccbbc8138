import Settlement.Action

/-!
# Triples

What a run does is told by a triple: from states with an invariant, which is kept, it ends with an
answer that has a property or with a failure that has another.  The triple of a composed run is
composed of those of its steps.
-/

namespace Settlement

variable {σ η ζ ε ε' α β : Type}

/-- Keeping an invariant, a run answers with a property, or fails with another. -/
def Ensures (inv : σ → Prop) (x : Action σ η ε α) (post : α → Prop) (fails : ε → Prop) : Prop :=
  ∀ s, inv s →
    inv (x.run s).state ∧
      (∀ a, (x.run s).result = .ok a → post a) ∧ ∀ e, (x.run s).result = .error e → fails e

namespace Ensures

variable {inv : σ → Prop} {post : α → Prop} {fails : ε → Prop} {x : Action σ η ε α}

theorem pure {a : α} (holds : post a) :
    Ensures inv (Pure.pure a : Action σ η ε α) post fails := by
  intro s kept
  refine ⟨kept, ?_, by simp⟩
  rintro _ ⟨⟩
  exact holds

theorem fail {e : ε} (holds : fails e) :
    Ensures inv (Action.fail e : Action σ η ε α) post fails := by
  intro s kept
  refine ⟨kept, by simp, ?_⟩
  rintro _ ⟨⟩
  exact holds

/-- Without an invariant, every run ends somehow. -/
theorem anyhow (failures : ∀ e, fails e) :
    Ensures (fun _ => True) x (fun _ => True) fails :=
  fun _ _ => ⟨trivial, fun _ _ => trivial, fun e _ => failures e⟩

theorem report (e : η) : Ensures inv (Action.report e : Action σ η ε Unit) (fun _ => True) fails :=
  fun _ kept => ⟨kept, fun _ _ => trivial, by simp⟩

theorem bind {f : α → Action σ η ε β} {post' : β → Prop} (first : Ensures inv x post fails)
    (second : ∀ a, post a → Ensures inv (f a) post' fails) :
    Ensures inv (x >>= f) post' fails := by
  intro s kept
  obtain ⟨kept', answers, failures⟩ := first s kept
  cases outcome : (x.run s).result with
  | error e =>
      rw [Action.run_bind_of_error outcome]
      refine ⟨kept', by simp, ?_⟩
      rintro _ ⟨⟩
      exact failures e outcome
  | ok a =>
      rw [Action.run_bind_of_ok outcome]
      exact second a (answers a outcome) _ kept'

theorem mapError {f : ε → ε'} {fails : ε' → Prop}
    (ensures : Ensures inv x post fun e => fails (f e)) : Ensures inv (x.mapError f) post fails := by
  intro s kept
  obtain ⟨kept', answers, failures⟩ := ensures s kept
  rw [Action.run_mapError]
  cases outcome : (x.run s).result with
  | error e =>
      refine ⟨kept', by simp, ?_⟩
      rintro _ ⟨⟩
      exact failures e outcome
  | ok a =>
      refine ⟨kept', ?_, by simp⟩
      rintro _ ⟨⟩
      exact answers a outcome

theorem below (ensures : Ensures inv x post fails) :
    Ensures inv (x.below : Action σ (ζ ⊕ η) ε α) post fails :=
  ensures

theorem forM {l : List β} {f : β → Action σ η ε PUnit}
    (each : ∀ b ∈ l, Ensures inv (f b) (fun _ => True) fails) :
    Ensures inv (forM l f) (fun _ => True) fails := by
  induction l with
  | nil => exact .pure trivial
  | cons b rest ih =>
      rw [List.forM_cons]
      refine (each b List.mem_cons_self).bind fun _ _ => ih fun b' member => ?_
      exact each b' (List.mem_cons_of_mem b member)

theorem weaken {post' : α → Prop} {fails' : ε → Prop} (ensures : Ensures inv x post fails)
    (answers : ∀ a, post a → post' a) (failures : ∀ e, fails e → fails' e) :
    Ensures inv x post' fails' := by
  intro s kept
  obtain ⟨kept', isAnswer, isFailure⟩ := ensures s kept
  exact ⟨kept', fun a answer => answers a (isAnswer a answer),
    fun e failure => failures e (isFailure e failure)⟩

theorem fails_of_error {s : σ} {e : ε} (ensures : Ensures inv x post fails) (kept : inv s)
    (failed : (x.run s).result = .error e) : fails e :=
  (ensures s kept).2.2 e failed

/-- A run that leads from a state back to it, and can only end in one way, does so. -/
theorem run_eq {outcome : Except ε α} {s : σ}
    (ensures : Ensures (· = s) x (outcome = .ok ·) (outcome = .error ·)) :
    (x.run s).result = outcome ∧ (x.run s).state = s := by
  obtain ⟨kept, answers, failures⟩ := ensures s rfl
  refine ⟨?_, kept⟩
  cases result : (x.run s).result with
  | error e => exact (failures e result).symm
  | ok a => exact (answers a result).symm

end Ensures

end Settlement
