import Settlement.Registry.Basic
import Settlement.Selector.Rule

/-!
# Steady scopes

The scope that a selector goes through may change between two selections, and so may what they
return.  A scope is steady if its answers stay the same, failures included, whatever else goes on in
the world.  Then all selections from it come out the same, whenever they are made.

Nothing is asked of the answers themselves: the list need not agree with the look-up, and an
identity may be listed twice.
-/

namespace Settlement

/-! ## Determined runs -/

section

variable {σ η ε α β : Type}

/-- Keeping an invariant, a run always ends in the same way. -/
def Determined (inv : σ → Prop) (x : Action σ η ε α) : Prop :=
  ∃ outcome : Except ε α, ∀ s, inv s → (x.run s).result = outcome ∧ inv (x.run s).state

namespace Determined

variable {inv : σ → Prop} {x : Action σ η ε α}

theorem result_eq (determined : Determined inv x) {s s' : σ} (first : inv s) (second : inv s') :
    (x.run s).result = (x.run s').result := by
  obtain ⟨outcome, ends⟩ := determined
  rw [(ends s first).1, (ends s' second).1]

theorem kept (determined : Determined inv x) {s : σ} (holds : inv s) : inv (x.run s).state := by
  obtain ⟨outcome, ends⟩ := determined
  exact (ends s holds).2

theorem pure (a : α) : Determined inv (Pure.pure a : Action σ η ε α) :=
  ⟨.ok a, fun _ holds => ⟨rfl, holds⟩⟩

theorem fail (e : ε) : Determined inv (Action.fail e : Action σ η ε α) :=
  ⟨.error e, fun _ holds => ⟨rfl, holds⟩⟩

theorem report (e : η) : Determined inv (Action.report e : Action σ η ε Unit) :=
  ⟨.ok (), fun _ holds => ⟨rfl, holds⟩⟩

theorem bind {f : α → Action σ η ε β} (first : Determined inv x)
    (second : ∀ a, Determined inv (f a)) : Determined inv (x >>= f) := by
  obtain ⟨outcome, ends⟩ := first
  cases outcome with
  | error e =>
      refine ⟨.error e, fun s holds => ?_⟩
      rw [Action.run_bind_of_error (ends s holds).1]
      exact ⟨rfl, (ends s holds).2⟩
  | ok a =>
      obtain ⟨outcome', ends'⟩ := second a
      refine ⟨outcome', fun s holds => ?_⟩
      rw [Action.run_bind_of_ok (ends s holds).1]
      exact ends' _ (ends s holds).2

end Determined

end

variable {ω ν σ : Type} {inv : ω → Prop}

/-- Keeping an invariant of the world, a scope always gives the same answers. -/
structure Scope.Steady (scope : Scope ω ν) (inv : ω → Prop) : Prop where
  lists : Determined inv scope.settlers
  looksUp : ∀ id, Determined inv (scope.settler id)

namespace Selector

/-! ## Selections -/

theorem determined_admits (describe : String) (ctx : SelectionContext) (s : Settler) :
    Determined inv (admits describe ctx s) := by
  unfold admits
  split
  · exact (Determined.report _).bind fun _ => .pure _
  · split
    · exact (Determined.report _).bind fun _ => .pure _
    · exact .pure _

theorem determined_keep {test : σ → Settler → Selection ω (Bool × σ)}
    (tests : ∀ memory s, Determined inv (test memory s)) (describe : String)
    (ctx : SelectionContext) (memory : σ) (settlers : List Settler) :
    Determined inv (keep describe ctx test memory settlers) := by
  induction settlers generalizing memory with
  | nil => exact .pure []
  | cons s rest ih =>
      unfold keep
      refine (tests memory s).bind fun (passes, memory') => ?_
      cases passes with
      | false => exact (Determined.pure false).bind fun _ => (ih memory').bind fun _ => .pure _
      | true =>
          exact (determined_admits describe ctx s).bind fun _ =>
            (ih memory').bind fun _ => .pure _

theorem determined_scan {test : σ → Settler → Selection ω (Bool × σ)}
    (tests : ∀ memory s, Determined inv (test memory s)) (describe : String)
    (ctx : SelectionContext) (memory : σ) (settlers : List Settler) :
    Determined inv (scan describe ctx test memory settlers) :=
  (determined_keep tests describe ctx memory settlers).bind fun _ =>
    (Determined.report _).bind fun _ => .pure _

theorem determined_scanPlainly {scope : Scope ω ν} (steady : scope.Steady inv)
    (describe : String) (ctx : SelectionContext) (test : Settler → Bool) :
    Determined inv (scanPlainly scope describe ctx test) :=
  steady.lists.bind fun settlers =>
    determined_scan (fun _ _ => .pure _) describe ctx () settlers

theorem determined_lookUp {scope : Scope ω ν} (steady : scope.Steady inv) (describe : String)
    (ctx : SelectionContext) (ids : List SettlerId) :
    Determined inv (lookUp scope describe ctx ids) := by
  induction ids with
  | nil => exact .pure []
  | cons id rest ih =>
      unfold lookUp
      refine (steady.looksUp id).bind fun answer => ?_
      cases answer with
      | none => exact .fail _
      | some s => exact (determined_admits describe ctx s).bind fun _ => ih.bind fun _ => .pure _

theorem determined_reaches {scope : Scope ω ν} (steady : scope.Steady inv) (base : SettlerId)
    {visit : Settler → Walk → Selection ω (Bool × Walk)}
    (visits : ∀ s w, Determined inv (visit s w)) (supertypes : List SettlerId) (w : Walk) :
    Determined inv (reaches scope base visit supertypes w) := by
  induction supertypes generalizing w with
  | nil => exact .pure (false, w)
  | cons parent rest ih =>
      unfold reaches
      split
      · exact .pure (true, w)
      · refine (steady.looksUp parent).bind fun answer => ?_
        cases answer with
        | none => exact ih w
        | some s =>
            refine (visits s w).bind fun (found, w') => ?_
            dsimp only
            split
            · exact .pure (true, w')
            · exact ih w'

theorem determined_walk {scope : Scope ω ν} (steady : scope.Steady inv) (base : SettlerId)
    (depth : Nat) (s : Settler) (w : Walk) : Determined inv (walk scope base depth s w) := by
  induction depth generalizing s w with
  | zero => exact .fail _
  | succ depth ih =>
      unfold walk
      split
      · exact .pure _
      · split
        · exact .pure (false, w)
        · exact (determined_reaches steady base ih _ _).bind fun _ => .pure _

/-- The selections of a rule come out the same as long as the scope answers the same. -/
theorem determined_select {scope : Scope ω ν} (steady : scope.Steady inv) {rule : SelectionRule}
    {selector : Selector ω StrategyEvent} (built : ofRule scope rule = .ok selector)
    (ctx : SelectionContext) : Determined inv (selector.select ctx) := by
  cases rule with
  | byMarker marker =>
      cases built
      exact determined_scanPlainly steady _ ctx _
  | bySupertype supertype =>
      cases built
      exact steady.lists.bind fun settlers =>
        determined_scan (fun _ s => determined_walk steady supertype _ s _) _ ctx _ settlers
  | byName pattern =>
      unfold ofRule at built
      cases compiled : Pattern.ofString pattern with
      | error reason => simp [compiled] at built
      | ok p =>
          simp only [compiled, Except.ok.injEq] at built
          subst built
          exact determined_scanPlainly steady _ ctx _
  | registered ids =>
      cases built
      exact determined_lookUp steady _ ctx ids

end Selector

/-- The scope of a registry never changes its answers, since it has no others. -/
theorem Registry.steady_scope {φ : Type} (r : Registry φ ν)
    (call : φ → Action ω StrategyEvent String ν) : (r.scope call).Steady fun _ => True where
  lists := .pure _
  looksUp _ := .pure _

end Settlement
