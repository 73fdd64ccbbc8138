import Settlement.Proofs.Registry.Consistency
import Settlement.Proofs.Selection.Supertype

/-!
# What rules select

A rule wants some settlers of a list, and its selector returns the candidates of the admitted ones
among them.  A registry answers from the list of its settlers, so its selections are determined by
that list alone: they have no effect, and they come out the same whenever they are made.
-/

namespace Settlement

variable {φ ω ν : Type}

open Classical in
/-- The settlers of a list that a rule wants, whether they are admitted or not. -/
noncomputable def SelectionRule.wanted (settlers : List Settler) :
    SelectionRule → Except DiscoveryError (List Settler)
  | .byMarker marker => .ok (settlers.filter (·.carries marker))
  | .bySupertype supertype =>
      .ok (settlers.filter fun s => Selector.LeadsTo settlers supertype [] s)
  | .byName pattern =>
      match Pattern.ofString pattern with
      | .ok compiled => .ok (settlers.filter fun s => compiled.isMatch s.id.name)
      | .error reason => .error (.invalidPattern pattern reason)
  | .registered ids => Selector.named settlers ids

/-- A rule wants only what is there. -/
theorem SelectionRule.mem_of_wanted {settlers found : List Settler} {rule : SelectionRule}
    (wants : rule.wanted settlers = .ok found) {s : Settler} (member : s ∈ found) :
    s ∈ settlers := by
  cases rule with
  | byMarker marker =>
      cases wants
      exact (List.mem_filter.mp member).1
  | bySupertype supertype =>
      cases wants
      exact (List.mem_filter.mp member).1
  | byName pattern =>
      rw [wanted] at wants
      split at wants
      · cases wants
        exact (List.mem_filter.mp member).1
      · contradiction
  | registered ids => exact Selector.mem_of_named wants member

namespace Selector

/-- The selector of a rule returns the candidates of the admitted settlers that the rule wants. -/
theorem select_ensures {inv : ω → Prop} {fails : DiscoveryError → Prop} {scope : Scope ω ν}
    {settlers : List Settler} (answers : scope.AnswersFrom inv settlers fails)
    {rule : SelectionRule} {selector : Selector ω StrategyEvent}
    (built : ofRule scope rule = .ok selector) (ctx : SelectionContext) :
    Ensures inv (selector.select ctx)
      (fun candidates => ∃ found, rule.wanted settlers = .ok found ∧
        candidates = admitted ctx found)
      (fun e => fails e ∨ rule.wanted settlers = .error e) := by
  cases rule with
  | byMarker marker =>
      cases built
      apply (scanPlainly_ensures answers _ ctx (·.carries marker)).weaken
      · rintro _ rfl
        exact ⟨_, rfl, rfl⟩
      · intro e failed
        exact .inl failed
  | bySupertype supertype =>
      cases built
      apply (bySupertype_ensures answers ctx).weaken
      · rintro _ rfl
        exact ⟨_, rfl, rfl⟩
      · intro e failed
        exact .inl failed
  | byName pattern =>
      unfold ofRule at built
      cases compiled : Pattern.ofString pattern with
      | error reason => simp [compiled] at built
      | ok p =>
          simp only [compiled, Except.ok.injEq] at built
          subst built
          apply (scanPlainly_ensures answers _ ctx fun s => p.isMatch s.id.name).weaken
          · rintro _ rfl
            exact ⟨_, by simp [SelectionRule.wanted, compiled], rfl⟩
          · intro e failed
            exact .inl failed
  | registered ids =>
      cases built
      exact lookUp_ensures answers _ ctx ids

end Selector

namespace Registry

/-- The scope of a registry answers from its list, and never fails. -/
theorem Indexed.answersFrom {r : Registry φ ν} (indexed : r.Indexed)
    (call : φ → Action ω StrategyEvent String ν) (inv : ω → Prop) :
    (r.scope call).AnswersFrom inv r.settlers fun _ => False where
  distinct := indexed.ids_nodup
  lists := .pure rfl
  looksUp id := .pure (indexed.settler?_eq_find? id)

/-- A selection from a registry depends on nothing but the registry. -/
theorem Indexed.run_select {r : Registry φ ν} (indexed : r.Indexed)
    {call : φ → Action ω StrategyEvent String ν} {rule : SelectionRule}
    {selector : Selector ω StrategyEvent}
    (built : Selector.ofRule (r.scope call) rule = .ok selector) (ctx : SelectionContext) (w : ω) :
    ((selector.select ctx).run w).result =
        (rule.wanted r.settlers).map (Selector.admitted ctx) ∧
      ((selector.select ctx).run w).state = w := by
  apply Ensures.run_eq
  apply (Selector.select_ensures (indexed.answersFrom call (· = w)) built ctx).weaken
  · rintro _ ⟨found, wants, rfl⟩
    rw [wants]
    rfl
  · rintro e (failed | unwanted)
    · exact failed.elim
    · rw [unwanted]
      rfl

end Registry

end Settlement
