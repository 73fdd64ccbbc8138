import Settlement.Proofs.Action.Mirror
import Settlement.Proofs.Renaming.Registry
import Settlement.Proofs.Selection.Rule

/-!
# Renamed selections

A rule with new names wants, among settlers with new names, just those that it wanted before.  The
one rule that looks into names is that by a pattern, which has to be blind to the renaming: it must
match a new name just if it matches the old one.
-/

namespace Settlement.Renaming

variable {φ ω ν : Type} (ρ : Renaming)

/-- That a rule does not tell new names from old ones, if it looks into names at all. -/
def Blinds : SelectionRule → Prop
  | .byMarker _ => True
  | .bySupertype _ => True
  | .registered _ => True
  | .byName pattern => ∀ compiled, Pattern.ofString pattern = .ok compiled →
      ∀ id, compiled.isMatch (ρ.id id).name = compiled.isMatch id.name

/-- A renaming of colonies blinds every rule. -/
theorem blinds_ofColonies (rename : ColonyId → ColonyId) (rule : SelectionRule) :
    (ofColonies rename).Blinds rule := by
  cases rule with
  | byMarker marker => trivial
  | bySupertype supertype => trivial
  | registered settlers => trivial
  | byName pattern => exact fun compiled _ id => rfl

/-! ## What is wanted -/

@[simp]
theorem carries_settler (s : Settler) (m : Marker) :
    (ρ.settler s).carries (ρ.marker m) = s.carries m := by
  rw [Bool.eq_iff_iff]
  simp only [Settler.carries, List.contains_iff_mem, settler, ρ.mem_map_marker]

theorem leadsTo_settler {settlers : List Settler} {base : SettlerId} {s : Settler}
    (leads : Selector.LeadsTo settlers base [] s) :
    Selector.LeadsTo (settlers.map ρ.settler) (ρ.id base) [] (ρ.settler s) := by
  induction leads with
  | here same => exact .here (congrArg ρ.id same)
  | direct _ linked => exact .direct List.not_mem_nil (List.mem_map_of_mem linked)
  | through _ known linked _ ih =>
      exact .through List.not_mem_nil (List.mem_map_of_mem known) (List.mem_map_of_mem linked) ih

theorem leadsTo_of_settler {settlers : List Settler} {base : SettlerId} {s : Settler}
    (leads : Selector.LeadsTo (settlers.map ρ.settler) (ρ.id base) [] (ρ.settler s)) :
    Selector.LeadsTo settlers base [] s := by
  generalize renamed : ρ.settler s = t at leads
  induction leads generalizing s with
  | here same =>
      subst renamed
      exact .here (ρ.id_injective same)
  | direct _ linked =>
      subst renamed
      exact .direct List.not_mem_nil (ρ.mem_map_id.mp linked)
  | through _ known linked _ ih =>
      subst renamed
      obtain ⟨u, listed, rfl⟩ := List.mem_map.mp known
      exact .through List.not_mem_nil listed (ρ.mem_map_id.mp linked) (ih rfl)

theorem leadsTo_settler_iff {settlers : List Settler} {base : SettlerId} {s : Settler} :
    Selector.LeadsTo (settlers.map ρ.settler) (ρ.id base) [] (ρ.settler s) ↔
      Selector.LeadsTo settlers base [] s :=
  ⟨ρ.leadsTo_of_settler, ρ.leadsTo_settler⟩

theorem find?_settler (settlers : List Settler) (id : SettlerId) :
    ((settlers.map ρ.settler).find? fun s => s.id == ρ.id id) =
      (settlers.find? fun s => s.id == id).map ρ.settler := by
  rw [List.find?_map]
  congr 2
  funext s
  rw [Bool.eq_iff_iff]
  simp only [Function.comp_apply, id_settler, beq_iff_eq, ρ.id_inj]

theorem named_settler (settlers : List Settler) (ids : List SettlerId) :
    Selector.named (settlers.map ρ.settler) (ids.map ρ.id) =
      ((Selector.named settlers ids).map (List.map ρ.settler)).mapError ρ.discovery := by
  induction ids with
  | nil => rfl
  | cons id rest ih =>
      rw [List.map_cons, Selector.named_cons, Selector.named_cons, find?_settler, ih]
      cases settlers.find? fun s => s.id == id with
      | none => rfl
      | some s => cases Selector.named settlers rest <;> rfl

/-- A test that does not tell new names from old ones lets the same settlers pass. -/
theorem filter_settler {test test' : Settler → Bool} (blind : ∀ s, test' (ρ.settler s) = test s)
    (settlers : List Settler) :
    (settlers.map ρ.settler).filter test' = (settlers.filter test).map ρ.settler := by
  rw [List.filter_map]
  congr 2
  funext s
  exact blind s

/-- A renamed rule wants what the rule wants. -/
theorem wanted_rule {rule : SelectionRule} (blind : ρ.Blinds rule) (settlers : List Settler) :
    (ρ.rule rule).wanted (settlers.map ρ.settler) =
      ((rule.wanted settlers).map (List.map ρ.settler)).mapError ρ.discovery := by
  cases rule with
  | byMarker marker =>
      exact congrArg Except.ok (ρ.filter_settler (fun s => ρ.carries_settler s marker) settlers)
  | bySupertype supertype =>
      apply congrArg Except.ok
      apply ρ.filter_settler
      intro s
      exact decide_eq_decide.mpr ρ.leadsTo_settler_iff
  | byName pattern =>
      cases compiled : Pattern.ofString pattern with
      | error reason =>
          simp only [Renaming.rule, SelectionRule.wanted, compiled]
          rfl
      | ok p =>
          simp only [Renaming.rule, SelectionRule.wanted, compiled]
          apply congrArg Except.ok
          apply ρ.filter_settler
          intro s
          exact blind p compiled s.id
  | registered ids => exact ρ.named_settler settlers ids

/-! ## What is selected -/

theorem admitted_settler {ctx ctx' : SelectionContext} (mode : ctx'.production = ctx.production)
    (settlers : List Settler) :
    Selector.admitted ctx' (settlers.map ρ.settler) =
      (Selector.admitted ctx settlers).map ρ.candidate := by
  have admits (s : Settler) :
      (ρ.settler s).isAdmitted ctx'.production = s.isAdmitted ctx.production := by
    rw [mode]
    rfl
  unfold Selector.admitted
  rw [ρ.filter_settler admits, List.map_map, List.map_map]
  rfl

/-- A renamed rule has a selector just if the rule has one, whatever the scopes. -/
theorem ofRule_rule (scope scope' : Scope ω ν) (rule : SelectionRule) :
    (∃ selector selector', Selector.ofRule scope rule = .ok selector ∧
      Selector.ofRule scope' (ρ.rule rule) = .ok selector') ∨
    ∃ e, Selector.ofRule scope rule = .error e ∧
      Selector.ofRule scope' (ρ.rule rule) = .error (ρ.discovery e) := by
  cases rule with
  | byMarker marker => exact .inl ⟨_, _, rfl, rfl⟩
  | bySupertype supertype => exact .inl ⟨_, _, rfl, rfl⟩
  | registered ids => exact .inl ⟨_, _, rfl, rfl⟩
  | byName pattern =>
      cases compiled : Pattern.ofString pattern with
      | error reason =>
          refine .inr ⟨.invalidPattern pattern reason, ?_, ?_⟩
          · simp only [Selector.ofRule, compiled]
          · simp only [Renaming.rule, Selector.ofRule, compiled, discovery]
      | ok p =>
          refine .inl ⟨Selector.byName scope p, Selector.byName scope' p, ?_, ?_⟩
          · simp only [Selector.ofRule, compiled]
          · simp only [Renaming.rule, Selector.ofRule, compiled]

/-- That a selector selects what another does, under the new names. -/
def Selects (selector selector' : Selector ω StrategyEvent) : Prop :=
  ∀ ctx ctx', ctx'.production = ctx.production →
    Action.Mirrors (selector.select ctx) (selector'.select ctx') ρ.discovery (List.map ρ.candidate)

variable {ρ} {r r' : Registry φ ν}

/-- At renamed registries, renamed rules select the same candidates. -/
theorem Renames.selects (renames : ρ.Renames r r') (indexed : r.Indexed)
    (indexed' : r'.Indexed) {call : φ → Action ω StrategyEvent String ν} {rule : SelectionRule}
    (blind : ρ.Blinds rule) {selector selector' : Selector ω StrategyEvent}
    (built : Selector.ofRule (r.scope call) rule = .ok selector)
    (built' : Selector.ofRule (r'.scope call) (ρ.rule rule) = .ok selector') :
    ρ.Selects selector selector' := by
  intro ctx ctx' mode w
  obtain ⟨result, state⟩ := indexed.run_select built ctx w
  obtain ⟨result', state'⟩ := indexed'.run_select built' ctx' w
  refine ⟨?_, state'.trans state.symm⟩
  rw [result, result', renames.settlers indexed indexed', ρ.wanted_rule blind]
  cases rule.wanted r.settlers with
  | error e => rfl
  | ok found => exact congrArg Except.ok (ρ.admitted_settler mode found)

end Settlement.Renaming
