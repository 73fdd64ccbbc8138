import Mathlib.Logic.Relation
import Settlement.Proofs.Selection.Supertype

/-!
# Which settlers a selection is about

The rule by which settlers are admitted, and what it is for a settler to be below a type, said
without any selector: as a condition on what a settler declares, and as a chain of supertypes.
-/

namespace Settlement

/-- A settler may be selected if it is public, unless it is to be constructed and has no
instances.  Its own production mode goes before that of the group. -/
def Settler.Admissible (s : Settler) (group : ProductionMode) : Prop :=
  s.visibility = .visible ∧
    ¬(s.producer.getD group = .construct ∧ (s.kind = .abstract ∨ s.kind = .interface))

theorem Settler.isAdmitted_iff (s : Settler) (group : ProductionMode) :
    s.isAdmitted group = true ↔ s.Admissible group := by
  unfold isAdmitted Admissible isPublic production
  cases kind : s.kind <;> simp [Kind.isInstantiable]

namespace Selector

/-! ## Lineages -/

/-- One type is a direct supertype of another, and declared. -/
def Extends (settlers : List Settler) (s t : Settler) : Prop :=
  t ∈ settlers ∧ t.id ∈ s.supertypes

/-- A settler is below a type if it is that type, or if the type is a direct supertype of the settler
itself or of the last of a chain of declared ones. -/
def Below (settlers : List Settler) (base : SettlerId) (s : Settler) : Prop :=
  s.id = base ∨ ∃ t, Relation.ReflTransGen (Extends settlers) s t ∧ base ∈ t.supertypes

variable {settlers : List Settler} {base : SettlerId}

/-- Whatever extends a settler below a type is below it, too. -/
theorem Below.of_extends {s t : Settler} (below : Below settlers base t)
    (extend : Extends settlers s t) : Below settlers base s := by
  rcases below with rfl | ⟨u, chain, linked⟩
  · exact .inr ⟨s, .refl, extend.2⟩
  · exact .inr ⟨u, .head extend chain, linked⟩

/-- Supertypes lead to a type just from the settlers below it. -/
theorem leadsTo_iff_below (s : Settler) : LeadsTo settlers base [] s ↔ Below settlers base s := by
  constructor
  · intro leads
    induction leads with
    | here same => exact .inl same
    | @direct s _ linked => exact .inr ⟨s, .refl, linked⟩
    | through _ known linked _ ih => exact ih.of_extends ⟨known, linked⟩
  · rintro (same | ⟨t, chain, linked⟩)
    · exact .here same
    · induction chain using Relation.ReflTransGen.head_induction_on with
      | refl => exact .direct List.not_mem_nil linked
      | head first _ ih => exact .through List.not_mem_nil first.1 first.2 ih

/-! ## Candidates -/

open Classical in
/-- The candidates of the admissible ones among some settlers that have a property. -/
noncomputable def candidatesOf (ctx : SelectionContext) (settlers : List Settler)
    (wanted : Settler → Prop) : List Candidate :=
  (settlers.filter fun s => s.Admissible ctx.production ∧ wanted s).map fun s =>
    { id := s.id, singleton := s.singleton, producer := s.producer, acceptor := s.acceptor }

theorem admitted_filter (ctx : SelectionContext) (settlers : List Settler)
    (wanted : Settler → Prop) [DecidablePred wanted] :
    admitted ctx (settlers.filter fun s => wanted s) = candidatesOf ctx settlers wanted := by
  unfold admitted candidatesOf
  rw [List.filter_filter]
  congr 1
  apply List.filter_congr
  intro s _
  have rule := s.isAdmitted_iff ctx.production
  by_cases isAdmissible : s.Admissible ctx.production
  · simp [rule.mpr isAdmissible, isAdmissible]
  · simp [mt rule.mp isAdmissible, isAdmissible]

/-- Where each settler is listed once, it becomes a candidate at most once. -/
theorem nodup_candidatesOf (distinct : (settlers.map (·.id)).Nodup) (ctx : SelectionContext)
    (wanted : Settler → Prop) : ((candidatesOf ctx settlers wanted).map (·.id)).Nodup := by
  unfold candidatesOf
  rw [List.map_map]
  exact distinct.sublist (List.filter_sublist.map _)

end Selector

end Settlement
