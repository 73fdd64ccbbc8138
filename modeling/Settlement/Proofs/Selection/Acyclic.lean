import Settlement.Proofs.Selection.Lineage

/-!
# Settlers without cycles

Where no type is its own ancestor, no visit of a walk is ever cut, since the types under visit lead to
the settler that is looked at.  So the walk finds out about every settler below the wanted type.
-/

namespace Settlement.Selector

variable {settlers : List Settler} {base : SettlerId}

/-! ## Chains -/

theorem mem_of_transGen {s t : Settler}
    (chain : Relation.TransGen (Extends settlers) s t) : t ∈ settlers := by
  cases chain with
  | single last => exact last.1
  | tail _ last => exact last.1

/-- No type is its own ancestor. -/
def Acyclic (settlers : List Settler) : Prop :=
  ∀ s ∈ settlers, ¬Relation.TransGen (Extends settlers) s s

/-- No settler that leads to a type is listed before it. -/
def ListedFirst (settlers : List Settler) (t : Settler) : Prop :=
  ∀ earlier later, settlers = earlier ++ t :: later →
    ∀ s ∈ earlier, ¬Relation.TransGen (Extends settlers) s t

section

-- types may be given ranks that rise with each link
variable {rank : Settler → Nat}
  (rises : ∀ s ∈ settlers, ∀ t ∈ settlers, t.id ∈ s.supertypes → rank s < rank t)

include rises

theorem rank_lt_of_transGen {s t : Settler} (listed : s ∈ settlers)
    (chain : Relation.TransGen (Extends settlers) s t) : rank s < rank t := by
  induction chain with
  | single first => exact rises s listed _ first.1 first.2
  | tail chain last ih => exact Nat.lt_trans ih (rises _ (mem_of_transGen chain) _ last.1 last.2)

theorem acyclic_of_rank : Acyclic settlers :=
  fun _ listed chain => Nat.lt_irrefl _ (rank_lt_of_transGen rises listed chain)

theorem listedFirst_of_rank {t : Settler}
    (falls : settlers.Pairwise fun s u => u = t → rank u ≤ rank s) : ListedFirst settlers t := by
  intro earlier later all s member chain
  have listed : s ∈ settlers := all ▸ List.mem_append_left _ member
  rw [all] at falls
  have above : rank t ≤ rank s :=
    (List.pairwise_append.mp falls).2.2 s member t List.mem_cons_self rfl
  exact Nat.not_lt.mpr above (rank_lt_of_transGen rises listed chain)

end

/-! ## Walks -/

/-- The types under visit lead to the settler that is looked at. -/
def Descends (settlers : List Settler) (w : Walk) (s : Settler) : Prop :=
  ∀ id ∈ w.visiting, ∃ d ∈ settlers, d.id = id ∧ Relation.TransGen (Extends settlers) d s

/-- Without cycles nothing that a settler leads to is under visit. -/
theorem Descends.not_mem (distinct : (settlers.map (·.id)).Nodup) (acyclic : Acyclic settlers)
    {s t : Settler} {w : Walk} (descends : Descends settlers w s)
    (chain : Relation.ReflTransGen (Extends settlers) s t) : t.id ∉ w.visiting := by
  intro isVisited
  obtain ⟨d, listed, sameId, above⟩ := descends t.id isVisited
  have through := above.trans_left chain
  obtain rfl := eq_of_id_eq distinct listed (mem_of_transGen through) sameId
  exact acyclic d listed through

/-- A way stays a way if it meets none of the types to avoid. -/
theorem LeadsTo.around {barred : List SettlerId} {s : Settler}
    (leads : LeadsTo settlers base [] s)
    (free : ∀ t, Relation.ReflTransGen (Extends settlers) s t → t.id ∉ barred) :
    LeadsTo settlers base barred s := by
  induction leads with
  | here same => exact .here same
  | direct _ linked => exact .direct (free _ .refl) linked
  | through _ listed linked _ ih =>
      have onwards := ih fun t chain => free t (.head ⟨listed, linked⟩ chain)
      exact .through (free _ .refl) listed linked onwards

/-- Without cycles no visit is cut, so that a walk finds out about every settler below the type. -/
theorem found_of_below (distinct : (settlers.map (·.id)).Nodup) (acyclic : Acyclic settlers)
    {s : Settler} {w : Walk} (descends : Descends settlers w s)
    (below : Below settlers base s) {found : Bool} (tells : Tells settlers base w s found) :
    found = true := by
  cases found with
  | true => rfl
  | false =>
      refine absurd (((leadsTo_iff_below s).mpr below).around ?_) tells
      exact fun t chain => descends.not_mem distinct acyclic chain

theorem Descends.step {s t : Settler} {w w' : Walk} (descends : Descends settlers w s)
    (listed : s ∈ settlers) (extend : Extends settlers s t)
    (same : w'.visiting = (w.enter s.id).visiting) : Descends settlers w' t := by
  intro id member
  rw [same] at member
  rcases List.mem_cons.mp member with rfl | member
  · exact ⟨s, listed, rfl, .single extend⟩
  · obtain ⟨d, listed', sameId, above⟩ := descends id member
    exact ⟨d, listed', sameId, above.tail extend⟩

end Settlement.Selector
