import Settlement.Proofs.Selection.Lineage
import Settlement.Proofs.Selection.Rule

/-!
# Selections that agree

Three selectors go through a scope and match each settler by itself; the fourth looks the settlers
of a list up.  Over a registry all four admit settlers by one rule, so that looking up what another
selector matches comes to the same as that selector.
-/

namespace Settlement

variable {φ ω ν : Type}

namespace Selector

/-- What a selector that goes through a scope looks for. -/
inductive Trait where
  | ofMarker (marker : Marker)
  | ofSupertype (base : SettlerId)
  | ofName (pattern : Pattern)

namespace Trait

/-- The selector that looks for a trait. -/
def selector (scope : Scope ω ν) : Trait → Selector ω StrategyEvent
  | .ofMarker marker => byMarker scope marker
  | .ofSupertype base => bySupertype scope base
  | .ofName pattern => byName scope pattern

/-- A settler, one of a list, has a trait. -/
def Holds (settlers : List Settler) (s : Settler) : Trait → Prop
  | .ofMarker marker => marker ∈ s.markers
  | .ofSupertype base => Below settlers base s
  | .ofName pattern => pattern.isMatch s.id.name = true

end Trait

variable {settlers : List Settler} {scope : Scope ω ν} {inv : ω → Prop}
  {fails : DiscoveryError → Prop}

open Classical in
/-- A selector that goes through a scope returns the candidates of the admissible settlers that have
its trait. -/
theorem selector_ensures (answers : scope.AnswersFrom inv settlers fails) (trait : Trait)
    (ctx : SelectionContext) :
    Ensures inv ((trait.selector scope).select ctx)
      (· = candidatesOf ctx settlers fun s => trait.Holds settlers s) fails := by
  have matching {test : Settler → Bool} {wanted : Settler → Prop}
      (same : ∀ s, test s = true ↔ wanted s) :
      admitted ctx (settlers.filter test) = candidatesOf ctx settlers wanted := by
    rw [← admitted_filter]
    congr 2
    funext s
    rw [Bool.eq_iff_iff, same, decide_eq_true_iff]
  cases trait with
  | ofMarker marker =>
      apply (scanPlainly_ensures answers _ ctx (·.carries marker)).weaken _ fun _ failed => failed
      rintro _ rfl
      exact matching fun s => List.contains_iff_mem
  | ofSupertype base =>
      apply (bySupertype_ensures answers ctx).weaken _ fun _ failed => failed
      rintro _ rfl
      exact matching fun s => by rw [decide_eq_true_iff, leadsTo_iff_below]; rfl
  | ofName pattern =>
      apply (scanPlainly_ensures answers _ ctx fun s => pattern.isMatch s.id.name).weaken _
        fun _ failed => failed
      rintro _ rfl
      exact matching fun s => Iff.rfl

/-! ## Lists -/

/-- The settlers of a list of identities, in its order and as often as they are listed, without the
identities that nobody has. -/
def knownOf (settlers : List Settler) (ids : List SettlerId) : List Settler :=
  ids.filterMap fun id => settlers.find? fun s => s.id == id

theorem named_append (settlers : List Settler) (ids ids' : List SettlerId) :
    named settlers (ids ++ ids') = do
      let found ← named settlers ids
      let found' ← named settlers ids'
      return found ++ found' :=
  List.mapM_append

/-- If all are known, all are found. -/
theorem named_eq_ok {ids : List SettlerId} (known : ∀ id ∈ ids, ∃ s ∈ settlers, s.id = id) :
    named settlers ids = .ok (knownOf settlers ids) := by
  induction ids with
  | nil => rfl
  | cons id rest ih =>
      obtain ⟨s, listed, sameId⟩ := known id List.mem_cons_self
      have found : (settlers.find? fun s => s.id == id).isSome = true := by
        rw [List.find?_isSome]
        exact ⟨s, listed, by simpa using sameId⟩
      obtain ⟨t, entry⟩ := Option.isSome_iff_exists.mp found
      have others := ih fun id member => known id (List.mem_cons_of_mem _ member)
      simp [named_cons, knownOf, entry, others, Except.map]

/-- The first unknown one is told. -/
theorem named_eq_error {before after : List SettlerId} {id : SettlerId}
    (known : ∀ id ∈ before, ∃ s ∈ settlers, s.id = id) (unknown : ∀ s ∈ settlers, s.id ≠ id) :
    named settlers (before ++ id :: after) = .error (.unknownSettler id) := by
  have absent : (settlers.find? fun s => s.id == id) = none := by
    rw [List.find?_eq_none]
    intro s listed
    simpa using unknown s listed
  rw [named_append, named_eq_ok known, named_cons, absent]
  rfl

/-- In a list of distinct settlers, each is found by its identity. -/
theorem knownOf_map_id (distinct : (settlers.map (·.id)).Nodup) {l : List Settler}
    (listed : ∀ s ∈ l, s ∈ settlers) : knownOf settlers (l.map (·.id)) = l := by
  have found : ∀ s ∈ l, (settlers.find? fun t => t.id == s.id) = some s := by
    intro s member
    exact (find?_id_eq_some_iff distinct).mpr ⟨listed s member, rfl⟩
  rw [knownOf, List.filterMap_map]
  calc l.filterMap (fun s => settlers.find? fun t => t.id == s.id)
    _ = l.filterMap some := List.filterMap_congr found
    _ = l := List.filterMap_some

open Classical in
theorem admitted_eq_candidatesOf (ctx : SelectionContext) (settlers : List Settler) :
    admitted ctx settlers = candidatesOf ctx settlers fun _ => True := by
  rw [← admitted_filter]
  simp

open Classical in
/-- Of those with a property, the admissible ones are the admissible ones with the property. -/
theorem candidatesOf_filter (ctx : SelectionContext) (settlers : List Settler)
    (wanted : Settler → Prop) :
    candidatesOf ctx (settlers.filter fun s => wanted s) (fun _ => True) =
      candidatesOf ctx settlers wanted := by
  rw [← admitted_eq_candidatesOf, admitted_filter]

end Selector

namespace Registry

open Selector

variable {r : Registry φ ν}

theorem Indexed.run_selector (indexed : r.Indexed) (call : φ → Action ω StrategyEvent String ν)
    (trait : Trait) (ctx : SelectionContext) (w : ω) :
    (((trait.selector (r.scope call)).select ctx).run w).result =
      .ok (candidatesOf ctx r.settlers fun s => trait.Holds r.settlers s) := by
  have answers := indexed.answersFrom call (· = w)
  apply And.left (Ensures.run_eq _)
  apply (selector_ensures answers trait ctx).weaken
  · rintro _ rfl
    rfl
  · intro e failed
    exact failed.elim

theorem Indexed.run_registered (indexed : r.Indexed) (call : φ → Action ω StrategyEvent String ν)
    (ids : List SettlerId) (ctx : SelectionContext) (w : ω) :
    (((registered (r.scope call) ids).select ctx).run w).result =
      match ids.find? fun id => !r.contains id with
      | some id => .error (.unknownSettler id)
      | none => .ok (candidatesOf ctx (knownOf r.settlers ids) fun _ => True) := by
  have built : ofRule (r.scope call) (.registered ids) = .ok (registered (r.scope call) ids) := rfl
  rw [(indexed.run_select built ctx w).1, SelectionRule.wanted]
  split
  next id first =>
    obtain ⟨undeclared, before, after, rfl, declared⟩ := List.find?_eq_some_iff_append.mp first
    have known : ∀ id ∈ before, ∃ s ∈ r.settlers, s.id = id := by
      intro id member
      exact (indexed.contains_iff id).mp (by simpa using declared id member)
    have unknown : ∀ s ∈ r.settlers, s.id ≠ id := by
      intro s listed sameId
      rw [(indexed.contains_iff id).mpr ⟨s, listed, sameId⟩] at undeclared
      contradiction
    rw [named_eq_error known unknown]
    rfl
  next declared =>
    rw [List.find?_eq_none] at declared
    have known : ∀ id ∈ ids, ∃ s ∈ r.settlers, s.id = id := by
      intro id member
      exact (indexed.contains_iff id).mp (by simpa using declared id member)
    rw [named_eq_ok known, ← admitted_eq_candidatesOf]
    rfl

open Classical in
/-- Over a registry that edits lead to, all selectors admit settlers by one rule.  Those that go
through it return the candidates of the admissible settlers that have their trait, in the order of
the registry and each once.  The one that is given a list returns those of the admissible settlers
of the list, in its order and as often as they are listed; or, if some of the list are not declared,
it fails at the first of them, whatever the others are.  So a list of all settlers with a trait
selects the same as the trait. -/
theorem selectors_agree (m : Manifest) (edits : List (Edit φ ν))
    (call : φ → Action ω StrategyEvent String ν) (ctx : SelectionContext) (w : ω) :
    let r := (ofManifest m).after edits
    let selects (selector : Selector ω StrategyEvent) := ((selector.select ctx).run w).result
    (∀ trait : Trait,
      let candidates := candidatesOf ctx r.settlers fun s => trait.Holds r.settlers s
      selects (trait.selector (r.scope call)) = .ok candidates ∧
        (candidates.map (·.id)).Nodup) ∧
    (∀ ids, selects (registered (r.scope call) ids) =
      match ids.find? fun id => !r.contains id with
      | some id => .error (.unknownSettler id)
      | none => .ok (candidatesOf ctx (knownOf r.settlers ids) fun _ => True)) ∧
    ∀ trait : Trait,
      let having := r.settlers.filter fun s => trait.Holds r.settlers s
      selects (registered (r.scope call) (having.map (·.id))) =
        selects (trait.selector (r.scope call)) := by
  intro r selects
  have indexed : r.Indexed := ((consistent_ofManifest m).after edits).indexed
  refine ⟨fun trait => ⟨indexed.run_selector call trait ctx w, ?_⟩,
    fun ids => indexed.run_registered call ids ctx w, fun trait => ?_⟩
  · exact nodup_candidatesOf indexed.ids_nodup ctx _
  · intro having
    have listed : ∀ s ∈ having, s ∈ r.settlers := fun s member => (List.mem_filter.mp member).1
    have declared : (having.map (·.id)).find? (fun id => !r.contains id) = none := by
      rw [List.find?_eq_none]
      intro id member
      obtain ⟨s, isThere, sameId⟩ := List.mem_map.mp member
      simpa using (indexed.contains_iff id).mpr ⟨s, listed s isThere, sameId⟩
    have byList := indexed.run_registered call (having.map (·.id)) ctx w
    rw [declared, knownOf_map_id indexed.ids_nodup listed, candidatesOf_filter] at byList
    exact byList.trans (indexed.run_selector call trait ctx w).symm

end Registry

end Settlement
