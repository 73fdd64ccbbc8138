import Mathlib.Data.List.Basic
import Settlement.Proofs.Registry.Consistency

/-!
# What edits do to one identity

All that a registry knows of an identity is an entry: the settler that is declared under it, and
what it is bound to.  An edit names one identity.  What it does to the entry of this identity
depends on that entry alone, and it leaves all other entries as they are.  Besides, it may add the
identity to the list, behind all others.
-/

namespace Settlement

variable {φ ν : Type}

namespace Edit

/-- The identity that an edit names. -/
def id : Edit φ ν → SettlerId
  | .declare s => s.id
  | .registerWith s _ => s.id
  | .registerSingleton s _ => s.id
  | .bindFactory id _ => id
  | .bindSingleton id _ => id

/-- The settler that an edit declares. -/
def declared? : Edit φ ν → Option Settler
  | .declare s => some s
  | .registerWith s _ => some s
  | .registerSingleton s _ => some s.asSingleton
  | .bindFactory _ _ => none
  | .bindSingleton _ _ => none

end Edit

namespace Registry

/-- What a registry knows of one identity. -/
structure Entry (φ ν : Type) where
  settler : Option Settler := none
  binding : Option (Binding φ ν) := none

namespace Entry

/-- The entry after a declaration of its identity. -/
def declare (s : Settler) (entry : Entry φ ν) : Entry φ ν where
  settler := some { s with singleton := s.singleton || entry.binding.any Binding.isShared }
  binding := if s.singleton then entry.binding.filter Binding.isShared else entry.binding

/-- The entry after its identity is offered a factory. -/
def bindFactory (handle : φ) (entry : Entry φ ν) : Entry φ ν :=
  if entry.settler.any (!·.singleton) then { entry with binding := some (.factory handle) }
  else entry

/-- The entry after its identity is offered a shared instance. -/
def bindSingleton (instanceOf : Shared ν) (entry : Entry φ ν) : Entry φ ν :=
  match entry.settler with
  | some s => { settler := some s.asSingleton, binding := some (.shared instanceOf) }
  | none => entry

/-- The entry after an edit that names its identity. -/
def edit : Edit φ ν → Entry φ ν → Entry φ ν
  | .declare s => declare s
  | .registerWith s handle => fun entry => (entry.declare s).bindFactory handle
  | .registerSingleton s instanceOf => fun _ =>
      { settler := some s.asSingleton, binding := some (.shared instanceOf) }
  | .bindFactory _ handle => bindFactory handle
  | .bindSingleton _ instanceOf => bindSingleton instanceOf

end Entry

/-- The entry of an identity. -/
def entry (r : Registry φ ν) (id : SettlerId) : Entry φ ν where
  settler := r.settler? id
  binding := r.bindings[id]?

/-! ## Single operations -/

/-- A declared singleton loses its factory, but keeps its shared instance. -/
theorem bindings_afterDeclaring (r : Registry φ ν) (s : Settler) (id : SettlerId) :
    (r.afterDeclaring s).bindings[id]? =
      if s.id = id ∧ s.singleton then r.bindings[id]?.filter Binding.isShared
      else r.bindings[id]? := by
  unfold afterDeclaring redeclaration
  by_cases sameId : s.id = id
  · subst sameId
    rcases binding : r.bindings[s.id]? with _ | (handle | instanceOf) <;> cases s.singleton <;>
      simp [binding, bindings_unbind, Option.filter_some, Binding.isShared]
  · rcases r.bindings[s.id]? with _ | (handle | instanceOf) <;> cases s.singleton <;>
      simp [bindings_unbind, sameId]

theorem Indexed.entry_afterDeclaring {r : Registry φ ν} (indexed : r.Indexed) (s : Settler)
    (id : SettlerId) :
    (r.afterDeclaring s).entry id = if s.id = id then (r.entry id).declare s else r.entry id := by
  unfold entry
  rw [indexed.settler?_afterDeclaring, bindings_afterDeclaring]
  by_cases sameId : s.id = id
  · subst sameId
    simp [Entry.declare]
  · simp [sameId]

theorem entry_bind (r : Registry φ ν) (own id : SettlerId) (b : Binding φ ν) :
    (r.bind own b).entry id =
      if own = id then { r.entry id with binding := some b } else r.entry id := by
  unfold entry
  rw [settler?_bind, bindings_bind]
  split <;> rfl

theorem Indexed.entry_put {r : Registry φ ν} (indexed : r.Indexed) (s : Settler)
    (id : SettlerId) :
    (r.put s).entry id = if s.id = id then { r.entry id with settler := some s }
      else r.entry id := by
  unfold entry
  rw [indexed.settler?_put, bindings_put]
  split <;> rfl

theorem entry_bindFactory (r : Registry φ ν) (own : SettlerId) (handle : φ) (id : SettlerId) :
    ((bindFactory own handle).run r).state.entry id =
      if own = id then (r.entry id).bindFactory handle else r.entry id := by
  have same : (r.entry own).settler = r.settler? own := rfl
  unfold bindFactory Entry.bindFactory
  cases declared : r.settler? own with
  | none =>
      split
      case isTrue sameId =>
        subst sameId
        simp [declared, same]
      case isFalse => simp [declared]
  | some s =>
      cases flag : s.singleton with
      | true =>
          split
          case isTrue sameId =>
            subst sameId
            simp [declared, flag, same]
          case isFalse => simp [declared, flag]
      | false =>
          split
          case isTrue sameId =>
            subst sameId
            simp [declared, flag, same, entry_bind]
          case isFalse otherId => simp [declared, flag, entry_bind, otherId]

theorem Indexed.entry_bindSingleton {r : Registry φ ν} (indexed : r.Indexed) (own : SettlerId)
    (instanceOf : Shared ν) (id : SettlerId) :
    ((bindSingleton own instanceOf).run r).state.entry id =
      if own = id then (r.entry id).bindSingleton instanceOf else r.entry id := by
  have same : (r.entry own).settler = r.settler? own := rfl
  unfold bindSingleton Entry.bindSingleton
  cases declared : r.settler? own with
  | none =>
      split
      case isTrue sameId =>
        subst sameId
        simp [declared, same]
      case isFalse => simp [declared]
  | some s =>
      obtain ⟨_, rfl⟩ := indexed.settler?_eq_some_iff.mp declared
      split
      case isTrue sameId =>
        subst sameId
        simp [declared, same, entry_bind, indexed.entry_put]
      case isFalse otherId => simp [declared, entry_bind, indexed.entry_put, otherId]

/-! ## Edits -/

/-- An edit changes the entry of the identity it names, and no other. -/
theorem Indexed.entry_edit {r : Registry φ ν} (indexed : r.Indexed) (e : Edit φ ν)
    (id : SettlerId) :
    ((edit e).run r).state.entry id = if e.id = id then (r.entry id).edit e else r.entry id := by
  cases e with
  | declare s =>
      rw [edit, state_declare]
      exact indexed.entry_afterDeclaring s id
  | registerWith s handle =>
      rw [edit, state_registerWith, entry_bindFactory, indexed.entry_afterDeclaring]
      change (if s.id = id then _ else _) = if s.id = id then _ else _
      split <;> rfl
  | registerSingleton s instanceOf =>
      rw [edit, registerSingleton, Action.run_bind_of_ok (result_declare r s.asSingleton),
        state_declare]
      by_cases sameId : s.id = id
      · subst sameId
        simp [entry_bind, indexed.entry_afterDeclaring, Edit.id, Entry.edit, Entry.declare]
        rfl
      · simp [entry_bind, indexed.entry_afterDeclaring, Edit.id, sameId]
  | bindFactory own handle => exact entry_bindFactory r own handle id
  | bindSingleton own instanceOf => exact indexed.entry_bindSingleton own instanceOf id

/-! ## The list -/

/-- The identities of the settlers, in the order of the list. -/
def ids (r : Registry φ ν) : List SettlerId :=
  r.settlers.map (·.id)

theorem Indexed.mem_ids_iff {r : Registry φ ν} (indexed : r.Indexed) (id : SettlerId) :
    id ∈ r.ids ↔ ∃ s, r.settler? id = some s := by
  simp only [ids, List.mem_map, indexed.settler?_eq_some_iff]

/-- The list is told by its identities and by the settlers that are found for them. -/
theorem Indexed.settlers_eq {r : Registry φ ν} (indexed : r.Indexed) :
    r.settlers = r.ids.filterMap r.settler? := by
  have found : ∀ s ∈ r.settlers, (r.settler? ∘ Settler.id) s = some s := by
    intro s member
    exact indexed.settler?_eq_some_iff.mpr ⟨member, rfl⟩
  calc r.settlers
    _ = r.settlers.filterMap some := List.filterMap_some.symm
    _ = r.settlers.filterMap (r.settler? ∘ Settler.id) := (List.filterMap_congr found).symm
    _ = r.ids.filterMap r.settler? := List.filterMap_map.symm

theorem Indexed.ids_put {r : Registry φ ν} (indexed : r.Indexed) (s : Settler) :
    (r.put s).ids = if s.id ∈ r.ids then r.ids else r.ids ++ [s.id] := by
  unfold Registry.put
  cases place : r.index[s.id]? with
  | some slot =>
      obtain ⟨old, listed, oldId⟩ := (indexed s.id slot).mp place
      have known : s.id ∈ r.ids := List.mem_map.mpr ⟨old, List.mem_of_getElem? listed, oldId⟩
      rw [if_pos known, ids, List.map_set, ← ids]
      apply List.ext_getElem?
      intro other
      rw [List.getElem?_set]
      split
      case isTrue atSlot =>
        subst atSlot
        rw [ids, List.length_map, if_pos (List.getElem?_eq_some_iff.mp listed).1,
          List.getElem?_map, listed, Option.map_some, oldId]
      case isFalse => rfl
  | none =>
      have unknown : s.id ∉ r.ids := by
        intro known
        obtain ⟨t, member, sameId⟩ := List.mem_map.mp known
        exact indexed.ne_of_index_eq_none place member sameId
      rw [if_neg unknown, ids, List.map_append]
      rfl

theorem Indexed.ids_afterDeclaring {r : Registry φ ν} (indexed : r.Indexed) (s : Settler) :
    (r.afterDeclaring s).ids = if s.id ∈ r.ids then r.ids else r.ids ++ [s.id] := by
  have unbound : (r.unbind s.id).Indexed := indexed
  unfold afterDeclaring
  cases r.redeclaration s with
  | plain => exact indexed.ids_put s
  | keepsSingleton => exact indexed.ids_put s.asSingleton
  | dropsFactory => exact unbound.ids_put s

theorem ids_bindFactory (r : Registry φ ν) (id : SettlerId) (handle : φ) :
    ((bindFactory id handle).run r).state.ids = r.ids := by
  unfold bindFactory
  cases declared : r.settler? id with
  | none => simp [declared]
  | some s =>
      cases flag : s.singleton with
      | true => simp [declared, flag]
      | false =>
          simp only [Action.run_bind, Action.run_read, Action.andThen_ok, declared, flag]
          rfl

theorem Indexed.ids_bindSingleton {r : Registry φ ν} (indexed : r.Indexed) (id : SettlerId)
    (instanceOf : Shared ν) : ((bindSingleton id instanceOf).run r).state.ids = r.ids := by
  unfold bindSingleton
  cases declared : r.settler? id with
  | none => simp [declared]
  | some s =>
      obtain ⟨_, rfl⟩ := indexed.settler?_eq_some_iff.mp declared
      have known : s.asSingleton.id ∈ r.ids := (indexed.mem_ids_iff s.id).mpr ⟨s, declared⟩
      have put := indexed.ids_put s.asSingleton
      rw [if_pos known] at put
      simp only [Action.run_bind, Action.run_read, Action.andThen_ok, declared, Action.run_update]
      exact put

/-- An edit adds the identity that it declares, unless it is listed already. -/
theorem Indexed.ids_edit {r : Registry φ ν} (indexed : r.Indexed) (e : Edit φ ν) :
    ((edit e).run r).state.ids =
      if e.declared? = none ∨ e.id ∈ r.ids then r.ids else r.ids ++ [e.id] := by
  cases e with
  | declare s =>
      rw [edit, state_declare, indexed.ids_afterDeclaring]
      simp [Edit.declared?, Edit.id]
  | registerWith s handle =>
      rw [edit, state_registerWith, ids_bindFactory, indexed.ids_afterDeclaring]
      simp [Edit.declared?, Edit.id]
  | registerSingleton s instanceOf =>
      rw [edit, registerSingleton, Action.run_bind_of_ok (result_declare r s.asSingleton),
        state_declare]
      refine (indexed.ids_afterDeclaring s.asSingleton).trans ?_
      by_cases known : s.id ∈ r.ids <;> simp [Edit.declared?, Edit.id, known]
  | bindFactory id handle => exact (ids_bindFactory r id handle).trans (by simp [Edit.declared?])
  | bindSingleton id instanceOf =>
      exact (indexed.ids_bindSingleton id instanceOf).trans (by simp [Edit.declared?])

/-- A settler is found by its own identity only. -/
theorem Indexed.filter_settler?_self {r : Registry φ ν} (indexed : r.Indexed) (id : SettlerId) :
    (r.settler? id).filter (·.id ≠ id) = none := by
  rw [Option.filter_eq_none_iff]
  intro s found
  simp [(indexed.settler?_eq_some_iff.mp found).2]

/-- The settlers of all other identities stay as they are, in their order. -/
theorem Consistent.others_edit {r : Registry φ ν} (consistent : r.Consistent) (e : Edit φ ν) :
    ((Registry.edit e).run r).state.settlers.filter (·.id ≠ e.id) =
      r.settlers.filter (·.id ≠ e.id) := by
  have indexed := consistent.indexed
  have indexed' := (consistent.edit e).indexed
  generalize after : ((Registry.edit e).run r).state = r' at indexed' ⊢
  have others : ∀ id, (r'.settler? id).filter (·.id ≠ e.id) =
      (r.settler? id).filter (·.id ≠ e.id) := by
    intro id
    by_cases sameId : e.id = id
    · subst sameId
      rw [indexed'.filter_settler?_self, indexed.filter_settler?_self]
    · have kept := indexed.entry_edit e id
      rw [if_neg sameId, after] at kept
      exact congrArg (fun entry => entry.settler.filter (·.id ≠ e.id)) kept
  have listed := indexed.ids_edit e
  rw [after] at listed
  rw [indexed'.settlers_eq, indexed.settlers_eq, List.filter_filterMap, List.filter_filterMap,
    List.filterMap_congr fun id _ => others id, listed]
  split
  · rfl
  · simp only [List.filterMap_append, List.filterMap_cons, List.filterMap_nil,
      indexed.filter_settler?_self, List.append_nil]

/-! ## Refusals -/

theorem result_bindFactory_eq_ok_iff (r : Registry φ ν) (id : SettlerId) (handle : φ) :
    ((bindFactory id handle).run r).result = .ok () ↔
      (r.settler? id).any (!·.singleton) = true := by
  unfold bindFactory
  cases declared : r.settler? id with
  | none => simp [declared]
  | some s => cases flag : s.singleton <;> simp [declared, flag]

/-- A refused factory changes nothing. -/
theorem state_bindFactory_of_error {r : Registry φ ν} {id : SettlerId} {handle : φ}
    {cause : DiscoveryError} (refused : ((bindFactory id handle).run r).result = .error cause) :
    ((bindFactory id handle).run r).state = r := by
  unfold bindFactory at refused ⊢
  cases declared : r.settler? id with
  | none => simp [declared]
  | some s => cases flag : s.singleton <;> simp_all

/-- A refused shared instance changes nothing. -/
theorem state_bindSingleton_of_error {r : Registry φ ν} {id : SettlerId} {instanceOf : Shared ν}
    {cause : DiscoveryError} (refused : ((bindSingleton id instanceOf).run r).result = .error cause) :
    ((bindSingleton id instanceOf).run r).state = r := by
  unfold bindSingleton at refused ⊢
  cases declared : r.settler? id with
  | none => simp [declared]
  | some s => simp [declared] at refused

end Registry

end Settlement
