import Settlement.Registry.History

/-!
# Consistency of registries

A registry keeps three containers in step: the list of its settlers, the index of their places, and
the bindings.  It is consistent if the index gives exactly the places of the list, and if whatever
is bound is declared, to a shared instance just when the settler is a singleton.

Consistency is an invariant: the registry of a manifest has it, and every edit keeps it, refused
edits included.  On a consistent registry the indexed look-up is a search of the list.
-/

namespace Settlement

namespace Registry

variable {φ ν ω : Type}

/-- The index gives the places of the settlers in the list, and no others. -/
def Indexed (r : Registry φ ν) : Prop :=
  ∀ (id : SettlerId) (slot : Nat),
    r.index[id]? = some slot ↔ ∃ s : Settler, r.settlers[slot]? = some s ∧ s.id = id

/-- List, index and bindings are in step. -/
structure Consistent (r : Registry φ ν) : Prop where
  indexed : r.Indexed
  /-- What is bound is declared, and it is a singleton if and only if it is bound to a shared
  instance. -/
  bound : ∀ id b, r.bindings[id]? = some b →
    ∃ s, r.settler? id = some s ∧ s.singleton = b.isShared

/-! ## Looking settlers up -/

theorem Indexed.settler?_eq_some_iff {r : Registry φ ν} (indexed : r.Indexed) {id : SettlerId}
    {s : Settler} : r.settler? id = some s ↔ s ∈ r.settlers ∧ s.id = id := by
  simp only [settler?, Option.bind_eq_bind, Option.bind_eq_some_iff]
  constructor
  · rintro ⟨slot, place, listed⟩
    obtain ⟨t, found, sameId⟩ := (indexed id slot).mp place
    have same : t = s := Option.some.inj (found.symm.trans listed)
    subst same
    exact ⟨List.mem_of_getElem? listed, sameId⟩
  · rintro ⟨member, sameId⟩
    obtain ⟨slot, listed⟩ := List.getElem?_of_mem member
    exact ⟨slot, (indexed id slot).mpr ⟨s, listed, sameId⟩, listed⟩

/-- No identity is listed twice: each has one place only. -/
theorem Indexed.ids_nodup {r : Registry φ ν} (indexed : r.Indexed) :
    (r.settlers.map (·.id)).Nodup := by
  rw [List.Nodup, List.pairwise_map, List.pairwise_iff_getElem]
  intro first second firstInside secondInside before sameId
  have firstPlace := (indexed _ first).mpr ⟨_, List.getElem?_eq_getElem firstInside, rfl⟩
  have secondPlace := (indexed _ second).mpr ⟨_, List.getElem?_eq_getElem secondInside, rfl⟩
  rw [sameId, secondPlace, Option.some.injEq] at firstPlace
  omega

/-- The indexed look-up is a search of the list. -/
theorem Indexed.settler?_eq_find? {r : Registry φ ν} (indexed : r.Indexed) (id : SettlerId) :
    r.settler? id = r.settlers.find? fun s => s.id == id := by
  cases found : r.settlers.find? fun s => s.id == id with
  | none =>
      rw [List.find?_eq_none] at found
      rw [Option.eq_none_iff_forall_ne_some]
      intro s lookedUp
      obtain ⟨member, sameId⟩ := indexed.settler?_eq_some_iff.mp lookedUp
      exact found s member (by simpa using sameId)
  | some s =>
      have sameId : s.id = id := by simpa using List.find?_some found
      exact indexed.settler?_eq_some_iff.mpr ⟨List.mem_of_find?_eq_some found, sameId⟩

theorem Indexed.contains_iff {r : Registry φ ν} (indexed : r.Indexed) (id : SettlerId) :
    r.contains id = true ↔ ∃ s ∈ r.settlers, s.id = id := by
  rw [contains, Std.TreeMap.contains_eq_isSome_getElem?, Option.isSome_iff_exists]
  constructor
  · rintro ⟨slot, place⟩
    obtain ⟨s, listed, sameId⟩ := (indexed id slot).mp place
    exact ⟨s, List.mem_of_getElem? listed, sameId⟩
  · rintro ⟨s, member, sameId⟩
    obtain ⟨slot, listed⟩ := List.getElem?_of_mem member
    exact ⟨slot, (indexed id slot).mpr ⟨s, listed, sameId⟩⟩

theorem Indexed.ne_of_index_eq_none {r : Registry φ ν} (indexed : r.Indexed) {id : SettlerId}
    {s : Settler} (undeclared : r.index[id]? = none) (member : s ∈ r.settlers) : s.id ≠ id := by
  intro sameId
  obtain ⟨slot, listed⟩ := List.getElem?_of_mem member
  have place := (indexed id slot).mpr ⟨s, listed, sameId⟩
  rw [undeclared] at place
  contradiction

/-! ## Putting a settler in its place -/

@[simp]
theorem bindings_put (r : Registry φ ν) (s : Settler) : (r.put s).bindings = r.bindings := by
  unfold put
  split <;> rfl

theorem Indexed.put {r : Registry φ ν} (indexed : r.Indexed) (s : Settler) :
    (r.put s).Indexed := by
  intro id slot
  unfold Registry.put
  cases place : r.index[s.id]? with
  | some old =>
      obtain ⟨t, listed, sameId⟩ := (indexed s.id old).mp place
      have inside : old < r.settlers.length := (List.getElem?_eq_some_iff.mp listed).1
      rw [indexed id slot, List.getElem?_set, if_pos inside]
      -- only the slot of `s` changes, and there the identity stays the same
      by_cases atSlot : old = slot
      · subst atSlot
        simp [listed, sameId]
      · simp [atSlot]
  | none =>
      simp only [Std.TreeMap.getElem?_insert, Std.LawfulEqCmp.compare_eq_iff_eq]
      by_cases sameId : s.id = id
      · subst sameId
        rw [if_pos rfl, Option.some.injEq]
        constructor
        · rintro rfl
          exact ⟨s, by simp, rfl⟩
        · rintro ⟨t, listed, sameId⟩
          rw [List.getElem?_append] at listed
          split at listed
          · exact absurd sameId (indexed.ne_of_index_eq_none place (List.mem_of_getElem? listed))
          · have bound := (List.getElem?_eq_some_iff.mp listed).1
            simp only [List.length_singleton] at bound
            omega
      · rw [if_neg sameId, indexed id slot]
        constructor
        · rintro ⟨t, listed, found⟩
          exact ⟨t, by rw [List.getElem?_append_left (List.getElem?_eq_some_iff.mp listed).1,
            listed], found⟩
        · rintro ⟨t, listed, found⟩
          rw [List.getElem?_append] at listed
          split at listed
          · exact ⟨t, listed, found⟩
          · have only : t = s := List.mem_singleton.mp (List.mem_of_getElem? listed)
            exact absurd (only ▸ found) sameId

/-- Putting a settler in its place replaces the one of its identity, and no other. -/
theorem Indexed.mem_settlers_put {r : Registry φ ν} (indexed : r.Indexed) (s t : Settler) :
    t ∈ (r.put s).settlers ↔ t = s ∨ t ∈ r.settlers ∧ t.id ≠ s.id := by
  unfold Registry.put
  cases place : r.index[s.id]? with
  | some slot =>
      obtain ⟨old, listed, oldId⟩ := (indexed s.id slot).mp place
      have inside : slot < r.settlers.length := (List.getElem?_eq_some_iff.mp listed).1
      constructor
      · intro member
        obtain ⟨other, found⟩ := List.getElem?_of_mem member
        by_cases atSlot : slot = other
        · subst atSlot
          rw [List.getElem?_set_self inside, Option.some.injEq] at found
          exact .inl found.symm
        · rw [List.getElem?_set_ne atSlot] at found
          refine .inr ⟨List.mem_of_getElem? found, fun sameId => ?_⟩
          have otherPlace := (indexed s.id other).mpr ⟨t, found, sameId⟩
          rw [place, Option.some.injEq] at otherPlace
          exact atSlot otherPlace
      · rintro (rfl | ⟨member, otherId⟩)
        · exact List.mem_set inside t
        · obtain ⟨other, found⟩ := List.getElem?_of_mem member
          have atOther : slot ≠ other := by
            rintro rfl
            rw [listed, Option.some.injEq] at found
            exact otherId (found ▸ oldId)
          exact List.mem_of_getElem? (by rw [List.getElem?_set_ne atOther, found])
  | none =>
      rw [List.mem_append, List.mem_singleton, or_comm]
      exact or_congr_right
        ⟨fun member => ⟨member, indexed.ne_of_index_eq_none place member⟩, And.left⟩

/-- The settler that was put in its place is found there, and all others where they were. -/
theorem Indexed.settler?_put {r : Registry φ ν} (indexed : r.Indexed) (s : Settler)
    (id : SettlerId) : (r.put s).settler? id = if s.id = id then some s else r.settler? id := by
  ext t
  rw [(indexed.put s).settler?_eq_some_iff, indexed.mem_settlers_put]
  split
  case isTrue sameId =>
    subst sameId
    rw [Option.some.injEq]
    constructor
    · rintro ⟨rfl | ⟨_, otherId⟩, sameId⟩
      · rfl
      · exact absurd sameId otherId
    · rintro rfl
      exact ⟨.inl rfl, rfl⟩
  case isFalse otherId =>
    rw [indexed.settler?_eq_some_iff]
    constructor
    · rintro ⟨rfl | ⟨member, _⟩, sameId⟩
      · exact absurd sameId otherId
      · exact ⟨member, sameId⟩
    · rintro ⟨member, rfl⟩
      exact ⟨.inr ⟨member, fun sameId => otherId sameId.symm⟩, rfl⟩

/-! ## Edits keep registries consistent -/

@[simp]
theorem settler?_bind (r : Registry φ ν) (id other : SettlerId) (b : Binding φ ν) :
    (r.bind id b).settler? other = r.settler? other :=
  rfl

@[simp]
theorem settler?_unbind (r : Registry φ ν) (id other : SettlerId) :
    (r.unbind id).settler? other = r.settler? other :=
  rfl

theorem bindings_bind (r : Registry φ ν) (id other : SettlerId) (b : Binding φ ν) :
    (r.bind id b).bindings[other]? = if id = other then some b else r.bindings[other]? := by
  simp [bind, Std.TreeMap.getElem?_insert]

theorem bindings_unbind (r : Registry φ ν) (id other : SettlerId) :
    (r.unbind id).bindings[other]? = if id = other then none else r.bindings[other]? := by
  simp [unbind, Std.TreeMap.getElem?_erase]

theorem consistent_empty : ({} : Registry φ ν).Consistent where
  indexed id slot := by simp
  bound id b := by simp

/-- A settler may be put in its place if it agrees with the binding of its identity. -/
theorem Consistent.put {r : Registry φ ν} (consistent : r.Consistent) {s : Settler}
    (agrees : ∀ b, r.bindings[s.id]? = some b → s.singleton = b.isShared) :
    (r.put s).Consistent where
  indexed := consistent.indexed.put s
  bound id b bound := by
    rw [bindings_put] at bound
    rw [consistent.indexed.settler?_put]
    split
    case isTrue sameId =>
      subst sameId
      exact ⟨s, rfl, agrees b bound⟩
    case isFalse => exact consistent.bound id b bound

/-- A declared settler may be bound as its singleton flag says. -/
theorem Consistent.bind {r : Registry φ ν} (consistent : r.Consistent) {id : SettlerId}
    {s : Settler} {b : Binding φ ν} (declared : r.settler? id = some s)
    (agrees : s.singleton = b.isShared) : (r.bind id b).Consistent where
  indexed := consistent.indexed
  bound other bound' := by
    rw [bindings_bind, settler?_bind]
    split
    case isTrue sameId =>
      subst sameId
      rintro ⟨⟩
      exact ⟨s, declared, agrees⟩
    case isFalse => exact consistent.bound other bound'

/-- A settler may be put in its place and bound in one go.  In between the two the registry need not
be consistent: a settler that becomes a singleton may still be bound to its factory. -/
theorem Consistent.bind_put {r : Registry φ ν} (consistent : r.Consistent) {s : Settler}
    {b : Binding φ ν} (agrees : s.singleton = b.isShared) :
    ((r.put s).bind s.id b).Consistent where
  indexed := consistent.indexed.put s
  bound other bound' := by
    rw [bindings_bind, settler?_bind, bindings_put, consistent.indexed.settler?_put]
    split
    case isTrue sameId =>
      rintro ⟨⟩
      exact ⟨s, rfl, agrees⟩
    case isFalse => exact consistent.bound other bound'

theorem Consistent.unbind {r : Registry φ ν} (consistent : r.Consistent) (id : SettlerId) :
    (r.unbind id).Consistent where
  indexed := consistent.indexed
  bound other b := by
    rw [bindings_unbind, settler?_unbind]
    split
    case isTrue => simp
    case isFalse => exact consistent.bound other b

theorem Consistent.afterDeclaring {r : Registry φ ν} (consistent : r.Consistent) (s : Settler) :
    (r.afterDeclaring s).Consistent := by
  unfold Registry.afterDeclaring redeclaration
  rcases binding : r.bindings[s.id]? with _ | (handle | instanceOf)
  · exact consistent.put (by simp [binding])
  · cases flag : s.singleton with
    | false => exact consistent.put (by simp [binding, flag, Binding.isShared])
    | true => exact (consistent.unbind s.id).put (by simp [bindings_unbind])
  · cases flag : s.singleton with
    | false =>
        exact consistent.put (s := s.asSingleton)
          (by simp [Settler.asSingleton, binding, Binding.isShared])
    | true => exact consistent.put (by simp [binding, flag, Binding.isShared])

/-- A declared settler is found as it was declared, but stays a singleton if it shares an instance
already. -/
theorem Indexed.settler?_afterDeclaring {r : Registry φ ν} (indexed : r.Indexed) (s : Settler)
    (id : SettlerId) :
    (r.afterDeclaring s).settler? id =
      if s.id = id then
        some { s with singleton := s.singleton || (r.bindings[s.id]?).any Binding.isShared }
      else r.settler? id := by
  have unbound : (r.unbind s.id).Indexed := indexed
  rcases s with ⟨own, markers, supertypes, kind, visibility, flag, producer, acceptor⟩
  unfold Registry.afterDeclaring redeclaration
  rcases binding : r.bindings[own]? with _ | (handle | instanceOf) <;> cases flag
  all_goals
    simp [indexed.settler?_put, unbound.settler?_put, Settler.asSingleton, Binding.isShared]

/-! ### What each edit leaves -/

theorem state_declare (r : Registry φ ν) (s : Settler) :
    ((declare s).run r).state = r.afterDeclaring s := by
  unfold declare
  cases change : r.redeclaration s <;> simp [change]

theorem result_declare (r : Registry φ ν) (s : Settler) : ((declare s).run r).result = .ok () := by
  unfold declare
  cases change : r.redeclaration s <;> simp [change]

theorem Consistent.bindFactory {r : Registry φ ν} (consistent : r.Consistent) (id : SettlerId)
    (handle : φ) : ((bindFactory id handle).run r).state.Consistent := by
  unfold Registry.bindFactory
  cases declared : r.settler? id with
  | none => simpa [declared] using consistent
  | some s =>
      cases flag : s.singleton with
      | true => simpa [declared, flag] using consistent
      | false => simpa [declared, flag] using consistent.bind declared (b := .factory handle) flag

theorem Consistent.bindSingleton {r : Registry φ ν} (consistent : r.Consistent) (id : SettlerId)
    (instanceOf : Shared ν) : ((bindSingleton id instanceOf).run r).state.Consistent := by
  unfold Registry.bindSingleton
  cases declared : r.settler? id with
  | none => simpa [declared] using consistent
  | some s =>
      obtain ⟨_, rfl⟩ := consistent.indexed.settler?_eq_some_iff.mp declared
      have upgraded : ((r.put s.asSingleton).bind s.id (.shared instanceOf)).Consistent :=
        consistent.bind_put (s := s.asSingleton) rfl
      simpa [declared] using upgraded

theorem state_registerWith (r : Registry φ ν) (s : Settler) (handle : φ) :
    ((registerWith s handle).run r).state =
      ((bindFactory s.id handle).run (r.afterDeclaring s)).state := by
  unfold registerWith
  rw [Action.run_bind_of_ok (result_declare r s), state_declare]
  simp only [Action.run_bind, Action.run_attempt, Action.andThen_ok]
  split <;> rfl

theorem Consistent.registerSingleton {r : Registry φ ν} (consistent : r.Consistent) (s : Settler)
    (instanceOf : Shared ν) : ((registerSingleton s instanceOf).run r).state.Consistent := by
  unfold Registry.registerSingleton
  rw [Action.run_bind_of_ok (result_declare r s.asSingleton), state_declare]
  have declared : (r.afterDeclaring s.asSingleton).settler? s.id = some s.asSingleton := by
    simp [consistent.indexed.settler?_afterDeclaring, Settler.asSingleton]
  exact (consistent.afterDeclaring s.asSingleton).bind declared rfl

/-- Every edit keeps a registry consistent, whether it is carried out or refused. -/
theorem Consistent.edit {r : Registry φ ν} (consistent : r.Consistent) (e : Edit φ ν) :
    ((edit e).run r).state.Consistent := by
  cases e with
  | declare s =>
      rw [Registry.edit, state_declare]
      exact consistent.afterDeclaring s
  | registerWith s handle =>
      rw [Registry.edit, state_registerWith]
      exact (consistent.afterDeclaring s).bindFactory s.id handle
  | registerSingleton s instanceOf => exact consistent.registerSingleton s instanceOf
  | bindFactory id handle => exact consistent.bindFactory id handle
  | bindSingleton id instanceOf => exact consistent.bindSingleton id instanceOf

/-! ## Reachable registries -/

theorem Consistent.foldl_afterDeclaring {r : Registry φ ν} (consistent : r.Consistent)
    (settlers : List Settler) : (settlers.foldl Registry.afterDeclaring r).Consistent := by
  induction settlers generalizing r with
  | nil => exact consistent
  | cons s rest ih => exact ih (consistent.afterDeclaring s)

theorem consistent_ofManifest (m : Manifest) : (ofManifest m : Registry φ ν).Consistent :=
  consistent_empty.foldl_afterDeclaring m.settlers

theorem Consistent.after {r : Registry φ ν} (consistent : r.Consistent)
    (edits : List (Edit φ ν)) : (r.after edits).Consistent := by
  induction edits generalizing r with
  | nil => exact consistent
  | cons e rest ih => exact ih (consistent.edit e)

theorem Reachable.consistent {r : Registry φ ν} (reachable : r.Reachable) : r.Consistent := by
  obtain ⟨m, edits, rfl⟩ := reachable
  exact (consistent_ofManifest m).after edits

/-- On a registry with an exact index, the look-up of its scope is the search of its list. -/
theorem Indexed.settler_scope {r : Registry φ ν} (indexed : r.Indexed)
    (call : φ → Action ω StrategyEvent String ν) (id : SettlerId) :
    (r.scope call).settler id = (r.scope call).search id := by
  rw [Scope.search]
  simp only [scope, pure_bind, indexed.settler?_eq_find?]

/-- In a registry that edits lead to, from an empty one or from a manifest, the three containers
agree: the index gives exactly the places of the list, so no identity is listed twice, membership,
number and emptiness are those of the list, and looking up is searching; whatever is bound is
declared; and what is bound is bound to a shared instance just if it is a singleton. -/
theorem containers_agree_of_reachable {r : Registry φ ν} (reachable : r.Reachable) :
    (∀ (id : SettlerId) (slot : Nat),
      r.index[id]? = some slot ↔ ∃ s, r.settlers[slot]? = some s ∧ s.id = id) ∧
    (r.settlers.map (·.id)).Nodup ∧
    (∀ id, r.contains id = true ↔ ∃ s ∈ r.settlers, s.id = id) ∧
    r.size = r.settlers.length ∧
    (r.isEmpty = true ↔ r.settlers = []) ∧
    (∀ (call : φ → Action ω StrategyEvent String ν) (id : SettlerId),
      (r.scope call).settler id = (r.scope call).search id) ∧
    (∀ id, r.isBound id = true → r.contains id = true) ∧
    ∀ id b, r.bindings[id]? = some b →
      ∃ s, r.settler? id = some s ∧ (b.isShared = true ↔ s.singleton = true) := by
  have consistent := reachable.consistent
  have indexed := consistent.indexed
  refine ⟨indexed, indexed.ids_nodup, indexed.contains_iff, rfl, List.isEmpty_iff,
    indexed.settler_scope, ?_, ?_⟩
  · intro id hasBinding
    rw [isBound, Std.TreeMap.contains_eq_isSome_getElem?, Option.isSome_iff_exists] at hasBinding
    obtain ⟨b, bound⟩ := hasBinding
    obtain ⟨s, declared, _⟩ := consistent.bound id b bound
    exact (indexed.contains_iff id).mpr ⟨s, indexed.settler?_eq_some_iff.mp declared⟩
  · intro id b bound
    obtain ⟨s, declared, agrees⟩ := consistent.bound id b bound
    exact ⟨s, declared, by rw [agrees]⟩

/-- A worker with a factory becomes a singleton by its shared instance, and a later declaration
without the flag does not undo that. -/
theorem containers_agree_after_upgrade :
    let edits : List (Edit Nat Nat) :=
      [.registerWith { id := ⟨"Worker"⟩ } 1, .bindSingleton ⟨"Worker"⟩ ⟨0, 7⟩,
        .bindFactory ⟨"Worker"⟩ 2, .declare { id := ⟨"Worker"⟩, markers := [⟨"ant"⟩] }]
    let r : Registry Nat Nat := (ofManifest { settlers := [{ id := ⟨"Queen"⟩ }] }).after edits
    r.Reachable ∧ r.isBound ⟨"Worker"⟩ = true ∧ (r.settlers.map (·.id)).Nodup ∧
      ∀ b, r.bindings[(⟨"Worker"⟩ : SettlerId)]? = some b →
        ∃ s, r.settler? ⟨"Worker"⟩ = some s ∧ (b.isShared = true ↔ s.singleton = true) := by
  intro edits r
  have reachable : r.Reachable := ⟨_, edits, rfl⟩
  have agree := containers_agree_of_reachable (ω := Unit) reachable
  exact ⟨reachable, by decide +kernel, agree.2.1, agree.2.2.2.2.2.2.2 ⟨"Worker"⟩⟩

end Registry

end Settlement
