import Settlement.Proofs.Registry.Story
import Settlement.Proofs.Renaming.Basic

/-!
# Renamed registries

An edit with new names does to a registry with new names what it does to the registry with the old
ones.  So a renamed history leads to the renamed registry: the same settlers in the same order,
bound to the same factories and shared instances.
-/

namespace Settlement.Renaming

variable {φ ν : Type} (ρ : Renaming)

/-- The entry of a renamed identity. -/
def entry (e : Registry.Entry φ ν) : Registry.Entry φ ν :=
  { e with settler := e.settler.map ρ.settler }

/-- That a registry is another one with new names, identity by identity. -/
structure Renames (r r' : Registry φ ν) : Prop where
  ids : r'.ids = r.ids.map ρ.id
  entry : ∀ id, r'.entry (ρ.id id) = ρ.entry (r.entry id)

/-! ## Edits -/

@[simp]
theorem id_edit (e : Edit φ ν) : (ρ.edit e).id = ρ.id e.id := by
  cases e <;> rfl

@[simp]
theorem declared?_edit (e : Edit φ ν) : (ρ.edit e).declared? = e.declared?.map ρ.settler := by
  cases e <;> rfl

theorem declare_entry (s : Settler) (e : Registry.Entry φ ν) :
    (ρ.entry e).declare (ρ.settler s) = ρ.entry (e.declare s) :=
  rfl

theorem bindFactory_entry (handle : φ) (e : Registry.Entry φ ν) :
    (ρ.entry e).bindFactory handle = ρ.entry (e.bindFactory handle) := by
  obtain ⟨settler, binding⟩ := e
  cases settler with
  | none => rfl
  | some s =>
      cases flag : s.singleton <;>
        simp [entry, Registry.Entry.bindFactory, settler, flag]

theorem bindSingleton_entry (instanceOf : Shared ν) (e : Registry.Entry φ ν) :
    (ρ.entry e).bindSingleton instanceOf = ρ.entry (e.bindSingleton instanceOf) := by
  obtain ⟨settler, binding⟩ := e
  cases settler <;> rfl

/-- A renamed edit does to a renamed entry what the edit does to the entry. -/
theorem edit_entry (e : Edit φ ν) (known : Registry.Entry φ ν) :
    (ρ.entry known).edit (ρ.edit e) = ρ.entry (known.edit e) := by
  cases e with
  | declare s => exact ρ.declare_entry s known
  | registerWith s handle => exact ρ.bindFactory_entry handle (known.declare s)
  | registerSingleton s instanceOf => rfl
  | bindFactory id handle => exact ρ.bindFactory_entry handle known
  | bindSingleton id instanceOf => exact ρ.bindSingleton_entry instanceOf known

variable {ρ} {r r' : Registry φ ν}

/-- One more edit keeps a registry renamed. -/
theorem Renames.edit (renames : ρ.Renames r r') (indexed : r.Indexed) (indexed' : r'.Indexed)
    (e : Edit φ ν) :
    ρ.Renames ((Registry.edit e).run r).state ((Registry.edit (ρ.edit e)).run r').state where
  ids := by
    rw [indexed.ids_edit, indexed'.ids_edit, renames.ids]
    simp only [id_edit, declared?_edit, Option.map_eq_none_iff, ρ.mem_map_id]
    split
    · rfl
    · rw [List.map_append, List.map_singleton]
  entry id := by
    rw [indexed.entry_edit, indexed'.entry_edit, renames.entry]
    simp only [id_edit, ρ.id_inj]
    split
    · exact ρ.edit_entry e (r.entry id)
    · rfl

theorem Renames.after (renames : ρ.Renames r r') (consistent : r.Consistent)
    (consistent' : r'.Consistent) (edits : List (Edit φ ν)) :
    ρ.Renames (r.after edits) (r'.after (edits.map ρ.edit)) := by
  induction edits generalizing r r' with
  | nil => exact renames
  | cons e rest ih =>
      have renamed := renames.edit consistent.indexed consistent'.indexed e
      exact ih renamed (consistent.edit e) (consistent'.edit (ρ.edit e))

theorem renames_empty : ρ.Renames ({} : Registry φ ν) {} where
  ids := rfl
  entry _ := rfl

/-- A renamed history leads to the renamed registry. -/
theorem renames_history (m : Manifest) (edits : List (Edit φ ν)) :
    ρ.Renames ((Registry.ofManifest m).after edits)
      ((Registry.ofManifest (ρ.manifest m)).after (edits.map ρ.edit)) := by
  have history : (ρ.manifest m).settlers.map Edit.declare ++ edits.map ρ.edit =
      (m.settlers.map (Edit.declare (φ := φ) (ν := ν)) ++ edits).map ρ.edit := by
    simp [manifest, Function.comp_def, Renaming.edit]
  rw [Registry.ofManifest_after, Registry.ofManifest_after, history]
  exact renames_empty.after Registry.consistent_empty Registry.consistent_empty _

theorem renames_ofColonies (rename : ColonyId → ColonyId) (r : Registry φ ν) :
    (ofColonies rename).Renames r r where
  ids := (List.map_id _).symm
  entry id := by
    rw [Renaming.entry, settler_ofColonies, Option.map_id']
    rfl

/-! ## What a renamed registry holds -/

theorem Renames.settlers (renames : ρ.Renames r r') (indexed : r.Indexed)
    (indexed' : r'.Indexed) : r'.settlers = r.settlers.map ρ.settler := by
  have found (id : SettlerId) : r'.settler? (ρ.id id) = (r.settler? id).map ρ.settler :=
    congrArg Registry.Entry.settler (renames.entry id)
  rw [indexed'.settlers_eq, indexed.settlers_eq, renames.ids, List.filterMap_map,
    List.map_filterMap]
  exact List.filterMap_congr fun id _ => found id

theorem Renames.bindings (renames : ρ.Renames r r') (id : SettlerId) :
    r'.bindings[ρ.id id]? = r.bindings[id]? :=
  congrArg Registry.Entry.binding (renames.entry id)

end Settlement.Renaming
