import Settlement.Proofs.Format.Roundtrip
import Settlement.Proofs.Registry.Story

/-!
# Manifests and the registries made of them

The registry of a manifest has each settler once, where it is named first and as it is named last.
The settlers of any registry make a manifest, whose registry lists and finds the same settlers; it
makes no difference if that manifest is written down in between.
-/

namespace Settlement

variable {φ ν : Type}

/-- The settlers of a registry as data. -/
def Registry.toManifest (r : Registry φ ν) : Manifest where
  settlers := r.settlers

/-- The last of the settlers of a manifest that have an identity. -/
def Manifest.lastNamed (m : Manifest) (id : SettlerId) : Option Settler :=
  (m.settlers.filter (·.id = id)).getLast?

namespace Registry

/-! ## Registries of manifests -/

theorem bindings_foldl_afterDeclaring (settlers : List Settler) :
    (settlers.foldl afterDeclaring ({} : Registry φ ν)).bindings = {} := by
  induction settlers using List.reverseRecOn with
  | nil => rfl
  | append_singleton settlers s ih =>
      rw [List.foldl_concat]
      have plain :
          redeclaration (settlers.foldl afterDeclaring ({} : Registry φ ν)) s = .plain := by
        simp [redeclaration, ih]
      rw [afterDeclaring, plain, bindings_put, ih]

theorem settler?_foldl_afterDeclaring (settlers : List Settler) (id : SettlerId) :
    (settlers.foldl afterDeclaring ({} : Registry φ ν)).settler? id =
      Manifest.lastNamed ⟨settlers⟩ id := by
  induction settlers using List.reverseRecOn with
  | nil => rfl
  | append_singleton settlers s ih =>
      have indexed : (settlers.foldl afterDeclaring ({} : Registry φ ν)).Indexed :=
        (consistent_empty.foldl_afterDeclaring settlers).indexed
      rw [List.foldl_concat, indexed.settler?_afterDeclaring, ih, bindings_foldl_afterDeclaring]
      unfold Manifest.lastNamed
      by_cases sameId : s.id = id
      · subst sameId
        simp
      · simp [sameId]

theorem ids_ofManifest (m : Manifest) :
    (ofManifest m : Registry φ ν).ids = (m.settlers.map (·.id)).eraseDups := by
  have same := ofManifest_after (φ := φ) (ν := ν) m []
  have declares : (m.settlers.map (Edit.declare : Settler → Edit φ ν)).filterMap Edit.declared? =
      m.settlers := by
    rw [List.filterMap_map]
    exact List.filterMap_some
  rw [List.append_nil] at same
  exact (congrArg ids same).trans ((ids_after _).trans (by rw [declares]))

/-- Loading a manifest always succeeds, and leaves nothing of the registry that was there before. -/
theorem run_load (m : Manifest) (r : Registry φ ν) :
    ((load m).run r).result = .ok () ∧ ((load m).run r).state = ofManifest m := by
  have declares (settlers : List Settler) (r : Registry φ ν) :
      ((declareAll settlers).run r).result = .ok () ∧
        ((declareAll settlers).run r).state = settlers.foldl afterDeclaring r := by
    induction settlers generalizing r with
    | nil => exact ⟨rfl, rfl⟩
    | cons s rest ih =>
        rw [declareAll, List.forM_eq_forM, List.forM_cons,
          Action.run_bind_of_ok (result_declare r s), state_declare]
        exact ih (r.afterDeclaring s)
  exact declares m.settlers {}

/-! ## Back from a manifest -/

/-- Where each identity is listed once, the last one named is the only one. -/
theorem Indexed.lastNamed_toManifest {r : Registry φ ν} (indexed : r.Indexed) (id : SettlerId) :
    r.toManifest.lastNamed id = r.settler? id := by
  have only : ∀ s ∈ r.settlers.filter (·.id = id), r.settler? id = some s := by
    intro s member
    rw [indexed.settler?_eq_some_iff]
    simpa using member
  unfold Manifest.lastNamed toManifest
  cases last : (r.settlers.filter (·.id = id)).getLast? with
  | some s => exact (only s (List.mem_of_getLast? last)).symm
  | none =>
      rw [List.getLast?_eq_none_iff, List.filter_eq_nil_iff] at last
      symm
      rw [Option.eq_none_iff_forall_ne_some]
      intro s found
      obtain ⟨listed, sameId⟩ := indexed.settler?_eq_some_iff.mp found
      exact last s listed (by simpa using sameId)

theorem Indexed.settler?_ofManifest_toManifest {r : Registry φ ν} (indexed : r.Indexed)
    (id : SettlerId) : (ofManifest r.toManifest : Registry φ ν).settler? id = r.settler? id :=
  (settler?_foldl_afterDeclaring r.settlers id).trans (indexed.lastNamed_toManifest id)

theorem Indexed.settlers_ofManifest_toManifest {r : Registry φ ν} (indexed : r.Indexed) :
    (ofManifest r.toManifest : Registry φ ν).settlers = r.settlers := by
  have indexed' : (ofManifest r.toManifest : Registry φ ν).Indexed :=
    (consistent_ofManifest r.toManifest).indexed
  have sameIds : (ofManifest r.toManifest : Registry φ ν).ids = r.ids :=
    (ids_ofManifest r.toManifest).trans (eraseDups_of_nodup indexed.ids_nodup)
  rw [indexed'.settlers_eq, indexed.settlers_eq, sameIds,
    funext indexed.settler?_ofManifest_toManifest]

/-- The registry of a manifest binds nothing, and has each identity once, in the order in which they
are first named, with the settler that is named last; loading the manifest leads to it from any
registry.  After any edits, the settlers of a registry make a manifest whose registry lists and
finds the same settlers, and so does the registry that is loaded from its text. -/
theorem manifest_reloads (m : Manifest) (edits : List (Edit φ ν)) :
    let fresh : Registry φ ν := ofManifest m
    let named := (m.settlers.map (·.id)).eraseDups
    let r := fresh.after edits
    let text := Manifest.codec.encode r.toManifest
    (fresh.bindings = {} ∧ fresh.settlers.map (·.id) = named ∧
      fresh.settlers = named.filterMap m.lastNamed ∧
      (∀ id, fresh.settler? id = m.lastNamed id) ∧
      ∀ r₀ : Registry φ ν, ((load m).run r₀).result = .ok () ∧ ((load m).run r₀).state = fresh) ∧
    ∀ r₀ : Registry φ ν,
      ((loadJson text).run r₀).result = .ok () ∧
      ∀ back ∈ [ofManifest r.toManifest, ((loadJson text).run r₀).state],
        back.settlers = r.settlers ∧ ∀ id, back.settler? id = r.settler? id := by
  intro fresh named r text
  have indexed : fresh.Indexed := (consistent_ofManifest m).indexed
  have indexed' : r.Indexed := ((consistent_ofManifest m).after edits).indexed
  have finds : ∀ id, fresh.settler? id = m.lastNamed id := settler?_foldl_afterDeclaring m.settlers
  have ids : fresh.ids = named := ids_ofManifest m
  constructor
  · refine ⟨bindings_foldl_afterDeclaring m.settlers, ids, ?_, finds, run_load m⟩
    rw [indexed.settlers_eq, ids, funext finds]
  · intro r₀
    have reads : Manifest.ofJson text = .ok r.toManifest := by
      rw [Manifest.ofJson, Manifest.faithful_codec.decode_encode (by decide)]
      rfl
    have same : (loadJson text).run r₀ = (load r.toManifest).run r₀ := by
      rw [loadJson, reads, Action.ofExcept_ok, pure_bind]
    obtain ⟨succeeds, leads⟩ := run_load r.toManifest r₀
    rw [same]
    refine ⟨succeeds, fun back either => ?_⟩
    have isFresh : back = ofManifest r.toManifest := by simpa [leads] using either
    subst isFresh
    exact ⟨indexed'.settlers_ofManifest_toManifest, indexed'.settler?_ofManifest_toManifest⟩

end Registry

end Settlement
