import Mathlib.Data.List.Basic
import Settlement.Composition
import Settlement.Registry.History

/-!
# Renaming

Settlers, markers and colonies are told apart by their names.  A renaming gives new names to all of
them, and no two settlers and no two markers get one name; so whoever only tells them apart sees no
difference.  Everything that names them is renamed by renaming what it names.

Texts are not looked into: the causes that factories and callbacks give stay as they are.
-/

namespace Settlement

/-- New names for settlers, markers and colonies. -/
structure Renaming where
  id : SettlerId → SettlerId
  marker : Marker → Marker
  colony : ColonyId → ColonyId
  id_injective : Function.Injective id
  marker_injective : Function.Injective marker

namespace Renaming

variable {φ ν : Type}

/-- The renaming of colonies alone. -/
def ofColonies (rename : ColonyId → ColonyId) : Renaming where
  id := fun id => id
  marker := fun m => m
  colony := rename
  id_injective := Function.injective_id
  marker_injective := Function.injective_id

variable (ρ : Renaming)

theorem id_inj {a b : SettlerId} : ρ.id a = ρ.id b ↔ a = b :=
  ρ.id_injective.eq_iff

theorem marker_inj {a b : Marker} : ρ.marker a = ρ.marker b ↔ a = b :=
  ρ.marker_injective.eq_iff

theorem mem_map_id {id : SettlerId} {ids : List SettlerId} : ρ.id id ∈ ids.map ρ.id ↔ id ∈ ids :=
  List.mem_map_of_injective ρ.id_injective

theorem mem_map_marker {m : Marker} {markers : List Marker} :
    ρ.marker m ∈ markers.map ρ.marker ↔ m ∈ markers :=
  List.mem_map_of_injective ρ.marker_injective

/-! ## Settlers and their values -/

/-- A settler under new names: its own, those of its capabilities and those of its supertypes. -/
def settler (s : Settler) : Settler :=
  { s with
    id := ρ.id s.id
    markers := s.markers.map ρ.marker
    supertypes := s.supertypes.map ρ.id }

/-- A candidate goes by the new name of its settler and keeps its modes. -/
def candidate (c : Candidate) : Candidate :=
  { c with id := ρ.id c.id }

/-- Only a value that is the identity of a settler has a name in it. -/
def produced : Produced ν → Produced ν
  | .owned value => .owned value
  | .shared instanceOf => .shared instanceOf
  | .identity id => .identity (ρ.id id)

@[simp]
theorem id_settler (s : Settler) : (ρ.settler s).id = ρ.id s.id :=
  rfl

@[simp]
theorem singleton_candidate (c : Candidate) : (ρ.candidate c).singleton = c.singleton :=
  rfl

@[simp]
theorem isShared_produced (value : Produced ν) : (ρ.produced value).isShared = value.isShared := by
  cases value <;> rfl

/-! ## Groups -/

/-- A rule that names capabilities or settlers names them anew; a pattern stays as it is written. -/
def rule : SelectionRule → SelectionRule
  | .byMarker marker => .byMarker (ρ.marker marker)
  | .bySupertype supertype => .bySupertype (ρ.id supertype)
  | .byName pattern => .byName pattern
  | .registered settlers => .registered (settlers.map ρ.id)

/-- A declared group under its new name, selecting by the renamed rule in the same modes. -/
def group (g : GroupDeclaration) : GroupDeclaration :=
  { g with marker := ρ.marker g.marker, selector := ρ.rule g.selector }

/-- What a selector is told, with the new names of the colony and of the group. -/
def context (ctx : SelectionContext) : SelectionContext :=
  { ctx with colony := ρ.colony ctx.colony, group := ρ.marker ctx.group }

/-! ## Errors -/

/-- A failed selection names only settlers. -/
def discovery : DiscoveryError → DiscoveryError
  | .unknownSettler id => .unknownSettler (ρ.id id)
  | .singletonFactory id => .singletonFactory (ρ.id id)
  | .scopeUnavailable reason => .scopeUnavailable reason
  | .invalidPattern pattern reason => .invalidPattern pattern reason
  | .malformedManifest reason => .malformedManifest reason
  | .other cause => .other cause

/-- A failed production names the settler that it is about. -/
def production : ProductionError → ProductionError
  | .noFactory id => .noFactory (ρ.id id)
  | .construction id cause => .construction (ρ.id id) cause
  | .notShared id => .notShared (ρ.id id)
  | .noStrategy id mode => .noStrategy (ρ.id id) mode
  | .callback id cause => .callback (ρ.id id) cause
  | .other cause => .other cause

/-- A failed acceptance names the settler that it is about. -/
def acceptance : AcceptanceError → AcceptanceError
  | .callback id cause => .callback (ρ.id id) cause
  | .noStrategy id mode => .noStrategy (ρ.id id) mode
  | .other cause => .other cause

/-- A refused composition names colonies and groups; why one is malformed is a text. -/
def composition : CompositionError → CompositionError
  | .noFounder colony => .noFounder (ρ.colony colony)
  | .duplicateGroup colony group => .duplicateGroup (ρ.colony colony) (ρ.marker group)
  | .duplicateCallback colony group kind =>
      .duplicateCallback (ρ.colony colony) (ρ.marker group) kind
  | .missingCallback colony group kind => .missingCallback (ρ.colony colony) (ρ.marker group) kind
  | .orphanCallback colony group kind => .orphanCallback (ρ.colony colony) (ρ.marker group) kind
  | .invalidSelector group cause => .invalidSelector (ρ.marker group) (ρ.discovery cause)
  | .duplicateColony colony => .duplicateColony (ρ.colony colony)
  | .colonyMismatch expected => .colonyMismatch (ρ.colony expected)
  | .malformed reason => .malformed reason

/-- A failed settling names its group and settler, and has a cause that is renamed in turn. -/
def settling : SettleError → SettleError
  | .composition cause => .composition (ρ.composition cause)
  | .discovery group cause => .discovery (ρ.marker group) (ρ.discovery cause)
  | .production group id cause => .production (ρ.marker group) (ρ.id id) (ρ.production cause)
  | .acceptance group id cause => .acceptance (ρ.marker group) (ρ.id id) (ρ.acceptance cause)

/-! ## Histories -/

/-- An edit of the registry does the same to the renamed settler. -/
def edit : Edit φ ν → Edit φ ν
  | .declare s => .declare (ρ.settler s)
  | .registerWith s handle => .registerWith (ρ.settler s) handle
  | .registerSingleton s instanceOf => .registerSingleton (ρ.settler s) instanceOf
  | .bindFactory id handle => .bindFactory (ρ.id id) handle
  | .bindSingleton id instanceOf => .bindSingleton (ρ.id id) instanceOf

/-- A manifest of the renamed settlers, in the same order. -/
def manifest (m : Manifest) : Manifest where
  settlers := m.settlers.map ρ.settler

/-! ## Colonies alone -/

section Colonies

variable (rename : ColonyId → ColonyId)

@[simp]
theorem settler_ofColonies : (ofColonies rename).settler = fun s => s := by
  funext s
  simp [settler, ofColonies]

@[simp]
theorem candidate_ofColonies : (ofColonies rename).candidate = fun c => c :=
  rfl

@[simp]
theorem produced_ofColonies : (ofColonies rename).produced (ν := ν) = fun value => value := by
  funext value
  cases value <;> rfl

@[simp]
theorem group_ofColonies : (ofColonies rename).group = fun g => g := by
  funext g
  obtain ⟨marker, selector, producer, acceptor⟩ := g
  cases selector <;> simp [group, rule, ofColonies]

@[simp]
theorem discovery_ofColonies : (ofColonies rename).discovery = fun e => e := by
  funext e
  cases e <;> rfl

@[simp]
theorem production_ofColonies : (ofColonies rename).production = fun e => e := by
  funext e
  cases e <;> rfl

@[simp]
theorem acceptance_ofColonies : (ofColonies rename).acceptance = fun e => e := by
  funext e
  cases e <;> rfl

@[simp]
theorem map_marker_ofColonies (filter : Option Marker) :
    filter.map (ofColonies rename).marker = filter :=
  Option.map_id'

end Colonies

end Renaming

end Settlement
