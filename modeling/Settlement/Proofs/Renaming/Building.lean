import Settlement.Proofs.Composition.Validity
import Settlement.Proofs.Renaming.Selection

/-!
# Renamed compositions

A composition with new names, at the registry with new names, has the same faults as before, in the
same order, under the new names.  Only how a composition is malformed is told by a text, which holds
the names themselves.
-/

namespace Settlement

/-- An error without the text that says how a composition is malformed. -/
def CompositionError.withoutText : CompositionError → CompositionError
  | .malformed _ => .malformed ""
  | e => e

theorem Composition.selectorOf_of_scope {χ ω ν : Type} {c : Composition χ ω ν} {scope : Scope ω ν}
    (hasScope : c.scope = some scope) (g : GroupDeclaration) :
    c.selectorOf g = (Selector.ofRule scope g.selector).mapError (.invalidSelector g.marker) := by
  rw [selectorOf, hasScope]

/-- Selections at a registry leave the world as it is, and so does building from one. -/
theorem Composition.worldAfter_of_registry {χ ω φ ν : Type} {c : Composition χ ω ν}
    {r : Registry φ ν} (indexed : r.Indexed) (call : φ → Action ω StrategyEvent String ν)
    (atRegistry : c.scope = none ∨ c.scope = some (r.scope call)) (g : GroupDeclaration) (w : ω) :
    c.worldAfter (.declared g) w = w := by
  rw [worldAfter]
  cases selected : c.selectorOf g with
  | error e => rfl
  | ok selector =>
      obtain ⟨scope, hasScope, built⟩ := selectorOf_eq_ok selected
      rcases atRegistry with noScope | sameScope
      · rw [noScope] at hasScope
        contradiction
      · obtain rfl := Option.some.inj (sameScope.symm.trans hasScope)
        exact (indexed.run_select built (c.context g) w).2

namespace Renaming

variable {χ ω φ ν : Type} (ρ : Renaming)

/-- That a callback makes under a new name what another makes under the old one. -/
def Produces (call call' : ProduceCallback χ ω StrategyEvent ν) : Prop :=
  ∀ id, Action.Mirrors (call.invoke id) (call'.invoke (ρ.id id)) (fun cause => cause) ρ.produced

/-- That a callback does with a renamed value what another does with the value. -/
def Accepts (call call' : AcceptCallback χ ω StrategyEvent ν) : Prop :=
  ∀ value, Action.Mirrors (call.invoke value) (call'.invoke (ρ.produced value))
    (fun cause => cause) (fun done => done)

/-- That callbacks are registered for the new markers that do what others do for the old ones. -/
def Registers {α : Type} (related : α → α → Prop) (callbacks callbacks' : List (Marker × α)) :
    Prop :=
  List.Forall₂ (fun entry entry' => entry'.1 = ρ.marker entry.1 ∧ related entry.2 entry'.2)
    callbacks callbacks'

/-- That a composition is another one with new names.  All groups are declared, and if there is a
scope, it is the registry with the old names and the one with the new names. -/
structure Composes (r r' : Registry φ ν) (call : φ → Action ω StrategyEvent String ν)
    (c c' : Composition χ ω ν) : Prop where
  colony : c'.colony = ρ.colony c.colony
  scope : c.scope = none ∧ c'.scope = none ∨
    c.scope = some (r.scope call) ∧ c'.scope = some (r'.scope call)
  entries : ∃ groups : List GroupDeclaration, c.entries = groups.map .declared ∧
    c'.entries = (groups.map ρ.group).map .declared ∧ ∀ g ∈ groups, ρ.Blinds g.selector
  produceCallbacks : ρ.Registers ρ.Produces c.produceCallbacks c'.produceCallbacks
  acceptCallbacks : ρ.Registers ρ.Accepts c.acceptCallbacks c'.acceptCallbacks

/-! ## Lists of errors -/

/-- That errors are others with new names, but for their texts. -/
def Tells (errors errors' : List CompositionError) : Prop :=
  errors'.map (·.withoutText) = errors.map fun e => (ρ.composition e).withoutText

variable {ρ}

theorem Tells.of_eq {errors errors' : List CompositionError}
    (same : errors' = errors.map ρ.composition) : ρ.Tells errors errors' := by
  rw [same, Tells, List.map_map]
  rfl

theorem Tells.append {errors errors' more more' : List CompositionError}
    (first : ρ.Tells errors errors') (second : ρ.Tells more more') :
    ρ.Tells (errors ++ more) (errors' ++ more') := by
  rw [Tells, List.map_append, List.map_append, first, second]

/-- The first of the errors are each other's renaming, too. -/
theorem Tells.exists_head? {errors errors' : List CompositionError} (tells : ρ.Tells errors errors')
    {e : CompositionError} (first : errors.head? = some e) :
    ∃ e', errors'.head? = some e' ∧ e'.withoutText = (ρ.composition e).withoutText := by
  have heads := congrArg List.head? tells
  rw [List.head?_map, List.head?_map, first] at heads
  exact Option.map_eq_some_iff.mp heads

theorem Tells.eq_nil_iff {errors errors' : List CompositionError} (tells : ρ.Tells errors errors') :
    errors' = [] ↔ errors = [] := by
  rw [← List.map_eq_nil_iff (f := CompositionError.withoutText), tells, List.map_eq_nil_iff]

/-! ## Names -/

variable (ρ) in
theorem repeated_marker (markers : List Marker) :
    Composition.repeated (markers.map ρ.marker) =
      (Composition.repeated markers).map ρ.marker := by
  unfold Composition.repeated
  rw [List.length_map, List.map_filterMap]
  apply List.filterMap_congr
  intro i _
  rw [List.getElem?_map, ← List.map_take]
  cases markers[i]? with
  | none => rfl
  | some m =>
      have same : decide (ρ.marker m ∈ (markers.take i).map ρ.marker) =
          decide (m ∈ markers.take i) := decide_eq_decide.mpr ρ.mem_map_marker
      rw [Option.map_some, Option.filter_some, Option.filter_some, same]
      split <;> rfl

/-! ## Callbacks -/

section Callbacks

variable {α : Type} {related : α → α → Prop} {callbacks callbacks' : List (Marker × α)}

theorem Registers.markers (registers : ρ.Registers related callbacks callbacks') :
    callbacks'.map (·.1) = (callbacks.map (·.1)).map ρ.marker := by
  induction registers with
  | nil => rfl
  | cons first _ ih => simp only [List.map_cons, first.1, ih]

/-- For a renamed marker, the callback is found that stands in the place of the original. -/
theorem Registers.related_of_callbackFor (registers : ρ.Registers related callbacks callbacks')
    {group : Marker} {call call' : α}
    (found : Composition.callbackFor callbacks group = some call)
    (found' : Composition.callbackFor callbacks' (ρ.marker group) = some call') :
    related call call' := by
  unfold Composition.callbackFor at found found'
  induction registers with
  | nil => contradiction
  | @cons entry entry' rest rest' first _ ih =>
      by_cases here : entry.1 = group
      · rw [List.find?_cons_of_pos (by simp [here])] at found
        rw [List.find?_cons_of_pos (by simp [here, first.1])] at found'
        cases found
        cases found'
        exact first.2
      · rw [List.find?_cons_of_neg (by simp [here])] at found
        rw [List.find?_cons_of_neg (by simp [here, first.1, ρ.marker_inj])] at found'
        exact ih found found'

theorem registers_ofColonies {rename : ColonyId → ColonyId} (same : ∀ call, related call call)
    (callbacks : List (Marker × α)) : (ofColonies rename).Registers related callbacks callbacks :=
  List.forall₂_same.mpr fun entry _ => ⟨rfl, same entry.2⟩

end Callbacks

/-! ## Groups -/

/-- A surveyed group with its candidates, renamed. -/
def surveyed (entry : GroupDeclaration × List Candidate) : GroupDeclaration × List Candidate :=
  (ρ.group entry.1, entry.2.map ρ.candidate)

variable (ρ)

theorem calls_group (g : GroupDeclaration) (kind : CallbackKind) :
    (ρ.group g).Calls kind ↔ g.Calls kind := by
  cases kind <;> rfl

theorem isAskedToCall_group (g : GroupDeclaration) (candidates : List Candidate)
    (kind : CallbackKind) :
    (ρ.group g).IsAskedToCall (candidates.map ρ.candidate) kind ↔
      g.IsAskedToCall candidates kind := by
  cases kind with
  | produce =>
      simp only [GroupDeclaration.IsAskedToCall, List.mem_map, exists_exists_and_eq_and]
      rfl
  | accept =>
      simp only [GroupDeclaration.IsAskedToCall, List.mem_map, exists_exists_and_eq_and]
      rfl

theorem needs_group (g : GroupDeclaration) (candidates : List Candidate) (kind : CallbackKind) :
    (ρ.group g).Needs (candidates.map ρ.candidate) kind ↔ g.Needs candidates kind :=
  or_congr (ρ.calls_group g kind) (ρ.isAskedToCall_group g candidates kind)

theorem isNeeded_surveyed (found : List (GroupDeclaration × List Candidate)) (kind : CallbackKind)
    (m : Marker) :
    Composition.IsNeeded (found.map ρ.surveyed) kind (ρ.marker m) ↔
      Composition.IsNeeded found kind m := by
  simp only [Composition.IsNeeded, List.mem_map, exists_exists_and_eq_and, surveyed, needs_group]
  simp only [group, marker_inj]

variable {ρ}

/-- A renamed selector foresees the renamed candidates. -/
theorem Selects.candidates {selector selector' : Selector ω StrategyEvent}
    (selects : ρ.Selects selector selector') (c c' : Composition χ ω ν) (g : GroupDeclaration)
    (w : ω) :
    c'.candidates (ρ.group g) selector' w = (c.candidates g selector w).map ρ.candidate := by
  obtain ⟨result, -⟩ := selects (c.context g) (c'.context (ρ.group g)) rfl w
  unfold Composition.candidates
  rw [result]
  cases ((selector.select (c.context g)).run w).result <;> rfl

namespace Composes

variable {r r' : Registry φ ν} {call : φ → Action ω StrategyEvent String ν}
  {c c' : Composition χ ω ν}

theorem markers (composes : ρ.Composes r r' call c c') :
    c'.entries.map (·.marker) = (c.entries.map (·.marker)).map ρ.marker := by
  obtain ⟨groups, entries, entries', -⟩ := composes.entries
  rw [entries, entries']
  simp only [List.map_map]
  rfl

theorem registered (composes : ρ.Composes r r' call c c') (kind : CallbackKind) :
    c'.registered kind = (c.registered kind).map ρ.marker := by
  cases kind with
  | produce => exact composes.produceCallbacks.markers
  | accept => exact composes.acceptCallbacks.markers

theorem mem_registered_iff (composes : ρ.Composes r r' call c c') (kind : CallbackKind)
    (m : Marker) : ρ.marker m ∈ c'.registered kind ↔ m ∈ c.registered kind := by
  rw [composes.registered, ρ.mem_map_marker]

theorem clashes (composes : ρ.Composes r r' call c c') :
    c'.clashes = c.clashes.map ρ.composition := by
  unfold Composition.clashes
  rw [composes.markers, composes.registered, composes.registered, composes.colony,
    repeated_marker, repeated_marker, repeated_marker]
  simp only [List.map_append, List.map_map]
  rfl

theorem missing (composes : ρ.Composes r r' call c c') (group : Marker) (kind : CallbackKind)
    {isNeeded isNeeded' : Prop} [Decidable isNeeded] [Decidable isNeeded']
    (same : isNeeded' ↔ isNeeded) :
    c'.missing (ρ.marker group) kind isNeeded' =
      (c.missing group kind isNeeded).map ρ.composition := by
  unfold Composition.missing
  simp only [same, composes.mem_registered_iff, composes.colony]
  split <;> rfl

theorem missingCallbacks (composes : ρ.Composes r r' call c c') (g : GroupDeclaration)
    (candidates : List Candidate) :
    c'.missingCallbacks (ρ.group g) (candidates.map ρ.candidate) =
      (c.missingCallbacks g candidates).map ρ.composition := by
  have own (kind : CallbackKind) := composes.missing g.marker kind (ρ.calls_group g kind)
  have asked (kind : CallbackKind) :=
    composes.missing g.marker kind (ρ.isAskedToCall_group g candidates kind)
  unfold Composition.missingCallbacks
  simp only [List.map_append, ← own, ← asked]
  rfl

theorem orphanFaults (composes : ρ.Composes r r' call c c')
    (found : List (GroupDeclaration × List Candidate)) :
    c'.orphanFaults (found.map ρ.surveyed) = (c.orphanFaults found).map ρ.composition := by
  have orphans (kind : CallbackKind) :
      c'.orphans (found.map ρ.surveyed) kind = (c.orphans found kind).map ρ.marker := by
    unfold Composition.orphans
    rw [composes.registered, List.filter_map]
    congr 2
    funext m
    exact decide_eq_decide.mpr (not_congr (ρ.isNeeded_surveyed found kind m))
  unfold Composition.orphanFaults
  rw [orphans, orphans, composes.colony]
  simp only [List.map_append, List.map_map]
  rfl

/-- A composition at a registry is there, too, for a colony type by another name. -/
theorem ofColonies (composes : ρ.Composes r r' call c c') (rename : ColonyId → ColonyId) :
    (ofColonies rename).Composes r r call c { c with colony := rename c.colony } where
  colony := rfl
  scope := by
    rcases composes.scope with ⟨noScope, -⟩ | ⟨hasScope, -⟩
    · exact .inl ⟨noScope, noScope⟩
    · exact .inr ⟨hasScope, hasScope⟩
  entries := by
    obtain ⟨groups, entries, -⟩ := composes.entries
    refine ⟨groups, entries, ?_, fun g _ => blinds_ofColonies rename g.selector⟩
    rw [group_ofColonies, List.map_id']
    exact entries
  produceCallbacks := by
    apply registers_ofColonies
    intro call id
    rw [produced_ofColonies]
    exact .refl _
  acceptCallbacks := by
    apply registers_ofColonies
    intro call value
    rw [produced_ofColonies]
    exact .refl _

/-! ## Selections while building -/

variable (renames : ρ.Renames r r') (indexed : r.Indexed) (indexed' : r'.Indexed)

include renames indexed indexed'

/-- A renamed group has a selector just if the group has one, and it selects the same. -/
theorem selectorOf (composes : ρ.Composes r r' call c c') {g : GroupDeclaration}
    (blind : ρ.Blinds g.selector) :
    (∃ selector selector', c.selectorOf g = .ok selector ∧
      c'.selectorOf (ρ.group g) = .ok selector' ∧ ρ.Selects selector selector') ∨
    ∃ e e', c.selectorOf g = .error e ∧ c'.selectorOf (ρ.group g) = .error e' ∧
      e'.withoutText = (ρ.composition e).withoutText := by
  rcases composes.scope with ⟨noScope, noScope'⟩ | ⟨hasScope, hasScope'⟩
  · unfold Composition.selectorOf
    rw [noScope, noScope']
    exact .inr ⟨_, _, rfl, rfl, rfl⟩
  · have own := Composition.selectorOf_of_scope hasScope g
    have own' := Composition.selectorOf_of_scope hasScope' (ρ.group g)
    rcases ρ.ofRule_rule (r.scope call) (r'.scope call) g.selector with
      ⟨selector, selector', built, built'⟩ | ⟨e, failed, failed'⟩
    · have selects := renames.selects indexed indexed' blind built built'
      rw [built] at own
      have selected' := own'.trans (congrArg (Except.mapError _) built')
      exact .inl ⟨selector, selector', own, selected', selects⟩
    · rw [failed] at own
      have refused' := own'.trans (congrArg (Except.mapError _) failed')
      exact .inr ⟨_, _, own, refused', rfl⟩

theorem foreseen (composes : ρ.Composes r r' call c c') {g : GroupDeclaration}
    (blind : ρ.Blinds g.selector) (w : ω) :
    c'.foreseen (ρ.group g) w = (c.foreseen g w).map ρ.candidate := by
  unfold Composition.foreseen
  rcases composes.selectorOf renames indexed indexed' blind with
    ⟨selector, selector', built, built', selects⟩ | ⟨e, e', failed, failed', -⟩
  · rw [built, built']
    exact selects.candidates c c' g w
  · rw [failed, failed']
    rfl

omit renames in
theorem worldAfter (composes : ρ.Composes r r' call c c') (g g' : GroupDeclaration) (w : ω) :
    c.worldAfter (.declared g) w = w ∧ c'.worldAfter (.declared g') w = w := by
  rcases composes.scope with ⟨noScope, noScope'⟩ | ⟨hasScope, hasScope'⟩
  · exact ⟨Composition.worldAfter_of_registry indexed call (.inl noScope) g w,
      Composition.worldAfter_of_registry indexed' call (.inl noScope') g' w⟩
  · exact ⟨Composition.worldAfter_of_registry indexed call (.inr hasScope) g w,
      Composition.worldAfter_of_registry indexed' call (.inr hasScope') g' w⟩

/-- The survey of renamed groups is the renamed survey. -/
theorem survey (composes : ρ.Composes r r' call c c') {groups : List GroupDeclaration}
    (blind : ∀ g ∈ groups, ρ.Blinds g.selector) (w : ω) :
    c'.survey ((groups.map ρ.group).map .declared) w =
      (c.survey (groups.map .declared) w).map ρ.surveyed := by
  induction groups with
  | nil => rfl
  | cons g rest ih =>
      obtain ⟨isBlind, others⟩ := List.forall_mem_cons.mp blind
      obtain ⟨same, same'⟩ := composes.worldAfter indexed indexed' g (ρ.group g) w
      simp only [List.map_cons, Composition.survey, Composition.examined, same, same', ih others,
        composes.foreseen renames indexed indexed' isBlind, List.cons_append, List.nil_append]
      rfl

theorem groupFaults (composes : ρ.Composes r r' call c c') {g : GroupDeclaration}
    (blind : ρ.Blinds g.selector) (candidates : List Candidate) :
    ρ.Tells (c.groupFaults g candidates)
      (c'.groupFaults (ρ.group g) (candidates.map ρ.candidate)) := by
  unfold Composition.groupFaults
  rcases composes.selectorOf renames indexed indexed' blind with
    ⟨selector, selector', built, built', -⟩ | ⟨e, e', failed, failed', same⟩
  · rw [built, built']
    exact .of_eq (composes.missingCallbacks g candidates)
  · rw [failed, failed']
    exact congrArg (fun e => [e]) same

/-- A renamed composition has the faults of the composition, in the same order. -/
theorem faults (composes : ρ.Composes r r' call c c') (w : ω) :
    ρ.Tells (c.faults w) (c'.faults w) := by
  obtain ⟨groups, entries, entries', blind⟩ := composes.entries
  have surveyed := composes.survey renames indexed indexed' blind w
  rw [← entries', ← entries] at surveyed
  have grouped : ∀ found : List (GroupDeclaration × List Candidate),
      (∀ entry ∈ found, ρ.Blinds entry.1.selector) →
        ρ.Tells (found.flatMap fun entry => c.groupFaults entry.1 entry.2)
          ((found.map ρ.surveyed).flatMap fun entry => c'.groupFaults entry.1 entry.2) := by
    intro found blind
    induction found with
    | nil => rfl
    | cons entry rest ih =>
        obtain ⟨isBlind, others⟩ := List.forall_mem_cons.mp blind
        exact (composes.groupFaults renames indexed indexed' isBlind entry.2).append (ih others)
  unfold Composition.faults
  rw [surveyed]
  apply (Tells.of_eq composes.clashes).append
  apply (grouped _ _).append (.of_eq (composes.orphanFaults _))
  intro entry member
  have declared := (c.exists_mem_survey_iff c.entries w entry.1).mp ⟨entry.2, member⟩
  rw [entries] at declared
  obtain ⟨g, isGroup, same⟩ := List.mem_map.mp declared
  cases same
  exact blind _ isGroup

/-- Building a renamed composition succeeds just if building the composition does, and otherwise
fails with the renamed error. -/
theorem build (composes : ρ.Composes r r' call c c') (w : ω) :
    ((∃ f', (c'.build.run w).result = .ok f') ↔ ∃ f, (c.build.run w).result = .ok f) ∧
      ∀ e, (c.build.run w).result = .error e → ∃ e', (c'.build.run w).result = .error e' ∧
        e'.withoutText = (ρ.composition e).withoutText := by
  have faults := composes.faults renames indexed indexed' w
  have reports := c.build_reports w
  have reports' := c'.build_reports w
  constructor
  · rw [reports.isOk_iff, reports'.isOk_iff]
    exact faults.eq_nil_iff
  · intro e failed
    obtain ⟨e', first, same⟩ := faults.exists_head? ((reports.error_iff e).mp failed)
    exact ⟨e', (reports'.error_iff e').mpr first, same⟩

end Composes

end Renaming

end Settlement
