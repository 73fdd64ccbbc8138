import Settlement.Proofs.Composition.Foresight

/-!
# Groups left unresolved

If the selection of a declared group fails while building, nothing is known about its candidates,
and the group is left with the strategies of its own modes.  Settling it reports the failure, as
long as the scope does not change.

That failure is no fault of the composition, but it is not harmless either: a callback that is there
only for settlers with modes of their own is then taken for an orphan, and building refuses it.
-/

namespace Settlement

/-- The group that an error of building is about, if it is about one. -/
def CompositionError.group? : CompositionError → Option Marker
  | .duplicateGroup _ group => some group
  | .duplicateCallback _ group _ => some group
  | .missingCallback _ group _ => some group
  | .orphanCallback _ group _ => some group
  | .invalidSelector group _ => some group
  | _ => none

namespace Composition

variable {χ ω ν : Type}

/-- That a composition is in order as far as can be seen without selecting anything. -/
structure Prepared (c : Composition χ ω ν) : Prop where
  distinctGroups : (c.entries.map (·.marker)).Nodup
  distinctCallbacks : ∀ kind, (c.registered kind).Nodup
  hasScope : c.scope ≠ none
  selectable : ∀ g, .declared g ∈ c.entries → ∃ selector, c.selectorOf g = .ok selector
  /-- Every callback is there for a declared group. -/
  addressed : ∀ kind, ∀ group ∈ c.registered kind, ∃ g, .declared g ∈ c.entries ∧ g.marker = group
  /-- Every callback that an own mode calls is there. -/
  equipped : ∀ g, .declared g ∈ c.entries → ∀ kind, g.Calls kind → g.marker ∈ c.registered kind

/-! ## Faults and the groups they are about -/

theorem mem_missing_iff {c : Composition χ ω ν} {group : Marker} {kind : CallbackKind}
    {isNeeded : Prop} [Decidable isNeeded] {e : CompositionError} :
    e ∈ c.missing group kind isNeeded ↔
      isNeeded ∧ group ∉ c.registered kind ∧ e = .missingCallback c.colony group kind := by
  unfold missing
  split
  case isTrue holds => simp [holds]
  case isFalse fails =>
    simp only [List.not_mem_nil, false_iff]
    rintro ⟨isNeeded, isMissing, -⟩
    exact fails ⟨isNeeded, isMissing⟩

/-- What is missing for a group is a callback that it needs and does not have. -/
theorem exists_of_mem_missingCallbacks {c : Composition χ ω ν} {g : GroupDeclaration}
    {candidates : List Candidate} {e : CompositionError}
    (isMissing : e ∈ c.missingCallbacks g candidates) :
    ∃ kind, g.Needs candidates kind ∧ g.marker ∉ c.registered kind ∧
      e = .missingCallback c.colony g.marker kind := by
  simp only [missingCallbacks, List.mem_append, mem_missing_iff] at isMissing
  rcases isMissing with ((⟨calls, rest⟩ | ⟨calls, rest⟩) | ⟨asked, rest⟩) | ⟨asked, rest⟩
  · exact ⟨.produce, .inl calls, rest⟩
  · exact ⟨.accept, .inl calls, rest⟩
  · exact ⟨.produce, .inr asked, rest⟩
  · exact ⟨.accept, .inr asked, rest⟩

/-- An orphan is a callback that is there and that no group of the survey needs. -/
theorem mem_orphanFaults_iff {c : Composition χ ω ν}
    {found : List (GroupDeclaration × List Candidate)} {e : CompositionError} :
    e ∈ c.orphanFaults found ↔ ∃ kind, ∃ group ∈ c.registered kind, ¬IsNeeded found kind group ∧
      e = .orphanCallback c.colony group kind := by
  simp only [orphanFaults, orphans, List.mem_append, List.mem_map, List.mem_filter,
    decide_eq_true_eq]
  constructor
  · rintro (⟨group, ⟨member, needless⟩, rfl⟩ | ⟨group, ⟨member, needless⟩, rfl⟩)
    · exact ⟨.produce, group, member, needless, rfl⟩
    · exact ⟨.accept, group, member, needless, rfl⟩
  · rintro ⟨kind, group, member, needless, rfl⟩
    cases kind with
    | produce => exact .inl ⟨group, ⟨member, needless⟩, rfl⟩
    | accept => exact .inr ⟨group, ⟨member, needless⟩, rfl⟩

/-! ## Visits of distinct groups -/

/-- If the groups have names of their own, a name tells where its group was visited. -/
theorem eq_of_mem_visits {c : Composition χ ω ν} {entries : List (Entry χ ω ν)} {w : ω}
    (distinct : (entries.map (·.marker)).Nodup) {first second : Entry χ ω ν × ω}
    (visited : first ∈ c.visits entries w) (visited' : second ∈ c.visits entries w)
    (sameName : first.1.marker = second.1.marker) : first = second := by
  rw [← c.map_visits entries w, List.map_map] at distinct
  exact List.inj_on_of_nodup_map distinct visited visited' sameName

/-- A survey tells of each declared group what was found where it was visited. -/
theorem mem_survey_iff {c : Composition χ ω ν} {entries : List (Entry χ ω ν)} {w : ω}
    {g : GroupDeclaration} {candidates : List Candidate} :
    (g, candidates) ∈ c.survey entries w ↔
      ∃ w', (.declared g, w') ∈ c.visits entries w ∧ candidates = c.foreseen g w' := by
  rw [survey_eq_flatMap_visits, List.mem_flatMap]
  constructor
  · rintro ⟨⟨entry, w'⟩, visited, isExamined⟩
    cases entry with
    | explicit group => cases isExamined
    | declared other =>
        obtain ⟨rfl, rfl⟩ := Prod.mk.inj (List.mem_singleton.mp isExamined)
        exact ⟨w', visited, rfl⟩
  · rintro ⟨w', visited, rfl⟩
    exact ⟨_, visited, List.mem_singleton_self _⟩

/-- Whether the callbacks for a group are needed shows where the group is visited. -/
theorem isNeeded_iff_of_visited {c : Composition χ ω ν} {w w' : ω} {g : GroupDeclaration}
    (distinct : (c.entries.map (·.marker)).Nodup)
    (visited : (.declared g, w') ∈ c.visits c.entries w) (kind : CallbackKind) :
    IsNeeded (c.survey c.entries w) kind g.marker ↔ g.Needs (c.foreseen g w') kind := by
  constructor
  · rintro ⟨⟨other, candidates⟩, isSurveyed, needs, sameName⟩
    obtain ⟨v, visited', rfl⟩ := mem_survey_iff.mp isSurveyed
    cases eq_of_mem_visits distinct visited' visited sameName
    exact needs
  · intro needs
    exact ⟨_, mem_survey_iff.mpr ⟨w', visited, rfl⟩, needs, rfl⟩

/-! ## Failed selections -/

/-- That the selection of a declared group fails while building. -/
def FailsToSelect (c : Composition χ ω ν) (w : ω) (g : GroupDeclaration) (cause : DiscoveryError) :
    Prop :=
  ∃ selector w', c.selectorOf g = .ok selector ∧ (.declared g, w') ∈ c.visits c.entries w ∧
    ((selector.select (c.context g)).run w').result = .error cause

theorem needs_nil_iff (g : GroupDeclaration) (kind : CallbackKind) :
    g.Needs [] kind ↔ g.Calls kind := by
  cases kind <;> simp [GroupDeclaration.Needs, GroupDeclaration.IsAskedToCall]

/-- Of a group whose selection failed, only the own modes count. -/
theorem FailsToSelect.isNeeded_iff {c : Composition χ ω ν} {w : ω} {g : GroupDeclaration}
    {cause : DiscoveryError} (fails : c.FailsToSelect w g cause)
    (distinct : (c.entries.map (·.marker)).Nodup) (kind : CallbackKind) :
    IsNeeded (c.survey c.entries w) kind g.marker ↔ g.Calls kind := by
  obtain ⟨selector, w', selected, visited, failed⟩ := fails
  have nobody : c.foreseen g w' = [] := by
    simp only [foreseen, selected, candidates, failed]
    rfl
  rw [isNeeded_iff_of_visited distinct visited, nobody, needs_nil_iff]

/-- What comes of a declared group whose selection failed while building. -/
structure LeftUnresolved (c : Composition χ ω ν) (w : ω) (g : GroupDeclaration)
    (cause : DiscoveryError) : Prop where
  /-- If building fails at the group, then for a callback that no own mode of it calls. -/
  blamed : ∀ e, (c.build.run w).result = .error e → e.group? = some g.marker →
    ∃ kind, e = .orphanCallback c.colony g.marker kind ∧ g.marker ∈ c.registered kind ∧
      ¬g.Calls kind
  /-- If there is such a callback, it is among the faults, and building fails. -/
  refused : ∀ kind, g.marker ∈ c.registered kind → ¬g.Calls kind →
    .orphanCallback c.colony g.marker kind ∈ c.faults w ∧ ∃ e, (c.build.run w).result = .error e
  /-- If building succeeds, the group has the strategies of its own modes and no others. -/
  plain : ∀ f, (c.build.run w).result = .ok f → ∃ group, f.chosen (some g.marker) = [group] ∧
    group.producer.mode = g.producer ∧ group.acceptor.mode = g.acceptor ∧
    group.altProducers = [] ∧ group.altAcceptors = []
  /-- As long as the scope gives the same answers, settling the group fails as building did. -/
  reported : ∀ f, (c.build.run w).result = .ok f → ∀ inv, (∀ scope ∈ c.scope, scope.Steady inv) →
    inv w → ∀ site, inv site.world →
      ((f.found (some g.marker)).run site).result = .error (.discovery g.marker cause)

section

variable {c : Composition χ ω ν} {w : ω} {g : GroupDeclaration} {cause : DiscoveryError}

theorem FailsToSelect.declared (fails : c.FailsToSelect w g cause) : .declared g ∈ c.entries := by
  obtain ⟨selector, w', -, visited, -⟩ := fails
  rw [← c.map_visits c.entries w]
  exact List.mem_map_of_mem visited

/-- A group whose selection fails is never short of a callback. -/
theorem FailsToSelect.not_mem_groupFaults (fails : c.FailsToSelect w g cause)
    (prepared : c.Prepared) {other : GroupDeclaration} {candidates : List Candidate}
    (isSurveyed : (other, candidates) ∈ c.survey c.entries w) {e : CompositionError}
    (about : e.group? = some g.marker) : e ∉ c.groupFaults other candidates := by
  intro isFault
  have isDeclared := (c.exists_mem_survey_iff c.entries w other).mp ⟨candidates, isSurveyed⟩
  obtain ⟨selector, selected⟩ := prepared.selectable other isDeclared
  simp only [groupFaults, selected] at isFault
  obtain ⟨kind, needs, isMissing, rfl⟩ := exists_of_mem_missingCallbacks isFault
  have sameName : other.marker = g.marker := Option.some.inj about
  have calls : g.Calls kind :=
    (fails.isNeeded_iff prepared.distinctGroups kind).mp ⟨_, isSurveyed, needs, sameName⟩
  rw [sameName] at isMissing
  exact isMissing (prepared.equipped g fails.declared kind calls)

theorem FailsToSelect.blamed (fails : c.FailsToSelect w g cause) (prepared : c.Prepared)
    {e : CompositionError} (refused : (c.build.run w).result = .error e)
    (about : e.group? = some g.marker) :
    ∃ kind, e = .orphanCallback c.colony g.marker kind ∧ g.marker ∈ c.registered kind ∧
      ¬g.Calls kind := by
  have needed := fails.isNeeded_iff prepared.distinctGroups
  have isFault : e ∈ c.faults w :=
    List.mem_of_head? (((c.build_reports w).error_iff e).mp refused)
  have noClashes : c.clashes = [] :=
    c.clashes_eq_nil_iff.mpr ⟨prepared.distinctGroups, prepared.distinctCallbacks⟩
  -- Without clashes, the fault is that of a group of the survey, or an orphan.
  simp only [faults, noClashes, List.nil_append, List.mem_append, List.mem_flatMap] at isFault
  rcases isFault with ⟨⟨other, candidates⟩, isSurveyed, isFault⟩ | isOrphan
  case inl => exact absurd isFault (fails.not_mem_groupFaults prepared isSurveyed about)
  case inr =>
    obtain ⟨kind, group, isRegistered, needless, rfl⟩ := mem_orphanFaults_iff.mp isOrphan
    obtain rfl : group = g.marker := Option.some.inj about
    exact ⟨kind, rfl, isRegistered, mt (needed kind).mpr needless⟩

theorem FailsToSelect.refused (fails : c.FailsToSelect w g cause) (prepared : c.Prepared)
    {kind : CallbackKind} (isRegistered : g.marker ∈ c.registered kind) (idle : ¬g.Calls kind) :
    .orphanCallback c.colony g.marker kind ∈ c.faults w ∧
      ∃ e, (c.build.run w).result = .error e := by
  have needless : ¬IsNeeded (c.survey c.entries w) kind g.marker :=
    mt (fails.isNeeded_iff prepared.distinctGroups kind).mp idle
  have isOrphan := mem_orphanFaults_iff.mpr ⟨kind, g.marker, isRegistered, needless, rfl⟩
  refine ⟨List.mem_append_right _ (List.mem_append_right _ isOrphan), ?_⟩
  cases outcome : (c.build.run w).result with
  | error e => exact ⟨e, rfl⟩
  | ok f => exact absurd ((sound_of_build outcome).noneOrphan kind g.marker isRegistered) needless

/-- A group that is assembled for no candidates has no alternatives. -/
theorem Assembled.alternatives_eq_nil {scope : Scope ω ν} {selector : Selector ω StrategyEvent}
    {r : Resolved χ ω ν} (assembled : Assembled c scope g selector [] r) :
    r.group.altProducers = [] ∧ r.group.altAcceptors = [] := by
  constructor
  · rw [List.eq_nil_iff_forall_not_mem]
    intro p member
    have served : (r.group.altProducers.find? fun q => q.mode == p.mode).isSome = true :=
      List.find?_isSome.mpr ⟨p, member, beq_self_eq_true _⟩
    obtain ⟨-, x, nobody, -⟩ := (assembled.productions p.mode).mp served
    cases nobody
  · rw [List.eq_nil_iff_forall_not_mem]
    intro a member
    have served : (r.group.altAcceptors.find? fun b => b.mode == a.mode).isSome = true :=
      List.find?_isSome.mpr ⟨a, member, beq_self_eq_true _⟩
    obtain ⟨-, x, nobody, -⟩ := (assembled.acceptances a.mode).mp served
    cases nobody

/-- A group whose selection fails is assembled as if it had no candidates. -/
theorem FailsToSelect.exists_assembled (fails : c.FailsToSelect w g cause)
    {f : Founder χ ω StrategyEvent ν} (built : (c.build.run w).result = .ok f) :
    ∃ scope selector r w', c.scope = some scope ∧
      Selector.ofRule scope g.selector = .ok selector ∧ Assembled c scope g selector [] r ∧
      f.chosen (some g.marker) = [r.group] ∧ (.declared g, w') ∈ c.visits c.entries w ∧
      ((selector.select (c.context g)).run w').result = .error cause := by
  obtain ⟨selector, w', selected, visited, failed⟩ := fails
  obtain ⟨r, ⟨scope, other, hasScope, isBuilt, assembled⟩, single⟩ :=
    exists_chosen_of_build built visited
  obtain rfl : other = selector := by
    simpa [selectorOf, hasScope, isBuilt] using selected
  have nobody : c.candidates g other w' = [] := by
    rw [candidates, failed]
    rfl
  rw [nobody] at assembled
  exact ⟨scope, other, r, w', hasScope, isBuilt, assembled, single, visited, failed⟩

theorem FailsToSelect.reported (fails : c.FailsToSelect w g cause)
    {f : Founder χ ω StrategyEvent ν} (built : (c.build.run w).result = .ok f) {inv : ω → Prop}
    (steady : ∀ scope ∈ c.scope, scope.Steady inv) (holds : inv w) {site : Site χ ω}
    (holds' : inv site.world) :
    ((f.found (some g.marker)).run site).result = .error (.discovery g.marker cause) := by
  obtain ⟨scope, selector, r, w', hasScope, isBuilt, assembled, single, visited, failed⟩ :=
    fails.exists_assembled built
  have selects := assembled.selects_again built hasScope isBuilt visited (steady scope hasScope)
    holds holds'
  rw [failed, Action.mapError_error] at selects
  rw [Founder.result_found_of_chosen single, Founder.settleGroup,
    Action.run_bind_of_error selects]

end

/-- A declared group whose selection fails while building is left unresolved.  That is no reason for
building to fail, except for a callback that only its settlers could have called. -/
theorem leftUnresolved_of_failsToSelect {c : Composition χ ω ν} (prepared : c.Prepared) {w : ω}
    {g : GroupDeclaration} {cause : DiscoveryError} (fails : c.FailsToSelect w g cause) :
    c.LeftUnresolved w g cause where
  blamed _ refused about := fails.blamed prepared refused about
  refused _ isRegistered idle := fails.refused prepared isRegistered idle
  plain f built := by
    obtain ⟨scope, selector, r, w', -, -, assembled, single, -⟩ := fails.exists_assembled built
    exact ⟨r.group, single, mode_of_producer assembled.producer,
      mode_of_acceptor assembled.acceptor, assembled.alternatives_eq_nil⟩
  reported _ built _ steady holds _ holds' := fails.reported built steady holds holds'

/-- A group of ants that produces in some mode. -/
def darkBrood (mode : ProductionMode) : GroupDeclaration :=
  ⟨⟨"brood"⟩, .byMarker ⟨"ant"⟩, mode, .forget⟩

/-- A hill with that group and a produce callback for it, over a scope that cannot be read. -/
def darkHill (mode : ProductionMode) : Composition Unit Unit Nat where
  colony := ⟨"Hill"⟩
  scope := some
    { settlers := Action.fail (.scopeUnavailable "not yet")
      settler := fun _ => Action.fail (.scopeUnavailable "not yet")
      construct := fun id => Action.fail (.noFactory id)
      unlisted := 0 }
  entries := [.declared (darkBrood mode)]
  produceCallbacks := [(⟨"brood"⟩, .unbound fun id => return .identity id)]

theorem darkHill_prepared (mode : ProductionMode) : (darkHill mode).Prepared where
  distinctGroups := List.nodup_singleton _
  distinctCallbacks kind := by
    cases kind with
    | produce => exact List.nodup_singleton _
    | accept => exact List.nodup_nil
  hasScope := Option.some_ne_none _
  selectable g isDeclared := by
    cases List.mem_singleton.mp isDeclared
    exact ⟨_, rfl⟩
  addressed kind group isRegistered := by
    cases kind with
    | produce =>
        obtain rfl := List.mem_singleton.mp isRegistered
        exact ⟨darkBrood mode, List.mem_singleton_self _, rfl⟩
    | accept => cases isRegistered
  equipped g isDeclared kind calls := by
    cases List.mem_singleton.mp isDeclared
    cases kind with
    | produce => exact List.mem_singleton_self _
    | accept => cases calls

theorem darkHill_failsToSelect (mode : ProductionMode) :
    (darkHill mode).FailsToSelect () (darkBrood mode) (.scopeUnavailable "not yet") :=
  ⟨_, (), rfl, List.mem_cons_self, rfl⟩

/-- If the group calls the callback itself, the hill can be built, and settling the group tells that
the scope cannot be read. -/
theorem darkHill_reports :
    (darkHill .callback).LeftUnresolved () (darkBrood .callback) (.scopeUnavailable "not yet") ∧
      ∃ f, ((darkHill .callback).build.run ()).result = .ok f ∧
        ((f.found (some ⟨"brood"⟩)).run ⟨(), ()⟩).result =
          .error (.discovery ⟨"brood"⟩ (.scopeUnavailable "not yet")) := by
  have left := leftUnresolved_of_failsToSelect (darkHill_prepared .callback)
    (darkHill_failsToSelect .callback)
  have answer : ((darkHill .callback).build.run ()).result.toOption.isSome = true := by
    decide +kernel
  obtain ⟨f, built⟩ := exists_eq_ok_of_isSome answer
  refine ⟨left, f, built, left.reported f built (fun _ => True) ?_ trivial ⟨(), ()⟩ trivial⟩
  rintro scope ⟨⟩
  exact ⟨.fail _, fun _ => .fail _⟩

/-- If it were for settlers to call the callback, the hill cannot be built. -/
theorem darkHill_refused :
    (darkHill .construct).Prepared ∧
      (darkHill .construct).FailsToSelect () (darkBrood .construct) (.scopeUnavailable "not yet") ∧
      ((darkHill .construct).build.run ()).result =
        .error (.orphanCallback ⟨"Hill"⟩ ⟨"brood"⟩ .produce) :=
  ⟨darkHill_prepared .construct, darkHill_failsToSelect .construct, rfl⟩

end Composition

end Settlement
