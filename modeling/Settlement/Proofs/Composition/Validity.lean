import Settlement.Proofs.Composition.Resolution
import Settlement.Proofs.Lists

/-!
# Valid compositions

A composition can be built if its groups and its callbacks fit together.  Whether they do depends on
the settlers too: each declared group is selected once, and the candidates may need callbacks that
the group itself does not.  A survey collects what these selections bring, and the faults of the
composition are read off it, in the order in which building comes upon them.
-/

namespace Settlement.Composition

variable {χ ω ν : Type}

/-! ## The survey -/

/-- The candidates that a declared group has while building.  A group without selector has none. -/
def foreseen (c : Composition χ ω ν) (g : GroupDeclaration) (w : ω) : List Candidate :=
  match c.selectorOf g with
  | .error _ => []
  | .ok selector => c.candidates g selector w

/-- What building finds out about an entry: the candidates of a declared group. -/
def examined (c : Composition χ ω ν) : Entry χ ω ν → ω → List (GroupDeclaration × List Candidate)
  | .explicit _, _ => []
  | .declared g, w => [(g, c.foreseen g w)]

/-- The world after an entry is examined; a selection may change it. -/
def worldAfter (c : Composition χ ω ν) : Entry χ ω ν → ω → ω
  | .explicit _, w => w
  | .declared g, w =>
      match c.selectorOf g with
      | .error _ => w
      | .ok selector => ((selector.select (c.context g)).run w).state

/-- The declared groups among some entries with the candidates that they have while building, the
entries being examined one after the other. -/
def survey (c : Composition χ ω ν) : List (Entry χ ω ν) → ω →
    List (GroupDeclaration × List Candidate)
  | [], _ => []
  | entry :: rest, w => c.examined entry w ++ c.survey rest (c.worldAfter entry w)

/-- The survey covers the declared groups. -/
theorem exists_mem_survey_iff (c : Composition χ ω ν) (entries : List (Entry χ ω ν)) (w : ω)
    (g : GroupDeclaration) :
    (∃ candidates, (g, candidates) ∈ c.survey entries w) ↔ .declared g ∈ entries := by
  induction entries generalizing w with
  | nil => simp [survey]
  | cons entry rest ih =>
      simp only [survey, List.mem_append, exists_or, ih, List.mem_cons]
      cases entry with
      | explicit group => simp [examined]
      | declared other => simp [examined]

/-- The entries with the worlds in which they are examined, one after the other. -/
def visits (c : Composition χ ω ν) : List (Entry χ ω ν) → ω → List (Entry χ ω ν × ω)
  | [], _ => []
  | entry :: rest, w => (entry, w) :: c.visits rest (c.worldAfter entry w)

/-- Every entry is visited once, in its turn. -/
theorem map_visits (c : Composition χ ω ν) (entries : List (Entry χ ω ν)) (w : ω) :
    (c.visits entries w).map (·.1) = entries := by
  induction entries generalizing w with
  | nil => rfl
  | cons entry rest ih => rw [visits, List.map_cons, ih]

theorem survey_eq_flatMap_visits (c : Composition χ ω ν) (entries : List (Entry χ ω ν)) (w : ω) :
    c.survey entries w = (c.visits entries w).flatMap fun visit => c.examined visit.1 visit.2 := by
  induction entries generalizing w with
  | nil => rfl
  | cons entry rest ih => rw [survey, visits, List.flatMap_cons, ih]

/-! ## Faults -/

/-- The members of a list that stand in it before. -/
def repeated (markers : List Marker) : List Marker :=
  (List.range markers.length).filterMap fun i => markers[i]?.filter (· ∈ markers.take i)

/-- The faults of a declared group with some candidates. -/
def groupFaults (c : Composition χ ω ν) (g : GroupDeclaration) (candidates : List Candidate) :
    List CompositionError :=
  match c.selectorOf g with
  | .error e => [e]
  | .ok _ => c.missingCallbacks g candidates

/-- Whether a survey has a group with a name that needs a callback of a kind. -/
def IsNeeded (found : List (GroupDeclaration × List Candidate)) (kind : CallbackKind)
    (group : Marker) : Prop :=
  ∃ entry ∈ found, entry.1.Needs entry.2 kind ∧ entry.1.marker = group

instance (found : List (GroupDeclaration × List Candidate)) (kind : CallbackKind)
    (group : Marker) : Decidable (IsNeeded found kind group) :=
  inferInstanceAs (Decidable (∃ entry ∈ found, _))

/-- The errors of names that stand for two groups, or for two callbacks of a kind. -/
def clashes (c : Composition χ ω ν) : List CompositionError :=
  (repeated (c.entries.map (·.marker))).map (.duplicateGroup c.colony)
    ++ ((repeated (c.registered .produce)).map (.duplicateCallback c.colony · .produce)
      ++ (repeated (c.registered .accept)).map (.duplicateCallback c.colony · .accept))

/-- The callbacks of a kind that no group of a survey needs. -/
def orphans (c : Composition χ ω ν) (found : List (GroupDeclaration × List Candidate))
    (kind : CallbackKind) : List Marker :=
  (c.registered kind).filter fun group => ¬IsNeeded found kind group

/-- The errors of callbacks that no group of a survey needs. -/
def orphanFaults (c : Composition χ ω ν) (found : List (GroupDeclaration × List Candidate)) :
    List CompositionError :=
  (c.orphans found .produce).map (.orphanCallback c.colony · .produce)
    ++ (c.orphans found .accept).map (.orphanCallback c.colony · .accept)

/-- Everything that is wrong with a composition, in the order in which building comes upon it. -/
def faults (c : Composition χ ω ν) (w : ω) : List CompositionError :=
  let found := c.survey c.entries w
  c.clashes ++ ((found.flatMap fun entry => c.groupFaults entry.1 entry.2) ++ c.orphanFaults found)

/-- That everything in a composition fits together, in a world in which it is built. -/
structure Sound (c : Composition χ ω ν) (w : ω) : Prop where
  /-- Every group has a name of its own. -/
  distinctGroups : (c.entries.map (·.marker)).Nodup
  /-- No group has two callbacks of one kind. -/
  distinctCallbacks : ∀ kind, (c.registered kind).Nodup
  /-- Declared groups have a scope. -/
  hasScope : ∀ g, .declared g ∈ c.entries → c.scope ≠ none
  /-- Declared groups have a selector. -/
  selectable : ∀ g, .declared g ∈ c.entries → ∀ scope ∈ c.scope,
    ∃ selector, Selector.ofRule scope g.selector = .ok selector
  /-- Every callback that is needed is there. -/
  noneMissing : ∀ entry ∈ c.survey c.entries w, ∀ kind, entry.1.Needs entry.2 kind →
    entry.1.marker ∈ c.registered kind
  /-- Every callback that is there is needed. -/
  noneOrphan : ∀ kind, ∀ group ∈ c.registered kind, IsNeeded (c.survey c.entries w) kind group

/-! ## Checks of lists -/

theorem firstRepeated_eq (seen markers : List Marker) :
    firstRepeated seen markers =
      ((List.range markers.length).filterMap fun i =>
        markers[i]?.filter (· ∈ seen ++ markers.take i)).head? := by
  induction markers generalizing seen with
  | nil => rfl
  | cons m rest ih =>
      rw [List.length_cons, List.range_succ_eq_map, List.filterMap_cons, firstRepeated, ih,
        List.filterMap_map]
      by_cases known : m ∈ seen
      · simp [known, Option.filter_some]
      · simp [known, Option.filter_some, Bool.or_left_comm]

theorem firstRepeated_eq_none_iff (seen markers : List Marker) :
    firstRepeated seen markers = none ↔ markers.Nodup ∧ ∀ m ∈ markers, m ∉ seen := by
  induction markers generalizing seen with
  | nil => simp [firstRepeated]
  | cons m rest ih =>
      by_cases known : m ∈ seen
      · simp [firstRepeated, known]
      · simp only [firstRepeated, List.contains_iff_mem, known, if_false, ih, List.nodup_cons]
        constructor
        · rintro ⟨distinct, fresh⟩
          refine ⟨⟨fun member => fresh m member List.mem_cons_self, distinct⟩, ?_⟩
          rintro m' member
          rcases List.mem_cons.mp member with rfl | member
          · exact known
          · exact fun isSeen => fresh m' member (List.mem_cons_of_mem m isSeen)
        · rintro ⟨⟨fresh, distinct⟩, unseen⟩
          refine ⟨distinct, fun m' member isSeen => ?_⟩
          rcases List.mem_cons.mp isSeen with rfl | isSeen
          · exact fresh member
          · exact unseen m' (List.mem_cons_of_mem m member) isSeen

theorem head?_repeated (markers : List Marker) :
    (repeated markers).head? = firstRepeated [] markers := by
  rw [firstRepeated_eq]
  rfl

theorem repeated_eq_nil_iff (markers : List Marker) : repeated markers = [] ↔ markers.Nodup := by
  rw [← List.head?_eq_none_iff, head?_repeated, firstRepeated_eq_none_iff]
  simp

/-- A list of markers is refused for the first that comes twice. -/
theorem checkDistinct_reports (markers : List Marker) (refusal : Marker → CompositionError) :
    Reports ((repeated markers).map refusal) (fun _ => True) (checkDistinct markers refusal) := by
  rw [checkDistinct, ← head?_repeated]
  cases repeated markers with
  | nil => exact .ok trivial
  | cons m rest => rfl

/-- Callbacks are refused for the first that is not called. -/
theorem checkUsed_reports (registered used : List Marker) (refusal : Marker → CompositionError) :
    Reports ((registered.filter fun m => m ∉ used).map refusal) (fun _ => True)
      (checkUsed registered used refusal) := by
  have first : (registered.filter fun m => m ∉ used).head? =
      registered.find? fun m => !used.contains m := by
    simp
  rw [checkUsed, ← first]
  cases registered.filter fun m => m ∉ used with
  | nil => exact .ok trivial
  | cons m rest => rfl

/-! ## Building -/

/-- What an entry becomes if it is resolved in a world. -/
def Ready (c : Composition χ ω ν) (w : ω) : Entry χ ω ν → Resolved χ ω ν → Prop
  | .explicit group, r => r = { group }
  | .declared g, r => ∃ scope selector, c.scope = some scope ∧
      Selector.ofRule scope g.selector = .ok selector ∧
      Assembled c scope g selector (c.candidates g selector w) r

/-- The groups that are ready call the callbacks that a survey needs. -/
def Tallies (resolved : List (Resolved χ ω ν)) (found : List (GroupDeclaration × List Candidate)) :
    Prop :=
  ∀ kind group, group ∈ (resolved.filter (·.calls kind)).map (·.group.marker) ↔
    IsNeeded found kind group

theorem Tallies.append {resolved others : List (Resolved χ ω ν)}
    {found more : List (GroupDeclaration × List Candidate)} (first : Tallies resolved found)
    (second : Tallies others more) : Tallies (resolved ++ others) (found ++ more) := by
  intro kind group
  have split : IsNeeded (found ++ more) kind group ↔
      IsNeeded found kind group ∨ IsNeeded more kind group := by
    simp only [IsNeeded, List.mem_append, or_and_right, exists_or]
  rw [List.filter_append, List.map_append, List.mem_append, first, second, split]

/-- A group that is ready calls the callbacks that its examination asks for. -/
theorem Ready.tallies {c : Composition χ ω ν} {w : ω} {entry : Entry χ ω ν} {r : Resolved χ ω ν}
    (ready : c.Ready w entry r) : Tallies [r] (c.examined entry w) := by
  intro kind group
  cases entry with
  | explicit plain =>
      obtain rfl : r = { group := plain } := ready
      cases kind <;> simp [Resolved.calls, examined, IsNeeded]
  | declared g =>
      obtain ⟨scope, selector, hasScope, built, assembled⟩ := ready
      have selected : c.foreseen g w = c.candidates g selector w := by
        simp [foreseen, selectorOf, hasScope, built]
      have named := assembled.marker
      have calls := assembled.calls kind
      by_cases isCalling : r.calls kind
      · simp [isCalling, examined, selected, IsNeeded, calls.mp isCalling, named, eq_comm]
      · simp [isCalling, examined, selected, IsNeeded, mt calls.mpr isCalling]

/-- Resolving an entry leaves the world as its examination does. -/
theorem state_resolve (c : Composition χ ω ν) (entry : Entry χ ω ν) (w : ω) :
    ((c.resolve entry).run w).state = c.worldAfter entry w := by
  cases entry with
  | explicit group => rfl
  | declared g =>
      rw [worldAfter]
      cases selected : c.selectorOf g with
      | error e => exact (resolve_of_error selected w).2
      | ok selector => exact (resolve_of_ok selected w).2

/-- Resolving an entry fails with the first fault that its examination finds. -/
theorem resolve_reports (c : Composition χ ω ν) (entry : Entry χ ω ν) (w : ω) :
    Reports ((c.examined entry w).flatMap fun entry => c.groupFaults entry.1 entry.2)
      (c.Ready w entry) ((c.resolve entry).run w).result := by
  cases entry with
  | explicit group => exact .ok rfl
  | declared g =>
      rw [examined, List.flatMap_singleton]
      unfold groupFaults foreseen
      cases selected : c.selectorOf g with
      | error e =>
          rw [(resolve_of_error selected w).1]
          exact .error e
      | ok selector =>
          obtain ⟨⟨scope, hasScope, built, answer⟩, -⟩ := resolve_of_ok selected w
          rw [answer]
          apply (c.assemble_reports scope g selector (c.candidates g selector w)).weaken
          intro r _ assembled
          exact ⟨scope, selector, hasScope, built, assembled⟩

/-- Resolving all entries fails with the first fault that the survey finds. -/
theorem resolveAll_reports (c : Composition χ ω ν) (entries : List (Entry χ ω ν)) (w : ω) :
    Reports ((c.survey entries w).flatMap fun entry => c.groupFaults entry.1 entry.2)
      (fun resolved => Tallies resolved (c.survey entries w) ∧
        List.Forall₂ (fun visit r => c.Ready visit.2 visit.1 r) (c.visits entries w) resolved)
      ((entries.mapM c.resolve).run w).result := by
  induction entries generalizing w with
  | nil => exact .ok ⟨fun kind group => by simp [survey, IsNeeded], .nil⟩
  | cons entry rest ih =>
      rw [List.mapM_cons, survey, List.flatMap_append]
      apply (c.resolve_reports entry w).run_bind
      intro r ready
      rw [state_resolve, ← List.append_nil (List.flatMap _ (c.survey rest _))]
      apply (ih (c.worldAfter entry w)).run_bind
      rintro others ⟨tallies, allReady⟩
      exact .ok ⟨ready.tallies.append tallies, .cons ready allReady⟩

/-- The names of groups and callbacks are refused for the first clash. -/
theorem distinct_reports (c : Composition χ ω ν) :
    Reports c.clashes (fun _ => True) (do
      checkDistinct (c.entries.map (·.marker)) (.duplicateGroup c.colony)
      checkDistinct (c.registered .produce) (.duplicateCallback c.colony · .produce)
      checkDistinct (c.registered .accept) (.duplicateCallback c.colony · .accept)) :=
  (checkDistinct_reports _ _).bind fun _ _ =>
    (checkDistinct_reports _ _).bind fun _ _ => checkDistinct_reports _ _

/-- Callbacks are refused for the first that the survey does not need. -/
theorem used_reports (c : Composition χ ω ν) {resolved : List (Resolved χ ω ν)}
    {found : List (GroupDeclaration × List Candidate)} (tallies : Tallies resolved found) :
    Reports (c.orphanFaults found) (fun _ => True) (do
      checkUsed (c.registered .produce) ((resolved.filter (·.calls .produce)).map (·.group.marker))
        (.orphanCallback c.colony · .produce)
      checkUsed (c.registered .accept) ((resolved.filter (·.calls .accept)).map (·.group.marker))
        (.orphanCallback c.colony · .accept)) := by
  have unused (kind : CallbackKind) : c.orphans found kind = (c.registered kind).filter fun m =>
      m ∉ (resolved.filter (·.calls kind)).map (·.group.marker) := by
    unfold orphans
    congr 1
    funext m
    exact decide_eq_decide.mpr (not_congr (tallies kind m).symm)
  rw [orphanFaults, unused, unused]
  exact (checkUsed_reports _ _ _).bind fun _ _ => checkUsed_reports _ _ _

/-- Building fails with the first fault of the composition, or else makes every entry ready in the
world in which it is examined. -/
theorem build_reports_visits (c : Composition χ ω ν) (w : ω) :
    Reports (c.faults w)
      (fun f => f.colony = c.colony ∧ ∃ resolved : List (Resolved χ ω ν),
        f.groups = resolved.map (·.group) ∧
        List.Forall₂ (fun visit r => c.Ready visit.2 visit.1 r) (c.visits c.entries w) resolved)
      (c.build.run w).result := by
  rw [faults, ← List.append_nil (c.orphanFaults _)]
  exact c.distinct_reports.ofExcept_bind fun _ _ =>
    (c.resolveAll_reports c.entries w).run_bind fun resolved ⟨tallies, ready⟩ =>
      (c.used_reports tallies).ofExcept_bind fun _ _ => .ok ⟨rfl, resolved, rfl, ready⟩

/-- Building fails with the first fault of the composition, or else makes every entry ready. -/
theorem build_reports (c : Composition χ ω ν) (w : ω) :
    Reports (c.faults w)
      (fun f => f.colony = c.colony ∧ ∃ resolved : List (Resolved χ ω ν),
        f.groups = resolved.map (·.group) ∧
        List.Forall₂ (fun entry r => ∃ w', c.Ready w' entry r) c.entries resolved)
      (c.build.run w).result := by
  apply (c.build_reports_visits w).weaken
  rintro f - ⟨colony, resolved, groups, ready⟩
  refine ⟨colony, resolved, groups, ?_⟩
  rw [← c.map_visits c.entries w, List.forall₂_map_left_iff]
  exact ready.imp fun visit _ isReady => ⟨visit.2, isReady⟩

/-! ## Soundness -/

theorem missing_eq_nil_iff (c : Composition χ ω ν) (group : Marker) (kind : CallbackKind)
    (isNeeded : Prop) [Decidable isNeeded] :
    c.missing group kind isNeeded = [] ↔ (isNeeded → group ∈ c.registered kind) := by
  simp [missing]

theorem clashes_eq_nil_iff (c : Composition χ ω ν) :
    c.clashes = [] ↔
      (c.entries.map (·.marker)).Nodup ∧ ∀ kind, (c.registered kind).Nodup := by
  simp only [clashes, List.append_eq_nil_iff, List.map_eq_nil_iff, repeated_eq_nil_iff]
  constructor
  · rintro ⟨groups, produce, accept⟩
    refine ⟨groups, fun kind => ?_⟩
    cases kind with
    | produce => exact produce
    | accept => exact accept
  · rintro ⟨groups, callbacks⟩
    exact ⟨groups, callbacks .produce, callbacks .accept⟩

theorem orphanFaults_eq_nil_iff (c : Composition χ ω ν)
    (found : List (GroupDeclaration × List Candidate)) :
    c.orphanFaults found = [] ↔ ∀ kind, ∀ group ∈ c.registered kind, IsNeeded found kind group := by
  simp only [orphanFaults, orphans, List.append_eq_nil_iff, List.map_eq_nil_iff,
    List.filter_eq_nil_iff, decide_eq_true_eq, not_not]
  constructor
  · rintro ⟨produce, accept⟩ kind
    cases kind with
    | produce => exact produce
    | accept => exact accept
  · rintro needed
    exact ⟨needed .produce, needed .accept⟩

theorem groupFaults_eq_nil_iff (c : Composition χ ω ν) (g : GroupDeclaration)
    (candidates : List Candidate) :
    c.groupFaults g candidates = [] ↔
      (∃ selector, c.selectorOf g = .ok selector) ∧
        ∀ kind, g.Needs candidates kind → g.marker ∈ c.registered kind := by
  unfold groupFaults
  cases c.selectorOf g with
  | error e => simp
  | ok selector =>
      simp only [missingCallbacks, List.append_eq_nil_iff, missing_eq_nil_iff]
      constructor
      · rintro ⟨⟨⟨produce, accept⟩, askedToProduce⟩, askedToAccept⟩
        refine ⟨⟨selector, rfl⟩, fun kind needed => ?_⟩
        cases kind with
        | produce => exact needed.elim produce askedToProduce
        | accept => exact needed.elim accept askedToAccept
      · rintro ⟨-, registered⟩
        exact ⟨⟨⟨fun calls => registered .produce (.inl calls),
          fun calls => registered .accept (.inl calls)⟩,
          fun asked => registered .produce (.inr asked)⟩,
          fun asked => registered .accept (.inr asked)⟩

/-- A composition is sound if and only if it has no faults. -/
theorem faults_eq_nil_iff (c : Composition χ ω ν) (w : ω) : c.faults w = [] ↔ c.Sound w := by
  simp only [faults, List.append_eq_nil_iff, clashes_eq_nil_iff, orphanFaults_eq_nil_iff,
    List.flatMap_eq_nil_iff, groupFaults_eq_nil_iff]
  constructor
  · rintro ⟨⟨distinctGroups, distinctCallbacks⟩, groups, noneOrphan⟩
    have selected (g : GroupDeclaration) (declared : .declared g ∈ c.entries) :
        ∃ selector, c.selectorOf g = .ok selector := by
      obtain ⟨candidates, member⟩ := (c.exists_mem_survey_iff c.entries w g).mpr declared
      exact (groups _ member).1
    refine ⟨distinctGroups, distinctCallbacks, ?_, ?_, fun entry member => (groups _ member).2,
      noneOrphan⟩
    · rintro g declared
      obtain ⟨selector, built⟩ := selected g declared
      obtain ⟨scope, hasScope, -⟩ := selectorOf_eq_ok built
      simp [hasScope]
    · rintro g declared scope hasScope
      obtain ⟨selector, built⟩ := selected g declared
      obtain ⟨scope', hasScope', answer⟩ := selectorOf_eq_ok built
      rw [Option.mem_def, hasScope'] at hasScope
      cases hasScope
      exact ⟨selector, answer⟩
  · rintro sound
    refine ⟨⟨sound.distinctGroups, sound.distinctCallbacks⟩, ?_, sound.noneOrphan⟩
    rintro ⟨g, candidates⟩ member
    refine ⟨?_, sound.noneMissing _ member⟩
    have declared := (c.exists_mem_survey_iff c.entries w g).mp ⟨candidates, member⟩
    obtain ⟨scope, hasScope⟩ := Option.ne_none_iff_exists'.mp (sound.hasScope g declared)
    obtain ⟨selector, built⟩ := sound.selectable g declared scope hasScope
    exact ⟨selector, by simp [selectorOf, hasScope, built]⟩

/-- Only sound compositions have a founder. -/
theorem sound_of_build {c : Composition χ ω ν} {w : ω} {f : Founder χ ω StrategyEvent ν}
    (built : (c.build.run w).result = .ok f) : c.Sound w :=
  (c.faults_eq_nil_iff w).mp ((c.build_reports w).isOk_iff.mp ⟨f, built⟩)

/-- Every entry is made ready where it is visited, and becomes a group of the founder. -/
theorem exists_ready_of_build {c : Composition χ ω ν} {w w' : ω} {entry : Entry χ ω ν}
    {f : Founder χ ω StrategyEvent ν} (built : (c.build.run w).result = .ok f)
    (visited : (entry, w') ∈ c.visits c.entries w) :
    ∃ r, c.Ready w' entry r ∧ r.group ∈ f.groups := by
  obtain ⟨-, resolved, groups, ready⟩ := (c.build_reports_visits w).post_of_ok built
  obtain ⟨r, member, isReady⟩ := exists_of_mem_of_forall₂ ready visited
  exact ⟨r, isReady, groups ▸ List.mem_map_of_mem member⟩

/-- A founder has the name of its composition. -/
theorem colony_of_build {c : Composition χ ω ν} {w : ω} {f : Founder χ ω StrategyEvent ν}
    (built : (c.build.run w).result = .ok f) : f.colony = c.colony :=
  ((c.build_reports w).post_of_ok built).1

/-- A group that is ready has the name of its entry. -/
theorem Ready.marker {c : Composition χ ω ν} {w : ω} {entry : Entry χ ω ν} {r : Resolved χ ω ν}
    (ready : c.Ready w entry r) : r.group.marker = entry.marker := by
  cases entry with
  | explicit plain =>
      obtain rfl : r = { group := plain } := ready
      rfl
  | declared g =>
      obtain ⟨scope, selector, -, -, assembled⟩ := ready
      exact assembled.marker

/-- A founder has the groups of its composition, under their names. -/
theorem markers_of_build {c : Composition χ ω ν} {w : ω} {f : Founder χ ω StrategyEvent ν}
    (built : (c.build.run w).result = .ok f) : f.markers = c.entries.map (·.marker) := by
  obtain ⟨-, resolved, groups, ready⟩ := (c.build_reports w).post_of_ok built
  have named : List.Forall₂ (· = ·) (resolved.map (·.group.marker)) (c.entries.map (·.marker)) := by
    rw [List.forall₂_map_left_iff, List.forall₂_map_right_iff]
    apply ready.flip.imp
    rintro r entry ⟨_, isReady⟩
    exact isReady.marker
  rw [List.forall₂_eq_eq_eq] at named
  rw [Founder.markers, groups, List.map_map]
  exact named

/-- A composition can be built if and only if it is sound, and otherwise building it fails with the
first of its faults.  This holds over every scope, however many types it counts as unlisted, and so
with any room for the visits of its walks. -/
theorem build_result (c : Composition χ ω ν) (w : ω) :
    ((∃ f, (c.build.run w).result = .ok f) ↔ c.Sound w) ∧
      ∀ e, (c.build.run w).result = .error e ↔ (c.faults w).head? = some e :=
  ⟨(c.build_reports w).isOk_iff.trans (c.faults_eq_nil_iff w), (c.build_reports w).error_iff⟩

/-- The scope lists a larva alone and knows the three types above it, which lead to the ant.  With
room for these the larva is selected while building, and so its callback is needed. -/
example :
    let line : List Settler :=
      [{ id := ⟨"Larva"⟩, supertypes := [⟨"Pupa"⟩], producer := some .callback },
        { id := ⟨"Pupa"⟩, supertypes := [⟨"Imago"⟩] },
        { id := ⟨"Imago"⟩, supertypes := [⟨"Worker"⟩] },
        { id := ⟨"Worker"⟩, supertypes := [⟨"Ant"⟩] }]
    let scope : Scope Unit Nat :=
      { settlers := pure (line.take 1)
        settler := fun id => pure (line.find? fun s => s.id == id)
        construct := fun id => Action.fail (.noFactory id)
        unlisted := 3 }
    let hill : Composition Unit Unit Nat :=
      { colony := ⟨"Hill"⟩
        scope := some scope
        entries := [.declared ⟨⟨"brood"⟩, .bySupertype ⟨"Ant"⟩, .construct, .forget⟩]
        produceCallbacks := [(⟨"brood"⟩, .unbound fun id => return .identity id)] }
    (hill.build.run ()).result.toOption.isSome = true := by
  decide +kernel

end Settlement.Composition
