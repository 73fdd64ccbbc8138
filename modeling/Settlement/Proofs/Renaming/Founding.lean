import Mathlib.Logic.Equiv.Basic
import Settlement.Proofs.Founding.Plan
import Settlement.Proofs.Renaming.Groups

/-!
# Renamed runs

A founder with new names takes the steps of the founder with the old ones, under the new names: what
one step does, the step in its place does too, and then both have the same left to do.  So both make
the same calls in the same order, and both end in the same way.

Nothing of what is decided on the way goes by what the names are.
-/

namespace Settlement

open Settlement.Action (Mirrors)

variable {χ ω φ ν : Type}

namespace Renaming

variable (ρ : Renaming)

/-! ## Steps -/

/-- That a call is another one with new names, of a strategy that does the same. -/
inductive RenamesCall : Call χ ω StrategyEvent ν → Call χ ω StrategyEvent ν → Prop
  | select {selector selector' : Selector ω StrategyEvent} (ctx : SelectionContext) :
      ρ.Selects selector selector' →
      RenamesCall (.select selector ctx) (.select selector' (ρ.context ctx))
  | produce {p p' : Producer χ ω StrategyEvent ν} (group : Marker) (c : Candidate) :
      ρ.Makes p p' → RenamesCall (.produce group p c) (.produce (ρ.marker group) p' (ρ.candidate c))
  | accept {a a' : Acceptor χ ω StrategyEvent ν} (group : Marker) (c : Candidate)
      (value : Produced ν) :
      ρ.HandsOn a a' → RenamesCall (.accept group a c value)
        (.accept (ρ.marker group) a' (ρ.candidate c) (ρ.produced value))

/-- That a task is another one with new names. -/
inductive RenamesTask : Task χ ω StrategyEvent ν → Task χ ω StrategyEvent ν → Prop
  | select {g g' : Group χ ω StrategyEvent ν} :
      ρ.RenamesGroup g g' → RenamesTask (.select g) (.select g')
  | produce {g g' : Group χ ω StrategyEvent ν} (c : Candidate) :
      ρ.RenamesGroup g g' → RenamesTask (.produce g c) (.produce g' (ρ.candidate c))
  | accept {g g' : Group χ ω StrategyEvent ν} (c : Candidate) (value : Produced ν) :
      ρ.RenamesGroup g g' →
      RenamesTask (.accept g c value) (.accept g' (ρ.candidate c) (ρ.produced value))

/-- That a task, done at a site, ends as another does, and leaves the same to do. -/
structure EndsAlike (f f' : Founder χ ω StrategyEvent ν) (t t' : Task χ ω StrategyEvent ν)
    (site : Site χ ω) : Prop where
  state : ((t'.perform f').run site).state = ((t.perform f).run site).state
  fails : ∀ e, ((t.perform f).run site).result = .error e →
    ((t'.perform f').run site).result = .error (ρ.settling e)
  goesOn : ∀ more, ((t.perform f).run site).result = .ok more →
    ∃ more', ((t'.perform f').run site).result = .ok more' ∧
      List.Forall₂ ρ.RenamesTask more more'

variable {ρ} {f f' : Founder χ ω StrategyEvent ν} {t t' : Task χ ω StrategyEvent ν}

/-- Tasks end alike if one does what the other does and then puts it with new names. -/
theorem endsAlike_of_mirrors {ε α β : Type} {x : Action (Site χ ω) StrategyEvent ε α}
    {y : Action (Site χ ω) StrategyEvent ε β} {failure : ε → ε} {answer : α → β}
    (mirrors : Mirrors x y failure answer) {locate locate' : ε → SettleError}
    {follow : α → List (Task χ ω StrategyEvent ν)} {follow' : β → List (Task χ ω StrategyEvent ν)}
    (does : t.perform f = follow <$> x.mapError locate)
    (does' : t'.perform f' = follow' <$> y.mapError locate')
    (located : ∀ e, locate' (failure e) = ρ.settling (locate e))
    (renamed : ∀ a, List.Forall₂ ρ.RenamesTask (follow a) (follow' (answer a)))
    (site : Site χ ω) : ρ.EndsAlike f f' t t' site := by
  obtain ⟨result, state⟩ := mirrors site
  constructor
  case state =>
    rw [does, does', Action.run_map, Action.run_map]
    exact state
  case fails =>
    intro e failed
    rw [does, Action.run_map, Action.run_mapError] at failed
    rw [does', Action.run_map, Action.run_mapError, result]
    cases answered : (x.run site).result with
    | error cause =>
        rw [answered] at failed
        cases failed
        exact congrArg Except.error (located cause)
    | ok a =>
        rw [answered] at failed
        contradiction
  case goesOn =>
    intro more succeeded
    rw [does, Action.run_map, Action.run_mapError] at succeeded
    rw [does', Action.run_map, Action.run_mapError, result]
    cases answered : (x.run site).result with
    | error cause =>
        rw [answered] at succeeded
        contradiction
    | ok a =>
        rw [answered] at succeeded
        cases succeeded
        exact ⟨follow' (answer a), rfl, renamed a⟩

/-- Tasks that only fail end alike if they fail alike. -/
theorem endsAlike_of_fail {e : SettleError} (does : t.perform f = Action.fail e)
    (does' : t'.perform f' = Action.fail (ρ.settling e)) (site : Site χ ω) :
    ρ.EndsAlike f f' t t' site := by
  constructor
  case state =>
    rw [does, does']
    rfl
  case fails =>
    intro e' failed
    rw [does] at failed
    cases failed
    rw [does']
    rfl
  case goesOn =>
    intro more succeeded
    rw [does] at succeeded
    contradiction

variable {g g' : Group χ ω StrategyEvent ν}

theorem endsAlike_select (renames : ρ.RenamesGroup g g') (site : Site χ ω) :
    ρ.EndsAlike f f' (.select g) (.select g') site := by
  have selects := renames.selector (f.context g) (f'.context g') renames.mode
  apply endsAlike_of_mirrors selects.inWorld rfl rfl
  · intro cause
    rw [renames.marker]
    rfl
  · intro found
    rw [List.forall₂_map_left_iff, List.forall₂_map_right_iff, List.forall₂_map_right_iff]
    exact List.forall₂_same.mpr fun c _ => .produce c renames

theorem endsAlike_produce (renames : ρ.RenamesGroup g g') (c : Candidate) (site : Site χ ω) :
    ρ.EndsAlike f f' (.produce g c) (.produce g' (ρ.candidate c)) site := by
  cases serves : g.producerFor c with
  | error cause =>
      apply endsAlike_of_fail (Task.perform_produce_of_error serves f)
      rw [Task.perform_produce_of_error (renames.noProducers c cause serves), renames.marker]
      rfl
  | ok p =>
      obtain ⟨p', serves', makes⟩ := renames.producers c p serves
      apply endsAlike_of_mirrors (makes.produce c) (Task.perform_produce_of_ok serves f)
        (Task.perform_produce_of_ok serves' f')
      · intro cause
        rw [renames.marker]
        rfl
      · intro value
        exact .cons (.accept c value renames) .nil

theorem endsAlike_accept (renames : ρ.RenamesGroup g g') (c : Candidate) (value : Produced ν)
    (site : Site χ ω) :
    ρ.EndsAlike f f' (.accept g c value) (.accept g' (ρ.candidate c) (ρ.produced value)) site := by
  cases serves : g.acceptorFor c with
  | error cause =>
      apply endsAlike_of_fail (Task.perform_accept_of_error serves f)
      rw [Task.perform_accept_of_error (renames.noAcceptors c cause serves), renames.marker]
      rfl
  | ok a =>
      obtain ⟨a', serves', handsOn⟩ := renames.acceptors c a serves
      apply endsAlike_of_mirrors (handsOn.accept c value) (Task.perform_accept_of_ok serves f)
        (Task.perform_accept_of_ok serves' f')
      · intro cause
        rw [renames.marker]
        rfl
      · intro _
        exact .nil

/-- Whatever is to be done, it ends alike under the new names. -/
theorem RenamesTask.endsAlike (renamed : ρ.RenamesTask t t') (site : Site χ ω) :
    ρ.EndsAlike f f' t t' site := by
  cases renamed with
  | select renames => exact endsAlike_select renames site
  | produce c renames => exact endsAlike_produce renames c site
  | accept c value renames => exact endsAlike_accept renames c value site

/-- A renamed task makes the renamed call, or none if the task makes none. -/
theorem RenamesTask.calls (renamed : ρ.RenamesTask t t') (colony : f'.colony = ρ.colony f.colony) :
    List.Forall₂ ρ.RenamesCall (t.call? f).toList (t'.call? f').toList := by
  cases renamed with
  | @select g g' renames =>
      have told : f'.context g' = ρ.context (f.context g) := by
        simp only [Founder.context, context, colony, renames.marker, renames.mode]
      rw [Task.call?, Task.call?, told]
      exact .cons (.select _ renames.selector) .nil
  | @produce g g' c renames =>
      rw [Task.call?, Task.call?]
      cases serves : g.producerFor c with
      | error cause =>
          rw [renames.noProducers c cause serves]
          exact .nil
      | ok p =>
          obtain ⟨p', serves', makes⟩ := renames.producers c p serves
          rw [serves', renames.marker]
          exact .cons (.produce _ c makes) .nil
  | @accept g g' c value renames =>
      rw [Task.call?, Task.call?]
      cases serves : g.acceptorFor c with
      | error cause =>
          rw [renames.noAcceptors c cause serves]
          exact .nil
      | ok a =>
          obtain ⟨a', serves', handsOn⟩ := renames.acceptors c a serves
          rw [serves', renames.marker]
          exact .cons (.accept _ c value handsOn) .nil

/-! ## Runs -/

variable (ρ) in
/-- That a step does a renamed task, at the same site. -/
structure RenamesStep (step step' : Step χ ω StrategyEvent ν) : Prop where
  task : ρ.RenamesTask step.task step'.task
  site : step'.site = step.site

/-- Work on renamed tasks takes the renamed steps, and ends in the renamed way. -/
theorem performed_renamed {agenda agenda' : List (Task χ ω StrategyEvent ν)}
    {steps : List (Step χ ω StrategyEvent ν)} {site site' : Site χ ω}
    {result : Except SettleError Unit} (work : Performed f agenda site steps site' result)
    (renamed : List.Forall₂ ρ.RenamesTask agenda agenda') :
    ∃ steps', List.Forall₂ ρ.RenamesStep steps steps' ∧
      Performed f' agenda' site steps' site' (result.mapError ρ.settling) := by
  induction work generalizing agenda' with
  | nil =>
      cases renamed
      exact ⟨[], .nil, .nil⟩
  | @stop t rest site e failed =>
      obtain ⟨t', rest', first, others, rfl⟩ := List.forall₂_cons_left_iff.mp renamed
      have ends : ρ.EndsAlike f f' t t' site := first.endsAlike site
      have work' : Performed f' (t' :: rest') site [⟨t', site⟩] _ _ := .stop (ends.fails e failed)
      exact ⟨[⟨t', site⟩], .cons ⟨first, rfl⟩ .nil, ends.state ▸ work'⟩
  | @next t more rest steps site site' result succeeded _ ih =>
      obtain ⟨t', rest', first, others, rfl⟩ := List.forall₂_cons_left_iff.mp renamed
      have ends : ρ.EndsAlike f f' t t' site := first.endsAlike site
      obtain ⟨more', succeeded', called⟩ := ends.goesOn more succeeded
      obtain ⟨steps', taken, work'⟩ := ih (List.rel_append called others)
      rw [Step.run, ← ends.state] at work'
      exact ⟨⟨t', site⟩ :: steps', .cons ⟨first, rfl⟩ taken, .next succeeded' work'⟩

theorem calls_renamed {steps steps' : List (Step χ ω StrategyEvent ν)}
    (renamed : List.Forall₂ ρ.RenamesStep steps steps') (colony : f'.colony = ρ.colony f.colony) :
    List.Forall₂ ρ.RenamesCall (steps.filterMap (Step.call? f))
      (steps'.filterMap (Step.call? f')) := by
  induction renamed with
  | nil => exact .nil
  | cons first _ ih =>
      rw [Step.filterMap_call?_cons, Step.filterMap_call?_cons]
      exact List.rel_append (first.task.calls colony) ih

/-- A renamed filter lets the renamed groups pass. -/
theorem RenamesFounder.plan (renames : ρ.RenamesFounder f f') (filter : Option Marker) :
    List.Forall₂ ρ.RenamesTask (f.plan filter) (f'.plan (filter.map ρ.marker)) := by
  rw [f.plan_eq, f'.plan_eq, List.forall₂_map_left_iff, List.forall₂_map_right_iff]
  have passing : List.Forall₂ ρ.RenamesGroup (f.chosen filter)
      (f'.chosen (filter.map ρ.marker)) := by
    apply List.rel_filter _ renames.groups
    intro g g' renamed
    cases filter with
    | none => rfl
    | some m =>
        simp only [Option.map_some, Option.all_some, renamed.marker, beq_iff_eq, ρ.marker_inj]
  exact passing.imp fun g g' renamed => .select renamed

variable (ρ) in
/-- That a founder does what another does, under the new names. -/
structure GoesAlike (f f' : Founder χ ω StrategyEvent ν) : Prop where
  /-- The groups have the same candidates, in the same order. -/
  candidates : List.Forall₂ (fun g g' => g'.marker = ρ.marker g.marker ∧ ∀ w,
    ((g'.selector.select (f'.context g')).run w).result =
      (((g.selector.select (f.context g)).run w).result.map (List.map ρ.candidate)).mapError
        ρ.discovery) f.groups f'.groups
  /-- Every run makes the same calls, in the same order. -/
  calls : ∀ filter site, List.Forall₂ ρ.RenamesCall (f.calls filter site)
    (f'.calls (filter.map ρ.marker) site)
  /-- Every run ends in the same way. -/
  result : ∀ filter site, ((f'.found (filter.map ρ.marker)).run site).result =
    ((f.found filter).run site).result.mapError ρ.settling
  state : ∀ filter site, ((f'.found (filter.map ρ.marker)).run site).state =
    ((f.found filter).run site).state

theorem RenamesFounder.goesAlike (renames : ρ.RenamesFounder f f') : ρ.GoesAlike f f' := by
  have run (filter : Option Marker) (site : Site χ ω) :
      List.Forall₂ ρ.RenamesCall (f.calls filter site) (f'.calls (filter.map ρ.marker) site) ∧
        ((f'.found (filter.map ρ.marker)).run site).state = ((f.found filter).run site).state ∧
        ((f'.found (filter.map ρ.marker)).run site).result =
          ((f.found filter).run site).result.mapError ρ.settling := by
    obtain ⟨steps, calls, work⟩ := f.exists_steps filter site
    obtain ⟨steps', calls', work'⟩ := f'.exists_steps (filter.map ρ.marker) site
    obtain ⟨taken, renamed, work⟩ := performed_renamed work (renames.plan filter)
    obtain ⟨rfl, state, result⟩ := work'.unique work
    rw [calls, calls']
    exact ⟨calls_renamed renamed renames.colony, state, result⟩
  constructor
  case candidates =>
    apply renames.groups.imp
    intro g g' renamed
    have selects := renamed.selector (f.context g) (f'.context g') renamed.mode
    exact ⟨renamed.marker, fun w => (selects w).1⟩
  case calls => exact fun filter site => (run filter site).1
  case state => exact fun filter site => (run filter site).2.1
  case result => exact fun filter site => (run filter site).2.2

/-! ## Names are opaque -/

variable (ρ) in
/-- That a composition is built as another is, and that what is built does the same, under the new
names. -/
structure BuildsAlike (c c' : Composition χ ω ν) (w : ω) : Prop where
  succeeds : (∃ f', (c'.build.run w).result = .ok f') ↔ ∃ f, (c.build.run w).result = .ok f
  fails : ∀ e, (c.build.run w).result = .error e → ∃ e', (c'.build.run w).result = .error e' ∧
    e'.withoutText = (ρ.composition e).withoutText
  goesAlike : ∀ f f', (c.build.run w).result = .ok f → (c'.build.run w).result = .ok f' →
    ρ.GoesAlike f f'

theorem Composes.buildsAlike {r r' : Registry φ ν} {call : φ → Action ω StrategyEvent String ν}
    {c c' : Composition χ ω ν} (composes : ρ.Composes r r' call c c') (renames : ρ.Renames r r')
    (indexed : r.Indexed) (indexed' : r'.Indexed) (w : ω) : ρ.BuildsAlike c c' w where
  succeeds := (composes.build renames indexed indexed' w).1
  fails := (composes.build renames indexed indexed' w).2
  goesAlike _ _ built built' :=
    (composes.renamesFounder renames indexed indexed' built built').goesAlike

/-- That a founder does just what another does, whatever their colony types are called. -/
structure DoesTheSame (f f' : Founder χ ω StrategyEvent ν) : Prop where
  candidates : List.Forall₂ (fun g g' => g'.marker = g.marker ∧ ∀ w,
    ((g'.selector.select (f'.context g')).run w).result =
      ((g.selector.select (f.context g)).run w).result) f.groups f'.groups
  result : ∀ filter site, ((f'.found filter).run site).result = ((f.found filter).run site).result
  state : ∀ filter site, ((f'.found filter).run site).state = ((f.found filter).run site).state

/-- No error of a run names the colony. -/
theorem settling_ofColonies (rename : ColonyId → ColonyId) {f : Founder χ ω StrategyEvent ν}
    {filter : Option Marker} {site : Site χ ω} {e : SettleError}
    (failed : ((f.found filter).run site).result = .error e) :
    (ofColonies rename).settling e = e := by
  obtain ⟨group, located⟩ := Founder.exists_group_of_found failed
  cases e with
  | composition cause => contradiction
  | discovery group cause =>
      rw [settling, discovery_ofColonies]
      rfl
  | production group id cause =>
      rw [settling, production_ofColonies]
      rfl
  | acceptance group id cause =>
      rw [settling, acceptance_ofColonies]
      rfl

theorem GoesAlike.doesTheSame {rename : ColonyId → ColonyId}
    (alike : (ofColonies rename).GoesAlike f f') : DoesTheSame f f' := by
  constructor
  case candidates =>
    apply alike.candidates.imp
    rintro g g' ⟨marker, selects⟩
    refine ⟨marker, fun w => ?_⟩
    rw [selects, candidate_ofColonies, discovery_ofColonies]
    cases ((g.selector.select (f.context g)).run w).result with
    | error e => rfl
    | ok found => exact congrArg Except.ok (List.map_id' found)
  case result =>
    intro filter site
    have result := alike.result filter site
    rw [map_marker_ofColonies] at result
    rw [result]
    cases ended : ((f.found filter).run site).result with
    | ok done => rfl
    | error e => exact congrArg Except.error (settling_ofColonies rename ended)
  case state =>
    intro filter site
    have state := alike.state filter site
    rwa [map_marker_ofColonies] at state

/-- Names are opaque.  Whatever history a registry has, and whatever declared groups and callbacks
are composed there: if all is named anew, then building succeeds just if it did before, and else
fails with the same error; and if it succeeds, all groups have the same candidates, and for every
filter the same strategies are called in the same order and lead to the same end, all under the new
names.

Another name for the colony type shows in nothing but the errors of building, and in what selectors
are told. -/
theorem only_names_differ (ρ : Renaming) (m : Manifest) (edits : List (Edit φ ν))
    (call : φ → Action ω StrategyEvent String ν) :
    let r := (Registry.ofManifest m).after edits
    let r' := (Registry.ofManifest (ρ.manifest m)).after (edits.map ρ.edit)
    ρ.Renames r r' ∧ ∀ c c' : Composition χ ω ν, ρ.Composes r r' call c c' → ∀ w,
      ρ.BuildsAlike c c' w ∧ ∀ rename : ColonyId → ColonyId,
        let elsewhere : Composition χ ω ν := { c with colony := rename c.colony }
        (ofColonies rename).BuildsAlike c elsewhere w ∧
          ∀ f f', (c.build.run w).result = .ok f → (elsewhere.build.run w).result = .ok f' →
            DoesTheSame f f' := by
  intro r r'
  have renames : ρ.Renames r r' := renames_history m edits
  have indexed : r.Indexed := ((Registry.consistent_ofManifest m).after edits).indexed
  have indexed' : r'.Indexed :=
    ((Registry.consistent_ofManifest (ρ.manifest m)).after (edits.map ρ.edit)).indexed
  refine ⟨renames, ?_⟩
  intro c c' composes w
  constructor
  · exact composes.buildsAlike renames indexed indexed' w
  · intro rename elsewhere
    have alike : (ofColonies rename).BuildsAlike c elsewhere w :=
      (composes.ofColonies rename).buildsAlike (renames_ofColonies rename r) indexed indexed w
    exact ⟨alike, fun f f' built built' => (alike.goesAlike f f' built built').doesTheSame⟩

/-- A nest whose queen and worker change names, and so do its two markers. -/
theorem only_names_differ_for_nest :
    let ρ : Renaming :=
      { id := Equiv.swap ⟨"Queen"⟩ ⟨"Worker"⟩
        marker := Equiv.swap ⟨"ant"⟩ ⟨"brood"⟩
        colony := fun _ => ⟨"Hive"⟩
        id_injective := Equiv.injective _
        marker_injective := Equiv.injective _ }
    let edits : List (Edit Nat Nat) :=
      [.registerSingleton { id := ⟨"Queen"⟩, markers := [⟨"ant"⟩] } ⟨0, 7⟩,
        .registerWith { id := ⟨"Worker"⟩, markers := [⟨"ant"⟩], supertypes := [⟨"Queen"⟩] } 1]
    let registry : Registry Nat Nat := (Registry.ofManifest { settlers := [] }).after edits
    let renamed : Registry Nat Nat :=
      (Registry.ofManifest { settlers := [] }).after (edits.map ρ.edit)
    let call : Nat → Action Nat StrategyEvent String Nat := fun handle =>
      ⟨fun made => ⟨.ok handle, made + 1, []⟩⟩
    let groups : List GroupDeclaration :=
      [⟨⟨"brood"⟩, .byMarker ⟨"ant"⟩, .construct, .forget⟩,
        ⟨⟨"guard"⟩, .bySupertype ⟨"Queen"⟩, .callback, .callback⟩]
    let produce : ProduceCallback Nat Nat StrategyEvent Nat :=
      .bound fun id => do
        Action.update fun site => ⟨site.colony + 1, site.world⟩
        return .identity id
    let accept : AcceptCallback Nat Nat StrategyEvent Nat :=
      .unbound fun _ => return ()
    let nest : Composition Nat Nat Nat :=
      { colony := ⟨"Nest"⟩, scope := some (registry.scope call), entries := groups.map .declared
        produceCallbacks := [(⟨"guard"⟩, produce)], acceptCallbacks := [(⟨"guard"⟩, accept)] }
    let hive : Composition Nat Nat Nat :=
      { colony := ⟨"Hive"⟩, scope := some (renamed.scope call)
        entries := (groups.map ρ.group).map .declared
        produceCallbacks := [(⟨"guard"⟩, produce)], acceptCallbacks := [(⟨"guard"⟩, accept)] }
    ρ.Composes registry renamed call nest hive ∧ ρ.BuildsAlike nest hive 0 ∧
      ∃ f f', (nest.build.run 0).result = .ok f ∧ (hive.build.run 0).result = .ok f' ∧
        ρ.GoesAlike f f' := by
  intro ρ edits registry renamed call groups produce accept nest hive
  have composes : ρ.Composes registry renamed call nest hive := by
    constructor
    case colony => rfl
    case scope => exact .inr ⟨rfl, rfl⟩
    case entries =>
      refine ⟨groups, rfl, rfl, ?_⟩
      intro g member
      rcases List.mem_pair.mp member with rfl | rfl <;> trivial
    case produceCallbacks => exact .cons ⟨by decide, fun id site => ⟨rfl, rfl⟩⟩ .nil
    case acceptCallbacks => exact .cons ⟨by decide, fun value site => ⟨rfl, rfl⟩⟩ .nil
  have alike : ρ.BuildsAlike nest hive 0 :=
    ((only_names_differ ρ { settlers := [] } edits call).2 nest hive composes 0).1
  obtain ⟨f, built⟩ := exists_eq_ok_of_isSome
    (show (nest.build.run 0).result.toOption.isSome = true by decide +kernel)
  obtain ⟨f', built'⟩ := alike.succeeds.mpr ⟨f, built⟩
  exact ⟨composes, alike, f, f', built, built', alike.goesAlike f f' built built'⟩

end Renaming

end Settlement
