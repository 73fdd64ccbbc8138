import Settlement.Proofs.Action.Triple
import Settlement.Proofs.Composition.Validity
import Settlement.Proofs.Founding.Piecewise
import Settlement.Proofs.Selection.Steadiness

/-!
# What building foresees

A declared group is selected twice: once while building, to find out which strategies its candidates
need, and again whenever it is settled.  The group serves just the modes that the first selection
brought up, besides its own.  So a candidate of the second selection is served if its modes are
among these; and as long as the scope gives the same answers, all are.
-/

namespace Settlement

variable {χ ω η ν α : Type}

/-! ## Failing for want of a strategy -/

/-- That a production failed because the group has no producer of the right mode. -/
def ProductionError.LacksStrategy (e : ProductionError) : Prop :=
  ∃ settler mode, e = .noStrategy settler mode

/-- That an acceptance failed because the group has no acceptor of the right mode. -/
def AcceptanceError.LacksStrategy (e : AcceptanceError) : Prop :=
  ∃ settler mode, e = .noStrategy settler mode

/-- That settling failed because a group has no strategy for a candidate. -/
def SettleError.LacksStrategy : SettleError → Prop
  | .production _ _ cause => cause.LacksStrategy
  | .acceptance _ _ cause => cause.LacksStrategy
  | _ => False

/-- That a scope may fail to construct a settler for some reason. -/
def Scope.MayFail (scope : Scope ω ν) (id : SettlerId) (cause : ProductionError) : Prop :=
  ∃ w, ((scope.construct id).run w).result = .error cause

/-- A registry never wants a strategy. -/
theorem Registry.not_mayFail {φ : Type} (r : Registry φ ν)
    (call : φ → Action ω StrategyEvent String ν) {id : SettlerId} {cause : ProductionError}
    (lacks : cause.LacksStrategy) : ¬(r.scope call).MayFail id cause := by
  have constructs : Ensures (fun _ => True) (r.construct call id) (fun _ => True)
      fun cause => ¬cause.LacksStrategy := by
    unfold Registry.construct
    cases r.bindings[id]? with
    | none =>
        apply Ensures.fail
        rintro ⟨settler, mode, ⟨⟩⟩
    | some b =>
        refine (Ensures.report _).bind fun _ _ => ?_
        cases b with
        | shared instanceOf => exact .pure trivial
        | factory handle =>
            refine Ensures.bind (.mapError (.anyhow ?_)) fun _ _ => .pure trivial
            rintro e ⟨settler, mode, ⟨⟩⟩
  rintro ⟨w, failed⟩
  exact constructs.fails_of_error trivial failed lacks

namespace Composition

variable {c : Composition χ ω ν} {scope : Scope ω ν} {group : Marker}

/-- No producer of a composition wants a strategy itself, though the scope that it constructs with
may say so. -/
theorem produce_ensures {mode : ProductionMode} {p : Producer χ ω StrategyEvent ν}
    (served : c.producer scope group mode = .ok p) (x : Candidate) :
    Ensures (fun _ => True) (p.produce x) (fun _ => True)
      fun cause => cause.LacksStrategy → scope.MayFail x.id cause := by
  unfold producer at served
  cases mode with
  | construct =>
      cases served
      refine (Ensures.report _).bind fun _ _ => ?_
      have constructs : Ensures (fun _ => True)
          ((scope.construct x.id).inWorld : Action (Site χ ω) StrategyEvent _ _) (fun _ => True)
          fun cause => cause.LacksStrategy → scope.MayFail x.id cause :=
        fun site _ => ⟨trivial, fun _ _ => trivial, fun _ failed _ => ⟨site.world, failed⟩⟩
      refine constructs.bind fun value _ => ?_
      split
      case isTrue =>
        apply Ensures.fail
        rintro ⟨settler, mode, ⟨⟩⟩
      case isFalse => exact .pure trivial
  | callback =>
      dsimp only at served
      split at served
      case h_1 call _ =>
        cases served
        refine (Ensures.report _).bind fun _ _ => .mapError (.anyhow ?_)
        rintro e ⟨settler, mode, ⟨⟩⟩
      case h_2 => contradiction
  | identity =>
      cases served
      exact .pure trivial

/-- No acceptor of a composition wants a strategy. -/
theorem accept_ensures {mode : AcceptanceMode} {a : Acceptor χ ω StrategyEvent ν}
    (served : c.acceptor group mode = .ok a) (x : Candidate) (value : Produced ν) :
    Ensures (fun _ => True) (a.accept x value) (fun _ => True)
      fun cause => ¬cause.LacksStrategy := by
  unfold acceptor at served
  cases mode with
  | forget =>
      cases served
      exact .report _
  | callback =>
      dsimp only at served
      split at served
      case h_1 call _ =>
        cases served
        refine (Ensures.report _).bind fun _ _ => .mapError (.anyhow ?_)
        rintro e ⟨settler, mode, ⟨⟩⟩
      case h_2 => contradiction

/-! ## Which candidates are served -/

/-- A group serves a declared group's candidates as the foreseen ones among them ask for: with its
own modes and with theirs, and with no others. -/
structure Serves (group : Group χ ω η ν) (g : GroupDeclaration) (foreseen : List Candidate) :
    Prop where
  ownProducer : group.producer.mode = g.producer
  ownAcceptor : group.acceptor.mode = g.acceptor
  /-- Who has a producer. -/
  produces : ∀ x, (∃ p, group.producerFor x = .ok p) ↔
    x.production g.producer = g.producer ∨
      ∃ y ∈ foreseen, y.production g.producer = x.production g.producer
  /-- Who has an acceptor. -/
  accepts : ∀ x, (∃ a, group.acceptorFor x = .ok a) ↔
    x.acceptance g.acceptor = g.acceptor ∨
      ∃ y ∈ foreseen, y.acceptance g.acceptor = x.acceptance g.acceptor
  producerMode : ∀ x p, group.producerFor x = .ok p → p.mode = x.production g.producer
  acceptorMode : ∀ x a, group.acceptorFor x = .ok a → a.mode = x.acceptance g.acceptor

section

variable {g : GroupDeclaration} {selector : Selector ω StrategyEvent} {foreseen : List Candidate}
  {r : Resolved χ ω ν}

theorem Assembled.serves (assembled : Assembled c scope g selector foreseen r) :
    Serves r.group g foreseen where
  ownProducer := mode_of_producer assembled.producer
  ownAcceptor := mode_of_acceptor assembled.acceptor
  produces := assembled.exists_producerFor_iff
  accepts := assembled.exists_acceptorFor_iff
  producerMode _ _ serving := mode_of_producer (assembled.producer_of_producerFor serving)
  acceptorMode _ _ serving := mode_of_acceptor (assembled.acceptor_of_acceptorFor serving)

/-! ## Settling what was foreseen -/

/-- That a settling fails for want of a strategy only if the scope itself says so.  A scope may fail
to construct a settler with any error, this one among them; it is let through as it is. -/
def BlamesScope (scope : Scope ω ν) (group : Marker) (e : SettleError) : Prop :=
  e.LacksStrategy → ∃ settler cause, scope.MayFail settler cause ∧ e = .production group settler cause

/-- A candidate that was foreseen has its strategies. -/
theorem Assembled.settle_ensures (assembled : Assembled c scope g selector foreseen r)
    {x : Candidate} (member : x ∈ foreseen) :
    Ensures (fun _ => True) (Founder.settle r.group x) (fun _ => True)
      (BlamesScope scope g.marker) := by
  -- Both strategies are there, so only what they do themselves can fail.
  obtain ⟨p, producing⟩ := (assembled.exists_producerFor_iff x).mpr (.inr ⟨x, member, rfl⟩)
  obtain ⟨a, accepting⟩ := (assembled.exists_acceptorFor_iff x).mpr (.inr ⟨x, member, rfl⟩)
  have produces : Ensures (fun _ => True) (Founder.produce r.group x) (fun _ => True)
      (BlamesScope scope g.marker) := by
    unfold Founder.produce
    simp only [producing, Action.ofExcept_ok, pure_bind, assembled.marker]
    apply Ensures.below
    apply Ensures.mapError
    apply (produce_ensures (assembled.producer_of_producerFor producing) x).weaken fun _ _ => trivial
    intro cause blames lacks
    exact ⟨x.id, cause, blames lacks, rfl⟩
  have accepts (value : Produced ν) : Ensures (fun _ => True) (Founder.accept r.group x value)
      (fun _ => True) (BlamesScope scope g.marker) := by
    unfold Founder.accept
    simp only [accepting, Action.ofExcept_ok, pure_bind]
    apply Ensures.below
    apply Ensures.mapError
    apply (accept_ensures (assembled.acceptor_of_acceptorFor accepting) x value).weaken
      fun _ _ => trivial
    intro cause never lacks
    exact absurd lacks never
  exact produces.bind fun value _ => (accepts value).bind fun _ _ => .report _

/-- A group fails for want of a strategy only if the scope says so, provided that it selects what was
foreseen. -/
theorem Assembled.settleGroup_blames {answer : Except DiscoveryError (List Candidate)}
    (assembled : Assembled c scope g selector (answer.toOption.getD []) r)
    {f : Founder χ ω StrategyEvent ν} {site : Site χ ω}
    (selects : ((f.select r.group).run site).result = answer.mapError (.discovery g.marker))
    {e : SettleError} (failed : ((f.settleGroup r.group).run site).result = .error e) :
    BlamesScope scope g.marker e := by
  unfold Founder.settleGroup at failed
  cases answer with
  | error cause =>
      rw [Action.run_bind_of_error selects] at failed
      cases failed
      exact False.elim
  | ok candidates =>
      rw [Action.run_bind_of_ok selects] at failed
      have settles : Ensures (fun _ => True) (forM candidates (Founder.settle r.group))
          (fun _ => True) (BlamesScope scope g.marker) :=
        .forM fun x member => assembled.settle_ensures member
      have rest (start done : FoundingEvent) : Ensures (fun _ => True)
          (do Action.note start; forM candidates (Founder.settle r.group); Action.note done)
          (fun _ => True) (BlamesScope scope g.marker) :=
        (Ensures.report _).bind fun _ _ => settles.bind fun _ _ => .report _
      exact (rest _ _).fails_of_error trivial failed

end

/-! ## Selecting again -/

/-- The visits of building keep what the scope's answers depend on. -/
theorem worldAfter_keeps {inv : ω → Prop} (steady : ∀ scope ∈ c.scope, scope.Steady inv) {w : ω}
    (holds : inv w) (entry : Entry χ ω ν) : inv (c.worldAfter entry w) := by
  cases entry with
  | explicit group => exact holds
  | declared g =>
      cases selected : c.selectorOf g with
      | error e =>
          simp only [worldAfter, selected]
          exact holds
      | ok selector =>
          obtain ⟨scope, hasScope, built⟩ := selectorOf_eq_ok selected
          simp only [worldAfter, selected]
          exact (Selector.determined_select (steady scope hasScope) built _).kept holds

theorem inv_of_mem_visits {inv : ω → Prop} (steady : ∀ scope ∈ c.scope, scope.Steady inv)
    {entries : List (Entry χ ω ν)} {w : ω} (holds : inv w) {visit : Entry χ ω ν × ω}
    (visited : visit ∈ c.visits entries w) : inv visit.2 := by
  induction entries generalizing w with
  | nil => cases visited
  | cons entry rest ih =>
      cases visited with
      | head => exact holds
      | tail _ visited => exact ih (worldAfter_keeps steady holds entry) visited

section

variable {g : GroupDeclaration} {selector : Selector ω StrategyEvent} {foreseen : List Candidate}
  {r : Resolved χ ω ν} {f : Founder χ ω StrategyEvent ν} {w w' : ω}

/-- A group is told the same when it is settled as when it was built. -/
theorem Assembled.context_eq (assembled : Assembled c scope g selector foreseen r)
    (built : (c.build.run w).result = .ok f) : f.context r.group = c.context g := by
  rw [Founder.context, context, colony_of_build built, assembled.marker,
    mode_of_producer assembled.producer]

/-- As long as the scope gives the same answers, a group that is settled selects what it selected
while building, or fails as it did then. -/
theorem Assembled.selects_again (assembled : Assembled c scope g selector foreseen r)
    (built : (c.build.run w).result = .ok f) (hasScope : c.scope = some scope)
    (isBuilt : Selector.ofRule scope g.selector = .ok selector)
    (visited : (.declared g, w') ∈ c.visits c.entries w) {inv : ω → Prop}
    (steady : scope.Steady inv) (holds : inv w) {site : Site χ ω} (holds' : inv site.world) :
    ((f.select r.group).run site).result =
      ((selector.select (c.context g)).run w').result.mapError (.discovery g.marker) := by
  have steadily : ∀ scope ∈ c.scope, scope.Steady inv := by
    rw [hasScope]
    rintro _ ⟨⟩
    exact steady
  have same := (Selector.determined_select steady isBuilt (c.context g)).result_eq holds'
    (inv_of_mem_visits steadily holds visited)
  rw [← same, ← assembled.context_eq built, Founder.select, assembled.selector, assembled.marker]
  rfl

end

/-! ## Foresight -/

/-- What building, begun in a world, foresees of a declared group that becomes one of a founder. -/
structure Foresees (f : Founder χ ω StrategyEvent ν) (w : ω) (scope : Scope ω ν)
    (g : GroupDeclaration) (foreseen : List Candidate) (group : Group χ ω StrategyEvent ν) : Prop
    extends Serves group g foreseen where
  single : f.chosen (some g.marker) = [group]
  /-- Whenever the group is settled while the scope still gives its answers, no candidate wants a
  strategy; an error that says so is one that the scope has failed with in constructing a settler. -/
  steadily : ∀ inv, scope.Steady inv → inv w → ∀ site, inv site.world → ∀ e,
    ((f.settleGroup group).run site).result = .error e → BlamesScope scope g.marker e
  /-- From a registry no candidate ever wants a strategy. -/
  fromRegistry : ∀ (φ : Type) (r : Registry φ ν) (call : φ → Action ω StrategyEvent String ν),
    scope = r.scope call → ∀ site e,
      ((f.settleGroup group).run site).result = .error e → ¬e.LacksStrategy

/-- A group foresees what it selected while building. -/
theorem Assembled.foresees {g : GroupDeclaration} {selector : Selector ω StrategyEvent} {w w' : ω}
    {r : Resolved χ ω ν} {f : Founder χ ω StrategyEvent ν}
    (assembled : Assembled c scope g selector (c.candidates g selector w') r)
    (built : (c.build.run w).result = .ok f) (single : f.chosen (some g.marker) = [r.group])
    (hasScope : c.scope = some scope) (isBuilt : Selector.ofRule scope g.selector = .ok selector)
    (visited : (.declared g, w') ∈ c.visits c.entries w) :
    Foresees f w scope g (c.candidates g selector w') r.group := by
  have steadily (inv : ω → Prop) (steady : scope.Steady inv) (holds : inv w) (site : Site χ ω)
      (holds' : inv site.world) (e : SettleError)
      (failed : ((f.settleGroup r.group).run site).result = .error e) :
      BlamesScope scope g.marker e := by
    have selects :=
      assembled.selects_again built hasScope isBuilt visited steady holds holds'
    exact assembled.settleGroup_blames selects failed
  refine { assembled.serves with single, steadily, fromRegistry := ?_ }
  rintro φ registry call rfl site e failed lacks
  -- A registry gives its answers in every world.
  obtain ⟨settler, cause, mayFail, rfl⟩ :=
    steadily (fun _ => True) (registry.steady_scope call) trivial site trivial e failed lacks
  exact registry.not_mayFail call lacks mayFail

/-- Every declared group becomes one group of the founder, whose candidates are served as those are
that its selector returned while building, whatever the scope answers then and later, and however
many types it counts as unlisted.  As long as it gives the same answers, the group fails for want of
a strategy in one case only: where the scope itself has failed with such an error in constructing a
settler, which is let through.  A registry has no such error, so over one the group never fails in
this way. -/
theorem build_foresees (c : Composition χ ω ν) {w : ω} {f : Founder χ ω StrategyEvent ν}
    (built : (c.build.run w).result = .ok f) {g : GroupDeclaration} {w' : ω}
    (visited : (.declared g, w') ∈ c.visits c.entries w) :
    ∃ scope selector group, c.scope = some scope ∧
      Selector.ofRule scope g.selector = .ok selector ∧ group.selector = selector ∧
      Foresees f w scope g (c.candidates g selector w') group := by
  obtain ⟨r, ⟨scope, selector, hasScope, isBuilt, assembled⟩, single⟩ :=
    exists_chosen_of_build built visited
  exact ⟨scope, selector, r.group, hasScope, isBuilt, assembled.selector,
    assembled.foresees built single hasScope isBuilt visited⟩

/-- A nest of which only the workers are made anew: the queen passes its name on. -/
theorem nest_foresees :
    let registry : Registry Nat Nat := .ofManifest
      { settlers := [{ id := ⟨"Queen"⟩, markers := [⟨"ant"⟩], producer := some .identity },
          { id := ⟨"Worker"⟩, markers := [⟨"ant"⟩] }] }
    let brood : GroupDeclaration := ⟨⟨"brood"⟩, .byMarker ⟨"ant"⟩, .construct, .forget⟩
    let nest : Composition Unit Nat Nat :=
      { colony := ⟨"Nest"⟩
        scope := some (registry.scope fun handle => pure handle)
        entries := [.declared brood] }
    ∃ f, (nest.build.run 0).result = .ok f ∧
      (.declared brood, 0) ∈ nest.visits nest.entries 0 ∧
      ∃ scope selector group, nest.scope = some scope ∧
        Selector.ofRule scope brood.selector = .ok selector ∧ group.selector = selector ∧
        Foresees f 0 scope brood (nest.candidates brood selector 0) group := by
  intro registry brood nest
  have answer : (nest.build.run 0).result.toOption.isSome = true := by decide +kernel
  obtain ⟨f, built⟩ := exists_eq_ok_of_isSome answer
  have visited : (.declared brood, 0) ∈ nest.visits nest.entries 0 := List.mem_cons_self
  exact ⟨f, built, visited, build_foresees nest built visited⟩

end Composition

end Settlement
