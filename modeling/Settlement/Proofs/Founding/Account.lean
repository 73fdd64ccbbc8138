import Settlement.Proofs.Action.Events
import Settlement.Proofs.Composition.Validity
import Settlement.Proofs.Lists
import Settlement.Proofs.Selection.Rule

/-!
# Settling from a registry

When all groups of a composition are declared, and their scope is a registry, there is a plain
account of what its founder does: go through the groups and the settlers that each of them chooses,
and treat every settler as it asks or else as the group says.  Nothing is resolved beforehand in
this account: there are no selectors, no strategies, no alternatives.

Every registry that edits lead to bears it out.
-/

namespace Settlement

/-- All that colonies are settled by: a registry and a way to call its factories, groups given as
data, and callbacks. -/
structure Charter (χ ω φ ν : Type) where
  colony : ColonyId
  registry : Registry φ ν
  call : φ → Action ω StrategyEvent String ν
  groups : List GroupDeclaration
  produceCallbacks : List (Marker × ProduceCallback χ ω StrategyEvent ν) := []
  acceptCallbacks : List (Marker × AcceptCallback χ ω StrategyEvent ν) := []

namespace Charter

variable {χ ω φ ν : Type}

/-- The scope of the registry. -/
def scope (c : Charter χ ω φ ν) : Scope ω ν :=
  c.registry.scope c.call

/-- The composition of the groups, with the registry as their scope. -/
def composition (c : Charter χ ω φ ν) : Composition χ ω ν where
  colony := c.colony
  scope := some c.scope
  entries := c.groups.map .declared
  produceCallbacks := c.produceCallbacks
  acceptCallbacks := c.acceptCallbacks

/-! ## The account -/

/-- The settlers that a group chooses, or why it cannot choose. -/
noncomputable def chosen (c : Charter χ ω φ ν) (g : GroupDeclaration) :
    Except DiscoveryError (List Settler) :=
  (g.selector.wanted c.registry.settlers).map (List.filter (·.isAdmitted g.producer))

/-- The value that the registry has for an identity: a shared instance, or one that a factory makes
anew. -/
def constructed (c : Charter χ ω φ ν) (id : SettlerId) :
    Action ω Empty ProductionError (Produced ν) :=
  match c.registry.bindings[id]? with
  | none => Action.fail (.noFactory id)
  | some (.shared instanceOf) => return .shared instanceOf
  | some (.factory handle) =>
      return .owned (← (c.call handle).silently.mapError (.construction id))

/-- The value of a settler in a group.  A callback that nobody has registered would be `standIn`. -/
def produced (c : Charter χ ω φ ν) (standIn : ProduceCallback χ ω StrategyEvent ν)
    (g : GroupDeclaration) (s : Settler) : Action (Site χ ω) Empty ProductionError (Produced ν) :=
  match s.producer.getD g.producer with
  | .construct => (c.constructed s.id).inWorld
  | .callback =>
      (((c.produceCallbacks.lookup g.marker).getD standIn).invoke s.id).silently.mapError
        (.callback s.id)
  | .identity => return .identity s.id

/-- What becomes of the value of a settler in a group.  A callback that nobody has registered would
be `standIn`. -/
def accepted (c : Charter χ ω φ ν) (standIn : AcceptCallback χ ω StrategyEvent ν)
    (g : GroupDeclaration) (s : Settler) (value : Produced ν) :
    Action (Site χ ω) Empty AcceptanceError Unit :=
  match s.acceptor.getD g.acceptor with
  | .callback =>
      (((c.acceptCallbacks.lookup g.marker).getD standIn).invoke value).silently.mapError
        (.callback s.id)
  | .forget => return

variable (standIn : ProduceCallback χ ω StrategyEvent ν)
  (standIn' : AcceptCallback χ ω StrategyEvent ν)

/-- The settling of one settler in a group. -/
def settled (c : Charter χ ω φ ν) (g : GroupDeclaration) (s : Settler) :
    Action (Site χ ω) Empty SettleError Unit := do
  let value ← (c.produced standIn g s).mapError (.production g.marker s.id)
  (c.accepted standIn' g s value).mapError (.acceptance g.marker s.id)

/-- The settling of all settlers that a group chooses. -/
noncomputable def settledGroup (c : Charter χ ω φ ν) (g : GroupDeclaration) :
    Action (Site χ ω) Empty SettleError Unit := do
  let settlers ← Action.ofExcept ((c.chosen g).mapError (.discovery g.marker))
  forM settlers (c.settled standIn standIn' g)

/-- The settling of a colony. -/
noncomputable def account (c : Charter χ ω φ ν) : Action (Site χ ω) Empty SettleError Unit :=
  forM c.groups (c.settledGroup standIn standIn')

/-! ## Strategies at a registry -/

theorem callbackFor_eq_lookup {α : Type} (callbacks : List (Marker × α)) (group : Marker) :
    Composition.callbackFor callbacks group = callbacks.lookup group := by
  unfold Composition.callbackFor
  induction callbacks with
  | nil => rfl
  | cons entry rest ih =>
      rw [List.find?_cons, List.lookup_cons, BEq.comm, ← ih]
      cases group == entry.1 <;> rfl

/-- Unwatched, a registry constructs what it has for an identity. -/
theorem silently_registry_construct (c : Charter χ ω φ ν) (id : SettlerId) :
    (c.registry.construct c.call id).silently = c.constructed id := by
  unfold Registry.construct constructed
  cases c.registry.bindings[id]? with
  | none => rfl
  | some b =>
      simp only [Action.silently_bind, Action.silently_report, pure_bind]
      cases b with
      | shared instanceOf => rfl
      | factory handle => exact Action.silently_bind _ _

/-- For a settler of its own a registry never has an unshared value if the settler is a singleton,
so construction goes through with whatever the registry has. -/
theorem silently_construct {c : Charter χ ω φ ν} (consistent : c.registry.Consistent) {s : Settler}
    (known : s ∈ c.registry.settlers) :
    ((Producer.construct c.scope : Producer χ ω StrategyEvent ν).produce s.candidate).silently =
      (c.constructed s.id).inWorld := by
  have declared : c.registry.settler? s.id = some s :=
    consistent.indexed.settler?_eq_some_iff.mpr ⟨known, rfl⟩
  have bound := consistent.bound s.id
  have guarded : ((Producer.construct c.scope : Producer χ ω StrategyEvent ν).produce
      s.candidate).silently = (do
        let value ← (c.constructed s.id).inWorld
        if s.singleton && !value.isShared then Action.fail (.notShared s.id)
        else return value) := by
    rw [← silently_registry_construct]
    simp only [Producer.construct, Action.silently_bind, Action.silently_report, pure_bind]
    congr 1
    funext value
    exact apply_ite Action.silently _ _ _
  rw [guarded]
  ext site
  unfold constructed
  cases binding : c.registry.bindings[s.id]? with
  | none => rfl
  | some b =>
      obtain ⟨t, found, agrees⟩ := bound b binding
      obtain rfl : s = t := Option.some.inj (declared.symm.trans found)
      cases b with
      | shared instanceOf => simp [Produced.isShared]
      | factory handle =>
          have plain : s.singleton = false := agrees
          simp [plain]

/-- The producer that serves a settler makes the value of the account. -/
theorem silently_produce {c : Charter χ ω φ ν} (consistent : c.registry.Consistent)
    {g : GroupDeclaration} {s : Settler} (known : s ∈ c.registry.settlers)
    {p : Producer χ ω StrategyEvent ν}
    (serves : c.composition.producer c.scope g.marker (s.candidate.production g.producer) = .ok p) :
    (p.produce s.candidate).silently = c.produced standIn g s := by
  have registered := callbackFor_eq_lookup c.produceCallbacks g.marker
  unfold produced
  change c.composition.producer c.scope g.marker (s.producer.getD g.producer) = _ at serves
  cases mode : s.producer.getD g.producer with
  | construct =>
      rw [mode] at serves
      cases serves
      exact silently_construct consistent known
  | callback =>
      rw [mode] at serves
      unfold Composition.producer at serves
      cases found : c.produceCallbacks.lookup g.marker with
      | none => simp [composition, registered, found] at serves
      | some call =>
          simp only [composition, registered, found, Except.ok.injEq] at serves
          subst serves
          simp only [Producer.callback, Action.silently_bind, Action.silently_report, pure_bind]
          rfl
  | identity =>
      rw [mode] at serves
      cases serves
      rfl

/-- The acceptor that serves a settler treats its value as the account does. -/
theorem silently_accept {c : Charter χ ω φ ν} {g : GroupDeclaration} {s : Settler}
    {a : Acceptor χ ω StrategyEvent ν}
    (serves : c.composition.acceptor g.marker (s.candidate.acceptance g.acceptor) = .ok a)
    (value : Produced ν) :
    (a.accept s.candidate value).silently = c.accepted standIn' g s value := by
  have registered := callbackFor_eq_lookup c.acceptCallbacks g.marker
  unfold accepted
  change c.composition.acceptor g.marker (s.acceptor.getD g.acceptor) = _ at serves
  cases mode : s.acceptor.getD g.acceptor with
  | forget =>
      rw [mode] at serves
      cases serves
      rfl
  | callback =>
      rw [mode] at serves
      unfold Composition.acceptor at serves
      cases found : c.acceptCallbacks.lookup g.marker with
      | none => simp [composition, registered, found] at serves
      | some call =>
          simp only [composition, registered, found, Except.ok.injEq] at serves
          subst serves
          simp only [Acceptor.callback, Action.silently_bind, Action.silently_report, pure_bind]
          rfl

/-! ## The founder at a registry -/

/-- A selection for a group returns the candidates of the settlers that the group chooses, and has
no effect. -/
theorem run_select {c : Charter χ ω φ ν} (indexed : c.registry.Indexed) {g : GroupDeclaration}
    {selector : Selector ω StrategyEvent}
    (built : Selector.ofRule c.scope g.selector = .ok selector) (ctx : SelectionContext)
    (production : ctx.production = g.producer) (w : ω) :
    ((selector.select ctx).run w).result = (c.chosen g).map (List.map (·.candidate)) ∧
      ((selector.select ctx).run w).state = w := by
  obtain ⟨result, state⟩ := indexed.run_select built ctx w
  refine ⟨?_, state⟩
  rw [result, chosen]
  unfold Selector.admitted
  rw [production]
  cases g.selector.wanted c.registry.settlers <;> rfl

/-- Groups choose only what is there. -/
theorem mem_of_chosen {c : Charter χ ω φ ν} {g : GroupDeclaration} {settlers : List Settler}
    (chooses : c.chosen g = .ok settlers) {s : Settler} (member : s ∈ settlers) :
    s ∈ c.registry.settlers := by
  unfold chosen at chooses
  cases wants : g.selector.wanted c.registry.settlers with
  | error e => simp [wants, Except.map] at chooses
  | ok found =>
      simp only [wants, Except.map, Except.ok.injEq] at chooses
      subst chooses
      exact SelectionRule.mem_of_wanted wants (List.mem_filter.mp member).1

/-- A candidate is settled as the account says. -/
theorem silently_settle {c : Charter χ ω φ ν} (consistent : c.registry.Consistent)
    {g : GroupDeclaration} {selector : Selector ω StrategyEvent} {candidates : List Candidate}
    {r : Composition.Resolved χ ω ν}
    (ready : c.composition.Assembled c.scope g selector candidates r) {s : Settler}
    (known : s ∈ c.registry.settlers) (foreseen : s.candidate ∈ candidates) :
    (Founder.settle r.group s.candidate).silently = c.settled standIn standIn' g s := by
  obtain ⟨p, serving⟩ := (ready.exists_producerFor_iff s.candidate).mpr (.inr ⟨_, foreseen, rfl⟩)
  obtain ⟨a, accepting⟩ := (ready.exists_acceptorFor_iff s.candidate).mpr (.inr ⟨_, foreseen, rfl⟩)
  have produces := silently_produce standIn consistent known (ready.producer_of_producerFor serving)
  have accepts := silently_accept standIn' (ready.acceptor_of_acceptorFor accepting)
  unfold Founder.settle Founder.produce Founder.accept settled
  rw [ready.marker]
  simp only [serving, accepting, Action.ofExcept_ok, pure_bind, Action.silently_bind,
    Action.silently_below, Action.silently_mapError, Action.silently_note, produces, accepts]
  congr 1
  funext value
  exact bind_pure _

/-- A group is settled as the account says. -/
theorem silently_settleGroup {c : Charter χ ω φ ν} (consistent : c.registry.Consistent)
    {g : GroupDeclaration} {w : ω} {r : Composition.Resolved χ ω ν}
    (ready : c.composition.Ready w (.declared g) r) (f : Founder χ ω StrategyEvent ν) :
    (f.settleGroup r.group).silently = c.settledGroup standIn standIn' g := by
  obtain ⟨_, selector, ⟨⟩, built, assembled⟩ := ready
  have building := run_select consistent.indexed built (c.composition.context g) rfl w
  have mode := Composition.mode_of_producer assembled.producer
  have selects : (selector.select (f.context r.group)).silently =
      Action.ofExcept ((c.chosen g).map (List.map (·.candidate))) := by
    apply Action.silently_eq_ofExcept
    exact run_select consistent.indexed built (f.context r.group) mode
  unfold Founder.settleGroup Founder.select settledGroup
  rw [assembled.selector, assembled.marker]
  simp only [List.forM_eq_forM, Action.silently_bind, Action.silently_below,
    Action.silently_mapError, Action.silently_inWorld, Action.silently_forM,
    Action.silently_note, selects, Action.inWorld_ofExcept, Action.mapError_ofExcept, pure_bind]
  cases chooses : c.chosen g with
  | error e => rfl
  | ok settlers =>
      have foreseen (s : Settler) (member : s ∈ settlers) :
          s.candidate ∈ c.composition.candidates g selector w := by
        rw [Composition.candidates, building.1, chooses]
        exact List.mem_map_of_mem member
      have each : List.Forall₂
          (fun s s' => (Founder.settle r.group s.candidate).silently =
            c.settled standIn standIn' g s') settlers settlers := by
        rw [List.forall₂_same]
        intro s member
        exact silently_settle standIn standIn' consistent assembled (mem_of_chosen chooses member)
          (foreseen s member)
      simp only [Except.map, Action.mapError_ok, Action.ofExcept_ok, pure_bind, List.forM_map]
      rw [forM_eq_of_forall₂ each]
      exact bind_pure _

theorem silently_found (f : Founder χ ω StrategyEvent ν) :
    (f.found none).silently = forM f.groups fun g => (f.settleGroup g).silently := by
  unfold Founder.found
  simp only [Founder.chosen_none, Option.isSome_none, Bool.and_false, Bool.false_eq_true, if_false,
    List.forM_eq_forM, Action.silently_bind, Action.silently_note, Action.silently_thenAlways,
    Action.silently_forM, Action.silently_pure, pure_bind]
  exact bind_pure _

/-- A founder that is built over a registry settles colonies as the account says: at every site,
with the same result and the same effects on the colony and on the world, in which factories and
callbacks may leave a trace of every call.  No callback is wanting. -/
theorem found_eq_account (c : Charter χ ω φ ν) (reachable : c.registry.Reachable) {w : ω}
    {f : Founder χ ω StrategyEvent ν} (built : (c.composition.build.run w).result = .ok f)
    (standIn : ProduceCallback χ ω StrategyEvent ν)
    (standIn' : AcceptCallback χ ω StrategyEvent ν) (site : Site χ ω) :
    ((f.found none).run site).result = ((c.account standIn standIn').run site).result ∧
      ((f.found none).run site).state = ((c.account standIn standIn').run site).state := by
  obtain ⟨-, resolved, groups, ready⟩ := (c.composition.build_reports w).post_of_ok built
  have same : (f.found none).silently = c.account standIn standIn' := by
    rw [silently_found, groups, List.forM_map]
    apply forM_eq_of_forall₂
    apply List.Forall₂.flip
    apply (List.forall₂_map_left_iff.mp ready).imp
    rintro g r ⟨v, isReady⟩
    exact silently_settleGroup standIn standIn' reachable.consistent isReady f
  rw [← same]
  exact ⟨rfl, rfl⟩

/-- A nest with a queen that is shared, workers that are made anew, and a scout that only passes its
name on. -/
theorem nest_found_eq_account :
    let edits : List (Edit Nat Nat) :=
      [.registerSingleton { id := ⟨"Queen"⟩, markers := [⟨"ant"⟩] } ⟨0, 7⟩,
        .registerWith { id := ⟨"Worker"⟩, markers := [⟨"ant"⟩], supertypes := [⟨"Ant"⟩] } 1,
        .declare { id := ⟨"Scout"⟩, supertypes := [⟨"Worker"⟩], producer := some .identity }]
    let registry : Registry Nat Nat := (Registry.ofManifest { settlers := [] }).after edits
    let nest : Charter (List Bool) Nat Nat Nat :=
      { colony := ⟨"Nest"⟩
        registry
        call := fun handle => do Action.update (· + handle); Action.read
        groups := [⟨⟨"brood"⟩, .byMarker ⟨"ant"⟩, .construct, .callback⟩,
          ⟨⟨"patrol"⟩, .bySupertype ⟨"Ant"⟩, .callback, .forget⟩]
        produceCallbacks := [(⟨"patrol"⟩, .unbound fun id => return .identity id)]
        acceptCallbacks := [(⟨"brood"⟩, .bound fun value =>
          (Action.update (value.isShared :: ·)).inColony)] }
    registry.Reachable ∧ ∃ f, (nest.composition.build.run 0).result = .ok f ∧
      ∀ standIn standIn' site,
        ((f.found none).run site).result = ((nest.account standIn standIn').run site).result ∧
          ((f.found none).run site).state = ((nest.account standIn standIn').run site).state := by
  intro edits registry nest
  have reachable : registry.Reachable := ⟨{ settlers := [] }, edits, rfl⟩
  have isBuilt : ∃ f, (nest.composition.build.run 0).result = .ok f := by
    have answer : (nest.composition.build.run 0).result.toOption.isSome = true := by decide +kernel
    generalize (nest.composition.build.run 0).result = result at answer ⊢
    cases result with
    | error e => contradiction
    | ok f => exact ⟨f, rfl⟩
  obtain ⟨f, built⟩ := isBuilt
  exact ⟨reachable, f, built, found_eq_account nest reachable built⟩

end Charter

end Settlement
