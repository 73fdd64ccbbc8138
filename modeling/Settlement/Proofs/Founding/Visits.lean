import Settlement.Proofs.Founding.Account
import Settlement.Proofs.Founding.Plan
import Settlement.Proofs.Registry.Supply

/-!
# Visits of founders

Founders visit colonies, one after the other.  The colonies may be of many types, and each founder
has groups and callbacks of its own; but all of them construct through one registry, which nobody
changes any more.

The book of its factories then accounts for all that is constructed at all visits: every singleton
comes as the shared instance that was bound to it most recently, and every other value is made by a
call of its own.
-/

namespace Settlement

variable {χ ω η φ ν : Type}

/-! ## Constructions of a run -/

namespace Founder

/-- The steps that a founder takes at a site. -/
noncomputable def steps (f : Founder χ ω η ν) (filter : Option Marker) (site : Site χ ω) :
    List (Step χ ω η ν) :=
  (f.enacts_found filter site).choose

theorem performs_steps (f : Founder χ ω η ν) (filter : Option Marker) (site : Site χ ω) :
    Performed f (f.plan filter) site (f.steps filter site) ((f.found filter).run site).state
      ((f.found filter).run site).result := by
  obtain ⟨work, -⟩ := (f.enacts_found filter site).choose_spec
  rw [← f.keepEvents_found filter, Action.run_keepEvents]
  exact work

end Founder

open Classical in
/-- What a step constructs through a scope, if its task is a production that does so. -/
noncomputable def Step.construction? (scope : Scope ω ν) (step : Step χ ω StrategyEvent ν) :
    Option (Construction ν) :=
  match step.task with
  | .select _ => none
  | .accept _ _ _ => none
  | .produce g c =>
      if g.producerFor c = .ok (.construct scope) then
        some ⟨c, (((Producer.construct scope).produce c).run step.site).result⟩
      else none

/-- What a run that takes some steps constructs through a scope. -/
noncomputable def Step.constructions (scope : Scope ω ν) (steps : List (Step χ ω StrategyEvent ν)) :
    List (Construction ν) :=
  steps.filterMap (construction? scope)

/-! ## Supplies -/

/-- That a selector goes by the settlers of a registry and calls no factory. -/
structure Selector.SuppliedBy (selector : Selector ω StrategyEvent) (r : Registry φ ν)
    (book : ω → List (FactoryCall φ ν)) : Prop where
  candidates : ∀ ctx w found, ((selector.select ctx).run w).result = .ok found →
    ∀ c ∈ found, ∃ s ∈ r.settlers, c = s.candidate
  callsNoFactory : ∀ ctx w, book ((selector.select ctx).run w).state = book w

/-- That a group is supplied by a registry: it selects there, and calls factories only by
constructing there. -/
structure Group.SuppliedBy (g : Group χ ω StrategyEvent ν) (r : Registry φ ν)
    (call : φ → Action ω StrategyEvent String ν) (book : ω → List (FactoryCall φ ν)) : Prop where
  selector : g.selector.SuppliedBy r book
  producers : ∀ c p, g.producerFor c = .ok p →
    p = .construct (r.scope call) ∨ (p.produce c).CallsNoFactory book
  acceptors : ∀ c a, g.acceptorFor c = .ok a → ∀ value, (a.accept c value).CallsNoFactory book

/-- That a composition is supplied by a registry: its scope is this registry, and its callbacks call
no factory. -/
structure Composition.SuppliedBy (composition : Composition χ ω ν) (r : Registry φ ν)
    (call : φ → Action ω StrategyEvent String ν) (book : ω → List (FactoryCall φ ν)) : Prop where
  scope : ∀ scope, composition.scope = some scope → scope = r.scope call
  explicit : ∀ g, .explicit g ∈ composition.entries → g.SuppliedBy r call book
  produceCallbacks : ∀ entry ∈ composition.produceCallbacks, ∀ id,
    (entry.2.invoke id).CallsNoFactory book
  acceptCallbacks : ∀ entry ∈ composition.acceptCallbacks, ∀ value,
    (entry.2.invoke value).CallsNoFactory book

/-- That a task is one for a group that is supplied by a registry, and for one of its settlers. -/
def Task.SuppliedBy (r : Registry φ ν) (call : φ → Action ω StrategyEvent String ν)
    (book : ω → List (FactoryCall φ ν)) : Task χ ω StrategyEvent ν → Prop
  | .select g => g.SuppliedBy r call book
  | .produce g c => g.SuppliedBy r call book ∧ ∃ s ∈ r.settlers, c = s.candidate
  | .accept g _ _ => g.SuppliedBy r call book

variable {r : Registry φ ν} {call : φ → Action ω StrategyEvent String ν}
  {book : ω → List (FactoryCall φ ν)} {history : List (Edit φ ν)}

/-- The selectors of all rules are supplied by the registry that they go through. -/
theorem Registry.Indexed.suppliedBy_ofRule (indexed : r.Indexed) {rule : SelectionRule}
    {selector : Selector ω StrategyEvent}
    (built : Selector.ofRule (r.scope call) rule = .ok selector) :
    selector.SuppliedBy r book where
  candidates ctx w found selects c member := by
    obtain ⟨answer, -⟩ := indexed.run_select built ctx w
    rw [answer] at selects
    cases wants : rule.wanted r.settlers with
    | error e => simp [wants, Except.map] at selects
    | ok settlers =>
        simp only [wants, Except.map, Except.ok.injEq] at selects
        subst selects
        obtain ⟨s, isWanted, rfl⟩ := List.mem_map.mp member
        have listed := SelectionRule.mem_of_wanted wants (List.mem_filter.mp isWanted).1
        exact ⟨s, listed, rfl⟩
  callsNoFactory ctx w := congrArg book (indexed.run_select built ctx w).2

namespace Action

variable {ε α : Type}

/-- A report is no call of a factory. -/
theorem CallsNoFactory.report_bind {x : Action (Site χ ω) η ε α} (callsNone : x.CallsNoFactory book)
    (e : η) : (do Action.report e; x : Action (Site χ ω) η ε α).CallsNoFactory book :=
  fun site => callsNone site

theorem CallsNoFactory.mapError {ε' : Type} {x : Action (Site χ ω) η ε α}
    (callsNone : x.CallsNoFactory book) (f : ε → ε') : (x.mapError f).CallsNoFactory book :=
  fun site => callsNone site

end Action

namespace Composition.SuppliedBy

variable {composition : Composition χ ω ν}

theorem mem_of_callbackFor {α : Type} {callbacks : List (Marker × α)} {group : Marker} {call : α}
    (found : callbackFor callbacks group = some call) : ∃ entry ∈ callbacks, entry.2 = call := by
  obtain ⟨entry, search, same⟩ := Option.map_eq_some_iff.mp found
  exact ⟨entry, List.mem_of_find?_eq_some search, same⟩

/-- A producer of a composition constructs through the registry, or calls no factory. -/
theorem producer (supplied : composition.SuppliedBy r call book) {group : Marker}
    {mode : ProductionMode} {p : Producer χ ω StrategyEvent ν}
    (serves : composition.producer (r.scope call) group mode = .ok p) (c : Candidate) :
    p = .construct (r.scope call) ∨ (p.produce c).CallsNoFactory book := by
  cases mode with
  | construct =>
      cases serves
      exact .inl rfl
  | identity =>
      cases serves
      exact .inr fun site => rfl
  | callback =>
      obtain ⟨callback, found, rfl⟩ := exists_callback_of_producer serves
      obtain ⟨entry, member, rfl⟩ := mem_of_callbackFor found
      have callsNone := supplied.produceCallbacks entry member c.id
      exact .inr ((callsNone.mapError _).report_bind _)

theorem acceptor (supplied : composition.SuppliedBy r call book) {group : Marker}
    {mode : AcceptanceMode} {a : Acceptor χ ω StrategyEvent ν}
    (serves : composition.acceptor group mode = .ok a) (c : Candidate) (value : Produced ν) :
    (a.accept c value).CallsNoFactory book := by
  cases mode with
  | forget =>
      cases serves
      exact fun site => rfl
  | callback =>
      obtain ⟨callback, found, rfl⟩ := exists_callback_of_acceptor serves
      obtain ⟨entry, member, rfl⟩ := mem_of_callbackFor found
      have callsNone := supplied.acceptCallbacks entry member value
      exact (callsNone.mapError _).report_bind _

/-- Whatever entry is made ready, its group is supplied. -/
theorem ready (supplied : composition.SuppliedBy r call book) (indexed : r.Indexed) {w : ω}
    {entry : Entry χ ω ν} (declared : entry ∈ composition.entries) {resolved : Resolved χ ω ν}
    (isReady : composition.Ready w entry resolved) : resolved.group.SuppliedBy r call book := by
  cases entry with
  | explicit g =>
      obtain rfl : resolved = { group := g } := isReady
      exact supplied.explicit g declared
  | declared g =>
      obtain ⟨scope, selector, hasScope, built, assembled⟩ := isReady
      obtain rfl := supplied.scope scope hasScope
      constructor
      case selector =>
        rw [assembled.selector]
        exact indexed.suppliedBy_ofRule built
      case producers =>
        intro c p serves
        exact supplied.producer (assembled.producer_of_producerFor serves) c
      case acceptors =>
        intro c a serves value
        exact supplied.acceptor (assembled.acceptor_of_acceptorFor serves) c value

/-- All groups of its founder are supplied. -/
theorem build (supplied : composition.SuppliedBy r call book) (indexed : r.Indexed) {w : ω}
    {f : Founder χ ω StrategyEvent ν} (built : (composition.build.run w).result = .ok f)
    {g : Group χ ω StrategyEvent ν} (member : g ∈ f.groups) : g.SuppliedBy r call book := by
  obtain ⟨-, resolved, groups, ready⟩ := (composition.build_reports w).post_of_ok built
  rw [groups] at member
  obtain ⟨made, isResolved, rfl⟩ := List.mem_map.mp member
  obtain ⟨entry, declared, w', isReady⟩ := exists_of_mem_of_forall₂ ready.flip isResolved
  exact supplied.ready indexed declared isReady

end Composition.SuppliedBy

/-- Whatever is settled from a registry by data alone is supplied by it, if no callback calls a
factory. -/
theorem Charter.suppliedBy_composition (c : Charter χ ω φ ν)
    (produceCallbacks : ∀ entry ∈ c.produceCallbacks, ∀ id,
      (entry.2.invoke id).CallsNoFactory book)
    (acceptCallbacks : ∀ entry ∈ c.acceptCallbacks, ∀ value,
      (entry.2.invoke value).CallsNoFactory book) :
    c.composition.SuppliedBy c.registry c.call book where
  scope scope isScope := (Option.some.inj isScope).symm
  explicit g member := by
    obtain ⟨declaration, -, same⟩ := List.mem_map.mp member
    contradiction
  produceCallbacks := produceCallbacks
  acceptCallbacks := acceptCallbacks

/-! ## Steps and runs -/

section Runs

variable {f : Founder χ ω StrategyEvent ν} {g : Group χ ω StrategyEvent ν} {c : Candidate}

theorem Step.construction?_of_construct {scope : Scope ω ν}
    (serves : g.producerFor c = .ok (.construct scope)) (site : Site χ ω) :
    construction? scope ⟨.produce g c, site⟩ =
      some ⟨c, (((Producer.construct scope).produce c).run site).result⟩ :=
  if_pos serves

theorem Step.construction?_of_ne {scope : Scope ω ν}
    (other : g.producerFor c ≠ .ok (.construct scope)) (site : Site χ ω) :
    construction? scope ⟨.produce g c, site⟩ = none :=
  if_neg other

/-- That a task, done at a site, is accounted for, and that the tasks it calls for are supplied. -/
structure Task.AccountedAt (site : Site χ ω) (r : Registry φ ν)
    (call : φ → Action ω StrategyEvent String ν) (book : ω → List (FactoryCall φ ν))
    (history : List (Edit φ ν)) (f : Founder χ ω StrategyEvent ν) (t : Task χ ω StrategyEvent ν) :
    Prop where
  accounts : Accounts book r.settlers history (Step.construction? (r.scope call) ⟨t, site⟩).toList
    site.world ((t.perform f).run site).state.world
  supplies : ∀ more, ((t.perform f).run site).result = .ok more →
    ∀ t' ∈ more, t'.SuppliedBy r call book

theorem accountedAt_select (supplied : g.SuppliedBy r call book) (site : Site χ ω) :
    Task.AccountedAt site r call book history f (.select g) := by
  constructor
  case accounts =>
    apply Accounts.of_eq
    rw [Task.perform, Action.run_map]
    exact supplied.selector.callsNoFactory (f.context g) site.world
  case supplies =>
    intro more succeeds t member
    obtain ⟨found, selects, rfl⟩ := Action.exists_answer_of_map_mapError succeeds
    obtain ⟨c, isSelected, rfl⟩ := List.mem_map.mp member
    have known := supplied.selector.candidates (f.context g) site.world found selects
    exact ⟨supplied, known c isSelected⟩

theorem accountedAt_produce (supplied : g.SuppliedBy r call book) (consistent : r.Consistent)
    (told : ∀ id, r.entry id = (Story.of history id).entry) (keeps : KeepsBook call book)
    {s : Settler} (known : s ∈ r.settlers) (site : Site χ ω) :
    Task.AccountedAt site r call book history f (.produce g s.candidate) := by
  constructor
  case accounts =>
    cases serves : g.producerFor s.candidate with
    | error cause =>
        rw [Step.construction?_of_ne (by simp [serves]), Task.perform_produce_of_error serves]
        exact .of_eq rfl
    | ok p =>
        rw [Task.perform_produce_of_ok serves, Action.run_map]
        by_cases constructs : p = .construct (r.scope call)
        · subst constructs
          rw [Step.construction?_of_construct serves]
          exact consistent.accounts_construction keeps (told s.id) known site
        · have callsNone := (supplied.producers _ p serves).resolve_left constructs
          rw [Step.construction?_of_ne (by simpa [serves] using constructs)]
          exact .of_eq (callsNone site)
  case supplies =>
    intro more succeeds t member
    cases serves : g.producerFor s.candidate with
    | error cause =>
        rw [Task.perform_produce_of_error serves] at succeeds
        contradiction
    | ok p =>
        rw [Task.perform_produce_of_ok serves] at succeeds
        obtain ⟨value, -, rfl⟩ := Action.exists_answer_of_map_mapError succeeds
        obtain rfl := List.mem_singleton.mp member
        exact supplied

theorem accountedAt_accept (supplied : g.SuppliedBy r call book) (c : Candidate)
    (value : Produced ν) (site : Site χ ω) :
    Task.AccountedAt site r call book history f (.accept g c value) := by
  constructor
  case accounts =>
    apply Accounts.of_eq
    cases serves : g.acceptorFor c with
    | error cause =>
        rw [Task.perform_accept_of_error serves]
        rfl
    | ok a =>
        rw [Task.perform_accept_of_ok serves, Action.run_map]
        exact supplied.acceptors c a serves value site
  case supplies =>
    intro more succeeds t member
    cases serves : g.acceptorFor c with
    | error cause =>
        rw [Task.perform_accept_of_error serves] at succeeds
        contradiction
    | ok a =>
        rw [Task.perform_accept_of_ok serves] at succeeds
        obtain ⟨_, -, rfl⟩ := Action.exists_answer_of_map_mapError succeeds
        contradiction

/-- Whatever task is supplied, doing it is accounted for. -/
theorem Task.SuppliedBy.accountedAt {t : Task χ ω StrategyEvent ν}
    (supplied : t.SuppliedBy r call book) (consistent : r.Consistent)
    (told : ∀ id, r.entry id = (Story.of history id).entry) (keeps : KeepsBook call book)
    (f : Founder χ ω StrategyEvent ν) (site : Site χ ω) :
    t.AccountedAt site r call book history f := by
  cases t with
  | select g => exact accountedAt_select supplied site
  | produce g c =>
      obtain ⟨supplied, s, known, rfl⟩ := supplied
      exact accountedAt_produce supplied consistent told keeps known site
  | accept g c value => exact accountedAt_accept supplied c value site

theorem Step.constructions_cons (scope : Scope ω ν) (step : Step χ ω StrategyEvent ν)
    (steps : List (Step χ ω StrategyEvent ν)) :
    constructions scope (step :: steps) =
      (step.construction? scope).toList ++ constructions scope steps := by
  rw [constructions, List.filterMap_cons]
  cases step.construction? scope <;> rfl

/-- Work on supplied tasks is accounted for. -/
theorem Performed.accounts {agenda : List (Task χ ω StrategyEvent ν)}
    {steps : List (Step χ ω StrategyEvent ν)} {site site' : Site χ ω}
    {result : Except SettleError Unit} (work : Performed f agenda site steps site' result)
    (supplied : ∀ t ∈ agenda, t.SuppliedBy r call book) (consistent : r.Consistent)
    (told : ∀ id, r.entry id = (Story.of history id).entry) (keeps : KeepsBook call book) :
    Accounts book r.settlers history (Step.constructions (r.scope call) steps) site.world
      site'.world := by
  induction work with
  | nil => exact .of_eq rfl
  | @stop t rest site e failed =>
      have first := supplied t List.mem_cons_self
      rw [Step.constructions_cons]
      exact (first.accountedAt consistent told keeps f site).accounts.append (.of_eq rfl)
  | @next t more rest steps site site' result succeeded work ih =>
      have first := supplied t List.mem_cons_self
      have accounted := first.accountedAt consistent told keeps f site
      rw [Step.constructions_cons]
      apply accounted.accounts.append
      apply ih
      intro t' member
      rcases List.mem_append.mp member with member | member
      · exact accounted.supplies more succeeded t' member
      · exact supplied t' (List.mem_cons_of_mem t member)

end Runs

/-! ## Visits -/

/-- A visit of a founder to a colony of its type, for all groups or for one. -/
structure Visit {τ : Type} (χ : τ → Type) (ω ν : Type) where
  type : τ
  founder : Founder (χ type) ω StrategyEvent ν
  colony : χ type
  filter : Option Marker

namespace Visit

variable {τ : Type} {χ : τ → Type}

/-- The place of a visit. -/
def site (v : Visit χ ω ν) (w : ω) : Site (χ v.type) ω :=
  ⟨v.colony, w⟩

/-- The world after a visit. -/
def leaves (v : Visit χ ω ν) (w : ω) : ω :=
  ((v.founder.found v.filter).run (v.site w)).state.world

/-- The world after visits, each of which goes on in the world that the one before it left. -/
def allLeave (visits : List (Visit χ ω ν)) (w : ω) : ω :=
  visits.foldl (fun w v => v.leaves w) w

/-- What is constructed through a scope at visits. -/
noncomputable def constructions (scope : Scope ω ν) : List (Visit χ ω ν) → ω → List (Construction ν)
  | [], _ => []
  | v :: rest, w =>
      Step.constructions scope (v.founder.steps v.filter (v.site w))
        ++ constructions scope rest (v.leaves w)

/-- That the founder of a visit was built from a composition that a registry supplies. -/
def SuppliedBy (v : Visit χ ω ν) (r : Registry φ ν) (call : φ → Action ω StrategyEvent String ν)
    (book : ω → List (FactoryCall φ ν)) : Prop :=
  ∃ (composition : Composition (χ v.type) ω ν) (w : ω), composition.SuppliedBy r call book ∧
    (composition.build.run w).result = .ok v.founder

/-- A visit is accounted for, whether it succeeds or not. -/
theorem SuppliedBy.accounts {v : Visit χ ω ν} (supplied : v.SuppliedBy r call book)
    (consistent : r.Consistent) (told : ∀ id, r.entry id = (Story.of history id).entry)
    (keeps : KeepsBook call book) (w : ω) :
    Accounts book r.settlers history
      (Step.constructions (r.scope call) (v.founder.steps v.filter (v.site w))) w (v.leaves w) := by
  obtain ⟨composition, w', supplied, built⟩ := supplied
  have work := v.founder.performs_steps v.filter (v.site w)
  apply work.accounts _ consistent told keeps
  intro t member
  obtain ⟨g, isChosen, rfl⟩ := List.mem_map.mp member
  exact supplied.build consistent.indexed built (List.mem_filter.mp isChosen).1

/-- Any number of visits is accounted for. -/
theorem accounts_allLeave {visits : List (Visit χ ω ν)}
    (supplied : ∀ v ∈ visits, v.SuppliedBy r call book) (consistent : r.Consistent)
    (told : ∀ id, r.entry id = (Story.of history id).entry) (keeps : KeepsBook call book) (w : ω) :
    Accounts book r.settlers history (constructions (r.scope call) visits w) w
      (allLeave visits w) := by
  induction visits generalizing w with
  | nil => exact .of_eq rfl
  | cons v rest ih =>
      obtain ⟨first, others⟩ := List.forall_mem_cons.mp supplied
      exact (first.accounts consistent told keeps w).append (ih others (v.leaves w))

end Visit

/-! ## What a registry supplies -/

namespace Registry

/-- Whoever is visited, a registry that is not changed any more supplies all visits by its history.
All that is constructed through it is for settlers of the registry and goes by their stories, and
its factories have been called for just those values that a factory has to make, once for each.

Nothing that a rule selects from the registry is ever refused for not being shared.  And whatever
the scope, nothing unshared is handed on for a singleton. -/
theorem supplies_visits (m : Manifest) (edits : List (Edit φ ν))
    (call : φ → Action ω StrategyEvent String ν) :
    let r := (ofManifest m).after edits
    let history := m.settlers.map .declare ++ edits
    (∀ (book : ω → List (FactoryCall φ ν)), KeepsBook call book →
      ∀ {τ : Type} {χ : τ → Type} (visits : List (Visit χ ω ν)) (w : ω),
        (∀ v ∈ visits, v.SuppliedBy r call book) →
        Accounts book r.settlers history (Visit.constructions (r.scope call) visits w) w
          (Visit.allLeave visits w)) ∧
    (∀ rule selector, Selector.ofRule (r.scope call) rule = .ok selector →
      ∀ ctx w found, ((selector.select ctx).run w).result = .ok found → ∀ c ∈ found,
        ∀ {χ : Type} (site : Site χ ω) (id : SettlerId),
          ((r.constructionFor call c).run site).result ≠ .error (.notShared id)) ∧
    ∀ {χ : Type} (scope : Scope ω ν) (c : Candidate) (site : Site χ ω) (value : Produced ν),
      c.singleton = true → (((Producer.construct scope).produce c).run site).result = .ok value →
        value.isShared = true := by
  intro r history
  have consistent : r.Consistent := (consistent_ofManifest m).after edits
  have told (id : SettlerId) : r.entry id = (Story.of history id).entry := by
    rw [← entry_after history id, ← ofManifest_after]
  constructor
  · intro book keeps τ χ visits w supplied
    exact Visit.accounts_allLeave supplied consistent told keeps w
  constructor
  · intro rule selector built ctx w found selects c member χ site id
    have supplied : selector.SuppliedBy r fun _ => ([] : List (FactoryCall φ ν)) :=
      consistent.indexed.suppliedBy_ofRule built
    obtain ⟨s, known, rfl⟩ := supplied.candidates ctx w found selects c member
    exact (consistent.follows_construction (told s.id) known call site).notRefused id
  · intro χ scope c site value singleton produces
    exact Producer.isShared_of_construct scope singleton produces

/-- A nest and a guard post, which have the queen in common and workers of their own.  The world is
the book. -/
theorem supplies_visits_of_nest :
    let edits : List (Edit Nat Nat) :=
      [.registerSingleton { id := ⟨"Queen"⟩, markers := [⟨"ant"⟩] } ⟨0, 7⟩,
        .registerWith { id := ⟨"Worker"⟩, markers := [⟨"ant"⟩] } 1,
        .bindSingleton ⟨"Queen"⟩ ⟨1, 8⟩]
    let registry : Registry Nat Nat := (ofManifest { settlers := [] }).after edits
    let call : Nat → Action (List (FactoryCall Nat Nat)) StrategyEvent String Nat := fun handle =>
      ⟨fun book => ⟨.ok book.length, book ++ [⟨handle, .ok book.length⟩], []⟩⟩
    let nest : Charter Unit (List (FactoryCall Nat Nat)) Nat Nat :=
      { colony := ⟨"Nest"⟩, registry, call
        groups := [⟨⟨"brood"⟩, .byMarker ⟨"ant"⟩, .construct, .forget⟩] }
    let post : Charter Bool (List (FactoryCall Nat Nat)) Nat Nat :=
      { colony := ⟨"Post"⟩, registry, call
        groups := [⟨⟨"guard"⟩, .registered [⟨"Worker"⟩, ⟨"Queen"⟩], .construct, .forget⟩] }
    KeepsBook call id ∧ ∃ f g, (nest.composition.build.run []).result = .ok f ∧
      (post.composition.build.run []).result = .ok g ∧
      let visits : List (Visit (fun isNest : Bool => if isNest then Unit else Bool)
        (List (FactoryCall Nat Nat)) Nat) := [⟨true, f, (), none⟩, ⟨false, g, true, none⟩]
      (∀ v ∈ visits, v.SuppliedBy registry call id) ∧
        Accounts id registry.settlers edits
          (Visit.constructions (registry.scope call) visits []) [] (Visit.allLeave visits []) := by
  intro edits registry call nest post
  have keeps : KeepsBook call id := fun handle book => rfl
  obtain ⟨f, built⟩ := exists_eq_ok_of_isSome
    (show (nest.composition.build.run []).result.toOption.isSome = true by decide +kernel)
  obtain ⟨g, built'⟩ := exists_eq_ok_of_isSome
    (show (post.composition.build.run []).result.toOption.isSome = true by decide +kernel)
  refine ⟨keeps, f, g, built, built', ?_⟩
  intro visits
  have supplied : ∀ v ∈ visits, v.SuppliedBy registry call id := by
    intro v member
    rcases List.mem_pair.mp member with rfl | rfl
    · refine ⟨nest.composition, [], nest.suppliedBy_composition ?_ ?_, built⟩ <;> simp [nest]
    · refine ⟨post.composition, [], post.suppliedBy_composition ?_ ?_, built'⟩ <;> simp [post]
  exact ⟨supplied, (supplies_visits { settlers := [] } edits call).1 id keeps visits [] supplied⟩

end Registry

end Settlement
