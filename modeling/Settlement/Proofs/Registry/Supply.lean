import Settlement.Proofs.Registry.Story
import Settlement.Proofs.Selection.Rule
import Settlement.Strategy

/-!
# Where constructed values come from

A value that is constructed through a registry comes from the story of its settler: the shared
instance that was bound most recently, or a factory, which is called for this value.  A candidate
that was selected from the registry is a singleton just if its settler is, so its construction never
meets a value that it ought to refuse.

How often factories are called shows in a book that is kept in the world.  Every factory enters its
calls, with their answers, and nobody else writes to it.
-/

namespace Settlement

variable {χ ω φ ν : Type}

/-- A call of a factory, and what came of it. -/
structure FactoryCall (φ ν : Type) where
  handle : φ
  answer : Except String ν

/-- That factories enter their calls in a book, behind those that it has already. -/
def KeepsBook (call : φ → Action ω StrategyEvent String ν) (book : ω → List (FactoryCall φ ν)) :
    Prop :=
  ∀ handle w, book ((call handle).run w).state = book w ++ [⟨handle, ((call handle).run w).result⟩]

/-- That an action at a site calls no factory: it leaves the book as it is. -/
def Action.CallsNoFactory {η ε α : Type} (book : ω → List (FactoryCall φ ν))
    (x : Action (Site χ ω) η ε α) : Prop :=
  ∀ site, book (x.run site).state.world = book site.world

/-- A construction for a candidate, and what came of it. -/
structure Construction (ν : Type) where
  candidate : Candidate
  answer : Except ProductionError (Produced ν)

namespace Construction

/-- The story of the settler that something is constructed for. -/
def story (k : Construction ν) (history : List (Edit φ ν)) : Story φ ν :=
  Story.of history k.candidate.id

/-- Whether a factory has to make the value. -/
def isMade (history : List (Edit φ ν)) (k : Construction ν) : Bool :=
  !k.candidate.singleton && (k.story history).factory?.isSome

/-- That a construction made this call of a factory, and hands on just what came of it. -/
structure Makes (history : List (Edit φ ν)) (k : Construction ν) (made : FactoryCall φ ν) :
    Prop where
  factory : (k.story history).factory? = some made.handle
  answer : k.answer = (made.answer.mapError (.construction k.candidate.id)).map .owned

/-- That a construction goes by the story of its settler. -/
structure Follows (history : List (Edit φ ν)) (k : Construction ν) : Prop where
  /-- A singleton has the shared instance that was bound most recently. -/
  shared : k.candidate.singleton = true →
    k.answer = match (k.story history).shared? with
      | some instanceOf => .ok (.shared instanceOf)
      | none => .error (.noFactory k.candidate.id)
  /-- No other settler has a shared instance. -/
  owned : k.candidate.singleton = false → ∀ value, k.answer = .ok value →
    k.isMade history = true ∧ ∃ v, value = .owned v
  /-- No value is refused for not being shared. -/
  notRefused : ∀ id, k.answer ≠ .error (.notShared id)

variable {history : List (Edit φ ν)} {k : Construction ν}

theorem follows_of_noFactory (answer : k.answer = .error (.noFactory k.candidate.id))
    (unshared : (k.story history).shared? = none) : k.Follows history where
  shared _ := by rw [answer, unshared]
  owned _ value produced := by cases answer.symm.trans produced
  notRefused id refused := by cases answer.symm.trans refused

theorem follows_of_shared {instanceOf : Shared ν} (answer : k.answer = .ok (.shared instanceOf))
    (singleton : k.candidate.singleton = true)
    (recent : (k.story history).shared? = some instanceOf) : k.Follows history where
  shared _ := by rw [answer, recent]
  owned plain := by
    rw [singleton] at plain
    contradiction
  notRefused id refused := by cases answer.symm.trans refused

theorem Makes.follows {made : FactoryCall φ ν} (makes : k.Makes history made)
    (isMade : k.isMade history = true) : k.Follows history := by
  have plain : k.candidate.singleton = false := by simpa using (Bool.and_eq_true_iff.mp isMade).1
  have answer := makes.answer
  constructor
  case shared =>
    intro singleton
    rw [plain] at singleton
    contradiction
  case owned =>
    intro _ value produced
    cases outcome : made.answer with
    | error cause =>
        rw [outcome] at answer
        cases answer.symm.trans produced
    | ok v =>
        rw [outcome] at answer
        cases answer.symm.trans produced
        exact ⟨isMade, v, rfl⟩
  case notRefused =>
    intro id refused
    cases outcome : made.answer with
    | error cause =>
        rw [outcome] at answer
        cases answer.symm.trans refused
    | ok v =>
        rw [outcome] at answer
        cases answer.symm.trans refused

end Construction

/-- That a book accounts for some constructions, which were all for settlers of a registry with some
history: it has gained one call of a factory for each construction that a factory has to make, in
the order of the constructions, and no others. -/
structure Accounts (book : ω → List (FactoryCall φ ν)) (settlers : List Settler)
    (history : List (Edit φ ν)) (constructions : List (Construction ν)) (w w' : ω) : Prop where
  selected : ∀ k ∈ constructions, ∃ s ∈ settlers, k.candidate = s.candidate
  follows : ∀ k ∈ constructions, k.Follows history
  calls : ∃ calls, book w' = book w ++ calls ∧
    List.Forall₂ (Construction.Makes history) (constructions.filter (·.isMade history)) calls

namespace Accounts

variable {book : ω → List (FactoryCall φ ν)} {settlers : List Settler}
  {history : List (Edit φ ν)} {constructions more : List (Construction ν)} {w w' w'' : ω}

theorem of_eq (same : book w' = book w) : Accounts book settlers history [] w w' where
  selected k member := by cases member
  follows k member := by cases member
  calls := ⟨[], by rw [same, List.append_nil], .nil⟩

theorem append (first : Accounts book settlers history constructions w w')
    (second : Accounts book settlers history more w' w'') :
    Accounts book settlers history (constructions ++ more) w w'' := by
  constructor
  case selected =>
    intro k member
    rcases List.mem_append.mp member with member | member
    · exact first.selected k member
    · exact second.selected k member
  case follows =>
    intro k member
    rcases List.mem_append.mp member with member | member
    · exact first.follows k member
    · exact second.follows k member
  case calls =>
    obtain ⟨calls, gained, made⟩ := first.calls
    obtain ⟨calls', gained', made'⟩ := second.calls
    refine ⟨calls ++ calls', ?_, ?_⟩
    · rw [gained', gained, List.append_assoc]
    · rw [List.filter_append]
      exact List.rel_append made made'

/-- A construction that no factory has to make leaves the book as it is. -/
theorem of_not_isMade {k : Construction ν} (selected : ∃ s ∈ settlers, k.candidate = s.candidate)
    (follows : k.Follows history) (unmade : k.isMade history = false) (same : book w' = book w) :
    Accounts book settlers history [k] w w' where
  selected := List.forall_mem_singleton.mpr selected
  follows := List.forall_mem_singleton.mpr follows
  calls := by
    refine ⟨[], by rw [same, List.append_nil], ?_⟩
    rw [List.filter_cons_of_neg (by simp [unmade]), List.filter_nil]
    exact .nil

/-- A construction that a factory has to make enters one call. -/
theorem of_makes {k : Construction ν} {made : FactoryCall φ ν}
    (selected : ∃ s ∈ settlers, k.candidate = s.candidate) (follows : k.Follows history)
    (isMade : k.isMade history = true) (makes : k.Makes history made)
    (gained : book w' = book w ++ [made]) : Accounts book settlers history [k] w w' where
  selected := List.forall_mem_singleton.mpr selected
  follows := List.forall_mem_singleton.mpr follows
  calls := by
    refine ⟨[made], gained, ?_⟩
    rw [List.filter_cons_of_pos isMade, List.filter_nil]
    exact .cons makes .nil

end Accounts

/-- Whatever a scope constructs, nothing but a shared instance is handed on for a singleton. -/
theorem Producer.isShared_of_construct (scope : Scope ω ν) {c : Candidate}
    (singleton : c.singleton = true) {site : Site χ ω} {value : Produced ν}
    (produces : (((Producer.construct scope : Producer χ ω StrategyEvent ν).produce c).run
      site).result = .ok value) : value.isShared = true := by
  unfold Producer.construct at produces
  cases made : ((scope.construct c.id).run site.world).result with
  | error cause => simp [Action.andThen, made] at produces
  | ok other =>
      cases isShared : other.isShared with
      | false => simp [Action.andThen, made, singleton, isShared] at produces
      | true =>
          simp only [Action.andThen, Action.run_bind, Action.run_report, Action.run_inWorld, made,
            singleton, isShared, Bool.not_true, Bool.and_false, Bool.false_eq_true, if_false,
            Action.run_pure, Except.ok.injEq] at produces
          exact produces ▸ isShared

namespace Registry

/-- What is bound to an identity is told by its story: a shared instance, or else a factory. -/
theorem story_of_bindings {r : Registry φ ν} {id : SettlerId} {story : Story φ ν}
    (told : r.entry id = story.entry) :
    (∀ instanceOf, r.bindings[id]? = some (.shared instanceOf) →
      story.shared? = some instanceOf) ∧
    (∀ handle, r.bindings[id]? = some (.factory handle) →
      story.shared? = none ∧ story.factory? = some handle) ∧
    (r.bindings[id]? = none → story.shared? = none ∧ story.factory? = none) := by
  have binding : r.bindings[id]? =
      (story.shared?.map .shared).or (story.factory?.map .factory) := congrArg Entry.binding told
  rw [binding]
  cases story.shared? with
  | none => cases story.factory? <;> simp
  | some instanceOf => simp

variable {r : Registry φ ν}

/-- What is constructed through a registry for a candidate. -/
def constructionFor (r : Registry φ ν) (call : φ → Action ω StrategyEvent String ν)
    (c : Candidate) : Action (Site χ ω) StrategyEvent ProductionError (Produced ν) :=
  (Producer.construct (r.scope call)).produce c

theorem run_constructionFor_of_none (call : φ → Action ω StrategyEvent String ν) (c : Candidate)
    (unbound : r.bindings[c.id]? = none) (site : Site χ ω) :
    let outcome := (r.constructionFor call c).run site
    outcome.result = .error (.noFactory c.id) ∧ outcome.state = site := by
  simp [constructionFor, Producer.construct, scope, construct, unbound]

theorem run_constructionFor_of_shared (call : φ → Action ω StrategyEvent String ν) (c : Candidate)
    {instanceOf : Shared ν} (bound : r.bindings[c.id]? = some (.shared instanceOf))
    (site : Site χ ω) :
    let outcome := (r.constructionFor call c).run site
    outcome.result = .ok (.shared instanceOf) ∧ outcome.state = site := by
  simp [constructionFor, Producer.construct, scope, construct, bound, Except.map,
    Produced.isShared]

/-- A factory is called once, and its value is handed on if the candidate is no singleton. -/
theorem run_constructionFor_of_factory (call : φ → Action ω StrategyEvent String ν) (c : Candidate)
    {handle : φ} (bound : r.bindings[c.id]? = some (.factory handle))
    (plain : c.singleton = false) (site : Site χ ω) :
    let outcome := (r.constructionFor call c).run site
    let made := (call handle).run site.world
    outcome.result = (made.result.mapError (.construction c.id)).map .owned ∧
      outcome.state = ⟨site.colony, made.state⟩ := by
  cases answer : ((call handle).run site.world).result with
  | error cause =>
      simp [constructionFor, Producer.construct, scope, construct, bound, answer, Except.map]
  | ok value =>
      simp [constructionFor, Producer.construct, scope, construct, bound, answer, Except.map,
        plain]

/-- A construction for a settler of the registry leaves the world alone, or calls the factory of the
settler once. -/
theorem Consistent.follows_or_makes (consistent : r.Consistent) {history : List (Edit φ ν)}
    {s : Settler} (told : r.entry s.id = (Story.of history s.id).entry) (known : s ∈ r.settlers)
    (call : φ → Action ω StrategyEvent String ν) (site : Site χ ω) :
    let outcome := (r.constructionFor call s.candidate).run site
    let k : Construction ν := ⟨s.candidate, outcome.result⟩
    (k.Follows history ∧ k.isMade history = false ∧ outcome.state = site) ∨
      ∃ handle, k.isMade history = true ∧
        k.Makes history ⟨handle, ((call handle).run site.world).result⟩ ∧
        outcome.state.world = ((call handle).run site.world).state := by
  intro outcome k
  have declared : r.settler? s.id = some s :=
    consistent.indexed.settler?_eq_some_iff.mpr ⟨known, rfl⟩
  obtain ⟨sharedOf, factoryOf, noneOf⟩ := story_of_bindings told
  cases bound : r.bindings[s.id]? with
  | none =>
      obtain ⟨answer, state⟩ := run_constructionFor_of_none call s.candidate bound site
      obtain ⟨unshared, unmade⟩ := noneOf bound
      refine .inl ⟨Construction.follows_of_noFactory answer unshared, ?_, state⟩
      simp [k, Construction.isMade, Construction.story, Settler.candidate, unmade]
  | some b =>
      obtain ⟨t, found, flag⟩ := consistent.bound s.id b bound
      obtain rfl : s = t := Option.some.inj (declared.symm.trans found)
      cases b with
      | shared instanceOf =>
          obtain ⟨answer, state⟩ :=
            run_constructionFor_of_shared call s.candidate bound site
          have singleton : s.candidate.singleton = true := flag
          have follows : k.Follows history :=
            Construction.follows_of_shared answer singleton (sharedOf instanceOf bound)
          refine .inl ⟨follows, ?_, state⟩
          simp [k, Construction.isMade, singleton]
      | factory handle =>
          have plain : s.candidate.singleton = false := flag
          obtain ⟨answer, state⟩ :=
            run_constructionFor_of_factory call s.candidate bound plain site
          obtain ⟨-, accepted⟩ := factoryOf handle bound
          refine .inr ⟨handle, ?_, ⟨accepted, answer⟩, congrArg Site.world state⟩
          simp [k, Construction.isMade, Construction.story, Settler.candidate, accepted, flag,
            Binding.isShared]

/-- A construction for a settler of the registry goes by the story of the settler. -/
theorem Consistent.follows_construction (consistent : r.Consistent) {history : List (Edit φ ν)}
    {s : Settler} (told : r.entry s.id = (Story.of history s.id).entry) (known : s ∈ r.settlers)
    (call : φ → Action ω StrategyEvent String ν) (site : Site χ ω) :
    Construction.Follows history
      ⟨s.candidate, ((r.constructionFor call s.candidate).run site).result⟩ := by
  rcases consistent.follows_or_makes told known call site with ⟨follows, -⟩ | ⟨_, isMade, makes, -⟩
  · exact follows
  · exact makes.follows isMade

/-- A construction for a settler of the registry is accounted for. -/
theorem Consistent.accounts_construction (consistent : r.Consistent)
    {call : φ → Action ω StrategyEvent String ν} {history : List (Edit φ ν)}
    {book : ω → List (FactoryCall φ ν)} (keeps : KeepsBook call book) {s : Settler}
    (told : r.entry s.id = (Story.of history s.id).entry) (known : s ∈ r.settlers)
    (site : Site χ ω) :
    let outcome := (r.constructionFor call s.candidate).run site
    Accounts book r.settlers history [⟨s.candidate, outcome.result⟩] site.world
      outcome.state.world := by
  intro outcome
  have selected : ∃ t ∈ r.settlers, s.candidate = t.candidate := ⟨s, known, rfl⟩
  rcases consistent.follows_or_makes told known call site with
    ⟨follows, unmade, state⟩ | ⟨handle, isMade, makes, state⟩
  · exact .of_not_isMade selected follows unmade (congrArg (fun site => book site.world) state)
  · apply Accounts.of_makes selected (makes.follows isMade) isMade makes
    rw [← keeps handle site.world]
    exact congrArg book state

end Registry

end Settlement
