import Settlement.Composition
import Settlement.Proofs.Action.Fault
import Settlement.Proofs.Founding.Alternatives

/-!
# Resolving declared groups

Making a declared group ready takes two steps.  The selection of its candidates is the only one that
looks at the world.  What follows, the assembly, is determined by the modes that the candidates ask
for: it gets one strategy for the group's own mode of each kind and one for each other mode, and it
fails only for want of a callback.
-/

namespace Settlement

namespace GroupDeclaration

/-- Whether the own mode of a declared group calls a callback of a kind. -/
def Calls (g : GroupDeclaration) : CallbackKind → Prop
  | .produce => g.producer = .callback
  | .accept => g.acceptor = .callback

/-- Whether the mode of some candidate in a declared group calls a callback of a kind. -/
def IsAskedToCall (g : GroupDeclaration) (candidates : List Candidate) : CallbackKind → Prop
  | .produce => ∃ c ∈ candidates, c.production g.producer = .callback
  | .accept => ∃ c ∈ candidates, c.acceptance g.acceptor = .callback

/-- Whether a declared group needs a callback of a kind, by its own mode or by that of one of its
candidates. -/
def Needs (g : GroupDeclaration) (candidates : List Candidate) (kind : CallbackKind) : Prop :=
  g.Calls kind ∨ g.IsAskedToCall candidates kind

instance (g : GroupDeclaration) : (kind : CallbackKind) → Decidable (g.Calls kind)
  | .produce => inferInstanceAs (Decidable (g.producer = .callback))
  | .accept => inferInstanceAs (Decidable (g.acceptor = .callback))

instance (g : GroupDeclaration) (candidates : List Candidate) :
    (kind : CallbackKind) → Decidable (g.IsAskedToCall candidates kind)
  | .produce => inferInstanceAs (Decidable (∃ c ∈ candidates, c.production g.producer = .callback))
  | .accept => inferInstanceAs (Decidable (∃ c ∈ candidates, c.acceptance g.acceptor = .callback))

instance (g : GroupDeclaration) (candidates : List Candidate) (kind : CallbackKind) :
    Decidable (g.Needs candidates kind) :=
  inferInstanceAs (Decidable (_ ∨ _))

end GroupDeclaration

namespace Composition

variable {χ ω ν α : Type}

/-- The groups that have a callback of a kind. -/
def registered (c : Composition χ ω ν) : CallbackKind → List Marker
  | .produce => c.produceCallbacks.map (·.1)
  | .accept => c.acceptCallbacks.map (·.1)

/-- The error of a group that has no callback of a kind although it needs one. -/
def missing (c : Composition χ ω ν) (group : Marker) (kind : CallbackKind) (isNeeded : Prop)
    [Decidable isNeeded] : List CompositionError :=
  if isNeeded ∧ group ∉ c.registered kind then [.missingCallback c.colony group kind] else []

/-- Whether a group that is ready calls a callback of a kind. -/
def Resolved.calls (r : Resolved χ ω ν) : CallbackKind → Bool
  | .produce => r.callsProduce
  | .accept => r.callsAccept

/-- What the selector of a declared group is told while building. -/
def context (c : Composition χ ω ν) (g : GroupDeclaration) : SelectionContext :=
  { colony := c.colony, group := g.marker, production := g.producer }

/-- The candidates that a selector returns while building: none if it fails. -/
def candidates (c : Composition χ ω ν) (g : GroupDeclaration)
    (selector : Selector ω StrategyEvent) (w : ω) : List Candidate :=
  ((selector.select (c.context g)).run w).result.toOption.getD []

/-! ## Modes that candidates ask for -/

@[simp]
theorem productions_map_producer (id : SettlerId) (modes : List ProductionMode) :
    (modes.map (Override.producer id)).filterMap Override.production? = modes := by
  rw [List.filterMap_map]
  exact List.filterMap_some

@[simp]
theorem productions_map_acceptor (id : SettlerId) (modes : List AcceptanceMode) :
    (modes.map (Override.acceptor id)).filterMap Override.production? = [] := by
  rw [List.filterMap_map]
  exact List.filterMap_none _

@[simp]
theorem acceptances_map_producer (id : SettlerId) (modes : List ProductionMode) :
    (modes.map (Override.producer id)).filterMap Override.acceptance? = [] := by
  rw [List.filterMap_map]
  exact List.filterMap_none _

@[simp]
theorem acceptances_map_acceptor (id : SettlerId) (modes : List AcceptanceMode) :
    (modes.map (Override.acceptor id)).filterMap Override.acceptance? = modes := by
  rw [List.filterMap_map]
  exact List.filterMap_some

/-- A mode is new once: when it is asked for and not served yet. -/
theorem new_or_later {mode asked : α} {served : List α} {later : Prop} [DecidableEq α] :
    (mode ∈ (if asked ∈ served then [] else [asked]) ∨
        mode ∉ served ++ (if asked ∈ served then [] else [asked]) ∧ later) ↔
      mode ∉ served ∧ (asked = mode ∨ later) := by
  by_cases known : asked ∈ served
  · by_cases same : asked = mode
    · subst same
      simp [known]
    · simp [known, same]
  · by_cases same : asked = mode
    · subst same
      simp [known]
    · simp [known, same, Ne.symm same]

/-- The production modes that are served besides those given: all others that candidates ask for. -/
theorem mem_productions_overrides (g : GroupDeclaration) (producers : List ProductionMode)
    (acceptors : List AcceptanceMode) (candidates : List Candidate) (mode : ProductionMode) :
    mode ∈ (overrides g producers acceptors candidates).filterMap Override.production? ↔
      mode ∉ producers ∧ ∃ c ∈ candidates, c.production g.producer = mode := by
  induction candidates generalizing producers acceptors with
  | nil => simp [overrides]
  | cons c rest ih =>
      simp only [overrides, List.filterMap_append, List.mem_append, ih, productions_map_producer,
        productions_map_acceptor, List.not_mem_nil, or_false, List.contains_iff_mem,
        List.exists_mem_cons_iff, ← new_or_later]

/-- The acceptance modes that are served besides those given: all others that candidates ask for. -/
theorem mem_acceptances_overrides (g : GroupDeclaration) (producers : List ProductionMode)
    (acceptors : List AcceptanceMode) (candidates : List Candidate) (mode : AcceptanceMode) :
    mode ∈ (overrides g producers acceptors candidates).filterMap Override.acceptance? ↔
      mode ∉ acceptors ∧ ∃ c ∈ candidates, c.acceptance g.acceptor = mode := by
  induction candidates generalizing producers acceptors with
  | nil => simp [overrides]
  | cons c rest ih =>
      simp only [overrides, List.filterMap_append, List.mem_append, ih, acceptances_map_producer,
        acceptances_map_acceptor, List.not_mem_nil, false_or, List.contains_iff_mem,
        List.exists_mem_cons_iff, ← new_or_later]

/-! ## Assembling a group -/

theorem callbackFor_isSome_iff (callbacks : List (Marker × α)) (group : Marker) :
    (callbackFor callbacks group).isSome = true ↔ group ∈ callbacks.map (·.1) := by
  simp only [callbackFor, Option.isSome_map, List.find?_isSome, List.mem_map, beq_iff_eq]

theorem mode_of_producer {c : Composition χ ω ν} {scope : Scope ω ν} {group : Marker}
    {mode : ProductionMode} {p : Producer χ ω StrategyEvent ν}
    (served : c.producer scope group mode = .ok p) : p.mode = mode := by
  unfold producer at served
  cases mode with
  | construct =>
      cases served
      rfl
  | identity =>
      cases served
      rfl
  | callback =>
      dsimp only at served
      split at served
      · cases served
        rfl
      · contradiction

theorem mode_of_acceptor {c : Composition χ ω ν} {group : Marker} {mode : AcceptanceMode}
    {a : Acceptor χ ω StrategyEvent ν} (served : c.acceptor group mode = .ok a) :
    a.mode = mode := by
  unfold acceptor at served
  cases mode with
  | forget =>
      cases served
      rfl
  | callback =>
      dsimp only at served
      split at served
      · cases served
        rfl
      · contradiction

/-- A producer that calls a callback has the one that is found for the group. -/
theorem exists_callback_of_producer {c : Composition χ ω ν} {scope : Scope ω ν} {group : Marker}
    {p : Producer χ ω StrategyEvent ν} (served : c.producer scope group .callback = .ok p) :
    ∃ call, callbackFor c.produceCallbacks group = some call ∧ p = .callback call := by
  unfold producer at served
  cases found : callbackFor c.produceCallbacks group with
  | none =>
      rw [found] at served
      contradiction
  | some call =>
      rw [found] at served
      exact ⟨call, rfl, (Except.ok.inj served).symm⟩

theorem exists_callback_of_acceptor {c : Composition χ ω ν} {group : Marker}
    {a : Acceptor χ ω StrategyEvent ν} (served : c.acceptor group .callback = .ok a) :
    ∃ call, callbackFor c.acceptCallbacks group = some call ∧ a = .callback call := by
  unfold acceptor at served
  cases found : callbackFor c.acceptCallbacks group with
  | none =>
      rw [found] at served
      contradiction
  | some call =>
      rw [found] at served
      exact ⟨call, rfl, (Except.ok.inj served).symm⟩

/-- A producer is only wanting if its callback is. -/
theorem producer_reports (c : Composition χ ω ν) (scope : Scope ω ν) (group : Marker)
    (mode : ProductionMode) :
    Reports (c.missing group .produce (mode = .callback))
      (fun p => c.producer scope group mode = .ok p) (c.producer scope group mode) := by
  have registered : _ ↔ group ∈ c.registered .produce :=
    callbackFor_isSome_iff c.produceCallbacks group
  unfold missing
  cases mode with
  | construct => exact .ok rfl
  | identity => exact .ok rfl
  | callback =>
      unfold producer
      cases found : callbackFor c.produceCallbacks group with
      | none =>
          rw [if_pos ⟨rfl, fun member => by simpa [found] using registered.mpr member⟩]
          exact .error _
      | some call =>
          rw [if_neg fun missing => missing.2 (registered.mp (by simp [found]))]
          exact .ok rfl

/-- An acceptor is only wanting if its callback is. -/
theorem acceptor_reports (c : Composition χ ω ν) (group : Marker) (mode : AcceptanceMode) :
    Reports (c.missing group .accept (mode = .callback)) (fun a => c.acceptor group mode = .ok a)
      (c.acceptor group mode) := by
  have registered : _ ↔ group ∈ c.registered .accept :=
    callbackFor_isSome_iff c.acceptCallbacks group
  unfold missing
  cases mode with
  | forget => exact .ok rfl
  | callback =>
      unfold acceptor
      cases found : callbackFor c.acceptCallbacks group with
      | none =>
          rw [if_pos ⟨rfl, fun member => by simpa [found] using registered.mpr member⟩]
          exact .error _
      | some call =>
          rw [if_neg fun missing => missing.2 (registered.mp (by simp [found]))]
          exact .ok rfl

/-- What a declared group becomes: its strategies are those of the composition for its modes, and it
has alternatives for just the other modes that its candidates ask for. -/
structure Assembled (c : Composition χ ω ν) (scope : Scope ω ν) (g : GroupDeclaration)
    (selector : Selector ω StrategyEvent) (candidates : List Candidate) (r : Resolved χ ω ν) :
    Prop where
  marker : r.group.marker = g.marker
  selector : r.group.selector = selector
  producer : c.producer scope g.marker g.producer = .ok r.group.producer
  acceptor : c.acceptor g.marker g.acceptor = .ok r.group.acceptor
  producers : ∀ mode p, (r.group.altProducers.find? fun p => p.mode == mode) = some p →
    c.producer scope g.marker mode = .ok p
  acceptors : ∀ mode a, (r.group.altAcceptors.find? fun a => a.mode == mode) = some a →
    c.acceptor g.marker mode = .ok a
  /-- Which modes have an alternative producer. -/
  productions : ∀ mode, (r.group.altProducers.find? fun p => p.mode == mode).isSome = true ↔
    mode ≠ g.producer ∧ ∃ x ∈ candidates, x.production g.producer = mode
  /-- Which modes have an alternative acceptor. -/
  acceptances : ∀ mode, (r.group.altAcceptors.find? fun a => a.mode == mode).isSome = true ↔
    mode ≠ g.acceptor ∧ ∃ x ∈ candidates, x.acceptance g.acceptor = mode
  calls : ∀ kind, r.calls kind = true ↔ g.Needs candidates kind

/-- The alternatives that a group is offered serve the modes they are offered for. -/
theorem assembled {c : Composition χ ω ν} {scope : Scope ω ν} {g : GroupDeclaration}
    {selector : Selector ω StrategyEvent} {candidates : List Candidate}
    {producers : List ProductionMode} {acceptors : List AcceptanceMode}
    {producer : Producer χ ω StrategyEvent ν} {acceptor : Acceptor χ ω StrategyEvent ν}
    {altProducers : List (Producer χ ω StrategyEvent ν)}
    {altAcceptors : List (Acceptor χ ω StrategyEvent ν)}
    (productions : ∀ mode, mode ∈ producers ↔
      mode ≠ g.producer ∧ ∃ x ∈ candidates, x.production g.producer = mode)
    (acceptances : ∀ mode, mode ∈ acceptors ↔
      mode ≠ g.acceptor ∧ ∃ x ∈ candidates, x.acceptance g.acceptor = mode)
    (produces : c.producer scope g.marker g.producer = .ok producer)
    (accepts : c.acceptor g.marker g.acceptor = .ok acceptor)
    (produced : List.Forall₂ (fun mode p => c.producer scope g.marker mode = .ok p) producers
      altProducers)
    (accepted : List.Forall₂ (fun mode a => c.acceptor g.marker mode = .ok a) acceptors
      altAcceptors) :
    Assembled c scope g selector candidates
      { group := altAcceptors.foldl Group.withAltAcceptor
          (altProducers.foldl Group.withAltProducer
            { marker := g.marker, selector, producer, acceptor })
        callsProduce := (g.producer :: producers).contains .callback
        callsAccept := (g.acceptor :: acceptors).contains .callback } := by
  have byProduction := Group.find?_served
    (fun mode p (served : c.producer scope g.marker mode = .ok p) => mode_of_producer served)
    produced
  have byAcceptance := Group.find?_served
    (fun mode a (served : c.acceptor g.marker mode = .ok a) => mode_of_acceptor served) accepted
  rw [Group.foldl_withAltAcceptor_eq]
  have alternatives := Group.find?_altProducers
    { marker := g.marker, selector, producer, acceptor : Group χ ω StrategyEvent ν } altProducers
  have alternatives' := Group.find?_altAcceptors (altProducers.foldl Group.withAltProducer
    { marker := g.marker, selector, producer, acceptor : Group χ ω StrategyEvent ν }) altAcceptors
  rw [Group.foldl_withAltProducer_eq] at alternatives' ⊢
  simp only [List.find?_nil, Option.or_none] at alternatives alternatives'
  constructor
  case marker => rfl
  case selector => rfl
  case producer => exact produces
  case acceptor => exact accepts
  case producers =>
    intro mode p found
    exact (byProduction mode).1 p (alternatives mode ▸ found)
  case acceptors =>
    intro mode a found
    exact (byAcceptance mode).1 a (alternatives' mode ▸ found)
  case productions =>
    intro mode
    rw [← productions, ← (byProduction mode).2]
    dsimp only
    rw [alternatives]
  case acceptances =>
    intro mode
    rw [← acceptances, ← (byAcceptance mode).2]
    dsimp only
    rw [alternatives']
  case calls =>
    intro kind
    cases kind with
    | produce =>
        by_cases own : g.producer = .callback
        · simp [Resolved.calls, GroupDeclaration.Needs, GroupDeclaration.Calls, own]
        · simp [Resolved.calls, GroupDeclaration.Needs, GroupDeclaration.Calls,
            GroupDeclaration.IsAskedToCall, own, Ne.symm own, productions]
    | accept =>
        by_cases own : g.acceptor = .callback
        · simp [Resolved.calls, GroupDeclaration.Needs, GroupDeclaration.Calls, own]
        · simp [Resolved.calls, GroupDeclaration.Needs, GroupDeclaration.Calls,
            GroupDeclaration.IsAskedToCall, own, Ne.symm own, acceptances]

namespace Assembled

variable {c : Composition χ ω ν} {scope : Scope ω ν} {g : GroupDeclaration}
  {selector : Selector ω StrategyEvent} {candidates : List Candidate} {r : Resolved χ ω ν}

/-- A producer that serves a candidate is that of the composition for the mode of the candidate. -/
theorem producer_of_producerFor (ready : Assembled c scope g selector candidates r) {x : Candidate}
    {p : Producer χ ω StrategyEvent ν} (serves : r.group.producerFor x = .ok p) :
    c.producer scope g.marker (x.production g.producer) = .ok p := by
  have own := mode_of_producer ready.producer
  unfold Group.producerFor at serves
  simp only [own] at serves
  split at serves
  case isTrue same =>
    cases serves
    rw [same]
    exact ready.producer
  case isFalse =>
    split at serves
    case h_1 found =>
      cases serves
      exact ready.producers _ p found
    case h_2 => contradiction

theorem acceptor_of_acceptorFor (ready : Assembled c scope g selector candidates r) {x : Candidate}
    {a : Acceptor χ ω StrategyEvent ν} (serves : r.group.acceptorFor x = .ok a) :
    c.acceptor g.marker (x.acceptance g.acceptor) = .ok a := by
  have own := mode_of_acceptor ready.acceptor
  unfold Group.acceptorFor at serves
  simp only [own] at serves
  split at serves
  case isTrue same =>
    cases serves
    rw [same]
    exact ready.acceptor
  case isFalse =>
    split at serves
    case h_1 found =>
      cases serves
      exact ready.acceptors _ a found
    case h_2 => contradiction

/-- There is a producer for a candidate just if its mode is the group's or was foreseen. -/
theorem exists_producerFor_iff (ready : Assembled c scope g selector candidates r) (x : Candidate) :
    (∃ p, r.group.producerFor x = .ok p) ↔
      x.production g.producer = g.producer ∨
        ∃ y ∈ candidates, y.production g.producer = x.production g.producer := by
  have own := mode_of_producer ready.producer
  have served := ready.productions (x.production g.producer)
  unfold Group.producerFor
  simp only [own]
  by_cases same : x.production g.producer = g.producer
  · simp [same]
  · cases found : r.group.altProducers.find? fun p => p.mode == x.production g.producer with
    | none => simpa [same, found] using served
    | some p => simpa [same, found] using served

theorem exists_acceptorFor_iff (ready : Assembled c scope g selector candidates r) (x : Candidate) :
    (∃ a, r.group.acceptorFor x = .ok a) ↔
      x.acceptance g.acceptor = g.acceptor ∨
        ∃ y ∈ candidates, y.acceptance g.acceptor = x.acceptance g.acceptor := by
  have own := mode_of_acceptor ready.acceptor
  have served := ready.acceptances (x.acceptance g.acceptor)
  unfold Group.acceptorFor
  simp only [own]
  by_cases same : x.acceptance g.acceptor = g.acceptor
  · simp [same]
  · cases found : r.group.altAcceptors.find? fun a => a.mode == x.acceptance g.acceptor with
    | none => simpa [same, found] using served
    | some a => simpa [same, found] using served

end Assembled

/-- If several modes want one callback, its absence is told once. -/
theorem head?_flatMap_missing {μ : Type} [DecidableEq μ] (c : Composition χ ω ν) (group : Marker)
    (kind : CallbackKind) (modes : List μ) (calling : μ) :
    (modes.flatMap fun mode => c.missing group kind (mode = calling)).head? =
      (c.missing group kind (calling ∈ modes)).head? := by
  induction modes with
  | nil => simp [missing]
  | cons mode rest ih =>
      rw [List.flatMap_cons, List.head?_append, ih]
      by_cases same : mode = calling
      · by_cases isRegistered : group ∈ c.registered kind
        · simp [missing, isRegistered]
        · simp [missing, isRegistered, same]
      · simp [missing, same, Ne.symm same]

/-- A callback that an own mode wants need not be wanted again. -/
theorem missing_of_not (c : Composition χ ω ν) (group : Marker) (kind : CallbackKind)
    {own asked wanted : Prop} [Decidable own] [Decidable asked] [Decidable wanted]
    (isWanted : wanted ↔ ¬own ∧ asked) (between after : Option CompositionError) :
    (c.missing group kind own).head?.or
        (between.or ((c.missing group kind wanted).head?.or after)) =
      (c.missing group kind own).head?.or
        (between.or ((c.missing group kind asked).head?.or after)) := by
  by_cases isOwn : own
  · by_cases isRegistered : group ∈ c.registered kind
    · simp [missing, isRegistered]
    · simp [missing, isRegistered, isOwn]
  · simp [missing, isOwn, isWanted]

/-- The callbacks that a declared group needs and does not have, in the order in which assembling
asks for them: for its own modes, then for those that its candidates ask for. -/
def missingCallbacks (c : Composition χ ω ν) (g : GroupDeclaration) (candidates : List Candidate) :
    List CompositionError :=
  c.missing g.marker .produce (g.Calls .produce)
    ++ c.missing g.marker .accept (g.Calls .accept)
    ++ c.missing g.marker .produce (g.IsAskedToCall candidates .produce)
    ++ c.missing g.marker .accept (g.IsAskedToCall candidates .accept)

/-- Assembling a group fails for want of the first callback that is needed. -/
theorem assemble_reports (c : Composition χ ω ν) (scope : Scope ω ν) (g : GroupDeclaration)
    (selector : Selector ω StrategyEvent) (candidates : List Candidate) :
    Reports (c.missingCallbacks g candidates) (c.Assembled scope g selector candidates)
      (c.assemble scope g selector (overrides g [g.producer] [g.acceptor] candidates)) := by
  have productions := mem_productions_overrides g [g.producer] [g.acceptor] candidates
  have acceptances := mem_acceptances_overrides g [g.producer] [g.acceptor] candidates
  simp only [List.mem_singleton] at productions acceptances
  unfold assemble
  generalize (overrides g [g.producer] [g.acceptor] candidates).filterMap Override.production? =
    producers at productions ⊢
  generalize (overrides g [g.producer] [g.acceptor] candidates).filterMap Override.acceptance? =
    acceptors at acceptances ⊢
  have reports := (c.producer_reports scope g.marker g.producer).bind fun p produces =>
    (c.acceptor_reports g.marker g.acceptor).bind fun a accepts =>
      (Reports.mapM fun mode (_ : mode ∈ producers) =>
          c.producer_reports scope g.marker mode).bind fun ps produced =>
        (Reports.mapM fun mode (_ : mode ∈ acceptors) =>
            c.acceptor_reports g.marker mode).bind fun as accepted =>
          .ok (show Assembled c scope g selector candidates _ from
            assembled productions acceptances produces accepts produced accepted)
  apply reports.congr
  have producing : .callback ∈ producers ↔
      ¬g.Calls .produce ∧ g.IsAskedToCall candidates .produce := by
    rw [productions, eq_comm]
    rfl
  have accepting : .callback ∈ acceptors ↔
      ¬g.Calls .accept ∧ g.IsAskedToCall candidates .accept := by
    rw [acceptances, eq_comm]
    rfl
  have producesOnce := c.missing_of_not g.marker .produce producing
    (c.missing g.marker .accept (g.Calls .accept)).head?
    (c.missing g.marker .accept (.callback ∈ acceptors)).head?
  have acceptsOnce := c.missing_of_not g.marker .accept accepting
    (c.missing g.marker .produce (g.IsAskedToCall candidates .produce)).head? none
  simp only [Option.or_none] at acceptsOnce
  simp only [missingCallbacks, List.head?_append, head?_flatMap_missing, Option.or_assoc,
    List.head?_nil, Option.or_none]
  exact producesOnce.trans (congrArg _ acceptsOnce)

/-- The selection ahead of time always has an answer, and nothing but the selection changes the
world. -/
theorem foresee_run (c : Composition χ ω ν) (g : GroupDeclaration)
    (selector : Selector ω StrategyEvent) (w : ω) :
    ((c.foresee g selector).run w).result =
        .ok (overrides g [g.producer] [g.acceptor] (c.candidates g selector w)) ∧
      ((c.foresee g selector).run w).state = ((selector.select (c.context g)).run w).state := by
  unfold foresee candidates context
  cases answer : ((selector.select (c.context g)).run w).result with
  | error cause =>
      unfold context at answer
      simp [Action.andThen, answer, Except.map, Except.toOption, overrides]
  | ok candidates =>
      unfold context at answer
      simp [Action.andThen, answer, Except.map, Except.toOption, Action.run_forM_note]

/-- The selector of a declared group. -/
def selectorOf (c : Composition χ ω ν) (g : GroupDeclaration) :
    Except CompositionError (Selector ω StrategyEvent) :=
  match c.scope with
  | none =>
      .error (.malformed (
        s!"group {g.marker.name} of colony {c.colony.name} is declared "
          ++ "but the composition has no scope"))
  | some scope => (Selector.ofRule scope g.selector).mapError (.invalidSelector g.marker)

theorem selectorOf_eq_ok {c : Composition χ ω ν} {g : GroupDeclaration}
    {selector : Selector ω StrategyEvent} (selected : c.selectorOf g = .ok selector) :
    ∃ scope, c.scope = some scope ∧ Selector.ofRule scope g.selector = .ok selector := by
  unfold selectorOf at selected
  cases hasScope : c.scope with
  | none => simp [hasScope] at selected
  | some scope =>
      cases built : Selector.ofRule scope g.selector with
      | error cause => simp [hasScope, built] at selected
      | ok other => exact ⟨scope, rfl, by simpa [hasScope, built] using selected⟩

/-- A declared group without selector is refused, and the world is not touched. -/
theorem resolve_of_error {c : Composition χ ω ν} {g : GroupDeclaration} {e : CompositionError}
    (refused : c.selectorOf g = .error e) (w : ω) :
    ((c.resolve (.declared g)).run w).result = .error e ∧
      ((c.resolve (.declared g)).run w).state = w := by
  unfold selectorOf at refused
  unfold resolve
  cases hasScope : c.scope with
  | none => simpa [hasScope] using refused
  | some scope =>
      rw [hasScope] at refused
      simp [resolveDeclared, refused]

/-- A declared group with a selector is assembled after its selection, whatever comes of that. -/
theorem resolve_of_ok {c : Composition χ ω ν} {g : GroupDeclaration}
    {selector : Selector ω StrategyEvent} (selected : c.selectorOf g = .ok selector) (w : ω) :
    (∃ scope, c.scope = some scope ∧ Selector.ofRule scope g.selector = .ok selector ∧
      ((c.resolve (.declared g)).run w).result =
        c.assemble scope g selector
          (overrides g [g.producer] [g.acceptor] (c.candidates g selector w))) ∧
      ((c.resolve (.declared g)).run w).state =
        ((selector.select (c.context g)).run w).state := by
  obtain ⟨scope, hasScope, built⟩ := selectorOf_eq_ok selected
  obtain ⟨answer, state⟩ := c.foresee_run g selector w
  simp [resolve, hasScope, resolveDeclared, built, Action.andThen, answer, state]

end Composition

end Settlement
