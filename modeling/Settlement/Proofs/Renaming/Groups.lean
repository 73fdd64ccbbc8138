import Settlement.Proofs.Renaming.Building

/-!
# Renamed groups

The strategies of a group with new names do what those of the group with the old names do, under the
new names.  Which strategy serves a candidate goes by its mode, and the modes are not renamed; so
the one group has a strategy for a candidate just if the other has one for the renamed candidate.
-/

namespace Settlement

namespace Group

variable {χ ω η ν : Type} {g : Group χ ω η ν} {c : Candidate}

/-- For want of a producer, a group tells of the candidate and of the mode it insists on. -/
theorem eq_noStrategy_of_producerFor {cause : ProductionError}
    (lacks : g.producerFor c = .error cause) :
    cause = .noStrategy c.id (c.production g.producer.mode) := by
  unfold producerFor at lacks
  dsimp only at lacks
  split at lacks
  case isTrue => contradiction
  case isFalse =>
    split at lacks
    case h_1 => contradiction
    case h_2 => exact (Except.error.inj lacks).symm

theorem eq_noStrategy_of_acceptorFor {cause : AcceptanceError}
    (lacks : g.acceptorFor c = .error cause) :
    cause = .noStrategy c.id (c.acceptance g.acceptor.mode) := by
  unfold acceptorFor at lacks
  dsimp only at lacks
  split at lacks
  case isTrue => contradiction
  case isFalse =>
    split at lacks
    case h_1 => contradiction
    case h_2 => exact (Except.error.inj lacks).symm

end Group

/-- If no examination changes the world, all declared groups are examined in the same. -/
theorem Composition.visits_declared {χ ω ν : Type} {c : Composition χ ω ν}
    {groups : List GroupDeclaration} {w : ω} (same : ∀ g, c.worldAfter (.declared g) w = w) :
    c.visits (groups.map .declared) w = groups.map fun g => (.declared g, w) := by
  induction groups with
  | nil => rfl
  | cons g rest ih => rw [List.map_cons, visits, same, ih, List.map_cons]

namespace Renaming

open Settlement.Action (Mirrors)

variable {χ ω φ ν : Type} (ρ : Renaming)

/-! ## Strategies -/

/-- That a producer makes for a renamed candidate what another makes for the candidate. -/
structure Makes (p p' : Producer χ ω StrategyEvent ν) : Prop where
  mode : p'.mode = p.mode
  produce : ∀ c, Mirrors (p.produce c) (p'.produce (ρ.candidate c)) ρ.production ρ.produced

/-- That an acceptor does with what is renamed as another does with the same under its old name. -/
structure HandsOn (a a' : Acceptor χ ω StrategyEvent ν) : Prop where
  mode : a'.mode = a.mode
  accept : ∀ c value,
    Mirrors (a.accept c value) (a'.accept (ρ.candidate c) (ρ.produced value)) ρ.acceptance
      fun done => done

variable {ρ} {r r' : Registry φ ν}

/-- Renamed registries construct the same, with the same calls of factories. -/
theorem Renames.mirrors_construct (renames : ρ.Renames r r')
    (call : φ → Action ω StrategyEvent String ν) (id : SettlerId) :
    Mirrors (r.construct call id) (r'.construct call (ρ.id id)) ρ.production ρ.produced := by
  unfold Registry.construct
  rw [renames.bindings]
  cases r.bindings[id]? with
  | none => exact .fail rfl
  | some b =>
      apply (Mirrors.report _ _).bind
      intro _
      cases b with
      | shared instanceOf => exact .pure rfl
      | factory handle =>
          have made : Mirrors ((call handle).mapError (ProductionError.construction id))
              ((call handle).mapError (.construction (ρ.id id))) ρ.production fun value => value :=
            (Mirrors.refl (call handle)).mapError fun _ => rfl
          apply made.bind
          intro value
          exact .pure rfl

theorem Renames.makes_construct (renames : ρ.Renames r r')
    (call : φ → Action ω StrategyEvent String ν) :
    ρ.Makes (.construct (r.scope call) : Producer χ ω StrategyEvent ν)
      (.construct (r'.scope call)) where
  mode := rfl
  produce c := by
    apply (Mirrors.report _ _).bind
    intro _
    apply (renames.mirrors_construct call c.id).inWorld.bind
    intro value
    rw [isShared_produced, singleton_candidate]
    by_cases refused : (c.singleton && !value.isShared) = true
    · rw [if_pos refused, if_pos refused]
      exact .fail rfl
    · rw [if_neg refused, if_neg refused]
      exact .pure rfl

theorem Produces.makes {call call' : ProduceCallback χ ω StrategyEvent ν}
    (produces : ρ.Produces call call') : ρ.Makes (.callback call) (.callback call') where
  mode := rfl
  produce c := by
    apply (Mirrors.report _ _).bind
    intro _
    exact (produces c.id).mapError fun _ => rfl

theorem makes_identity : ρ.Makes (.identity : Producer χ ω StrategyEvent ν) .identity where
  mode := rfl
  produce _ := .pure rfl

theorem Accepts.handsOn {call call' : AcceptCallback χ ω StrategyEvent ν}
    (accepts : ρ.Accepts call call') : ρ.HandsOn (.callback call) (.callback call') where
  mode := rfl
  accept c value := by
    apply (Mirrors.report _ _).bind
    intro _
    exact (accepts value).mapError fun _ => rfl

theorem handsOn_forget : ρ.HandsOn (.forget : Acceptor χ ω StrategyEvent ν) .forget where
  mode := rfl
  accept _ _ := .report _ _

/-! ## Strategies of a composition -/

namespace Composes

variable {call : φ → Action ω StrategyEvent String ν} {c c' : Composition χ ω ν}

theorem makes (composes : ρ.Composes r r' call c c') (renames : ρ.Renames r r') {group : Marker}
    {mode : ProductionMode} {p p' : Producer χ ω StrategyEvent ν}
    (serves : c.producer (r.scope call) group mode = .ok p)
    (serves' : c'.producer (r'.scope call) (ρ.marker group) mode = .ok p') : ρ.Makes p p' := by
  cases mode with
  | construct =>
      cases serves
      cases serves'
      exact renames.makes_construct call
  | identity =>
      cases serves
      cases serves'
      exact makes_identity
  | callback =>
      obtain ⟨produce, found, rfl⟩ := Composition.exists_callback_of_producer serves
      obtain ⟨produce', found', rfl⟩ := Composition.exists_callback_of_producer serves'
      have produces := composes.produceCallbacks.related_of_callbackFor found found'
      exact produces.makes

theorem handsOn (composes : ρ.Composes r r' call c c') {group : Marker} {mode : AcceptanceMode}
    {a a' : Acceptor χ ω StrategyEvent ν} (serves : c.acceptor group mode = .ok a)
    (serves' : c'.acceptor (ρ.marker group) mode = .ok a') : ρ.HandsOn a a' := by
  cases mode with
  | forget =>
      cases serves
      cases serves'
      exact handsOn_forget
  | callback =>
      obtain ⟨accept, found, rfl⟩ := Composition.exists_callback_of_acceptor serves
      obtain ⟨accept', found', rfl⟩ := Composition.exists_callback_of_acceptor serves'
      have accepts := composes.acceptCallbacks.related_of_callbackFor found found'
      exact accepts.handsOn

end Composes

/-! ## Groups -/

variable (ρ) in
/-- That a group is another one with new names: its strategies do what those of the other do. -/
structure RenamesGroup (g g' : Group χ ω StrategyEvent ν) : Prop where
  marker : g'.marker = ρ.marker g.marker
  mode : g'.producer.mode = g.producer.mode
  selector : ρ.Selects g.selector g'.selector
  producers : ∀ c p, g.producerFor c = .ok p →
    ∃ p', g'.producerFor (ρ.candidate c) = .ok p' ∧ ρ.Makes p p'
  noProducers : ∀ c cause, g.producerFor c = .error cause →
    g'.producerFor (ρ.candidate c) = .error (ρ.production cause)
  acceptors : ∀ c a, g.acceptorFor c = .ok a →
    ∃ a', g'.acceptorFor (ρ.candidate c) = .ok a' ∧ ρ.HandsOn a a'
  noAcceptors : ∀ c cause, g.acceptorFor c = .error cause →
    g'.acceptorFor (ρ.candidate c) = .error (ρ.acceptance cause)

section Assembled

open Settlement.Composition (Assembled Resolved)

variable {c c' : Composition χ ω ν} {scope scope' : Scope ω ν} {g : GroupDeclaration}
  {selector selector' : Selector ω StrategyEvent} {candidates : List Candidate}
  {resolved resolved' : Resolved χ ω ν}

/-- Renamed groups have producers for the same candidates. -/
theorem exists_producerFor_candidate (assembled : Assembled c scope g selector candidates resolved)
    (assembled' : Assembled c' scope' (ρ.group g) selector' (candidates.map ρ.candidate) resolved')
    (x : Candidate) :
    (∃ p', resolved'.group.producerFor (ρ.candidate x) = .ok p') ↔
      ∃ p, resolved.group.producerFor x = .ok p := by
  rw [assembled.exists_producerFor_iff, assembled'.exists_producerFor_iff]
  simp only [List.mem_map, exists_exists_and_eq_and]
  rfl

theorem exists_acceptorFor_candidate (assembled : Assembled c scope g selector candidates resolved)
    (assembled' : Assembled c' scope' (ρ.group g) selector' (candidates.map ρ.candidate) resolved')
    (x : Candidate) :
    (∃ a', resolved'.group.acceptorFor (ρ.candidate x) = .ok a') ↔
      ∃ a, resolved.group.acceptorFor x = .ok a := by
  rw [assembled.exists_acceptorFor_iff, assembled'.exists_acceptorFor_iff]
  simp only [List.mem_map, exists_exists_and_eq_and]
  rfl

end Assembled

namespace Composes

variable {call : φ → Action ω StrategyEvent String ν} {c c' : Composition χ ω ν}

/-- What a renamed declaration becomes is what the declaration becomes, renamed. -/
theorem renamesGroup (composes : ρ.Composes r r' call c c') (renames : ρ.Renames r r')
    (indexed : r.Indexed) (indexed' : r'.Indexed) {g : GroupDeclaration}
    (blind : ρ.Blinds g.selector) {w : ω} {resolved resolved' : Composition.Resolved χ ω ν}
    (ready : c.Ready w (.declared g) resolved)
    (ready' : c'.Ready w (.declared (ρ.group g)) resolved') :
    ρ.RenamesGroup resolved.group resolved'.group := by
  obtain ⟨scope, selector, hasScope, built, assembled⟩ := ready
  obtain ⟨scope', selector', hasScope', built', assembled'⟩ := ready'
  rcases composes.scope with ⟨noScope, -⟩ | ⟨isScope, isScope'⟩
  · rw [noScope] at hasScope
    contradiction
  obtain rfl := Option.some.inj (isScope.symm.trans hasScope)
  obtain rfl := Option.some.inj (isScope'.symm.trans hasScope')
  have selects : ρ.Selects selector selector' :=
    renames.selects indexed indexed' blind built built'
  rw [selects.candidates c c' g w] at assembled'
  have mode : resolved'.group.producer.mode = resolved.group.producer.mode :=
    (Composition.mode_of_producer assembled'.producer).trans
      (Composition.mode_of_producer assembled.producer).symm
  have mode' : resolved'.group.acceptor.mode = resolved.group.acceptor.mode :=
    (Composition.mode_of_acceptor assembled'.acceptor).trans
      (Composition.mode_of_acceptor assembled.acceptor).symm
  constructor
  case marker => rw [assembled'.marker, assembled.marker, group]
  case mode => exact mode
  case selector =>
    rw [assembled.selector, assembled'.selector]
    exact selects
  case producers =>
    intro x p serves
    obtain ⟨p', serves'⟩ := (exists_producerFor_candidate assembled assembled' x).mpr ⟨p, serves⟩
    have served := assembled.producer_of_producerFor serves
    have served' := assembled'.producer_of_producerFor serves'
    exact ⟨p', serves', composes.makes renames served served'⟩
  case acceptors =>
    intro x a serves
    obtain ⟨a', serves'⟩ := (exists_acceptorFor_candidate assembled assembled' x).mpr ⟨a, serves⟩
    have served := assembled.acceptor_of_acceptorFor serves
    have served' := assembled'.acceptor_of_acceptorFor serves'
    exact ⟨a', serves', composes.handsOn served served'⟩
  case noProducers =>
    intro x cause lacks
    cases serves' : resolved'.group.producerFor (ρ.candidate x) with
    | ok p' =>
        obtain ⟨p, serves⟩ := (exists_producerFor_candidate assembled assembled' x).mp ⟨p', serves'⟩
        cases lacks.symm.trans serves
    | error cause' =>
        rw [Group.eq_noStrategy_of_producerFor serves', Group.eq_noStrategy_of_producerFor lacks,
          mode]
        rfl
  case noAcceptors =>
    intro x cause lacks
    cases serves' : resolved'.group.acceptorFor (ρ.candidate x) with
    | ok a' =>
        obtain ⟨a, serves⟩ := (exists_acceptorFor_candidate assembled assembled' x).mp ⟨a', serves'⟩
        cases lacks.symm.trans serves
    | error cause' =>
        rw [Group.eq_noStrategy_of_acceptorFor serves', Group.eq_noStrategy_of_acceptorFor lacks,
          mode']
        rfl

end Composes

/-! ## Founders -/

variable (ρ) in
/-- That a founder has the groups of another in their order, under the new names. -/
structure RenamesFounder (f f' : Founder χ ω StrategyEvent ν) : Prop where
  colony : f'.colony = ρ.colony f.colony
  groups : List.Forall₂ ρ.RenamesGroup f.groups f'.groups

namespace Composes

variable {call : φ → Action ω StrategyEvent String ν} {c c' : Composition χ ω ν}

/-- The founder of a renamed composition is the renamed founder. -/
theorem renamesFounder (composes : ρ.Composes r r' call c c') (renames : ρ.Renames r r')
    (indexed : r.Indexed) (indexed' : r'.Indexed) {w : ω} {f f' : Founder χ ω StrategyEvent ν}
    (built : (c.build.run w).result = .ok f) (built' : (c'.build.run w).result = .ok f') :
    ρ.RenamesFounder f f' := by
  obtain ⟨colony, resolved, groups, ready⟩ := (c.build_reports_visits w).post_of_ok built
  obtain ⟨colony', resolved', groups', ready'⟩ := (c'.build_reports_visits w).post_of_ok built'
  obtain ⟨declared, entries, entries', blind⟩ := composes.entries
  have stays (g : GroupDeclaration) := composes.worldAfter indexed indexed' g g w
  rw [entries, Composition.visits_declared fun g => (stays g).1, List.forall₂_map_left_iff] at ready
  rw [entries', Composition.visits_declared fun g => (stays g).2, List.forall₂_map_left_iff,
    List.forall₂_map_left_iff] at ready'
  constructor
  case colony => rw [colony', colony, composes.colony]
  case groups =>
    rw [groups, groups', List.forall₂_map_left_iff, List.forall₂_map_right_iff]
    apply forall₂_of_common ready ready'
    intro g member resolved resolved' ready ready'
    exact composes.renamesGroup renames indexed indexed' (blind g member) ready ready'

end Composes

end Renaming

end Settlement
