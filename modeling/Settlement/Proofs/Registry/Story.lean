import Settlement.Proofs.Lists
import Settlement.Proofs.Registry.Entry

/-!
# Stories of identities

What a registry shows of an identity can be told from the edits that name it, without any registry:
from its last declaration, from the shared instance that was bound to it most recently, and from the
factory that was accepted most recently since its last declaration as a singleton.  The list shows
the declared identities in the order in which they were first declared.
-/

namespace Settlement

variable {φ ν ω α β : Type}

/-- The last of the things that the members of a list tell. -/
def latest (tell : α → Option β) (l : List α) : Option β :=
  (l.filterMap tell).getLast?

theorem latest_concat (tell : α → Option β) (l : List α) (a : α) :
    latest tell (l ++ [a]) = (tell a).or (latest tell l) := by
  unfold latest
  rw [List.filterMap_append, List.getLast?_append, List.filterMap_cons, List.filterMap_nil]
  cases tell a <;> rfl

namespace Edit

/-- The factory that an edit offers. -/
def factory? : Edit φ ν → Option φ
  | .registerWith _ handle => some handle
  | .bindFactory _ handle => some handle
  | .declare _ => none
  | .registerSingleton _ _ => none
  | .bindSingleton _ _ => none

/-- The shared instance that an edit offers. -/
def shared? : Edit φ ν → Option (Shared ν)
  | .registerSingleton _ instanceOf => some instanceOf
  | .bindSingleton _ instanceOf => some instanceOf
  | .declare _ => none
  | .registerWith _ _ => none
  | .bindFactory _ _ => none

theorem id_of_declared? (e : Edit φ ν) {s : Settler} (declares : e.declared? = some s) :
    s.id = e.id := by
  cases e with
  | declare _ | registerWith _ _ | registerSingleton _ _ =>
      cases declares
      rfl
  | bindFactory _ _ | bindSingleton _ _ => contradiction

end Edit

/-- The edits that name one identity, in their order. -/
abbrev Story (φ ν : Type) :=
  List (Edit φ ν)

namespace Story

/-- The story of an identity in a history. -/
def of (history : List (Edit φ ν)) (id : SettlerId) : Story φ ν :=
  history.filter (·.id = id)

/-- A moment of a story: an edit, and what happened before it. -/
structure Moment (φ ν : Type) where
  before : Story φ ν
  edit : Edit φ ν

/-- The story up to a moment, with the edit of the moment. -/
def Moment.soFar (m : Moment φ ν) : Story φ ν :=
  m.before ++ [m.edit]

/-- The moments of a story that goes on after another. -/
def momentsAfter : (before story : Story φ ν) → List (Moment φ ν)
  | _, [] => []
  | before, e :: rest => ⟨before, e⟩ :: momentsAfter (before ++ [e]) rest

/-- All moments of a story. -/
def moments (story : Story φ ν) : List (Moment φ ν) :=
  momentsAfter [] story

/-! ## What a story tells -/

/-- The last declaration.  A registration with a shared instance counts as that of a singleton. -/
def declared? (story : Story φ ν) : Option Settler :=
  latest Edit.declared? story

/-- The shared instance that is bound at a moment: the one that is offered, if the identity is
declared by then. -/
def Moment.binds? (m : Moment φ ν) : Option (Shared ν) :=
  if (declared? m.soFar).isSome then m.edit.shared? else none

/-- The shared instance that was bound most recently. -/
def shared? (story : Story φ ν) : Option (Shared ν) :=
  latest Moment.binds? (moments story)

/-- Whether the last declaration is that of a singleton, or a shared instance was ever bound. -/
def isSingleton (story : Story φ ν) : Bool :=
  (declared? story).any (·.singleton) || (shared? story).isSome

/-- The factory that is accepted at a moment: the one that is offered, if the identity is declared
by then and not a singleton. -/
def Moment.accepts? (m : Moment φ ν) : Option φ :=
  if (declared? m.soFar).isSome && !isSingleton m.soFar then m.edit.factory? else none

/-- Whether the identity is declared a singleton at a moment. -/
def Moment.declaresSingleton (m : Moment φ ν) : Bool :=
  m.edit.declared?.any (·.singleton)

/-- The moments since the last declaration as a singleton. -/
def sinceSingleton (story : Story φ ν) : List (Moment φ ν) :=
  (moments story).rtakeWhile (!·.declaresSingleton)

/-- The factory that was accepted most recently since the last declaration as a singleton. -/
def factory? (story : Story φ ν) : Option φ :=
  latest Moment.accepts? (sinceSingleton story)

/-- The settler that a registry shows: the last one that was declared, as a singleton also if a
shared instance was ever bound. -/
def settler? (story : Story φ ν) : Option Settler :=
  (declared? story).map fun s => { s with singleton := s.singleton || (shared? story).isSome }

/-- How a registry makes a value of the identity. -/
def construct (story : Story φ ν) (call : φ → Action ω StrategyEvent String ν) (id : SettlerId) :
    Action ω StrategyEvent ProductionError (Produced ν) :=
  match shared? story, factory? story with
  | some instanceOf, _ => do
      Action.report (.constructing id true)
      return .shared instanceOf
  | none, some handle => do
      Action.report (.constructing id false)
      return .owned (← (call handle).mapError (.construction id))
  | none, none => Action.fail (.noFactory id)

/-! ## One more edit -/

theorem of_concat (history : List (Edit φ ν)) (e : Edit φ ν) (id : SettlerId) :
    of (history ++ [e]) id = if e.id = id then of history id ++ [e] else of history id := by
  unfold of
  rw [List.filter_append, List.filter_singleton]
  by_cases sameId : e.id = id <;> simp [sameId]

theorem momentsAfter_concat (before story : Story φ ν) (e : Edit φ ν) :
    momentsAfter before (story ++ [e]) = momentsAfter before story ++ [⟨before ++ story, e⟩] := by
  induction story generalizing before with
  | nil => simp [momentsAfter]
  | cons first rest ih => simp [momentsAfter, ih]

theorem moments_concat (story : Story φ ν) (e : Edit φ ν) :
    moments (story ++ [e]) = moments story ++ [⟨story, e⟩] :=
  momentsAfter_concat [] story e

theorem declared?_concat (story : Story φ ν) (e : Edit φ ν) :
    declared? (story ++ [e]) = e.declared?.or (declared? story) :=
  latest_concat _ _ _

theorem shared?_concat (story : Story φ ν) (e : Edit φ ν) :
    shared? (story ++ [e]) = (Moment.binds? ⟨story, e⟩).or (shared? story) := by
  rw [shared?, moments_concat, latest_concat, ← shared?]

theorem factory?_concat (story : Story φ ν) (e : Edit φ ν) :
    factory? (story ++ [e]) =
      if e.declared?.any (·.singleton) then none
      else (Moment.accepts? ⟨story, e⟩).or (factory? story) := by
  rw [factory?, sinceSingleton, moments_concat, List.rtakeWhile_concat]
  cases flag : e.declared?.any (·.singleton) with
  | true => simp [Moment.declaresSingleton, flag, latest]
  | false => simp [Moment.declaresSingleton, flag, latest_concat, factory?, sinceSingleton]

theorem shared?_concat_of_none {story : Story φ ν} {e : Edit φ ν} (offers : e.shared? = none) :
    shared? (story ++ [e]) = shared? story := by
  rw [shared?_concat, Moment.binds?, offers, ite_self, Option.none_or]

theorem shared?_concat_of_some {story : Story φ ν} {e : Edit φ ν} {instanceOf : Shared ν}
    (offers : e.shared? = some instanceOf) :
    shared? (story ++ [e]) =
      if (declared? (story ++ [e])).isSome then some instanceOf else shared? story := by
  rw [shared?_concat, Moment.binds?, Moment.soFar, offers]
  split <;> rfl

theorem factory?_concat_of_none {story : Story φ ν} {e : Edit φ ν} (offers : e.factory? = none) :
    factory? (story ++ [e]) =
      if e.declared?.any (·.singleton) then none else factory? story := by
  rw [factory?_concat, Moment.accepts?, offers, ite_self, Option.none_or]

/-- A story shows a settler that is no singleton just if the identity may have a factory. -/
theorem any_settler? (story : Story φ ν) :
    (settler? story).any (!·.singleton) = ((declared? story).isSome && !isSingleton story) := by
  unfold settler? isSingleton
  cases declared? story with
  | none => rfl
  | some s => simp

theorem factory?_concat_of_some {story : Story φ ν} {e : Edit φ ν} {handle : φ}
    (offers : e.factory? = some handle) :
    factory? (story ++ [e]) =
      if e.declared?.any (·.singleton) then none
      else if (settler? (story ++ [e])).any (!·.singleton) then some handle
      else factory? story := by
  rw [factory?_concat, Moment.accepts?, Moment.soFar, ← any_settler?, offers]
  congr 1
  split <;> rfl

/-! ## Entries of stories -/

/-- The entry that a story leaves. -/
def entry (story : Story φ ν) : Registry.Entry φ ν where
  settler := settler? story
  binding := ((shared? story).map .shared).or ((factory? story).map .factory)

theorem any_isShared_binding (story : Story φ ν) :
    (entry story).binding.any Binding.isShared = (shared? story).isSome := by
  unfold entry
  cases shared? story with
  | none => cases factory? story <;> rfl
  | some instanceOf => rfl

theorem filter_isShared_binding (story : Story φ ν) :
    (entry story).binding.filter Binding.isShared = (shared? story).map .shared := by
  unfold entry
  cases shared? story with
  | none => cases factory? story <;> rfl
  | some instanceOf => rfl

/-! ### Edit by edit -/

theorem entry_declare (story : Story φ ν) (s : Settler) :
    entry (story ++ [.declare s]) = (entry story).declare s := by
  have shared : shared? (story ++ [.declare s]) = shared? story := shared?_concat_of_none rfl
  have factory : factory? (story ++ [.declare s]) = _ := factory?_concat_of_none rfl
  rw [Registry.Entry.declare, any_isShared_binding, filter_isShared_binding]
  unfold entry settler?
  rw [shared, factory, declared?_concat]
  cases flag : s.singleton <;> simp [Edit.declared?, flag]

theorem entry_registerWith (story : Story φ ν) (s : Settler) (handle : φ) :
    entry (story ++ [.registerWith s handle]) = ((entry story).declare s).bindFactory handle := by
  have shared : shared? (story ++ [.registerWith s handle]) = shared? story :=
    shared?_concat_of_none rfl
  have factory : factory? (story ++ [.registerWith s handle]) = _ := factory?_concat_of_some rfl
  rw [Registry.Entry.declare, Registry.Entry.bindFactory, any_isShared_binding,
    filter_isShared_binding]
  unfold entry
  rw [factory]
  unfold settler?
  rw [shared, declared?_concat]
  cases flag : s.singleton <;> cases shared? story <;> simp [Edit.declared?, flag]

theorem entry_registerSingleton (story : Story φ ν) (s : Settler) (instanceOf : Shared ν) :
    entry (story ++ [.registerSingleton s instanceOf]) =
      { settler := some s.asSingleton, binding := some (.shared instanceOf) } := by
  have declared : declared? (story ++ [.registerSingleton s instanceOf]) = some s.asSingleton :=
    declared?_concat _ _
  have shared : shared? (story ++ [.registerSingleton s instanceOf]) = some instanceOf := by
    rw [shared?_concat_of_some rfl, declared]
    rfl
  unfold entry settler?
  rw [shared, declared]
  rfl

theorem entry_bindFactory (story : Story φ ν) (id : SettlerId) (handle : φ) :
    entry (story ++ [.bindFactory id handle]) = (entry story).bindFactory handle := by
  have shared : shared? (story ++ [.bindFactory id handle]) = shared? story :=
    shared?_concat_of_none rfl
  have factory : factory? (story ++ [.bindFactory id handle]) = _ := factory?_concat_of_some rfl
  have settler : settler? (story ++ [.bindFactory id handle]) = settler? story := by
    rw [settler?, shared, declared?_concat]
    rfl
  unfold Registry.Entry.bindFactory entry
  rw [factory, settler, shared]
  cases mayHave : (settler? story).any (!·.singleton) with
  | false => simp [Edit.declared?]
  | true =>
      -- A shared instance would make the settler a singleton, and keep the factory out of the entry.
      have unshared : shared? story = none := by
        rw [any_settler?, isSingleton] at mayHave
        cases instanceOf : shared? story with
        | none => rfl
        | some _ => simp [instanceOf] at mayHave
      simp [Edit.declared?, unshared]

theorem entry_bindSingleton (story : Story φ ν) (id : SettlerId) (instanceOf : Shared ν) :
    entry (story ++ [.bindSingleton id instanceOf]) = (entry story).bindSingleton instanceOf := by
  have shared : shared? (story ++ [.bindSingleton id instanceOf]) = _ := shared?_concat_of_some rfl
  have factory : factory? (story ++ [.bindSingleton id instanceOf]) = _ :=
    factory?_concat_of_none rfl
  unfold Registry.Entry.bindSingleton entry settler?
  rw [factory, shared, declared?_concat]
  cases last : declared? story with
  | none => rfl
  | some s => simp [Edit.declared?, Settler.asSingleton]

/-- One more edit does to the entry that a story leaves what it does to an entry of a registry. -/
theorem entry_concat (story : Story φ ν) (e : Edit φ ν) :
    entry (story ++ [e]) = (entry story).edit e := by
  cases e with
  | declare s => exact entry_declare story s
  | registerWith s handle => exact entry_registerWith story s handle
  | registerSingleton s instanceOf => exact entry_registerSingleton story s instanceOf
  | bindFactory id handle => exact entry_bindFactory story id handle
  | bindSingleton id instanceOf => exact entry_bindSingleton story id instanceOf

end Story

namespace Registry

theorem after_concat (r : Registry φ ν) (edits : List (Edit φ ν)) (e : Edit φ ν) :
    r.after (edits ++ [e]) = ((edit e).run (r.after edits)).state :=
  List.foldl_concat ..

/-- The registry of a manifest comes about by declaring its settlers. -/
theorem ofManifest_after (m : Manifest) (edits : List (Edit φ ν)) :
    (ofManifest m).after edits =
      ({} : Registry φ ν).after (m.settlers.map Edit.declare ++ edits) := by
  have declaring : ∀ (r : Registry φ ν) (settlers : List Settler),
      settlers.foldl afterDeclaring r = r.after (settlers.map Edit.declare) := by
    intro r settlers
    unfold after
    rw [List.foldl_map]
    congr
    funext r s
    exact (state_declare r s).symm
  rw [ofManifest, declaring]
  exact List.foldl_append.symm

/-- The entry of an identity is the one that its story leaves. -/
theorem entry_after (history : List (Edit φ ν)) (id : SettlerId) :
    (({} : Registry φ ν).after history).entry id = Story.entry (Story.of history id) := by
  -- From the end: the last edit acts on the entry that the others have left.
  induction history using List.reverseRecOn with
  | nil => rfl
  | append_singleton history e ih =>
      have indexed : (({} : Registry φ ν).after history).Indexed :=
        (consistent_empty.after history).indexed
      rw [after_concat, indexed.entry_edit, ih, Story.of_concat]
      split
      · exact (Story.entry_concat _ e).symm
      · rfl

/-- Whatever is declared is listed, at the place of its first declaration. -/
theorem ids_after (history : List (Edit φ ν)) :
    (({} : Registry φ ν).after history).ids =
      ((history.filterMap Edit.declared?).map (·.id)).eraseDups := by
  induction history using List.reverseRecOn with
  | nil => rfl
  | append_singleton history e ih =>
      have indexed : (({} : Registry φ ν).after history).Indexed :=
        (consistent_empty.after history).indexed
      rw [after_concat, indexed.ids_edit, ih, List.filterMap_append, List.map_append]
      cases declares : e.declared? with
      | none => simp [declares]
      | some s =>
          have sameId := e.id_of_declared? declares
          rw [List.filterMap_cons_some declares, List.filterMap_nil, List.map_singleton,
            eraseDups_concat, sameId]
          simp only [reduceCtorEq, false_or, List.mem_eraseDups]

/-- Constructing a value goes by the entry of the identity. -/
theorem construct_eq_of_entry {r : Registry φ ν} {id : SettlerId} {story : Story φ ν}
    (same : r.entry id = Story.entry story) (call : φ → Action ω StrategyEvent String ν) :
    r.construct call id = Story.construct story call id := by
  have binding : r.bindings[id]? = (Story.entry story).binding := congrArg Entry.binding same
  unfold construct Story.construct
  rw [binding, Story.entry]
  cases Story.shared? story with
  | some instanceOf => rfl
  | none => cases Story.factory? story <;> rfl

/-- What a registry shows is told by its history, seen one identity at a time.  The list has the
declared identities in the order of their first declaration, and with each of them the settler that
its story tells; so has the look-up; and a value is made as the story tells.  An edit changes
nothing that is shown of another identity.  A factory that is offered for itself is accepted just if
the identity is declared and not a singleton, and a refused binding changes nothing at all. -/
theorem after_shows_stories (m : Manifest) (edits : List (Edit φ ν)) :
    let history := m.settlers.map .declare ++ edits
    let r : Registry φ ν := (ofManifest m).after edits
    let declared := ((history.filterMap Edit.declared?).map (·.id)).eraseDups
    r.settlers.map (·.id) = declared ∧
    r.settlers = declared.filterMap (fun id => (Story.of history id).settler?) ∧
    (∀ id, r.settler? id = (Story.of history id).settler?) ∧
    (∀ (call : φ → Action ω StrategyEvent String ν) (id : SettlerId),
      r.construct call id = (Story.of history id).construct call id) ∧
    (∀ e : Edit φ ν,
      let r' := ((edit e).run r).state
      r'.settlers.filter (·.id ≠ e.id) = r.settlers.filter (·.id ≠ e.id) ∧
      ∀ id, e.id ≠ id → r'.settler? id = r.settler? id ∧
        ∀ call : φ → Action ω StrategyEvent String ν, r'.construct call id = r.construct call id) ∧
    (∀ id handle, ((bindFactory id handle).run r).result = .ok () ↔
      (Story.of history id).declared? ≠ none ∧ (Story.of history id).isSingleton = false) ∧
    (∀ id handle cause, ((bindFactory id handle).run r).result = .error cause →
      ((bindFactory id handle).run r).state = r) ∧
    ∀ id instanceOf cause, ((bindSingleton id instanceOf).run r).result = .error cause →
      ((bindSingleton id instanceOf).run r).state = r := by
  intro history r declared
  have consistent : r.Consistent := (consistent_ofManifest m).after edits
  have indexed := consistent.indexed
  have same : r = ({} : Registry φ ν).after history := ofManifest_after m edits
  have entries : ∀ id, r.entry id = Story.entry (Story.of history id) := by
    intro id
    rw [same, entry_after]
  have settlers : ∀ id, r.settler? id = Story.settler? (Story.of history id) :=
    fun id => congrArg Entry.settler (entries id)
  have ids : r.ids = declared := by rw [same, ids_after]
  refine ⟨ids, ?_, settlers, fun call id => construct_eq_of_entry (entries id) call, ?_, ?_,
    fun _ _ _ refused => state_bindFactory_of_error refused,
    fun _ _ _ refused => state_bindSingleton_of_error refused⟩
  · rw [← ids, ← funext settlers]
    exact indexed.settlers_eq
  · intro e r'
    refine ⟨consistent.others_edit e, fun id otherId => ?_⟩
    have kept : r'.entry id = r.entry id := by rw [indexed.entry_edit, if_neg otherId]
    refine ⟨congrArg Entry.settler kept, fun call => ?_⟩
    rw [construct_eq_of_entry (kept.trans (entries id)), construct_eq_of_entry (entries id)]
  · intro id handle
    rw [result_bindFactory_eq_ok_iff, settlers, Story.any_settler?]
    simp [Option.isSome_iff_ne_none]

-- A singleton without an instance may become an ordinary settler again, but must find a new factory.
example :
    let worker : Settler := { id := ⟨"Worker"⟩ }
    let story : Story Nat Nat :=
      [.registerWith worker 1, .declare worker.asSingleton, .bindFactory worker.id 2,
        .declare worker]
    story.settler? = some worker ∧ story.factory? = none ∧
      Story.factory? (story ++ [.bindFactory worker.id 3]) = some 3 := by
  decide

end Registry

end Settlement
