import Settlement.Proofs.Founding.Call

/-!
# The plan of a run

What a founder has to do is a list of tasks, to be done from the front.  At first each chosen group
is to be selected.  A selection puts the productions of its candidates in front of all other tasks,
and a production the acceptance of its value.  The first task that fails ends the work.

The nested loops of a founder do exactly this work: their calls of strategies are those of the tasks
that are done, and they end in the same state with the same result.
-/

namespace Settlement

variable {χ ω η ν α β : Type}

/-- Something to be done in the settling of a colony. -/
inductive Task (χ ω η ν : Type) where
  | select (g : Group χ ω η ν)
  | produce (g : Group χ ω η ν) (c : Candidate)
  | accept (g : Group χ ω η ν) (c : Candidate) (value : Produced ν)

namespace Task

/-- The call that a task makes.  It makes none if the group has no strategy for the candidate. -/
def call? (f : Founder χ ω η ν) : Task χ ω η ν → Option (Call χ ω η ν)
  | .select g => some (.select g.selector (f.context g))
  | .produce g c => (g.producerFor c).toOption.map fun p => .produce g.marker p c
  | .accept g c value => (g.acceptorFor c).toOption.map fun a => .accept g.marker a c value

/-- Does a task, and gives those that are to be done right after it. -/
def perform (f : Founder χ ω η ν) :
    Task χ ω η ν → Action (Site χ ω) η SettleError (List (Task χ ω η ν))
  | .select g =>
      List.map (.produce g) <$>
        (g.selector.select (f.context g)).inWorld.mapError (SettleError.discovery g.marker)
  | .produce g c =>
      match g.producerFor c with
      | .error cause => Action.fail (.production g.marker c.id cause)
      | .ok p =>
          (fun value => [.accept g c value]) <$>
            (p.produce c).mapError (SettleError.production g.marker c.id)
  | .accept g c value =>
      match g.acceptorFor c with
      | .error cause => Action.fail (.acceptance g.marker c.id cause)
      | .ok a =>
          (fun _ => []) <$> (a.accept c value).mapError (SettleError.acceptance g.marker c.id)

theorem perform_produce_of_ok {g : Group χ ω η ν} {c : Candidate} {p : Producer χ ω η ν}
    (serves : g.producerFor c = .ok p) (f : Founder χ ω η ν) :
    (produce g c).perform f = (fun value => [accept g c value]) <$>
      (p.produce c).mapError (SettleError.production g.marker c.id) := by
  rw [perform, serves]

theorem perform_produce_of_error {g : Group χ ω η ν} {c : Candidate} {cause : ProductionError}
    (lacks : g.producerFor c = .error cause) (f : Founder χ ω η ν) :
    (produce g c).perform f = Action.fail (.production g.marker c.id cause) := by
  rw [perform, lacks]

theorem perform_accept_of_ok {g : Group χ ω η ν} {c : Candidate} {value : Produced ν}
    {a : Acceptor χ ω η ν} (serves : g.acceptorFor c = .ok a) (f : Founder χ ω η ν) :
    (accept g c value).perform f = (fun _ => []) <$>
      (a.accept c value).mapError (SettleError.acceptance g.marker c.id) := by
  rw [perform, serves]

theorem perform_accept_of_error {g : Group χ ω η ν} {c : Candidate} {value : Produced ν}
    {cause : AcceptanceError} (lacks : g.acceptorFor c = .error cause) (f : Founder χ ω η ν) :
    (accept g c value).perform f = Action.fail (.acceptance g.marker c.id cause) := by
  rw [perform, lacks]

/-- Whether an error says that a task failed: of its kind, in its group, at its candidate. -/
def Blames : SettleError → Task χ ω η ν → Prop
  | .discovery group _, .select g => group = g.marker
  | .production group settler _, .produce g c => group = g.marker ∧ settler = c.id
  | .acceptance group settler _, .accept g c _ => group = g.marker ∧ settler = c.id
  | _, _ => False

/-- A task that fails says so itself. -/
theorem blames_of_perform {f : Founder χ ω η ν} {t : Task χ ω η ν} {s : Site χ ω}
    {e : SettleError} (failed : ((t.perform f).run s).result = .error e) : Blames e t := by
  cases t with
  | select g =>
      obtain ⟨_, rfl⟩ := Action.exists_cause_of_map_mapError failed
      rfl
  | produce g c =>
      simp only [perform] at failed
      split at failed
      · cases failed
        exact ⟨rfl, rfl⟩
      · obtain ⟨_, rfl⟩ := Action.exists_cause_of_map_mapError failed
        exact ⟨rfl, rfl⟩
  | accept g c value =>
      simp only [perform] at failed
      split at failed
      · cases failed
        exact ⟨rfl, rfl⟩
      · obtain ⟨_, rfl⟩ := Action.exists_cause_of_map_mapError failed
        exact ⟨rfl, rfl⟩

end Task

/-- A task that is done, and the site it is done at. -/
structure Step (χ ω η ν : Type) where
  task : Task χ ω η ν
  site : Site χ ω

namespace Step

/-- The run of a step. -/
def run (f : Founder χ ω η ν) (step : Step χ ω η ν) :
    Outcome (Site χ ω) η SettleError (List (Task χ ω η ν)) :=
  (step.task.perform f).run step.site

/-- The call that a step makes, if it makes one. -/
def call? (f : Founder χ ω η ν) (step : Step χ ω η ν) : Option (Call χ ω η ν) :=
  step.task.call? f

theorem filterMap_call?_cons (f : Founder χ ω η ν) (step : Step χ ω η ν)
    (steps : List (Step χ ω η ν)) :
    (step :: steps).filterMap (call? f) =
      (step.task.call? f).toList ++ steps.filterMap (call? f) := by
  rw [List.filterMap_cons, call?]
  cases step.task.call? f <;> rfl

end Step

/-- Doing tasks from the front: the steps that are taken, the last of which may have failed, and
what comes of them. -/
inductive Performed (f : Founder χ ω η ν) :
    List (Task χ ω η ν) → Site χ ω → List (Step χ ω η ν) → Site χ ω →
      Except SettleError Unit → Prop where
  | nil {s : Site χ ω} : Performed f [] s [] s (.ok ())
  | stop {t : Task χ ω η ν} {rest : List (Task χ ω η ν)} {s : Site χ ω} {e : SettleError} :
      (Step.run f ⟨t, s⟩).result = .error e →
      Performed f (t :: rest) s [⟨t, s⟩] (Step.run f ⟨t, s⟩).state (.error e)
  | next {t : Task χ ω η ν} {more rest : List (Task χ ω η ν)} {steps : List (Step χ ω η ν)}
      {s s' : Site χ ω} {result : Except SettleError Unit} :
      (Step.run f ⟨t, s⟩).result = .ok more →
      Performed f (more ++ rest) (Step.run f ⟨t, s⟩).state steps s' result →
      Performed f (t :: rest) s (⟨t, s⟩ :: steps) s' result

namespace Performed

variable {f : Founder χ ω η ν} {agenda rest : List (Task χ ω η ν)}
  {steps more : List (Step χ ω η ν)} {s s' s'' : Site χ ω} {result : Except SettleError Unit}

/-- The work is determined by the tasks and the state it begins in. -/
theorem unique {steps' : List (Step χ ω η ν)} {result' : Except SettleError Unit}
    (first : Performed f agenda s steps s' result)
    (second : Performed f agenda s steps' s'' result') :
    steps = steps' ∧ s' = s'' ∧ result = result' := by
  induction first generalizing steps' s'' result' with
  | nil =>
      cases second
      exact ⟨rfl, rfl, rfl⟩
  | stop failed =>
      cases second with
      | stop failed' =>
          rw [failed] at failed'
          cases failed'
          exact ⟨rfl, rfl, rfl⟩
      | next succeeded _ =>
          rw [failed] at succeeded
          contradiction
  | next succeeded _ ih =>
      cases second with
      | stop failed =>
          rw [succeeded] at failed
          contradiction
      | next succeeded' work =>
          rw [succeeded] at succeeded'
          cases succeeded'
          obtain ⟨rfl, rfl, rfl⟩ := ih work
          exact ⟨rfl, rfl, rfl⟩

/-- After tasks that all succeed, the work goes on with those behind them. -/
theorem append_of_ok (first : Performed f agenda s steps s' (.ok ()))
    (second : Performed f rest s' more s'' result) :
    Performed f (agenda ++ rest) s (steps ++ more) s'' result := by
  generalize outcome : Except.ok () = ended at first
  induction first with
  | nil => exact second
  | stop => contradiction
  | next succeeded _ ih =>
      have work := ih second outcome
      rw [List.append_assoc] at work
      exact .next succeeded work

/-- A task that fails keeps the work from those behind it. -/
theorem append_of_error {e : SettleError} (first : Performed f agenda s steps s' (.error e)) :
    Performed f (agenda ++ rest) s steps s' (.error e) := by
  generalize outcome : Except.error e = ended at first ⊢
  induction first with
  | nil => contradiction
  | stop failed => exact .stop failed
  | next succeeded _ ih =>
      have work := ih outcome
      rw [List.append_assoc] at work
      exact .next succeeded work

/-- The work ends well if and only if no step fails. -/
theorem result_eq_ok_iff (work : Performed f agenda s steps s' result) :
    result = .ok () ↔ ∀ step ∈ steps, ∀ e, (step.run f).result ≠ .error e := by
  induction work with
  | nil => simp
  | stop failed => simpa using ⟨_, failed⟩
  | next succeeded _ ih => simp [ih, succeeded]

/-- Work that does not end well ends at a step that fails, and its error blames the task of it. -/
theorem exists_failed {e : SettleError} (work : Performed f agenda s steps s' (.error e)) :
    ∃ step ∈ steps.getLast?, (step.run f).result = .error e ∧ Task.Blames e step.task := by
  generalize outcome : Except.error e = ended at work
  induction work with
  | nil => contradiction
  | stop failed =>
      cases outcome
      exact ⟨_, rfl, failed, Task.blames_of_perform failed⟩
  | next _ _ ih =>
      obtain ⟨step, last, failed⟩ := ih outcome
      refine ⟨step, ?_, failed⟩
      rw [List.getLast?_cons, Option.mem_def.mp last]
      rfl

end Performed

/-! ## Steps of a run that do tasks -/

/-- A step of a recorded run does a task, whose answer calls for further tasks: result and state are
those of the task, and so is the call. -/
structure Does (f : Founder χ ω η ν) (x : Founder.Run χ ω (Call χ ω η ν ⊕ η) α)
    (t : Task χ ω η ν) (follow : α → List (Task χ ω η ν)) : Prop where
  result : ∀ s, ((t.perform f).run s).result = (x.run s).result.map follow
  state : ∀ s, ((t.perform f).run s).state = (x.run s).state
  calls : ∀ s, (x.run s).events.filterMap Call.ofEvent? = (t.call? f).toList

/-- To do a task, a recorded step may do it without its record. -/
theorem Does.of_keepEvents {f : Founder χ ω η ν} {x : Founder.Run χ ω (Call χ ω η ν ⊕ η) α}
    {plain : Founder.Run χ ω η α} {t : Task χ ω η ν} {follow : α → List (Task χ ω η ν)}
    (same : x.keepEvents Call.otherEvent? = plain)
    (result : ∀ s, ((t.perform f).run s).result = (plain.run s).result.map follow)
    (state : ∀ s, ((t.perform f).run s).state = (plain.run s).state)
    (calls : ∀ s, (x.run s).events.filterMap Call.ofEvent? = (t.call? f).toList) :
    Does f x t follow := by
  subst same
  exact ⟨result, state, calls⟩

/-- A recorded run does the tasks of an agenda, and makes the calls of the steps it takes. -/
def Enacts (f : Founder χ ω η ν) (x : Founder.Run χ ω (Call χ ω η ν ⊕ η) Unit)
    (agenda : List (Task χ ω η ν)) : Prop :=
  ∀ s, ∃ steps, Performed f agenda s steps (x.run s).state (x.run s).result ∧
    (x.run s).events.filterMap Call.ofEvent? = steps.filterMap (Step.call? f)

namespace Enacts

variable {f : Founder χ ω η ν} {agenda rest : List (Task χ ω η ν)}
  {x y : Founder.Run χ ω (Call χ ω η ν ⊕ η) Unit}

theorem pure : Enacts f (pure ()) [] :=
  fun _ => ⟨[], .nil, rfl⟩

theorem note (e : FoundingEvent) : Enacts f (Action.note e) [] :=
  fun _ => ⟨[], .nil, rfl⟩

/-- What a founder reports about the end of a run is no task. -/
theorem thenAlways (enacts : Enacts f x agenda) (e : FoundingEvent) :
    Enacts f (x.thenAlways (.inl e)) agenda := by
  intro s
  obtain ⟨steps, work, calls⟩ := enacts s
  refine ⟨steps, work, ?_⟩
  rw [Action.run_thenAlways, List.filterMap_append, calls]
  exact List.append_nil _

theorem seq (first : Enacts f x agenda) (second : Enacts f y rest) :
    Enacts f (do x; y) (agenda ++ rest) := by
  intro s
  obtain ⟨steps, work, calls⟩ := first s
  cases answer : (x.run s).result with
  | error e =>
      rw [answer] at work
      rw [Action.run_bind_of_error answer]
      exact ⟨steps, work.append_of_error, calls⟩
  | ok a =>
      rw [answer] at work
      obtain ⟨more, work', calls'⟩ := second (x.run s).state
      rw [Action.run_bind_of_ok answer]
      refine ⟨steps ++ more, work.append_of_ok work', ?_⟩
      rw [List.filterMap_append, List.filterMap_append, calls, calls']

theorem forM {l : List β} {k : β → Founder.Run χ ω (Call χ ω η ν ⊕ η) Unit}
    {agendaOf : β → List (Task χ ω η ν)} (each : ∀ b ∈ l, Enacts f (k b) (agendaOf b)) :
    Enacts f (forM l k) (l.flatMap agendaOf) := by
  induction l with
  | nil => exact pure
  | cons b rest ih =>
      rw [List.forM_cons, List.flatMap_cons]
      exact (each b List.mem_cons_self).seq
        (ih fun b' member => each b' (List.mem_cons_of_mem b member))

/-- A step that does a task may be followed by the tasks that its answer calls for. -/
theorem step {x : Founder.Run χ ω (Call χ ω η ν ⊕ η) α} {t : Task χ ω η ν}
    {follow : α → List (Task χ ω η ν)} {k : α → Founder.Run χ ω (Call χ ω η ν ⊕ η) Unit}
    (does : Does f x t follow) (after : ∀ a, Enacts f (k a) (follow a)) :
    Enacts f (x >>= k) [t] := by
  intro s
  have outcome := does.result s
  have state := does.state s
  have calls := does.calls s
  cases answer : (x.run s).result with
  | error e =>
      rw [answer] at outcome
      rw [Action.run_bind_of_error answer, ← state]
      refine ⟨[⟨t, s⟩], .stop outcome, ?_⟩
      rw [calls, Step.filterMap_call?_cons]
      exact (List.append_nil _).symm
  | ok a =>
      rw [answer] at outcome
      obtain ⟨steps, work, calls'⟩ := after a (x.run s).state
      rw [Action.run_bind_of_ok answer]
      rw [← state] at work
      refine ⟨⟨t, s⟩ :: steps, .next outcome (by rwa [List.append_nil, ← state]), ?_⟩
      rw [List.filterMap_append, calls, calls', Step.filterMap_call?_cons]

end Enacts

/-! ## The loops of a founder -/

namespace Founder

/-- A recorded step of a strategy reports its call, and no other. -/
theorem calls_recorded {ε : Type} (call : Call χ ω η ν) (x : Action (Site χ ω) η ε α)
    (locate : ε → SettleError) (s : Site χ ω) :
    ((((do Action.note call; x.below : Action (Site χ ω) (Call χ ω η ν ⊕ η) ε α).mapError
      locate).below : Run χ ω (Call χ ω η ν ⊕ η) α).run s).events.filterMap Call.ofEvent? =
        [call] := by
  simp [Call.ofEvent?, List.filterMap_map]

theorem does_select (f : Founder χ ω η ν) (g : Group χ ω η ν) :
    Does f (f.recorded.select g.recorded) (.select g) (List.map (.produce g)) := by
  refine .of_keepEvents (f.keepEvents_select g) (fun s => ?_) (fun s => ?_) fun s => ?_
  · rw [Task.perform, Action.run_map]
    rfl
  · rw [Task.perform, Action.run_map]
    rfl
  · exact calls_recorded (.select g.selector (f.context g))
      (g.selector.select (f.context g)).inWorld (.discovery g.marker) s

theorem does_produce (f : Founder χ ω η ν) (g : Group χ ω η ν) (c : Candidate) :
    Does f (produce g.recorded c) (.produce g c) fun value => [.accept g c value] := by
  refine .of_keepEvents (keepEvents_produce g c) (fun s => ?_) (fun s => ?_) fun s => ?_
  · simp only [Task.perform, produce]
    cases g.producerFor c with
    | error cause => rfl
    | ok p => simp
  · simp only [Task.perform, produce]
    cases g.producerFor c with
    | error cause => rfl
    | ok p => simp
  · simp only [Task.call?, produce, g.producerFor_recorded c]
    cases g.producerFor c with
    | error cause => rfl
    | ok p =>
        exact calls_recorded (.produce g.marker p c) (p.produce c)
          (.production g.marker c.id) s

theorem does_accept (f : Founder χ ω η ν) (g : Group χ ω η ν) (c : Candidate)
    (value : Produced ν) :
    Does f (accept g.recorded c value) (.accept g c value) fun _ => [] := by
  refine .of_keepEvents (keepEvents_accept g c value) (fun s => ?_) (fun s => ?_) fun s => ?_
  · simp only [Task.perform, accept]
    cases g.acceptorFor c with
    | error cause => rfl
    | ok a => simp
  · simp only [Task.perform, accept]
    cases g.acceptorFor c with
    | error cause => rfl
    | ok a => simp
  · simp only [Task.call?, accept, g.acceptorFor_recorded c]
    cases g.acceptorFor c with
    | error cause => rfl
    | ok a =>
        exact calls_recorded (.accept g.marker a c value) (a.accept c value)
          (.acceptance g.marker c.id) s

/-- Settling a candidate is its production, with the acceptance of the value right behind it. -/
theorem enacts_settle (f : Founder χ ω η ν) (g : Group χ ω η ν) (c : Candidate) :
    Enacts f (settle g.recorded c) [.produce g c] := by
  refine .step (does_produce f g c) fun value => ?_
  exact .step (does_accept f g c value) fun _ => .note _

/-- Settling a group is its selection, with the productions of all candidates right behind it. -/
theorem enacts_settleGroup (f : Founder χ ω η ν) (g : Group χ ω η ν) :
    Enacts f (f.recorded.settleGroup g.recorded) [.select g] := by
  refine .step (does_select f g) fun candidates => ?_
  have settling : Enacts f (forM candidates (settle g.recorded)) (candidates.map (.produce g)) := by
    have each := Enacts.forM fun c (_ : c ∈ candidates) => f.enacts_settle g c
    simpa [List.map_eq_flatMap] using each
  have closing := settling.seq (.note (.groupDone g.marker candidates.length))
  rw [List.append_nil] at closing
  exact (Enacts.note _).seq closing

/-- The plan of a run: the groups that the filter lets pass are to be selected, in their order. -/
def plan (f : Founder χ ω η ν) (filter : Option Marker) : List (Task χ ω η ν) :=
  (f.groups.filter fun g => filter = none ∨ filter = some g.marker).map .select

theorem plan_eq (f : Founder χ ω η ν) (filter : Option Marker) :
    f.plan filter = (f.chosen filter).map .select := by
  unfold plan chosen
  congr 2
  funext g
  cases filter with
  | none => simp
  | some m => simp [Bool.beq_eq_decide_eq, eq_comm]

theorem enacts_found (f : Founder χ ω η ν) (filter : Option Marker) :
    Enacts f (f.recorded.found filter) (f.plan filter) := by
  have groups : Enacts f (forM (f.chosen filter) fun g => f.recorded.settleGroup g.recorded)
      (f.plan filter) := by
    have each := Enacts.forM fun g (_ : g ∈ f.chosen filter) => f.enacts_settleGroup g
    simpa [plan_eq, List.map_eq_flatMap] using each
  have report : Enacts f
      (if ((f.chosen filter).map Group.recorded).isEmpty && filter.isSome then
        Action.note .noMatchingGroup else Pure.pure ()) [] := by
    split
    · exact .note _
    · exact .pure
  have body := groups.seq report
  rw [List.append_nil] at body
  unfold found
  simp only [chosen_recorded, List.forM_eq_forM, List.forM_map]
  exact (Enacts.note _).seq (body.thenAlways _)

/-- The calls of strategies in a run. -/
def calls (f : Founder χ ω η ν) (filter : Option Marker) (s : Site χ ω) : List (Call χ ω η ν) :=
  ((f.recorded.found filter).run s).events.filterMap Call.ofEvent?

/-- A run takes steps that do what is planned, and makes their calls. -/
theorem exists_steps (f : Founder χ ω η ν) (filter : Option Marker) (s : Site χ ω) :
    ∃ steps, f.calls filter s = steps.filterMap (Step.call? f) ∧
      Performed f (f.plan filter) s steps ((f.found filter).run s).state
        ((f.found filter).run s).result := by
  obtain ⟨steps, work, calls⟩ := f.enacts_found filter s
  rw [← f.keepEvents_found filter, Action.run_keepEvents]
  exact ⟨steps, calls, work⟩

/-- A founder fails in one of its groups, or not at all. -/
theorem exists_group_of_found {f : Founder χ ω η ν} {filter : Option Marker} {s : Site χ ω}
    {e : SettleError} (failed : ((f.found filter).run s).result = .error e) :
    ∃ group, e.group? = some group := by
  obtain ⟨steps, -, work⟩ := f.exists_steps filter s
  rw [failed] at work
  obtain ⟨⟨task, _⟩, -, -, blamed⟩ := work.exists_failed
  cases e with
  | composition cause => cases task <;> exact blamed.elim
  | discovery group cause => exact ⟨group, rfl⟩
  | production group settler cause => exact ⟨group, rfl⟩
  | acceptance group settler cause => exact ⟨group, rfl⟩

/-- The run of a founder is its plan, cut after the first step that fails.  Recording the calls of
strategies changes nothing else.  The calls are those of the steps that are taken, which the plan
and the site determine, as they do the end of the run: each step is taken at the site the one before
it left, the run ends well just if no step fails, and otherwise the last step has failed with the
error of the run, which names its group and its candidate. -/
theorem found_performs_plan (f : Founder χ ω η ν) (filter : Option Marker) (s : Site χ ω) :
    let o := (f.recorded.found filter).run s
    (f.found filter).run s = ⟨o.result, o.state, o.events.filterMap Call.otherEvent?⟩ ∧
    ∃ steps,
      Performed f (f.plan filter) s steps o.state o.result ∧
      (∀ steps' s' result, Performed f (f.plan filter) s steps' s' result →
        steps' = steps ∧ s' = o.state ∧ result = o.result) ∧
      o.events.filterMap Call.ofEvent? = steps.filterMap (Step.call? f) ∧
      (o.result = .ok () ↔ ∀ step ∈ steps, ∀ e, (step.run f).result ≠ .error e) ∧
      ∀ e, o.result = .error e →
        ∃ step ∈ steps.getLast?, (step.run f).result = .error e ∧ Task.Blames e step.task := by
  intro o
  refine ⟨?_, ?_⟩
  · rw [← f.keepEvents_found filter]
    rfl
  · obtain ⟨steps, work, calls⟩ := f.enacts_found filter s
    refine ⟨steps, work, ?_, calls, work.result_eq_ok_iff, ?_⟩
    · intro steps' s' result other
      exact other.unique work
    · intro e failed
      rw [show ((f.recorded.found filter).run s).result = .error e from failed] at work
      exact work.exists_failed

end Founder

end Settlement
