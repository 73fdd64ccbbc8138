import Settlement.Proofs.Founding.Piecewise
import Settlement.Proofs.Founding.Plan

/-!
# What a founder says about a run

A founder reports how many candidates it has selected for a group, each candidate that has been
settled, and that a group is done.  What it says is compared with the steps that are really taken:
the steps of a run fall into stretches, one for each group that has its turn, and what is said in a
stretch is told by how its steps ended.

The calls of strategies are seen in between, so that nothing is said too early or too late.
-/

namespace Settlement

variable {χ ω η ν α β : Type}

/-- What can be seen of a run: calls of strategies, and what the founder says. -/
inductive Moment (χ ω η ν : Type) where
  | call (c : Call χ ω η ν)
  | report (e : FoundingEvent)

namespace Moment

/-- What is seen of an event of a recorded run; what strategies report is passed over. -/
def ofEvent? : FoundingEvent ⊕ (Call χ ω η ν ⊕ η) → Option (Moment χ ω η ν)
  | .inl e => some (.report e)
  | .inr (.inl c) => some (.call c)
  | .inr (.inr _) => none

/-- What the founder itself reports, if it reports something. -/
def said? : Moment χ ω η ν → Option FoundingEvent
  | .call _ => none
  | .report e => some e

@[simp]
theorem said?_call (c : Call χ ω η ν) : (call c).said? = none :=
  rfl

@[simp]
theorem said?_report (e : FoundingEvent) : (report e : Moment χ ω η ν).said? = some e :=
  rfl

end Moment

/-! ## Steps -/

namespace Step

/-- The candidate whose value is accepted in a step. -/
def accepted? (f : Founder χ ω η ν) (step : Step χ ω η ν) : Option Candidate :=
  match step.task, (step.run f).result with
  | .accept _ c _, .ok _ => some c
  | _, _ => none

/-- A step that is taken for a candidate of a group. -/
def IsTurn (g : Group χ ω η ν) (step : Step χ ω η ν) : Prop :=
  ∃ c, step.task = .produce g c ∨ ∃ value, step.task = .accept g c value

/-- A step for a candidate of a group as it is seen: its call, and the report that the candidate is
settled if its value has been accepted. -/
def moments (f : Founder χ ω η ν) (group : Marker) (step : Step χ ω η ν) : List (Moment χ ω η ν) :=
  (step.call? f).toList.map .call ++
    (step.accepted? f).toList.map fun c => .report (.settled group c.id)

variable {f : Founder χ ω η ν} {g : Group χ ω η ν} {c : Candidate} {s : Site χ ω}

theorem accepted?_produce : accepted? f ⟨.produce g c, s⟩ = none := by
  simp [accepted?]

theorem accepted?_of_error {step : Step χ ω η ν} {e : SettleError}
    (failed : (step.run f).result = .error e) : step.accepted? f = none := by
  simp [accepted?, failed]

theorem accepted?_accept_of_ok {value : Produced ν} {more : List (Task χ ω η ν)}
    (succeeded : (Step.run f ⟨.accept g c value, s⟩).result = .ok more) :
    accepted? f ⟨.accept g c value, s⟩ = some c := by
  simp [accepted?, succeeded]

theorem moments_of_accepted?_eq_none {group : Marker} {step : Step χ ω η ν}
    (notAccepted : step.accepted? f = none) :
    step.moments f group = (step.call? f).toList.map .call := by
  simp [moments, notAccepted]

theorem filterMap_said?_moments (group : Marker) (step : Step χ ω η ν) :
    (step.moments f group).filterMap Moment.said? =
      (step.accepted? f).toList.map fun c => .settled group c.id := by
  rw [moments, List.filterMap_append]
  cases step.call? f <;> cases step.accepted? f <;> rfl

end Step

/-- A production that succeeds calls for the acceptance of its value. -/
theorem Task.exists_value_of_produce {f : Founder χ ω η ν} {g : Group χ ω η ν} {c : Candidate}
    {s : Site χ ω} {more : List (Task χ ω η ν)}
    (succeeded : (Step.run f ⟨.produce g c, s⟩).result = .ok more) :
    ∃ value, more = [.accept g c value] := by
  simp only [Step.run, perform] at succeeded
  split at succeeded
  · contradiction
  · obtain ⟨value, -, rfl⟩ := Action.exists_answer_of_map_mapError succeeded
    exact ⟨value, rfl⟩

/-- An acceptance that succeeds calls for nothing. -/
theorem Task.eq_nil_of_accept {f : Founder χ ω η ν} {g : Group χ ω η ν} {c : Candidate}
    {value : Produced ν} {s : Site χ ω} {more : List (Task χ ω η ν)}
    (succeeded : (Step.run f ⟨.accept g c value, s⟩).result = .ok more) : more = [] := by
  simp only [Step.run, perform] at succeeded
  split at succeeded
  · contradiction
  · obtain ⟨-, -, rfl⟩ := Action.exists_answer_of_map_mapError succeeded
    rfl

/-- Where the candidates of a group have their turns, the values of the first of them are accepted,
and those of all of them just if no step fails. -/
theorem Performed.accepted_of_turns {f : Founder χ ω η ν} {g : Group χ ω η ν}
    {candidates : List Candidate} {s s' : Site χ ω} {turns : List (Step χ ω η ν)}
    {result : Except SettleError Unit}
    (work : Performed f (candidates.map (.produce g)) s turns s' result) :
    (∀ step ∈ turns, step.IsTurn g) ∧ turns.filterMap (Step.accepted? f) <+: candidates ∧
      (result = .ok () ↔ turns.filterMap (Step.accepted? f) = candidates) := by
  induction candidates generalizing s turns with
  | nil =>
      cases work
      simp
  | cons c rest ih =>
      rw [List.map_cons] at work
      cases work with
      | stop failed =>
          have ownTurn : Step.IsTurn g ⟨.produce g c, s⟩ := ⟨c, .inl rfl⟩
          simpa [Step.accepted?_produce] using ownTurn
      | next produced work =>
          obtain ⟨value, rfl⟩ := Task.exists_value_of_produce produced
          rw [List.singleton_append] at work
          have produceTurn : Step.IsTurn g ⟨.produce g c, s⟩ := ⟨c, .inl rfl⟩
          have acceptTurn (s : Site χ ω) : Step.IsTurn g ⟨.accept g c value, s⟩ :=
            ⟨c, .inr ⟨value, rfl⟩⟩
          cases work with
          | stop failed =>
              simp [Step.accepted?_produce, Step.accepted?_of_error failed, produceTurn,
                acceptTurn]
          | next accepted work =>
              obtain rfl := Task.eq_nil_of_accept accepted
              obtain ⟨isTurn, isPrefix, isAll⟩ := ih work
              simp only [List.filterMap_cons, Step.accepted?_produce,
                Step.accepted?_accept_of_ok accepted, List.forall_mem_cons]
              exact ⟨⟨produceTurn, acceptTurn _, isTurn⟩, by simpa using isPrefix,
                by simpa using isAll⟩

/-! ## Stretches -/

/-- The part of a run in which one group has its turn. -/
structure Stretch (χ ω η ν : Type) where
  group : Group χ ω η ν
  /-- Where the candidates are selected. -/
  site : Site χ ω
  /-- The steps that are taken for the candidates. -/
  turns : List (Step χ ω η ν)

namespace Stretch

/-- The steps of a stretch: the selection, and what is done for the candidates. -/
def steps (x : Stretch χ ω η ν) : List (Step χ ω η ν) :=
  ⟨.select x.group, x.site⟩ :: x.turns

/-- The candidates that the selector has answered with, unless it has failed. -/
def selected? (f : Founder χ ω η ν) (x : Stretch χ ω η ν) : Option (List Candidate) :=
  ((x.group.selector.select (f.context x.group)).run x.site.world).result.toOption

/-- The candidates whose values have been accepted, in the order of their acceptance. -/
def accepted (f : Founder χ ω η ν) (x : Stretch χ ω η ν) : List Candidate :=
  x.turns.filterMap (Step.accepted? f)

/-- All candidates have been accepted. -/
def IsComplete (f : Founder χ ω η ν) (x : Stretch χ ω η ν) : Prop :=
  x.selected? f = some (x.accepted f)

/-- That turns are taken only for candidates of the group: for none if the selection has failed, and
otherwise so that the first of them are accepted. -/
structure Regular (f : Founder χ ω η ν) (x : Stretch χ ω η ν) : Prop where
  turns : ∀ step ∈ x.turns, step.IsTurn x.group
  failed : x.selected? f = none → x.turns = []
  inOrder : ∀ candidates, x.selected? f = some candidates → x.accepted f <+: candidates

/-- The report that the candidates of a group are known. -/
def start (g : Group χ ω η ν) (candidates : Nat) : FoundingEvent :=
  .groupStarted g.marker g.selector.describe g.producer.mode g.acceptor.mode candidates

/-- What is to be said in a stretch: how many candidates have been selected, if the selection has not
failed; each candidate whose value has been accepted; and that the group is done, with the number of
these candidates, if they are all. -/
def reports (f : Founder χ ω η ν) (x : Stretch χ ω η ν) : List FoundingEvent :=
  match x.selected? f with
  | none => []
  | some candidates =>
      start x.group candidates.length ::
        (x.accepted f).map (fun c => .settled x.group.marker c.id) ++
          if x.accepted f = candidates then [.groupDone x.group.marker (x.accepted f).length]
          else []

/-- The reports of a stretch between the calls of strategies: the number of candidates is told after
the selection and before any turn, the settling of a candidate right after its value was accepted,
and the end of the group after all turns. -/
def story (f : Founder χ ω η ν) (x : Stretch χ ω η ν) : List (Moment χ ω η ν) :=
  .call (.select x.group.selector (f.context x.group)) ::
    match x.selected? f with
    | none => []
    | some candidates =>
        .report (start x.group candidates.length) ::
          x.turns.flatMap (Step.moments f x.group.marker) ++
            if x.accepted f = candidates then
              [.report (.groupDone x.group.marker (x.accepted f).length)]
            else []

variable {f : Founder χ ω η ν} {x : Stretch χ ω η ν}

/-- What is said in a stretch are its reports. -/
theorem filterMap_said?_story : (x.story f).filterMap Moment.said? = x.reports f := by
  have turns : (x.turns.flatMap (Step.moments f x.group.marker)).filterMap Moment.said? =
      (x.accepted f).map fun c => .settled x.group.marker c.id := by
    unfold accepted
    induction x.turns with
    | nil => rfl
    | cons step rest ih =>
        rw [List.flatMap_cons, List.filterMap_append, ih, Step.filterMap_said?_moments,
          List.filterMap_cons]
        cases step.accepted? f <;> rfl
  unfold story reports
  cases x.selected? f with
  | none => simp
  | some candidates =>
      simp only [List.filterMap_cons, List.filterMap_append, List.cons_append, turns,
        Moment.said?_call, Moment.said?_report]
      split <;> rfl

/-- The selection of a stretch succeeds as a step if the selector has answered. -/
theorem exists_result_of_selected {candidates : List Candidate}
    (selection : x.selected? f = some candidates) :
    (Step.run f ⟨.select x.group, x.site⟩).result = .ok (candidates.map (.produce x.group)) := by
  unfold selected? at selection
  rw [Step.run, Task.perform, Action.run_map, Action.run_mapError, Action.run_inWorld]
  cases outcome : ((x.group.selector.select (f.context x.group)).run x.site.world).result with
  | error e => simp [outcome, Except.toOption] at selection
  | ok found =>
      simp only [outcome, Except.toOption, Option.some.injEq] at selection
      simp [selection, Except.map]

/-- Where a stretch has failed, nothing is said after the call of the step that failed. -/
theorem exists_story_of_failed (regular : x.Regular f) (incomplete : ¬x.IsComplete f)
    {step : Step χ ω η ν} {e : SettleError} (last : step ∈ x.steps.getLast?)
    (failed : (step.run f).result = .error e) :
    ∃ before, x.story f = before ++ (step.call? f).toList.map .call := by
  unfold story
  cases selection : x.selected? f with
  | none =>
      simp only [steps, regular.failed selection, List.getLast?_singleton, Option.mem_def,
        Option.some.injEq] at last
      subst last
      exact ⟨[], rfl⟩
  | some candidates =>
      have unfinished : x.accepted f ≠ candidates := by
        rintro rfl
        exact incomplete selection
      rcases List.eq_nil_or_concat x.turns with none | ⟨before, step', turns⟩
      · -- the only step would be the selection, which has not failed
        simp only [steps, none, List.getLast?_singleton, Option.mem_def,
          Option.some.injEq] at last
        rw [← last, exists_result_of_selected selection] at failed
        contradiction
      · rw [steps, turns, List.concat_eq_append, ← List.cons_append, List.getLast?_concat] at last
        obtain rfl := Option.some.inj last
        have ending : step'.moments f x.group.marker = (step'.call? f).toList.map .call :=
          Step.moments_of_accepted?_eq_none (Step.accepted?_of_error failed)
        simp only [if_neg unfinished, turns, List.concat_eq_append, List.flatMap_append,
          List.flatMap_singleton, ending, List.append_nil]
        exact ⟨_ :: _ :: before.flatMap (Step.moments f x.group.marker), rfl⟩

end Stretch

/-! ## Steps of a run as they are seen -/

/-- A recorded run does the tasks of an agenda, and each step is seen as is told. -/
def Shows (f : Founder χ ω η ν) (x : Founder.Run χ ω (Call χ ω η ν ⊕ η) Unit)
    (agenda : List (Task χ ω η ν)) (tell : Step χ ω η ν → List (Moment χ ω η ν)) : Prop :=
  ∀ s, ∃ steps, Performed f agenda s steps (x.run s).state (x.run s).result ∧
    (x.run s).events.filterMap Moment.ofEvent? = steps.flatMap tell

namespace Shows

variable {f : Founder χ ω η ν} {agenda rest : List (Task χ ω η ν)}
  {x y : Founder.Run χ ω (Call χ ω η ν ⊕ η) Unit} {tell : Step χ ω η ν → List (Moment χ ω η ν)}

theorem pure : Shows f (pure ()) [] tell :=
  fun _ => ⟨[], .nil, rfl⟩

theorem seq (first : Shows f x agenda tell) (second : Shows f y rest tell) :
    Shows f (do x; y) (agenda ++ rest) tell := by
  intro s
  obtain ⟨steps, work, seen⟩ := first s
  cases answer : (x.run s).result with
  | error e =>
      rw [answer] at work
      rw [Action.run_bind_of_error answer]
      exact ⟨steps, work.append_of_error, seen⟩
  | ok a =>
      rw [answer] at work
      obtain ⟨more, work', seen'⟩ := second (x.run s).state
      rw [Action.run_bind_of_ok answer]
      refine ⟨steps ++ more, work.append_of_ok work', ?_⟩
      rw [List.filterMap_append, List.flatMap_append, seen, seen']

theorem forM {l : List β} {k : β → Founder.Run χ ω (Call χ ω η ν ⊕ η) Unit}
    {agendaOf : β → List (Task χ ω η ν)} (each : ∀ b ∈ l, Shows f (k b) (agendaOf b) tell) :
    Shows f (forM l k) (l.flatMap agendaOf) tell := by
  induction l with
  | nil => exact pure
  | cons b rest ih =>
      rw [List.forM_cons, List.flatMap_cons]
      exact (each b List.mem_cons_self).seq
        (ih fun b' member => each b' (List.mem_cons_of_mem b member))

/-- A step that does a task, and is seen as is told, may be followed by the tasks that its answer
calls for. -/
theorem step {x : Founder.Run χ ω (Call χ ω η ν ⊕ η) α} {t : Task χ ω η ν}
    {follow : α → List (Task χ ω η ν)} {k : α → Founder.Run χ ω (Call χ ω η ν ⊕ η) Unit}
    (does : Does f x t follow)
    (seen : ∀ s, (x.run s).events.filterMap Moment.ofEvent? = tell ⟨t, s⟩)
    (after : ∀ a, Shows f (k a) (follow a) tell) : Shows f (x >>= k) [t] tell := by
  intro s
  have outcome := does.result s
  have state := does.state s
  cases answer : (x.run s).result with
  | error e =>
      rw [answer] at outcome
      rw [Action.run_bind_of_error answer, ← state]
      exact ⟨[⟨t, s⟩], .stop outcome, by simpa using seen s⟩
  | ok a =>
      rw [answer] at outcome
      obtain ⟨steps, work, seen'⟩ := after a (x.run s).state
      rw [Action.run_bind_of_ok answer]
      rw [← state] at work
      refine ⟨⟨t, s⟩ :: steps, .next outcome (by rwa [List.append_nil, ← state]), ?_⟩
      rw [List.filterMap_append, List.flatMap_cons, seen s, seen']

end Shows

namespace Founder

variable (f : Founder χ ω η ν) (g : Group χ ω η ν)

/-- Where a founder leaves the word to its strategies, only their calls are seen. -/
theorem moments_below (x : Action (Site χ ω) (Call χ ω η ν ⊕ η) SettleError α) (s : Site χ ω) :
    ((x.below : Run χ ω (Call χ ω η ν ⊕ η) α).run s).events.filterMap Moment.ofEvent? =
      (((x.below : Run χ ω (Call χ ω η ν ⊕ η) α).run s).events.filterMap Call.ofEvent?).map
        .call := by
  rw [Action.run_below, List.filterMap_map, List.filterMap_map, List.map_filterMap]
  congr 1
  funext e
  cases e <;> rfl

theorem moments_select (s : Site χ ω) :
    ((f.recorded.select g.recorded).run s).events.filterMap Moment.ofEvent? =
      [.call (.select g.selector (f.context g))] := by
  have calls := (f.does_select g).calls s
  exact (moments_below _ s).trans (congrArg (List.map Moment.call) calls)

theorem moments_produce (c : Candidate) (s : Site χ ω) :
    ((produce g.recorded c).run s).events.filterMap Moment.ofEvent? =
      Step.moments f g.marker ⟨.produce g c, s⟩ := by
  have calls := (does_produce f g c).calls s
  rw [Step.moments_of_accepted?_eq_none Step.accepted?_produce]
  exact (moments_below _ s).trans (congrArg (List.map Moment.call) calls)

theorem moments_accept (c : Candidate) (value : Produced ν) (s : Site χ ω) :
    ((accept g.recorded c value).run s).events.filterMap Moment.ofEvent? =
      (Task.call? f (.accept g c value)).toList.map .call := by
  have calls := (does_accept f g c value).calls s
  exact (moments_below _ s).trans (congrArg (List.map Moment.call) calls)

/-- An acceptance is reported if it succeeds, right after its call. -/
theorem shows_accept (c : Candidate) (value : Produced ν) :
    Shows f (do accept g.recorded c value; Action.note (.settled g.marker c.id))
      [.accept g c value] (Step.moments f g.marker) := by
  intro s
  have outcome := (does_accept f g c value).result s
  have state := (does_accept f g c value).state s
  have seen := moments_accept f g c value s
  cases answer : ((accept g.recorded c value).run s).result with
  | error e =>
      rw [answer] at outcome
      have failed : (Step.run f ⟨.accept g c value, s⟩).result = .error e := outcome
      rw [Action.run_bind_of_error answer, ← state]
      refine ⟨_, .stop failed, ?_⟩
      rw [List.flatMap_singleton,
        Step.moments_of_accepted?_eq_none (Step.accepted?_of_error failed)]
      exact seen
  | ok a =>
      rw [answer] at outcome
      rw [Action.run_bind_of_ok answer, ← state]
      refine ⟨_, .next outcome .nil, ?_⟩
      rw [List.filterMap_append, seen, List.flatMap_singleton, Step.moments,
        Step.accepted?_accept_of_ok outcome]
      rfl

theorem shows_settle (c : Candidate) :
    Shows f (settle g.recorded c) [.produce g c] (Step.moments f g.marker) :=
  .step (does_produce f g c) (moments_produce f g c) fun value => shows_accept f g c value

theorem shows_turns (candidates : List Candidate) :
    Shows f (forM candidates (settle g.recorded)) (candidates.map (.produce g))
      (Step.moments f g.marker) := by
  have each := Shows.forM fun c (_ : c ∈ candidates) => shows_settle f g c
  simpa [List.map_eq_flatMap] using each

/-- What is reported at the end of an activity, if it ends well. -/
def ending (result : Except SettleError Unit) (e : FoundingEvent) : List (FoundingEvent ⊕ η) :=
  match result with
  | .error _ => []
  | .ok () => [.inl e]

/-- An activity that is announced, and of which the end is reported. -/
theorem run_announced (x : Run χ ω η Unit) (opening closing : FoundingEvent) (s : Site χ ω) :
    (do Action.note opening; x; Action.note closing : Run χ ω η Unit).run s =
      ⟨(x.run s).result, (x.run s).state,
        .inl opening :: (x.run s).events ++ ending (x.run s).result closing⟩ := by
  rw [Action.run_bind_of_ok (a := ()) rfl, Action.run_note]
  cases outcome : (x.run s).result with
  | error e => rw [Action.run_bind_of_error outcome, ending, List.append_nil]; rfl
  | ok a => rw [Action.run_bind_of_ok outcome]; rfl

/-- That a run of a group, from a site, makes a stretch, and that its story is what is seen. -/
def MakesStretch (f : Founder χ ω η ν) (g : Group χ ω η ν) (s : Site χ ω)
    (o : Outcome (Site χ ω) (FoundingEvent ⊕ (Call χ ω η ν ⊕ η)) SettleError Unit)
    (x : Stretch χ ω η ν) : Prop :=
  x.group = g ∧ x.Regular f ∧ Performed f [.select g] s x.steps o.state o.result ∧
    o.events.filterMap Moment.ofEvent? = x.story f ∧ (o.result = .ok () ↔ x.IsComplete f)

theorem result_select (s : Site χ ω) :
    ((f.recorded.select g.recorded).run s).result =
      ((g.selector.select (f.context g)).run s.world).result.mapError (.discovery g.marker) :=
  congrArg (fun x => (x.run s).result) (f.keepEvents_select g)

/-- A group of which the selection fails has a stretch without turns. -/
theorem makesStretch_of_error {s : Site χ ω} {e : DiscoveryError}
    (answer : ((g.selector.select (f.context g)).run s.world).result = .error e) :
    MakesStretch f g s ((f.recorded.settleGroup g.recorded).run s) ⟨g, s, []⟩ := by
  have failed := f.result_select g s
  rw [answer, Action.mapError_error] at failed
  have outcome := (f.does_select g).result s
  have state := (f.does_select g).state s
  rw [failed] at outcome
  have unselected : Stretch.selected? f ⟨g, s, []⟩ = none := by
    simp [Stretch.selected?, answer, Except.toOption]
  have stops : (f.recorded.settleGroup g.recorded).run s = _ := Action.run_bind_of_error failed
  rw [stops]
  refine ⟨rfl, ⟨by simp, fun _ => rfl, by simp [unselected]⟩, ?_, ?_, ?_⟩
  · rw [← state]
    exact .stop outcome
  · rw [Stretch.story, unselected]
    exact f.moments_select g s
  · simp [Stretch.IsComplete, unselected]

/-- A group of which the selection succeeds has a stretch with turns for its candidates. -/
theorem exists_makesStretch_of_ok {s : Site χ ω} {candidates : List Candidate}
    (answer : ((g.selector.select (f.context g)).run s.world).result = .ok candidates) :
    ∃ turns, MakesStretch f g s ((f.recorded.settleGroup g.recorded).run s) ⟨g, s, turns⟩ := by
  have succeeded := f.result_select g s
  rw [answer, Action.mapError_ok] at succeeded
  have outcome := (f.does_select g).result s
  have state := (f.does_select g).state s
  rw [succeeded] at outcome
  have selected (turns : List (Step χ ω η ν)) :
      Stretch.selected? f ⟨g, s, turns⟩ = some candidates := by
    simp [Stretch.selected?, answer, Except.toOption]
  have goesOn : (f.recorded.settleGroup g.recorded).run s = _ := Action.run_bind_of_ok succeeded
  rw [List.forM_eq_forM, run_announced] at goesOn
  obtain ⟨turns, work, seen⟩ :=
    shows_turns f g candidates ((f.recorded.select g.recorded).run s).state
  rw [goesOn]
  generalize (forM candidates (settle g.recorded)).run
    ((f.recorded.select g.recorded).run s).state = loop at work seen
  obtain ⟨isTurn, isPrefix, isAll⟩ := work.accepted_of_turns
  refine ⟨turns, rfl, ⟨isTurn, by simp [selected], ?_⟩, ?_, ?_, ?_⟩
  · intro candidates' answer'
    rw [selected] at answer'
    cases answer'
    exact isPrefix
  · refine .next outcome ?_
    rw [List.append_nil]
    rwa [← state] at work
  · have ended : (ending loop.result (.groupDone g.marker candidates.length)).filterMap
          Moment.ofEvent? =
        if Stretch.accepted f ⟨g, s, turns⟩ = candidates then
          [.report (.groupDone g.marker (Stretch.accepted f ⟨g, s, turns⟩).length)]
        else ([] : List (Moment χ ω η ν)) := by
      cases outcome : loop.result with
      | error e =>
          have unfinished : Stretch.accepted f ⟨g, s, turns⟩ ≠ candidates := by
            intro all
            rw [isAll.mpr all] at outcome
            contradiction
          rw [if_neg unfinished]
          rfl
      | ok a =>
          have all : Stretch.accepted f ⟨g, s, turns⟩ = candidates := isAll.mp outcome
          rw [if_pos all, all]
          rfl
    rw [Stretch.story, selected]
    simp only [List.filterMap_append, List.filterMap_cons, moments_select, seen, Moment.ofEvent?]
    rw [← ended]
    rfl
  · rw [Stretch.IsComplete, selected, isAll, Option.some.injEq]
    exact eq_comm

/-- A group that has its turn makes a stretch of the run. -/
theorem exists_makesStretch (s : Site χ ω) :
    ∃ x, MakesStretch f g s ((f.recorded.settleGroup g.recorded).run s) x := by
  cases answer : ((g.selector.select (f.context g)).run s.world).result with
  | error e => exact ⟨_, makesStretch_of_error f g answer⟩
  | ok candidates =>
      obtain ⟨turns, makes⟩ := exists_makesStretch_of_ok f g answer
      exact ⟨_, makes⟩

/-! ## The run -/

/-- That a run of some groups, from a site, falls into stretches, whose stories are what is seen: all
groups have their turn, or the first of them up to one that is not completed. -/
structure FallsInto (f : Founder χ ω η ν) (groups : List (Group χ ω η ν)) (s : Site χ ω)
    (o : Outcome (Site χ ω) (FoundingEvent ⊕ (Call χ ω η ν ⊕ η)) SettleError Unit)
    (stretches : List (Stretch χ ω η ν)) : Prop where
  inOrder : stretches.map (·.group) <+: groups
  regular : ∀ x ∈ stretches, x.Regular f
  performed : Performed f (groups.map .select) s (stretches.flatMap Stretch.steps) o.state o.result
  seen : o.events.filterMap Moment.ofEvent? = stretches.flatMap (Stretch.story f)
  completed : o.result = .ok () →
    stretches.map (·.group) = groups ∧ ∀ x ∈ stretches, x.IsComplete f
  stopped : ∀ e, o.result = .error e →
    ∃ before last, stretches = before ++ [last] ∧ (∀ x ∈ before, x.IsComplete f) ∧
      ¬last.IsComplete f

theorem exists_fallsInto (groups : List (Group χ ω η ν)) (s : Site χ ω) :
    ∃ stretches, FallsInto f groups s
      ((forM groups fun g => f.recorded.settleGroup g.recorded).run s) stretches := by
  induction groups generalizing s with
  | nil => exact ⟨[], by simp, by simp, .nil, rfl, by simp, by simp⟩
  | cons g rest ih =>
      obtain ⟨x, rfl, regular, work, seen, complete⟩ := exists_makesStretch f g s
      rw [List.forM_cons]
      cases outcome : ((f.recorded.settleGroup x.group.recorded).run s).result with
      | error e =>
          rw [outcome] at work complete
          rw [Action.run_bind_of_error outcome]
          have incomplete : ¬x.IsComplete f := fun holds => by simpa using complete.mpr holds
          refine ⟨[x], by simp, by simpa using regular, ?_, by simpa using seen, by simp, ?_⟩
          · simpa using work.append_of_error
          · exact fun _ _ => ⟨[], x, rfl, by simp, incomplete⟩
      | ok a =>
          rw [outcome] at work complete
          rw [Action.run_bind_of_ok outcome]
          obtain ⟨xs, later⟩ := ih ((f.recorded.settleGroup x.group.recorded).run s).state
          have isComplete : x.IsComplete f := complete.mp rfl
          refine ⟨x :: xs, ?_, ?_, work.append_of_ok later.performed, ?_, ?_, ?_⟩
          · simpa using later.inOrder
          · simpa using ⟨regular, later.regular⟩
          · rw [List.filterMap_append, seen, later.seen, List.flatMap_cons]
          · intro succeeded
            obtain ⟨all, others⟩ := later.completed succeeded
            simpa [all] using ⟨isComplete, others⟩
          · intro e failed
            obtain ⟨before, last, rfl, others, incomplete⟩ := later.stopped e failed
            exact ⟨x :: before, last, rfl, by simpa using ⟨isComplete, others⟩, incomplete⟩

/-- What is said about a wanted group that is not there. -/
def unmatched (f : Founder χ ω η ν) : Option Marker → List FoundingEvent
  | none => []
  | some group => if group ∈ f.markers then [] else [.noMatchingGroup]

/-- A group that is not there is noticed at the end of a run. -/
theorem run_unmatched (filter : Option Marker) (s : Site χ ω) :
    (if ((f.chosen filter).map Group.recorded).isEmpty && filter.isSome then
      Action.note .noMatchingGroup else pure () : Run χ ω (Call χ ω η ν ⊕ η) Unit).run s =
        ⟨.ok (), s, (f.unmatched filter).map .inl⟩ := by
  cases filter with
  | none => simp [unmatched]
  | some group =>
      by_cases isThere : group ∈ f.markers
      · obtain ⟨g, member, rfl⟩ := List.mem_map.mp isThere
        have chosen : g ∈ f.chosen (some g.marker) :=
          List.mem_filter.mpr ⟨member, beq_self_eq_true g.marker⟩
        simp [unmatched, isThere, List.ne_nil_of_mem chosen]
      · simp [unmatched, isThere, chosen_eq_nil isThere]

/-- Where some group has its turn, none is missed. -/
theorem unmatched_eq_nil {filter : Option Marker} {g : Group χ ω η ν}
    (chosen : g ∈ f.chosen filter) : f.unmatched filter = [] := by
  obtain ⟨member, isNamed⟩ := List.mem_filter.mp chosen
  cases filter with
  | none => rfl
  | some group =>
      obtain rfl : g.marker = group := eq_of_beq isNamed
      exact if_pos (List.mem_map_of_mem member)

/-- A founder's reports about a run, against the stretches of the run. -/
structure ReportsTruly (f : Founder χ ω η ν) (filter : Option Marker) (s : Site χ ω)
    (stretches : List (Stretch χ ω η ν)) : Prop where
  /-- The groups that the filter lets pass have their turn, in their order. -/
  inOrder : stretches.map (·.group) <+:
    f.groups.filter fun g => filter = none ∨ filter = some g.marker
  regular : ∀ x ∈ stretches, x.Regular f
  /-- The stretches are made of the steps that are taken. -/
  performed : Performed f (f.plan filter) s (stretches.flatMap Stretch.steps)
    ((f.found filter).run s).state ((f.found filter).run s).result
  /-- What the founder says. -/
  said : ((f.found filter).run s).events.filterMap Sum.getLeft? =
    .opened f.colony filter ::
      (stretches.flatMap (Stretch.reports f) ++ f.unmatched filter ++ [.closed])
  /-- What the founder says, between the calls of strategies. -/
  seen : ((f.recorded.found filter).run s).events.filterMap Moment.ofEvent? =
    .report (.opened f.colony filter) ::
      (stretches.flatMap (Stretch.story f) ++ (f.unmatched filter).map .report ++
        [.report .closed])
  /-- The run ends well just if all groups have their turn and all of their candidates are
  accepted. -/
  completed : ((f.found filter).run s).result = .ok () ↔
    (stretches.map (·.group) = f.groups.filter fun g => filter = none ∨ filter = some g.marker) ∧
      ∀ x ∈ stretches, x.IsComplete f
  /-- After the call of a step that fails the founder says no more than that the run has ended. -/
  stopped : ∀ e, ((f.found filter).run s).result = .error e →
    ∃ before, ∃ step ∈ (stretches.flatMap Stretch.steps).getLast?,
      (step.run f).result = .error e ∧
        ((f.recorded.found filter).run s).events.filterMap Moment.ofEvent? =
          before ++ (step.call? f).toList.map .call ++ [.report .closed]

theorem chosen_eq_filter (filter : Option Marker) :
    f.chosen filter = f.groups.filter fun g => filter = none ∨ filter = some g.marker := by
  unfold chosen
  congr 1
  funext g
  cases filter with
  | none => simp
  | some m => simp [Bool.beq_eq_decide_eq, eq_comm]

/-- Around the stretches of a run the founder reports its beginning and its end, and before the end
that no group has the wanted name. -/
theorem run_found_of_fallsInto {filter : Option Marker} {s : Site χ ω}
    {stretches : List (Stretch χ ω η ν)}
    {o : Outcome (Site χ ω) (FoundingEvent ⊕ (Call χ ω η ν ⊕ η)) SettleError Unit}
    (runs : (forM (f.chosen filter) fun g => f.recorded.settleGroup g.recorded).run s = o)
    (falls : FallsInto f (f.chosen filter) s o stretches) :
    (f.recorded.found filter).run s =
      ⟨o.result, o.state, .inl (.opened f.colony filter) ::
        (o.events ++ (f.unmatched filter).map .inl ++ [.inl .closed])⟩ := by
  unfold found
  simp only [chosen_recorded, List.forM_eq_forM, List.forM_map]
  rw [Action.run_bind_of_ok (a := ()) rfl, Action.run_note, Action.run_thenAlways]
  cases outcome : o.result with
  | error e =>
      obtain ⟨before, last, rfl, -⟩ := falls.stopped e outcome
      have chosen : last.group ∈ f.chosen filter := falls.inOrder.subset (by simp)
      rw [Action.run_bind_of_error (runs ▸ outcome), runs, f.unmatched_eq_nil chosen]
      simp [recorded]
  | ok a =>
      rw [Action.run_bind_of_ok (runs ▸ outcome), runs, run_unmatched]
      simp [recorded]

theorem filterMap_said?_ofEvent? (events : List (FoundingEvent ⊕ (Call χ ω η ν ⊕ η))) :
    (events.filterMap Moment.ofEvent?).filterMap Moment.said? =
      (events.filterMap Call.otherEvent?).filterMap Sum.getLeft? := by
  rw [List.filterMap_filterMap, List.filterMap_filterMap]
  congr 1
  funext e
  rcases e with e | call | e <;> rfl

theorem exists_reportsTruly (filter : Option Marker) (s : Site χ ω) :
    ∃ stretches, f.ReportsTruly filter s stretches := by
  obtain ⟨stretches, falls⟩ := exists_fallsInto f (f.chosen filter) s
  have runs := f.run_found_of_fallsInto rfl falls
  generalize (forM (f.chosen filter) fun g => f.recorded.settleGroup g.recorded).run s = o
    at falls runs
  have plain : (f.found filter).run s =
      ⟨o.result, o.state, ((f.recorded.found filter).run s).events.filterMap Call.otherEvent?⟩ := by
    rw [← f.keepEvents_found filter, Action.run_keepEvents, runs]
  have seen : ((f.recorded.found filter).run s).events.filterMap Moment.ofEvent? =
      .report (.opened f.colony filter) ::
        (stretches.flatMap (Stretch.story f) ++ (f.unmatched filter).map .report ++
          [.report .closed]) := by
    rw [runs, ← falls.seen]
    simp [List.filterMap_append, Moment.ofEvent?, List.filterMap_map, Function.comp_def]
  refine ⟨stretches, ?_, falls.regular, ?_, ?_, seen, ?_, ?_⟩
  · rw [← chosen_eq_filter]
    exact falls.inOrder
  · rw [plain, plan_eq]
    exact falls.performed
  · rw [plain, ← filterMap_said?_ofEvent?, seen]
    simp [List.filterMap_flatMap, Stretch.filterMap_said?_story, List.filterMap_map,
      Function.comp_def]
  · rw [plain, ← chosen_eq_filter]
    refine ⟨falls.completed, fun ⟨_, complete⟩ => ?_⟩
    cases outcome : o.result with
    | error e =>
        obtain ⟨before, last, rfl, -, incomplete⟩ := falls.stopped e outcome
        exact absurd (complete last (by simp)) incomplete
    | ok a => rfl
  · intro e failed
    rw [plain] at failed
    obtain ⟨before, last, rfl, -, incomplete⟩ := falls.stopped e failed
    have work := falls.performed
    rw [failed] at work
    obtain ⟨step, isLast, stepFailed, -⟩ := work.exists_failed
    have atEnd : step ∈ last.steps.getLast? := by
      have steps : last.steps ≠ [] := List.cons_ne_nil _ _
      rwa [List.flatMap_append, List.flatMap_singleton,
        List.getLast?_append_of_ne_nil _ steps] at isLast
    obtain ⟨earlier, story⟩ :=
      Stretch.exists_story_of_failed (falls.regular last (by simp)) incomplete atEnd stepFailed
    have chosen : last.group ∈ f.chosen filter := falls.inOrder.subset (by simp)
    refine ⟨.report (.opened f.colony filter) :: (before.flatMap (Stretch.story f) ++ earlier),
      step, isLast, stepFailed, ?_⟩
    rw [seen, f.unmatched_eq_nil chosen, List.flatMap_append, List.flatMap_singleton, story]
    simp

end Founder

end Settlement
