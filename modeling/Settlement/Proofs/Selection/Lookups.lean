import Settlement.Proofs.Selection.Lineage

/-!
# What a selection asks its scope

A logged scope answers as the scope does, and writes down what it was asked and what it answered.
Its log tells how a selection by a supertype ends: with the failure, if some answer was one, and
otherwise just as if all settlers had been looked up in a list.
-/

namespace Settlement

variable {ω ν σ η ε α β : Type}

namespace Scope

/-- A question to a scope about its settlers, and the answer. -/
inductive Query where
  | settlers (answer : Except DiscoveryError (List Settler))
  | settler (id : SettlerId) (answer : Except DiscoveryError (Option Settler))
deriving DecidableEq

/-- The failure that was the answer. -/
def Query.failure? : Query → Option DiscoveryError
  | .settlers (.error e) => some e
  | .settlers (.ok _) => none
  | .settler _ (.error e) => some e
  | .settler _ (.ok _) => none

/-- A world with a log. -/
structure Logged (ω : Type) where
  world : ω
  log : List Query := []

end Scope

open Scope (Query Logged)

/-- An action on the world, whose answer is logged. -/
def Action.logged (query : Except ε α → Query) (x : Action ω η ε α) : Action (Logged ω) η ε α :=
  ⟨fun s =>
    let o := x.run s.world
    ⟨o.result, ⟨o.state, s.log ++ [query o.result]⟩, o.events⟩⟩

/-- An action on the world, of which the log says nothing. -/
def Action.unlogged (x : Action ω η ε α) : Action (Logged ω) η ε α :=
  ⟨fun s =>
    let o := x.run s.world
    ⟨o.result, ⟨o.state, s.log⟩, o.events⟩⟩

namespace Scope

/-- The scope, which logs all questions about its settlers. -/
def logged (scope : Scope ω ν) : Scope (Logged ω) ν where
  settlers := scope.settlers.logged .settlers
  settler id := (scope.settler id).logged (.settler id)
  construct id := (scope.construct id).unlogged
  unlisted := scope.unlisted

/-- A scope that only answers from a list. -/
def ofList (settlers : List Settler) : Scope Unit ν where
  settlers := pure settlers
  settler id := pure (settlers.find? fun s => s.id == id)
  construct id := Action.fail (.noFactory id)
  unlisted := 0

theorem answersFrom_ofList {settlers : List Settler} (distinct : (settlers.map (·.id)).Nodup) :
    (ofList settlers : Scope Unit ν).AnswersFrom (fun _ => True) settlers fun _ => False where
  distinct
  lists := .pure rfl
  looksUp _ := .pure rfl

/-- The scope, with so many types that it may know besides those it lists. -/
def allowing (scope : Scope ω ν) (unlisted : Nat) : Scope ω ν :=
  { scope with unlisted }

/-- What a scope answers does not depend on how many types it may know. -/
theorem AnswersFrom.allowing {scope : Scope ω ν} {inv : ω → Prop} {settlers : List Settler}
    {fails : DiscoveryError → Prop} (answers : scope.AnswersFrom inv settlers fails)
    (unlisted : Nat) : (scope.allowing unlisted).AnswersFrom inv settlers fails where
  distinct := answers.distinct
  lists := answers.lists
  looksUp := answers.looksUp

end Scope

namespace Selector

/-! ## Logged selections -/

/-- `y` does what `x` does and logs its questions.  If no answer is a failure then the result is that
of `z`, and else it is that failure. -/
def Tracks (inv : ω → Prop) (x : Selection ω α) (y : Selection (Logged ω) α)
    (z : Selection Unit α) : Prop :=
  ∀ w log, inv w → ∃ queries,
    y.run ⟨w, log⟩ = ⟨(x.run w).result, ⟨(x.run w).state, log ++ queries⟩, (x.run w).events⟩ ∧
    inv (x.run w).state ∧
    (∀ q ∈ queries, ∀ e, q.failure? = some e → (x.run w).result = .error e) ∧
    ((∀ q ∈ queries, q.failure? = none) → (x.run w).result = (z.run ()).result)

namespace Tracks

variable {inv : ω → Prop} {x : Selection ω α} {y : Selection (Logged ω) α} {z : Selection Unit α}

/-- What asks nothing logs nothing. -/
theorem of_same {result : Except DiscoveryError α} {events : List StrategyEvent}
    (runs : ∀ w, x.run w = ⟨result, w, events⟩) (logs : ∀ s, y.run s = ⟨result, s, events⟩)
    (answers : (z.run ()).result = result) : Tracks inv x y z := by
  intro w log holds
  refine ⟨[], ?_, ?_, by simp, fun _ => ?_⟩
  · rw [runs, logs, List.append_nil]
  · rw [runs]
    exact holds
  · rw [runs, answers]

theorem pure (a : α) : Tracks inv (Pure.pure a) (Pure.pure a) (Pure.pure a) :=
  of_same (fun _ => rfl) (fun _ => rfl) rfl

theorem fail (e : DiscoveryError) :
    Tracks inv (Action.fail e : Selection ω α) (Action.fail e) (Action.fail e) :=
  of_same (fun _ => rfl) (fun _ => rfl) rfl

theorem report (e : StrategyEvent) :
    Tracks inv (Action.report e) (Action.report e) (Action.report e) :=
  of_same (fun _ => rfl) (fun _ => rfl) rfl

/-- A failure ends the log, so that all earlier answers are good. -/
theorem bind (first : Tracks inv x y z) {f : α → Selection ω β} {g : α → Selection (Logged ω) β}
    {h : α → Selection Unit β} (second : ∀ a, Tracks inv (f a) (g a) (h a)) :
    Tracks inv (x >>= f) (y >>= g) (z >>= h) := by
  intro w log holds
  obtain ⟨queries, logs, kept, failing, fine⟩ := first w log holds
  cases outcome : (x.run w).result with
  | error e =>
      have outcome' : (y.run ⟨w, log⟩).result = .error e := by rw [logs, outcome]
      rw [Action.run_bind_of_error outcome, Action.run_bind_of_error outcome', logs]
      refine ⟨queries, rfl, kept, ?_, ?_⟩
      · intro q asked e' failed
        have same := outcome.symm.trans (failing q asked e' failed)
        cases same
        rfl
      · intro allFine
        rw [Action.run_bind_of_error ((fine allFine).symm.trans outcome)]
  | ok a =>
      have outcome' : (y.run ⟨w, log⟩).result = .ok a := by rw [logs, outcome]
      have good : ∀ q ∈ queries, q.failure? = none := by
        intro q asked
        rw [Option.eq_none_iff_forall_ne_some]
        intro e failed
        rw [failing q asked e failed] at outcome
        contradiction
      obtain ⟨more, logs', kept', failing', fine'⟩ := second a _ (log ++ queries) kept
      rw [Action.run_bind_of_ok outcome, Action.run_bind_of_ok outcome', logs]
      refine ⟨queries ++ more, ?_, kept', ?_, ?_⟩
      · rw [logs', List.append_assoc]
      · intro q asked e failed
        rcases List.mem_append.mp asked with early | late
        · rw [good q early] at failed
          contradiction
        · exact failing' q late e failed
      · intro allFine
        rw [Action.run_bind_of_ok ((fine good).symm.trans outcome)]
        exact fine' fun q asked => allFine q (List.mem_append_right queries asked)

/-- A question that is answered from the list, unless the answer is a failure. -/
theorem ask {fails : DiscoveryError → Prop} {a : α} (ensures : Ensures inv x (· = a) fails)
    {query : Except DiscoveryError α → Query}
    (tells : ∀ answer e, (query answer).failure? = some e ↔ answer = .error e) :
    Tracks inv x (x.logged query) (Pure.pure a) := by
  intro w log holds
  obtain ⟨kept, answers, -⟩ := ensures w holds
  refine ⟨[query (x.run w).result], rfl, kept, ?_, ?_⟩
  · intro q asked e failed
    rw [List.mem_singleton.mp asked] at failed
    exact (tells _ e).mp failed
  · intro allFine
    have good := allFine _ List.mem_cons_self
    cases outcome : (x.run w).result with
    | error e =>
        rw [(tells _ e).mpr outcome] at good
        contradiction
    | ok b => exact congrArg Except.ok (answers b outcome)

end Tracks

variable {inv : ω → Prop} {fails : DiscoveryError → Prop} {scope : Scope ω ν}
  {settlers : List Settler} {unlisted : Nat}

theorem tracks_settlers (answers : scope.AnswersFrom inv settlers fails) :
    Tracks inv scope.settlers scope.logged.settlers
      ((Scope.ofList settlers : Scope Unit ν).allowing unlisted).settlers := by
  apply Tracks.ask answers.lists
  intro answer e
  cases answer <;> simp [Query.failure?]

theorem tracks_settler (answers : scope.AnswersFrom inv settlers fails) (id : SettlerId) :
    Tracks inv (scope.settler id) (scope.logged.settler id)
      (((Scope.ofList settlers : Scope Unit ν).allowing unlisted).settler id) := by
  apply Tracks.ask (answers.looksUp id)
  intro answer e
  cases answer <;> simp [Query.failure?]

theorem tracks_admits (describe : String) (ctx : SelectionContext) (s : Settler) :
    Tracks inv (admits describe ctx s) (admits describe ctx s) (admits describe ctx s) := by
  unfold admits
  split
  · exact (Tracks.report _).bind fun _ => .pure _
  · split
    · exact (Tracks.report _).bind fun _ => .pure _
    · exact .pure _

theorem tracks_keep {test : σ → Settler → Selection ω (Bool × σ)}
    {test' : σ → Settler → Selection (Logged ω) (Bool × σ)}
    {test'' : σ → Settler → Selection Unit (Bool × σ)}
    (tests : ∀ memory s, Tracks inv (test memory s) (test' memory s) (test'' memory s))
    (describe : String) (ctx : SelectionContext) (memory : σ) (settlers : List Settler) :
    Tracks inv (keep describe ctx test memory settlers) (keep describe ctx test' memory settlers)
      (keep describe ctx test'' memory settlers) := by
  induction settlers generalizing memory with
  | nil => exact .pure []
  | cons s rest ih =>
      unfold keep
      apply (tests memory s).bind
      rintro ⟨passes, memory'⟩
      cases passes with
      | false => exact (Tracks.pure false).bind fun _ => (ih memory').bind fun _ => .pure _
      | true => exact (tracks_admits describe ctx s).bind fun _ => (ih memory').bind fun _ => .pure _

theorem tracks_scan {test : σ → Settler → Selection ω (Bool × σ)}
    {test' : σ → Settler → Selection (Logged ω) (Bool × σ)}
    {test'' : σ → Settler → Selection Unit (Bool × σ)}
    (tests : ∀ memory s, Tracks inv (test memory s) (test' memory s) (test'' memory s))
    (describe : String) (ctx : SelectionContext) (memory : σ) (settlers : List Settler) :
    Tracks inv (scan describe ctx test memory settlers) (scan describe ctx test' memory settlers)
      (scan describe ctx test'' memory settlers) :=
  (tracks_keep tests describe ctx memory settlers).bind fun _ =>
    (Tracks.report _).bind fun _ => .pure _

theorem tracks_reaches (answers : scope.AnswersFrom inv settlers fails) (base : SettlerId)
    {visit : Settler → Walk → Selection ω (Bool × Walk)}
    {visit' : Settler → Walk → Selection (Logged ω) (Bool × Walk)}
    {visit'' : Settler → Walk → Selection Unit (Bool × Walk)}
    (visits : ∀ s w, Tracks inv (visit s w) (visit' s w) (visit'' s w))
    (supertypes : List SettlerId) (w : Walk) :
    Tracks inv (reaches scope base visit supertypes w)
      (reaches scope.logged base visit' supertypes w)
      (reaches ((Scope.ofList settlers : Scope Unit ν).allowing unlisted) base visit'' supertypes
        w) := by
  induction supertypes generalizing w with
  | nil => exact .pure (false, w)
  | cons parent rest ih =>
      unfold reaches
      split
      · exact .pure (true, w)
      · apply (tracks_settler answers parent).bind
        intro answer
        cases answer with
        | none => exact ih w
        | some s =>
            apply (visits s w).bind
            rintro ⟨found, w'⟩
            cases found with
            | true => exact .pure (true, w')
            | false => exact ih w'

theorem tracks_walk (answers : scope.AnswersFrom inv settlers fails) (base : SettlerId)
    (depth : Nat) (s : Settler) (w : Walk) :
    Tracks inv (walk scope base depth s w) (walk scope.logged base depth s w)
      (walk ((Scope.ofList settlers : Scope Unit ν).allowing unlisted) base depth s w) := by
  induction depth generalizing s w with
  | zero => exact .fail _
  | succ depth ih =>
      unfold walk
      split
      · exact .pure _
      · split
        · exact .pure (false, w)
        · exact (tracks_reaches answers base ih _ _).bind fun _ => .pure _

theorem tracks_bySupertype (answers : scope.AnswersFrom inv settlers fails) (base : SettlerId)
    (ctx : SelectionContext) :
    Tracks inv ((bySupertype scope base).select ctx) ((bySupertype scope.logged base).select ctx)
      ((bySupertype ((Scope.ofList settlers : Scope Unit ν).allowing scope.unlisted) base).select
        ctx) :=
  (tracks_settlers answers).bind fun settlers =>
    tracks_scan (fun _ s => tracks_walk answers base _ s _) _ ctx _ settlers

/-! ## Selections by a supertype -/

open Classical in
/-- From a list, the selection by a supertype never fails. -/
theorem run_bySupertype_ofList (distinct : (settlers.map (·.id)).Nodup) (unlisted : Nat)
    (base : SettlerId) (ctx : SelectionContext) :
    (((bySupertype ((Scope.ofList settlers : Scope Unit ν).allowing unlisted) base).select ctx).run
        ()).result =
      .ok (candidatesOf ctx settlers (Below settlers base)) := by
  have answers := (Scope.answersFrom_ofList (ν := ν) distinct).allowing unlisted
  have ensured : Ensures _ ((bySupertype ((Scope.ofList settlers).allowing unlisted) base).select
      ctx) _ _ := bySupertype_ensures answers ctx
  obtain ⟨-, selects, fails⟩ := ensured () trivial
  cases outcome : (((bySupertype ((Scope.ofList settlers : Scope Unit ν).allowing unlisted)
      base).select ctx).run ()).result with
  | error e => exact (fails e outcome).elim
  | ok candidates =>
      rw [selects candidates outcome, ← admitted_filter]
      simp only [leadsTo_iff_below]

/-- Over a scope that answers from a list of distinct settlers, or fails, the selection by a
supertype returns the candidates of the admissible settlers below it, in their order and each once,
whatever links there are between them.  If an answer of the scope is a failure, then the selection
fails with it.  What the scope is asked is seen in the log of the same selection over the logged
scope. -/
theorem bySupertype_selects_below (answers : scope.AnswersFrom inv settlers fails)
    (base : SettlerId) (ctx : SelectionContext) {w : ω} (holds : inv w) :
    let run := ((bySupertype scope base).select ctx).run w
    let log := (((bySupertype scope.logged base).select ctx).run ⟨w, []⟩).state.log
    let candidates := candidatesOf ctx settlers (Below settlers base)
    (candidates.map (·.id)).Nodup ∧
    ((bySupertype scope.logged base).select ctx).run ⟨w, []⟩ =
      ⟨run.result, ⟨run.state, log⟩, run.events⟩ ∧
    ((∀ q ∈ log, q.failure? = none) → run.result = .ok candidates) ∧
    ∀ q ∈ log, ∀ e, q.failure? = some e → run.result = .error e := by
  intro run log candidates
  obtain ⟨queries, logs, -, failing, fine⟩ := tracks_bySupertype answers base ctx w [] holds
  have asked : log = queries := congrArg (fun outcome => outcome.state.log) logs
  rw [asked]
  refine ⟨nodup_candidatesOf answers.distinct ctx _, logs, ?_, failing⟩
  intro allFine
  rw [← run_bySupertype_ofList (ν := ν) answers.distinct scope.unlisted]
  exact fine allFine

/-- A larva and a worker are below each other, and below an ant by way of a type that is hidden.  The
scope tires of looking settlers up: after nine answers the selection is complete, and after one it
fails. -/
theorem tired_scope_selects_below :
    let settlers : List Settler :=
      [{ id := ⟨"Larva"⟩, supertypes := [⟨"Larva"⟩, ⟨"Egg"⟩, ⟨"Worker"⟩] }, { id := ⟨"Stone"⟩ },
        { id := ⟨"Worker"⟩, supertypes := [⟨"Larva"⟩, ⟨"Caste"⟩] },
        { id := ⟨"Caste"⟩, visibility := .hidden, kind := .abstract, supertypes := [⟨"Ant"⟩] }]
    let scope : Scope Nat Nat :=
      { settlers := pure settlers
        settler := fun id => do
          let answers ← Action.read
          if answers = 0 then Action.fail (.other "tired")
          else
            Action.update fun _ => answers - 1
            return settlers.find? fun s => s.id == id
        construct := fun id => Action.fail (.noFactory id)
        unlisted := 0 }
    let ctx : SelectionContext := ⟨⟨"Nest"⟩, ⟨"brood"⟩, .construct⟩
    let select := (bySupertype scope ⟨"Ant"⟩).select ctx
    scope.AnswersFrom (fun _ => True) settlers (· = .other "tired") ∧
      (select.run 9).result = .ok (candidatesOf ctx settlers (Below settlers ⟨"Ant"⟩)) ∧
      (select.run 1).result = .error (.other "tired") := by
  intro settlers scope ctx select
  have answers : scope.AnswersFrom (fun _ => True) settlers (· = .other "tired") := by
    constructor
    · decide
    · exact .pure rfl
    · intro id answers _
      by_cases spent : answers = 0
      · simp [scope, spent]
      · simp [scope, spent, Except.map]
  refine ⟨answers, ?_, ?_⟩
  · obtain ⟨-, -, fine, -⟩ := bySupertype_selects_below answers ⟨"Ant"⟩ ctx (w := 9) trivial
    exact fine (by decide +kernel)
  · obtain ⟨-, -, -, failing⟩ := bySupertype_selects_below answers ⟨"Ant"⟩ ctx (w := 1) trivial
    exact failing (.settler ⟨"Egg"⟩ (.error (.other "tired"))) (by decide +kernel) _ rfl

end Selector

end Settlement
