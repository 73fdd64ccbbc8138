import Settlement.Proofs.Selection.Scan

/-!
# Walks under observation

The walk up the supertypes does not tell for whose sake it looks a type up, nor how deep it is.  An
observer is told: every look-up is made in the scope that the observer has for the settler whose
supertype it is, and whenever a type has been entered or left the observer looks at the types under
visit.  An observer that has one scope and does not look leaves the walk as it is.  Another one
takes notes.

What a walk would do if its visits nested deeper than so many is left open here, so that it can be
shown not to matter.
-/

namespace Settlement

variable {ω ν σ η ε α β : Type}

namespace Selector

/-- Who observes a walk. -/
structure Observer (ω ν : Type) where
  /-- The scope in which the supertypes of a settler are looked up. -/
  scopeOf : SettlerId → Scope ω ν
  /-- Looks at the types under visit. -/
  look : List SettlerId → Selection ω Unit

/-- An observer that looks away. -/
def Observer.plain (scope : Scope ω ν) : Observer ω ν where
  scopeOf _ := scope
  look _ := pure ()

/-- A visit, with `inner` for the visits inside it. -/
def visit (observer : Observer ω ν) (base : SettlerId)
    (inner : Settler → Walk → Selection ω (Bool × Walk)) (s : Settler) (w : Walk) :
    Selection ω (Bool × Walk) := do
  match w.known[s.id]? with
  | some found => return (found, w)
  | none =>
      if w.visiting.contains s.id then return (false, w)
      else
        observer.look (w.enter s.id).visiting
        let (found, w) ← reaches (observer.scopeOf s.id) base inner s.supertypes (w.enter s.id)
        observer.look (w.leave s.id found).visiting
        return (found, w.leave s.id found)

/-- Visits inside one another, with `beyond` for those that are more than `depth` deep. -/
def visits (observer : Observer ω ν) (base : SettlerId) :
    (depth : Nat) → (beyond : Settler → Walk → Selection ω (Bool × Walk)) →
    Settler → Walk → Selection ω (Bool × Walk)
  | 0, beyond => beyond
  | depth + 1, beyond => visit observer base (visits observer base depth beyond)

theorem walk_succ (scope : Scope ω ν) (base : SettlerId) (depth : Nat) :
    walk scope base (depth + 1) = visit (.plain scope) base (walk scope base depth) := by
  funext s w
  unfold visit walk
  cases w.known[s.id]? with
  | some found => rfl
  | none => simp only [Observer.plain, pure_bind]

/-- The walk is made of visits, and fails where they nest too deep. -/
theorem visits_plain (scope : Scope ω ν) (base : SettlerId) (depth : Nat) :
    visits (.plain scope) base depth (walk scope base 0) = walk scope base depth := by
  induction depth with
  | zero => rfl
  | succ depth ih => rw [visits, ih, walk_succ]

/-- Room for more visits is room for as many inside those that nest as deep as they may. -/
theorem visits_add (observer : Observer ω ν) (base : SettlerId) (depth more : Nat)
    (beyond : Settler → Walk → Selection ω (Bool × Walk)) :
    visits observer base (depth + more) beyond =
      visits observer base depth (visits observer base more beyond) := by
  induction depth with
  | zero => rw [Nat.zero_add, visits]
  | succ depth ih => rw [Nat.succ_add, visits, visits, ih]

/-- A selection of the settlers below a type, by some walk that is told how many settlers are
listed. -/
def scanBelow (lists : Selection ω (List Settler))
    (walkOf : Nat → Settler → Walk → Selection ω (Bool × Walk)) (base : SettlerId)
    (ctx : SelectionContext) : Selection ω (List Candidate) := do
  let settlers ← lists
  let test (w : Walk) (s : Settler) : Selection ω (Bool × Walk) :=
    walkOf settlers.length s { w with visiting := [] }
  scan s!"supertype {base.name}" ctx test (Walk.start base) settlers

theorem select_bySupertype (scope : Scope ω ν) (base : SettlerId) (ctx : SelectionContext) :
    (bySupertype scope base).select ctx =
      scanBelow scope.settlers (fun count => walk scope base (count + scope.unlisted + 1)) base
        ctx :=
  rfl

theorem select_eq_visits (scope : Scope ω ν) (base : SettlerId) (ctx : SelectionContext) :
    (bySupertype scope base).select ctx =
      scanBelow scope.settlers
        (fun count => visits (.plain scope) base (count + scope.unlisted + 1) (walk scope base 0))
        base ctx := by
  simp only [visits_plain, select_bySupertype]

/-! ## Notes -/

/-- What is noted about a selection. -/
inductive Note where
  /-- The scope has been asked for its settlers. -/
  | lists
  /-- The scope has been asked for a supertype of a settler. -/
  | follows (settler supertype : SettlerId)
  /-- A type has been entered or left, and these are the types under visit now. -/
  | visits (visiting : List SettlerId)
deriving DecidableEq

/-- A world with notes. -/
structure Noted (ω : Type) where
  world : ω
  notes : List Note := []

end Selector

open Selector (Note Noted)

/-- An action on the world, after which something is noted. -/
def Action.noted (notes : List Note) (x : Action ω η ε α) : Action (Noted ω) η ε α :=
  ⟨fun s =>
    let o := x.run s.world
    ⟨o.result, ⟨o.state, s.notes ++ notes⟩, o.events⟩⟩

/-- The scope as it is asked for the sake of a settler, with a note of each question about
settlers. -/
def Scope.noting (scope : Scope ω ν) (settler : SettlerId) : Scope (Noted ω) ν where
  settlers := scope.settlers.noted [.lists]
  settler id := (scope.settler id).noted [.follows settler id]
  construct id := (scope.construct id).noted []
  unlisted := scope.unlisted

namespace Selector

/-- An observer that notes all it is told. -/
def Observer.noting (scope : Scope ω ν) : Observer (Noted ω) ν where
  scopeOf := scope.noting
  look visiting := ((Observer.plain scope).look visiting).noted [.visits visiting]

/-! ## Runs with notes -/

/-- With notes, a run goes as it does without them, and keeps an invariant of the world.  Its answer
and what it notes have a property; what it has noted when it fails has another. -/
def Records (inv : ω → Prop) (x : Selection ω α) (y : Selection (Noted ω) α)
    (post : α → List Note → Prop) (fails : List Note → Prop) : Prop :=
  ∀ w notes, inv w → ∃ more,
    y.run ⟨w, notes⟩ = ⟨(x.run w).result, ⟨(x.run w).state, notes ++ more⟩, (x.run w).events⟩ ∧
    inv (x.run w).state ∧
    (∀ a, (x.run w).result = .ok a → post a more) ∧
    ∀ e, (x.run w).result = .error e → fails more

namespace Records

variable {inv : ω → Prop} {x : Selection ω α} {y : Selection (Noted ω) α}
  {post : α → List Note → Prop} {fails : List Note → Prop}

theorem pure {a : α} (holds : post a []) :
    Records inv (Pure.pure a) (Pure.pure a) post fails := by
  intro w notes kept
  refine ⟨[], by simp, kept, ?_, by simp⟩
  rintro _ ⟨⟩
  exact holds

/-- What is reported is not noted. -/
theorem report {y : Selection ω α} {z : Selection (Noted ω) α} (e : StrategyEvent)
    (goesOn : Records inv y z post fails) :
    Records inv (do Action.report e; y) (do Action.report e; z) post fails := by
  intro w notes kept
  obtain ⟨more, goes, ends⟩ := goesOn w notes kept
  exact ⟨more, by simp [goes], ends⟩

/-- A look is noted. -/
theorem look {scope : Scope ω ν} (visiting : List SettlerId) {z : Selection ω β}
    {z' : Selection (Noted ω) β} {post : β → List Note → Prop}
    (goesOn : Records inv z z' (fun b more => post b ([.visits visiting] ++ more))
      (fun more => fails ([.visits visiting] ++ more))) :
    Records inv (do (Observer.plain scope).look visiting; z)
      (do (Observer.noting scope).look visiting; z') post fails := by
  intro w notes kept
  obtain ⟨more, goes, ends⟩ := goesOn w (notes ++ [.visits visiting]) kept
  have plain : (do (Observer.plain scope).look visiting; z) = z := pure_bind () fun _ => z
  rw [plain]
  refine ⟨[.visits visiting] ++ more, ?_, ends⟩
  rw [← List.append_assoc, ← goes]
  rfl

/-- A question that is noted. -/
theorem noted {answer : α → Prop} {failure : DiscoveryError → Prop}
    (ensures : Ensures inv x answer failure) (more : List Note)
    (answers : ∀ a, answer a → post a more) (failures : fails more) :
    Records inv x (x.noted more) post fails := by
  intro w notes holds
  obtain ⟨kept, isAnswer, -⟩ := ensures w holds
  exact ⟨more, rfl, kept, fun a answered => answers a (isAnswer a answered), fun _ _ => failures⟩

/-- The notes of a composed run are those of its steps. -/
theorem bind {f : α → Selection ω β} {g : α → Selection (Noted ω) β}
    {post' : β → List Note → Prop} {fails' : List Note → Prop}
    (first : Records inv x y post fails') (second : ∀ a early, post a early →
      Records inv (f a) (g a) (fun b late => post' b (early ++ late))
        (fun late => fails' (early ++ late))) :
    Records inv (x >>= f) (y >>= g) post' fails' := by
  intro w notes holds
  obtain ⟨early, goes, kept, answers, failures⟩ := first w notes holds
  cases outcome : (x.run w).result with
  | error e =>
      have outcome' : (y.run ⟨w, notes⟩).result = .error e := by rw [goes, outcome]
      rw [Action.run_bind_of_error outcome, Action.run_bind_of_error outcome', goes]
      exact ⟨early, rfl, kept, by simp, fun _ _ => failures e outcome⟩
  | ok a =>
      have outcome' : (y.run ⟨w, notes⟩).result = .ok a := by rw [goes, outcome]
      obtain ⟨late, goes', kept', answers', failures'⟩ :=
        second a early (answers a outcome) _ (notes ++ early) kept
      rw [Action.run_bind_of_ok outcome, Action.run_bind_of_ok outcome', goes]
      exact ⟨early ++ late, by rw [goes', List.append_assoc], kept', answers', failures'⟩

theorem weaken {post' : α → List Note → Prop} {fails' : List Note → Prop}
    (records : Records inv x y post fails) (answers : ∀ a more, post a more → post' a more)
    (failures : ∀ more, fails more → fails' more) : Records inv x y post' fails' := by
  intro w notes holds
  obtain ⟨more, goes, kept, isAnswer, isFailure⟩ := records w notes holds
  exact ⟨more, goes, kept, fun a answered => answers a more (isAnswer a answered),
    fun e failed => failures more (isFailure e failed)⟩

/-- What is known of the answers without notes is known of them with notes. -/
theorem and_ensures {answer : α → Prop} {failure : DiscoveryError → Prop}
    (records : Records inv x y post fails) (ensures : Ensures inv x answer failure) :
    Records inv x y (fun a more => post a more ∧ answer a) fails := by
  intro w notes holds
  obtain ⟨more, goes, kept, isAnswer, isFailure⟩ := records w notes holds
  obtain ⟨-, answers, -⟩ := ensures w holds
  exact ⟨more, goes, kept, fun a answered => ⟨isAnswer a answered, answers a answered⟩, isFailure⟩

/-- However it ends, a run from a blank page goes as it does without notes, and its notes have the
property they have at either end. -/
theorem run_eq {good : List Note → Prop} {w : ω}
    (records : Records inv x y (fun _ => good) good) (holds : inv w) :
    ∃ notes, y.run ⟨w, []⟩ = ⟨(x.run w).result, ⟨(x.run w).state, notes⟩, (x.run w).events⟩ ∧
      good notes := by
  obtain ⟨notes, goes, -, answers, failures⟩ := records w [] holds
  refine ⟨notes, goes, ?_⟩
  cases outcome : (x.run w).result with
  | error e => exact failures e outcome
  | ok a => exact answers a outcome

end Records

/-! ## Loops -/

section

variable {inv : ω → Prop} {fails : List Note → Prop}

/-- Admitting a settler is nothing to note. -/
theorem records_admits (describe : String) (ctx : SelectionContext) (s : Settler)
    {post : Bool → List Note → Prop} (holds : ∀ isAdmitted, post isAdmitted []) :
    Records inv (admits describe ctx s) (admits describe ctx s) post fails := by
  have reports (e : StrategyEvent) : Records inv (do Action.report e; return false)
      (do Action.report e; return false) post fails :=
    .report e (.pure (holds false))
  unfold admits
  split
  · exact reports _
  · split
    · exact reports _
    · exact .pure (holds true)

/-- If each test keeps a relation between the settlers gone through, what is remembered and what is
noted, then the relation holds at the end. -/
theorem records_keep {test : σ → Settler → Selection ω (Bool × σ)}
    {test' : σ → Settler → Selection (Noted ω) (Bool × σ)} {settlers : List Settler}
    (good : List Settler → σ → List Note → Prop)
    (fine : ∀ done memory notes, good done memory notes → fails notes)
    (tests : ∀ done s rest, settlers = done ++ s :: rest → ∀ memory notes, good done memory notes →
      Records inv (test memory s) (test' memory s)
        (fun r more => good (done ++ [s]) r.2 (notes ++ more)) (fun more => fails (notes ++ more)))
    (describe : String) (ctx : SelectionContext) {done rest : List Settler} {memory : σ}
    {notes : List Note} (all : settlers = done ++ rest) (isGood : good done memory notes) :
    Records inv (keep describe ctx test memory rest) (keep describe ctx test' memory rest)
      (fun _ more => fails (notes ++ more)) (fun more => fails (notes ++ more)) := by
  induction rest generalizing done memory notes with
  | nil => exact .pure (by simpa using fine done memory notes isGood)
  | cons s rest ih =>
      unfold keep
      apply (tests done s rest all memory notes isGood).bind
      rintro ⟨passes, memory'⟩ early isGood'
      have others := ih (by rw [all, List.append_cons]) isGood'
      simp only [List.append_assoc] at others
      cases passes with
      | false =>
          refine others.bind fun candidates late holds => ?_
          exact .pure (by simpa using holds)
      | true =>
          have admits' : Records inv (admits describe ctx s) (admits describe ctx s)
              (fun _ more => more = []) (fun more => fails (notes ++ (early ++ more))) :=
            records_admits describe ctx s fun _ => rfl
          apply admits'.bind
          rintro isChosen _ rfl
          refine others.bind fun candidates late holds => ?_
          exact .pure (by simpa using holds)

/-- A selection below a type records what its tests do, after the scope has listed its settlers. -/
theorem records_scanBelow {lists : Selection ω (List Settler)} {listed : List Settler → Prop}
    {failure : DiscoveryError → Prop}
    {walkOf : Nat → Settler → Walk → Selection ω (Bool × Walk)}
    {walkOf' : Nat → Settler → Walk → Selection (Noted ω) (Bool × Walk)} {base : SettlerId}
    (good : List Settler → List Settler → Walk → List Note → Prop)
    (ensures : Ensures inv lists listed failure)
    (starts : ∀ settlers, listed settlers → good settlers [] (Walk.start base) [.lists])
    (unlisted : fails [.lists])
    (fine : ∀ settlers done memory notes, good settlers done memory notes → fails notes)
    (tests : ∀ settlers, listed settlers → ∀ done s rest, settlers = done ++ s :: rest →
      ∀ memory notes, good settlers done memory notes →
        Records inv (walkOf settlers.length s { memory with visiting := [] })
          (walkOf' settlers.length s { memory with visiting := [] })
          (fun r more => good settlers (done ++ [s]) r.2 (notes ++ more))
          (fun more => fails (notes ++ more)))
    (ctx : SelectionContext) :
    Records inv (scanBelow lists walkOf base ctx)
      (scanBelow (lists.noted [.lists]) walkOf' base ctx) (fun _ => fails) fails := by
  have asks : Records inv lists (lists.noted [.lists])
      (fun settlers more => listed settlers ∧ more = [.lists]) fails :=
    .noted ensures _ (fun _ isListed => ⟨isListed, rfl⟩) unlisted
  apply asks.bind
  rintro settlers _ ⟨isListed, rfl⟩
  have keeps := records_keep (good settlers) (fine settlers) (tests settlers isListed)
    s!"supertype {base.name}" ctx rfl (starts settlers isListed)
  apply keeps.bind
  intro candidates more holds
  exact .report _ (.pure (by simpa using holds))

section

variable {scope : Scope ω ν} {base : SettlerId} {found : SettlerId → Settler → Prop}
  {failure : DiscoveryError → Prop} {inner : Settler → Walk → Selection ω (Bool × Walk)}
  {inner' : Settler → Walk → Selection (Noted ω) (Bool × Walk)} {origin : SettlerId}
  {good : List SettlerId → Walk → List Note → Prop} {parents : List SettlerId} {w : Walk}

/-- The search through some supertypes, when something has been noted already. -/
theorem records_reaches_after
    (looksUp : ∀ id, Ensures inv (scope.settler id) (fun entry => ∀ t ∈ entry, found id t) failure)
    (fine : ∀ rest w notes, good rest w notes → fails notes)
    (asks : ∀ parent ∈ parents, ∀ rest w notes, good (parent :: rest) w notes →
      good rest w (notes ++ [.follows origin parent]))
    (enters : ∀ parent ∈ parents, ∀ t, found parent t → ∀ rest w notes, good rest w notes →
      Records inv (inner t w) (inner' t w) (fun r more => good rest r.2 (notes ++ more))
        (fun more => fails (notes ++ more)))
    {notes : List Note} (isGood : good parents w notes) :
    Records inv (reaches scope base inner parents w)
      (reaches (scope.noting origin) base inner' parents w)
      (fun r more => ∃ rest, good rest r.2 (notes ++ more)) (fun more => fails (notes ++ more)) := by
  induction parents generalizing w notes with
  | nil => exact .pure ⟨[], by simpa using isGood⟩
  | cons parent rest ih =>
      have asks' : ∀ p ∈ rest, ∀ rest w notes, good (p :: rest) w notes →
          good rest w (notes ++ [.follows origin p]) :=
        fun p member => asks p (List.mem_cons_of_mem parent member)
      have enters' : ∀ p ∈ rest, ∀ t, found p t → ∀ rest w notes, good rest w notes →
          Records inv (inner t w) (inner' t w) (fun r more => good rest r.2 (notes ++ more))
            (fun more => fails (notes ++ more)) :=
        fun p member => enters p (List.mem_cons_of_mem parent member)
      have asked := asks parent List.mem_cons_self rest w notes isGood
      unfold reaches
      split
      · exact .pure ⟨parent :: rest, by simpa using isGood⟩
      · have looks : Records inv (scope.settler parent) ((scope.noting origin).settler parent)
            (fun entry more => (∀ t ∈ entry, found parent t) ∧ more = [.follows origin parent])
            (fun more => fails (notes ++ more)) :=
          .noted (looksUp parent) _ (fun _ finds => ⟨finds, rfl⟩) (fine _ _ _ asked)
        apply looks.bind
        rintro entry _ ⟨finds, rfl⟩
        have others {w : Walk} {early : List Note} (isGood' : good rest w (notes ++ early)) :
            Records inv (reaches scope base inner rest w)
              (reaches (scope.noting origin) base inner' rest w)
              (fun r late => ∃ rest, good rest r.2 (notes ++ (early ++ late)))
              (fun late => fails (notes ++ (early ++ late))) := by
          simpa only [List.append_assoc] using ih asks' enters' isGood'
        cases entry with
        | none => exact others asked
        | some t =>
            have entered := enters parent List.mem_cons_self t (finds t rfl) rest w _ asked
            simp only [List.append_assoc] at entered
            apply entered.bind
            rintro ⟨isFound, w'⟩ more isGood'
            cases isFound with
            | true => exact .pure ⟨rest, by simpa using isGood'⟩
            | false =>
                have goesOn := others isGood'
                simp only [List.append_assoc] at goesOn
                exact goesOn

/-- If each question, and each visit of a type that is found, keeps a relation between the
supertypes left, the walk and what is noted, then the relation holds at the end. -/
theorem records_reaches {post : Bool × Walk → List Note → Prop}
    (looksUp : ∀ id, Ensures inv (scope.settler id) (fun entry => ∀ t ∈ entry, found id t) failure)
    (good : List SettlerId → Walk → List Note → Prop)
    (ends : ∀ rest r notes, good rest r.2 notes → post r notes)
    (fine : ∀ rest w notes, good rest w notes → fails notes)
    (asks : ∀ parent ∈ parents, ∀ rest w notes, good (parent :: rest) w notes →
      good rest w (notes ++ [.follows origin parent]))
    (enters : ∀ parent ∈ parents, ∀ t, found parent t → ∀ rest w notes, good rest w notes →
      Records inv (inner t w) (inner' t w) (fun r more => good rest r.2 (notes ++ more))
        (fun more => fails (notes ++ more)))
    (isGood : good parents w []) :
    Records inv (reaches scope base inner parents w)
      (reaches (scope.noting origin) base inner' parents w) post fails :=
  (records_reaches_after looksUp fine asks enters isGood).weaken
    (fun r more ⟨rest, holds⟩ => ends rest r more holds) fun _ holds => holds

end

/-- A visit records nothing if the type is known or under visit, and else that it is entered, what
the search through its supertypes records, and that it is left. -/
theorem records_visit {scope : Scope ω ν} {base : SettlerId}
    {inner : Settler → Walk → Selection ω (Bool × Walk)}
    {inner' : Settler → Walk → Selection (Noted ω) (Bool × Walk)} {s : Settler} {w : Walk}
    {post : Bool × Walk → List Note → Prop}
    (remembers : ∀ isFound, w.known[s.id]? = some isFound → post (isFound, w) [])
    (cuts : w.known[s.id]? = none → s.id ∈ w.visiting → post (false, w) [])
    (opens : w.known[s.id]? = none → s.id ∉ w.visiting →
      Records inv (reaches scope base inner s.supertypes (w.enter s.id))
        (reaches (scope.noting s.id) base inner' s.supertypes (w.enter s.id))
        (fun r more => post (r.1, r.2.leave s.id r.1)
          ([.visits (w.enter s.id).visiting] ++ (more ++ [.visits (r.2.leave s.id r.1).visiting])))
        (fun more => fails ([.visits (w.enter s.id).visiting] ++ more))) :
    Records inv (visit (.plain scope) base inner s w) (visit (.noting scope) base inner' s w)
      post fails := by
  unfold visit
  cases known : w.known[s.id]? with
  | some isFound => exact .pure (remembers isFound known)
  | none =>
      by_cases isVisited : s.id ∈ w.visiting
      · simp only [List.contains_iff_mem, isVisited, if_true]
        exact .pure (cuts known isVisited)
      · simp only [List.contains_iff_mem, isVisited, if_false]
        apply Records.look
        apply (opens known isVisited).bind
        rintro ⟨isFound, w'⟩ more holds
        apply Records.look
        exact .pure (by simpa using holds)

end

end Selector

end Settlement
