import Mathlib.Data.Finset.Card
import Settlement.Proofs.Action.Triple
import Settlement.Selector.Rule

/-!
# What scans select

All selectors admit settlers by one rule.  Those that go through a scope return, in its order, the
candidates of the admitted settlers that pass a test, and the one that is given a list returns those
of the admitted settlers of the list.

The scope may fail, and may change the world, as long as its answers are those of a fixed list of
settlers with distinct identities.
-/

namespace Settlement

variable {ω ν σ : Type}

/-- Keeping an invariant of the world, a scope answers from a list of settlers, or fails. -/
structure Scope.AnswersFrom (scope : Scope ω ν) (inv : ω → Prop) (settlers : List Settler)
    (fails : DiscoveryError → Prop) : Prop where
  distinct : (settlers.map (·.id)).Nodup
  lists : Ensures inv scope.settlers (· = settlers) fails
  looksUp : ∀ id, Ensures inv (scope.settler id)
    (· = settlers.find? fun s => s.id == id) fails

theorem Scope.AnswersFrom.weaken {scope : Scope ω ν} {inv : ω → Prop} {settlers : List Settler}
    {fails fails' : DiscoveryError → Prop} (answers : scope.AnswersFrom inv settlers fails)
    (failures : ∀ e, fails e → fails' e) : scope.AnswersFrom inv settlers fails' where
  distinct := answers.distinct
  lists := answers.lists.weaken (fun _ same => same) failures
  looksUp id := (answers.looksUp id).weaken (fun _ same => same) failures

/-- Settlers have no more identities than they are. -/
theorem card_ids_le (settlers : List Settler) :
    (settlers.map (·.id)).toFinset.card ≤ settlers.length := by
  rw [← List.length_map (·.id)]
  exact List.toFinset_card_le _

/-- In a list of distinct settlers, each is known by its identity. -/
theorem eq_of_id_eq {settlers : List Settler} (distinct : (settlers.map (·.id)).Nodup)
    {s t : Settler} (first : s ∈ settlers) (second : t ∈ settlers) (sameId : s.id = t.id) : s = t :=
  List.inj_on_of_nodup_map distinct first second sameId

/-- In a list of distinct settlers, looking an identity up finds the settler that has it. -/
theorem find?_id_eq_some_iff {settlers : List Settler} (distinct : (settlers.map (·.id)).Nodup)
    {id : SettlerId} {s : Settler} :
    (settlers.find? fun s => s.id == id) = some s ↔ s ∈ settlers ∧ s.id = id := by
  constructor
  · intro entry
    exact ⟨List.mem_of_find?_eq_some entry, by simpa using List.find?_some entry⟩
  · rintro ⟨member, rfl⟩
    cases entry : settlers.find? fun t => t.id == s.id with
    | none =>
        rw [List.find?_eq_none] at entry
        exact absurd (beq_self_eq_true s.id) (entry s member)
    | some t =>
        have sameId : t.id = s.id := by simpa using List.find?_some entry
        rw [eq_of_id_eq distinct (List.mem_of_find?_eq_some entry) member sameId]

namespace Selector

variable {inv : ω → Prop} {fails : DiscoveryError → Prop}

/-- The candidates of the admitted ones among some settlers. -/
def admitted (ctx : SelectionContext) (settlers : List Settler) : List Candidate :=
  (settlers.filter (·.isAdmitted ctx.production)).map (·.candidate)

theorem admitted_cons (ctx : SelectionContext) (s : Settler) (rest : List Settler) :
    admitted ctx (s :: rest) =
      if s.isAdmitted ctx.production then s.candidate :: admitted ctx rest
      else admitted ctx rest := by
  unfold admitted
  rw [List.filter_cons]
  split <;> rfl

theorem admits_ensures (describe : String) (ctx : SelectionContext) (s : Settler) :
    Ensures inv (admits describe ctx s) (· = s.isAdmitted ctx.production) fails := by
  unfold admits
  cases hidden : s.isPublic with
  | false =>
      refine (Ensures.report _).bind fun _ _ => .pure ?_
      simp [Settler.isAdmitted, hidden]
  | true =>
      cases isAdmitted : s.isAdmitted ctx.production with
      | false => exact (Ensures.report _).bind fun _ _ => .pure rfl
      | true => exact .pure rfl

/-- A test that finds out which settlers have a property, while its memory stays good, keeps just
the admitted ones among them. -/
theorem keep_ensures {test : σ → Settler → Selection ω (Bool × σ)} {good : σ → Prop}
    {wanted : Settler → Prop} [DecidablePred wanted] {settlers : List Settler}
    (tests : ∀ s ∈ settlers, ∀ memory, good memory →
      Ensures inv (test memory s) (fun r => (r.1 = true ↔ wanted s) ∧ good r.2) fails)
    (describe : String) (ctx : SelectionContext) {memory : σ} (isGood : good memory) :
    Ensures inv (keep describe ctx test memory settlers)
      (· = admitted ctx (settlers.filter fun s => wanted s)) fails := by
  induction settlers generalizing memory with
  | nil => exact .pure rfl
  | cons s rest ih =>
      have others (memory : σ) (isGood : good memory) :
          Ensures inv (keep describe ctx test memory rest)
            (· = admitted ctx (rest.filter fun s => wanted s)) fails :=
        ih (fun s' member => tests s' (List.mem_cons_of_mem s member)) isGood
      unfold keep
      apply (tests s List.mem_cons_self memory isGood).bind
      rintro ⟨passes, memory'⟩ ⟨answer, isGood'⟩
      cases passes with
      | false =>
          have unwanted : ¬wanted s := fun holds => Bool.noConfusion (answer.mpr holds)
          rw [List.filter_cons_of_neg (by simpa using unwanted)]
          simp only [Bool.false_eq_true, if_false, pure_bind]
          apply (others memory' isGood').bind
          rintro _ rfl
          exact .pure rfl
      | true =>
          rw [List.filter_cons_of_pos (by simpa using answer.mp rfl), admitted_cons]
          apply (admits_ensures describe ctx s).bind
          rintro _ rfl
          apply (others memory' isGood').bind
          rintro _ rfl
          exact .pure rfl

theorem scan_ensures {test : σ → Settler → Selection ω (Bool × σ)} {good : σ → Prop}
    {wanted : Settler → Prop} [DecidablePred wanted] {settlers : List Settler}
    (tests : ∀ s ∈ settlers, ∀ memory, good memory →
      Ensures inv (test memory s) (fun r => (r.1 = true ↔ wanted s) ∧ good r.2) fails)
    (describe : String) (ctx : SelectionContext) (memory : σ) (isGood : good memory) :
    Ensures inv (scan describe ctx test memory settlers)
      (· = admitted ctx (settlers.filter fun s => wanted s)) fails := by
  apply (keep_ensures tests describe ctx isGood).bind
  rintro _ rfl
  exact (Ensures.report _).bind fun _ _ => .pure rfl

/-- A plain test keeps the admitted settlers that pass it. -/
theorem scanPlainly_ensures {scope : Scope ω ν} {settlers : List Settler}
    (answers : scope.AnswersFrom inv settlers fails) (describe : String) (ctx : SelectionContext)
    (test : Settler → Bool) :
    Ensures inv (scanPlainly scope describe ctx test)
      (· = admitted ctx (settlers.filter test)) fails := by
  apply answers.lists.bind
  rintro listed rfl
  have tests : ∀ s ∈ listed, ∀ memory : Unit, True →
      Ensures inv (pure (test s, ()) : Selection ω (Bool × Unit))
        (fun r => (r.1 = true ↔ test s = true) ∧ True) fails :=
    fun s _ _ _ => .pure ⟨Iff.rfl, trivial⟩
  simpa using scan_ensures tests describe ctx () trivial

/-! ## Lists -/

/-- The settlers of a list of identities, all of which must be known. -/
def named (settlers : List Settler) (ids : List SettlerId) :
    Except DiscoveryError (List Settler) :=
  ids.mapM fun id =>
    match settlers.find? fun s => s.id == id with
    | some s => .ok s
    | none => .error (.unknownSettler id)

theorem named_cons (settlers : List Settler) (id : SettlerId) (rest : List SettlerId) :
    named settlers (id :: rest) =
      match settlers.find? fun s => s.id == id with
      | some s => (named settlers rest).map (s :: ·)
      | none => .error (.unknownSettler id) := by
  unfold named
  rw [List.mapM_cons]
  cases settlers.find? fun s => s.id == id with
  | none => rfl
  | some s => rfl

/-- What is named is known. -/
theorem mem_of_named {settlers found : List Settler} {ids : List SettlerId}
    (known : named settlers ids = .ok found) {s : Settler} (member : s ∈ found) :
    s ∈ settlers := by
  induction ids generalizing found with
  | nil =>
      cases known
      cases member
  | cons id rest ih =>
      rw [named_cons] at known
      cases entry : settlers.find? fun s => s.id == id with
      | none => simp [entry] at known
      | some t =>
          cases others : named settlers rest with
          | error e => simp [entry, others, Except.map] at known
          | ok more =>
              simp only [entry, others, Except.map, Except.ok.injEq] at known
              subst known
              rcases List.mem_cons.mp member with rfl | member
              · exact List.mem_of_find?_eq_some entry
              · exact ih others member

/-- Looking a list up gives the candidates of its admitted settlers, or tells the first that is not
known. -/
theorem lookUp_ensures {scope : Scope ω ν} {settlers : List Settler}
    (answers : scope.AnswersFrom inv settlers fails) (describe : String) (ctx : SelectionContext)
    (ids : List SettlerId) :
    Ensures inv (lookUp scope describe ctx ids)
      (fun candidates => ∃ found, named settlers ids = .ok found ∧ candidates = admitted ctx found)
      (fun e => fails e ∨ named settlers ids = .error e) := by
  induction ids with
  | nil => exact .pure ⟨[], rfl, rfl⟩
  | cons id rest ih =>
      unfold lookUp
      apply ((answers.looksUp id).weaken (fun _ found => found) fun _ => .inl).bind
      rintro _ rfl
      rw [named_cons]
      cases settlers.find? fun s => s.id == id with
      | none => exact .fail (.inr rfl)
      | some s =>
          apply (admits_ensures describe ctx s).bind
          rintro _ rfl
          refine (ih.weaken (fun _ found => found) ?_).bind ?_
          · rintro e (failed | unknown)
            · exact .inl failed
            · exact .inr (by rw [unknown]; rfl)
          · rintro _ ⟨found, known, rfl⟩
            refine .pure ⟨s :: found, by rw [known]; rfl, ?_⟩
            rw [admitted_cons]

end Selector

end Settlement
