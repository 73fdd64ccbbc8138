import Mathlib.Data.List.Forall2
import Settlement.Group

/-!
# Alternative strategies

A group takes up alternative strategies one after the other.  What it answers for a mode is then the
last of them that serves the mode; everything else about the group stays as it was.
-/

namespace Settlement.Group

variable {χ ω η ν α : Type}

/-- A list with one more member, in place of all others of its mode. -/
def replacing {μ : Type} [BEq μ] (modeOf : α → μ) (l : List α) (a : α) : List α :=
  (l.filter fun b => modeOf b != modeOf a) ++ [a]

/-- One more member, in place of all others of its mode, is the first of that mode and leaves the
first of any other mode as it was. -/
theorem find?_replacing {μ : Type} [BEq μ] [LawfulBEq μ] (modeOf : α → μ) (l : List α) (a : α)
    (mode : μ) :
    (replacing modeOf l a).find? (fun b => modeOf b == mode) =
      ([a].find? fun b => modeOf b == mode).or (l.find? fun b => modeOf b == mode) := by
  unfold replacing
  rw [List.find?_append]
  cases served : modeOf a == mode with
  | true =>
      have same : modeOf a = mode := eq_of_beq served
      have gone : (l.filter fun b => modeOf b != modeOf a).find? (fun b => modeOf b == mode) =
          none := by
        rw [List.find?_eq_none]
        intro b member
        simpa [same] using (List.mem_filter.mp member).2
      simp [gone, served]
  | false =>
      have kept : (l.filter fun b => modeOf b != modeOf a).find? (fun b => modeOf b == mode) =
          l.find? fun b => modeOf b == mode := by
        rw [List.find?_filter]
        congr 1
        funext b
        cases wanted : modeOf b == mode with
        | false => simp
        | true =>
            have different : modeOf b ≠ modeOf a := by
              rintro same
              simp [← same, wanted] at served
            simp [different]
      simp [kept, served]

/-- After some members, each in place of all others of its mode, the last of them of a mode is the
one that is found. -/
theorem find?_foldl_replacing {μ : Type} [BEq μ] [LawfulBEq μ] (modeOf : α → μ)
    (offered l : List α) (mode : μ) :
    (offered.foldl (replacing modeOf) l).find? (fun a => modeOf a == mode) =
      (offered.reverse.find? fun a => modeOf a == mode).or
        (l.find? fun a => modeOf a == mode) := by
  induction offered generalizing l with
  | nil => rfl
  | cons a rest ih =>
      rw [List.foldl_cons, ih, List.reverse_cons, List.find?_append, Option.or_assoc,
        find?_replacing]

/-- Members that take the place of all others of their mode have modes of their own. -/
theorem nodup_foldl_replacing {μ : Type} [BEq μ] [LawfulBEq μ] (modeOf : α → μ)
    (offered : List α) {l : List α} (distinct : (l.map modeOf).Nodup) :
    ((offered.foldl (replacing modeOf) l).map modeOf).Nodup := by
  induction offered generalizing l with
  | nil => exact distinct
  | cons a rest ih =>
      apply ih
      unfold replacing
      rw [List.map_append, List.map_singleton, List.nodup_append]
      refine ⟨distinct.sublist (List.filter_sublist.map modeOf), List.pairwise_singleton _ _, ?_⟩
      rintro _ kept _ own rfl
      obtain ⟨b, member, same⟩ := List.mem_map.mp kept
      simp [same, List.mem_singleton.mp own] at member

/-- If each strategy of a list serves the mode of its place, then the last that is found for a mode
serves it, and one is found for just these modes. -/
theorem find?_served {μ : Type} [BEq μ] [LawfulBEq μ] {modeOf : α → μ} {serves : μ → α → Prop}
    (fits : ∀ mode a, serves mode a → modeOf a = mode) {modes : List μ} {offered : List α}
    (served : List.Forall₂ serves modes offered) (mode : μ) :
    (∀ a, (offered.reverse.find? fun a => modeOf a == mode) = some a → serves mode a) ∧
      ((offered.reverse.find? fun a => modeOf a == mode).isSome = true ↔ mode ∈ modes) := by
  have serving : ∀ a ∈ offered, serves (modeOf a) a ∧ modeOf a ∈ modes := by
    induction served with
    | nil => exact fun a member => absurd member List.not_mem_nil
    | @cons m b _ _ first _ ih =>
        intro a member
        rcases List.mem_cons.mp member with rfl | member
        · rw [fits m a first]
          exact ⟨first, List.mem_cons_self⟩
        · exact ⟨(ih a member).1, List.mem_cons_of_mem m (ih a member).2⟩
  have served' : ∀ m ∈ modes, ∃ a ∈ offered, modeOf a = m := by
    clear serving
    induction served with
    | nil => exact fun m member => absurd member List.not_mem_nil
    | @cons m b _ _ first _ ih =>
        intro m' member
        rcases List.mem_cons.mp member with rfl | member
        · exact ⟨b, List.mem_cons_self, fits m' b first⟩
        · obtain ⟨a, inside, same⟩ := ih m' member
          exact ⟨a, List.mem_cons_of_mem b inside, same⟩
  constructor
  · intro a found
    have same : modeOf a = mode := by simpa using List.find?_some found
    have inside : a ∈ offered := by simpa using List.mem_of_find?_eq_some found
    rw [← same]
    exact (serving a inside).1
  · simp only [List.find?_isSome, List.mem_reverse, beq_iff_eq]
    constructor
    · rintro ⟨a, inside, rfl⟩
      exact (serving a inside).2
    · exact served' mode

/-! ## Producers -/

/-- Alternative producers leave the rest of a group as it is. -/
theorem foldl_withAltProducer_eq (g : Group χ ω η ν) (offered : List (Producer χ ω η ν)) :
    offered.foldl withAltProducer g =
      { g with altProducers := (offered.foldl withAltProducer g).altProducers } := by
  induction offered generalizing g with
  | nil => rfl
  | cons p rest ih =>
      rw [List.foldl_cons, ih]
      rfl

theorem altProducers_foldl (g : Group χ ω η ν) (offered : List (Producer χ ω η ν)) :
    (offered.foldl withAltProducer g).altProducers =
      offered.foldl (replacing Producer.mode) g.altProducers := by
  induction offered generalizing g with
  | nil => rfl
  | cons p rest ih => exact ih (g.withAltProducer p)

/-- Among the producers that a group was offered, the last of a mode serves it. -/
theorem find?_altProducers (g : Group χ ω η ν) (offered : List (Producer χ ω η ν))
    (mode : ProductionMode) :
    (offered.foldl withAltProducer g).altProducers.find? (fun p => p.mode == mode) =
      (offered.reverse.find? fun p => p.mode == mode).or
        (g.altProducers.find? fun p => p.mode == mode) := by
  rw [altProducers_foldl]
  exact find?_foldl_replacing Producer.mode offered g.altProducers mode

/-! ## Acceptors -/

/-- Alternative acceptors leave the rest of a group as it is. -/
theorem foldl_withAltAcceptor_eq (g : Group χ ω η ν) (offered : List (Acceptor χ ω η ν)) :
    offered.foldl withAltAcceptor g =
      { g with altAcceptors := (offered.foldl withAltAcceptor g).altAcceptors } := by
  induction offered generalizing g with
  | nil => rfl
  | cons a rest ih =>
      rw [List.foldl_cons, ih]
      rfl

theorem altAcceptors_foldl (g : Group χ ω η ν) (offered : List (Acceptor χ ω η ν)) :
    (offered.foldl withAltAcceptor g).altAcceptors =
      offered.foldl (replacing Acceptor.mode) g.altAcceptors := by
  induction offered generalizing g with
  | nil => rfl
  | cons a rest ih => exact ih (g.withAltAcceptor a)

/-- Among the acceptors that a group was offered, the last of a mode serves it. -/
theorem find?_altAcceptors (g : Group χ ω η ν) (offered : List (Acceptor χ ω η ν))
    (mode : AcceptanceMode) :
    (offered.foldl withAltAcceptor g).altAcceptors.find? (fun a => a.mode == mode) =
      (offered.reverse.find? fun a => a.mode == mode).or
        (g.altAcceptors.find? fun a => a.mode == mode) := by
  rw [altAcceptors_foldl]
  exact find?_foldl_replacing Acceptor.mode offered g.altAcceptors mode

end Settlement.Group
