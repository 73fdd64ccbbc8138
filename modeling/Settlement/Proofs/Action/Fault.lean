import Mathlib.Data.List.Forall2
import Settlement.Action

/-!
# First faults

A check of many conditions stops at the first that is violated.  Its outcome is described by the
list of all violations in the order of the conditions: it is the first of them, or without any an
answer. Such descriptions compose: the faults of two checks, one after the other, are those of the
first followed by those of the second.
-/

namespace Settlement

variable {σ η ε α β : Type}

theorem exists_eq_ok_of_isSome {result : Except ε α} (isSome : result.toOption.isSome = true) :
    ∃ a, result = .ok a := by
  cases result with
  | error e => cases isSome
  | ok a => exact ⟨a, rfl⟩

/-- The first of some faults, or without any an answer with a property. -/
def Reports (faults : List ε) (post : α → Prop) (result : Except ε α) : Prop :=
  match faults with
  | [] => ∃ a, result = .ok a ∧ post a
  | e :: _ => result = .error e

namespace Reports

variable {faults more : List ε} {post : α → Prop} {result : Except ε α}

theorem isOk_iff (reports : Reports faults post result) : (∃ a, result = .ok a) ↔ faults = [] := by
  cases faults with
  | nil =>
      obtain ⟨a, rfl, _⟩ := reports
      simp
  | cons e rest =>
      obtain rfl : result = .error e := reports
      simp

theorem error_iff (reports : Reports faults post result) (e : ε) :
    result = .error e ↔ faults.head? = some e := by
  cases faults with
  | nil =>
      obtain ⟨a, rfl, _⟩ := reports
      simp
  | cons first rest =>
      obtain rfl : result = .error first := reports
      simp

theorem post_of_ok {a : α} (reports : Reports faults post result) (answer : result = .ok a) :
    post a := by
  subst answer
  cases faults with
  | nil =>
      obtain ⟨b, same, holds⟩ := reports
      cases same
      exact holds
  | cons e rest => cases reports

theorem weaken {post' : α → Prop} (reports : Reports faults post result)
    (implies : ∀ a, result = .ok a → post a → post' a) : Reports faults post' result := by
  cases faults with
  | nil =>
      obtain ⟨a, answer, holds⟩ := reports
      exact ⟨a, answer, implies a answer holds⟩
  | cons e rest => exact reports

theorem ok {a : α} (holds : post a) : Reports [] post (.ok a : Except ε α) :=
  ⟨a, rfl, holds⟩

theorem error (e : ε) : Reports [e] post (.error e : Except ε α) :=
  rfl

/-- One check after the other. -/
theorem bind {post' : β → Prop} {x : Except ε α} {f : α → Except ε β}
    (first : Reports faults post x) (second : ∀ a, post a → Reports more post' (f a)) :
    Reports (faults ++ more) post' (x >>= f) := by
  cases faults with
  | nil =>
      obtain ⟨a, rfl, holds⟩ := first
      exact second a holds
  | cons e rest =>
      obtain rfl : x = .error e := first
      rfl

/-- One step of a run after the other. -/
theorem run_bind {post' : β → Prop} {x : Action σ η ε α} {f : α → Action σ η ε β} {s : σ}
    (first : Reports faults post (x.run s).result)
    (second : ∀ a, post a → Reports more post' ((f a).run (x.run s).state).result) :
    Reports (faults ++ more) post' ((x >>= f).run s).result := by
  cases faults with
  | nil =>
      obtain ⟨a, answer, holds⟩ := first
      rw [Action.run_bind_of_ok answer]
      exact second a holds
  | cons e rest =>
      rw [Action.run_bind_of_error first]
      rfl

/-- A check without effects before the rest of a run. -/
theorem ofExcept_bind {post' : β → Prop} {x : Except ε α} {f : α → Action σ η ε β} {s : σ}
    (first : Reports faults post x)
    (second : ∀ a, post a → Reports more post' ((f a).run s).result) :
    Reports (faults ++ more) post' ((Action.ofExcept x >>= f).run s).result := by
  refine run_bind (s := s) (by simpa using first) fun a holds => ?_
  simpa using second a holds

/-- Only the first of the faults counts. -/
theorem congr (reports : Reports faults post result) (same : faults.head? = more.head?) :
    Reports more post result := by
  cases faults with
  | nil =>
      obtain rfl : more = [] := List.head?_eq_none_iff.mp same.symm
      exact reports
  | cons e rest =>
      obtain ⟨others, rfl⟩ := List.head?_eq_some_iff.mp same.symm
      exact reports

/-- Checks of all members of a list, one after the other. -/
theorem mapM {faultsOf : α → List ε} {postOf : α → β → Prop} {f : α → Except ε β} {l : List α}
    (each : ∀ a ∈ l, Reports (faultsOf a) (postOf a) (f a)) :
    Reports (l.flatMap faultsOf) (List.Forall₂ postOf l) (l.mapM f) := by
  induction l with
  | nil => exact .ok .nil
  | cons a rest ih =>
      rw [List.mapM_cons, List.flatMap_cons]
      refine (each a List.mem_cons_self).bind fun b holds => ?_
      have others := ih fun a' member => each a' (List.mem_cons_of_mem a member)
      rw [← List.append_nil (rest.flatMap faultsOf)]
      exact others.bind fun bs hold => .ok (.cons holds hold)

end Reports

end Settlement
