import Mathlib.Data.List.DropRight
import Mathlib.Data.List.Forall2

/-!
# Lists

Facts about lists that say nothing of settlers: how repetitions are left out from the end of a list,
what follows for two lists whose members correspond, and how the answers for the members of a list
are taken one after the other.
-/

namespace Settlement

variable {α β γ : Type}

/-! ## Lists without repetitions -/

section

variable [DecidableEq α]

/-- One more member of a list is left out just if it is there before. -/
theorem eraseDups_concat (l : List α) (a : α) :
    (l ++ [a]).eraseDups = if a ∈ l then l.eraseDups else l.eraseDups ++ [a] := by
  rw [List.eraseDups_append, List.removeAll]
  by_cases known : a ∈ l <;> simp [known, List.eraseDups_cons]

/-- A list without repetitions has none to lose. -/
theorem eraseDups_of_nodup {l : List α} (distinct : l.Nodup) : l.eraseDups = l := by
  induction l using List.reverseRecOn with
  | nil => rfl
  | append_singleton l a ih =>
      obtain ⟨others, -, apart⟩ := List.nodup_append.mp distinct
      have isNew : a ∉ l := fun member => apart a member a List.mem_cons_self rfl
      rw [eraseDups_concat, if_neg isNew, ih others]

end

/-! ## Lists that correspond -/

/-- In lists that correspond, each member of the one has a counterpart in the other. -/
theorem exists_of_mem_of_forall₂ {R : α → β → Prop} {l : List α} {l' : List β}
    (related : List.Forall₂ R l l') {a : α} (member : a ∈ l) : ∃ b ∈ l', R a b := by
  induction related with
  | nil => cases member
  | cons first _ ih =>
      cases member with
      | head => exact ⟨_, List.mem_cons_self, first⟩
      | tail _ member =>
          obtain ⟨b, member', isRelated⟩ := ih member
          exact ⟨b, List.mem_cons_of_mem _ member', isRelated⟩

/-- Relations of two lists to a third one meet place by place. -/
theorem forall₂_of_common {R : α → β → Prop} {S : α → γ → Prop} {T : β → γ → Prop} {l : List α}
    {m : List β} {n : List γ} (first : List.Forall₂ R l m) (second : List.Forall₂ S l n)
    (meets : ∀ a ∈ l, ∀ b c, R a b → S a c → T b c) : List.Forall₂ T m n := by
  induction first generalizing n with
  | nil =>
      cases second
      exact .nil
  | cons here _ ih =>
      cases second with
      | cons here' others =>
          have head := meets _ List.mem_cons_self _ _ here here'
          exact .cons head (ih others fun a member => meets a (List.mem_cons_of_mem _ member))

/-- Loops over lists do the same if their steps do. -/
theorem forM_eq_of_forall₂ {m : Type → Type} [Monad m] {f : α → m PUnit}
    {f' : β → m PUnit} {l : List α} {l' : List β}
    (same : List.Forall₂ (fun a b => f a = f' b) l l') : forM l f = forM l' f' := by
  induction same with
  | nil => rfl
  | cons first _ ih => rw [List.forM_cons, List.forM_cons, first, ih]

/-! ## Lists of answers -/

section

variable {f : α → Option β}

theorem mapM_cons_eq (a : α) (list : List α) :
    (a :: list).mapM f = (f a).bind fun b => (list.mapM f).map (b :: ·) := by
  rw [List.mapM_cons]
  cases f a with
  | none => rfl
  | some b => cases list.mapM f <;> rfl

theorem isSome_mapM_iff (list : List α) :
    (list.mapM f).isSome ↔ ∀ a ∈ list, (f a).isSome := by
  induction list with
  | nil => simp
  | cons a list ih =>
      rw [mapM_cons_eq, List.forall_mem_cons, ← ih]
      cases f a <;> simp

/-- One value comes from one member. -/
theorem eq_singleton_of_mapM {list : List α} {b : β} (read : list.mapM f = some [b]) :
    ∃ a, list = [a] ∧ f a = some b := by
  cases list with
  | nil => simp at read
  | cons a list =>
      rw [mapM_cons_eq] at read
      obtain ⟨b', isFirst, later⟩ := Option.bind_eq_some_iff.mp read
      obtain ⟨bs, areLater, same⟩ := Option.map_eq_some_iff.mp later
      obtain ⟨rfl, rfl⟩ := List.cons.inj same
      cases list with
      | nil => exact ⟨a, rfl, isFirst⟩
      | cons a' list =>
          rw [mapM_cons_eq] at areLater
          obtain ⟨c, -, more⟩ := Option.bind_eq_some_iff.mp areLater
          obtain ⟨cs, -, none⟩ := Option.map_eq_some_iff.mp more
          contradiction

/-- Members that are read in two turns are read in one. -/
theorem mapM_bind_mapM {ε : Type} {g : β → Except ε γ} {h : α → Option γ}
    (each : ∀ a, ((f a).bind fun b => (g b).toOption) = h a) (list : List α) :
    ((list.mapM f).bind fun bs => (bs.mapM g).toOption) = list.mapM h := by
  induction list with
  | nil => rfl
  | cons a list ih =>
      rw [mapM_cons_eq, mapM_cons_eq, ← each, ← ih]
      cases f a with
      | none => rfl
      | some b =>
          cases list.mapM f with
          | none => exact (Option.bind_fun_none (g b).toOption).symm
          | some bs =>
              dsimp only [Option.bind_some, Option.map_some]
              rw [List.mapM_cons]
              cases g b with
              | error fault => rfl
              | ok c => cases bs.mapM g <;> rfl

end

/-- To append one answer after another is to take them all. -/
theorem foldlM_append_eq (f : α → Option β) (list : List α) (before : List β) :
    list.foldlM (fun before a => (f a).map fun b => before ++ [b]) before =
      (list.mapM f).map (before ++ ·) := by
  induction list generalizing before with
  | nil => simp
  | cons a list ih =>
      rw [List.foldlM_cons, mapM_cons_eq]
      cases f a with
      | none => rfl
      | some b =>
          simp only [Option.map_some, Option.bind_eq_bind, Option.bind_some, ih]
          cases list.mapM f <;> simp

/-- Two things that are known do not disturb each other. -/
theorem foldlM_pair {σ : Type} (mk : β → γ → σ) (left : σ → β) (right : σ → γ)
    (left_mk : ∀ b c, left (mk b c) = b) (right_mk : ∀ b c, right (mk b c) = c)
    (f : β → α → Option β) (g : γ → α → Option γ) (list : List α) (b : β) (c : γ) :
    list.foldlM (fun known a => (f (left known) a).bind fun b => (g (right known) a).map (mk b))
        (mk b c) =
      (list.foldlM f b).bind fun b => (list.foldlM g c).map (mk b) := by
  induction list generalizing b c with
  | nil => rfl
  | cons a list ih =>
      simp only [List.foldlM_cons, left_mk, right_mk]
      cases f b a with
      | none => rfl
      | some b =>
          cases g c a with
          | none => exact (Option.bind_fun_none (list.foldlM f b)).symm
          | some c => exact ih b c

end Settlement
