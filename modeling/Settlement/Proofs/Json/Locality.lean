import Settlement.Json.Record
import Settlement.Proofs.Json.Whole

/-!
# Codecs in front of trees

A codec is local if what it reads of a value depends on the value alone, whatever comes after it.
All codecs that are put together here are; so what a codec makes of a tree by itself is also what it
makes of that tree as an item or as a member.
-/

namespace Settlement.Json

open Reader (Answers)

variable {α β : Type}

/-- The string that a tree spells. -/
def Tree.string? : Tree → Option String
  | .text l => l.string?
  | _ => none

/-- A string is read where one is expected, and nothing else is. -/
theorem answers_textAs (expected : String) (t : Tree) :
    (Reader.textAs expected).Answers t t.string? := by
  by_cases isText : ∃ l, t = .text l
  · rcases isText with ⟨l, rfl⟩
    apply Answers.peek?
    rintro _ rfl rest _
    rw [Tree.write, Literal.text, List.cons_append]
    exact (Reader.outcome?_drop_bind _ '"' _).trans (Reader.outcome?_text l rest)
  · have none : t.string? = none := by
      cases t with
      | text l => exact absurd ⟨l, rfl⟩ isText
      | _ => rfl
    rw [none]
    apply Answers.refused
    intro c starts s
    split
    case h_1 same => exact absurd (starts.tells.text (Option.some.inj same)) isText
    case h_2 => exact Reader.outcome?_refuse expected s

namespace Codec

/-- What a codec makes of a tree. -/
def valueOf? (c : Codec α) (depth : Nat) (t : Tree) : Option α :=
  (c.read depth).valueOf? t

/-- That what a codec makes of a value depends on the value alone. -/
def IsLocal (c : Codec α) : Prop :=
  ∀ depth, (c.read depth).Reads

/-! ## Simple codecs -/

theorem answers_text (depth : Nat) (t : Tree) : (text.read depth).Answers t t.string? :=
  answers_textAs "a string" t

theorem isLocal_text : text.IsLocal :=
  fun depth t => (answers_text depth t).self

theorem IsLocal.imap {c : Codec α} (isLocal : c.IsLocal) (make : α → β) (view : β → α) :
    (c.imap make view).IsLocal :=
  fun depth t => ((isLocal depth t).map make).self

theorem valueOf?_imap {c : Codec α} (isLocal : c.IsLocal) (make : α → β) (view : β → α)
    (depth : Nat) (t : Tree) :
    (c.imap make view).valueOf? depth t = (c.valueOf? depth t).map make :=
  ((isLocal depth t).map make).valueOf?_eq

theorem isLocal_flag : flag.IsLocal := by
  intro depth t
  by_cases isBool : ∃ b, t = .bool b
  · rcases isBool with ⟨b, rfl⟩
    have answers : (flag.read depth).Answers (.bool b) (some b) := by
      apply Answers.peek?
      cases b with
      | true =>
          rintro _ rfl rest _
          rw [Tree.write]
          exact Reader.outcome?_wordBy 't' ['r', 'u', 'e'] true rest
      | false =>
          rintro _ rfl rest _
          rw [Tree.write]
          exact Reader.outcome?_wordBy 'f' ['a', 'l', 's', 'e'] false rest
    exact answers.self
  · have answers : (flag.read depth).Answers t none := by
      apply Answers.refused
      intro c starts s
      split
      case h_1 same => exact absurd ⟨true, starts.tells.true (Option.some.inj same)⟩ isBool
      case h_2 same => exact absurd ⟨false, starts.tells.false (Option.some.inj same)⟩ isBool
      case h_3 => exact Reader.outcome?_refuse "a boolean" s
    exact answers.self

theorem answers_list {c : Codec α} (isLocal : c.IsLocal) (depth : Nat) (lead : Blanks)
    (items : List (Padded Tree)) :
    (c.list.read depth).Answers (.list lead items)
      (if 1 < depth then items.mapM fun i => c.valueOf? (depth - 1) i.inner else none) := by
  apply Answers.peek?
  rintro _ rfl rest _
  change Reader.outcome? (do let depth ← Reader.descend depth; Reader.drop; _) _ = _
  by_cases isDeep : 1 < depth
  · rw [if_pos isDeep, Reader.outcome?_descend_bind isDeep]
    apply (Reader.outcome?_list (isLocal (depth - 1)) lead items _ rest).trans
    change (items.mapM fun i => c.valueOf? (depth - 1) i.inner).bind _ = _
    cases items.mapM fun i => c.valueOf? (depth - 1) i.inner <;> rfl
  · rw [if_neg isDeep]
    exact Reader.outcome?_descend_bind_none isDeep _ _

theorem answers_list_none {c : Codec α} (depth : Nat) {t : Tree}
    (noList : ¬∃ lead items, t = .list lead items) : (c.list.read depth).Answers t none := by
  apply Answers.refused
  intro first starts s
  split
  case h_1 same => exact absurd (starts.tells.list (Option.some.inj same)) noList
  case h_2 => exact Reader.outcome?_refuse "a sequence" s

theorem IsLocal.list {c : Codec α} (isLocal : c.IsLocal) : c.list.IsLocal := by
  intro depth t
  by_cases isList : ∃ lead items, t = .list lead items
  · rcases isList with ⟨lead, items, rfl⟩
    exact (answers_list isLocal depth lead items).self
  · exact (answers_list_none depth isList).self

theorem answers_nullable_null (c : Codec α) (depth : Nat) :
    (c.nullable.read depth).Answers .null (some none) := by
  apply Answers.peek?
  rintro _ rfl rest _
  rw [Tree.write]
  exact Reader.outcome?_wordBy 'n' ['u', 'l', 'l'] none rest

theorem answers_nullable {c : Codec α} (isLocal : c.IsLocal) (depth : Nat) {t : Tree}
    (isGiven : t ≠ .null) :
    (c.nullable.read depth).Answers t ((c.valueOf? depth t).map some) := by
  apply Answers.peek?
  intro first starts rest ends
  split
  case h_1 same => exact absurd (starts.tells.null (Option.some.inj same)) isGiven
  case h_2 => exact ((isLocal depth t).map some).outcome? ends

theorem IsLocal.nullable {c : Codec α} (isLocal : c.IsLocal) : c.nullable.IsLocal := by
  intro depth t
  by_cases isNull : t = .null
  · rw [isNull]
    exact (answers_nullable_null c depth).self
  · exact (answers_nullable isLocal depth isNull).self

/-! ## Words -/

theorem outcome?_pick (word : α → String) (values : List α) (s : String) (rest : List Char) :
    (pick word values s).outcome? rest =
      (values.find? fun a => word a == s).map fun a => (a, rest) := by
  rw [pick]
  cases values.find? fun a => word a == s <;> rfl

/-- Only `null` is taken where nothing else will do. -/
theorem answers_unit (t : Tree) : ∃ answer, Reader.unit.Answers t answer := by
  by_cases isNull : t = .null
  · rw [isNull]
    exists some ()
    apply Answers.peek?
    rintro _ rfl rest _
    rw [Tree.write]
    exact Reader.outcome?_word ['u', 'l', 'l'] rest
  · exists none
    apply Answers.refused
    intro c starts s
    split
    case h_1 same => exact absurd (starts.tells.null (Option.some.inj same)) isNull
    case h_2 => exact Reader.outcome?_refuse "unit" s

/-- An object that gives a word the value `null`. -/
theorem answers_choice_object (word : α → String) (values : List α) (depth : Nat) (lead : Blanks)
    (members : List Member) :
    ∃ answer, ((choice word values).read depth).Answers (.object lead members) answer := by
  by_cases isDeep : 1 < depth
  case neg =>
    exists none
    apply Answers.peek?
    rintro _ rfl rest _
    exact Reader.outcome?_descend_bind_none isDeep _ _
  cases members with
  | nil =>
      exists none
      apply Answers.peek?
      rintro _ rfl rest _
      rw [Tree.write_object_append]
      apply (Reader.outcome?_descend_bind isDeep _ _).trans
      apply (Reader.outcome?_drop_bind _ '\x7b' _).trans
      exact Reader.outcome?_bind_of_eq_some (Reader.outcome?_nextMember_nil true lead rest) _
  | cons m more =>
      rcases answers_unit m.2.inner with ⟨isNull, answers⟩
      exists (m.1.inner.string?.bind fun s => values.find? fun a => word a == s).bind fun a =>
        isNull.bind fun _ => if more.isEmpty then some a else none
      apply Answers.peek?
      rintro _ rfl rest _
      have next := Reader.outcome?_nextMember_cons true lead m.1.before m.1.inner
      rw [Tree.write_object_append, List.map_cons, pending_cons, Tree.memberText]
      simp only [List.append_assoc, List.cons_append]
      apply (Reader.outcome?_descend_bind isDeep _ _).trans
      apply (Reader.outcome?_drop_bind _ '\x7b' _).trans
      apply (Reader.outcome?_bind_of_eq_some (next _) _).trans
      rw [if_pos rfl, Literal.text, List.cons_append]
      apply (Reader.outcome?_drop_bind _ '"' _).trans
      rw [Reader.outcome?_bind, Reader.outcome?_text]
      have ends := (ends_pending (.inr rfl) (more.map Tree.memberText) rest).blanks m.2.after
      cases m.1.inner.string? with
      | none => rfl
      | some s =>
          apply (Reader.outcome?_bind _ _ _).trans
          rw [outcome?_pick]
          dsimp only [Option.bind_some]
          cases values.find? fun a => word a == s with
          | none => rfl
          | some a =>
              apply (Reader.outcome?_bind_of_eq_some (Reader.outcome?_colon m.1.after _) _).trans
              apply (answers.outcome?_bind _ m.2.before ends).trans
              cases isNull with
              | none => rfl
              | some _ =>
                  cases more with
                  | nil => exact Reader.outcome?_peek?_bind _ m.2.after rfl _
                  | cons next more => exact Reader.outcome?_peek?_bind _ m.2.after rfl _

theorem isLocal_choice (word : α → String) (values : List α) : (choice word values).IsLocal := by
  intro depth t
  by_cases isText : ∃ l, t = .text l
  · rcases isText with ⟨l, rfl⟩
    have answers : ((choice word values).read depth).Answers (.text l)
        (l.string?.bind fun s => values.find? fun a => word a == s) := by
      apply Answers.peek?
      rintro _ rfl rest _
      rw [Tree.write, Literal.text, List.cons_append]
      apply (Reader.outcome?_drop_bind _ '"' _).trans
      rw [Reader.outcome?_bind, Reader.outcome?_text]
      cases l.string? with
      | none => rfl
      | some s => exact outcome?_pick word values s rest
    exact answers.self
  by_cases isObject : ∃ lead members, t = .object lead members
  · rcases isObject with ⟨lead, members, rfl⟩
    rcases answers_choice_object word values depth lead members with ⟨answer, answers⟩
    exact answers.self
  · have answers : ((choice word values).read depth).Answers t none := by
      apply Answers.refused
      intro c starts s
      split
      case h_1 => rfl
      case h_2 same => exact absurd (starts.tells.text (Option.some.inj same)) isText
      case h_3 same => exact absurd (starts.tells.object (Option.some.inj same)) isObject
      case h_4 => rfl
    exact answers.self

end Codec

end Settlement.Json
