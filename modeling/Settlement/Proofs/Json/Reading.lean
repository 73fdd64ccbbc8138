import Settlement.Proofs.Json.Scalar

/-!
# Readers in front of trees

A reader answers a tree if what it makes of the tree's text does not depend on the blanks before it
and on what comes after it.  The loops over items and over members answer with what they make of
one item or member after another.
-/

namespace Settlement.Json

variable {α β σ : Type}

/-! ## Texts in a row -/

/-- Texts in a row, with a comma before each of them but the first one of all. -/
def pending (first : Bool) (texts : List (List Char)) : List Char :=
  if first then separated texts else texts.flatMap (',' :: ·)

theorem pending_nil (first : Bool) : pending first [] = [] := by
  cases first <;> rfl

theorem pending_cons (first : Bool) (text : List Char) (texts : List (List Char)) :
    pending first (text :: texts) =
      (if first then [] else [',']) ++ (text ++ pending false texts) := by
  cases first with
  | true => exact Reader.separated_cons text texts
  | false => rfl

theorem length_le_pending (first : Bool) (texts : List (List Char)) :
    texts.length ≤ (pending first texts).length + 1 := by
  cases texts with
  | nil => simp
  | cons text texts =>
      have taken := Reader.length_le_flatMap_cons ',' texts
      simp only [pending_cons, List.length_append, List.length_cons]
      simp only [pending, Bool.false_eq_true, if_false]
      omega

/-- More texts, or a closing mark, do not go on with a number. -/
theorem ends_pending {close : Char} (closes : close = ']' ∨ close = '\x7d')
    (texts : List (List Char)) (rest : List Char) :
    Ends (pending false texts ++ close :: rest) := by
  cases texts with
  | nil =>
      rw [pending_nil]
      rcases closes with rfl | rfl <;> exact ends_cons (by decide) rest
  | cons text texts =>
      rw [pending_cons]
      exact ends_cons (by decide) _

theorem length_pending_cons (first : Bool) (text : List Char) (texts : List (List Char)) :
    (pending first (text :: texts)).length =
      (if first then 0 else 1) + text.length + (pending false texts).length := by
  rw [pending_cons]
  cases first with
  | true => simp
  | false =>
      simp only [Bool.false_eq_true, if_false, List.length_append, List.length_singleton]
      omega

/-! ## Texts of trees -/

namespace Tree

/-- An item of a list with its blanks. -/
def itemText (item : Padded Tree) : List Char :=
  item.before.val ++ item.inner.write ++ item.after.val

/-- A member of an object with its blanks. -/
def memberText (m : Member) : List Char :=
  m.1.before.val ++ m.1.inner.text ++ m.1.after.val ++
    ':' :: (m.2.before.val ++ m.2.inner.write ++ m.2.after.val)

theorem write_list_append (lead : Blanks) (items : List (Padded Tree)) (rest : List Char) :
    (list lead items).write ++ rest =
      '[' :: (lead.val ++ (pending true (items.map itemText) ++ ']' :: rest)) := by
  rw [write, List.append_assoc, List.cons_append, List.cons_append, List.append_assoc]
  rfl

theorem write_object_append (lead : Blanks) (members : List Member) (rest : List Char) :
    (object lead members).write ++ rest =
      '\x7b' :: (lead.val ++ (pending true (members.map memberText) ++ '\x7d' :: rest)) := by
  rw [write, List.append_assoc, List.cons_append, List.cons_append, List.append_assoc]
  rfl

theorem length_write_list (lead : Blanks) (items : List (Padded Tree)) :
    (list lead items).write.length =
      lead.val.length + (pending true (items.map itemText)).length + 2 := by
  rw [← List.append_nil (list lead items).write, write_list_append]
  simp only [List.length_cons, List.length_append, List.length_nil]
  omega

theorem length_write_object (lead : Blanks) (members : List Member) :
    (object lead members).write.length =
      lead.val.length + (pending true (members.map memberText)).length + 2 := by
  rw [← List.append_nil (object lead members).write, write_object_append]
  simp only [List.length_cons, List.length_append, List.length_nil]
  omega

/-- The characters that a tree can begin with. -/
def Starts : Tree → Char → Prop
  | .null, c => c = 'n'
  | .bool true, c => c = 't'
  | .bool false, c => c = 'f'
  | .number _, c => c = '-' ∨ c.isDigit = true
  | .text _, c => c = '"'
  | .list _ _, c => c = '['
  | .object _ _, c => c = '\x7b'

theorem exists_write_eq_cons (t : Tree) : ∃ c more, t.write = c :: more ∧ t.Starts c := by
  cases t with
  | null => exact ⟨'n', _, by rw [write], rfl⟩
  | bool b =>
      cases b with
      | true => exact ⟨'t', _, by rw [write], rfl⟩
      | false => exact ⟨'f', _, by rw [write], rfl⟩
  | number n =>
      rw [write]
      exact exists_numeral_eq_cons n
  | text l => exact ⟨'"', _, by rw [write]; rfl, rfl⟩
  | list lead items => exact ⟨'[', _, by rw [write]; rfl, rfl⟩
  | object lead members => exact ⟨'\x7b', _, by rw [write]; rfl, rfl⟩

namespace Starts

variable {t : Tree} {c : Char}

theorem mem_or_isDigit (starts : t.Starts c) :
    c ∈ ['n', 't', 'f', '-', '"', '[', '\x7b'] ∨ c.isDigit = true := by
  rcases t with _ | b | n | l | _ | _
  case bool => cases b <;> cases starts <;> decide
  case number =>
    rcases starts with rfl | isDigit
    · decide
    · exact .inr isDigit
  all_goals
    cases starts
    decide

theorem ne_of_not_mem {d : Char}
    (other : d ∉ ['n', 't', 'f', '-', '"', '[', '\x7b'] ∧ d.isDigit = false)
    (starts : t.Starts c) : c ≠ d := by
  rintro rfl
  rcases starts.mem_or_isDigit with member | isDigit
  · exact other.1 member
  · simp [other.2] at isDigit

/-- Trees do not begin with blanks. -/
theorem solid (starts : t.Starts c) : Reader.isBlank c = false := by
  have space := starts.ne_of_not_mem (d := ' ') (by decide)
  have newline := starts.ne_of_not_mem (d := '\n') (by decide)
  have tab := starts.ne_of_not_mem (d := '\t') (by decide)
  have carriage := starts.ne_of_not_mem (d := '\r') (by decide)
  simp [Reader.isBlank, *]

/-- Numbers begin neither with letters nor with other marks. -/
theorem number_ne {n : Numeral} (starts : (number n).Starts c) {d : Char}
    (other : d ≠ '-' ∧ d.isDigit = false) : some c ≠ some d := by
  rintro ⟨⟩
  rcases starts with isSign | isDigit
  · exact other.1 isSign
  · simp [other.2] at isDigit

/-- What the first character tells of a tree. -/
structure Tells (t : Tree) (c : Char) : Prop where
  null : c = 'n' → t = .null
  true : c = 't' → t = .bool true
  false : c = 'f' → t = .bool false
  text : c = '"' → ∃ l, t = .text l
  list : c = '[' → ∃ lead items, t = .list lead items
  object : c = '\x7b' → ∃ lead members, t = .object lead members

theorem tells (starts : t.Starts c) : Tells t c := by
  rcases t with _ | b | n | l | ⟨lead, items⟩ | ⟨lead, members⟩
  case bool => cases b <;> cases starts <;> constructor <;> simp
  case number =>
    rcases starts with rfl | isDigit
    · constructor <;> simp
    · constructor <;> rintro rfl <;> contradiction
  all_goals
    cases starts
    constructor <;> simp

end Starts

end Tree

/-! ## Answers -/

namespace Reader

/-- What a reader makes of the text of a tree alone. -/
def valueOf? (x : Reader α) (t : Tree) : Option α :=
  match x.outcome? t.write with
  | some (a, []) => some a
  | _ => none

/-- That a reader answers a tree, whatever blanks come before it and whatever comes after it. -/
def Answers (x : Reader α) (t : Tree) (answer : Option α) : Prop :=
  ∀ (lead : Blanks) (rest : List Char), Ends rest →
    x.outcome? (lead.val ++ (t.write ++ rest)) = answer.map fun a => (a, rest)

/-- That a reader answers all trees. -/
def Reads (x : Reader α) : Prop :=
  ∀ t, x.Answers t (x.valueOf? t)

/-- No blanks. -/
def noBlanks : Blanks :=
  ⟨[], fun _ isBlank => absurd isBlank List.not_mem_nil⟩

namespace Answers

variable {x : Reader α} {t : Tree} {answer : Option α}

theorem outcome? (answers : x.Answers t answer) {rest : List Char} (ends : Ends rest) :
    x.outcome? (t.write ++ rest) = answer.map fun a => (a, rest) :=
  answers noBlanks rest ends

theorem valueOf?_eq (answers : x.Answers t answer) : x.valueOf? t = answer := by
  have alone := answers.outcome? ends_nil
  rw [List.append_nil] at alone
  rw [valueOf?, alone]
  cases answer <;> rfl

/-- Reading goes on after the answer. -/
theorem outcome?_bind (answers : x.Answers t answer) (f : α → Reader β) (lead : Blanks)
    {rest : List Char} (ends : Ends rest) :
    Reader.outcome? (x >>= f) (lead.val ++ (t.write ++ rest)) =
      answer.bind fun a => (f a).outcome? rest := by
  rw [Reader.outcome?_bind, answers lead rest ends]
  cases answer <;> rfl

/-- An answer that does not depend on what is around a tree is what is made of it alone. -/
theorem self (answers : x.Answers t answer) : x.Answers t (x.valueOf? t) := by
  rw [answers.valueOf?_eq]
  exact answers

theorem map (answers : x.Answers t answer) (f : α → β) :
    (f <$> x).Answers t (answer.map f) := by
  intro lead rest ends
  rw [outcome?_map, answers lead rest ends]
  cases answer <;> rfl

variable {f : Option Char → Reader α}

/-- The first character of a tree decides what is read. -/
theorem peek? (decides : ∀ c, t.Starts c → ∀ rest, Ends rest →
    (f (some c)).outcome? (t.write ++ rest) = answer.map fun a => (a, rest)) :
    (Reader.peek? >>= f).Answers t answer := by
  intro lead rest ends
  rcases t.exists_write_eq_cons with ⟨c, more, written, starts⟩
  have decided := decides c starts rest ends
  rw [written] at decided ⊢
  rw [List.cons_append, outcome?_peek?_bind f lead starts.solid]
  exact decided

/-- Nothing is read of a tree that begins with the wrong character. -/
theorem refused (refuses : ∀ c, t.Starts c → ∀ s, (f (some c)).outcome? s = none) :
    (Reader.peek? >>= f).Answers t none :=
  peek? fun c starts rest _ => refuses c starts (t.write ++ rest)

end Answers

/-- A reader that refuses whatever is no container reads all trees if it answers containers. -/
theorem reads_of_containers {f : Option Char → Reader α}
    (objects : ∀ lead members,
      ∃ answer, (Reader.peek? >>= f).Answers (.object lead members) answer)
    (lists : ∀ lead items, ∃ answer, (Reader.peek? >>= f).Answers (.list lead items) answer)
    (refuses : ∀ c, c ≠ '\x7b' → c ≠ '[' → ∀ s, (f (some c)).outcome? s = none) :
    (Reader.peek? >>= f).Reads := by
  intro t
  by_cases isObject : ∃ lead members, t = .object lead members
  · rcases isObject with ⟨lead, members, rfl⟩
    rcases objects lead members with ⟨answer, answers⟩
    exact answers.self
  by_cases isList : ∃ lead items, t = .list lead items
  · rcases isList with ⟨lead, items, rfl⟩
    rcases lists lead items with ⟨answer, answers⟩
    exact answers.self
  · have answers : (Reader.peek? >>= f).Answers t none := by
      apply Answers.refused
      intro c starts
      apply refuses c
      · exact fun same => isObject (starts.tells.object same)
      · exact fun same => isList (starts.tells.list same)
    exact answers.self

/-! ## Items -/

theorem outcome?_nextItem_nil (first : Bool) (lead : Blanks) (rest : List Char) :
    (nextItem first).outcome? (lead.val ++ ']' :: rest) = some (false, ']' :: rest) :=
  outcome?_peek?_bind _ lead rfl rest

theorem outcome?_nextItem_cons (first : Bool) (lead before : Blanks) (t : Tree)
    (rest : List Char) :
    (nextItem first).outcome? (lead.val ++ ((if first then [] else [',']) ++
        (before.val ++ (t.write ++ rest)))) = some (true, t.write ++ rest) := by
  rcases t.exists_write_eq_cons with ⟨c, more, written, starts⟩
  have noClose := starts.ne_of_not_mem (d := ']') (by decide)
  rw [written, List.cons_append, nextItem]
  cases first with
  | true =>
      rw [if_pos rfl, List.nil_append, outcome?_peek?_bind_blanks,
        outcome?_peek?_bind _ before starts.solid]
      split
      case h_1 => contradiction
      case h_2 isClose => exact absurd (Option.some.inj isClose) noClose
      case h_3 => rfl
  | false =>
      rw [if_neg Bool.false_ne_true, List.cons_append, List.nil_append,
        outcome?_peek?_bind _ lead rfl]
      apply (outcome?_drop_bind _ ',' _).trans
      apply (outcome?_peek?_bind _ before starts.solid _).trans
      split
      case h_1 => contradiction
      case h_2 isClose => exact absurd (Option.some.inj isClose) noClose
      case h_3 => rfl

/-- The items of a list are read one after another. -/
theorem outcome?_itemsWithin {item : Reader α} (reads : item.Reads) (list : List (Padded Tree))
    {fuel : Nat} (enough : list.length < fuel) (first : Bool) (lead : Blanks)
    (rest : List Char) :
    (itemsWithin item fuel first).outcome?
        (lead.val ++ (pending first (list.map Tree.itemText) ++ ']' :: rest)) =
      (list.mapM fun i => item.valueOf? i.inner).map fun read => (read, ']' :: rest) := by
  induction list generalizing fuel first lead with
  | nil =>
      obtain ⟨fuel, rfl⟩ := Nat.exists_eq_add_of_lt enough
      rw [List.map_nil, pending_nil, List.nil_append, itemsWithin, outcome?_bind,
        outcome?_nextItem_nil]
      rfl
  | cons i list ih =>
      cases fuel with
      | zero => contradiction
      | succ fuel =>
          have ends := (ends_pending (.inl rfl) (list.map Tree.itemText) rest).blanks i.after
          have next := ih (Nat.lt_of_succ_lt_succ enough) false i.after
          rw [List.map_cons, pending_cons, itemsWithin, outcome?_bind, Tree.itemText]
          simp only [List.append_assoc]
          rw [outcome?_nextItem_cons, Option.bind_some]
          simp only [if_true, outcome?_bind, (reads i.inner).outcome? ends]
          rw [List.mapM_cons]
          cases item.valueOf? i.inner with
          | none => rfl
          | some a =>
              simp only [Option.map_some, Option.bind_some, next]
              cases list.mapM fun i => item.valueOf? i.inner <;> rfl

theorem outcome?_items {item : Reader α} (reads : item.Reads) (list : List (Padded Tree))
    (first : Bool) (lead : Blanks) (rest : List Char) :
    (items item first).outcome?
        (lead.val ++ (pending first (list.map Tree.itemText) ++ ']' :: rest)) =
      (list.mapM fun i => item.valueOf? i.inner).map fun read => (read, ']' :: rest) := by
  rw [items, outcome?_bind, outcome?_get]
  apply outcome?_itemsWithin reads
  have taken := length_le_pending first (list.map Tree.itemText)
  simp only [List.length_append, List.length_cons, List.length_map] at taken ⊢
  omega

/-- The items of a list between its brackets. -/
theorem outcome?_list {item : Reader α} (reads : item.Reads) (lead : Blanks)
    (list : List (Padded Tree)) (next : List α → Reader β) (rest : List Char) :
    outcome? (do drop; next (← items item true)) ((Tree.list lead list).write ++ rest) =
      (list.mapM fun i => item.valueOf? i.inner).bind fun read =>
        (next read).outcome? (']' :: rest) := by
  rw [Tree.write_list_append, outcome?_drop_bind, outcome?_bind,
    outcome?_items reads list true lead rest]
  cases list.mapM fun i => item.valueOf? i.inner <;> rfl

/-! ## Members -/

/-- That a reader of members goes on from what is known by one step for each member. -/
def StepsBy (member : σ → Reader σ) (step : σ → Member → Option σ) : Prop :=
  ∀ (known : σ) (m : Member) (rest : List Char), Ends rest →
    (member known).outcome? (m.1.inner.text ++ (m.1.after.val ++
        ':' :: (m.2.before.val ++ (m.2.inner.write ++ rest)))) =
      (step known m).map fun known => (known, rest)

theorem outcome?_nextMember_nil (first : Bool) (lead : Blanks) (rest : List Char) :
    (nextMember first).outcome? (lead.val ++ '\x7d' :: rest) = some (false, '\x7d' :: rest) :=
  outcome?_peek?_bind _ lead rfl rest

theorem outcome?_nextMember_cons (first : Bool) (lead before : Blanks) (l : Literal)
    (rest : List Char) :
    (nextMember first).outcome? (lead.val ++ ((if first then [] else [',']) ++
        (before.val ++ (l.text ++ rest)))) = some (true, l.text ++ rest) := by
  rw [Literal.text, List.cons_append, nextMember]
  cases first with
  | true =>
      rw [if_pos rfl, List.nil_append, outcome?_peek?_bind_blanks,
        outcome?_peek?_bind _ before rfl]
      rfl
  | false =>
      rw [if_neg Bool.false_ne_true, List.cons_append, List.nil_append,
        outcome?_peek?_bind _ lead rfl]
      apply (outcome?_drop_bind _ ',' _).trans
      exact outcome?_peek?_bind _ before rfl _

/-- The members of an object are read one after another. -/
theorem outcome?_membersWithin {member : σ → Reader σ} {step : σ → Member → Option σ}
    (steps : StepsBy member step) (list : List Member) {fuel : Nat} (enough : list.length < fuel)
    (first : Bool) (lead : Blanks) (known : σ) (rest : List Char) :
    (membersWithin member fuel first known).outcome?
        (lead.val ++ (pending first (list.map Tree.memberText) ++ '\x7d' :: rest)) =
      (list.foldlM step known).map fun known => (known, '\x7d' :: rest) := by
  induction list generalizing fuel first lead known with
  | nil =>
      obtain ⟨fuel, rfl⟩ := Nat.exists_eq_add_of_lt enough
      rw [List.map_nil, pending_nil, List.nil_append, membersWithin, outcome?_bind,
        outcome?_nextMember_nil]
      rfl
  | cons m list ih =>
      cases fuel with
      | zero => contradiction
      | succ fuel =>
          have ends := (ends_pending (.inr rfl) (list.map Tree.memberText) rest).blanks m.2.after
          have next := ih (Nat.lt_of_succ_lt_succ enough) false m.2.after
          rw [List.map_cons, pending_cons, membersWithin, outcome?_bind, Tree.memberText]
          simp only [List.append_assoc, List.cons_append]
          rw [outcome?_nextMember_cons, Option.bind_some]
          simp only [if_true, outcome?_bind, steps known m _ ends]
          rw [List.foldlM_cons]
          cases step known m with
          | none => rfl
          | some known => exact next known

theorem outcome?_members {member : σ → Reader σ} {step : σ → Member → Option σ}
    (steps : StepsBy member step) (list : List Member) (lead : Blanks) (known : σ)
    (rest : List Char) :
    (members member known).outcome?
        (lead.val ++ (pending true (list.map Tree.memberText) ++ '\x7d' :: rest)) =
      (list.foldlM step known).map fun known => (known, '\x7d' :: rest) := by
  rw [members, outcome?_bind, outcome?_get]
  apply outcome?_membersWithin steps
  have taken := length_le_pending true (list.map Tree.memberText)
  simp only [List.length_append, List.length_cons, List.length_map] at taken ⊢
  omega

end Reader

/-- The keys and the values of members, if all keys spell texts. -/
def named? : List Member → Option (List (String × Tree))
  | [] => some []
  | m :: members => do
      let key ← m.1.inner.string?
      return (key, m.2.inner) :: (← named? members)

theorem named?_cons (m : Member) (members : List Member) :
    named? (m :: members) = m.1.inner.string?.bind fun key =>
      (named? members).map ((key, m.2.inner) :: ·) := by
  rw [named?]
  cases m.1.inner.string? with
  | none => rfl
  | some key => cases named? members <;> rfl

theorem isSome_named?_iff (members : List Member) :
    (named? members).isSome ↔ ∀ m ∈ members, m.1.inner.string?.isSome := by
  induction members with
  | nil => simp [named?]
  | cons m members ih =>
      rw [named?_cons, List.forall_mem_cons, ← ih]
      cases m.1.inner.string? <;> simp

/-- Names do not change values. -/
theorem map_snd_of_named?_eq_some {members : List Member} {ms : List (String × Tree)}
    (named : named? members = some ms) : ms.map Prod.snd = members.map fun m => m.2.inner := by
  induction members generalizing ms with
  | nil =>
      cases named
      rfl
  | cons m members ih =>
      rw [named?_cons] at named
      obtain ⟨key, -, named⟩ := Option.bind_eq_some_iff.mp named
      obtain ⟨ms, isNamed, rfl⟩ := Option.map_eq_some_iff.mp named
      simp [ih isNamed]

namespace Reader

/-- That a reader goes on from what is known by the value that comes after a key. -/
def Follows (read : String → σ → Reader σ) (step : String → Tree → σ → Option σ) : Prop :=
  ∀ (key : String) (known : σ) (lead before : Blanks) (t : Tree) (rest : List Char), Ends rest →
    (read key known).outcome? (lead.val ++ ':' :: (before.val ++ (t.write ++ rest))) =
      (step key t known).map fun known => (known, rest)

/-- Whether a key spells no text does not matter before or after a step that fails. -/
theorem foldlM_named (step : String → Tree → σ → Option σ) (list : List Member) (known : σ) :
    list.foldlM (fun known m => m.1.inner.string?.bind fun key => step key m.2.inner known) known =
      (named? list).bind fun ms => ms.foldlM (fun known m => step m.1 m.2 known) known := by
  induction list generalizing known with
  | nil => rfl
  | cons m list ih =>
      rw [List.foldlM_cons, named?_cons]
      cases m.1.inner.string? with
      | none => rfl
      | some key =>
          simp only [ih, Option.bind_some, Option.bind_map, Option.bind_eq_bind,
            Function.comp_def, List.foldlM_cons]
          exact Option.bind_comm _ _

/-- That a reader of members goes on by one step for each key and value. -/
def StepsByKey (member : σ → Reader σ) (step : String → Tree → σ → Option σ) : Prop :=
  StepsBy member fun known m => m.1.inner.string?.bind fun key => step key m.2.inner known

theorem Follows.steps {read : String → σ → Reader σ} {step : String → Tree → σ → Option σ}
    (follows : Follows read step) :
    StepsByKey (fun known => do drop; read (← text) known) step := by
  intro known m rest ends
  rw [Literal.text, List.cons_append, outcome?_drop_bind, outcome?_bind, outcome?_text]
  dsimp only
  cases m.1.inner.string? with
  | none => rfl
  | some key => exact follows key known m.1.after m.2.before m.2.inner rest ends

/-- The members of an object between its braces are read by their keys. -/
theorem outcome?_object {member : σ → Reader σ} {step : String → Tree → σ → Option σ}
    (steps : StepsByKey member step) (lead : Blanks) (list : List Member) (known : σ)
    (next : σ → Reader β) (rest : List Char) :
    outcome? (do drop; next (← members member known)) ((Tree.object lead list).write ++ rest) =
      ((named? list).bind fun ms => ms.foldlM (fun known m => step m.1 m.2 known) known).bind
        fun known => (next known).outcome? ('\x7d' :: rest) := by
  rw [Tree.write_object_append, outcome?_drop_bind, outcome?_bind,
    outcome?_members steps list lead known rest, foldlM_named]
  cases (named? list).bind _ <;> rfl

end Reader

end Settlement.Json
