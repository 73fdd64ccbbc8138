import Settlement.Proofs.Json.Reading
import Settlement.Proofs.Lists

/-!
# Values of any form

A value of any form is read whole if its tree is readable: its containers are not nested too deep,
its numbers are in range, and its strings spell texts.  It is passed over in any case.
-/

namespace Settlement.Json

namespace Reader

/-! ## Values that are read -/

/-- A word that is a value. -/
theorem outcome?_wordBy {α : Type} (c : Char) (letters : List Char) (a : α) (rest : List Char) :
    outcome? (do drop; word letters; return a) (c :: (letters ++ rest)) = some (a, rest) := by
  rw [outcome?_drop_bind, outcome?_bind_of_eq_some (outcome?_word letters rest)]
  rfl

section Values

variable {depth : Nat}

theorem answers_value_zero (t : Tree) : (value 0).Answers t none :=
  fun _ _ _ => rfl

theorem answers_value_null : (value (depth + 1)).Answers .null (some .null) := by
  apply Answers.peek?
  rintro _ rfl rest _
  rw [Tree.write]
  exact outcome?_wordBy 'n' ['u', 'l', 'l'] Value.null rest

theorem answers_value_bool (b : Bool) : (value (depth + 1)).Answers (.bool b) (some (.bool b)) := by
  apply Answers.peek?
  cases b with
  | true =>
      rintro _ rfl rest _
      rw [Tree.write]
      exact outcome?_wordBy 't' ['r', 'u', 'e'] (Value.bool true) rest
  | false =>
      rintro _ rfl rest _
      rw [Tree.write]
      exact outcome?_wordBy 'f' ['a', 'l', 's', 'e'] (Value.bool false) rest

theorem answers_value_number (n : Numeral) :
    (value (depth + 1)).Answers (.number n) (n.value?.map .number) := by
  apply Answers.peek?
  intro c starts rest ends
  have begins : c = '-' ∨ c.isDigit = true := starts
  have isNumber : (c == '-' || c.isDigit) = true := by simpa using begins
  rw [Tree.write]
  split
  case h_1 => contradiction
  case h_2 same => exact absurd same (starts.number_ne (by decide))
  case h_3 same => exact absurd same (starts.number_ne (by decide))
  case h_4 same => exact absurd same (starts.number_ne (by decide))
  case h_5 same => exact absurd same (starts.number_ne (by decide))
  case h_6 same => exact absurd same (starts.number_ne (by decide))
  case h_7 same => exact absurd same (starts.number_ne (by decide))
  case h_8 same =>
    cases same
    rw [if_pos isNumber, outcome?_bind, outcome?_number n ends]
    cases n.value? <;> rfl

theorem answers_value_text (l : Literal) :
    (value (depth + 1)).Answers (.text l) (l.string?.map .text) := by
  apply Answers.peek?
  rintro _ rfl rest _
  rw [Tree.write, Literal.text, List.cons_append]
  apply (outcome?_drop_bind _ '"' _).trans
  rw [outcome?_bind, outcome?_text]
  cases l.string? <;> rfl

theorem answers_value_list (reads : (value depth).Reads) (lead : Blanks)
    (items : List (Padded Tree)) :
    (value (depth + 1)).Answers (.list lead items)
      (if 0 < depth then (items.mapM fun i => (value depth).valueOf? i.inner).map .list
        else none) := by
  apply Answers.peek?
  rintro _ rfl rest _
  change outcome? (do let _ ← descend (depth + 1); drop; _) _ = _
  by_cases isDeep : 0 < depth
  · rw [if_pos isDeep, outcome?_descend_bind (Nat.succ_lt_succ isDeep)]
    apply (outcome?_list reads lead items _ rest).trans
    cases items.mapM fun i => (value depth).valueOf? i.inner <;> rfl
  · rw [if_neg isDeep]
    exact outcome?_descend_bind_none (fun deeper => isDeep (Nat.lt_of_succ_lt_succ deeper)) _ _

/-- A member of an object as a value of any form. -/
def memberOf? (depth : Nat) (m : String × Tree) : Option (String × Value) :=
  ((value depth).valueOf? m.2).map fun v => (m.1, v)

/-- The members of an object are added one after another. -/
theorem follows_member (reads : (value depth).Reads) :
    Follows (fun key before => do colon; return before ++ [(key, ← value depth)])
      fun key t before => (memberOf? depth (key, t)).map fun m => before ++ [m] := by
  intro key before lead blanks t rest ends
  rw [outcome?_bind_of_eq_some (outcome?_colon lead _), (reads t).outcome?_bind _ blanks ends]
  dsimp only [memberOf?]
  cases (value depth).valueOf? t <;> rfl

theorem answers_value_object (reads : (value depth).Reads) (lead : Blanks)
    (members : List Member) :
    (value (depth + 1)).Answers (.object lead members)
      (if 0 < depth then
        ((named? members).bind fun ms => ms.mapM (memberOf? depth)).map .object
      else none) := by
  apply Answers.peek?
  rintro _ rfl rest _
  change outcome? (do let _ ← descend (depth + 1); drop; _) _ = _
  by_cases isDeep : 0 < depth
  · rw [if_pos isDeep, outcome?_descend_bind (Nat.succ_lt_succ isDeep)]
    apply (outcome?_object (follows_member reads).steps lead members [] _ rest).trans
    cases named? members with
    | none => rfl
    | some ms =>
        have taken := foldlM_append_eq (memberOf? depth) ms []
        simp only [Option.bind_some, taken]
        cases ms.mapM (memberOf? depth) <;> rfl
  · rw [if_neg isDeep]
    exact outcome?_descend_bind_none (fun deeper => isDeep (Nat.lt_of_succ_lt_succ deeper)) _ _

end Values

/-- A value of any form is read whatever comes after it. -/
theorem reads_value (depth : Nat) : (value depth).Reads := by
  induction depth with
  | zero => exact fun t => (answers_value_zero t).self
  | succ depth ih =>
      intro t
      cases t with
      | null => exact answers_value_null.self
      | bool b => exact (answers_value_bool b).self
      | number n => exact (answers_value_number n).self
      | text l => exact (answers_value_text l).self
      | list lead items => exact (answers_value_list ih lead items).self
      | object lead members => exact (answers_value_object ih lead members).self

/-- What stands where a tree is read. -/
def foundAt? : Tree → Option Found
  | .null => some .null
  | .bool b => some (.bool b)
  | .number n => n.value?.map .number
  | .text l => l.string?.map .text
  | .list _ _ => some .list
  | .object _ _ => some .object

/-- A value has the form of its tree. -/
theorem foundAt?_of_value {depth : Nat} {t : Tree} {v : Value}
    (read : (value depth).valueOf? t = some v) : foundAt? t = some v.found := by
  cases depth with
  | zero =>
      rw [(answers_value_zero t).valueOf?_eq] at read
      contradiction
  | succ depth =>
      cases t with
      | null =>
          rw [answers_value_null.valueOf?_eq] at read
          cases read
          rfl
      | bool b =>
          rw [(answers_value_bool b).valueOf?_eq] at read
          cases read
          rfl
      | number n =>
          rw [(answers_value_number n).valueOf?_eq] at read
          obtain ⟨number, inRange, rfl⟩ := Option.map_eq_some_iff.mp read
          rw [foundAt?, inRange]
          rfl
      | text l =>
          rw [(answers_value_text l).valueOf?_eq] at read
          obtain ⟨s, spelled, rfl⟩ := Option.map_eq_some_iff.mp read
          rw [foundAt?, spelled]
          rfl
      | list lead items =>
          rw [(answers_value_list (reads_value depth) lead items).valueOf?_eq] at read
          split at read
          · obtain ⟨items, -, rfl⟩ := Option.map_eq_some_iff.mp read
            rfl
          · contradiction
      | object lead members =>
          rw [(answers_value_object (reads_value depth) lead members).valueOf?_eq] at read
          split at read
          · obtain ⟨members, -, rfl⟩ := Option.map_eq_some_iff.mp read
            rfl
          · contradiction

/-- A value of any form is read exactly if its tree is readable. -/
theorem isSome_valueOf?_value_iff (t : Tree) (depth : Nat) :
    ((value (depth + 1)).valueOf? t).isSome ↔ t.Readable depth := by
  induction t generalizing depth with
  | null =>
      rw [answers_value_null.valueOf?_eq]
      exact ⟨fun _ => .null, fun _ => rfl⟩
  | bool b =>
      rw [(answers_value_bool b).valueOf?_eq]
      exact ⟨fun _ => .bool, fun _ => rfl⟩
  | number n =>
      rw [(answers_value_number n).valueOf?_eq, Option.isSome_map]
      exact ⟨.number, fun (.number inRange) => inRange⟩
  | text l =>
      rw [(answers_value_text l).valueOf?_eq, Option.isSome_map]
      exact ⟨.text, fun (.text spells) => spells⟩
  | list lead items ih =>
      rw [(answers_value_list (reads_value depth) lead items).valueOf?_eq]
      cases depth with
      | zero => exact ⟨fun isSome => absurd isSome Bool.false_ne_true, nofun⟩
      | succ depth =>
          rw [if_pos depth.succ_pos, Option.isSome_map, isSome_mapM_iff]
          constructor
          · exact fun all => .list fun item member => (ih item member depth).mp (all item member)
          · rintro (_ | _ | _ | _ | readable)
            exact fun item member => (ih item member depth).mpr (readable item member)
  | object lead members ih =>
      rw [(answers_value_object (reads_value depth) lead members).valueOf?_eq]
      cases depth with
      | zero => exact ⟨fun isSome => absurd isSome Bool.false_ne_true, nofun⟩
      | succ depth =>
          have values : ((named? members).bind fun ms => ms.mapM (memberOf? (depth + 1))).isSome ↔
              (∀ m ∈ members, m.1.inner.string?.isSome) ∧
                ∀ m ∈ members, m.2.inner.Readable depth := by
            rw [← isSome_named?_iff]
            cases named : named? members with
            | none => simp
            | some ms =>
                have same := map_snd_of_named?_eq_some named
                have each : (∀ m ∈ ms, (memberOf? (depth + 1) m).isSome) ↔
                    ∀ t ∈ ms.map Prod.snd, ((value (depth + 1)).valueOf? t).isSome := by
                  simp only [memberOf?, Option.isSome_map, List.forall_mem_map]
                rw [Option.bind_some, isSome_mapM_iff, each, same, List.forall_mem_map]
                simp only [Option.isSome_some, true_and]
                exact forall₂_congr fun m member => ih m member depth
          rw [if_pos depth.succ_pos, Option.isSome_map, values]
          constructor
          · rintro ⟨spelled, readable⟩
            exact .object spelled readable
          · rintro (_ | _ | _ | _ | _ | ⟨spelled, readable⟩)
            exact ⟨spelled, readable⟩

/-! ## Values that are passed over -/

/-- That enough fuel is enough to pass over a tree. -/
def Passes (t : Tree) : Prop :=
  ∀ fuel, 2 * t.write.length ≤ fuel → (skipValue fuel).Answers t (some ())

/-- The items of a list are passed over one after another, and so is its closing bracket. -/
theorem outcome?_skipItems (item : Padded Tree) (more : List (Padded Tree))
    (passes : ∀ i ∈ item :: more, Passes i.inner) {fuel : Nat}
    (enough : 2 * (item.inner.write.length + (pending false (more.map Tree.itemText)).length) <
      fuel) (lead : Blanks) (rest : List Char) :
    (skipItems fuel).outcome? (lead.val ++ (item.inner.write ++ (item.after.val ++
        (pending false (more.map Tree.itemText) ++ ']' :: rest)))) = some ((), rest) := by
  induction more generalizing item fuel lead with
  | nil =>
      cases fuel with
      | zero => contradiction
      | succ fuel =>
          have ends := (ends_pending (.inl rfl) [] rest).blanks item.after
          have first := passes item List.mem_cons_self fuel (by omega)
          rw [skipItems, List.map_nil, first.outcome?_bind _ lead ends]
          exact outcome?_peek?_bind _ item.after rfl _
  | cons next more ih =>
      cases fuel with
      | zero => contradiction
      | succ fuel =>
          have ends := (ends_pending (.inl rfl) ((next :: more).map Tree.itemText) rest).blanks
            item.after
          have first := passes item List.mem_cons_self fuel (by omega)
          rw [List.map_cons, length_pending_cons, Tree.itemText] at enough
          simp only [List.length_append, Bool.false_eq_true, if_false] at enough
          have fits : 2 * (next.inner.write.length +
              (pending false (more.map Tree.itemText)).length) < fuel := by omega
          have later := ih next (fun i member => passes i (List.mem_cons_of_mem item member)) fits
            next.before
          rw [skipItems, first.outcome?_bind _ lead ends, Option.bind_some, List.map_cons,
            pending_cons, Tree.itemText]
          simp only [Bool.false_eq_true, if_false, List.append_assoc, List.cons_append,
            List.nil_append]
          apply (outcome?_peek?_bind _ item.after rfl _).trans
          exact (outcome?_drop_bind _ ',' _).trans later

/-- The value of a member is passed over after its key, and then the members after it. -/
theorem outcome?_skipMembers_succ (fuel : Nat) (m : Member) (lead : Blanks) (rest : List Char) :
    (skipMembers (fuel + 1)).outcome? (lead.val ++ (m.1.inner.text ++ (m.1.after.val ++
      ':' :: rest))) = outcome? (do
        skipValue fuel
        match ← peek? with
        | none => throw .endOfObject
        | some '\x7d' => drop
        | some ',' =>
            drop
            skipMembers fuel
        | some _ => throw .noObjectComma) rest := by
  rw [skipMembers, Literal.text, List.cons_append]
  apply (outcome?_peek?_bind _ lead rfl _).trans
  apply (outcome?_drop_bind _ '"' _).trans
  apply (outcome?_bind_of_eq_some (outcome?_skipText m.1.inner _) _).trans
  exact outcome?_bind_of_eq_some (outcome?_colon m.1.after rest) _

/-- The members of an object are passed over one after another, and so is its closing brace. -/
theorem outcome?_skipMembers (member : Member) (more : List Member)
    (passes : ∀ m ∈ member :: more, Passes m.2.inner) {fuel : Nat}
    (enough : 2 * (member.2.inner.write.length +
      (pending false (more.map Tree.memberText)).length) < fuel) (lead : Blanks)
    (rest : List Char) :
    (skipMembers fuel).outcome? (lead.val ++ (member.1.inner.text ++ (member.1.after.val ++
        ':' :: (member.2.before.val ++ (member.2.inner.write ++ (member.2.after.val ++
          (pending false (more.map Tree.memberText) ++ '\x7d' :: rest))))))) =
      some ((), rest) := by
  induction more generalizing member fuel lead with
  | nil =>
      cases fuel with
      | zero => contradiction
      | succ fuel =>
          have ends := (ends_pending (.inr rfl) [] rest).blanks member.2.after
          have first := passes member List.mem_cons_self fuel (by omega)
          rw [outcome?_skipMembers_succ, List.map_nil, first.outcome?_bind _ member.2.before ends]
          exact outcome?_peek?_bind _ member.2.after rfl _
  | cons next more ih =>
      cases fuel with
      | zero => contradiction
      | succ fuel =>
          have ends := (ends_pending (.inr rfl) ((next :: more).map Tree.memberText) rest).blanks
            member.2.after
          have first := passes member List.mem_cons_self fuel (by omega)
          rw [List.map_cons, length_pending_cons, Tree.memberText] at enough
          simp only [List.length_append, List.length_cons, Bool.false_eq_true, if_false] at enough
          have fits : 2 * (next.2.inner.write.length +
              (pending false (more.map Tree.memberText)).length) < fuel := by omega
          have later := ih next (fun m isNext => passes m (List.mem_cons_of_mem member isNext)) fits
            next.1.before
          rw [outcome?_skipMembers_succ, first.outcome?_bind _ member.2.before ends,
            Option.bind_some, List.map_cons, pending_cons, Tree.memberText]
          simp only [Bool.false_eq_true, if_false, List.append_assoc, List.cons_append,
            List.nil_append]
          apply (outcome?_peek?_bind _ member.2.after rfl _).trans
          exact (outcome?_drop_bind _ ',' _).trans later

/-- A value takes some fuel. -/
theorem Passes.of_succ {t : Tree} (passes : ∀ fuel, 2 * t.write.length ≤ fuel + 1 →
    (skipValue (fuel + 1)).Answers t (some ())) : Passes t := by
  intro fuel enough
  cases fuel with
  | zero =>
      rcases t.exists_write_eq_cons with ⟨c, more, written, -⟩
      simp [written] at enough
  | succ fuel => exact passes fuel enough

theorem passes_number (n : Numeral) : Passes (.number n) := by
  apply Passes.of_succ
  intro fuel _
  apply Answers.peek?
  intro c starts rest ends
  have begins : c = '-' ∨ c.isDigit = true := starts
  have isNumber : (c == '-' || c.isDigit) = true := by simpa using begins
  rw [Tree.write]
  split
  case h_1 => contradiction
  case h_2 same => exact absurd same (starts.number_ne (by decide))
  case h_3 same => exact absurd same (starts.number_ne (by decide))
  case h_4 same => exact absurd same (starts.number_ne (by decide))
  case h_5 same => exact absurd same (starts.number_ne (by decide))
  case h_6 same => exact absurd same (starts.number_ne (by decide))
  case h_7 same => exact absurd same (starts.number_ne (by decide))
  case h_8 same =>
    cases same
    rw [if_pos isNumber]
    exact outcome?_skipNumber n ends

theorem passes_list (lead : Blanks) (items : List (Padded Tree))
    (passes : ∀ i ∈ items, Passes i.inner) : Passes (.list lead items) := by
  apply Passes.of_succ
  intro fuel enough
  rw [Tree.length_write_list] at enough
  apply Answers.peek?
  rintro _ rfl rest _
  rw [Tree.write_list_append]
  apply (outcome?_drop_bind _ '[' _).trans
  cases items with
  | nil => exact outcome?_peek?_bind _ lead rfl rest
  | cons item more =>
      rcases item.inner.exists_write_eq_cons with ⟨c, tail, written, starts⟩
      have noClose := starts.ne_of_not_mem (d := ']') (by decide)
      have fits : 2 * (item.inner.write.length +
          (pending false (more.map Tree.itemText)).length) < fuel := by
        rw [List.map_cons, length_pending_cons, Tree.itemText] at enough
        simp only [List.length_append] at enough
        omega
      have inside := outcome?_skipItems item more passes fits noBlanks rest
      rw [List.map_cons, pending_cons, Tree.itemText]
      simp only [if_true, List.append_assoc, written, List.cons_append, List.nil_append]
        at inside ⊢
      rw [outcome?_peek?_bind_blanks, outcome?_peek?_bind _ item.before starts.solid]
      split
      case h_1 => contradiction
      case h_2 isClose => exact absurd (Option.some.inj isClose) noClose
      case h_3 => exact inside

theorem passes_object (lead : Blanks) (members : List Member)
    (passes : ∀ m ∈ members, Passes m.2.inner) : Passes (.object lead members) := by
  apply Passes.of_succ
  intro fuel enough
  rw [Tree.length_write_object] at enough
  apply Answers.peek?
  rintro _ rfl rest _
  rw [Tree.write_object_append]
  apply (outcome?_drop_bind _ '\x7b' _).trans
  cases members with
  | nil => exact outcome?_peek?_bind _ lead rfl rest
  | cons member more =>
      have fits : 2 * (member.2.inner.write.length +
          (pending false (more.map Tree.memberText)).length) < fuel := by
        rw [List.map_cons, length_pending_cons, Tree.memberText] at enough
        simp only [List.length_append, List.length_cons] at enough
        omega
      have inside := outcome?_skipMembers member more passes fits noBlanks rest
      rw [List.map_cons, pending_cons, Tree.memberText]
      simp only [if_true, List.append_assoc, List.cons_append, List.nil_append, Literal.text]
        at inside ⊢
      rw [outcome?_peek?_bind_blanks, outcome?_peek?_bind _ member.1.before rfl]
      exact inside

/-- A value is passed over whatever it holds. -/
theorem passes (t : Tree) : Passes t := by
  induction t with
  | null =>
      apply Passes.of_succ
      intro fuel _
      apply Answers.peek?
      rintro _ rfl rest _
      rw [Tree.write]
      exact outcome?_word ['u', 'l', 'l'] rest
  | bool b =>
      apply Passes.of_succ
      intro fuel _
      apply Answers.peek?
      cases b with
      | true =>
          rintro _ rfl rest _
          rw [Tree.write]
          exact outcome?_word ['r', 'u', 'e'] rest
      | false =>
          rintro _ rfl rest _
          rw [Tree.write]
          exact outcome?_word ['a', 'l', 's', 'e'] rest
  | number n => exact passes_number n
  | text l =>
      apply Passes.of_succ
      intro fuel _
      apply Answers.peek?
      rintro _ rfl rest _
      rw [Tree.write]
      exact outcome?_skipText l rest
  | list lead items ih => exact passes_list lead items ih
  | object lead members ih => exact passes_object lead members ih

theorem answers_skip (t : Tree) : skip.Answers t (some ()) := by
  intro lead rest ends
  rw [skip, outcome?_bind_of_eq_some (outcome?_get _)]
  apply passes t _ _ lead rest ends
  simp only [List.length_append]
  omega

end Reader

end Settlement.Json
