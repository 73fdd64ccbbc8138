import Settlement.Format.Declaration
import Settlement.Proofs.Json.Members

/-!
# Selection rules by their members

A rule is given by the members of an object if its form is named once and its argument comes once,
wherever they stand.  All other members are read as values of any form before the rule is made of
them, so they have to be readable; what they hold does not matter.
-/

namespace Settlement.SelectionRule

open Json (Codec ReadError Reader Tree Blanks Padded Member Value Gives valuesOf named?
  slotAfter?)
open Json.Reader (Answers)

/-! ## Forms -/

namespace Form

/-- The form that a tree names. -/
def named? (t : Tree) : Option Form :=
  t.string?.bind fun s => all.find? fun form => form.word == s

theorem answers_read (t : Tree) : Form.read.Answers t (named? t) := by
  intro lead rest ends
  rw [Form.read, (Json.answers_textAs "variant identifier" t).outcome?_bind _ lead ends, named?]
  cases t.string? with
  | none => rfl
  | some s => exact Codec.outcome?_pick word all s rest

/-- A form is named by its word. -/
theorem named?_eq_some_iff (t : Tree) (form : Form) :
    named? t = some form ↔ t.string? = some form.word := by
  rw [named?]
  constructor
  · intro named
    obtain ⟨s, spelled, found⟩ := Option.bind_eq_some_iff.mp named
    have same := List.find?_some found
    rw [spelled, ← eq_of_beq same]
  · intro spelled
    rw [spelled]
    cases form <;> rfl

end Form

/-! ## Objects -/

/-- The members of a rule after one more, which may be the name of the form. -/
def membersAfter? (depth : Nat) (members : List (String × Value)) (m : String × Tree) :
    Option (List (String × Value)) :=
  if m.1 != "type" then (Reader.memberOf? depth m).map fun read => members ++ [read]
  else some members

/-- What is known of a rule after one more member. -/
def Slots.after? (depth : Nat) (slots : Slots) (m : String × Tree) : Option Slots :=
  (slotAfter? "type" Form.named? slots.form m).bind fun form =>
    (membersAfter? depth slots.members m).map (Slots.mk form)

theorem stepsByKey_readMember (depth : Nat) :
    Reader.StepsByKey (readMember depth) fun key t slots => slots.after? depth (key, t) := by
  intro slots m rest ends
  rw [Json.Literal.text, List.cons_append]
  apply (Reader.outcome?_drop_bind _ '"' _).trans
  rw [Reader.outcome?_bind, Reader.outcome?_text]
  dsimp only
  cases m.1.inner.string? with
  | none => rfl
  | some key =>
      dsimp only [Option.map_some, Option.bind_some]
      by_cases isType : key = "type"
      · subst isType
        rw [if_pos BEq.rfl]
        have others : Slots.after? depth slots ("type", m.2.inner) =
            (slotAfter? "type" Form.named? slots.form ("type", m.2.inner)).map fun form =>
              { slots with form } := by
          rw [Slots.after?]
          cases slotAfter? "type" Form.named? slots.form ("type", m.2.inner) <;> rfl
        rw [others, Json.slotAfter?_own]
        cases slots.form with
        | some form => rfl
        | none =>
            apply (Reader.outcome?_bind_of_eq_some (Reader.outcome?_colon m.1.after _) _).trans
            apply ((Form.answers_read m.2.inner).outcome?_bind _ m.2.before ends).trans
            cases Form.named? m.2.inner <;> rfl
      · rw [if_neg (by simpa using isType)]
        rw [Slots.after?, Json.slotAfter?_other isType]
        apply (Reader.outcome?_bind_of_eq_some (Reader.outcome?_colon m.1.after _) _).trans
        apply ((Reader.reads_value depth m.2.inner).outcome?_bind _ m.2.before ends).trans
        rw [membersAfter?, if_pos (by simpa using isType)]
        dsimp only [Reader.memberOf?]
        cases (Reader.value depth).valueOf? m.2.inner <;> rfl

/-- What is read of a rule before it is made: its form, if it is named, and the other members. -/
def slotsOf? (depth : Nat) (ms : List (String × Tree)) : Option Slots :=
  (ms.foldlM (slotAfter? "type" Form.named?) none).bind fun form =>
    ((ms.filter fun m => m.1 != "type").mapM (Reader.memberOf? depth)).map (Slots.mk form)

theorem foldlM_after? (depth : Nat) (ms : List (String × Tree)) :
    ms.foldlM (Slots.after? depth) {} = slotsOf? depth ms := by
  have others : ms.foldlM (membersAfter? depth) [] =
      (ms.filter fun m => m.1 != "type").mapM (Reader.memberOf? depth) := by
    have taken := foldlM_append_eq (Reader.memberOf? depth)
      (ms.filter fun m => m.1 != "type") []
    simp only [List.nil_append, Option.map_id'] at taken
    rw [← taken, List.foldlM_filter]
    rfl
  rw [slotsOf?, ← others]
  exact foldlM_pair Slots.mk Slots.form Slots.members (fun _ _ => rfl) (fun _ _ => rfl)
    (slotAfter? "type" Form.named?) (membersAfter? depth) ms none []

/-- The rule that is made of what has been read. -/
def ofSlots? (slots : Slots) : Option SelectionRule :=
  slots.form.bind fun form => (ofMembers form none slots.members).toOption

theorem answers_object (depth : Nat) (lead : Blanks) (members : List Member) :
    (codec.read depth).Answers (.object lead members)
      (if 1 < depth then ((named? members).bind (slotsOf? (depth - 1))).bind ofSlots?
      else none) := by
  apply Answers.peek?
  rintro _ rfl rest _
  by_cases isDeep : 1 < depth
  · rw [if_pos isDeep]
    apply (Reader.outcome?_descend_bind isDeep _ _).trans
    apply (Reader.outcome?_object (stepsByKey_readMember (depth - 1)) lead members {} _ rest).trans
    have folded : ((named? members).bind fun ms => ms.foldlM (Slots.after? (depth - 1)) {}) =
        (named? members).bind (slotsOf? (depth - 1)) :=
      congrArg _ (funext (foldlM_after? (depth - 1)))
    apply (congrArg (Option.bind · _) folded).trans
    cases (named? members).bind (slotsOf? (depth - 1)) with
    | none => rfl
    | some slots =>
        dsimp only [Option.bind_some, ofSlots?]
        cases slots.form with
        | none => rfl
        | some form =>
            apply (Reader.outcome?_drop_bind _ '\x7d' _).trans
            exact Reader.outcome?_liftM _ rest
  · rw [if_neg isDeep]
    exact Reader.outcome?_descend_bind_none isDeep _ _

/-- A rule may also be a list of the name of its form and its argument. -/
theorem answers_list (depth : Nat) (lead : Blanks) (items : List (Padded Tree)) :
    ∃ answer, (codec.read depth).Answers (.list lead items) answer := by
  by_cases isDeep : 1 < depth
  case neg =>
    exists none
    apply Answers.peek?
    rintro _ rfl rest _
    exact Reader.outcome?_descend_bind_none isDeep _ _
  cases items with
  | nil =>
      exists none
      apply Answers.peek?
      rintro _ rfl rest _
      rw [Json.Tree.write_list_append]
      apply (Reader.outcome?_descend_bind isDeep _ _).trans
      apply (Reader.outcome?_drop_bind _ '[' _).trans
      exact Reader.outcome?_bind_of_eq_some (Reader.outcome?_nextItem_nil true lead rest) _
  | cons item more =>
      exists (Form.named? item.inner).bind fun form =>
        (more.mapM fun i => (Reader.value (depth - 1)).valueOf? i.inner).bind fun items =>
          (ofItems form items).toOption
      apply Answers.peek?
      rintro _ rfl rest _
      have ends := (Json.ends_pending (.inl rfl) (more.map Tree.itemText) rest).blanks item.after
      have next := Reader.outcome?_nextItem_cons true lead item.before item.inner
      have others :=
        Reader.outcome?_items (Reader.reads_value (depth - 1)) more false item.after rest
      rw [Json.Tree.write_list_append, List.map_cons, Json.pending_cons, Tree.itemText]
      simp only [List.append_assoc]
      apply (Reader.outcome?_descend_bind isDeep _ _).trans
      apply (Reader.outcome?_drop_bind _ '[' _).trans
      apply (Reader.outcome?_bind_of_eq_some (next _) _).trans
      apply ((Form.answers_read item.inner).outcome?_bind _ Reader.noBlanks ends).trans
      cases Form.named? item.inner with
      | none => rfl
      | some form =>
          apply (Reader.outcome?_bind _ _ _).trans
          rw [others]
          cases more.mapM fun i => (Reader.value (depth - 1)).valueOf? i.inner with
          | none => rfl
          | some items => exact Reader.outcome?_liftM _ rest

theorem isLocal_codec : codec.IsLocal := by
  intro depth
  apply Reader.reads_of_containers
  · exact fun lead members => ⟨_, answers_object depth lead members⟩
  · exact answers_list depth
  · intro c noObject noList s
    split
    case h_1 same => exact absurd (Option.some.inj same) noObject
    case h_2 same => exact absurd (Option.some.inj same) noList
    case h_3 => exact Reader.outcome?_refuse _ s

/-! ## Arguments -/

/-- The rule of a form whose argument is a tree. -/
def argumentOf? (form : Form) (depth : Nat) (t : Tree) : Option SelectionRule :=
  match form with
  | .byMarker => (Marker.codec.valueOf? depth t).map .byMarker
  | .bySupertype => (SettlerId.codec.valueOf? depth t).map .bySupertype
  | .byName => (Codec.text.valueOf? depth t).map .byName
  | .registered => ((Codec.list SettlerId.codec).valueOf? depth t).map .registered

theorem form_of_argumentOf? {form : Form} {depth : Nat} {t : Tree} {rule : SelectionRule}
    (given : argumentOf? form depth t = some rule) : rule.form = form := by
  cases form <;>
  · obtain ⟨argument, -, rfl⟩ := Option.map_eq_some_iff.mp given
    rfl

section Values

variable {depth : Nat}

/-- A value is a string where a tree spells one. -/
theorem bind_textOf (isOpen : 0 < depth) (t : Tree) :
    (((Reader.value depth).valueOf? t).bind fun v => (textOf v).toOption) = t.string? := by
  by_cases isText : ∃ l, t = .text l
  · rcases isText with ⟨l, rfl⟩
    obtain ⟨depth, rfl⟩ := Nat.exists_eq_add_of_lt isOpen
    rw [(Reader.answers_value_text l).valueOf?_eq]
    change _ = l.string?
    cases l.string? <;> rfl
  · have noString : t.string? = none := by
      cases t with
      | text l => exact absurd ⟨l, rfl⟩ isText
      | _ => rfl
    rw [noString, Option.bind_eq_none_iff]
    intro v read
    have found := Reader.foundAt?_of_value read
    cases v with
    | text s =>
        cases t with
        | text l => exact absurd ⟨l, rfl⟩ isText
        | _ => simp [Reader.foundAt?, Value.found] at found
    | _ => rfl

theorem valueOf?_text (t : Tree) : Codec.text.valueOf? depth t = t.string? :=
  (Codec.answers_text depth t).valueOf?_eq

/-- What is made of the string that a value is. -/
theorem bind_make_textOf {β : Type} (isOpen : 0 < depth) (make : String → β) (t : Tree) :
    (((Reader.value depth).valueOf? t).bind fun v =>
        (do return make (← textOf v) : Except ReadError β).toOption) = t.string?.map make := by
  rw [← bind_textOf isOpen]
  cases (Reader.value depth).valueOf? t with
  | none => rfl
  | some v =>
      dsimp only [Option.bind_some]
      cases textOf v <;> rfl

theorem valueOf?_name (t : Tree) :
    SettlerId.codec.valueOf? depth t = t.string?.map SettlerId.mk := by
  rw [SettlerId.codec, Codec.valueOf?_imap Codec.isLocal_text, valueOf?_text]

/-- A value is a name where a tree spells one. -/
theorem bind_nameOf (isOpen : 0 < depth) (t : Tree) :
    (((Reader.value depth).valueOf? t).bind fun v => (SettlerId.mk <$> textOf v).toOption) =
      SettlerId.codec.valueOf? depth t := by
  rw [valueOf?_name, ← bind_make_textOf isOpen SettlerId.mk]
  simp only [bind_pure_comp]

/-- A value is a list of names where a tree is one. -/
theorem bind_namesOf (isDeep : 1 < depth) (t : Tree) :
    (((Reader.value depth).valueOf? t).bind fun v =>
        (do (← listOf v).mapM fun item => SettlerId.mk <$> textOf item).toOption) =
      (Codec.list SettlerId.codec).valueOf? depth t := by
  have isLocal : SettlerId.codec.IsLocal := Codec.isLocal_text.imap _ _
  obtain ⟨depth, rfl⟩ := Nat.exists_eq_add_of_lt (Nat.zero_lt_of_lt isDeep)
  rw [Nat.zero_add] at isDeep ⊢
  by_cases isList : ∃ lead items, t = .list lead items
  · rcases isList with ⟨lead, items, rfl⟩
    have isOpen : 0 < depth := Nat.lt_of_succ_lt_succ isDeep
    have names := mapM_bind_mapM (fun i : Padded Tree => bind_nameOf isOpen i.inner) items
    rw [(Reader.answers_value_list (Reader.reads_value depth) lead items).valueOf?_eq,
      Codec.valueOf?, (Codec.answers_list isLocal (depth + 1) lead items).valueOf?_eq,
      if_pos isOpen, if_pos isDeep, Nat.add_sub_cancel, ← names]
    cases items.mapM fun i => (Reader.value depth).valueOf? i.inner <;> rfl
  · rw [Codec.valueOf?, (Codec.answers_list_none (depth + 1) isList).valueOf?_eq,
      Option.bind_eq_none_iff]
    intro v read
    have found := Reader.foundAt?_of_value read
    cases v with
    | list items =>
        cases t with
        | list lead items => exact absurd ⟨lead, items, rfl⟩ isList
        | _ => simp [Reader.foundAt?, Value.found] at found
    | _ => rfl

/-- A rule is made of the value that its argument is. -/
theorem bind_ofArgument (isDeep : 1 < depth) (form : Form) (t : Tree) :
    (((Reader.value depth).valueOf? t).bind fun v => (ofArgument form v).toOption) =
      argumentOf? form depth t := by
  have isOpen : 0 < depth := Nat.zero_lt_of_lt isDeep
  cases form with
  | byMarker =>
      rw [argumentOf?, Marker.codec, Codec.valueOf?_imap Codec.isLocal_text, valueOf?_text,
        Option.map_map]
      exact bind_make_textOf isOpen (fun s => byMarker ⟨s⟩) t
  | bySupertype =>
      rw [argumentOf?, valueOf?_name, Option.map_map]
      exact bind_make_textOf isOpen (fun s => bySupertype ⟨s⟩) t
  | byName =>
      rw [argumentOf?, valueOf?_text]
      exact bind_make_textOf isOpen byName t
  | registered =>
      rw [argumentOf?, ← bind_namesOf isDeep]
      cases (Reader.value depth).valueOf? t with
      | none => rfl
      | some v =>
          dsimp only [Option.bind_some, ofArgument]
          cases listOf v with
          | error fault => rfl
          | ok items =>
              change Except.toOption (do
                return registered (← items.mapM fun item => SettlerId.mk <$> textOf item)) =
                  (items.mapM fun item => SettlerId.mk <$> textOf item).toOption.map registered
              cases items.mapM fun item => SettlerId.mk <$> textOf item <;> rfl

end Values

/-! ## Members -/

/-- The first argument of a form is its only one. -/
theorem ofMembers_some (form : Form) (rule : SelectionRule) (vs : List (String × Value)) :
    (ofMembers form (some rule) vs).toOption =
      if valuesOf form.member vs = [] then some rule else none := by
  induction vs with
  | nil => rfl
  | cons m vs ih =>
      obtain ⟨key, v⟩ := m
      rw [ofMembers]
      by_cases isMember : key = form.member
      · rw [isMember, Json.valuesOf_cons_own, if_pos BEq.rfl]
        rfl
      · rw [if_neg (by simpa using isMember), Json.valuesOf_cons_other isMember, ih]

/-- A rule is made of the one argument of its form. -/
theorem ofMembers_eq_some_iff (form : Form) (rule : SelectionRule) (vs : List (String × Value)) :
    (ofMembers form none vs).toOption = some rule ↔
      ∃ v, valuesOf form.member vs = [v] ∧ (ofArgument form v).toOption = some rule := by
  induction vs with
  | nil =>
      constructor
      · nofun
      · rintro ⟨v, none, -⟩
        contradiction
  | cons m vs ih =>
      obtain ⟨key, v⟩ := m
      rw [ofMembers]
      by_cases isMember : key = form.member
      · rw [isMember, Json.valuesOf_cons_own, if_pos BEq.rfl]
        cases made : ofArgument form v with
        | error fault =>
            constructor
            · nofun
            · rintro ⟨v', same, given⟩
              cases (List.cons.inj same).1
              rw [made] at given
              contradiction
        | ok found =>
            change (ofMembers form (some found) vs).toOption = _ ↔ _
            rw [ofMembers_some]
            by_cases isLast : valuesOf form.member vs = []
            · rw [if_pos isLast, isLast]
              constructor
              · intro same
                exact ⟨v, rfl, by rw [made]; exact same⟩
              · rintro ⟨v', same, given⟩
                cases (List.cons.inj same).1
                rwa [made] at given
            · rw [if_neg isLast]
              constructor
              · nofun
              · rintro ⟨v', same, -⟩
                exact absurd (List.cons.inj same).2 isLast
      · rw [if_neg (by simpa using isMember), Json.valuesOf_cons_other isMember, ih]

/-- Members keep their keys when their values are read. -/
theorem mapM_valuesOf {depth : Nat} {ms : List (String × Tree)} {vs : List (String × Value)}
    (read : ms.mapM (Reader.memberOf? depth) = some vs) (key : String) :
    (valuesOf key ms).mapM (Reader.value depth).valueOf? = some (valuesOf key vs) := by
  induction ms generalizing vs with
  | nil =>
      cases read
      rfl
  | cons m ms ih =>
      obtain ⟨other, t⟩ := m
      rw [mapM_cons_eq] at read
      obtain ⟨m', isRead, read⟩ := Option.bind_eq_some_iff.mp read
      obtain ⟨vs, areRead, rfl⟩ := Option.map_eq_some_iff.mp read
      obtain ⟨v, isValue, rfl⟩ := Option.map_eq_some_iff.mp isRead
      by_cases isKey : other = key
      · rw [isKey, Json.valuesOf_cons_own, Json.valuesOf_cons_own, mapM_cons_eq, isValue,
          ih areRead]
        rfl
      · rw [Json.valuesOf_cons_other isKey, Json.valuesOf_cons_other isKey, ih areRead]

theorem member_ne_type (form : Form) : form.member ≠ "type" := by
  cases form <;> decide

/-- A form is given by its word. -/
theorem gives_form_iff {ms : List (String × Tree)} {form : Form} :
    Gives ms "type" Form.named? none form ↔ Gives ms "type" Json.Tree.string? none form.word := by
  simp only [Json.gives_none_iff, Form.named?_eq_some_iff]

/-- That members give a rule: its form is named once, and its argument comes once. -/
structure GivenBy (rule : SelectionRule) (depth : Nat) (ms : List (String × Tree)) : Prop where
  form : Gives ms "type" Json.Tree.string? none rule.form.word
  argument : Gives ms rule.form.member (argumentOf? rule.form depth) none rule

/-- What is read of members makes a rule exactly if they give it, and if all others among them are
readable. -/
theorem slotsOf?_bind_ofSlots?_iff {depth : Nat} (isDeep : 1 < depth) (ms : List (String × Tree))
    (rule : SelectionRule) :
    (slotsOf? depth ms).bind ofSlots? = some rule ↔
      rule.GivenBy depth ms ∧
        ∀ m ∈ ms, m.1 ∉ ["type", rule.form.member] → m.2.Readable (depth - 1) := by
  have isOpen : depth - 1 + 1 = depth := Nat.sub_add_cancel (Nat.le_of_lt isDeep)
  constructor
  · intro made
    obtain ⟨slots, read, made⟩ := Option.bind_eq_some_iff.mp made
    obtain ⟨slot, isNamed, read⟩ := Option.bind_eq_some_iff.mp read
    obtain ⟨vs, areRead, rfl⟩ := Option.map_eq_some_iff.mp read
    obtain ⟨form, isGiven, made⟩ := Option.bind_eq_some_iff.mp made
    obtain ⟨v, isValue, made⟩ := (ofMembers_eq_some_iff form rule vs).mp made
    have values := mapM_valuesOf areRead form.member
    rw [Json.valuesOf_filter_other (member_ne_type form), isValue] at values
    obtain ⟨t, isArgument, isRead⟩ := eq_singleton_of_mapM values
    have argued : argumentOf? form depth t = some rule := by
      rw [← bind_ofArgument isDeep, isRead]
      exact made
    have same := form_of_argumentOf? argued
    subst same
    constructor
    · constructor
      · rw [← gives_form_iff]
        apply (Json.gives_iff ms none rule.form).mp
        exact ⟨slot, isNamed, Option.or_none.trans isGiven⟩
      · exact Json.gives_none_iff.mpr ⟨t, isArgument, argued⟩
    · intro m member other
      have kept : m ∈ ms.filter fun m => m.1 != "type" := by
        simp only [List.mem_cons, not_or] at other
        simp [member, other.1]
      have all := Option.isSome_of_mem areRead
      rw [isSome_mapM_iff] at all
      rw [← Reader.isSome_valueOf?_value_iff, isOpen]
      simpa [Reader.memberOf?] using all m kept
  · rintro ⟨⟨named, argued⟩, readable⟩
    rw [← gives_form_iff, ← Json.gives_iff] at named
    obtain ⟨slot, isNamed, isGiven⟩ := named
    obtain ⟨t, isArgument, argued⟩ := Json.gives_none_iff.mp argued
    rw [← bind_ofArgument isDeep] at argued
    obtain ⟨v, isRead, made⟩ := Option.bind_eq_some_iff.mp argued
    have all : ((ms.filter fun m => m.1 != "type").mapM (Reader.memberOf? depth)).isSome := by
      rw [isSome_mapM_iff]
      intro m kept
      obtain ⟨member, isOther⟩ := List.mem_filter.mp kept
      rw [Reader.memberOf?, Option.isSome_map]
      by_cases isArgued : m.1 = rule.form.member
      · have isOne : m.2 ∈ valuesOf rule.form.member ms :=
          Json.mem_valuesOf_iff.mpr (isArgued ▸ member)
        rw [isArgument, List.mem_singleton] at isOne
        rw [isOne, isRead]
        rfl
      · have other : m.1 ∉ ["type", rule.form.member] := by
          simp only [List.mem_cons, List.not_mem_nil, or_false, not_or]
          exact ⟨by simpa using isOther, isArgued⟩
        rw [← isOpen, Reader.isSome_valueOf?_value_iff]
        exact readable m member other
    obtain ⟨vs, areRead⟩ := Option.isSome_iff_exists.mp all
    have values := mapM_valuesOf areRead rule.form.member
    rw [Json.valuesOf_filter_other (member_ne_type rule.form), isArgument, mapM_cons_eq,
      isRead] at values
    have isValue : valuesOf rule.form.member vs = [v] := (Option.some.inj values).symm
    have isForm : slot = some rule.form := by rwa [Option.or_none] at isGiven
    rw [slotsOf?, isNamed, isForm, areRead]
    exact (ofMembers_eq_some_iff rule.form rule vs).mpr ⟨v, isValue, made⟩

/-- An object is read as a rule by its members. -/
theorem valueOf?_object_iff {depth : Nat} (isDeep : 1 < depth - 1) (lead : Blanks)
    (members : List Member) (rule : SelectionRule) :
    codec.valueOf? depth (.object lead members) = some rule ↔
      ∃ ms, named? members = some ms ∧ rule.GivenBy (depth - 1) ms ∧
        ∀ m ∈ ms, m.1 ∉ ["type", rule.form.member] → m.2.Readable (depth - 1 - 1) := by
  rw [Codec.valueOf?, (answers_object depth lead members).valueOf?_eq, if_pos (by omega),
    Option.bind_assoc, Option.bind_eq_some_iff]
  exact exists_congr fun ms => and_congr_right fun _ => slotsOf?_bind_ofSlots?_iff isDeep ms rule

end Settlement.SelectionRule
