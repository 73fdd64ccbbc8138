import Settlement.Proofs.Json.Faithful
import Settlement.Proofs.Json.Locality
import Settlement.Proofs.Lists

/-!
# Records by their members

A record is given by the members of an object if each known key comes at most once, and its value is
read, or there is none and the default stands for it.  Nothing else matters: neither the order of
the members nor what else there is.
-/

namespace Settlement.Json

open Reader (Answers Follows)

variable {α r slots : Type}

/-! ## Members by key -/

/-- The values of the members with a key. -/
def valuesOf (key : String) (ms : List (String × α)) : List α :=
  (ms.filter fun m => m.1 == key).map Prod.snd

@[simp]
theorem valuesOf_nil (key : String) : valuesOf key ([] : List (String × α)) = [] :=
  rfl

theorem valuesOf_cons_own (key : String) (a : α) (ms : List (String × α)) :
    valuesOf key ((key, a) :: ms) = a :: valuesOf key ms := by
  simp [valuesOf]

theorem valuesOf_cons_other {key other : String} (differs : other ≠ key) (a : α)
    (ms : List (String × α)) : valuesOf key ((other, a) :: ms) = valuesOf key ms := by
  simp [valuesOf, differs]

theorem mem_valuesOf_iff {key : String} {a : α} {ms : List (String × α)} :
    a ∈ valuesOf key ms ↔ (key, a) ∈ ms := by
  simp [valuesOf]

theorem valuesOf_filter_own (key : String) (ms : List (String × α)) :
    valuesOf key (ms.filter fun m => m.1 != key) = [] := by
  simp [valuesOf, List.filter_filter]

theorem valuesOf_filter_other {key other : String} (differs : key ≠ other)
    (ms : List (String × α)) :
    valuesOf key (ms.filter fun m => m.1 != other) = valuesOf key ms := by
  rw [valuesOf, valuesOf, List.filter_filter]
  congr 2
  funext m
  by_cases isKey : m.1 = key
  · simp [isKey, differs]
  · simp [isKey]

/-- That members give the value of a key: there is one such member, and its value is read, or there
is none, and the value is the default. -/
def Gives (ms : List (String × Tree)) (key : String) (read? : Tree → Option α) (absent : Option α)
    (a : α) : Prop :=
  match valuesOf key ms with
  | [] => absent = some a
  | [t] => read? t = some a
  | _ => False

/-- A value without a default comes once. -/
theorem gives_none_iff {ms : List (String × Tree)} {key : String} {read? : Tree → Option α}
    {a : α} :
    Gives ms key read? none a ↔ ∃ t, valuesOf key ms = [t] ∧ read? t = some a := by
  rw [Gives]
  rcases valuesOf key ms with _ | ⟨t, _ | ⟨t', ts⟩⟩ <;> simp

/-- What is known of a key after one more member. -/
def slotAfter? (key : String) (read? : Tree → Option α) (slot : Option α) (m : String × Tree) :
    Option (Option α) :=
  if m.1 == key then
    match slot with
    | some _ => none
    | none => (read? m.2).map some
  else some slot

section Slots

variable {key : String} {read? : Tree → Option α}

theorem slotAfter?_own (slot : Option α) (t : Tree) :
    slotAfter? key read? slot (key, t) =
      match slot with
      | some _ => none
      | none => (read? t).map some :=
  if_pos BEq.rfl

theorem slotAfter?_other {other : String} (differs : other ≠ key) (slot : Option α) (t : Tree) :
    slotAfter? key read? slot (other, t) = some slot :=
  if_neg (by simpa using differs)

/-- A key that has come does not come again. -/
theorem foldlM_slotAfter?_some (a : α) (ms : List (String × Tree)) :
    ms.foldlM (slotAfter? key read?) (some a) =
      if valuesOf key ms = [] then some (some a) else none := by
  induction ms with
  | nil => rfl
  | cons m ms ih =>
      obtain ⟨other, t⟩ := m
      rw [List.foldlM_cons]
      by_cases isKey : other = key
      · rw [isKey, slotAfter?_own, valuesOf_cons_own]
        rfl
      · rw [slotAfter?_other isKey, valuesOf_cons_other isKey, ← ih]
        rfl

/-- What is known of a key after all members gives its value. -/
theorem gives_iff (ms : List (String × Tree)) (absent : Option α) (a : α) :
    (∃ slot, ms.foldlM (slotAfter? key read?) none = some slot ∧ slot.or absent = some a) ↔
      Gives ms key read? absent a := by
  induction ms with
  | nil => simp [Gives]
  | cons m ms ih =>
      obtain ⟨other, t⟩ := m
      rw [List.foldlM_cons]
      by_cases isKey : other = key
      · rw [isKey, slotAfter?_own, Gives, valuesOf_cons_own]
        cases read : read? t with
        | none =>
            cases valuesOf key ms <;> simp [read]
        | some b =>
            have later : ms.foldlM (slotAfter? key read?) (some b) = _ :=
              foldlM_slotAfter?_some b ms
            cases isLast : valuesOf key ms <;> simp [read, later, isLast]
      · rw [slotAfter?_other isKey, Gives, valuesOf_cons_other isKey, ← Gives, ← ih]
        rfl

end Slots

/-! ## Objects -/

namespace Schema

/-- That the codecs of all members are local, and that no two members have one key. -/
inductive IsLocal : {r slots : Type} → Schema r slots → Prop where
  | done : IsLocal .done
  | field {α r slots : Type} {key : String} {codec : Codec α} {absent : Option α}
      {isLeftOut : α → Bool} {more : Schema r slots} :
      codec.IsLocal → key ∉ more.keys → more.IsLocal →
      IsLocal (.field key codec absent isLeftOut more)

/-- What is known of a record after one more member. -/
def after? : {r slots : Type} → Schema r slots → (depth : Nat) → slots → String × Tree →
    Option slots
  | _, _, .done, _, _, _ => some ()
  | _, _, .field own codec _ _ more, depth, (slot, known), m =>
      (slotAfter? own (codec.valueOf? depth) slot m).bind fun slot =>
        (more.after? depth known m).map fun known => (slot, known)

/-- That members give all values of a record. -/
def GivenBy : {r slots : Type} → Schema r slots → (depth : Nat) → List (String × Tree) → r → Prop
  | _, _, .done, _, _, _ => True
  | _, _, .field key codec absent _ more, depth, ms, (a, rest) =>
      Gives ms key (codec.valueOf? depth) absent a ∧ more.GivenBy depth ms rest

/-- An unknown member changes nothing. -/
theorem after?_of_not_mem (s : Schema r slots) (depth : Nat) (known : slots) {key : String}
    (unknown : key ∉ s.keys) (t : Tree) : s.after? depth known (key, t) = some known := by
  induction s with
  | done => rfl
  | field own codec absent isLeftOut more ih =>
      obtain ⟨slot, known⟩ := known
      rw [keys, List.mem_cons, not_or] at unknown
      rw [after?, slotAfter?_other unknown.1, Option.bind_some, ih known unknown.2]
      rfl

/-- A member is read by its key, and passed over if it is unknown. -/
theorem follows_readMember {s : Schema r slots} (isLocal : s.IsLocal) (depth : Nat) :
    Follows (fun key known => s.readMember depth key known)
      fun key t known => s.after? depth known (key, t) := by
  induction isLocal with
  | done =>
      intro key known lead before t rest ends
      change Reader.outcome? (do Reader.colon; Reader.skip) _ = _
      rw [Reader.outcome?_bind_of_eq_some (Reader.outcome?_colon lead _)]
      exact Reader.answers_skip t before rest ends
  | @field _ _ _ own codec absent isLeftOut more isLocal fresh _ ih =>
      intro key known lead before t rest ends
      obtain ⟨slot, known⟩ := known
      by_cases isOwn : key = own
      · dsimp only
        rw [isOwn, after?, slotAfter?_own, after?_of_not_mem more depth known fresh]
        cases slot with
        | some a =>
            have again : (field own codec absent isLeftOut more).readMember depth own
                (some a, known) = throw (.duplicateField own) := if_pos BEq.rfl
            rw [again]
            rfl
        | none =>
            rw [readMember_own, Reader.outcome?_bind_of_eq_some (Reader.outcome?_colon lead _),
              (isLocal depth t).outcome?_bind _ before ends, Codec.valueOf?]
            cases (codec.read depth).valueOf? t <;> rfl
      · dsimp only
        rw [readMember_other isOwn, Reader.outcome?_map, ih key known lead before t rest ends,
          after?, slotAfter?_other isOwn]
        dsimp only
        cases more.after? depth known (key, t) <;> rfl

theorem toOption_close_field {own : String} {codec : Codec α} {absent : Option α}
    {isLeftOut : α → Bool} {more : Schema r slots} (slot : Option α) (known : slots) :
    ((field own codec absent isLeftOut more).close (slot, known)).toOption =
      (slot.or absent).bind fun a => (more.close known).toOption.map fun rest => (a, rest) := by
  rw [close]
  cases slot.or absent with
  | none => rfl
  | some a => cases more.close known <;> rfl

/-- The members of an object give a record exactly if they give each of its values. -/
theorem close_foldlM_after?_iff (s : Schema r slots) (depth : Nat)
    (ms : List (String × Tree)) (a : r) :
    ((ms.foldlM (s.after? depth) s.vacant).bind fun known => (s.close known).toOption) = some a ↔
      s.GivenBy depth ms a := by
  induction s with
  | done =>
      have known : ms.foldlM (done.after? depth) () = some () := by
        induction ms with
        | nil => rfl
        | cons m ms ih => exact ih
      rw [vacant, known]
      exact ⟨fun _ => trivial, fun _ => rfl⟩
  | field own codec absent isLeftOut more ih =>
      obtain ⟨a, rest⟩ := a
      have apart : (field own codec absent isLeftOut more).after? depth =
          fun known m => (slotAfter? own (codec.valueOf? depth) known.1 m).bind fun slot =>
            (more.after? depth known.2 m).map fun known => (slot, known) := rfl
      rw [GivenBy, ← gives_iff, ← ih, vacant, apart,
        foldlM_pair Prod.mk Prod.fst Prod.snd (fun _ _ => rfl) (fun _ _ => rfl)]
      simp only [Option.bind_assoc, Option.bind_map, Function.comp_def, toOption_close_field,
        Option.bind_eq_some_iff, Option.map_eq_some_iff, Prod.mk.injEq]
      constructor
      · rintro ⟨slot, isSlot, known, isKnown, b, isGiven, others, areGiven, rfl, rfl⟩
        exact ⟨⟨slot, isSlot, isGiven⟩, known, isKnown, areGiven⟩
      · rintro ⟨⟨slot, isSlot, isGiven⟩, known, isKnown, areGiven⟩
        exact ⟨slot, isSlot, known, isKnown, a, isGiven, rest, areGiven, rfl, rfl⟩

/-! ## Lists -/

/-- The members of a record are read from the first items of a list, and other items are left. -/
theorem outcome?_readItems {s : Schema r slots} (isLocal : s.IsLocal) (depth : Nat)
    (expected : String) (index : Nat) (lead : Blanks) (items : List (Padded Tree)) :
    ∃ answer : Option (r × Bool × Blanks × List (Padded Tree)), ∀ rest,
      (s.readItems index depth expected).outcome?
          (lead.val ++ (pending (index == 0) (items.map Tree.itemText) ++ ']' :: rest)) =
        answer.map fun (a, first, lead, left) =>
          (a, lead.val ++ (pending first (left.map Tree.itemText) ++ ']' :: rest)) := by
  induction isLocal generalizing index lead items with
  | done => exact ⟨some ((), index == 0, lead, items), fun _ => rfl⟩
  | @field _ _ _ own codec absent isLeftOut more isLocal _ _ ih =>
      cases items with
      | nil =>
          have ended (rest : List Char) := Reader.outcome?_nextItem_nil (index == 0) lead rest
          cases absent with
          | none =>
              exists none
              intro rest
              rw [List.map_nil, pending_nil]
              exact Reader.outcome?_bind_of_eq_some (ended rest) _
          | some a =>
              rcases ih (index + 1) Reader.noBlanks [] with ⟨answer, answers⟩
              exists answer.map fun (others, left) => ((a, others), left)
              intro rest
              have later := answers rest
              rw [List.map_nil, pending_nil] at later ⊢
              apply (Reader.outcome?_bind_of_eq_some (ended rest) _).trans
              apply (Reader.outcome?_bind_pure _ (Prod.mk a) _).trans
              apply (congrArg _ later).trans
              cases answer <;> rfl
      | cons item items =>
          have next := Reader.outcome?_nextItem_cons (index == 0) lead item.before item.inner
          rcases ih (index + 1) item.after items with ⟨answer, answers⟩
          exists (codec.valueOf? depth item.inner).bind fun a =>
            answer.map fun (others, left) => ((a, others), left)
          intro rest
          have ends := (ends_pending (.inl rfl) (items.map Tree.itemText) rest).blanks item.after
          have later := answers rest
          rw [List.map_cons, pending_cons, Tree.itemText]
          simp only [List.append_assoc]
          apply (Reader.outcome?_bind_of_eq_some (next _) _).trans
          apply ((isLocal depth item.inner).outcome?_bind _ Reader.noBlanks ends).trans
          rw [Codec.valueOf?]
          cases (codec.read depth).valueOf? item.inner with
          | none => rfl
          | some a =>
              apply (Reader.outcome?_bind_pure _ (Prod.mk a) _).trans
              apply (congrArg _ later).trans
              cases answer <;> rfl

end Schema

/-- A list is not closed where an item or a comma stands. -/
theorem outcome?_closeList_none (lead : Blanks) {c : Char} (solid : Reader.isBlank c = false)
    (noClose : c ≠ ']') (s : List Char) :
    Reader.closeList.outcome? (lead.val ++ c :: s) = none := by
  apply (Reader.outcome?_peek?_bind _ lead solid s).trans
  split
  case h_1 => rfl
  case h_2 isClose => exact absurd (Option.some.inj isClose) noClose
  case h_3 =>
    apply Reader.outcome?_bind_eq_none
    intro _ s
    apply Reader.outcome?_bind_eq_none
    intro found s
    split <;> rfl
  case h_4 => rfl

/-- A list that is closed has no items left. -/
theorem outcome?_closeList (first : Bool) (lead : Blanks) (left : List (Padded Tree)) :
    ∃ answer : Option Unit, ∀ rest,
      Reader.closeList.outcome?
          (lead.val ++ (pending first (left.map Tree.itemText) ++ ']' :: rest)) =
        answer.map fun a => (a, rest) := by
  cases left with
  | nil =>
      exists some ()
      intro rest
      rw [List.map_nil, pending_nil]
      exact Reader.outcome?_peek?_bind _ lead rfl rest
  | cons item left =>
      exists none
      intro rest
      rw [List.map_cons, pending_cons, Tree.itemText]
      cases first with
      | false => exact outcome?_closeList_none lead rfl (by decide) _
      | true =>
          rcases item.inner.exists_write_eq_cons with ⟨c, more, written, starts⟩
          have noClose := starts.ne_of_not_mem (d := ']') (by decide)
          simp only [if_true, List.nil_append, List.append_assoc, written, List.cons_append]
          rw [Reader.closeList, Reader.outcome?_peek?_bind_blanks]
          exact outcome?_closeList_none item.before starts.solid noClose _

/-! ## Records -/

/-- An object is read as a record by its members. -/
theorem answers_record_object {s : Schema r slots} (isLocal : s.IsLocal) (name : String)
    (depth : Nat) (lead : Blanks) (members : List Member) :
    ((Codec.record name s).read depth).Answers (.object lead members)
      (if 1 < depth then
        ((named? members).bind fun ms => ms.foldlM (s.after? (depth - 1)) s.vacant).bind
          fun known => (s.close known).toOption
      else none) := by
  apply Answers.peek?
  rintro _ rfl rest _
  change Reader.outcome? (do let depth ← Reader.descend depth; Reader.drop; _) _ = _
  by_cases isDeep : 1 < depth
  · rw [if_pos isDeep, Reader.outcome?_descend_bind isDeep]
    apply (Reader.outcome?_object (Schema.follows_readMember isLocal (depth - 1)).steps lead
      members s.vacant _ rest).trans
    cases (named? members).bind fun ms => ms.foldlM (s.after? (depth - 1)) s.vacant with
    | none => rfl
    | some known =>
        dsimp only [Option.bind_some]
        rw [Reader.outcome?_bind, Reader.outcome?_liftM]
        cases s.close known <;> rfl
  · rw [if_neg isDeep]
    exact Reader.outcome?_descend_bind_none isDeep _ _

/-- A list is read as a record by the order of its items. -/
theorem answers_record_list {s : Schema r slots} (isLocal : s.IsLocal) (name : String)
    (depth : Nat) (lead : Blanks) (items : List (Padded Tree)) :
    ∃ answer, ((Codec.record name s).read depth).Answers (.list lead items) answer := by
  by_cases isDeep : 1 < depth
  case neg =>
    exists none
    apply Answers.peek?
    rintro _ rfl rest _
    exact Reader.outcome?_descend_bind_none isDeep _ _
  rcases Schema.outcome?_readItems isLocal (depth - 1)
    s!"struct {name} with {elementCount s.size}" 0 lead items with ⟨read, reads⟩
  cases read with
  | none =>
      exists none
      apply Answers.peek?
      rintro _ rfl rest _
      rw [Tree.write_list_append]
      apply (Reader.outcome?_descend_bind isDeep _ _).trans
      apply (Reader.outcome?_drop_bind _ '[' _).trans
      apply (Reader.outcome?_bind _ _ _).trans
      exact congrArg (Option.bind · _) (reads rest)
  | some found =>
      obtain ⟨a, first, after, left⟩ := found
      rcases outcome?_closeList first after left with ⟨closed, closes⟩
      exists closed.map fun _ => a
      apply Answers.peek?
      rintro _ rfl rest _
      rw [Tree.write_list_append]
      apply (Reader.outcome?_descend_bind isDeep _ _).trans
      apply (Reader.outcome?_drop_bind _ '[' _).trans
      apply (Reader.outcome?_bind_of_eq_some (reads rest) _).trans
      apply (Reader.outcome?_bind_pure _ (fun _ => a) _).trans
      rw [closes rest]
      cases closed <;> rfl

theorem Codec.IsLocal.record {s : Schema r slots} (isLocal : s.IsLocal) (name : String) :
    (Codec.record name s).IsLocal := by
  intro depth
  apply Reader.reads_of_containers
  · exact fun lead members => ⟨_, answers_record_object isLocal name depth lead members⟩
  · exact answers_record_list isLocal name depth
  · intro c noObject noList s
    split
    case h_1 same => exact absurd (Option.some.inj same) noObject
    case h_2 same => exact absurd (Option.some.inj same) noList
    case h_3 => exact Reader.outcome?_refuse _ s

end Settlement.Json
