import Settlement.Proofs.Json.Members

/-!
# Texts that hold an object

What is decoded from a text that holds an object depends on the values of the known keys alone.
Neither the order of the members matters nor what other members there are, except that all keys must
spell texts.
-/

namespace Settlement.Json

open Codec (depthLimit)

variable {α ε ε' r slots : Type}

/-! ## Whole texts -/

/-- A whole text is decoded to what its tree is read as. -/
theorem decode_eq_ok_iff {c : Codec α} (isLocal : c.IsLocal) (p : Padded Tree) (a : α) :
    c.decode (String.ofList (Tree.itemText p)) = .ok a ↔
      c.valueOf? depthLimit p.inner = some a := by
  have ends : Ends p.after.val := by simpa using ends_nil.blanks p.after
  have answers := isLocal depthLimit p.inner p.before p.after.val ends
  have onlyBlanks : p.after.val.all Reader.isBlank = true := List.all_eq_true.mpr p.after.property
  rw [Codec.decode, String.toList_ofList, Codec.valueOf?, Tree.itemText, List.append_assoc]
  rw [Reader.outcome?] at answers
  cases run : (c.read depthLimit).run (p.before.val ++ (p.inner.write ++ p.after.val)) with
  | error fault =>
      rw [run] at answers
      rw [Option.map_eq_none_iff.mp answers.symm]
      change Except.error fault = .ok a ↔ none = some a
      simp
  | ok found =>
      rw [run] at answers
      obtain ⟨b, isRead, rfl⟩ := Option.map_eq_some_iff.mp answers.symm
      change (if p.after.val.all Reader.isBlank then pure b
        else throw ReadError.trailingCharacters) = _ ↔ _
      rw [if_pos onlyBlanks, isRead]
      exact ⟨fun same => congrArg some (Except.ok.inj same),
        fun same => congrArg Except.ok (Option.some.inj same)⟩

/-- A text that holds one object. -/
structure ObjectText where
  before : Blanks
  lead : Blanks
  members : List Member
  after : Blanks

/-- The whole text, with the blanks around the object. -/
def ObjectText.text (o : ObjectText) : String :=
  String.ofList (Tree.itemText ⟨o.before, .object o.lead o.members, o.after⟩)

/-- What a codec makes of the value of a member, where the object is the whole text. -/
def memberValue? (c : Codec α) : Tree → Option α :=
  c.valueOf? (depthLimit - 1)

/-- That objects are decoded by the values of their known keys.  `given` says which values there
have to be for a result, `keys` are the keys that are known where it is the result, and `nullable`
are those of them that may have the value `null`.  All other members are passed over, as long as
their values are `readable`. -/
structure ReadsByKeys (decode : String → Except ε α) (keys : α → List String)
    (nullable : List String) (given : List (String × Tree) → α → Prop) (readable : Tree → Prop) :
    Prop where
  decode_iff : ∀ (o : ObjectText) (a : α), decode o.text = .ok a ↔
    ∃ ms, named? o.members = some ms ∧ given ms a ∧ ∀ m ∈ ms, m.1 ∉ keys a → readable m.2
  /-- No known key comes twice. -/
  once : ∀ {ms a}, given ms a → ∀ key ∈ keys a, (valuesOf key ms).length ≤ 1
  /-- Neither the order of the members nor what else there is matters. -/
  congr : ∀ {ms ms' a}, given ms a →
    (∀ key ∈ keys a, (valuesOf key ms).Perm (valuesOf key ms')) → given ms' a
  /-- The value `null` stands for a missing member where it may. -/
  null_iff : ∀ {ms a key}, key ∈ nullable → valuesOf key ms = [.null] →
    (given ms a ↔ given (ms.filter fun m => m.1 != key) a)
  null_only : ∀ {ms a key}, given ms a → key ∈ keys a → .null ∈ valuesOf key ms → key ∈ nullable

/-- What a fault is reported as does not matter. -/
theorem ReadsByKeys.mapError {decode : String → Except ε α} {keys : α → List String}
    {nullable : List String} {given : List (String × Tree) → α → Prop} {readable : Tree → Prop}
    (reads : ReadsByKeys decode keys nullable given readable) (f : ε → ε') :
    ReadsByKeys (fun s => (decode s).mapError f) keys nullable given readable where
  decode_iff o a := by
    rw [← reads.decode_iff]
    cases decode o.text <;> simp [Except.mapError]
  once := reads.once
  congr := reads.congr
  null_iff := reads.null_iff
  null_only := reads.null_only

/-! ## Values of a key -/

section Gives

variable {key : String} {read? : Tree → Option α} {absent : Option α} {a : α}
  {ms ms' : List (String × Tree)}

theorem gives_of_nil (missing : valuesOf key ms = []) :
    Gives ms key read? absent a ↔ absent = some a := by
  rw [Gives, missing]

theorem gives_of_singleton {t : Tree} (isValue : valuesOf key ms = [t]) :
    Gives ms key read? absent a ↔ read? t = some a := by
  rw [Gives, isValue]

/-- A value that is given comes once, or it is the default. -/
theorem Gives.cases (given : Gives ms key read? absent a) :
    valuesOf key ms = [] ∧ absent = some a ∨ ∃ t, valuesOf key ms = [t] ∧ read? t = some a := by
  match isValue : valuesOf key ms with
  | [] => exact .inl ⟨rfl, (gives_of_nil isValue).mp given⟩
  | [t] => exact .inr ⟨t, rfl, (gives_of_singleton isValue).mp given⟩
  | _ :: _ :: _ =>
      rw [Gives, isValue] at given
      contradiction

theorem Gives.length_le_one (given : Gives ms key read? absent a) :
    (valuesOf key ms).length ≤ 1 := by
  rcases given.cases with ⟨missing, -⟩ | ⟨t, isValue, -⟩
  · simp [missing]
  · simp [isValue]

/-- What members give depends on the values of the key. -/
theorem Gives.congr (given : Gives ms key read? absent a)
    (same : (valuesOf key ms).Perm (valuesOf key ms')) : Gives ms' key read? absent a := by
  rcases given.cases with ⟨missing, isAbsent⟩ | ⟨t, isValue, isRead⟩
  · rw [missing, List.nil_perm] at same
    exact (gives_of_nil same).mpr isAbsent
  · rw [isValue, List.singleton_perm] at same
    exact (gives_of_singleton same.symm).mpr isRead

/-- A value that is given is read. -/
theorem Gives.of_mem (given : Gives ms key read? absent a) {t : Tree}
    (member : t ∈ valuesOf key ms) : read? t = some a := by
  rcases given.cases with ⟨missing, -⟩ | ⟨t', isValue, isRead⟩
  · rw [missing] at member
    contradiction
  · rw [isValue, List.mem_singleton] at member
    rwa [member]

end Gives

/-! ## Absent values -/

namespace Codec

variable {β : Type}

/-- That a codec does not take the value `null`. -/
def RefusesNull (c : Codec α) : Prop :=
  ∀ depth, c.valueOf? depth .null = none

/-- Nothing is made of `null` where its first letter is refused. -/
theorem valueOf?_null_eq_none {f : Option Char → Reader α}
    (refuses : ∀ s, (f (some 'n')).outcome? s = none) :
    (Reader.peek? >>= f).valueOf? .null = none := by
  have answers : (Reader.peek? >>= f).Answers .null none := by
    apply Reader.Answers.refused
    rintro _ rfl
    exact refuses
  exact answers.valueOf?_eq

theorem refusesNull_text : text.RefusesNull :=
  fun _ => valueOf?_null_eq_none (Reader.outcome?_refuse _)

theorem refusesNull_flag : flag.RefusesNull :=
  fun _ => valueOf?_null_eq_none (Reader.outcome?_refuse _)

theorem refusesNull_list (c : Codec α) : c.list.RefusesNull :=
  fun _ => valueOf?_null_eq_none (Reader.outcome?_refuse _)

theorem refusesNull_choice (word : α → String) (values : List α) :
    (choice word values).RefusesNull :=
  fun _ => valueOf?_null_eq_none fun _ => rfl

theorem RefusesNull.imap {c : Codec α} (refuses : c.RefusesNull) (isLocal : c.IsLocal)
    (make : α → β) (view : β → α) : (c.imap make view).RefusesNull := by
  intro depth
  rw [valueOf?_imap isLocal, refuses depth]
  rfl

theorem valueOf?_nullable_null (c : Codec α) (depth : Nat) :
    c.nullable.valueOf? depth .null = some none :=
  (answers_nullable_null c depth).valueOf?_eq

end Codec

/-! ## Records -/

namespace Schema

/-- That the value `null` stands for a missing member at certain keys, and for nothing at others. -/
inductive TakesNull (nullable : List String) (depth : Nat) :
    {r slots : Type} → Schema r slots → Prop where
  | done : TakesNull nullable depth .done
  | absent {α r slots : Type} {key : String} {codec : Codec α} {absent : Option α}
      {isLeftOut : α → Bool} {more : Schema r slots} :
      codec.valueOf? depth .null = absent → key ∈ nullable → TakesNull nullable depth more →
      TakesNull nullable depth (.field key codec absent isLeftOut more)
  | refused {α r slots : Type} {key : String} {codec : Codec α} {absent : Option α}
      {isLeftOut : α → Bool} {more : Schema r slots} :
      codec.RefusesNull → key ∉ nullable → TakesNull nullable depth more →
      TakesNull nullable depth (.field key codec absent isLeftOut more)

variable {depth : Nat} {ms ms' : List (String × Tree)} {values : r} {key : String}

theorem GivenBy.length_le_one {s : Schema r slots} (given : s.GivenBy depth ms values)
    (known : key ∈ s.keys) : (valuesOf key ms).length ≤ 1 := by
  induction s with
  | done => contradiction
  | field own codec absent isLeftOut more ih =>
      rcases List.mem_cons.mp known with rfl | known
      · exact given.1.length_le_one
      · exact ih given.2 known

theorem GivenBy.congr {s : Schema r slots} (given : s.GivenBy depth ms values)
    (same : ∀ key ∈ s.keys, (valuesOf key ms).Perm (valuesOf key ms')) :
    s.GivenBy depth ms' values := by
  induction s with
  | done => trivial
  | field own codec absent isLeftOut more ih =>
      rw [keys, List.forall_mem_cons] at same
      exact ⟨given.1.congr same.1, ih given.2 same.2⟩

theorem TakesNull.givenBy_iff {s : Schema r slots} {nullable : List String}
    (takes : s.TakesNull nullable depth) (isNullable : key ∈ nullable)
    (isNull : valuesOf key ms = [.null]) :
    s.GivenBy depth ms values ↔ s.GivenBy depth (ms.filter fun m => m.1 != key) values := by
  induction takes with
  | done => rfl
  | @absent _ _ _ own codec absent isLeftOut more isAbsent _ _ ih =>
      rw [GivenBy, GivenBy, ih]
      by_cases isOwn : own = key
      · subst isOwn
        rw [gives_of_singleton isNull, gives_of_nil (valuesOf_filter_own own ms), isAbsent]
      · rw [Gives, Gives, valuesOf_filter_other isOwn]
  | @refused _ _ _ own codec absent isLeftOut more _ notNullable _ ih =>
      have isOther : own ≠ key := fun isOwn => notNullable (isOwn ▸ isNullable)
      rw [GivenBy, GivenBy, ih, Gives, Gives, valuesOf_filter_other isOther]

theorem TakesNull.mem_of_givenBy {s : Schema r slots} {nullable : List String}
    (takes : s.TakesNull nullable depth) (given : s.GivenBy depth ms values) (known : key ∈ s.keys)
    (isNull : .null ∈ valuesOf key ms) : key ∈ nullable := by
  induction takes with
  | done => contradiction
  | absent _ isNullable _ ih =>
      rcases List.mem_cons.mp known with rfl | known
      · exact isNullable
      · exact ih given.2 known
  | refused refuses _ _ ih =>
      rcases List.mem_cons.mp known with rfl | known
      · have read := given.1.of_mem isNull
        rw [refuses depth] at read
        contradiction
      · exact ih given.2 known

end Schema

/-- A record is local, and it is decoded by the values of its keys. -/
theorem record_byKeys {s : Schema r slots} {name : String} {make : r → α} {view : α → r}
    {nullable : List String} {given : List (String × Tree) → α → Prop}
    (isLocal : s.IsLocal) (make_view : ∀ a, make (view a) = a)
    (view_make : ∀ values, view (make values) = values)
    (takes : s.TakesNull nullable (depthLimit - 1))
    (given_iff : ∀ ms a, s.GivenBy (depthLimit - 1) ms (view a) ↔ given ms a) :
    ((Codec.record name s).imap make view).IsLocal ∧
      ReadsByKeys ((Codec.record name s).imap make view).decode (fun _ => s.keys) nullable given
        fun _ => True := by
  have record := Codec.IsLocal.record isLocal name
  refine ⟨record.imap make view, ?_⟩
  constructor
  case decode_iff =>
    intro o a
    have isDeep : 1 < depthLimit := by decide
    have answers := answers_record_object isLocal name depthLimit o.lead o.members
    rw [if_pos isDeep, Option.bind_assoc] at answers
    have isMade (values : r) : make values = a ↔ values = view a :=
      ⟨fun made => made ▸ (view_make values).symm, fun same => same ▸ make_view a⟩
    rw [ObjectText.text, decode_eq_ok_iff (record.imap make view), Codec.valueOf?_imap record,
      Codec.valueOf?, answers.valueOf?_eq]
    simp only [Option.map_eq_some_iff, isMade, exists_eq_right, implies_true, and_true]
    rw [Option.bind_eq_some_iff]
    simp only [Schema.close_foldlM_after?_iff, given_iff]
  case once =>
    intro ms a isGiven key known
    exact ((given_iff ms a).mpr isGiven).length_le_one known
  case congr =>
    intro ms ms' a isGiven same
    rw [← given_iff] at isGiven ⊢
    exact isGiven.congr same
  case null_iff =>
    intro ms a key isNullable isNull
    rw [← given_iff, ← given_iff]
    exact takes.givenBy_iff isNullable isNull
  case null_only =>
    intro ms a key isGiven known isNull
    rw [← given_iff] at isGiven
    exact takes.mem_of_givenBy isGiven known isNull

end Settlement.Json
