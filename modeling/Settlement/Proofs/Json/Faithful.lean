import Mathlib.Data.List.Nodup
import Settlement.Json.Record
import Settlement.Proofs.Json.Yields

/-!
# Faithful codecs

A codec is faithful if it reads back what it has written, whatever comes after it.  Containers may
be nested only so deep: a faithful codec of some height wants more levels than its height.

Codecs that are put together from faithful ones are faithful.  For a record it takes that no two
members have one key, and that a member is left out only where its default stands for it.
-/

namespace Settlement.Json

open Reader (Yields Opens)

variable {α β r slots : Type}

/-- That a codec reads back what it has written, where more than `height` containers may be open. -/
structure Codec.Faithful (c : Codec α) (height : Nat) : Prop where
  opens : ∀ a, Opens (c.write a)
  reads : ∀ depth, height < depth → ∀ a rest, Yields (c.read depth) (c.write a ++ rest) a rest

namespace Codec.Faithful

theorem mono {c : Codec α} {height height' : Nat} (faithful : c.Faithful height)
    (le : height ≤ height') : c.Faithful height' where
  opens := faithful.opens
  reads depth isDeep := faithful.reads depth (Nat.lt_of_le_of_lt le isDeep)

/-- A whole text is decoded to the value that was encoded. -/
theorem decode_encode {c : Codec α} {height : Nat} (faithful : c.Faithful height)
    (isShallow : height < depthLimit) (a : α) : c.decode (c.encode a) = .ok a := by
  have reads := faithful.reads depthLimit isShallow a []
  rw [List.append_nil, Yields] at reads
  rw [decode, encode, String.toList_ofList, reads]
  rfl

/-! ## Simple values -/

theorem opens_writeText (s : String) : Opens (writeText s) :=
  ⟨'"', _, rfl, rfl, by decide⟩

theorem text : Codec.text.Faithful 0 where
  opens := opens_writeText
  reads _ _ s rest := Reader.yields_textAs "a string" s rest

theorem flag : Codec.flag.Faithful 0 where
  opens b := by
    cases b with
    | true => exact ⟨'t', _, rfl, rfl, by decide⟩
    | false => exact ⟨'f', _, rfl, rfl, by decide⟩
  reads depth _ b rest := by
    cases b with
    | true =>
        apply (Reader.yields_peek? rfl _).bind
        apply (Reader.yields_drop 't' _).bind
        apply (Reader.yields_word ['r', 'u', 'e'] rest).bind
        exact .pure true rest
    | false =>
        apply (Reader.yields_peek? rfl _).bind
        apply (Reader.yields_drop 'f' _).bind
        apply (Reader.yields_word ['a', 'l', 's', 'e'] rest).bind
        exact .pure false rest

theorem imap {c : Codec α} {height : Nat} (faithful : c.Faithful height) {make : α → β}
    {view : β → α} (inverse : ∀ b, make (view b) = b) : (c.imap make view).Faithful height where
  opens b := faithful.opens (view b)
  reads depth isDeep b rest := by
    have yields := (faithful.reads depth isDeep (view b) rest).map make
    rw [inverse] at yields
    exact yields

/-- A word picks the value that it was chosen for, if all values have words of their own. -/
theorem pick_word {word : α → String} {values : List α} (distinct : (values.map word).Nodup)
    {a : α} (listed : a ∈ values) : pick word values (word a) = pure a := by
  cases found : values.find? fun b => word b == word a with
  | none => simpa using List.find?_eq_none.mp found a listed
  | some b =>
      have known := List.mem_of_find?_eq_some found
      have same := List.find?_some found
      rw [pick, found, List.inj_on_of_nodup_map distinct known listed (eq_of_beq same)]

theorem choice {word : α → String} {values : List α} (distinct : (values.map word).Nodup)
    (all : ∀ a, a ∈ values) : (Codec.choice word values).Faithful 0 where
  opens a := opens_writeText (word a)
  reads depth _ a rest := by
    change Yields _ (writeText (word a) ++ rest) a rest
    rw [writeText_append]
    apply (Reader.yields_peek? rfl _).bind
    apply (Reader.yields_drop '"' _).bind
    apply (Reader.yields_text (word a) rest).bind
    rw [pick_word distinct (all a)]
    exact .pure a rest

/-! ## Lists, and values that may be absent -/

theorem list {c : Codec α} {height : Nat} (faithful : c.Faithful height) :
    (Codec.list c).Faithful (height + 1) where
  opens l := ⟨'[', _, rfl, rfl, by decide⟩
  reads depth isDeep l rest := by
    have reads : List.Forall₂ (Reader.ReadsItem (c.read (depth - 1))) (l.map c.write) l := by
      rw [List.forall₂_map_left_iff, List.forall₂_same]
      intro a _
      exact ⟨faithful.opens a, faithful.reads (depth - 1) (Nat.lt_sub_of_add_lt isDeep) a⟩
    change Yields _ ('[' :: separated (l.map c.write) ++ [']'] ++ rest) l rest
    rw [List.append_assoc]
    apply (Reader.yields_peek? rfl _).bind
    apply (Reader.yields_descend (Nat.lt_of_le_of_lt (Nat.le_add_left 1 height) isDeep) _).bind
    apply (Reader.yields_drop '[' _).bind
    apply (Reader.yields_items reads rest).bind
    apply (Reader.yields_drop ']' rest).bind
    exact .pure l rest

theorem nullable {c : Codec α} {height : Nat} (faithful : c.Faithful height)
    (neverNull : ∀ a, (c.write a).head? ≠ some 'n') : (Codec.nullable c).Faithful height where
  opens option := by
    cases option with
    | none => exact ⟨'n', _, rfl, rfl, by decide⟩
    | some a => exact faithful.opens a
  reads depth isDeep option rest := by
    cases option with
    | none =>
        apply (Reader.yields_peek? rfl _).bind
        apply (Reader.yields_drop 'n' _).bind
        apply (Reader.yields_word ['u', 'l', 'l'] rest).bind
        exact .pure none rest
    | some a =>
        have yields := (faithful.reads depth isDeep a rest).map some
        obtain ⟨c', more, written, solid, -⟩ := faithful.opens a
        have other := neverNull a
        change Yields _ (c.write a ++ rest) (some a) rest
        rw [written] at yields other ⊢
        apply (Reader.yields_peek? solid _).bind
        split
        case h_1 isN => exact absurd isN other
        case h_2 => exact yields

end Codec.Faithful

/-! ## Records -/

namespace Schema

/-- The keys of the members. -/
def keys : {r slots : Type} → Schema r slots → List String
  | _, _, .done => []
  | _, _, .field key _ _ _ more => key :: more.keys

/-- That all members are read back as they are written, and that those left out are given back by
their defaults. -/
inductive Faithful (height : Nat) : {r slots : Type} → Schema r slots → Prop where
  | done : Faithful height .done
  | field {α r slots : Type} {key : String} {codec : Codec α} {absent : Option α}
      {isLeftOut : α → Bool} {more : Schema r slots} :
      codec.Faithful height → (∀ a, isLeftOut a = true → absent = some a) → key ∉ more.keys →
      more.Faithful height → Faithful height (.field key codec absent isLeftOut more)

namespace Faithful

variable {height : Nat} {key : String} {codec : Codec α} {more : Schema r slots}

theorem required (faithful : codec.Faithful height) (fresh : key ∉ more.keys)
    (others : more.Faithful height) : (Schema.required key codec more).Faithful height :=
  .field faithful (fun _ isLeftOut => Bool.noConfusion isLeftOut) fresh others

theorem defaulted (faithful : codec.Faithful height) (absent : α) (fresh : key ∉ more.keys)
    (others : more.Faithful height) : (Schema.defaulted key codec absent more).Faithful height :=
  .field faithful (fun _ isLeftOut => Bool.noConfusion isLeftOut) fresh others

theorem optional (faithful : codec.Faithful height)
    (neverNull : ∀ a, (codec.write a).head? ≠ some 'n') (fresh : key ∉ more.keys)
    (others : more.Faithful height) : (Schema.optional key codec more).Faithful height := by
  apply Faithful.field (faithful.nullable neverNull) _ fresh others
  intro option isNone
  rw [Option.isNone_iff_eq_none.mp isNone]

end Faithful

/-- What is known of a record when all its written members have been read. -/
def given : {r slots : Type} → Schema r slots → r → slots
  | _, _, .done, _ => ()
  | _, _, .field _ _ _ isLeftOut more, (a, rest) =>
      (if isLeftOut a then none else some a, more.given rest)

/-- What is known then gives the record back. -/
theorem close_given {s : Schema r slots} {height : Nat} (faithful : s.Faithful height) (a : r) :
    s.close (s.given a) = .ok a := by
  induction faithful with
  | done => rfl
  | @field _ _ _ key codec absent isLeftOut more _ standsIn _ _ ih =>
      obtain ⟨a, rest⟩ := a
      rw [given, close]
      cases leftOut : isLeftOut a with
      | true => simp [standsIn a leftOut, ih rest]
      | false => simp [ih rest]

/-- How written members fill what is known of a record. -/
inductive Fills (s : Schema r slots) (depth : Nat) : slots → List (List Char) → slots → Prop where
  | nil (known : slots) : Fills s depth known [] known
  | cons {known known' known'' : slots} {key : String} {value : List Char}
      {texts : List (List Char)} : key ∈ s.keys →
      (∀ rest, Yields (s.readMember depth key known) (':' :: value ++ rest) known' rest) →
      Fills s depth known' texts known'' →
      Fills s depth known ((writeText key ++ ':' :: value) :: texts) known''

theorem readMember_own {key : String} {codec : Codec α} {absent : Option α}
    {isLeftOut : α → Bool} {more : Schema r slots} (depth : Nat) (known : slots) :
    (Schema.field key codec absent isLeftOut more).readMember depth key (none, known) = (do
      Reader.colon
      return (some (← codec.read depth), known)) :=
  if_pos BEq.rfl

theorem readMember_other {own key : String} (other : key ≠ own) {codec : Codec α}
    {absent : Option α} {isLeftOut : α → Bool} {more : Schema r slots} (depth : Nat)
    (slot : Option α) (known : slots) :
    (Schema.field own codec absent isLeftOut more).readMember depth key (slot, known) =
      Prod.mk slot <$> more.readMember depth key known := by
  have later : (Schema.field own codec absent isLeftOut more).readMember depth key (slot, known) =
      (do return (slot, ← more.readMember depth key known)) := if_neg (by simpa using other)
  rw [later, bind_pure_comp]

/-- Members of the rest of a record leave its first member alone. -/
theorem Fills.later {key : String} {codec : Codec α} {absent : Option α} {isLeftOut : α → Bool}
    {more : Schema r slots} {depth : Nat} {known known' : slots} {texts : List (List Char)}
    (fills : more.Fills depth known texts known') (fresh : key ∉ more.keys) (slot : Option α) :
    (Schema.field key codec absent isLeftOut more).Fills depth (slot, known) texts
      (slot, known') := by
  induction fills with
  | nil known => exact .nil _
  | cons isKey reads _ ih =>
      apply Fills.cons (List.mem_cons_of_mem key isKey) _ ih
      intro rest
      rw [readMember_other (ne_of_mem_of_not_mem isKey fresh)]
      exact (reads rest).map (Prod.mk slot)

/-- The members of a record, as they are written, fill what is known of it. -/
theorem fills_writeMembers {s : Schema r slots} {height : Nat} (faithful : s.Faithful height)
    {depth : Nat} (isDeep : height < depth) (a : r) :
    s.Fills depth s.vacant (s.writeMembers a) (s.given a) := by
  induction faithful with
  | done => exact .nil _
  | @field _ _ _ key codec absent isLeftOut more faithful _ fresh _ ih =>
      obtain ⟨a, others⟩ := a
      rw [vacant, writeMembers, given]
      cases isLeftOut a with
      | true => exact (ih others).later fresh none
      | false =>
          apply Fills.cons List.mem_cons_self _ ((ih others).later fresh (some a))
          intro rest
          rw [readMember_own, List.cons_append]
          apply (Reader.yields_colon _).bind
          apply (faithful.reads depth isDeep a rest).bind
          exact .pure _ rest

/-- The reader of a record passes from key to key. -/
theorem Fills.members {s : Schema r slots} {depth : Nat} {known known' : slots}
    {texts : List (List Char)} (fills : s.Fills depth known texts known') :
    Reader.Fills (fun known => do Reader.drop; s.readMember depth (← Reader.text) known) known texts
      known' := by
  induction fills with
  | nil known => exact .nil known
  | @cons known known' known'' key value texts _ reads _ ih =>
      rw [writeText_append]
      apply Reader.Fills.cons _ ih
      intro rest
      rw [List.cons_append, List.append_assoc]
      apply (Reader.yields_drop '"' _).bind
      apply (Reader.yields_text key _).bind
      exact reads rest

end Schema

/-- The codec of a record is faithful if its schema is. -/
theorem Codec.Faithful.record {s : Schema r slots} {height : Nat} (faithful : s.Faithful height)
    (name : String) : (Codec.record name s).Faithful (height + 1) where
  opens a := ⟨'\x7b', _, rfl, rfl, by decide⟩
  reads depth isDeep a rest := by
    have fills := Schema.fills_writeMembers faithful (Nat.lt_sub_of_add_lt isDeep) a
    change Yields _ ('\x7b' :: separated (s.writeMembers a) ++ ['\x7d'] ++ rest) a rest
    rw [List.append_assoc]
    apply (Reader.yields_peek? rfl _).bind
    apply (Reader.yields_descend (Nat.lt_of_le_of_lt (Nat.le_add_left 1 height) isDeep) _).bind
    apply (Reader.yields_drop '\x7b' _).bind
    apply (Reader.yields_members fills.members rest).bind
    apply (Yields.ofExcept (Schema.close_given faithful a) _).bind
    apply (Reader.yields_drop '\x7d' rest).bind
    exact .pure a rest

end Settlement.Json
