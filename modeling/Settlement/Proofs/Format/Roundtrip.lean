import Settlement.Format.Declaration
import Settlement.Proofs.Json.Faithful

/-!
# Data that comes back

Settlers, manifests, selection rules, groups and blueprints are read back from the JSON text that
they are written as, whatever the names in them hold.  The codecs of all but selection rules are put
together from faithful ones.  A rule is read in two turns, its members first as values of any form,
and then its argument from the value that its form asks for.
-/

namespace Settlement

open Json (Codec Reader Schema Value writeText)
open Json.Reader (Yields)

/-! ## Names, modes, and settlers -/

theorem SettlerId.faithful_codec : SettlerId.codec.Faithful 0 :=
  Codec.Faithful.text.imap fun _ => rfl

theorem ColonyId.faithful_codec : ColonyId.codec.Faithful 0 :=
  Codec.Faithful.text.imap fun _ => rfl

theorem Marker.faithful_codec : Marker.codec.Faithful 0 :=
  Codec.Faithful.text.imap fun _ => rfl

theorem ProductionMode.faithful_codec : ProductionMode.codec.Faithful 0 :=
  .choice (by decide) fun mode => by cases mode <;> decide

theorem AcceptanceMode.faithful_codec : AcceptanceMode.codec.Faithful 0 :=
  .choice (by decide) fun mode => by cases mode <;> decide

theorem Settler.Kind.faithful_codec : Settler.Kind.codec.Faithful 0 :=
  .choice (by decide) fun kind => by cases kind <;> decide

theorem Settler.Visibility.faithful_codec : Settler.Visibility.codec.Faithful 0 :=
  .choice (by decide) fun visibility => by cases visibility <;> decide

/-- What is written as a string is not taken for an absent value. -/
theorem head?_writeText_ne (s : String) : (writeText s).head? ≠ some 'n' := by
  simp [writeText]

theorem Settler.faithful_codec : Settler.codec.Faithful 2 := by
  have names := SettlerId.faithful_codec.list
  have markers := Marker.faithful_codec.list
  have word {α : Type} {c : Codec α} (faithful : c.Faithful 0) : c.Faithful 1 :=
    faithful.mono (Nat.zero_le 1)
  apply Codec.Faithful.imap _ fun _ => rfl
  apply Codec.Faithful.record
  apply Schema.Faithful.required (word SettlerId.faithful_codec) (by decide)
  apply Schema.Faithful.defaulted markers _ (by decide)
  apply Schema.Faithful.defaulted names _ (by decide)
  apply Schema.Faithful.defaulted (word Kind.faithful_codec) _ (by decide)
  apply Schema.Faithful.defaulted (word Visibility.faithful_codec) _ (by decide)
  apply Schema.Faithful.defaulted (word Codec.Faithful.flag) _ (by decide)
  apply Schema.Faithful.optional (word ProductionMode.faithful_codec) _ (by decide)
  · apply Schema.Faithful.optional (word AcceptanceMode.faithful_codec) _ (by decide) .done
    exact fun mode => head?_writeText_ne mode.word
  · exact fun mode => head?_writeText_ne mode.word

theorem Manifest.faithful_codec : Manifest.codec.Faithful 4 := by
  apply Codec.Faithful.imap _ fun _ => rfl
  apply Codec.Faithful.record
  exact .defaulted Settler.faithful_codec.list _ (by decide) .done

/-! ## Selection rules -/

namespace SelectionRule

/-- The argument of a rule as a value. -/
def argument : SelectionRule → Value
  | .byMarker marker => .text marker.name
  | .bySupertype supertype => .text supertype.name
  | .byName pattern => .text pattern
  | .registered settlers => .list (settlers.map fun id => .text id.name)

theorem yields_value_text {depth : Nat} (isDeep : 0 < depth) (s : String) (rest : List Char) :
    Yields (Reader.value depth) (writeText s ++ rest) (.text s) rest := by
  obtain ⟨depth, rfl⟩ := Nat.exists_eq_add_of_lt isDeep
  rw [Json.writeText_append]
  apply (Json.Reader.yields_peek? rfl _).bind
  apply (Json.Reader.yields_drop '"' _).bind
  apply (Json.Reader.yields_text s rest).bind
  exact .pure _ rest

theorem yields_value_list {depth : Nat} (isDeep : 1 < depth) (settlers : List SettlerId)
    (rest : List Char) :
    Yields (Reader.value depth) ((Codec.list SettlerId.codec).write settlers ++ rest)
      (.list (settlers.map fun id => .text id.name)) rest := by
  obtain ⟨depth, rfl⟩ := Nat.exists_eq_add_of_lt isDeep
  rw [Nat.add_comm 1 depth]
  have reads : List.Forall₂ (Json.Reader.ReadsItem (Reader.value (depth + 1)))
      (settlers.map SettlerId.codec.write) (settlers.map fun id => .text id.name) := by
    rw [List.forall₂_map_left_iff, List.forall₂_map_right_iff, List.forall₂_same]
    intro id _
    exact ⟨SettlerId.faithful_codec.opens id, yields_value_text (Nat.succ_pos depth) id.name⟩
  change Yields _ ('[' :: Json.separated (settlers.map SettlerId.codec.write) ++ [']'] ++ rest)
    _ rest
  rw [List.append_assoc]
  apply (Json.Reader.yields_peek? rfl _).bind
  apply (Json.Reader.yields_descend (Nat.lt_add_left depth Nat.one_lt_two) _).bind
  apply (Json.Reader.yields_drop '[' _).bind
  apply (Json.Reader.yields_items reads rest).bind
  apply (Json.Reader.yields_drop ']' rest).bind
  exact .pure _ rest

/-- The argument of a rule is read as a value. -/
theorem yields_argument (rule : SelectionRule) {depth : Nat} (isDeep : 1 < depth)
    (rest : List Char) :
    Yields (Reader.value depth) (rule.writeArgument ++ rest) rule.argument rest := by
  have isOpen : 0 < depth := Nat.zero_lt_of_lt isDeep
  cases rule with
  | byMarker marker => exact yields_value_text isOpen marker.name rest
  | bySupertype supertype => exact yields_value_text isOpen supertype.name rest
  | byName pattern => exact yields_value_text isOpen pattern rest
  | registered settlers => exact yields_value_list isDeep settlers rest

theorem mapM_textOf (settlers : List SettlerId) :
    (settlers.map fun id => Value.text id.name).mapM (fun item => SettlerId.mk <$> textOf item) =
      .ok settlers := by
  induction settlers with
  | nil => rfl
  | cons id rest ih =>
      rw [List.map_cons, List.mapM_cons, ih]
      rfl

/-- A rule is made of its form and its argument. -/
theorem ofArgument_argument (rule : SelectionRule) :
    ofArgument rule.form rule.argument = .ok rule := by
  cases rule with
  | byMarker marker => rfl
  | bySupertype supertype => rfl
  | byName pattern => rfl
  | registered settlers =>
      have texts := mapM_textOf settlers
      simp [form, argument, ofArgument, listOf, texts]

theorem yields_form (form : Form) (rest : List Char) :
    Yields Form.read (writeText form.word ++ rest) form rest := by
  have listed : form ∈ Form.all := by cases form <;> decide
  have picks : Codec.pick Form.word Form.all form.word = pure form :=
    Codec.Faithful.pick_word (by decide) listed
  apply (Json.Reader.yields_textAs "variant identifier" form.word rest).bind
  rw [picks]
  exact .pure form rest

/-- The first member of a rule names its form. -/
theorem yields_readMember_form (depth : Nat) (form : Form) (rest : List Char) :
    Yields (readMember depth {}) (writeText "type" ++ ':' :: writeText form.word ++ rest)
      { form := some form } rest := by
  rw [List.append_assoc, Json.writeText_append]
  apply (Json.Reader.yields_drop '"' _).bind
  apply (Json.Reader.yields_text "type" _).bind
  apply (Json.Reader.yields_colon _).bind
  apply (yields_form form rest).bind
  exact .pure _ rest

theorem member_ne (form : Form) : ¬(form.member == "type") = true := by
  cases form <;> decide

/-- The second member of a rule is its argument. -/
theorem yields_readMember_argument (rule : SelectionRule) {depth : Nat} (isDeep : 1 < depth)
    (rest : List Char) :
    Yields (readMember depth { form := some rule.form })
      (writeText rule.form.member ++ ':' :: rule.writeArgument ++ rest)
      { form := some rule.form, members := [(rule.form.member, rule.argument)] } rest := by
  rw [List.append_assoc, Json.writeText_append]
  apply (Json.Reader.yields_drop '"' _).bind
  apply (Json.Reader.yields_text rule.form.member _).bind
  rw [if_neg (member_ne rule.form)]
  apply (Json.Reader.yields_colon _).bind
  apply (rule.yields_argument isDeep rest).bind
  exact .pure _ rest

/-- The members of a rule, as they are written, fill what is known of it. -/
theorem fills_members (rule : SelectionRule) {depth : Nat} (isDeep : 1 < depth) :
    Json.Reader.Fills (readMember depth) {}
      [writeText "type" ++ ':' :: writeText rule.form.word,
        writeText rule.form.member ++ ':' :: rule.writeArgument]
      { form := some rule.form, members := [(rule.form.member, rule.argument)] } := by
  have first := yields_readMember_form depth rule.form
  have second := rule.yields_readMember_argument isDeep
  rw [Json.writeText_append] at first second ⊢
  rw [Json.writeText_append]
  exact .cons first (.cons second (.nil _))

theorem faithful_codec : SelectionRule.codec.Faithful 2 where
  opens rule := ⟨'\x7b', _, rfl, rfl, by decide⟩
  reads depth isDeep rule rest := by
    have fills := rule.fills_members (Nat.lt_sub_of_add_lt (a := 1) (b := 1) isDeep)
    have argues : ofMembers rule.form none [(rule.form.member, rule.argument)] = .ok rule := by
      rw [ofMembers, if_pos BEq.rfl, ofArgument_argument]
      rfl
    change Yields _ ('\x7b' :: Json.separated [_, _] ++ ['\x7d'] ++ rest) rule rest
    rw [List.append_assoc]
    apply (Json.Reader.yields_peek? rfl _).bind
    apply (Json.Reader.yields_descend (Nat.lt_trans Nat.one_lt_two isDeep) _).bind
    apply (Json.Reader.yields_drop '\x7b' _).bind
    apply (Json.Reader.yields_members fills rest).bind
    apply (Json.Reader.yields_drop '\x7d' rest).bind
    exact .ofExcept argues rest

end SelectionRule

/-! ## Groups and blueprints -/

theorem GroupDeclaration.faithful_codec : GroupDeclaration.codec.Faithful 3 := by
  have word {α : Type} {c : Codec α} (faithful : c.Faithful 0) : c.Faithful 2 :=
    faithful.mono (Nat.zero_le 2)
  apply Codec.Faithful.imap _ fun _ => rfl
  apply Codec.Faithful.record
  apply Schema.Faithful.required (word Marker.faithful_codec) (by decide)
  apply Schema.Faithful.required SelectionRule.faithful_codec (by decide)
  apply Schema.Faithful.required (word ProductionMode.faithful_codec) (by decide)
  exact .required (word AcceptanceMode.faithful_codec) (by decide) .done

theorem Blueprint.faithful_codec : Blueprint.codec.Faithful 5 := by
  have colony : ColonyId.codec.nullable.Faithful 4 :=
    (ColonyId.faithful_codec.mono (Nat.zero_le 4)).nullable fun id => head?_writeText_ne id.name
  apply Codec.Faithful.imap _ fun _ => rfl
  apply Codec.Faithful.record
  apply Schema.Faithful.defaulted colony _ (by decide)
  exact .defaulted GroupDeclaration.faithful_codec.list _ (by decide) .done

/-- All data comes back from the text that it is written as. -/
theorem data_comes_back :
    (∀ s : Settler, Settler.codec.decode (Settler.codec.encode s) = .ok s) ∧
    (∀ m : Manifest, Manifest.ofJson (Manifest.codec.encode m) = .ok m) ∧
    (∀ rule : SelectionRule,
      SelectionRule.codec.decode (SelectionRule.codec.encode rule) = .ok rule) ∧
    (∀ g : GroupDeclaration,
      GroupDeclaration.codec.decode (GroupDeclaration.codec.encode g) = .ok g) ∧
    ∀ b : Blueprint, Blueprint.ofJson (Blueprint.codec.encode b) = .ok b := by
  refine ⟨Settler.faithful_codec.decode_encode (by decide), ?_,
    SelectionRule.faithful_codec.decode_encode (by decide),
    GroupDeclaration.faithful_codec.decode_encode (by decide), ?_⟩
  · intro m
    rw [Manifest.ofJson, Manifest.faithful_codec.decode_encode (by decide)]
    rfl
  · intro b
    rw [Blueprint.ofJson, Blueprint.faithful_codec.decode_encode (by decide)]
    rfl

end Settlement
