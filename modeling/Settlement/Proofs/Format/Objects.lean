import Settlement.Proofs.Format.Rules
import Settlement.Proofs.Json.Objects

/-!
# Settlers, manifests, groups, blueprints and rules by their members

Each of them is decoded from an object by the values of its known keys.  A key comes at most once,
its value is read by the codec of the member, and a key that is missing has its default, if it has
one.  The keys of a rule are `type` and the member of the form that it names; the members of other
forms are unknown to it.

Nothing is asked of the values of unknown members, except by rules, which read them.  Keys are
always read, so that they have to spell texts.
-/

namespace Settlement

open Json (Codec Gives ReadsByKeys Schema Tree memberValue?)
open Json.Codec (depthLimit)

/-! ## Members -/

/-- That members give a settler. -/
structure Settler.GivenBy (s : Settler) (ms : List (String × Tree)) : Prop where
  id : Gives ms "id" (memberValue? SettlerId.codec) none s.id
  markers : Gives ms "markers" (memberValue? (.list Marker.codec)) (some []) s.markers
  supertypes : Gives ms "supertypes" (memberValue? (.list SettlerId.codec)) (some []) s.supertypes
  kind : Gives ms "kind" (memberValue? Settler.Kind.codec) (some .concrete) s.kind
  visibility :
    Gives ms "visibility" (memberValue? Settler.Visibility.codec) (some .visible) s.visibility
  singleton : Gives ms "singleton" (memberValue? .flag) (some false) s.singleton
  producer :
    Gives ms "producer" (memberValue? ProductionMode.codec.nullable) (some none) s.producer
  acceptor :
    Gives ms "acceptor" (memberValue? AcceptanceMode.codec.nullable) (some none) s.acceptor

/-- That members give a manifest. -/
structure Manifest.GivenBy (m : Manifest) (ms : List (String × Tree)) : Prop where
  settlers : Gives ms "settlers" (memberValue? (.list Settler.codec)) (some []) m.settlers

/-- That members give a group. -/
structure GroupDeclaration.GivenBy (g : GroupDeclaration) (ms : List (String × Tree)) : Prop where
  marker : Gives ms "marker" (memberValue? Marker.codec) none g.marker
  selector : Gives ms "selector" (memberValue? SelectionRule.codec) none g.selector
  producer : Gives ms "producer" (memberValue? ProductionMode.codec) none g.producer
  acceptor : Gives ms "acceptor" (memberValue? AcceptanceMode.codec) none g.acceptor

/-- That members give a blueprint. -/
structure Blueprint.GivenBy (b : Blueprint) (ms : List (String × Tree)) : Prop where
  colony : Gives ms "colony" (memberValue? ColonyId.codec.nullable) (some none) b.colony
  groups : Gives ms "groups" (memberValue? (.list GroupDeclaration.codec)) (some []) b.groups

/-! ## Codecs of members -/

theorem SettlerId.isLocal_codec : SettlerId.codec.IsLocal :=
  Codec.isLocal_text.imap _ _

theorem SettlerId.refusesNull_codec : SettlerId.codec.RefusesNull :=
  Codec.refusesNull_text.imap Codec.isLocal_text _ _

theorem Marker.isLocal_codec : Marker.codec.IsLocal :=
  Codec.isLocal_text.imap _ _

theorem Marker.refusesNull_codec : Marker.codec.RefusesNull :=
  Codec.refusesNull_text.imap Codec.isLocal_text _ _

theorem ColonyId.isLocal_codec : ColonyId.codec.IsLocal :=
  Codec.isLocal_text.imap _ _

theorem ProductionMode.isLocal_codec : ProductionMode.codec.IsLocal :=
  Codec.isLocal_choice _ _

theorem AcceptanceMode.isLocal_codec : AcceptanceMode.codec.IsLocal :=
  Codec.isLocal_choice _ _

theorem SelectionRule.refusesNull_codec : SelectionRule.codec.RefusesNull :=
  fun _ => Codec.valueOf?_null_eq_none (Json.Reader.outcome?_refuse _)

/-! ## Records -/

theorem Settler.codec_byKeys :
    Settler.codec.IsLocal ∧
      ReadsByKeys Settler.codec.decode
        (fun _ => ["id", "markers", "supertypes", "kind", "visibility", "singleton", "producer",
          "acceptor"])
        ["producer", "acceptor"] (fun ms s => s.GivenBy ms) fun _ => True := by
  apply Json.record_byKeys
  case isLocal =>
    apply Schema.IsLocal.field SettlerId.isLocal_codec (by decide)
    apply Schema.IsLocal.field Marker.isLocal_codec.list (by decide)
    apply Schema.IsLocal.field SettlerId.isLocal_codec.list (by decide)
    apply Schema.IsLocal.field (Codec.isLocal_choice _ _) (by decide)
    apply Schema.IsLocal.field (Codec.isLocal_choice _ _) (by decide)
    apply Schema.IsLocal.field Codec.isLocal_flag (by decide)
    apply Schema.IsLocal.field ProductionMode.isLocal_codec.nullable (by decide)
    exact .field AcceptanceMode.isLocal_codec.nullable (by decide) .done
  case make_view => exact fun _ => rfl
  case view_make => exact fun _ => rfl
  case takes =>
    apply Schema.TakesNull.refused SettlerId.refusesNull_codec (by decide)
    apply Schema.TakesNull.refused (Codec.refusesNull_list _) (by decide)
    apply Schema.TakesNull.refused (Codec.refusesNull_list _) (by decide)
    apply Schema.TakesNull.refused (Codec.refusesNull_choice _ _) (by decide)
    apply Schema.TakesNull.refused (Codec.refusesNull_choice _ _) (by decide)
    apply Schema.TakesNull.refused Codec.refusesNull_flag (by decide)
    apply Schema.TakesNull.absent (Codec.valueOf?_nullable_null _ _) (by decide)
    exact .absent (Codec.valueOf?_nullable_null _ _) (by decide) .done
  case given_iff =>
    intro ms s
    constructor
    · rintro ⟨id, markers, supertypes, kind, visibility, singleton, producer, acceptor, -⟩
      exact ⟨id, markers, supertypes, kind, visibility, singleton, producer, acceptor⟩
    · rintro ⟨id, markers, supertypes, kind, visibility, singleton, producer, acceptor⟩
      exact ⟨id, markers, supertypes, kind, visibility, singleton, producer, acceptor, trivial⟩

theorem Manifest.codec_byKeys :
    Manifest.codec.IsLocal ∧
      ReadsByKeys Manifest.codec.decode (fun _ => ["settlers"]) [] (fun ms m => m.GivenBy ms)
        fun _ => True := by
  apply Json.record_byKeys
  case isLocal => exact .field Settler.codec_byKeys.1.list (by decide) .done
  case make_view => exact fun _ => rfl
  case view_make => exact fun _ => rfl
  case takes => exact .refused (Codec.refusesNull_list _) (by decide) .done
  case given_iff =>
    intro ms m
    constructor
    · rintro ⟨settlers, -⟩
      exact ⟨settlers⟩
    · rintro ⟨settlers⟩
      exact ⟨settlers, trivial⟩

theorem GroupDeclaration.codec_byKeys :
    GroupDeclaration.codec.IsLocal ∧
      ReadsByKeys GroupDeclaration.codec.decode
        (fun _ => ["marker", "selector", "producer", "acceptor"]) [] (fun ms g => g.GivenBy ms)
        fun _ => True := by
  apply Json.record_byKeys
  case isLocal =>
    apply Schema.IsLocal.field Marker.isLocal_codec (by decide)
    apply Schema.IsLocal.field SelectionRule.isLocal_codec (by decide)
    apply Schema.IsLocal.field ProductionMode.isLocal_codec (by decide)
    exact .field AcceptanceMode.isLocal_codec (by decide) .done
  case make_view => exact fun _ => rfl
  case view_make => exact fun _ => rfl
  case takes =>
    apply Schema.TakesNull.refused Marker.refusesNull_codec (by decide)
    apply Schema.TakesNull.refused SelectionRule.refusesNull_codec (by decide)
    apply Schema.TakesNull.refused (Codec.refusesNull_choice _ _) (by decide)
    exact .refused (Codec.refusesNull_choice _ _) (by decide) .done
  case given_iff =>
    intro ms g
    constructor
    · rintro ⟨marker, selector, producer, acceptor, -⟩
      exact ⟨marker, selector, producer, acceptor⟩
    · rintro ⟨marker, selector, producer, acceptor⟩
      exact ⟨marker, selector, producer, acceptor, trivial⟩

theorem Blueprint.codec_byKeys :
    Blueprint.codec.IsLocal ∧
      ReadsByKeys Blueprint.codec.decode (fun _ => ["colony", "groups"]) ["colony"]
        (fun ms b => b.GivenBy ms) fun _ => True := by
  apply Json.record_byKeys
  case isLocal =>
    apply Schema.IsLocal.field ColonyId.isLocal_codec.nullable (by decide)
    exact .field GroupDeclaration.codec_byKeys.1.list (by decide) .done
  case make_view => exact fun _ => rfl
  case view_make => exact fun _ => rfl
  case takes =>
    apply Schema.TakesNull.absent (Codec.valueOf?_nullable_null _ _) (by decide)
    exact .refused (Codec.refusesNull_list _) (by decide) .done
  case given_iff =>
    intro ms b
    constructor
    · rintro ⟨colony, groups, -⟩
      exact ⟨colony, groups⟩
    · rintro ⟨colony, groups⟩
      exact ⟨colony, groups, trivial⟩

/-! ## Rules -/

namespace SelectionRule

variable {rule : SelectionRule} {depth : Nat} {ms ms' : List (String × Tree)}

/-- The argument of a rule is never `null`. -/
theorem argumentOf?_null (form : Form) (depth : Nat) : argumentOf? form depth .null = none := by
  cases form with
  | byMarker => exact congrArg (Option.map byMarker) (Marker.refusesNull_codec depth)
  | bySupertype => exact congrArg (Option.map bySupertype) (SettlerId.refusesNull_codec depth)
  | byName => exact congrArg (Option.map byName) (Codec.refusesNull_text depth)
  | registered =>
      exact congrArg (Option.map registered) (Codec.refusesNull_list SettlerId.codec depth)

theorem readsByKeys :
    ReadsByKeys SelectionRule.codec.decode (fun rule => ["type", rule.form.member]) []
      (fun ms rule => rule.GivenBy (depthLimit - 1) ms) (Tree.Readable (depthLimit - 2)) where
  decode_iff o rule := by
    rw [Json.ObjectText.text, Json.decode_eq_ok_iff isLocal_codec]
    exact valueOf?_object_iff (by decide) o.lead o.members rule
  once := by
    intro ms rule given
    rw [List.forall_mem_cons, List.forall_mem_singleton]
    exact ⟨given.form.length_le_one, given.argument.length_le_one⟩
  congr := by
    intro ms ms' rule given same
    rw [List.forall_mem_cons, List.forall_mem_singleton] at same
    exact ⟨given.form.congr same.1, given.argument.congr same.2⟩
  null_iff := nofun
  null_only := by
    intro ms rule key given known isNull
    rcases List.mem_pair.mp known with rfl | rfl
    · have read := given.form.of_mem isNull
      contradiction
    · have read := given.argument.of_mem isNull
      rw [argumentOf?_null] at read
      contradiction

end SelectionRule

/-! ## All formats -/

/-- Settlers, manifests, groups, blueprints and rules are decoded from objects by the values of
their known keys, in whatever order the members come and whatever other members there are. -/
theorem objects_read_by_keys :
    ReadsByKeys Settler.codec.decode
        (fun _ => ["id", "markers", "supertypes", "kind", "visibility", "singleton", "producer",
          "acceptor"])
        ["producer", "acceptor"] (fun ms s => s.GivenBy ms) (fun _ => True) ∧
      ReadsByKeys Manifest.ofJson (fun _ => ["settlers"]) [] (fun ms m => m.GivenBy ms)
        (fun _ => True) ∧
      ReadsByKeys GroupDeclaration.codec.decode
        (fun _ => ["marker", "selector", "producer", "acceptor"]) [] (fun ms g => g.GivenBy ms)
        (fun _ => True) ∧
      ReadsByKeys Blueprint.ofJson (fun _ => ["colony", "groups"]) ["colony"]
        (fun ms b => b.GivenBy ms) (fun _ => True) ∧
      ReadsByKeys SelectionRule.codec.decode (fun rule => ["type", rule.form.member]) []
        (fun ms rule => rule.GivenBy (depthLimit - 1) ms) (Tree.Readable (depthLimit - 2)) :=
  ⟨Settler.codec_byKeys.2, Manifest.codec_byKeys.2.mapError _, GroupDeclaration.codec_byKeys.2,
    Blueprint.codec_byKeys.2.mapError _, SelectionRule.readsByKeys⟩

/-- A key, and a string in a member of a rule, is refused if half of a surrogate pair stands alone
in it; in an unknown member of a settler it is not. -/
theorem lone_surrogates_refused :
    SelectionRule.codec.decode "\x7b\"type\":\"by_marker\",\"marker\":\"m\",\"x\":\"\\ud800\"\x7d" =
        .error .brokenSurrogatePair ∧
      SelectionRule.codec.decode "\x7b\"type\":\"by_marker\",\"marker\":\"m\"\x7d" =
        .ok (.byMarker ⟨"m"⟩) ∧
      Settler.codec.decode "\x7b\"id\":\"A\",\"\\ud800\":null\x7d" =
        .error .brokenSurrogatePair ∧
      Settler.codec.decode "\x7b\"id\":\"A\",\"x\":\"\\ud800\"\x7d" =
        Settler.codec.decode "\x7b\"id\":\"A\"\x7d" := by
  decide +kernel

end Settlement
