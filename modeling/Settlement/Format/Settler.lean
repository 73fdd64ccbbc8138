import Settlement.Error
import Settlement.Json.Record

/-!
# Settlers as data

Names, modes and settlers as JSON, and manifests: lists of settlers in discovery order.
-/

namespace Settlement

open Json (Codec Schema)

/-- Settler names as strings. -/
def SettlerId.codec : Codec SettlerId :=
  Codec.text.imap SettlerId.mk SettlerId.name

/-- Colony names as strings. -/
def ColonyId.codec : Codec ColonyId :=
  Codec.text.imap ColonyId.mk ColonyId.name

/-- Markers as strings. -/
def Marker.codec : Codec Marker :=
  Codec.text.imap Marker.mk Marker.name

/-- Production modes as words. -/
def ProductionMode.codec : Codec ProductionMode :=
  .choice ProductionMode.word [.construct, .callback, .identity]

/-- Acceptance modes as words. -/
def AcceptanceMode.codec : Codec AcceptanceMode :=
  .choice AcceptanceMode.word [.callback, .forget]

/-- Kinds of settlers as words. -/
def Settler.Kind.codec : Codec Settler.Kind :=
  .choice Settler.Kind.word [.concrete, .abstract, .interface]

/-- Visibilities as words. -/
def Settler.Visibility.codec : Codec Settler.Visibility :=
  .choice Settler.Visibility.word [.visible, .hidden]

/-- A settler as a record: all but the identity have defaults, and modes are written only where a
settler insists on them. -/
def Settler.codec : Codec Settler :=
  let schema :=
    Schema.required "id" SettlerId.codec <|
    Schema.defaulted "markers" (.list Marker.codec) [] <|
    Schema.defaulted "supertypes" (.list SettlerId.codec) [] <|
    Schema.defaulted "kind" Kind.codec .concrete <|
    Schema.defaulted "visibility" Visibility.codec .visible <|
    Schema.defaulted "singleton" .flag false <|
    Schema.optional "producer" ProductionMode.codec <|
    Schema.optional "acceptor" AcceptanceMode.codec <|
    Schema.done
  (Codec.record "SettlerInfo" schema).imap
    (fun (id, markers, supertypes, kind, visibility, singleton, producer, acceptor, ()) =>
      { id, markers, supertypes, kind, visibility, singleton, producer, acceptor })
    (fun s =>
      (s.id, s.markers, s.supertypes, s.kind, s.visibility, s.singleton, s.producer, s.acceptor,
        ()))

/-- A scope as data: its settlers in discovery order. -/
structure Manifest where
  settlers : List Settler := []
deriving DecidableEq

namespace Manifest

/-- A manifest as a record. -/
def codec : Codec Manifest :=
  (Codec.record "SettlerManifest"
      (Schema.defaulted "settlers" (.list Settler.codec) [] Schema.done)).imap
    (fun (settlers, ()) => { settlers })
    (fun m => (m.settlers, ()))

/-- Reads a manifest from JSON text. -/
def ofJson (json : String) : Except DiscoveryError Manifest :=
  (codec.decode json).mapError fun fault => .malformedManifest fault.message

end Manifest

/-- Why a file cannot be read at all. -/
inductive FileFault where
  | missing
  | directory
deriving DecidableEq

/-- The text in which the operating system tells of a fault. -/
def FileFault.message : FileFault → String
  | .missing => "No such file or directory (os error 2)"
  | .directory => "Is a directory (os error 21)"

/-- Reads a manifest from the content of the file at a path.  A file that cannot be read, or that is
not text, leaves the scope unavailable. -/
def Manifest.ofFile (path : String) (content : Except FileFault ByteArray) :
    Except DiscoveryError Manifest :=
  match content with
  | .error fault => .error (.scopeUnavailable s!"{path}: {fault.message}")
  | .ok bytes =>
      match String.fromUTF8? bytes with
      | none => .error (.scopeUnavailable s!"{path}: stream did not contain valid UTF-8")
      | some text => ofJson text

end Settlement
