import Settlement.Registry.Basic

/-!
# Histories of registries

A registry comes about by edits, one after the other.  An edit that is refused leaves the registry
as it was, and the history goes on.
-/

namespace Settlement

/-- One step in the history of a registry. -/
inductive Edit (φ ν : Type) where
  | declare (settler : Settler)
  | registerWith (settler : Settler) (handle : φ)
  | registerSingleton (settler : Settler) (instanceOf : Shared ν)
  | bindFactory (id : SettlerId) (handle : φ)
  | bindSingleton (id : SettlerId) (instanceOf : Shared ν)
deriving DecidableEq

namespace Registry

variable {φ ν : Type}

/-- Carries out an edit. -/
def edit : Edit φ ν → Upkeep φ ν Unit
  | .declare settler => declare settler
  | .registerWith settler handle => registerWith settler handle
  | .registerSingleton settler instanceOf => registerSingleton settler instanceOf
  | .bindFactory id handle => bindFactory id handle
  | .bindSingleton id instanceOf => bindSingleton id instanceOf

/-- The registry after some edits, refused ones included. -/
def after (r : Registry φ ν) (edits : List (Edit φ ν)) : Registry φ ν :=
  edits.foldl (fun r e => ((edit e).run r).state) r

/-- A registry that edits can lead to, from an empty one or from a manifest. -/
def Reachable (r : Registry φ ν) : Prop :=
  ∃ (m : Manifest) (edits : List (Edit φ ν)), r = (ofManifest m).after edits

end Registry

end Settlement
