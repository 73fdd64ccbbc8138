import Settlement.Settler
import Settlement.Text.Quoted

/-!
# Errors

One type of error per activity: discovering settlers, producing a value, accepting it, composing a
founder, and settling a colony, whose errors say in which group and at which settler one of the
others arose.  The wording of each is in its `message`.
-/

namespace Settlement

/-- Which of a colony's callbacks an error is about. -/
inductive CallbackKind where
  | produce
  | accept
deriving DecidableEq

/-- The word for a kind of callback. -/
def CallbackKind.word : CallbackKind → String
  | .produce => "produce"
  | .accept => "accept"

/-- Why settlers could not be enumerated. -/
inductive DiscoveryError where
  /-- The scope is missing or cannot be read. -/
  | scopeUnavailable (reason : String)
  /-- A settler was named that the scope does not know. -/
  | unknownSettler (settler : SettlerId)
  /-- A name pattern is not well formed. -/
  | invalidPattern (pattern reason : String)
  /-- A manifest could not be read as one. -/
  | malformedManifest (reason : String)
  /-- A factory was offered for a settler that has one shared instance. -/
  | singletonFactory (settler : SettlerId)
  /-- Any other cause. -/
  | other (cause : String)
deriving DecidableEq

/-- Why no value could be produced for a candidate. -/
inductive ProductionError where
  /-- Nothing is bound to the settler. -/
  | noFactory (settler : SettlerId)
  /-- The settler's factory failed. -/
  | construction (settler : SettlerId) (cause : String)
  /-- A singleton did not come as its shared instance. -/
  | notShared (settler : SettlerId)
  /-- The group has no producer of the mode that the settler asks for. -/
  | noStrategy (settler : SettlerId) (mode : ProductionMode)
  /-- The produce callback failed. -/
  | callback (settler : SettlerId) (cause : String)
  /-- Any other cause. -/
  | other (cause : String)
deriving DecidableEq

/-- Why a produced value was not accepted. -/
inductive AcceptanceError where
  /-- The accept callback failed. -/
  | callback (settler : SettlerId) (cause : String)
  /-- The group has no acceptor of the mode that the settler asks for. -/
  | noStrategy (settler : SettlerId) (mode : AcceptanceMode)
  /-- Any other cause. -/
  | other (cause : String)
deriving DecidableEq

/-- Why a colony type has no founder, or not a consistent one. -/
inductive CompositionError where
  /-- No founder is known for the colony's type. -/
  | noFounder (colony : ColonyId)
  /-- Two groups have one name. -/
  | duplicateGroup (colony : ColonyId) (group : Marker)
  /-- Two callbacks of one kind are registered for one group. -/
  | duplicateCallback (colony : ColonyId) (group : Marker) (kind : CallbackKind)
  /-- A group needs a callback that is not registered. -/
  | missingCallback (colony : ColonyId) (group : Marker) (kind : CallbackKind)
  /-- A callback is registered for a group that does not use it. -/
  | orphanCallback (colony : ColonyId) (group : Marker) (kind : CallbackKind)
  /-- The selection rule of a group cannot be used. -/
  | invalidSelector (group : Marker) (cause : DiscoveryError)
  /-- A colony type has a founder already. -/
  | duplicateColony (colony : ColonyId)
  /-- A founder met a colony of another type than its own. -/
  | colonyMismatch (expected : ColonyId)
  /-- A declared composition could not be read or used. -/
  | malformed (reason : String)
deriving DecidableEq

/-- Why settling a colony stopped. -/
inductive SettleError where
  /-- The colony has no founder, or not one for its type. -/
  | composition (cause : CompositionError)
  /-- The candidates of a group could not be selected. -/
  | discovery (group : Marker) (cause : DiscoveryError)
  /-- A candidate could not be produced. -/
  | production (group : Marker) (settler : SettlerId) (cause : ProductionError)
  /-- A produced value was not accepted. -/
  | acceptance (group : Marker) (settler : SettlerId) (cause : AcceptanceError)
deriving DecidableEq

/-- What a failed selection says. -/
def DiscoveryError.message : DiscoveryError → String
  | .scopeUnavailable reason => s!"discovery scope unavailable: {reason}"
  | .unknownSettler settler => s!"unknown settler: {settler.name}"
  | .invalidPattern pattern reason =>
      s!"invalid settler pattern {Text.quoted pattern}: {reason}"
  | .malformedManifest reason => s!"malformed settler manifest: {reason}"
  | .singletonFactory settler =>
      s!"settler {settler.name} is a singleton; bind a shared instance instead of a factory"
  | .other cause => cause

/-- What a failed production says; it names the settler, unless the cause says all. -/
def ProductionError.message : ProductionError → String
  | .noFactory settler => s!"settler {settler.name} has no zero-argument factory"
  | .construction settler cause => s!"constructing settler {settler.name} failed: {cause}"
  | .notShared settler =>
      s!"singleton settler {settler.name} did not produce its shared instance"
  | .noStrategy settler mode =>
      s!"no {mode.word} producer available for settler {settler.name}"
  | .callback settler cause => s!"produce callback failed for settler {settler.name}: {cause}"
  | .other cause => cause

/-- What a failed acceptance says; it names the settler, unless the cause says all. -/
def AcceptanceError.message : AcceptanceError → String
  | .callback settler cause => s!"accept callback failed for settler {settler.name}: {cause}"
  | .noStrategy settler mode =>
      s!"no {mode.word} acceptor available for settler {settler.name}"
  | .other cause => cause

/-- What a refused composition says, with the names of what it is about. -/
def CompositionError.message : CompositionError → String
  | .noFounder colony =>
      s!"colony {colony.name} doesn't have a founder; was its composition registered?"
  | .duplicateGroup colony group =>
      s!"colony {colony.name} declares group {group.name} more than once"
  | .duplicateCallback colony group kind =>
      s!"colony {colony.name} has more than one {kind.word} callback for group {group.name}"
  | .missingCallback colony group kind =>
      s!"colony {colony.name} expected to have a {kind.word} callback for group {group.name}"
  | .orphanCallback colony group kind =>
      s!"colony {colony.name} has a {kind.word} callback for group {group.name}, "
        ++ "which doesn't use one"
  | .invalidSelector group cause =>
      s!"invalid selector for group {group.name}: {cause.message}"
  | .duplicateColony colony => s!"colony {colony.name} is composed more than once"
  | .colonyMismatch expected =>
      s!"founder for {expected.name} received a colony of another type"
  | .malformed reason => s!"malformed composition: {reason}"

namespace SettleError

/-- What a failed settling says: where it failed, then the message of the cause. -/
def message : SettleError → String
  | .composition cause => cause.message
  | .discovery group cause => s!"discovery failed for group {group.name}: {cause.message}"
  | .production group settler cause =>
      s!"production failed for settler {settler.name} in group {group.name}: {cause.message}"
  | .acceptance group settler cause =>
      s!"acceptance failed for settler {settler.name} in group {group.name}: {cause.message}"

/-- The group that was being settled, if the failure arose inside one. -/
def group? : SettleError → Option Marker
  | .composition _ => none
  | .discovery group _ => some group
  | .production group _ _ => some group
  | .acceptance group _ _ => some group

/-- The settler that was being settled, if the failure arose at one. -/
def settler? : SettleError → Option SettlerId
  | .composition _ => none
  | .discovery _ _ => none
  | .production _ settler _ => some settler
  | .acceptance _ settler _ => some settler

end SettleError

end Settlement
