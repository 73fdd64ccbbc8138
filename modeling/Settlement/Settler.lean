import Settlement.Name
import Settlement.Mode

/-!
# Settlers and candidates

A `Settler` is all that is known about one settler type.  Selecting a settler for a group leaves a
`Candidate`: the identity, whether the type has one shared instance, and the modes it insists on.
-/

namespace Settlement

/-- The shape of a settler type. -/
inductive Settler.Kind where
  /-- A type with instances. -/
  | concrete
  /-- A partial type: it has subtypes, and no instances of its own. -/
  | abstract
  /-- A contract that other types fulfil. -/
  | interface
deriving DecidableEq

/-- Whether a settler type may be selected from outside. -/
inductive Settler.Visibility where
  | visible
  | hidden
deriving DecidableEq

/-- What is known about a settler type. -/
structure Settler where
  id : SettlerId
  /-- The capabilities the type carries. -/
  markers : List Marker := []
  /-- The types it directly extends or implements. -/
  supertypes : List SettlerId := []
  kind : Settler.Kind := .concrete
  visibility : Settler.Visibility := .visible
  /-- The type has exactly one, shared instance. -/
  singleton : Bool := false
  /-- The production mode of this type, in place of its group's. -/
  producer : Option ProductionMode := none
  /-- The acceptance mode of this type, in place of its group's. -/
  acceptor : Option AcceptanceMode := none
deriving DecidableEq

/-- A settler type chosen for one run of a group. -/
structure Candidate where
  id : SettlerId
  /-- The settler has one shared instance. -/
  singleton : Bool := false
  /-- The production mode that replaces the group's. -/
  producer : Option ProductionMode := none
  /-- The acceptance mode that replaces the group's. -/
  acceptor : Option AcceptanceMode := none
deriving DecidableEq

namespace Settler

/-- Only concrete types have instances. -/
def Kind.isInstantiable : Kind → Bool
  | .concrete => true
  | .abstract => false
  | .interface => false

/-- The word for a kind in data. -/
def Kind.word : Kind → String
  | .concrete => "concrete"
  | .abstract => "abstract"
  | .interface => "interface"

/-- The constructor-like name of a kind in trace records. -/
def Kind.title : Kind → String
  | .concrete => "Concrete"
  | .abstract => "Abstract"
  | .interface => "Interface"

/-- The word for a visibility in data. -/
def Visibility.word : Visibility → String
  | .visible => "public"
  | .hidden => "private"

/-- Whether the type can be selected at all. -/
def isPublic (s : Settler) : Bool :=
  s.visibility == .visible

/-- Whether the type carries a capability. -/
def carries (s : Settler) (m : Marker) : Bool :=
  s.markers.contains m

/-- The mode a settler is produced in by a group that produces in mode `group`. -/
def production (s : Settler) (group : ProductionMode) : ProductionMode :=
  s.producer.getD group

/-- One more capability, after those already listed. -/
def withMarker (s : Settler) (m : Marker) : Settler :=
  { s with markers := s.markers ++ [m] }

/-- One more direct supertype, after those already listed. -/
def withSupertype (s : Settler) (supertype : SettlerId) : Settler :=
  { s with supertypes := s.supertypes ++ [supertype] }

/-- The same settler, with another shape. -/
def ofKind (s : Settler) (kind : Kind) : Settler :=
  { s with kind }

/-- The same settler, not to be selected from outside. -/
def asHidden (s : Settler) : Settler :=
  { s with visibility := .hidden }

/-- The same settler with one shared instance. -/
def asSingleton (s : Settler) : Settler :=
  { s with singleton := true }

@[simp]
theorem id_asSingleton (s : Settler) : s.asSingleton.id = s.id :=
  rfl

@[simp]
theorem singleton_asSingleton (s : Settler) : s.asSingleton.singleton = true :=
  rfl

/-- The same settler, which insists on a production mode. -/
def producedBy (s : Settler) (mode : ProductionMode) : Settler :=
  { s with producer := some mode }

/-- The same settler, which insists on an acceptance mode. -/
def acceptedBy (s : Settler) (mode : AcceptanceMode) : Settler :=
  { s with acceptor := some mode }

/-- The candidate a selected settler becomes. -/
def candidate (s : Settler) : Candidate :=
  { id := s.id, singleton := s.singleton, producer := s.producer, acceptor := s.acceptor }

end Settler

namespace Candidate

/-- The mode a candidate is produced in by a group that produces in mode `group`. -/
def production (c : Candidate) (group : ProductionMode) : ProductionMode :=
  c.producer.getD group

/-- The mode a candidate is accepted in by a group that accepts in mode `group`. -/
def acceptance (c : Candidate) (group : AcceptanceMode) : AcceptanceMode :=
  c.acceptor.getD group

end Candidate

end Settlement
