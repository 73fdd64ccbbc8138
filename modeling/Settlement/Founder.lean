import Settlement.Group

/-!
# Founders

A founder settles colonies of one type.  It goes through its groups in their order, or through the
one group that is asked for: it selects the candidates of the group, and produces and accepts the
value of each before it turns to the next.  The first failure ends the run; what was done before it
stands.
-/

namespace Settlement

/-- The groups of a colony type, ready to settle colonies. -/
structure Founder (χ ω η ν : Type) where
  colony : ColonyId
  groups : List (Group χ ω η ν)

namespace Founder

variable {χ ω η ν : Type}

/-- A step of a run: what strategies report stands below what the founder reports itself. -/
abbrev Run (χ ω η α : Type) :=
  Action (Site χ ω) (FoundingEvent ⊕ η) SettleError α

/-- The names of the groups. -/
def markers (f : Founder χ ω η ν) : List Marker :=
  f.groups.map (·.marker)

/-- The groups that a filter lets pass: all of them, or those with a name. -/
def chosen (f : Founder χ ω η ν) (filter : Option Marker) : List (Group χ ω η ν) :=
  f.groups.filter fun g => filter.all (g.marker == ·)

@[simp]
theorem chosen_none (f : Founder χ ω η ν) : f.chosen none = f.groups :=
  List.filter_eq_self.mpr fun _ _ => rfl

/-- What the selector of a group is told. -/
def context (f : Founder χ ω η ν) (g : Group χ ω η ν) : SelectionContext :=
  { colony := f.colony, group := g.marker, production := g.producer.mode }

/-- Selects the candidates of a group. -/
def select (f : Founder χ ω η ν) (g : Group χ ω η ν) : Run χ ω η (List Candidate) :=
  ((g.selector.select (f.context g)).inWorld.mapError (.discovery g.marker)).below

/-- Makes the value of a candidate. -/
def produce (g : Group χ ω η ν) (c : Candidate) : Run χ ω η (Produced ν) :=
  let step : Action (Site χ ω) η ProductionError (Produced ν) := do
    (← Action.ofExcept (g.producerFor c)).produce c
  (step.mapError (.production g.marker c.id)).below

/-- Hands the value of a candidate on. -/
def accept (g : Group χ ω η ν) (c : Candidate) (value : Produced ν) : Run χ ω η Unit :=
  let step : Action (Site χ ω) η AcceptanceError Unit := do
    (← Action.ofExcept (g.acceptorFor c)).accept c value
  (step.mapError (.acceptance g.marker c.id)).below

/-- Settles one candidate. -/
def settle (g : Group χ ω η ν) (c : Candidate) : Run χ ω η Unit := do
  accept g c (← produce g c)
  Action.note (.settled g.marker c.id)

/-- Settles all candidates of a group. -/
def settleGroup (f : Founder χ ω η ν) (g : Group χ ω η ν) : Run χ ω η Unit := do
  let candidates ← f.select g
  Action.note
    (.groupStarted g.marker g.selector.describe g.producer.mode g.acceptor.mode candidates.length)
  candidates.forM (settle g)
  Action.note (.groupDone g.marker candidates.length)

/-- Settles a colony: all groups in their order, or the one that is asked for.  To ask for a group
that does not exist is no failure. -/
def found (f : Founder χ ω η ν) (filter : Option Marker) : Run χ ω η Unit := do
  Action.note (.opened f.colony filter)
  let body : Run χ ω η Unit := do
    (f.chosen filter).forM f.settleGroup
    if (f.chosen filter).isEmpty && filter.isSome then Action.note .noMatchingGroup
  body.thenAlways (.inl .closed)

/-- A founder by its colony type and its groups. -/
def outline (f : Founder χ ω η ν) : String :=
  Text.outline "ColonyFounder"
    [("colony", f.colony.outline), ("descriptors", Text.listed (f.groups.map Group.outline))]

end Founder

end Settlement
