import Settlement.Selector.Basic
import Settlement.Strategy

/-!
# Groups

A group of a colony type has a name, a selector, a producer and an acceptor.  For candidates that
insist on another mode it may also hold alternative producers and acceptors, at most one for each
mode: a later one takes the place of an earlier one.
-/

namespace Settlement

/-- A strategy group. -/
structure Group (χ ω η ν : Type) where
  /-- The name of the group. -/
  marker : Marker
  selector : Selector ω η
  producer : Producer χ ω η ν
  acceptor : Acceptor χ ω η ν
  altProducers : List (Producer χ ω η ν) := []
  altAcceptors : List (Acceptor χ ω η ν) := []

namespace Group

variable {χ ω η ν : Type}

/-- The group with an alternative producer, in place of any other of its mode. -/
def withAltProducer (g : Group χ ω η ν) (p : Producer χ ω η ν) : Group χ ω η ν :=
  { g with altProducers := (g.altProducers.filter fun q => q.mode != p.mode) ++ [p] }

/-- The group with an alternative acceptor, in place of any other of its mode. -/
def withAltAcceptor (g : Group χ ω η ν) (a : Acceptor χ ω η ν) : Group χ ω η ν :=
  { g with altAcceptors := (g.altAcceptors.filter fun b => b.mode != a.mode) ++ [a] }

/-- The producer of a candidate: the group's own, unless the candidate insists on another mode. -/
def producerFor (g : Group χ ω η ν) (c : Candidate) :
    Except ProductionError (Producer χ ω η ν) :=
  let mode := c.production g.producer.mode
  if mode = g.producer.mode then .ok g.producer
  else
    match g.altProducers.find? fun p => p.mode == mode with
    | some p => .ok p
    | none => .error (.noStrategy c.id mode)

/-- The acceptor of a candidate: the group's own, unless the candidate insists on another mode. -/
def acceptorFor (g : Group χ ω η ν) (c : Candidate) :
    Except AcceptanceError (Acceptor χ ω η ν) :=
  let mode := c.acceptance g.acceptor.mode
  if mode = g.acceptor.mode then .ok g.acceptor
  else
    match g.altAcceptors.find? fun a => a.mode == mode with
    | some a => .ok a
    | none => .error (.noStrategy c.id mode)

/-- A group by its name, what it selects, and its modes. -/
def outline (g : Group χ ω η ν) : String :=
  Text.outline "CompositionDescriptor"
    [("marker", g.marker.outline),
      ("selector", Text.quoted g.selector.describe),
      ("producer", g.producer.mode.title),
      ("acceptor", g.acceptor.mode.title),
      ("alt_producers", Text.listed (g.altProducers.map fun p => p.mode.title)),
      ("alt_acceptors", Text.listed (g.altAcceptors.map fun a => a.mode.title))]

end Group

end Settlement
