import Settlement.Proofs.Founding.Alternatives

/-!
# Offers

A group may be offered alternative producers and acceptors in any order.  Of each kind it keeps one
for a mode, the last that was offered.  A candidate is served by the group's own strategy if it goes
along with the mode of the group, even where an alternative of that mode was offered, and otherwise
by the alternative of its mode.
-/

namespace Settlement

variable {χ ω η ν α : Type}

/-- An alternative strategy that is offered to a group. -/
inductive Offer (χ ω η ν : Type) where
  | producer (p : Producer χ ω η ν)
  | acceptor (a : Acceptor χ ω η ν)

namespace Offer

/-- The producer that is offered, if it is one. -/
def producer? : Offer χ ω η ν → Option (Producer χ ω η ν)
  | .producer p => some p
  | .acceptor _ => none

/-- The acceptor that is offered, if it is one. -/
def acceptor? : Offer χ ω η ν → Option (Acceptor χ ω η ν)
  | .producer _ => none
  | .acceptor a => some a

/-- The last of some strategies of a mode. -/
def latest? {μ : Type} [BEq μ] (modeOf : α → μ) (offered : List α) (mode : μ) : Option α :=
  (offered.filter fun a => modeOf a == mode).getLast?

theorem latest?_eq {μ : Type} [BEq μ] (modeOf : α → μ) (offered : List α) (mode : μ) :
    latest? modeOf offered mode = offered.reverse.find? fun a => modeOf a == mode := by
  rw [latest?, List.getLast?_eq_head?_reverse, ← List.filter_reverse, List.head?_filter]

end Offer

namespace Group

open Offer (latest? latest?_eq)

/-- The group after an offer. -/
def takeUp (g : Group χ ω η ν) : Offer χ ω η ν → Group χ ω η ν
  | .producer p => g.withAltProducer p
  | .acceptor a => g.withAltAcceptor a

/-- Offers leave the rest of a group as it is, and each kind of them leaves the alternatives of the
other kind as they are. -/
theorem foldl_takeUp_eq (g : Group χ ω η ν) (offers : List (Offer χ ω η ν)) :
    offers.foldl takeUp g =
      { g with
        altProducers := (offers.filterMap Offer.producer?).foldl (replacing Producer.mode)
          g.altProducers
        altAcceptors := (offers.filterMap Offer.acceptor?).foldl (replacing Acceptor.mode)
          g.altAcceptors } := by
  induction offers generalizing g with
  | nil => rfl
  | cons offer rest ih =>
      rw [List.foldl_cons, ih]
      cases offer with
      | producer p => rfl
      | acceptor a => rfl

/-- Members that take the place of all others of their mode leave the last of each mode. -/
theorem find?_replaced {μ : Type} [BEq μ] [LawfulBEq μ] (modeOf : α → μ) (offered : List α)
    (mode : μ) :
    (offered.foldl (replacing modeOf) []).find? (fun a => modeOf a == mode) =
      latest? modeOf offered mode := by
  rw [find?_foldl_replacing, List.find?_nil, Option.or_none, latest?_eq]

/-- Whatever a new group is offered, in whatever order, it keeps at most one alternative for each
mode.  A candidate whose mode is that of the group is served by the group's own strategy, any other
by the last that was offered for its mode; if there was none, the failure tells the candidate and
the mode.  Acceptors that are offered make no difference to producers, nor producers to
acceptors. -/
theorem serves_latest_offered (marker : Marker) (selector : Selector ω η)
    (producer : Producer χ ω η ν) (acceptor : Acceptor χ ω η ν) (offers : List (Offer χ ω η ν)) :
    let g := offers.foldl takeUp { marker, selector, producer, acceptor }
    (g.altProducers.map (·.mode)).Nodup ∧ (g.altAcceptors.map (·.mode)).Nodup ∧
    (∀ c : Candidate,
      let mode := c.production producer.mode
      g.producerFor c =
        if mode = producer.mode then .ok producer
        else
          match latest? Producer.mode (offers.filterMap Offer.producer?) mode with
          | some p => .ok p
          | none => .error (.noStrategy c.id mode)) ∧
    ∀ c : Candidate,
      let mode := c.acceptance acceptor.mode
      g.acceptorFor c =
        if mode = acceptor.mode then .ok acceptor
        else
          match latest? Acceptor.mode (offers.filterMap Offer.acceptor?) mode with
          | some a => .ok a
          | none => .error (.noStrategy c.id mode) := by
  intro g
  have taken : g = _ := foldl_takeUp_eq { marker, selector, producer, acceptor } offers
  rw [taken]
  refine ⟨nodup_foldl_replacing _ _ List.nodup_nil, nodup_foldl_replacing _ _ List.nodup_nil,
    ?_, ?_⟩
  · intro c mode
    rw [← find?_replaced]
    rfl
  · intro c mode
    rw [← find?_replaced]
    rfl

end Group

end Settlement
