import Settlement.Proofs.Founding.Piecewise
import Settlement.Proofs.Founding.Plan

/-!
# Who settles a colony

An orchestrator can be asked to settle a colony in three ways.  They differ in the groups that are
asked for, and in the name under which a colony type without a founder is reported; in all else they
are one.

A colony that nobody is there to settle is not touched, and no strategy is called for it.  Whatever
strategies do, they cannot end a settling in the same way: their failures belong to a group.
-/

namespace Settlement

/-- What an orchestrator can be asked to do with a colony. -/
inductive Errand where
  /-- To settle all groups of a colony whose type is known by name. -/
  | all
  /-- To settle one group of a colony whose type is known by name. -/
  | group (marker : Marker)
  /-- To settle a colony whose type is not known by name. -/
  | untyped (filter : Option Marker)
deriving DecidableEq

/-- How colony types are called in reports. -/
structure Naming (τ : Type) where
  /-- The name of a type, where it is known. -/
  typeName : τ → ColonyId
  /-- How the tag of a type is written, where its name is not known. -/
  tagText : τ → ColonyId

namespace Errand

/-- The groups that are asked for. -/
def filter : Errand → Option Marker
  | .all => none
  | .group marker => some marker
  | .untyped filter => filter

/-- The name under which a colony type without a founder is reported. -/
def nameOf {τ : Type} (naming : Naming τ) : Errand → τ → ColonyId
  | .all => naming.typeName
  | .group _ => naming.typeName
  | .untyped _ => naming.tagText

end Errand

namespace Orchestrator

variable {τ : Type} [DecidableEq τ] {χ : τ → Type} {ω η ν : Type}

/-- How the settling of a colony of any type ends. -/
abbrev Settled (χ : τ → Type) (ω η : Type) :=
  Outcome (Site (AnyColony χ) ω) (OrchestratorEvent ⊕ (FoundingEvent ⊕ η)) SettleError Unit

/-- Does what is asked for with a colony. -/
def carryOut (o : Orchestrator χ ω η ν) (naming : Naming τ) :
    Errand → Settling χ ω η Unit
  | .all => o.settle naming.typeName
  | .group marker => o.settleGroup naming.typeName marker
  | .untyped filter => o.settleUntyped naming.tagText filter

theorem carryOut_eq_run (o : Orchestrator χ ω η ν) (naming : Naming τ) (errand : Errand) :
    o.carryOut naming errand = o.run (errand.nameOf naming) errand.filter := by
  cases errand <;> rfl

/-- The settling of a colony by a founder of its own type: all that the founder does, with a report
before it, and one behind it if it fails. -/
def delivered {t : τ} (f : Founder (χ t) ω η ν) (filter : Option Marker) (site : Site (χ t) ω) :
    Settled χ ω η :=
  let o := (f.found filter).run site
  let failure : List (OrchestratorEvent ⊕ (FoundingEvent ⊕ η)) :=
    match o.result with
    | .error cause => [.inl (.settleFailed f.colony cause)]
    | .ok () => []
  ⟨o.result, anySite t o.state,
    .inl (.settling f.colony filter) :: o.events.map .inr ++ failure⟩

/-- The refusal of a colony, of which only the orchestrator itself reports. -/
def refused (cause : CompositionError) (events : List OrchestratorEvent)
    (site : Site (AnyColony χ) ω) : Settled χ ω η :=
  ⟨.error (.composition cause), site, events.map .inl⟩

/-- How an orchestrator deals with colonies. -/
structure Dispatches (o : Orchestrator χ ω η ν) (naming : Naming τ) : Prop where
  /-- A colony is settled by the founder of its type, as is asked for. -/
  own : ∀ (t : τ) (f : Founder (χ t) ω η ν), o.founder? t = some ⟨t, f⟩ →
    ∀ errand site,
      (o.carryOut naming errand).run (anySite t site) = delivered f errand.filter site
  /-- A founder that was built for another type refuses the colony. -/
  foreign : ∀ (site : Site (AnyColony χ) ω) (g : AnyFounder χ ω η ν),
    o.founder? site.colony.type = some g → g.type ≠ site.colony.type →
    ∀ errand, (o.carryOut naming errand).run site =
      refused (.colonyMismatch g.colony) [.settling g.colony errand.filter,
        .settleFailed g.colony (.composition (.colonyMismatch g.colony))] site
  /-- A colony type without a founder is reported by its name. -/
  unknown : ∀ site : Site (AnyColony χ) ω, o.founder? site.colony.type = none →
    ∀ errand,
      let name := errand.nameOf naming site.colony.type
      (o.carryOut naming errand).run site = refused (.noFounder name) [.noFounder name] site
  /-- Where there is a founder, only the groups that are asked for make a difference. -/
  alike : ∀ site : Site (AnyColony χ) ω, o.isComposed site.colony.type = true →
    ∀ errand errand' : Errand, errand.filter = errand'.filter →
      (o.carryOut naming errand).run site = (o.carryOut naming errand').run site
  /-- Nothing else ends in this way; and then the colony and the world are as before, and no
  founder and no strategy has reported anything. -/
  only : ∀ (site : Site (AnyColony χ) ω) (errand : Errand) (cause : CompositionError),
    let outcome := (o.carryOut naming errand).run site
    outcome.result = .error (.composition cause) →
      (o.founder? site.colony.type = none ∧
          cause = .noFounder (errand.nameOf naming site.colony.type) ∨
        ∃ g, o.founder? site.colony.type = some g ∧ g.type ≠ site.colony.type ∧
          cause = .colonyMismatch g.colony) ∧
        outcome.state = site ∧ ∀ e ∈ outcome.events, e.isLeft = true

/-- What is reported at the end of a settling. -/
def farewell (colony : ColonyId) : Except SettleError Unit → List OrchestratorEvent
  | .error cause => [.settleFailed colony cause]
  | .ok () => []

/-- The founder that a colony is handed to decides how the settling ends, and its failure is reported
behind all that happens in its run. -/
theorem run_handOn (g : AnyFounder χ ω η ν) (filter : Option Marker)
    (site : Site (AnyColony χ) ω) :
    let run := (g.found filter).run site
    (handOn g filter).run site =
      ⟨run.result, run.state,
        .inl (.settling g.colony filter) ::
          (run.events.map .inr ++ (farewell g.colony run.result).map .inl)⟩ := by
  intro run
  unfold handOn
  rw [Action.run_bind_of_ok (a := ()) rfl, Action.run_note]
  unfold Action.onFailure
  simp only [Action.run_below]
  cases ((g.found filter).run site).result with
  | error cause => simp [run, farewell]
  | ok a => simp [run, farewell]

theorem run_handOn_own {t : τ} (f : Founder (χ t) ω η ν) (filter : Option Marker)
    (site : Site (χ t) ω) :
    (handOn ⟨t, f⟩ filter).run (anySite t site) = delivered f filter site := by
  rw [run_handOn, embeds_found f filter site, delivered]
  cases ((f.found filter).run site).result with
  | error cause => simp [farewell, AnyFounder.colony]
  | ok a => simp [farewell, AnyFounder.colony]

theorem run_handOn_foreign {g : AnyFounder χ ω η ν} {site : Site (AnyColony χ) ω}
    (isForeign : g.type ≠ site.colony.type) (filter : Option Marker) :
    (handOn g filter).run site =
      refused (.colonyMismatch g.colony) [.settling g.colony filter,
        .settleFailed g.colony (.composition (.colonyMismatch g.colony))] site := by
  have refuses : (g.found filter).run site =
      ⟨.error (.composition (.colonyMismatch g.colony)), site, []⟩ :=
    dif_neg (Ne.symm isForeign)
  rw [run_handOn, refuses]
  rfl

theorem run_of_founder?_eq_none {o : Orchestrator χ ω η ν} {site : Site (AnyColony χ) ω}
    (absent : o.founder? site.colony.type = none) (nameOf : τ → ColonyId)
    (filter : Option Marker) :
    let name := nameOf site.colony.type
    (o.run nameOf filter).run site = refused (.noFounder name) [.noFounder name] site := by
  simp [run, absent, refused]

/-- A settling that fails for lack of a founder has not reached one. -/
theorem composition_of_run {o : Orchestrator χ ω η ν} {site : Site (AnyColony χ) ω}
    {nameOf : τ → ColonyId} {filter : Option Marker} {cause : CompositionError}
    (failed : ((o.run nameOf filter).run site).result = .error (.composition cause)) :
    (o.founder? site.colony.type = none ∧ cause = .noFounder (nameOf site.colony.type) ∨
      ∃ g, o.founder? site.colony.type = some g ∧ g.type ≠ site.colony.type ∧
        cause = .colonyMismatch g.colony) ∧
      ((o.run nameOf filter).run site).state = site ∧
      ∀ e ∈ ((o.run nameOf filter).run site).events, e.isLeft = true := by
  cases composed : o.founder? site.colony.type with
  | none =>
      rw [run_of_founder?_eq_none composed] at failed ⊢
      cases failed
      exact ⟨.inl ⟨rfl, rfl⟩, rfl, by simp [refused]⟩
  | some g =>
      rw [run_of_founder? composed] at failed ⊢
      by_cases isOwn : g.type = site.colony.type
      · -- The failure would be one of the founder, and would belong to a group.
        obtain ⟨⟨t, value⟩, world⟩ := site
        obtain ⟨own, f⟩ := g
        obtain rfl : own = t := isOwn
        have delivers := run_handOn_own f filter ⟨value, world⟩
        rw [anySite] at delivers
        rw [delivers] at failed
        obtain ⟨group, located⟩ := Founder.exists_group_of_found failed
        contradiction
      · rw [run_handOn_foreign isOwn] at failed ⊢
        cases failed
        exact ⟨.inr ⟨g, rfl, isOwn, rfl⟩, rfl, by simp [refused]⟩

theorem dispatches (o : Orchestrator χ ω η ν) (naming : Naming τ) :
    o.Dispatches naming where
  own t f composed errand site := by
    rw [carryOut_eq_run, ← run_handOn_own f errand.filter site]
    apply run_of_founder?
    exact composed
  foreign site g composed isForeign errand := by
    rw [carryOut_eq_run, run_of_founder? composed, run_handOn_foreign isForeign]
  unknown site absent errand := by
    rw [carryOut_eq_run, run_of_founder?_eq_none absent]
  alike site composed errand errand' same := by
    obtain ⟨g, composed⟩ := Option.isSome_iff_exists.mp composed
    rw [carryOut_eq_run, carryOut_eq_run, run_of_founder? composed, run_of_founder? composed, same]
  only site errand cause := by
    rw [carryOut_eq_run]
    exact composition_of_run

end Orchestrator

end Settlement
