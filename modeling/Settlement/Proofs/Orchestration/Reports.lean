import Settlement.Proofs.Founding.Reports
import Settlement.Proofs.Orchestration.Dispatch

/-!
# What an orchestrator says about a run

An orchestrator reports that a settling has failed just if the founder of the colony type has
failed, behind all that the founder reports, and once.  The report shows the group and the settler
that the error of the founder tells.
-/

namespace Settlement.Orchestrator

variable {τ : Type} [DecidableEq τ] {χ : τ → Type} {ω η ν : Type}

/-- Whether an event says that a settling has failed. -/
def isFailure : OrchestratorEvent ⊕ (FoundingEvent ⊕ η) → Bool
  | .inl (.settleFailed _ _) => true
  | _ => false

/-- An orchestrator's reports about the settling of colonies. -/
structure ReportsFailures (o : Orchestrator χ ω η ν) (naming : Naming τ) : Prop where
  /-- Where there is a founder, its failure is reported, behind all that happens in its run. -/
  settled : ∀ (site : Site (AnyColony χ) ω) (g : AnyFounder χ ω η ν),
    o.founder? site.colony.type = some g → ∀ errand,
      let run := (g.found errand.filter).run site
      (o.carryOut naming errand).run site =
        ⟨run.result, run.state,
          .inl (.settling g.colony errand.filter) ::
            (run.events.map .inr ++ (farewell g.colony run.result).map .inl)⟩
  /-- Where there is none, no failure of a founder is reported. -/
  unknown : ∀ site : Site (AnyColony χ) ω, o.founder? site.colony.type = none → ∀ errand,
    ∀ e ∈ ((o.carryOut naming errand).run site).events, isFailure e = false
  /-- A failure is shown with the group and the settler of the error. -/
  shown : ∀ (colony : ColonyId) (cause : SettleError), ∃ fields,
    (OrchestratorEvent.settleFailed colony cause).records =
        [.event "colonist.orch.settle_failed" .warn fields] ∧
      fields.lookup "group" = cause.group?.map (fun group => .text group.name) ∧
      fields.lookup "settler" = cause.settler?.map fun settler => .text settler.name

theorem reportsFailures (o : Orchestrator χ ω η ν) (naming : Naming τ) :
    o.ReportsFailures naming where
  settled site g composed errand := by
    rw [carryOut_eq_run, run_of_founder? composed]
    exact run_handOn g errand.filter site
  unknown site absent errand := by
    rw [carryOut_eq_run, run_of_founder?_eq_none absent]
    simp [refused, isFailure]
  shown colony cause := by
    cases cause <;> exact ⟨_, rfl, rfl, rfl⟩

/-- Whatever strategies a founder has and however they end, its reports tell the run as it was: in
each group that has its turn the number of candidates, unless the selection has failed, each
candidate whose value has been accepted, right after that, and the end of the group with their
number, if all have been accepted; after a failure nothing but the end of the run; and just where
there is none that no group has the wanted name.  An orchestrator adds the failure of a founder,
once and at the end. -/
theorem reports_tell_runs {C : Type} (f : Founder C ω η ν) (filter : Option Marker)
    (site : Site C ω) (o : Orchestrator χ ω η ν) (naming : Naming τ) :
    (∃ stretches, f.ReportsTruly filter site stretches) ∧ o.ReportsFailures naming :=
  ⟨f.exists_reportsTruly filter site, o.reportsFailures naming⟩

end Settlement.Orchestrator
