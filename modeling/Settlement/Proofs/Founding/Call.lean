import Settlement.Founder
import Settlement.Proofs.Action.Events

/-!
# Calls of strategies

Which strategies a founder calls, and with what, does not show in its result.  So a founder is run
with recorded strategies: each does what it did before, but first reports that it is called.

Recording is no interference.  Without the recorded calls, the run of the recorded founder is that
of the founder itself.
-/

namespace Settlement

variable {χ ω η ν : Type}

/-- A call of a strategy, with all that the strategy is told. -/
inductive Call (χ ω η ν : Type) where
  | select (selector : Selector ω η) (ctx : SelectionContext)
  | produce (group : Marker) (producer : Producer χ ω η ν) (candidate : Candidate)
  | accept (group : Marker) (acceptor : Acceptor χ ω η ν) (candidate : Candidate)
      (value : Produced ν)

/-! ## Recorded strategies -/

/-- The selector, which reports its calls. -/
def Selector.recorded (s : Selector ω η) : Selector ω (Call χ ω η ν ⊕ η) where
  describe := s.describe
  select ctx := do
    Action.note (.select s ctx)
    (s.select ctx).below

/-- The producer, which reports its calls for a group. -/
def Producer.recorded (group : Marker) (p : Producer χ ω η ν) :
    Producer χ ω (Call χ ω η ν ⊕ η) ν where
  mode := p.mode
  produce c := do
    Action.note (.produce group p c)
    (p.produce c).below

/-- The acceptor, which reports its calls for a group. -/
def Acceptor.recorded (group : Marker) (a : Acceptor χ ω η ν) :
    Acceptor χ ω (Call χ ω η ν ⊕ η) ν where
  mode := a.mode
  accept c value := do
    Action.note (.accept group a c value)
    (a.accept c value).below

/-- The group with all its strategies recorded. -/
def Group.recorded (g : Group χ ω η ν) : Group χ ω (Call χ ω η ν ⊕ η) ν where
  marker := g.marker
  selector := g.selector.recorded
  producer := g.producer.recorded g.marker
  acceptor := g.acceptor.recorded g.marker
  altProducers := g.altProducers.map (·.recorded g.marker)
  altAcceptors := g.altAcceptors.map (·.recorded g.marker)

/-- The founder with all its strategies recorded. -/
def Founder.recorded (f : Founder χ ω η ν) : Founder χ ω (Call χ ω η ν ⊕ η) ν where
  colony := f.colony
  groups := f.groups.map Group.recorded

/-- The strategies that serve a candidate are recorded, and no others serve it. -/
theorem Group.producerFor_recorded (g : Group χ ω η ν) (c : Candidate) :
    g.recorded.producerFor c = (g.producerFor c).map (·.recorded g.marker) := by
  simp only [producerFor, recorded, Producer.recorded, List.find?_map, Function.comp_def]
  split
  case isTrue => rfl
  case isFalse => cases g.altProducers.find? _ <;> rfl

theorem Group.acceptorFor_recorded (g : Group χ ω η ν) (c : Candidate) :
    g.recorded.acceptorFor c = (g.acceptorFor c).map (·.recorded g.marker) := by
  simp only [acceptorFor, recorded, Acceptor.recorded, List.find?_map, Function.comp_def]
  split
  case isTrue => rfl
  case isFalse => cases g.altAcceptors.find? _ <;> rfl

/-! ## Recording is no interference -/

namespace Call

/-- The call that an event of a recorded run reports, if it reports one. -/
def ofEvent? : FoundingEvent ⊕ (Call χ ω η ν ⊕ η) → Option (Call χ ω η ν)
  | .inr (.inl call) => some call
  | _ => none

/-- An event of a recorded run, if it is not a call. -/
def otherEvent? : FoundingEvent ⊕ (Call χ ω η ν ⊕ η) → Option (FoundingEvent ⊕ η)
  | .inl e => some (.inl e)
  | .inr (.inl _) => none
  | .inr (.inr e) => some (.inr e)

end Call

namespace Founder

open Settlement.Action

/-- A recorded step of a strategy is the step itself, once its call is left out. -/
theorem keepEvents_recorded {ε α : Type} (call : Call χ ω η ν) (x : Action (Site χ ω) η ε α) :
    ((do note call; x.below : Action (Site χ ω) (Call χ ω η ν ⊕ η) ε α).keepEvents
      fun e => Call.otherEvent? (.inr e)) = x.below := by
  rw [keepEvents_bind, note, keepEvents_report_of_none _ rfl, pure_bind, keepEvents_below]
  exact keepEvents_eq_mapEvents Sum.inr x

theorem keepEvents_select (f : Founder χ ω η ν) (g : Group χ ω η ν) :
    (f.recorded.select g.recorded).keepEvents Call.otherEvent? = f.select g := by
  have recorded := keepEvents_recorded (χ := χ) (ν := ν) (.select g.selector (f.context g))
    (g.selector.select (f.context g)).inWorld
  rw [select, keepEvents_below]
  exact congrArg (mapError (SettleError.discovery g.marker)) recorded

theorem keepEvents_produce (g : Group χ ω η ν) (c : Candidate) :
    (produce g.recorded c).keepEvents Call.otherEvent? = produce g c := by
  unfold produce
  rw [g.producerFor_recorded c]
  cases g.producerFor c with
  | error cause => rfl
  | ok p =>
      have recorded := keepEvents_recorded (.produce g.marker p c) (p.produce c)
      rw [keepEvents_below]
      exact congrArg (mapError (SettleError.production g.marker c.id)) recorded

theorem keepEvents_accept (g : Group χ ω η ν) (c : Candidate) (value : Produced ν) :
    (accept g.recorded c value).keepEvents Call.otherEvent? = accept g c value := by
  unfold accept
  rw [g.acceptorFor_recorded c]
  cases g.acceptorFor c with
  | error cause => rfl
  | ok a =>
      have recorded := keepEvents_recorded (.accept g.marker a c value) (a.accept c value)
      rw [keepEvents_below]
      exact congrArg (mapError (SettleError.acceptance g.marker c.id)) recorded

theorem keepEvents_settle (g : Group χ ω η ν) (c : Candidate) :
    (settle g.recorded c).keepEvents Call.otherEvent? = settle g c := by
  simp only [settle, keepEvents_bind, keepEvents_produce, keepEvents_accept]
  rfl

theorem keepEvents_settleGroup (f : Founder χ ω η ν) (g : Group χ ω η ν) :
    (f.recorded.settleGroup g.recorded).keepEvents Call.otherEvent? = f.settleGroup g := by
  simp only [settleGroup, List.forM_eq_forM, keepEvents_bind, keepEvents_select,
    keepEvents_forM, keepEvents_settle]
  rfl

@[simp]
theorem chosen_recorded (f : Founder χ ω η ν) (filter : Option Marker) :
    f.recorded.chosen filter = (f.chosen filter).map Group.recorded := by
  simp only [chosen, recorded, List.filter_map]
  rfl

/-- Without the recorded calls, a recorded run is the run itself: same result, same state, and the
same events in the same order. -/
theorem keepEvents_found (f : Founder χ ω η ν) (filter : Option Marker) :
    (f.recorded.found filter).keepEvents Call.otherEvent? = f.found filter := by
  have closing (x : Run χ ω (Call χ ω η ν ⊕ η) Unit) :
      (x.thenAlways (.inl .closed)).keepEvents Call.otherEvent? =
        (x.keepEvents Call.otherEvent?).thenAlways (.inl .closed) :=
    keepEvents_thenAlways_of_some Call.otherEvent? rfl x
  simp only [found, chosen_recorded, List.forM_eq_forM, List.forM_map, List.isEmpty_map,
    keepEvents_bind, closing, keepEvents_forM, keepEvents_settleGroup]
  split <;> rfl

end Founder

end Settlement
