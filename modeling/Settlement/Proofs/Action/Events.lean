import Settlement.Action

/-!
# Keeping some of the events

No action looks at events, so an action can be watched through a part of its events only, and what
is left of a composed action is composed of what is left of its steps.  Watching changes neither the
result nor the state.
-/

namespace Settlement.Action

variable {σ η ζ θ ε ε' α β : Type}

/-- The same action, watched through the events that `p` keeps. -/
def keepEvents (p : η → Option ζ) (x : Action σ η ε α) : Action σ ζ ε α :=
  ⟨fun s =>
    let o := x.run s
    ⟨o.result, o.state, o.events.filterMap p⟩⟩

@[simp]
theorem run_keepEvents (p : η → Option ζ) (x : Action σ η ε α) (s : σ) :
    (x.keepEvents p).run s =
      ⟨(x.run s).result, (x.run s).state, (x.run s).events.filterMap p⟩ :=
  rfl

/-- The same action, not watched at all. -/
def silently (x : Action σ η ε α) : Action σ Empty ε α :=
  x.keepEvents fun _ => none

variable (p : η → Option ζ)

@[simp]
theorem keepEvents_bind (x : Action σ η ε α) (f : α → Action σ η ε β) :
    (x >>= f).keepEvents p = x.keepEvents p >>= fun a => (f a).keepEvents p := by
  ext s
  cases answer : (x.run s).result with
  | error e =>
      have answer' : ((x.keepEvents p).run s).result = .error e := answer
      rw [run_bind_of_error answer', run_keepEvents, run_bind_of_error answer]
      rfl
  | ok a =>
      have answer' : ((x.keepEvents p).run s).result = .ok a := answer
      rw [run_bind_of_ok answer', run_keepEvents, run_bind_of_ok answer, List.filterMap_append]
      rfl

theorem keepEvents_report_of_none {e : η} (dropped : p e = none) :
    (report e : Action σ η ε Unit).keepEvents p = pure () := by
  ext s
  simp [dropped]

@[simp]
theorem keepEvents_mapEvents (f : θ → η) (x : Action σ θ ε α) :
    (x.mapEvents f).keepEvents p = x.keepEvents fun e => p (f e) := by
  ext s
  rw [run_keepEvents, run_mapEvents, run_keepEvents, List.filterMap_map]
  rfl

@[simp]
theorem keepEvents_below (p : θ ⊕ η → Option ζ) (x : Action σ η ε α) :
    (x.below : Action σ (θ ⊕ η) ε α).keepEvents p = x.keepEvents fun e => p (.inr e) :=
  keepEvents_mapEvents p Sum.inr x

theorem keepEvents_eq_mapEvents (f : η → ζ) (x : Action σ η ε α) :
    (x.keepEvents fun e => some (f e)) = x.mapEvents f := by
  ext s
  simp [List.filterMap_eq_map']

@[simp]
theorem keepEvents_forM (l : List β) (f : β → Action σ η ε PUnit) :
    (forM l f : Action σ η ε PUnit).keepEvents p = forM l fun b => (f b).keepEvents p := by
  induction l with
  | nil => rfl
  | cons b rest ih => simp only [List.forM_cons, keepEvents_bind, ih]

theorem keepEvents_thenAlways_of_none {e : η} (dropped : p e = none) (x : Action σ η ε α) :
    (x.thenAlways e).keepEvents p = x.keepEvents p := by
  ext s
  simp [dropped]

theorem keepEvents_thenAlways_of_some {e : η} {e' : ζ} (kept : p e = some e')
    (x : Action σ η ε α) : (x.thenAlways e).keepEvents p = (x.keepEvents p).thenAlways e' := by
  ext s
  simp [kept]

theorem keepEvents_onFailure_of_none {e : ε → η} (dropped : ∀ cause, p (e cause) = none)
    (x : Action σ η ε α) : (x.onFailure e).keepEvents p = x.keepEvents p := by
  ext s
  unfold onFailure
  cases outcome : (x.run s).result with
  | error cause => simp [outcome, dropped]
  | ok a => simp [outcome]

/-! ## Unwatched actions -/

@[simp]
theorem silently_pure (a : α) : (pure a : Action σ η ε α).silently = pure a :=
  rfl

@[simp]
theorem silently_bind (x : Action σ η ε α) (f : α → Action σ η ε β) :
    (x >>= f).silently = x.silently >>= fun a => (f a).silently :=
  keepEvents_bind _ x f

@[simp]
theorem silently_report (e : η) : (report e : Action σ η ε Unit).silently = pure () :=
  rfl

@[simp]
theorem silently_note (e : ζ) : (note e : Action σ (ζ ⊕ η) ε Unit).silently = pure () :=
  rfl

@[simp]
theorem silently_mapError (f : ε → ε') (x : Action σ η ε α) :
    (x.mapError f).silently = x.silently.mapError f :=
  rfl

@[simp]
theorem silently_below (x : Action σ η ε α) :
    (x.below : Action σ (ζ ⊕ η) ε α).silently = x.silently :=
  keepEvents_below _ x

/-- Unwatched, an action that always ends in one way and leaves the state alone is that end. -/
theorem silently_eq_ofExcept {x : Action σ η ε α} {answer : Except ε α}
    (same : ∀ s, (x.run s).result = answer ∧ (x.run s).state = s) :
    x.silently = ofExcept answer := by
  ext s
  have unwatched : (x.run s).events.filterMap (fun _ => (none : Option Empty)) = [] :=
    List.filterMap_eq_nil_iff.mpr fun _ _ => rfl
  rw [run_ofExcept, silently, run_keepEvents, unwatched, (same s).1, (same s).2]

@[simp]
theorem silently_inWorld {χ ω : Type} (x : Action ω η ε α) :
    (x.inWorld : Action (Site χ ω) η ε α).silently = x.silently.inWorld :=
  rfl

@[simp]
theorem silently_forM (l : List β) (f : β → Action σ η ε PUnit) :
    (forM l f : Action σ η ε PUnit).silently = forM l fun b => (f b).silently :=
  keepEvents_forM _ l f

@[simp]
theorem silently_thenAlways (x : Action σ η ε α) (e : η) : (x.thenAlways e).silently = x.silently :=
  keepEvents_thenAlways_of_none _ rfl x

end Settlement.Action
