/-!
# Actions

An action reads and changes a state, reports events, and may fail.  Whatever it did before it failed
stands: the state is not rolled back, and the events stay reported.  Events are only ever added, so
no action can look at or withdraw those of another.

An action that runs inside a larger one may know only a part of the state and only some of the
events; `inWorld` and `below` fit it into its surroundings.
-/

namespace Settlement

/-- How a run ends: its result, the state it leaves, and the events it reported, in their order. -/
structure Outcome (σ η ε α : Type) where
  result : Except ε α
  state : σ
  events : List η := []

/-- A step of a run over states `σ`, with events `η` and failures `ε`. -/
structure Action (σ η ε α : Type) where
  run : σ → Outcome σ η ε α

namespace Action

variable {σ η ζ ε ε' α β : Type}

@[ext]
theorem ext {x y : Action σ η ε α} (h : ∀ s, x.run s = y.run s) : x = y := by
  cases x
  cases y
  exact congrArg Action.mk (funext h)

/-- Goes on after an outcome, unless it is a failure. -/
def andThen (o : Outcome σ η ε α) (f : α → Action σ η ε β) : Outcome σ η ε β :=
  match o.result with
  | .error e => ⟨.error e, o.state, o.events⟩
  | .ok a =>
      let next := (f a).run o.state
      ⟨next.result, next.state, o.events ++ next.events⟩

instance : Monad (Action σ η ε) where
  pure a := ⟨fun s => ⟨.ok a, s, []⟩⟩
  bind x f := ⟨fun s => andThen (x.run s) f⟩

@[simp]
theorem run_pure (a : α) (s : σ) : (pure a : Action σ η ε α).run s = ⟨.ok a, s, []⟩ :=
  rfl

@[simp]
theorem run_bind (x : Action σ η ε α) (f : α → Action σ η ε β) (s : σ) :
    (x >>= f).run s = andThen (x.run s) f :=
  rfl

@[simp]
theorem andThen_ok (a : α) (s : σ) (events : List η) (f : α → Action σ η ε β) :
    andThen ⟨.ok a, s, events⟩ f =
      ⟨((f a).run s).result, ((f a).run s).state, events ++ ((f a).run s).events⟩ :=
  rfl

@[simp]
theorem andThen_error (e : ε) (s : σ) (events : List η) (f : α → Action σ η ε β) :
    andThen ⟨.error e, s, events⟩ f = ⟨.error e, s, events⟩ :=
  rfl

instance : LawfulMonad (Action σ η ε) :=
  LawfulMonad.mk' (Action σ η ε)
    (by
      intro α x
      ext s
      change andThen (x.run s) pure = x.run s
      obtain ⟨result, state, events⟩ := x.run s
      cases result <;> simp)
    (by
      intro α β a f
      ext s
      simp)
    (by
      intro α β γ x f g
      ext s
      simp only [run_bind]
      obtain ⟨result, state, events⟩ := x.run s
      cases result with
      | error e => simp
      | ok a =>
          simp only [andThen_ok, run_bind]
          obtain ⟨result, state, more⟩ := (f a).run state
          cases result <;> simp)

/-- Fails. -/
def fail (e : ε) : Action σ η ε α :=
  ⟨fun s => ⟨.error e, s, []⟩⟩

/-- Reads the state. -/
def read : Action σ η ε σ :=
  ⟨fun s => ⟨.ok s, s, []⟩⟩

/-- Changes the state. -/
def update (f : σ → σ) : Action σ η ε Unit :=
  ⟨fun s => ⟨.ok (), f s, []⟩⟩

/-- Reports an event. -/
def report (e : η) : Action σ η ε Unit :=
  ⟨fun s => ⟨.ok (), s, [e]⟩⟩

/-- An answer that is known already, or a failure. -/
def ofExcept : Except ε α → Action σ η ε α
  | .ok a => pure a
  | .error e => fail e

/-- Gives a failure another form. -/
def mapError (f : ε → ε') (x : Action σ η ε α) : Action σ η ε' α :=
  ⟨fun s =>
    let o := x.run s
    ⟨o.result.mapError f, o.state, o.events⟩⟩

/-- Turns a failure into an answer, so that the run goes on after it. -/
def attempt (x : Action σ η ε α) : Action σ η ε' (Except ε α) :=
  ⟨fun s =>
    let o := x.run s
    ⟨.ok o.result, o.state, o.events⟩⟩

/-- Reports an event at the end, whether the run failed or not. -/
def thenAlways (x : Action σ η ε α) (e : η) : Action σ η ε α :=
  ⟨fun s =>
    let o := x.run s
    ⟨o.result, o.state, o.events ++ [e]⟩⟩

/-- Reports an event about a failure, if there is one. -/
def onFailure (x : Action σ η ε α) (e : ε → η) : Action σ η ε α :=
  ⟨fun s =>
    let o := x.run s
    match o.result with
    | .error cause => ⟨.error cause, o.state, o.events ++ [e cause]⟩
    | .ok a => ⟨.ok a, o.state, o.events⟩⟩

/-- An action whose events stand among those of a larger activity. -/
def mapEvents (f : η → ζ) (x : Action σ η ε α) : Action σ ζ ε α :=
  ⟨fun s =>
    let o := x.run s
    ⟨o.result, o.state, o.events.map f⟩⟩

/-- An action below an activity that reports events of its own. -/
def below (x : Action σ η ε α) : Action σ (ζ ⊕ η) ε α :=
  x.mapEvents Sum.inr

/-- Reports an event of the activity itself. -/
def note (e : ζ) : Action σ (ζ ⊕ η) ε Unit :=
  report (.inl e)

/-! ### Running the primitives -/

@[simp]
theorem mapError_error (f : ε → ε') (e : ε) :
    (Except.error e : Except ε α).mapError f = .error (f e) :=
  rfl

@[simp]
theorem mapError_ok (f : ε → ε') (a : α) : (Except.ok a : Except ε α).mapError f = .ok a :=
  rfl

@[simp]
theorem run_fail (e : ε) (s : σ) : (fail e : Action σ η ε α).run s = ⟨.error e, s, []⟩ :=
  rfl

@[simp]
theorem run_read (s : σ) : (read : Action σ η ε σ).run s = ⟨.ok s, s, []⟩ :=
  rfl

@[simp]
theorem run_update (f : σ → σ) (s : σ) :
    (update f : Action σ η ε Unit).run s = ⟨.ok (), f s, []⟩ :=
  rfl

@[simp]
theorem run_report (e : η) (s : σ) : (report e : Action σ η ε Unit).run s = ⟨.ok (), s, [e]⟩ :=
  rfl

@[simp]
theorem run_note (e : ζ) (s : σ) :
    (note e : Action σ (ζ ⊕ η) ε Unit).run s = ⟨.ok (), s, [.inl e]⟩ :=
  rfl

@[simp]
theorem ofExcept_ok (a : α) : (ofExcept (.ok a) : Action σ η ε α) = pure a :=
  rfl

@[simp]
theorem ofExcept_error (e : ε) : (ofExcept (.error e) : Action σ η ε α) = fail e :=
  rfl

@[simp]
theorem run_ofExcept (answer : Except ε α) (s : σ) :
    (ofExcept answer : Action σ η ε α).run s = ⟨answer, s, []⟩ := by
  cases answer <;> rfl

@[simp]
theorem mapError_ofExcept (f : ε → ε') (answer : Except ε α) :
    (ofExcept answer : Action σ η ε α).mapError f = ofExcept (answer.mapError f) := by
  cases answer <;> rfl

@[simp]
theorem run_mapError (f : ε → ε') (x : Action σ η ε α) (s : σ) :
    (x.mapError f).run s = ⟨(x.run s).result.mapError f, (x.run s).state, (x.run s).events⟩ :=
  rfl

@[simp]
theorem run_attempt (x : Action σ η ε α) (s : σ) :
    (x.attempt : Action σ η ε' (Except ε α)).run s =
      ⟨.ok (x.run s).result, (x.run s).state, (x.run s).events⟩ :=
  rfl

@[simp]
theorem run_thenAlways (x : Action σ η ε α) (e : η) (s : σ) :
    (x.thenAlways e).run s = ⟨(x.run s).result, (x.run s).state, (x.run s).events ++ [e]⟩ :=
  rfl

@[simp]
theorem run_mapEvents (f : η → ζ) (x : Action σ η ε α) (s : σ) :
    (x.mapEvents f).run s = ⟨(x.run s).result, (x.run s).state, (x.run s).events.map f⟩ :=
  rfl

@[simp]
theorem run_below (x : Action σ η ε α) (s : σ) :
    (x.below : Action σ (ζ ⊕ η) ε α).run s =
      ⟨(x.run s).result, (x.run s).state, (x.run s).events.map .inr⟩ :=
  rfl

@[simp]
theorem run_map (f : α → β) (x : Action σ η ε α) (s : σ) :
    (f <$> x).run s = ⟨(x.run s).result.map f, (x.run s).state, (x.run s).events⟩ := by
  rw [← bind_pure_comp, run_bind, andThen]
  cases (x.run s).result with
  | error e => rfl
  | ok a => simp [Except.map]

/-- Notes leave the state as it is. -/
theorem run_forM_note (l : List α) (f : α → ζ) (s : σ) :
    (forM l fun a => (note (f a) : Action σ (ζ ⊕ η) ε Unit)).run s =
      ⟨.ok (), s, l.map fun a => .inl (f a)⟩ := by
  induction l with
  | nil => rfl
  | cons a rest ih => simp [ih]

/-- A failure in another form comes from a failure, whatever is made of the answers. -/
theorem exists_cause_of_map_mapError {f : ε → ε'} {g : α → β} {x : Action σ η ε α} {s : σ} {e : ε'}
    (failed : ((g <$> x.mapError f).run s).result = .error e) : ∃ cause, f cause = e := by
  rw [run_map, run_mapError] at failed
  cases answer : (x.run s).result with
  | error cause => exact ⟨cause, by simpa [answer, Except.map] using failed⟩
  | ok a => simp [answer, Except.map] at failed

/-- What is made of the answers of an action comes from an answer, whatever form failures have. -/
theorem exists_answer_of_map_mapError {f : ε → ε'} {g : α → β} {x : Action σ η ε α} {s : σ} {b : β}
    (answered : ((g <$> x.mapError f).run s).result = .ok b) :
    ∃ a, (x.run s).result = .ok a ∧ g a = b := by
  rw [run_map, run_mapError] at answered
  cases answer : (x.run s).result with
  | error cause => simp [answer, Except.map] at answered
  | ok a => exact ⟨a, rfl, by simpa [answer, Except.map] using answered⟩

/-- A run goes on after an answer, from the state that the answer left. -/
theorem run_bind_of_ok {x : Action σ η ε α} {f : α → Action σ η ε β} {s : σ} {a : α}
    (answered : (x.run s).result = .ok a) :
    (x >>= f).run s =
      ⟨((f a).run (x.run s).state).result, ((f a).run (x.run s).state).state,
        (x.run s).events ++ ((f a).run (x.run s).state).events⟩ := by
  rw [run_bind, andThen, answered]

/-- A run stops at a failure. -/
theorem run_bind_of_error {x : Action σ η ε α} {f : α → Action σ η ε β} {s : σ} {e : ε}
    (failed : (x.run s).result = .error e) :
    (x >>= f).run s = ⟨.error e, (x.run s).state, (x.run s).events⟩ := by
  rw [run_bind, andThen, failed]

end Action

/-- The place of a run: the colony that is settled, and the world around it. -/
structure Site (χ ω : Type) where
  colony : χ
  world : ω

/-- An action on the world alone, at a site. -/
def Action.inWorld {χ ω η ε α : Type} (x : Action ω η ε α) : Action (Site χ ω) η ε α :=
  ⟨fun site =>
    let o := x.run site.world
    ⟨o.result, ⟨site.colony, o.state⟩, o.events⟩⟩

/-- An action on the colony alone, at a site. -/
def Action.inColony {χ ω η ε α : Type} (x : Action χ η ε α) : Action (Site χ ω) η ε α :=
  ⟨fun site =>
    let o := x.run site.colony
    ⟨o.result, ⟨o.state, site.world⟩, o.events⟩⟩

@[simp]
theorem Action.run_inWorld {χ ω η ε α : Type} (x : Action ω η ε α) (site : Site χ ω) :
    (x.inWorld : Action (Site χ ω) η ε α).run site =
      ⟨(x.run site.world).result, ⟨site.colony, (x.run site.world).state⟩,
        (x.run site.world).events⟩ :=
  rfl

@[simp]
theorem Action.inWorld_ofExcept {χ ω η ε α : Type} (answer : Except ε α) :
    (Action.ofExcept answer : Action ω η ε α).inWorld =
      (Action.ofExcept answer : Action (Site χ ω) η ε α) := by
  cases answer <;> rfl

end Settlement
