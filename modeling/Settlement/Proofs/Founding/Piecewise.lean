import Mathlib.Data.List.Nodup
import Settlement.Orchestrator
import Settlement.Registry.Basic
import Settlement.Proofs.Action.Embedding
import Settlement.Proofs.Composition.Validity
import Settlement.Proofs.Founding.Call
import Settlement.Proofs.Lists

/-!
# Settling piece by piece

To settle all groups of a founder is to settle one after the other, each asked for by its name,
until one fails; and to ask for a group is to use a founder that has no other.  The first holds only
because no two groups have one name, which building a composition makes sure of.

A founder that is asked more often reports more runs.  So runs are compared without what the founder
says about itself; what its strategies do and report counts, and with recorded strategies every call
counts too.
-/

namespace Settlement

variable {χ ω η ν α : Type}

namespace Founder

/-- The founder with no groups but those with a name. -/
def only (f : Founder χ ω η ν) (group : Marker) : Founder χ ω η ν :=
  { f with groups := f.groups.filter (·.marker == group) }

/-- A run without what the founder itself reports. -/
def Run.bare (x : Run χ ω η α) : Action (Site χ ω) η SettleError α :=
  x.keepEvents Sum.getRight?

/-- That a founder settles its groups one by one. -/
structure Piecewise (f : Founder χ ω η ν) : Prop where
  /-- To settle all groups is to settle each by its name, up to the first that fails. -/
  whole : (f.found none).bare = forM f.markers fun group => (f.found (some group)).bare
  /-- To ask for a group is to settle all groups of a founder that has no other. -/
  piece : ∀ group, (f.found (some group)).bare = ((f.only group).found none).bare
  /-- No two groups have one name. -/
  single : ∀ g ∈ f.groups, (f.only g.marker).groups = [g]
  /-- To ask for a group that is not there has no effect. -/
  absent : ∀ group, group ∉ f.markers → (f.found (some group)).bare = pure ()

@[simp]
theorem markers_recorded (f : Founder χ ω η ν) : f.recorded.markers = f.markers := by
  simp [markers, recorded, Group.recorded]

theorem chosen_some (f : Founder χ ω η ν) (group : Marker) :
    f.chosen (some group) = (f.only group).groups :=
  rfl

theorem chosen_eq_nil {f : Founder χ ω η ν} {group : Marker} (isAbsent : group ∉ f.markers) :
    f.chosen (some group) = [] := by
  refine List.filter_eq_nil_iff.mpr fun g member isNamed => isAbsent ?_
  exact List.mem_map.mpr ⟨g, member, eq_of_beq isNamed⟩

/-- If no two groups have one name, to ask for the name of a group is to ask for that group. -/
theorem chosen_eq_singleton {f : Founder χ ω η ν} (distinct : f.markers.Nodup)
    {g : Group χ ω η ν} (member : g ∈ f.groups) : f.chosen (some g.marker) = [g] := by
  -- The name of the group is found neither before it nor after it.
  obtain ⟨before, after, groups⟩ := List.append_of_mem member
  have named : f.markers = before.map (·.marker) ++ g.marker :: after.map (·.marker) := by
    rw [markers, groups, List.map_append, List.map_cons]
  rw [named, List.nodup_middle, List.nodup_cons, List.mem_append, not_or] at distinct
  have others {l : List (Group χ ω η ν)} (fresh : g.marker ∉ l.map (·.marker)) :
      (l.filter fun g' => (some g.marker).all (g'.marker == ·)) = [] := by
    refine List.filter_eq_nil_iff.mpr fun g' member' isNamed => fresh ?_
    exact List.mem_map.mpr ⟨g', member', eq_of_beq isNamed⟩
  rw [chosen, groups, List.filter_append, List.filter_cons_of_pos (by simp),
    others distinct.1.1, others distinct.1.2, List.nil_append]

/-- Apart from what it reports, a founder does no more than to settle the chosen groups. -/
theorem bare_found (f : Founder χ ω η ν) (filter : Option Marker) :
    (f.found filter).bare = forM (f.chosen filter) fun g => (f.settleGroup g).bare := by
  have opening : (Action.note (.opened f.colony filter) : Run χ ω η Unit).keepEvents
      Sum.getRight? = pure () := Action.keepEvents_report_of_none _ rfl
  have unmatched : (Action.note .noMatchingGroup : Run χ ω η Unit).keepEvents Sum.getRight? =
      pure () := Action.keepEvents_report_of_none _ rfl
  have closing (x : Run χ ω η Unit) : (x.thenAlways (.inl .closed)).keepEvents Sum.getRight? =
      x.keepEvents Sum.getRight? := Action.keepEvents_thenAlways_of_none _ rfl x
  unfold found Run.bare
  simp only [List.forM_eq_forM, Action.keepEvents_bind, Action.keepEvents_forM, opening, closing,
    pure_bind]
  split
  case isTrue => simp only [unmatched, bind_pure_unit]
  case isFalse => exact bind_pure_unit

/-- To settle one chosen group only is to settle that group. -/
theorem result_found_of_chosen {f : Founder χ ω η ν} {filter : Option Marker} {g : Group χ ω η ν}
    (single : f.chosen filter = [g]) (site : Site χ ω) :
    ((f.found filter).run site).result = ((f.settleGroup g).run site).result := by
  have same : (f.found filter).bare = (f.settleGroup g).bare := by
    rw [bare_found, single, List.forM_cons, List.forM_nil]
    exact bind_pure_unit
  exact congrArg (fun x => (x.run site).result) same

/-- A founder whose groups have names of their own settles them one by one. -/
theorem piecewise_of_nodup {f : Founder χ ω η ν} (distinct : f.markers.Nodup) : f.Piecewise where
  whole := by
    -- Both sides go through the groups, and only here do the names have to be distinct.
    rw [bare_found, chosen_none, markers, List.forM_map]
    apply forM_eq_of_forall₂
    rw [List.forall₂_same]
    intro g member
    rw [bare_found, chosen_eq_singleton distinct member, List.forM_cons, List.forM_nil]
    exact bind_pure_unit.symm
  piece group := by
    rw [bare_found, bare_found, chosen_none, chosen_some]
    rfl
  single g member := chosen_eq_singleton distinct member
  absent group isAbsent := by
    rw [bare_found, chosen_eq_nil isAbsent]
    rfl

end Founder

/-! ## Through an orchestrator -/

namespace Orchestrator

variable {τ : Type} [DecidableEq τ] {χ : τ → Type} {t : τ}

/-- A site of one colony type as a site of any. -/
def anySite (t : τ) (site : Site (χ t) ω) : Site (AnyColony χ) ω :=
  ⟨⟨t, site.colony⟩, site.world⟩

/-- A run without what the orchestrator and the founder themselves report. -/
def Settling.bare (x : Settling χ ω η α) : Action (Site (AnyColony χ) ω) η SettleError α :=
  x.keepEvents (Sum.elim (fun _ => none) Sum.getRight?)

/-- That an orchestrator, with a founder for a colony type, settles the groups of such colonies one
by one. -/
structure SettlesPiecewise (o : Orchestrator χ ω η ν) (typeName : τ → ColonyId) (t : τ)
    (f : Founder (χ t) ω η ν) : Prop where
  /-- To settle all groups is to settle each by its name, up to the first that fails. -/
  whole : ∀ site, site.colony.type = t →
    (o.settle typeName).bare.run site =
      (forM f.markers fun group => (o.settleGroup typeName group).bare).run site
  /-- To settle a group is to settle all groups with a founder that has no other. -/
  piece : ∀ group (other : Orchestrator χ ω η ν), other.founder? t = some ⟨t, f.only group⟩ →
    ∀ site, site.colony.type = t →
      (o.settleGroup typeName group).bare.run site = (other.settle typeName).bare.run site
  /-- To settle a group that is not there has no effect. -/
  absent : ∀ group, group ∉ f.markers → ∀ site, site.colony.type = t →
    (o.settleGroup typeName group).bare.run site = ⟨.ok (), site, []⟩

/-- Founders for any colonies settle those of their own type. -/
theorem embeds_found (f : Founder (χ t) ω η ν) (filter : Option Marker) :
    Embeds (anySite t) (f.found filter) (AnyFounder.found ⟨t, f⟩ filter) := by
  intro site
  unfold AnyFounder.found
  exact dif_pos rfl

/-- What an orchestrator does with a colony for which it has a founder. -/
def handOn (f : AnyFounder χ ω η ν) (filter : Option Marker) : Settling χ ω η Unit := do
  Action.note (.settling f.colony filter)
  (f.found filter).below.onFailure fun cause => .inl (.settleFailed f.colony cause)

theorem run_of_founder? {o : Orchestrator χ ω η ν} {f : AnyFounder χ ω η ν}
    {site : Site (AnyColony χ) ω} (composed : o.founder? site.colony.type = some f)
    (nameOf : τ → ColonyId) (filter : Option Marker) :
    (o.run nameOf filter).run site = (handOn f filter).run site := by
  simp [run, handOn, composed]

/-- Apart from what it reports, an orchestrator does what the founder does. -/
theorem bare_handOn (f : AnyFounder χ ω η ν) (filter : Option Marker) :
    (handOn f filter).bare = (f.found filter).keepEvents Sum.getRight? := by
  have settling : (Action.note (.settling f.colony filter) : Settling χ ω η Unit).keepEvents
      (Sum.elim (fun _ => none) Sum.getRight?) = pure () :=
    Action.keepEvents_report_of_none _ rfl
  unfold handOn Settling.bare
  rw [Action.keepEvents_bind, settling, pure_bind,
    Action.keepEvents_onFailure_of_none _ fun _ => rfl, Action.keepEvents_below]
  rfl

/-- Apart from what they report, the orchestrator that has a founder does to colonies of its type
what the founder itself does. -/
theorem embeds_run {o : Orchestrator χ ω η ν} {f : Founder (χ t) ω η ν}
    (composed : o.founder? t = some ⟨t, f⟩) (nameOf : τ → ColonyId) (filter : Option Marker) :
    Embeds (anySite t) (f.found filter).bare (o.run nameOf filter).bare := by
  intro site
  have handed : (o.run nameOf filter).bare.run (anySite t site) =
      (handOn ⟨t, f⟩ filter).bare.run (anySite t site) := by
    unfold Settling.bare
    rw [Action.run_keepEvents, run_of_founder? composed, Action.run_keepEvents]
  rw [handed, bare_handOn]
  exact (embeds_found f filter).keepEvents Sum.getRight? site

/-- An orchestrator settles colonies one group after the other if their founder does. -/
theorem settlesPiecewise {o : Orchestrator χ ω η ν} {f : Founder (χ t) ω η ν}
    (composed : o.founder? t = some ⟨t, f⟩) (piecewise : f.Piecewise) (typeName : τ → ColonyId) :
    o.SettlesPiecewise typeName t f where
  whole := by
    rintro ⟨⟨_, colony⟩, world⟩ rfl
    have each := Embeds.forM (l := f.markers) fun group =>
      embeds_run composed typeName (some group)
    exact (embeds_run composed typeName none).run_eq each piecewise.whole ⟨colony, world⟩
  piece := by
    rintro group other composed' ⟨⟨_, colony⟩, world⟩ rfl
    exact (embeds_run composed typeName (some group)).run_eq
      (embeds_run composed' typeName none) (piecewise.piece group) ⟨colony, world⟩
  absent := by
    rintro group isAbsent ⟨⟨_, colony⟩, world⟩ rfl
    exact (embeds_run composed typeName (some group)).run_eq (.pure ())
      (piecewise.absent group isAbsent) ⟨colony, world⟩

end Orchestrator

/-! ## Founders that are built -/

namespace Composition

variable {τ : Type} [DecidableEq τ] {χ : τ → Type} {t : τ}

/-- No two groups of a founder that is built have one name. -/
theorem nodup_markers_of_build {χ : Type} {c : Composition χ ω ν} {w : ω}
    {f : Founder χ ω StrategyEvent ν} (built : (c.build.run w).result = .ok f) :
    f.markers.Nodup := by
  rw [markers_of_build built]
  exact (sound_of_build built).distinctGroups

/-- Every entry is made ready where it is visited, and becomes the one group of its name. -/
theorem exists_chosen_of_build {χ : Type} {c : Composition χ ω ν} {w w' : ω} {entry : Entry χ ω ν}
    {f : Founder χ ω StrategyEvent ν} (built : (c.build.run w).result = .ok f)
    (visited : (entry, w') ∈ c.visits c.entries w) :
    ∃ r, c.Ready w' entry r ∧ f.chosen (some entry.marker) = [r.group] := by
  obtain ⟨r, ready, member⟩ := exists_ready_of_build built visited
  have single := Founder.chosen_eq_singleton (nodup_markers_of_build built) member
  rw [ready.marker] at single
  exact ⟨r, ready, single⟩

/-- Every founder that is built settles its groups one by one, and so does every orchestrator that
has it for a colony type.  The same holds if its strategies are recorded, so that all calls of them
are compared as well. -/
theorem piecewise_of_build (c : Composition (χ t) ω ν) {w : ω}
    {f : Founder (χ t) ω StrategyEvent ν} (built : (c.build.run w).result = .ok f) :
    (f.Piecewise ∧ f.recorded.Piecewise) ∧
      (∀ (o : Orchestrator χ ω StrategyEvent ν) (typeName : τ → ColonyId),
        o.founder? t = some ⟨t, f⟩ → o.SettlesPiecewise typeName t f) ∧
      ∀ (o : Orchestrator χ ω (Call (χ t) ω StrategyEvent ν ⊕ StrategyEvent) ν)
        (typeName : τ → ColonyId),
        o.founder? t = some ⟨t, f.recorded⟩ → o.SettlesPiecewise typeName t f.recorded := by
  have distinct := nodup_markers_of_build built
  have plain := Founder.piecewise_of_nodup distinct
  have recorded := Founder.piecewise_of_nodup (f.markers_recorded.symm ▸ distinct)
  refine ⟨⟨plain, recorded⟩, ?_, ?_⟩
  · intro o typeName composed
    exact Orchestrator.settlesPiecewise composed plain typeName
  · intro o typeName composed
    exact Orchestrator.settlesPiecewise composed recorded typeName

/-- A nest that hands its ants on, and then sends nobody on patrol. -/
theorem nest_piecewise :
    let registry : Registry Nat Nat := .ofManifest
      { settlers := [{ id := ⟨"Queen"⟩, markers := [⟨"ant"⟩] },
          { id := ⟨"Worker"⟩, markers := [⟨"ant"⟩] }] }
    let nest : Composition (List Bool) Nat Nat :=
      { colony := ⟨"Nest"⟩
        scope := some (registry.scope fun handle => pure handle)
        entries := [.declared ⟨⟨"brood"⟩, .byMarker ⟨"ant"⟩, .identity, .callback⟩,
          .explicit ⟨⟨"patrol"⟩, ⟨"nobody", fun _ => return []⟩, .identity, .forget, [], []⟩]
        acceptCallbacks := [(⟨"brood"⟩, .bound fun value =>
          (Action.update (value.isShared :: ·)).inColony)] }
    ∃ f, (nest.build.run 0).result = .ok f ∧ f.markers = [⟨"brood"⟩, ⟨"patrol"⟩] ∧
      (f.Piecewise ∧ f.recorded.Piecewise) ∧
      ∃ o : Orchestrator (fun _ : Unit => List Bool) Nat StrategyEvent Nat,
        o.founder? () = some ⟨(), f⟩ ∧ o.SettlesPiecewise (fun _ => ⟨"Nest"⟩) () f := by
  intro registry nest
  have answer : (nest.build.run 0).result.toOption.isSome = true := by decide +kernel
  obtain ⟨f, built⟩ := exists_eq_ok_of_isSome answer
  obtain ⟨pieces, orchestrated, -⟩ :=
    piecewise_of_build (τ := Unit) (χ := fun _ => List Bool) (t := ()) nest built
  refine ⟨f, built, markers_of_build built, pieces, ⟨[((), ⟨(), f⟩)]⟩, rfl, ?_⟩
  exact orchestrated _ _ rfl

end Composition

end Settlement
