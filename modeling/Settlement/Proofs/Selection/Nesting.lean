import Mathlib.Data.Finset.Card
import Settlement.Proofs.Selection.Lookups
import Settlement.Proofs.Selection.Observation

/-!
# How deep a walk nests

The links between settlers may lead anywhere: back to the settler they start from, through any
number of cycles, or to types that are not declared.  A visit still ends, because the types under
visit are declared ones and each of them is visited once at a time, so that the visits open at one
time are at most as many as there are identities.  Nothing else is asked of a scope: it may change
what it answers about the supertypes of a settler from one question to the next, and it may fail.

A scope may also know types that it does not list.  Its selections meet no limit if it counts them,
and a selection that meets no limit comes out the same with room for more visits.
-/

namespace Settlement

variable {ω ν α : Type}

/-- Keeping an invariant of the world, a scope lists settlers of some identities, each of them once or
more, and has no others. -/
structure Scope.Declares (scope : Scope ω ν) (inv : ω → Prop) (ids : Finset SettlerId) : Prop where
  lists : Ensures inv scope.settlers (fun settlers => (settlers.map (·.id)).toFinset = ids)
    (fun _ => True)
  looksUp : ∀ id, Ensures inv (scope.settler id) (fun entry => ∀ s ∈ entry, s.id ∈ ids)
    (fun _ => True)

/-- Keeping an invariant of the world, a scope knows settlers of some identities, listed or not, and
these are no more than it lists and counts as unlisted. -/
structure Scope.Counts (scope : Scope ω ν) (inv : ω → Prop) (ids : Finset SettlerId) : Prop where
  lists : Ensures inv scope.settlers
    (fun settlers => (∀ s ∈ settlers, s.id ∈ ids) ∧ ids.card ≤ settlers.length + scope.unlisted)
    (fun _ => True)
  looksUp : ∀ id, Ensures inv (scope.settler id) (fun entry => ∀ s ∈ entry, s.id ∈ ids)
    (fun _ => True)

/-- Where all that is known is listed, none need be counted as unlisted. -/
theorem Scope.Declares.counts {scope : Scope ω ν} {inv : ω → Prop} {ids : Finset SettlerId}
    (declares : scope.Declares inv ids) : scope.Counts inv ids where
  lists := by
    apply declares.lists.weaken _ fun _ failed => failed
    rintro settlers rfl
    constructor
    · exact fun s listed => List.mem_toFinset.mpr (List.mem_map_of_mem listed)
    · exact (card_ids_le settlers).trans (Nat.le_add_right _ _)
  looksUp := declares.looksUp

namespace Selector

/-- A note that fits a walk among some settlers: a link is one of theirs, and the types under visit
are among them, each once.  No walk asks for all settlers. -/
def Note.Fits (known : Settler → Prop) : Note → Prop
  | .lists => False
  | .follows settler supertype => ∃ s, known s ∧ s.id = settler ∧ supertype ∈ s.supertypes
  | .visits visiting => visiting.Nodup ∧ ∀ id ∈ visiting, ∃ s, known s ∧ s.id = id

/-- All notes fit. -/
def AllFit (known : Settler → Prop) (notes : List Note) : Prop :=
  ∀ n ∈ notes, n.Fits known

section

variable {known : Settler → Prop}

theorem allFit_nil : AllFit known [] :=
  fun _ member => absurd member List.not_mem_nil

theorem allFit_singleton {n : Note} : AllFit known [n] ↔ n.Fits known :=
  List.forall_mem_singleton

theorem allFit_append {early late : List Note} :
    AllFit known (early ++ late) ↔ AllFit known early ∧ AllFit known late :=
  List.forall_mem_append

/-- The settlers are listed once, before all walks, and all else fits. -/
def ListsFirst (known : Settler → Prop) (notes : List Note) : Prop :=
  ∃ more, notes = .lists :: more ∧ AllFit known more

theorem ListsFirst.append {early late : List Note} (first : ListsFirst known early)
    (fits : AllFit known late) : ListsFirst known (early ++ late) := by
  obtain ⟨more, rfl, fits'⟩ := first
  exact ⟨more ++ late, rfl, allFit_append.mpr ⟨fits', fits⟩⟩

end

variable {inv : ω → Prop} {known : Settler → Prop} {ids : Finset SettlerId} {scope : Scope ω ν}
  {base : SettlerId} {beyond : Settler → Walk → Selection ω (Bool × Walk)}
  {beyond' : Settler → Walk → Selection (Noted ω) (Bool × Walk)} {failure : DiscoveryError → Prop}

/-- The types under visit are not more than there are. -/
theorem length_le_of_fits (declared : ∀ s, known s → s.id ∈ ids) {visiting : List SettlerId}
    (fits : (Note.visits visiting).Fits known) : visiting.length ≤ ids.card := by
  obtain ⟨nodup, listed⟩ := fits
  rw [← List.toFinset_card_of_nodup nodup]
  apply Finset.card_le_card
  intro id member
  obtain ⟨s, isKnown, rfl⟩ := listed id (List.mem_toFinset.mp member)
  exact declared s isKnown

/-- A search through the supertypes of a settler leaves under visit what was, and all that is noted
about it fits, if that holds of the visits inside it. -/
theorem records_reaches_fitting
    (looksUp : ∀ id, Ensures inv (scope.settler id) (fun entry => ∀ t ∈ entry, known t) failure)
    {inner : Settler → Walk → Selection ω (Bool × Walk)}
    {inner' : Settler → Walk → Selection (Noted ω) (Bool × Walk)} {s : Settler} {w : Walk}
    (isKnown : known s) (enters : ∀ t, known t → ∀ w', w'.visiting = w.visiting →
      Records inv (inner t w') (inner' t w')
        (fun r more => r.2.visiting = w'.visiting ∧ AllFit known more)
        (AllFit known)) :
    Records inv (reaches scope base inner s.supertypes w)
      (reaches (scope.noting s.id) base inner' s.supertypes w)
      (fun r more => r.2.visiting = w.visiting ∧ AllFit known more)
      (AllFit known) := by
  apply records_reaches looksUp
    (fun _ w' notes => w'.visiting = w.visiting ∧ AllFit known notes)
    (fun _ _ _ holds => holds) (fun _ _ _ holds => holds.2)
  · rintro parent member _ w' notes ⟨same, fine⟩
    exact ⟨same, allFit_append.mpr ⟨fine, allFit_singleton.mpr ⟨s, isKnown, rfl, member⟩⟩⟩
  · rintro _ _ t isKnown' _ w' notes ⟨same, fine⟩
    apply (enters t isKnown' w' same).weaken
    · rintro r more ⟨kept, fits⟩
      exact ⟨kept.trans same, allFit_append.mpr ⟨fine, fits⟩⟩
    · exact fun more fits => allFit_append.mpr ⟨fine, fits⟩
  · exact ⟨rfl, allFit_nil⟩

/-- Visits that may nest deeper than there are types never get so deep, and all that is noted about
them fits.  They leave under visit what was. -/
theorem records_visits
    (looksUp : ∀ id, Ensures inv (scope.settler id) (fun entry => ∀ t ∈ entry, known t) failure)
    (declared : ∀ s, known s → s.id ∈ ids) {depth depth' : Nat} {s : Settler} {w : Walk}
    (isKnown : known s) (fits : (Note.visits w.visiting).Fits known)
    (deep : ids.card < depth + w.visiting.length)
    (deep' : ids.card < depth' + w.visiting.length) :
    Records inv (visits (.plain scope) base depth beyond s w)
      (visits (.noting scope) base depth' beyond' s w)
      (fun r more => r.2.visiting = w.visiting ∧ AllFit known more)
      (AllFit known) := by
  have shallow := length_le_of_fits declared fits
  -- the types under visit would outnumber the identities at a depth of zero
  induction depth generalizing depth' s w with
  | zero => omega
  | succ depth ih =>
      obtain _ | depth' := depth'
      · omega
      apply records_visit
      · exact fun _ _ => ⟨rfl, allFit_nil⟩
      · exact fun _ _ => ⟨rfl, allFit_nil⟩
      · intro _ isNew
        have entered : (Note.visits (w.enter s.id).visiting).Fits known := by
          refine ⟨List.nodup_cons.mpr ⟨isNew, fits.1⟩, ?_⟩
          intro id member
          rcases List.mem_cons.mp member with rfl | member
          · exact ⟨s, isKnown, rfl⟩
          · exact fits.2 id member
        have inside (t : Settler) (isKnown' : known t) (w' : Walk)
            (same : w'.visiting = (w.enter s.id).visiting) :
            Records inv (visits (.plain scope) base depth beyond t w')
              (visits (.noting scope) base depth' beyond' t w')
              (fun r more => r.2.visiting = w'.visiting ∧ AllFit known more)
              (AllFit known) := by
          have longer : w'.visiting.length = w.visiting.length + 1 := congrArg List.length same
          have fits' : (Note.visits w'.visiting).Fits known := same ▸ entered
          exact ih isKnown' fits' (by omega) (by omega) (length_le_of_fits declared fits')
        apply (records_reaches_fitting looksUp isKnown inside).weaken
        · rintro ⟨isFound, w'⟩ more ⟨same, fine⟩
          have left : (w'.leave s.id isFound).visiting = w.visiting := by
            rw [Walk.visiting_leave, same]
            exact List.erase_cons_head s.id w.visiting
          rw [left]
          refine ⟨rfl, ?_⟩
          simp only [allFit_append, allFit_singleton]
          exact ⟨entered, fine, fits⟩
        · intro more fine
          simp only [allFit_append, allFit_singleton]
          exact ⟨entered, fine⟩

/-- So does a selection below a type, whose walks may nest deeper than there are types. -/
theorem records_scanBelow_visits
    (looksUp : ∀ id, Ensures inv (scope.settler id) (fun entry => ∀ t ∈ entry, known t) failure)
    (declared : ∀ s, known s → s.id ∈ ids) {listed : List Settler → Prop}
    (lists : Ensures inv scope.settlers listed failure)
    (isKnown : ∀ settlers, listed settlers → ∀ s ∈ settlers, known s) {depth depth' : Nat → Nat}
    (deep : ∀ settlers, listed settlers → ids.card < depth settlers.length)
    (deep' : ∀ settlers, listed settlers → ids.card < depth' settlers.length)
    (ctx : SelectionContext) :
    Records inv
      (scanBelow scope.settlers (fun count => visits (.plain scope) base (depth count) beyond) base
        ctx)
      (scanBelow (scope.settlers.noted [.lists])
        (fun count => visits (.noting scope) base (depth' count) beyond') base ctx)
      (fun _ => ListsFirst known) (ListsFirst known) := by
  have blank : ListsFirst known [.lists] := ⟨[], rfl, allFit_nil⟩
  apply records_scanBelow (fun _ _ _ => ListsFirst known) lists (fun _ _ => blank) blank
    (fun _ _ _ _ fits => fits)
  intro settlers isListed done s rest all w notes fits
  have member : s ∈ settlers := by simp [all]
  have idle : (Note.visits ({ w with visiting := [] } : Walk).visiting).Fits known :=
    ⟨List.nodup_nil, by simp⟩
  apply (records_visits looksUp declared (isKnown settlers isListed s member) idle
    (deep settlers isListed) (deep' settlers isListed)).weaken
  · rintro r more ⟨-, fits'⟩
    exact fits.append fits'
  · exact fun more fits' => fits.append fits'

/-- A run goes as another does, and also with notes, which tell that the types under visit are
always declared ones, each visited once at a time. -/
def StaysWithin (ids : Finset SettlerId) (w : ω) (run : Outcome ω StrategyEvent DiscoveryError α)
    (x : Selection ω α) (y : Selection (Noted ω) α) : Prop :=
  x.run w = run ∧ ∃ notes, y.run ⟨w, []⟩ = ⟨run.result, ⟨run.state, notes⟩, run.events⟩ ∧
    ∀ visiting, .visits visiting ∈ notes → visiting.Nodup ∧ ∀ id ∈ visiting, id ∈ ids

theorem staysWithin_of_records {w : ω} (holds : inv w) {x x' : Selection ω α}
    {y : Selection (Noted ω) α} {good : List Note → Prop}
    (records : Records inv x y (fun _ => good) good)
    (records' : Records inv x' y (fun _ => good) good)
    (fits : ∀ notes, good notes → ∀ visiting, .visits visiting ∈ notes →
      (Note.visits visiting).Fits (·.id ∈ ids)) :
    StaysWithin ids w (x.run w) x' y := by
  obtain ⟨notes, goes, isGood⟩ := records.run_eq holds
  obtain ⟨notes', goes', -⟩ := records'.run_eq holds
  refine ⟨?_, notes, goes, ?_⟩
  · have same := goes'.symm.trans goes
    simp only [Outcome.mk.injEq, Noted.mk.injEq] at same
    obtain ⟨result, ⟨state, -⟩, events⟩ := same
    calc
      x'.run w = ⟨(x'.run w).result, (x'.run w).state, (x'.run w).events⟩ := rfl
      _ = x.run w := by rw [result, state, events]
  · intro visiting noted
    obtain ⟨nodup, listed⟩ := fits notes isGood visiting noted
    refine ⟨nodup, fun id member => ?_⟩
    obtain ⟨s, isDeclared, rfl⟩ := listed id member
    exact isDeclared

/-! ## Selections -/

/-- A selection by a supertype does not meet the limit of its walks where all known types are
counted: it goes the same whatever would happen `beyond` visits that may nest deeper than there are
types.  The types under visit are known ones, each visited once at a time. -/
theorem staysWithin_select (counts : scope.Counts inv ids) (base : SettlerId) {depth : Nat → Nat}
    (deep : ∀ count, ids.card ≤ count + scope.unlisted → ids.card < depth count)
    (beyond : Settler → Walk → Selection ω (Bool × Walk))
    (beyond' : Settler → Walk → Selection (Noted ω) (Bool × Walk)) {w : ω} (holds : inv w)
    (ctx : SelectionContext) :
    StaysWithin ids w (((bySupertype scope base).select ctx).run w)
      (scanBelow scope.settlers (fun count => visits (.plain scope) base (depth count) beyond) base
        ctx)
      (scanBelow (scope.settlers.noted [.lists])
        (fun count => visits (.noting scope) base (depth count) beyond') base ctx) := by
  have declared (s : Settler) (isDeclared : s.id ∈ ids) : s.id ∈ ids := isDeclared
  have goes {depth' : Nat → Nat}
      (deep' : ∀ count, ids.card ≤ count + scope.unlisted → ids.card < depth' count)
      (beyond : Settler → Walk → Selection ω (Bool × Walk)) :
      Records inv
        (scanBelow scope.settlers (fun count => visits (.plain scope) base (depth' count) beyond)
          base ctx)
        (scanBelow (scope.settlers.noted [.lists])
          (fun count => visits (.noting scope) base (depth count) beyond') base ctx)
        (fun _ => ListsFirst (·.id ∈ ids)) (ListsFirst (·.id ∈ ids)) :=
    records_scanBelow_visits counts.looksUp declared counts.lists (fun _ listed => listed.1)
      (fun _ listed => deep' _ listed.2) (fun _ listed => deep _ listed.2) ctx
  rw [select_eq_visits]
  apply staysWithin_of_records holds (goes (fun _ => Nat.lt_succ_of_le) _) (goes deep beyond)
  rintro notes ⟨more, rfl, fits⟩ visiting noted
  rcases List.mem_cons.mp noted with isList | noted
  · contradiction
  · exact fits _ noted

/-! ## Room for more visits -/

/-- The search through some supertypes only asks a scope, whatever room there is for visits. -/
theorem reaches_allowing (scope : Scope ω ν) (unlisted : Nat) (base : SettlerId)
    (inner : Settler → Walk → Selection ω (Bool × Walk)) :
    reaches (scope.allowing unlisted) base inner = reaches scope base inner := by
  funext parents w
  induction parents generalizing w with
  | nil => rfl
  | cons parent rest ih =>
      simp only [reaches, ih]
      rfl

theorem visits_allowing (scope : Scope ω ν) (unlisted : Nat) (base : SettlerId) (depth : Nat)
    (beyond : Settler → Walk → Selection ω (Bool × Walk)) :
    visits (.plain (scope.allowing unlisted)) base depth beyond =
      visits (.plain scope) base depth beyond := by
  induction depth with
  | zero => rfl
  | succ depth ih =>
      rw [visits, visits, ih]
      unfold visit
      simp only [Observer.plain, reaches_allowing]

/-- A selection that does not meet the limit of its walks, since it comes out the same whatever would
happen `beyond` it, comes out the same if there is room for more visits. -/
theorem run_select_allowing {ctx : SelectionContext} {w : ω}
    {run : Outcome ω StrategyEvent DiscoveryError (List Candidate)}
    (free : ∀ beyond, (scanBelow scope.settlers
      (fun count => visits (.plain scope) base (count + scope.unlisted + 1) beyond) base ctx).run w =
        run)
    {unlisted : Nat} (more : scope.unlisted ≤ unlisted) :
    ((bySupertype (scope.allowing unlisted) base).select ctx).run w = run := by
  obtain ⟨room, rfl⟩ := Nat.exists_eq_add_of_le more
  -- beyond the limit of the one selection lie the visits that the other has room for
  rw [select_eq_visits, ← free (visits (.plain scope) base room (walk scope base 0))]
  have added (count : Nat) :
      count + (scope.unlisted + room) + 1 = count + scope.unlisted + 1 + room := by omega
  simp only [visits_allowing, ← visits_add, ← added]
  rfl

/-- So does every selection where all known types are counted. -/
theorem run_select_allowing_of_counts (counts : scope.Counts inv ids) (base : SettlerId)
    (ctx : SelectionContext) {w : ω} (holds : inv w) {unlisted : Nat}
    (more : scope.unlisted ≤ unlisted) :
    ((bySupertype (scope.allowing unlisted) base).select ctx).run w =
      ((bySupertype scope base).select ctx).run w := by
  refine run_select_allowing (fun beyond => ?_) more
  exact (staysWithin_select counts base (fun _ => Nat.lt_succ_of_le) beyond
    (fun _ _ => Action.fail (.other "visits nest too deep")) holds ctx).1

/-! ## Walks that end -/

/-- Every walk from a declared settler ends, whatever links there are: more than one visit for each
identity and one more are never open inside one another, since the walk goes the same whatever would
happen `beyond` them.  The types under visit are declared, and each is visited once at a time.  So
the selection by a supertype ends, too. -/
theorem walks_nest_within_declared (declares : scope.Declares inv ids) (base : SettlerId)
    {depth : Nat} (deep : ids.card < depth)
    (beyond : Settler → Walk → Selection ω (Bool × Walk))
    (beyond' : Settler → Walk → Selection (Noted ω) (Bool × Walk)) {w : ω} (holds : inv w) :
    (∀ s, s.id ∈ ids → ∀ known : Std.TreeMap SettlerId Bool,
      StaysWithin ids w ((walk scope base (ids.card + 1) s { known }).run w)
        (visits (.plain scope) base depth beyond s { known })
        (visits (.noting scope) base depth beyond' s { known })) ∧
    ∀ ctx, StaysWithin ids w (((bySupertype scope base).select ctx).run w)
      (scanBelow scope.settlers (fun _ => visits (.plain scope) base depth beyond) base ctx)
      (scanBelow (scope.settlers.noted [.lists])
        (fun _ => visits (.noting scope) base depth beyond') base ctx) := by
  have declared (s : Settler) (isDeclared : s.id ∈ ids) : s.id ∈ ids := isDeclared
  constructor
  · intro s isDeclared known
    have idle : (Note.visits ({ known } : Walk).visiting).Fits (·.id ∈ ids) :=
      ⟨List.nodup_nil, by simp⟩
    have goes {depth' : Nat} (deep' : ids.card < depth')
        (beyond : Settler → Walk → Selection ω (Bool × Walk)) :
        Records inv (visits (.plain scope) base depth' beyond s { known })
          (visits (.noting scope) base depth beyond' s { known }) (fun _ => AllFit (·.id ∈ ids))
          (AllFit (·.id ∈ ids)) :=
      (records_visits declares.looksUp declared isDeclared idle (by simpa) (by simpa)).weaken
        (fun _ _ holds => holds.2) fun _ fits => fits
    rw [← visits_plain]
    exact staysWithin_of_records holds (goes (Nat.lt_succ_self _) _) (goes deep beyond)
      fun _ fits _ => fits _
  · exact fun ctx =>
      staysWithin_select declares.counts base (fun _ _ => deep) beyond beyond' holds ctx

/-- There are two cycles through a worker, one of them with a link given twice, and a larva below
them is a subtype of itself and of a type that is not declared.  All four types are under visit at
one time, and the larva is looked at once more: five visits nest, and four would be too few. -/
theorem tangle_nests_within_declared :
    let settlers : List Settler :=
      [{ id := ⟨"Worker"⟩, supertypes := [⟨"Soldier"⟩, ⟨"Soldier"⟩] },
        { id := ⟨"Soldier"⟩, supertypes := [⟨"Drone"⟩, ⟨"Worker"⟩] },
        { id := ⟨"Drone"⟩, supertypes := [⟨"Worker"⟩, ⟨"Larva"⟩] },
        { id := ⟨"Larva"⟩, supertypes := [⟨"Larva"⟩, ⟨"Egg"⟩] }]
    let scope : Scope Unit Nat := .ofList settlers
    let ids : Finset SettlerId := (settlers.map (·.id)).toFinset
    let ctx : SelectionContext := ⟨⟨"Nest"⟩, ⟨"brood"⟩, .construct⟩
    let beyond {ω : Type} (_ : Settler) (_ : Walk) : Selection ω (Bool × Walk) :=
      Action.fail (.other "too deep")
    let select (depth : Nat) := scanBelow (scope.settlers.noted [.lists])
      (fun _ => visits (.noting scope) ⟨"Ant"⟩ depth beyond) ⟨"Ant"⟩ ctx
    scope.Declares (fun _ => True) ids ∧ ids.card < 5 ∧
      StaysWithin ids () (((bySupertype scope ⟨"Ant"⟩).select ctx).run ())
        (scanBelow scope.settlers (fun _ => visits (.plain scope) ⟨"Ant"⟩ 5 beyond) ⟨"Ant"⟩ ctx)
        (select 5) ∧
      .visits [⟨"Larva"⟩, ⟨"Drone"⟩, ⟨"Soldier"⟩, ⟨"Worker"⟩] ∈
        ((select 5).run ⟨(), []⟩).state.notes ∧
      ((select 4).run ⟨(), []⟩).result = .error (.other "too deep") := by
  intro settlers scope ids ctx beyond select
  have declares : scope.Declares (fun _ => True) ids := by
    constructor
    · exact .pure rfl
    · intro id
      apply Ensures.pure
      intro s found
      exact List.mem_toFinset.mpr (List.mem_map_of_mem (List.mem_of_find?_eq_some found))
  have few : ids.card < 5 := by decide +kernel
  refine ⟨declares, few, ?_, by decide +kernel, by decide +kernel⟩
  exact (walks_nest_within_declared declares ⟨"Ant"⟩ few beyond beyond trivial).2 ctx

end Selector

end Settlement
