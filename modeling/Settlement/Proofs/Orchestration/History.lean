import Settlement.Proofs.Orchestration.Dispatch
import Settlement.Proofs.Registry.Story

/-!
# Histories of orchestrators

Founders are offered to an orchestrator again and again, for any types, and between the offers it is
asked to settle colonies.  What it keeps of all that is told by the offers alone: for each type the
founder that was offered first.  Every later offer for the type is refused, and settling colonies
may change the world, but not the table.
-/

namespace Settlement

variable {τ : Type} {χ : τ → Type} {ω η ν : Type}

/-- Something that an orchestrator is asked for. -/
inductive Request (χ : τ → Type) (ω η ν : Type) where
  /-- To keep a founder for the type it was built for. -/
  | compose (f : AnyFounder χ ω η ν)
  /-- To keep a founder for some type. -/
  | register (type : τ) (f : AnyFounder χ ω η ν)
  /-- To settle a colony. -/
  | settle (errand : Errand) (colony : AnyColony χ)

/-- The founder that is offered by a request, and the type it is offered for. -/
def Request.offer? : Request χ ω η ν → Option (τ × AnyFounder χ ω η ν)
  | .compose f => some (f.type, f)
  | .register type f => some (type, f)
  | .settle _ _ => none

/-- An orchestrator, and the world that its founders work in. -/
structure Office (χ : τ → Type) (ω η ν : Type) where
  orchestrator : Orchestrator χ ω η ν := {}
  world : ω

namespace Office

variable [DecidableEq τ]

/-- The office after a request, whether it was granted or not. -/
def next (naming : Naming τ) (office : Office χ ω η ν) : Request χ ω η ν → Office χ ω η ν
  | .compose f =>
      { office with
        orchestrator := ((Orchestrator.compose f).run office.orchestrator).state }
  | .register type f =>
      { office with
        orchestrator := ((Orchestrator.register type f).run office.orchestrator).state }
  | .settle errand colony =>
      let settling := office.orchestrator.carryOut naming errand
      { office with world := (settling.run ⟨colony, office.world⟩).state.world }

/-- The office after some requests, one after the other. -/
def after (naming : Naming τ) (office : Office χ ω η ν) (requests : List (Request χ ω η ν)) :
    Office χ ω η ν :=
  requests.foldl (next naming) office

end Office

/-! ## First offers -/

section

variable [DecidableEq τ] {α : Type}

/-- What is offered first for a type. -/
def firstFor (offers : List (τ × α)) (type : τ) : Option α :=
  (offers.find? fun offer => offer.1 == type).map (·.2)

/-- What is offered first for each type, in the order of these offers. -/
def firsts (offers : List (τ × α)) : List α :=
  (offers.map (·.1)).eraseDups.filterMap (firstFor offers)

example :
    firsts [(1, "Hill"), (2, "Nest"), (1, "Cave"), (3, "Nest")] = ["Hill", "Nest", "Nest"] := by
  decide

theorem firstFor_concat (offers : List (τ × α)) (type own : τ) (a : α) :
    firstFor (offers ++ [(own, a)]) type =
      (firstFor offers type).or (if own = type then some a else none) := by
  unfold firstFor
  rw [List.find?_append, Option.map_or]
  by_cases same : own = type
  · simp [same]
  · simp [same]

theorem mem_types_of_firstFor {offers : List (τ × α)} {type : τ} {a : α}
    (found : firstFor offers type = some a) : type ∈ offers.map (·.1) := by
  obtain ⟨offer, first, -⟩ := Option.map_eq_some_iff.mp found
  refine List.mem_map.mpr ⟨offer, List.mem_of_find?_eq_some first, ?_⟩
  simpa using List.find?_some first

theorem not_mem_types_of_firstFor {offers : List (τ × α)} {type : τ}
    (absent : firstFor offers type = none) : type ∉ offers.map (·.1) := by
  intro member
  obtain ⟨offer, isOffered, rfl⟩ := List.mem_map.mp member
  rw [firstFor, Option.map_eq_none_iff, List.find?_eq_none] at absent
  exact absent offer isOffered (beq_self_eq_true offer.1)

end

namespace Orchestrator

variable [DecidableEq τ]

/-- Registering a founder for a type that has one already changes nothing. -/
theorem run_register_of_some {o : Orchestrator χ ω η ν} {type : τ} {first : AnyFounder χ ω η ν}
    (taken : o.founder? type = some first) (f : AnyFounder χ ω η ν) :
    (register type f).run o = ⟨.error (.duplicateColony first.colony), o, []⟩ := by
  simp [register, taken]

/-- Registering a founder for a type that has none adds it to the table. -/
theorem run_register_of_none {o : Orchestrator χ ω η ν} {type : τ}
    (free : o.founder? type = none) (f : AnyFounder χ ω η ν) :
    (register type f).run o =
      ⟨.ok (), { table := o.table ++ [(type, f)] },
        [.registered f.colony f.founder.groups.length]⟩ := by
  simp [register, free]

/-- That an orchestrator keeps what was offered first for each type. -/
structure KeepsFirst (o : Orchestrator χ ω η ν) (offers : List (τ × AnyFounder χ ω η ν)) :
    Prop where
  founder : ∀ type, o.founder? type = firstFor offers type
  types : o.table.map (·.1) = (offers.map (·.1)).eraseDups
  entries : ∀ entry ∈ o.table, firstFor offers entry.1 = some entry.2

namespace KeepsFirst

variable {o : Orchestrator χ ω η ν} {offers : List (τ × AnyFounder χ ω η ν)}

theorem empty : KeepsFirst ({} : Orchestrator χ ω η ν) [] where
  founder _ := rfl
  types := rfl
  entries _ member := by cases member

/-- One more offer is kept if it is the first for its type, and refused otherwise. -/
theorem register (keeps : o.KeepsFirst offers) (type : τ) (f : AnyFounder χ ω η ν) :
    ((Orchestrator.register type f).run o).state.KeepsFirst (offers ++ [(type, f)]) := by
  have known := keeps.founder type
  have kept {type' : τ} {g : AnyFounder χ ω η ν} (first : firstFor offers type' = some g) :
      firstFor (offers ++ [(type, f)]) type' = some g := by
    rw [firstFor_concat, first, Option.some_or]
  have types : (offers ++ [(type, f)]).map (·.1) = offers.map (·.1) ++ [type] := List.map_append
  cases taken : firstFor offers type with
  | some first =>
      rw [taken] at known
      rw [run_register_of_some known]
      constructor
      case founder =>
        intro type'
        rw [keeps.founder, firstFor_concat]
        by_cases same : type = type'
        · subst same
          rw [taken, Option.some_or]
        · rw [if_neg same, Option.or_none]
      case types =>
        rw [types, eraseDups_concat, if_pos (mem_types_of_firstFor taken)]
        exact keeps.types
      case entries =>
        intro entry member
        exact kept (keeps.entries entry member)
  | none =>
      rw [taken] at known
      rw [run_register_of_none known]
      constructor
      case founder =>
        intro type'
        rw [firstFor_concat, ← keeps.founder type']
        exact firstFor_concat o.table type' type f
      case types =>
        rw [types, eraseDups_concat, if_neg (not_mem_types_of_firstFor taken),
          List.map_append, keeps.types]
        rfl
      case entries =>
        intro entry member
        rcases List.mem_append.mp member with old | new
        · exact kept (keeps.entries entry old)
        · obtain rfl := List.mem_singleton.mp new
          rw [firstFor_concat, taken, if_pos rfl, Option.none_or]

theorem founders (keeps : o.KeepsFirst offers) : o.table.map (·.2) = firsts offers := by
  have found : ∀ entry ∈ o.table, (firstFor offers ∘ Prod.fst) entry = some entry.2 :=
    keeps.entries
  calc o.table.map (·.2)
    _ = o.table.filterMap (fun entry => some entry.2) :=
      (congrFun List.filterMap_eq_map' o.table).symm
    _ = o.table.filterMap (firstFor offers ∘ Prod.fst) := (List.filterMap_congr found).symm
    _ = (o.table.map (·.1)).filterMap (firstFor offers) := List.filterMap_map.symm
    _ = firsts offers := by rw [keeps.types, firsts]

end KeepsFirst

/-! ## Names of colony types -/

omit [DecidableEq τ] in
/-- The names of the colony types are those of the founders, each as often as it comes. -/
theorem colonies_perm (o : Orchestrator χ ω η ν) :
    o.colonies.Perm (o.table.map fun entry => entry.2.colony) :=
  List.mergeSort_perm _ _

omit [DecidableEq τ] in
theorem colonies_sorted (o : Orchestrator χ ω η ν) :
    o.colonies.Pairwise fun a b => a.name ≤ b.name := by
  have transitive (a b c : ColonyId) (first : a.precedes b = true) (second : b.precedes c = true) :
      a.precedes c = true :=
    decide_eq_true (String.le_trans (of_decide_eq_true first) (of_decide_eq_true second))
  have total (a b : ColonyId) : (a.precedes b || b.precedes a) = true := by
    rcases String.le_total a.name b.name with before | after
    · simp [ColonyId.precedes, before]
    · simp [ColonyId.precedes, after]
  apply (List.pairwise_mergeSort transitive total _).imp
  intro a b precedes
  exact of_decide_eq_true precedes

end Orchestrator

namespace Office

variable [DecidableEq τ]

/-! ## The history -/

/-- A request that offers no founder leaves the table as it is. -/
theorem orchestrator_next_of_none (naming : Naming τ) (office : Office χ ω η ν)
    {request : Request χ ω η ν} (offers : request.offer? = none) :
    (office.next naming request).orchestrator = office.orchestrator := by
  cases request with
  | compose f => contradiction
  | register type f => contradiction
  | settle errand colony => rfl

theorem orchestrator_next_of_some (naming : Naming τ) (office : Office χ ω η ν)
    {request : Request χ ω η ν} {type : τ} {f : AnyFounder χ ω η ν}
    (offers : request.offer? = some (type, f)) :
    (office.next naming request).orchestrator =
      ((Orchestrator.register type f).run office.orchestrator).state := by
  cases request with
  | compose f =>
      cases offers
      rfl
  | register type f =>
      cases offers
      rfl
  | settle errand colony => contradiction

theorem keepsFirst_next (naming : Naming τ) {office : Office χ ω η ν}
    {offers : List (τ × AnyFounder χ ω η ν)} (keeps : office.orchestrator.KeepsFirst offers)
    (request : Request χ ω η ν) :
    (office.next naming request).orchestrator.KeepsFirst (offers ++ request.offer?.toList) := by
  cases offered : request.offer? with
  | none =>
      rw [orchestrator_next_of_none naming office offered, Option.toList_none, List.append_nil]
      exact keeps
  | some offer =>
      rw [orchestrator_next_of_some naming office offered]
      exact keeps.register offer.1 offer.2

theorem keepsFirst_after (naming : Naming τ) {office : Office χ ω η ν}
    {offers : List (τ × AnyFounder χ ω η ν)} (keeps : office.orchestrator.KeepsFirst offers)
    (requests : List (Request χ ω η ν)) :
    (office.after naming requests).orchestrator.KeepsFirst
      (offers ++ requests.filterMap Request.offer?) := by
  induction requests generalizing office offers with
  | nil =>
      rw [List.filterMap_nil, List.append_nil]
      exact keeps
  | cons request rest ih =>
      have kept := ih (keepsFirst_next naming keeps request)
      have split : (request :: rest).filterMap Request.offer? =
          request.offer?.toList ++ rest.filterMap Request.offer? := by
        rw [List.filterMap_cons]
        cases request.offer? <;> rfl
      rw [split, ← List.append_assoc]
      exact kept

/-- Whatever an orchestrator has been asked for, its table has for each type the founder that was
offered first, whether it was built for that type or not.  A later offer for the type is refused by
the name of the first founder and changes nothing; an offer for a free type changes no other type;
and settling changes no type at all.  The colonies are the names of the first founders, each as
often as it comes, in their order.  The orchestrator goes by this table when it settles colonies,
and a failure that is one of composing comes before anything else has happened. -/
theorem after_keeps_first (naming : Naming τ) (requests : List (Request χ ω η ν)) (w : ω) :
    let office := Office.after naming { world := w } requests
    let o := office.orchestrator
    let offers := requests.filterMap Request.offer?
    (∀ type, o.founder? type = firstFor offers type) ∧
    (∀ type first f, firstFor offers type = some first →
      (Orchestrator.register type f).run o = ⟨.error (.duplicateColony first.colony), o, []⟩) ∧
    (∀ first f, firstFor offers f.type = some first →
      (Orchestrator.compose f).run o = ⟨.error (.duplicateColony first.colony), o, []⟩) ∧
    (∀ type f, firstFor offers type = none →
      let outcome := (Orchestrator.register type f).run o
      outcome.result = .ok () ∧ ∀ type',
        outcome.state.founder? type' = if type = type' then some f else o.founder? type') ∧
    (∀ errand colony, (office.next naming (.settle errand colony)).orchestrator = o) ∧
    o.colonies.Pairwise (fun a b => a.name ≤ b.name) ∧
    o.colonies.Perm ((firsts offers).map AnyFounder.colony) ∧
    o.Dispatches naming := by
  intro office o offers
  have unused : ({ world := w } : Office χ ω η ν).orchestrator.KeepsFirst [] :=
    Orchestrator.KeepsFirst.empty
  have keeps : o.KeepsFirst offers := keepsFirst_after naming unused requests
  have taken (type : τ) (first f : AnyFounder χ ω η ν)
      (isFirst : firstFor offers type = some first) :
      (Orchestrator.register type f).run o = ⟨.error (.duplicateColony first.colony), o, []⟩ :=
    Orchestrator.run_register_of_some ((keeps.founder type).trans isFirst) f
  refine ⟨keeps.founder, taken, fun first f => taken f.type first f, ?_, fun _ _ => rfl,
    o.colonies_sorted, ?_, o.dispatches naming⟩
  · intro type f free outcome
    have run : outcome = _ := Orchestrator.run_register_of_none ((keeps.founder type).trans free) f
    refine ⟨congrArg Outcome.result run, fun type' => ?_⟩
    rw [(keeps.register type f).founder, firstFor_concat, keeps.founder]
    by_cases same : type = type'
    · subst same
      rw [free, Option.none_or, if_pos rfl]
    · rw [if_neg same, if_neg same, Option.or_none]
  · rw [← keeps.founders, List.map_map]
    exact o.colonies_perm

end Office

end Settlement
