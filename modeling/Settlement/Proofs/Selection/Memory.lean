import Settlement.Proofs.Selection.Lookups

/-!
# What a walk remembers

A walk may begin anywhere: with any types under visit, and with any memory that is right.  Its
positive answers are final, though they may rest on what is remembered about a type under visit.  Its
negative ones are relative: all ways up that there may be lead through types under visit.  The two
are not alike, but only final answers are remembered, and so the memory stays right about every
identity, whether a settler has it or not.
-/

namespace Settlement.Selector

variable {ω ν : Type} {settlers : List Settler} {base : SettlerId}

/-- An identity is that of the wanted type, or of a settler below it. -/
def IsBelow (settlers : List Settler) (base id : SettlerId) : Prop :=
  id = base ∨ ∃ s ∈ settlers, s.id = id ∧ Below settlers base s

theorem isBelow_iff_below (distinct : (settlers.map (·.id)).Nodup) {s : Settler}
    (listed : s ∈ settlers) : IsBelow settlers base s.id ↔ Below settlers base s := by
  constructor
  · rintro (same | ⟨t, listed', sameId, below⟩)
    · exact .inl same
    · obtain rfl := eq_of_id_eq distinct listed' listed sameId
      exact below
  · exact fun below => .inr ⟨s, listed, rfl, below⟩

/-- Of the identities that no settler has, only that of the wanted type is below it. -/
theorem isBelow_iff_eq_of_not_mem {id : SettlerId} (unlisted : id ∉ settlers.map (·.id)) :
    IsBelow settlers base id ↔ id = base := by
  constructor
  · rintro (same | ⟨s, listed, rfl, -⟩)
    · exact same
    · exact absurd (List.mem_map_of_mem listed) unlisted
  · exact .inl

namespace Walk

variable {w w' : Walk}

/-- All that is remembered tells whether an identity is below the wanted type. -/
def Right (settlers : List Settler) (base : SettlerId) (w : Walk) : Prop :=
  ∀ id found, w.known[id]? = some found → (found = true ↔ IsBelow settlers base id)

theorem Right.insert (right : w.Right settlers base) {id : SettlerId} {found : Bool}
    (tells : found = true ↔ IsBelow settlers base id) :
    ({ w with known := w.known.insert id found } : Walk).Right settlers base := by
  intro id' found' remembered
  rw [Std.TreeMap.getElem?_insert] at remembered
  split at remembered
  case isTrue same =>
    obtain rfl : id = id' := Std.LawfulEqCmp.compare_eq_iff_eq.mp same
    cases remembered
    exact tells
  case isFalse => exact right id' found' remembered

/-- The wanted type itself is remembered from the start. -/
theorem right_start (settlers : List Settler) (base : SettlerId) :
    (start base).Right settlers base := by
  have blank : ({} : Walk).Right settlers base := by simp [Right]
  exact blank.insert (iff_of_true rfl (.inl rfl))

theorem Right.sound (right : w.Right settlers base) (distinct : (settlers.map (·.id)).Nodup)
    (wanted : w.known[base]? = some true) : w.Sound settlers base where
  wanted := wanted
  right s listed found remembered := by
    rw [right s.id found remembered, isBelow_iff_below distinct listed, leadsTo_iff_below]

/-- Who learns only what is right of settlers, and remembers only what is right, goes on to. -/
theorem Learns.right (learns : w.Learns settlers base w')
    (distinct : (settlers.map (·.id)).Nodup) (right : w.Right settlers base) :
    w'.Right settlers base := by
  intro id found remembered
  by_cases isListed : id ∈ settlers.map (·.id)
  · obtain ⟨s, listed, rfl⟩ := List.mem_map.mp isListed
    rw [learns.sound.right s listed found remembered, isBelow_iff_below distinct listed,
      leadsTo_iff_below]
  · rw [learns.others id isListed] at remembered
    exact right id found remembered

end Walk

variable {inv : ω → Prop} {scope : Scope ω ν} {fails : DiscoveryError → Prop}

/-- Over a scope of distinct settlers that answers from their list, or fails, a walk may begin at any
of them, with any types under visit and any memory that is right and holds the wanted type.  When it
answers, the types under visit are what they were, and the memory has kept its entries and is still
right.  If the answer is positive, the settler is below the wanted type.  If it is negative, no way
up to the wanted type avoids the types under visit, so that with none of these the settler is not
below it.  Where the walk may nest deeper than there are settlers not under visit, it fails only as
the scope does. -/
theorem memory_stays_right (answers : scope.AnswersFrom inv settlers fails) {s : Settler}
    (listed : s ∈ settlers) {w : Walk} (wanted : w.known[base]? = some true)
    (right : w.Right settlers base) (depth : Nat) :
    Ensures inv (walk scope base depth s w)
      (fun (found, w') =>
        w'.visiting = w.visiting ∧
        w'.Right settlers base ∧
        (∀ (id : SettlerId) (answer : Bool),
          w.known[id]? = some answer → w'.known[id]? = some answer) ∧
        (found = true → Below settlers base s) ∧
        (found = false → ¬LeadsTo settlers base w.visiting s) ∧
        (found = false → w.visiting = [] → ¬Below settlers base s))
      (fun e => (w.unvisited settlers).card < depth → fails e) := by
  have sound := right.sound answers.distinct wanted
  apply (walk_learns answers listed sound).weaken _ fun _ blames => blames
  rintro ⟨found, w'⟩ ⟨learns, tells⟩
  refine ⟨learns.visiting, learns.right answers.distinct right, learns.kept, ?_, ?_, ?_⟩
  · rintro rfl
    exact (leadsTo_iff_below s).mp tells
  · rintro rfl
    exact tells
  · rintro rfl idle below
    have around : ¬LeadsTo settlers base w.visiting s := tells
    rw [idle] at around
    exact around ((leadsTo_iff_below s).mpr below)

/-- The queen leads back to the larva, and the worker is under visit, as is a ghost that no settler
is.  So the walk from the larva does not find the way through the worker, and does not remember its
answer.  If the worker is remembered, though, then its visit does not matter: the larva is found and
remembered, too. -/
theorem larva_memory_stays_right :
    let larva : Settler := { id := ⟨"Larva"⟩, supertypes := [⟨"Queen"⟩, ⟨"Worker"⟩] }
    let worker : Settler := { id := ⟨"Worker"⟩, supertypes := [⟨"Ant"⟩] }
    let settlers : List Settler :=
      [larva, { id := ⟨"Queen"⟩, supertypes := [⟨"Larva"⟩] }, worker]
    let scope : Scope Unit Nat := .ofList settlers
    let w : Walk :=
      { known := (Walk.start ⟨"Ant"⟩).known.insert ⟨"Egg"⟩ false
        visiting := [⟨"Worker"⟩, ⟨"Ghost"⟩] }
    let w' : Walk := { w with known := w.known.insert ⟨"Worker"⟩ true }
    let answer (w : Walk) := ((walk scope ⟨"Ant"⟩ 3 larva w).run ()).result
    scope.AnswersFrom (fun _ => True) settlers (fun _ => False) ∧
      larva ∈ settlers ∧
      (w.known[(⟨"Ant"⟩ : SettlerId)]? = some true ∧ w.Right settlers ⟨"Ant"⟩) ∧
      (w'.known[(⟨"Ant"⟩ : SettlerId)]? = some true ∧ w'.Right settlers ⟨"Ant"⟩) ∧
      (∃ after, answer w = .ok (false, after) ∧
        after.visiting = w.visiting ∧ after.Right settlers ⟨"Ant"⟩ ∧
        after.known[(⟨"Larva"⟩ : SettlerId)]? = none ∧
        ¬LeadsTo settlers ⟨"Ant"⟩ [⟨"Worker"⟩, ⟨"Ghost"⟩] larva) ∧
      ∃ after, answer w' = .ok (true, after) ∧
        after.visiting = w'.visiting ∧ after.Right settlers ⟨"Ant"⟩ ∧
        after.known[(⟨"Larva"⟩ : SettlerId)]? = some true ∧
        Below settlers ⟨"Ant"⟩ larva := by
  intro larva worker settlers scope w w' answer
  have distinct : (settlers.map (·.id)).Nodup := by decide
  have answers : scope.AnswersFrom (fun _ => True) settlers (fun _ => False) :=
    Scope.answersFrom_ofList distinct
  have listed : larva ∈ settlers := List.mem_cons_self
  have wanted : w.known[(⟨"Ant"⟩ : SettlerId)]? = some true := by decide +kernel
  have wanted' : w'.known[(⟨"Ant"⟩ : SettlerId)]? = some true := by decide +kernel
  have right : w.Right settlers ⟨"Ant"⟩ := by
    have egg : ¬IsBelow settlers ⟨"Ant"⟩ ⟨"Egg"⟩ := by
      rw [isBelow_iff_eq_of_not_mem (by decide)]
      decide
    exact (Walk.right_start settlers ⟨"Ant"⟩).insert (iff_of_false Bool.false_ne_true egg)
  have right' : w'.Right settlers ⟨"Ant"⟩ := by
    have below : Below settlers ⟨"Ant"⟩ worker := .inr ⟨worker, .refl, List.mem_cons_self⟩
    exact right.insert (iff_of_true rfl ((isBelow_iff_below distinct (by decide)).mpr below))
  have goes (w : Walk) (wanted : w.known[(⟨"Ant"⟩ : SettlerId)]? = some true)
      (right : w.Right settlers ⟨"Ant"⟩) (few : (w.unvisited settlers).card < 3) :
      ∃ found after, answer w = .ok (found, after) ∧
        after.visiting = w.visiting ∧ after.Right settlers ⟨"Ant"⟩ ∧
        (found = true → Below settlers ⟨"Ant"⟩ larva) ∧
        (found = false → ¬LeadsTo settlers ⟨"Ant"⟩ w.visiting larva) := by
    obtain ⟨-, tells, failing⟩ := memory_stays_right answers listed wanted right 3 () trivial
    cases ends : answer w with
    | error e => exact (failing e ends few).elim
    | ok r =>
        obtain ⟨same, stays, -, below, around, -⟩ := tells r ends
        exact ⟨r.1, r.2, rfl, same, stays, below, around⟩
  refine ⟨answers, listed, ⟨wanted, right⟩, ⟨wanted', right'⟩, ?_, ?_⟩
  · obtain ⟨found, after, ends, same, stays, -, around⟩ := goes w wanted right (by decide +kernel)
    have shown : ((answer w).map fun r => (r.1, r.2.known[larva.id]?)) = .ok (false, none) := by
      decide +kernel
    rw [ends] at shown
    obtain ⟨rfl, forgotten⟩ := Prod.mk.inj (Except.ok.inj shown)
    exact ⟨after, ends, same, stays, forgotten, around rfl⟩
  · obtain ⟨found, after, ends, same, stays, below, -⟩ :=
      goes w' wanted' right' (by decide +kernel)
    have shown :
        ((answer w').map fun r => (r.1, r.2.known[larva.id]?)) = .ok (true, some true) := by
      decide +kernel
    rw [ends] at shown
    obtain ⟨rfl, kept⟩ := Prod.mk.inj (Except.ok.inj shown)
    exact ⟨after, ends, same, stays, kept, below rfl⟩

end Settlement.Selector
