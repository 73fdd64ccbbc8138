import Mathlib.Data.Finset.Card
import Settlement.Proofs.Selection.Scan

/-!
# Supertypes

A settler leads to a type if it is that type, or if one of its supertypes is or leads to it.  The
supertypes between the two must be known; the type itself need not be.

The walk that finds out about it may cut a branch at a type under visit.  A negative answer
therefore only says that no way around the types under visit leads to the wanted one.  That is
enough: a way that comes back to a type under visit can be cut short there.  What the walk remembers
is right without this proviso, and so are its answers where no visit is open.
-/

namespace Settlement.Selector

variable {ω ν : Type}

/-- Supertypes lead from a settler to the type `base`, by way of settlers that are not barred. -/
inductive LeadsTo (settlers : List Settler) (base : SettlerId) (barred : List SettlerId) :
    Settler → Prop where
  | here {s : Settler} : s.id = base → LeadsTo settlers base barred s
  | direct {s : Settler} : s.id ∉ barred → base ∈ s.supertypes → LeadsTo settlers base barred s
  | through {s t : Settler} : s.id ∉ barred → t ∈ settlers → t.id ∈ s.supertypes →
      LeadsTo settlers base barred t → LeadsTo settlers base barred s

namespace LeadsTo

variable {settlers : List Settler} {base : SettlerId} {barred : List SettlerId}

/-- A way around some types is a way. -/
theorem unbarred {s : Settler} (leads : LeadsTo settlers base barred s) :
    LeadsTo settlers base [] s := by
  induction leads with
  | here same => exact .here same
  | direct _ linked => exact .direct List.not_mem_nil linked
  | through _ known linked _ ih => exact .through List.not_mem_nil known linked ih

/-- No way leads from a barred type, unless it is the wanted one. -/
theorem id_eq_of_barred {s : Settler} (leads : LeadsTo settlers base barred s)
    (isBarred : s.id ∈ barred) : s.id = base := by
  cases leads with
  | here same => exact same
  | direct free _ => exact absurd isBarred free
  | through free _ _ _ => exact absurd isBarred free

/-- A way either avoids a settler, or can be taken up where it leaves that settler for the last
time. -/
theorem avoids_or_leaves {s t : Settler} (distinct : (settlers.map (·.id)).Nodup)
    (known : s ∈ settlers) (listed : t ∈ settlers) (leads : LeadsTo settlers base barred t) :
    LeadsTo settlers base (s.id :: barred) t ∨ base ∈ s.supertypes ∨
      ∃ u ∈ settlers, u.id ∈ s.supertypes ∧ LeadsTo settlers base (s.id :: barred) u := by
  induction leads with
  | here same => exact .inl (.here same)
  | @direct t free linked =>
      by_cases sameId : t.id = s.id
      · -- the way has come back to the settler, and leaves it here
        obtain rfl := eq_of_id_eq distinct listed known sameId
        exact .inr (.inl linked)
      · exact .inl (.direct (by simp [sameId, free]) linked)
  | @through t u free next linked _ ih =>
      rcases ih next with avoids | leaves
      · by_cases sameId : t.id = s.id
        · obtain rfl := eq_of_id_eq distinct listed known sameId
          exact .inr (.inr ⟨u, next, linked, avoids⟩)
        · exact .inl (.through (by simp [sameId, free]) next linked avoids)
      · exact .inr leaves

end LeadsTo

/-! ## What a walk remembers -/

namespace Walk

/-- What a walk remembers is right, and it remembers the wanted type. -/
structure Sound (settlers : List Settler) (base : SettlerId) (w : Walk) : Prop where
  wanted : w.known[base]? = some true
  right : ∀ s ∈ settlers, ∀ found, w.known[s.id]? = some found →
    (found = true ↔ LeadsTo settlers base [] s)

/-- A walk goes on to remember what it remembers, all of it right, and leaves what it visits. -/
structure Grows (settlers : List Settler) (base : SettlerId) (w w' : Walk) : Prop where
  sound : w'.Sound settlers base
  visiting : w'.visiting = w.visiting
  kept : ∀ (id : SettlerId) (found : Bool), w.known[id]? = some found → w'.known[id]? = some found

/-- A walk grows by answers about settlers.  Of any other type it knows what it knew. -/
structure Learns (settlers : List Settler) (base : SettlerId) (w w' : Walk) : Prop extends
    Grows settlers base w w' where
  others : ∀ id, id ∉ settlers.map (·.id) → w'.known[id]? = w.known[id]?

/-- The types of settlers that are not under visit, and may still be entered. -/
def unvisited (settlers : List Settler) (w : Walk) : Finset SettlerId :=
  (settlers.map (·.id)).toFinset \ w.visiting.toFinset

/-- The types under visit are known, and each is visited once. -/
structure Tidy (settlers : List Settler) (w : Walk) : Prop where
  nodup : w.visiting.Nodup
  known : ∀ id ∈ w.visiting, id ∈ settlers.map (·.id)

variable {settlers : List Settler} {base : SettlerId} {w w' w'' : Walk}

theorem sound_start (settlers : List Settler) (base : SettlerId) :
    (start base).Sound settlers base where
  wanted := by simp [start]
  right s _ found remembered := by
    rw [start, Std.TreeMap.getElem?_insert] at remembered
    split at remembered
    case isTrue same =>
      have same : base = s.id := Std.LawfulEqCmp.compare_eq_iff_eq.mp same
      cases remembered
      exact ⟨fun _ => .here same.symm, fun _ => rfl⟩
    case isFalse => simp at remembered

theorem Grows.refl (sound : w.Sound settlers base) : w.Grows settlers base w :=
  ⟨sound, rfl, fun _ _ remembered => remembered⟩

theorem Grows.known_ne_none {id : SettlerId} (grows : w.Grows settlers base w')
    (isKnown : w.known[id]? ≠ none) : w'.known[id]? ≠ none := by
  obtain ⟨found, remembered⟩ := Option.ne_none_iff_exists'.mp isKnown
  rw [grows.kept id found remembered]
  exact Option.some_ne_none found

theorem Grows.trans (first : w.Grows settlers base w') (second : w'.Grows settlers base w'') :
    w.Grows settlers base w'' where
  sound := second.sound
  visiting := second.visiting.trans first.visiting
  kept id found remembered := second.kept id found (first.kept id found remembered)

theorem Learns.refl (sound : w.Sound settlers base) : w.Learns settlers base w :=
  ⟨.refl sound, fun _ _ => rfl⟩

theorem Learns.trans (first : w.Learns settlers base w') (second : w'.Learns settlers base w'') :
    w.Learns settlers base w'' :=
  ⟨first.toGrows.trans second.toGrows,
    fun id unlisted => (second.others id unlisted).trans (first.others id unlisted)⟩

@[simp]
theorem visiting_leave (w : Walk) (id : SettlerId) (found : Bool) :
    (w.leave id found).visiting = w.visiting.erase id := by
  unfold leave
  dsimp only
  split <;> rfl

/-- What a walk leaves with a final answer it remembers. -/
theorem known_leave_self {id : SettlerId} {found : Bool}
    (final : found = true ∨ w.visiting.erase id = []) : (w.leave id found).known[id]? ≠ none := by
  have isFinal : (found || (w.visiting.erase id).isEmpty) = true := by simpa using final
  unfold leave
  rw [if_pos isFinal]
  simp

theorem known_leave {id id' : SettlerId} {found : Bool} (isKnown : w.known[id']? ≠ none) :
    (w.leave id found).known[id']? ≠ none := by
  unfold leave
  dsimp only
  split
  · rw [Std.TreeMap.getElem?_insert]
    split
    · exact Option.some_ne_none found
    · exact isKnown
  · exact isKnown

/-- What is known about a type that is not left stays as it was. -/
theorem known_leave_of_ne {id id' : SettlerId} {found : Bool} (other : id ≠ id') :
    (w.leave id found).known[id']? = w.known[id']? := by
  unfold leave
  dsimp only
  split
  · rw [Std.TreeMap.getElem?_insert, if_neg (by simpa using other)]
  · rfl

theorem unvisited_congr (same : w'.visiting = w.visiting) :
    w'.unvisited settlers = w.unvisited settlers :=
  congrArg (fun visiting => (settlers.map (·.id)).toFinset \ visiting.toFinset) same

/-- A type that is entered is not unvisited any more. -/
theorem card_unvisited_enter_lt {s : Settler} (known : s ∈ settlers)
    (isNew : s.id ∉ w.visiting) :
    ((w.enter s.id).unvisited settlers).card < (w.unvisited settlers).card := by
  unfold unvisited enter
  rw [List.toFinset_cons, Finset.sdiff_insert]
  apply Finset.card_erase_lt_of_mem
  rw [Finset.mem_sdiff, List.mem_toFinset, List.mem_toFinset]
  exact ⟨List.mem_map_of_mem known, isNew⟩

/-- Tidy walks visit settlers, so that each visit leaves one settler less to enter. -/
theorem Tidy.card_unvisited_add_le (tidy : w.Tidy settlers) :
    (w.unvisited settlers).card + w.visiting.length ≤ settlers.length := by
  have visited : w.visiting.toFinset ⊆ (settlers.map (·.id)).toFinset := by
    intro id member
    rw [List.mem_toFinset] at member ⊢
    exact tidy.known id member
  calc
    (w.unvisited settlers).card + w.visiting.length =
        (w.unvisited settlers).card + w.visiting.toFinset.card := by
      rw [List.toFinset_card_of_nodup tidy.nodup]
    _ = (settlers.map (·.id)).toFinset.card := Finset.card_sdiff_add_card_eq_card visited
    _ ≤ settlers.length := card_ids_le settlers

/-- Tidy walks are never deep: they visit no more types than there are. -/
theorem Tidy.length_le (tidy : w.Tidy settlers) : w.visiting.length ≤ settlers.length :=
  (Nat.le_add_left _ _).trans tidy.card_unvisited_add_le

theorem Sound.enter (sound : w.Sound settlers base) (id : SettlerId) :
    (w.enter id).Sound settlers base :=
  ⟨sound.wanted, sound.right⟩

theorem Tidy.of_visiting (tidy : w.Tidy settlers) (same : w'.visiting = w.visiting) :
    w'.Tidy settlers :=
  ⟨same ▸ tidy.nodup, same ▸ tidy.known⟩

theorem Tidy.enter (tidy : w.Tidy settlers) {s : Settler} (known : s ∈ settlers)
    (isNew : s.id ∉ w.visiting) : (w.enter s.id).Tidy settlers where
  nodup := List.nodup_cons.mpr ⟨isNew, tidy.nodup⟩
  known id member := by
    rcases List.mem_cons.mp member with rfl | member
    · exact List.mem_map_of_mem known
    · exact tidy.known id member

end Walk

/-! ## The walk -/

variable {settlers : List Settler} {base : SettlerId} {scope : Scope ω ν} {inv : ω → Prop}
  {fails : DiscoveryError → Prop}

/-- What a visit finds out about a settler, apart from what it remembers. -/
def Tells (settlers : List Settler) (base : SettlerId) (w : Walk) (s : Settler) (found : Bool) :
    Prop :=
  if found then LeadsTo settlers base [] s else ¬LeadsTo settlers base w.visiting s

/-- What a visit of some supertypes finds out about them. -/
def TellsAll (settlers : List Settler) (base : SettlerId) (w : Walk) (parents : List SettlerId)
    (found : Bool) : Prop :=
  if found then base ∈ parents ∨ ∃ t ∈ settlers, t.id ∈ parents ∧ LeadsTo settlers base [] t
  else base ∉ parents ∧ ∀ t ∈ settlers, t.id ∈ parents → ¬LeadsTo settlers base w.visiting t

theorem tellsAll_cons {w : Walk} {parent : SettlerId} {rest : List SettlerId}
    (unwanted : parent ≠ base)
    (closed : ∀ t ∈ settlers, t.id = parent → ¬LeadsTo settlers base w.visiting t) {found : Bool}
    (tells : TellsAll settlers base w rest found) :
    TellsAll settlers base w (parent :: rest) found := by
  cases found with
  | true =>
      rcases tells with wanted | ⟨t, known, linked, leads⟩
      · exact .inl (List.mem_cons_of_mem parent wanted)
      · exact .inr ⟨t, known, List.mem_cons_of_mem parent linked, leads⟩
  | false =>
      obtain ⟨absent, others⟩ := tells
      constructor
      · intro member
        rcases List.mem_cons.mp member with rfl | member
        · exact unwanted rfl
        · exact absent member
      · intro t known member
        rcases List.mem_cons.mp member with same | member
        · exact closed t known same
        · exact others t known member

/-- The search through some supertypes tells about all of them, if the visits do. -/
theorem reaches_ensures (answers : scope.AnswersFrom inv settlers fails)
    {visit : Settler → Walk → Selection ω (Bool × Walk)} {w₀ : Walk}
    (visits : ∀ t ∈ settlers, ∀ w, w₀.Learns settlers base w →
      Ensures inv (visit t w)
        (fun r => w.Learns settlers base r.2 ∧ Tells settlers base w t r.1) fails)
    (parents : List SettlerId) {w : Walk} (grown : w₀.Learns settlers base w) :
    Ensures inv (reaches scope base visit parents w)
      (fun r => w₀.Learns settlers base r.2 ∧ TellsAll settlers base w₀ parents r.1) fails := by
  induction parents generalizing w with
  | nil =>
      apply Ensures.pure
      exact ⟨grown, List.not_mem_nil, fun _ _ linked => absurd linked List.not_mem_nil⟩
  | cons parent rest ih =>
      unfold reaches
      by_cases isWanted : parent = base
      · subst isWanted
        rw [if_pos (beq_self_eq_true parent)]
        exact .pure ⟨grown, .inl List.mem_cons_self⟩
      · rw [if_neg (by simpa using isWanted)]
        apply (answers.looksUp parent).bind
        intro entry looked
        cases entry with
        | none =>
            have unknown (t : Settler) (known : t ∈ settlers) : t.id ≠ parent := by
              simpa using List.find?_eq_none.mp looked.symm t known
            apply (ih grown).weaken _ fun _ failed => failed
            rintro ⟨found, w'⟩ ⟨grown', tells⟩
            exact ⟨grown', tellsAll_cons isWanted
              (fun t known same => absurd same (unknown t known)) tells⟩
        | some s =>
            obtain ⟨known, rfl⟩ := (find?_id_eq_some_iff answers.distinct).mp looked.symm
            apply (visits s known w grown).bind
            rintro ⟨found, w'⟩ ⟨grows, tells⟩
            have grown' := grown.trans grows
            cases found with
            | true => exact .pure ⟨grown', .inr ⟨s, known, List.mem_cons_self, tells⟩⟩
            | false =>
                have closed : ∀ t ∈ settlers, t.id = s.id →
                    ¬LeadsTo settlers base w₀.visiting t := by
                  intro t listed same
                  obtain rfl := eq_of_id_eq answers.distinct listed known same
                  rw [← grown.visiting]
                  exact tells
                apply (ih grown').weaken _ fun _ failed => failed
                rintro ⟨found, w''⟩ ⟨grown'', tells'⟩
                exact ⟨grown'', tellsAll_cons isWanted closed tells'⟩

/-- The answer about the supertypes of a settler is the answer about the settler. -/
theorem tells_of_tellsAll (distinct : (settlers.map (·.id)).Nodup) {w : Walk} {s : Settler}
    (known : s ∈ settlers) (unwanted : s.id ≠ base) {found : Bool}
    (tells : TellsAll settlers base (w.enter s.id) s.supertypes found) :
    Tells settlers base w s found := by
  cases found with
  | true =>
      rcases tells with linked | ⟨t, listed, linked, leads⟩
      · exact LeadsTo.direct List.not_mem_nil linked
      · exact LeadsTo.through List.not_mem_nil listed linked leads
  | false =>
      obtain ⟨absent, closed⟩ := tells
      intro leads
      cases leads with
      | here same => exact unwanted same
      | direct _ linked => exact absent linked
      | through _ listed linked leads =>
          rcases leads.avoids_or_leaves distinct known listed with avoids | linked | leaves
          · exact closed _ listed linked avoids
          · exact absent linked
          · obtain ⟨u, listed, linked, avoids⟩ := leaves
            exact closed u listed linked avoids

/-- Leaving a settler, a walk remembers no more than is right. -/
theorem Walk.Grows.leave (distinct : (settlers.map (·.id)).Nodup) {w w' : Walk} {s : Settler}
    (known : s ∈ settlers) (isNew : w.known[s.id]? = none) {found : Bool}
    (grown : (w.enter s.id).Grows settlers base w') (tells : Tells settlers base w s found) :
    w.Grows settlers base (w'.leave s.id found) := by
  have left : w'.visiting.erase s.id = w.visiting := by
    rw [grown.visiting]
    exact List.erase_cons_head s.id w.visiting
  unfold Walk.leave
  rw [left]
  by_cases isFinal : found || w.visiting.isEmpty
  · have final : found = true ↔ LeadsTo settlers base [] s := by
      cases found with
      | true => exact iff_of_true rfl tells
      | false =>
          -- with no visit open there is nothing for the ways to avoid
          have idle : w.visiting = [] := by simpa using isFinal
          unfold Tells at tells
          rw [idle] at tells
          exact iff_of_false Bool.false_ne_true tells
    have remembers (id : SettlerId) : (w'.known.insert s.id found)[id]? =
        if s.id = id then some found else w'.known[id]? := by
      simp [Std.TreeMap.getElem?_insert]
    rw [if_pos isFinal]
    refine ⟨⟨?_, ?_⟩, rfl, ?_⟩
    · rw [remembers]
      split
      case isTrue same => exact congrArg some (final.mpr (.here same))
      case isFalse => exact grown.sound.wanted
    · intro t listed answer remembered
      rw [remembers] at remembered
      split at remembered
      case isTrue same =>
        obtain rfl := eq_of_id_eq distinct known listed same
        cases remembered
        exact final
      case isFalse => exact grown.sound.right t listed answer remembered
    · intro id answer remembered
      rw [remembers, if_neg]
      · exact grown.kept id answer remembered
      · rintro rfl
        rw [isNew] at remembered
        contradiction
  · rw [if_neg isFinal]
    exact ⟨⟨grown.sound.wanted, grown.sound.right⟩, rfl, grown.kept⟩

theorem Walk.Learns.leave (distinct : (settlers.map (·.id)).Nodup) {w w' : Walk} {s : Settler}
    (known : s ∈ settlers) (isNew : w.known[s.id]? = none) {found : Bool}
    (grown : (w.enter s.id).Learns settlers base w') (tells : Tells settlers base w s found) :
    w.Learns settlers base (w'.leave s.id found) where
  toGrows := grown.toGrows.leave distinct known isNew tells
  others id unlisted := by
    have other : s.id ≠ id := by
      rintro rfl
      exact unlisted (List.mem_map_of_mem known)
    rw [Walk.known_leave_of_ne other]
    exact grown.others id unlisted

/-- Whatever types are under visit, a walk tells whether supertypes lead from a settler to the wanted
type, and learns nothing that is wrong.  Where it may nest deeper than there are types to enter, it
fails only as the scope does. -/
theorem walk_learns (answers : scope.AnswersFrom inv settlers fails) {depth : Nat} {s : Settler}
    {w : Walk} (known : s ∈ settlers) (sound : w.Sound settlers base) :
    Ensures inv (walk scope base depth s w)
      (fun r => w.Learns settlers base r.2 ∧ Tells settlers base w s r.1)
      (fun e => (w.unvisited settlers).card < depth → fails e) := by
  induction depth generalizing s w with
  | zero => exact .fail fun deep => absurd deep (Nat.not_lt_zero _)
  | succ depth ih =>
      unfold walk
      cases remembered : w.known[s.id]? with
      | some found =>
          have right := sound.right s known found remembered
          apply Ensures.pure
          refine ⟨.refl sound, ?_⟩
          cases found with
          | true => exact right.mp rfl
          | false => exact fun leads => Bool.noConfusion (right.mpr leads.unbarred)
      | none =>
          have unwanted : s.id ≠ base := by
            rintro same
            rw [same, sound.wanted] at remembered
            contradiction
          by_cases isVisited : s.id ∈ w.visiting
          · simp only [List.contains_iff_mem, isVisited, if_true]
            exact .pure ⟨.refl sound, fun leads => unwanted (leads.id_eq_of_barred isVisited)⟩
          · simp only [List.contains_iff_mem, isVisited, if_false]
            -- one type less is left to enter, so that one level less is enough
            have fewer := Walk.card_unvisited_enter_lt known isVisited
            have visits : ∀ t ∈ settlers, ∀ w', (w.enter s.id).Learns settlers base w' →
                Ensures inv (walk scope base depth t w')
                  (fun r => w'.Learns settlers base r.2 ∧ Tells settlers base w' t r.1)
                  (fun e => (w.unvisited settlers).card < depth + 1 → fails e) := by
              intro t listed w' grown
              rw [← Walk.unvisited_congr grown.visiting] at fewer
              apply (ih listed grown.sound).weaken fun _ holds => holds
              exact fun e blames deep => blames (by omega)
            have answers' := answers.weaken
              fun e failed (_ : (w.unvisited settlers).card < depth + 1) => failed
            apply (reaches_ensures answers' visits s.supertypes (.refl (sound.enter s.id))).bind
            rintro ⟨found, w'⟩ ⟨grown, tells⟩
            have answer := tells_of_tellsAll answers.distinct known unwanted tells
            exact .pure ⟨grown.leave answers.distinct known remembered answer, answer⟩

/-- A walk that visits settlers, each once, grows, and does not end for lack of depth. -/
theorem walk_ensures (answers : scope.AnswersFrom inv settlers fails) {depth : Nat} {s : Settler}
    {w : Walk} (known : s ∈ settlers) (sound : w.Sound settlers base) (tidy : w.Tidy settlers)
    (deep : settlers.length < depth + w.visiting.length) :
    Ensures inv (walk scope base depth s w)
      (fun r => w.Grows settlers base r.2 ∧ Tells settlers base w s r.1) fails := by
  have enough : (w.unvisited settlers).card < depth := by
    have few := tidy.card_unvisited_add_le
    omega
  apply (walk_learns answers known sound).weaken
  · exact fun _ ⟨learns, tells⟩ => ⟨learns.toGrows, tells⟩
  · exact fun _ blames => blames enough

/-! ## The selection -/

open Classical in
/-- The selection by a supertype keeps the admitted settlers from which supertypes lead to it. -/
theorem bySupertype_ensures (answers : scope.AnswersFrom inv settlers fails)
    (ctx : SelectionContext) :
    Ensures inv ((bySupertype scope base).select ctx)
      (· = admitted ctx (settlers.filter fun s => LeadsTo settlers base [] s)) fails := by
  apply answers.lists.bind
  rintro listed rfl
  have tests : ∀ s ∈ listed, ∀ w : Walk, w.Sound listed base →
      Ensures inv (walk scope base (listed.length + scope.unlisted + 1) s { w with visiting := [] })
        (fun r => (r.1 = true ↔ LeadsTo listed base [] s) ∧ r.2.Sound listed base) fails := by
    intro s known w sound
    have idle : ({ w with visiting := [] } : Walk).Tidy listed :=
      ⟨List.nodup_nil, fun id member => absurd member List.not_mem_nil⟩
    have fresh : ({ w with visiting := [] } : Walk).Sound listed base := ⟨sound.wanted, sound.right⟩
    have deep : listed.length < listed.length + scope.unlisted + 1 :=
      Nat.lt_succ_of_le (Nat.le_add_right _ _)
    apply (walk_ensures answers known fresh idle deep).weaken _ fun _ failed => failed
    rintro ⟨found, w'⟩ ⟨grown, tells⟩
    refine ⟨?_, grown.sound⟩
    cases found with
    | true => exact iff_of_true rfl tells
    | false => exact iff_of_false Bool.false_ne_true tells
  exact scan_ensures tests _ ctx (Walk.start base) (Walk.sound_start listed base)

end Settlement.Selector
