import Settlement.Proofs.Selection.Acyclic
import Settlement.Proofs.Selection.Nesting

/-!
# How often a link is followed

What a walk has found out about a type is remembered for the rest of the selection if the answer is
positive, or if no visit is open around it.  So where no type is its own ancestor, the links of a
type below the wanted one are followed once.  Those of another type are followed once if the type is
come to in a walk of its own before any walk that leads to it, that is, if it is listed before all
its descendants.

Of a type that is not below the wanted one and listed after a descendant the links may be followed
again, since a visit inside the walk of the descendant has left no answer.
-/

namespace Settlement.Selector

variable {ω ν : Type}

/-! ## Links -/

/-- All links of some settlers, each as often as it is given. -/
def entries (settlers : List Settler) : List (SettlerId × SettlerId) :=
  settlers.flatMap fun s => s.supertypes.map fun supertype => (s.id, supertype)

/-- The links that have been followed. -/
def links (notes : List Note) : List (SettlerId × SettlerId) :=
  notes.filterMap fun
    | .follows settler supertype => some (settler, supertype)
    | _ => none

@[simp]
theorem links_append (early late : List Note) : links (early ++ late) = links early ++ links late :=
  List.filterMap_append

@[simp]
theorem links_follows (settler supertype : SettlerId) :
    links [.follows settler supertype] = [(settler, supertype)] :=
  rfl

@[simp]
theorem links_visits (visiting : List SettlerId) : links [.visits visiting] = [] :=
  rfl

theorem mem_links {notes : List Note} {s t : SettlerId} :
    (s, t) ∈ links notes ↔ .follows s t ∈ notes := by
  unfold links
  rw [List.mem_filterMap]
  constructor
  · rintro ⟨n, member, same⟩
    cases n <;> simp_all
  · exact fun member => ⟨.follows s t, member, rfl⟩

theorem mem_entries {settlers : List Settler} {link : SettlerId × SettlerId} :
    link ∈ entries settlers ↔ ∃ s ∈ settlers, s.id = link.1 ∧ link.2 ∈ s.supertypes := by
  obtain ⟨settler, supertype⟩ := link
  simp [entries, and_left_comm]

theorem count_le_entries {settlers : List Settler} {t : Settler} (listed : t ∈ settlers)
    (p : SettlerId) : t.supertypes.count p ≤ (entries settlers).count (t.id, p) := by
  calc
    t.supertypes.count p ≤ (t.supertypes.map fun p => (t.id, p)).count (t.id, p) :=
      List.count_le_count_map
    _ ≤ (entries settlers).count (t.id, p) := by
      apply List.Sublist.count_le
      exact List.sublist_flatten_of_mem (List.mem_map_of_mem listed)

variable {settlers : List Settler} {base : SettlerId}

/-! ## What a walk follows -/

/-- The links of a type are followed at most as often as they are given, and not at all in a walk
that remembers the type or is visiting it. -/
structure Spares (t : Settler) (w : Walk) (followed : List (SettlerId × SettlerId)) : Prop where
  bounded : ∀ p, followed.count (t.id, p) ≤ t.supertypes.count p
  fresh : ∀ p, (t.id, p) ∈ followed → w.known[t.id]? = none ∧ t.id ∉ w.visiting

/-- A type is remembered if its links have been followed. -/
def Remembers (t : Settler) (w : Walk) (followed : List (SettlerId × SettlerId)) : Prop :=
  ∀ p, (t.id, p) ∈ followed → w.known[t.id]? ≠ none

section

variable {t : Settler} {w w' : Walk} {early late : List (SettlerId × SettlerId)}

theorem spares_nil : Spares t w [] :=
  ⟨fun _ => Nat.zero_le _, fun _ member => absurd member List.not_mem_nil⟩

theorem remembers_nil : Remembers t w [] :=
  fun _ member => absurd member List.not_mem_nil

theorem spares_singleton {id : SettlerId} (other : id ≠ t.id) (p : SettlerId) :
    Spares t w [(id, p)] where
  bounded q := by simp [other]
  fresh q member := by simp [other.symm] at member

theorem remembers_singleton {id : SettlerId} (other : id ≠ t.id) (p : SettlerId) :
    Remembers t w [(id, p)] := by
  intro q member
  simp [other.symm] at member

theorem Spares.count_eq_zero (spares : Spares t w late)
    (idle : w.known[t.id]? ≠ none ∨ t.id ∈ w.visiting) (p : SettlerId) :
    late.count (t.id, p) = 0 := by
  apply List.count_eq_zero.mpr
  intro member
  obtain ⟨unknown, free⟩ := spares.fresh p member
  exact idle.elim (absurd unknown) free

/-- What is remembered is not followed again. -/
theorem Remembers.bounded_append (remembers : Remembers t w early)
    (bounded : ∀ p, early.count (t.id, p) ≤ t.supertypes.count p) (spares : Spares t w late)
    (p : SettlerId) : (early ++ late).count (t.id, p) ≤ t.supertypes.count p := by
  rw [List.count_append]
  by_cases isKnown : w.known[t.id]? = none
  · have none : early.count (t.id, p) = 0 :=
      List.count_eq_zero.mpr fun member => remembers p member isKnown
    have bound := spares.bounded p
    omega
  · have none := spares.count_eq_zero (.inl isKnown) p
    have bound := bounded p
    omega

theorem Remembers.append (remembers : Remembers t w early) (grows : w.Grows settlers base w')
    (remembers' : Remembers t w' late) : Remembers t w' (early ++ late) := by
  intro p member
  rcases List.mem_append.mp member with member | member
  · exact grows.known_ne_none (remembers p member)
  · exact remembers' p member

theorem Spares.append (spares : Spares t w early) (grows : w.Grows settlers base w')
    (remembers : Remembers t w' early) (spares' : Spares t w' late) :
    Spares t w (early ++ late) where
  bounded := remembers.bounded_append spares.bounded spares'
  fresh p member := by
    rcases List.mem_append.mp member with member | member
    · exact spares.fresh p member
    · obtain ⟨unknown, free⟩ := spares'.fresh p member
      refine ⟨?_, grows.visiting ▸ free⟩
      by_contra isKnown
      exact grows.known_ne_none isKnown unknown

end

/-! ## The walk -/

variable {scope : Scope ω ν} {inv : ω → Prop} {fails : DiscoveryError → Prop}

/-- Visits with notes spare the links of a type. -/
def SparesVisit (inv : ω → Prop) (settlers : List Settler) (base : SettlerId) (t : Settler)
    (w : Walk) (x : Selection ω (Bool × Walk)) (y : Selection (Noted ω) (Bool × Walk)) : Prop :=
  Records inv x y
    (fun r more =>
      w.Grows settlers base r.2 ∧ Spares t w (links more) ∧ Remembers t r.2 (links more))
    (fun more => Spares t w (links more))

section

variable {inner : Settler → Walk → Selection ω (Bool × Walk)}
  {inner' : Settler → Walk → Selection (Noted ω) (Bool × Walk)} {s t : Settler} {w : Walk}

theorem looksUp_listed (answers : scope.AnswersFrom inv settlers fails) (id : SettlerId) :
    Ensures inv (scope.settler id) (fun entry => ∀ u ∈ entry, u ∈ settlers ∧ u.id = id) fails := by
  apply (answers.looksUp id).weaken _ fun _ failed => failed
  rintro _ rfl u found
  exact (find?_id_eq_some_iff answers.distinct).mp found

/-- A search through the supertypes of a settler spares any other type, if the visits inside it do. -/
theorem records_reaches_sparing_other (answers : scope.AnswersFrom inv settlers fails)
    (sound : w.Sound settlers base) (other : s.id ≠ t.id)
    (enters : ∀ u, Extends settlers s u → ∀ w', w.Grows settlers base w' →
      SparesVisit inv settlers base t w' (inner u w') (inner' u w')) :
    SparesVisit inv settlers base t w (reaches scope base inner s.supertypes w)
      (reaches (scope.noting s.id) base inner' s.supertypes w) := by
  apply records_reaches (looksUp_listed answers)
    (fun _ w' notes => w.Grows settlers base w' ∧ Spares t w (links notes) ∧
      Remembers t w' (links notes))
    (fun _ _ _ holds => holds) (fun _ _ _ holds => holds.2.1)
  · rintro parent - _ w' notes ⟨grows, spares, remembers⟩
    rw [links_append, links_follows]
    exact ⟨grows, spares.append grows remembers (spares_singleton other parent),
      remembers.append (.refl grows.sound) (remembers_singleton other parent)⟩
  · rintro parent member u ⟨listed, rfl⟩ _ w' notes ⟨grows, spares, remembers⟩
    apply (enters u ⟨listed, member⟩ w' grows).weaken
    · rintro r more ⟨grows', spares', remembers'⟩
      rw [links_append]
      exact ⟨grows.trans grows', spares.append grows remembers spares',
        remembers.append grows' remembers'⟩
    · intro more spares'
      rw [links_append]
      exact spares.append grows remembers spares'
  · exact ⟨.refl sound, spares_nil, remembers_nil⟩

/-- A search through the supertypes of a settler under visit follows each of its links at most as
often as it is given, if the visits inside it follow none of them. -/
theorem records_reaches_bounded (answers : scope.AnswersFrom inv settlers fails)
    (sound : w.Sound settlers base) (isVisited : s.id ∈ w.visiting)
    (enters : ∀ u, Extends settlers s u → ∀ w', w.Grows settlers base w' →
      SparesVisit inv settlers base s w' (inner u w') (inner' u w')) :
    Records inv (reaches scope base inner s.supertypes w)
      (reaches (scope.noting s.id) base inner' s.supertypes w)
      (fun r more => w.Grows settlers base r.2 ∧
        ∀ p, (links more).count (s.id, p) ≤ s.supertypes.count p)
      (fun more => ∀ p, (links more).count (s.id, p) ≤ s.supertypes.count p) := by
  have fewer {notes : List Note} {rest : List SettlerId} {p : SettlerId}
      (bound : ∀ p, (links notes).count (s.id, p) + rest.count p ≤ s.supertypes.count p) :
      (links notes).count (s.id, p) ≤ s.supertypes.count p :=
    (Nat.le_add_right _ (rest.count p)).trans (bound p)
  apply records_reaches (looksUp_listed answers)
    (fun rest w' notes => w.Grows settlers base w' ∧
      ∀ p, (links notes).count (s.id, p) + rest.count p ≤ s.supertypes.count p)
    (fun _ _ _ holds => ⟨holds.1, fun _ => fewer holds.2⟩) (fun _ _ _ holds _ => fewer holds.2)
  · rintro parent - rest w' notes ⟨grows, bound⟩
    refine ⟨grows, fun p => ?_⟩
    have bound' := bound p
    rw [links_append, links_follows, List.count_append]
    by_cases same : parent = p
    · subst same
      rw [List.count_cons_self] at bound'
      rw [List.count_singleton_self]
      omega
    · rw [List.count_cons_of_ne same] at bound'
      rw [List.count_singleton, if_neg (by simpa using same)]
      omega
  · rintro parent member u ⟨listed, rfl⟩ rest w' notes ⟨grows, bound⟩
    have none {more : List Note} (spares : Spares s w' (links more)) (p : SettlerId) :
        (links (notes ++ more)).count (s.id, p) = (links notes).count (s.id, p) := by
      rw [links_append, List.count_append,
        spares.count_eq_zero (.inr (grows.visiting ▸ isVisited)) p, Nat.add_zero]
    apply (enters u ⟨listed, member⟩ w' grows).weaken
    · rintro r more ⟨grows', spares, -⟩
      refine ⟨grows.trans grows', fun p => ?_⟩
      rw [none spares]
      exact bound p
    · intro more spares p
      rw [none spares]
      exact fewer bound
  · exact ⟨.refl sound, fun p => by simp [links]⟩

/-- A visit spares a type, and remembers another one.  It remembers the settler visited if the answer
is positive, or if no visit is open around it. -/
theorem records_visit_sparing (answers : scope.AnswersFrom inv settlers fails)
    (listed : s ∈ settlers) (listed' : t ∈ settlers) (sound : w.Sound settlers base)
    (enters : ∀ u, Extends settlers s u → ∀ w', (w.enter s.id).Grows settlers base w' →
      SparesVisit inv settlers base t w' (inner u w') (inner' u w')) :
    Records inv (visit (.plain scope) base inner s w) (visit (.noting scope) base inner' s w)
      (fun r more => Spares t w (links more) ∧ (s ≠ t → Remembers t r.2 (links more)) ∧
        (r.1 = true ∨ w.visiting = [] → r.2.known[s.id]? ≠ none))
      (fun more => Spares t w (links more)) := by
  apply records_visit
  · intro isFound known
    exact ⟨spares_nil, fun _ => remembers_nil, fun _ => known ▸ Option.some_ne_none isFound⟩
  · intro _ isVisited
    refine ⟨spares_nil, fun _ => remembers_nil, ?_⟩
    rintro (found | idle)
    · contradiction
    · exact absurd (idle ▸ isVisited) List.not_mem_nil
  · intro unknown isNew
    have left {w' : Walk} (isFound : Bool) (grows : (w.enter s.id).Grows settlers base w')
        (final : isFound = true ∨ w.visiting = []) :
        (w'.leave s.id isFound).known[s.id]? ≠ none := by
      apply Walk.known_leave_self
      rw [grows.visiting]
      exact final.imp_right fun idle => by simp [Walk.enter, idle]
    by_cases same : s = t
    · subst same
      have spares {more : List Note}
          (bound : ∀ p, (links more).count (s.id, p) ≤ s.supertypes.count p) :
          Spares s w (links more) :=
        ⟨bound, fun _ _ => ⟨unknown, isNew⟩⟩
      apply (records_reaches_bounded answers (sound.enter s.id) List.mem_cons_self enters).weaken
      · rintro ⟨isFound, w'⟩ more ⟨grows, bound⟩
        simp only [links_append, links_visits, List.nil_append, List.append_nil]
        exact ⟨spares bound, fun other => absurd rfl other, left isFound grows⟩
      · intro more bound
        rw [links_append, links_visits, List.nil_append]
        exact spares bound
    · have other : s.id ≠ t.id := fun sameId =>
        same (eq_of_id_eq answers.distinct listed listed' sameId)
      have outside {more : List Note} (spares : Spares t (w.enter s.id) (links more)) :
          Spares t w (links more) := by
        refine ⟨spares.bounded, fun p member => ?_⟩
        obtain ⟨unknown', isNew'⟩ := spares.fresh p member
        exact ⟨unknown', fun isVisited => isNew' (List.mem_cons_of_mem s.id isVisited)⟩
      apply (records_reaches_sparing_other answers (sound.enter s.id) other enters).weaken
      · rintro ⟨isFound, w'⟩ more ⟨grows, spares, remembers⟩
        simp only [links_append, links_visits, List.nil_append, List.append_nil]
        exact ⟨outside spares, fun _ p member => Walk.known_leave (remembers p member),
          left isFound grows⟩
      · intro more spares
        rw [links_append, links_visits, List.nil_append]
        exact outside spares

end

/-- A type is come to in time if, unless it is known, it is below the wanted type or the settler that
a walk starts from. -/
def InTime (settlers : List Settler) (base : SettlerId) (t : Settler) (w : Walk) (s : Settler) :
    Prop :=
  w.known[t.id]? = none → Relation.ReflTransGen (Extends settlers) s t →
    Below settlers base t ∨ s = t ∧ w.visiting = []

/-- Without cycles a walk spares every type that it comes to in time. -/
theorem records_walk_sparing (answers : scope.AnswersFrom inv settlers fails)
    (acyclic : Acyclic settlers) {t : Settler} (listed' : t ∈ settlers) {depth depth' : Nat}
    {s : Settler} {w : Walk} (beyond : Settler → Walk → Selection (Noted ω) (Bool × Walk))
    (listed : s ∈ settlers) (sound : w.Sound settlers base) (tidy : w.Tidy settlers)
    (deep : settlers.length < depth + w.visiting.length)
    (deep' : settlers.length < depth' + w.visiting.length) (descends : Descends settlers w s)
    (inTime : InTime settlers base t w s) :
    Records inv (walk scope base depth s w) (visits (.noting scope) base depth' beyond s w)
      (fun r more => (w.Grows settlers base r.2 ∧ Spares t w (links more) ∧
        Remembers t r.2 (links more)) ∧ (w.visiting = [] → r.2.known[s.id]? ≠ none))
      (fun more => Spares t w (links more)) := by
  have shallow := tidy.length_le
  induction depth generalizing depth' s w with
  | zero => omega
  | succ depth ih =>
      obtain _ | depth' := depth'
      · omega
      have ends := walk_ensures answers listed sound tidy deep
      rw [walk_succ] at ends ⊢
      have isNew : s.id ∉ w.visiting := descends.not_mem answers.distinct acyclic .refl
      have enters (u : Settler) (extend : Extends settlers s u) (w' : Walk)
          (grows : (w.enter s.id).Grows settlers base w') :
          SparesVisit inv settlers base t w' (walk scope base depth u w')
            (visits (.noting scope) base depth' beyond u w') := by
        have longer : w'.visiting.length = w.visiting.length + 1 :=
          congrArg List.length grows.visiting
        have tidy' : w'.Tidy settlers := (tidy.enter listed isNew).of_visiting grows.visiting
        have room : settlers.length < depth + w'.visiting.length := by omega
        have room' : settlers.length < depth' + w'.visiting.length := by omega
        have inTime' : InTime settlers base t w' u := by
          intro unknown chain
          have unknown' : w.known[t.id]? = none := by
            by_contra isKnown
            exact grows.known_ne_none (w := w.enter s.id) isKnown unknown
          rcases inTime unknown' (.head extend chain) with below | ⟨rfl, -⟩
          · exact .inl below
          · exact absurd (.head' extend chain) (acyclic s listed)
        have inside := ih extend.1 grows.sound tidy' room room'
          (descends.step listed extend grows.visiting) inTime' tidy'.length_le
        exact inside.weaken (fun _ _ holds => holds.1) fun _ spares => spares
      have visit := records_visit_sparing answers listed listed' sound enters
      apply (visit.and_ensures ends).weaken
      · rintro ⟨isFound, w'⟩ more ⟨⟨spares, remembers, final⟩, grows, tells⟩
        refine ⟨⟨grows, spares, ?_⟩, fun idle => final (.inr idle)⟩
        by_cases same : s = t
        · subst same
          intro p member
          rcases inTime (spares.fresh p member).1 .refl with below | ⟨-, idle⟩
          · exact final (.inl (found_of_below answers.distinct acyclic descends below tells))
          · exact final (.inr idle)
        · exact remembers same
      · exact fun _ spares => spares

/-! ## The selection -/

/-- A type that is listed first is still unknown only where the walks have not come past it. -/
theorem ListedFirst.inTime {t s : Settler} {w : Walk} {done rest : List Settler}
    (first : ListedFirst settlers t) (listed : t ∈ settlers) (all : settlers = done ++ s :: rest)
    (settled : ∀ u ∈ done, w.known[u.id]? ≠ none) :
    InTime settlers base t { w with visiting := [] } s := by
  intro unknown chain
  rcases Relation.reflTransGen_iff_eq_or_transGen.mp chain with rfl | below
  · exact .inr ⟨rfl, rfl⟩
  rw [all, List.mem_append, List.mem_cons] at listed
  rcases listed with early | rfl | late
  · exact absurd unknown (settled t early)
  · exact .inr ⟨rfl, rfl⟩
  · obtain ⟨between, later, rfl⟩ := List.append_of_mem late
    exact absurd below (first (done ++ s :: between) later (by simp [all]) s (by simp))

/-- A selection follows the links of a type at most as often as they are given, if the type is below
the wanted one or listed before all that lead to it. -/
theorem records_select_sparing (answers : scope.AnswersFrom inv settlers fails)
    (acyclic : Acyclic settlers) {t : Settler} (listed : t ∈ settlers)
    (early : Below settlers base t ∨ ListedFirst settlers t)
    (beyond : Settler → Walk → Selection (Noted ω) (Bool × Walk)) (ctx : SelectionContext) :
    Records inv ((bySupertype scope base).select ctx)
      (scanBelow (scope.settlers.noted [.lists])
        (fun count => visits (.noting scope) base (count + 1) beyond) base ctx)
      (fun _ more => ∀ p, (links more).count (t.id, p) ≤ t.supertypes.count p)
      (fun more => ∀ p, (links more).count (t.id, p) ≤ t.supertypes.count p) := by
  rw [select_bySupertype]
  apply records_scanBelow
    (fun _ done w notes => w.Sound settlers base ∧ (∀ s ∈ done, w.known[s.id]? ≠ none) ∧
      (∀ p, (links notes).count (t.id, p) ≤ t.supertypes.count p) ∧ Remembers t w (links notes))
    answers.lists
  · intro _ _
    exact ⟨Walk.sound_start settlers base, by simp, fun _ => Nat.zero_le _, remembers_nil⟩
  · exact fun _ => Nat.zero_le _
  · exact fun _ _ _ _ ⟨_, _, bounded, _⟩ => bounded
  · rintro settlers rfl done s rest all w notes ⟨sound, settled, bounded, remembers⟩
    have member : s ∈ settlers := by simp [all]
    have fresh : ({ w with visiting := [] } : Walk).Sound settlers base :=
      ⟨sound.wanted, sound.right⟩
    have tidy : ({ w with visiting := [] } : Walk).Tidy settlers :=
      ⟨List.nodup_nil, fun id isVisited => absurd isVisited List.not_mem_nil⟩
    have remembers' : Remembers t { w with visiting := [] } (links notes) := remembers
    have inTime : InTime settlers base t { w with visiting := [] } s :=
      early.elim (fun below _ _ => .inl below) fun first => first.inTime listed all settled
    have deep : settlers.length < settlers.length + scope.unlisted + 1 :=
      Nat.lt_succ_of_le (Nat.le_add_right _ _)
    apply (records_walk_sparing answers acyclic listed beyond member fresh tidy deep (by simp)
      (fun id isVisited => absurd isVisited List.not_mem_nil) inTime).weaken
    · rintro r more ⟨⟨grows, spares, remembers''⟩, final⟩
      rw [links_append]
      refine ⟨grows.sound, ?_, remembers'.bounded_append bounded spares,
        remembers'.append grows remembers''⟩
      intro u isDone
      rcases List.mem_append.mp isDone with isDone | isLast
      · exact grows.known_ne_none (settled u isDone)
      · rw [List.mem_singleton.mp isLast]
        exact final rfl
    · intro more spares
      rw [links_append]
      exact remembers'.bounded_append bounded spares

/-- A selection lists the settlers once, and then only follows links of theirs. -/
theorem records_select_listed (answers : scope.AnswersFrom inv settlers fails) (base : SettlerId)
    (beyond : Settler → Walk → Selection (Noted ω) (Bool × Walk)) (ctx : SelectionContext) :
    Records inv ((bySupertype scope base).select ctx)
      (scanBelow (scope.settlers.noted [.lists])
        (fun count => visits (.noting scope) base (count + 1) beyond) base ctx)
      (fun _ => ListsFirst (· ∈ settlers)) (ListsFirst (· ∈ settlers)) := by
  have declared (s : Settler) (listed : s ∈ settlers) : s.id ∈ (settlers.map (·.id)).toFinset :=
    List.mem_toFinset.mpr (List.mem_map_of_mem listed)
  have looksUp (id : SettlerId) :
      Ensures inv (scope.settler id) (fun entry => ∀ s ∈ entry, s ∈ settlers) fails :=
    (looksUp_listed answers id).weaken (fun _ finds s found => (finds s found).1) fun _ failed => failed
  have enough (unlisted : Nat) (listed : List Settler) (same : listed = settlers) :
      (settlers.map (·.id)).toFinset.card < listed.length + unlisted + 1 := by
    rw [same]
    exact Nat.lt_succ_of_le ((card_ids_le settlers).trans (Nat.le_add_right _ _))
  rw [select_eq_visits]
  exact records_scanBelow_visits looksUp declared answers.lists (fun _ same _ => same ▸ id)
    (enough scope.unlisted) (enough 0) ctx

theorem mem_entries_of_mem_links {notes : List Note} (fits : AllFit (· ∈ settlers) notes)
    {link : SettlerId × SettlerId} (followed : link ∈ links notes) : link ∈ entries settlers :=
  mem_entries.mpr (fits _ (mem_links.mp followed))

/-- Links that are followed at most as often as they are given are no more than those given. -/
theorem length_links_le {notes : List Note} (fits : AllFit (· ∈ settlers) notes)
    (sparing : ∀ t ∈ settlers, ∀ supertype,
      (links notes).count (t.id, supertype) ≤ (entries settlers).count (t.id, supertype)) :
    (links notes).length ≤ (entries settlers).length := by
  apply List.Subperm.length_le
  rw [List.subperm_ext_iff]
  rintro ⟨settler, supertype⟩ followed
  obtain ⟨t, listed, rfl, -⟩ := mem_entries.mp (mem_entries_of_mem_links fits followed)
  exact sparing t listed supertype

/-- Where no type is its own ancestor, a selection by a supertype lists the settlers once, and then
only looks up supertypes that they declare.  The links of a type below the wanted one, and of a type
that is listed before all its descendants, are followed at most as often as they are given.  So if
all types are of these kinds, then there are at most as many look-ups as links. -/
theorem links_followed_once (answers : scope.AnswersFrom inv settlers fails)
    (acyclic : Acyclic settlers) (base : SettlerId) (ctx : SelectionContext)
    (beyond : Settler → Walk → Selection (Noted ω) (Bool × Walk)) {w : ω} (holds : inv w) :
    let run := ((bySupertype scope base).select ctx).run w
    ∃ notes,
      (scanBelow (scope.settlers.noted [.lists])
          (fun count => visits (.noting scope) base (count + 1) beyond) base ctx).run ⟨w, []⟩ =
        ⟨run.result, ⟨run.state, .lists :: notes⟩, run.events⟩ ∧
      .lists ∉ notes ∧
      (∀ link ∈ links notes, link ∈ entries settlers) ∧
      (∀ t ∈ settlers, Below settlers base t ∨ ListedFirst settlers t → ∀ supertype,
        (links notes).count (t.id, supertype) ≤ (entries settlers).count (t.id, supertype)) ∧
      ((∀ t ∈ settlers, Below settlers base t ∨ ListedFirst settlers t) →
        (links notes).length ≤ (entries settlers).length) := by
  intro run
  obtain ⟨_, goes, notes, rfl, fits⟩ := (records_select_listed answers base beyond ctx).run_eq holds
  have sparing (t : Settler) (listed : t ∈ settlers)
      (early : Below settlers base t ∨ ListedFirst settlers t) (supertype : SettlerId) :
      (links notes).count (t.id, supertype) ≤ (entries settlers).count (t.id, supertype) := by
    obtain ⟨notes', goes', bounded⟩ :=
      (records_select_sparing answers acyclic listed early beyond ctx).run_eq holds
    have same : notes' = .lists :: notes :=
      congrArg (fun outcome => outcome.state.notes) (goes'.symm.trans goes)
    subst same
    exact (bounded supertype).trans (count_le_entries listed supertype)
  refine ⟨notes, goes, fun member => fits _ member, ?_, sparing, ?_⟩
  · exact fun link followed => mem_entries_of_mem_links fits followed
  · exact fun early => length_links_le fits fun t listed => sparing t listed (early t listed)

/-- Bees and wasps are the two ways up from a drone, and the insect above them is listed first.  The
caste is an ant, and listed after the larva that gives it twice. -/
theorem nest_links_followed_once :
    let settlers : List Settler :=
      [{ id := ⟨"Insect"⟩, supertypes := [⟨"Animal"⟩] },
        { id := ⟨"Bee"⟩, supertypes := [⟨"Insect"⟩] },
        { id := ⟨"Wasp"⟩, supertypes := [⟨"Insect"⟩] },
        { id := ⟨"Drone"⟩, supertypes := [⟨"Bee"⟩, ⟨"Wasp"⟩] },
        { id := ⟨"Larva"⟩, supertypes := [⟨"Insect"⟩, ⟨"Caste"⟩, ⟨"Caste"⟩] },
        { id := ⟨"Caste"⟩, supertypes := [⟨"Insect"⟩, ⟨"Ant"⟩] }]
    let scope : Scope Unit Nat := .ofList settlers
    let ctx : SelectionContext := ⟨⟨"Nest"⟩, ⟨"brood"⟩, .construct⟩
    scope.AnswersFrom (fun _ => True) settlers (fun _ => False) ∧ Acyclic settlers ∧
      (∀ t ∈ settlers, Below settlers ⟨"Ant"⟩ t ∨ ListedFirst settlers t) ∧
      ∃ notes,
        ((scanBelow (scope.settlers.noted [.lists])
          (fun count => visits (.noting scope) ⟨"Ant"⟩ (count + 1) fun _ _ =>
            Action.fail (.other "too deep")) ⟨"Ant"⟩ ctx).run ⟨(), []⟩).state.notes =
          .lists :: notes ∧
        (links notes).length ≤ (entries settlers).length := by
  intro settlers scope ctx
  have answers : scope.AnswersFrom (fun _ => True) settlers (fun _ => False) :=
    Scope.answersFrom_ofList (by decide)
  let rank (s : Settler) : Nat :=
    ["Drone", "Larva", "Wasp", "Bee", "Caste", "Insect"].idxOf s.id.name
  have rises : ∀ s ∈ settlers, ∀ t ∈ settlers, t.id ∈ s.supertypes → rank s < rank t := by
    decide +kernel
  have early : ∀ t ∈ settlers, Below settlers ⟨"Ant"⟩ t ∨ ListedFirst settlers t := by
    simp only [settlers, List.forall_mem_cons]
    refine ⟨.inr ?insect, .inr ?bee, .inr ?wasp, .inr ?drone, .inl ?larva, .inl ?caste, by simp⟩
    case larva =>
      refine Below.of_extends ?_ (t := settlers[5]) ⟨List.getElem_mem _, by decide⟩
      exact .inr ⟨_, .refl, by decide⟩
    case caste => exact .inr ⟨_, .refl, by decide⟩
    all_goals exact listedFirst_of_rank rises (by decide +kernel)
  obtain ⟨notes, goes, -, -, -, few⟩ := links_followed_once answers (acyclic_of_rank rises) ⟨"Ant"⟩
    ctx (fun _ _ => Action.fail (.other "too deep")) (w := ()) trivial
  exact ⟨answers, acyclic_of_rank rises, early, notes, by rw [goes], few early⟩

/-- The worker is listed after the larva that leads to it, and is not an ant.  So its one link is
followed twice, though there are no cycles. -/
theorem worker_followed_twice :
    let settlers : List Settler :=
      [{ id := ⟨"Larva"⟩, supertypes := [⟨"Worker"⟩] },
        { id := ⟨"Worker"⟩, supertypes := [⟨"Insect"⟩] }]
    let scope : Scope Unit Nat := .ofList settlers
    let ctx : SelectionContext := ⟨⟨"Nest"⟩, ⟨"brood"⟩, .construct⟩
    let noted := (scanBelow (scope.settlers.noted [.lists])
      (fun count => visits (.noting scope) ⟨"Ant"⟩ (count + 1) fun _ _ =>
        Action.fail (.other "too deep")) ⟨"Ant"⟩ ctx).run ⟨(), []⟩
    let logged := ((bySupertype scope.logged ⟨"Ant"⟩).select ctx).run ⟨(), []⟩
    scope.AnswersFrom (fun _ => True) settlers (fun _ => False) ∧ Acyclic settlers ∧
      entries settlers = [(⟨"Larva"⟩, ⟨"Worker"⟩), (⟨"Worker"⟩, ⟨"Insect"⟩)] ∧
      links noted.state.notes =
        [(⟨"Larva"⟩, ⟨"Worker"⟩), (⟨"Worker"⟩, ⟨"Insect"⟩), (⟨"Worker"⟩, ⟨"Insect"⟩)] ∧
      logged.state.log =
        [.settlers (.ok settlers), .settler ⟨"Worker"⟩ (.ok settlers[1]?),
          .settler ⟨"Insect"⟩ (.ok none), .settler ⟨"Insect"⟩ (.ok none)] := by
  intro settlers scope ctx noted logged
  let rank (s : Settler) : Nat := ["Larva", "Worker"].idxOf s.id.name
  have rises : ∀ s ∈ settlers, ∀ t ∈ settlers, t.id ∈ s.supertypes → rank s < rank t := by
    decide +kernel
  exact ⟨Scope.answersFrom_ofList (by decide), acyclic_of_rank rises, rfl, by decide +kernel,
    by decide +kernel⟩

end Settlement.Selector
