import TennisAlerts.Intervals.Sweep

/-!
# Sweeps over sorted intervals

A sort by start is stable, so intervals that start together keep their places.  A sweep
uses every interval that starts before the first one that reaches the goal, and of those
that start together with it the ones before it.
-/

namespace TennisAlerts.Intervals

variable {τ σ : Type} [LinearOrder τ] {start finish : σ → τ}

/-! ## Stable sorting -/

/-- Intervals by start. -/
abbrev sortByStart (start : σ → τ) (items : List σ) : List σ :=
  items.insertionSort fun first second => start first ≤ start second

theorem sortByStart_sorted (start : σ → τ) (items : List σ) :
    (sortByStart start items).Pairwise fun first second => start first ≤ start second := by
  have total : Std.Total fun first second : σ => start first ≤ start second :=
    ⟨fun first second => le_total (start first) (start second)⟩
  have trans : IsTrans σ fun first second => start first ≤ start second :=
    ⟨fun _ _ _ => le_trans⟩
  exact List.pairwise_insertionSort _ _

theorem mem_sortByStart {item : σ} {items : List σ} :
    item ∈ sortByStart start items ↔ item ∈ items :=
  List.mem_insertionSort _

/-- Sorting is stable, so it commutes with filters. -/
theorem filter_sortByStart {items : List σ} (keep : σ → Bool) :
    sortByStart start (items.filter keep) = (sortByStart start items).filter keep := by
  have insert (item : σ) (sorted : List σ)
      (order : sorted.Pairwise fun first second => start first ≤ start second) :
      (sorted.orderedInsert (fun first second => start first ≤ start second) item).filter keep =
        if keep item then
          (sorted.filter keep).orderedInsert (fun first second => start first ≤ start second) item
        else sorted.filter keep := by
    induction sorted with
    | nil => simp only [List.orderedInsert, List.filter_cons, List.filter_nil]
    | cons head tail ih =>
        obtain ⟨later, order⟩ := List.pairwise_cons.mp order
        have ih := ih order
        by_cases first : start item ≤ start head
        · rw [List.orderedInsert_cons_of_le _ tail first, List.filter_cons]
          split
          · have below : ∀ other ∈ (head :: tail).filter keep, start item ≤ start other := by
              intro other member
              rcases List.mem_cons.mp (List.mem_of_mem_filter member) with rfl | member
              · exact first
              · exact le_trans first (later other member)
            cases kept : (head :: tail).filter keep with
            | nil => rfl
            | cons other rest =>
                rw [List.orderedInsert_cons_of_le _ rest
                  (below other (kept ▸ List.mem_cons_self))]
          · rfl
        · rw [List.orderedInsert_of_not_le _ tail first, List.filter_cons, List.filter_cons, ih]
          split
          · split
            · rw [List.orderedInsert_cons, if_neg first]
            · rfl
          · rfl
  induction items with
  | nil => rfl
  | cons item items ih =>
      rw [sortByStart, sortByStart, List.insertionSort_cons,
        insert _ _ (sortByStart_sorted start items), ← ih,
        List.filter_cons]
      split
      · rw [List.insertionSort_cons]
      · rfl

/-- The first interval is sorted behind earlier starts only. -/
theorem sortByStart_cons (start : σ → τ) (item : σ) (items : List σ) :
    ∃ front back, sortByStart start (item :: items) = front ++ item :: back ∧
      ∀ other ∈ front, start other < start item := by
  rw [sortByStart, List.insertionSort_cons, List.orderedInsert_eq_take_drop]
  refine ⟨_, _, rfl, fun other member => ?_⟩
  have later := List.all_eq_true.mp (List.all_takeWhile) other member
  exact not_le.mp (of_decide_eq_true later)

/-- An interval is inserted on one side of another one. -/
theorem orderedInsert_side (start : σ → τ) (item other : σ) (front back : List σ) :
    (∃ front', (front ++ item :: back).orderedInsert
        (fun first second => start first ≤ start second) other = front' ++ item :: back) ∨
      start item < start other ∧
        ∃ back', (front ++ item :: back).orderedInsert
            (fun first second => start first ≤ start second) other = front ++ item :: back' ∧
          ∀ third ∈ back', third = other ∨ third ∈ back := by
  induction front with
  | nil =>
      rw [List.nil_append, List.orderedInsert_cons]
      split
      · exact .inl ⟨[other], rfl⟩
      · rename_i later
        exact .inr ⟨not_le.mp later, _, rfl,
          fun third member => (List.mem_orderedInsert _).mp member⟩
  | cons head front ih =>
      rw [List.cons_append, List.orderedInsert_cons]
      split
      · exact .inl ⟨other :: head :: front, rfl⟩
      · rcases ih with ⟨front', split⟩ | ⟨later, back', split, known⟩
        · exact .inl ⟨head :: front', by rw [split, List.cons_append]⟩
        · exact .inr ⟨later, back', by rw [split, List.cons_append], known⟩

/-- The last interval is sorted before later starts only. -/
theorem sortByStart_append (start : σ → τ) (items : List σ) (item : σ) :
    ∃ front back, sortByStart start (items ++ [item]) = front ++ item :: back ∧
      ∀ other ∈ back, start item < start other := by
  induction items with
  | nil => exact ⟨[], [], rfl, nofun⟩
  | cons head items ih =>
      obtain ⟨front, back, split, later⟩ := ih
      rw [sortByStart, List.cons_append, List.insertionSort_cons]
      rw [show (items ++ [item]).insertionSort (fun first second => start first ≤ start second) =
        front ++ item :: back from split]
      rcases orderedInsert_side start item head front back with
        ⟨front', inserted⟩ | ⟨later', back', inserted, known⟩
      · exact ⟨front', back, inserted, later⟩
      · refine ⟨front, back', inserted, fun other member => ?_⟩
        rcases known other member with rfl | member
        · exact later'
        · exact later other member

/-! ## Used intervals -/

/-- The interval starts before every one that reaches the goal. -/
def Early (start finish : σ → τ) (goal : τ) (items : List σ) (item : σ) : Prop :=
  ∀ other ∈ items, goal ≤ finish other → start item < start other

/-- The interval starts together with the first ones that reach the goal. -/
def Tied (start finish : σ → τ) (goal : τ) (items : List σ) (item : σ) : Prop :=
  (∃ other ∈ items, goal ≤ finish other ∧ start other = start item) ∧
    ∀ other ∈ items, goal ≤ finish other → start item ≤ start other

/-- The interval reaches the goal, and every other one that does starts later. -/
def Sole (start finish : σ → τ) (goal : τ) (items : List σ) (item : σ) : Prop :=
  goal ≤ finish item ∧
    ∀ other ∈ items, goal ≤ finish other → other = item ∨ start item < start other

section

variable {goal cursor : τ} {items : List σ}
  (alive : ∀ item ∈ items, cursor < finish item)
  (arrived : goal ≤ (run start finish goal cursor (sortByStart start items)).1)
  (needed : (run start finish goal cursor (sortByStart start items)).2 ≠ [])
include alive arrived needed

/-- The sorted intervals, split at the one that ends the sweep. -/
theorem sorted_split :
    ∃ before item after, sortByStart start items = before ++ item :: after ∧
      (run start finish goal cursor (sortByStart start items)).2 = before ++ [item] ∧
        goal ≤ finish item ∧ (∀ other ∈ before, finish other < goal) ∧
          ∀ other ∈ items, goal ≤ finish other → start item ≤ start other := by
  obtain ⟨before, item, after, split, used, enough, short⟩ := run_last arrived needed
  have member : item ∈ items :=
    mem_sortByStart.mp (split ▸ List.mem_append_right _ List.mem_cons_self)
  refine ⟨before, item, after, split, used, ?_, short, fun other known reaches => ?_⟩
  · rcases lt_or_ge cursor goal with ahead | reached
    · exact enough ahead
    · exact le_trans reached (le_of_lt (alive item member))
  · have sorted := sortByStart_sorted start items
    rw [split] at sorted
    have place : other ∈ sortByStart start items := mem_sortByStart.mpr known
    rw [split] at place
    rcases List.mem_append.mp place with early | late
    · exact absurd reaches (not_le.mpr (short other early))
    · rcases List.mem_cons.mp late with rfl | late
      · exact le_refl _
      · exact (List.pairwise_cons.mp (List.pairwise_append.mp sorted).2.1).1 other late

/-- What is used starts before or together with the first intervals that reach the goal. -/
theorem used_cases {item : σ}
    (used : item ∈ (run start finish goal cursor (sortByStart start items)).2) :
    Early start finish goal items item ∨ Tied start finish goal items item := by
  obtain ⟨before, last, after, split, same, reaches, -, first⟩ := sorted_split alive arrived needed
  have sorted := sortByStart_sorted start items
  rw [same] at used
  have early : start item ≤ start last := by
    rw [split] at sorted
    rcases List.mem_append.mp used with inside | inside
    · exact (List.pairwise_append.mp sorted).2.2 item inside last List.mem_cons_self
    · rw [List.mem_singleton.mp inside]
  have member : last ∈ items :=
    mem_sortByStart.mp (split ▸ List.mem_append_right _ List.mem_cons_self)
  rcases lt_or_eq_of_le early with less | equal
  · exact .inl fun other known reaches' => lt_of_lt_of_le less (first other known reaches')
  · exact .inr ⟨⟨last, member, reaches, equal.symm⟩,
      fun other known reaches' => equal ▸ first other known reaches'⟩

theorem used_of_early {item : σ} (member : item ∈ items)
    (early : Early start finish goal items item) :
    item ∈ (run start finish goal cursor (sortByStart start items)).2 := by
  obtain ⟨before, last, after, split, same, reaches, -, -⟩ := sorted_split alive arrived needed
  have sorted := sortByStart_sorted start items
  have less := early last
    (mem_sortByStart.mp (split ▸ List.mem_append_right _ List.mem_cons_self)) reaches
  have place : item ∈ sortByStart start items := mem_sortByStart.mpr member
  rw [split] at place sorted
  rw [same]
  rcases List.mem_append.mp place with inside | late
  · exact List.mem_append_left _ inside
  · rcases List.mem_cons.mp late with rfl | late
    · exact absurd less (lt_irrefl _)
    · exact absurd less
        (not_lt.mpr ((List.pairwise_cons.mp (List.pairwise_append.mp sorted).2.1).1 item late))

theorem used_of_sole {item : σ} (member : item ∈ items)
    (sole : Sole start finish goal items item) :
    item ∈ (run start finish goal cursor (sortByStart start items)).2 := by
  obtain ⟨before, last, after, split, same, reaches, -, first⟩ := sorted_split alive arrived needed
  have known : last ∈ items :=
    mem_sortByStart.mp (split ▸ List.mem_append_right _ List.mem_cons_self)
  rw [same]
  rcases sole.2 last known reaches with rfl | less
  · exact List.mem_append_right _ (List.mem_singleton_self last)
  · exact absurd less (not_lt.mpr (first item member sole.1))

end

/-- An interval in the first place is used when it is tied. -/
theorem used_of_tied {goal cursor : τ} {item : σ} {items : List σ}
    (alive : ∀ other ∈ item :: items, cursor < finish other)
    (arrived : goal ≤ (run start finish goal cursor (sortByStart start (item :: items))).1)
    (needed : (run start finish goal cursor (sortByStart start (item :: items))).2 ≠ [])
    (tied : Tied start finish goal (item :: items) item) :
    item ∈ (run start finish goal cursor (sortByStart start (item :: items))).2 := by
  obtain ⟨before, last, after, split, same, reaches, -, -⟩ := sorted_split alive arrived needed
  obtain ⟨front, back, place, earlier⟩ := sortByStart_cons start item items
  have member : last ∈ item :: items :=
    mem_sortByStart.mp (split ▸ List.mem_append_right _ List.mem_cons_self)
  have late : start item ≤ start last := tied.2 last member reaches
  rw [same]
  rcases List.append_eq_append_iff.mp (split.symm.trans place) with
    ⟨middle, fronts, backs⟩ | ⟨middle, fronts, backs⟩
  · cases middle with
    | nil => exact List.mem_append_right _ ((List.cons.inj backs).1 ▸ List.mem_singleton_self _)
    | cons head middle =>
        have inside : last ∈ front := by
          rw [fronts, (List.cons.inj backs).1]
          exact List.mem_append_right _ List.mem_cons_self
        exact absurd late (not_le.mpr (earlier last inside))
  · cases middle with
    | nil => exact List.mem_append_right _ ((List.cons.inj backs).1 ▸ List.mem_singleton_self _)
    | cons head middle =>
        rw [fronts, (List.cons.inj backs).1]
        exact List.mem_append_left _ (List.mem_append_right _ List.mem_cons_self)

/-- A used interval in the last place is early, or the sole one of its start. -/
theorem sole_of_used {goal cursor : τ} {item : σ} {items : List σ}
    (alive : ∀ other ∈ items ++ [item], cursor < finish other)
    (arrived : goal ≤ (run start finish goal cursor (sortByStart start (items ++ [item]))).1)
    (needed : (run start finish goal cursor (sortByStart start (items ++ [item]))).2 ≠ [])
    (distinct : (items ++ [item]).Nodup)
    (used : item ∈ (run start finish goal cursor (sortByStart start (items ++ [item]))).2)
    (late : ¬Early start finish goal (items ++ [item]) item) :
    Sole start finish goal (items ++ [item]) item := by
  obtain ⟨⟨other, member, reaches', together⟩, -⟩ :=
    (used_cases alive arrived needed used).resolve_left late
  obtain ⟨before, last, after, split, same, reaches, short, first⟩ :=
    sorted_split alive arrived needed
  obtain ⟨front, back, place, later⟩ := sortByStart_append start items item
  have single : (front ++ item :: back).Nodup :=
    place ▸ (List.perm_insertionSort _ _).nodup_iff.mpr distinct
  have ends (fronts : front = before) (final : item = last) :
      Sole start finish goal (items ++ [item]) item := by
    refine ⟨final ▸ reaches, fun other inside reaches' => ?_⟩
    have inside : other ∈ sortByStart start (items ++ [item]) := mem_sortByStart.mpr inside
    rcases List.mem_append.mp (place ▸ inside) with inside | inside
    · exact absurd reaches' (not_le.mpr (short other (fronts ▸ inside)))
    · exact (List.mem_cons.mp inside).imp_right (later other)
  rcases List.append_eq_append_iff.mp (split.symm.trans place) with
    ⟨middle, fronts, backs⟩ | ⟨middle, fronts, backs⟩
  · cases middle with
    | nil => exact ends (fronts.trans (List.append_nil _)) (List.cons.inj backs).1.symm
    | cons head middle =>
        rw [same] at used
        have inside : item ∈ front := by
          rw [fronts, ← (List.cons.inj backs).1]
          rcases List.mem_append.mp used with inside | inside
          · exact List.mem_append_left _ inside
          · rw [List.mem_singleton.mp inside]
            exact List.mem_append_right _ List.mem_cons_self
        exact absurd rfl ((List.nodup_append.mp single).2.2 item inside item List.mem_cons_self)
  · cases middle with
    | nil => exact ends ((List.append_nil _).symm.trans fronts.symm) (List.cons.inj backs).1
    | cons head middle =>
        have inside : last ∈ back := by
          rw [(List.cons.inj backs).2]
          exact List.mem_append_right _ List.mem_cons_self
        exact absurd (together ▸ first other member reaches') (not_le.mpr (later last inside))

end TennisAlerts.Intervals
