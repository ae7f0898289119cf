import Mathlib.Order.MinMax
import Mathlib.Data.List.Basic
import Mathlib.Data.List.Infix
import Mathlib.Data.List.Sort

/-!
# Greedy sweeps over intervals

A sweep goes through intervals in the order of their starts, moves a cursor to the
latest end that it can reach without a gap, and stops at a goal.  It reaches the goal
exactly when the half-open intervals cover everything from the cursor to the goal.
-/

namespace TennisAlerts.Intervals

variable {τ σ : Type} [LinearOrder τ] (start finish : σ → τ)

/-- The half-open intervals cover everything from `low` up to `high`. -/
def Covers (items : List σ) (low high : τ) : Prop :=
  ∀ point, low ≤ point → point < high → ∃ item ∈ items, start item ≤ point ∧ point < finish item

/-- How far the sweep gets, and the intervals that it uses. -/
def run (goal : τ) : τ → List σ → τ × List σ
  | cursor, [] => (cursor, [])
  | cursor, item :: rest =>
      if cursor < start item then (cursor, [])
      else
        let next := max cursor (finish item)
        if goal ≤ next then (next, [item])
        else ((run goal next rest).1, item :: (run goal next rest).2)

variable {start finish}

theorem Covers.mono {items items' : List σ} {low high : τ} (subset : items ⊆ items')
    (covers : Covers start finish items low high) : Covers start finish items' low high := by
  intro point after before
  obtain ⟨item, member, inside⟩ := covers point after before
  exact ⟨item, subset member, inside⟩

variable {goal : τ}

theorem le_run (cursor : τ) (items : List σ) : cursor ≤ (run start finish goal cursor items).1 := by
  induction items generalizing cursor with
  | nil => exact le_refl cursor
  | cons item rest ih =>
      unfold run
      split
      · exact le_refl cursor
      · dsimp only
        split
        · exact le_max_left _ _
        · exact le_trans (le_max_left _ _) (ih _)

/-- The used intervals are the first ones. -/
theorem run_initial (cursor : τ) (items : List σ) :
    (run start finish goal cursor items).2 <+: items := by
  induction items generalizing cursor with
  | nil => exact List.prefix_refl []
  | cons item rest ih =>
      unfold run
      split
      · exact List.nil_prefix
      · dsimp only
        split
        · exact ⟨rest, rfl⟩
        · exact List.cons_prefix_cons.mpr ⟨rfl, ih _⟩

/-- The used intervals cover what lies behind the sweep. -/
theorem covers_run (cursor : τ) (items : List σ) :
    Covers start finish (run start finish goal cursor items).2 cursor
      (run start finish goal cursor items).1 := by
  induction items generalizing cursor with
  | nil => exact fun point after before => absurd before (not_lt.mpr after)
  | cons item rest ih =>
      unfold run
      split
      · exact fun point after before => absurd before (not_lt.mpr after)
      · rename_i reached
        have first {point : τ} (after : cursor ≤ point)
            (before : point < max cursor (finish item)) :
            start item ≤ point ∧ point < finish item :=
          ⟨le_trans (not_lt.mp reached) after,
            (lt_max_iff.mp before).resolve_left (not_lt.mpr after)⟩
        dsimp only
        split
        · exact fun point after before => ⟨item, List.mem_cons_self, first after before⟩
        · intro point after before
          rcases lt_or_ge point (max cursor (finish item)) with early | late
          · exact ⟨item, List.mem_cons_self, first after early⟩
          · obtain ⟨other, member, inside⟩ := ih _ point late before
            exact ⟨other, List.mem_cons_of_mem item member, inside⟩

/-- Short of the goal, the place where the sweep stops is covered by no interval. -/
theorem run_gap {cursor : τ} {items : List σ}
    (sorted : items.Pairwise fun first second => start first ≤ start second)
    (short : (run start finish goal cursor items).1 < goal) :
    ∀ item ∈ items, ¬(start item ≤ (run start finish goal cursor items).1 ∧
      (run start finish goal cursor items).1 < finish item) := by
  induction items generalizing cursor with
  | nil => exact fun _ member => absurd member List.not_mem_nil
  | cons item rest ih =>
      obtain ⟨later, sorted⟩ := List.pairwise_cons.mp sorted
      unfold run at short ⊢
      split
      · rename_i gap
        intro other member inside
        rcases List.mem_cons.mp member with rfl | member
        · exact absurd inside.1 (not_le.mpr gap)
        · exact absurd (le_trans (later other member) inside.1) (not_le.mpr gap)
      · rename_i reached
        rw [if_neg reached] at short
        dsimp only at short ⊢
        split
        · rename_i arrived
          rw [if_pos arrived] at short
          exact absurd arrived (not_le.mpr short)
        · rename_i ahead
          rw [if_neg ahead] at short
          intro other member inside
          rcases List.mem_cons.mp member with rfl | member
          · exact absurd inside.2 (not_lt.mpr (le_trans (le_max_right _ _) (le_run _ rest)))
          · exact ih sorted short other member inside

/-- The sweep reaches the goal exactly when the intervals cover the way. -/
theorem le_run_iff {cursor : τ} {items : List σ}
    (sorted : items.Pairwise fun first second => start first ≤ start second) :
    goal ≤ (run start finish goal cursor items).1 ↔ Covers start finish items cursor goal := by
  constructor
  · intro arrived point after before
    obtain ⟨item, member, inside⟩ := covers_run cursor items point after (before.trans_le arrived)
    exact ⟨item, (run_initial cursor items).subset member, inside⟩
  · intro covers
    by_contra short
    obtain ⟨item, member, inside⟩ := covers _ (le_run cursor items) (not_le.mp short)
    exact run_gap sorted (not_le.mp short) item member inside

/-- A sweep that reaches a goal ahead uses intervals. -/
theorem run_needed {cursor : τ} {items : List σ} (ahead : cursor < goal)
    (arrived : goal ≤ (run start finish goal cursor items).1) :
    (run start finish goal cursor items).2 ≠ [] := by
  cases items with
  | nil => exact absurd arrived (not_le.mpr ahead)
  | cons item rest =>
      unfold run at arrived ⊢
      split
      · rename_i gap
        rw [if_pos gap] at arrived
        exact absurd arrived (not_le.mpr ahead)
      · dsimp only
        split
        · exact List.cons_ne_nil item []
        · exact List.cons_ne_nil item _

/-- A sweep that reaches the goal ends with the first interval that does. -/
theorem run_last {cursor : τ} {items : List σ}
    (arrived : goal ≤ (run start finish goal cursor items).1)
    (needed : (run start finish goal cursor items).2 ≠ []) :
    ∃ before item after, items = before ++ item :: after ∧
      (run start finish goal cursor items).2 = before ++ [item] ∧
        (cursor < goal → goal ≤ finish item) ∧ ∀ other ∈ before, finish other < goal := by
  induction items generalizing cursor with
  | nil => exact absurd rfl needed
  | cons item rest ih =>
      by_cases gap : cursor < start item
      · exact absurd (by rw [run, if_pos gap]) needed
      · by_cases last : goal ≤ max cursor (finish item)
        · simp only [run, if_neg gap, if_pos last]
          exact ⟨[], item, rest, rfl, rfl,
            fun ahead => (le_max_iff.mp last).resolve_left (not_le.mpr ahead), nofun⟩
        · simp only [run, if_neg gap, if_neg last] at arrived ⊢
          obtain ⟨before, final, after, split, used, enough, earlier⟩ :=
            ih arrived (run_needed (not_le.mp last) arrived)
          refine ⟨item :: before, final, after, ?_, ?_, fun _ => enough (not_le.mp last), ?_⟩
          · rw [split, List.cons_append]
          · rw [used, List.cons_append]
          · intro other member
            rcases List.mem_cons.mp member with rfl | member
            · exact (max_lt_iff.mp (not_le.mp last)).2
            · exact earlier other member

/-- A sweep that reaches the goal is the same over the used intervals, whatever follows them. -/
theorem run_used_append {cursor : τ} {items : List σ}
    (arrived : goal ≤ (run start finish goal cursor items).1)
    (needed : (run start finish goal cursor items).2 ≠ []) (more : List σ) :
    run start finish goal cursor ((run start finish goal cursor items).2 ++ more) =
      run start finish goal cursor items := by
  induction items generalizing cursor with
  | nil => exact absurd rfl needed
  | cons item rest ih =>
      by_cases gap : cursor < start item
      · exact absurd (by rw [run, if_pos gap]) needed
      · by_cases last : goal ≤ max cursor (finish item)
        · simp only [run, if_neg gap, if_pos last, List.cons_append]
        · simp only [run, if_neg gap, if_neg last] at arrived ⊢
          have needed' := run_needed (not_le.mp last) arrived
          simp only [List.cons_append, run, if_neg gap, if_neg last, ih arrived needed']

end TennisAlerts.Intervals
