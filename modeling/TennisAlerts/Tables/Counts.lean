import Mathlib.Algebra.BigOperators.Group.Finset.Piecewise
import Mathlib.Algebra.Order.BigOperators.Group.Finset

/-!
# Counting by key

The entries of a history are counted key by key.  A bound under every key bounds
the whole history.
-/

namespace TennisAlerts.Tables

variable {α κ : Type} [DecidableEq κ] {key : α → κ} {entries : List α}

/-- The entries are counted key by key. -/
theorem countP_eq_sum (counted : α → Bool) (keys : Finset κ)
    (covered : ∀ entry ∈ entries, key entry ∈ keys) :
    entries.countP counted =
      ∑ each ∈ keys, entries.countP fun entry => counted entry && decide (key entry = each) := by
  induction entries with
  | nil => simp
  | cons entry entries ih =>
      have rest := ih fun other member => covered other (List.mem_cons_of_mem entry member)
      simp only [List.countP_cons, Finset.sum_add_distrib, ← rest]
      congr 1
      cases counted entry
      · simp
      · simp [covered entry List.mem_cons_self]

/-- What is counted at most as often under every key is counted at most as often. -/
theorem countP_le_of_keys {counted other : α → Bool}
    (each : ∀ single, (entries.countP fun entry => counted entry && decide (key entry = single)) ≤
      entries.countP fun entry => other entry && decide (key entry = single)) :
    entries.countP counted ≤ entries.countP other := by
  have covered : ∀ entry ∈ entries, key entry ∈ (entries.map key).toFinset := by
    intro entry member
    exact List.mem_toFinset.mpr (List.mem_map_of_mem member)
  rw [countP_eq_sum counted _ covered, countP_eq_sum other _ covered]
  exact Finset.sum_le_sum fun single _ => each single

end TennisAlerts.Tables
