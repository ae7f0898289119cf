import TennisAlerts.Database.Server
import Mathlib.Data.List.Perm.Subperm
import Mathlib.Data.List.Count

/-!
# Quotas

At most so many rows of a table satisfy a condition.  A `SELECT count(*)` proves a
quota, and a row that is added counts once more.
-/

namespace TennisAlerts.Database

variable {schema : Schema} {κ ε : Type}

/-- At most `limit` rows of the table satisfy the condition. -/
def Rows.AtMost (rows : Rows schema) (table : schema.Table) (limit : Nat)
    (selects : schema.Row table → Prop) : Prop :=
  ∀ keys : List (schema.Key table), keys.Nodup →
    (∀ key ∈ keys, ∃ row, rows table key = some row ∧ selects row) → keys.length ≤ limit

section

variable {rows later : Rows schema} {table : schema.Table} {limit : Nat}
  {selects stronger : schema.Row table → Prop}

theorem Rows.AtMost.mono {larger : Nat} (quota : rows.AtMost table limit selects)
    (less : limit ≤ larger) : rows.AtMost table larger selects :=
  fun keys distinct selected => Nat.le_trans (quota keys distinct selected) less

/-- The rows that satisfy a condition later satisfied one before. -/
theorem Rows.AtMost.of_older (quota : rows.AtMost table limit selects)
    (older : ∀ key row, later table key = some row → stronger row →
      ∃ row, rows table key = some row ∧ selects row) :
    later.AtMost table limit stronger := by
  intro keys distinct selected
  apply quota keys distinct
  intro key member
  obtain ⟨row, found, holds⟩ := selected key member
  exact older key row found holds

/-- One row is put; the others were there before. -/
theorem Rows.AtMost.put (quota : rows.AtMost table limit selects) {key : schema.Key table}
    (others : ∀ other row, other ≠ key → later table other = some row → selects row →
      ∃ row, rows table other = some row ∧ selects row) :
    later.AtMost table (limit + 1) selects := by
  intro keys distinct selected
  have kept : (keys.erase key).length ≤ limit := by
    apply quota _ (distinct.erase key)
    intro other member
    obtain ⟨different, inKeys⟩ := (distinct.mem_erase_iff).mp member
    obtain ⟨row, found, holds⟩ := selected other inKeys
    exact others other row different found holds
  by_cases member : key ∈ keys
  · have erased := List.length_erase_add_one member
    omega
  · rw [List.erase_of_not_mem member] at kept
    omega

/-- A row is added that, if it counts, does not exceed the limit. -/
theorem Rows.AtMost.add (quota : rows.AtMost table (limit + 1) selects)
    {key : schema.Key table} {row : schema.Row table}
    (below : selects row → rows.AtMost table limit selects)
    (added : later table key = some row)
    (others : ∀ other, other ≠ key → later table other = rows table other) :
    later.AtMost table (limit + 1) selects := by
  by_cases counts : selects row
  · apply (below counts).put
    intro other found different present holds
    rw [others other different] at present
    exact ⟨found, present, holds⟩
  · apply quota.of_older
    intro other found present holds
    by_cases same : other = key
    · subst other
      rw [added] at present
      cases present
      exact absurd holds counts
    · rw [others other same] at present
      exact ⟨found, present, holds⟩

end

/-- What a `SELECT count(*)` says about the rows that its transaction reads. -/
theorem atMost_count (server : Server schema κ ε) (tx : Nat) (table : schema.Table)
    (condition : schema.Row table → Bool) :
    Rows.AtMost ((server.writes tx).apply server.base) table
      ((server.view tx table).rows.countP fun entry => condition entry.2)
      fun row => condition row = true := by
  intro keys distinct selected
  rw [List.countP_eq_length_filter]
  have each : ∀ key ∈ keys, ∃ entry ∈ (server.view tx table).rows.filter
      (fun entry => condition entry.2), entry.1 = key := by
    intro key member
    obtain ⟨row, seen, holds⟩ := selected key member
    exact ⟨(key, row), List.mem_filter.mpr ⟨mem_rows_view seen, holds⟩, rfl⟩
  have subset : keys ⊆ ((server.view tx table).rows.filter
      (fun entry => condition entry.2)).map Prod.fst := by
    intro key member
    obtain ⟨entry, found, same⟩ := each key member
    exact List.mem_map.mpr ⟨entry, found, same⟩
  simpa using (distinct.subperm subset).length_le

end TennisAlerts.Database
