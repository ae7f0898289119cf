import TennisAlerts.Database.Cell
import Mathlib.Data.List.Basic
import Mathlib.Tactic.TypeStar

/-!
# Tables, snapshots and read-committed statements

A plain table lists its keys and gives the row of each key.  A versioned table
has a `Cell` for each key instead; reading it as one transaction gives a plain
table.  A database is one such table per table name, and a snapshot is what a
transaction reads when a statement starts.

Statements are written against snapshots: the condition and the new row of an
`UPDATE` may consult every table.  Under read committed a statement sees the
committed rows and the transaction's own writes, waits while a row it would
write is held by another transaction, and writes the row as it is then.
-/

namespace TennisAlerts.Database

/-- A table without versions. -/
structure Table (κ ρ : Type) where
  keys : List κ
  row : κ → Option ρ

namespace Table

variable {κ ρ : Type}

/-- The rows present, with their keys. -/
def rows (table : Table κ ρ) : List (κ × ρ) :=
  table.keys.filterMap fun key => (table.row key).map fun row => (key, row)

theorem mem_rows_iff {table : Table κ ρ} {key : κ} {row : ρ} :
    (key, row) ∈ table.rows ↔ key ∈ table.keys ∧ table.row key = some row := by
  simp [rows, List.mem_filterMap, Option.map_eq_some_iff]

end Table

/-- A table whose rows have versions.  Slots outside the key list are untouched. -/
structure VersionedTable (τ κ ρ : Type) where
  keys : List κ
  cell : κ → Cell τ ρ
  complete : ∀ key, key ∉ keys → cell key = Cell.empty

namespace VersionedTable

variable {τ κ ρ : Type}

/-- A table without rows. -/
def empty : VersionedTable τ κ ρ where
  keys := []
  cell _ := Cell.empty
  complete _ _ := rfl

/-- A table with one committed row. -/
def singleton [DecidableEq κ] (key : κ) (row : ρ) : VersionedTable τ κ ρ where
  keys := [key]
  cell other := if other = key then Cell.committed row else Cell.empty
  complete other missing := by
    rw [List.mem_singleton] at missing
    exact if_neg missing

variable [DecidableEq τ]

/-- The table as one transaction reads it. -/
def view (reader : τ) (table : VersionedTable τ κ ρ) : Table κ ρ where
  keys := table.keys
  row key := (table.cell key).view reader

/-- Apply a change to every cell that leaves untouched slots untouched. -/
def mapCells (table : VersionedTable τ κ ρ) (change : Cell τ ρ → Cell τ ρ)
    (untouched : change Cell.empty = Cell.empty) : VersionedTable τ κ ρ where
  keys := table.keys
  cell key := change (table.cell key)
  complete key missing := by rw [table.complete key missing, untouched]

/-- Publish every row `writer` holds. -/
def commit (writer : τ) (table : VersionedTable τ κ ρ) : VersionedTable τ κ ρ :=
  table.mapCells (Cell.commit writer) rfl

/-- Drop every row `writer` holds. -/
def rollback (writer : τ) (table : VersionedTable τ κ ρ) : VersionedTable τ κ ρ :=
  table.mapCells (Cell.rollback writer) rfl

/-- The cell after a statement: rows the statement selects are held with their
new version (`none` deletes the row). -/
def writeCell (writer : τ) (statement : ρ → Option (Option ρ)) (cell : Cell τ ρ) :
    Cell τ ρ :=
  match (cell.view writer).bind statement with
  | some new => cell.hold writer new
  | none => cell

/-- Write the selected rows. -/
def write (writer : τ) (statement : κ → ρ → Option (Option ρ))
    (table : VersionedTable τ κ ρ) : VersionedTable τ κ ρ where
  keys := table.keys
  cell key := writeCell writer (statement key) (table.cell key)
  complete key missing := by rw [table.complete key missing]; rfl

/-- No selected row is held by another transaction. -/
def writable (writer : τ) (statement : κ → ρ → Option (Option ρ))
    (table : VersionedTable τ κ ρ) : Bool :=
  table.keys.all fun key =>
    (((table.cell key).view writer).bind (statement key)).isNone ||
      (table.cell key).free writer

variable [DecidableEq κ]

/-- Put a new row under a key whose slot `writer` can lock. -/
def insert (writer : τ) (key : κ) (row : ρ) (table : VersionedTable τ κ ρ) :
    VersionedTable τ κ ρ where
  keys := if key ∈ table.keys then table.keys else table.keys ++ [key]
  cell := Function.update table.cell key ((table.cell key).hold writer (some row))
  complete other missing := by
    have different : other ≠ key := by
      rintro rfl
      split at missing <;> simp_all
    rw [Function.update_of_ne different]
    apply table.complete
    split at missing <;> simp_all

/-! ### Cells after an operation -/

omit [DecidableEq κ] in
@[simp]
theorem cell_commit (writer : τ) (table : VersionedTable τ κ ρ) (key : κ) :
    (table.commit writer).cell key = (table.cell key).commit writer :=
  rfl

omit [DecidableEq κ] in
@[simp]
theorem cell_rollback (writer : τ) (table : VersionedTable τ κ ρ) (key : κ) :
    (table.rollback writer).cell key = (table.cell key).rollback writer :=
  rfl

omit [DecidableEq κ] in
@[simp]
theorem row_view (reader : τ) (table : VersionedTable τ κ ρ) (key : κ) :
    (table.view reader).row key = (table.cell key).view reader :=
  rfl

omit [DecidableEq κ] in
/-- What a statement can do to a cell: nothing, or hold a new version of a row
that it selected and could lock. -/
theorem cell_write_cases {writer : τ} {statement : κ → ρ → Option (Option ρ)}
    {table : VersionedTable τ κ ρ} (writable : table.writable writer statement = true)
    (key : κ) :
    ((table.write writer statement).cell key = table.cell key ∧
        ∀ row, (table.cell key).view writer = some row → statement key row = none) ∨
      ∃ row new, (table.cell key).view writer = some row ∧
        statement key row = some new ∧ (table.cell key).free writer = true ∧
        (table.write writer statement).cell key = (table.cell key).hold writer new := by
  have written : (table.write writer statement).cell key =
      writeCell writer (statement key) (table.cell key) := rfl
  rw [written, writeCell]
  cases selected : ((table.cell key).view writer).bind (statement key) with
  | none =>
      refine Or.inl ⟨rfl, ?_⟩
      intro row seen
      simpa [seen] using selected
  | some new =>
      obtain ⟨row, seen, chosen⟩ := Option.bind_eq_some_iff.mp selected
      refine Or.inr ⟨row, new, seen, chosen, ?_, rfl⟩
      by_cases known : key ∈ table.keys
      · have available := List.all_eq_true.mp writable key known
        simpa [selected] using available
      · rw [table.complete key known] at seen
        simp [Cell.empty, Cell.view] at seen

omit [DecidableEq κ] in
/-- A selected row is held in its new version. -/
theorem held_write {writer : τ} {statement : κ → ρ → Option (Option ρ)}
    {table : VersionedTable τ κ ρ} (key : κ) {row : ρ} {new : Option ρ}
    (seen : (table.cell key).view writer = some row) (chosen : statement key row = some new) :
    ((table.write writer statement).cell key).held = some (writer, new) := by
  change (writeCell writer (statement key) (table.cell key)).held = _
  simp [writeCell, seen, chosen]

omit [DecidableEq κ] in
/-- A statement's transaction reads the versions that the statement put. -/
theorem view_write {writer : τ} {statement : κ → ρ → Option (Option ρ)}
    {table : VersionedTable τ κ ρ} (key : κ) :
    ((table.write writer statement).cell key).view writer =
      (((table.cell key).view writer).bind (statement key)).getD
        ((table.cell key).view writer) := by
  change (writeCell writer (statement key) (table.cell key)).view writer = _
  unfold writeCell
  cases ((table.cell key).view writer).bind (statement key) with
  | none => rfl
  | some new => simp

omit [DecidableEq τ] in
theorem cell_insert_self {writer : τ} {key : κ} {row : ρ}
    {table : VersionedTable τ κ ρ} :
    (table.insert writer key row).cell key =
      (table.cell key).hold writer (some row) := by
  simp [insert]

omit [DecidableEq τ] in
theorem cell_insert_of_ne {writer : τ} {key other : κ} {row : ρ}
    {table : VersionedTable τ κ ρ} (different : other ≠ key) :
    (table.insert writer key row).cell other = table.cell other := by
  simp [insert, different]

end VersionedTable

end TennisAlerts.Database
