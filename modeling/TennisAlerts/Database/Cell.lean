import Mathlib.Logic.Function.Basic

/-!
# Row versions under read-committed isolation

A cell is one row slot of a table: the committed version and, while some
transaction holds the row lock, the version that transaction would commit.
Other transactions keep reading the committed version and cannot lock the row
until the holder ends.  `none` stands for an absent row, so that an insert and
a delete are versions like any other.
-/

namespace TennisAlerts.Database

/-- The committed version of a row and the version held by an open transaction. -/
structure Cell (τ ρ : Type) where
  base : Option ρ
  held : Option (τ × Option ρ)

namespace Cell

variable {τ ρ : Type}

/-- A slot that no transaction has ever written. -/
def empty : Cell τ ρ :=
  ⟨none, none⟩

/-- A committed row that nobody holds. -/
def committed (row : ρ) : Cell τ ρ :=
  ⟨some row, none⟩

/-- A version of the row that some transaction can read now. -/
def Version (cell : Cell τ ρ) (row : ρ) : Prop :=
  cell.base = some row ∨ ∃ holder, cell.held = some (holder, some row)

@[simp]
theorem version_committed (row other : ρ) :
    (committed row : Cell τ ρ).Version other ↔ row = other := by
  simp [committed, Version]

/-- Take the row lock and put a new version. -/
def hold (writer : τ) (row : Option ρ) (cell : Cell τ ρ) : Cell τ ρ :=
  { cell with held := some (writer, row) }

@[simp]
theorem base_hold {writer : τ} {row : Option ρ} {cell : Cell τ ρ} :
    (cell.hold writer row).base = cell.base :=
  rfl

@[simp]
theorem held_hold {writer : τ} {row : Option ρ} {cell : Cell τ ρ} :
    (cell.hold writer row).held = some (writer, row) :=
  rfl

theorem version_hold_iff {writer : τ} {cell : Cell τ ρ} {new : Option ρ}
    {row : ρ} :
    (cell.hold writer new).Version row ↔ cell.base = some row ∨ new = some row := by
  simp [hold, Version]

variable [DecidableEq τ]

/-- What transaction `reader` reads. -/
def view (reader : τ) (cell : Cell τ ρ) : Option ρ :=
  match cell.held with
  | some (holder, row) => if holder = reader then row else cell.base
  | none => cell.base

/-- The row lock is available to `writer`. -/
def free (writer : τ) (cell : Cell τ ρ) : Bool :=
  match cell.held with
  | some (holder, _) => decide (holder = writer)
  | none => true

/-- Publish what `writer` holds. -/
def commit (writer : τ) (cell : Cell τ ρ) : Cell τ ρ :=
  match cell.held with
  | some (holder, row) => if holder = writer then ⟨row, none⟩ else cell
  | none => cell

/-- Drop what `writer` holds. -/
def rollback (writer : τ) (cell : Cell τ ρ) : Cell τ ρ :=
  match cell.held with
  | some (holder, _) => if holder = writer then ⟨cell.base, none⟩ else cell
  | none => cell

@[simp]
theorem view_committed (reader : τ) (row : ρ) :
    view reader (committed row) = some row :=
  rfl

@[simp]
theorem view_hold (writer : τ) (row : Option ρ) (cell : Cell τ ρ) :
    view writer (hold writer row cell) = row := by
  simp [view, hold]

theorem version_of_view {reader : τ} {cell : Cell τ ρ} {row : ρ}
    (seen : cell.view reader = some row) : cell.Version row := by
  unfold view at seen
  split at seen
  · rename_i holder held held_eq
    split at seen
    · exact Or.inr ⟨holder, by rw [held_eq, seen]⟩
    · exact Or.inl seen
  · exact Or.inl seen

/-- A row that is free for `writer` has no version but the committed one and the
one `writer` reads. -/
theorem view_of_free_of_held {writer holder : τ} {cell : Cell τ ρ}
    {row : Option ρ} (available : cell.free writer = true)
    (held : cell.held = some (holder, row)) : cell.view writer = row := by
  simp only [free, held, decide_eq_true_eq] at available
  simp [view, held, available]

theorem version_of_commit {writer : τ} {cell : Cell τ ρ} {row : ρ}
    (version : (cell.commit writer).Version row) : cell.Version row := by
  unfold commit at version
  split at version
  · rename_i holder held held_eq
    split at version
    · rcases version with published | ⟨_, impossible⟩
      · change held = some row at published
        subst published
        exact Or.inr ⟨holder, held_eq⟩
      · cases impossible
    · exact version
  · exact version

theorem version_of_rollback {writer : τ} {cell : Cell τ ρ} {row : ρ}
    (version : (cell.rollback writer).Version row) : cell.Version row := by
  unfold rollback at version
  split at version
  · split at version
    · rcases version with committed | ⟨_, impossible⟩
      · exact Or.inl committed
      · cases impossible
    · exact version
  · exact version

/-- A held row is changed by its holder only. -/
theorem commit_of_held_ne {writer holder : τ} {cell : Cell τ ρ}
    {row : Option ρ} (held : cell.held = some (holder, row))
    (different : holder ≠ writer) : cell.commit writer = cell := by
  simp [commit, held, different]

theorem rollback_of_held_ne {writer holder : τ} {cell : Cell τ ρ}
    {row : Option ρ} (held : cell.held = some (holder, row))
    (different : holder ≠ writer) : cell.rollback writer = cell := by
  simp [rollback, held, different]

theorem commit_of_held {writer : τ} {cell : Cell τ ρ} {row : Option ρ}
    (held : cell.held = some (writer, row)) :
    cell.commit writer = ⟨row, none⟩ := by
  simp [commit, held]

theorem not_free_of_held_ne {writer holder : τ} {cell : Cell τ ρ}
    {row : Option ρ} (held : cell.held = some (holder, row))
    (different : holder ≠ writer) : cell.free writer = false := by
  simp [free, held, different]

/-- A commit publishes the held version or leaves the committed one. -/
theorem base_commit {writer : τ} {cell : Cell τ ρ} :
    (cell.commit writer).base = cell.base ∨
      cell.held = some (writer, (cell.commit writer).base) := by
  unfold commit
  split
  · rename_i holder row held_eq
    split
    · rename_i same
      subst same
      exact Or.inr held_eq
    · exact Or.inl rfl
  · exact Or.inl rfl

/-- A commit publishes what its transaction reads. -/
theorem base_commit_eq_view {writer : τ} {cell : Cell τ ρ} :
    (cell.commit writer).base = cell.view writer := by
  unfold commit view
  split
  · split <;> rfl
  · rfl

/-- A commit leaves only what other transactions hold. -/
theorem held_commit {writer : τ} {cell : Cell τ ρ} {held : τ × Option ρ}
    (remains : (cell.commit writer).held = some held) : cell.held = some held := by
  unfold commit at remains
  split at remains
  · split at remains
    · cases remains
    · exact remains
  · exact remains

theorem held_rollback {writer : τ} {cell : Cell τ ρ} {held : τ × Option ρ}
    (remains : (cell.rollback writer).held = some held) : cell.held = some held := by
  unfold rollback at remains
  split at remains
  · split at remains
    · cases remains
    · exact remains
  · exact remains

@[simp]
theorem base_rollback {writer : τ} {cell : Cell τ ρ} :
    (cell.rollback writer).base = cell.base := by
  unfold rollback
  split
  · split <;> rfl
  · rfl

/-! ### Pending versions -/

/-- The version that `writer` would commit, where it holds the row. -/
def pending (writer : τ) (cell : Cell τ ρ) : Option (Option ρ) :=
  match cell.held with
  | some (holder, row) => if holder = writer then some row else none
  | none => none

theorem view_eq_pending (reader : τ) (cell : Cell τ ρ) :
    cell.view reader = (cell.pending reader).getD cell.base := by
  unfold view pending
  split
  · split <;> rfl
  · rfl

theorem base_commit_eq_pending (writer : τ) (cell : Cell τ ρ) :
    (cell.commit writer).base = (cell.pending writer).getD cell.base :=
  base_commit_eq_view.trans (view_eq_pending writer cell)

theorem held_of_pending {writer : τ} {cell : Cell τ ρ} {row : Option ρ}
    (holds : cell.pending writer = some row) : cell.held = some (writer, row) := by
  unfold pending at holds
  split at holds
  · rename_i holder version held
    split at holds
    · rename_i same
      cases holds
      rw [held, same]
    · cases holds
  · cases holds

/-- One transaction holds a row at a time. -/
theorem pending_eq_none_of_ne {writer other : τ} {cell : Cell τ ρ} {row : Option ρ}
    (holds : cell.pending other = some row) (different : other ≠ writer) :
    cell.pending writer = none := by
  simp [pending, held_of_pending holds, different]

@[simp]
theorem pending_hold (writer : τ) (row : Option ρ) (cell : Cell τ ρ) :
    (cell.hold writer row).pending writer = some row := by
  simp [pending]

theorem pending_hold_of_ne {writer other : τ} {row : Option ρ} {cell : Cell τ ρ}
    (available : cell.free writer = true) (different : other ≠ writer) :
    (cell.hold writer row).pending other = cell.pending other := by
  unfold free at available
  split at available
  · rename_i holder version held
    have same : holder = writer := by simpa using available
    simp [pending, held, same, Ne.symm different]
  · rename_i held
    simp [pending, held, Ne.symm different]

@[simp]
theorem pending_commit (writer : τ) (cell : Cell τ ρ) :
    (cell.commit writer).pending writer = none := by
  unfold commit
  split
  · rename_i holder version held
    split
    · rfl
    · rename_i different
      simp [pending, held, different]
  · rename_i held
    simp [pending, held]

theorem pending_commit_of_ne {writer other : τ} {cell : Cell τ ρ} (different : other ≠ writer) :
    (cell.commit writer).pending other = cell.pending other := by
  unfold commit
  split
  · rename_i holder version held
    split
    · rename_i same
      simp [pending, held, same, Ne.symm different]
    · rfl
  · rfl

@[simp]
theorem pending_rollback (writer : τ) (cell : Cell τ ρ) :
    (cell.rollback writer).pending writer = none := by
  unfold rollback
  split
  · rename_i holder version held
    split
    · rfl
    · rename_i different
      simp [pending, held, different]
  · rename_i held
    simp [pending, held]

theorem pending_rollback_of_ne {writer other : τ} {cell : Cell τ ρ} (different : other ≠ writer) :
    (cell.rollback writer).pending other = cell.pending other := by
  unfold rollback
  split
  · rename_i holder version held
    split
    · rename_i same
      simp [pending, held, same, Ne.symm different]
    · rfl
  · rfl

end Cell

end TennisAlerts.Database
