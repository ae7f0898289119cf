import TennisAlerts.Database.Table

/-!
# What one transaction can do to a row

A step of a transaction leaves a cell alone, publishes or drops the version it
holds there, or holds a new version of what it reads.  Properties of a cell are
kept by every step when they are kept by these four changes.
-/

namespace TennisAlerts.Database

variable {τ κ ρ α : Type}

/-- The changes that the transactions in `own` can make to a cell; `puts` relates
what a transaction reads to the version it may hold instead. -/
inductive Cell.Change (own : τ → Prop) (puts : τ → Option ρ → Option ρ → Prop)
    [DecidableEq τ] (cell : Cell τ ρ) : Cell τ ρ → Prop
  | same : Change own puts cell cell
  | publish (writer : τ) (row : Option ρ) (mine : own writer)
      (held : cell.held = some (writer, row)) : Change own puts cell ⟨row, none⟩
  | drop (writer : τ) (row : Option ρ) (mine : own writer)
      (held : cell.held = some (writer, row)) : Change own puts cell ⟨cell.base, none⟩
  | hold (writer : τ) (new : Option ρ) (mine : own writer) (free : cell.free writer = true)
      (permitted : puts writer (cell.view writer) new) :
      Change own puts cell (cell.hold writer new)

namespace Cell

variable [DecidableEq τ] {own : τ → Prop} {puts : τ → Option ρ → Option ρ → Prop}
  {cell later : Cell τ ρ}

theorem Change.of_commit {writer : τ} (mine : own writer) :
    Change own puts cell (cell.commit writer) := by
  cases held : cell.held with
  | none =>
      have unchanged : cell.commit writer = cell := by simp [commit, held]
      rw [unchanged]
      exact .same
  | some version =>
      obtain ⟨holder, row⟩ := version
      by_cases same : holder = writer
      · subst same
        rw [commit_of_held held]
        exact .publish holder row mine held
      · rw [commit_of_held_ne held same]
        exact .same

/-- The version that the transaction holds is dropped, or nothing happens. -/
theorem rollback_cases (writer : τ) (cell : Cell τ ρ) :
    (∃ row, cell.held = some (writer, row) ∧ cell.rollback writer = ⟨cell.base, none⟩) ∨
      (cell.rollback writer = cell ∧ ∀ row, cell.held ≠ some (writer, row)) := by
  cases held : cell.held with
  | none => exact Or.inr ⟨by simp [rollback, held], by simp⟩
  | some version =>
      obtain ⟨holder, row⟩ := version
      by_cases same : holder = writer
      · subst same
        exact Or.inl ⟨row, rfl, by simp [rollback, held]⟩
      · exact Or.inr ⟨rollback_of_held_ne held same, by simp [same]⟩

/-- The connections of a process are rolled back together. -/
def rollbackAll (writers : List τ) (cell : Cell τ ρ) : Cell τ ρ :=
  writers.foldl (fun later writer => later.rollback writer) cell

theorem rollbackAll_of_unheld {writers : List τ} {base : Option ρ} :
    rollbackAll writers ⟨base, none⟩ = (⟨base, none⟩ : Cell τ ρ) := by
  induction writers with
  | nil => rfl
  | cons writer writers ih => exact ih

theorem rollbackAll_cases (writers : List τ) (cell : Cell τ ρ) :
    (∃ writer ∈ writers, ∃ row, cell.held = some (writer, row) ∧
        cell.rollbackAll writers = ⟨cell.base, none⟩) ∨
      (cell.rollbackAll writers = cell ∧
        ∀ writer ∈ writers, ∀ row, cell.held ≠ some (writer, row)) := by
  induction writers with
  | nil => exact Or.inr ⟨rfl, by simp⟩
  | cons writer writers ih =>
      change (∃ other ∈ writer :: writers, ∃ row, cell.held = some (other, row) ∧
        (cell.rollback writer).rollbackAll writers = _) ∨
        ((cell.rollback writer).rollbackAll writers = _ ∧ _)
      rcases rollback_cases writer cell with ⟨row, held, dropped⟩ | ⟨same, unheld⟩
      · rw [dropped, rollbackAll_of_unheld]
        exact Or.inl ⟨writer, List.mem_cons_self, row, held, rfl⟩
      · rw [same]
        rcases ih with ⟨other, member, row, held, dropped⟩ | ⟨unchanged, others⟩
        · exact Or.inl ⟨other, List.mem_cons_of_mem _ member, row, held, dropped⟩
        · refine Or.inr ⟨unchanged, ?_⟩
          intro other member
          rcases List.mem_cons.mp member with rfl | member
          · exact unheld
          · exact others other member

theorem Change.of_rollbackAll {writers : List τ} (mine : ∀ writer ∈ writers, own writer) :
    Change own puts cell (cell.rollbackAll writers) := by
  rcases rollbackAll_cases writers cell with ⟨writer, member, row, held, dropped⟩ | ⟨same, _⟩
  · rw [dropped]
    exact .drop writer row (mine writer member) held
  · rw [same]
    exact .same

/-- A version held by a foreign transaction protects its cell. -/
theorem Change.foreign (change : Change own puts cell later) {holder : τ} {row : Option ρ}
    (held : cell.held = some (holder, row)) (foreign : ¬own holder) : later = cell := by
  cases change with
  | same => rfl
  | publish writer _ mine held' =>
      rw [held] at held'
      cases held'
      exact absurd mine foreign
  | drop writer _ mine held' =>
      rw [held] at held'
      cases held'
      exact absurd mine foreign
  | hold writer new mine free _ =>
      have different : holder ≠ writer := by
        rintro rfl
        exact foreign mine
      rw [not_free_of_held_ne held different] at free
      cases free

/-- A foreign transaction holds afterwards what it held before. -/
theorem Change.held_of_foreign (change : Change own puts cell later) {holder : τ}
    {row : Option ρ} (held : later.held = some (holder, row)) (foreign : ¬own holder) :
    cell.held = some (holder, row) := by
  cases change with
  | same => exact held
  | publish => cases held
  | drop => cases held
  | hold writer new mine _ _ =>
      cases held
      exact absurd mine foreign

/-! ## Rows that stay -/

/-- The row of the cell is never deleted, all its versions agree on `subject`, and
only the transactions in `creator` insert it. -/
structure Lasting (subject : ρ → α) (creator : τ → Prop) (cell : Cell τ ρ) : Prop where
  present : ∀ writer, cell.held ≠ some (writer, none)
  same : ∀ row new, cell.Version row → cell.Version new → subject new = subject row
  created : ∀ writer row, cell.base = none → cell.held = some (writer, row) → creator writer

/-- The new version of a row that stays. -/
def putsLasting (subject : ρ → α) (creator : τ → Prop) (writer : τ) (old new : Option ρ) : Prop :=
  ∃ row, new = some row ∧
    match old with
    | some previous => subject row = subject previous
    | none => creator writer

variable {subject : ρ → α} {creator : τ → Prop}

omit [DecidableEq τ] in
theorem Lasting.of_unheld (unheld : cell.held = none) : Lasting subject creator cell where
  present writer held := by
    rw [unheld] at held
    cases held
  same row new := by
    rintro (stored | ⟨_, held⟩) (stored' | ⟨_, held'⟩)
    · rw [stored] at stored'
      cases stored'
      rfl
    all_goals simp_all
  created writer row _ held := by
    rw [unheld] at held
    cases held

/-- A committed row is read by every transaction. -/
theorem Lasting.view_of_base (lasting : Lasting subject creator cell) (reader : τ) {row : ρ}
    (stored : cell.base = some row) : ∃ seen, cell.view reader = some seen := by
  unfold view
  split
  · rename_i holder held held_eq
    split
    · cases held with
      | none => exact absurd held_eq (lasting.present holder)
      | some seen => exact ⟨seen, rfl⟩
    · exact ⟨row, stored⟩
  · exact ⟨row, stored⟩

/-- A row that was not created by its reader is committed, with the same subject. -/
theorem Lasting.base_of_view (lasting : Lasting subject creator cell) {reader : τ} {row : ρ}
    (seen : cell.view reader = some row) (foreign : ¬creator reader) :
    ∃ stored, cell.base = some stored ∧ subject stored = subject row := by
  have version := version_of_view seen
  cases base : cell.base with
  | some stored => exact ⟨stored, rfl, lasting.same row stored version (Or.inl base)⟩
  | none =>
      rcases version with stored | ⟨holder, held⟩
      · rw [base] at stored
        cases stored
      · have created := lasting.created holder _ base held
        have mine : holder = reader := by
          by_contra other
          simp [view, held, other, base] at seen
        subst mine
        exact absurd created foreign

theorem Lasting.change (lasting : Lasting subject creator cell)
    (change : Change own (putsLasting subject creator) cell later) :
    Lasting subject creator later := by
  cases change with
  | same => exact lasting
  | publish => exact .of_unheld rfl
  | drop => exact .of_unheld rfl
  | hold writer new mine free permitted =>
      obtain ⟨put, rfl, kept⟩ := permitted
      -- the versions after the change are the committed one and the new one
      have agrees : ∀ row, cell.base = some row → subject put = subject row := by
        intro row stored
        obtain ⟨previous, seen⟩ := lasting.view_of_base writer stored
        rw [seen] at kept
        rw [kept]
        exact lasting.same row previous (Or.inl stored) (version_of_view seen)
      constructor
      · intro other held
        cases held
      · intro row other version version'
        rw [version_hold_iff] at version version'
        rcases version with stored | put_eq
        · rcases version' with stored' | put_eq'
          · rw [stored] at stored'
            cases stored'
            rfl
          · cases put_eq'
            exact agrees row stored
        · cases put_eq
          rcases version' with stored' | put_eq'
          · exact (agrees other stored').symm
          · cases put_eq'
            rfl
      · rintro other row missing ⟨⟩
        have missing : cell.base = none := missing
        cases held : cell.held with
        | none =>
            have unseen : cell.view writer = none := by simp [view, held, missing]
            rw [unseen] at kept
            exact kept
        | some version =>
            obtain ⟨holder, previous⟩ := version
            have created := lasting.created holder previous missing held
            have mine : holder = writer := by simpa [Cell.free, held] using free
            rwa [mine] at created

/-- What is committed stays, with its subject. -/
theorem Lasting.base_change (lasting : Lasting subject creator cell)
    (change : Change own (putsLasting subject creator) cell later) {row : ρ}
    (stored : cell.base = some row) :
    ∃ new, later.base = some new ∧ subject new = subject row := by
  cases change with
  | same => exact ⟨row, stored, rfl⟩
  | publish writer published mine held =>
      cases published with
      | none => exact absurd held (lasting.present writer)
      | some new =>
          exact ⟨new, rfl, lasting.same row new (Or.inl stored) (Or.inr ⟨writer, held⟩)⟩
  | drop => exact ⟨row, stored, rfl⟩
  | hold => exact ⟨row, stored, rfl⟩

end Cell

namespace VersionedTable

variable [DecidableEq τ] {own : τ → Prop} {puts : τ → Option ρ → Option ρ → Prop}
  {table : VersionedTable τ κ ρ} {writer : τ}

theorem change_write {statement : κ → ρ → Option (Option ρ)} (mine : own writer)
    (writable : table.writable writer statement = true) (key : κ)
    (permitted : ∀ row new, (table.cell key).view writer = some row →
      statement key row = some new → puts writer (some row) new) :
    (table.cell key).Change own puts ((table.write writer statement).cell key) := by
  rcases cell_write_cases writable key with
    ⟨unchanged, _⟩ | ⟨row, new, seen, chosen, free, changed⟩
  · rw [unchanged]
    exact .same
  · rw [changed]
    apply Cell.Change.hold writer new mine free
    rw [seen]
    exact permitted row new seen chosen

theorem change_insert [DecidableEq κ] {key : κ} {row : ρ} (mine : own writer)
    (free : (table.cell key).free writer = true)
    (permitted : puts writer ((table.cell key).view writer) (some row)) (other : κ) :
    (table.cell other).Change own puts ((table.insert writer key row).cell other) := by
  by_cases same : other = key
  · subst same
    rw [cell_insert_self]
    exact .hold writer (some row) mine free permitted
  · rw [cell_insert_of_ne same]
    exact .same

end VersionedTable

end TennisAlerts.Database
