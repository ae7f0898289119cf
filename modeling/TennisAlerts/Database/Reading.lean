import TennisAlerts.Database.Change

/-!
# Readers of a table

A transaction reads its own versions, everybody else the committed ones.  A
property that relates several rows holds of what every reader sees; it is kept
by a statement when the version that the statement puts keeps it, and a commit
or a rollback only changes who sees what.
-/

namespace TennisAlerts.Database

variable {τ κ ρ : Type}

namespace Cell

variable [DecidableEq τ] {cell later : Cell τ ρ} {writer : τ} {reader : Option τ}

/-- What a reader sees: a transaction, or somebody outside of all of them. -/
def read : Option τ → Cell τ ρ → Option ρ
  | none, cell => cell.base
  | some reader, cell => cell.view reader

theorem version_of_read {row : ρ} (seen : cell.read reader = some row) : cell.Version row := by
  cases reader with
  | none => exact Or.inl seen
  | some reader => exact version_of_view seen

/-- A new version is seen by its writer only. -/
theorem read_hold {row : Option ρ} (free : cell.free writer = true) :
    (cell.hold writer row).read reader =
      if reader = some writer then row else cell.read reader := by
  cases reader with
  | none => rfl
  | some reader =>
      by_cases same : reader = writer
      · subst same
        simp [read]
      · have different : ¬writer = reader := fun equal => same equal.symm
        cases held : cell.held with
        | none => simp [read, view, hold, held, same, different]
        | some version =>
            obtain ⟨holder, put⟩ := version
            have mine : holder = writer := by simpa [Cell.free, held] using free
            subst mine
            simp [read, view, hold, held, same, different]

/-- After a rollback the transaction sees what is committed. -/
theorem read_rollback :
    (cell.rollback writer).read reader =
      cell.read (if reader = some writer then none else reader) := by
  cases reader with
  | none => simp [read]
  | some reader =>
      cases held : cell.held with
      | none => by_cases same : reader = writer <;> simp [read, view, rollback, held, same]
      | some version =>
          obtain ⟨holder, put⟩ := version
          by_cases same : reader = writer
          · subst same
            by_cases mine : holder = reader <;> simp [read, view, rollback, held, mine]
          · by_cases mine : holder = writer
            · subst mine
              have different : ¬holder = reader := fun equal => same equal.symm
              simp [read, view, rollback, held, same, different]
            · simp [read, view, rollback, held, mine, same]

/-- After a commit a reader sees what it saw, or what the transaction saw. -/
theorem read_commit_cases (writer : τ) (reader : Option τ) (cell : Cell τ ρ) :
    (cell.commit writer).read reader = cell.read reader ∨
      (cell.commit writer).read reader = cell.read (some writer) := by
  cases reader with
  | none => exact Or.inr base_commit_eq_view
  | some reader =>
      cases held : cell.held with
      | none => exact Or.inl (by simp [read, view, commit, held])
      | some version =>
          obtain ⟨holder, put⟩ := version
          by_cases mine : holder = writer
          · subst mine
            exact Or.inr (by simp [read, view, commit, held])
          · exact Or.inl (by rw [commit_of_held_ne held mine])

/-! ## Statements -/

/-- What a statement of `writer` can do to a cell: nothing, or put a permitted
version of the row that it read. -/
inductive Put (writer : τ) (puts : Option ρ → ρ → Prop) (cell : Cell τ ρ) : Cell τ ρ → Prop
  | same : Put writer puts cell cell
  | hold (row : ρ) (free : cell.free writer = true) (permitted : puts (cell.view writer) row) :
      Put writer puts cell (cell.hold writer (some row))

variable {puts : Option ρ → ρ → Prop}

theorem Put.base_eq (put : Put writer puts cell later) : later.base = cell.base := by
  cases put <;> rfl

/-- A version held by another transaction protects its cell. -/
theorem Put.foreign (put : Put writer puts cell later) {holder : τ} {row : Option ρ}
    (held : cell.held = some (holder, row)) (different : holder ≠ writer) : later = cell := by
  cases put with
  | same => rfl
  | hold row free _ =>
      rw [not_free_of_held_ne held different] at free
      cases free

theorem Put.version (put : Put writer puts cell later) {row : ρ} (version : later.Version row) :
    cell.Version row ∨ puts (cell.view writer) row := by
  cases put with
  | same => exact Or.inl version
  | hold new free permitted =>
      rw [version_hold_iff] at version
      rcases version with stored | put
      · exact Or.inl (Or.inl stored)
      · cases put
        exact Or.inr permitted

theorem Put.read (put : Put writer puts cell later) (reader : Option τ) :
    later.read reader = cell.read reader ∨
      ∃ row, reader = some writer ∧ later.read reader = some row ∧
        puts (cell.read reader) row := by
  cases put with
  | same => exact Or.inl rfl
  | hold row free permitted =>
      rw [read_hold free]
      split
      · rename_i mine
        subst mine
        exact Or.inr ⟨row, rfl, rfl, permitted⟩
      · exact Or.inl rfl

theorem Put.mono {weaker : Option ρ → ρ → Prop} (put : Put writer puts cell later)
    (implied : ∀ row, puts (cell.view writer) row → weaker (cell.view writer) row) :
    Put writer weaker cell later := by
  cases put with
  | same => exact .same
  | hold row free permitted => exact .hold row free (implied row permitted)

/-! ## Properties that a row keeps -/

/-- The row is never deleted, and a committed row with the property has it in
every version. -/
structure Firm (property : ρ → Prop) (cell : Cell τ ρ) : Prop where
  present : ∀ writer, cell.held ≠ some (writer, none)
  kept : ∀ row new, cell.base = some row → property row → cell.Version new → property new

/-- The reader sees a row with the property. -/
def Reads (property : ρ → Prop) (reader : Option τ) (cell : Cell τ ρ) : Prop :=
  ∃ row, cell.read reader = some row ∧ property row

variable {property : ρ → Prop}

omit [DecidableEq τ] in
theorem Firm.of_unheld (unheld : cell.held = none) : Firm property cell where
  present writer held := by
    rw [unheld] at held
    cases held
  kept row new stored satisfied version := by
    rcases version with stored' | ⟨_, held⟩
    · rw [stored] at stored'
      cases stored'
      exact satisfied
    · rw [unheld] at held
      cases held

/-- A committed row is seen by everybody. -/
theorem Firm.reads_of_base (firm : Firm property cell) (stored : Reads property none cell)
    (reader : Option τ) : Reads property reader cell := by
  obtain ⟨row, base, satisfied⟩ := stored
  cases seen : cell.read reader with
  | some new => exact ⟨new, seen, firm.kept row new base satisfied (version_of_read seen)⟩
  | none =>
      exfalso
      cases reader with
      | none =>
          rw [seen] at base
          cases base
      | some reader =>
          change cell.base = some row at base
          simp only [read, view] at seen
          split at seen
          · rename_i holder put held
            split at seen
            · subst seen
              exact firm.present holder held
            · rw [base] at seen
              cases seen
          · rw [base] at seen
            cases seen

theorem Firm.put (firm : Firm property cell) (put : Put writer puts cell later)
    (keeps : ∀ previous row, cell.view writer = some previous → property previous →
      puts (some previous) row → property row) : Firm property later := by
  cases put with
  | same => exact firm
  | hold row free permitted =>
      constructor
      · intro other held
        cases held
      · intro stored new base satisfied version
        rw [version_hold_iff] at version
        rcases version with stored' | put
        · exact firm.kept stored new base satisfied (Or.inl stored')
        · cases put
          obtain ⟨previous, seen, before⟩ :=
            firm.reads_of_base ⟨stored, base, satisfied⟩ (some writer)
          change cell.view writer = some previous at seen
          rw [seen] at permitted
          exact keeps previous row seen before permitted

theorem Firm.commit (firm : Firm property cell) : Firm property (cell.commit writer) := by
  cases held : cell.held with
  | none => simpa [Cell.commit, held] using firm
  | some version =>
      obtain ⟨holder, put⟩ := version
      by_cases mine : holder = writer
      · subst mine
        rw [commit_of_held held]
        exact .of_unheld rfl
      · rw [commit_of_held_ne held mine]
        exact firm

theorem Firm.rollback (firm : Firm property cell) : Firm property (cell.rollback writer) := by
  rcases rollback_cases writer cell with ⟨_, _, dropped⟩ | ⟨same, _⟩
  · rw [dropped]
    exact .of_unheld rfl
  · rw [same]
    exact firm

/-- What the committing transaction saw, everybody sees. -/
theorem Firm.reads_commit_of_writer (firm : Firm property cell)
    (seen : Reads property (some writer) cell) (reader : Option τ) :
    Reads property reader (cell.commit writer) := by
  apply firm.commit.reads_of_base
  obtain ⟨row, view, satisfied⟩ := seen
  exact ⟨row, base_commit_eq_view.trans view, satisfied⟩

theorem Firm.reads_commit (firm : Firm property cell) (seen : Reads property reader cell) :
    Reads property reader (cell.commit writer) := by
  by_cases held : ∃ row, cell.held = some (writer, row)
  · apply firm.reads_commit_of_writer
    by_cases mine : reader = some writer
    · exact mine ▸ seen
    · apply firm.reads_of_base
      obtain ⟨row, held⟩ := held
      obtain ⟨found, view, satisfied⟩ := seen
      refine ⟨found, ?_, satisfied⟩
      cases reader with
      | none => exact view
      | some other =>
          have different : ¬writer = other := fun same => mine (congrArg some same.symm)
          simpa [read, Cell.view, held, different] using view
  · have same : cell.commit writer = cell := by
      cases version : cell.held with
      | none => simp [Cell.commit, version]
      | some version' =>
          obtain ⟨holder, row⟩ := version'
          apply commit_of_held_ne version
          rintro rfl
          exact held ⟨row, version⟩
    rw [same]
    exact seen

theorem reads_put (put : Put writer puts cell later) (seen : Reads property reader cell)
    (keeps : ∀ previous row, property previous → puts (some previous) row → property row) :
    Reads property reader later := by
  obtain ⟨row, view, satisfied⟩ := seen
  rcases put.read reader with same | ⟨new, _, view', permitted⟩
  · exact ⟨row, same.trans view, satisfied⟩
  · rw [view] at permitted
    exact ⟨new, view', keeps row new satisfied permitted⟩

end Cell

namespace VersionedTable

variable [DecidableEq τ] {table : VersionedTable τ κ ρ} {writer : τ}
  {puts : Option ρ → ρ → Prop}

theorem put_write {statement : κ → ρ → Option ρ}
    (writable : table.writable writer (fun key row => (statement key row).map some) = true)
    (key : κ) (permitted : ∀ row new, (table.cell key).view writer = some row →
      statement key row = some new → puts (some row) new) :
    (table.cell key).Put writer puts
      ((table.write writer fun key row => (statement key row).map some).cell key) := by
  rcases cell_write_cases writable key with
    ⟨unchanged, _⟩ | ⟨row, new, seen, chosen, free, changed⟩
  · rw [unchanged]
    exact .same
  · obtain ⟨moved, selected, rfl⟩ := Option.map_eq_some_iff.mp chosen
    rw [changed]
    apply Cell.Put.hold moved free
    rw [seen]
    exact permitted row moved seen selected

theorem put_insert [DecidableEq κ] {key : κ} {row : ρ}
    (free : (table.cell key).free writer = true)
    (permitted : puts ((table.cell key).view writer) row) (other : κ) :
    (table.cell other).Put writer puts ((table.insert writer key row).cell other) := by
  by_cases same : other = key
  · subst same
    rw [cell_insert_self]
    exact .hold row free permitted
  · rw [cell_insert_of_ne same]
    exact .same

end VersionedTable

end TennisAlerts.Database
