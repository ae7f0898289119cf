import TennisAlerts.Database.Change
import Mathlib.Order.Defs.Unbundled

/-!
# Rows that move forward

When every version that a transaction puts is above the version it reads, in
some preorder, then what an open transaction holds is above what is committed,
and each step leaves the committed row where it is or moves it forward.  A row
that has reached a version has all of it behind itself for the rest of a run.
-/

namespace TennisAlerts.Database

namespace Cell

variable {τ ρ : Type} [DecidableEq τ] {own : τ → Prop}
  {puts : τ → Option ρ → Option ρ → Prop} {cell later : Cell τ ρ}

/-- What an open transaction holds is above what is committed. -/
def Ascending (below : Option ρ → Option ρ → Prop) (cell : Cell τ ρ) : Prop :=
  ∀ writer row, cell.held = some (writer, row) → below cell.base row

section

variable {below : Option ρ → Option ρ → Prop}

omit [DecidableEq τ] in
theorem ascending_of_unheld (unheld : cell.held = none) : Ascending below cell := by
  intro writer row held
  rw [unheld] at held
  cases held

variable [Std.Refl below]

/-- Whatever is read is above what is committed. -/
theorem Ascending.view (ascending : Ascending below cell) (reader : τ) :
    below cell.base (cell.view reader) := by
  unfold Cell.view
  split
  · rename_i holder row held
    split
    · exact ascending holder row held
    · exact refl_of below cell.base
  · exact refl_of below cell.base

variable [IsTrans (Option ρ) below]

theorem Ascending.change (ascending : Ascending below cell)
    (change : Change own puts cell later)
    (above : ∀ writer old new, puts writer old new → below old new) :
    Ascending below later := by
  cases change with
  | same => exact ascending
  | publish => exact ascending_of_unheld rfl
  | drop => exact ascending_of_unheld rfl
  | hold writer new mine free permitted =>
      rintro other row ⟨⟩
      exact trans_of below (ascending.view writer) (above writer _ _ permitted)

omit [IsTrans (Option ρ) below] in
/-- A step moves the committed row forward. -/
theorem Ascending.base (ascending : Ascending below cell)
    (change : Change own puts cell later) : below cell.base later.base := by
  cases change with
  | same => exact refl_of below cell.base
  | publish writer row mine held => exact ascending writer row held
  | drop => exact refl_of below cell.base
  | hold => exact refl_of below cell.base

end

/-! ## Versions -/

/-- Every version after a step was there before, or was put in place of what its
writer read. -/
theorem Change.version (change : Change own puts cell later) {row : ρ}
    (version : later.Version row) :
    cell.Version row ∨ ∃ writer, own writer ∧ puts writer (cell.view writer) (some row) := by
  cases change with
  | same => exact Or.inl version
  | publish writer put mine held =>
      rcases version with stored | ⟨_, impossible⟩
      · cases stored
        exact Or.inl (Or.inr ⟨writer, held⟩)
      · cases impossible
  | drop =>
      rcases version with stored | ⟨_, impossible⟩
      · exact Or.inl (Or.inl stored)
      · cases impossible
  | hold writer new mine free permitted =>
      rw [version_hold_iff] at version
      rcases version with stored | put
      · exact Or.inl (Or.inl stored)
      · subst put
        exact Or.inr ⟨writer, mine, permitted⟩

/-- Every version that some transaction can read now has the property. -/
def Everywhere (property : ρ → Prop) (cell : Cell τ ρ) : Prop :=
  ∀ row, cell.Version row → property row

theorem Everywhere.change {property : ρ → Prop} (everywhere : Everywhere property cell)
    (change : Change own puts cell later)
    (keeps : ∀ writer old row, own writer → (∀ previous, old = some previous → property previous) →
      puts writer old (some row) → property row) : Everywhere property later := by
  intro row version
  rcases change.version version with old | ⟨writer, mine, put⟩
  · exact everywhere row old
  · apply keeps writer _ row mine _ put
    exact fun previous seen => everywhere previous (version_of_view seen)

end Cell

end TennisAlerts.Database
