import Mathlib.Data.List.Induction
import Mathlib.Data.List.Nodup

/-!
# Gathering items by keys

A table of lists grows by the items of one key after another, the way a dictionary of
lists is filled in a loop.  What it holds in the end depends on the rows only.
-/

namespace TennisAlerts.Tables

variable {κ ρ σ : Type} [DecidableEq κ]

/-- The items join those of their key, which is added behind the others when it is new. -/
def extendBy (key : κ) (items : List ρ) : List (κ × List ρ) → List (κ × List ρ)
  | [] => [(key, items)]
  | entry :: rest =>
      if entry.1 = key then (entry.1, entry.2 ++ items) :: rest
      else entry :: extendBy key items rest

/-- The table of all rows; a row may have no key. -/
def gather (part : σ → Option (κ × List ρ)) (rows : List σ) : List (κ × List ρ) :=
  rows.foldl (fun table row =>
    match part row with
    | some (key, items) => extendBy key items table
    | none => table) []

variable {key : κ} {items : List ρ} {table : List (κ × List ρ)}

theorem mem_keys_extendBy {other : κ} :
    other ∈ (extendBy key items table).map Prod.fst ↔ other ∈ table.map Prod.fst ∨ other = key := by
  induction table with
  | nil => simp [extendBy]
  | cons entry rest ih =>
      unfold extendBy
      split
      · rename_i same
        simp only [List.map_cons, List.mem_cons, same]
        exact ⟨fun known => .inl known, fun known => known.elim id fun new => .inl new⟩
      · simp only [List.map_cons, List.mem_cons, ih, or_assoc]

theorem nodup_keys_extendBy (keyed : (table.map Prod.fst).Nodup) :
    ((extendBy key items table).map Prod.fst).Nodup := by
  induction table with
  | nil => exact List.nodup_singleton key
  | cons entry rest ih =>
      obtain ⟨new, keyed⟩ := List.nodup_cons.mp keyed
      unfold extendBy
      split
      · exact List.nodup_cons.mpr ⟨new, keyed⟩
      · rename_i different
        refine List.nodup_cons.mpr ⟨fun known => ?_, ih keyed⟩
        exact (mem_keys_extendBy.mp known).elim new different

/-- An entry after the step is an old one of another key, or that of the key. -/
theorem mem_extendBy (keyed : (table.map Prod.fst).Nodup) {entry : κ × List ρ}
    (member : entry ∈ extendBy key items table) :
    (entry ∈ table ∧ entry.1 ≠ key) ∨
      (entry.1 = key ∧ ((key ∉ table.map Prod.fst ∧ entry.2 = items) ∨
        ∃ old ∈ table, old.1 = key ∧ entry.2 = old.2 ++ items)) := by
  induction table with
  | nil =>
      rw [List.mem_singleton.mp member]
      exact .inr ⟨rfl, .inl ⟨List.not_mem_nil, rfl⟩⟩
  | cons first rest ih =>
      obtain ⟨new, keyed⟩ := List.nodup_cons.mp keyed
      unfold extendBy at member
      split at member
      · rename_i same
        rcases List.mem_cons.mp member with rfl | member
        · exact .inr ⟨same, .inr ⟨first, List.mem_cons_self, same, rfl⟩⟩
        · refine .inl ⟨List.mem_cons_of_mem first member, fun again => new ?_⟩
          rw [same, ← again]
          exact List.mem_map_of_mem member
      · rename_i different
        rcases List.mem_cons.mp member with rfl | member
        · exact .inl ⟨List.mem_cons_self, different⟩
        · rcases ih keyed member with ⟨old, other⟩ | ⟨same, ⟨missing, fresh⟩ | ⟨old, inside, found⟩⟩
          · exact .inl ⟨List.mem_cons_of_mem first old, other⟩
          · refine .inr ⟨same, .inl ⟨fun known => ?_, fresh⟩⟩
            exact (List.mem_cons.mp known).elim (fun first' => different first'.symm) missing
          · exact .inr ⟨same, .inr ⟨old, List.mem_cons_of_mem first inside, found⟩⟩

/-- The table has the present keys, each with the items that it holds. -/
structure Gathers (present : κ → Prop) (holds : κ → ρ → Prop) (table : List (κ × List ρ)) :
    Prop where
  keyed : (table.map Prod.fst).Nodup
  keys : ∀ key, key ∈ table.map Prod.fst ↔ present key
  items : ∀ entry ∈ table, ∀ item, item ∈ entry.2 ↔ holds entry.1 item
  known : ∀ key item, holds key item → present key

namespace Gathers

variable {present : κ → Prop} {holds : κ → ρ → Prop}

omit [DecidableEq κ] in
theorem empty : Gathers (fun _ => False) (fun _ _ => False) ([] : List (κ × List ρ)) where
  keyed := List.nodup_nil
  keys _ := ⟨fun member => absurd member List.not_mem_nil, False.elim⟩
  items _ member := absurd member List.not_mem_nil
  known _ _ := id

omit [DecidableEq κ] in
theorem congr {present' : κ → Prop} {holds' : κ → ρ → Prop} (gathers : Gathers present holds table)
    (keys : ∀ key, present key ↔ present' key)
    (items : ∀ key item, holds key item ↔ holds' key item) :
    Gathers present' holds' table where
  keyed := gathers.keyed
  keys key := (gathers.keys key).trans (keys key)
  items entry member item := (gathers.items entry member item).trans (items entry.1 item)
  known key item held := (keys key).mp (gathers.known key item ((items key item).mpr held))

/-- One step of the loop. -/
theorem extend (gathers : Gathers present holds table) (key : κ) (items : List ρ) :
    Gathers (fun other => present other ∨ other = key)
      (fun other item => holds other item ∨ other = key ∧ item ∈ items)
      (extendBy key items table) where
  keyed := nodup_keys_extendBy gathers.keyed
  keys other := by rw [mem_keys_extendBy, gathers.keys]
  items := by
    intro entry member item
    rcases mem_extendBy gathers.keyed member with ⟨old, other⟩ | ⟨same, ⟨missing, fresh⟩ | found⟩
    · rw [gathers.items entry old item, or_iff_left fun new => other new.1]
    · have nothing : ¬holds entry.1 item := fun held =>
        missing ((gathers.keys key).mpr (same ▸ gathers.known entry.1 item held))
      rw [fresh, or_iff_right nothing, and_iff_right same]
    · obtain ⟨old, inside, named, found⟩ := found
      rw [found, List.mem_append, gathers.items old inside item, named, same, and_iff_right rfl]
  known other item held :=
    held.imp (gathers.known other item) fun new => new.1

end Gathers

/-- What the loop gathers. -/
theorem gathers_gather (part : σ → Option (κ × List ρ)) (rows : List σ) :
    Gathers (fun key => ∃ row ∈ rows, ∃ items, part row = some (key, items))
      (fun key item => ∃ row ∈ rows, ∃ items, part row = some (key, items) ∧ item ∈ items)
      (gather part rows) := by
  induction rows using List.reverseRecOn with
  | nil =>
      refine Gathers.empty.congr (fun key => ?_) fun key item => ?_
      · simp only [List.not_mem_nil, false_and, exists_false]
      · simp only [List.not_mem_nil, false_and, exists_false]
  | append_singleton rows row ih =>
      unfold gather
      rw [List.foldl_concat]
      change Gathers _ _ (match part row with
        | some (key, items) => extendBy key items (gather part rows)
        | none => gather part rows)
      cases found : part row with
      | none =>
          refine ih.congr (fun key => ?_) fun key item => ?_
          · simp only [List.mem_append, List.mem_singleton, or_and_right, exists_or, exists_eq_left,
              found, reduceCtorEq, exists_false, or_false]
          · simp only [List.mem_append, List.mem_singleton, or_and_right, exists_or, exists_eq_left,
              found, reduceCtorEq, false_and, exists_false, or_false]
      | some entry =>
          refine (ih.extend entry.1 entry.2).congr (fun key => ?_) fun key item => ?_
          · simp only [List.mem_append, List.mem_singleton, or_and_right, exists_or, exists_eq_left,
              found, Option.some.injEq, Prod.ext_iff]
            refine or_congr_right
              ⟨fun same => ⟨entry.2, same.symm, rfl⟩, fun ⟨_, same, _⟩ => same.symm⟩
          · simp only [List.mem_append, List.mem_singleton, or_and_right, exists_or, exists_eq_left,
              found, Option.some.injEq, Prod.ext_iff]
            refine or_congr_right ⟨fun ⟨same, inside⟩ => ⟨entry.2, ⟨same.symm, rfl⟩, inside⟩, ?_⟩
            rintro ⟨_, ⟨same, rfl⟩, inside⟩
            exact ⟨same.symm, inside⟩

end TennisAlerts.Tables
