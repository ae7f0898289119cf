import Mathlib.Data.List.Basic
import Mathlib.Data.Nat.Init

/-!
# A memory of recent items

A memory takes in the items of each round that it does not hold and is then cut to its last
entries.  An item that a round offers is new to the memory exactly when it was pushed out
since it was offered before.
-/

namespace TennisAlerts.Tables

variable {α : Type}

/-- The last entries of a list. -/
def lastEntries (limit : Nat) (entries : List α) : List α :=
  entries.drop (entries.length - limit)

theorem lastEntries_eq (limit : Nat) (entries : List α) :
    lastEntries limit entries = (entries.reverse.take limit).reverse := by
  rw [List.take_reverse, List.reverse_reverse]
  rfl

variable [DecidableEq α]

theorem mem_lastEntries {limit : Nat} {entries : List α} {item : α} (member : item ∈ entries) :
    item ∈ lastEntries limit entries ↔ entries.reverse.idxOf item < limit := by
  rw [lastEntries_eq, List.mem_reverse]
  exact List.mem_take_iff_idxOf_lt (List.mem_reverse.mpr member)

/-- How many entries a memory keeps, and which of them it reads. -/
structure Recall (α : Type) where
  limit : Nat
  reads : α → Bool

namespace Recall

/-- The entries that are read. -/
def known (policy : Recall α) (memory : List α) : List α :=
  memory.filter policy.reads

/-- The items that are not known. -/
def fresh (policy : Recall α) (memory items : List α) : List α :=
  items.filter fun item => !(policy.known memory).contains item

/-- The known entries and the new items, before the cut. -/
def entries (policy : Recall α) (memory items : List α) : List α :=
  policy.known memory ++ policy.fresh memory items

/-- The memory after a round; one without new items leaves it alone. -/
def absorb (policy : Recall α) (memory items : List α) : List α :=
  if policy.fresh memory items = [] then memory
  else lastEntries policy.limit (policy.entries memory items)

/-- The round pushes the item not out: too few entries stand behind it. -/
def Fits (policy : Recall α) (memory items : List α) (item : α) : Prop :=
  policy.fresh memory items = [] ∨
    (policy.entries memory items).reverse.idxOf item < policy.limit

instance (policy : Recall α) (memory items : List α) (item : α) :
    Decidable (policy.Fits memory items item) :=
  inferInstanceAs (Decidable (_ ∨ _))

/-- The memory before each round. -/
def memoryAt (policy : Recall α) (start : List α) (rounds : Nat → List α) : Nat → List α
  | 0 => start
  | round + 1 => policy.absorb (policy.memoryAt start rounds round) (rounds round)

variable {policy : Recall α} {memory items : List α} {item : α}

omit [DecidableEq α] in
theorem mem_known : item ∈ policy.known memory ↔ item ∈ memory ∧ policy.reads item = true :=
  List.mem_filter

theorem mem_fresh : item ∈ policy.fresh memory items ↔
    item ∈ items ∧ item ∉ policy.known memory := by
  rw [fresh, List.mem_filter, Bool.not_eq_true', ← Bool.not_eq_true, List.contains_iff_mem]

theorem mem_entries :
    item ∈ policy.entries memory items ↔ item ∈ policy.known memory ∨ item ∈ items := by
  rw [entries, List.mem_append, mem_fresh]
  constructor
  · rintro (known | ⟨offered, -⟩)
    · exact .inl known
    · exact .inr offered
  · intro member
    by_cases known : item ∈ policy.known memory
    · exact .inl known
    · exact .inr ⟨member.resolve_left known, known⟩

/-- After a round, an item is known that was known or offered and was not pushed out. -/
theorem mem_known_absorb (read : policy.reads item = true) :
    item ∈ policy.known (policy.absorb memory items) ↔
      (item ∈ policy.known memory ∨ item ∈ items) ∧ policy.Fits memory items item := by
  unfold absorb
  split
  · rename_i nothing
    have offered : item ∈ items → item ∈ policy.known memory := by
      intro member
      by_contra unknown
      exact List.not_mem_nil (nothing ▸ mem_fresh.mpr ⟨member, unknown⟩)
    exact ⟨fun known => ⟨.inl known, .inl nothing⟩, fun both => both.1.elim id offered⟩
  · rename_i new
    rw [mem_known, and_iff_left read, ← mem_entries, Fits, or_iff_right new]
    constructor
    · intro kept
      have member : item ∈ policy.entries memory items := List.mem_of_mem_drop kept
      exact ⟨member, (mem_lastEntries member).mp kept⟩
    · rintro ⟨member, few⟩
      exact (mem_lastEntries member).mpr few

variable {start : List α} {rounds : Nat → List α}

/-- Between two rounds that offer an item it stays known exactly when no round pushes it out. -/
theorem known_iff_fits (read : policy.reads item = true) {earlier later : Nat}
    (before : earlier < later) (offered : item ∈ rounds earlier)
    (unoffered : ∀ between, earlier < between → between < later → item ∉ rounds between) :
    item ∈ policy.known (policy.memoryAt start rounds later) ↔
      ∀ round, earlier ≤ round → round < later →
        policy.Fits (policy.memoryAt start rounds round) (rounds round) item := by
  induction later, before using Nat.le_induction with
  | base =>
      rw [memoryAt, mem_known_absorb read, and_iff_right (.inr offered)]
      constructor
      · intro fits round first last
        rwa [Nat.le_antisymm (Nat.le_of_lt_succ last) first]
      · intro fits
        exact fits earlier (Nat.le_refl _) (Nat.lt_succ_self _)
  | succ later before ih =>
      rw [memoryAt, mem_known_absorb read,
        or_iff_left (unoffered later before (Nat.lt_succ_self _)),
        ih fun between first last => unoffered between first (Nat.lt_succ_of_lt last)]
      constructor
      · rintro ⟨earlierFits, fits⟩ round first last
        rcases Nat.lt_succ_iff_lt_or_eq.mp last with less | rfl
        · exact earlierFits round first less
        · exact fits
      · intro fits
        exact ⟨fun round first last => fits round first (Nat.lt_succ_of_lt last),
          fits later (Nat.le_of_succ_le before) (Nat.lt_succ_self _)⟩

/-- An item that a round pushed out stays unknown until it is offered. -/
theorem unknown_of_pushed (read : policy.reads item = true) {round later : Nat}
    (before : round < later)
    (pushed : ¬policy.Fits (policy.memoryAt start rounds round) (rounds round) item)
    (unoffered : ∀ between, round < between → between < later → item ∉ rounds between) :
    item ∉ policy.known (policy.memoryAt start rounds later) := by
  induction later, before using Nat.le_induction with
  | base =>
      rw [memoryAt, mem_known_absorb read]
      exact fun both => pushed both.2
  | succ later before ih =>
      rw [memoryAt, mem_known_absorb read,
        or_iff_left (unoffered later before (Nat.lt_succ_self _))]
      intro both
      exact ih (fun between first last => unoffered between first (Nat.lt_succ_of_lt last)) both.1

/-- Before a round there is a last one that offered the item. -/
theorem exists_last_offer {earlier later : Nat} (before : earlier < later)
    (offered : item ∈ rounds earlier) :
    ∃ last, earlier ≤ last ∧ last < later ∧ item ∈ rounds last ∧
      ∀ between, last < between → between < later → item ∉ rounds between := by
  induction later, before using Nat.le_induction with
  | base =>
      exact ⟨earlier, Nat.le_refl _, Nat.lt_succ_self _, offered, by omega⟩
  | succ later before ih =>
      by_cases again : item ∈ rounds later
      · exact ⟨later, Nat.le_of_succ_le before, Nat.lt_succ_self _, again, by omega⟩
      · obtain ⟨last, first, less, known, none⟩ := ih
        refine ⟨last, first, Nat.lt_succ_of_lt less, known, fun between after bounded => ?_⟩
        rcases Nat.lt_succ_iff_lt_or_eq.mp bounded with less | rfl
        · exact none between after less
        · exact again

end Recall

end TennisAlerts.Tables
