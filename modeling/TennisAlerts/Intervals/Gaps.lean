import TennisAlerts.Intervals.Merge

/-!
# Gaps between ranges

A sweep goes through sorted ranges and keeps what lies between them, from a start on and
up to an end.  The end is looked at behind the last range only: here is which points the
sweep keeps, and when they are those of the window.
-/

namespace TennisAlerts.Intervals

variable {τ : Type} [LinearOrder τ]

/-- The loop of the sweep, with the point up to which it has come. -/
def gapsFrom (finish current : τ) : List (τ × τ) → List (τ × τ)
  | [] => if current < finish then [(current, finish)] else []
  | range :: rest =>
      if current < range.1 then (current, range.1) :: gapsFrom finish (max current range.2) rest
      else gapsFrom finish (max current range.2) rest

/-- What the ranges leave from the start on. -/
def gaps (start finish : τ) (ranges : List (τ × τ)) : List (τ × τ) :=
  gapsFrom finish start (sortRanges ranges)

variable {start finish current point : τ} {ranges rest : List (τ × τ)}

/-- The sweep keeps the points in no range, before the end or before some range. -/
theorem inside_gapsFrom (sorted : rest.Pairwise NotAfter) :
    Inside (gapsFrom finish current rest) point ↔
      current ≤ point ∧ ¬Inside rest point ∧
        (point < finish ∨ ∃ range ∈ rest, point < range.1) := by
  induction rest generalizing current with
  | nil =>
      have empty : ¬Inside ([] : List (τ × τ)) point :=
        fun ⟨_, member, _⟩ => List.not_mem_nil member
      unfold gapsFrom
      split
      · simp only [inside_cons, empty, List.not_mem_nil, false_and, exists_false, or_false,
          not_false_eq_true, true_and]
      · rename_i passed
        refine ⟨fun inside => absurd inside empty, ?_⟩
        rintro ⟨after, -, before | ⟨range, member, -⟩⟩
        · exact absurd (after.trans_lt before) passed
        · exact absurd member List.not_mem_nil
  | cons range rest ih =>
      obtain ⟨later, sorted⟩ := List.pairwise_cons.mp sorted
      have first : Inside (gapsFrom finish current (range :: rest)) point ↔
          (current ≤ point ∧ point < range.1) ∨
            Inside (gapsFrom finish (max current range.2) rest) point := by
        rw [gapsFrom]
        split
        · exact inside_cons
        · rename_i passed
          exact (or_iff_right fun kept => passed (kept.1.trans_lt kept.2)).symm
      rw [first, ih sorted, inside_cons, max_le_iff, List.exists_mem_cons_iff]
      constructor
      · rintro (⟨after, before⟩ | ⟨⟨after, behind⟩, outside, open'⟩)
        · refine ⟨after, ?_, .inr (.inl before)⟩
          rintro (⟨reached, -⟩ | ⟨other, member, reached, -⟩)
          · exact absurd before (not_lt.mpr reached)
          · have ordered : range.1 ≤ other.1 :=
              (later other member).elim le_of_lt fun same => same.1.le
            exact absurd before (not_lt.mpr (ordered.trans reached))
        · exact ⟨after,
            fun inside => inside.elim (fun here => absurd here.2 (not_lt.mpr behind)) outside,
            open'.imp_right .inr⟩
      · rintro ⟨after, outside, open'⟩
        push Not at outside
        by_cases before : point < range.1
        · exact .inl ⟨after, before⟩
        · refine .inr ⟨⟨after, outside.1 (not_lt.mp before)⟩, outside.2, ?_⟩
          exact open'.imp_right fun ahead => ahead.resolve_left before

theorem inside_gaps :
    Inside (gaps start finish ranges) point ↔
      start ≤ point ∧ ¬Inside ranges point ∧
        (point < finish ∨ ∃ range ∈ ranges, point < range.1) := by
  rw [gaps, inside_gapsFrom (sortRanges_sorted ranges),
    inside_congr fun range => @mem_sortRanges τ _ ranges range]
  simp only [mem_sortRanges]

/-- The gaps start behind the point up to which the sweep has come. -/
theorem canonical_gapsFrom (filled : ∀ range ∈ rest, range.1 < range.2) :
    Canonical (gapsFrom finish current rest) ∧
      ∀ range ∈ gapsFrom finish current rest, current ≤ range.1 := by
  induction rest generalizing current with
  | nil =>
      unfold gapsFrom
      split
      · rename_i ahead
        refine ⟨⟨fun range member => ?_, .singleton _⟩, fun range member => ?_⟩
        · rwa [List.mem_singleton.mp member]
        · rw [List.mem_singleton.mp member]
      · exact ⟨⟨fun _ member => absurd member List.not_mem_nil, .nil⟩,
          fun _ member => absurd member List.not_mem_nil⟩
  | cons range rest ih =>
      obtain ⟨here, filled⟩ := List.forall_mem_cons.mp filled
      obtain ⟨canonical, behind⟩ := @ih (max current range.2) filled
      unfold gapsFrom
      split
      · rename_i ahead
        refine ⟨⟨List.forall_mem_cons.mpr ⟨ahead, canonical.filled⟩, ?_⟩,
          List.forall_mem_cons.mpr ⟨le_refl current, fun other member =>
            (le_max_left _ _).trans (behind other member)⟩⟩
        cases found : gapsFrom finish (max current range.2) rest with
        | nil => exact .singleton _
        | cons next more =>
            rw [found] at canonical behind
            refine List.isChain_cons_cons.mpr ⟨?_, canonical.gaps⟩
            exact here.trans_le ((le_max_right _ _).trans (behind next List.mem_cons_self))
      · exact ⟨canonical, fun other member => (le_max_left _ _).trans (behind other member)⟩

/-- Ranges that are exactly what the others leave of a window. -/
structure Complement (start finish : τ) (ranges free : List (τ × τ)) : Prop where
  canonical : Canonical free
  within : ∀ range ∈ free, start ≤ range.1 ∧ range.2 ≤ finish
  exactly : ∀ point, Inside free point ↔ start ≤ point ∧ point < finish ∧ ¬Inside ranges point

/-- Every point from the end of the window to a range lies in a range. -/
def Bridged (finish : τ) (ranges : List (τ × τ)) : Prop :=
  ∀ range ∈ ranges, ∀ point, finish ≤ point → point < range.1 → Inside ranges point

/-- The sweep leaves the complement exactly when no gap ends behind the window. -/
theorem complement_gaps_iff (ordered : start ≤ finish)
    (filled : ∀ range ∈ ranges, range.1 < range.2) :
    Complement start finish ranges (gaps start finish ranges) ↔ Bridged finish ranges := by
  constructor
  · intro complement range member point after before
    by_contra outside
    have kept : Inside (gaps start finish ranges) point :=
      inside_gaps.mpr ⟨ordered.trans after, outside, .inr ⟨range, member, before⟩⟩
    exact absurd ((complement.exactly point).mp kept).2.1 (not_lt.mpr after)
  · intro bridged
    have exactly : ∀ point, Inside (gaps start finish ranges) point ↔
        start ≤ point ∧ point < finish ∧ ¬Inside ranges point := by
      intro point
      rw [inside_gaps]
      constructor
      · rintro ⟨after, outside, before | ⟨range, member, before⟩⟩
        · exact ⟨after, before, outside⟩
        · refine ⟨after, ?_, outside⟩
          by_contra late
          exact outside (bridged range member point (not_lt.mp late) before)
      · rintro ⟨after, before, outside⟩
        exact ⟨after, outside, .inl before⟩
    have canonical : Canonical (gaps start finish ranges) :=
      (canonical_gapsFrom fun range member => filled range (mem_sortRanges.mp member)).1
    refine ⟨canonical, fun range member => ?_, exactly⟩
    have open' := canonical.filled range member
    obtain ⟨after, before, -⟩ := (exactly range.1).mp ⟨range, member, le_refl _, open'⟩
    refine ⟨after, not_lt.mp fun late => ?_⟩
    exact absurd ((exactly finish).mp ⟨range, member, before.le, late⟩).2.1 (lt_irrefl finish)

end TennisAlerts.Intervals
