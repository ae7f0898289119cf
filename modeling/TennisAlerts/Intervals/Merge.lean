import Mathlib.Order.MinMax
import Mathlib.Data.List.Sort

/-!
# Merging ranges

Ranges are sorted and neighbours that touch are joined.  A range may be inverted or
empty, and the merge says nothing about it: here is when only proper ranges are left.
-/

namespace TennisAlerts.Intervals

variable {τ : Type} [LinearOrder τ]

/-- Ranges by their starts, then by their ends. -/
def NotAfter (first second : τ × τ) : Prop :=
  first.1 < second.1 ∨ first.1 = second.1 ∧ first.2 ≤ second.2

instance : DecidableRel (@NotAfter τ _) :=
  fun first second => inferInstanceAs
    (Decidable (first.1 < second.1 ∨ first.1 = second.1 ∧ first.2 ≤ second.2))

/-- `sorted` of a list of pairs. -/
def sortRanges (ranges : List (τ × τ)) : List (τ × τ) :=
  ranges.insertionSort NotAfter

/-- The loop of the merge, with the current range. -/
def mergeFrom (start finish : τ) : List (τ × τ) → List (τ × τ)
  | [] => [(start, finish)]
  | next :: rest =>
      if next.1 ≤ finish then mergeFrom start (max finish next.2) rest
      else (start, finish) :: mergeFrom next.1 next.2 rest

/-- Sorted ranges, with those joined that touch. -/
def merge (ranges : List (τ × τ)) : List (τ × τ) :=
  match sortRanges ranges with
  | [] => []
  | first :: rest => mergeFrom first.1 first.2 rest

/-! ## Order -/

instance : Std.Total (@NotAfter τ _) :=
  ⟨fun first second => by grind [NotAfter]⟩

instance : IsTrans (τ × τ) NotAfter :=
  ⟨fun first second third => by grind [NotAfter]⟩

theorem sortRanges_sorted (ranges : List (τ × τ)) : (sortRanges ranges).Pairwise NotAfter :=
  List.pairwise_insertionSort NotAfter ranges

@[simp]
theorem mem_sortRanges {ranges : List (τ × τ)} {range : τ × τ} :
    range ∈ sortRanges ranges ↔ range ∈ ranges :=
  List.mem_insertionSort NotAfter

/-- Sorted ranges stay sorted when the first two are joined. -/
theorem sorted_join {start finish : τ} {next : τ × τ} {rest : List (τ × τ)}
    (sorted : ((start, finish) :: next :: rest).Pairwise NotAfter) :
    ((start, max finish next.2) :: rest).Pairwise NotAfter := by
  obtain ⟨first, sorted⟩ := List.pairwise_cons.mp sorted
  obtain ⟨later, sorted⟩ := List.pairwise_cons.mp sorted
  have before := first next List.mem_cons_self
  refine List.pairwise_cons.mpr ⟨fun range member => ?_, sorted⟩
  have after := first range (List.mem_cons_of_mem next member)
  have after' := later range member
  unfold NotAfter at *
  rcases after with less | ⟨same, less⟩
  · exact .inl less
  · exact .inr ⟨same, max_le less (by grind)⟩

/-! ## Proper ranges -/

/-- The range is not empty, and starts before the limit. -/
def Proper (limit : τ) (range : τ × τ) : Prop :=
  range.1 < range.2 ∧ range.1 < limit

/-- The other range starts earlier and reaches the range, or the range is empty and the
other one starts with it. -/
def Hides (limit : τ) (other range : τ × τ) : Prop :=
  other.1 ≤ range.1 ∧ range.1 ≤ other.2 ∧
    (other.1 < range.1 ∨ range.1 = range.2 ∧ range.1 < other.2 ∧ range.1 < limit)

/-- Every range is proper or hidden by another one. -/
def Absorbed (limit : τ) (ranges : List (τ × τ)) : Prop :=
  ∀ range ∈ ranges, Proper limit range ∨ ∃ other ∈ ranges, Hides limit other range

variable {limit start finish : τ} {next : τ × τ} {rest : List (τ × τ)}

/-- Two ranges that touch hide what they hide when they are joined. -/
theorem hides_join {range : τ × τ} (low : start ≤ next.1) (later : NotAfter next range)
    (touch : next.1 ≤ finish) :
    Hides limit (start, max finish next.2) range ↔
      Hides limit (start, finish) range ∨ Hides limit next range := by
  rcases le_total finish next.2 with longer | shorter
  · rw [max_eq_right longer]
    grind [Hides, NotAfter]
  · rw [max_eq_left shorter]
    grind [Hides, NotAfter]

/-- Joining two ranges that touch changes nothing. -/
theorem absorbed_join (sorted : ((start, finish) :: next :: rest).Pairwise NotAfter)
    (touch : next.1 ≤ finish) :
    Absorbed limit ((start, finish) :: next :: rest) ↔
      Absorbed limit ((start, max finish next.2) :: rest) := by
  obtain ⟨first, sorted⟩ := List.pairwise_cons.mp sorted
  have before := first next List.mem_cons_self
  have later := (List.pairwise_cons.mp sorted).1
  have others : (∀ range ∈ rest, Proper limit range ∨ Hides limit (start, finish) range ∨
      Hides limit next range ∨ ∃ other ∈ rest, Hides limit other range) ↔
      ∀ range ∈ rest, Proper limit range ∨ Hides limit (start, max finish next.2) range ∨
        ∃ other ∈ rest, Hides limit other range := by
    refine forall₂_congr fun range member => ?_
    rw [hides_join (by grind [NotAfter]) (later range member) touch, or_assoc]
  simp only [Absorbed, List.forall_mem_cons, List.exists_mem_cons_iff, others, ← and_assoc]
  refine and_congr_left fun _ => ?_
  rcases le_total finish next.2 with longer | shorter
  · rw [max_eq_right longer]
    grind [Hides, Proper, NotAfter]
  · rw [max_eq_left shorter]
    grind [Hides, Proper, NotAfter]

/-- A range that does not touch the next one stands alone. -/
theorem absorbed_apart (sorted : ((start, finish) :: next :: rest).Pairwise NotAfter)
    (gap : finish < next.1) :
    Absorbed limit ((start, finish) :: next :: rest) ↔
      Proper limit (start, finish) ∧ Absorbed limit (next :: rest) := by
  obtain ⟨first, sorted⟩ := List.pairwise_cons.mp sorted
  have before := first next List.mem_cons_self
  have later := (List.pairwise_cons.mp sorted).1
  simp only [Absorbed, List.forall_mem_cons, List.exists_mem_cons_iff]
  grind [Hides, Proper, NotAfter]

theorem proper_mergeFrom_iff (sorted : ((start, finish) :: rest).Pairwise NotAfter) :
    (∀ range ∈ mergeFrom start finish rest, Proper limit range) ↔
      Absorbed limit ((start, finish) :: rest) := by
  induction rest generalizing start finish with
  | nil =>
      simp only [mergeFrom, Absorbed, List.mem_singleton, exists_eq_left]
      grind [Hides, Proper]
  | cons next rest ih =>
      unfold mergeFrom
      split
      · rename_i touch
        rw [ih (sorted_join sorted), absorbed_join sorted touch]
      · rename_i gap
        rw [List.forall_mem_cons, absorbed_apart sorted (not_le.mp gap), ih sorted.of_cons]

/-- The merge leaves only proper ranges exactly when the others are absorbed. -/
theorem proper_merge_iff (ranges : List (τ × τ)) :
    (∀ range ∈ merge ranges, Proper limit range) ↔ Absorbed limit ranges := by
  have same : Absorbed limit ranges ↔ Absorbed limit (sortRanges ranges) := by
    simp only [Absorbed, mem_sortRanges]
  have sorted := sortRanges_sorted ranges
  rw [same, merge]
  cases list : sortRanges ranges with
  | nil => exact ⟨fun _ _ member => absurd member List.not_mem_nil,
      fun _ _ member => absurd member List.not_mem_nil⟩
  | cons first rest => exact proper_mergeFrom_iff (list ▸ sorted)

/-! ## Merged ranges -/

theorem mem_mergeFrom {range : τ × τ} (member : range ∈ mergeFrom start finish rest) :
    (range.1 = start ∨ ∃ item ∈ rest, range.1 = item.1) ∧
      (range.2 = finish ∨ ∃ item ∈ rest, range.2 = item.2) := by
  induction rest generalizing start finish with
  | nil =>
      rw [List.mem_singleton.mp member]
      exact ⟨.inl rfl, .inl rfl⟩
  | cons next rest ih =>
      unfold mergeFrom at member
      simp only [List.exists_mem_cons_iff]
      split at member
      · obtain ⟨first, last⟩ := ih member
        refine ⟨first.imp_right .inr, ?_⟩
        rcases last with last | last
        · rcases max_choice finish next.2 with chosen | chosen
          · exact .inl (last.trans chosen)
          · exact .inr (.inl (last.trans chosen))
        · exact .inr (.inr last)
      · rcases List.mem_cons.mp member with rfl | member
        · exact ⟨.inl rfl, .inl rfl⟩
        · obtain ⟨first, last⟩ := ih member
          exact ⟨.inr first, .inr last⟩

/-- A merged range starts with one range and ends with one. -/
theorem mem_merge {ranges : List (τ × τ)} {range : τ × τ} (member : range ∈ merge ranges) :
    (∃ item ∈ ranges, range.1 = item.1) ∧ ∃ item ∈ ranges, range.2 = item.2 := by
  simp only [← @mem_sortRanges τ _ ranges]
  unfold merge at member
  cases list : sortRanges ranges with
  | nil =>
      rw [list] at member
      exact absurd member List.not_mem_nil
  | cons first rest =>
      rw [list] at member
      simp only [List.exists_mem_cons_iff]
      exact mem_mergeFrom member

theorem mergeFrom_ne_nil : mergeFrom start finish rest ≠ [] := by
  induction rest generalizing start finish with
  | nil => exact List.cons_ne_nil _ []
  | cons next rest ih =>
      unfold mergeFrom
      split
      · exact ih
      · exact List.cons_ne_nil _ _

theorem merge_ne_nil {ranges : List (τ × τ)} (filled : ranges ≠ []) : merge ranges ≠ [] := by
  unfold merge
  cases list : sortRanges ranges with
  | nil =>
      obtain ⟨range, member⟩ := List.exists_mem_of_ne_nil ranges filled
      rw [← mem_sortRanges, list] at member
      exact absurd member List.not_mem_nil
  | cons first rest => exact mergeFrom_ne_nil

/-- The next range starts behind a gap. -/
def Apart (first second : τ × τ) : Prop :=
  first.2 < second.1 ∧ NotAfter first second

theorem mergeFrom_apart (sorted : ((start, finish) :: rest).Pairwise NotAfter) :
    ∃ last tail, mergeFrom start finish rest = (start, last) :: tail ∧ finish ≤ last ∧
      ((start, last) :: tail).IsChain Apart := by
  induction rest generalizing start finish with
  | nil => exact ⟨finish, [], rfl, le_refl finish, .singleton _⟩
  | cons next rest ih =>
      unfold mergeFrom
      split
      · obtain ⟨last, tail, same, further, chain⟩ := ih (sorted_join sorted)
        exact ⟨last, tail, same, le_trans (le_max_left _ _) further, chain⟩
      · rename_i gap
        obtain ⟨last, tail, same, further, chain⟩ := ih sorted.of_cons
        have before := (List.pairwise_cons.mp sorted).1 next List.mem_cons_self
        refine ⟨finish, (next.1, last) :: tail, by rw [same], le_refl finish, ?_⟩
        refine List.isChain_cons_cons.mpr ⟨⟨not_le.mp gap, ?_⟩, chain⟩
        exact before.imp_right fun equal => ⟨equal.1, le_trans equal.2 further⟩

/-- The merged ranges are apart. -/
theorem merge_apart (ranges : List (τ × τ)) : (merge ranges).IsChain Apart := by
  have sorted := sortRanges_sorted ranges
  unfold merge
  cases list : sortRanges ranges with
  | nil => exact .nil
  | cons first rest =>
      obtain ⟨last, tail, same, -, chain⟩ := mergeFrom_apart (list ▸ sorted)
      change (mergeFrom first.1 first.2 rest).IsChain Apart
      rw [same]
      exact chain

theorem mergeFrom_of_apart (chain : ((start, finish) :: rest).IsChain Apart) :
    mergeFrom start finish rest = (start, finish) :: rest := by
  induction rest generalizing start finish with
  | nil => rfl
  | cons next rest ih =>
      obtain ⟨apart, chain⟩ := List.isChain_cons_cons.mp chain
      rw [mergeFrom, if_neg (not_le.mpr apart.1), ih chain]

/-- Merging again changes nothing. -/
theorem merge_merge (ranges : List (τ × τ)) : merge (merge ranges) = merge ranges := by
  have chain := merge_apart ranges
  have sorted : (merge ranges).Pairwise NotAfter :=
    (chain.imp fun _ _ apart => apart.2).pairwise
  generalize merge ranges = merged at *
  rw [merge, sortRanges, sorted.insertionSort_eq]
  cases merged with
  | nil => rfl
  | cons first rest => exact mergeFrom_of_apart chain

/-! ## Other orders -/

section

variable {υ : Type} [LinearOrder υ] {place : τ → υ}

theorem notAfter_map (increasing : StrictMono place) (first second : τ × τ) :
    NotAfter (Prod.map place place first) (Prod.map place place second) ↔
      NotAfter first second := by
  simp only [NotAfter, Prod.map_fst, Prod.map_snd, increasing.lt_iff_lt, increasing.le_iff_le,
    increasing.injective.eq_iff]

theorem mergeFrom_map (increasing : StrictMono place) (start finish : τ) (rest : List (τ × τ)) :
    mergeFrom (place start) (place finish) (rest.map (Prod.map place place)) =
      (mergeFrom start finish rest).map (Prod.map place place) := by
  induction rest generalizing start finish with
  | nil => rfl
  | cons next rest ih =>
      simp only [List.map_cons, mergeFrom, Prod.map_fst, Prod.map_snd, increasing.le_iff_le,
        ← increasing.monotone.map_max]
      split
      · exact ih start _
      · rw [List.map_cons, ih]
        rfl

/-- Ranges can be merged in another order that contains theirs. -/
theorem merge_map (increasing : StrictMono place) (ranges : List (τ × τ)) :
    merge (ranges.map (Prod.map place place)) = (merge ranges).map (Prod.map place place) := by
  have sorted : sortRanges (ranges.map (Prod.map place place)) =
      (sortRanges ranges).map (Prod.map place place) :=
    (List.map_insertionSort NotAfter NotAfter (Prod.map place place) ranges
      fun first _ second _ => (notAfter_map increasing first second).symm).symm
  unfold merge
  rw [sorted]
  cases sortRanges ranges with
  | nil => rfl
  | cons first rest => exact mergeFrom_map increasing first.1 first.2 rest

end

/-! ## Canonical lists -/

/-- The point lies in one of the half-open ranges. -/
def Inside (ranges : List (τ × τ)) (point : τ) : Prop :=
  ∃ range ∈ ranges, range.1 ≤ point ∧ point < range.2

variable {point : τ}

theorem inside_cons {range : τ × τ} {ranges : List (τ × τ)} :
    Inside (range :: ranges) point ↔
      (range.1 ≤ point ∧ point < range.2) ∨ Inside ranges point :=
  List.exists_mem_cons_iff _ _ _

theorem inside_append {front back : List (τ × τ)} :
    Inside (front ++ back) point ↔ Inside front point ∨ Inside back point := by
  simp only [Inside, List.mem_append, or_and_right, exists_or]

/-- Which points are inside depends on the members only. -/
theorem inside_congr {ranges ranges' : List (τ × τ)}
    (same : ∀ range, range ∈ ranges ↔ range ∈ ranges') :
    Inside ranges point ↔ Inside ranges' point :=
  exists_congr fun range => and_congr_left fun _ => same range

theorem inside_mergeFrom (sorted : ((start, finish) :: rest).Pairwise NotAfter) :
    Inside (mergeFrom start finish rest) point ↔ Inside ((start, finish) :: rest) point := by
  induction rest generalizing start finish with
  | nil => rfl
  | cons next rest ih =>
      unfold mergeFrom
      split
      · rename_i touch
        have before := (List.pairwise_cons.mp sorted).1 next List.mem_cons_self
        rw [ih (sorted_join sorted)]
        simp only [inside_cons, lt_max_iff, ← or_assoc]
        refine or_congr_left ?_
        grind [NotAfter]
      · rw [inside_cons, ih sorted.of_cons, ← inside_cons]

/-- The merge keeps the points. -/
theorem inside_merge {ranges : List (τ × τ)} :
    Inside (merge ranges) point ↔ Inside ranges point := by
  have sorted := sortRanges_sorted ranges
  rw [← inside_congr fun range => @mem_sortRanges τ _ ranges range, merge]
  cases list : sortRanges ranges with
  | nil => rfl
  | cons first rest => exact inside_mergeFrom (list ▸ sorted)

/-- Ranges that are not empty, in order and with gaps between them. -/
structure Canonical (ranges : List (τ × τ)) : Prop where
  filled : ∀ range ∈ ranges, range.1 < range.2
  gaps : ranges.IsChain fun first second => first.2 < second.1

namespace Canonical

variable {range : τ × τ} {ranges : List (τ × τ)}

theorem tail (canonical : Canonical (range :: ranges)) : Canonical ranges :=
  ⟨fun other member => canonical.filled other (List.mem_cons_of_mem range member),
    canonical.gaps.of_cons⟩

/-- Everything behind the first range starts behind its end. -/
theorem later (canonical : Canonical (range :: ranges)) :
    ∀ other ∈ ranges, range.2 < other.1 := by
  induction ranges generalizing range with
  | nil => exact fun _ member => absurd member List.not_mem_nil
  | cons next rest ih =>
      obtain ⟨gap, _⟩ := List.isChain_cons_cons.mp canonical.gaps
      have filled := canonical.filled next (List.mem_cons_of_mem range List.mem_cons_self)
      intro other member
      rcases List.mem_cons.mp member with rfl | member
      · exact gap
      · exact gap.trans (filled.trans (ih canonical.tail other member))

/-- The points behind the first range. -/
theorem inside_tail (canonical : Canonical (range :: ranges)) :
    Inside ranges point ↔ Inside (range :: ranges) point ∧ range.2 ≤ point := by
  rw [inside_cons]
  constructor
  · rintro ⟨other, member, after, before⟩
    exact ⟨.inr ⟨other, member, after, before⟩, (canonical.later other member).le.trans after⟩
  · rintro ⟨⟨-, before⟩ | inside, after⟩
    · exact absurd before (not_lt.mpr after)
    · exact inside

/-- No point inside comes before the first range. -/
theorem le_of_inside (canonical : Canonical (range :: ranges))
    (inside : Inside (range :: ranges) point) : range.1 ≤ point := by
  rcases inside_cons.mp inside with inside | ⟨other, member, after, -⟩
  · exact inside.1
  · have filled := canonical.filled range List.mem_cons_self
    exact (filled.trans (canonical.later other member)).le.trans after

theorem inside_start (canonical : Canonical (range :: ranges)) :
    Inside (range :: ranges) range.1 :=
  inside_cons.mpr (.inl ⟨le_refl _, canonical.filled range List.mem_cons_self⟩)

theorem not_inside_finish (canonical : Canonical (range :: ranges)) :
    ¬Inside (range :: ranges) range.2 := by
  rw [inside_cons]
  rintro (⟨-, before⟩ | ⟨other, member, after, -⟩)
  · exact lt_irrefl _ before
  · exact absurd after (not_le.mpr (canonical.later other member))

/-- The first ranges of two canonical lists of the same points do not end apart. -/
theorem finish_le {range' : τ × τ} {ranges' : List (τ × τ)}
    (canonical : Canonical (range :: ranges))
    (same : ∀ point, Inside (range :: ranges) point ↔ Inside (range' :: ranges') point)
    (start : range.1 = range'.1) : range'.2 ≤ range.2 := by
  by_contra longer
  have filled := canonical.filled range List.mem_cons_self
  exact canonical.not_inside_finish ((same range.2).mpr
    (inside_cons.mpr (.inl ⟨start ▸ filled.le, not_le.mp longer⟩)))

/-- Canonical lists of the same points are equal. -/
theorem unique {ranges' : List (τ × τ)} (canonical : Canonical ranges)
    (canonical' : Canonical ranges') (same : ∀ point, Inside ranges point ↔ Inside ranges' point) :
    ranges = ranges' := by
  induction ranges generalizing ranges' with
  | nil =>
      cases ranges' with
      | nil => rfl
      | cons first rest =>
          obtain ⟨range, member, -⟩ := (same first.1).mpr canonical'.inside_start
          exact absurd member List.not_mem_nil
  | cons range ranges ih =>
      cases ranges' with
      | nil =>
          obtain ⟨range, member, -⟩ := (same range.1).mp canonical.inside_start
          exact absurd member List.not_mem_nil
      | cons first rest =>
          have start : range.1 = first.1 :=
            le_antisymm (canonical.le_of_inside ((same first.1).mpr canonical'.inside_start))
              (canonical'.le_of_inside ((same range.1).mp canonical.inside_start))
          have finish : range.2 = first.2 :=
            le_antisymm (canonical'.finish_le (fun point => (same point).symm) start.symm)
              (canonical.finish_le same start)
          have tails := ih canonical.tail canonical'.tail fun point => by
            rw [canonical.inside_tail, canonical'.inside_tail, same point, finish]
          rw [Prod.ext start finish, tails]

end Canonical

theorem filled_mergeFrom (first : start < finish) (filled : ∀ range ∈ rest, range.1 < range.2) :
    ∀ range ∈ mergeFrom start finish rest, range.1 < range.2 := by
  induction rest generalizing start finish with
  | nil => exact fun range member => List.mem_singleton.mp member ▸ first
  | cons next rest ih =>
      obtain ⟨second, filled⟩ := List.forall_mem_cons.mp filled
      unfold mergeFrom
      split
      · exact ih (lt_max_of_lt_left first) filled
      · exact List.forall_mem_cons.mpr ⟨first, ih second filled⟩

/-- Merged ranges are canonical when none of the ranges is empty or inverted. -/
theorem canonical_merge {ranges : List (τ × τ)} (filled : ∀ range ∈ ranges, range.1 < range.2) :
    Canonical (merge ranges) where
  filled := by
    simp only [← @mem_sortRanges τ _ ranges] at filled
    unfold merge
    cases list : sortRanges ranges with
    | nil => exact fun _ member => absurd member List.not_mem_nil
    | cons first rest =>
        rw [list] at filled
        obtain ⟨first, filled⟩ := List.forall_mem_cons.mp filled
        exact filled_mergeFrom first filled
  gaps := (merge_apart ranges).imp fun _ _ apart => apart.1

end TennisAlerts.Intervals
