import TennisAlerts.Sender.VisualText
import Mathlib.Tactic.NormNum
import Mathlib.Data.Rat.Cast.Order

/-!
# Numbered groups

When a chat with other numbers in its name is taken for the chat of a receiver.
-/

namespace TennisAlerts.Sender

variable {tables : UnicodeTables} {candidate expected : String}

/-! ## Scores -/

/-- The name of the receiver has digit runs, and those of the candidate start otherwise. -/
structure OtherNumbers (tables : UnicodeTables) (candidate expected : String) : Prop where
  numbered : digitRuns (normalizeVisualText tables expected) ≠ []
  marked : digitRuns (normalizeVisualText tables candidate) ≠ []
  different : ¬digitRuns (normalizeVisualText tables expected) <+:
    digitRuns (normalizeVisualText tables candidate)

@[simp]
theorem digitRuns_nil : digitRuns [] = [] := by
  simp [digitRuns]

theorem OtherNumbers.runs_ne (other : OtherNumbers tables candidate expected) :
    digitRuns (normalizeVisualText tables candidate) ≠
      digitRuns (normalizeVisualText tables expected) := by
  intro same
  exact other.different (same ▸ List.prefix_rfl)

/-- The whole name inside the candidate is accepted before the numbers are compared. -/
theorem OtherNumbers.score_eq (other : OtherNumbers tables candidate expected)
    (allowTruncatedNumericSuffix : Bool) :
    visualTextMatchScore tables candidate expected allowTruncatedNumericSuffix =
      if normalizeVisualText tables expected <:+: normalizeVisualText tables candidate then
        99 / 100
      else 0 := by
  have filled : ¬(normalizeVisualText tables candidate = [] ∨
      normalizeVisualText tables expected = []) := by
    rintro (empty | empty)
    · exact other.marked (by rw [empty, digitRuns_nil])
    · exact other.numbered (by rw [empty, digitRuns_nil])
  have unequal : normalizeVisualText tables candidate ≠ normalizeVisualText tables expected :=
    fun same => other.runs_ne (by rw [same])
  unfold visualTextMatchScore normalizedScore
  rw [if_neg filled, if_neg unequal]
  by_cases contained :
      normalizeVisualText tables expected <:+: normalizeVisualText tables candidate
  · rw [if_pos contained, if_pos contained]
  · rw [if_neg contained, if_neg contained, if_pos ⟨other.numbered, other.runs_ne⟩,
      if_neg fun allowed => other.marked allowed.2.1]

/-- The recent chats compare the numbers first. -/
theorem OtherNumbers.not_recent (other : OtherNumbers tables candidate expected) :
    isUnambiguousRecentChatMatch tables candidate expected = false := by
  unfold isUnambiguousRecentChatMatch
  exact if_pos ⟨other.numbered, other.runs_ne⟩

/-! ## Titles -/

theorem bestTexts_eq_nil {minimumScore : ℚ} {allowTruncatedNumericSuffix : Bool}
    {texts : List ScreenText}
    (low : ∀ item ∈ texts,
      visualTextMatchScore tables item.text expected allowTruncatedNumericSuffix < minimumScore) :
    bestTexts tables expected minimumScore allowTruncatedNumericSuffix texts = [] := by
  have none_left : (texts.filter fun item => minimumScore ≤
      visualTextMatchScore tables item.text expected allowTruncatedNumericSuffix) = [] := by
    rw [List.filter_eq_nil_iff]
    intro item member reached
    exact Rat.not_le.mpr (low item member) (of_decide_eq_true reached)
  unfold bestTexts
  dsimp only
  rw [none_left, List.mergeSort_nil]

/-- Every text in the region of the title reads `title`. -/
structure Titled (screen : Screen) (title : String) : Prop where
  elements : ∀ element ∈ screen.elements, 0 ≤ element.vertical →
    100 * element.vertical ≤ 2 * screen.height * 18 → element.text = title
  lines : ∀ line ∈ screen.titleLines, line.text = title

/-- A title with a low score is not the page of the receiver. -/
theorem Titled.not_chat_page {screen : Screen} (titled : Titled screen candidate)
    (low : visualTextMatchScore tables candidate expected false < 86 / 100) :
    isVisualChatPage tables screen expected = false := by
  have no_element : hasAccessibleTitle tables screen expected = false := by
    unfold hasAccessibleTitle findAccessibleTextCandidates
    rw [bestTexts_eq_nil]
    · rfl
    · intro element member
      simp only [List.mem_filter, decide_eq_true_eq] at member
      obtain ⟨member, above, below⟩ := member
      rw [titled.elements element member (by omega) below]
      exact low
  have no_line : findTitleLine tables screen expected = none := by
    unfold findTitleLine
    rw [bestTexts_eq_nil]
    · rfl
    · intro line member
      rw [titled.lines line member]
      exact low
  unfold isVisualChatPage
  rw [no_element, no_line]
  simp

/-- The candidate scores nothing, and neither check takes its chat for the receiver's. -/
structure NeverVerified (tables : UnicodeTables) (candidate expected : String) : Prop where
  scored : ∀ allowTruncatedNumericSuffix,
    visualTextMatchScore tables candidate expected allowTruncatedNumericSuffix = 0
  recent : isUnambiguousRecentChatMatch tables candidate expected = false
  titled : ∀ screen, Titled screen candidate → isVisualChatPage tables screen expected = false

/-- A candidate with other numbers is never verified exactly when it does not contain the name. -/
theorem neverVerified_iff (other : OtherNumbers tables candidate expected) :
    NeverVerified tables candidate expected ↔
      ¬normalizeVisualText tables expected <:+: normalizeVisualText tables candidate := by
  constructor
  · intro safe contained
    have score := safe.scored false
    rw [other.score_eq, if_pos contained] at score
    norm_num at score
  · intro apart
    have score (allowed : Bool) : visualTextMatchScore tables candidate expected allowed = 0 := by
      rw [other.score_eq, if_neg apart]
    refine ⟨score, other.not_recent, fun screen titled => titled.not_chat_page ?_⟩
    rw [score]
    norm_num

theorem neverVerified_iff_groups :
    NeverVerified asciiTables "tennis group 1" "tennis group 2" ↔
      ¬normalizeVisualText asciiTables "tennis group 2" <:+:
        normalizeVisualText asciiTables "tennis group 1" :=
  neverVerified_iff ⟨by decide, by decide, by decide⟩

/-- Group 21 is taken for group 2. -/
theorem longerNumber_verified :
    OtherNumbers asciiTables "group 21" "group 2" ∧
      ¬NeverVerified asciiTables "group 21" "group 2" := by
  have other : OtherNumbers asciiTables "group 21" "group 2" :=
    ⟨by decide, by decide, by decide⟩
  refine ⟨other, fun safe => ?_⟩
  have score := safe.scored false
  rw [other.score_eq, if_pos (by decide)] at score
  norm_num at score

end TennisAlerts.Sender
