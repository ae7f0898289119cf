import TennisAlerts.Intervals.Order
import TennisAlerts.Watchers.Notification

/-!
# Which lines are covered

A well-formed line is accepted when the slots that match its court and date cover its
interval, and the keys that are returned are those of slots that cover it already.
-/

namespace TennisAlerts.HostCore

open TennisAlerts.Intervals
open TennisAlerts.Watchers (Whole splitLines_intercalate padded_eq)

/-! ## Lines of a text -/

theorem splitLinesFrom_plain {current text line : List Char}
    (plain : ∀ character ∈ current, lineBreak character = false)
    (member : line ∈ splitLinesFrom current text) :
    ∀ character ∈ line, lineBreak character = false := by
  induction current, text using splitLinesFrom.induct with
  | case1 => exact absurd member List.not_mem_nil
  | case2 current rest =>
      rw [splitLinesFrom, if_neg rest] at member
      rw [List.mem_singleton.mp member]
      exact fun character inside => plain character (List.mem_reverse.mp inside)
  | case3 current rest ih =>
      rw [splitLinesFrom] at member
      rcases List.mem_cons.mp member with rfl | member
      · exact fun character inside => plain character (List.mem_reverse.mp inside)
      · exact ih (fun _ inside => absurd inside List.not_mem_nil) member
  | case4 current character rest notReturn breaks ih =>
      rw [splitLinesFrom.eq_3 _ _ _ notReturn, if_pos breaks] at member
      rcases List.mem_cons.mp member with rfl | member
      · exact fun character inside => plain character (List.mem_reverse.mp inside)
      · exact ih (fun _ inside => absurd inside List.not_mem_nil) member
  | case5 current character rest notReturn whole ih =>
      rw [splitLinesFrom.eq_3 _ _ _ notReturn, if_neg whole] at member
      refine ih ?_ member
      intro other inside
      rcases List.mem_cons.mp inside with rfl | inside
      · exact Bool.eq_false_iff.mpr whole
      · exact plain other inside

theorem splitLines_plain {text line : String} (member : line ∈ splitLines text) :
    ∀ character ∈ line.toList, lineBreak character = false := by
  obtain ⟨letters, inside, rfl⟩ := List.mem_map.mp member
  rw [String.toList_ofList]
  exact splitLinesFrom_plain (fun _ inside => absurd inside List.not_mem_nil) inside

theorem mem_of_mem_strip {text : String} {character : Char}
    (member : character ∈ (strip text).toList) : character ∈ text.toList := by
  rw [strip, String.toList_ofList, List.mem_reverse] at member
  exact (List.dropWhile_sublist _).subset
    (List.mem_reverse.mp ((List.dropWhile_sublist _).subset member))

/-- `str.strip` strips everything at once. -/
theorem strip_strip (text : String) : strip (strip text) = strip text := by
  have front (letters : List Char) : ∀ character ∈ (letters.dropWhile pythonSpace).head?,
      pythonSpace character = false := by
    intro character first
    have kept := List.head?_dropWhile_not pythonSpace letters
    rw [Option.mem_def.mp first] at kept
    simpa using kept
  generalize inner : text.toList.dropWhile pythonSpace = letters
  have begins : ∀ character ∈ letters.head?, pythonSpace character = false :=
    inner ▸ front text.toList
  have ends : ∀ character ∈ (letters.reverse.dropWhile pythonSpace).head?,
      pythonSpace character = false := front letters.reverse
  have stripped : strip text =
      String.ofList (letters.reverse.dropWhile pythonSpace).reverse := by
    rw [strip, inner]
  rw [stripped]
  generalize shortened : letters.reverse.dropWhile pythonSpace = back at ends
  have begins' : ∀ character ∈ back.reverse.head?, pythonSpace character = false := by
    intro character first
    have before : back.reverse <+: letters := by
      rw [← List.reverse_suffix, List.reverse_reverse, ← shortened]
      exact List.dropWhile_suffix _
    obtain ⟨rest, same⟩ := before
    refine begins character ?_
    cases reversed : back.reverse with
    | nil =>
        rw [reversed] at first
        cases first
    | cons head tail =>
        rw [reversed] at first same
        rw [← same]
        exact first
  rw [strip, String.toList_ofList, Watchers.dropWhile_of_visible begins', List.reverse_reverse,
    Watchers.dropWhile_of_visible ends]

theorem splitLines_whole {text : String} (whole : Whole text) : splitLines text = [text] := by
  have single : ∀ line ∈ [text], Whole line :=
    fun line member => List.mem_singleton.mp member ▸ whole
  have split := splitLines_intercalate single
  rwa [String.intercalate_singleton] at split

theorem whole_of_check {text : String}
    (check : (text != "" && text.toList.all fun character => !lineBreak character) = true) :
    Whole text := by
  obtain ⟨nonempty, plain⟩ := Bool.and_eq_true_iff.mp check
  refine ⟨bne_iff_ne.mp nonempty, fun character inside => ?_⟩
  have kept := List.all_eq_true.mp plain character inside
  rwa [Bool.not_eq_true'] at kept

/-! ## Times as texts -/

/-- `HH:MM` as it is compared. -/
def clock (minute : Nat) : List Char :=
  (clockText minute).toList

theorem clock_eq (minute : Nat) : clock minute = (clockText minute).toList :=
  rfl

/-- The characters of `HH:MM`. -/
theorem clock_digits {minute : Nat} (inDay : minute ≤ 1440) :
    clock minute = [Nat.digitChar (minute / 60 / 10), Nat.digitChar (minute / 60 % 10), ':',
      Nat.digitChar (minute % 60 / 10), Nat.digitChar (minute % 60 % 10)] := by
  rw [clock_eq, clockText, String.toList_append, String.toList_append, padded_eq (by omega),
    padded_eq (by omega)]
  rfl

attribute [irreducible] clock

theorem clock_first : clock 0 = "00:00".toList := by decide +kernel

theorem clock_last : clock 1439 = "23:59".toList := by decide +kernel

theorem clock_end : clock 1440 = "24:00".toList := by decide +kernel

theorem digitChar_lt {first second : Nat} (small : first < 10) (small' : second < 10) :
    Nat.digitChar first < Nat.digitChar second ↔ first < second := by
  have less : Nat.digitChar first < Nat.digitChar second ↔
      (Nat.digitChar first).toNat < (Nat.digitChar second).toNat := Iff.rfl
  rw [less, Nat.toNat_digitChar_of_lt_ten small, Nat.toNat_digitChar_of_lt_ten small']
  omega

theorem digitChar_inj {first second : Nat} (small : first < 10) (small' : second < 10) :
    Nat.digitChar first = Nat.digitChar second ↔ first = second := by
  rw [← Char.toNat_inj, Nat.toNat_digitChar_of_lt_ten small, Nat.toNat_digitChar_of_lt_ten small']
  omega

theorem clock_lt {first second : Nat} (less : first < second) (inDay : second ≤ 1440) :
    clock first < clock second := by
  rw [clock_digits inDay, clock_digits (show first ≤ 1440 by omega)]
  simp (disch := omega) only [List.cons_lt_cons_iff, digitChar_lt, digitChar_inj,
    lt_self_iff_false, false_or, true_and, and_false, or_false]
  omega

theorem clock_le {first second : Nat} (less : first ≤ second) (inDay : second ≤ 1440) :
    clock first ≤ clock second := by
  rcases Nat.lt_or_eq_of_le less with less | rfl
  · exact le_of_lt (clock_lt less inDay)
  · exact le_refl _

theorem lt_of_clock_lt {first second : Nat} (inDay : first ≤ 1440)
    (less : clock first < clock second) : first < second := by
  by_contra other
  exact absurd less (not_lt.mpr (clock_le (not_lt.mp other) inDay))

theorem le_of_clock_le {first second : Nat} (inDay : first ≤ 1440)
    (less : clock first ≤ clock second) : first ≤ second := by
  by_contra other
  exact absurd less (not_le.mpr (clock_lt (not_le.mp other) inDay))

/-- Every text from the first minute of the day to its end lies in one minute. -/
theorem exists_minute {text : List Char} (low : clock 0 ≤ text) (high : text < clock 1440) :
    ∃ minute < 1440, clock minute ≤ text ∧ text < clock (minute + 1) := by
  have search (count : Nat) (above : text < clock count) :
      ∃ minute < count, clock minute ≤ text ∧ text < clock (minute + 1) := by
    induction count with
    | zero => exact absurd above (not_lt.mpr low)
    | succ count ih =>
        rcases lt_or_ge text (clock count) with below | reached
        · obtain ⟨minute, less, inside⟩ := ih below
          exact ⟨minute, by omega, inside⟩
        · exact ⟨count, by omega, reached, above⟩
  exact search 1440 high

/-! ## Lines and slots -/

/-- The end of a line, with 24:00 read as 23:59. -/
def Line.goal (line : Line) : List Char :=
  if line.finish = "24:00".toList then "23:59".toList else line.finish

/-- The test of `covered_events` on the interval of a line. -/
structure Line.WellFormed (line : Line) : Prop where
  low : "00:00".toList ≤ line.start
  ordered : line.start < line.finish
  high : line.finish ≤ "24:00".toList
  startMinutes : ¬"59".toList < line.start.drop 3
  finishMinutes : ¬"59".toList < line.finish.drop 3

theorem clock_minutes {minute : Nat} (inDay : minute ≤ 1440) :
    ¬"59".toList < (clock minute).drop 3 := by
  have bound : "59".toList = [Nat.digitChar 5, Nat.digitChar 9] := rfl
  rw [clock_digits inDay, bound]
  simp (disch := omega) only [List.drop, List.cons_lt_cons_iff, digitChar_lt, digitChar_inj,
    List.not_lt_nil, and_false, or_false]
  omega

/-- Two minutes of the day in order are a well-formed interval. -/
theorem wellFormed_clock {line : Line} {first last : Nat} (start : line.start = clock first)
    (finish : line.finish = clock last) (ordered : first < last) (inDay : last ≤ 1440) :
    line.WellFormed where
  low := by
    rw [start, ← clock_first]
    exact clock_le (by omega) (by omega)
  ordered := by
    rw [start, finish]
    exact clock_lt ordered inDay
  high := by
    rw [finish, ← clock_end]
    exact clock_le inDay (le_refl 1440)
  startMinutes := by
    rw [start]
    exact clock_minutes (by omega)
  finishMinutes := by
    rw [finish]
    exact clock_minutes inDay

/-- The goal of a line that ends within the day. -/
theorem goal_clock {line : Line} {last : Nat} (finish : line.finish = clock last)
    (inDay : last < 1440) : line.goal = clock last := by
  rw [Line.goal, if_neg, finish]
  rw [finish, ← clock_end]
  exact ne_of_lt (clock_lt inDay (le_refl 1440))

/-- The slot is of the date of the line, and its court vouches for the court of the line. -/
def Line.Matches (line : Line) (slot : CurrentSlot) : Prop :=
  (monthDay slot.bookingDate).toList = line.day ∧
    (slot.courtName <:+ line.court ∨ line.court <:+ slot.courtName)

/-- A matching slot that overlaps the interval of the line. -/
def Line.Meets (line : Line) (slot : CurrentSlot) : Prop :=
  line.Matches slot ∧ slot.startTime < line.goal ∧ line.start < slot.endTime

/-- The matching slots cover the interval of the line. -/
def Line.Covered (line : Line) (slots : List CurrentSlot) : Prop :=
  ∀ point, line.start ≤ point → point < line.goal →
    ∃ slot ∈ slots, line.Matches slot ∧ slot.startTime ≤ point ∧ point < slot.endTime

/-- The slots that overlap a line, in the order of the rows. -/
def Line.meeting (line : Line) (slots : List CurrentSlot) : List CurrentSlot :=
  slots.filter fun slot =>
    decide ((monthDay slot.bookingDate).toList = line.day) &&
      (slot.courtName.isSuffixOf line.court || line.court.isSuffixOf slot.courtName) &&
      decide (slot.startTime < line.goal) && decide (line.start < slot.endTime)

theorem mem_meeting {line : Line} {slots : List CurrentSlot} {slot : CurrentSlot} :
    slot ∈ line.meeting slots ↔ slot ∈ slots ∧ line.Meets slot := by
  rw [Line.meeting, List.mem_filter]
  simp only [Line.Meets, Line.Matches, Bool.and_eq_true, Bool.or_eq_true, decide_eq_true_eq,
    List.isSuffixOf_iff_suffix, and_assoc]

theorem candidates_eq (line : Line) (slots : List CurrentSlot) :
    candidates line line.goal slots = sortByStart CurrentSlot.startTime (line.meeting slots) :=
  rfl

theorem mem_candidates {line : Line} {slots : List CurrentSlot} {slot : CurrentSlot} :
    slot ∈ candidates line line.goal slots ↔ slot ∈ slots ∧ line.Meets slot := by
  rw [candidates_eq, mem_sortByStart, mem_meeting]

theorem covered_iff {line : Line} {slots : List CurrentSlot} :
    Covers CurrentSlot.startTime CurrentSlot.endTime (candidates line line.goal slots)
      line.start line.goal ↔ line.Covered slots := by
  constructor
  · intro covers point after before
    obtain ⟨slot, member, inside⟩ := covers point after before
    obtain ⟨member, matching, -⟩ := mem_candidates.mp member
    exact ⟨slot, member, matching, inside⟩
  · intro covered point after before
    obtain ⟨slot, member, matching, reached, within⟩ := covered point after before
    exact ⟨slot, mem_candidates.mpr ⟨member, matching, lt_of_le_of_lt reached before,
      lt_of_le_of_lt after within⟩, reached, within⟩

/-! ## What is accepted -/

/-- The sweep of a line over its candidates. -/
def Line.swept (line : Line) (slots : List CurrentSlot) : List Char × List CurrentSlot :=
  run CurrentSlot.startTime CurrentSlot.endTime line.goal line.start
    (candidates line line.goal slots)

theorem sweep_eq_run (goal cursor : List Char) (keys : List String) (slots : List CurrentSlot) :
    sweep goal cursor keys slots =
      ((run CurrentSlot.startTime CurrentSlot.endTime goal cursor slots).1,
        keys ++ (run CurrentSlot.startTime CurrentSlot.endTime goal cursor slots).2.map
          (·.eventKey)) := by
  induction slots generalizing cursor keys with
  | nil => simp only [sweep, run, List.map_nil, List.append_nil]
  | cons slot slots ih =>
      have next : (if cursor < slot.endTime then slot.endTime else cursor) =
          max cursor slot.endTime := by
        split
        · rename_i later
          exact (max_eq_right (le_of_lt later)).symm
        · rename_i earlier
          exact (max_eq_left (not_lt.mp earlier)).symm
      unfold sweep run
      rw [next]
      split
      · rw [List.map_nil, List.append_nil]
      · dsimp only
        split
        · rfl
        · rw [ih, List.map_cons, List.append_assoc, List.singleton_append]

theorem swept_lt_iff (line : Line) (slots : List CurrentSlot) :
    (line.swept slots).1 < line.goal ↔ ¬line.Covered slots := by
  rw [← covered_iff, ← not_le]
  exact not_congr (le_run_iff (sortByStart_sorted _ (line.meeting slots)))

/-- The sweep uses slots unless no candidate is there. -/
theorem swept_nonempty_iff {line : Line} {slots : List CurrentSlot} (covered : line.Covered slots) :
    (line.swept slots).2 ≠ [] ↔ ∃ slot ∈ slots, line.Meets slot := by
  constructor
  · intro used
    obtain ⟨slot, member⟩ := List.exists_mem_of_ne_nil _ used
    exact ⟨slot, mem_candidates.mp ((run_initial _ _).subset member)⟩
  · rintro ⟨slot, meets⟩ unused
    have arrived := not_lt.mp (mt (swept_lt_iff line slots).mp (not_not.mpr covered))
    rcases lt_or_ge line.start line.goal with ahead | reached
    · exact run_needed ahead arrived unused
    · have member := mem_candidates.mpr meets
      unfold Line.swept at unused
      cases sorted : candidates line line.goal slots with
      | nil =>
          rw [sorted] at member
          exact absurd member List.not_mem_nil
      | cons first rest =>
          rw [sorted, run] at unused
          have meets := (mem_candidates.mp (sorted ▸ List.mem_cons_self)).2
          rw [if_neg (not_lt.mpr (le_trans (le_of_lt meets.2.1) reached)),
            if_pos (le_trans reached (le_max_left _ _))] at unused
          cases unused

/-- A line that does not match, or whose interval fails the test, is refused. -/
theorem coverLine_of_invalid {text : String} (slots : List CurrentSlot)
    (invalid : ∀ line, parseLine (strip text).toList = some line → ¬line.WellFormed) :
    coverLine text slots = .error .invalid := by
  unfold coverLine
  split
  · rfl
  · rename_i line parsed
    rw [if_pos]
    by_contra passes
    simp only [not_or, not_not] at passes
    exact invalid line parsed ⟨passes.1.1, passes.1.2.1, passes.1.2.2, passes.2.1, passes.2.2⟩

section

variable {text : String} {line : Line} (parsed : parseLine (strip text).toList = some line)
  (wellFormed : line.WellFormed) (slots : List CurrentSlot)
include parsed wellFormed

theorem coverLine_eq :
    coverLine text slots =
      if (line.swept slots).1 < line.goal then .error .availabilityChanged
      else .ok ((line.swept slots).2.map (·.eventKey)) := by
  unfold coverLine
  rw [parsed]
  dsimp only
  rw [if_neg, sweep_eq_run, List.nil_append]
  · rfl
  · simp only [not_or, not_not]
    exact ⟨⟨wellFormed.low, wellFormed.ordered, wellFormed.high⟩, wellFormed.startMinutes,
      wellFormed.finishMinutes⟩

end

/-- `covered_events` of one line. -/
theorem coveredEvents_line {text : String} (whole : Whole text) (slots : List CurrentSlot) :
    coveredEvents text slots =
      match coverLine text slots with
      | .error failure => .error failure
      | .ok keys => if keys = [] then .error .invalid else .ok (sortedSet keys) := by
  unfold coveredEvents
  rw [splitLines_whole whole]
  cases covered : coverLine text slots with
  | error failure => simp only [coverLines, covered, bind, Except.bind]
  | ok keys =>
      simp only [coverLines, covered, bind, Except.bind, pure, Except.pure, List.append_nil]

section

variable {text : String} (whole : Whole text) {line : Line}
  (parsed : parseLine (strip text).toList = some line) (wellFormed : line.WellFormed)
  (slots : List CurrentSlot)
include whole parsed wellFormed

theorem coveredEvents_of_uncovered (uncovered : ¬line.Covered slots) :
    coveredEvents text slots = .error .availabilityChanged := by
  rw [coveredEvents_line whole, coverLine_eq parsed wellFormed,
    if_pos ((swept_lt_iff line slots).mpr uncovered)]

theorem coveredEvents_of_covered (covered : line.Covered slots) :
    coveredEvents text slots =
      if (line.swept slots).2 = [] then .error .invalid
      else .ok (sortedSet ((line.swept slots).2.map (·.eventKey))) := by
  rw [coveredEvents_line whole, coverLine_eq parsed wellFormed,
    if_neg (mt (swept_lt_iff line slots).mp (not_not.mpr covered))]
  simp only [List.map_eq_nil_iff]

/-- What is accepted. -/
theorem coveredEvents_ok_iff :
    (∃ keys, coveredEvents text slots = .ok keys) ↔
      line.Covered slots ∧ ∃ slot ∈ slots, line.Meets slot := by
  by_cases covered : line.Covered slots
  · rw [coveredEvents_of_covered whole parsed wellFormed slots covered,
      ← swept_nonempty_iff covered]
    split
    · rename_i unused
      exact ⟨fun ⟨_, found⟩ => (nomatch found), fun ⟨_, used⟩ => absurd unused used⟩
    · rename_i used
      exact ⟨fun _ => ⟨covered, used⟩, fun _ => ⟨_, rfl⟩⟩
  · rw [coveredEvents_of_uncovered whole parsed wellFormed slots covered]
    exact ⟨fun ⟨_, found⟩ => (nomatch found), fun ⟨found, _⟩ => absurd found covered⟩

end

theorem coveredEvents_of_invalid {text : String} (whole : Whole text) (slots : List CurrentSlot)
    (invalid : ∀ line, parseLine (strip text).toList = some line → ¬line.WellFormed) :
    coveredEvents text slots = .error .invalid := by
  rw [coveredEvents_line whole, coverLine_of_invalid slots invalid]

/-! ## Minutes -/

/-- The minute overlaps the interval of the line, in the order of texts. -/
def Line.Spans (line : Line) (minute : Nat) : Prop :=
  minute < 1440 ∧ clock minute < line.goal ∧ line.start < clock (minute + 1)

/-- The slot is an interval between two minutes of the day. -/
def CurrentSlot.Timed (slot : CurrentSlot) : Prop :=
  ∃ first last, first < last ∧ last ≤ 1440 ∧
    slot.startTime = clock first ∧ slot.endTime = clock last

/-- The minute lies in the interval of the slot. -/
def CurrentSlot.Holds (slot : CurrentSlot) (minute : Nat) : Prop :=
  ∃ first last, slot.startTime = clock first ∧ slot.endTime = clock last ∧
    first ≤ minute ∧ minute < last ∧ last ≤ 1440

/-- The goal of a line that ends at a minute of the day. -/
theorem goal_eq_clock {line : Line} {last : Nat} (finish : line.finish = clock last)
    (inDay : last ≤ 1440) : line.goal = clock (min last 1439) := by
  unfold Line.goal
  split
  · rename_i midnight
    have same : last = 1440 := le_antisymm inDay (le_of_clock_le (le_refl 1440) <| by
      rw [← finish, midnight, clock_end])
    rw [same, ← clock_last]
    rfl
  · rename_i early
    rw [finish, ← clock_end] at early
    have less : last ≠ 1440 := fun same => early (same ▸ rfl)
    rw [finish, min_eq_left (show last ≤ 1439 by omega)]

/-- The minutes of a line between two minutes of the day. -/
theorem spans_clock {line : Line} {first last : Nat} (start : line.start = clock first)
    (finish : line.finish = clock last) (inDay : first ≤ 1440) (inDay' : last ≤ 1440)
    (minute : Nat) : line.Spans minute ↔ first ≤ minute ∧ minute < min last 1439 := by
  unfold Line.Spans
  rw [goal_eq_clock finish inDay', start]
  constructor
  · rintro ⟨inDay, before, after⟩
    have before := lt_of_clock_lt (by omega) before
    have after := lt_of_clock_lt (by omega) after
    omega
  · rintro ⟨after, before⟩
    exact ⟨by omega, clock_lt before (by omega), clock_lt (by omega) (by omega)⟩

/-- Intervals between minutes cover every text between the first and the last minute
exactly when they hold the minutes. -/
theorem covers_minutes_iff {line : Line} {slots : List CurrentSlot} (wellFormed : line.WellFormed)
    (nonempty : line.start < line.goal) (timed : ∀ slot ∈ slots, slot.Timed) :
    Covers CurrentSlot.startTime CurrentSlot.endTime slots line.start line.goal ↔
      ∀ minute, line.Spans minute → ∃ slot ∈ slots, slot.Holds minute := by
  constructor
  · intro covers minute spans
    obtain ⟨inDay, before, after⟩ := spans
    obtain ⟨slot, member, reached, within⟩ :=
      covers (max line.start (clock minute)) (le_max_left _ _) (max_lt nonempty before)
    obtain ⟨first, last, ordered, inDay', start, finish⟩ := timed slot member
    have below : first < minute + 1 := by
      refine lt_of_clock_lt (by omega) (lt_of_le_of_lt (start ▸ reached) ?_)
      exact max_lt after (clock_lt (Nat.lt_succ_self minute) inDay)
    have above : minute < last :=
      lt_of_clock_lt (by omega) (lt_of_le_of_lt (le_max_right _ _) (finish ▸ within))
    exact ⟨slot, member, first, last, start, finish, by omega, above, inDay'⟩
  · intro held point after before
    have inDay : line.goal ≤ clock 1440 := by
      unfold Line.goal
      split
      · rw [← clock_last]
        exact clock_le (by omega) (by omega)
      · exact clock_end ▸ wellFormed.high
    obtain ⟨minute, less, reached, within⟩ := exists_minute
      (le_trans (clock_first ▸ wellFormed.low) after) (lt_of_lt_of_le before inDay)
    obtain ⟨slot, member, first, last, start, finish, low, high, inDay'⟩ :=
      held minute ⟨less, lt_of_le_of_lt reached before, lt_of_le_of_lt after within⟩
    refine ⟨slot, member, ?_, ?_⟩
    · rw [start]
      exact le_trans (clock_le low (by omega)) reached
    · rw [finish]
      exact lt_of_lt_of_le within (clock_le (by omega) inDay')

theorem covered_minutes_iff {line : Line} {slots : List CurrentSlot} (wellFormed : line.WellFormed)
    (nonempty : line.start < line.goal) (timed : ∀ slot ∈ slots, slot.Timed) :
    line.Covered slots ↔
      ∀ minute, line.Spans minute → ∃ slot ∈ slots, line.Matches slot ∧ slot.Holds minute := by
  have timed' : ∀ slot ∈ candidates line line.goal slots, slot.Timed :=
    fun slot member => timed slot (mem_candidates.mp member).1
  rw [← covered_iff, covers_minutes_iff wellFormed nonempty timed']
  refine forall₂_congr fun minute spans => ⟨?_, ?_⟩
  · rintro ⟨slot, member, holds⟩
    obtain ⟨member, matching, -⟩ := mem_candidates.mp member
    exact ⟨slot, member, matching, holds⟩
  · rintro ⟨slot, member, matching, holds⟩
    obtain ⟨inDay, before, after⟩ := spans
    obtain ⟨first, last, start, finish, low, high, bound⟩ := holds
    refine ⟨slot, mem_candidates.mpr ⟨member, matching, ?_, ?_⟩, first, last, start, finish, low,
      high, bound⟩
    · rw [start]
      exact lt_of_le_of_lt (clock_le low (by omega)) before
    · rw [finish]
      exact lt_of_lt_of_le after (clock_le (by omega) bound)

/-- A covered interval that is not empty is met. -/
theorem exists_meets {line : Line} {slots : List CurrentSlot} (nonempty : line.start < line.goal)
    (covered : line.Covered slots) : ∃ slot ∈ slots, line.Meets slot := by
  obtain ⟨slot, member, matching, reached, within⟩ := covered line.start (le_refl _) nonempty
  exact ⟨slot, member, matching, lt_of_le_of_lt reached nonempty, within⟩

/-- The used slots of an accepted line match it and cover it. -/
theorem used_of_covered {line : Line} {slots : List CurrentSlot} (covered : line.Covered slots) :
    (∀ slot ∈ (line.swept slots).2, slot ∈ slots ∧ line.Matches slot) ∧
      Covers CurrentSlot.startTime CurrentSlot.endTime (line.swept slots).2
        line.start line.goal := by
  refine ⟨fun slot member => ?_, fun point after before => ?_⟩
  · obtain ⟨member, matching, -⟩ := mem_candidates.mp ((run_initial _ _).subset member)
    exact ⟨member, matching⟩
  · refine covers_run _ _ point after (lt_of_lt_of_le before ?_)
    exact not_lt.mp (mt (swept_lt_iff line slots).mp (not_not.mpr covered))

/-- The sweep is exact: a line is accepted exactly when the matching slots hold all of its
minutes, the returned keys are those of slots that hold them already, and neither the
order of the slots nor repetitions matter. -/
theorem coveredEvents_exact {text : String} (whole : Whole text) {line : Line}
    (parsed : parseLine (strip text).toList = some line) (wellFormed : line.WellFormed)
    (nonempty : line.start < line.goal) {slots : List CurrentSlot}
    (timed : ∀ slot ∈ slots, slot.Timed) :
    ((∃ keys, coveredEvents text slots = .ok keys) ↔
      ∀ minute, line.Spans minute → ∃ slot ∈ slots, line.Matches slot ∧ slot.Holds minute) ∧
    (∀ keys, coveredEvents text slots = .ok keys →
      ∃ used : List CurrentSlot, (∀ slot ∈ used, slot ∈ slots ∧ line.Matches slot) ∧
        keys = sortedSet (used.map (·.eventKey)) ∧
        ∀ minute, line.Spans minute → ∃ slot ∈ used, slot.Holds minute) ∧
    ∀ others : List CurrentSlot, (∀ slot, slot ∈ others ↔ slot ∈ slots) →
      ((∃ keys, coveredEvents text others = .ok keys) ↔
        ∃ keys, coveredEvents text slots = .ok keys) := by
  have accepted {slots : List CurrentSlot} (timed : ∀ slot ∈ slots, slot.Timed) :
      (∃ keys, coveredEvents text slots = .ok keys) ↔
        ∀ minute, line.Spans minute →
          ∃ slot ∈ slots, line.Matches slot ∧ slot.Holds minute := by
    rw [coveredEvents_ok_iff whole parsed wellFormed, and_iff_left_of_imp (exists_meets nonempty),
      covered_minutes_iff wellFormed nonempty timed]
  refine ⟨accepted timed, fun keys found => ?_, fun others same => ?_⟩
  · obtain ⟨covered, meets⟩ := (coveredEvents_ok_iff whole parsed wellFormed slots).mp ⟨keys, found⟩
    obtain ⟨matching, covers⟩ := used_of_covered covered
    rw [coveredEvents_of_covered whole parsed wellFormed slots covered,
      if_neg ((swept_nonempty_iff covered).mpr meets)] at found
    exact ⟨(line.swept slots).2, matching, (Except.ok.inj found).symm,
      (covers_minutes_iff wellFormed nonempty fun slot member =>
        timed slot (matching slot member).1).mp covers⟩
  · have timed' : ∀ slot ∈ others, slot.Timed :=
      fun slot member => timed slot ((same slot).mp member)
    rw [accepted timed, accepted timed']
    simp only [same]

/-- An evening until midnight, and two slots that cover it. -/
def eveningText : String :=
  "【1号场】星期日(11-01)空场: 18:00-24:00"

def eveningLine : Line :=
  ⟨"1号场".toList, "11-01".toList, "18:00".toList, "24:00".toList⟩

def eveningSlots : List CurrentSlot :=
  [⟨"late", 20758, "1号场".toList, clock 1140, clock 1439⟩,
    ⟨"early", 20758, "1号场".toList, clock 1080, clock 1200⟩]

theorem evening_wellFormed : eveningLine.WellFormed where
  low := by decide
  ordered := by decide
  high := by decide
  startMinutes := by decide
  finishMinutes := by decide

theorem coveredEvents_exact_evening :
    (∃ keys, coveredEvents eveningText eveningSlots = .ok keys) ↔
      ∀ minute, eveningLine.Spans minute →
        ∃ slot ∈ eveningSlots, eveningLine.Matches slot ∧ slot.Holds minute := by
  have whole : Whole eveningText := whole_of_check (by decide)
  have parsed : parseLine (strip eveningText).toList = some eveningLine := by decide
  have nonempty : eveningLine.start < eveningLine.goal := by decide
  refine (coveredEvents_exact whole parsed evening_wellFormed nonempty ?_).1
  intro slot member
  rcases List.mem_cons.mp member with rfl | member
  · exact ⟨1140, 1439, by omega, by omega, rfl, rfl⟩
  · rw [List.mem_singleton.mp member]
    exact ⟨1080, 1200, by omega, by omega, rfl, rfl⟩

end TennisAlerts.HostCore
