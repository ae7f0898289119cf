import TennisAlerts.Properties.Announcements
import TennisAlerts.Properties.LineCoverage

/-!
# Prepared messages

`current_message` decides each line of a message by itself.  Here is the one kind of
line that spoils the whole message, the message that is stable under being prepared
again, and the courts that vouch for a line.
-/

namespace TennisAlerts.HostCore

open TennisAlerts.Intervals
open TennisAlerts.Watchers (Whole splitLines_intercalate Covered mem_sortedSet sortedSet_congr
  Announceable FreeSlot notification weekdayText parseLine_notification notification_announceable)

/-! ## Lines -/

/-- The line matches `LINE`, and its interval passes the test of `covered_events`. -/
def WellFormedText (text : String) : Prop :=
  ∃ line, parseLine text.toList = some line ∧ line.WellFormed

/-- The line is well formed, and matching slots cover its interval. -/
def Vouched (slots : List CurrentSlot) (text : String) : Prop :=
  ∃ line, parseLine text.toList = some line ∧ line.WellFormed ∧ line.Covered slots ∧
    ∃ slot ∈ slots, line.Meets slot

theorem stripped_cases {message text : String} (member : text ∈ splitLines message) :
    strip text = "" ∨ Whole (strip text) := by
  rcases eq_or_ne (strip text) "" with empty | nonempty
  · exact .inl empty
  · exact .inr ⟨nonempty, fun character inside =>
      splitLines_plain member character (mem_of_mem_strip inside)⟩

theorem not_wellFormed_empty : ¬WellFormedText "" := by
  rintro ⟨line, parsed, -⟩
  exact nomatch (show parseLine "".toList = none by decide).symm.trans parsed

theorem coveredEvents_empty (slots : List CurrentSlot) :
    coveredEvents "" slots = .error .invalid := by
  rfl

theorem digit_low {character : Char} (digit : unicodeDigit character = true) :
    48 ≤ character.toNat := by
  obtain ⟨first, member, inside⟩ := List.any_eq_true.mp digit
  have low : ∀ first ∈ digitZeros, 48 ≤ first := by decide
  have bounds := Bool.and_eq_true_iff.mp inside
  exact le_trans (low first member) (of_decide_eq_true bounds.1)

/-- The interval of a line. -/
theorem interval_shape {interval : List Char} (fit : fits intervalPattern interval = true) :
    ∃ a b c d e f g h, interval = [a, b, ':', c, d, '-', e, f, ':', g, h] ∧
      unicodeDigit a = true ∧ unicodeDigit b = true ∧ unicodeDigit c = true ∧
      unicodeDigit d = true ∧ unicodeDigit e = true ∧ unicodeDigit f = true ∧
      unicodeDigit g = true ∧ unicodeDigit h = true := by
  match interval, fit with
  | [a, b, m, c, d, n, e, f, o, g, h], fit =>
      simp only [fits, intervalPattern, literal, List.zip_cons_cons, List.zip_nil_right,
        List.all_cons, List.all_nil, Bool.and_eq_true, decide_eq_true_eq, Bool.and_true] at fit
      obtain ⟨-, a', b', rfl, c', d', rfl, e', f', rfl, g', h'⟩ := fit
      exact ⟨a, b, c, d, e, f, g, h, rfl, a', b', c', d', e', f', g', h'⟩

/-- The start of a parsed line. -/
theorem start_shape {text : List Char} {line : Line} (parsed : parseLine text = some line) :
    ∃ a b c d, line.start = [a, b, ':', c, d] ∧ unicodeDigit c = true ∧ unicodeDigit d = true := by
  unfold parseLine at parsed
  dsimp only at parsed
  split at parsed
  · split at parsed
    · rename_i check
      simp only [Bool.and_eq_true] at check
      obtain ⟨a, b, c, d, e, f, g, h, shape, -, -, third, fourth, -⟩ := interval_shape check.1.1.1
      cases parsed
      exact ⟨a, b, c, d, by rw [shape]; rfl, third, fourth⟩
    · exact nomatch parsed
  · exact nomatch parsed

/-- Only the last minute of the day is a well-formed interval that becomes empty when
24:00 is read as 23:59. -/
theorem midnight_of_goal_le {text : List Char} {line : Line} (parsed : parseLine text = some line)
    (wellFormed : line.WellFormed) (reached : line.goal ≤ line.start) :
    line.start = "23:59".toList ∧ line.finish = "24:00".toList := by
  unfold Line.goal at reached
  split at reached
  · rename_i midnight
    refine ⟨?_, midnight⟩
    have before := midnight ▸ wellFormed.ordered
    have within := wellFormed.startMinutes
    obtain ⟨a, b, c, d, shape, third, fourth⟩ := start_shape parsed
    have third := digit_low third
    have fourth := digit_low fourth
    have reached := not_lt.mpr reached
    have less (first second : Char) : first < second ↔ first.toNat < second.toNat := Iff.rfl
    have same (first second : Char) : first = second ↔ first.toNat = second.toNat :=
      Char.toNat_inj.symm
    have bounds : ':'.toNat = 58 ∧ '0'.toNat = 48 ∧ '2'.toNat = 50 ∧ '3'.toNat = 51 ∧
        '4'.toNat = 52 ∧ '5'.toNat = 53 ∧ '9'.toNat = 57 := by decide
    rw [shape] at reached before within ⊢
    rw [show "23:59".toList = ['2', '3', ':', '5', '9'] from rfl] at reached ⊢
    rw [show "24:00".toList = ['2', '4', ':', '0', '0'] from rfl] at before
    rw [show "59".toList = ['5', '9'] from rfl] at within
    simp only [List.drop, List.cons_lt_cons_iff, and_false, or_false, less, same,
      lt_self_iff_false, false_or, true_and] at reached before within
    simp only [List.cons.injEq, and_true, true_and, same]
    omega
  · exact absurd wellFormed.ordered (not_lt.mpr reached)

/-! ## The verdict on one line -/

section

variable {message text : String} (member : text ∈ splitLines message) (slots : List CurrentSlot)
include member

theorem coveredEvents_of_malformed (malformed : ¬WellFormedText (strip text)) :
    coveredEvents (strip text) slots = .error .invalid := by
  rcases stripped_cases member with empty | whole
  · rw [empty, coveredEvents_empty]
  · refine coveredEvents_of_invalid whole slots fun line parsed wellFormed => malformed ?_
    rw [strip_strip] at parsed
    exact ⟨line, parsed, wellFormed⟩

theorem whole_of_wellFormed (wellFormed : WellFormedText (strip text)) : Whole (strip text) :=
  (stripped_cases member).resolve_left fun empty => not_wellFormed_empty (empty ▸ wellFormed)

/-- A line is retained exactly when it is vouched for. -/
theorem covered_iff_vouched : Covered slots (strip text) ↔ Vouched slots (strip text) := by
  constructor
  · intro accepted
    by_cases wellFormed : WellFormedText (strip text)
    · have whole := whole_of_wellFormed member wellFormed
      obtain ⟨line, parsed, wellFormed⟩ := wellFormed
      obtain ⟨covered, meets⟩ :=
        (coveredEvents_ok_iff whole ((strip_strip text).symm ▸ parsed) wellFormed slots).mp accepted
      exact ⟨line, parsed, wellFormed, covered, meets⟩
    · obtain ⟨keys, found⟩ := accepted
      rw [coveredEvents_of_malformed member slots wellFormed] at found
      exact nomatch found
  · rintro ⟨line, parsed, wellFormed, covered, meets⟩
    have whole := whole_of_wellFormed member ⟨line, parsed, wellFormed⟩
    exact (coveredEvents_ok_iff whole ((strip_strip text).symm ▸ parsed) wellFormed slots).mpr
      ⟨covered, meets⟩

/-- A well-formed line makes the message fail exactly when it is the last minute of the day
and no slot is there for it. -/
theorem coveredEvents_invalid_iff {line : Line} (parsed : parseLine (strip text).toList = some line)
    (wellFormed : line.WellFormed) :
    coveredEvents (strip text) slots = .error .invalid ↔
      line.start = "23:59".toList ∧ line.finish = "24:00".toList ∧
        ∀ slot ∈ slots, ¬line.Meets slot := by
  have whole := whole_of_wellFormed member ⟨line, parsed, wellFormed⟩
  have parsed' : parseLine (strip (strip text)).toList = some line :=
    (strip_strip text).symm ▸ parsed
  by_cases covered : line.Covered slots
  · rw [coveredEvents_of_covered whole parsed' wellFormed slots covered]
    have used := swept_nonempty_iff covered
    constructor
    · intro refused
      split at refused
      · rename_i unused
        have lonely := mt used.mpr (not_not.mpr unused)
        have reached := not_lt.mp fun nonempty => lonely (exists_meets nonempty covered)
        obtain ⟨start, finish⟩ := midnight_of_goal_le parsed wellFormed reached
        exact ⟨start, finish, fun slot known meets => lonely ⟨slot, known, meets⟩⟩
      · exact nomatch refused
    · rintro ⟨-, -, lonely⟩
      rw [if_pos]
      by_contra needed
      obtain ⟨slot, known, meets⟩ := used.mp needed
      exact lonely slot known meets
  · rw [coveredEvents_of_uncovered whole parsed' wellFormed slots covered]
    constructor
    · exact fun refused => nomatch refused
    · rintro ⟨start, finish, -⟩
      refine absurd (fun point after before => absurd before (not_lt.mpr ?_)) covered
      rw [Line.goal, if_pos finish, ← start]
      exact after

end

/-! ## The message -/

/-- The keys with which a line is covered. -/
def keysOf (slots : List CurrentSlot) (line : String) : List String :=
  match coveredEvents line slots with
  | .ok keys => keys
  | .error _ => []

/-- The line is covered. -/
def retains (slots : List CurrentSlot) (line : String) : Bool :=
  match coveredEvents line slots with
  | .ok _ => true
  | .error _ => false

theorem retains_iff {slots : List CurrentSlot} {line : String} :
    retains slots line = true ↔ Covered slots line := by
  unfold retains Covered
  cases coveredEvents line slots with
  | error failure => exact ⟨nofun, fun ⟨_, found⟩ => (nomatch found)⟩
  | ok keys => exact ⟨fun _ => ⟨keys, rfl⟩, fun _ => rfl⟩

/-- Lines are decided one by one. -/
theorem currentLines_eq {slots : List CurrentSlot} {texts : List String}
    (sound : ∀ text ∈ texts, coveredEvents (strip text) slots ≠ .error .invalid) :
    currentLines slots texts =
      .ok ((texts.map strip).filter (retains slots), (texts.map strip).flatMap (keysOf slots),
        (texts.map strip).filter fun line => !retains slots line) := by
  induction texts with
  | nil => rfl
  | cons text texts ih =>
      have ih := ih fun other inside => sound other (List.mem_cons_of_mem text inside)
      have first := sound text List.mem_cons_self
      rw [List.map_cons, List.filter_cons, List.filter_cons, List.flatMap_cons]
      unfold currentLines
      cases covered : coveredEvents (strip text) slots with
      | ok keys =>
          have kept : retains slots (strip text) = true := retains_iff.mpr ⟨keys, covered⟩
          have found : keysOf slots (strip text) = keys := by rw [keysOf, covered]
          rw [ih, kept, found]
          rfl
      | error failure =>
          cases failure with
          | invalid => exact absurd covered first
          | availabilityChanged =>
              have gone : retains slots (strip text) = false := by rw [retains, covered]
              have none : keysOf slots (strip text) = [] := by rw [keysOf, covered]
              rw [ih, gone, none]
              rfl

/-- One invalid line makes the message fail. -/
theorem currentLines_of_invalid {slots : List CurrentSlot} {texts : List String}
    (invalid : ∃ text ∈ texts, coveredEvents (strip text) slots = .error .invalid) :
    currentLines slots texts = .error .invalid := by
  induction texts with
  | nil =>
      obtain ⟨text, member, -⟩ := invalid
      exact absurd member List.not_mem_nil
  | cons text texts ih =>
      unfold currentLines
      cases covered : coveredEvents (strip text) slots with
      | ok keys =>
          have later : ∃ text ∈ texts, coveredEvents (strip text) slots = .error .invalid := by
            obtain ⟨other, member, refused⟩ := invalid
            rcases List.mem_cons.mp member with rfl | member
            · rw [covered] at refused
              cases refused
            · exact ⟨other, member, refused⟩
          simp only [ih later, bind, Except.bind]
      | error failure =>
          cases failure with
          | invalid => rfl
          | availabilityChanged =>
              have later : ∃ text ∈ texts, coveredEvents (strip text) slots = .error .invalid := by
                obtain ⟨other, member, refused⟩ := invalid
                rcases List.mem_cons.mp member with rfl | member
                · rw [covered] at refused
                  cases refused
                · exact ⟨other, member, refused⟩
              simp only [ih later, bind, Except.bind]

/-- The lines of a message in the order in which they are decided. -/
def strippedLines (message : String) : List String :=
  (sortedSet (splitLines message)).map strip

theorem mem_strippedLines {message line : String} :
    line ∈ strippedLines message ↔ ∃ text ∈ splitLines message, line = strip text := by
  simp only [strippedLines, List.mem_map, mem_sortedSet, eq_comm]

/-- No line makes the message fail. -/
def Sound (message : String) (slots : List CurrentSlot) : Prop :=
  ∀ text ∈ splitLines message, coveredEvents (strip text) slots ≠ .error .invalid

/-- What is prepared from a message in which no line fails. -/
def preparedMessage (message : String) (slots : List CurrentSlot) : CurrentMessage where
  message := "\n".intercalate ((strippedLines message).filter (retains slots))
  keys := sortedSet ((strippedLines message).flatMap (keysOf slots))
  rejected := (strippedLines message).filter fun line => !retains slots line

theorem currentMessage_eq {message : String} {slots : List CurrentSlot}
    (sound : Sound message slots) :
    currentMessage message slots = .ok (preparedMessage message slots) := by
  have sound' : ∀ text ∈ sortedSet (splitLines message),
      coveredEvents (strip text) slots ≠ .error .invalid :=
    fun text member => sound text (mem_sortedSet.mp member)
  unfold currentMessage
  rw [currentLines_eq sound']
  rfl

theorem currentMessage_of_invalid {message : String} {slots : List CurrentSlot}
    (unsound : ¬Sound message slots) : currentMessage message slots = .error .invalid := by
  have invalid : ∃ text ∈ sortedSet (splitLines message),
      coveredEvents (strip text) slots = .error .invalid := by
    simp only [Sound, not_forall, not_not] at unsound
    obtain ⟨text, member, refused⟩ := unsound
    exact ⟨text, mem_sortedSet.mpr member, refused⟩
  unfold currentMessage
  rw [currentLines_of_invalid invalid]
  rfl

theorem currentMessage_ok_iff {message : String} {slots : List CurrentSlot}
    {current : CurrentMessage} :
    currentMessage message slots = .ok current ↔
      Sound message slots ∧ current = preparedMessage message slots := by
  by_cases sound : Sound message slots
  · rw [currentMessage_eq sound, Except.ok.injEq, eq_comm, and_iff_right sound]
  · rw [currentMessage_of_invalid sound]
    exact ⟨fun found => (nomatch found), fun found => absurd found.1 sound⟩

theorem whole_of_retained {message line : String} {slots : List CurrentSlot}
    (member : line ∈ (strippedLines message).filter (retains slots)) : Whole line := by
  obtain ⟨known, kept⟩ := List.mem_filter.mp member
  obtain ⟨text, inside, rfl⟩ := mem_strippedLines.mp known
  obtain ⟨line, parsed, wellFormed, -⟩ :=
    (covered_iff_vouched inside slots).mp (retains_iff.mp kept)
  exact whole_of_wellFormed inside ⟨line, parsed, wellFormed⟩

/-- The lines of the prepared message. -/
theorem splitLines_prepared (message : String) (slots : List CurrentSlot) :
    splitLines (preparedMessage message slots).message =
      (strippedLines message).filter (retains slots) :=
  splitLines_intercalate fun _ member => whole_of_retained member

section

variable {message text : String} (member : text ∈ splitLines message) (slots : List CurrentSlot)
include member

theorem mem_prepared : strip text ∈ splitLines (preparedMessage message slots).message ↔
    Vouched slots (strip text) := by
  rw [splitLines_prepared, List.mem_filter, retains_iff, covered_iff_vouched member,
    and_iff_right (mem_strippedLines.mpr ⟨text, member, rfl⟩)]

theorem mem_rejected : strip text ∈ (preparedMessage message slots).rejected ↔
    ¬Vouched slots (strip text) := by
  rw [preparedMessage, List.mem_filter, Bool.not_eq_true', ← Bool.not_eq_true, retains_iff,
    covered_iff_vouched member, and_iff_right (mem_strippedLines.mpr ⟨text, member, rfl⟩)]

end

/-! ## Lines that spoil a message -/

/-- The message fails exactly because of a malformed line, and otherwise each of its lines is
either retained or rejected, and equally so in every other message. -/
structure Unspoiled (message : String) (slots : List CurrentSlot) : Prop where
  fails : (∃ failure, currentMessage message slots = .error failure) ↔
    ∃ text ∈ splitLines message, ¬WellFormedText (strip text)
  decided : (∀ text ∈ splitLines message, WellFormedText (strip text)) →
    ∃ current, currentMessage message slots = .ok current ∧
      ∀ text ∈ splitLines message,
        (strip text ∈ current.rejected ↔ strip text ∉ splitLines current.message) ∧
        ∀ message' current', currentMessage message' slots = .ok current' →
          ∀ text' ∈ splitLines message', strip text' = strip text →
            (strip text ∈ splitLines current'.message ↔
              strip text ∈ splitLines current.message) ∧
            (strip text ∈ current'.rejected ↔ strip text ∈ current.rejected)

/-- In a message without malformed lines, every line of the last minute of the day has a
slot that overlaps it. -/
def MidnightMet (message : String) (slots : List CurrentSlot) : Prop :=
  (∀ text ∈ splitLines message, WellFormedText (strip text)) →
    ∀ text ∈ splitLines message, ∀ line, parseLine (strip text).toList = some line →
      line.start = "23:59".toList → line.finish = "24:00".toList →
        ∃ slot ∈ slots, line.Meets slot

theorem not_sound_of_malformed {message : String} {slots : List CurrentSlot}
    (malformed : ∃ text ∈ splitLines message, ¬WellFormedText (strip text)) :
    ¬Sound message slots := by
  obtain ⟨text, member, malformed⟩ := malformed
  exact fun sound => sound text member (coveredEvents_of_malformed member slots malformed)

/-- A message fails because of a malformed line or of the last minute of the day. -/
theorem sound_iff {message : String} {slots : List CurrentSlot} :
    Sound message slots ↔
      (∀ text ∈ splitLines message, WellFormedText (strip text)) ∧ MidnightMet message slots := by
  constructor
  · intro sound
    have wellFormed : ∀ text ∈ splitLines message, WellFormedText (strip text) := by
      by_contra malformed
      simp only [not_forall, exists_prop] at malformed
      exact not_sound_of_malformed malformed sound
    refine ⟨wellFormed, fun _ text member line parsed start finish => ?_⟩
    obtain ⟨line', parsed', passes⟩ := wellFormed text member
    have same : line' = line := Option.some.inj (parsed'.symm.trans parsed)
    by_contra lonely
    refine sound text member ((coveredEvents_invalid_iff member slots parsed (same ▸ passes)).mpr
      ⟨start, finish, fun slot known meets => lonely ⟨slot, known, meets⟩⟩)
  · rintro ⟨wellFormed, met⟩ text member refused
    obtain ⟨line, parsed, passes⟩ := wellFormed text member
    obtain ⟨start, finish, lonely⟩ :=
      (coveredEvents_invalid_iff member slots parsed passes).mp refused
    obtain ⟨slot, known, meets⟩ := met wellFormed text member line parsed start finish
    exact lonely slot known meets

/-- A message is spoiled exactly by the last minute of the day. -/
theorem unspoiled_iff_midnightMet (message : String) (slots : List CurrentSlot) :
    Unspoiled message slots ↔ MidnightMet message slots := by
  constructor
  · intro unspoiled wellFormed
    obtain ⟨current, prepared, -⟩ := unspoiled.decided wellFormed
    exact (sound_iff.mp (currentMessage_ok_iff.mp prepared).1).2 wellFormed
  · intro met
    refine ⟨⟨?_, ?_⟩, fun wellFormed => ?_⟩
    · rintro ⟨failure, failed⟩
      by_contra wellFormed
      simp only [not_exists, not_and, not_not] at wellFormed
      rw [currentMessage_eq (sound_iff.mpr ⟨wellFormed, met⟩)] at failed
      exact nomatch failed
    · exact fun malformed =>
        ⟨.invalid, currentMessage_of_invalid (not_sound_of_malformed malformed)⟩
    · refine ⟨_, currentMessage_eq (sound_iff.mpr ⟨wellFormed, met⟩), fun text member => ⟨?_, ?_⟩⟩
      · rw [mem_rejected member, mem_prepared member]
      · intro message' current' prepared text' member' same
        rw [(currentMessage_ok_iff.mp prepared).2, ← same, mem_prepared member',
          mem_rejected member', same, mem_prepared member, mem_rejected member]
        exact ⟨Iff.rfl, Iff.rfl⟩

/-- An evening that is covered, and its last minute. -/
def midnightText : String :=
  eveningText ++ "\n" ++ "【1号场】星期日(11-01)空场: 23:59-24:00"

def midnightLine : Line :=
  ⟨"1号场".toList, "11-01".toList, "23:59".toList, "24:00".toList⟩

theorem midnight_wellFormed : midnightLine.WellFormed where
  low := by decide
  ordered := by decide
  high := by decide
  startMinutes := by decide
  finishMinutes := by decide

theorem midnight_spoils : ¬Unspoiled midnightText eveningSlots := by
  intro unspoiled
  have lines : splitLines midnightText =
      [eveningText, "【1号场】星期日(11-01)空场: 23:59-24:00"] := by decide
  have failed : currentMessage midnightText eveningSlots = .error .invalid := by decide +kernel
  obtain ⟨text, member, malformed⟩ := unspoiled.fails.mp ⟨.invalid, failed⟩
  rw [lines] at member
  rcases List.mem_cons.mp member with rfl | member
  · exact malformed ⟨eveningLine, by decide, evening_wellFormed⟩
  · rw [List.mem_singleton.mp member] at malformed
    exact malformed ⟨midnightLine, by decide, midnight_wellFormed⟩

/-! ## Preparing again -/

/-- The slots with one of the keys. -/
def slotsOf (keys : List String) (slots : List CurrentSlot) : List CurrentSlot :=
  slots.filter fun slot => slot.eventKey ∈ keys

theorem candidates_slotsOf (line : Line) (keys : List String) (slots : List CurrentSlot) :
    candidates line line.goal (slotsOf keys slots) =
      (candidates line line.goal slots).filter fun slot => slot.eventKey ∈ keys := by
  have meeting : line.meeting (slotsOf keys slots) =
      (line.meeting slots).filter fun slot => slot.eventKey ∈ keys := by
    rw [Line.meeting, Line.meeting, slotsOf, List.filter_filter, List.filter_filter]
    simp only [Bool.and_comm]
  rw [candidates_eq, candidates_eq, meeting, filter_sortByStart]

/-- The used slots alone cover a line with the same slots. -/
theorem swept_slotsOf {line : Line} {slots : List CurrentSlot} {keys : List String}
    (covered : line.Covered slots) (meets : ∃ slot ∈ slots, line.Meets slot)
    (known : ∀ slot ∈ (line.swept slots).2, slot.eventKey ∈ keys) :
    line.swept (slotsOf keys slots) = line.swept slots := by
  have arrived := not_lt.mp (mt (swept_lt_iff line slots).mp (not_not.mpr covered))
  obtain ⟨rest, split⟩ : (line.swept slots).2 <+: candidates line line.goal slots :=
    run_initial _ _
  have kept : (candidates line line.goal slots).filter (fun slot => slot.eventKey ∈ keys) =
      (line.swept slots).2 ++ rest.filter fun slot => slot.eventKey ∈ keys := by
    rw [← split, List.filter_append, List.filter_eq_self.mpr]
    exact fun slot member => decide_eq_true (known slot member)
  rw [Line.swept, candidates_slotsOf, kept]
  exact run_used_append arrived ((swept_nonempty_iff covered).mpr meets) _

theorem coveredEvents_slotsOf {message text : String} (member : text ∈ splitLines message)
    {slots : List CurrentSlot} {keys found : List String}
    (covered : coveredEvents (strip text) slots = .ok found) (known : ∀ key ∈ found, key ∈ keys) :
    coveredEvents (strip text) (slotsOf keys slots) = .ok found := by
  obtain ⟨line, parsed, wellFormed, way, meets⟩ :=
    (covered_iff_vouched member slots).mp ⟨found, covered⟩
  have whole := whole_of_wellFormed member ⟨line, parsed, wellFormed⟩
  have parsed' : parseLine (strip (strip text)).toList = some line :=
    (strip_strip text).symm ▸ parsed
  have result := coveredEvents_of_covered whole parsed' wellFormed slots way
  rw [covered, if_neg ((swept_nonempty_iff way).mpr meets), Except.ok.injEq] at result
  have same : line.swept (slotsOf keys slots) = line.swept slots :=
    swept_slotsOf way meets fun slot used => known _ <| by
      rw [result, mem_sortedSet]
      exact List.mem_map_of_mem used
  have way' : line.Covered (slotsOf keys slots) := by
    rw [← not_not (a := line.Covered _), ← swept_lt_iff, same, swept_lt_iff, not_not]
    exact way
  rw [coveredEvents_of_covered whole parsed' wellFormed _ way', same, ← result,
    if_neg ((swept_nonempty_iff way).mpr meets)]

theorem sortedSet_pairwise (texts : List String) : (sortedSet texts).Pairwise (· < ·) := by
  have different : (sortedSet texts).Pairwise (· ≠ ·) :=
    (List.perm_insertionSort _ _).nodup_iff.mpr (List.nodup_dedup texts)
  have sorted : (sortedSet texts).Pairwise (· ≤ ·) := List.pairwise_insertionSort _ _
  exact (sorted.and different).imp fun both => lt_of_le_of_ne both.1 both.2

theorem sortedSet_eq_self_iff {texts : List String} :
    sortedSet texts = texts ↔ texts.Pairwise (· < ·) := by
  constructor
  · exact fun same => same ▸ sortedSet_pairwise texts
  · intro sorted
    have different : texts.Nodup := sorted.imp ne_of_lt
    rw [sortedSet, different.dedup]
    exact (sorted.imp le_of_lt).insertionSort_eq

/-- In a sorted list without repetitions the order of the places is that of the texts. -/
theorem pairwise_iff_of_sorted {texts : List String} (sorted : texts.Pairwise (· < ·))
    (related : String → String → Prop) :
    texts.Pairwise related ↔
      ∀ text ∈ texts, ∀ other ∈ texts, text < other → related text other := by
  constructor
  · intro pairwise
    induction texts with
    | nil => exact nofun
    | cons first rest ih =>
        obtain ⟨least, sorted⟩ := List.pairwise_cons.mp sorted
        obtain ⟨front, pairwise⟩ := List.pairwise_cons.mp pairwise
        intro text member other member' less
        rcases List.mem_cons.mp member with head | tail
        · rcases List.mem_cons.mp member' with head' | tail'
          · exact absurd less (head ▸ head' ▸ lt_irrefl first)
          · exact head ▸ front other tail'
        · rcases List.mem_cons.mp member' with head' | tail'
          · exact absurd less (not_lt.mpr (head' ▸ le_of_lt (least text tail)))
          · exact ih sorted pairwise text tail other tail' less
  · exact fun all => sorted.imp_of_mem fun member member' less => all _ member _ member' less

/-- The second pass keeps every line and every key, and sorts the stripped lines. -/
theorem prepare_again (message : String) (slots : List CurrentSlot) :
    currentMessage (preparedMessage message slots).message
        (slotsOf (preparedMessage message slots).keys slots) =
      .ok ⟨"\n".intercalate (sortedSet (splitLines (preparedMessage message slots).message)),
        (preparedMessage message slots).keys, []⟩ := by
  generalize keysEq : (preparedMessage message slots).keys = keys
  rw [currentMessage, splitLines_prepared]
  generalize linesEq : (strippedLines message).filter (retains slots) = lines
  have kept {line : String} (member : line ∈ sortedSet lines) :
      strip line = line ∧ coveredEvents line (slotsOf keys slots) = .ok (keysOf slots line) := by
    rw [mem_sortedSet, ← linesEq] at member
    obtain ⟨known, covered⟩ := List.mem_filter.mp member
    obtain ⟨text, inside, rfl⟩ := mem_strippedLines.mp known
    obtain ⟨found, covered⟩ := retains_iff.mp covered
    have same : keysOf slots (strip text) = found := by rw [keysOf, covered]
    refine ⟨strip_strip text, same ▸ coveredEvents_slotsOf inside covered fun key member => ?_⟩
    rw [← keysEq, preparedMessage, mem_sortedSet, List.mem_flatMap]
    exact ⟨strip text, known, same ▸ member⟩
  have stripped : (sortedSet lines).map strip = sortedSet lines :=
    calc (sortedSet lines).map strip
        = (sortedSet lines).map id := List.map_congr_left fun line member => (kept member).1
      _ = sortedSet lines := List.map_id _
  have retained : ∀ line ∈ sortedSet lines, retains (slotsOf keys slots) line = true :=
    fun line member => retains_iff.mpr ⟨_, (kept member).2⟩
  have same : (sortedSet lines).flatMap (keysOf (slotsOf keys slots)) =
      (sortedSet lines).flatMap (keysOf slots) :=
    List.flatMap_congr fun line member => by rw [keysOf, (kept member).2]
  have union : sortedSet ((sortedSet lines).flatMap (keysOf slots)) = keys := by
    rw [← keysEq, preparedMessage]
    refine sortedSet_congr fun key => ?_
    simp only [List.mem_flatMap, mem_sortedSet, ← linesEq, List.mem_filter]
    constructor
    · exact fun ⟨line, ⟨known, _⟩, member⟩ => ⟨line, known, member⟩
    · rintro ⟨line, known, member⟩
      refine ⟨line, ⟨known, ?_⟩, member⟩
      unfold keysOf at member
      split at member
      · rename_i found covered
        exact retains_iff.mpr ⟨found, covered⟩
      · exact absurd member List.not_mem_nil
  rw [currentLines_eq fun line member => by
    rw [(kept member).1, (kept member).2]
    exact nofun]
  rw [stripped, List.filter_eq_self.mpr retained, same,
    List.filter_eq_nil_iff.mpr fun line member => by rw [retained line member]; decide]
  simp only [bind, Except.bind, pure, Except.pure, union]

/-- Preparing the prepared message again, with the slots of its keys, changes nothing. -/
def Stable (message : String) (slots : List CurrentSlot) : Prop :=
  ∀ current, currentMessage message slots = .ok current → current.keys ≠ [] →
    currentMessage current.message (slotsOf current.keys slots) =
      .ok ⟨current.message, current.keys, []⟩

/-- In a message that is prepared, lines that are vouched for have the same order before and
after stripping, and stay different. -/
def StripsInOrder (message : String) (slots : List CurrentSlot) : Prop :=
  (∀ text ∈ splitLines message, WellFormedText (strip text)) → MidnightMet message slots →
    ∀ text ∈ splitLines message, ∀ other ∈ splitLines message, text < other →
      Vouched slots (strip text) → Vouched slots (strip other) → strip text < strip other

/-- The retained lines are in strict order exactly when stripping keeps the order. -/
theorem retained_sorted_iff (message : String) (slots : List CurrentSlot) :
    ((strippedLines message).filter (retains slots)).Pairwise (· < ·) ↔
      ∀ text ∈ splitLines message, ∀ other ∈ splitLines message, text < other →
        Vouched slots (strip text) → Vouched slots (strip other) → strip text < strip other := by
  rw [strippedLines, List.filter_map, List.pairwise_map,
    pairwise_iff_of_sorted ((sortedSet_pairwise _).sublist List.filter_sublist)]
  simp only [List.mem_filter, mem_sortedSet, Function.comp_apply, retains_iff]
  constructor
  · intro ordered text member other member' less vouched vouched'
    exact ordered text ⟨member, (covered_iff_vouched member slots).mpr vouched⟩ other
      ⟨member', (covered_iff_vouched member' slots).mpr vouched'⟩ less
  · rintro ordered text ⟨member, covered⟩ other ⟨member', covered'⟩ less
    exact ordered text member other member' less ((covered_iff_vouched member slots).mp covered)
      ((covered_iff_vouched member' slots).mp covered')

/-- A retained line has keys. -/
theorem keys_of_vouched {message text : String} {slots : List CurrentSlot}
    (member : text ∈ splitLines message) (vouched : Vouched slots (strip text)) :
    (preparedMessage message slots).keys ≠ [] := by
  obtain ⟨line, parsed, wellFormed, covered, meets⟩ := vouched
  have whole := whole_of_wellFormed member ⟨line, parsed, wellFormed⟩
  have used := (swept_nonempty_iff covered).mpr meets
  have result := coveredEvents_of_covered whole ((strip_strip text).symm ▸ parsed) wellFormed slots
    covered
  rw [if_neg used] at result
  obtain ⟨slot, first⟩ := List.exists_mem_of_ne_nil _ used
  have key : slot.eventKey ∈ (preparedMessage message slots).keys := by
    rw [preparedMessage, mem_sortedSet, List.mem_flatMap]
    refine ⟨strip text, mem_strippedLines.mpr ⟨text, member, rfl⟩, ?_⟩
    rw [keysOf, result, mem_sortedSet]
    exact List.mem_map_of_mem first
  exact List.ne_nil_of_mem key

/-- A message is stable exactly when stripping keeps the order of its lines. -/
theorem stable_iff_stripsInOrder (message : String) (slots : List CurrentSlot) :
    Stable message slots ↔ StripsInOrder message slots := by
  constructor
  · intro stable wellFormed met text member other member' less vouched vouched'
    have again := stable _ (currentMessage_eq (sound_iff.mpr ⟨wellFormed, met⟩))
      (keys_of_vouched member vouched)
    rw [prepare_again, Except.ok.injEq, CurrentMessage.mk.injEq] at again
    have whole : ∀ line ∈ sortedSet (splitLines (preparedMessage message slots).message),
        Whole line := by
      intro line inside
      rw [mem_sortedSet, splitLines_prepared] at inside
      exact whole_of_retained inside
    have same := congrArg splitLines again.1
    rw [splitLines_intercalate whole, sortedSet_eq_self_iff, splitLines_prepared,
      retained_sorted_iff] at same
    exact same text member other member' less vouched vouched'
  · intro ordered current prepared _
    obtain ⟨sound, rfl⟩ := currentMessage_ok_iff.mp prepared
    obtain ⟨wellFormed, met⟩ := sound_iff.mp sound
    have sorted := (retained_sorted_iff message slots).mpr (ordered wellFormed met)
    rw [prepare_again, splitLines_prepared, sortedSet_eq_self_iff.mpr sorted]
    rfl

/-- An evening, once with a blank before it. -/
def paddedText : String :=
  eveningText ++ "\n " ++ eveningText

theorem padded_unstable : ¬Stable paddedText eveningSlots := by
  intro stable
  have first : currentMessage paddedText eveningSlots =
      .ok ⟨eveningText ++ "\n" ++ eveningText, ["early", "late"], []⟩ := by decide +kernel
  have second : currentMessage (eveningText ++ "\n" ++ eveningText)
      (slotsOf ["early", "late"] eveningSlots) =
        .ok ⟨eveningText, ["early", "late"], []⟩ := by decide +kernel
  have again := stable _ first (List.cons_ne_nil _ _)
  rw [second, Except.ok.injEq, CurrentMessage.mk.injEq] at again
  exact absurd again.1 (by decide)

/-! ## The courts that vouch for a line -/

/-- One court of the slots, which the line names with or without the name of the venue,
covers the interval with its own slots. -/
def Line.OwnCourt (line : Line) (venueName : List Char) (slots : List CurrentSlot) : Prop :=
  ∃ court, (∃ slot ∈ slots, slot.courtName = court) ∧
    (line.court = court ∨ line.court = venueName ++ court) ∧
    ∀ point, line.start ≤ point → point < line.goal →
      ∃ slot ∈ slots, slot.courtName = court ∧ (monthDay slot.bookingDate).toList = line.day ∧
        slot.startTime ≤ point ∧ point < slot.endTime

/-- One court vouches for each retained line. -/
def OwnCourts (venueName : List Char) (message : String) (slots : List CurrentSlot) : Prop :=
  ∀ current, currentMessage message slots = .ok current →
    ∀ text ∈ splitLines current.message, ∀ line, parseLine text.toList = some line →
      line.OwnCourt venueName slots

/-- In a message that is prepared, one court covers what is covered by all slots whose court
names are suffixes of that of the line or have it as a suffix. -/
def PooledByOne (venueName : List Char) (message : String) (slots : List CurrentSlot) : Prop :=
  (∀ text ∈ splitLines message, WellFormedText (strip text)) → MidnightMet message slots →
    ∀ text ∈ splitLines message, ∀ line, parseLine (strip text).toList = some line →
      line.Covered slots → (∃ slot ∈ slots, line.Meets slot) → line.OwnCourt venueName slots

/-- The names of two courts are suffixes of each other in one direction. -/
def NamesMeet (name court : List Char) : Prop :=
  name <:+ court ∨ court <:+ name

/-- The only name that meets that of the line is its own, with or without the name of the
venue. -/
def NamedApart (venueName court : List Char) (names : List (List Char)) : Prop :=
  ∀ name ∈ names, NamesMeet name court →
    (court = name ∨ court = venueName ++ name) ∧
      ∀ other ∈ names, NamesMeet other court → other = name

theorem ownCourts_iff_pooledByOne (venueName : List Char) (message : String)
    (slots : List CurrentSlot) :
    OwnCourts venueName message slots ↔ PooledByOne venueName message slots := by
  constructor
  · intro own wellFormed met text member line parsed covered meets
    obtain ⟨line', parsed', passes⟩ := wellFormed text member
    have same : line' = line := Option.some.inj (parsed'.symm.trans parsed)
    exact own _ (currentMessage_eq (sound_iff.mpr ⟨wellFormed, met⟩)) (strip text)
      ((mem_prepared member slots).mpr ⟨line, parsed, same ▸ passes, covered, meets⟩) line parsed
  · intro pooled current prepared text member line parsed
    obtain ⟨sound, rfl⟩ := currentMessage_ok_iff.mp prepared
    obtain ⟨wellFormed, met⟩ := sound_iff.mp sound
    have known := member
    rw [splitLines_prepared] at known
    obtain ⟨original, inside, rfl⟩ := mem_strippedLines.mp (List.mem_of_mem_filter known)
    obtain ⟨line', parsed', -, covered, meets⟩ := (mem_prepared inside slots).mp member
    have same : line' = line := Option.some.inj (parsed'.symm.trans parsed)
    exact pooled wellFormed met original inside line parsed (same ▸ covered) (same ▸ meets)

theorem Line.OwnCourt.of_namedApart {line : Line} {venueName : List Char}
    {slots : List CurrentSlot}
    (apart : NamedApart venueName line.court (slots.map (·.courtName)))
    (covered : line.Covered slots) (meets : ∃ slot ∈ slots, line.Meets slot) :
    line.OwnCourt venueName slots := by
  obtain ⟨slot, member, ⟨-, vouches⟩, -⟩ := meets
  obtain ⟨named, single⟩ := apart slot.courtName (List.mem_map_of_mem member) vouches
  refine ⟨slot.courtName, ⟨slot, member, rfl⟩, named, fun point after before => ?_⟩
  obtain ⟨other, known, ⟨date, vouches'⟩, inside⟩ := covered point after before
  exact ⟨other, known, single _ (List.mem_map_of_mem known) vouches', date, inside⟩

/-- Two courts share an interval of a third one. -/
def sharedSlots (day : Int) (first middle last : Nat) (name other : List Char) :
    List CurrentSlot :=
  [⟨"first", day, name, clock first, clock middle⟩,
    ⟨"second", day, other, clock middle, clock last⟩]

def sharedLine (day : Int) (first last : Nat) (court : List Char) : Line :=
  ⟨court, (monthDay day).toList, clock first, clock last⟩

section

variable {court : List Char} (named : court ≠ [])
  (plain : ∀ character ∈ court, lineBreak character = false) {text : String} {day : Int}
  {first middle last : Nat} (announced : Announceable text)
  (parsed : parseLine text.toList = some (sharedLine day first last court))
  (ordered : first < middle) (ordered' : middle < last) (inDay : last < 1440)
  {name other : List Char} (meets : NamesMeet name court) (meets' : NamesMeet other court)

include inDay in
theorem shared_goal : (sharedLine day first last court).goal = clock last := by
  have finish : (sharedLine day first last court).finish = clock last := rfl
  exact goal_clock finish inDay

include inDay meets meets' in
theorem shared_covered :
    (sharedLine day first last court).Covered (sharedSlots day first middle last name other) := by
  intro point after before
  rw [shared_goal inDay] at before
  have date : (monthDay day).toList = (sharedLine day first last court).day := by
    rw [sharedLine]
  rcases lt_or_ge point (clock middle) with early | late
  · exact ⟨⟨"first", day, name, clock first, clock middle⟩, List.mem_cons_self,
      ⟨date, meets⟩, after, early⟩
  · exact ⟨⟨"second", day, other, clock middle, clock last⟩,
      List.mem_cons_of_mem _ List.mem_cons_self, ⟨date, meets'⟩, late, before⟩

include announced parsed ordered ordered' inDay meets meets' in
/-- The interval of the third court is retained. -/
theorem shared_retained :
    ∃ current, currentMessage text (sharedSlots day first middle last name other) = .ok current ∧
      text ∈ splitLines current.message := by
  have member : text ∈ splitLines text := by
    rw [splitLines_whole announced.whole]
    exact List.mem_singleton_self _
  have nonempty :
      (sharedLine day first last court).start < (sharedLine day first last court).goal := by
    rw [shared_goal inDay]
    exact clock_lt (by omega) (by omega)
  have covered := @shared_covered court day first middle last inDay name other meets meets'
  have vouched : Vouched (sharedSlots day first middle last name other) (strip text) := by
    rw [announced.strip]
    have start : (sharedLine day first last court).start = clock first := rfl
    have finish : (sharedLine day first last court).finish = clock last := rfl
    exact ⟨_, parsed, wellFormed_clock start finish (by omega) (by omega), covered,
      exists_meets nonempty covered⟩
  have sound : Sound text (sharedSlots day first middle last name other) := by
    intro line inside refused
    rw [splitLines_whole announced.whole, List.mem_singleton] at inside
    obtain ⟨keys, found⟩ := (covered_iff_vouched member _).mpr vouched
    rw [inside, found] at refused
    exact nomatch refused
  have kept := (mem_prepared member _).mpr vouched
  rw [announced.strip] at kept
  exact ⟨_, currentMessage_eq sound, kept⟩

include ordered ordered' inDay in
/-- Only a court that has both slots owns the interval. -/
theorem shared_own {venueName : List Char}
    (own : (sharedLine day first last court).OwnCourt venueName
      (sharedSlots day first middle last name other)) :
    (court = name ∨ court = venueName ++ name) ∧ other = name := by
  obtain ⟨owner, -, legitimate, covers⟩ := own
  rw [shared_goal inDay] at covers
  have before : owner = name := by
    obtain ⟨slot, inside, same, -, reached, -⟩ :=
      covers (clock first) (le_refl _) (clock_lt (by omega) (by omega))
    rcases List.mem_cons.mp inside with rfl | inside
    · exact same.symm
    · rw [List.mem_singleton.mp inside] at reached
      exact absurd reached (not_le.mpr (clock_lt ordered (by omega)))
  have after : owner = other := by
    obtain ⟨slot, inside, same, -, -, within⟩ :=
      covers (clock middle) (clock_le (by omega) (by omega)) (clock_lt ordered' (by omega))
    rcases List.mem_cons.mp inside with rfl | inside
    · exact absurd within (lt_irrefl _)
    · rw [List.mem_singleton.mp inside] at same
      exact same.symm
  exact ⟨before ▸ legitimate, after.symm.trans before⟩

end

/-- One court vouches for each retained line exactly when the slots of one court cover
whatever is covered by all slots with names that meet that of the line.  Whatever the
slots are, this holds for a court exactly when no other name meets its own. -/
theorem ownCourts_iff (venueName : List Char) :
    (∀ message slots,
      OwnCourts venueName message slots ↔ PooledByOne venueName message slots) ∧
    ∀ court names, court ≠ [] → (∀ character ∈ court, lineBreak character = false) →
      ((∀ message slots, (∀ slot ∈ slots, slot.courtName ∈ names) →
          ∀ current, currentMessage message slots = .ok current →
            ∀ text ∈ splitLines current.message, ∀ line, parseLine text.toList = some line →
              line.court = court → line.OwnCourt venueName slots) ↔
        NamedApart venueName court names) := by
  refine ⟨ownCourts_iff_pooledByOne venueName, fun court names named plain => ⟨?_, ?_⟩⟩
  · intro own name known meets
    have shown : (String.ofList court).toList = court := String.toList_ofList
    have announced := notification_announceable 6 20758 (shown.symm ▸ plain) ⟨1080, 1200⟩
    have parsed := parseLine_notification 6 20758
      (fun empty => named (shown ▸ congrArg String.toList empty))
      (fun inside => absurd (plain _ (shown ▸ inside)) (by decide))
      (show (FreeSlot.mk 1080 1200).start ≤ 1440 by decide) (by decide)
    rw [shown, ← clock_eq, ← clock_eq] at parsed
    have parsed : _ = some (sharedLine 20758 1080 1200 court) := parsed
    have shared {other : List Char} (known' : other ∈ names) (meets' : NamesMeet other court) :
        (court = name ∨ court = venueName ++ name) ∧ other = name := by
      have ordered : 1080 < 1140 := by decide
      have ordered' : 1140 < 1200 := by decide
      have inDay : 1200 < 1440 := by decide
      obtain ⟨current, prepared, member⟩ :=
        shared_retained announced parsed ordered ordered' inDay meets meets'
      have used : ∀ slot ∈ sharedSlots 20758 1080 1140 1200 name other,
          slot.courtName ∈ names := by
        intro slot inside
        rcases List.mem_cons.mp inside with rfl | inside
        · exact known
        · exact List.mem_singleton.mp inside ▸ known'
      have owned : (sharedLine 20758 1080 1200 court).OwnCourt venueName
          (sharedSlots 20758 1080 1140 1200 name other) :=
        own _ _ used current prepared _ member _ parsed rfl
      exact shared_own ordered ordered' inDay owned
    exact ⟨(shared known meets).1, fun other known' meets' => (shared known' meets').2⟩
  · intro apart message slots known current prepared text member line parsed same
    obtain ⟨-, rfl⟩ := currentMessage_ok_iff.mp prepared
    have known' := member
    rw [splitLines_prepared] at known'
    obtain ⟨original, inside, rfl⟩ := mem_strippedLines.mp (List.mem_of_mem_filter known')
    obtain ⟨line', parsed', -, covered, meets⟩ := (mem_prepared inside slots).mp member
    have equal : line' = line := Option.some.inj (parsed'.symm.trans parsed)
    refine Line.OwnCourt.of_namedApart ?_ (equal ▸ covered) (equal ▸ meets)
    rw [same]
    intro name used vouches
    obtain ⟨slot, inside, rfl⟩ := List.mem_map.mp used
    refine (apart _ (known slot inside) vouches).imp_right fun single other used' vouches' => ?_
    obtain ⟨slot', inside', rfl⟩ := List.mem_map.mp used'
    exact single _ (known slot' inside') vouches'

/-- A line of court 11, and the slots of court 1. -/
theorem eleventh_disowned :
    ¬OwnCourts "大沙河免费场".toList "【大沙河免费场11号场】星期日(11-01)空场: 18:00-24:00"
      eveningSlots := by
  intro own
  have prepared : currentMessage "【大沙河免费场11号场】星期日(11-01)空场: 18:00-24:00" eveningSlots =
      .ok ⟨"【大沙河免费场11号场】星期日(11-01)空场: 18:00-24:00", ["early", "late"], []⟩ := by
    decide +kernel
  have lines : splitLines "【大沙河免费场11号场】星期日(11-01)空场: 18:00-24:00" =
      ["【大沙河免费场11号场】星期日(11-01)空场: 18:00-24:00"] := by
    decide +kernel
  have parsed : parseLine "【大沙河免费场11号场】星期日(11-01)空场: 18:00-24:00".toList =
      some ⟨"大沙河免费场11号场".toList, "11-01".toList, "18:00".toList, "24:00".toList⟩ := by
    decide +kernel
  obtain ⟨court, ⟨slot, member, rfl⟩, legitimate, -⟩ :=
    own _ prepared _ (lines ▸ List.mem_singleton_self _) _ parsed
  rcases List.mem_cons.mp member with rfl | member
  · exact absurd legitimate (by decide +kernel)
  · rw [List.mem_singleton.mp member] at legitimate
    exact absurd legitimate (by decide +kernel)

end TennisAlerts.HostCore
