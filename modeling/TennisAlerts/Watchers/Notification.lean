import TennisAlerts.HostCore.WechatQueue
import Mathlib.Data.List.Basic

/-!
# Notification lines

The lines that a watcher announces, one for each free interval of a court.  Lines of
different dates differ, and a line survives being joined with others and split again
as long as its court name has no line boundary.
-/

namespace TennisAlerts.Watchers

open TennisAlerts.HostCore

/-- A free interval, in minutes of the day. -/
structure FreeSlot where
  start : Nat
  finish : Nat
  deriving DecidableEq

/-- An entry of `up_for_send_data_list`. -/
structure FreeCourt where
  courtName : String
  freeSlotList : List FreeSlot

/-- The name of a weekday, Monday first. -/
def weekdayText (weekday : Fin 7) : String :=
  ["一", "二", "三", "四", "五", "六", "日"].getD weekday ""

/-- The text of one free interval. -/
def notification (weekday date courtName : String) (slot : FreeSlot) : String :=
  "【" ++ courtName ++ "】星期" ++ weekday ++ "(" ++ date ++ ")空场: " ++
    clockText slot.start ++ "-" ++ clockText slot.finish

/-- The texts of all free intervals of a date. -/
def notifications (weekday date : String) (data : List FreeCourt) : List String :=
  data.flatMap fun court => court.freeSlotList.map (notification weekday date court.courtName)

/-! ## Dates -/

/-- The two digits of a small number. -/
theorem padded_eq {value : Nat} (small : value < 100) :
    (padded 2 value).toList = [Nat.digitChar (value / 10), Nat.digitChar (value % 10)] := by
  have all : ∀ value : Fin 100, (padded 2 value).toList =
      [Nat.digitChar (value / 10), Nat.digitChar (value % 10)] := by
    decide
  exact all ⟨value, small⟩

theorem padded_injective {first second : Nat} (small : first < 100) (small' : second < 100)
    (same : padded 2 first = padded 2 second) : first = second := by
  have digits := congrArg String.toList same
  rw [padded_eq small, padded_eq small', List.cons.injEq, List.cons.injEq] at digits
  have tens := congrArg Char.toNat digits.1
  have ones := congrArg Char.toNat digits.2.1
  rw [Nat.toNat_digitChar_of_lt_ten (by omega), Nat.toNat_digitChar_of_lt_ten (by omega)]
    at tens ones
  omega

/-- The year of the era, counted from March. -/
def yearOfEra (dayOfEra : Int) : Int :=
  (dayOfEra - dayOfEra / 1460 + dayOfEra / 36524 - dayOfEra / 146096) / 365

/-- The day of the year, counted from March. -/
def dayOfYear (dayOfEra : Int) : Int :=
  dayOfEra - (365 * yearOfEra dayOfEra + yearOfEra dayOfEra / 4 - yearOfEra dayOfEra / 100)

def dayOfEra (day : Int) : Int :=
  (day + 719468) % 146097

/-- The century of a day is read off its year, and its leap years are those of its day. -/
theorem dayOfYear_range {day : Int} (low : 0 ≤ day) (high : day < 146097) :
    0 ≤ dayOfYear day ∧ dayOfYear day < 366 := by
  have century : day / 36524 = 0 ∨ day / 36524 = 1 ∨ day / 36524 = 2 ∨ day / 36524 = 3 ∨
      day / 36524 = 4 := by
    omega
  have hundred : yearOfEra day / 100 = day / 36524 - day / 146096 := by
    unfold yearOfEra
    rcases century with case | case | case | case | case <;> rw [case] <;> omega
  have last : day / 146096 = 0 ∨ day = 146096 := by omega
  rcases last with ordinary | rfl
  · have leaps : day / 1460 - yearOfEra day / 4 = 0 ∨ day / 1460 - yearOfEra day / 4 = 1 := by
      unfold yearOfEra
      rcases century with case | case | case | case | case <;> rw [case, ordinary] <;> omega
    have year : yearOfEra day = (day - day / 1460 + day / 36524) / 365 := by
      rw [yearOfEra, ordinary, Int.sub_zero]
    rw [dayOfYear, hundred, ordinary]
    generalize yearOfEra day = year' at leaps year ⊢
    rcases leaps with leaps | leaps <;>
      rcases century with case | case | case | case | case <;> rw [case] at year ⊢ <;> omega
  · decide

/-- Nearby days have different places in their years. -/
theorem dayOfYear_ne (day : Int) {gap : Int} (positive : 0 < gap) (small : gap < 3) :
    dayOfYear (dayOfEra (day + gap)) ≠ dayOfYear (dayOfEra day) := by
  have wrap : 146095 ≤ dayOfEra day → yearOfEra (dayOfEra day) = 399 := by
    have high : dayOfEra day < 146097 := Int.emod_lt_of_pos _ (by decide)
    unfold yearOfEra
    omega
  have start : dayOfEra (day + gap) < 2 → yearOfEra (dayOfEra (day + gap)) = 0 := by
    have low : 0 ≤ dayOfEra (day + gap) := Int.emod_nonneg _ (by decide)
    unfold yearOfEra
    omega
  have next : dayOfEra (day + gap) = dayOfEra day + gap ∨
      dayOfEra (day + gap) = dayOfEra day + gap - 146097 := by
    unfold dayOfEra
    omega
  have low : 0 ≤ dayOfEra (day + gap) := Int.emod_nonneg _ (by decide)
  have high : dayOfEra day < 146097 := Int.emod_lt_of_pos _ (by decide)
  unfold dayOfYear
  generalize yearOfEra (dayOfEra day) = year at *
  generalize yearOfEra (dayOfEra (day + gap)) = year' at *
  rcases next with next | next
  · rcases lt_trichotomy year year' with less | same | more <;> omega
  · have same := wrap (by omega)
    have zero := start (by omega)
    subst year year'
    omega

/-- The month of a place in the year. -/
def monthOf (place : Int) : Nat :=
  (if (5 * place + 2) / 153 < 10 then (5 * place + 2) / 153 + 3
    else (5 * place + 2) / 153 - 9).toNat

/-- The day of the month of a place in the year. -/
def dayOfMonth (place : Int) : Nat :=
  (place - (153 * ((5 * place + 2) / 153) + 2) / 5 + 1).toNat

theorem monthDay_eq (day : Int) :
    monthDay day = padded 2 (monthOf (dayOfYear (dayOfEra day))) ++ "-" ++
      padded 2 (dayOfMonth (dayOfYear (dayOfEra day))) := by
  have shifted : day + 719468 - (day + 719468) / 146097 * 146097 = dayOfEra day := by
    unfold dayOfEra
    omega
  simp only [monthDay, civilDate]
  rw [shifted]
  rfl

theorem padded_length {value : Nat} (small : value < 100) : (padded 2 value).toList.length = 2 := by
  have all : ∀ value : Fin 100, (padded 2 value).toList.length = 2 := by decide
  exact all ⟨value, small⟩

theorem monthOf_lt {place : Int} (low : 0 ≤ place) (high : place < 366) :
    monthOf place < 100 := by
  unfold monthOf
  omega

theorem dayOfMonth_lt (place : Int) : dayOfMonth place < 100 := by
  unfold dayOfMonth
  omega

/-- Month and day determine the place. -/
theorem place_unique {place other : Int} (low : 0 ≤ place) (high : place < 366)
    (low' : 0 ≤ other) (high' : other < 366) (month : monthOf place = monthOf other)
    (day : dayOfMonth place = dayOfMonth other) : place = other := by
  have index : (5 * place + 2) / 153 = (5 * other + 2) / 153 := by
    unfold monthOf at month
    omega
  unfold dayOfMonth at day
  omega

theorem place_range (day : Int) :
    0 ≤ dayOfYear (dayOfEra day) ∧ dayOfYear (dayOfEra day) < 366 :=
  dayOfYear_range (Int.emod_nonneg _ (by decide)) (Int.emod_lt_of_pos _ (by decide))

theorem monthDay_length (day : Int) : (monthDay day).toList.length = 5 := by
  obtain ⟨low, high⟩ := place_range day
  rw [monthDay_eq]
  simp only [String.toList_append, List.length_append]
  rw [padded_length (monthOf_lt low high), padded_length (dayOfMonth_lt _)]
  rfl

/-- The place in the year is read off the date. -/
theorem place_of_monthDay {day other : Int} (same : monthDay day = monthDay other) :
    dayOfYear (dayOfEra day) = dayOfYear (dayOfEra other) := by
  obtain ⟨low, high⟩ := place_range day
  obtain ⟨low', high'⟩ := place_range other
  rw [monthDay_eq, monthDay_eq] at same
  generalize dayOfYear (dayOfEra day) = place at *
  generalize dayOfYear (dayOfEra other) = place' at *
  have texts := congrArg String.toList same
  simp only [String.toList_append, List.append_assoc] at texts
  obtain ⟨month, rest⟩ := List.append_inj texts <| by
    rw [padded_length (monthOf_lt low high), padded_length (monthOf_lt low' high')]
  exact place_unique low high low' high'
    (padded_injective (monthOf_lt low high) (monthOf_lt low' high') (String.toList_inj.mp month))
    (padded_injective (dayOfMonth_lt _) (dayOfMonth_lt _)
      (String.toList_inj.mp (List.append_cancel_left rest)))

/-- The dates of nearby days are different texts. -/
theorem monthDay_ne (day : Int) {gap : Int} (positive : 0 < gap) (small : gap < 3) :
    monthDay (day + gap) ≠ monthDay day :=
  fun same => dayOfYear_ne day positive small (place_of_monthDay same)

/-! ## Apart and whole -/

/-- The characters of a padded number are digits. -/
theorem padded_digits {width value : Nat} {character : Char}
    (inside : character ∈ (padded width value).toList) : character.isDigit = true := by
  simp only [padded, String.toList_ofList, List.mem_append] at inside
  rcases inside with zero | digit
  · rw [List.eq_of_mem_replicate zero]
    rfl
  · exact Nat.isDigit_of_mem_toDigits (by decide) (by decide) digit

/-- An interval as it stands at the end of a line. -/
def intervalText (slot : FreeSlot) : List Char :=
  (clockText slot.start ++ "-" ++ clockText slot.finish).toList

theorem intervalText_plain {slot : FreeSlot} {character : Char}
    (inside : character ∈ intervalText slot) :
    character.isDigit = true ∨ character = ':' ∨ character = '-' := by
  simp only [intervalText, clockText, String.toList_append, List.mem_append] at inside
  rcases inside with (((digit | mark) | digit) | mark) | ((digit | mark) | digit)
  · exact .inl (padded_digits digit)
  · exact .inr (.inl (List.mem_singleton.mp mark))
  · exact .inl (padded_digits digit)
  · exact .inr (.inr (List.mem_singleton.mp mark))
  · exact .inl (padded_digits digit)
  · exact .inr (.inl (List.mem_singleton.mp mark))
  · exact .inl (padded_digits digit)

theorem intervalText_ne_nil (slot : FreeSlot) : intervalText slot ≠ [] := by
  simp only [intervalText, String.toList_append]
  exact List.append_ne_nil_of_left_ne_nil (List.append_ne_nil_of_right_ne_nil _ (by decide)) _

/-- What stands before the date of a line. -/
def lineFront (weekday courtName : String) : List Char :=
  '【' :: (courtName.toList ++ ("】星期".toList ++ (weekday.toList ++ "(".toList)))

theorem notification_toList (weekday date courtName : String) (slot : FreeSlot) :
    (notification weekday date courtName slot).toList =
      lineFront weekday courtName ++ date.toList ++ ")空场:".toList ++
        ' ' :: intervalText slot := by
  have mark : ")空场: ".toList = ")空场:".toList ++ [' '] := rfl
  simp only [notification, intervalText, lineFront, String.toList_append, mark, List.append_assoc,
    List.cons_append]
  rfl

/-- The first occurrence of a character splits a text in one way only. -/
theorem split_unique {mark : Char} {front front' rest rest' : List Char} (plain : mark ∉ front)
    (plain' : mark ∉ front') (same : front ++ mark :: rest = front' ++ mark :: rest') :
    front = front' ∧ rest = rest' := by
  induction front generalizing front' with
  | nil =>
      cases front' with
      | nil => exact ⟨rfl, List.tail_eq_of_cons_eq same⟩
      | cons character front' =>
          exact absurd (List.head_eq_of_cons_eq same ▸ List.mem_cons_self) plain'
  | cons character front ih =>
      cases front' with
      | nil => exact absurd (List.head_eq_of_cons_eq same ▸ List.mem_cons_self) plain
      | cons character' front' =>
          obtain ⟨rfl, tails⟩ := List.cons.inj same
          obtain ⟨rfl, rests⟩ := ih (fun inside => plain (List.mem_cons_of_mem character inside))
            (fun inside => plain' (List.mem_cons_of_mem character inside)) tails
          exact ⟨rfl, rests⟩

/-- The last occurrence of a character splits a text in one way only. -/
theorem split_last_unique {mark : Char} {front front' rest rest' : List Char} (plain : mark ∉ rest)
    (plain' : mark ∉ rest') (same : front ++ mark :: rest = front' ++ mark :: rest') :
    front = front' ∧ rest = rest' := by
  have reversed (front rest : List Char) :
      (front ++ mark :: rest).reverse = rest.reverse ++ mark :: front.reverse := by
    rw [List.reverse_append, List.reverse_cons, List.append_assoc, List.singleton_append]
  have texts := congrArg List.reverse same
  rw [reversed, reversed] at texts
  obtain ⟨rests, fronts⟩ := split_unique (mt List.mem_reverse.mp plain)
    (mt List.mem_reverse.mp plain') texts
  exact ⟨List.reverse_inj.mp fronts, List.reverse_inj.mp rests⟩

/-- Lines of different dates differ, whatever the court names hold. -/
theorem date_of_notification {weekday date courtName weekday' date' courtName' : String}
    {slot slot' : FreeSlot} (long : date.toList.length = 5) (long' : date'.toList.length = 5)
    (same : notification weekday date courtName slot =
      notification weekday' date' courtName' slot') : date = date' := by
  have space (slot : FreeSlot) : ' ' ∉ intervalText slot := by
    intro inside
    rcases intervalText_plain inside with digit | mark | mark
    · exact absurd digit (by decide)
    · exact absurd mark (by decide)
    · exact absurd mark (by decide)
  have texts := congrArg String.toList same
  simp only [notification_toList] at texts
  have fronts := (split_last_unique (space slot) (space slot') texts).1
  exact String.toList_inj.mp
    (List.append_inj' (List.append_inj' fronts rfl).1 (long.trans long'.symm)).2

theorem dropWhile_cons_of_fails {test : Char → Bool} {character : Char}
    (fails : test character = false) (rest : List Char) :
    (character :: rest).dropWhile test = character :: rest := by
  rw [List.dropWhile_cons, fails]
  rfl

theorem digit_range {character : Char} (digit : character.isDigit = true) :
    48 ≤ character.toNat ∧ character.toNat ≤ 57 := by
  simp only [Char.isDigit, Bool.and_eq_true, decide_eq_true_eq] at digit
  exact digit

theorem digit_visible {character : Char} (digit : character.isDigit = true) :
    pythonSpace character = false := by
  obtain ⟨low, high⟩ := digit_range digit
  simp only [pythonSpace, Bool.or_eq_false_iff, Bool.and_eq_false_iff, decide_eq_false_iff_not]
  omega

/-- A text with no space at its ends. -/
structure Visible (text : List Char) : Prop where
  nonempty : text ≠ []
  front : ∀ character ∈ text.head?, pythonSpace character = false
  back : ∀ character ∈ text.getLast?, pythonSpace character = false

theorem dropWhile_of_visible {text : List Char}
    (front : ∀ character ∈ text.head?, pythonSpace character = false) :
    text.dropWhile pythonSpace = text := by
  cases text with
  | nil => rfl
  | cons character rest => exact dropWhile_cons_of_fails (front character rfl) rest

/-- `str.strip` changes nothing between visible ends. -/
theorem Visible.strip {text : String} (visible : Visible text.toList) : strip text = text := by
  rw [HostCore.strip, dropWhile_of_visible visible.front, dropWhile_of_visible,
    List.reverse_reverse, String.ofList_toList]
  intro character last
  rw [List.head?_reverse] at last
  exact visible.back character last

theorem Visible.append {front middle back : List Char} (left : Visible front)
    (right : Visible back) : Visible (front ++ middle ++ back) where
  nonempty := List.append_ne_nil_of_right_ne_nil _ right.nonempty
  front := by
    rw [List.append_assoc, List.head?_append_of_ne_nil _ left.nonempty]
    exact left.front
  back := by
    rw [List.getLast?_append_of_ne_nil _ right.nonempty]
    exact right.back

theorem notification_visible (weekday date courtName : String) (slot : FreeSlot) :
    Visible (notification weekday date courtName slot).toList where
  nonempty := by
    rw [notification_toList]
    exact List.append_ne_nil_of_right_ne_nil _ (List.cons_ne_nil _ _)
  front := by
    rw [notification_toList, lineFront]
    rintro _ ⟨⟩
    decide
  back := by
    intro character last
    rw [notification_toList, List.getLast?_append_of_ne_nil _ (List.cons_ne_nil _ _),
      List.getLast?_cons_of_ne_nil (intervalText_ne_nil slot)] at last
    rcases intervalText_plain (List.mem_of_getLast? last) with digit | rfl | rfl
    · exact digit_visible digit
    · rfl
    · rfl

/-! ## Joined lines -/

/-- `str.splitlines` does not split the text. -/
def Whole (text : String) : Prop :=
  text ≠ "" ∧ ∀ character ∈ text.toList, lineBreak character = false

theorem digit_plain {character : Char} (digit : character.isDigit = true) :
    lineBreak character = false := by
  obtain ⟨low, high⟩ := digit_range digit
  simp only [lineBreak, Bool.or_eq_false_iff, Bool.and_eq_false_iff, decide_eq_false_iff_not]
  omega

theorem monthDay_plain {day : Int} {character : Char}
    (inside : character ∈ (monthDay day).toList) : lineBreak character = false := by
  rw [monthDay_eq] at inside
  simp only [String.toList_append, List.mem_append] at inside
  rcases inside with (digit | mark) | digit
  · exact digit_plain (padded_digits digit)
  · rw [List.mem_singleton.mp mark]
    rfl
  · exact digit_plain (padded_digits digit)

/-- A line is one line when its court name is. -/
theorem notification_whole (weekday : Fin 7) (day : Int) {courtName : String}
    (plain : ∀ character ∈ courtName.toList, lineBreak character = false) (slot : FreeSlot) :
    Whole (notification (weekdayText weekday) (monthDay day) courtName slot) := by
  have frame (text : List Char) (checked : (text.all fun letter => !lineBreak letter) = true)
      (character : Char) (inside : character ∈ text) : lineBreak character = false := by
    simpa only [Bool.not_eq_true'] using List.all_eq_true.mp checked character inside
  constructor
  · intro empty
    have none := congrArg String.toList empty
    rw [notification_toList, lineFront] at none
    exact absurd none (List.cons_ne_nil _ _)
  · intro character inside
    rw [notification_toList, lineFront] at inside
    simp only [List.mem_append, List.mem_cons] at inside
    rcases inside with (((rfl | court | mark | name | mark) | date) | mark) | rfl | interval
    · rfl
    · exact plain character court
    · exact frame _ (by decide) character mark
    · have names : ∀ weekday : Fin 7,
          ((weekdayText weekday).toList.all fun letter => !lineBreak letter) = true := by
        decide
      exact frame _ (names weekday) character name
    · exact frame _ (by decide) character mark
    · exact monthDay_plain date
    · exact frame _ (by decide) character mark
    · rfl
    · rcases intervalText_plain interval with digit | rfl | rfl
      · exact digit_plain digit
      · rfl
      · rfl

theorem splitLinesFrom_append {text : List Char}
    (whole : ∀ character ∈ text, lineBreak character = false) (current rest : List Char) :
    splitLinesFrom current (text ++ rest) = splitLinesFrom (text.reverse ++ current) rest := by
  induction text generalizing current with
  | nil => rfl
  | cons character text ih =>
      have plain := whole character List.mem_cons_self
      have noReturn : character ≠ '\r' := by
        rintro rfl
        exact absurd plain (by decide)
      rw [List.cons_append, splitLinesFrom.eq_3 _ _ _ fun rest same => absurd same noReturn,
        if_neg (Bool.eq_false_iff.mp plain),
        ih fun other inside => whole other (List.mem_cons_of_mem character inside),
        List.reverse_cons, List.append_assoc, List.singleton_append]

theorem splitLines_intercalate {lines : List String} (whole : ∀ line ∈ lines, Whole line) :
    splitLines ("\n".intercalate lines) = lines := by
  have split (lines : List String) (whole : ∀ line ∈ lines, Whole line) :
      splitLinesFrom [] ("\n".intercalate lines).toList = lines.map String.toList := by
    induction lines with
    | nil => rfl
    | cons line lines ih =>
        have first := whole line List.mem_cons_self
        have restWhole := fun other inside => whole other (List.mem_cons_of_mem line inside)
        cases lines with
        | nil =>
            rw [String.intercalate_singleton, ← List.append_nil line.toList,
              splitLinesFrom_append first.2, List.append_nil, splitLinesFrom,
              if_neg (mt List.reverse_eq_nil_iff.mp (mt String.toList_eq_nil_iff.mp first.1)),
              List.reverse_reverse]
            rfl
        | cons second rest =>
            rw [String.intercalate_cons_cons, String.toList_append, String.toList_append,
              List.append_assoc, splitLinesFrom_append first.2, List.map_cons, ← ih restWhole,
              List.append_nil]
            have feed (current rest : List Char) :
                splitLinesFrom current ("\n".toList ++ rest) =
                  current.reverse :: splitLinesFrom [] rest := by
              rfl
            rw [feed, List.reverse_reverse]
  rw [splitLines, split lines whole, List.map_map]
  calc lines.map (String.ofList ∘ String.toList)
      = lines.map id := List.map_congr_left fun line _ => String.ofList_toList
    _ = lines := List.map_id lines

/-- Nor are joined lines. -/
theorem Visible.intercalate {lines : List String} (some : lines ≠ [])
    (visible : ∀ line ∈ lines, Visible line.toList) :
    Visible ("\n".intercalate lines).toList := by
  induction lines with
  | nil => exact absurd rfl some
  | cons line lines ih =>
      have first := visible line List.mem_cons_self
      cases lines with
      | nil =>
          rw [String.intercalate_singleton]
          exact first
      | cons second rest =>
          rw [String.intercalate_cons_cons, String.toList_append, String.toList_append]
          exact first.append (ih (List.cons_ne_nil second rest) fun other inside =>
            visible other (List.mem_cons_of_mem line inside))

/-- A text that joining and splitting, and stripping, leave alone. -/
structure Announceable (line : String) : Prop where
  whole : Whole line
  visible : Visible line.toList

theorem Announceable.strip {line : String} (announceable : Announceable line) :
    strip line = line :=
  announceable.visible.strip

theorem notification_announceable (weekday : Fin 7) (day : Int) {courtName : String}
    (plain : ∀ character ∈ courtName.toList, lineBreak character = false) (slot : FreeSlot) :
    Announceable (notification (weekdayText weekday) (monthDay day) courtName slot) :=
  ⟨notification_whole weekday day plain slot, notification_visible _ _ _ _⟩

section

variable {lines : List String} (announceable : ∀ line ∈ lines, Announceable line)
include announceable

theorem map_strip : lines.map strip = lines :=
  calc lines.map strip
      = lines.map id := List.map_congr_left fun line member => (announceable line member).strip
    _ = lines := List.map_id lines

/-- Announced lines are split into themselves again. -/
theorem split_announceable : splitLines ("\n".intercalate lines) = lines :=
  splitLines_intercalate fun line member => (announceable line member).whole

theorem strip_joined (some : lines ≠ []) :
    HostCore.strip ("\n".intercalate lines) = "\n".intercalate lines :=
  (Visible.intercalate some fun line member => (announceable line member).visible).strip

end

/-! ## Read by the host -/

/-- Two digits. -/
theorem padded_shape {value : Nat} (small : value < 100) :
    ∃ a b, (padded 2 value).toList = [a, b] ∧ a.isDigit = true ∧ b.isDigit = true := by
  obtain ⟨a, b, shape⟩ := List.length_eq_two.mp (padded_length small)
  have digits : ∀ character ∈ (padded 2 value).toList, character.isDigit = true :=
    fun _ inside => padded_digits inside
  rw [shape] at digits
  exact ⟨a, b, shape, digits a List.mem_cons_self, digits b (by simp)⟩

theorem clockText_shape {minute : Nat} (inDay : minute ≤ 1440) :
    ∃ a b c d, (clockText minute).toList = [a, b, ':', c, d] ∧ a.isDigit = true ∧
      b.isDigit = true ∧ c.isDigit = true ∧ d.isDigit = true := by
  obtain ⟨a, b, hours, a', b'⟩ := padded_shape (show minute / 60 < 100 by omega)
  obtain ⟨c, d, rest, c', d'⟩ := padded_shape (show minute % 60 < 100 by omega)
  refine ⟨a, b, c, d, ?_, a', b', c', d'⟩
  simp only [clockText, String.toList_append, hours, rest]
  rfl

theorem monthDay_shape (day : Int) :
    ∃ a b c d, (monthDay day).toList = [a, b, '-', c, d] ∧ a.isDigit = true ∧
      b.isDigit = true ∧ c.isDigit = true ∧ d.isDigit = true := by
  obtain ⟨low, high⟩ := place_range day
  obtain ⟨a, b, months, a', b'⟩ := padded_shape (monthOf_lt low high)
  obtain ⟨c, d, rest, c', d'⟩ := padded_shape (dayOfMonth_lt (dayOfYear (dayOfEra day)))
  refine ⟨a, b, c, d, ?_, a', b', c', d'⟩
  rw [monthDay_eq]
  simp only [String.toList_append, months, rest]
  rfl

theorem weekdayText_shape (weekday : Fin 7) :
    ∃ character, (weekdayText weekday).toList = [character] ∧
      ['一', '二', '三', '四', '五', '六', '日'].contains character = true := by
  have all : ∀ weekday : Fin 7, (weekdayText weekday).toList.all (fun character =>
      ['一', '二', '三', '四', '五', '六', '日'].contains character) = true ∧
        (weekdayText weekday).toList.length = 1 := by
    decide
  obtain ⟨known, single⟩ := all weekday
  obtain ⟨character, shape⟩ := List.length_eq_one_iff.mp single
  rw [shape] at known
  exact ⟨character, shape, by simpa using known⟩

theorem unicodeDigit_of_isDigit {character : Char} (digit : character.isDigit = true) :
    unicodeDigit character = true := by
  obtain ⟨low, high⟩ := digit_range digit
  refine List.any_eq_true.mpr ⟨0x30, by decide, ?_⟩
  simp only [Bool.and_eq_true, decide_eq_true_eq]
  omega

/-- A line with a fixed frame and a fixed interval is read back. -/
theorem parseLine_of_shape {court frame interval : List Char}
    (interval11 : interval.length = 11) (frame14 : frame.length = 14)
    (fitInterval : fits intervalPattern interval = true)
    (fitFrame : fits framePattern frame = true) (named : court ≠ [])
    (plain : '\n' ∉ court) (last : ∀ character ∈ frame.getLast?, pythonSpace character = false) :
    parseLine ('【' :: (court ++ (frame ++ ' ' :: interval))) =
      some ⟨court, (frame.drop 5).take 5, interval.take 5, interval.drop 6⟩ := by
  have whole : '【' :: (court ++ (frame ++ ' ' :: interval)) =
      ('【' :: court ++ frame ++ [' ']) ++ interval := by simp
  have front : (('【' :: court ++ frame ++ [' ']) ++ interval).take
      ((('【' :: court ++ frame ++ [' ']) ++ interval).length - 11) =
        '【' :: court ++ frame ++ [' '] := by
    rw [List.length_append, interval11, Nat.add_sub_cancel, List.take_left]
  have back : (('【' :: court ++ frame ++ [' ']) ++ interval).drop
      ((('【' :: court ++ frame ++ [' ']) ++ interval).length - 11) = interval := by
    rw [List.length_append, interval11, Nat.add_sub_cancel, List.drop_left]
  have head : (('【' :: court ++ frame ++ [' ']).reverse.dropWhile pythonSpace).reverse =
      '【' :: court ++ frame := by
    rw [List.reverse_append, List.reverse_singleton, List.singleton_append, List.dropWhile_cons,
      if_pos (by decide), dropWhile_of_visible, List.reverse_reverse]
    intro character first
    rw [List.head?_reverse, List.getLast?_append_of_ne_nil _ (List.ne_nil_of_length_pos (by omega))]
      at first
    exact last character first
  unfold parseLine
  dsimp only
  rw [whole, front, back, head, List.length_append, frame14, Nat.add_sub_cancel, List.take_left,
    List.drop_left]
  refine if_pos ?_
  have noBreak : court.contains '\n' = false := by
    rw [← Bool.not_eq_true, List.contains_iff_mem]
    exact plain
  rw [fitInterval, fitFrame, noBreak, bne_iff_ne.mpr named]
  rfl

/-- The host reads a line as its court, its date and its interval. -/
theorem parseLine_notification (weekday : Fin 7) (day : Int) {courtName : String}
    (named : courtName ≠ "") (plain : '\n' ∉ courtName.toList) {slot : FreeSlot}
    (inDay : slot.start ≤ 1440) (inDay' : slot.finish ≤ 1440) :
    parseLine (notification (weekdayText weekday) (monthDay day) courtName slot).toList =
      some ⟨courtName.toList, (monthDay day).toList, (clockText slot.start).toList,
        (clockText slot.finish).toList⟩ := by
  obtain ⟨a, b, c, d, start, a', b', c', d'⟩ := clockText_shape inDay
  obtain ⟨e, f, g, h, finish, e', f', g', h'⟩ := clockText_shape inDay'
  obtain ⟨i, j, k, l, date, i', j', k', l'⟩ := monthDay_shape day
  obtain ⟨name, week, name'⟩ := weekdayText_shape weekday
  have interval : intervalText slot = [a, b, ':', c, d, '-', e, f, ':', g, h] := by
    simp only [intervalText, String.toList_append, start, finish]
    rfl
  have text : (notification (weekdayText weekday) (monthDay day) courtName slot).toList =
      '【' :: (courtName.toList ++
        (['】', '星', '期', name, '(', i, j, '-', k, l, ')', '空', '场', ':'] ++
        ' ' :: intervalText slot)) := by
    rw [notification_toList, lineFront, week, date]
    simp
  rw [text, parseLine_of_shape (by rw [interval]; rfl) rfl ?_ ?_
    (mt String.toList_eq_nil_iff.mp named) plain ?_, interval, start, finish, date]
  · rfl
  · rw [interval]
    simp [fits, intervalPattern, literal, unicodeDigit_of_isDigit, a', b', c', d', e', f', g', h']
  · have known := List.contains_iff_mem.mp name'
    simp only [List.mem_cons, List.not_mem_nil, or_false] at known
    simp [fits, framePattern, literal, unicodeDigit_of_isDigit, i', j', k', l', known]
  · intro character last
    rw [← Option.some.inj (Option.mem_def.mp last)]
    exact (show pythonSpace ':' = false by decide)

end TennisAlerts.Watchers
