import TennisAlerts.Watchers.Notification
import Mathlib.Data.Int.ConditionallyCompleteOrder
import Mathlib.Order.Monotone.Basic

/-!
# Years and weekdays

The calendar behind the dates of lines: a day is its year and its place in the year, and
a date of another year falls on another weekday.
-/

namespace TennisAlerts.Watchers

open TennisAlerts.HostCore

/-! ## Years -/

/-- The year of a day. -/
def yearOf (day : Int) : Int :=
  let place := dayOfYear (dayOfEra day)
  let year := yearOfEra (dayOfEra day) + (day + 719468) / 146097 * 400
  if (monthOf place : Int) ≤ 2 then year + 1 else year

theorem civilDate_eq (day : Int) :
    civilDate day =
      (yearOf day, (monthOf (dayOfYear (dayOfEra day)) : Int),
        (dayOfMonth (dayOfYear (dayOfEra day)) : Int)) := by
  have shifted : day + 719468 - (day + 719468) / 146097 * 146097 = dayOfEra day := by
    unfold dayOfEra
    omega
  obtain ⟨low, high⟩ := place_range day
  have month : (monthOf (dayOfYear (dayOfEra day)) : Int) =
      if (5 * dayOfYear (dayOfEra day) + 2) / 153 < 10 then
        (5 * dayOfYear (dayOfEra day) + 2) / 153 + 3
      else (5 * dayOfYear (dayOfEra day) + 2) / 153 - 9 := by
    unfold monthOf
    omega
  have place : (dayOfMonth (dayOfYear (dayOfEra day)) : Int) =
      dayOfYear (dayOfEra day) -
        (153 * ((5 * dayOfYear (dayOfEra day) + 2) / 153) + 2) / 5 + 1 := by
    unfold dayOfMonth
    omega
  simp only [civilDate, yearOf, month, place]
  rw [shifted]
  rfl

theorem yearOfEra_range {day : Int} (low : 0 ≤ day) (high : day < 146097) :
    0 ≤ yearOfEra day ∧ yearOfEra day < 400 := by
  unfold yearOfEra
  omega

/-- `date.min`. -/
def firstDay : Int :=
  -719162

theorem yearOf_nonneg {day : Int} (known : firstDay ≤ day) : 0 ≤ yearOf day := by
  obtain ⟨low, high⟩ := yearOfEra_range (Int.emod_nonneg (day + 719468) (by decide))
    (Int.emod_lt_of_pos (day + 719468) (by decide) : dayOfEra day < 146097)
  unfold firstDay at known
  unfold yearOf
  change 0 ≤ yearOfEra (dayOfEra day) at low
  dsimp only
  split <;> omega

/-- Year and place determine the day. -/
theorem day_unique {day other : Int} (year : yearOf day = yearOf other)
    (place : dayOfYear (dayOfEra day) = dayOfYear (dayOfEra other)) : day = other := by
  have bounds (day : Int) : 0 ≤ yearOfEra (dayOfEra day) ∧ yearOfEra (dayOfEra day) < 400 :=
    yearOfEra_range (Int.emod_nonneg (day + 719468) (by decide))
      (Int.emod_lt_of_pos (day + 719468) (by decide))
  have first := bounds day
  have second := bounds other
  have split (day : Int) : day + 719468 = (day + 719468) / 146097 * 146097 + dayOfEra day := by
    unfold dayOfEra
    omega
  have whole := split day
  have whole' := split other
  unfold yearOf at year
  rw [place] at year
  unfold dayOfYear at place
  generalize yearOfEra (dayOfEra day) = years at *
  generalize yearOfEra (dayOfEra other) = years' at *
  have eras : (day + 719468) / 146097 = (other + 719468) / 146097 := by
    dsimp only at year
    split at year <;> omega
  have same : years = years' := by
    dsimp only at year
    split at year <;> omega
  subst same
  omega

/-! ## Dates of a year -/

/-- A leap year. -/
def leap (year : Int) : Bool :=
  year % 4 = 0 && (year % 100 != 0 || year % 400 = 0)

/-- The first of January of a year. -/
def newYear (year : Int) : Int :=
  365 * (year - 1) + (year - 1) / 4 - (year - 1) / 100 + (year - 1) / 400 - 719162

def daysInMonth (leap : Bool) (month : Nat) : Nat :=
  [31, if leap then 29 else 28, 31, 30, 31, 30, 31, 31, 30, 31, 30, 31].getD (month - 1) 0

/-- The days of a year before a month. -/
def daysBeforeMonth (leap : Bool) (month : Nat) : Nat :=
  [0, 31, 59, 90, 120, 151, 181, 212, 243, 273, 304, 334].getD (month - 1) 0 +
    if leap ∧ 2 < month then 1 else 0

/-- `strptime` of the text of a year, a month and a day with `"%Y-%m-%d"`; a year has four
digits. -/
def dateOf (year : Int) (month dayOfMonth : Nat) : Option Int :=
  if 1000 ≤ year ∧ year ≤ 9999 ∧ 1 ≤ month ∧ month ≤ 12 ∧ 1 ≤ dayOfMonth ∧
      dayOfMonth ≤ daysInMonth (leap year) month then
    some (newYear year + daysBeforeMonth (leap year) month + dayOfMonth - 1)
  else none

/-- `date.weekday`. -/
def weekdayOf (day : Int) : Fin 7 :=
  ⟨((day + 3) % 7).toNat, by omega⟩

example : (dateOf 2024 2 29).map weekdayOf = some 3 := by decide

/-! ## Places in a year -/

theorem newYear_succ (year : Int) :
    newYear (year + 1) = newYear year + 365 + if leap year then 1 else 0 := by
  unfold newYear leap
  simp only [Bool.and_eq_true, Bool.or_eq_true, decide_eq_true_eq, bne_iff_ne]
  split <;> omega

/-- The days of a year before the day with a place, counted from March. -/
def offset (leap : Bool) (place : Int) : Int :=
  if place < 306 then place + 59 + (if leap then 1 else 0) else place - 306

/-- Only the last day of February may be missing. -/
theorem dateOf_place {year place : Int} (known : 1000 ≤ year ∧ year ≤ 9999) (low : 0 ≤ place)
    (high : place < 366) :
    dateOf year (monthOf place) (dayOfMonth place) =
      if place = 365 ∧ leap year = false then none
      else some (newYear year + offset (leap year) place) := by
  have table : ∀ (leap : Bool) (place : Fin 366),
      1 ≤ monthOf place ∧ monthOf place ≤ 12 ∧ 1 ≤ dayOfMonth place ∧
        (dayOfMonth place ≤ daysInMonth leap (monthOf place) ↔
          ¬((place : Int) = 365 ∧ leap = false)) ∧
        (¬((place : Int) = 365 ∧ leap = false) →
          (daysBeforeMonth leap (monthOf place) + dayOfMonth place - 1 : Int) =
            offset leap place) := by
    decide +kernel
  obtain ⟨place, rfl⟩ := Int.eq_ofNat_of_zero_le low
  obtain ⟨first, last, day, fits, count⟩ := table (leap year) ⟨place, by omega⟩
  dsimp only at first last day fits count
  unfold dateOf
  by_cases missing : (place : Int) = 365 ∧ leap year = false
  · rw [if_pos missing, if_neg fun valid => fits.mp valid.2.2.2.2.2 missing]
  · rw [if_neg missing, if_pos ⟨known.1, known.2, first, last, day, fits.mpr missing⟩,
      ← count missing]
    congr 1
    omega

/-- The year counts from January on. -/
theorem yearOf_eq (day : Int) :
    yearOf day = yearOfEra (dayOfEra day) + (day + 719468) / 146097 * 400 +
      if dayOfYear (dayOfEra day) < 306 then 0 else 1 := by
  obtain ⟨low, high⟩ := place_range day
  have early : (monthOf (dayOfYear (dayOfEra day)) : Int) ≤ 2 ↔
      ¬dayOfYear (dayOfEra day) < 306 := by
    unfold monthOf
    omega
  unfold yearOf
  dsimp only
  by_cases before : dayOfYear (dayOfEra day) < 306
  · rw [if_neg fun month => early.mp month before, if_pos before, Int.add_zero]
  · rw [if_pos (early.mpr before), if_neg before]

/-- A day counted from the first of March of the year that its era gives. -/
theorem day_eq_march (day : Int) :
    day + 306 = newYear (yearOfEra (dayOfEra day) + (day + 719468) / 146097 * 400 + 1) +
      dayOfYear (dayOfEra day) := by
  obtain ⟨low, high⟩ := yearOfEra_range (Int.emod_nonneg (day + 719468) (by decide))
    (Int.emod_lt_of_pos (day + 719468) (by decide))
  have split : day + 719468 = (day + 719468) / 146097 * 146097 + dayOfEra day := by
    unfold dayOfEra
    omega
  change 0 ≤ yearOfEra (dayOfEra day) at low
  change yearOfEra (dayOfEra day) < 400 at high
  unfold dayOfYear newYear
  generalize yearOfEra (dayOfEra day) = years at *
  generalize (day + 719468) / 146097 = era at *
  omega

/-- The years of an era that are followed by a last day of February. -/
theorem leap_of_dayOfYear {day : Int} (low : 0 ≤ day) (high : day < 146097)
    (place : dayOfYear day = 365) : leap (yearOfEra day + 1) = true := by
  have century : day / 36524 = 0 ∨ day / 36524 = 1 ∨ day / 36524 = 2 ∨ day / 36524 = 3 ∨
      day / 36524 = 4 := by
    omega
  have hundred : yearOfEra day / 100 = day / 36524 - day / 146096 := by
    unfold yearOfEra
    rcases century with case | case | case | case | case <;> rw [case] <;> omega
  have last : day / 146096 = 0 ∨ day = 146096 := by omega
  rcases last with ordinary | rfl
  · have year : yearOfEra day = (day - day / 1460 + day / 36524) / 365 := by
      rw [yearOfEra, ordinary, Int.sub_zero]
    have four : yearOfEra day % 4 = 3 := by
      rw [dayOfYear, hundred, ordinary] at place
      generalize yearOfEra day = years at *
      rcases century with case | case | case | case | case <;> rw [case] at year place <;> omega
    have whole : ¬(yearOfEra day + 1) % 100 = 0 := by
      rw [dayOfYear, hundred, ordinary] at place
      rw [ordinary] at hundred
      generalize yearOfEra day = years at *
      rcases century with case | case | case | case | case <;>
        rw [case] at year place hundred <;> omega
    unfold leap
    simp only [Bool.and_eq_true, Bool.or_eq_true, decide_eq_true_eq, bne_iff_ne]
    exact ⟨by omega, .inl whole⟩
  · decide

/-- The last day of February is a place in leap years only. -/
theorem leap_of_place {day : Int} (place : dayOfYear (dayOfEra day) = 365) :
    leap (yearOf day) = true := by
  have found := leap_of_dayOfYear (Int.emod_nonneg (day + 719468) (by decide))
    (Int.emod_lt_of_pos (day + 719468) (by decide) : dayOfEra day < 146097) place
  change leap (yearOfEra (dayOfEra day) + 1) = true at found
  rw [yearOf_eq, place, if_neg (by decide)]
  unfold leap at found ⊢
  simp only [Bool.and_eq_true, Bool.or_eq_true, decide_eq_true_eq, bne_iff_ne] at found ⊢
  omega

/-- A day is its year and its place in the year. -/
theorem day_eq (day : Int) :
    day = newYear (yearOf day) + offset (leap (yearOf day)) (dayOfYear (dayOfEra day)) := by
  have march := day_eq_march day
  rw [yearOf_eq]
  unfold offset
  by_cases before : dayOfYear (dayOfEra day) < 306
  · rw [if_pos before, if_pos before, Int.add_zero]
    rw [newYear_succ] at march
    omega
  · rw [if_neg before, if_neg before]
    omega

/-- The day lies in its year. -/
theorem yearOf_spec (day : Int) :
    newYear (yearOf day) ≤ day ∧ day < newYear (yearOf day + 1) := by
  obtain ⟨low, high⟩ := place_range day
  have found := day_eq day
  rw [newYear_succ]
  unfold offset at found
  split at found <;> omega

theorem newYear_mono {year later : Int} (le : year ≤ later) : newYear year ≤ newYear later := by
  have mono : Monotone newYear := by
    refine monotone_int_of_le_succ fun year => ?_
    rw [newYear_succ]
    split <;> omega
  exact mono le

/-- A year is determined by its days. -/
theorem yearOf_unique {day year : Int} (after : newYear year ≤ day)
    (before : day < newYear (year + 1)) :
    yearOf day = year := by
  obtain ⟨low, high⟩ := yearOf_spec day
  rcases lt_trichotomy (yearOf day) year with less | same | more
  · exact absurd (newYear_mono (Int.add_one_le_of_lt less)) (by omega)
  · exact same
  · exact absurd (newYear_mono (Int.add_one_le_of_lt more)) (by omega)

/-! ## Dates of other years -/

/-- Less than two months apart. -/
def Near (today day : Int) : Prop :=
  day ≤ today + 58 ∧ today ≤ day + 58

instance (today day : Int) : Decidable (Near today day) :=
  inferInstanceAs (Decidable (_ ∧ _))

variable {today day : Int}

theorem Near.year (near : Near today day) :
    yearOf today = yearOf day ∨ yearOf today = yearOf day + 1 ∨ yearOf today + 1 = yearOf day := by
  obtain ⟨ahead, behind⟩ := near
  obtain ⟨low, high⟩ := yearOf_spec day
  by_cases early : today < newYear (yearOf day)
  · have before := newYear_succ (yearOf day - 1)
    rw [Int.sub_add_cancel] at before
    have year : yearOf today = yearOf day - 1 := by
      refine yearOf_unique ?_ (by rwa [Int.sub_add_cancel])
      split at before <;> omega
    omega
  · by_cases late : newYear (yearOf day + 1) ≤ today
    · have after := newYear_succ (yearOf day + 1)
      have year : yearOf today = yearOf day + 1 := by
        refine yearOf_unique late ?_
        split at after <;> omega
      exact .inr (.inl year)
    · exact .inl (yearOf_unique (by omega) (by omega))

/-- The last day of February is near days of its year only. -/
theorem Near.same_year (near : Near today day) (place : dayOfYear (dayOfEra day) = 365) :
    yearOf today = yearOf day := by
  obtain ⟨ahead, behind⟩ := near
  have found := day_eq day
  have after := newYear_succ (yearOf day)
  rw [offset, place, if_neg (by decide)] at found
  refine yearOf_unique (by omega) ?_
  split at after <;> omega

/-- The date of the day in the year of a day that is near. -/
theorem dateOf_near (known : 1000 ≤ yearOf today ∧ yearOf today ≤ 9999) (near : Near today day) :
    dateOf (yearOf today) (monthOf (dayOfYear (dayOfEra day)))
      (dayOfMonth (dayOfYear (dayOfEra day))) =
      some (newYear (yearOf today) + offset (leap (yearOf today)) (dayOfYear (dayOfEra day))) := by
  obtain ⟨low, high⟩ := place_range day
  rw [dateOf_place known low high, if_neg]
  rintro ⟨place, missing⟩
  rw [near.same_year place, leap_of_place place] at missing
  exact nomatch missing

/-- In another year the date falls on another weekday. -/
theorem weekdayOf_near (near : Near today day) :
    weekdayOf (newYear (yearOf today) + offset (leap (yearOf today)) (dayOfYear (dayOfEra day))) =
        weekdayOf day ↔ yearOf today = yearOf day := by
  have found := day_eq day
  constructor
  · intro same
    have days := Fin.val_eq_of_eq same
    simp only [weekdayOf] at days
    rcases near.year with year | year | year
    · exact year
    · have after := newYear_succ (yearOf day)
      rw [year] at days
      unfold offset at found days
      exfalso
      split at after <;> split at found <;> split at days <;> omega
    · have after := newYear_succ (yearOf today)
      rw [year] at after
      unfold offset at found days
      exfalso
      split at after <;> split at found <;> split at days <;> omega
  · intro year
    rw [year, ← found]

end TennisAlerts.Watchers
