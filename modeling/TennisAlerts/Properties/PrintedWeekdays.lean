import TennisAlerts.Watchers.Calendar
import TennisAlerts.Watchers.Producers

/-!
# Printed weekdays

A line names the month and the day of its booking date, and the weekday of that month and
day in the year of the sweep.
-/

namespace TennisAlerts.Watchers

open TennisAlerts.HostCore

/-- The weekday of `strptime(f"{current_year}-{date}", "%Y-%m-%d")`, where `date` is the month
and the day of a booking date. -/
def printedWeekday (currentYear day : Int) : Option (Fin 7) :=
  let (_, month, dayOfMonth) := civilDate day
  (dateOf currentYear month.toNat dayOfMonth.toNat).map weekdayOf

/-- `build_new_notifications`, and the same loop in `check_and_notify_for_day`, for booking
dates and their courts; `none` where a date raises. -/
def buildNewNotifications (currentYear : Int) (data : List (Int × FreeCourt))
    (sended : List String) : Option (List String) := do
  let courts ← data.mapM fun entry => do
    return (⟨entry.1, ← printedWeekday currentYear entry.1, entry.2⟩ : NotificationCourt)
  return newNotifications courts sended

/-- The courts with given weekdays. -/
def withWeekdays (weekday : Int → Fin 7) (data : List (Int × FreeCourt)) : List NotificationCourt :=
  data.map fun entry => ⟨entry.1, weekday entry.1, entry.2⟩

/-- Neither sweep raises, and both print the weekdays of the booking dates, whatever was sent. -/
def Stable (today today' : Int) (data : List (Int × FreeCourt)) : Prop :=
  ∀ sended, buildNewNotifications (yearOf today) data sended =
      some (newNotifications (withWeekdays weekdayOf data) sended) ∧
    buildNewNotifications (yearOf today') data sended =
      some (newNotifications (withWeekdays weekdayOf data) sended)

/-! ## Printed lines -/

/-- The weekday that a sweep prints for a day that is near. -/
def weekdayFrom (today day : Int) : Fin 7 :=
  weekdayOf (newYear (yearOf today) + offset (leap (yearOf today)) (dayOfYear (dayOfEra day)))

variable {today today' : Int} {data : List (Int × FreeCourt)}

theorem printedWeekday_near {day : Int} (known : 1000 ≤ yearOf today ∧ yearOf today ≤ 9999)
    (near : Near today day) : printedWeekday (yearOf today) day = some (weekdayFrom today day) := by
  simp only [printedWeekday, civilDate_eq, Int.toNat_natCast]
  rw [dateOf_near known near]
  rfl

theorem buildNewNotifications_near (known : 1000 ≤ yearOf today ∧ yearOf today ≤ 9999)
    (near : ∀ entry ∈ data, Near today entry.1) (sended : List String) :
    buildNewNotifications (yearOf today) data sended =
      some (newNotifications (withWeekdays (weekdayFrom today) data) sended) := by
  have courts : (data.mapM fun entry => do
      return (⟨entry.1, ← printedWeekday (yearOf today) entry.1, entry.2⟩ : NotificationCourt)) =
      some (withWeekdays (weekdayFrom today) data) := by
    induction data with
    | nil => rfl
    | cons entry rest ih =>
        obtain ⟨first, near⟩ := List.forall_mem_cons.mp near
        rw [List.mapM_cons, printedWeekday_near known first, ih near]
        rfl
  rw [buildNewNotifications, courts]
  rfl

theorem newNotifications_nil (courts : List NotificationCourt) :
    newNotifications courts [] = courts.flatMap fun entry =>
      notifications (weekdayText entry.weekday) (monthDay entry.day) [entry.court] := by
  unfold newNotifications
  exact List.filter_eq_self.mpr fun line _ => rfl

theorem weekdayText_inj {first second : Fin 7} (same : weekdayText first = weekdayText second) :
    first = second := by
  revert first second
  decide

theorem weekday_of_notification {weekday weekday' date courtName : String} {slot : FreeSlot}
    (same : notification weekday date courtName slot = notification weekday' date courtName slot) :
    weekday = weekday' := by
  have texts := congrArg String.toList same
  simp only [notification, String.toList_append, List.append_assoc] at texts
  have texts := List.append_cancel_left (List.append_cancel_left (List.append_cancel_left texts))
  exact String.toList_inj.mp (List.append_cancel_right texts)

/-- The printed lines show the weekdays. -/
theorem weekdays_of_lines {weekday weekday' : Int → Fin 7}
    (free : ∀ entry ∈ data, entry.2.freeSlotList ≠ [])
    (same : newNotifications (withWeekdays weekday data) [] =
      newNotifications (withWeekdays weekday' data) []) :
    ∀ entry ∈ data, weekday entry.1 = weekday' entry.1 := by
  rw [newNotifications_nil, newNotifications_nil] at same
  induction data with
  | nil => exact fun _ member => absurd member List.not_mem_nil
  | cons entry rest ih =>
      obtain ⟨some, free⟩ := List.forall_mem_cons.mp free
      simp only [withWeekdays, List.map_cons, List.flatMap_cons] at same
      obtain ⟨first, more⟩ := List.append_inj same (by
        simp only [notifications, List.flatMap_cons, List.flatMap_nil, List.append_nil,
          List.length_map])
      refine List.forall_mem_cons.mpr ⟨weekdayText_inj ?_, ih free more⟩
      obtain ⟨slot, inside⟩ := List.exists_mem_of_ne_nil _ some
      simp only [notifications, List.flatMap_cons, List.flatMap_nil, List.append_nil] at first
      exact weekday_of_notification (List.map_inj_left.mp first slot inside)

theorem withWeekdays_congr {weekday weekday' : Int → Fin 7}
    (same : ∀ entry ∈ data, weekday entry.1 = weekday' entry.1) :
    withWeekdays weekday data = withWeekdays weekday' data :=
  List.map_congr_left fun entry member => by rw [same entry member]

theorem printsOwn_iff (known : 1000 ≤ yearOf today ∧ yearOf today ≤ 9999)
    (near : ∀ entry ∈ data, Near today entry.1) (free : ∀ entry ∈ data, entry.2.freeSlotList ≠ []) :
    (∀ sended, buildNewNotifications (yearOf today) data sended =
      some (newNotifications (withWeekdays weekdayOf data) sended)) ↔
      ∀ entry ∈ data, yearOf today = yearOf entry.1 := by
  simp only [buildNewNotifications_near known near, Option.some.injEq]
  constructor
  · intro same entry member
    exact (weekdayOf_near (near entry member)).mp (weekdays_of_lines free (same []) entry member)
  · intro years sended
    rw [withWeekdays_congr fun entry member =>
      (weekdayOf_near (near entry member)).mpr (years entry member)]

/-- Two sweeps print the lines of a booking date alike, with its weekday, exactly when both
run in its year.  Neither raises. -/
theorem stable_iff (known : 1000 ≤ yearOf today ∧ yearOf today ≤ 9999)
    (known' : 1000 ≤ yearOf today' ∧ yearOf today' ≤ 9999)
    (near : ∀ entry ∈ data, Near today entry.1 ∧ Near today' entry.1)
    (free : ∀ entry ∈ data, entry.2.freeSlotList ≠ []) :
    (∀ sended, (buildNewNotifications (yearOf today) data sended).isSome ∧
      (buildNewNotifications (yearOf today') data sended).isSome) ∧
    (Stable today today' data ↔
      ∀ entry ∈ data, yearOf today = yearOf entry.1 ∧ yearOf today' = yearOf entry.1) := by
  have first : ∀ entry ∈ data, Near today entry.1 := fun entry member => (near entry member).1
  have second : ∀ entry ∈ data, Near today' entry.1 := fun entry member => (near entry member).2
  constructor
  · intro sended
    rw [buildNewNotifications_near known first, buildNewNotifications_near known' second]
    exact ⟨rfl, rfl⟩
  · unfold Stable
    rw [forall_and, printsOwn_iff known first free, printsOwn_iff known' second free,
      ← forall₂_and]

/-- One free hour on 2027-01-02. -/
def newYearHour : List (Int × FreeCourt) :=
  [(20820, ⟨"大沙河国际网球中心1号场", [⟨1080, 1140⟩]⟩)]

theorem stable_iff_newYear : Stable 20819 20820 newYearHour :=
  (@stable_iff 20819 20820 newYearHour (by decide) (by decide) (by decide)
    (by decide)).2.mpr (by decide)

/-- On 2026-12-31 the weekday of 2026-01-02 is printed. -/
theorem yearEnd_misprints : ¬Stable 20818 20819 newYearHour := by
  intro stable
  have printed : buildNewNotifications (yearOf 20818) newYearHour [] =
      some ["【大沙河国际网球中心1号场】星期五(01-02)空场: 18:00-19:00"] := by decide
  have own : newNotifications (withWeekdays weekdayOf newYearHour) [] =
      ["【大沙河国际网球中心1号场】星期六(01-02)空场: 18:00-19:00"] := by decide
  have same := (stable []).1
  rw [printed, own] at same
  revert same
  decide

end TennisAlerts.Watchers
