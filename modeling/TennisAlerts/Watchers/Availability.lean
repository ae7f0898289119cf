import TennisAlerts.HostCore.Domain
import TennisAlerts.Intervals.Merge
import TennisAlerts.Watchers.Notification

/-!
# Court availability

What the watchers do with the free ranges of courts: merging, the choice of the ranges
that are announced, and the slots that are published.  Times are minutes of the day;
texts appear where a slot is published.
-/

namespace TennisAlerts.Watchers

open TennisAlerts.HostCore TennisAlerts.Intervals

/-- `CourtAvailability`: courts in the order in which they were met. -/
abbrev CourtAvailability := List (String × List FreeSlot)

def FreeSlot.range (slot : FreeSlot) : Nat × Nat :=
  (slot.start, slot.finish)

/-- `merge_time_ranges`. -/
def mergeTimeRanges (data : List FreeSlot) : List FreeSlot :=
  (merge (data.map FreeSlot.range)).map fun range => ⟨range.1, range.2⟩

/-! ## Dictionaries -/

section

variable {κ ρ : Type} [DecidableEq κ]

/-- `dictionary.setdefault(key, []).append(item)`. -/
def appendTo (key : κ) (item : ρ) : List (κ × List ρ) → List (κ × List ρ)
  | [] => [(key, [item])]
  | entry :: rest =>
      if entry.1 = key then (entry.1, entry.2 ++ [item]) :: rest
      else entry :: appendTo key item rest

/-- `dictionary[key] = value`. -/
def assign (key : κ) (value : ρ) : List (κ × ρ) → List (κ × ρ)
  | [] => [(key, value)]
  | entry :: rest =>
      if entry.1 = key then (entry.1, value) :: rest else entry :: assign key value rest

/-- `dictionary.get(key)`. -/
def lookup (key : κ) (table : List (κ × ρ)) : Option ρ :=
  (table.find? fun entry => decide (entry.1 = key)).map Prod.snd

end

/-! ## Announced ranges -/

/-- The tests of `filter_court_data_for_notification` on one range: at least an hour,
some of it between 18:00 (16:00 on weekends) and 22:00. -/
def announced (weekend : Bool) (slot : FreeSlot) : Bool :=
  let targetStart := if weekend then 960 else 1080
  let overlapEnd := if slot.finish = 1440 then 1320 else slot.finish
  decide (slot.start + 60 ≤ slot.finish) &&
    decide (max slot.start targetStart < min overlapEnd 1320)

/-- `filter_court_data_for_notification`. -/
def filterCourtData (weekend : Bool) (venueName : String) (courtData : CourtAvailability) :
    List FreeCourt :=
  courtData.filterMap fun court =>
    let filtered := court.2.filter (announced weekend)
    if filtered = [] then none else some ⟨venueName ++ court.1, filtered⟩

/-! ## Published slots -/

/-- One slot of `flatten_court_slots`. -/
def flattenSlot (bookingDate courtName : String) (slot : FreeSlot) : Option RawSlot :=
  let startTime := strip (clockText slot.start)
  let endTime := strip (clockText slot.finish)
  let endTime := if endTime = "24:00" then "23:59" else endTime
  if startTime.length ≠ 5 ∨ endTime.length ≠ 5 then none
  else some ⟨bookingDate, courtName, startTime, endTime⟩

/-- `flatten_court_slots`. -/
def flattenCourtSlots (bookingDate : String) (courtData : CourtAvailability) : List RawSlot :=
  courtData.flatMap fun court =>
    if strip court.1 = "" then []
    else court.2.filterMap (flattenSlot bookingDate (strip court.1))

/-- The normalisation of `publish_venue_observation`. -/
def normalizeSlot (slot : RawSlot) : RawSlot :=
  ⟨strip slot.date, strip slot.courtName, strip slot.startTime, strip slot.endTime⟩

/-! ## Texts of minutes -/

theorem padded_visible {value : Nat} (small : value < 100) : Visible (padded 2 value).toList := by
  obtain ⟨a, b, shape, a', b'⟩ := padded_shape small
  rw [shape]
  refine ⟨List.cons_ne_nil a [b], ?_, ?_⟩
  · rintro _ ⟨⟩
    exact digit_visible a'
  · rintro _ ⟨⟩
    exact digit_visible b'

theorem strip_clockText {minute : Nat} (inDay : minute ≤ 1440) :
    strip (clockText minute) = clockText minute := by
  refine Visible.strip ?_
  rw [clockText, String.toList_append, String.toList_append]
  exact (padded_visible (by omega)).append (padded_visible (by omega))

theorem length_clockText {minute : Nat} (inDay : minute ≤ 1440) :
    (clockText minute).length = 5 := by
  obtain ⟨a, b, c, d, shape, -⟩ := clockText_shape inDay
  rw [← String.length_toList, shape]
  rfl

end TennisAlerts.Watchers
