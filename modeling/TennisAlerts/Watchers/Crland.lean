import TennisAlerts.Intervals.Gaps
import TennisAlerts.Tables.Gather
import TennisAlerts.Watchers.PosPal

/-!
# The CRLand matrix

`szw_watcher.py`: the free ranges of a court are what the cells that cannot be reserved
leave of the opening hours.  Times are minutes.
-/

namespace TennisAlerts.Watchers

open TennisAlerts.HostCore TennisAlerts.Intervals TennisAlerts.Tables

/-- `find_available_slots`. -/
def findAvailableSlots (bookedSlots : List (Nat × Nat)) (timeRange : Nat × Nat) :
    List (Nat × Nat) :=
  if bookedSlots = [] then [timeRange] else gaps timeRange.1 timeRange.2 bookedSlots

/-! ## Times of cells -/

/-- `\d{2}:\d{2}` at the front of a text. -/
def clockAt : List Char → Option (List Char)
  | a :: b :: ':' :: c :: d :: _ =>
      if unicodeDigit a && unicodeDigit b && unicodeDigit c && unicodeDigit d then
        some [a, b, ':', c, d]
      else none
  | _ => none

/-- `extract_time_hhmm`; `none` where it gives an empty text. -/
def extractTimeHhmm (timeValue : Value) : Option (List Char) :=
  if timeValue.truthy then timeValue.str.toList.tails.findSome? clockAt else none

example : extractTimeHhmm (.text "2026-11-01 21:30:00") = some "21:30".toList := by decide

/-- The minute of a time, where one can be read. -/
def cellMinute (timeValue : Value) : Option Nat :=
  (extractTimeHhmm timeValue).map timeMinutes

/-! ## Matrix responses -/

/-- What is read of a cell; `isAbleReserve` says whether it is true. -/
structure MatrixCell where
  isAbleReserve : Bool
  startTime : Value
  endTime : Value

/-- The cells of a court. -/
structure MatrixRow where
  fieldUuid : Value
  matrix : List MatrixCell

/-- The result of a successful response: the identifiers and names of the courts, and the
rows. -/
structure MatrixResult where
  fieldList : List (Value × Value)
  matrix : List MatrixRow

/-- `venue_name_infos`; an identifier that is not hashable is raised. -/
def venueNameInfos (courtNamePrefix : String) (result : MatrixResult) :
    Except Unit (List (Value × String)) :=
  if result.fieldList.all fun field => field.1.hashable then
    .ok (result.fieldList.foldl
      (fun names field => assign field.1 (courtNamePrefix ++ field.2.str) names) [])
  else .error ()

/-- The range of a cell that cannot be reserved, where both of its times can be read. -/
def bookedSlot (cell : MatrixCell) : Option (Nat × Nat) :=
  if cell.isAbleReserve then none
  else
    match cellMinute cell.startTime, cellMinute cell.endTime with
    | some start, some finish => some (start, finish)
    | _, _ => none

/-- The court of a row, unless it is not listed or has no name. -/
def rowName (names : List (Value × String)) (row : MatrixRow) : Option String :=
  match lookup row.fieldUuid names with
  | some name => if name = "" then none else some name
  | none => none

/-- What a row adds. -/
def bookedRow (names : List (Value × String)) (row : MatrixRow) :
    Option (String × List (Nat × Nat)) :=
  (rowName names row).map fun name => (name, row.matrix.filterMap bookedSlot)

/-- `booked_court_infos`. -/
def bookedCourtInfos (names : List (Value × String)) (result : MatrixResult) :
    List (String × List (Nat × Nat)) :=
  gather (bookedRow names) result.matrix

/-- The end of `get_free_tennis_court_infos_for_szw`, behind a successful response. -/
def freeCourtInfos (courtNamePrefix : String) (timeRange : Nat × Nat) (result : MatrixResult) :
    Except Unit (List (String × List (Nat × Nat))) := do
  let names ← venueNameInfos courtNamePrefix result
  if result.matrix.all fun row => row.fieldUuid.hashable then
    return (bookedCourtInfos names result).filterMap fun court =>
      let available := findAvailableSlots court.2 timeRange
      if available = [] then none else some (court.1, available)
  else .error ()

end TennisAlerts.Watchers
