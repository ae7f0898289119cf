import TennisAlerts.Watchers.PosPal

/-!
# The Dashahe payload

`dsh_ydmap_client.py` and `dsh_safety.py`: the ranges that the scraper reports for each
court and date, and what the watcher makes of them.
-/

namespace TennisAlerts.Watchers

open TennisAlerts.HostCore TennisAlerts.Intervals

/-! ## Times -/

/-- What `int` strips. -/
def integerSpace (character : Char) : Bool :=
  pythonSpace character && !(28 ≤ character.toNat && character.toNat ≤ 31)

/-- `int` of a text of two characters; an underscore needs more. -/
def shortInteger (text : List Char) : Option Int :=
  let stripped := ((text.dropWhile integerSpace).reverse.dropWhile integerSpace).reverse
  let natural (digits : List Char) : Option Nat :=
    if digits ≠ [] ∧ digits.all unicodeDigit then some (digitsValue digits) else none
  match stripped with
  | '-' :: digits => (natural digits).map fun value => -(value : Int)
  | '+' :: digits => (natural digits).map Int.ofNat
  | digits => (natural digits).map Int.ofNat

/-- `_normalize_time`, as a minute of the day. -/
def normalizeTime (value : Value) : Option Nat :=
  match (strip (value.orElse (.text "")).str).toList with
  | [a, b, ':', c, d] => do
      let hours ← shortInteger [a, b]
      let minutes ← shortInteger [c, d]
      if hours = 24 ∧ minutes = 0 then return 1440
      else if 0 ≤ hours ∧ hours ≤ 23 ∧ 0 ≤ minutes ∧ minutes ≤ 59 then
        return (hours * 60 + minutes).toNat
      else none
  | _ => none

example : normalizeTime (.text " 7:05") = none := by decide
example : normalizeTime (.text "+7:05") = some 425 := by decide

/-! ## Payload -/

/-- What is read of a day: the ranges of each court, where a value that is no list is `none`,
and so is a range without two ends. -/
structure RawDay where
  date : Value
  courts : Option (List (String × Option (List (Option (Value × Value)))))

/-- What `parse_inspect_payload` reads. -/
structure InspectPayload where
  captcha : Bool
  ok : Bool
  error : Value
  days : Option (List (Option RawDay))

/-- One range; the texts of two times compare as their minutes. -/
def parseRange (raw : Option (Value × Value)) : Option FreeSlot := do
  let (start, finish) ← raw
  let start ← normalizeTime start
  let finish ← normalizeTime finish
  if finish ≤ start then none else return ⟨start, finish⟩

/-- The ranges of a court, unless it has no name or none is left. -/
def addCourt (availability : CourtAvailability)
    (court : String × Option (List (Option (Value × Value)))) : CourtAvailability :=
  match court.2 with
  | none => availability
  | some ranges =>
      let slots := ranges.filterMap parseRange
      if strip court.1 = "" ∨ slots = [] then availability
      else assign (strip court.1) slots availability

/-- The courts of a day. -/
def collectCourts (courts : List (String × Option (List (Option (Value × Value))))) :
    CourtAvailability :=
  courts.foldl addCourt []

/-- The courts of a dated day replace those that were parsed for its date. -/
def addDay (parsed : List (String × CourtAvailability)) (day : Option RawDay) :
    List (String × CourtAvailability) :=
  match day with
  | none => parsed
  | some day =>
      let bookingDate := strip (day.date.orElse (.text "")).str
      match day.courts with
      | none => parsed
      | some courts =>
          if bookingDate.length ≠ 10 then parsed
          else assign bookingDate (collectCourts courts) parsed

/-- `parse_inspect_payload`. -/
def parseInspectPayload (payload : InspectPayload) :
    Except String (List (String × CourtAvailability)) :=
  if payload.captcha then .error "scrape blocked by captcha"
  else if !payload.ok then .error (payload.error.orElse (.text "scrape failed")).str
  else
    match payload.days with
    | none => .error "scrape payload days must be a list"
    | some days => .ok (days.foldl addDay [])

/-! ## Availability -/

/-- `canonicalize_court_availability` of the watcher. -/
def mergeCourts (courtData : CourtAvailability) : CourtAvailability :=
  courtData.filterMap fun court =>
    if mergeTimeRanges court.2 = [] then none else some (court.1, mergeTimeRanges court.2)

/-- A court that is free for twelve hours on end. -/
def suspicious (court : String × List FreeSlot) : Bool :=
  (mergeTimeRanges court.2).any fun range => decide (range.start + 720 ≤ range.finish)

/-- `reject_implausible_full_day`. -/
def rejectImplausibleFullDay (courtData : CourtAvailability) : Except String CourtAvailability :=
  if 6 ≤ (courtData.filter suspicious).length then .error "implausible_full_day_availability"
  else .ok courtData

/-- `canonicalize_court_availability` of `dsh_safety.py`. -/
def canonicalizeCourtAvailability (courtData : CourtAvailability) :
    Except String CourtAvailability :=
  rejectImplausibleFullDay (mergeCourts courtData)

/-- The ranges that a parsed payload lists for a date. -/
def inspectRanges (parsed : List (String × CourtAvailability)) (bookingDate : String) :
    List (String × List FreeSlot) :=
  (lookup bookingDate parsed).getD []

end TennisAlerts.Watchers
