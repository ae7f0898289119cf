import TennisAlerts.Watchers.Availability

/-!
# PosPal payloads

`pospal_slots.py` and the parsers of the PosPal venues, of FSB and of TOPS.  Moments are
seconds since 1970 without a time zone; `datetime.strptime` with the format of the
payload is a parameter.
-/

namespace TennisAlerts.Watchers

open TennisAlerts.HostCore

/-! ## Values -/

/-- A JSON value: what the parsers read of it.  Arrays and objects are containers; numbers and
booleans are the others.  As keys those are compared as they are written: `1`, `1.0` and `True`
are three of them here and one key of a dictionary there. -/
inductive Value
  | null
  | text (content : String)
  | other (truthy : Bool) (rendered : {text : String // text ≠ ""})
  | container (truthy : Bool) (rendered : {text : String // text ≠ ""})
  deriving DecidableEq

/-- `bool(value)`. -/
def Value.truthy : Value → Bool
  | .null => false
  | .text content => content != ""
  | .other truthy _ => truthy
  | .container truthy _ => truthy

/-- `str(value)`. -/
def Value.str : Value → String
  | .null => "None"
  | .text content => content
  | .other _ rendered => rendered
  | .container _ rendered => rendered

/-- A value that can be a key of a dictionary. -/
def Value.hashable : Value → Bool
  | .container _ _ => false
  | _ => true

/-- `value or default`. -/
def Value.orElse (value default : Value) : Value :=
  if value.truthy then value else default

/-- `str.split` without a separator. -/
def splitSpaces (text : String) : List (List Char) :=
  (text.toList.splitOnP pythonSpace).filter (· ≠ [])

/-- `_clean_text`. -/
def cleanText : Value → String
  | .null => ""
  | value => " ".intercalate ((splitSpaces value.str).map String.ofList)

/-! ## Bookable slots -/

/-- What is read of a slot or an enrollment; `canApptOrNot` says whether that of `apptInfo`
is `True`. -/
structure RawItem where
  txtClassroomUid : Value
  classroomUid : Value
  classRoomName : Value
  beginDatetime : Value
  endDatetime : Value
  canApptOrNot : Bool

/-- The lists of a payload; a value that is no list has no items. -/
structure PosPalPayload where
  slots : List RawItem
  enrollSlots : List RawItem

/-- `datetime.max`, without its microseconds. -/
def lastMoment : Int :=
  253402300799

/-- A moment and one minute; beyond `datetime.max` it overflows. -/
def plusMinute (moment : Int) : Option Int :=
  if lastMoment < moment + 60 then none else some (moment + 60)

/-- `_court_uid`. -/
def courtUid (item : RawItem) : String :=
  cleanText (item.txtClassroomUid.orElse item.classroomUid)

/-- `_court_name`. -/
def courtName (item : RawItem) : String :=
  cleanText item.classRoomName

variable (strptime : String → Option Int)

/-- `_time_range`.  An overflow is raised. -/
def timeRange (item : RawItem) : Except Unit (Option (Int × Int)) :=
  match item.beginDatetime, item.endDatetime with
  | .text beginRaw, .text endRaw =>
      match strptime beginRaw, strptime endRaw with
      | some start, some last =>
          match plusMinute last with
          | none => .error ()
          | some finish => .ok (if finish ≤ start then none else some (start, finish))
      | _, _ => .ok none
  | _, _ => .ok none

/-- `_EnrollmentInterval`. -/
structure EnrollmentInterval where
  courtUid : String
  courtName : String
  start : Int
  finish : Int

/-- `_enrollment_intervals`. -/
def enrollmentIntervals : List RawItem → Except Unit (List EnrollmentInterval)
  | [] => .ok []
  | item :: rest => do
      let range ← timeRange strptime item
      let more ← enrollmentIntervals rest
      match range with
      | none => return more
      | some (start, finish) =>
          if courtUid item = "" ∧ courtName item = "" then return more
          else return ⟨courtUid item, courtName item, start, finish⟩ :: more

/-- `_same_court`. -/
def sameCourt (slot : RawItem) (enrollment : EnrollmentInterval) : Bool :=
  if courtUid slot ≠ "" ∧ enrollment.courtUid ≠ "" then courtUid slot = enrollment.courtUid
  else courtName slot ≠ "" ∧ enrollment.courtName ≠ "" ∧ courtName slot = enrollment.courtName

/-- `_blocked_by_enrollment`. -/
def blockedByEnrollment (slot : RawItem) (enrollments : List EnrollmentInterval) :
    Except Unit Bool := do
  match ← timeRange strptime slot with
  | none => return false
  | some (start, finish) =>
      return enrollments.any fun enrollment =>
        sameCourt slot enrollment &&
          decide (max start enrollment.start < min finish enrollment.finish)

/-- The loop of `directly_bookable_slots`. -/
def bookableFrom (enrollments : List EnrollmentInterval) : List RawItem → Except Unit (List RawItem)
  | [] => .ok []
  | slot :: rest =>
      if slot.canApptOrNot then do
        let blocked ← blockedByEnrollment strptime slot enrollments
        let more ← bookableFrom enrollments rest
        return if blocked then more else slot :: more
      else bookableFrom enrollments rest

/-- `directly_bookable_slots`. -/
def directlyBookableSlots (payload : PosPalPayload) : Except Unit (List RawItem) := do
  let enrollments ← enrollmentIntervals strptime payload.enrollSlots
  bookableFrom strptime enrollments payload.slots

/-! ## Free ranges -/

/-- The minute of the day of a moment. -/
def minuteOfDay (moment : Int) : Nat :=
  (moment % 86400 / 60).toNat

/-- `parse_slot_time`; `none` where it raises. -/
def parseSlotTime (beginDatetime endDatetime : String) : Option FreeSlot := do
  let start ← strptime beginDatetime
  let last ← strptime endDatetime
  let finish ← plusMinute last
  return ⟨minuteOfDay start, if start / 86400 < finish / 86400 then 1440 else minuteOfDay finish⟩

/-- The range of a slot; one that cannot be parsed is skipped. -/
def freeRange (slot : RawItem) : Option FreeSlot :=
  match slot.beginDatetime, slot.endDatetime with
  | .text beginDatetime, .text endDatetime => parseSlotTime strptime beginDatetime endDatetime
  | _, _ => none

/-- The range of a slot joins those of its court.  `court` gives the key of the court, or
`none` where the slot is skipped. -/
def addSlot {κ : Type} [DecidableEq κ] (court : RawItem → Option κ)
    (table : List (κ × List FreeSlot)) (slot : RawItem) : List (κ × List FreeSlot) :=
  match court slot, freeRange strptime slot with
  | some key, some range => appendTo key range table
  | _, _ => table

/-- The free ranges of the bookable slots by court. -/
def collectRanges {κ : Type} [DecidableEq κ] (court : RawItem → Option κ)
    (slots : List RawItem) : List (κ × List FreeSlot) :=
  slots.foldl (addSlot strptime court) []

/-- `slot.get("classRoomName") or "未知场地"`. -/
def roomName (slot : RawItem) : Value :=
  slot.classRoomName.orElse (.text "未知场地")

/-! ## PosPal venues -/

/-- What the watcher reads of a venue. -/
structure PosPalVenue where
  venueId : String
  venueName : String
  excludedCourtTokens : List String
  allowedCourtNumbers : Option (List Nat)

/-- `int` of decimal digits. -/
def digitsValue (digits : List Char) : Nat :=
  digits.foldl (fun value digit => 10 * value + digitValue digit) 0

/-- `COURT_NUMBER_PATTERN.match`. -/
def courtNumber (name : List Char) : Option Nat :=
  let inner := name.dropWhile pythonSpace
  let digits := inner.takeWhile unicodeDigit
  match (inner.dropWhile unicodeDigit).dropWhile pythonSpace with
  | '号' :: _ => if digits = [] then none else some (digitsValue digits)
  | _ => none

/-- `is_standard_tennis_court`. -/
def isStandardTennisCourt (venue : PosPalVenue) (courtName : String) : Bool :=
  let normalized := strip courtName
  if normalized = "" ∨ ∃ token ∈ venue.excludedCourtTokens, token.toList <:+: normalized.toList then
    false
  else
    match venue.allowedCourtNumbers with
    | none => true
    | some numbers => (courtNumber normalized.toList).any numbers.contains

/-- The key of a slot in `parse_availability` of `pospal_venue.py`. -/
def posPalCourt (venue : PosPalVenue) (slot : RawItem) : Option String :=
  let name := strip (roomName slot).str
  if isStandardTennisCourt venue name then some name else none

/-- The ranges that a payload lists for the courts of a PosPal venue. -/
def posPalRanges (venue : PosPalVenue) (payload : PosPalPayload) :
    Except Unit (List (String × List FreeSlot)) := do
  return collectRanges strptime (posPalCourt venue) (← directlyBookableSlots strptime payload)

/-- `parse_availability` of `pospal_venue.py`. -/
def parsePosPalAvailability (venue : PosPalVenue) (payload : PosPalPayload) :
    Except Unit CourtAvailability := do
  return (← posPalRanges strptime venue payload).map fun court => (court.1, mergeTimeRanges court.2)

/-! ## FSB and TOPS -/

/-- The ranges that a payload lists for the courts of FSB. -/
def fsbRanges (payload : PosPalPayload) : Except Unit (List (String × List FreeSlot)) := do
  return collectRanges strptime (fun slot => some (roomName slot).str)
    (← directlyBookableSlots strptime payload)

/-- `parse_availability` of `fsb_watcher.py`. -/
def parseFsbAvailability (payload : PosPalPayload) : Except Unit CourtAvailability := do
  return (← fsbRanges strptime payload).map fun court => (court.1, mergeTimeRanges court.2)

/-- The ranges that a payload lists for the courts of TOPS, where the value itself is the
key: one that is not hashable is raised. -/
def topsRanges (payload : PosPalPayload) : Except Unit (List (String × List FreeSlot)) := do
  let slots ← directlyBookableSlots strptime payload
  if slots.any fun slot => (freeRange strptime slot).isSome && !(roomName slot).hashable then
    .error ()
  else
    return (collectRanges strptime (fun slot => some (roomName slot)) slots).map fun court =>
      (court.1.str, court.2)

/-- `parse_tops_availability`. -/
def parseTopsAvailability (payload : PosPalPayload) : Except Unit CourtAvailability := do
  return (← topsRanges strptime payload).map fun court => (court.1, mergeTimeRanges court.2)

end TennisAlerts.Watchers
