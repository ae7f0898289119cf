import TennisAlerts.HostCore.Domain
import TennisAlerts.HostCore.Subscriptions
import TennisAlerts.HostCore.Service

/-!
# Whole requests

`validate_subscription` and `validate_observation` of `domain.py` with their texts, and
the identities that are made of what they accept.
-/

namespace TennisAlerts.HostCore

open TennisAlerts.Text

/-! ## Subscriptions -/

/-- `weekdays` of a request; an item is `none` where it is no integer. -/
inductive RawWeekdays
  | missing
  | noSequence
  | items (values : List (Option Int))

/-- What `validate_subscription` reads of a mapping.  `venueIds` is `none` where it is no
sequence; the other texts are empty where the value is missing or false; `durationDays` is
`none` where it is no integer. -/
structure SubscriptionRequest where
  venueIds : Option (List String)
  startTime : String
  endTime : String
  weekdays : RawWeekdays
  termCode : String
  durationDays : Option Int

/-- `SubscriptionInput`, with its texts. -/
structure SubscriptionTexts where
  venueIds : List String
  weekdays : List Int
  startTime : String
  endTime : String
  termCode : String
  deriving DecidableEq

/-- `tuple(sorted(set(items)))` of integers. -/
def sortedIntegers (items : List Int) : List Int :=
  items.dedup.insertionSort (· ≤ ·)

/-- `normalize_weekdays`. -/
def normalizeWeekdays : RawWeekdays → Except String (List Int)
  | .missing => .ok [1, 2, 3, 4, 5, 6, 7]
  | .noSequence => .error "请至少选择一个星期"
  | .items values =>
      if none ∈ values then .error "星期选择无效"
      else
        let weekdays := sortedIntegers (values.filterMap id)
        if weekdays = [] ∨ ∃ weekday ∈ weekdays, weekday < 1 ∨ 7 < weekday then
          .error "星期选择无效"
        else .ok weekdays

/-- `raw_term`. -/
def requestedTerm (value : SubscriptionRequest) : String :=
  let termCode := (strip value.termCode).toLower
  if termCode = "" then
    match value.durationDays with
    | some count => toString count ++ "d"
    | none => "7d"
  else termCode

/-- `validate_subscription`. -/
def validateSubscription (value : SubscriptionRequest) (tier : Tier) :
    Except String SubscriptionTexts :=
  match value.venueIds with
  | none => .error "请至少选择一个场地"
  | some rawVenues =>
      let chosen := sortedSet (rawVenues.map strip)
      if chosen = [] ∨ chosen.length ≠ rawVenues.length ∨ ∃ item ∈ chosen, item ∉ venueIds then
        .error "场地选择无效"
      else do
        validateTimes value.startTime value.endTime
        let weekdays ← normalizeWeekdays value.weekdays
        if termAllowed tier (requestedTerm value) then
          .ok ⟨chosen, weekdays, value.startTime, value.endTime, requestedTerm value⟩
        else if termAllowed .priority (requestedTerm value) then
          .error "该订阅有效期仅限优先用户"
        else .error "订阅有效期无效"

/-- `weekday_mask` of weekdays from 1 to 7. -/
def SubscriptionTexts.weekdayMask (input : SubscriptionTexts) : Nat :=
  Subscriptions.weekdayMask (input.weekdays.map Int.toNat)

/-- `subscription_dedupe_key`. -/
def Digests.subscriptionDedupeKey (digests : Digests) (email : String) (venueIds : List String)
    (startTime endTime : String) (weekdayMask : Nat) : String :=
  digests.sha256 ("|".intercalate
    [email, ",".intercalate (venueIds.insertionSort (· ≤ ·)), startTime, endTime,
      toString weekdayMask])

/-! ## Observations -/

/-- `VENUES`. -/
def venueNames : List (String × String) :=
  [("szw", "深圳湾"), ("gba", "大湾区网球场"), ("dsh_free", "大沙河免费场"),
    ("dsh", "大沙河国际网球中心"), ("sysh", "上越沙河"), ("tops", "TOPS 科技园"),
    ("fsb", "泛思博特福中福"), ("fsb_shenyun", "泛思博特深云"), ("fsb_shekou", "泛思博特蛇口"),
    ("fsb_xinan", "泛思博特新安"), ("fsb_zhengzhong", "泛思博特正中"),
    ("fsb_atuoshan", "泛思博特安托山"), ("fsb_zonglvquan", "泛思博特棕榈泉"),
    ("fsb_guanhu", "泛思博特观湖"), ("fsb_bantian", "泛思博特坂田"), ("fsb_shahe", "泛思博特沙河"),
    ("fsb_baoshui", "泛思博特保税"), ("fsb_nanyou", "泛思博特南油"),
    ("fsb_xinqiao", "泛思博特新桥"), ("fsb_yifangcheng", "泛思博特壹方城"),
    ("fsb_qilin", "泛思博特麒麟"), ("fsb_maozhouhe", "泛思博特茅洲河"),
    ("fft_qianhai", "FFTENNIS前海国际网球中心"), ("ppba", "PICKLE POP宝安"),
    ("tyzx", "深圳市体育中心"), ("jdwx", "金地威新"), ("swjj", "深湾竞界")]

theorem venueNames_ids : venueNames.map Prod.fst = venueIds :=
  rfl

/-- What `validate_observation` reads of a mapping.  A text is empty where the value is
missing or false; `checkedAt` is `none` where it is no time, and an error where its instant
is outside the calendar; `slots` is `none` where it is no list, and an item where it is no
mapping. -/
structure ObservationRequest where
  venueId : String
  venueName : String
  scope : String
  healthy : Bool
  checkedAt : Option (Except String Int)
  error : String
  slots : Option (List (Option RawSlot))

/-- `VenueObservation`, with the texts of its slots. -/
structure ObservationTexts where
  venueId : String
  venueName : String
  scope : String
  healthy : Bool
  checkedAt : Int
  error : Option String
  slots : List SlotObservation
  deriving DecidableEq

/-- `text[:limit]`. -/
def shortened (limit : Nat) (text : String) : String :=
  String.ofList (text.toList.take limit)

/-- `validate_slot` of an item. -/
def validateItem (fromIsoFormat : String → Option Int) :
    Option RawSlot → Except String SlotObservation
  | none => .error "场地数据无效"
  | some value => validateSlot fromIsoFormat value

/-- `validate_observation`; `eventKey` is `slot_event_key`, and `now` the clock. -/
def validateObservationRequest (fromIsoFormat : String → Option Int)
    (eventKey : String → SlotObservation → String) (now : Int) (value : ObservationRequest) :
    Except String ObservationTexts :=
  let venueId := strip value.venueId
  match venueNames.lookup venueId with
  | none => .error "场地数据无效"
  | some name => do
      let venueName := strip (if value.venueName = "" then name else value.venueName)
      let scope := shortened 120 (strip (if value.scope = "" then "default" else value.scope))
      let slots ← (value.slots.getD []).mapM (validateItem fromIsoFormat)
      let error := shortened 300 (strip value.error)
      let checkedAt ← value.checkedAt.getD (.ok now)
      return {
        venueId
        venueName := shortened 100 venueName
        scope := if scope = "" then "default" else scope
        healthy := value.healthy
        checkedAt
        error := if error = "" then none else some error
        slots := uniqueSlots (eventKey venueId) slots }

section

variable {fromIsoFormat : String → Option Int} {eventKey : String → SlotObservation → String}
  {now : Int} {value : ObservationRequest} {observation : ObservationTexts}

/-- What `validate_observation` accepts. -/
theorem validateObservationRequest_ok_iff :
    validateObservationRequest fromIsoFormat eventKey now value = .ok observation ↔
      ∃ name slots checkedAt, venueNames.lookup (strip value.venueId) = some name ∧
        (value.slots.getD []).mapM (validateItem fromIsoFormat) = .ok slots ∧
        value.checkedAt.getD (.ok now) = .ok checkedAt ∧
        observation = {
          venueId := strip value.venueId
          venueName :=
            shortened 100 (strip (if value.venueName = "" then name else value.venueName))
          scope :=
            let scope := shortened 120 (strip (if value.scope = "" then "default" else value.scope))
            if scope = "" then "default" else scope
          healthy := value.healthy
          checkedAt
          error :=
            if shortened 300 (strip value.error) = "" then none
            else some (shortened 300 (strip value.error))
          slots := uniqueSlots (eventKey (strip value.venueId)) slots } := by
  unfold validateObservationRequest
  dsimp only
  cases venueNames.lookup (strip value.venueId) with
  | none => exact ⟨fun found => (nomatch found), fun ⟨_, _, _, found, _⟩ => (nomatch found)⟩
  | some name =>
      cases (value.slots.getD []).mapM (validateItem fromIsoFormat) with
      | error message =>
          exact ⟨fun found => (nomatch found), fun ⟨_, _, _, _, found, _⟩ => (nomatch found)⟩
      | ok slots =>
          cases value.checkedAt.getD (.ok now) with
          | error message =>
              exact ⟨fun found => (nomatch found), fun ⟨_, _, _, _, _, found, _⟩ => (nomatch found)⟩
          | ok checkedAt =>
              constructor
              · rintro ⟨⟩
                exact ⟨name, slots, checkedAt, rfl, rfl, rfl, rfl⟩
              · rintro ⟨_, _, _, ⟨⟩, ⟨⟩, ⟨⟩, rfl⟩
                rfl

end

/-- `as_public_dict`, with sorted keys. -/
def publicJson (slot : SlotObservation) : List Char :=
  "\x7b\"court_name\":".toList ++ (jsonString slot.courtName ++
    (",\"date\":".toList ++ (jsonString (isoDate slot.bookingDate) ++
    (",\"end_time\":".toList ++ (jsonString slot.endTime ++
    (",\"start_time\":".toList ++ (jsonString slot.startTime ++
    "\x7d".toList)))))))

/-- `canonical`, with sorted keys. -/
def canonicalJson (observation : ObservationTexts) : List Char :=
  "\x7b\"error\":".toList ++ (jsonOption observation.error ++
    (",\"healthy\":".toList ++ (jsonBool observation.healthy ++
    (",\"scope\":".toList ++ (jsonString observation.scope ++
    (",\"slots\":".toList ++ (jsonArray publicJson observation.slots ++
    (",\"venue_id\":".toList ++ (jsonString observation.venueId ++
    (",\"venue_name\":".toList ++ (jsonString observation.venueName ++
    "\x7d".toList)))))))))))

/-- `observation_fingerprint`. -/
def Digests.observationFingerprint (digests : Digests) (observation : ObservationTexts) : String :=
  digests.sha256 (String.ofList (canonicalJson observation))

end TennisAlerts.HostCore
