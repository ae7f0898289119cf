import TennisAlerts.Watchers.Dashahe
import TennisAlerts.Watchers.Sweep

/-!
# The sweeps of four watchers

What the watchers of the PosPal venues, FSB, TOPS and Dashahe make of their payloads: the
ranges that are listed, the court data, the published slots and the announced courts.
-/

namespace TennisAlerts.Watchers

open TennisAlerts.HostCore TennisAlerts.Intervals

/-- `input_date`: its text, and the day that it names. -/
structure InputDate where
  text : String
  day : Int
  deriving DecidableEq

/-- A watcher with the payloads of one sweep. -/
inductive Source
  | posPal (venue : PosPalVenue) (payloads : List (InputDate × PosPalPayload))
  | fsb (payloads : List (InputDate × PosPalPayload))
  | tops (payloads : List (InputDate × PosPalPayload))
  | dashahe (payload : InspectPayload) (dates : List InputDate)

namespace Source

def venueId : Source → String
  | posPal venue _ => venue.venueId
  | fsb _ => "fsb"
  | tops _ => "tops"
  | dashahe _ _ => "dsh"

def venueName : Source → String
  | posPal venue _ => venue.venueName
  | fsb _ => "泛思博特福中福"
  | tops _ => "TOPS科技园"
  | dashahe _ _ => "大沙河国际网球中心"

/-- A date whose parser raises is skipped. -/
def parsedDates {α : Type} (parse : PosPalPayload → Except Unit α)
    (payloads : List (InputDate × PosPalPayload)) : List (InputDate × α) :=
  payloads.filterMap fun part => (parse part.2).toOption.map fun parsed => (part.1, parsed)

variable (strptime : String → Option Int)

/-- The ranges that the payloads list, by date and court. -/
def listings : Source → Except String (List (InputDate × List (String × List FreeSlot)))
  | posPal venue payloads => .ok (parsedDates (posPalRanges strptime venue) payloads)
  | fsb payloads => .ok (parsedDates (fsbRanges strptime) payloads)
  | tops payloads => .ok (parsedDates (topsRanges strptime) payloads)
  | dashahe payload dates => do
      let parsed ← parseInspectPayload payload
      return dates.map fun date => (date, inspectRanges parsed date.text)

/-- The court data of a sweep; Dashahe gives up where its payload is refused. -/
def courtData : Source → Except String (List (InputDate × CourtAvailability))
  | posPal venue payloads => .ok (parsedDates (parsePosPalAvailability strptime venue) payloads)
  | fsb payloads => .ok (parsedDates (parseFsbAvailability strptime) payloads)
  | tops payloads => .ok (parsedDates (parseTopsAvailability strptime) payloads)
  | dashahe payload dates => do
      let parsed ← parseInspectPayload payload
      dates.mapM fun date => do
        return (date, ← canonicalizeCourtAvailability (inspectRanges parsed date.text))

/-- The slots of a sweep. -/
def webappSlots (data : List (InputDate × CourtAvailability)) : List RawSlot :=
  data.flatMap fun part => flattenCourtSlots part.1.text part.2

/-- Saturday and Sunday; day 0 was a Thursday. -/
def isWeekend (day : Int) : Bool :=
  decide (5 ≤ (day + 3) % 7)

/-- `filter_court_data_for_notification` of the watcher.  PosPal looks at the court names
again, and Dashahe merges again. -/
def filterCourts (source : Source) (day : Int) (courtData : CourtAvailability) : List FreeCourt :=
  match source with
  | posPal venue _ => filterCourtData (isWeekend day) source.venueName
      (courtData.filter fun court => isStandardTennisCourt venue court.1)
  | fsb _ => filterCourtData (isWeekend day) source.venueName courtData
  | tops _ => filterCourtData (isWeekend day) source.venueName courtData
  | dashahe _ _ => filterCourtData (isWeekend day) source.venueName
      (courtData.map fun court => (court.1, mergeTimeRanges court.2))

/-- What a sweep announces.  The weekday of a line is that of its month and day in the current
year. -/
def notificationCourts (source : Source) (weekday : Int → Fin 7)
    (data : List (InputDate × CourtAvailability)) : List NotificationCourt :=
  data.flatMap fun part => (source.filterCourts part.1.day part.2).map fun court =>
    ⟨part.1.day, weekday part.1.day, court⟩

end Source

/-- `build_new_notifications`. -/
def newNotifications (data : List NotificationCourt) (sended : List String) : List String :=
  (data.flatMap fun entry =>
    notifications (weekdayText entry.weekday) (monthDay entry.day) [entry.court]).filter
      fun line => !sended.contains line

/-- `slot_event_key`. -/
def slotEventKey (digests : Digests) (venueId : String) (slot : SlotObservation) : String :=
  digests.sha256 ("|".intercalate
    [venueId, isoDate slot.bookingDate, slot.courtName, slot.startTime, slot.endTime])

/-- A published slot, as the queue reads it. -/
def publishedSlot (digests : Digests) (venueId : String) (slot : SlotObservation) :
    CurrentSlot where
  eventKey := slotEventKey digests venueId slot
  bookingDate := slot.bookingDate
  courtName := slot.courtName.toList
  startTime := slot.startTime.toList
  endTime := slot.endTime.toList

/-- The slots that the host knows after `publish_venue_observation`; a refused observation
leaves none. -/
def publishedSlots (digests : Digests) (fromIsoFormat : String → Option Int) (venueId : String)
    (slots : List RawSlot) : List CurrentSlot :=
  match validateObservation fromIsoFormat ⟨venueId, slots.map normalizeSlot⟩ with
  | .error _ => []
  | .ok observation =>
      (uniqueSlots (slotEventKey digests venueId) observation.slots).map
        (publishedSlot digests venueId)

/-! ## Listed ranges -/

/-- The range lies in one day. -/
def FreeSlot.InDay (slot : FreeSlot) : Prop :=
  slot.start < 1440 ∧ slot.finish ≤ 1440

/-- Every court has ranges, and they lie in one day. -/
def Listed {κ : Type} (courts : List (κ × List FreeSlot)) : Prop :=
  ∀ court ∈ courts, court.2 ≠ [] ∧ ∀ slot ∈ court.2, slot.InDay

theorem listed_nil {κ : Type} : Listed ([] : List (κ × List FreeSlot)) :=
  fun _ member => absurd member List.not_mem_nil

theorem minuteOfDay_lt (moment : Int) : minuteOfDay moment < 1440 := by
  unfold minuteOfDay
  omega

theorem parseSlotTime_inDay {strptime : String → Option Int} {beginDatetime endDatetime : String}
    {slot : FreeSlot} (parsed : parseSlotTime strptime beginDatetime endDatetime = some slot) :
    slot.InDay := by
  simp only [parseSlotTime, Option.bind_eq_bind, Option.bind_eq_some_iff, Option.pure_def,
    Option.some.injEq] at parsed
  obtain ⟨start, -, last, -, finish, -, rfl⟩ := parsed
  refine ⟨minuteOfDay_lt start, ?_⟩
  dsimp only
  split
  · exact le_refl 1440
  · exact Nat.le_of_lt (minuteOfDay_lt finish)

theorem freeRange_inDay {strptime : String → Option Int} {item : RawItem} {slot : FreeSlot}
    (parsed : freeRange strptime item = some slot) : slot.InDay := by
  unfold freeRange at parsed
  split at parsed
  · exact parseSlotTime_inDay parsed
  · exact nomatch parsed

theorem Listed.appendTo {κ : Type} [DecidableEq κ] {key : κ} {slot : FreeSlot}
    (inDay : slot.InDay) {table : List (κ × List FreeSlot)} (listed : Listed table) :
    Listed (appendTo key slot table) := by
  induction table with
  | nil =>
      intro court member
      rw [List.mem_singleton.mp member]
      exact ⟨List.cons_ne_nil slot [], fun other inside => List.mem_singleton.mp inside ▸ inDay⟩
  | cons first rest ih =>
      obtain ⟨⟨filled, all⟩, listed⟩ := List.forall_mem_cons.mp listed
      unfold Watchers.appendTo
      split
      · refine List.forall_mem_cons.mpr ⟨⟨?_, fun other inside => ?_⟩, listed⟩
        · exact List.append_ne_nil_of_right_ne_nil _ (List.cons_ne_nil slot [])
        · rcases List.mem_append.mp inside with inside | inside
          · exact all other inside
          · exact List.mem_singleton.mp inside ▸ inDay
      · exact List.forall_mem_cons.mpr ⟨⟨filled, all⟩, ih listed⟩

theorem key_of_appendTo {κ ρ : Type} [DecidableEq κ] {key : κ} {item : ρ}
    {table : List (κ × List ρ)} {entry : κ × List ρ} (member : entry ∈ appendTo key item table) :
    entry.1 = key ∨ ∃ other ∈ table, entry.1 = other.1 := by
  induction table with
  | nil => exact .inl (congrArg Prod.fst (List.mem_singleton.mp member))
  | cons first rest ih =>
      unfold appendTo at member
      split at member
      · rcases List.mem_cons.mp member with rfl | member
        · exact .inr ⟨first, List.mem_cons_self, rfl⟩
        · exact .inr ⟨entry, List.mem_cons_of_mem first member, rfl⟩
      · rcases List.mem_cons.mp member with rfl | member
        · exact .inr ⟨entry, List.mem_cons_self, rfl⟩
        · exact (ih member).imp_right fun ⟨other, inside, same⟩ =>
            ⟨other, List.mem_cons_of_mem first inside, same⟩

theorem collectRanges_listed {κ : Type} [DecidableEq κ] (strptime : String → Option Int)
    (court : RawItem → Option κ) (slots : List RawItem) :
    Listed (collectRanges strptime court slots) := by
  refine List.foldlRecOn slots (addSlot strptime court) listed_nil fun table listed slot _ => ?_
  unfold addSlot
  split
  · rename_i parsed
    exact listed.appendTo (freeRange_inDay parsed)
  · exact listed

section

variable {strptime : String → Option Int} {payload : PosPalPayload}
  {courts : List (String × List FreeSlot)}

theorem listed_of_posPalRanges {venue : PosPalVenue}
    (found : posPalRanges strptime venue payload = .ok courts) : Listed courts := by
  unfold posPalRanges at found
  cases bookable : directlyBookableSlots strptime payload with
  | error raised =>
      rw [bookable] at found
      exact nomatch found
  | ok slots =>
      rw [bookable] at found
      cases found
      exact collectRanges_listed _ _ slots

theorem listed_of_fsbRanges (found : fsbRanges strptime payload = .ok courts) : Listed courts := by
  unfold fsbRanges at found
  cases bookable : directlyBookableSlots strptime payload with
  | error raised =>
      rw [bookable] at found
      exact nomatch found
  | ok slots =>
      rw [bookable] at found
      cases found
      exact collectRanges_listed _ _ slots

theorem listed_of_topsRanges (found : topsRanges strptime payload = .ok courts) :
    Listed courts := by
  unfold topsRanges at found
  cases bookable : directlyBookableSlots strptime payload with
  | error raised =>
      rw [bookable] at found
      exact nomatch found
  | ok slots =>
      simp only [bookable, bind, Except.bind] at found
      split at found
      · exact nomatch found
      · cases found
        intro court member
        obtain ⟨entry, inside, rfl⟩ := List.mem_map.mp member
        exact collectRanges_listed strptime _ slots entry inside

end

/-! ## The Dashahe payload -/

theorem normalizeTime_le {value : Value} {minute : Nat} (read : normalizeTime value = some minute) :
    minute ≤ 1440 := by
  unfold normalizeTime at read
  split at read
  · simp only [Option.bind_eq_bind, Option.bind_eq_some_iff] at read
    obtain ⟨hours, -, minutes, -, read⟩ := read
    split at read
    · cases read
      exact le_refl 1440
    · split at read
      · rename_i inside
        cases read
        omega
      · exact nomatch read
  · exact nomatch read

theorem parseRange_inDay {raw : Option (Value × Value)} {slot : FreeSlot}
    (parsed : parseRange raw = some slot) : slot.InDay := by
  simp only [parseRange, Option.bind_eq_bind, Option.bind_eq_some_iff] at parsed
  obtain ⟨ends, -, start, -, finish, read, parsed⟩ := parsed
  split at parsed
  · exact nomatch parsed
  · rename_i ordered
    cases parsed
    have late := normalizeTime_le read
    exact ⟨show start < 1440 by omega, late⟩

theorem key_of_assign {κ ρ : Type} [DecidableEq κ] {key : κ} {value : ρ} {table : List (κ × ρ)}
    {entry : κ × ρ} (member : entry ∈ assign key value table) :
    entry.1 = key ∨ ∃ other ∈ table, entry.1 = other.1 := by
  induction table with
  | nil => exact .inl (congrArg Prod.fst (List.mem_singleton.mp member))
  | cons first rest ih =>
      unfold assign at member
      split at member
      · rcases List.mem_cons.mp member with rfl | member
        · exact .inr ⟨first, List.mem_cons_self, rfl⟩
        · exact .inr ⟨entry, List.mem_cons_of_mem first member, rfl⟩
      · rcases List.mem_cons.mp member with rfl | member
        · exact .inr ⟨entry, List.mem_cons_self, rfl⟩
        · exact (ih member).imp_right fun ⟨other, inside, same⟩ =>
            ⟨other, List.mem_cons_of_mem first inside, same⟩

/-- The new value, or one that was there. -/
theorem mem_assign {κ ρ : Type} [DecidableEq κ] {key : κ} {value : ρ} {table : List (κ × ρ)}
    {entry : κ × ρ} (member : entry ∈ assign key value table) :
    entry.2 = value ∨ entry ∈ table := by
  induction table with
  | nil => exact .inl (congrArg Prod.snd (List.mem_singleton.mp member))
  | cons first rest ih =>
      unfold assign at member
      split at member
      · rcases List.mem_cons.mp member with rfl | member
        · exact .inl rfl
        · exact .inr (List.mem_cons_of_mem first member)
      · rcases List.mem_cons.mp member with rfl | member
        · exact .inr List.mem_cons_self
        · exact (ih member).imp_right (List.mem_cons_of_mem first)

theorem addCourt_listed {availability : CourtAvailability} (listed : Listed availability)
    (court : String × Option (List (Option (Value × Value)))) :
    Listed (addCourt availability court) := by
  unfold addCourt
  split
  · exact listed
  · rename_i ranges _
    dsimp only
    split
    · exact listed
    · rename_i named
      intro entry member
      rcases mem_assign member with same | member
      · rw [same]
        refine ⟨fun empty => named (.inr empty), fun slot inside => ?_⟩
        obtain ⟨raw, -, parsed⟩ := List.mem_filterMap.mp inside
        exact parseRange_inDay parsed
      · exact listed entry member

/-- Every parsed day collects its courts. -/
theorem day_of_parseInspectPayload {payload : InspectPayload}
    {parsed : List (String × CourtAvailability)}
    (found : parseInspectPayload payload = .ok parsed) :
    ∀ entry ∈ parsed, ∃ courts, entry.2 = collectCourts courts := by
  unfold parseInspectPayload at found
  split at found
  · exact nomatch found
  · split at found
    · exact nomatch found
    · split at found
      · exact nomatch found
      · rename_i days _
        cases found
        have empty : ∀ entry ∈ ([] : List (String × CourtAvailability)),
            ∃ courts, entry.2 = collectCourts courts :=
          fun _ member => absurd member List.not_mem_nil
        refine List.foldlRecOn (motive := fun parsed => ∀ entry ∈ parsed,
          ∃ courts, entry.2 = collectCourts courts) days addDay empty fun parsed known day _ => ?_
        unfold addDay
        split
        · exact known
        · dsimp only
          split
          · exact known
          · rename_i courts _
            split
            · exact known
            · intro entry member
              rcases mem_assign member with same | member
              · exact ⟨courts, same⟩
              · exact known entry member

theorem inspectRanges_eq {payload : InspectPayload} {parsed : List (String × CourtAvailability)}
    (found : parseInspectPayload payload = .ok parsed) (bookingDate : String) :
    ∃ courts, inspectRanges parsed bookingDate = collectCourts courts := by
  unfold inspectRanges lookup
  cases known : parsed.find? fun entry => decide (entry.1 = bookingDate) with
  | none => exact ⟨[], rfl⟩
  | some entry => exact day_of_parseInspectPayload found entry (List.mem_of_find?_eq_some known)

theorem inspectRanges_listed {payload : InspectPayload} {parsed : List (String × CourtAvailability)}
    (found : parseInspectPayload payload = .ok parsed) (bookingDate : String) :
    Listed (inspectRanges parsed bookingDate) := by
  obtain ⟨courts, same⟩ := inspectRanges_eq found bookingDate
  rw [same, collectCourts]
  exact List.foldlRecOn courts addCourt listed_nil fun _ listed court _ =>
    addCourt_listed listed court

/-! ## Names -/

/-- Every key of the table is the key of a slot. -/
theorem key_of_collectRanges {κ : Type} [DecidableEq κ] {strptime : String → Option Int}
    {court : RawItem → Option κ} {slots : List RawItem} :
    ∀ entry ∈ collectRanges strptime court slots, ∃ slot, court slot = some entry.1 := by
  have empty : ∀ entry ∈ ([] : List (κ × List FreeSlot)), ∃ slot, court slot = some entry.1 :=
    fun _ member => absurd member List.not_mem_nil
  refine List.foldlRecOn (motive := fun table => ∀ entry ∈ table, ∃ slot, court slot = some entry.1)
    slots (addSlot strptime court) empty fun table known slot _ => ?_
  unfold addSlot
  split
  · rename_i key range keyed _
    intro entry member
    rcases key_of_appendTo member with same | ⟨other, inside, same⟩
    · exact ⟨slot, same ▸ keyed⟩
    · exact same ▸ known other inside
  · exact known

theorem str_ne_empty {value : Value} (truthy : value.truthy = true) : value.str ≠ "" := by
  cases value with
  | null => exact nomatch truthy
  | text content => exact bne_iff_ne.mp truthy
  | other _ rendered => exact rendered.2
  | container _ rendered => exact rendered.2

theorem roomName_ne_empty (slot : RawItem) : (roomName slot).str ≠ "" := by
  unfold roomName Value.orElse
  split
  · rename_i truthy
    exact str_ne_empty truthy
  · decide

theorem standard_named {venue : PosPalVenue} {courtName : String}
    (standard : isStandardTennisCourt venue courtName = true) : courtName ≠ "" := by
  rintro rfl
  have blank : strip "" = "" := rfl
  unfold isStandardTennisCourt at standard
  dsimp only at standard
  rw [if_pos (.inl blank)] at standard
  exact nomatch standard

section

variable {strptime : String → Option Int} {payload : PosPalPayload}
  {courts : List (String × List FreeSlot)}

theorem named_of_posPalRanges {venue : PosPalVenue}
    (found : posPalRanges strptime venue payload = .ok courts) :
    ∀ court ∈ courts, court.1 ≠ "" := by
  unfold posPalRanges at found
  cases bookable : directlyBookableSlots strptime payload with
  | error raised =>
      rw [bookable] at found
      exact nomatch found
  | ok slots =>
      rw [bookable] at found
      cases found
      intro court member
      obtain ⟨slot, keyed⟩ := key_of_collectRanges court member
      unfold posPalCourt at keyed
      dsimp only at keyed
      split at keyed
      · rename_i standard
        exact Option.some.inj keyed ▸ standard_named standard
      · exact nomatch keyed

theorem named_of_fsbRanges (found : fsbRanges strptime payload = .ok courts) :
    ∀ court ∈ courts, court.1 ≠ "" := by
  unfold fsbRanges at found
  cases bookable : directlyBookableSlots strptime payload with
  | error raised =>
      rw [bookable] at found
      exact nomatch found
  | ok slots =>
      rw [bookable] at found
      cases found
      intro court member
      obtain ⟨slot, keyed⟩ := key_of_collectRanges court member
      exact Option.some.inj keyed ▸ roomName_ne_empty slot

theorem named_of_topsRanges (found : topsRanges strptime payload = .ok courts) :
    ∀ court ∈ courts, court.1 ≠ "" := by
  unfold topsRanges at found
  cases bookable : directlyBookableSlots strptime payload with
  | error raised =>
      rw [bookable] at found
      exact nomatch found
  | ok slots =>
      simp only [bookable, bind, Except.bind] at found
      split at found
      · exact nomatch found
      · cases found
        intro court member
        obtain ⟨entry, inside, rfl⟩ := List.mem_map.mp member
        obtain ⟨slot, keyed⟩ := key_of_collectRanges entry inside
        exact Option.some.inj keyed ▸ roomName_ne_empty slot

end

theorem named_of_courts {courts : List (String × Option (List (Option (Value × Value))))} :
    ∀ court ∈ collectCourts courts, court.1 ≠ "" := by
  have empty : ∀ court ∈ ([] : CourtAvailability), court.1 ≠ "" :=
    fun _ member => absurd member List.not_mem_nil
  refine List.foldlRecOn (motive := fun table : CourtAvailability => ∀ court ∈ table, court.1 ≠ "")
    courts addCourt empty fun table known court _ => ?_
  unfold addCourt
  split
  · exact known
  · dsimp only
    split
    · exact known
    · rename_i filled
      intro entry member
      rcases key_of_assign member with same | ⟨other, inside, same⟩
      · exact same ▸ fun blank => filled (.inl blank)
      · exact same ▸ known other inside

/-! ## Merged courts -/

/-- The merged ranges of the courts. -/
def merged (courts : List (String × List FreeSlot)) : CourtAvailability :=
  courts.map fun court => (court.1, mergeTimeRanges court.2)

theorem mergeTimeRanges_ne_nil {slots : List FreeSlot} (filled : slots ≠ []) :
    mergeTimeRanges slots ≠ [] := by
  unfold mergeTimeRanges
  rw [ne_eq, List.map_eq_nil_iff]
  exact merge_ne_nil (mt List.map_eq_nil_iff.mp filled)

theorem mergeCourts_eq {courts : List (String × List FreeSlot)} (listed : Listed courts) :
    mergeCourts courts = merged courts := by
  unfold mergeCourts merged
  rw [← List.filterMap_eq_map]
  refine List.filterMap_congr fun court member => ?_
  exact if_neg (mergeTimeRanges_ne_nil (listed court member).1)

theorem eq_mergeCourts {courts data : CourtAvailability}
    (checked : canonicalizeCourtAvailability courts = .ok data) : data = mergeCourts courts := by
  unfold canonicalizeCourtAvailability rejectImplausibleFullDay at checked
  split at checked
  · exact nomatch checked
  · exact (Except.ok.inj checked).symm

namespace Source

variable {strptime : String → Option Int}
  {listings : List (InputDate × List (String × List FreeSlot))}

theorem mem_parsedDates {α : Type} {parse : PosPalPayload → Except Unit α}
    {payloads : List (InputDate × PosPalPayload)} {part : InputDate × α}
    (member : part ∈ parsedDates parse payloads) : ∃ payload, parse payload = .ok part.2 := by
  obtain ⟨source, -, kept⟩ := List.mem_filterMap.mp member
  cases found : parse source.2 with
  | error raised =>
      rw [found] at kept
      exact nomatch kept
  | ok parsed =>
      rw [found] at kept
      cases kept
      exact ⟨source.2, found⟩

/-- Whatever the watcher, its payloads list ranges of one day. -/
theorem listed {source : Source} (found : source.listings strptime = .ok listings) :
    ∀ part ∈ listings, Listed part.2 := by
  intro part member
  cases source with
  | posPal venue payloads =>
      cases found
      obtain ⟨payload, parsed⟩ := mem_parsedDates member
      exact listed_of_posPalRanges parsed
  | fsb payloads =>
      cases found
      obtain ⟨payload, parsed⟩ := mem_parsedDates member
      exact listed_of_fsbRanges parsed
  | tops payloads =>
      cases found
      obtain ⟨payload, parsed⟩ := mem_parsedDates member
      exact listed_of_topsRanges parsed
  | dashahe payload dates =>
      unfold Source.listings at found
      dsimp only at found
      cases parsed : parseInspectPayload payload with
      | error message =>
          rw [parsed] at found
          exact nomatch found
      | ok table =>
          rw [parsed] at found
          cases found
          obtain ⟨date, -, rfl⟩ := List.mem_map.mp member
          exact inspectRanges_listed parsed date.text

theorem parsedDates_map {α β : Type} (change : α → β) (parse : PosPalPayload → Except Unit α)
    (payloads : List (InputDate × PosPalPayload)) :
    parsedDates (fun payload => return change (← parse payload)) payloads =
      (parsedDates parse payloads).map fun part => (part.1, change part.2) := by
  unfold parsedDates
  rw [List.map_filterMap]
  refine List.filterMap_congr fun part _ => ?_
  cases found : parse part.2 with
  | error raised =>
      dsimp only
      rw [found]
      rfl
  | ok parsed =>
      dsimp only
      rw [found]
      rfl

/-- The court data are the merged ranges. -/
theorem courtData_eq {source : Source} (found : source.listings strptime = .ok listings)
    {data : List (InputDate × CourtAvailability)} (parsed : source.courtData strptime = .ok data) :
    data = listings.map fun part => (part.1, merged part.2) := by
  cases source with
  | posPal venue payloads =>
      cases found
      cases parsed
      exact parsedDates_map merged _ payloads
  | fsb payloads =>
      cases found
      cases parsed
      exact parsedDates_map merged _ payloads
  | tops payloads =>
      cases found
      cases parsed
      exact parsedDates_map merged _ payloads
  | dashahe payload dates =>
      unfold Source.listings at found
      unfold Source.courtData at parsed
      dsimp only at found parsed
      cases read : parseInspectPayload payload with
      | error message =>
          rw [read] at found
          exact nomatch found
      | ok table =>
          rw [read] at found parsed
          cases found
          have all := mapM_ok_iff.mp parsed
          clear parsed
          rw [List.map_map]
          induction all with
          | nil => rfl
          | cons first _ ih =>
              rename_i date _ _ _ _
              cases checked : canonicalizeCourtAvailability (inspectRanges table date.text) with
              | error message =>
                  rw [checked] at first
                  exact nomatch first
              | ok courts =>
                  rw [checked] at first
                  cases first
                  rw [List.map_cons, ih, eq_mergeCourts checked,
                    mergeCourts_eq (inspectRanges_listed read date.text)]
                  rfl

/-! ## Announced courts -/

theorem mem_filterCourtData {weekend : Bool} {venueName : String} {courtData : CourtAvailability}
    {entry : FreeCourt} (member : entry ∈ filterCourtData weekend venueName courtData) :
    entry.freeSlotList ≠ [] ∧ ∃ court ∈ courtData, entry.courtName = venueName ++ court.1 ∧
      ∀ slot ∈ entry.freeSlotList, slot ∈ court.2 ∧ slot.start + 60 ≤ slot.finish := by
  obtain ⟨court, inside, found⟩ := List.mem_filterMap.mp member
  dsimp only at found
  split at found
  · exact nomatch found
  · rename_i filled
    cases found
    refine ⟨filled, court, inside, rfl, fun slot free => ?_⟩
    obtain ⟨free, chosen⟩ := List.mem_filter.mp free
    unfold announced at chosen
    exact ⟨free, of_decide_eq_true (Bool.and_eq_true_iff.mp chosen).1⟩

theorem mergeTimeRanges_twice (slots : List FreeSlot) :
    mergeTimeRanges (mergeTimeRanges slots) = mergeTimeRanges slots := by
  have pairs (ranges : List (Nat × Nat)) :
      (ranges.map fun range => (⟨range.1, range.2⟩ : FreeSlot)).map FreeSlot.range = ranges := by
    rw [List.map_map]
    exact List.map_id ranges
  unfold mergeTimeRanges
  rw [pairs, merge_merge]

/-- Whatever the watcher, it announces merged ranges of an hour or more. -/
theorem mem_filterCourts {source : Source} {day : Int} {courts : List (String × List FreeSlot)}
    {entry : FreeCourt} (member : entry ∈ source.filterCourts day (merged courts)) :
    entry.freeSlotList ≠ [] ∧ ∃ court ∈ courts, entry.courtName = source.venueName ++ court.1 ∧
      ∀ slot ∈ entry.freeSlotList, slot ∈ mergeTimeRanges court.2 ∧
        slot.start + 60 ≤ slot.finish := by
  unfold filterCourts at member
  cases source with
  | posPal venue payloads =>
      obtain ⟨filled, court, inside, named, free⟩ := mem_filterCourtData member
      obtain ⟨court, listed, rfl⟩ := List.mem_map.mp (List.mem_filter.mp inside).1
      exact ⟨filled, court, listed, named, free⟩
  | fsb payloads =>
      obtain ⟨filled, court, inside, named, free⟩ := mem_filterCourtData member
      obtain ⟨court, listed, rfl⟩ := List.mem_map.mp inside
      exact ⟨filled, court, listed, named, free⟩
  | tops payloads =>
      obtain ⟨filled, court, inside, named, free⟩ := mem_filterCourtData member
      obtain ⟨court, listed, rfl⟩ := List.mem_map.mp inside
      exact ⟨filled, court, listed, named, free⟩
  | dashahe payload dates =>
      obtain ⟨filled, again, inside, named, free⟩ := mem_filterCourtData member
      obtain ⟨again, twice, rfl⟩ := List.mem_map.mp inside
      obtain ⟨court, listed, rfl⟩ := List.mem_map.mp twice
      refine ⟨filled, court, listed, named, ?_⟩
      simpa only [mergeTimeRanges_twice] using free

/-- No court of a listing is without a name. -/
theorem named {source : Source} (found : source.listings strptime = .ok listings) :
    ∀ part ∈ listings, ∀ court ∈ part.2, court.1 ≠ "" := by
  intro part member court inside
  cases source with
  | posPal venue payloads =>
      cases found
      obtain ⟨payload, parsed⟩ := mem_parsedDates member
      exact named_of_posPalRanges parsed court inside
  | fsb payloads =>
      cases found
      obtain ⟨payload, parsed⟩ := mem_parsedDates member
      exact named_of_fsbRanges parsed court inside
  | tops payloads =>
      cases found
      obtain ⟨payload, parsed⟩ := mem_parsedDates member
      exact named_of_topsRanges parsed court inside
  | dashahe payload dates =>
      unfold Source.listings at found
      dsimp only at found
      cases parsed : parseInspectPayload payload with
      | error message =>
          rw [parsed] at found
          exact nomatch found
      | ok table =>
          rw [parsed] at found
          cases found
          obtain ⟨date, -, rfl⟩ := List.mem_map.mp member
          obtain ⟨courts, same⟩ := inspectRanges_eq parsed date.text
          rw [same] at inside
          exact named_of_courts court inside

end Source

end TennisAlerts.Watchers
