import TennisAlerts.HostCore.Requests
import TennisAlerts.Watchers.Calendar
import TennisAlerts.Watchers.Producers
import TennisAlerts.Properties.Announcements

/-!
# Identities of requests

An event key is a join of texts, one of them with any characters in it; the parts can
still be read back, since the parts before it hold no separator and those behind it have
a fixed length.  The slots of an observation are listed by their keys, so neither their
order nor their repetitions matter.
-/

namespace TennisAlerts.HostCore

open TennisAlerts.Text TennisAlerts.Watchers

/-! ## Texts of numbers and days -/

theorem padded_value (width value : Nat) :
    Nat.ofDigitChars 10 (padded width value).toList 0 = value := by
  rw [padded, String.toList_ofList, Nat.ofDigitChars_append, Nat.ofDigitChars_replicate_zero,
    Nat.mul_zero, Nat.ofDigitChars_ten_toDigits]

theorem padded_inj {width first second : Nat} (same : padded width first = padded width second) :
    first = second := by
  rw [← padded_value width first, same, padded_value]

theorem isoDate_eq (day : Int) :
    isoDate day = padded 4 (yearOf day).toNat ++ "-" ++ monthDay day := by
  simp only [isoDate, monthDay, civilDate_eq, String.append_assoc]

theorem isoDate_inj {day other : Int} (known : firstDay ≤ day) (known' : firstDay ≤ other)
    (same : isoDate day = isoDate other) : day = other := by
  have texts := congrArg String.toList same
  rw [isoDate_eq, isoDate_eq] at texts
  simp only [String.toList_append] at texts
  obtain ⟨years, dates⟩ := List.append_inj' texts
    ((monthDay_length day).trans (monthDay_length other).symm)
  have years := padded_inj (String.toList_inj.mp (List.append_cancel_right years))
  have low := yearOf_nonneg known
  have low' := yearOf_nonneg known'
  exact day_unique (by omega) (place_of_monthDay (String.toList_inj.mp dates))

/-! ## Joined texts -/

/-- No separator. -/
def Unbroken (mark : Char) (text : String) : Prop :=
  mark ∉ text.toList

instance (mark : Char) (text : String) : Decidable (Unbroken mark text) :=
  inferInstanceAs (Decidable (mark ∉ text.toList))

theorem toList_join (first : String) (rest : List String) (filled : rest ≠ []) :
    ("|".intercalate (first :: rest)).toList =
    first.toList ++ '|' :: ("|".intercalate rest).toList := by
  cases rest with
  | nil => exact absurd rfl filled
  | cons second rest =>
      rw [String.intercalate_cons_cons, String.toList_append, String.toList_append]
      exact List.append_assoc _ _ _

theorem isoDate_unbroken (day : Int) : Unbroken '|' (isoDate day) := by
  obtain ⟨low, high⟩ := place_range day
  intro inside
  rw [isoDate_eq, monthDay_eq] at inside
  simp only [String.toList_append, List.mem_append] at inside
  rcases inside with (digit | mark) | (digit | mark) | digit
  · exact absurd (padded_digits digit) (by decide)
  · exact absurd mark (by decide)
  · exact absurd (padded_digits digit) (by decide)
  · exact absurd mark (by decide)
  · exact absurd (padded_digits digit) (by decide)

theorem venueIds_unbroken : ∀ venueId ∈ venueIds, Unbroken '|' venueId ∧ Unbroken ',' venueId := by
  decide

theorem length_of_timePattern {text : List Char} (matched : timePattern text = true) :
    text.length = 5 := by
  unfold timePattern at matched
  split at matched
  · rfl
  · exact absurd matched (by decide)

theorem length_of_parseTime {text : String} {minute : Nat}
    (parsed : parseTime text.toList = .ok minute) : text.toList.length = 5 :=
  length_of_timePattern (parseTime_ok_iff.mp parsed).1

/-! ## Event keys -/

/-- The text behind an event key. -/
def keyText (venueId : String) (slot : SlotObservation) : String :=
  "|".intercalate
    [venueId, isoDate slot.bookingDate, slot.courtName, slot.startTime, slot.endTime]

/-- What the checks of a slot leave. -/
structure Valid (slot : SlotObservation) : Prop where
  known : firstDay ≤ slot.bookingDate
  start : slot.startTime.toList.length = 5
  finish : slot.endTime.toList.length = 5

theorem keyText_inj {venueId venueId' : String} {slot slot' : SlotObservation}
    (member : venueId ∈ venueIds) (member' : venueId' ∈ venueIds) (valid : Valid slot)
    (valid' : Valid slot') (same : keyText venueId slot = keyText venueId' slot') :
    venueId = venueId' ∧ slot = slot' := by
  have texts := congrArg String.toList same
  simp only [keyText] at texts
  rw [toList_join _ _ (by simp), toList_join _ _ (by simp), toList_join _ _ (by simp),
    toList_join _ _ (by simp), String.intercalate_singleton, toList_join _ _ (by simp),
    toList_join _ _ (by simp), toList_join _ _ (by simp), toList_join _ _ (by simp),
    String.intercalate_singleton] at texts
  obtain ⟨venues, texts⟩ := split_unique (venueIds_unbroken venueId member).1
    (venueIds_unbroken venueId' member').1 texts
  obtain ⟨dates, texts⟩ := split_unique (isoDate_unbroken _) (isoDate_unbroken _) texts
  obtain ⟨courts, times⟩ := List.append_inj' texts (by
    simp only [List.length_cons, List.length_append, valid.start, valid.finish, valid'.start,
      valid'.finish])
  obtain ⟨starts, finishes⟩ := List.append_inj (List.tail_eq_of_cons_eq times)
    (valid.start.trans valid'.start.symm)
  refine ⟨String.toList_inj.mp venues, ?_⟩
  cases slot
  cases slot'
  simp only [SlotObservation.mk.injEq]
  exact ⟨isoDate_inj valid.known valid'.known (String.toList_inj.mp dates),
    String.toList_inj.mp courts, String.toList_inj.mp starts,
    String.toList_inj.mp (List.tail_eq_of_cons_eq finishes)⟩

/-! ## Dedupe keys -/

theorem toList_commas (first : String) {rest : List String} (filled : rest ≠ []) :
    (",".intercalate (first :: rest)).toList =
    first.toList ++ ',' :: (",".intercalate rest).toList := by
  cases rest with
  | nil => exact absurd rfl filled
  | cons second rest =>
      rw [String.intercalate_cons_cons, String.toList_append, String.toList_append]
      exact List.append_assoc _ _ _

/-- Joined texts without commas can be read back. -/
theorem commas_inj {first second : List String} (filled : first ≠ []) (filled' : second ≠ [])
    (unbroken : ∀ text ∈ first, Unbroken ',' text) (unbroken' : ∀ text ∈ second, Unbroken ',' text)
    (same : ",".intercalate first = ",".intercalate second) : first = second := by
  induction first generalizing second with
  | nil => exact absurd rfl filled
  | cons text rest ih =>
      cases second with
      | nil => exact absurd rfl filled'
      | cons text' rest' =>
          have plain := unbroken text List.mem_cons_self
          have plain' := unbroken' text' List.mem_cons_self
          have texts := congrArg String.toList same
          by_cases more : rest = []
          · by_cases more' : rest' = []
            · subst more more'
              rw [String.intercalate_singleton, String.intercalate_singleton] at same
              rw [same]
            · rw [more, String.intercalate_singleton, toList_commas _ more'] at texts
              refine absurd ?_ plain
              rw [texts]
              exact List.mem_append_right _ List.mem_cons_self
          · by_cases more' : rest' = []
            · rw [more', String.intercalate_singleton, toList_commas _ more] at texts
              refine absurd ?_ plain'
              rw [← texts]
              exact List.mem_append_right _ List.mem_cons_self
            · rw [toList_commas _ more, toList_commas _ more'] at texts
              obtain ⟨fronts, rests⟩ := split_unique plain plain' texts
              rw [String.toList_inj.mp fronts, ih more more'
                (fun text member => unbroken text (List.mem_cons_of_mem _ member))
                (fun text member => unbroken' text (List.mem_cons_of_mem _ member))
                (String.toList_inj.mp rests)]

theorem commas_unbroken {texts : List String} (unbroken : ∀ text ∈ texts, Unbroken '|' text) :
    Unbroken '|' (",".intercalate texts) := by
  induction texts with
  | nil => exact List.not_mem_nil
  | cons text rest ih =>
      have plain := unbroken text List.mem_cons_self
      by_cases more : rest = []
      · rw [more, String.intercalate_singleton]
        exact plain
      · intro inside
        rw [toList_commas _ more, List.mem_append, List.mem_cons] at inside
        rcases inside with inside | mark | inside
        · exact plain inside
        · exact absurd mark (by decide)
        · exact ih (fun text member => unbroken text (List.mem_cons_of_mem _ member)) inside

theorem toString_unbroken (value : Nat) : Unbroken '|' (toString value) := by
  intro inside
  rw [Nat.toString_eq_ofList_toDigits, String.toList_ofList] at inside
  exact absurd (Nat.isDigit_of_mem_toDigits (by decide) (by decide) inside) (by decide)

theorem toString_inj {first second : Nat} (same : toString first = toString second) :
    first = second := by
  rw [Nat.toString_eq_ofList_toDigits, Nat.toString_eq_ofList_toDigits, String.ofList_inj] at same
  rw [← Nat.ofDigitChars_ten_toDigits (n := first), same, Nat.ofDigitChars_ten_toDigits]

/-- What the checks of a subscription leave of its venues and times. -/
structure ValidTexts (venues : List String) (startTime endTime : String) : Prop where
  chosen : venues ≠ []
  known : ∀ venueId ∈ venues, venueId ∈ venueIds
  start : startTime.toList.length = 5
  finish : endTime.toList.length = 5

/-- The text behind a dedupe key. -/
def dedupeText (email : String) (venues : List String) (startTime endTime : String) (mask : Nat) :
    String :=
  "|".intercalate
    [email, ",".intercalate (venues.insertionSort (· ≤ ·)), startTime, endTime, toString mask]

theorem dedupeText_inj {email email' start start' finish finish' : String}
    {venues venues' : List String} {mask mask' : Nat} (valid : ValidTexts venues start finish)
    (valid' : ValidTexts venues' start' finish')
    (same : dedupeText email venues start finish mask =
      dedupeText email' venues' start' finish' mask') :
    email = email' ∧ (∀ venueId, venueId ∈ venues ↔ venueId ∈ venues') ∧ start = start' ∧
      finish = finish' ∧ mask = mask' := by
  have sorted {venues : List String} {start finish : String}
      (valid : ValidTexts venues start finish) :
      venues.insertionSort (· ≤ ·) ≠ [] ∧
        ∀ venueId ∈ venues.insertionSort (· ≤ ·), Unbroken '|' venueId ∧ Unbroken ',' venueId := by
    constructor
    · intro empty
      have perm := List.perm_insertionSort (· ≤ ·) venues
      rw [empty] at perm
      exact valid.chosen perm.symm.eq_nil
    · intro venueId member
      exact venueIds_unbroken venueId (valid.known venueId ((List.mem_insertionSort _).mp member))
  obtain ⟨filled, plain⟩ := sorted valid
  obtain ⟨filled', plain'⟩ := sorted valid'
  have texts := congrArg String.toList same
  simp only [dedupeText] at texts
  rw [toList_join _ _ (by simp), toList_join _ _ (by simp), toList_join _ _ (by simp),
    toList_join _ _ (by simp), String.intercalate_singleton, toList_join _ _ (by simp),
    toList_join _ _ (by simp), toList_join _ _ (by simp), toList_join _ _ (by simp),
    String.intercalate_singleton] at texts
  -- the mask and the times are read off the end, then the venues
  have regroup (email venues start finish mask : List Char) :
      email ++ '|' :: (venues ++ '|' :: (start ++ '|' :: (finish ++ '|' :: mask))) =
        (email ++ '|' :: venues ++ ('|' :: (start ++ '|' :: finish))) ++ '|' :: mask := by
    simp only [List.append_assoc, List.cons_append]
  rw [regroup, regroup] at texts
  obtain ⟨texts, masks⟩ :=
    split_last_unique (toString_unbroken mask) (toString_unbroken mask') texts
  obtain ⟨texts, times⟩ := List.append_inj' texts (by
    simp only [List.length_cons, List.length_append, valid.start, valid.finish, valid'.start,
      valid'.finish])
  obtain ⟨starts, finishes⟩ := List.append_inj (List.tail_eq_of_cons_eq times)
    (valid.start.trans valid'.start.symm)
  obtain ⟨emails, chosen⟩ := split_last_unique
    (commas_unbroken fun venueId member => (plain venueId member).1)
    (commas_unbroken fun venueId member => (plain' venueId member).1) texts
  have lists := commas_inj filled filled' (fun venueId member => (plain venueId member).2)
    (fun venueId member => (plain' venueId member).2) (String.toList_inj.mp chosen)
  refine ⟨String.toList_inj.mp emails, fun venueId => ?_, String.toList_inj.mp starts,
    String.toList_inj.mp (List.tail_eq_of_cons_eq finishes),
    toString_inj (String.toList_inj.mp masks)⟩
  rw [← List.mem_insertionSort (· ≤ ·), lists, List.mem_insertionSort]

/-! ## Slots by their keys -/

section

variable {key : SlotObservation → String} {slots : List SlotObservation}

/-- A slot is found by its key. -/
theorem found_by_key
    (apart : ∀ slot ∈ slots, ∀ other ∈ slots, key slot = key other → slot = other)
    {slot : SlotObservation} (member : slot ∈ slots) :
    (slots.reverse.find? fun other => key other = key slot) = some slot := by
  cases found : slots.reverse.find? fun other => decide (key other = key slot) with
  | none =>
      have missing := List.find?_eq_none.mp found slot (List.mem_reverse.mpr member)
      exact absurd rfl (of_decide_eq_false (Bool.eq_false_iff.mpr missing))
  | some other =>
      have chosen := List.find?_some found
      have same : key other = key slot := of_decide_eq_true chosen
      rw [apart other (List.mem_reverse.mp (List.mem_of_find?_eq_some found)) slot member same]

/-- Distinct slots keep their places under distinct keys. -/
theorem mem_uniqueSlots
    (apart : ∀ slot ∈ slots, ∀ other ∈ slots, key slot = key other → slot = other)
    {slot : SlotObservation} : slot ∈ uniqueSlots key slots ↔ slot ∈ slots := by
  unfold uniqueSlots
  rw [List.mem_filterMap]
  constructor
  · rintro ⟨text, -, found⟩
    exact List.mem_reverse.mp (List.mem_of_find?_eq_some found)
  · intro member
    exact ⟨key slot, mem_sortedSet.mpr (List.mem_map_of_mem member), found_by_key apart member⟩

/-- The order of the slots and their repetitions do not matter. -/
theorem uniqueSlots_congr
    (apart : ∀ slot ∈ slots, ∀ other ∈ slots, key slot = key other → slot = other)
    {slots' : List SlotObservation} (same : ∀ slot, slot ∈ slots ↔ slot ∈ slots') :
    uniqueSlots key slots = uniqueSlots key slots' := by
  have keys : sortedSet (slots.map key) = sortedSet (slots'.map key) :=
    sortedSet_congr fun text => by simp only [List.mem_map, same]
  unfold uniqueSlots
  rw [keys]
  refine List.filterMap_congr fun text member => ?_
  obtain ⟨slot, inside, rfl⟩ := List.mem_map.mp (mem_sortedSet.mp member)
  rw [found_by_key apart ((same slot).mpr inside), found_by_key _ inside]
  simpa only [same] using apart

end

/-! ## Validated observations -/

variable {digests : Digests} {fromIsoFormat : String → Option Int}

/-- `date.fromisoformat` gives dates from `date.min` on. -/
def Calendar (fromIsoFormat : String → Option Int) : Prop :=
  ∀ text day, fromIsoFormat text = some day → firstDay ≤ day

theorem valid_of_validateSlot (calendar : Calendar fromIsoFormat) {raw : RawSlot}
    {slot : SlotObservation} (accepted : validateSlot fromIsoFormat raw = .ok slot) :
    Valid slot := by
  obtain ⟨day, start, finish, dated, -, -, first, last, -, rfl⟩ := validateSlot_ok_iff.mp accepted
  exact ⟨calendar _ day dated, length_of_parseTime first, length_of_parseTime last⟩

theorem valid_of_validateItem (calendar : Calendar fromIsoFormat) {raw : Option RawSlot}
    {slot : SlotObservation} (accepted : validateItem fromIsoFormat raw = .ok slot) :
    Valid slot := by
  cases raw with
  | none => exact nomatch accepted
  | some raw => exact valid_of_validateSlot calendar accepted

/-- Valid slots of a venue have different event keys. -/
theorem slotEventKey_apart (collisionFree : Function.Injective digests.sha256) {venueId : String}
    (member : venueId ∈ venueIds) {slots : List SlotObservation}
    (valid : ∀ slot ∈ slots, Valid slot) :
    ∀ slot ∈ slots, ∀ other ∈ slots,
      slotEventKey digests venueId slot = slotEventKey digests venueId other → slot = other :=
  fun slot inside other inside' same =>
    (keyText_inj member member (valid slot inside) (valid other inside') (collisionFree same)).2

theorem mem_venueIds {venueId name : String} (found : venueNames.lookup venueId = some name) :
    venueId ∈ venueIds := by
  obtain ⟨front, back, same, -⟩ := List.lookup_eq_some_iff.mp found
  rw [← venueNames_ids, same]
  exact List.mem_map_of_mem (List.mem_append_right front List.mem_cons_self)

/-- The slots and the fingerprint depend on the members of the list only. -/
theorem validate_congr (collisionFree : Function.Injective digests.sha256)
    (calendar : Calendar fromIsoFormat) {value : ObservationRequest}
    {items items' : List (Option RawSlot)} (same : ∀ item, item ∈ items ↔ item ∈ items')
    {now now' : Int} {observation : ObservationTexts}
    (accepted : validateObservationRequest fromIsoFormat (slotEventKey digests) now
      { value with slots := some items } = .ok observation) :
    ∃ observation', validateObservationRequest fromIsoFormat (slotEventKey digests) now'
        { value with slots := some items' } = .ok observation' ∧
      observation'.slots = observation.slots ∧
      digests.observationFingerprint observation' = digests.observationFingerprint observation := by
  obtain ⟨name, slots, checkedAt, named, found, checked, built⟩ :=
    validateObservationRequest_ok_iff.mp accepted
  obtain ⟨slots', found'⟩ := @mapM_ok_of_forall _ _ _ (validateItem fromIsoFormat) items'
    fun item member => by
      obtain ⟨slot, -, given⟩ := exists_of_forall₂' (mapM_ok_iff.mp found) ((same item).mpr member)
      exact ⟨slot, given⟩
  have checked' : ∃ checkedAt', value.checkedAt.getD (.ok now') = .ok checkedAt' := by
    cases given : value.checkedAt with
    | none => exact ⟨now', rfl⟩
    | some instant =>
        dsimp only at checked
        rw [given] at checked
        exact ⟨checkedAt, checked⟩
  obtain ⟨checkedAt', checked'⟩ := checked'
  have members : ∀ slot, slot ∈ slots ↔ slot ∈ slots' := fun slot => by
    rw [mem_of_mapM found, mem_of_mapM found']
    exact exists_congr fun item => and_congr_left fun _ => same item
  have valid : ∀ slot ∈ slots, Valid slot := fun slot member => by
    obtain ⟨item, -, given⟩ := (mem_of_mapM found).mp member
    exact valid_of_validateItem calendar given
  have listed := uniqueSlots_congr
    (slotEventKey_apart collisionFree (mem_venueIds named) valid) members
  refine ⟨{ observation with checkedAt := checkedAt' }, ?_, rfl, rfl⟩
  refine validateObservationRequest_ok_iff.mpr
    ⟨name, slots', checkedAt', named, found', checked', ?_⟩
  rw [built]
  dsimp only
  rw [listed]

/-! ## Validated subscriptions -/

theorem valid_of_validateSubscription {value : SubscriptionRequest} {tier : Tier}
    {input : SubscriptionTexts} (accepted : validateSubscription value tier = .ok input) :
    ValidTexts input.venueIds input.startTime input.endTime := by
  unfold validateSubscription at accepted
  cases given : value.venueIds with
  | none =>
      rw [given] at accepted
      exact nomatch accepted
  | some rawVenues =>
      rw [given] at accepted
      dsimp only at accepted
      split at accepted
      · exact nomatch accepted
      · rename_i chosen
        push Not at chosen
        cases timed : validateTimes value.startTime value.endTime with
        | error message =>
            rw [timed] at accepted
            exact nomatch accepted
        | ok done =>
            rw [timed] at accepted
            obtain ⟨start, finish, first, last, -⟩ := validateTimes_ok_iff.mp timed
            cases named : normalizeWeekdays value.weekdays with
            | error message =>
                rw [named] at accepted
                exact nomatch accepted
            | ok weekdays =>
                rw [named] at accepted
                simp only [bind, Except.bind] at accepted
                split at accepted
                · cases accepted
                  exact ⟨chosen.1, fun venueId member => chosen.2.2 venueId member,
                    length_of_parseTime first, length_of_parseTime last⟩
                · split at accepted <;> exact nomatch accepted

/-! ## Fingerprints -/

/-- The texts of a published slot. -/
def slotTexts (slot : SlotObservation) : String × String × String × String :=
  (slot.courtName, isoDate slot.bookingDate, slot.endTime, slot.startTime)

def textsJson (texts : String × String × String × String) : List Char :=
  "\x7b\"court_name\":".toList ++ (jsonString texts.1 ++
    (",\"date\":".toList ++ (jsonString texts.2.1 ++
    (",\"end_time\":".toList ++ (jsonString texts.2.2.1 ++
    (",\"start_time\":".toList ++ (jsonString texts.2.2.2 ++ "\x7d".toList)))))))

theorem delimited_textsJson : Delimited textsJson :=
  (delimited_jsonString.pair
    ((delimited_jsonString.pair
      ((delimited_jsonString.pair
        ((delimited_jsonString.before _).after _)).after _)).after _)).after _

theorem textsJson_visible (texts : String × String × String × String) (rest other : List Char) :
    textsJson texts ++ rest ≠ ']' :: other :=
  append_visible (by decide) (by decide) _ _ _

theorem slotTexts_inj {slot slot' : SlotObservation} (valid : Valid slot) (valid' : Valid slot')
    (same : slotTexts slot = slotTexts slot') : slot = slot' := by
  cases slot
  cases slot'
  simp only [slotTexts, Prod.mk.injEq] at same
  obtain ⟨rfl, dates, rfl, rfl⟩ := same
  cases isoDate_inj valid.known valid'.known dates
  rfl

/-- The canonical texts of two observations agree on their slots. -/
theorem slots_of_canonicalJson {first second : ObservationTexts}
    (same : canonicalJson first = canonicalJson second) :
    first.slots.map slotTexts = second.slots.map slotTexts := by
  have arrays (slots : List SlotObservation) :
      jsonArray publicJson slots = jsonArray textsJson (slots.map slotTexts) :=
    jsonArray_map textsJson slotTexts slots
  unfold canonicalJson at same
  obtain ⟨-, texts⟩ := delimited_jsonOption (List.append_cancel_left same)
  obtain ⟨-, texts⟩ := delimited_jsonBool (List.append_cancel_left texts)
  obtain ⟨-, texts⟩ := delimited_jsonString (List.append_cancel_left texts)
  have texts := List.append_cancel_left texts
  rw [arrays, arrays] at texts
  exact (delimited_jsonArray delimited_textsJson textsJson_visible texts).1

/-- The slots of a validated observation are valid. -/
theorem valid_of_observation (calendar : Calendar fromIsoFormat)
    {eventKey : String → SlotObservation → String} {now : Int} {value : ObservationRequest}
    {observation : ObservationTexts}
    (accepted : validateObservationRequest fromIsoFormat eventKey now value = .ok observation) :
    ∀ slot ∈ observation.slots, Valid slot := by
  obtain ⟨name, slots, checkedAt, -, found, -, rfl⟩ := validateObservationRequest_ok_iff.mp accepted
  intro slot member
  obtain ⟨key, -, chosen⟩ := List.mem_filterMap.mp member
  obtain ⟨item, -, given⟩ :=
    (mem_of_mapM found).mp (List.mem_reverse.mp (List.mem_of_find?_eq_some chosen))
  exact valid_of_validateItem calendar given

theorem slots_subset {first second : ObservationTexts} (valid : ∀ slot ∈ first.slots, Valid slot)
    (valid' : ∀ slot ∈ second.slots, Valid slot)
    (same : first.slots.map slotTexts = second.slots.map slotTexts) :
    ∀ slot ∈ first.slots, slot ∈ second.slots := by
  intro slot member
  have written := List.mem_map_of_mem (f := slotTexts) member
  rw [same] at written
  obtain ⟨other, inside, texts⟩ := List.mem_map.mp written
  rwa [← slotTexts_inj (valid' other inside) (valid slot member) texts]

/-! ## Faithful identities -/

/-- Event keys, dedupe keys and fingerprints stand for what they are made of. -/
theorem identities_faithful (collisionFree : Function.Injective digests.sha256)
    (calendar : Calendar fromIsoFormat) :
    (∀ venueId ∈ venueIds, ∀ venueId' ∈ venueIds, ∀ raw raw' slot slot',
      validateSlot fromIsoFormat raw = .ok slot → validateSlot fromIsoFormat raw' = .ok slot' →
      slotEventKey digests venueId slot = slotEventKey digests venueId' slot' →
      venueId = venueId' ∧ slot = slot') ∧
    (∀ email email' value value' tier tier' input input',
      validateSubscription value tier = .ok input → validateSubscription value' tier' = .ok input' →
      digests.subscriptionDedupeKey email input.venueIds input.startTime input.endTime
          input.weekdayMask =
        digests.subscriptionDedupeKey email' input'.venueIds input'.startTime input'.endTime
          input'.weekdayMask →
      email = email' ∧ (∀ venueId, venueId ∈ input.venueIds ↔ venueId ∈ input'.venueIds) ∧
        input.startTime = input'.startTime ∧ input.endTime = input'.endTime ∧
        input.weekdayMask = input'.weekdayMask) ∧
    (∀ (value : ObservationRequest) items items' now now' observation,
      (∀ item, item ∈ items ↔ item ∈ items') →
      validateObservationRequest fromIsoFormat (slotEventKey digests) now
        { value with slots := some items } = .ok observation →
      ∃ observation', validateObservationRequest fromIsoFormat (slotEventKey digests) now'
          { value with slots := some items' } = .ok observation' ∧
        observation'.slots = observation.slots ∧
        digests.observationFingerprint observation' = digests.observationFingerprint observation) ∧
    (∀ value value' now now' observation observation',
      validateObservationRequest fromIsoFormat (slotEventKey digests) now value = .ok observation →
      validateObservationRequest fromIsoFormat (slotEventKey digests) now' value' =
        .ok observation' →
      digests.observationFingerprint observation = digests.observationFingerprint observation' →
      ∀ slot, slot ∈ observation.slots ↔ slot ∈ observation'.slots) := by
  refine ⟨?_, ?_, ?_, ?_⟩
  · intro venueId member venueId' member' raw raw' slot slot' accepted accepted' same
    exact keyText_inj member member' (valid_of_validateSlot calendar accepted)
      (valid_of_validateSlot calendar accepted') (collisionFree same)
  · intro email email' value value' tier tier' input input' accepted accepted' same
    exact dedupeText_inj (valid_of_validateSubscription accepted)
      (valid_of_validateSubscription accepted') (collisionFree same)
  · intro value items items' now now' observation same accepted
    exact validate_congr collisionFree calendar same accepted
  · intro value value' now now' observation observation' accepted accepted' same slot
    have texts := slots_of_canonicalJson (String.ofList_inj.mp (collisionFree same))
    have valid := valid_of_observation calendar accepted
    have valid' := valid_of_observation calendar accepted'
    exact ⟨slots_subset valid valid' texts slot, slots_subset valid' valid texts.symm slot⟩

/-- Dates from 2026-11-01 on. -/
def november (text : String) : Option Int :=
  if text = "2026-11-01" then some 20758 else none

theorem november_calendar : Calendar november := by
  intro text day found
  unfold november at found
  split at found
  · cases found
    decide
  · exact nomatch found

/-- An hour of a court on that day, as an observation lists it. -/
def novemberItem (court : String) : RawSlot :=
  ⟨"2026-11-01", court, "18:00", "19:00"⟩

def novemberSlot (court : String) : SlotObservation :=
  ⟨20758, court, "18:00", "19:00"⟩

/-- An observation of the hour on some courts, and its texts. -/
def novemberRequest (courts : List String) : ObservationRequest where
  venueId := "szw"
  venueName := ""
  scope := ""
  healthy := true
  checkedAt := some (.ok 0)
  error := ""
  slots := some (courts.map fun court => some (novemberItem court))

def novemberTexts (courts : List String) : ObservationTexts :=
  ⟨"szw", "深圳湾", "default", true, 0, none, courts.map novemberSlot⟩

/-- A subscription to venues in the evening, and its texts. -/
def eveningRequest (venues : List String) : SubscriptionRequest :=
  ⟨some venues, "18:00", "20:00", .missing, "", none⟩

def eveningTexts (venues : List String) : SubscriptionTexts :=
  ⟨venues, [1, 2, 3, 4, 5, 6, 7], "18:00", "20:00", "7d"⟩

/-- Event keys of two courts differ, dedupe keys of two venues and of one differ, the order
and repetition of courts leave a fingerprint, and other courts change it. -/
theorem identities_november :
    slotEventKey ⟨id⟩ "szw" (novemberSlot "1|号场") ≠ slotEventKey ⟨id⟩ "szw" (novemberSlot "1") ∧
    (⟨id⟩ : Digests).subscriptionDedupeKey "a@example.com" ["gba", "szw"] "18:00" "20:00" 127 ≠
      (⟨id⟩ : Digests).subscriptionDedupeKey "a@example.com" ["gba"] "18:00" "20:00" 127 ∧
    (∃ observation, validateObservationRequest november (slotEventKey ⟨id⟩) 0
        (novemberRequest ["2", "1", "2"]) = .ok observation ∧
      observation.slots = (novemberTexts ["1", "2"]).slots ∧
      (⟨id⟩ : Digests).observationFingerprint observation =
        (⟨id⟩ : Digests).observationFingerprint (novemberTexts ["1", "2"])) ∧
    (⟨id⟩ : Digests).observationFingerprint (novemberTexts ["1", "2"]) ≠
      (⟨id⟩ : Digests).observationFingerprint (novemberTexts ["1"]) := by
  have both : validateObservationRequest november (slotEventKey ⟨id⟩) 0
      (novemberRequest ["1", "2"]) = .ok (novemberTexts ["1", "2"]) := by decide +kernel
  have one : validateObservationRequest november (slotEventKey ⟨id⟩) 0
      (novemberRequest ["1"]) = .ok (novemberTexts ["1"]) := by decide +kernel
  obtain ⟨keys, dedupes, orders, fingerprints⟩ :=
    @identities_faithful ⟨id⟩ november Function.injective_id november_calendar
  refine ⟨fun same => ?_, fun same => ?_, ?_, fun same => ?_⟩
  · obtain ⟨-, slots⟩ := keys "szw" (by decide) "szw" (by decide) (novemberItem "1|号场")
      (novemberItem "1") _ _ (by decide) (by decide) same
    exact absurd slots (by decide)
  · obtain ⟨-, venues, -⟩ := dedupes "a@example.com" "a@example.com"
      (eveningRequest ["szw", "gba"]) (eveningRequest ["gba"]) .standard .standard
      (eveningTexts ["gba", "szw"]) (eveningTexts ["gba"]) (by decide +kernel)
      (by decide +kernel) same
    exact absurd ((venues "szw").mp (by decide)) (by decide)
  · exact orders (novemberRequest []) _ _ 0 0 _ (by simp) both
  · exact absurd ((fingerprints _ _ 0 0 _ _ both one same (novemberSlot "2")).mp (by decide))
      (by decide)

end TennisAlerts.HostCore
