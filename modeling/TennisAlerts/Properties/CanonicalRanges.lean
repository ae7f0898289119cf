import TennisAlerts.Properties.RequestIdentity
import TennisAlerts.Watchers.RangeText

/-!
# Merged ranges are canonical

`merge_time_ranges` depends on the minutes of its ranges only, so two polls of the same
availability publish the same slots under the same event keys.
-/

namespace TennisAlerts.HostCore

open TennisAlerts.Intervals TennisAlerts.Watchers

/-! ## Texts -/

/-- A range HH:MM-HH:MM that starts before it ends, at 24:00 at the latest. -/
def ProperText (range : String × String) : Prop :=
  ∃ read, readRange range = some read ∧ 0 ≤ read.1 ∧ read.1 < read.2 ∧ read.2 ≤ 1440

/-- The ranges that the texts stand for. -/
def readings (data : List (String × String)) : List (Int × Int) :=
  data.filterMap readRange

/-- Between 00:00 and 24:00. -/
def InDay (range : Int × Int) : Prop :=
  0 ≤ range.1 ∧ range.2 ≤ 1440

theorem mem_readings {data : List (String × String)} (proper : ∀ range ∈ data, ProperText range) :
    ∀ read ∈ readings data, read.1 < read.2 ∧ InDay read := by
  intro read member
  obtain ⟨range, inside, found⟩ := List.mem_filterMap.mp member
  obtain ⟨read', found', low, filled, high⟩ := proper range inside
  cases found.symm.trans found'
  exact ⟨filled, low, high⟩

theorem mergeTimeTexts_eq {data : List (String × String)}
    (proper : ∀ range ∈ data, ProperText range) :
    mergeTimeTexts data = some ((merge (readings data)).map rangeText) := by
  have read : data.mapM readRange = some (readings data) := by
    induction data with
    | nil => rfl
    | cons range rest ih =>
        obtain ⟨⟨read, found, -⟩, proper⟩ := List.forall_mem_cons.mp proper
        rw [List.mapM_cons, found, ih proper, readings, readings, List.filterMap_cons, found]
        rfl
  rw [mergeTimeTexts, read]
  rfl

theorem readRange_rangeText {range : Int × Int} (inDay : InDay range) (filled : range.1 < range.2) :
    readRange (rangeText range) = some range := by
  obtain ⟨low, high⟩ := inDay
  obtain ⟨start, first⟩ := Int.eq_ofNat_of_zero_le low
  obtain ⟨finish, last⟩ := Int.eq_ofNat_of_zero_le (low.trans filled.le)
  obtain ⟨_, _⟩ := range
  dsimp only at first last filled high
  subst first last
  have texts : rangeText (start, finish) = (⟨start, finish⟩ : FreeSlot).texts :=
    Prod.ext (minutesText_natCast start) (minutesText_natCast finish)
  rw [texts]
  exact readRange_texts (show start ≤ 1440 by omega) (show finish ≤ 1440 by omega)

/-- Merged ranges lie in the day. -/
theorem inDay_merge {ranges : List (Int × Int)} (inDay : ∀ range ∈ ranges, InDay range) :
    ∀ range ∈ merge ranges, InDay range := by
  intro range member
  obtain ⟨⟨first, inside, start⟩, last, inside', finish⟩ := mem_merge member
  exact ⟨start ▸ (inDay first inside).1, finish ▸ (inDay last inside').2⟩

/-- Ranges of the same minutes are merged to the same ranges. -/
theorem merge_eq_of_inside {τ : Type} [LinearOrder τ] {ranges ranges' : List (τ × τ)}
    (filled : ∀ range ∈ ranges, range.1 < range.2) (filled' : ∀ range ∈ ranges', range.1 < range.2)
    (same : ∀ point, Inside ranges point ↔ Inside ranges' point) : merge ranges = merge ranges' :=
  (canonical_merge filled).unique (canonical_merge filled') fun point => by
    rw [inside_merge, inside_merge, same point]

section

variable {data other : List (String × String)} (proper : ∀ range ∈ data, ProperText range)
  (proper' : ∀ range ∈ other, ProperText range)
include proper

theorem mergeTimeTexts_again :
    mergeTimeTexts ((merge (readings data)).map rangeText) =
      some ((merge (readings data)).map rangeText) := by
  have filled := (canonical_merge fun range member => (mem_readings proper range member).1).filled
  have inDay := inDay_merge fun range member => (mem_readings proper range member).2
  have proper' : ∀ range ∈ (merge (readings data)).map rangeText, ProperText range := by
    intro text member
    obtain ⟨range, inside, rfl⟩ := List.mem_map.mp member
    exact ⟨range, readRange_rangeText (inDay range inside) (filled range inside),
      (inDay range inside).1, filled range inside, (inDay range inside).2⟩
  have again : readings ((merge (readings data)).map rangeText) = merge (readings data) := by
    rw [readings, List.filterMap_map]
    refine (List.filterMap_congr fun range inside => ?_).trans List.filterMap_some
    exact readRange_rangeText (inDay range inside) (filled range inside)
  rw [mergeTimeTexts_eq proper', again, merge_merge]

include proper'

theorem mergeTimeTexts_congr
    (same : ∀ minute, Inside (readings other) minute ↔ Inside (readings data) minute) :
    mergeTimeTexts other = mergeTimeTexts data := by
  rw [mergeTimeTexts_eq proper, mergeTimeTexts_eq proper',
    merge_eq_of_inside (fun range member => (mem_readings proper' range member).1)
      (fun range member => (mem_readings proper range member).1) same]

end

/-- A range and its two parts have the same minutes. -/
theorem inside_split {front back : List (String × String)} {start middle finish : String}
    (first : ProperText (start, middle)) (last : ProperText (middle, finish)) (minute : Int) :
    Inside (readings (front ++ (start, middle) :: (middle, finish) :: back)) minute ↔
      Inside (readings (front ++ (start, finish) :: back)) minute := by
  obtain ⟨⟨low, cut⟩, found, -, before, -⟩ := first
  obtain ⟨⟨cut', high⟩, found', -, after, -⟩ := last
  simp only [readRange, Option.bind_eq_bind, Option.bind_eq_some_iff, Option.pure_def,
    Option.some.injEq, Prod.mk.injEq] at found found'
  obtain ⟨_, start, _, middle, rfl, rfl⟩ := found
  obtain ⟨_, middle', _, finish, rfl, rfl⟩ := found'
  cases middle.symm.trans middle'
  simp only [readings, List.filterMap_append, List.filterMap_cons, readRange, start, middle, finish,
    Option.bind_eq_bind, Option.bind_some, Option.pure_def, inside_append, inside_cons, ← or_assoc]
  refine or_congr_left ?_
  rw [or_assoc]
  refine or_congr_right ?_
  dsimp only at before after
  omega

/-! ## Polls -/

/-- A minute at which a court is free. -/
def Free (courts : CourtAvailability) (name : String) (minute : Nat) : Prop :=
  ∃ court ∈ courts, court.1 = name ∧ Inside (court.2.map FreeSlot.range) minute

/-- A dictionary of ranges that start before they end, at 24:00 at the latest. -/
structure ProperCourts (courts : CourtAvailability) : Prop where
  keyed : (courts.map Prod.fst).Nodup
  proper : ∀ court ∈ courts, ∀ slot ∈ court.2, slot.start < slot.finish ∧ slot.finish ≤ 1440

/-- Two polls of one date, however segmented. -/
structure SameAvailability (first second : InputDate × CourtAvailability) : Prop where
  date : first.1 = second.1
  left : ProperCourts first.2
  right : ProperCourts second.2
  free : ∀ name minute, Free first.2 name minute ↔ Free second.2 name minute

theorem SameAvailability.symm {first second : InputDate × CourtAvailability}
    (same : SameAvailability first second) : SameAvailability second first :=
  ⟨same.date.symm, same.right, same.left, fun name minute => (same.free name minute).symm⟩

theorem ProperCourts.filled {courts : CourtAvailability} (proper : ProperCourts courts)
    {court : String × List FreeSlot} (member : court ∈ courts) :
    ∀ range ∈ court.2.map FreeSlot.range, range.1 < range.2 := by
  intro range inside
  obtain ⟨slot, listed, rfl⟩ := List.mem_map.mp inside
  exact (proper.proper court member slot listed).1

/-- The minutes of a court are those of its name. -/
theorem ProperCourts.free_iff {courts : CourtAvailability} (proper : ProperCourts courts)
    {court : String × List FreeSlot} (member : court ∈ courts) {minute : Nat} :
    Free courts court.1 minute ↔ Inside (court.2.map FreeSlot.range) minute := by
  constructor
  · rintro ⟨other, inside, named, free⟩
    rwa [List.inj_on_of_nodup_map proper.keyed inside member named] at free
  · exact fun free => ⟨court, member, rfl, free⟩

/-- A court with ranges has a counterpart that is merged to the same ranges. -/
theorem SameAvailability.counterpart {first second : InputDate × CourtAvailability}
    (same : SameAvailability first second) {court : String × List FreeSlot}
    (member : court ∈ first.2) (listed : court.2 ≠ []) :
    ∃ other ∈ second.2, other.1 = court.1 ∧ mergeTimeRanges other.2 = mergeTimeRanges court.2 := by
  obtain ⟨slot, inside⟩ := List.exists_mem_of_ne_nil court.2 listed
  have open' : Free first.2 court.1 slot.start :=
    ⟨court, member, rfl, slot.range, List.mem_map_of_mem inside, le_refl slot.start,
      (same.left.proper court member slot inside).1⟩
  obtain ⟨other, member', named, -⟩ := (same.free court.1 slot.start).mp open'
  refine ⟨other, member', named, ?_⟩
  unfold mergeTimeRanges
  rw [merge_eq_of_inside (same.right.filled member') (same.left.filled member) fun minute => ?_]
  rw [← same.right.free_iff member', ← same.left.free_iff member, named, same.free]

/-- What is published of the merged courts of a date. -/
theorem mem_flatten_merged {bookingDate : String} {courts : CourtAvailability} {raw : RawSlot} :
    raw ∈ flattenCourtSlots bookingDate (merged courts) ↔
      ∃ court ∈ courts, strip court.1 ≠ "" ∧
        ∃ slot ∈ mergeTimeRanges court.2,
          flattenSlot bookingDate (strip court.1) slot = some raw := by
  unfold flattenCourtSlots merged
  simp only [List.mem_flatMap, List.mem_map, exists_exists_and_eq_and]
  refine exists_congr fun court => and_congr_right fun _ => ?_
  split
  · rename_i blank
    exact ⟨fun inside => absurd inside List.not_mem_nil, fun named => absurd blank named.1⟩
  · rename_i named
    rw [List.mem_filterMap, and_iff_right named]

/-- A court without ranges publishes nothing. -/
theorem flatten_mergeCourts (bookingDate : String) (courts : CourtAvailability) :
    flattenCourtSlots bookingDate (mergeCourts courts) =
      flattenCourtSlots bookingDate (merged courts) := by
  unfold flattenCourtSlots
  induction courts with
  | nil => rfl
  | cons court rest ih =>
      have split : merged (court :: rest) = (court.1, mergeTimeRanges court.2) :: merged rest := rfl
      by_cases empty : mergeTimeRanges court.2 = []
      · have dropped : mergeCourts (court :: rest) = mergeCourts rest := by
          simp only [mergeCourts, List.filterMap_cons, if_pos empty]
        rw [dropped, ih, split, List.flatMap_cons, empty, List.filterMap_nil, ite_self,
          List.nil_append]
      · have kept : mergeCourts (court :: rest) =
            (court.1, mergeTimeRanges court.2) :: mergeCourts rest := by
          simp only [mergeCourts, List.filterMap_cons, if_neg empty]
        rw [kept, List.flatMap_cons, ih, split, List.flatMap_cons]

theorem SameAvailability.flatten_subset {first second : InputDate × CourtAvailability}
    (same : SameAvailability first second) {raw : RawSlot}
    (published : raw ∈ flattenCourtSlots first.1.text (merged first.2)) :
    raw ∈ flattenCourtSlots second.1.text (merged second.2) := by
  rw [mem_flatten_merged] at published ⊢
  obtain ⟨court, member, named, slot, free, flat⟩ := published
  have listed : court.2 ≠ [] := by
    intro empty
    rw [empty] at free
    exact absurd free List.not_mem_nil
  obtain ⟨other, member', name, ranges⟩ := same.counterpart member listed
  rw [← same.date]
  exact ⟨other, member', name ▸ named, slot, ranges ▸ free, name ▸ flat⟩

/-- The slots that a watcher publishes of the ranges that it found. -/
def polledSlots (canonicalize : CourtAvailability → CourtAvailability)
    (found : List (InputDate × CourtAvailability)) : List RawSlot :=
  Source.webappSlots (found.map fun part => (part.1, canonicalize part.2))

theorem polledSlots_mergeCourts (found : List (InputDate × CourtAvailability)) :
    polledSlots mergeCourts found = polledSlots merged found := by
  unfold polledSlots Source.webappSlots
  rw [List.flatMap_map, List.flatMap_map]
  exact List.flatMap_congr fun part _ => flatten_mergeCourts part.1.text part.2

theorem polledSlots_subset {first second : List (InputDate × CourtAvailability)}
    (same : List.Forall₂ SameAvailability first second) :
    ∀ raw ∈ polledSlots merged first, raw ∈ polledSlots merged second := by
  intro raw published
  simp only [polledSlots, Source.webappSlots, List.flatMap_map, List.mem_flatMap] at published ⊢
  obtain ⟨part, member, inside⟩ := published
  obtain ⟨other, member', parts⟩ := exists_of_forall₂' same member
  exact ⟨other, member', parts.flatten_subset inside⟩

theorem mem_polledSlots {canonicalize : CourtAvailability → CourtAvailability}
    (chosen : canonicalize = mergeCourts ∨ canonicalize = merged)
    {first second : List (InputDate × CourtAvailability)}
    (same : List.Forall₂ SameAvailability first second) (raw : RawSlot) :
    raw ∈ polledSlots canonicalize first ↔ raw ∈ polledSlots canonicalize second := by
  have both : raw ∈ polledSlots merged first ↔ raw ∈ polledSlots merged second :=
    ⟨polledSlots_subset same raw,
      polledSlots_subset (same.flip.imp fun _ _ same => same.symm) raw⟩
  rcases chosen with rfl | rfl
  · rwa [polledSlots_mergeCourts, polledSlots_mergeCourts]
  · exact both

/-! ## Event keys of a poll -/

theorem map_uniqueSlots (key : SlotObservation → String) (slots : List SlotObservation) :
    (uniqueSlots key slots).map key = sortedSet (slots.map key) := by
  unfold uniqueSlots
  rw [List.map_filterMap]
  refine (List.filterMap_congr fun text member => ?_).trans List.filterMap_some
  obtain ⟨slot, inside, rfl⟩ := List.mem_map.mp (mem_sortedSet.mp member)
  cases found : slots.reverse.find? fun other => decide (key other = key slot) with
  | none =>
      have missing := List.find?_eq_none.mp found slot (List.mem_reverse.mpr inside)
      exact absurd rfl (of_decide_eq_false (Bool.eq_false_iff.mpr missing))
  | some other =>
      have chosen := List.find?_some found
      exact congrArg some (of_decide_eq_true chosen)

theorem validateObservation_congr {fromIsoFormat : String → Option Int} {venueId : String}
    {items items' : List RawSlot} (same : ∀ item, item ∈ items ↔ item ∈ items')
    {observation : VenueObservation}
    (accepted : validateObservation fromIsoFormat ⟨venueId, items⟩ = .ok observation) :
    ∃ observation', validateObservation fromIsoFormat ⟨venueId, items'⟩ = .ok observation' ∧
      ∀ slot, slot ∈ observation.slots ↔ slot ∈ observation'.slots := by
  unfold validateObservation at accepted ⊢
  dsimp only at accepted ⊢
  split at accepted
  · rename_i known
    rw [if_pos known]
    cases found : items.mapM (validateSlot fromIsoFormat) with
    | error message =>
        rw [found] at accepted
        exact nomatch accepted
    | ok slots =>
        rw [found] at accepted
        cases accepted
        obtain ⟨slots', found'⟩ := @mapM_ok_of_forall _ _ _ (validateSlot fromIsoFormat) items'
          fun item member => by
            obtain ⟨slot, -, given⟩ :=
              exists_of_forall₂' (mapM_ok_iff.mp found) ((same item).mpr member)
            exact ⟨slot, given⟩
        rw [found']
        refine ⟨_, rfl, fun slot => ?_⟩
        rw [mem_of_mapM found, mem_of_mapM found']
        exact exists_congr fun item => and_congr_left fun _ => same item
  · exact nomatch accepted

/-- The event keys of an observation depend on its members only. -/
theorem eventKeys_congr (digests : Digests) (fromIsoFormat : String → Option Int) (venueId : String)
    {slots slots' : List RawSlot} (same : ∀ raw, raw ∈ slots ↔ raw ∈ slots') :
    (publishedSlots digests fromIsoFormat venueId slots).map (·.eventKey) =
      (publishedSlots digests fromIsoFormat venueId slots').map (·.eventKey) := by
  have normalized : ∀ raw, raw ∈ slots.map normalizeSlot ↔ raw ∈ slots'.map normalizeSlot :=
    fun raw => by simp only [List.mem_map, same]
  have keys (observed : List SlotObservation) :
      ((uniqueSlots (slotEventKey digests venueId) observed).map
        (publishedSlot digests venueId)).map
        (·.eventKey) = sortedSet (observed.map (slotEventKey digests venueId)) := by
    rw [List.map_map, ← map_uniqueSlots]
    rfl
  unfold publishedSlots
  cases accepted : validateObservation fromIsoFormat ⟨venueId, slots.map normalizeSlot⟩ with
  | error message =>
      cases accepted' : validateObservation fromIsoFormat ⟨venueId, slots'.map normalizeSlot⟩ with
      | error message' => rfl
      | ok observation' =>
          obtain ⟨observation, found, -⟩ :=
            validateObservation_congr (fun raw => (normalized raw).symm) accepted'
          exact nomatch accepted.symm.trans found
  | ok observation =>
      obtain ⟨observation', found, members⟩ := validateObservation_congr normalized accepted
      rw [found]
      dsimp only
      rw [keys, keys]
      exact sortedSet_congr fun text => by simp only [List.mem_map, members]

/-! ## The canonical form -/

/-- `merge_time_ranges` is the canonical form of the minutes of its ranges. -/
theorem mergeTimeTexts_canonical {data : List (String × String)}
    (proper : ∀ range ∈ data, ProperText range) :
    (∃ ranges, mergeTimeTexts data = some (ranges.map rangeText) ∧ Canonical ranges ∧
      (∀ range ∈ ranges, InDay range) ∧
      (∀ minute, Inside ranges minute ↔ Inside (readings data) minute) ∧
      mergeTimeTexts (ranges.map rangeText) = some (ranges.map rangeText)) ∧
    (∀ other, (∀ range ∈ other, ProperText range) →
      (∀ minute, Inside (readings other) minute ↔ Inside (readings data) minute) →
      mergeTimeTexts other = mergeTimeTexts data) ∧
    (∀ other, (∀ range, range ∈ other ↔ range ∈ data) →
      mergeTimeTexts other = mergeTimeTexts data) ∧
    (∀ front start middle finish back, data = front ++ (start, finish) :: back →
      ProperText (start, middle) → ProperText (middle, finish) →
      mergeTimeTexts (front ++ (start, middle) :: (middle, finish) :: back) = mergeTimeTexts data) ∧
    ∀ canonicalize, canonicalize = mergeCourts ∨ canonicalize = merged →
      ∀ first second, List.Forall₂ SameAvailability first second →
        (∀ raw, raw ∈ polledSlots canonicalize first ↔ raw ∈ polledSlots canonicalize second) ∧
        ∀ digests fromIsoFormat venueId,
          (publishedSlots digests fromIsoFormat venueId (polledSlots canonicalize first)).map
              (·.eventKey) =
            (publishedSlots digests fromIsoFormat venueId (polledSlots canonicalize second)).map
              (·.eventKey) := by
  have filled : ∀ read ∈ readings data, read.1 < read.2 :=
    fun read member => (mem_readings proper read member).1
  have inDay : ∀ read ∈ readings data, InDay read :=
    fun read member => (mem_readings proper read member).2
  refine ⟨⟨merge (readings data), mergeTimeTexts_eq proper, canonical_merge filled,
    inDay_merge inDay, fun _ => inside_merge, mergeTimeTexts_again proper⟩, ?_, ?_, ?_, ?_⟩
  · exact fun other proper' same => mergeTimeTexts_congr proper proper' same
  · intro other same
    have proper' : ∀ range ∈ other, ProperText range :=
      fun range member => proper range ((same range).mp member)
    refine mergeTimeTexts_congr proper proper' fun minute => inside_congr fun read => ?_
    simp only [readings, List.mem_filterMap, same]
  · rintro front start middle finish back rfl first last
    refine mergeTimeTexts_congr proper (fun range member => ?_) (inside_split first last)
    rcases List.mem_append.mp member with member | member
    · exact proper range (List.mem_append_left _ member)
    · rcases List.mem_cons.mp member with rfl | member
      · exact first
      · rcases List.mem_cons.mp member with rfl | member
        · exact last
        · exact proper range (List.mem_append_right _ (List.mem_cons_of_mem _ member))
  · intro canonicalize chosen first second same
    have members := mem_polledSlots chosen same
    exact ⟨members, fun digests fromIsoFormat venueId =>
      eventKeys_congr digests fromIsoFormat venueId members⟩

theorem mergeTimeTexts_hour :
    mergeTimeTexts [("18:00", "18:30"), ("18:30", "19:00")] =
      mergeTimeTexts [("18:00", "19:00")] := by
  have whole : ProperText ("18:00", "19:00") := ⟨(1080, 1140), by decide⟩
  have canonical := @mergeTimeTexts_canonical [("18:00", "19:00")]
    fun range member => List.mem_singleton.mp member ▸ whole
  exact canonical.2.2.2.1 [] "18:00" "18:30" "19:00" [] rfl ⟨(1080, 1110), by decide⟩
    ⟨(1110, 1140), by decide⟩

end TennisAlerts.HostCore
