import TennisAlerts.Properties.OddSlots
import TennisAlerts.Properties.PreparedMessages
import TennisAlerts.Properties.RequestIdentity
import Mathlib.Data.List.TakeWhile

/-!
# Announced lines and published slots

A sweep announces lines and publishes slots.  Here is when the queue retains every line
that is checked against the slots of its own sweep.
-/

namespace TennisAlerts.HostCore

open TennisAlerts.Intervals
open TennisAlerts.Watchers

/-! ## Names -/

/-- The last character of a stripped text is no space. -/
theorem strip_last (text : String) :
    ∀ character ∈ (strip text).toList.getLast?, pythonSpace character = false := by
  intro character last
  rw [strip, String.toList_ofList, List.getLast?_reverse] at last
  have kept := List.head?_dropWhile_not pythonSpace (text.toList.dropWhile pythonSpace).reverse
  rw [Option.mem_def.mp last] at kept
  simpa using kept

/-- A text without spaces at its end is only stripped at its front. -/
theorem strip_of_last {text : String}
    (unpadded : ∀ character ∈ text.toList.getLast?, pythonSpace character = false) :
    (strip text).toList = text.toList.dropWhile pythonSpace := by
  rw [strip, String.toList_ofList]
  have last : ∀ character ∈ (text.toList.dropWhile pythonSpace).reverse.head?,
      pythonSpace character = false := by
    intro character first
    rw [List.head?_reverse] at first
    obtain ⟨spaces, same⟩ := List.dropWhile_suffix pythonSpace (l := text.toList)
    refine unpadded character ?_
    rw [← same, List.getLast?_append, Option.mem_def.mp first]
    rfl
  rw [dropWhile_of_visible last, List.reverse_reverse]

theorem last_of_suffix {front back : List Char} (suffix : back <:+ front) (filled : back ≠ []) :
    back.getLast? = front.getLast? := by
  obtain ⟨rest, rfl⟩ := suffix
  exact (List.getLast?_append_of_ne_nil rest filled).symm

/-- A court name that the queue can read back. -/
structure PlainName (name : String) : Prop where
  whole : ∀ character ∈ name.toList, lineBreak character = false
  unpadded : ∀ character ∈ name.toList.getLast?, pythonSpace character = false

section

variable {venueName court : String} (plain : PlainName (venueName ++ court)) (named : court ≠ "")
include plain named

theorem PlainName.last : ∀ character ∈ court.toList.getLast?, pythonSpace character = false := by
  intro character last
  refine plain.unpadded character ?_
  rw [String.toList_append, List.getLast?_append_of_ne_nil _ (mt String.toList_eq_nil_iff.mp named)]
  exact last

theorem PlainName.strip_ne_empty : strip court ≠ "" := by
  intro blank
  have dropped := strip_of_last (plain.last named)
  rw [blank] at dropped
  have spaces := List.dropWhile_eq_nil_iff.mp dropped.symm
  have filled : court.toList ≠ [] := mt String.toList_eq_nil_iff.mp named
  have last := List.getLast?_eq_some_getLast filled
  have space := spaces _ (List.getLast_mem filled)
  rw [plain.last named _ last] at space
  exact nomatch space

/-- The published name of a court is the end of its announced name. -/
theorem PlainName.suffix : (strip court).toList <:+ (venueName ++ court).toList := by
  rw [strip_of_last (plain.last named), String.toList_append]
  exact (List.dropWhile_suffix pythonSpace).trans (List.suffix_append _ _)

end

/-! ## Published slots -/

theorem validateObservation_ok_iff {fromIsoFormat : String → Option Int} {venueId : String}
    (known : venueId ∈ venueIds) {slots : List RawSlot} {observation : VenueObservation} :
    validateObservation fromIsoFormat ⟨venueId, slots⟩ = .ok observation ↔
      slots.mapM (validateSlot fromIsoFormat) = .ok observation.slots ∧
        observation.venueId = venueId := by
  have plain : ∀ venueId ∈ venueIds, strip venueId = venueId := by decide
  unfold validateObservation
  dsimp only
  rw [plain venueId known, if_pos known]
  cases slots.mapM (validateSlot fromIsoFormat) with
  | error message => exact ⟨fun found => (nomatch found), fun found => (nomatch found.1)⟩
  | ok observed =>
      constructor
      · rintro ⟨⟩
        exact ⟨rfl, rfl⟩
      · rintro ⟨same, same'⟩
        cases same
        cases same'
        rfl

/-- The slot that the host knows of a range. -/
def observedSlot (day : Int) (court : String) (range : FreeSlot) : SlotObservation :=
  ⟨day, strip court, clockText range.start, clockText (min range.finish 1439)⟩

/-- Every published court has a name of at most 100 characters. -/
def ShortNames (listings : List (InputDate × List (String × List FreeSlot))) : Prop :=
  ∀ part ∈ listings, ∀ court ∈ part.2, strip court.1 ≠ "" → (strip court.1).length ≤ 100

section

variable {fromIsoFormat : String → Option Int}
  {listings : List (InputDate × List (String × List FreeSlot))}
  (listed : ∀ part ∈ listings, Listed part.2)
  (dated : ∀ part ∈ listings, fromIsoFormat (strip part.1.text) = some part.1.day)
include listed

/-- The slots of a sweep as they are sent. -/
theorem mem_normalized {slot : RawSlot} :
    slot ∈ (Source.webappSlots (listings.map fun part => (part.1, merged part.2))).map
        normalizeSlot ↔
      ∃ part ∈ listings, ∃ court ∈ part.2, strip court.1 ≠ "" ∧
        ∃ range ∈ mergeTimeRanges court.2, slot = ⟨strip part.1.text, strip court.1,
          clockText range.start, clockText (min range.finish 1439)⟩ := by
  have normal (text name : String) {range : FreeSlot} (inDay : range.InDay) :
      normalizeSlot ⟨text, strip name, clockText range.start, clockText (min range.finish 1439)⟩ =
        ⟨strip text, strip name, clockText range.start, clockText (min range.finish 1439)⟩ := by
    obtain ⟨early, late⟩ := inDay
    unfold normalizeSlot
    rw [strip_strip, strip_clockText (by omega), strip_clockText (by omega)]
  rw [List.mem_map]
  constructor
  · rintro ⟨_, published, rfl⟩
    obtain ⟨part, member, court, inside, named, range, free, rfl⟩ :=
      (mem_webappSlots listed).mp published
    exact ⟨part, member, court, inside, named, range, free,
      normal _ _ (mergeTimeRanges_inDay (listed part member court inside).2 range free)⟩
  · rintro ⟨part, member, court, inside, named, range, free, rfl⟩
    exact ⟨_, (mem_webappSlots listed).mpr ⟨part, member, court, inside, named, range, free, rfl⟩,
      normal _ _ (mergeTimeRanges_inDay (listed part member court inside).2 range free)⟩

include dated

/-- What the host knows after a sweep: nothing, or the ranges of all published courts. -/
theorem mem_observed {venueId : String} (known : venueId ∈ venueIds)
    {observation : VenueObservation}
    (accepted : validateObservation fromIsoFormat ⟨venueId,
      (Source.webappSlots (listings.map fun part => (part.1, merged part.2))).map normalizeSlot⟩ =
        .ok observation) {slot : SlotObservation} :
    slot ∈ observation.slots ↔
      ∃ part ∈ listings, ∃ court ∈ part.2, strip court.1 ≠ "" ∧
        ∃ range ∈ mergeTimeRanges court.2, slot = observedSlot part.1.day court.1 range := by
  have all := mapM_ok_iff.mp ((validateObservation_ok_iff known).mp accepted).1
  constructor
  · intro member
    obtain ⟨raw, published, valid⟩ := exists_of_forall₂ all member
    obtain ⟨part, found, court, inside, named, range, free, rfl⟩ :=
      (mem_normalized listed).mp published
    have inDay := mergeTimeRanges_inDay (listed part found court inside).2 range free
    exact ⟨part, found, court, inside, named, range, free,
      ((validateSlot_flat_iff inDay (dated part found) named).mp valid).2.2⟩
  · rintro ⟨part, found, court, inside, named, range, free, rfl⟩
    have inDay := mergeTimeRanges_inDay (listed part found court inside).2 range free
    obtain ⟨observed, member, valid⟩ := exists_of_forall₂' all ((mem_normalized listed).mpr
      ⟨part, found, court, inside, named, range, free, rfl⟩)
    have same := ((validateSlot_flat_iff inDay (dated part found) named).mp valid).2.2
    rw [observedSlot, ← same]
    exact member

/-- A sweep is accepted exactly when its names are short and its odd ranges are absorbed. -/
theorem accepted_iff {venueId : String} (known : venueId ∈ venueIds) :
    (∃ observation, validateObservation fromIsoFormat ⟨venueId,
      (Source.webappSlots (listings.map fun part => (part.1, merged part.2))).map normalizeSlot⟩ =
        .ok observation) ↔ ShortNames listings ∧ Sweepable listings := by
  constructor
  · rintro ⟨observation, accepted⟩
    have all := mapM_ok_iff.mp ((validateObservation_ok_iff known).mp accepted).1
    have verdict {part : InputDate × List (String × List FreeSlot)} (found : part ∈ listings)
        {court : String × List FreeSlot} (inside : court ∈ part.2) (named : strip court.1 ≠ "")
        {range : FreeSlot} (free : range ∈ mergeTimeRanges court.2) :
        (strip court.1).length ≤ 100 ∧ Proper 1439 range.range := by
      have inDay := mergeTimeRanges_inDay (listed part found court inside).2 range free
      obtain ⟨observed, -, valid⟩ := exists_of_forall₂' all ((mem_normalized listed).mpr
        ⟨part, found, court, inside, named, range, free, rfl⟩)
      have checked := (validateSlot_flat_iff inDay (dated part found) named).mp valid
      exact ⟨checked.1, checked.2.1⟩
    refine ⟨fun part found court inside named => ?_, fun part found court inside named => ?_⟩
    · obtain ⟨range, free⟩ := List.exists_mem_of_ne_nil _
        (mergeTimeRanges_ne_nil (listed part found court inside).1)
      exact (verdict found inside named free).1
    · exact (proper_mergeTimeRanges_iff court.2).mp fun range free =>
        (verdict found inside named free).2
  · rintro ⟨short, absorbed⟩
    have accepted : ∀ slot ∈ (Source.webappSlots (listings.map fun part =>
        (part.1, merged part.2))).map normalizeSlot,
        ∃ observed, validateSlot fromIsoFormat slot = .ok observed := by
      intro slot published
      obtain ⟨part, found, court, inside, named, range, free, rfl⟩ :=
        (mem_normalized listed).mp published
      have inDay := mergeTimeRanges_inDay (listed part found court inside).2 range free
      exact ⟨_, (validateSlot_flat_iff inDay (dated part found) named).mpr
        ⟨short part found court inside named, (proper_mergeTimeRanges_iff court.2).mpr
          (absorbed part found court inside named) range free, rfl⟩⟩
    obtain ⟨observed, all⟩ := mapM_ok_of_forall accepted
    exact ⟨⟨venueId, observed⟩, (validateObservation_ok_iff known).mpr ⟨all, rfl⟩⟩

end

/-! ## Retained lines -/

/-- `current_message` keeps the line. -/
def Retained (slots : List CurrentSlot) (line : String) : Prop :=
  ∃ current, currentMessage line slots = .ok current ∧ line ∈ splitLines current.message

theorem retained_iff {slots : List CurrentSlot} {line : String} (visible : Visible line.toList) :
    Retained slots line ↔ Whole line ∧ Vouched slots line := by
  have stripped : strip line = line := visible.strip
  have kept (whole : Whole line) :
      line ∈ splitLines (preparedMessage line slots).message ↔ Vouched slots line := by
    have single : line ∈ splitLines line := by
      rw [splitLines_whole whole]
      exact List.mem_singleton_self line
    have prepared := mem_prepared single slots
    rwa [stripped] at prepared
  constructor
  · rintro ⟨current, found, member⟩
    have whole : Whole line :=
      ⟨fun empty => visible.nonempty (String.toList_eq_nil_iff.mpr empty), splitLines_plain member⟩
    rw [(currentMessage_ok_iff.mp found).2] at member
    exact ⟨whole, (kept whole).mp member⟩
  · rintro ⟨whole, vouched⟩
    have sound : Sound line slots := by
      intro text member refused
      have single := member
      rw [splitLines_whole whole, List.mem_singleton] at member
      have covered := covered_iff_vouched single slots
      rw [member, stripped] at refused covered
      obtain ⟨keys, found⟩ := covered.mpr vouched
      exact nomatch refused.symm.trans found
    exact ⟨_, currentMessage_eq sound, (kept whole).mpr vouched⟩

/-- The line that the host reads of an announced range. -/
def announcedLine (day : Int) (courtName : String) (slot : FreeSlot) : Line :=
  ⟨courtName.toList, (monthDay day).toList, clock slot.start, clock slot.finish⟩

/-- A published slot vouches for a line with its date whose court it shares. -/
theorem matches_publishedSlot_iff {digests : Digests} {venueId court courtName : String}
    {day day' : Int}
    {slot slot' : FreeSlot} :
    (announcedLine day courtName slot).Matches
      (publishedSlot digests venueId (observedSlot day' court slot')) ↔
      (monthDay day').toList = (monthDay day).toList ∧
        ((strip court).toList <:+ courtName.toList ∨
          courtName.toList <:+ (strip court).toList) := by
  unfold Line.Matches
  dsimp only [announcedLine, publishedSlot, observedSlot]
  exact Iff.rfl

section

variable {day : Int} {courtName : String} {slot : FreeSlot} (long : slot.start + 60 ≤ slot.finish)
  (inDay : slot.InDay)
include long inDay

theorem announcedLine_wellFormed : (announcedLine day courtName slot).WellFormed :=
  wellFormed_clock rfl rfl (by omega) inDay.2

omit long in
theorem announcedLine_goal :
    (announcedLine day courtName slot).goal = clock (min slot.finish 1439) :=
  goal_eq_clock rfl inDay.2

theorem vouched_notification_iff (weekday : Fin 7) (named : courtName ≠ "")
    (plain : '\n' ∉ courtName.toList) {slots : List CurrentSlot} :
    Vouched slots (notification (weekdayText weekday) (monthDay day) courtName slot) ↔
      (announcedLine day courtName slot).Covered slots := by
  have parsed : parseLine
      (notification (weekdayText weekday) (monthDay day) courtName slot).toList =
        some (announcedLine day courtName slot) := by
    rw [parseLine_notification weekday day named plain (by have early := inDay.1; omega) inDay.2,
      announcedLine, clock_eq, clock_eq]
  have nonempty :
      (announcedLine day courtName slot).start < (announcedLine day courtName slot).goal := by
    rw [announcedLine_goal inDay]
    have late := inDay.2
    exact clock_lt (by omega) (by omega)
  constructor
  · rintro ⟨line, read, -, covered, -⟩
    cases parsed.symm.trans read
    exact covered
  · intro covered
    exact ⟨_, parsed, announcedLine_wellFormed long inDay, covered, exists_meets nonempty covered⟩

end

/-! ## Sweeps -/

/-- Every line that a sweep builds is retained against the slots that it publishes. -/
def LinesAgree (digests : Digests) (fromIsoFormat : String → Option Int) (source : Source)
    (weekday : Int → Fin 7) (data : List (InputDate × CourtAvailability)) : Prop :=
  ∀ sended, ∀ line ∈ newNotifications (source.notificationCourts weekday data) sended,
    Retained (publishedSlots digests fromIsoFormat source.venueId (Source.webappSlots data)) line

/-- No two observed slots share an event key. -/
def KeysApart (digests : Digests) (fromIsoFormat : String → Option Int) (venueId : String)
    (slots : List RawSlot) : Prop :=
  ∀ observation,
    validateObservation fromIsoFormat ⟨venueId, slots.map normalizeSlot⟩ = .ok observation →
      ∀ slot ∈ observation.slots, ∀ other ∈ observation.slots,
        slotEventKey digests venueId slot = slotEventKey digests venueId other → slot = other

theorem mem_newNotifications {data : List NotificationCourt} {line : String} :
    line ∈ newNotifications data [] ↔ ∃ entry ∈ data, ∃ slot ∈ entry.court.freeSlotList,
      line = notification (weekdayText entry.weekday) (monthDay entry.day) entry.court.courtName
        slot := by
  simp only [newNotifications, notifications, List.mem_filter, List.mem_flatMap, List.mem_singleton,
    exists_eq_left, List.mem_map, List.contains_nil, Bool.not_false, and_true, eq_comm]

theorem linesAgree_iff_all {digests : Digests} {fromIsoFormat : String → Option Int}
    {source : Source} {weekday : Int → Fin 7} {data : List (InputDate × CourtAvailability)} :
    LinesAgree digests fromIsoFormat source weekday data ↔
      ∀ entry ∈ source.notificationCourts weekday data, ∀ slot ∈ entry.court.freeSlotList,
        Retained (publishedSlots digests fromIsoFormat source.venueId (Source.webappSlots data))
          (notification (weekdayText entry.weekday) (monthDay entry.day) entry.court.courtName
            slot) := by
  constructor
  · intro agree entry member slot free
    exact agree [] _ (mem_newNotifications.mpr ⟨entry, member, slot, free, rfl⟩)
  · intro retained sended line member
    have unsent : line ∈ newNotifications (source.notificationCourts weekday data) [] := by
      refine List.mem_filter.mpr ⟨(List.mem_filter.mp member).1, ?_⟩
      rw [List.contains_nil]
      rfl
    obtain ⟨entry, announced, slot, free, rfl⟩ := mem_newNotifications.mp unsent
    exact retained entry announced slot free

/-- An announced court comes from a listed one. -/
theorem mem_notificationCourts {source : Source} {weekday : Int → Fin 7}
    {listings : List (InputDate × List (String × List FreeSlot))} {entry : NotificationCourt}
    (member : entry ∈ source.notificationCourts weekday
      (listings.map fun part => (part.1, merged part.2))) :
    ∃ part ∈ listings, ∃ court ∈ part.2, entry.day = part.1.day ∧
      entry.court.courtName = source.venueName ++ court.1 ∧ entry.court.freeSlotList ≠ [] ∧
        ∀ slot ∈ entry.court.freeSlotList, slot ∈ mergeTimeRanges court.2 ∧
          slot.start + 60 ≤ slot.finish := by
  obtain ⟨_, found, member⟩ := List.mem_flatMap.mp member
  obtain ⟨part, inside, rfl⟩ := List.mem_map.mp found
  obtain ⟨free, chosen, rfl⟩ := List.mem_map.mp member
  obtain ⟨filled, court, listed, named, ranges⟩ := Source.mem_filterCourts chosen
  exact ⟨part, inside, court, listed, rfl, named, filled, ranges⟩

section

variable {digests : Digests} {fromIsoFormat : String → Option Int} {venueId : String}
  {listings : List (InputDate × List (String × List FreeSlot))}
  (listed : ∀ part ∈ listings, Listed part.2)
  (dated : ∀ part ∈ listings, fromIsoFormat (strip part.1.text) = some part.1.day)
  (known : venueId ∈ venueIds)
include listed dated known

/-- A current slot stands for a published range, and then the sweep was accepted. -/
theorem of_mem_publishedSlots {slot : CurrentSlot}
    (member : slot ∈ publishedSlots digests fromIsoFormat venueId
      (Source.webappSlots (listings.map fun part => (part.1, merged part.2)))) :
    (ShortNames listings ∧ Sweepable listings) ∧
      ∃ court range, strip court ≠ "" ∧ ∃ day,
        slot = publishedSlot digests venueId (observedSlot day court range) := by
  unfold publishedSlots at member
  split at member
  · exact absurd member List.not_mem_nil
  · rename_i observation accepted
    refine ⟨(accepted_iff listed dated known).mp ⟨observation, accepted⟩, ?_⟩
    obtain ⟨observed, unique, rfl⟩ := List.mem_map.mp member
    obtain ⟨key, -, found⟩ := List.mem_filterMap.mp unique
    have inside := List.mem_reverse.mp (List.mem_of_find?_eq_some found)
    obtain ⟨part, -, court, -, named, range, -, rfl⟩ :=
      (mem_observed listed dated known accepted).mp inside
    exact ⟨court.1, range, named, part.1.day, rfl⟩

theorem mem_publishedSlots (short : ShortNames listings) (sweepable : Sweepable listings)
    (apart : KeysApart digests fromIsoFormat venueId
      (Source.webappSlots (listings.map fun part => (part.1, merged part.2))))
    {part : InputDate × List (String × List FreeSlot)} (inside : part ∈ listings)
    {court : String × List FreeSlot} (free : court ∈ part.2) (named : strip court.1 ≠ "")
    {range : FreeSlot} (chosen : range ∈ mergeTimeRanges court.2) :
    publishedSlot digests venueId (observedSlot part.1.day court.1 range) ∈
      publishedSlots digests fromIsoFormat venueId
        (Source.webappSlots (listings.map fun part => (part.1, merged part.2))) := by
  obtain ⟨observation, accepted⟩ := (accepted_iff listed dated known).mpr ⟨short, sweepable⟩
  unfold publishedSlots
  rw [accepted]
  refine List.mem_map_of_mem ((mem_uniqueSlots (apart observation accepted)).mpr ?_)
  exact (mem_observed listed dated known accepted).mpr
    ⟨part, inside, court, free, named, range, chosen, rfl⟩

end

theorem lineBreak_of_notification {weekday : Fin 7} {day : Int} {courtName : String}
    {slot : FreeSlot}
    (whole : Whole (notification (weekdayText weekday) (monthDay day) courtName slot)) :
    ∀ character ∈ courtName.toList, lineBreak character = false := by
  intro character inside
  refine whole.2 character ?_
  rw [notification_toList, lineFront]
  simp [inside]

theorem append_ne_empty (venueName : String) {court : String} (named : court ≠ "") :
    venueName ++ court ≠ "" := by
  intro empty
  have letters := congrArg String.toList empty
  rw [String.toList_append] at letters
  exact named (String.toList_eq_nil_iff.mp (List.append_eq_nil_iff.mp letters).2)

section

variable {digests : Digests} {venueId court courtName : String} {day : Int} {slot : FreeSlot}
  {slots : List CurrentSlot}

/-- The slot of the announced range covers the line. -/
theorem announcedLine_covered (inDay : slot.InDay)
    (suffix : (strip court).toList <:+ courtName.toList)
    (member : publishedSlot digests venueId (observedSlot day court slot) ∈ slots) :
    (announcedLine day courtName slot).Covered slots := by
  intro point after before
  rw [announcedLine_goal inDay] at before
  refine ⟨_, member, matches_publishedSlot_iff.mpr ⟨rfl, .inl suffix⟩, ?_⟩
  dsimp only [announcedLine, publishedSlot, observedSlot] at after ⊢
  rw [← clock_eq, ← clock_eq]
  exact ⟨after, before⟩

theorem announcedLine_nonempty (long : slot.start + 60 ≤ slot.finish) (inDay : slot.InDay) :
    (announcedLine day courtName slot).start < (announcedLine day courtName slot).goal := by
  rw [announcedLine_goal inDay]
  have late := inDay.2
  exact clock_lt (by omega) (by omega)

/-- A name that matches a published one ends in no space. -/
theorem unpadded_of_matches (announced : courtName ≠ "") (named : strip court ≠ "")
    (suffixes : (strip court).toList <:+ courtName.toList ∨
      courtName.toList <:+ (strip court).toList) :
    ∀ character ∈ courtName.toList.getLast?, pythonSpace character = false := by
  have same : (strip court).toList.getLast? = courtName.toList.getLast? := by
    rcases suffixes with suffix | suffix
    · exact last_of_suffix suffix (mt String.toList_eq_nil_iff.mp named)
    · exact (last_of_suffix suffix (mt String.toList_eq_nil_iff.mp announced)).symm
  rw [← same]
  exact strip_last court

end

section

variable {digests : Digests} {fromIsoFormat strptime : String → Option Int} {source : Source}
  {weekday : Int → Fin 7} {listings : List (InputDate × List (String × List FreeSlot))}
  (found : source.listings strptime = .ok listings)
  (dated : ∀ part ∈ listings, fromIsoFormat (strip part.1.text) = some part.1.day)
  (known : source.venueId ∈ venueIds) {entry : NotificationCourt}
  (member : entry ∈ source.notificationCourts weekday
    (listings.map fun part => (part.1, merged part.2)))
include found dated known member

theorem condition_of_retained
    (retained : ∀ slot ∈ entry.court.freeSlotList,
      Retained (publishedSlots digests fromIsoFormat source.venueId
        (Source.webappSlots (listings.map fun part => (part.1, merged part.2))))
        (notification (weekdayText entry.weekday) (monthDay entry.day) entry.court.courtName
          slot)) :
    PlainName entry.court.courtName ∧ ShortNames listings ∧ Sweepable listings := by
  have listed := Source.listed found
  obtain ⟨part, inside, court, free, -, name, filled, ranges⟩ := mem_notificationCourts member
  obtain ⟨slot, chosen⟩ := List.exists_mem_of_ne_nil _ filled
  obtain ⟨range, long⟩ := ranges slot chosen
  have inDay := mergeTimeRanges_inDay (listed part inside court free).2 slot range
  obtain ⟨whole, vouched⟩ :=
    (retained_iff (notification_visible _ _ _ _)).mp (retained slot chosen)
  have plain := lineBreak_of_notification whole
  have announced : entry.court.courtName ≠ "" := by
    rw [name]
    exact append_ne_empty _ (Source.named found part inside court free)
  have covered := (vouched_notification_iff long inDay entry.weekday announced
    fun inside => (nomatch (plain '\n' inside))).mp vouched
  obtain ⟨current, published, meets⟩ := exists_meets (announcedLine_nonempty long inDay) covered
  obtain ⟨accepted, other, otherRange, named, otherDay, rfl⟩ :=
    of_mem_publishedSlots listed dated known published
  have suffixes := (matches_publishedSlot_iff.mp meets.1).2
  exact ⟨⟨plain, unpadded_of_matches announced named suffixes⟩, accepted⟩

theorem retained_of_condition
    (apart : KeysApart digests fromIsoFormat source.venueId
      (Source.webappSlots (listings.map fun part => (part.1, merged part.2))))
    (plain : PlainName entry.court.courtName) (short : ShortNames listings)
    (sweepable : Sweepable listings) {slot : FreeSlot} (chosen : slot ∈ entry.court.freeSlotList) :
    Retained (publishedSlots digests fromIsoFormat source.venueId
      (Source.webappSlots (listings.map fun part => (part.1, merged part.2))))
      (notification (weekdayText entry.weekday) (monthDay entry.day) entry.court.courtName
        slot) := by
  have listed := Source.listed found
  obtain ⟨part, inside, court, free, day, name, -, ranges⟩ := mem_notificationCourts member
  obtain ⟨range, long⟩ := ranges slot chosen
  have inDay := mergeTimeRanges_inDay (listed part inside court free).2 slot range
  have filledName := Source.named found part inside court free
  have announced : entry.court.courtName ≠ "" := by
    rw [name]
    exact append_ne_empty _ filledName
  have unbroken : '\n' ∉ entry.court.courtName.toList :=
    fun inside => (nomatch (plain.whole '\n' inside))
  have published := mem_publishedSlots listed dated known short sweepable apart inside free
    ((name ▸ plain : PlainName (source.venueName ++ court.1)).strip_ne_empty filledName) range
  have suffix : (strip court.1).toList <:+ entry.court.courtName.toList := by
    rw [name] at plain ⊢
    exact plain.suffix filledName
  refine (retained_iff (notification_visible _ _ _ _)).mpr
    ⟨notification_whole _ _ plain.whole _, ?_⟩
  rw [vouched_notification_iff long inDay entry.weekday announced unbroken, day]
  exact announcedLine_covered inDay suffix published

end

/-- The court data of the free hour. -/
def plainData : List (InputDate × CourtAvailability) :=
  [(sunday, [("1号场", [⟨1080, 1140⟩])])]

/-- The slot that the host knows of it. -/
def plainObservation : VenueObservation :=
  ⟨"fsb_shenyun", [⟨20758, "1号场", "18:00", "19:00"⟩]⟩

/-- A court of TOPS whose name ends in a space. -/
def paddedSweep : Source :=
  .tops [(sunday, ⟨[bookable "1号场 " "2026-11-01 18:00:00" "2026-11-01 18:59:00"], []⟩)]

def paddedData : List (InputDate × CourtAvailability) :=
  [(sunday, [("1号场 ", [⟨1080, 1140⟩])])]

def paddedLine : String :=
  "【TOPS科技园1号场 】星期日(11-01)空场: 18:00-19:00"

end TennisAlerts.HostCore
