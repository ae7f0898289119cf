import TennisAlerts.Properties.PlainTimes
import TennisAlerts.Watchers.Producers

/-!
# Odd slots

When the host accepts every slot of a sweep.  `validate_observation` refuses the whole
observation for one slot that is inverted or empty, also when it became empty because
24:00 was read as 23:59.
-/

namespace TennisAlerts.HostCore

open TennisAlerts.Intervals
open TennisAlerts.Watchers

/-! ## Published times -/

theorem clockText_ne_midnight {minute : Nat} (inDay : minute < 1440) :
    clockText minute ≠ "24:00" := by
  intro same
  have texts := congrArg String.toList same
  rw [← clock_eq, ← clock_end] at texts
  exact ne_of_lt (clock_lt inDay (le_refl 1440)) texts

theorem clockText_midnight : clockText 1440 = "24:00" := by decide

/-- The published slot of a range. -/
theorem flattenSlot_eq (bookingDate courtName : String) {slot : FreeSlot} (inDay : slot.InDay) :
    flattenSlot bookingDate courtName slot =
      some ⟨bookingDate, courtName, clockText slot.start, clockText (min slot.finish 1439)⟩ := by
  obtain ⟨early, late⟩ := inDay
  have finish : (if clockText slot.finish = "24:00" then "23:59" else clockText slot.finish) =
      clockText (min slot.finish 1439) := by
    rcases Nat.lt_or_eq_of_le late with before | midnight
    · rw [if_neg (clockText_ne_midnight before), min_eq_left (by omega)]
    · rw [midnight, clockText_midnight]
      decide
  unfold flattenSlot
  dsimp only
  rw [strip_clockText (by omega), strip_clockText late, finish, length_clockText (by omega),
    length_clockText (by omega)]
  rfl

/-- What the host makes of a published slot. -/
theorem validateSlot_flat_iff {fromIsoFormat : String → Option Int} {bookingDate courtName : String}
    {day : Int} {slot : FreeSlot} (inDay : slot.InDay)
    (dated : fromIsoFormat bookingDate = some day)
    (named : strip courtName ≠ "") {observed : SlotObservation} :
    validateSlot fromIsoFormat ⟨bookingDate, strip courtName, clockText slot.start,
      clockText (min slot.finish 1439)⟩ = .ok observed ↔
      (strip courtName).length ≤ 100 ∧ Proper 1439 slot.range ∧
        observed = ⟨day, strip courtName, clockText slot.start,
          clockText (min slot.finish 1439)⟩ := by
  obtain ⟨early, late⟩ := inDay
  have start : parseTime (clockText slot.start).toList = .ok slot.start := by
    rw [← clock_eq, parseTime_clock early]
  have finish : parseTime (clockText (min slot.finish 1439)).toList =
      .ok (min slot.finish 1439) := by
    rw [← clock_eq, parseTime_clock (by omega)]
  have proper : Proper 1439 slot.range ↔ slot.start < min slot.finish 1439 := by
    unfold Proper FreeSlot.range
    omega
  rw [proper, validateSlot_ok_iff]
  constructor
  · rintro ⟨_, first, last, date, -, short, first', last', ordered, same⟩
    cases dated.symm.trans date
    cases start.symm.trans first'
    cases finish.symm.trans last'
    dsimp only at short same
    rw [strip_strip] at short same
    exact ⟨short, ordered, same⟩
  · rintro ⟨short, ordered, same⟩
    refine ⟨day, _, _, dated, ?_, ?_, start, finish, ordered, ?_⟩
    · rw [strip_strip]
      exact named
    · rw [strip_strip]
      exact short
    · rw [strip_strip]
      exact same

/-! ## Merged ranges -/

theorem mergeTimeRanges_inDay {slots : List FreeSlot} (inDay : ∀ slot ∈ slots, slot.InDay) :
    ∀ slot ∈ mergeTimeRanges slots, slot.InDay := by
  intro slot member
  obtain ⟨range, inside, rfl⟩ := List.mem_map.mp member
  obtain ⟨⟨first, start, same⟩, last, finish, same'⟩ := mem_merge inside
  obtain ⟨opening, opens, rfl⟩ := List.mem_map.mp start
  obtain ⟨closing, closes, rfl⟩ := List.mem_map.mp finish
  refine ⟨?_, ?_⟩
  · dsimp only
    rw [same]
    exact (inDay opening opens).1
  · dsimp only
    rw [same']
    exact (inDay closing closes).2

theorem proper_mergeTimeRanges_iff (slots : List FreeSlot) :
    (∀ slot ∈ mergeTimeRanges slots, Proper 1439 slot.range) ↔
      Absorbed 1439 (slots.map FreeSlot.range) := by
  rw [← proper_merge_iff, mergeTimeRanges, List.forall_mem_map]
  rfl

/-! ## Sweeps -/

/-- The slots of a sweep are accepted one by one, and as an observation of any venue. -/
structure NeverBlanked (fromIsoFormat : String → Option Int) (slots : List RawSlot) : Prop where
  accepted : ∀ slot ∈ slots, ∃ observed, validateSlot fromIsoFormat slot = .ok observed
  observed : ∀ venueId ∈ venueIds,
    ∃ observation, validateObservation fromIsoFormat ⟨venueId, slots⟩ = .ok observation

/-- Every court that is published lists ranges that are proper or absorbed. -/
def Sweepable (listings : List (InputDate × List (String × List FreeSlot))) : Prop :=
  ∀ part ∈ listings, ∀ court ∈ part.2, strip court.1 ≠ "" →
    Absorbed 1439 (court.2.map FreeSlot.range)

theorem neverBlanked_iff_accepted {fromIsoFormat : String → Option Int} {slots : List RawSlot} :
    NeverBlanked fromIsoFormat slots ↔
      ∀ slot ∈ slots, ∃ observed, validateSlot fromIsoFormat slot = .ok observed := by
  refine ⟨NeverBlanked.accepted, fun accepted => ⟨accepted, fun venueId known => ?_⟩⟩
  have plain : ∀ venueId ∈ venueIds, strip venueId = venueId := by decide
  obtain ⟨observed, all⟩ := mapM_ok_of_forall accepted
  refine ⟨⟨venueId, observed⟩, ?_⟩
  unfold validateObservation
  dsimp only
  rw [plain venueId known, if_pos known, all]
  rfl

section

variable {strptime : String → Option Int}
  {listings : List (InputDate × List (String × List FreeSlot))}

/-- The published slots of merged courts. -/
theorem mem_webappSlots (listed : ∀ part ∈ listings, Listed part.2) {slot : RawSlot} :
    slot ∈ Source.webappSlots (listings.map fun part => (part.1, merged part.2)) ↔
      ∃ part ∈ listings, ∃ court ∈ part.2, strip court.1 ≠ "" ∧
        ∃ range ∈ mergeTimeRanges court.2, slot = ⟨part.1.text, strip court.1,
          clockText range.start, clockText (min range.finish 1439)⟩ := by
  simp only [Source.webappSlots, flattenCourtSlots, merged, List.mem_flatMap, List.mem_map]
  constructor
  · rintro ⟨_, ⟨part, member, rfl⟩, _, entry, found⟩
    obtain ⟨court, inside, rfl⟩ := List.mem_map.mp entry
    split at found
    · exact absurd found List.not_mem_nil
    · rename_i named
      obtain ⟨range, free, flat⟩ := List.mem_filterMap.mp found
      have inDay := mergeTimeRanges_inDay (listed part member court inside).2 range free
      rw [flattenSlot_eq _ _ inDay, Option.some.injEq] at flat
      exact ⟨part, member, court, inside, named, range, free, flat.symm⟩
  · rintro ⟨part, member, court, inside, named, range, free, rfl⟩
    have inDay := mergeTimeRanges_inDay (listed part member court inside).2 range free
    refine ⟨_, ⟨part, member, rfl⟩, _, List.mem_map_of_mem inside, ?_⟩
    rw [if_neg named]
    exact List.mem_filterMap.mpr ⟨range, free, flattenSlot_eq _ _ inDay⟩

end

/-! ## A Sunday evening -/

/-- `strptime` on the texts of the payloads below. -/
def sundayTime (text : String) : Option Int :=
  if text = "2026-11-01 18:00:00" then some 1793556000
  else if text = "2026-11-01 18:59:00" then some 1793559540
  else if text = "2026-11-01 20:00:00" then some 1793563200
  else if text = "2026-11-01 19:00:00" then some 1793559600
  else none

def sundayDate (text : String) : Option Int :=
  if text = "2026-11-01" then some 20758 else none

def sunday : InputDate :=
  ⟨"2026-11-01", 20758⟩

/-- A bookable slot of a court. -/
def bookable (court beginDatetime endDatetime : String) : RawItem :=
  ⟨.null, .null, .text court, .text beginDatetime, .text endDatetime, true⟩

def shenyun : PosPalVenue :=
  ⟨"fsb_shenyun", "泛思博特深云", ["小场", "匹克", "练习", "非标", "发球机"], none⟩

/-- One free hour. -/
def plainSweep : Source :=
  .posPal shenyun [(sunday,
    ⟨[bookable "1号场" "2026-11-01 18:00:00" "2026-11-01 18:59:00"], []⟩)]

/-- One free hour, and a slot that ends before it begins. -/
def oddSweep : Source :=
  .posPal shenyun [(sunday,
    ⟨[bookable "1号场" "2026-11-01 18:00:00" "2026-11-01 18:59:00",
      bookable "2号场" "2026-11-01 20:00:00" "2026-11-01 19:00:00"], []⟩)]

end TennisAlerts.HostCore
