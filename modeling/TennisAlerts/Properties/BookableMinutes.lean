import TennisAlerts.Tables.Gather
import TennisAlerts.Properties.OddSlots
import Mathlib.Data.List.TakeWhile

/-!
# Bookable minutes of PosPal courts

The payloads of one day: what `parse_availability` publishes for a court are the minutes
of its bookable slots that no enrollment of the court touches.
-/

namespace TennisAlerts.Watchers

open TennisAlerts.HostCore TennisAlerts.Intervals TennisAlerts.Tables

/-! ## Words -/

/-- Spaces behind a text change neither its first word nor those that follow. -/
theorem splitOnP_spaces {spaces : List Char}
    (blank : ∀ character ∈ spaces, pythonSpace character = true)
    (text : List Char) :
    ((text ++ spaces).splitOnP pythonSpace).head? = (text.splitOnP pythonSpace).head? ∧
      ((text ++ spaces).splitOnP pythonSpace).tail.filter (· ≠ []) =
        (text.splitOnP pythonSpace).tail.filter (· ≠ []) := by
  have all : spaces.splitOnP pythonSpace = List.replicate (spaces.length + 1) [] := by
    induction spaces with
    | nil => rfl
    | cons character spaces ih =>
        obtain ⟨space, blank⟩ := List.forall_mem_cons.mp blank
        rw [List.splitOnP_cons_eq_if_modifyHead, if_pos space, ih blank]
        rfl
  induction text with
  | nil =>
      rw [List.nil_append, all, List.splitOnP_nil]
      refine ⟨rfl, List.filter_eq_nil_iff.mpr fun word member => ?_⟩
      rw [List.replicate_succ, List.tail_cons] at member
      rw [List.eq_of_mem_replicate member]
      decide
  | cons character text ih =>
      rw [List.cons_append, List.splitOnP_cons_eq_if_modifyHead,
        List.splitOnP_cons_eq_if_modifyHead]
      obtain ⟨first, rest⟩ := ih
      have some := List.splitOnP_ne_nil pythonSpace (text ++ spaces)
      have some' := List.splitOnP_ne_nil pythonSpace text
      split
      · refine ⟨rfl, ?_⟩
        rw [List.tail_cons, List.tail_cons, ← List.cons_head?_tail (List.head?_eq_some_head some),
          ← List.cons_head?_tail (List.head?_eq_some_head some'), List.filter_cons,
          List.filter_cons, rest]
        rw [List.head?_eq_some_head some, List.head?_eq_some_head some', Option.some.injEq] at first
        rw [first]
      · rw [List.head?_modifyHead, List.head?_modifyHead, first, List.tail_modifyHead,
          List.tail_modifyHead]
        exact ⟨rfl, rest⟩

theorem words_eq (text : List Char) :
    (text.splitOnP pythonSpace).filter (· ≠ []) =
      (((text.splitOnP pythonSpace).head?.toList).filter (· ≠ [])) ++
        (text.splitOnP pythonSpace).tail.filter (· ≠ []) := by
  have some := List.splitOnP_ne_nil pythonSpace text
  rw [← List.filter_append]
  cases split : text.splitOnP pythonSpace with
  | nil => exact absurd split some
  | cons first rest => rfl

/-- The words of a text are those between its ends. -/
theorem splitSpaces_strip (text : String) : splitSpaces (strip text) = splitSpaces text := by
  have front (text : List Char) :
      ((text.dropWhile pythonSpace).splitOnP pythonSpace).filter (· ≠ []) =
      (text.splitOnP pythonSpace).filter (· ≠ []) := by
    induction text with
    | nil => rfl
    | cons character text ih =>
        rw [List.dropWhile_cons]
        split
        · rename_i space
          rw [ih, List.splitOnP_cons_eq_if_modifyHead, if_pos space, List.filter_cons]
          rfl
        · rfl
  have back : text.toList.dropWhile pythonSpace = (strip text).toList ++
      ((text.toList.dropWhile pythonSpace).reverse.takeWhile pythonSpace).reverse := by
    rw [strip, String.toList_ofList, ← List.reverse_append, List.takeWhile_append_dropWhile,
      List.reverse_reverse]
  have blank : ∀ character ∈ ((text.toList.dropWhile pythonSpace).reverse.takeWhile
      pythonSpace).reverse, pythonSpace character = true :=
    fun character member => List.mem_takeWhile_imp (List.mem_reverse.mp member)
  obtain ⟨first, rest⟩ := splitOnP_spaces blank (strip text).toList
  rw [splitSpaces, splitSpaces, ← front text.toList, back, words_eq, words_eq (_ ++ _), first, rest]

/-! ## Times of one day -/

variable {strptime : String → Option Int} {day : Int}

/-- The item runs from one minute of the day to another one, both of them included. -/
structure Spans (strptime : String → Option Int) (day : Int) (item : RawItem) (first last : Nat) :
    Prop where
  ordered : first ≤ last
  inDay : last < 1440
  starts : ∃ text, item.beginDatetime = .text text ∧ strptime text = some (86400 * day + 60 * first)
  ends : ∃ text, item.endDatetime = .text text ∧ strptime text = some (86400 * day + 60 * last)

/-- The minute lies in the item. -/
def Contains (strptime : String → Option Int) (day : Int) (item : RawItem) (minute : Nat) : Prop :=
  ∃ first last, Spans strptime day item first last ∧ first ≤ minute ∧ minute ≤ last

theorem Spans.unique {item : RawItem} {first last first' last' : Nat}
    (spans : Spans strptime day item first last) (spans' : Spans strptime day item first' last') :
    first = first' ∧ last = last' := by
  obtain ⟨_, start, read⟩ := spans.starts
  obtain ⟨_, start', read'⟩ := spans'.starts
  obtain ⟨_, finish, seen⟩ := spans.ends
  obtain ⟨_, finish', seen'⟩ := spans'.ends
  cases start.symm.trans start'
  cases finish.symm.trans finish'
  have starts := Option.some.inj (read.symm.trans read')
  have ends := Option.some.inj (seen.symm.trans seen')
  omega

theorem Spans.contains_iff {item : RawItem} {first last minute : Nat}
    (spans : Spans strptime day item first last) :
    Contains strptime day item minute ↔ first ≤ minute ∧ minute ≤ last := by
  constructor
  · rintro ⟨first', last', spans', inside⟩
    obtain ⟨rfl, rfl⟩ := spans.unique spans'
    exact inside
  · exact fun inside => ⟨first, last, spans, inside⟩

/-- The end of the item is not in the last minute of `datetime`. -/
def Representable (day : Int) (last : Nat) : Prop :=
  86400 * day + 60 * last + 60 ≤ lastMoment

section

variable {item : RawItem} {first last : Nat} (spans : Spans strptime day item first last)
  (small : Representable day last)
include spans small

theorem Spans.timeRange_eq :
    timeRange strptime item =
      .ok (some (86400 * day + 60 * first, 86400 * day + 60 * last + 60)) := by
  obtain ⟨text, start, read⟩ := spans.starts
  obtain ⟨text', finish, read'⟩ := spans.ends
  have ordered := spans.ordered
  unfold timeRange
  rw [start, finish]
  dsimp only
  rw [read, read']
  dsimp only
  rw [plusMinute, if_neg (not_lt.mpr small)]
  exact congrArg Except.ok (if_neg (by omega))

theorem Spans.freeRange_eq : freeRange strptime item = some ⟨first, last + 1⟩ := by
  obtain ⟨text, start, read⟩ := spans.starts
  obtain ⟨text', finish, read'⟩ := spans.ends
  have ordered := spans.ordered
  have inDay := spans.inDay
  unfold freeRange
  rw [start, finish]
  dsimp only
  have started : minuteOfDay (86400 * day + 60 * first) = first := by
    unfold minuteOfDay
    omega
  simp only [parseSlotTime, read, read', plusMinute, if_neg (not_lt.mpr small), Option.bind_eq_bind,
    Option.bind_some, Option.pure_def, started, Option.some.injEq, FreeSlot.mk.injEq, true_and]
  split
  · omega
  · unfold minuteOfDay
    omega

end

/-! ## Bookable slots -/

/-- What the payloads of one day are promised to hold. -/
structure DayPayload (strptime : String → Option Int) (day : Int) (payload : PosPalPayload) :
    Prop where
  timed : ∀ item ∈ payload.slots ++ payload.enrollSlots, ∃ first last,
    Spans strptime day item first last
  named : ∀ item ∈ payload.slots ++ payload.enrollSlots,
    courtUid item ≠ "" ∧ courtName item ≠ "" ∧ item.classRoomName.truthy = true
  matched : ∀ item ∈ payload.slots ++ payload.enrollSlots,
    ∀ other ∈ payload.slots ++ payload.enrollSlots,
      (courtUid item = courtUid other ↔ courtName item = courtName other)

/-- No item ends in the last minute of `datetime`. -/
def BeforeLastMinute (strptime : String → Option Int) (day : Int) (payload : PosPalPayload) :
    Prop :=
  ∀ item ∈ payload.slots ++ payload.enrollSlots, ∀ first last,
    Spans strptime day item first last → Representable day last

/-- An enrollment of the court of the slot that touches it. -/
def Touches (strptime : String → Option Int) (day : Int) (slot enrollment : RawItem) : Prop :=
  courtUid enrollment = courtUid slot ∧
    ∃ minute, Contains strptime day slot minute ∧ Contains strptime day enrollment minute

/-- A slot that can be booked directly. -/
def Bookable (strptime : String → Option Int) (day : Int) (payload : PosPalPayload)
    (slot : RawItem) : Prop :=
  slot ∈ payload.slots ∧ slot.canApptOrNot = true ∧
    ∀ enrollment ∈ payload.enrollSlots, ¬Touches strptime day slot enrollment

variable {payload : PosPalPayload}

/-- The interval of an enrollment. -/
def intervalOf (day : Int) (item : RawItem) (first last : Nat) : EnrollmentInterval :=
  ⟨courtUid item, courtName item, 86400 * day + 60 * first, 86400 * day + 60 * last + 60⟩

theorem enrollmentIntervals_eq {items : List RawItem}
    (timed : ∀ item ∈ items,
      ∃ first last, Spans strptime day item first last ∧ Representable day last)
    (named : ∀ item ∈ items, courtUid item ≠ "") :
    ∃ intervals, enrollmentIntervals strptime items = .ok intervals ∧
      ∀ interval, interval ∈ intervals ↔ ∃ item ∈ items, ∃ first last,
        Spans strptime day item first last ∧ interval = intervalOf day item first last := by
  induction items with
  | nil =>
      exact ⟨[], rfl, fun interval => ⟨fun member => absurd member List.not_mem_nil,
        fun ⟨_, member, _⟩ => absurd member List.not_mem_nil⟩⟩
  | cons item rest ih =>
      obtain ⟨⟨first, last, spans, small⟩, timed⟩ := List.forall_mem_cons.mp timed
      obtain ⟨uid, named⟩ := List.forall_mem_cons.mp named
      obtain ⟨intervals, found, members⟩ := ih timed named
      refine ⟨intervalOf day item first last :: intervals, ?_, fun interval => ?_⟩
      · rw [enrollmentIntervals, spans.timeRange_eq small, found]
        exact if_neg fun missing => uid missing.1
      · rw [List.mem_cons, members, List.exists_mem_cons_iff]
        refine or_congr_left ⟨fun same => ⟨first, last, spans, same⟩, ?_⟩
        rintro ⟨first', last', spans', same⟩
        obtain ⟨rfl, rfl⟩ := spans.unique spans'
        exact same

theorem Spans.touches_iff {slot enrollment : RawItem} {first last first' last' : Nat}
    (spans : Spans strptime day slot first last)
    (spans' : Spans strptime day enrollment first' last') :
    Touches strptime day slot enrollment ↔
      courtUid enrollment = courtUid slot ∧ first ≤ last' ∧ first' ≤ last := by
  have ordered := spans.ordered
  have ordered' := spans'.ordered
  refine and_congr_right fun _ => ?_
  simp only [spans.contains_iff, spans'.contains_iff]
  constructor
  · rintro ⟨minute, inside, inside'⟩
    omega
  · exact fun near => ⟨max first first', by omega, by omega⟩

/-- A slot is blocked by the enrollments that touch it. -/
theorem blockedByEnrollment_eq (promised : DayPayload strptime day payload)
    (before : BeforeLastMinute strptime day payload) {slot : RawItem}
    (member : slot ∈ payload.slots ++ payload.enrollSlots) {intervals : List EnrollmentInterval}
    (members : ∀ interval, interval ∈ intervals ↔ ∃ item ∈ payload.enrollSlots, ∃ first last,
      Spans strptime day item first last ∧ interval = intervalOf day item first last) :
    ∃ blocked, blockedByEnrollment strptime slot intervals = .ok blocked ∧
      (blocked = true ↔
        ∃ enrollment ∈ payload.enrollSlots, Touches strptime day slot enrollment) := by
  obtain ⟨first, last, spans⟩ := promised.timed slot member
  obtain ⟨uid, -, -⟩ := promised.named slot member
  refine ⟨intervals.any fun interval => sameCourt slot interval &&
    decide (max (86400 * day + 60 * (first : Int)) interval.start <
      min (86400 * day + 60 * (last : Int) + 60) interval.finish), ?_, ?_⟩
  · unfold blockedByEnrollment
    rw [spans.timeRange_eq (before slot member first last spans)]
    rfl
  · rw [List.any_eq_true]
    have same {enrollment : RawItem} {first' last' : Nat}
        (listed : enrollment ∈ payload.enrollSlots)
        (spans' : Spans strptime day enrollment first' last') :
        (sameCourt slot (intervalOf day enrollment first' last') &&
          decide (max (86400 * day + 60 * (first : Int)) (86400 * day + 60 * (first' : Int)) <
            min (86400 * day + 60 * (last : Int) + 60) (86400 * day + 60 * (last' : Int) + 60))) =
              true ↔
          Touches strptime day slot enrollment := by
      obtain ⟨uid', -, -⟩ := promised.named enrollment (List.mem_append_right _ listed)
      have court : sameCourt slot (intervalOf day enrollment first' last') = true ↔
          courtUid enrollment = courtUid slot := by
        rw [sameCourt, if_pos ⟨uid, uid'⟩, decide_eq_true_iff]
        exact eq_comm
      have ordered := spans.ordered
      have ordered' := spans'.ordered
      rw [spans.touches_iff spans', Bool.and_eq_true, court, decide_eq_true_iff]
      refine and_congr_right fun _ => ?_
      omega
    constructor
    · rintro ⟨interval, inside, blocks⟩
      obtain ⟨enrollment, listed, first', last', spans', rfl⟩ := (members interval).mp inside
      exact ⟨enrollment, listed, (same listed spans').mp blocks⟩
    · rintro ⟨enrollment, listed, touches⟩
      obtain ⟨first', last', spans'⟩ := promised.timed enrollment (List.mem_append_right _ listed)
      exact ⟨_, (members _).mpr ⟨enrollment, listed, first', last', spans', rfl⟩,
        (same listed spans').mpr touches⟩

theorem bookableFrom_eq {intervals : List EnrollmentInterval} {blocks : RawItem → Prop}
    {slots : List RawItem}
    (decided : ∀ slot ∈ slots,
      ∃ blocked, blockedByEnrollment strptime slot intervals = .ok blocked ∧
      (blocked = true ↔ blocks slot)) :
    ∃ bookable, bookableFrom strptime intervals slots = .ok bookable ∧
      ∀ slot, slot ∈ bookable ↔ slot ∈ slots ∧ slot.canApptOrNot = true ∧ ¬blocks slot := by
  induction slots with
  | nil =>
      exact ⟨[], rfl, fun slot => ⟨fun member => absurd member List.not_mem_nil,
        fun found => absurd found.1 List.not_mem_nil⟩⟩
  | cons slot rest ih =>
      obtain ⟨⟨blocked, found, iff⟩, decided⟩ := List.forall_mem_cons.mp decided
      obtain ⟨bookable, more, members⟩ := ih decided
      unfold bookableFrom
      rw [found, more]
      by_cases free : slot.canApptOrNot = true
      · rw [if_pos free]
        cases blocked with
        | true =>
            refine ⟨bookable, rfl, fun other => ?_⟩
            rw [members, List.mem_cons]
            refine and_congr_left fun fit => (or_iff_right fun same => fit.2 ?_).symm
            exact same ▸ iff.mp rfl
        | false =>
            refine ⟨slot :: bookable, rfl, fun other => ?_⟩
            rw [List.mem_cons, members, List.mem_cons, or_and_right]
            refine or_congr_left (and_iff_left_of_imp fun same => ?_).symm
            subst same
            exact ⟨free, fun touched => (nomatch iff.mpr touched)⟩
      · rw [if_neg free]
        refine ⟨bookable, rfl, fun other => ?_⟩
        rw [members, List.mem_cons]
        refine and_congr_left fun fit => (or_iff_right fun same => free ?_).symm
        exact same ▸ fit.1

theorem directlyBookableSlots_eq (promised : DayPayload strptime day payload)
    (before : BeforeLastMinute strptime day payload) :
    ∃ slots, directlyBookableSlots strptime payload = .ok slots ∧
      ∀ slot, slot ∈ slots ↔ Bookable strptime day payload slot := by
  obtain ⟨intervals, found, members⟩ := enrollmentIntervals_eq
    (fun item member => by
      have listed := List.mem_append_right payload.slots member
      obtain ⟨first, last, spans⟩ := promised.timed item listed
      exact ⟨first, last, spans, before item listed first last spans⟩)
    (fun item member => (promised.named item (List.mem_append_right payload.slots member)).1)
  obtain ⟨slots, bookable, kept⟩ := bookableFrom_eq fun slot member =>
    blockedByEnrollment_eq promised before (List.mem_append_left payload.enrollSlots member) members
  refine ⟨slots, ?_, fun slot => ?_⟩
  · unfold directlyBookableSlots
    rw [found]
    exact bookable
  · rw [kept, Bookable]
    push Not
    rfl

/-! ## Published minutes -/

/-- The minute lies in a range under the name. -/
def Published (courts : CourtAvailability) (name : String) (minute : Nat) : Prop :=
  ∃ court ∈ courts, court.1 = name ∧ Inside (court.2.map FreeSlot.range) minute

theorem appendTo_eq {κ ρ : Type} [DecidableEq κ] (key : κ) (item : ρ) (table : List (κ × List ρ)) :
    appendTo key item table = extendBy key [item] table := by
  induction table with
  | nil => rfl
  | cons entry rest ih => rw [appendTo, extendBy, ih]

/-- What a slot adds to the ranges of its court. -/
def slotPart {κ : Type} (strptime : String → Option Int) (court : RawItem → Option κ)
    (slot : RawItem) : Option (κ × List FreeSlot) := do
  let key ← court slot
  let range ← freeRange strptime slot
  return (key, [range])

theorem collectRanges_eq {κ : Type} [DecidableEq κ] (court : RawItem → Option κ)
    (slots : List RawItem) :
    collectRanges strptime court slots = gather (slotPart strptime court) slots := by
  unfold collectRanges gather
  congr 1
  funext table slot
  unfold addSlot slotPart
  cases court slot with
  | none => rfl
  | some key =>
      cases freeRange strptime slot with
      | none => rfl
      | some range => exact appendTo_eq key range table

theorem inside_mergeTimeRanges {slots : List FreeSlot} {minute : Nat} :
    Inside ((mergeTimeRanges slots).map FreeSlot.range) minute ↔
      ∃ slot ∈ slots, slot.start ≤ minute ∧ minute < slot.finish := by
  have pairs : (mergeTimeRanges slots).map FreeSlot.range = merge (slots.map FreeSlot.range) := by
    rw [mergeTimeRanges, List.map_map]
    exact List.map_id _
  rw [pairs, inside_merge, Inside]
  simp only [List.mem_map, exists_exists_and_eq_and]
  rfl

variable {venue : PosPalVenue}

theorem posPalCourt_eq_some_iff {slot : RawItem} {name : String} :
    posPalCourt venue slot = some name ↔
      strip (roomName slot).str = name ∧ isStandardTennisCourt venue name = true := by
  unfold posPalCourt
  dsimp only
  split
  · rename_i standard
    rw [Option.some.injEq]
    exact ⟨fun same => ⟨same, same ▸ standard⟩, fun found => found.1⟩
  · rename_i odd
    exact ⟨fun found => (nomatch found), fun found => absurd (found.1 ▸ found.2) odd⟩

/-- The ranges under a name are those of the slots of the name. -/
theorem published_collected {slots : List RawItem} {name : String} {minute : Nat} :
    Published ((collectRanges strptime (posPalCourt venue) slots).map
        fun court => (court.1, mergeTimeRanges court.2)) name minute ↔
      ∃ slot ∈ slots, posPalCourt venue slot = some name ∧
        ∃ range, freeRange strptime slot = some range ∧
          range.start ≤ minute ∧ minute < range.finish := by
  have gathered := gathers_gather (slotPart strptime (posPalCourt venue)) slots
  rw [← collectRanges_eq] at gathered
  have part {slot : RawItem} {range : FreeSlot} :
      (∃ items, slotPart strptime (posPalCourt venue) slot = some (name, items) ∧ range ∈ items) ↔
        posPalCourt venue slot = some name ∧ freeRange strptime slot = some range := by
    simp only [slotPart, Option.bind_eq_bind, Option.bind_eq_some_iff, Option.pure_def,
      Option.some.injEq, Prod.mk.injEq]
    constructor
    · rintro ⟨_, ⟨_, found, _, read, rfl, rfl⟩, inside⟩
      rw [List.mem_singleton.mp inside]
      exact ⟨found, read⟩
    · exact fun ⟨found, read⟩ => ⟨[range], ⟨name, found, range, read, rfl, rfl⟩, List.mem_cons_self⟩
  simp only [Published, List.mem_map, exists_exists_and_eq_and, inside_mergeTimeRanges]
  constructor
  · rintro ⟨court, member, rfl, range, inside, covers⟩
    obtain ⟨slot, listed, found⟩ := (gathered.items court member range).mp inside
    obtain ⟨named, read⟩ := part.mp found
    exact ⟨slot, listed, named, range, read, covers⟩
  · rintro ⟨slot, listed, named, range, read, covers⟩
    have found := part.mpr ⟨named, read⟩
    have held := (gathered.keys name).mpr ⟨slot, listed, found.imp fun _ found => found.1⟩
    obtain ⟨court, member, rfl⟩ := List.mem_map.mp held
    exact ⟨court, member, rfl, range,
      (gathered.items court member range).mpr ⟨slot, listed, found⟩, covers⟩

/-- Rooms with one name are one court. -/
theorem courtName_eq_of_roomName {item other : RawItem} (present : item.classRoomName.truthy = true)
    (present' : other.classRoomName.truthy = true)
    (same : strip (roomName item).str = strip (roomName other).str) :
    courtName item = courtName other := by
  have clean {value : Value} (truthy : value.truthy = true) :
      cleanText value = " ".intercalate ((splitSpaces (strip value.str)).map String.ofList) := by
    rw [splitSpaces_strip]
    cases value with
    | null => exact nomatch truthy
    | text _ | other _ _ | container _ _ => rfl
  rw [roomName, roomName, Value.orElse, Value.orElse, if_pos present, if_pos present'] at same
  rw [courtName, courtName, clean present, clean present', same]

/-- What `parse_availability` publishes under a standard name: the bookable minutes of its
slots, and none of an enrollment of its court. -/
theorem parsePosPal_publishes (promised : DayPayload strptime day payload)
    (before : BeforeLastMinute strptime day payload) :
    ∃ courts, parsePosPalAvailability strptime venue payload = .ok courts ∧
      ∀ name, isStandardTennisCourt venue name = true →
        (∀ minute, Published courts name minute ↔
          ∃ slot, Bookable strptime day payload slot ∧ strip (roomName slot).str = name ∧
            Contains strptime day slot minute) ∧
        ∀ minute, Published courts name minute → ∀ enrollment ∈ payload.enrollSlots,
          strip (roomName enrollment).str = name → ¬Contains strptime day enrollment minute := by
  obtain ⟨slots, found, members⟩ := directlyBookableSlots_eq promised before
  refine ⟨(collectRanges strptime (posPalCourt venue) slots).map
    fun court => (court.1, mergeTimeRanges court.2), ?_, fun name standard => ?_⟩
  · rw [parsePosPalAvailability, posPalRanges, found]
    rfl
  have exactly (minute : Nat) : Published ((collectRanges strptime (posPalCourt venue) slots).map
      fun court => (court.1, mergeTimeRanges court.2)) name minute ↔
      ∃ slot, Bookable strptime day payload slot ∧ strip (roomName slot).str = name ∧
        Contains strptime day slot minute := by
    rw [published_collected]
    refine exists_congr fun slot => ?_
    rw [members, posPalCourt_eq_some_iff, and_iff_left standard]
    refine and_congr_right fun bookable => and_congr_right fun _ => ?_
    have listed := List.mem_append_left payload.enrollSlots bookable.1
    obtain ⟨first, last, spans⟩ := promised.timed slot listed
    rw [spans.freeRange_eq (before slot listed first last spans), spans.contains_iff]
    simp only [Option.some.injEq, exists_eq_left']
    omega
  refine ⟨exactly, fun minute published enrollment listed named contains => ?_⟩
  obtain ⟨slot, bookable, named', contains'⟩ := (exactly minute).mp published
  have inside := List.mem_append_left payload.enrollSlots bookable.1
  have inside' := List.mem_append_right payload.slots listed
  have court := courtName_eq_of_roomName (promised.named enrollment inside').2.2
    (promised.named slot inside).2.2 (named.trans named'.symm)
  exact bookable.2.2 enrollment listed
    ⟨(promised.matched enrollment inside' slot inside).mpr court, minute, contains', contains⟩

/-- An item of one court. -/
def courtItem (start finish : String) : RawItem :=
  ⟨.text "7", .null, .text "1号场", .text start, .text finish, true⟩

theorem spans_courtItem {start finish : String} {first last : Nat} (ordered : first ≤ last)
    (inDay : last < 1440) (starts : strptime start = some (86400 * day + 60 * first))
    (ends : strptime finish = some (86400 * day + 60 * last)) :
    Spans strptime day (courtItem start finish) first last :=
  ⟨ordered, inDay, ⟨start, rfl, starts⟩, ⟨finish, rfl, ends⟩⟩

theorem dayPayload_courtItems
    (timed : ∀ item ∈ payload.slots ++ payload.enrollSlots, ∃ first last,
      Spans strptime day item first last)
    (items : ∀ item ∈ payload.slots ++ payload.enrollSlots, ∃ start finish,
      item = courtItem start finish) : DayPayload strptime day payload := by
  refine ⟨timed, fun item member => ?_, fun item member other member' => ?_⟩
  · obtain ⟨start, finish, rfl⟩ := items item member
    exact ⟨(by decide : courtUid (courtItem "" "") ≠ ""),
      (by decide : cleanText (.text "1号场") ≠ ""), rfl⟩
  · obtain ⟨start, finish, rfl⟩ := items item member
    obtain ⟨start', finish', rfl⟩ := items other member'
    exact iff_of_true rfl rfl

/-- Two bookable slots of a court, and an enrollment in the second one. -/
def enrolledEvening : PosPalPayload :=
  ⟨[courtItem "2026-11-01 18:00:00" "2026-11-01 18:59:00",
    courtItem "2026-11-01 19:00:00" "2026-11-01 20:00:00"],
    [courtItem "2026-11-01 20:00:00" "2026-11-01 20:00:00"]⟩

/-- The first slot is published, and no minute of the second one is. -/
theorem parsePosPal_publishes_evening :
    ∃ courts, parsePosPalAvailability sundayTime shenyun enrolledEvening = .ok courts ∧
      (∀ minute, Published courts "1号场" minute ↔ 1080 ≤ minute ∧ minute ≤ 1139) := by
  have six : Spans sundayTime 20758
      (courtItem "2026-11-01 18:00:00" "2026-11-01 18:59:00") 1080 1139 :=
    spans_courtItem (by decide) (by decide) (by decide) (by decide)
  have seven : Spans sundayTime 20758
      (courtItem "2026-11-01 19:00:00" "2026-11-01 20:00:00") 1140 1200 :=
    spans_courtItem (by decide) (by decide) (by decide) (by decide)
  have enrolled : Spans sundayTime 20758
      (courtItem "2026-11-01 20:00:00" "2026-11-01 20:00:00") 1200 1200 :=
    spans_courtItem (by decide) (by decide) (by decide) (by decide)
  have promised : DayPayload sundayTime 20758 enrolledEvening := by
    apply dayPayload_courtItems
    · exact List.forall_mem_cons.mpr ⟨⟨_, _, six⟩, List.forall_mem_cons.mpr ⟨⟨_, _, seven⟩,
        List.forall_mem_singleton.mpr ⟨_, _, enrolled⟩⟩⟩
    · exact List.forall_mem_cons.mpr ⟨⟨_, _, rfl⟩, List.forall_mem_cons.mpr ⟨⟨_, _, rfl⟩,
        List.forall_mem_singleton.mpr ⟨_, _, rfl⟩⟩⟩
  have before : BeforeLastMinute sundayTime 20758 enrolledEvening := by
    intro item _ first last spans
    have inDay := spans.inDay
    unfold Representable lastMoment
    omega
  obtain ⟨courts, found, names⟩ := @parsePosPal_publishes sundayTime 20758 _ shenyun promised before
  refine ⟨courts, found, fun minute => ((names "1号场" (by decide)).1 minute).trans ?_⟩
  constructor
  · rintro ⟨slot, ⟨listed, -, untouched⟩, -, contains⟩
    rcases List.mem_cons.mp listed with rfl | listed
    · exact six.contains_iff.mp contains
    · rw [List.mem_singleton.mp listed] at untouched
      exact absurd ⟨rfl, 1200, seven.contains_iff.mpr ⟨by decide, by decide⟩,
        enrolled.contains_iff.mpr ⟨by decide, by decide⟩⟩ (untouched _ List.mem_cons_self)
  · intro inside
    refine ⟨_, ⟨List.mem_cons_self, rfl, ?_⟩, by decide, six.contains_iff.mpr inside⟩
    rintro enrollment member ⟨-, minute, first, second⟩
    rw [List.mem_singleton.mp member] at second
    have early := (six.contains_iff.mp first).2
    have late := (enrolled.contains_iff.mp second).1
    omega

/-- One bookable hour of a court. -/
def hour (start finish : String) : PosPalPayload :=
  ⟨[courtItem start finish], []⟩

/-- The last hour of `datetime`. -/
def lastTime (text : String) : Option Int :=
  if text = "9999-12-31 23:00:00" then some 253402297200
  else if text = "9999-12-31 23:59:00" then some 253402300740
  else none

/-- The minute behind the last one is no `datetime`. -/
theorem lastMinute_raises :
    DayPayload lastTime 2932896 (hour "9999-12-31 23:00:00" "9999-12-31 23:59:00") ∧
      ¬∃ courts, parsePosPalAvailability lastTime shenyun
        (hour "9999-12-31 23:00:00" "9999-12-31 23:59:00") = .ok courts := by
  have spans : Spans lastTime 2932896
      (courtItem "9999-12-31 23:00:00" "9999-12-31 23:59:00") 1380 1439 :=
    spans_courtItem (by decide) (by decide) (by decide) (by decide)
  refine ⟨dayPayload_courtItems (List.forall_mem_singleton.mpr ⟨_, _, spans⟩)
    (List.forall_mem_singleton.mpr ⟨_, _, rfl⟩), fun ⟨courts, found⟩ => ?_⟩
  have raised : parsePosPalAvailability lastTime shenyun
      (hour "9999-12-31 23:00:00" "9999-12-31 23:59:00") = .error () := by decide
  exact nomatch raised.symm.trans found

end TennisAlerts.Watchers
