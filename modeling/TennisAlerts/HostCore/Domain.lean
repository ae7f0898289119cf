import TennisAlerts.HostCore.WechatQueue
import Mathlib.Data.List.Forall2

/-!
# Slots and subscriptions of requests

`domain.py`: the texts that a request carries, before anything is stored.  `\d` and
`int` accept every Unicode decimal digit; `date.fromisoformat` is a parameter.
-/

namespace TennisAlerts.HostCore

/-! ## Times -/

/-- The value of a decimal digit in `int`. -/
def digitValue (character : Char) : Nat :=
  match digitZeros.find? fun first => first ≤ character.toNat && character.toNat ≤ first + 9 with
  | some first => character.toNat - first
  | none => 0

/-- `(?:[01]\d|2[0-3])`. -/
def hourPattern (tens ones : Char) : Bool :=
  (['0', '1'].contains tens && unicodeDigit ones) ||
    (tens = '2' && ['0', '1', '2', '3'].contains ones)

/-- `[0-5]\d`. -/
def minutePattern (tens ones : Char) : Bool :=
  ['0', '1', '2', '3', '4', '5'].contains tens && unicodeDigit ones

/-- `TIME_PATTERN.fullmatch`. -/
def timePattern : List Char → Bool
  | [a, b, ':', c, d] => hourPattern a b && minutePattern c d
  | _ => false

/-- Hours and minutes of a time, by `int`. -/
def timeMinutes : List Char → Nat
  | [a, b, _, c, d] =>
      (10 * digitValue a + digitValue b) * 60 + (10 * digitValue c + digitValue d)
  | _ => 0

/-- `parse_time`. -/
def parseTime (text : List Char) : Except String Nat :=
  if timePattern text then .ok (timeMinutes text) else .error "时间格式无效"

example : parseTime "18:05".toList = .ok 1085 := by decide

/-! ## Slots -/

/-- What `validate_slot` reads of a mapping. -/
structure RawSlot where
  date : String
  courtName : String
  startTime : String
  endTime : String
  deriving DecidableEq

structure SlotObservation where
  bookingDate : Int
  courtName : String
  startTime : String
  endTime : String
  deriving DecidableEq

/-- `validate_slot`. -/
def validateSlot (fromIsoFormat : String → Option Int) (value : RawSlot) :
    Except String SlotObservation :=
  match fromIsoFormat value.date with
  | none => .error "场地数据无效"
  | some bookingDate => do
      let courtName := strip value.courtName
      if courtName = "" ∨ 100 < courtName.length then
        .error "场地数据无效"
      else
        let start ← parseTime value.startTime.toList
        let finish ← parseTime value.endTime.toList
        if finish ≤ start then .error "场地时段无效"
        else .ok ⟨bookingDate, courtName, value.startTime, value.endTime⟩

theorem parseTime_ok_iff {text : List Char} {minute : Nat} :
    parseTime text = .ok minute ↔ timePattern text = true ∧ timeMinutes text = minute := by
  unfold parseTime
  split
  · rename_i matched
    rw [Except.ok.injEq, and_iff_right matched]
  · rename_i unmatched
    exact ⟨fun found => (nomatch found), fun found => absurd found.1 unmatched⟩

/-- What `validate_slot` accepts. -/
theorem validateSlot_ok_iff {fromIsoFormat : String → Option Int} {value : RawSlot}
    {slot : SlotObservation} :
    validateSlot fromIsoFormat value = .ok slot ↔
      ∃ day start finish, fromIsoFormat value.date = some day ∧ strip value.courtName ≠ "" ∧
        (strip value.courtName).length ≤ 100 ∧ parseTime value.startTime.toList = .ok start ∧
        parseTime value.endTime.toList = .ok finish ∧ start < finish ∧
        slot = ⟨day, strip value.courtName, value.startTime, value.endTime⟩ := by
  unfold validateSlot
  cases dated : fromIsoFormat value.date with
  | none => exact ⟨fun found => (nomatch found), fun ⟨_, _, _, found, _⟩ => (nomatch found)⟩
  | some day =>
      dsimp only
      split
      · rename_i unnamed
        refine ⟨fun found => (nomatch found), ?_⟩
        rintro ⟨_, _, _, -, named, short, -⟩
        rcases unnamed with empty | long
        · exact absurd empty named
        · omega
      · rename_i named
        simp only [not_or, Nat.not_lt] at named
        cases parsed : parseTime value.startTime.toList with
        | error message =>
            exact ⟨fun found => (nomatch found),
              fun ⟨_, _, _, _, _, _, found, _⟩ => (nomatch found)⟩
        | ok start =>
            cases parsed' : parseTime value.endTime.toList with
            | error message =>
                exact ⟨fun found => (nomatch found),
                  fun ⟨_, _, _, _, _, _, _, found, _⟩ => (nomatch found)⟩
            | ok finish =>
                simp only [bind, Except.bind]
                split
                · rename_i late
                  refine ⟨fun found => (nomatch found), ?_⟩
                  rintro ⟨_, _, _, -, -, -, ⟨⟩, ⟨⟩, early, -⟩
                  omega
                · rename_i early
                  constructor
                  · rintro ⟨⟩
                    exact ⟨day, start, finish, rfl, named.1, named.2, rfl, rfl, by omega, rfl⟩
                  · rintro ⟨_, _, _, ⟨⟩, -, -, -, -, -, rfl⟩
                    rfl

/-- What `validate_observation` reads of the venue and the slots. -/
structure RawObservation where
  venueId : String
  slots : List RawSlot

structure VenueObservation where
  venueId : String
  slots : List SlotObservation
  deriving DecidableEq

/-- `validate_observation`, before slots with one event key are merged. -/
def validateObservation (fromIsoFormat : String → Option Int) (value : RawObservation) :
    Except String VenueObservation :=
  if strip value.venueId ∈ venueIds then do
    let slots ← value.slots.mapM (validateSlot fromIsoFormat)
    return ⟨strip value.venueId, slots⟩
  else .error "场地数据无效"

/-- `unique`: the last slot of each event key, in the order of the keys. -/
def uniqueSlots (eventKey : SlotObservation → String) (slots : List SlotObservation) :
    List SlotObservation :=
  (sortedSet (slots.map eventKey)).filterMap fun key =>
    slots.reverse.find? fun slot => eventKey slot = key

theorem exists_of_forall₂ {α β : Type} {related : α → β → Prop} {items : List α} {results : List β}
    (all : List.Forall₂ related items results) {result : β} (member : result ∈ results) :
    ∃ item ∈ items, related item result := by
  induction all with
  | nil => exact absurd member List.not_mem_nil
  | cons first rest ih =>
      rcases List.mem_cons.mp member with rfl | member
      · exact ⟨_, List.mem_cons_self, first⟩
      · obtain ⟨item, inside, found⟩ := ih member
        exact ⟨item, List.mem_cons_of_mem _ inside, found⟩

theorem exists_of_forall₂' {α β : Type} {related : α → β → Prop} {items : List α}
    {results : List β} (all : List.Forall₂ related items results) {item : α}
    (member : item ∈ items) : ∃ result ∈ results, related item result := by
  obtain ⟨result, inside, found⟩ := exists_of_forall₂ all.flip member
  exact ⟨result, inside, found⟩

theorem mapM_ok_iff {α β ε : Type} {act : α → Except ε β} {items : List α} {results : List β} :
    items.mapM act = .ok results ↔
      List.Forall₂ (fun item result => act item = .ok result) items results := by
  induction items generalizing results with
  | nil =>
      rw [List.mapM_nil, List.forall₂_nil_left_iff]
      exact ⟨fun same => (Except.ok.inj same).symm, fun same => same ▸ rfl⟩
  | cons item items ih =>
      rw [List.mapM_cons, List.forall₂_cons_left_iff]
      cases first : act item with
      | error raised => exact ⟨fun same => (nomatch same), fun ⟨_, _, same, _⟩ => (nomatch same)⟩
      | ok result =>
          cases more : items.mapM act with
          | error raised =>
              refine ⟨fun same => (nomatch same), ?_⟩
              rintro ⟨_, rest, -, all, -⟩
              exact nomatch more.symm.trans (ih.mpr all)
          | ok rest =>
              constructor
              · rintro ⟨⟩
                exact ⟨result, rest, rfl, ih.mp more, rfl⟩
              · rintro ⟨_, rest', ⟨⟩, all, rfl⟩
                cases more.symm.trans (ih.mpr all)
                rfl

/-- What the items give, in their order. -/
theorem mem_of_mapM {α β ε : Type} {act : α → Except ε β} {items : List α} {results : List β}
    (found : items.mapM act = .ok results) {result : β} :
    result ∈ results ↔ ∃ item ∈ items, act item = .ok result := by
  have all := mapM_ok_iff.mp found
  constructor
  · exact exists_of_forall₂ all
  · rintro ⟨item, member, given⟩
    obtain ⟨other, inside, same⟩ := exists_of_forall₂' all member
    cases given.symm.trans same
    exact inside

theorem mapM_ok_of_forall {α β ε : Type} {act : α → Except ε β} {items : List α}
    (accepted : ∀ item ∈ items, ∃ result, act item = .ok result) :
    ∃ results, items.mapM act = .ok results := by
  induction items with
  | nil => exact ⟨[], rfl⟩
  | cons item items ih =>
      obtain ⟨result, first⟩ := accepted item List.mem_cons_self
      obtain ⟨results, rest⟩ :=
        ih fun other member => accepted other (List.mem_cons_of_mem item member)
      refine ⟨result :: results, ?_⟩
      rw [List.mapM_cons, first, rest]
      rfl

/-- The check of `validate_subscription` on its times. -/
def validateTimes (startTime endTime : String) : Except String Unit := do
  let start ← parseTime startTime.toList
  let finish ← parseTime endTime.toList
  if finish ≤ start then .error "结束时间必须晚于开始时间" else .ok ()

theorem validateTimes_ok_iff {startTime endTime : String} :
    validateTimes startTime endTime = .ok () ↔
      ∃ start finish, parseTime startTime.toList = .ok start ∧
        parseTime endTime.toList = .ok finish ∧ start < finish := by
  unfold validateTimes
  cases parsed : parseTime startTime.toList with
  | error message => exact ⟨fun found => (nomatch found), fun ⟨_, _, found, _⟩ => (nomatch found)⟩
  | ok start =>
      cases parsed' : parseTime endTime.toList with
      | error message =>
          exact ⟨fun found => (nomatch found), fun ⟨_, _, _, found, _⟩ => (nomatch found)⟩
      | ok finish =>
          simp only [bind, Except.bind]
          split
          · rename_i late
            refine ⟨fun found => (nomatch found), ?_⟩
            rintro ⟨_, _, ⟨⟩, ⟨⟩, early⟩
            omega
          · rename_i early
            exact ⟨fun _ => ⟨start, finish, rfl, rfl, by omega⟩, fun _ => rfl⟩

end TennisAlerts.HostCore
