import TennisAlerts.Watchers.Dashahe

/-!
# Ranges as texts

`merge_time_ranges` on the texts of its ranges.  The watchers keep their own copies of
the function; they read and write the same texts.
-/

namespace TennisAlerts.Watchers

open TennisAlerts.HostCore TennisAlerts.Intervals

/-- `int` of a text. -/
def integer (text : List Char) : Option Int :=
  let stripped := ((text.dropWhile integerSpace).reverse.dropWhile integerSpace).reverse
  let natural (digits : List Char) : Option Nat :=
    if (digits.splitOn '_').all fun part => part ≠ [] && part.all unicodeDigit then
      some (digitsValue (digits.filter (· != '_')))
    else none
  match stripped with
  | '-' :: digits => (natural digits).map fun value => -(value : Int)
  | '+' :: digits => (natural digits).map Int.ofNat
  | digits => (natural digits).map Int.ofNat

/-- `time_to_minutes`; `none` where `int` raises. -/
def timeToMinutes (time : String) : Option Int := do
  let hours ← integer (time.toList.take 2)
  let minutes ← integer (time.toList.drop 3)
  return hours * 60 + minutes

example : timeToMinutes "24:00" = some 1440 := by decide

/-- `f"{value:02d}"`. -/
def twoDigits (value : Int) : String :=
  if value < 0 then "-" ++ padded 1 value.natAbs else padded 2 value.toNat

/-- `f"{minutes // 60:02d}:{minutes % 60:02d}"`. -/
def minutesText (minutes : Int) : String :=
  twoDigits (minutes / 60) ++ ":" ++ twoDigits (minutes % 60)

/-- The two times of a range. -/
def readRange (range : String × String) : Option (Int × Int) := do
  let start ← timeToMinutes range.1
  let finish ← timeToMinutes range.2
  return (start, finish)

def rangeText (range : Int × Int) : String × String :=
  (minutesText range.1, minutesText range.2)

/-- `merge_time_ranges`; `none` where a time cannot be read. -/
def mergeTimeTexts (data : List (String × String)) : Option (List (String × String)) := do
  let ranges ← data.mapM readRange
  return (merge ranges).map rangeText

/-! ## Minutes of a day -/

theorem integer_digits {tens ones : Nat} (small : tens < 10) (small' : ones < 10) :
    integer [Nat.digitChar tens, Nat.digitChar ones] = some (10 * tens + ones : Int) := by
  have all : ∀ tens ones : Fin 10, integer [Nat.digitChar tens, Nat.digitChar ones] =
      some (10 * (tens : Nat) + (ones : Nat) : Int) := by
    decide
  exact all ⟨tens, small⟩ ⟨ones, small'⟩

theorem timeToMinutes_clockText {minute : Nat} (inDay : minute ≤ 1440) :
    timeToMinutes (clockText minute) = some (minute : Int) := by
  have hours : minute / 60 < 100 := by omega
  have minutes : minute % 60 < 100 := by omega
  have texts : (clockText minute).toList =
      [Nat.digitChar (minute / 60 / 10), Nat.digitChar (minute / 60 % 10), ':',
        Nat.digitChar (minute % 60 / 10), Nat.digitChar (minute % 60 % 10)] := by
    simp only [clockText, String.toList_append, padded_eq hours, padded_eq minutes]
    rfl
  unfold timeToMinutes
  rw [texts]
  simp only [List.take_succ_cons, List.take_zero, List.drop_succ_cons, List.drop_zero]
  rw [integer_digits (by omega) (by omega), integer_digits (by omega) (by omega)]
  simp only [Option.bind_eq_bind, Option.bind_some, Option.pure_def, Option.some.injEq]
  omega

theorem minutesText_natCast (minute : Nat) : minutesText minute = clockText minute := by
  have whole (value : Nat) : twoDigits value = padded 2 value := by
    rw [twoDigits, if_neg (by omega), Int.toNat_natCast]
  have hours : (minute : Int) / 60 = (minute / 60 : Nat) := rfl
  have minutes : (minute : Int) % 60 = (minute % 60 : Nat) := rfl
  rw [minutesText, hours, minutes, whole, whole, clockText]

/-- The range of a free slot. -/
def FreeSlot.integers (slot : FreeSlot) : Int × Int :=
  (slot.start, slot.finish)

/-- The texts of a free range. -/
def FreeSlot.texts (slot : FreeSlot) : String × String :=
  (clockText slot.start, clockText slot.finish)

theorem readRange_texts {slot : FreeSlot} (first : slot.start ≤ 1440) (last : slot.finish ≤ 1440) :
    readRange slot.texts = some slot.integers := by
  simp only [readRange, FreeSlot.texts, timeToMinutes_clockText first, timeToMinutes_clockText last]
  rfl

/-- The texts of merged ranges are the merged texts. -/
theorem mergeTimeTexts_texts {slots : List FreeSlot}
    (inDay : ∀ slot ∈ slots, slot.start ≤ 1440 ∧ slot.finish ≤ 1440) :
    mergeTimeTexts (slots.map FreeSlot.texts) =
      some ((mergeTimeRanges slots).map FreeSlot.texts) := by
  have read : (slots.map FreeSlot.texts).mapM readRange = some (slots.map FreeSlot.integers) := by
    induction slots with
    | nil => rfl
    | cons slot slots ih =>
        obtain ⟨⟨first, last⟩, inDay⟩ := List.forall_mem_cons.mp inDay
        rw [List.map_cons, List.mapM_cons, readRange_texts first last, ih inDay]
        rfl
  have cast : slots.map FreeSlot.integers =
      (slots.map FreeSlot.range).map (Prod.map Nat.cast Nat.cast) := by
    rw [List.map_map]
    rfl
  rw [mergeTimeTexts, read, cast, Option.bind_eq_bind, Option.bind_some,
    merge_map Nat.strictMono_cast, mergeTimeRanges, List.map_map, List.map_map]
  refine congrArg some (List.map_congr_left fun range _ => ?_)
  exact Prod.ext (minutesText_natCast _) (minutesText_natCast _)

end TennisAlerts.Watchers
