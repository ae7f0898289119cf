import TennisAlerts.HostCore.Domain
import TennisAlerts.Properties.LineCoverage

/-!
# Plain times

What `parse_time` accepts, and what depends on it: the order of times as texts, and the
casts of stored times in the queries of the workers.
-/

namespace TennisAlerts.HostCore

open TennisAlerts.Watchers (unicodeDigit_of_isDigit)

/-! ## Digits -/

/-- Among the ASCII characters only the ASCII digits are decimal digits. -/
theorem plain_digit {character : Char} (digit : unicodeDigit character = true)
    (plain : character.toNat < 128) : ∃ value < 10, character = Nat.digitChar value := by
  have known : ∀ first ∈ digitZeros, first = 48 ∨ 128 ≤ first := by decide
  obtain ⟨first, member, inside⟩ := List.any_eq_true.mp digit
  simp only [Bool.and_eq_true, decide_eq_true_eq] at inside
  rcases known first member with rfl | large
  · refine ⟨character.toNat - 48, by omega, ?_⟩
    rw [← Char.toNat_inj, Nat.toNat_digitChar_of_lt_ten (by omega)]
    omega
  · omega

theorem digitValue_digitChar {value : Nat} (small : value < 10) :
    digitValue (Nat.digitChar value) = value ∧ unicodeDigit (Nat.digitChar value) = true := by
  have all : ∀ value : Fin 10, digitValue (Nat.digitChar value) = value ∧
      unicodeDigit (Nat.digitChar value) = true := by
    decide
  exact all ⟨value, small⟩

/-! ## Accepted texts -/

/-- The texts of the minutes of the day are accepted. -/
theorem parseTime_clock {minute : Nat} (inDay : minute < 1440) :
    parseTime (clock minute) = .ok minute := by
  have hours : ∀ hour : Fin 24,
      hourPattern (Nat.digitChar (hour / 10)) (Nat.digitChar (hour % 10)) =
      true := by decide
  have rest : ∀ rest : Fin 60, minutePattern (Nat.digitChar (rest / 10))
      (Nat.digitChar (rest % 10)) = true := by decide
  have matched := hours ⟨minute / 60, by omega⟩
  have matched' := rest ⟨minute % 60, by omega⟩
  rw [clock_digits (by omega), parseTime, timePattern, matched, matched']
  refine congrArg Except.ok ?_
  rw [timeMinutes, (digitValue_digitChar (by omega)).1, (digitValue_digitChar (by omega)).1,
    (digitValue_digitChar (by omega)).1, (digitValue_digitChar (by omega)).1]
  omega

theorem hour_of_pattern {tens ones : Char} (matched : hourPattern tens ones = true)
    (plain : ones.toNat < 128) :
    ∃ hour < 24, tens = Nat.digitChar (hour / 10) ∧ ones = Nat.digitChar (hour % 10) := by
  have compose (first : Nat) {second : Nat} (small : second < 10) :
      (10 * first + second) / 10 = first ∧ (10 * first + second) % 10 = second := by omega
  simp only [hourPattern, Bool.or_eq_true, Bool.and_eq_true, List.contains_iff_mem,
    decide_eq_true_eq, List.mem_cons, List.not_mem_nil, or_false] at matched
  rcases matched with ⟨first, digit⟩ | ⟨rfl, last⟩
  · obtain ⟨value, small, rfl⟩ := plain_digit digit plain
    rcases first with rfl | rfl
    · exact ⟨10 * 0 + value, by omega, by rw [(compose 0 small).1]; rfl,
        by rw [(compose 0 small).2]⟩
    · exact ⟨10 * 1 + value, by omega, by rw [(compose 1 small).1]; rfl,
        by rw [(compose 1 small).2]⟩
  · rcases last with rfl | rfl | rfl | rfl
    · exact ⟨20, by omega, rfl, rfl⟩
    · exact ⟨21, by omega, rfl, rfl⟩
    · exact ⟨22, by omega, rfl, rfl⟩
    · exact ⟨23, by omega, rfl, rfl⟩

theorem minute_of_pattern {tens ones : Char} (matched : minutePattern tens ones = true)
    (plain : ones.toNat < 128) :
    ∃ minute < 60, tens = Nat.digitChar (minute / 10) ∧ ones = Nat.digitChar (minute % 10) := by
  simp only [minutePattern, Bool.and_eq_true, List.contains_iff_mem] at matched
  obtain ⟨first, digit⟩ := matched
  obtain ⟨value, small, rfl⟩ := plain_digit digit plain
  have known : ∀ character ∈ ['0', '1', '2', '3', '4', '5'],
      ∃ value < 6, character = Nat.digitChar value := by
    simp only [List.forall_mem_cons]
    exact ⟨⟨0, by omega, rfl⟩, ⟨1, by omega, rfl⟩, ⟨2, by omega, rfl⟩, ⟨3, by omega, rfl⟩,
      ⟨4, by omega, rfl⟩, ⟨5, by omega, rfl⟩, nofun⟩
  obtain ⟨decade, few, rfl⟩ := known tens first
  refine ⟨10 * decade + value, by omega, ?_, ?_⟩
  · rw [show (10 * decade + value) / 10 = decade by omega]
  · rw [show (10 * decade + value) % 10 = value by omega]

/-- What is accepted and consists of ASCII characters is the text of a minute of the day. -/
theorem clock_of_plain {text : List Char} (matched : timePattern text = true)
    (plain : ∀ character ∈ text, character.toNat < 128) : ∃ minute < 1440, text = clock minute := by
  unfold timePattern at matched
  split at matched
  · rename_i a b c d
    obtain ⟨hours, rest⟩ := Bool.and_eq_true_iff.mp matched
    obtain ⟨hour, small, rfl, rfl⟩ := hour_of_pattern hours (plain b (by simp))
    obtain ⟨minute, few, rfl, rfl⟩ := minute_of_pattern rest (plain d (by simp))
    refine ⟨60 * hour + minute, by omega, ?_⟩
    rw [clock_digits (by omega), show (60 * hour + minute) / 60 = hour by omega,
      show (60 * hour + minute) % 60 = minute by omega]
  · exact nomatch matched

theorem clock_plain {minute : Nat} (inDay : minute ≤ 1440) {character : Char}
    (inside : character ∈ clock minute) : character.toNat < 128 := by
  have digit {value : Nat} (small : value < 10) : (Nat.digitChar value).toNat < 128 := by
    rw [Nat.toNat_digitChar_of_lt_ten small]
    omega
  rw [clock_digits inDay] at inside
  simp only [List.mem_cons, List.not_mem_nil, or_false] at inside
  rcases inside with rfl | rfl | rfl | rfl | rfl
  · exact digit (by omega)
  · exact digit (by omega)
  · decide
  · exact digit (by omega)
  · exact digit (by omega)

/-! ## What depends on it -/

/-- The time stands in a slot or a subscription that was validated. -/
def Stated (fromIsoFormat : String → Option Int) (text : String) : Prop :=
  (∃ value slot, validateSlot fromIsoFormat value = .ok slot ∧
    (text = slot.startTime ∨ text = slot.endTime)) ∨
  ∃ startTime endTime, validateTimes startTime endTime = .ok () ∧
    (text = startTime ∨ text = endTime)

/-- `parse_time` accepts `HH:MM` in ASCII digits only; the times that are validated compare as
texts as they do as minutes, and a query that casts the starts of stored slots returns. -/
structure PlainTimes (fromIsoFormat : String → Option Int) (castTime : List Char → Option Nat)
    (texts : List String) : Prop where
  accepted : ∀ text ∈ texts,
    (∃ minute, parseTime text.toList = .ok minute) ↔ ∃ minute < 1440, text.toList = clock minute
  ordered : ∀ text ∈ texts, ∀ other ∈ texts,
    Stated fromIsoFormat text → Stated fromIsoFormat other →
      ∀ minute minute', parseTime text.toList = .ok minute →
        parseTime other.toList = .ok minute' → (text.toList < other.toList ↔ minute < minute')
  castable : ∀ rows : List SlotObservation,
    (∀ row ∈ rows, row.startTime ∈ texts ∧ ∃ value, validateSlot fromIsoFormat value = .ok row) →
      ∃ minutes, rows.mapM (fun row => castTime row.startTime.toList) = some minutes

/-- The texts that match the pattern consist of ASCII characters. -/
def PlainDigits (texts : List String) : Prop :=
  ∀ text ∈ texts, timePattern text.toList = true →
    ∀ character ∈ text.toList, character.toNat < 128

theorem Stated.matched {fromIsoFormat : String → Option Int} {text : String}
    (stated : Stated fromIsoFormat text) : ∃ minute, parseTime text.toList = .ok minute := by
  rcases stated with ⟨value, slot, valid, times⟩ | ⟨startTime, endTime, valid, times⟩
  · obtain ⟨day, start, finish, -, -, -, parsed, parsed', -, rfl⟩ := validateSlot_ok_iff.mp valid
    rcases times with rfl | rfl
    · exact ⟨start, parsed⟩
    · exact ⟨finish, parsed'⟩
  · obtain ⟨start, finish, parsed, parsed', -⟩ := validateTimes_ok_iff.mp valid
    rcases times with rfl | rfl
    · exact ⟨start, parsed⟩
    · exact ⟨finish, parsed'⟩

/-- Times are plain exactly when the texts that match the pattern are ASCII. -/
theorem plainTimes_iff_plainDigits (fromIsoFormat : String → Option Int)
    {castTime : List Char → Option Nat}
    (casts : ∀ minute < 1440, castTime (clock minute) = some minute) (texts : List String) :
    PlainTimes fromIsoFormat castTime texts ↔ PlainDigits texts := by
  constructor
  · intro times text member matched character inside
    obtain ⟨minute, inDay, same⟩ := (times.accepted text member).mp
      ⟨_, parseTime_ok_iff.mpr ⟨matched, rfl⟩⟩
    exact clock_plain (by omega) (same ▸ inside)
  · intro plain
    have accepted {text : String} (member : text ∈ texts) {minute : Nat}
        (parsed : parseTime text.toList = .ok minute) :
        minute < 1440 ∧ text.toList = clock minute := by
      obtain ⟨matched, value⟩ := parseTime_ok_iff.mp parsed
      obtain ⟨minute', inDay, same⟩ := clock_of_plain matched (plain text member matched)
      rw [same, parseTime_clock inDay, Except.ok.injEq] at parsed
      exact parsed ▸ ⟨inDay, same⟩
    refine ⟨fun text member => ⟨?_, ?_⟩, ?_, ?_⟩
    · rintro ⟨minute, parsed⟩
      exact ⟨minute, accepted member parsed⟩
    · rintro ⟨minute, inDay, same⟩
      exact ⟨minute, same ▸ parseTime_clock inDay⟩
    · intro text member other member' _ _ minute minute' parsed parsed'
      obtain ⟨inDay, same⟩ := accepted member parsed
      obtain ⟨inDay', same'⟩ := accepted member' parsed'
      rw [same, same']
      exact ⟨lt_of_clock_lt (by omega), fun less => clock_lt less (by omega)⟩
    · intro rows stored
      induction rows with
      | nil => exact ⟨[], rfl⟩
      | cons row rows ih =>
          obtain ⟨minutes, rest⟩ :=
            ih fun other member => stored other (List.mem_cons_of_mem row member)
          obtain ⟨member, value, valid⟩ := stored row List.mem_cons_self
          have stated : Stated fromIsoFormat row.startTime := .inl ⟨value, row, valid, .inl rfl⟩
          obtain ⟨minute, parsed⟩ := stated.matched
          obtain ⟨inDay, same⟩ := accepted member parsed
          refine ⟨minute :: minutes, ?_⟩
          rw [List.mapM_cons, rest, same, casts minute inDay]
          rfl

/-- A cast that knows the texts of the minutes of the day. -/
def plainCast (text : List Char) : Option Nat :=
  (List.range 1440).find? fun minute => clock minute = text

theorem find_clock {minutes : List Nat} {minute : Nat} (member : minute ∈ minutes)
    (inDay : ∀ other ∈ minutes, other < 1440) :
    (minutes.find? fun other => clock other = clock minute) = some minute := by
  cases found : minutes.find? fun other => clock other = clock minute with
  | none => exact absurd rfl (of_decide_eq_false
      (Bool.eq_false_iff.mpr (List.find?_eq_none.mp found minute member)))
  | some other =>
      have chosen := List.find?_some found
      have same : clock other = clock minute := of_decide_eq_true chosen
      have early := inDay other (List.mem_of_find?_eq_some found)
      have early' := inDay minute member
      have low : other ≤ minute := le_of_clock_le (by omega) (le_of_eq same)
      have high : minute ≤ other := le_of_clock_le (by omega) (le_of_eq same.symm)
      rw [le_antisymm low high]

theorem plainCast_clock {minute : Nat} (inDay : minute < 1440) :
    plainCast (clock minute) = some minute :=
  find_clock (List.mem_range.mpr inDay) fun _ => List.mem_range.mp

theorem plainTimes_iff_plainDigits_evening :
    PlainTimes (fun _ => some 20758) plainCast ["18:00", "20:00"] ↔
      PlainDigits ["18:00", "20:00"] :=
  plainTimes_iff_plainDigits _ (fun _ => plainCast_clock) _

/-- A time with two Arabic-Indic digits. -/
theorem foreignDigits_accepted :
    ¬PlainTimes (fun _ => some 20758) plainCast ["1٣:0٣"] := by
  intro times
  have parsed : parseTime "1٣:0٣".toList = .ok 783 := by decide
  obtain ⟨minute, inDay, same⟩ := (times.accepted _ List.mem_cons_self).mp ⟨783, parsed⟩
  have foreign : '٣' ∈ "1٣:0٣".toList := by decide
  exact absurd (clock_plain (by omega) (same ▸ foreign)) (by decide)

end TennisAlerts.HostCore
