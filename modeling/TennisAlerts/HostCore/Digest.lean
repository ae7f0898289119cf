import TennisAlerts.HostCore.Clock
import Mathlib.Data.List.Basic
import Mathlib.Data.List.Infix

/-!
# Reminder texts

The texts of a subscriber digest: calendar dates, slot lines, and the subject
and body that one email makes of several lines.  Python's `str.strip` removes
every character for which `str.isspace` holds, which is a larger set than the
ASCII blanks.
-/

namespace TennisAlerts.HostCore

/-- `str.isspace` of one character. -/
def pythonSpace (character : Char) : Bool :=
  let code := character.toNat
  (9 ≤ code && code ≤ 13) || (28 ≤ code && code ≤ 32) || code = 0x85 || code = 0xa0 ||
    code = 0x1680 || (0x2000 ≤ code && code ≤ 0x200a) || code = 0x2028 ||
    code = 0x2029 || code = 0x202f || code = 0x205f || code = 0x3000

/-- `str.strip`. -/
def strip (text : String) : String :=
  String.ofList
    ((text.toList.dropWhile pythonSpace).reverse.dropWhile pythonSpace).reverse

/-! ## Calendar dates -/

/-- Year, month and day of a day number in the proleptic Gregorian calendar. -/
def civilDate (day : Int) : Int × Int × Int :=
  let shifted := day + 719468
  let era := shifted / 146097
  let dayOfEra := shifted - era * 146097
  let yearOfEra :=
    (dayOfEra - dayOfEra / 1460 + dayOfEra / 36524 - dayOfEra / 146096) / 365
  let dayOfYear := dayOfEra - (365 * yearOfEra + yearOfEra / 4 - yearOfEra / 100)
  let monthIndex := (5 * dayOfYear + 2) / 153
  let month := if monthIndex < 10 then monthIndex + 3 else monthIndex - 9
  let year := yearOfEra + era * 400
  (if month ≤ 2 then year + 1 else year, month, dayOfYear - (153 * monthIndex + 2) / 5 + 1)

/-- `date.isoweekday`: Monday is 1 and Sunday is 7. -/
def isoWeekday (day : Int) : Nat :=
  ((day + 3) % 7).toNat + 1

/-- Decimal digits, padded with zeros on the left. -/
def padded (width : Nat) (value : Nat) : String :=
  let digits := Nat.toDigits 10 value
  String.ofList (List.replicate (width - digits.length) '0' ++ digits)

/-- `date.isoformat`. -/
def isoDate (day : Int) : String :=
  let (year, month, dayOfMonth) := civilDate day
  padded 4 year.toNat ++ "-" ++ padded 2 month.toNat ++ "-" ++ padded 2 dayOfMonth.toNat

/-- `date.strftime("%m-%d")`. -/
def monthDay (day : Int) : String :=
  let (_, month, dayOfMonth) := civilDate day
  padded 2 month.toNat ++ "-" ++ padded 2 dayOfMonth.toNat

/-- `HH:MM` of a minute of the day. -/
def clockText (minuteOfDay : Nat) : String :=
  padded 2 (minuteOfDay / 60) ++ ":" ++ padded 2 (minuteOfDay % 60)

example : isoDate 20759 = "2026-11-02" := by decide
example : isoWeekday 20759 = 1 := by decide

/-! ## Digests -/

/-- `format_digest`: the distinct non-blank lines in order, or `none` where the
source raises. -/
def formatDigest (lines : List String) : Option (String × String) :=
  match ((lines.map strip).filter fun line => line != "").eraseDups with
  | [] => none
  | [line] => some (line, line)
  | line :: rest =>
      some (line ++ " 等 " ++ toString (rest.length + 1) ++ " 个时段",
        "\n".intercalate (line :: rest))

def subscriberDigestNote : String :=
  "这些空场与你订阅的打球时间段有交叠。微信群消息仍按场地发送，不按个人时段过滤。"

/-- `with_subscriber_digest_note`: append the channel note once. -/
def withSubscriberDigestNote (body : String) : String :=
  if subscriberDigestNote.toList <:+: body.toList then body
  else body ++ "\n\n" ++ subscriberDigestNote

/-- The body of a subscriber digest for one booking date. -/
def subscriberBody (body : String) (bookingDate : Int) : String :=
  withSubscriberDigestNote body ++
    "\n\n已有场地？暂停 " ++ isoDate bookingDate ++
    " 的提醒：\nhttps://courts.zacks.vision/?pauseDate=" ++ isoDate bookingDate

end TennisAlerts.HostCore
