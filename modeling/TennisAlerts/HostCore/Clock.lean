import Mathlib.Algebra.Order.Ring.Int

/-!
# Instants and Shanghai calendar days

Timestamps are microseconds since the Unix epoch in UTC, the resolution of both
Python's `datetime` and PostgreSQL's `timestamptz`; they are plain integers.
Shanghai has had the fixed offset of eight hours since 1991, so a calendar day
there is an interval of 24 hours.  Days are integers too, numbered from the
epoch.
-/

namespace TennisAlerts.HostCore

/-- A duration in seconds. -/
def seconds (count : Int) : Int :=
  count * 1000000

/-- A duration in minutes. -/
def minutes (count : Int) : Int :=
  count * 60000000

/-- A duration in days. -/
def days (count : Int) : Int :=
  count * 86400000000

/-- The Shanghai calendar day of an instant. -/
def shanghaiDay (now : Int) : Int :=
  (now + minutes 480) / 86400000000

/-- The first instant of a Shanghai calendar day. -/
def dayStart (day : Int) : Int :=
  days day - minutes 480

/-- The instant of a wall-clock minute of a Shanghai calendar day. -/
def shanghaiInstant (day : Int) (minuteOfDay : Nat) : Int :=
  dayStart day + minutes minuteOfDay

end TennisAlerts.HostCore
