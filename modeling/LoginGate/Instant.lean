import LoginGate.Number.Binary64

/-!
# Instant — points in time

Time is counted in whole microseconds from the start of 1970. Dates reach from the year 1 to the end
of the year 9999; a sum that leaves this range is no date. Tokens count in whole seconds: an instant
is written into a token as the second it lies in (`second`), while the clock that tokens are checked
against is a binary64 number of seconds (`clockSecond`), which far in the future is too coarse to
keep the last microsecond of a second apart from the next second.
-/

namespace LoginGate

/-- Microseconds since the start of 1970. -/
abbrev Instant := Int

namespace Instant

/-- Microseconds in a second. -/
def perSecond : Int := 1000000

/-- Microseconds in a day. -/
def perDay : Int := 86400000000

/-- The start of the year 1. -/
def first : Instant := -62135596800000000

/-- The last microsecond of the year 9999. -/
def last : Instant := 253402300799999999

/-- Whether an instant is a date. -/
def isDate (t : Instant) : Bool := first ≤ t && t ≤ last

/-- A date some time later or earlier than a date, if that is a date too. -/
def plus? (t : Instant) (span : Int) : Option Instant :=
  if isDate t && isDate (t + span) then some (t + span) else none

/-- Whether a span of time is short enough to be reckoned with: less than a billion days. -/
def isSpan (span : Int) : Bool := -999999999 ≤ span / perDay && span / perDay ≤ 999999999

/-- The second that an instant lies in. -/
def second (t : Instant) : Int := t / perSecond

/-- The second shown by a clock that keeps time as a binary64 number of seconds. -/
def clockSecond (t : Instant) : Int := (Binary64.ofFraction t 1000000).floor?.getD 0

end Instant
end LoginGate
