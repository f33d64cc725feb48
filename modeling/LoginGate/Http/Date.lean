import LoginGate.Instant
import LoginGate.Number.IntegerText

/-!
# Http/Date — dates in header fields

A date in a header field is written in a fixed layout in English, to the second. The calendar is
reckoned in eras of 400 years that start in March, so that the leap day comes last.
-/

namespace LoginGate.Http.Date

/-- A day of the calendar. -/
structure Day where
  year : Int
  month : Nat
  day : Nat

/-- The day that comes some days after the start of 1970. -/
def ofDays (days : Int) : Day :=
  let z := days + 719468
  let era := z / 146097
  let dayOfEra := (z % 146097).toNat
  let yearOfEra := (dayOfEra - dayOfEra / 1460 + dayOfEra / 36524 - dayOfEra / 146096) / 365
  let dayOfYear := dayOfEra - (365 * yearOfEra + yearOfEra / 4 - yearOfEra / 100)
  let shifted := (5 * dayOfYear + 2) / 153
  let month := if shifted < 10 then shifted + 3 else shifted - 9
  { year := yearOfEra + era * 400 + (if month ≤ 2 then 1 else 0)
    month, day := dayOfYear - (153 * shifted + 2) / 5 + 1 }

/-- The days of the week, from the first day of 1970 on. -/
def weekdays : List String := ["Thu", "Fri", "Sat", "Sun", "Mon", "Tue", "Wed"]

/-- The months. -/
def months : List String :=
  ["Jan", "Feb", "Mar", "Apr", "May", "Jun", "Jul", "Aug", "Sep", "Oct", "Nov", "Dec"]

/-- A number with at least some digits. -/
def padded (width n : Nat) : String :=
  let ds := Number.decimal n
  String.ofList (List.replicate (width - ds.length) '0' ++ ds)

/-- **A second as a date.** -/
def text (second : Int) : String :=
  let days := second / 86400
  let rest := (second % 86400).toNat
  let d := ofDays days
  let weekday := (weekdays[(days % 7).toNat]?).getD ""
  let month := (months[d.month - 1]?).getD ""
  weekday ++ ", " ++ padded 2 d.day ++ " " ++ month ++ " " ++ padded 4 d.year.toNat ++ " " ++
    padded 2 (rest / 3600) ++ ":" ++ padded 2 (rest / 60 % 60) ++ ":" ++ padded 2 (rest % 60) ++
    " GMT"

/-- The second that lies some seconds after an instant. The clock's seconds and the sum are binary64
numbers, and what is left of a second is rounded to microseconds; so the last half microsecond of a
second, and more of it far in the future, counts as the next one. -/
def secondAfter (now : Instant) (seconds : Int) : Option Int := do
  let (n, d) ← (Binary64.ofFraction now 1000000).toFraction?
  let (n, d) ← (Binary64.ofFraction (n + seconds * d) d).toFraction?
  let whole := n / d
  let rest := (n % d).toNat
  some (if 1000000 ≤ Binary64.divNearest (rest * 1000000) d then whole + 1 else whole)

/-- **The date some seconds after an instant**, unless it lies past the last date. -/
def after? (now : Instant) (seconds : Int) : Option String :=
  match secondAfter now seconds with
  | some second => if Instant.isDate (second * Instant.perSecond) then some (text second) else none
  | none => none

end LoginGate.Http.Date
