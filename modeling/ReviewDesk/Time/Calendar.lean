-- Dates of the Gregorian calendar, carried back and forth without end, and instants as
-- RFC 3339 text in UTC.
import ReviewDesk.Time.Instant

namespace ReviewDesk

/-- A day of the Gregorian calendar. Year 0 is the year before year 1. -/
structure Date where
  year : Int
  month : Int
  day : Int
  deriving DecidableEq, Repr

namespace Date

/-- The date that is a number of days after 1970-01-01.

Years are counted from March, so that a leap day is the last of its year. `era` is a span of
400 years, which always has 146097 days, and `marchYear` and `marchDay` count within it. -/
def ofDays (days : Int) : Date :=
  let shifted := days + 719468
  let era := shifted / 146097
  let dayOfEra := shifted % 146097
  let marchYear := (dayOfEra - dayOfEra / 1460 + dayOfEra / 36524 - dayOfEra / 146096) / 365
  let marchDay := dayOfEra - (365 * marchYear + marchYear / 4 - marchYear / 100)
  let marchMonth := (5 * marchDay + 2) / 153
  let day := marchDay - (153 * marchMonth + 2) / 5 + 1
  let month := if marchMonth < 10 then marchMonth + 3 else marchMonth - 9
  { year := era * 400 + marchYear + (if month ≤ 2 then 1 else 0), month, day }

end Date

namespace Instant

/-! ## Fields -/

def date (t : Instant) : Date := Date.ofDays (t.seconds / 86400)

def hour (t : Instant) : Int := t.seconds % 86400 / 3600

def minute (t : Instant) : Int := t.seconds % 3600 / 60

def second (t : Instant) : Int := t.seconds % 60

/-! ## RFC 3339 -/

/-- The last digits of a number, as many as asked for. -/
def lastDigits : Nat → Nat → List Char
  | 0, _ => []
  | width + 1, n => lastDigits width (n / 10) ++ [Nat.digitChar (n % 10)]

/-- A number in at least four digits. -/
def fourOrMore (n : Nat) : List Char :=
  if n < 10000 then lastDigits 4 n else (toString n).toList

/-- A year. From 0 to 9999 it has four digits, and otherwise a sign as well. -/
def yearText (year : Int) : List Char :=
  if 0 ≤ year ∧ year ≤ 9999 then lastDigits 4 year.toNat
  else (if year < 0 then '-' else '+') :: fourOrMore year.natAbs

/-- The part of a second, in none, three, six or nine digits: the fewest that are exact. -/
def fractionText (nanos : Nat) : List Char :=
  if nanos = 0 then []
  else if nanos % 1000000 = 0 then '.' :: lastDigits 3 (nanos / 1000000)
  else if nanos % 1000 = 0 then '.' :: lastDigits 6 (nanos / 1000)
  else '.' :: lastDigits 9 nanos

/-- The instant in the form `2017-07-14T02:40:00Z`. -/
def rfc3339 (t : Instant) : String :=
  let two (n : Int) := lastDigits 2 n.toNat
  String.ofList <|
    yearText t.date.year ++ '-' :: two t.date.month ++ '-' :: two t.date.day ++
      'T' :: two t.hour ++ ':' :: two t.minute ++ ':' :: two t.second ++
      fractionText t.subsecond.toNat ++ ['Z']

end Instant

end ReviewDesk
