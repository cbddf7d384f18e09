/-
  GuestPorts/Time/Basic.lean
  ==========================
  **Moments in UTC**, kept as what a calendar and a clock show, and their text.

  A date of the proleptic Gregorian calendar, a time of day, and nanoseconds.  Second
  60 is a leap second.  Keeping the civil form rather than a count of seconds makes
  writing and reading a matter of digits; only a shift by an offset and the count
  since the epoch (`Moment.ofUnix`) need the calendar.
-/
import GuestPorts.Text.Basic

namespace GuestPorts

/-- A date of the proleptic Gregorian calendar; year 0 comes before year 1. -/
structure Date where
  year : Int
  month : Nat
  day : Nat
  deriving DecidableEq, Repr, Inhabited

namespace Date

/-- Every fourth year, but of the hundreds only every fourth. -/
def isLeapYear (year : Int) : Bool :=
  year % 4 == 0 && (year % 100 != 0 || year % 400 == 0)

def daysInMonth (year : Int) (month : Nat) : Nat :=
  match month with
  | 2 => if isLeapYear year then 29 else 28
  | 4 | 6 | 9 | 11 => 30
  | _ => 31

def minYear : Int := -262143
def maxYear : Int := 262142

/-- A day that the calendar has, in a year that can be kept. -/
def Valid (d : Date) : Prop :=
  minYear ≤ d.year ∧ d.year ≤ maxYear ∧ 1 ≤ d.month ∧ d.month ≤ 12
    ∧ 1 ≤ d.day ∧ d.day ≤ daysInMonth d.year d.month

instance (d : Date) : Decidable d.Valid := by unfold Valid; infer_instance

def next (d : Date) : Date :=
  if d.day < daysInMonth d.year d.month then { d with day := d.day + 1 }
  else if d.month < 12 then { d with month := d.month + 1, day := 1 }
  else { year := d.year + 1, month := 1, day := 1 }

def previous (d : Date) : Date :=
  if 1 < d.day then { d with day := d.day - 1 }
  else if 1 < d.month then
    { d with month := d.month - 1, day := daysInMonth d.year (d.month - 1) }
  else { year := d.year - 1, month := 12, day := 31 }

/-- The date a number of days after 1 January 1970.

    Days are counted from 1 March of year 0, so that the leap day ends its year; an
    era is the 400 years after which the calendar repeats. -/
def ofDays (days : Int) : Date :=
  let z := days + 719468
  let era := z / 146097
  let dayOfEra := (z % 146097).toNat
  let yearOfEra :=
    (dayOfEra - dayOfEra / 1460 + dayOfEra / 36524 - dayOfEra / 146096) / 365
  let dayOfYear := dayOfEra - (365 * yearOfEra + yearOfEra / 4 - yearOfEra / 100)
  let monthFromMarch := (5 * dayOfYear + 2) / 153
  let day := dayOfYear - (153 * monthFromMarch + 2) / 5 + 1
  let month := if monthFromMarch < 10 then monthFromMarch + 3 else monthFromMarch - 9
  let year := (yearOfEra : Int) + era * 400
  { year := if month ≤ 2 then year + 1 else year, month, day }

end Date

structure Moment where
  date : Date
  hour : Nat
  minute : Nat
  second : Nat
  nanos : Nat
  deriving DecidableEq, Repr, Inhabited

namespace Moment

/-- A moment that the calendar and a clock with leap seconds can show. -/
def Valid (t : Moment) : Prop :=
  t.date.Valid ∧ t.hour < 24 ∧ t.minute < 60 ∧ t.second ≤ 60 ∧ t.nanos < 1000000000

instance (t : Moment) : Decidable t.Valid := by unfold Valid; infer_instance

/-- The moment a number of seconds and nanoseconds after the epoch.  A leap second is
    the second before it with a thousand million nanoseconds or more. -/
def ofUnix (seconds : Int) (nanos : Nat) : Moment :=
  let secondOfDay := (seconds % 86400).toNat
  let leap := 1000000000 ≤ nanos
  { date := Date.ofDays (seconds / 86400)
    hour := secondOfDay / 3600
    minute := secondOfDay / 60 % 60
    second := secondOfDay % 60 + if leap then 1 else 0
    nanos := if leap then nanos - 1000000000 else nanos }

/-- The moment in UTC of a local time that is `minutes` ahead of UTC, less than a
    day either way. -/
def atOffset (t : Moment) (minutes : Int) : Moment :=
  let shifted := (t.hour * 60 + t.minute : Nat) - minutes
  let ofDay := (shifted % 1440).toNat
  { t with
    date := if shifted < 0 then t.date.previous
      else if shifted < 1440 then t.date
      else t.date.next
    hour := ofDay / 60
    minute := ofDay % 60 }

/-! ### Writing -/

open GuestPorts.Text (padded)

/-- A year; those before year 0 and after 9999 have a sign. -/
def yearChars (year : Int) : List Char :=
  if year < 0 then '-' :: padded 4 year.natAbs
  else if 9999 < year then '+' :: padded 4 year.natAbs
  else padded 4 year.natAbs

/-- A fraction of a second with its point, in groups of three digits. -/
def fractionChars (nanos : Nat) : List Char :=
  if nanos = 0 then []
  else if nanos % 1000000 = 0 then '.' :: padded 3 (nanos / 1000000)
  else if nanos % 1000 = 0 then '.' :: padded 6 (nanos / 1000)
  else '.' :: padded 9 nanos

def secondsChars (t : Moment) : List Char :=
  yearChars t.date.year ++ '-' :: padded 2 t.date.month ++ '-' :: padded 2 t.date.day
    ++ 'T' :: padded 2 t.hour ++ ':' :: padded 2 t.minute ++ ':' :: padded 2 t.second

def toChars (t : Moment) : List Char := t.secondsChars ++ fractionChars t.nanos ++ ['Z']

def text (t : Moment) : String := String.ofList t.toChars

/-- Date and time in full, the offset of UTC behind. -/
def textWithOffset (t : Moment) : String :=
  String.ofList (t.secondsChars ++ fractionChars t.nanos) ++ "+00:00"

/-- Date and time to the second, `Z` behind. -/
def textToSecond (t : Moment) : String := String.ofList t.secondsChars ++ "Z"

end Moment

end GuestPorts
