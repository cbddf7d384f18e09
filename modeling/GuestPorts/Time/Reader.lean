/-
  GuestPorts/Time/Reader.lean
  ===========================
  **Reading a moment** from text, more leniently than it is written.

  The parts stand in the usual order, `year-month-day`, a `T` or a blank, then
  `hour:minute:second`, a fraction, and an offset from UTC.  Blanks may stand before
  each number and around the separators; numbers but the year have one or two digits;
  a signed year has any number of digits; an offset is `Z`, `UTC` or signed hours and
  minutes with colons or blanks between them, or nothing.  What is read is a day that
  exists and a time of that day, in UTC.
-/
import GuestPorts.Time.Basic
import GuestPorts.Text.Basic

namespace GuestPorts

inductive TimeError where
  | outOfRange
  | impossible
  | invalid
  | tooShort
  | tooLong
  deriving DecidableEq, Repr

def TimeError.message : TimeError → String
  | .outOfRange => "input is out of range"
  | .impossible => "no possible date and time matching input"
  | .invalid => "input contains invalid characters"
  | .tooShort => "premature end of input"
  | .tooLong => "trailing input"

namespace Moment

open GuestPorts.Text (isDigit digitValue valueOf trimStart isBlank)

def frontDigits (width : Nat) (cs : List Char) : List Char := (cs.take width).takeWhile isDigit

def checkDigits (run cs : List Char) : Except TimeError (Nat × List Char) :=
  match run, cs with
  | [], [] => .error .tooShort
  | [], _ :: _ => .error .invalid
  | _ :: _, _ =>
    if valueOf run < Nat.pow 2 63 then .ok (valueOf run, cs.drop run.length) else .error .outOfRange

def number (width low high : Nat) (cs : List Char) : Except TimeError (Nat × List Char) := do
  let cs := trimStart cs
  let (n, rest) ← checkDigits (frontDigits width cs) cs
  if low ≤ n ∧ n ≤ high then return (n, rest) else throw .outOfRange

/-- A year: four digits at most, or a sign and any number of digits. -/
def year (cs : List Char) : Except TimeError (Int × List Char) := do
  let (y, rest) ←
    match trimStart cs with
    | '-' :: r => do
      let (n, rest) ← checkDigits (r.takeWhile isDigit) r
      pure (-(n : Int), rest)
    | '+' :: r => do
      let (n, rest) ← checkDigits (r.takeWhile isDigit) r
      pure ((n : Int), rest)
    | r => do
      let (n, rest) ← checkDigits (frontDigits 4 r) r
      pure ((n : Int), rest)
  if -2147483648 ≤ y ∧ y < 2147483648 then return (y, rest) else throw .outOfRange

def separator (sep : Char) (cs : List Char) : Except TimeError (List Char) :=
  match trimStart cs with
  | [] => .error .tooShort
  | c :: r => if c = sep then .ok r else .error .invalid

/-- A fraction of a second if a point stands there; digits behind the ninth are
    passed over. -/
def fraction : List Char → Except TimeError (Nat × List Char)
  | '.' :: r => do
    let run := frontDigits 9 r
    let (n, rest) ← checkDigits run r
    return (n * Nat.pow 10 (9 - run.length), rest.dropWhile isDigit)
  | cs => .ok (0, cs)

def twoDigits : List Char → Except TimeError ((Char × Char) × List Char)
  | a :: b :: rest => if isDigit a && isDigit b then .ok ((a, b), rest) else .error .invalid
  | [c] => .error (if c.utf8Size = 1 then .tooShort else .invalid)
  | [] => .error .tooShort

/-- Hours and minutes behind the sign of an offset, in minutes. -/
def offsetSize (cs : List Char) : Except TimeError (Nat × List Char) := do
  let ((h1, h2), rest) ← twoDigits cs
  let ((m1, m2), rest) ← twoDigits (rest.dropWhile fun c => c = ':' || isBlank c)
  if digitValue m1 < 6 then
    return (60 * (10 * digitValue h1 + digitValue h2) + 10 * digitValue m1 + digitValue m2, rest)
  else throw .outOfRange

def offset (cs : List Char) : Except TimeError (Int × List Char) :=
  match cs with
  | [] => .error .tooShort
  | 'Z' :: r | 'z' :: r => .ok (0, r)
  | '+' :: r => do
    let (n, rest) ← offsetSize r
    return ((n : Int), rest)
  | '-' :: r | '\u2212' :: r => do
    let (n, rest) ← offsetSize r
    return (-(n : Int), rest)
  | a :: b :: c :: r =>
    if (a = 'U' || a = 'u') && (b = 'T' || b = 't') && (c = 'C' || c = 'c') then .ok (0, r)
    else .error .invalid
  | _ => .error .invalid

def dayMark : List Char → Except TimeError (List Char)
  | [] => .error .tooShort
  | c :: r => if c = 'T' || c = 't' || c = ' ' then .ok r else .error .invalid

/-- A local time in UTC: it is of a day that exists, and in UTC it is of one too. -/
def inUtc (t : Moment) (ahead : Int) : Except TimeError Moment :=
  if ¬ t.date.Valid then .error .outOfRange
  else if ahead ≤ -1440 ∨ 1440 ≤ ahead then .error .outOfRange
  else if ¬ (t.atOffset ahead).date.Valid then .error .impossible
  else .ok (t.atOffset ahead)

/-- Read a moment; the whole text has to be used, blanks at its end apart. -/
def ofChars (cs : List Char) : Except TimeError Moment := do
  let (y, cs) ← year cs
  let (month, cs) ← number 2 1 12 (← separator '-' cs)
  let (day, cs) ← number 2 1 31 (← separator '-' cs)
  let (hour, cs) ← number 2 0 23 (← dayMark cs)
  let (minute, cs) ← number 2 0 59 (← separator ':' cs)
  let (second, cs) ← number 2 0 60 (← separator ':' cs)
  let (nanos, cs) ← fraction cs
  let (ahead, cs) ← offset (trimStart cs)
  if !(trimStart cs).isEmpty then throw .tooLong
  else inUtc { date := { year := y, month, day }, hour, minute, second, nanos } ahead

end Moment

end GuestPorts
