import JobBoard.Time.Date
import JobBoard.Decimal
import JobBoard.Text.Blank

/-!
Points of time: their exact text, the short stamp shown in a table, and their distance in words.
-/

namespace JobBoard

/-- A point of time in seconds and nanoseconds from 1970-01-01; a leap second is a second with more than
`10^9` nanoseconds. -/
structure Instant where
  second : Int
  nano : Nat
  deriving DecidableEq

namespace Instant

def billion : Nat := 1000000000

def secondsPerDay : Int := 86400

def date (t : Instant) : Date := Date.ofDays (t.second / secondsPerDay)

def secondOfDay (t : Instant) : Nat := (t.second % secondsPerDay).toNat

def isLeap (t : Instant) : Bool := billion ≤ t.nano

/-- Four digits; a year with more, or below zero, has a sign. -/
def yearText (y : Int) : List Char :=
  if 0 ≤ y ∧ y ≤ 9999 then Decimal.padded 4 y.natAbs
  else (if y < 0 then '-' else '+') :: Decimal.padded 4 y.natAbs

def dateText (d : Date) : List Char :=
  yearText d.year ++ '-' :: Decimal.padded 2 d.month ++ '-' :: Decimal.padded 2 d.day

/-- No digits, or three, six or nine of them, as few as are exact. -/
def fractionText (n : Nat) : List Char :=
  if n == 0 then []
  else if n % 1000000 == 0 then '.' :: Decimal.padded 3 (n / 1000000)
  else if n % 1000 == 0 then '.' :: Decimal.padded 6 (n / 1000)
  else '.' :: Decimal.padded 9 n

/-- The exact text, such as `2025-03-09T14:05:00Z`; a leap second is written as second 60. -/
def print (t : Instant) : List Char :=
  let s := t.secondOfDay
  let second := s % 60 + if t.isLeap then 1 else 0
  dateText t.date ++ 'T' :: Decimal.padded 2 (s / 3600) ++ ':' :: Decimal.padded 2 (s / 60 % 60) ++
    ':' :: Decimal.padded 2 second ++ fractionText (t.nano % billion) ++ ['Z']

def text (t : Instant) : String := String.ofList t.print

/-- Day and minute, such as `2025-03-09 14:05`. -/
def stamp (t : Instant) : String :=
  let s := t.secondOfDay
  String.ofList (dateText t.date ++ ' ' :: Decimal.padded 2 (s / 3600) ++ ':' :: Decimal.padded 2 (s / 60 % 60))

def stampOrPlaceholder : Option Instant → String
  | some t => t.stamp
  | none => Text.placeholder

/-- Whole seconds from `t` to `now`, toward zero. A leap second counts when it lies between the two times of
day. -/
def secondsUntil (t now : Instant) : Int :=
  let leap : Int :=
    if t.secondOfDay < now.secondOfDay && t.isLeap then 1
    else if now.secondOfDay < t.secondOfDay && now.isLeap then -1
    else 0
  let nanos := (now.nano : Int) - t.nano
  let seconds := now.second - t.second + leap + nanos / billion
  if seconds < 0 && nanos % billion != 0 then seconds + 1 else seconds

def spanText (n : Nat) : String :=
  if n < 60 then s!"{n}s"
  else if n < 3600 then s!"{n / 60}m"
  else if n < 86400 then s!"{n / 3600}h"
  else s!"{n / 86400}d"

/-- The distance from `now`, such as `5m ago` or `in 3h`. -/
def relative (t now : Instant) : String :=
  let n := t.secondsUntil now
  if n < 0 then s!"in {spanText n.natAbs}" else s!"{spanText n.natAbs} ago"

def relativeOrPlaceholder (now : Instant) : Option Instant → String
  | some t => t.relative now
  | none => Text.placeholder

end Instant

end JobBoard
