import JobBoard.Time.Instant

/-!
Reading a point of time leniently: numbers may lack leading zeros, blanks may stand before a number and before
a separator, the date and the time are parted by `T` or a space, and the offset is `Z`, `UTC` or hours and
minutes.
-/

namespace JobBoard.Instant.Reader

/-- Digits taken from the start of a text: at least one, at most `limit`. -/
def digits (limit : Nat) (cs : List Char) : Option (List Nat × List Char) :=
  let ds := (Decimal.takeDigits cs).1.take limit
  if ds.isEmpty then none else some (ds, cs.drop ds.length)

def number (limit : Nat) (cs : List Char) : Option (Nat × List Char) :=
  (digits limit (Text.trimStart cs)).map fun (ds, r) => (Decimal.ofDigits ds, r)

/-- A year has at most four digits unless a sign stands before it. -/
def year (cs : List Char) : Option (Int × List Char) :=
  match Text.trimStart cs with
  | '-' :: r => (digits r.length r).map fun (ds, r) => (-(Decimal.ofDigits ds : Int), r)
  | '+' :: r => (digits r.length r).map fun (ds, r) => ((Decimal.ofDigits ds : Int), r)
  | r => (digits 4 r).map fun (ds, r) => ((Decimal.ofDigits ds : Int), r)

def sep (c : Char) (cs : List Char) : Option (List Char) :=
  match Text.trimStart cs with
  | d :: r => if d = c then some r else none
  | [] => none

def day (cs : List Char) : Option (Date × List Char) := do
  let (y, r) ← year cs
  let r ← sep '-' r
  let (m, r) ← number 2 r
  let r ← sep '-' r
  let (d, r) ← number 2 r
  some (⟨y, m, d⟩, r)

/-- The digits of a fraction as nanoseconds; those after the ninth do not count. -/
def fraction (cs : List Char) : Option (Nat × List Char) :=
  match cs with
  | '.' :: r =>
    match Decimal.takeDigits r with
    | ([], _) => none
    | (ds, r') => some (Decimal.ofDigits (ds.take 9) * Nat.pow 10 (9 - ds.length), r')
  | _ => some (0, cs)

def clock (cs : List Char) : Option ((Nat × Nat × Nat × Nat) × List Char) := do
  let (h, r) ← number 2 cs
  let r ← sep ':' r
  let (m, r) ← number 2 r
  let r ← sep ':' r
  let (s, r) ← number 2 r
  let (n, r) ← fraction r
  some ((h, m, s, n), r)

def twoDigits : List Char → Option (Nat × List Char)
  | a :: b :: r => do
    let x ← Decimal.digit? a
    let y ← Decimal.digit? b
    some (10 * x + y, r)
  | _ => none

def offset : List Char → Option (Int × List Char)
  | 'Z' :: r => some (0, r)
  | 'z' :: r => some (0, r)
  | c :: r =>
    if c = '+' ∨ c = '-' ∨ c = '−' then do
      let (h, r) ← twoDigits r
      let (m, r) ← twoDigits (r.dropWhile fun c => c == ':' || Text.isBlank c)
      if m < 60 then
        let n : Int := 3600 * h + 60 * m
        some (if c = '+' then n else -n, r)
      else none
    else none
  | [] => none

def zone (cs : List Char) : Option (Int × List Char) :=
  match cs with
  | a :: b :: c :: r =>
    if a.toUpper = 'U' ∧ b.toUpper = 'T' ∧ c.toUpper = 'C' then some (0, r) else offset cs
  | _ => offset cs

/-- The instant of a date and a time of day at an offset; second 60 is a leap second. -/
def assemble (d : Date) (h m s n : Nat) (off : Int) : Option Instant :=
  if d.IsValid ∧ h < 24 ∧ m < 60 ∧ s ≤ 60 ∧ off.natAbs < 86400 then
    let (s, n) := if s = 60 then (59, n + billion) else (s, n)
    let t : Instant := ⟨d.toDays * secondsPerDay + (3600 * h + 60 * m + s : Nat) - off, n⟩
    if Date.firstYear ≤ t.date.year ∧ t.date.year ≤ Date.lastYear then some t else none
  else none

def read (cs : List Char) : Option Instant := do
  let (d, r) ← day cs
  let r ← match r with
    | c :: r => if c = 'T' ∨ c = 't' ∨ c = ' ' then some r else none
    | [] => none
  let ((h, m, s, n), r) ← clock r
  let (off, r) ← zone (Text.trimStart r)
  if (Text.trimStart r).isEmpty then assemble d h m s n off else none

end JobBoard.Instant.Reader

namespace JobBoard.Instant

def ofText? (s : String) : Option Instant := Reader.read s.toList

end JobBoard.Instant
