import JobBoard.Json.Tree

/-!
Numbers that are no integers: reading the digits of a numeral as a double-precision number, and writing such a
number with the fewest digits that read back.
-/

namespace JobBoard.Json

inductive Number where
  | int (n : Int)
  | real (x : Float)

namespace Real

/-- Reads digits into a 64-bit word; the second part counts the digits from the first one that does not fit. -/
def takeWhole : Nat → List Nat → Nat × Nat
  | n, [] => (n, 0)
  | n, d :: ds => if 10 * n + d < 1 <<< 64 then takeWhole (10 * n + d) ds else (n, ds.length + 1)

def takeFraction : Nat → List Nat → Nat × Nat
  | n, [] => (n, 0)
  | n, d :: ds =>
    if 10 * n + d < 1 <<< 64 then
      let (m, k) := takeFraction (10 * n + d) ds
      (m, k + 1)
    else (n, 0)

def powerOfTen (n : Nat) : Float := Float.ofScientific 1 false n

/-- `x` times ten to the given exponent, one rounding for every 308 places; none beyond the largest number. -/
def scale : Nat → Float → Int → Option Float
  | 0, _, _ => some 0
  | fuel + 1, x, e =>
    if e.natAbs ≤ 308 then
      if 0 ≤ e then
        let y := x * powerOfTen e.natAbs
        if y.isInf then none else some y
      else some (x / powerOfTen e.natAbs)
    else if x == 0 then some x
    else if 0 ≤ e then none
    else scale fuel (x / powerOfTen 308) (e + 308)

def exponentOf : Option (Bool × List Nat) → Int
  | none => 0
  | some (below, ds) => if below then -(Decimal.ofDigits ds : Int) else Decimal.ofDigits ds

/-- The double-precision number for a numeral; none if it is out of range. -/
def ofNumeral (n : Numeral) : Option Float :=
  let (w, dropped) := takeWhole 0 n.whole
  let (s, taken) := takeFraction w (n.fraction.getD [])
  let x := scale 4 (UInt64.ofNat s).toFloat ((dropped : Int) - taken + exponentOf n.exponent)
  x.map fun x => if n.negative then -x else x

/-- The interval of numbers that round to `m · 2^q`, and `m · 2^q` itself, times a common power that makes all
three natural numbers; the last part is that power. -/
def bounds (m : Nat) (q : Int) (gapBelowIsHalf : Bool) : Nat × Nat × Nat × Nat :=
  let up := (q - 2).toNat
  let down := (2 - q).toNat
  let low := if gapBelowIsHalf then 4 * m - 1 else 4 * m - 2
  (low <<< up, (4 * m) <<< up, (4 * m + 2) <<< up, 1 <<< down)

def powerFits (k : Int) (num den : Nat) : Bool :=
  den * Nat.pow 10 k.toNat ≤ num * Nat.pow 10 (-k).toNat

/-- The greatest exponent of ten that is at most `num / den`, from an estimate that is not above it. -/
def leadingExponent : Nat → Int → Nat → Nat → Int
  | 0, k, _, _ => k
  | fuel + 1, k, num, den =>
    if powerFits (k + 1) num den then leadingExponent fuel (k + 1) num den else k

/-- The shortest decimal among those with `count` digits or more that lies between the bounds. -/
def shortestFrom : Nat → Nat → Int → (low mid high den : Nat) → Bool → Nat × Int
  | 0, _, k, _, _, _, _, _ => (0, k)
  | fuel + 1, count, k, low, mid, high, den, closed =>
    let grid := k - ((count : Int) - 1)
    let unit := den * Nat.pow 10 grid.toNat
    let stretch := Nat.pow 10 (-grid).toNat
    let below := mid * stretch / unit
    let inside (d : Nat) : Bool :=
      if closed then low * stretch ≤ d * unit && d * unit ≤ high * stretch
      else low * stretch < d * unit && d * unit < high * stretch
    let belowIn := inside below
    let aboveIn := inside (below + 1)
    let twice := 2 * (mid * stretch - below * unit)
    if belowIn && aboveIn then
      if twice < unit || (twice == unit && below % 2 == 0) then (below, grid) else (below + 1, grid)
    else if belowIn then (below, grid)
    else if aboveIn then (below + 1, grid)
    else shortestFrom fuel (count + 1) k low mid high den closed

/-- The fewest digits that read back as the positive number with these bits, and the exponent of the last. -/
def shortest (bits : Nat) : Nat × Int :=
  let mantissa : Nat := bits % 1 <<< 52
  let biased : Nat := bits / 1 <<< 52 % 1 <<< 11
  let m : Nat := if biased == 0 then mantissa else mantissa + 1 <<< 52
  let q : Int := if biased == 0 then -1074 else (biased : Int) - 1075
  let (low, mid, high, den) := bounds m q (mantissa == 0 && biased > 1)
  let estimate := ((Nat.log2 m : Int) + q) * 30103 / 100000 - 2
  let k := leadingExponent 5 estimate mid den
  shortestFrom 17 1 k low mid high den (m % 2 == 0)

def dropZeros : Nat → Nat → Nat × Nat
  | 0, n => (n, 0)
  | fuel + 1, n =>
    if n != 0 && n % 10 == 0 then
      let (m, k) := dropZeros fuel (n / 10)
      (m, k + 1)
    else (n, 0)

def exponentText (e : Int) : List Char := 'e' :: (if e < 0 then '-' else '+') :: Decimal.natText e.natAbs

/-- Places up to 16 before the point and 5 zeros after it are written out; otherwise an exponent follows. -/
def placed (n : Nat) (e : Int) : List Char :=
  let ds := Decimal.natText n
  let len : Int := ds.length
  let point := len + e
  if 0 ≤ e && point ≤ 16 then ds ++ List.replicate e.toNat '0' ++ ['.', '0']
  else if 0 < point && point ≤ 16 then ds.take point.toNat ++ '.' :: ds.drop point.toNat
  else if -5 < point && point ≤ 0 then '0' :: '.' :: List.replicate (-point).toNat '0' ++ ds
  else if len == 1 then ds ++ exponentText (point - 1)
  else ds.take 1 ++ '.' :: ds.drop 1 ++ exponentText (point - 1)

def print (x : Float) : List Char :=
  let bits := x.toBits.toNat
  let sign := if bits ≥ 1 <<< 63 then ['-'] else []
  let bits := bits % 1 <<< 63
  if bits == 0 then sign ++ ['0', '.', '0']
  else
    let (n, e) := shortest bits
    let (n, zeros) := dropZeros 20 n
    sign ++ placed n (e + zeros)

end Real

/-- A numeral without fraction and exponent is an integer if it fits 64 bits; minus zero is not one. -/
def Number.ofNumeral (n : Numeral) : Option Number :=
  let real := (Real.ofNumeral n).map Number.real
  match n.fraction, n.exponent with
  | none, none =>
    let w := Decimal.ofDigits n.whole
    if n.negative then
      if w != 0 && w ≤ 1 <<< 63 then some (.int (-(w : Int))) else real
    else if w < 1 <<< 64 then some (.int w) else real
  | _, _ => real

end JobBoard.Json
