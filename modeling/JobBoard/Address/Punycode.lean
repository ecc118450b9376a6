import JobBoard.Decimal

/-!
Labels of a domain name with characters beyond ASCII, written in ASCII: the plain characters first, then the
others as differences in a number system whose digits are letters and digits.
-/

namespace JobBoard.Address.Punycode

def digitChar (d : Nat) : Char := if d < 26 then Char.ofNat (97 + d) else Char.ofNat (22 + d)

def digit? (c : Char) : Option Nat :=
  let n := c.toNat
  if 97 ≤ n && n ≤ 122 then some (n - 97)
  else if 65 ≤ n && n ≤ 90 then some (n - 65)
  else if 48 ≤ n && n ≤ 57 then some (n - 22)
  else none

/-- The bound below which a digit at place `k` ends its number. -/
def threshold (k bias : Nat) : Nat :=
  if k ≤ bias + 1 then 1 else if bias + 26 ≤ k then 26 else k - bias

def shrink (delta k : Nat) : Nat × Nat :=
  if 455 < delta then shrink (delta / 35) (k + 36) else (delta, k)
termination_by delta
decreasing_by omega

/-- The bias for the next number after one of size `delta` among `count` characters. -/
def adapt (delta count : Nat) (first : Bool) : Nat :=
  let d := if first then delta / 700 else delta / 2
  let (d, k) := shrink (d + d / count) 0
  k + 36 * d / (d + 38)

def number (bias : Nat) : Nat → Nat → Nat → List Char
  | 0, _, _ => []
  | fuel + 1, k, n =>
    let t := threshold k bias
    if n < t then [digitChar n]
    else digitChar (t + (n - t) % (36 - t)) :: number bias fuel (k + 36) ((n - t) / (36 - t))

structure Coder where
  written : List Char
  delta : Nat
  bias : Nat
  handled : Nat

/-- Passes one character of the label while those with code `n` are being written. -/
def Coder.pass (plain n : Nat) (s : Coder) (c : Nat) : Coder :=
  if c < n then { s with delta := s.delta + 1 }
  else if c = n then
    { written := s.written ++ number s.bias 40 36 s.delta
      delta := 0
      bias := adapt s.delta (s.handled + 1) (s.handled == plain)
      handled := s.handled + 1 }
  else s

/-- Writes the characters with the given codes, which are in ascending order; `from` is the first code that has
not been written. -/
def Coder.write (label : List Nat) (plain : Nat) : List Nat → Nat → Coder → Coder
  | [], _, s => s
  | n :: ns, start, s =>
    let s := { s with delta := s.delta + (n - start) * (s.handled + 1) }
    let s := label.foldl (Coder.pass plain n) s
    Coder.write label plain ns (n + 1) { s with delta := s.delta + 1 }

def encode (label : List Char) : List Char :=
  let codes := label.map Char.toNat
  let plain := label.filter (·.toNat < 128)
  let others := (codes.filter (128 ≤ ·)).mergeSort.eraseDups
  let s := Coder.write codes plain.length others 128 ⟨[], 0, 72, plain.length⟩
  plain ++ (if plain.isEmpty then [] else ['-']) ++ s.written

def readNumber (bias : Nat) : Nat → Nat → Nat → List Char → Option (Nat × List Char)
  | _, _, _, [] => none
  | k, weight, i, c :: cs =>
    match digit? c with
    | none => none
    | some d =>
      let t := threshold k bias
      if d < t then some (i + d * weight, cs) else readNumber bias (k + 36) (weight * (36 - t)) (i + d * weight) cs

def insertAll : Nat → List Nat → Nat → Nat → Nat → List Char → Option (List Nat)
  | _, label, _, _, _, [] => some label
  | 0, _, _, _, _, _ => none
  | fuel + 1, label, n, i, bias, cs =>
    match readNumber bias 36 1 i cs with
    | none => none
    | some (j, r) =>
      let count := label.length + 1
      let n := n + j / count
      let place := j % count
      if 0x10FFFF < n || (0xD800 ≤ n && n ≤ 0xDFFF) then none
      else
        insertAll fuel (label.take place ++ n :: label.drop place) n (place + 1)
          (adapt (j - i) count (i == 0)) r

/-- The label that was written in ASCII; the last hyphen ends its plain characters. -/
def decode (cs : List Char) : Option (List Char) :=
  let tail := (cs.reverse.takeWhile (· != '-')).reverse
  let plain := if tail.length == cs.length then [] else cs.take (cs.length - tail.length - 1)
  (insertAll tail.length (plain.map Char.toNat) 128 0 72 tail).map (·.map Char.ofNat)

end JobBoard.Address.Punycode
