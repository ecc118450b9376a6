import JobBoard.Text.Utf8

/-!
Percent signs and hexadecimal digits for bytes, and the form in which a list of named values is written into
a query: `name=value` pairs joined by `&`, with `+` for a space.
-/

namespace JobBoard.Text

def hexDigit (n : Nat) : Char :=
  if n < 10 then Char.ofNat (48 + n) else Char.ofNat (55 + n)

def hexValue? (b : Nat) : Option Nat :=
  if 48 ≤ b && b ≤ 57 then some (b - 48)
  else if 65 ≤ b && b ≤ 70 then some (b - 55)
  else if 97 ≤ b && b ≤ 102 then some (b - 87)
  else none

def percentByte (b : Nat) : List Char := ['%', hexDigit (b / 16), hexDigit (b % 16)]

/-- A percent sign without two hexadecimal digits stands for itself. -/
def percentDecode : List Nat → List Nat
  | [] => []
  | 37 :: h :: l :: r =>
    match hexValue? h, hexValue? l with
    | some x, some y => (16 * x + y) :: percentDecode r
    | _, _ => 37 :: percentDecode (h :: l :: r)
  | b :: r => b :: percentDecode r

namespace Form

def isPlain (b : Nat) : Bool :=
  (48 ≤ b && b ≤ 57) || (65 ≤ b && b ≤ 90) || (97 ≤ b && b ≤ 122) ||
    b == 42 || b == 45 || b == 46 || b == 95

def encodeByte (b : Nat) : List Char :=
  if isPlain b then [Char.ofNat b] else if b == 32 then ['+'] else percentByte b

def encodeText (s : String) : List Char := (Utf8.encode s.toList).flatMap encodeByte

def encodePair (p : String × String) : List Char := encodeText p.1 ++ '=' :: encodeText p.2

def encode (pairs : List (String × String)) : List Char :=
  List.intercalate ['&'] (pairs.map encodePair)

def decodeText (bs : List Nat) : String :=
  String.ofList (Utf8.decodeLossy (percentDecode (bs.map fun b => if b == 43 then 32 else b)))

def splitAt (sep : Nat) : List Nat → List (List Nat)
  | [] => [[]]
  | b :: r =>
    if b == sep then [] :: splitAt sep r
    else match splitAt sep r with
      | [] => [[b]]
      | part :: parts => (b :: part) :: parts

/-- The first `=` parts name and value; a part without one is a name with an empty value. -/
def decodePair (bs : List Nat) : String × String :=
  (decodeText (bs.takeWhile (· != 61)), decodeText ((bs.dropWhile (· != 61)).drop 1))

def decode (cs : List Char) : List (String × String) :=
  ((splitAt 38 (Utf8.encode cs)).filter (!·.isEmpty)).map decodePair

end Form

end JobBoard.Text
