/-!
The bytes of a text in UTF-8, and the text of bytes in which every ill-formed part becomes one replacement
character. A byte is a number below 256.
-/

namespace JobBoard.Text.Utf8

def encodeChar (c : Char) : List Nat :=
  let n := c.toNat
  if n < 0x80 then [n]
  else if n < 0x800 then [0xC0 + n / 0x40, 0x80 + n % 0x40]
  else if n < 0x10000 then [0xE0 + n / 0x1000, 0x80 + n / 0x40 % 0x40, 0x80 + n % 0x40]
  else [0xF0 + n / 0x40000, 0x80 + n / 0x1000 % 0x40, 0x80 + n / 0x40 % 0x40, 0x80 + n % 0x40]

def encode (cs : List Char) : List Nat := cs.flatMap encodeChar

def replacement : Char := Char.ofNat 0xFFFD

def isTail (b : Nat) : Bool := 0x80 ≤ b && b ≤ 0xBF

/-- The bytes that may follow the first byte of a character of three bytes: no longer form than needed,
and no surrogate. -/
def isSecondOfThree (a b : Nat) : Bool :=
  if a == 0xE0 then 0xA0 ≤ b && b ≤ 0xBF
  else if a == 0xED then 0x80 ≤ b && b ≤ 0x9F
  else isTail b

/-- The bytes that may follow the first byte of a character of four bytes: no longer form than needed,
and nothing above the last character. -/
def isSecondOfFour (a b : Nat) : Bool :=
  if a == 0xF0 then 0x90 ≤ b && b ≤ 0xBF
  else if a == 0xF4 then 0x80 ≤ b && b ≤ 0x8F
  else isTail b

/-- The longest start of a character that the next byte breaks off becomes one replacement character. -/
def decodeLossy : List Nat → List Char
  | [] => []
  | a :: r =>
    if a < 0x80 then Char.ofNat a :: decodeLossy r
    else if 0xC2 ≤ a && a ≤ 0xDF then
      match r with
      | b :: r' =>
        if isTail b then Char.ofNat ((a - 0xC0) * 0x40 + (b - 0x80)) :: decodeLossy r'
        else replacement :: decodeLossy (b :: r')
      | [] => [replacement]
    else if 0xE0 ≤ a && a ≤ 0xEF then
      match r with
      | b :: r' =>
        if isSecondOfThree a b then
          match r' with
          | c :: r'' =>
            if isTail c then
              Char.ofNat ((a - 0xE0) * 0x1000 + (b - 0x80) * 0x40 + (c - 0x80)) :: decodeLossy r''
            else replacement :: decodeLossy (c :: r'')
          | [] => [replacement]
        else replacement :: decodeLossy (b :: r')
      | [] => [replacement]
    else if 0xF0 ≤ a && a ≤ 0xF4 then
      match r with
      | b :: r' =>
        if isSecondOfFour a b then
          match r' with
          | c :: r'' =>
            if isTail c then
              match r'' with
              | d :: r''' =>
                if isTail d then
                  Char.ofNat ((a - 0xF0) * 0x40000 + (b - 0x80) * 0x1000 + (c - 0x80) * 0x40 + (d - 0x80)) ::
                    decodeLossy r'''
                else replacement :: decodeLossy (d :: r''')
              | [] => [replacement]
            else replacement :: decodeLossy (c :: r'')
          | [] => [replacement]
        else replacement :: decodeLossy (b :: r')
      | [] => [replacement]
    else replacement :: decodeLossy r

def isWellFormed (bs : List Nat) : Bool := encode (decodeLossy bs) == bs

end JobBoard.Text.Utf8
