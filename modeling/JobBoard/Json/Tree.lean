import JobBoard.Decimal
import JobBoard.Text.Form

/-!
JSON as it is written: the tree of a text, with numbers in the digits they were written in, repeated names
kept, and texts that cannot be read told apart from those that can.
-/

namespace JobBoard.Json

/-- A number as it is written; an exponent's flag says that it is below zero. -/
structure Numeral where
  negative : Bool
  whole : List Nat
  fraction : Option (List Nat)
  exponent : Option (Bool × List Nat)
  deriving DecidableEq

/-- A text or name that holds half of a surrogate pair has no content: a reader can pass over it, but not
use it. -/
inductive Tree where
  | null
  | bool (b : Bool)
  | number (n : Numeral)
  | text (content : Option String)
  | list (items : List Tree)
  | record (fields : List (Option String × Tree))

namespace Tree

def isSpace (c : Char) : Bool := c == ' ' || c == '\n' || c == '\t' || c == '\r'

def skipSpace (cs : List Char) : List Char := cs.dropWhile isSpace

def escaped? : Char → Option Nat
  | '"' => some 34
  | '\\' => some 92
  | '/' => some 47
  | 'b' => some 8
  | 'f' => some 12
  | 'n' => some 10
  | 'r' => some 13
  | 't' => some 9
  | _ => none

def hexUnit? (a b c d : Char) : Option Nat := do
  let a ← Text.hexValue? a.toNat
  let b ← Text.hexValue? b.toNat
  let c ← Text.hexValue? c.toNat
  let d ← Text.hexValue? d.toNat
  some (((16 * a + b) * 16 + c) * 16 + d)

/-- The code points and halves of surrogate pairs up to the closing quote, and what stands after it. -/
def readUnits : List Char → Option (List Nat × List Char)
  | [] => none
  | '"' :: r => some ([], r)
  | '\\' :: 'u' :: a :: b :: c :: d :: r =>
    match hexUnit? a b c d, readUnits r with
    | some n, some (us, rest) => some (n :: us, rest)
    | _, _ => none
  | '\\' :: e :: r =>
    match escaped? e, readUnits r with
    | some n, some (us, rest) => some (n :: us, rest)
    | _, _ => none
  | ['\\'] => none
  | c :: r =>
    if c.toNat < 0x20 then none
    else match readUnits r with
      | some (us, rest) => some (c.toNat :: us, rest)
      | none => none

def isHighHalf (n : Nat) : Bool := 0xD800 ≤ n && n ≤ 0xDBFF

def isLowHalf (n : Nat) : Bool := 0xDC00 ≤ n && n ≤ 0xDFFF

/-- Joins the halves of surrogate pairs; none if a half stands alone. -/
def joinUnits : List Nat → Option (List Char)
  | [] => some []
  | h :: l :: r =>
    if isHighHalf h then
      if isLowHalf l then
        (joinUnits r).map (Char.ofNat (0x10000 + (h - 0xD800) * 0x400 + (l - 0xDC00)) :: ·)
      else none
    else if isLowHalf h then none
    else (joinUnits (l :: r)).map (Char.ofNat h :: ·)
  | [u] => if isHighHalf u || isLowHalf u then none else some [Char.ofNat u]

def readText (cs : List Char) : Option (Option String × List Char) :=
  (readUnits cs).map fun (us, r) => ((joinUnits us).map String.ofList, r)

/-- The fraction of a number, if a point follows; a point needs a digit after it. -/
def readFraction : List Char → Option (Option (List Nat) × List Char)
  | '.' :: r =>
    match Decimal.takeDigits r with
    | ([], _) => none
    | (ds, r') => some (some ds, r')
  | cs => some (none, cs)

def readExponent : List Char → Option (Option (Bool × List Nat) × List Char)
  | c :: r =>
    if c == 'e' || c == 'E' then
      let (below, r') := match r with
        | '-' :: r' => (true, r')
        | '+' :: r' => (false, r')
        | _ => (false, r)
      match Decimal.takeDigits r' with
      | ([], _) => none
      | (ds, r'') => some (some (below, ds), r'')
    else some (none, c :: r)
  | [] => some (none, [])

/-- The digits before the point: a zero alone, or digits that start with none. -/
def readWhole (cs : List Char) : Option (List Nat × List Char) :=
  match Decimal.takeDigits cs with
  | ([], _) => none
  | (0 :: _ :: _, _) => none
  | (ds, r) => some (ds, r)

def readNumeral (cs : List Char) : Option (Numeral × List Char) := do
  let (negative, r) := match cs with
    | '-' :: r => (true, r)
    | _ => (false, cs)
  let (whole, r) ← readWhole r
  let (fraction, r) ← readFraction r
  let (exponent, r) ← readExponent r
  some (⟨negative, whole, fraction, exponent⟩, r)

mutual

/-- Reads one value; `fuel` bounds the nesting and the number of parts. -/
def read : Nat → List Char → Option (Tree × List Char)
  | 0, _ => none
  | fuel + 1, cs =>
    match skipSpace cs with
    | 'n' :: 'u' :: 'l' :: 'l' :: r => some (null, r)
    | 't' :: 'r' :: 'u' :: 'e' :: r => some (bool true, r)
    | 'f' :: 'a' :: 'l' :: 's' :: 'e' :: r => some (bool false, r)
    | '"' :: r => (readText r).map fun (s, r') => (text s, r')
    | '[' :: r =>
      match skipSpace r with
      | ']' :: r' => some (list [], r')
      | r' => (readItems fuel r').map fun (ts, r'') => (list ts, r'')
    | '\x7b' :: r =>
      match skipSpace r with
      | '\x7d' :: r' => some (record [], r')
      | r' => (readFields fuel r').map fun (fs, r'') => (record fs, r'')
    | r => (readNumeral r).map fun (n, r') => (number n, r')

def readItems : Nat → List Char → Option (List Tree × List Char)
  | 0, _ => none
  | fuel + 1, cs =>
    match read fuel cs with
    | none => none
    | some (t, r) =>
      match skipSpace r with
      | ',' :: r' => (readItems fuel r').map fun (ts, r'') => (t :: ts, r'')
      | ']' :: r' => some ([t], r')
      | _ => none

def readFields : Nat → List Char → Option (List (Option String × Tree) × List Char)
  | 0, _ => none
  | fuel + 1, cs =>
    match skipSpace cs with
    | '"' :: r =>
      match readText r with
      | none => none
      | some (name, r) =>
        match skipSpace r with
        | ':' :: r =>
          match read fuel r with
          | none => none
          | some (t, r) =>
            match skipSpace r with
            | ',' :: r => (readFields fuel r).map fun (fs, r') => ((name, t) :: fs, r')
            | '\x7d' :: r => some ([(name, t)], r)
            | _ => none
        | _ => none
    | _ => none

end

/-- The tree of a whole text: one value, with nothing but space around it. -/
def ofChars (cs : List Char) : Option Tree :=
  match read (2 * cs.length + 2) cs with
  | some (t, r) => if (skipSpace r).isEmpty then some t else none
  | none => none

def ofText (s : String) : Option Tree := ofChars s.toList

end Tree

end JobBoard.Json
