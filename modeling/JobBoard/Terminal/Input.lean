import JobBoard.Board.Input
import JobBoard.Decimal

/-!
The characters that a terminal sends for keys and for the mouse.
-/

namespace JobBoard

inductive Input where
  | key (k : Key)
  | mouse (m : Mouse)
  | ignored
  deriving DecidableEq

namespace Input

def plainKey (code : KeyCode) : Input := .key { code }

/-- A control sequence: the character behind the bracket if it marks the sequence as private, its numbers, and
its last character. -/
structure Sequence where
  mark : Option Char := none
  numbers : List Nat
  final : Char

def isMark (c : Char) : Bool := '<' ≤ c && c ≤ '?'

/-- The numbers between semicolons; what is no number counts as zero. -/
def numbersOf (cs : List Char) : List Nat :=
  (cs.splitOn ';').map fun ds => (Decimal.readNat? ds).getD 0

def sequence? (cs : List Char) : Option (Sequence × List Char) :=
  let mark := cs.head?.filter isMark
  let body := if mark.isSome then cs.drop 1 else cs
  let parameters := body.takeWhile fun c => c.isDigit || c == ';'
  match body.drop parameters.length with
  | final :: rest => some ({ mark, numbers := numbersOf parameters, final }, rest)
  | [] => none

def arrow? : Char → Option KeyCode
  | 'A' => some .up
  | 'B' => some .down
  | 'C' => some .right
  | 'D' => some .left
  | 'H' => some .home
  | 'F' => some .last
  | _ => none

def numbered : Nat → KeyCode
  | 1 | 7 => .home
  | 4 | 8 => .last
  | 5 => .pageUp
  | 6 => .pageDown
  | _ => .other

/-- A key with what is held down beside it: one more than the sum of 1, 2 and 4 for the three keys. -/
def heldKey (code : KeyCode) (held : Option Nat) : Key :=
  let m := held.getD 1 - 1
  { code, shift := m.testBit 0, alt := m.testBit 1, ctrl := m.testBit 2 }

/-- What the mouse does, from the number of a report; releases end in another character. -/
def mouseAction (button : Nat) (isRelease : Bool) : MouseAction :=
  let isMove := button.testBit 5
  let n := button % 4 + button / 64 % 4 * 4
  if isMove then .other
  else if n == 0 && !isRelease then .pressLeft
  else if n == 4 then .scrollUp
  else if n == 5 then .scrollDown
  else .other

def ofSequence (s : Sequence) : Input :=
  match s.mark, s.numbers, s.final with
  | some '<', [button, column, row], final =>
    if (final == 'M' || final == 'm') && 0 < column && 0 < row then
      .mouse { action := mouseAction button (final == 'm'), column := column - 1, row := row - 1 }
    else .ignored
  | none, n :: more, '~' => .key (heldKey (numbered n) more.head?)
  | none, _, 'Z' => .key { code := .backTab, shift := true }
  | none, numbers, final =>
    match arrow? final with
    | some code => .key (heldKey code numbers[1]?)
    | none => .ignored
  | _, _, _ => .ignored

def ofChar (c : Char) : Key :=
  let n := c.toNat
  if c == '\r' then { code := .enter }
  else if c == '\t' then { code := .tab }
  else if n == 0 then { code := .char ' ', ctrl := true }
  else if n ≤ 26 then { code := .char (Char.ofNat (n + 96)), ctrl := true }
  else if 28 ≤ n && n ≤ 31 then { code := .char (Char.ofNat (n + 24)), ctrl := true }
  else if n == 127 then { code := .other }
  else { code := .char c, shift := c.isUpper }

def next? : List Char → Option (Input × List Char)
  | [] => none
  | '\x1b' :: [] => some (plainKey .escape, [])
  | '\x1b' :: '[' :: cs =>
    match sequence? cs with
    | some (s, rest) => some (ofSequence s, rest)
    | none => some (.ignored, [])
  | '\x1b' :: 'O' :: c :: cs => some (plainKey ((arrow? c).getD .other), cs)
  | '\x1b' :: '\x1b' :: cs => some (plainKey .escape, cs)
  | '\x1b' :: c :: cs => some (.key { ofChar c with alt := true }, cs)
  | c :: cs => some (.key (ofChar c), cs)

def readAll : (fuel : Nat) → List Char → List Input
  | 0, _ => []
  | fuel + 1, cs =>
    match next? cs with
    | some (i, rest) => i :: readAll fuel rest
    | none => []

def ofText (s : String) : List Input := readAll s.length s.toList

end Input

end JobBoard
