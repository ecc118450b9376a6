import JobBoard.Address.Fold
import JobBoard.Address.Host
import JobBoard.Address.Punycode

/-!
A reader of names: characters in their plain forms, and the labels with others than those of ASCII in code. Characters
are not composed, and the rules for the direction of writing, for joiners and for unassigned characters are left out.
-/

namespace JobBoard.Address.Names

def isForbidden (c : Char) : Bool :=
  c.toNat ≤ 0x20 || c.toNat == 0x7F || "%#/:<>?@[\\]^|".toList.contains c

def isMark (c : Char) : Bool :=
  Text.Property.holds Text.Property.extend c.toNat || Text.Property.holds Text.Property.spacingMark c.toNat

def isAscii (cs : List Char) : Bool := cs.all (·.toNat < 128)

/-- Code points that stand for no character of a text. -/
def isUnusable (c : Char) : Bool :=
  let n := c.toNat
  (0x80 ≤ n && n < 0xA0) || n == 0xFFFD || n == 0x2028 || n == 0x2029 || (0x202A ≤ n && n ≤ 0x202E) ||
    (0xE000 ≤ n && n ≤ 0xF8FF) || (0xFDD0 ≤ n && n ≤ 0xFDEF) || 0xFFFE ≤ n % 65536 || 0xE0000 ≤ n

def isLabelText (cs : List Char) : Bool :=
  (match cs with
    | c :: _ => !isMark c
    | [] => true) && !cs.any isUnusable

def labelText? (cs : List Char) : Option (List Char) :=
  if isAscii cs then
    match cs with
    | 'x' :: 'n' :: '-' :: '-' :: r =>
      match Punycode.decode r with
      | some d =>
        if !isAscii d && isLabelText d && d.flatMap Fold.char == d && Punycode.encode d == r then some cs else none
      | none => none
    | _ => some cs
  else if isLabelText cs then some ("xn--".toList ++ Punycode.encode cs)
  else none

def domain? (cs : List Char) : Option (List Char) :=
  let folded := cs.flatMap Fold.char
  if folded.any isForbidden then none
  else ((splitOn '.' folded).mapM labelText?).map (joinWith '.')

instance : Names where
  ascii? := domain?

end JobBoard.Address.Names
