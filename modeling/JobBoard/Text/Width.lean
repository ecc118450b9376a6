import JobBoard.Text.Property

/-!
The number of terminal columns that a text takes. It can take fewer or more columns than its characters one by one,
because some of them join into one picture or one letter. A text is measured from its end: what stands behind a
character tells what it can join to.
-/

namespace JobBoard.Text

def isControl (c : Char) : Bool := c.toNat < 0x20 || (0x7F ≤ c.toNat && c.toNat < 0xA0)

/-- The columns of a character alone; a control character takes none. -/
def charWidth (c : Char) : Nat :=
  let n := c.toNat
  if n < 0x7F then if n < 0x20 then 0 else 1
  else if isControl c || Property.holds Property.zeroWidth n then 0
  else if n == 0x17D8 then 3
  else if Property.holds Property.wide n then 2
  else 1

/-- What a character finds behind it. The first group are parts of pictures and flags, the second one are letters that
can join to the one before them, also with a joiner in between, which the flag of the letter tells. -/
inductive Behind where
  | nothing
  | lineFeed
  | picture
  | skinTone
  | flag
  | flags
  | joinedPicture
  | joinedKeycap
  | joinedFlag
  | evenFlags
  | oddFlags
  | tags (letters digits : Nat)
  | vowelE
  | vowelAI
  | alef
  | lamed (joined : Bool)
  | ya (joined : Bool)
  | yaWithVowel
  | tifinagh (joined : Bool)
  | tifinaghJoiner
  | toneLetter
  | orkhonI (joined : Bool)
  | coengLetter
  deriving DecidableEq

def isSkinTone (n : Nat) : Bool := 0x1F3FB ≤ n && n ≤ 0x1F3FF

def isFlag (n : Nat) : Bool := 0x1F1E6 ≤ n && n ≤ 0x1F1FF

def isLam (n : Nat) : Bool := n == 0x644 || (0x6B5 ≤ n && n ≤ 0x6B8) || n == 0x76A || n == 0x8A6 || n == 0x8C7

def isAlef (n : Nat) : Bool :=
  n == 0x622 || n == 0x623 || n == 0x625 || n == 0x627 || (0x671 ≤ n && n ≤ 0x673) || n == 0x675 ||
    n == 0x773 || n == 0x774 || (0x870 ≤ n && n ≤ 0x882)

def isTifinagh (n : Nat) : Bool := (0x2D31 ≤ n && n ≤ 0x2D65) || n == 0x2D6F

def isCoengLetter (n : Nat) : Bool :=
  (0x1780 ≤ n && n ≤ 0x1782) || (0x1784 ≤ n && n ≤ 0x1787) || (0x1789 ≤ n && n ≤ 0x178C) ||
    (0x178E ≤ n && n ≤ 0x1793) || (0x1795 ≤ n && n ≤ 0x1798) || (0x179B ≤ n && n ≤ 0x179D) ||
    n == 0x17A0 || n == 0x17A2 || n == 0x17A7 || n == 0x17AB || n == 0x17AC || n == 0x17AF

def isQuote (n : Nat) : Bool := n == 0x2018 || n == 0x2019 || n == 0x201C || n == 0x201D

def isIgnorableMark (n : Nat) : Bool :=
  n == 0x34F || n == 0x17B4 || n == 0x17B5 || (0x180B ≤ n && n ≤ 0x180D) || n == 0x180F || n == 0x200D ||
    (0xFE00 ≤ n && n ≤ 0xFE0F) || (0xE0100 ≤ n && n ≤ 0xE01EF)

/-- Characters of no width across which two Arabic letters join. -/
def isTransparent (n : Nat) : Bool :=
  Property.holds Property.zeroWidth n && !Property.holds Property.opaqueZeroWidth n

def startsPicture (n : Nat) : Bool := Property.holds Property.standardized n

def startsSign (n : Nat) : Bool :=
  Property.holds Property.standardized n && Property.holds Property.emoji n && !(0x1F200 ≤ n && n ≤ 0x1F2FF)

namespace Behind

/-- What a character is for the one before it, if it has not joined to the one behind it. -/
def ofCode (n : Nat) : Behind :=
  if n == 0x5DC then lamed false
  else if isAlef n then alef
  else if isCoengLetter n then coengLetter
  else if n == 0x1A10 then ya false
  else if isTifinagh n then tifinagh false
  else if n == 0xA4FC || n == 0xA4FD then toneLetter
  else if n == 0x10C03 then orkhonI false
  else if n == 0x16D67 then vowelE
  else if n == 0x16D68 then vowelAI
  else if isFlag n then flag
  else if isSkinTone n then skinTone
  else if Property.holds Property.emoji n then picture
  else nothing

def isLetter : Behind → Bool
  | alef | lamed _ | ya _ | yaWithVowel | tifinagh _ | tifinaghJoiner | toneLetter | orkhonI _ | coengLetter => true
  | _ => false

def isJoinedPicture : Behind → Bool
  | joinedPicture | joinedKeycap => true
  | _ => false

def join : Behind → Behind
  | lamed _ => lamed true
  | ya _ => ya true
  | tifinagh _ => tifinagh true
  | orkhonI _ => orkhonI true
  | b => b

/-- The columns that the character `n` adds where it joins to what is behind it, and what it is then itself. -/
def meet (b : Behind) (n : Nat) : Option (Int × Behind) :=
  match b with
  | alef => if isLam n then some (0, nothing) else if isTransparent n then some (0, alef) else none
  | lamed true => if n == 0x5D0 then some (0, nothing) else none
  | coengLetter => if n == 0x17D2 then some (-1, nothing) else none
  | ya true => if n == 0x1A17 then some (0, yaWithVowel) else none
  | yaWithVowel => if n == 0x1A15 then some (0, nothing) else none
  | tifinagh joined =>
    if n == 0x2D7F then some (1, tifinaghJoiner) else if joined && isTifinagh n then some (0, nothing) else none
  | tifinaghJoiner => if isTifinagh n then some (-1, nothing) else none
  | toneLetter => if 0xA4F8 ≤ n && n ≤ 0xA4FB then some (0, nothing) else none
  | orkhonI true => if n == 0x10C32 then some (0, nothing) else none
  | skinTone =>
    if Property.holds Property.modifierBase n then some (0, picture)
    else if n == 0x200D then some (0, joinedPicture) else none
  | flag => if isFlag n then some (1, flags) else none
  | flags => if isFlag n then some (1, flags) else if n == 0x200D then some (0, joinedPicture) else none
  | picture => if n == 0x200D then some (0, joinedPicture) else none
  | joinedPicture =>
    if n == 0x20E3 then some (0, joinedKeycap)
    else if isFlag n then some (1, joinedFlag)
    else if isSkinTone n then some (0, skinTone)
    else if n == 0xE007F then some (0, tags 0 0)
    else if Property.holds Property.emoji n then some (0, picture) else none
  | joinedFlag => if isFlag n then some (-1, evenFlags) else none
  | evenFlags => if isFlag n then some (3, oddFlags) else if n == 0x200D then some (0, joinedPicture) else none
  | oddFlags => if isFlag n then some (-1, evenFlags) else if n == 0x200D then some (0, joinedPicture) else none
  | tags letters digits =>
    if n == 0x1F3F4 && (digits == 3 || (digits == 0 && 3 ≤ letters)) then some (0, picture)
    else if 0xE0061 ≤ n && n ≤ 0xE007A && digits == 0 && letters < 6 then some (0, tags (letters + 1) 0)
    else if 0xE0030 ≤ n && n ≤ 0xE0039 && digits < 3 && letters < 5 then some (0, tags letters (digits + 1)) else none
  | vowelE =>
    if n == 0x16D63 || n == 0x16D69 then some (0, nothing)
    else if n == 0x16D67 then some (0, vowelAI)
    else if n == 0x16D68 then some (1, vowelE) else none
  | vowelAI => if n == 0x16D63 then some (0, nothing) else none
  | _ => none

def before (b : Behind) (n : Nat) : Int × Behind :=
  if b.isLetter && b != alef && isIgnorableMark n then (0, if n == 0x200D then b.join else b)
  else (b.meet n).getD (charWidth (Char.ofNat n), ofCode n)

end Behind

/-- What stands behind a place in a text, and what variation selectors ask of the character there. -/
structure Follower where
  behind : Behind := .nothing
  asPicture : Bool := false
  asSign : Bool := false
  asWide : Bool := false
  deriving DecidableEq

namespace Follower

/-- A variation selector stands between two letters without parting them; anything else it stands for itself. -/
def kept (f : Follower) : Follower := if f.behind.isLetter then f else {}

def selectPicture (f : Follower) : Follower :=
  if f.behind.isJoinedPicture then { f with asPicture := true } else { f.kept with asPicture := true }

def selectSign (f : Follower) : Follower := { f.kept with asSign := true }

def selectWide (f : Follower) : Follower := { f.kept with asWide := true }

def unselectPicture (f : Follower) : Follower := if f.asPicture then { f.kept with asPicture := false } else f

def beforeSign (f : Follower) (n : Nat) : Int × Follower :=
  if n == 0x0A then (1, { behind := .lineFeed })
  else if n == 0x0D && f.behind == .lineFeed then (0, {})
  else if n ≤ 0xA0 then (1, {})
  else if n == 0xFE0F then (0, f.selectPicture)
  else if n == 0xFE0E then (0, f.selectSign)
  else if n == 0xFE01 then (0, f.selectWide)
  else if f.asSign && startsSign n then (1, {})
  else if f.asWide && isQuote n then (2, {})
  else ((f.behind.before n).1, { behind := (f.behind.before n).2 })

def before (f : Follower) (n : Nat) : Int × Follower :=
  if f.asPicture && startsPicture n then (if f.behind.isJoinedPicture then 0 else 2, { behind := .picture })
  else f.unselectPicture.beforeSign n

end Follower

/-- The columns of a text, and what it is for a character before it. -/
def measure : List Char → Int × Follower
  | [] => (0, {})
  | c :: cs =>
    let (sum, f) := measure cs
    let (w, f) := f.before c.toNat
    (sum + w, f)

/-- The columns of a text; a control character in it counts as one, and a carriage return with its line feed
as one. -/
def width (cs : List Char) : Nat := (measure cs).1.toNat

def columns (s : String) : Nat := width s.toList

end JobBoard.Text
