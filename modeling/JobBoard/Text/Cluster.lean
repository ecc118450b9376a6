import JobBoard.Text.Property

/-!
The clusters of a text: the runs of characters that a reader takes as one, which share a place on the screen.
-/

namespace JobBoard.Text

inductive ClusterRole where
  | carriageReturn
  | lineFeed
  | control
  | extend
  | joiner
  | flag
  | prepend
  | spacing
  | leading
  | vowel
  | trailing
  | openSyllable
  | closedSyllable
  | other
  deriving DecidableEq

namespace ClusterRole

def ofCode (n : Nat) : ClusterRole :=
  if n == 0x0D then carriageReturn
  else if n == 0x0A then lineFeed
  else if 0x20 ≤ n && n < 0x7F then other
  else if n == 0x200D then joiner
  else if Property.holds Property.control n then control
  else if Property.holds Property.extend n then extend
  else if 0x1F1E6 ≤ n && n ≤ 0x1F1FF then flag
  else if (0x1100 ≤ n && n ≤ 0x115F) || (0xA960 ≤ n && n ≤ 0xA97C) then leading
  else if (0x1160 ≤ n && n ≤ 0x11A7) || (0xD7B0 ≤ n && n ≤ 0xD7C6) || n == 0x16D63 ||
    (0x16D67 ≤ n && n ≤ 0x16D6A) then vowel
  else if (0x11A8 ≤ n && n ≤ 0x11FF) || (0xD7CB ≤ n && n ≤ 0xD7FB) then trailing
  else if 0xAC00 ≤ n && n ≤ 0xD7A3 then if (n - 0xAC00) % 28 == 0 then openSyllable else closedSyllable
  else if Property.holds Property.spacingMark n then spacing
  else if Property.holds Property.prepend n then prepend
  else other

def standsAlone : ClusterRole → Bool
  | carriageReturn | lineFeed | control => true
  | _ => false

def syllableGoesOn : ClusterRole → ClusterRole → Bool
  | leading, leading | leading, vowel | leading, openSyllable | leading, closedSyllable => true
  | openSyllable, vowel | openSyllable, trailing | vowel, vowel | vowel, trailing => true
  | closedSyllable, trailing | trailing, trailing => true
  | _, _ => false

end ClusterRole

/-- What the characters of the present cluster allow to follow. -/
structure ClusterState where
  role : ClusterRole
  /-- The cluster ends in an odd number of flag letters. -/
  openFlag : Bool
  /-- The cluster ends in a picture with its extensions. -/
  picture : Bool
  pictureJoined : Bool
  consonant : Bool
  linked : Bool

namespace ClusterState

def start (n : Nat) : ClusterState :=
  let role := ClusterRole.ofCode n
  { role
    openFlag := role == .flag
    picture := 0x7F < n && Property.holds Property.pictographic n
    pictureJoined := false
    consonant := 0x7F < n && Property.holds Property.consonant n
    linked := false }

def goesOn (s : ClusterState) (n : Nat) : Bool :=
  let role := ClusterRole.ofCode n
  if s.role == .carriageReturn && role == .lineFeed then true
  else if s.role.standsAlone || role.standsAlone then false
  else if ClusterRole.syllableGoesOn s.role role then true
  else if role == .extend || role == .joiner || role == .spacing || s.role == .prepend then true
  else if s.linked && Property.holds Property.consonant n then true
  else if s.pictureJoined && Property.holds Property.pictographic n then true
  else s.openFlag && role == .flag

def after (s : ClusterState) (n : Nat) : ClusterState :=
  let fresh := start n
  let lengthens := fresh.role == .extend || fresh.role == .joiner
  { role := fresh.role
    openFlag := fresh.openFlag && !s.openFlag
    picture := fresh.picture || (s.picture && fresh.role == .extend)
    pictureJoined := s.picture && fresh.role == .joiner
    consonant := fresh.consonant || (s.consonant && lengthens)
    linked := s.consonant && lengthens && (s.linked || Property.holds Property.linker n) }

end ClusterState

/-- The clusters of the characters behind the present cluster, whose characters stand in `current`, last one
first. -/
def clustersFrom (s : ClusterState) (current : List Char) : List Char → List (List Char)
  | [] => [current.reverse]
  | c :: cs =>
    if s.goesOn c.toNat then clustersFrom (s.after c.toNat) (c :: current) cs
    else current.reverse :: clustersFrom (ClusterState.start c.toNat) [c] cs

def clusters : List Char → List (List Char)
  | [] => []
  | c :: cs => clustersFrom (ClusterState.start c.toNat) [c] cs

end JobBoard.Text
