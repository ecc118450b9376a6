/-!
White space as Unicode defines it, and the operations on text that depend on it: trimming, splitting into
words, joining the words again with single spaces.
-/

namespace JobBoard.Text

/-- The characters with the Unicode property White_Space. -/
def isBlank (c : Char) : Bool :=
  let n := c.toNat
  (9 ≤ n && n ≤ 13) || n == 0x20 || n == 0x85 || n == 0xA0 || n == 0x1680 ||
    (0x2000 ≤ n && n ≤ 0x200A) || n == 0x2028 || n == 0x2029 || n == 0x202F || n == 0x205F || n == 0x3000

def trimStart (cs : List Char) : List Char := cs.dropWhile isBlank

def trimEnd (cs : List Char) : List Char := (cs.reverse.dropWhile isBlank).reverse

def trim (cs : List Char) : List Char := trimEnd (trimStart cs)

/-- `current` holds the characters of the word being read, last one first. -/
def wordsFrom (current : List Char) : List Char → List (List Char)
  | [] => if current.isEmpty then [] else [current.reverse]
  | c :: cs =>
    if isBlank c then
      if current.isEmpty then wordsFrom [] cs else current.reverse :: wordsFrom [] cs
    else wordsFrom (c :: current) cs

def words (cs : List Char) : List (List Char) := wordsFrom [] cs

def trimmed (s : String) : String := String.ofList (trim s.toList)

def blank (s : String) : Bool := s.toList.all isBlank

def singleLine (s : String) : String :=
  String.ofList (List.intercalate [' '] (words s.toList))

def placeholder : String := "-"

def orPlaceholder : Option String → String
  | some s => if blank s then placeholder else s
  | none => placeholder

def asciiLower (s : String) : String := String.ofList (s.toList.map Char.toLower)

def sameIgnoringCase (s t : String) : Bool := asciiLower s == asciiLower t

/-- `current` holds the characters of the line being read, last one first. A carriage return before the
line feed belongs to the line's end. -/
def linesFrom (current : List Char) : List Char → List (List Char)
  | [] => if current.isEmpty then [] else [current.reverse]
  | '\n' :: cs =>
    (match current with
      | '\r' :: rest => rest.reverse
      | line => line.reverse) :: linesFrom [] cs
  | c :: cs => linesFrom (c :: current) cs

def lines (s : String) : List String := (linesFrom [] s.toList).map String.ofList

def containsRun (needle : List Char) : List Char → Bool
  | [] => needle.isEmpty
  | c :: cs => needle.isPrefixOf (c :: cs) || containsRun needle cs

def contains (s needle : String) : Bool := containsRun needle.toList s.toList

end JobBoard.Text
