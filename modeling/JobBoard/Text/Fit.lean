import JobBoard.Text.Width

/-!
Cutting a text to a number of columns. The columns of a whole text and those of its characters are counted apart.
-/

namespace JobBoard.Text

def ellipsis : Char := '…'

/-- How columns are counted: those of a character alone, and those of a text. -/
structure Measure where
  char : Char → Nat
  text : List Char → Nat

namespace Measure

/-- The longest start of a text whose characters, each counted alone, take at most `budget` columns. -/
def takeColumns (m : Measure) : Nat → List Char → List Char
  | _, [] => []
  | budget, c :: cs =>
    if m.char c ≤ budget then c :: m.takeColumns (budget - m.char c) cs else []

/-- The text itself if it takes at most `limit` columns; otherwise a start of it that leaves one column for the
ellipsis behind it. -/
def fit (m : Measure) (limit : Nat) (cs : List Char) : List Char :=
  if m.text cs ≤ limit then cs
  else if limit = 0 then []
  else m.takeColumns (limit - 1) cs ++ [ellipsis]

def truncated (m : Measure) (limit : Nat) (s : String) : String := String.ofList (m.fit limit s.toList)

def terminal : Measure where
  char := charWidth
  text := width

end Measure

def truncated (limit : Nat) (s : String) : String := Measure.terminal.truncated limit s

end JobBoard.Text
