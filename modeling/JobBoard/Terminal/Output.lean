import JobBoard.Screen.Text

/-!
The characters that show a screen on a terminal.
-/

namespace JobBoard

namespace Terminal

def command (s : String) : String := "\x1b[" ++ s

def enter : String := command "?1049h" ++ command "?1000h" ++ command "?1002h" ++ command "?1003h" ++ command "?1006h"

def leave : String :=
  command "?1049l" ++ command "?1006l" ++ command "?1003l" ++ command "?1002l" ++ command "?1000l" ++ command "?25h"

/-- The numbers that select a colour; `base` is 30 for text and 40 for the ground. -/
def colorNumbers (base : Nat) : Color → List Nat
  | .plain => [base + 9]
  | .rgb r g b => [base + 8, 2, r.toNat, g.toNat, b.toNat]
  | .indexed n => [base + 8, 5, n.toNat]

def styleCommand (c : Cell) : String :=
  let numbers := [0] ++ (if c.bold then [1] else []) ++ (if c.dim then [2] else []) ++
    colorNumbers 30 c.foreground ++ colorNumbers 40 c.background
  command (";".intercalate (numbers.map toString) ++ "m")

def runText (s : Screen) (y : Nat) (r : Run) : String :=
  styleCommand r.look ++ String.ofList (s.charsUpTo y r.stop (r.stop - r.start) r.start)

def lineText (s : Screen) (y : Nat) : String :=
  command s!"{y + 1};1H" ++ String.join ((s.runs y).map (runText s y))

def picture (s : Screen) : String := String.join ((List.range s.height).map (lineText s))

end Terminal

end JobBoard
