import JobBoard.Screen.Cell
import JobBoard.Text.Width

/-!
A screen as lines of text, and as runs of cells that look alike.
-/

namespace JobBoard

/-- A run of cells that look alike, from column `start` up to column `stop`. -/
structure Run where
  start : Nat
  stop : Nat
  look : Cell

namespace Screen

/-- The characters of a line from column `x` up to column `stop`. Columns that a wide character covers add
nothing; `fuel` bounds the number of columns. -/
def charsUpTo (s : Screen) (y stop : Nat) : (fuel x : Nat) → List Char
  | 0, _ => []
  | fuel + 1, x =>
    if x < stop then
      let symbol := (s.cell x y).symbol
      symbol.toList ++ charsUpTo s y stop fuel (x + max 1 (Text.columns symbol))
    else []

def lineText (s : Screen) (y : Nat) : String :=
  String.ofList ((s.charsUpTo y s.width s.width 0).reverse.dropWhile (· == ' ')).reverse

/-- Adds the cell in column `x` to runs, the last one of which comes first. -/
def addToRuns (runs : List Run) (x : Nat) (c : Cell) : List Run :=
  match runs with
  | r :: rest => if c.sameLook r.look then { r with stop := x + 1 } :: rest else ⟨x, x + 1, c⟩ :: r :: rest
  | [] => [⟨x, x + 1, c⟩]

def runs (s : Screen) (y : Nat) : List Run :=
  ((List.range s.width).foldl (fun acc x => addToRuns acc x (s.cell x y)) []).reverse

end Screen

end JobBoard
