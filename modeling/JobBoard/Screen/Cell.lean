import JobBoard.Screen.Area
import JobBoard.Screen.Style

/-!
The cells of a screen. Whatever is drawn beside the screen is lost.
-/

namespace JobBoard

structure Cell where
  symbol : String := " "
  foreground : Color := .plain
  background : Color := .plain
  bold : Bool := false
  dim : Bool := false
  deriving DecidableEq

namespace Cell

def withStyle (s : Style) (c : Cell) : Cell :=
  { c with
    foreground := s.foreground.getD c.foreground
    background := s.background.getD c.background
    bold := c.bold || s.bold
    dim := c.dim || s.dim }

/-- Two cells that look alike but for their text. -/
def sameLook (a b : Cell) : Bool :=
  a.foreground == b.foreground && a.background == b.background && a.bold == b.bold && a.dim == b.dim

end Cell

structure Screen where
  width : Nat
  height : Nat
  cells : Array Cell
  size_cells : cells.size = width * height

namespace Screen

def blank (width height : Nat) : Screen :=
  { width, height, cells := Array.replicate (width * height) {}, size_cells := Array.size_replicate }

def area (s : Screen) : Area := { width := s.width, height := s.height }

def cell (s : Screen) (x y : Nat) : Cell :=
  if x < s.width then s.cells[y * s.width + x]?.getD {} else {}

def change (s : Screen) (x y : Nat) (f : Cell → Cell) : Screen :=
  if x < s.width then
    { s with
      cells := s.cells.modify (y * s.width + x) f
      size_cells := by rw [Array.size_modify, s.size_cells] }
  else s

def changeAll (s : Screen) (a : Area) (f : Cell → Cell) : Screen :=
  (List.range a.height).foldl
    (fun s dy => (List.range a.width).foldl (fun s dx => s.change (a.left + dx) (a.top + dy) f) s) s

def paint (s : Screen) (a : Area) (style : Style) : Screen := s.changeAll a (Cell.withStyle style)

def erase (s : Screen) (a : Area) : Screen := s.changeAll a fun _ => {}

def put (s : Screen) (x y : Nat) (symbol : String) (style : Style) : Screen :=
  s.change x y fun c => { c with symbol }.withStyle style

end Screen

end JobBoard
