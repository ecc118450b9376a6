import JobBoard.Screen.Cell
import JobBoard.Text.Blank
import JobBoard.Text.Cluster
import JobBoard.Text.Width

/-!
Text as a screen shows it: glyphs, each a cluster of characters with the columns that it takes. Clusters with
control characters are not shown.
-/

namespace JobBoard

structure Glyph where
  symbol : List Char
  columns : Nat
  style : Style
  deriving DecidableEq

abbrev Line := List Span

namespace Glyph

/-- Whether a line may be broken at the glyph: blanks, but not the blank that binds, and the invisible mark for
a break. -/
def isGap (g : Glyph) : Bool :=
  g.symbol == ['\u200b'] || (g.symbol.all Text.isBlank && g.symbol != ['\u00a0'])

def total (gs : List Glyph) : Nat := gs.foldl (fun n g => n + g.columns) 0

end Glyph

namespace Span

def glyphs (s : Span) : List Glyph :=
  ((Text.clusters s.text.toList).filter fun g => !g.any Text.isControl).map fun g => ⟨g, Text.width g, s.style⟩

def columns (s : Span) : Nat := Text.columns s.text

end Span

namespace Line

def glyphs (l : Line) : List Glyph := l.flatMap Span.glyphs

def columns (l : Line) : Nat := l.foldl (fun n s => n + s.columns) 0

/-- A text without a style of its own, on one line: its line breaks are dropped. -/
def plain (s : String) : Line := (Text.lines s).map fun t => ⟨t, {}⟩

end Line

namespace Screen

/-- Takes the symbols out of the cells that a wide glyph covers. -/
def cover (s : Screen) (x y n : Nat) : Screen := s.erase { left := x, top := y, width := n, height := 1 }

/-- Writes glyphs from column `x` on as far as they end before `right`. A glyph without columns joins the
glyph before it; in the first cell everything joins. -/
def writeGlyphs (s : Screen) (y start right : Nat) : Nat → List Glyph → Screen
  | _, [] => s
  | x, g :: gs =>
    let next := x + g.columns
    if right < next then s
    else
      let join (c : Cell) : Cell := { c with symbol := c.symbol ++ String.ofList g.symbol }.withStyle g.style
      let s :=
        if x = start then s.change x y join
        else if g.columns = 0 then s.change (x - 1) y join
        else s.put x y (String.ofList g.symbol) g.style
      writeGlyphs (s.cover (x + 1) y (g.columns - 1)) y start right next gs

def writeSpan (s : Screen) (x y right : Nat) (p : Span) : Screen :=
  match p.glyphs with
  | [] => s
  | g :: gs =>
    let next := x + g.columns
    if right < next then s
    else
      let s := s.put x y (String.ofList g.symbol) g.style
      (s.cover (x + 1) y (g.columns - 1)).writeGlyphs y x right next gs

def writeLine (s : Screen) (x y right : Nat) : Line → Screen
  | [] => s
  | p :: l =>
    if p.columns = 0 then writeLine s x y right l
    else if right ≤ x then s
    else writeLine (s.writeSpan x y right p) (x + p.columns) y right l

def writeLines (s : Screen) (a : Area) (ls : List Line) : Screen :=
  ((ls.take a.height).zipIdx).foldl (fun s (l, dy) => s.writeLine a.left (a.top + dy) a.right l) s

end Screen

end JobBoard
