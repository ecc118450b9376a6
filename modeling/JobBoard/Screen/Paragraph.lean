import JobBoard.Screen.Wrap

/-!
Lines of text drawn into an area, cut at its right side or broken there.
-/

namespace JobBoard

namespace Glyph

/-- The glyphs from the first one on that fit into `room` columns; those that are wider than `limit` are passed
over. -/
def fitting (limit : Nat) : Nat → List Glyph → List Glyph
  | _, [] => []
  | room, g :: gs =>
    if limit < g.columns then fitting limit room gs
    else if g.columns ≤ room then g :: fitting limit (room - g.columns) gs
    else []

end Glyph

namespace Screen

def drawGlyphs (s : Screen) (y : Nat) : Nat → List Glyph → Screen
  | _, [] => s
  | x, g :: gs =>
    let s := if g.columns = 0 then s else s.put x y (String.ofList g.symbol) g.style
    drawGlyphs s y (x + g.columns) gs

/-- Draws as many lines as the area is high; `indent` says where a line of the given width starts. -/
def drawLines (s : Screen) (a : Area) (indent : Nat → Nat) (ls : List (List Glyph)) : Screen :=
  ((ls.take a.height).zipIdx).foldl
    (fun s (gs, dy) => s.drawGlyphs (a.top + dy) (a.left + indent (Glyph.total gs)) gs) s

def drawCut (s : Screen) (a : Area) (ls : List Line) : Screen :=
  s.drawLines a (fun _ => 0) (ls.map fun l => Glyph.fitting a.width a.width l.glyphs)

end Screen

/-- How a line is broken at a width. -/
abbrev Breaking := Nat → Line → List (List Glyph)

namespace Paragraph

def byWords (trim : Bool) : Breaking := fun width l => Wrap.lines trim width l.glyphs

def broken (breaking : Breaking) (width : Nat) (ls : List Line) : List (List Glyph) := ls.flatMap (breaking width)

/-- What of a text is seen in an area if the first `scroll` of its broken lines are passed over. -/
def visible (breaking : Breaking) (a : Area) (scroll : Nat) (ls : List Line) : List (List Glyph) :=
  ((broken breaking a.width ls).drop scroll).take a.height

end Paragraph

namespace Screen

def drawBroken (s : Screen) (breaking : Breaking) (a : Area) (scroll : Nat) (ls : List Line) : Screen :=
  s.drawLines a (fun _ => 0) (Paragraph.visible breaking a scroll ls)

def drawCentered (s : Screen) (a : Area) (ls : List Line) : Screen :=
  s.drawLines a (fun w => a.width / 2 - w / 2) (Paragraph.broken (Paragraph.byWords true) a.width ls)

end Screen

end JobBoard
