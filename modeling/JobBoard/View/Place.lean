import JobBoard.Board.State
import JobBoard.Listing.Measure
import JobBoard.View.Layout
import JobBoard.View.RecordLines

/-!
Giving the board its place on a screen of some size. This is all that drawing changes in the board: the picture
itself is made of the board as it is then.
-/

namespace JobBoard

namespace RecordPane

/-- The number of lines that are shown, before they are broken. -/
def lineCount (p : RecordPane) : Nat := p.record.elim 1 Detail.lineCount

/-- Scrolls back until a line is left. -/
def clamp (p : RecordPane) : RecordPane :=
  if p.isOpen then { p with scroll := min p.scroll (min (p.lineCount - 1) maxScroll) } else p

end RecordPane

namespace Board

def refocus (b : Board) : Board :=
  { b with
    focus := if b.record.isOpen then b.focus.rebuild [.record] .record else b.focus.rebuild mainPanels .list }

def layOut (b : Board) (screen : Area) : Board :=
  let layout := Layout.ofScreen screen
  { b.refocus with
    filterArea := layout.filters
    listArea := layout.list
    list := b.list.layOut layout.list
    record := b.record.clamp }

def afterDraw (b : Board) : Board × List Effect := b.withList b.list.afterDraw

end Board

end JobBoard
