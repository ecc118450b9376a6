import JobBoard.Board.Fetch
import JobBoard.Board.Keys
import JobBoard.View.Place

/-!
Everything that can happen to the board.
-/

namespace JobBoard

inductive Event where
  | mount
  | key (k : Key)
  | mouse (m : Mouse)
  | report (r : Report)
  | quiet
  | draw (screen : Area)

namespace Board

/-- The quiet time is over; a timer that is not armed cannot say so. -/
def fire (b : Board) : Board × List Effect :=
  if b.timer.isArmed then { b with timer := {} }.learn .quietElapsed else (b, [])

def on (b : Board) : Event → Board × List Effect
  | .mount => b.mount
  | .key k => b.press k
  | .mouse m => b.point m
  | .report r => b.learn r
  | .quiet => b.fire
  | .draw screen => (b.layOut screen).afterDraw

/-- Whether what is looked up in the list for an event takes a sum that carries. -/
def onCarries (b : Board) : Event → Bool
  | .draw screen =>
    b.list.layOutCarries (Layout.ofScreen screen).list || (b.layOut screen).list.afterDrawCarries
  | .mouse m =>
    !b.record.isOpen && m.action == .pressLeft && b.listArea.contains m.column m.row &&
      b.list.indexAtLineCarries m.row
  | .key k =>
    !b.record.isOpen && !b.focus.has .filters && (k.code == .pageUp || k.code == .pageDown) &&
      b.list.viewport.wholeRowsCarries
  | _ => false

def learnAll (b : Board) (rs : List Report) : Board × List Effect :=
  rs.foldl (fun (b, effects) r => let (b, more) := b.learn r; (b, effects ++ more)) (b, [])

end Board

end JobBoard
