import JobBoard.Board.Input
import JobBoard.Board.State

/-!
What keys and the mouse do to the board. An open record takes them all.
-/

namespace JobBoard.Board

def recordPage : Int := 10

def wheelStep : Int := 3

def scrollRecord (b : Board) (d : Int) : Board × List Effect := ({ b with record := b.record.scrollBy d }, [])

def pressInRecord (b : Board) (k : Key) : Board × List Effect :=
  match k.code with
  | .escape | .char 'q' => (b, [.closeRecord])
  | .up | .char 'k' => b.scrollRecord (-1)
  | .down | .char 'j' => b.scrollRecord 1
  | .pageUp => b.scrollRecord (-recordPage)
  | .pageDown => b.scrollRecord recordPage
  | .home | .char 'g' => ({ b with record := { b.record with scroll := 0 } }, [])
  | _ => (b, [])

def giveFocus (b : Board) (p : Panel) : Board := { b with focus := b.focus.give p }

def pressInFilters (b : Board) (k : Key) : Board × List Effect :=
  match k.code with
  | .left | .char 'h' => b.withList (b.list.cycleStatus false)
  | .right | .char 'l' => b.withList (b.list.cycleStatus true)
  | .char ' ' => b.withList b.list.toggleReview
  | .enter => b.withList b.list.applyNow
  | .down | .escape => (b.giveFocus .list, [])
  | _ => (b, [])

/-- Moves the active row or opens it; a move takes the focus to the list. -/
def navigate (b : Board) (key : CursorKey) : Board × List Effect :=
  let (list, outcome, effects) := b.list.navigate key
  let b := { b with list }
  match outcome with
  | .moved _ => (b.giveFocus .list, effects)
  | _ => (b, effects)

def cursorKey? (b : Board) : KeyCode → Option CursorKey
  | .up | .char 'k' => some .up
  | .down | .char 'j' => some .down
  | .home | .char 'g' => some .first
  | .last | .char 'G' => some .last
  | .pageUp => some (.pageUp b.list.pageStep)
  | .pageDown => some (.pageDown b.list.pageStep)
  | .enter | .char ' ' => some .activate
  | _ => none

def pressInList (b : Board) (k : Key) : Board × List Effect :=
  match b.cursorKey? k.code with
  | some key => b.navigate key
  | none =>
    match k.code with
    | .char 'r' => b.withList b.list.retry
    | .char '/' | .char 'f' => (b.giveFocus .filters, [])
    | _ => (b, [])

def pressInMain (b : Board) (k : Key) : Board × List Effect :=
  if k.code = .char 'r' ∧ k.ctrl then b.withList b.list.refresh
  else if k.code = .tab then ({ b with focus := b.focus.next }, [])
  else if k.code = .backTab then ({ b with focus := b.focus.prev }, [])
  else if k.code = .char 'c' ∧ k.isAlone then b.withList b.list.clearFilters
  else if b.focus.has .filters then b.pressInFilters k
  else b.pressInList k

def press (b : Board) (k : Key) : Board × List Effect :=
  if b.record.isOpen then b.pressInRecord k
  else if k.code = .char 'q' ∧ k.isAlone then (b, [.quit])
  else b.pressInMain k

/-- A click on a row makes it the active one; a click on the active row opens it. -/
def clickList (b : Board) (y : Nat) : Board × List Effect :=
  let b := b.giveFocus .list
  match b.list.indexAtLine y with
  | none => (b, [])
  | some index =>
    if b.list.cursor.active = some index then b.navigate .activate
    else ({ b with list := (b.list.select index).1 }, [])

def pointInMain (b : Board) (m : Mouse) : Board × List Effect :=
  let inList := b.listArea.contains m.column m.row
  match m.action with
  | .scrollDown => if inList then ({ b with list := b.list.scrollBy wheelStep }, []) else (b, [])
  | .scrollUp => if inList then ({ b with list := b.list.scrollBy (-wheelStep) }, []) else (b, [])
  | .pressLeft =>
    if inList then b.clickList m.row
    else if b.filterArea.contains m.column m.row then (b.giveFocus .filters, [])
    else (b, [])
  | .other => (b, [])

def point (b : Board) (m : Mouse) : Board × List Effect :=
  if b.record.isOpen then
    match m.action with
    | .scrollDown => b.scrollRecord wheelStep
    | .scrollUp => b.scrollRecord (-wheelStep)
    | _ => (b, [])
  else b.pointInMain m

end JobBoard.Board
