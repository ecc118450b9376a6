import JobBoard.Board.State
import JobBoard.Text.Fit
import JobBoard.View.Counts
import JobBoard.View.ListPanel
import JobBoard.View.Place
import JobBoard.View.RecordLines

/-!
The picture of a board that has been given its place on a screen.
-/

namespace JobBoard

namespace CountsPane

def spans (theme : Theme) (now : Instant) (throbber : Nat) (p : CountsPane) : List Span :=
  let counts := match p.counts with
    | some d => d.spans theme now
    | none => if p.error.isNone then [⟨"waiting for counts", theme.mutedStyle⟩] else []
  let loading := if p.loading then [⟨"  " ++ Throbber.frame throbber, theme.infoStyle⟩] else []
  let error := p.error.map fun e => ⟨"  counts unavailable: " ++ e, theme.errorStyle⟩
  counts ++ loading ++ error.toList

end CountsPane

namespace RecordPane

def lines (theme : Theme) (now : Instant) (throbber : Nat) (p : RecordPane) (id : Int) : List Line :=
  match p.record, p.error with
  | some d, _ => d.lines theme now
  | none, some error => [[⟨s!"Failed to load job #{id}: {error}", theme.errorStyle⟩]]
  | none, none => [[⟨Throbber.frame throbber ++ s!" Loading job #{id}…", theme.mutedStyle⟩]]

def drawBy (breaking : Breaking) (p : RecordPane) (theme : Theme) (now : Instant) (throbber : Nat) (a : Area)
    (s : Screen) : Screen :=
  match p.requested with
  | none => s
  | some id =>
    (s.panel a theme s!"Job #{id}" true).drawBroken breaking a.inside p.scroll (p.lines theme now throbber id)

def draw (p : RecordPane) (theme : Theme) (now : Instant) (throbber : Nat) (a : Area) (s : Screen) : Screen :=
  p.drawBy (Paragraph.byWords false) theme now throbber a s

end RecordPane

namespace Board

def filterSpans (theme : Theme) (d : FilterDraft) : List Span :=
  let choices := StatusChoice.cycle.map fun c =>
    ⟨" " ++ c.name ++ " ", if c = d.pending.status then theme.selectedStyle else theme.mutedStyle⟩
  [⟨"Status ", theme.secondaryStyle⟩] ++ choices ++
    [⟨"   Review only ", theme.secondaryStyle⟩,
      ⟨if d.pending.reviewOnly then "[x]" else "[ ]", theme.accentStyle⟩] ++
    if d.isDirty then [⟨"   applying…", theme.warningStyle⟩] else []

def loadSpan (theme : Theme) (throbber room : Nat) (p : Pager) : Span :=
  match p.error with
  | some error => ⟨Text.truncated room s!"⚠ {error} (r to retry)", theme.errorStyle⟩
  | none =>
    if p.inFlight then
      ⟨Throbber.frame throbber ++ s!" loading page {p.pagesLoaded + 1}", theme.infoStyle⟩
    else if p.hasMore then ⟨s!"{p.size} loaded, more available", theme.mutedStyle⟩
    else ⟨s!"{p.size} loaded, end of list", theme.mutedStyle⟩

def statusSpans (theme : Theme) (b : Board) (room : Nat) : List Span :=
  let active := b.list.cursor.active.map fun i => ⟨s!"  row {i + 1}/{b.list.size}", theme.secondaryStyle⟩
  loadSpan theme b.throbber room b.list.pager :: active.toList

def recordHints : List (String × String) := [("↑/↓", " scroll  "), ("Esc", " close ")]

def filterHints : List (String × String) :=
  [("←/→", " status  "), ("Space", " review  "), ("Enter", " apply  "), ("c", " clear  "), ("Tab", " list  ")]

def listHints : List (String × String) :=
  [("↑/↓", " move  "), ("PgUp/PgDn", " page  "), ("Enter", " open  "), ("r", " retry  "), ("Ctrl+R", " refresh  "),
    ("Tab", " filters  "), ("q", " quit ")]

def hints (b : Board) : List (String × String) :=
  if b.record.isOpen then recordHints else if b.focus.has .filters then filterHints else listHints

def hintSpans (theme : Theme) (b : Board) : List Span :=
  ⟨"Hints: ", theme.mutedStyle⟩ :: theme.hintSpans b.hints

def queryText (b : Board) : String := if b.query.isEmpty then "no filters" else "?" ++ b.query

def drawStatus (b : Board) (theme : Theme) (a : Area) (s : Screen) : Screen :=
  let (left, right) := a.splitRight (Text.columns b.queryText + 1)
  let s := s.drawCut left [b.statusSpans theme left.width]
  (s.paint right theme.accentStyle).drawCut right (JobList.plainLines b.queryText)

def drawRecord (b : Board) (theme : Theme) (now : Instant) (a : Area) (s : Screen) : Screen :=
  if b.record.isOpen then
    b.record.draw theme now b.throbber a ((s.paint s.area theme.modalStyle.dimmer).erase a)
  else s

def picture [TightColumns] (theme : Theme) (now : Instant) (b : Board) (width height : Nat) : Screen :=
  let s := Screen.blank width height
  let layout := Layout.ofScreen s.area
  let s := s.paint s.area (.onGround theme.background)
  let s := s.panel layout.counts theme "Queue" false
  let s := s.drawCut layout.counts.inside [b.counts.spans theme now b.throbber]
  let s := s.panel layout.filters theme "Filters" (b.focus.has .filters)
  let s := s.drawCut layout.filters.inside [filterSpans theme b.list.draft]
  let s := b.list.draw theme now b.throbber (b.focus.has .list) layout.list s
  let s := b.drawStatus theme layout.status s
  let s := s.drawCut layout.hints [b.hintSpans theme]
  b.drawRecord theme now layout.record s

end Board

end JobBoard
