import JobBoard.Listing.Measure
import JobBoard.Screen.Frame
import JobBoard.Screen.Paragraph
import JobBoard.Screen.Scrollbar
import JobBoard.Screen.Table
import JobBoard.View.Throbber

/-!
The list as a table, or what is said where there is nothing to list.
-/

namespace JobBoard.JobList

def columnTitles : List String := ["ID", "Status", "Pri", "Retries", "Review", "Message", "Updated", "Next retry"]

def columnWidths : List (Option Nat) := [some 8, some 11, some 4, some 7, some 6, none, some 16, some 11]

def plainLines (s : String) : List Line := (Text.lines s).map fun t => [⟨t, {}⟩]

def messageLines (theme : Theme) (row : RowText) : List Line :=
  match row.reviewNote with
  | some note => [Line.plain row.messageId, [⟨"↳ " ++ note, theme.warningStyle⟩]]
  | none => plainLines row.messageId

def tableRow (theme : Theme) (now : Instant) (index : Nat) (status : Status) (row : RowText) : TableRow :=
  { cells :=
      [ plainLines row.id,
        [[⟨row.status, theme.statusStyle status⟩]],
        plainLines row.priority,
        plainLines row.retries,
        [[⟨row.review, theme.warningStyle⟩]],
        messageLines theme row,
        plainLines row.updated,
        plainLines (row.nextRetry now) ]
    height := row.height
    style := theme.rowStyle index }

def tableRows (theme : Theme) (now : Instant) (l : JobList) : List TableRow :=
  l.drawnJobs.map fun (i, j) => tableRow theme now i j.status (l.cache.text j)

def emptyText (theme : Theme) (throbber : Nat) (p : Pager) : String × Style :=
  match p.error with
  | some error => (s!"Failed to load jobs: {error}\nPress r to retry.", theme.errorStyle)
  | none =>
    if p.inFlight || p.hasMore then (Throbber.frame throbber ++ " Loading jobs…", theme.mutedStyle)
    else if p.filter.isNarrowed then
      ("No jobs match the current filters. Press c to clear them.", theme.mutedStyle)
    else ("The queue is empty.", theme.mutedStyle)

def title (l : JobList) : String := "Jobs (" ++ toString l.size ++ (if l.pager.hasMore then "+" else "") ++ ")"

def drawTable [TightColumns] (l : JobList) (theme : Theme) (now : Instant) (inner : Area) (s : Screen) : Screen :=
  let columns := Area.columns inner.width columnWidths
  let s := s.tableHeader inner columns theme.headerRowStyle theme.headerStyle columnTitles
  let s := s.tableRows inner.belowFirst columns theme.selectedStyle (l.tableRows theme now) l.selected?
  s.scrollbar l.area theme l.viewport.rows.total l.viewport.scroll l.area.height

def draw [TightColumns] (l : JobList) (theme : Theme) (now : Instant) (throbber : Nat) (focused : Bool) (panel : Area)
    (s : Screen) : Screen :=
  let s := s.panel panel theme l.title focused
  let inner := panel.inside
  if l.size = 0 then
    let (text, style) := emptyText theme throbber l.pager
    (s.paint inner style).drawCentered inner (plainLines text)
  else l.drawTable theme now inner s

end JobBoard.JobList
