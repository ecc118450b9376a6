import JobBoard.Board.Focus
import JobBoard.Board.Panes
import JobBoard.Listing.JobList
import JobBoard.QuietTimer

/-!
The board: the list, the counts above it, and the record that may be open over both.
-/

namespace JobBoard

structure Board where
  list : JobList
  counts : CountsPane := {}
  record : RecordPane := {}
  query : String
  focus : Focus
  timer : QuietTimer := {}
  throbber : Nat := 0
  /-- Where the filters and the list were drawn, borders included. -/
  filterArea : Area := {}
  listArea : Area := {}

namespace Board

def mainPanels : List Panel := [.filters, .list]

def start (settings : Settings) (filter : Filter) : Board :=
  { list := .start settings filter, query := filter.toQuery, focus := { ring := mainPanels, holder := some .list } }

def isBusy (b : Board) : Bool := b.list.pager.inFlight || b.counts.loading || b.record.isLoading

def withList (b : Board) (r : JobList × List Effect) : Board × List Effect := ({ b with list := r.1 }, r.2)

def mount (b : Board) : Board × List Effect :=
  let (list, effects) := b.list.mount
  ({ b with list }, effects ++ [.fetchDashboard])

end Board

end JobBoard
