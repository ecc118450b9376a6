import JobBoard.Listing.JobList

/-!
Preparing a list to be drawn: it is told its place on the screen, the rows that are prepared for the first time
are measured, and the formatted rows of all others are dropped.
-/

namespace JobBoard.JobList

/-- Where the rows go inside a bordered panel: below the column titles. -/
def bodyOf (panel : Area) : Area := panel.inside.belowFirst

def jobsBetween (l : JobList) (start stop : Nat) : List (Nat × Job) :=
  (List.range' start (stop - start)).filterMap fun i => (l.item? i).map fun j => (i, j)

def keepRows (l : JobList) (jobs : List (Nat × Job)) : JobList :=
  { l with cache := jobs.foldl (fun c p => c.keep p.2) l.cache }

def unmeasured (l : JobList) : List (Nat × Job) :=
  let (start, stop) := l.viewport.range
  (l.jobsBetween start stop).filter fun p => !l.viewport.rows.isMeasured p.1

def measure (l : JobList) : JobList :=
  let fresh := l.unmeasured
  let l := l.keepRows fresh
  fresh.foldl (fun acc p => acc.recordHeight p.1 (l.cache.text p.2).height) l

/-- The rows that are handed to the screen: from the first visible one up to the end of those prepared. -/
def drawRange (l : JobList) : Nat × Nat :=
  let (start, stop) := l.viewport.range
  ((l.viewport.window?.map Window.first).getD start, stop)

def drawnJobs (l : JobList) : List (Nat × Job) :=
  let (first, stop) := l.drawRange
  l.jobsBetween first stop

/-- The place of the active row among those that are handed to the screen. -/
def selected? (l : JobList) : Option Nat :=
  let (first, stop) := l.drawRange
  (l.cursor.active.filter fun i => first ≤ i && i < stop).map (· - first)

def prepareRows (l : JobList) : JobList :=
  let (start, stop) := l.viewport.range
  let l := { l with cache := l.cache.retain l.pager.items start stop }
  l.keepRows l.drawnJobs

/-- Whether row numbers carry while the list is given its place: the rows to prepare are looked up before and after
the measuring. -/
def layOutCarries (l : JobList) (panel : Area) : Bool :=
  let body := bodyOf panel
  let l := { l with area := body }.setHeight body.height
  l.size != 0 && (l.viewport.rangeCarries || l.measure.viewport.rangeCarries)

def layOut (l : JobList) (panel : Area) : JobList :=
  let body := bodyOf panel
  let l := { l with area := body }.setHeight body.height
  if l.size = 0 then l else l.measure.prepareRows

end JobBoard.JobList
