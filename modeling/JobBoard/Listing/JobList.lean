import JobBoard.Effect
import JobBoard.Filter.Query
import JobBoard.Listing.Cursor
import JobBoard.Listing.FilterDraft
import JobBoard.Listing.Prefetch
import JobBoard.Listing.RowCache
import JobBoard.Listing.Viewport
import JobBoard.Screen.Area
import JobBoard.Settings

/-!
The list of jobs: what is loaded, what of it is on screen, which row is active, and which filter is edited.
Whatever changes the list says what is to be done about it.
-/

namespace JobBoard

structure JobList where
  pager : Pager
  viewport : Viewport
  prefetch : Prefetch
  cursor : Cursor := {}
  draft : FilterDraft
  cache : RowCache := {}
  /-- Counts the scrollings; it is a 64-bit word. -/
  scrollings : Nat := 0
  /-- Whether the count has carried. -/
  miscounted : Bool := false
  area : Area := {}

namespace JobList

def start (settings : Settings) (filter : Filter) : JobList :=
  { pager := .start filter settings.pageSize
    viewport := .start settings.rowHeight settings.overscan
    prefetch := { threshold := settings.prefetchThreshold }
    draft := .start filter settings.debounceMs }

def size (l : JobList) : Nat := l.pager.size

def item? (l : JobList) (index : Nat) : Option Job := l.pager.items[index]?

def activeJob? (l : JobList) : Option Job := l.cursor.active.bind l.item?

def countScrolling (l : JobList) : JobList :=
  { l with
    scrollings := Word.add64 l.scrollings 1
    miscounted := l.miscounted || Word.carries64 l.scrollings 1 }

def resetTo (l : JobList) (filter : Filter) : JobList :=
  { l with
    pager := l.pager.reset filter
    viewport := l.viewport.reset
    prefetch := l.prefetch.reset
    cursor := {}
    cache := {} }.countScrolling

def fetch (l : JobList) : JobList × List Effect :=
  let (pager, request) := l.pager.fetch
  ({ l with pager }, (request.map Effect.fetchPage).toList)

def mount (l : JobList) : JobList × List Effect := (l.resetTo l.draft.committed).fetch

def edit (l : JobList) (f : Filter → Filter) : JobList × List Effect :=
  ({ l with draft := l.draft.edit f }, [.scheduleCommit l.draft.quietMs])

def setStatus (l : JobList) (status : StatusChoice) : JobList × List Effect :=
  l.edit fun f => { f with status }

def cycleStatus (l : JobList) (forward : Bool) : JobList × List Effect :=
  l.edit fun f => { f with status := if forward then f.status.next else f.status.prev }

def toggleReview (l : JobList) : JobList × List Effect :=
  l.edit fun f => { f with reviewOnly := !f.reviewOnly }

/-- Shows the edited filter if it differs from the one that is shown. -/
def commit (l : JobList) : JobList × List Effect :=
  match l.draft.commit with
  | (_, none) => (l, [])
  | (draft, some filter) =>
    let (l, effects) := ({ l with draft }.resetTo filter).fetch
    (l, .share filter.toQuery :: effects)

def applyNow (l : JobList) : JobList × List Effect :=
  let (l, effects) := l.commit
  (l, .cancelCommit :: effects)

def clearFilters (l : JobList) : JobList × List Effect :=
  { l with draft := l.draft.edit fun _ => .everything }.applyNow

def refresh (l : JobList) : JobList × List Effect :=
  let (l, effects) := l.mount
  (l, effects ++ [.fetchDashboard])

def retry (l : JobList) : JobList × List Effect :=
  if l.pager.error.isSome then l.fetch else (l, [])

def receive (l : JobList) (g : Generation) (page : Page) : JobList :=
  match l.pager.receive g page with
  | (_, .stale) => l
  | (pager, .appended _) =>
    { l with pager, viewport := l.viewport.setCount pager.size, cursor := l.cursor.fit pager.size }

/-- A failure counts as having acted on the present end of the list, so that the next attempt needs a scrolling
or a wish. -/
def fail (l : JobList) (g : Generation) (error : String) : JobList :=
  match l.pager.fail g error with
  | (_, false) => l
  | (pager, true) => { l with pager, prefetch := l.prefetch.mark ⟨g, pager.size, l.scrollings⟩ }

def setHeight (l : JobList) (height : Nat) : JobList := { l with viewport := l.viewport.setHeight height }

def scrollBy (l : JobList) (d : Int) : JobList := { l with viewport := (l.viewport.scrollBy d).1 }.countScrolling

def recordHeight (l : JobList) (index height : Nat) : JobList :=
  { l with viewport := (l.viewport.record index height).1 }

/-- The last row that is prepared, if there is one. -/
def highestPrepared (l : JobList) : Option Nat :=
  let (start, stop) := l.viewport.range
  if start < stop then some (stop - 1) else none

def afterDraw (l : JobList) : JobList × List Effect :=
  let (prefetch, pager, request) := l.prefetch.observe l.highestPrepared l.pager l.scrollings
  ({ l with prefetch, pager }, (request.map Effect.fetchPage).toList)

def afterDrawCarries (l : JobList) : Bool :=
  l.viewport.rangeCarries || l.prefetch.observeCarries l.highestPrepared l.pager

/-- Whether a sum has carried on the way to the list, or does so when it is looked at. -/
def stops (l : JobList) : Bool := l.miscounted || l.viewport.stops

def follow (l : JobList) (index : Nat) : JobList :=
  let (viewport, moved) := l.viewport.ensureVisible index
  if moved then { l with viewport }.countScrolling else { l with viewport }

def afterMove (l : JobList) : CursorOutcome → JobList × List Effect
  | .unchanged => (l, [])
  | .moved index => (l.follow index, [])
  | .activated index => (l, ((l.item? index).map fun j => Effect.openJob j.id).toList)

def navigate (l : JobList) (key : CursorKey) : JobList × CursorOutcome × List Effect :=
  let (cursor, outcome) := l.cursor.handle key l.size
  let (l, effects) := { l with cursor }.afterMove outcome
  (l, outcome, effects)

def select (l : JobList) (index : Nat) : JobList × CursorOutcome :=
  let (cursor, outcome) := l.cursor.select index l.size
  (({ l with cursor }.afterMove outcome).1, outcome)

def pageStep (l : JobList) : Nat := l.viewport.wholeRows

/-- The row under a line of the screen. The list is drawn from the top of its first visible row on. -/
def indexAtLine (l : JobList) (y : Nat) : Option Nat :=
  if y < l.area.top || l.area.bottom ≤ y then none
  else do
    let w ← l.viewport.window?
    let rows := l.viewport.rows
    let offset := Word.add32 (rows.offsetOf w.first) (y - l.area.top)
    if rows.total ≤ offset then none else rows.indexAt offset

def indexAtLineCarries (l : JobList) (y : Nat) : Bool :=
  l.area.top ≤ y && y < l.area.bottom && l.viewport.window?.any fun w =>
    l.viewport.rows.offsetCarries w.first || Word.carries32 (l.viewport.rows.offsetOf w.first) (y - l.area.top)

end JobList

end JobBoard
