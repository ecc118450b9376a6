import JobBoard.Job.Page
import JobBoard.Listing.Request

/-!
The loaded start of a listing. At most one request is out at a time, and an answer counts only in the generation
in which its request was made.
-/

namespace JobBoard

structure Pager where
  filter : Filter
  /-- Jobs asked for with one request; at least one. -/
  pageSize : Nat
  generation : Generation := {}
  items : Array Job := #[]
  nextOffset : Nat := 0
  hasMore : Bool := true
  inFlight : Bool := false
  error : Option String := none
  pagesLoaded : Nat := 0
  deriving DecidableEq

inductive PageOutcome where
  | appended (count : Nat)
  | stale
  deriving DecidableEq

namespace Pager

def start (filter : Filter) (pageSize : Nat) : Pager := { filter, pageSize := max pageSize 1 }

def size (p : Pager) : Nat := p.items.size

/-- Forgets everything that was loaded and starts a new generation; asks for nothing yet. -/
def reset (p : Pager) (filter : Filter) : Pager :=
  { filter, pageSize := p.pageSize, generation := p.generation.next }

def request (p : Pager) : PageRequest :=
  { generation := p.generation, filter := p.filter, offset := p.nextOffset, limit := p.pageSize }

/-- Asks for the next page unless a request is out or the listing has ended. -/
def fetch (p : Pager) : Pager × Option PageRequest :=
  if p.inFlight || !p.hasMore then (p, none) else ({ p with inFlight := true }, some p.request)

theorem fetch_of_more {p : Pager} (hm : p.hasMore = true) (hf : p.inFlight = false) :
    p.fetch = ({ p with inFlight := true }, some p.request) := by
  simp only [fetch, hm, hf, Bool.not_true, Bool.or_self, Bool.false_eq_true, ↓reduceIte]

theorem fetch_of_ended {p : Pager} (hm : p.hasMore = false) : p.fetch = (p, none) := by
  simp only [fetch, hm, Bool.not_false, Bool.or_true, ↓reduceIte]

theorem fetch_items (p : Pager) : p.fetch.1.items = p.items := by
  unfold fetch
  split <;> rfl

/-- Appends a page. An empty page ends the listing whatever it claims, since the next request would be the same
one again. -/
def append (p : Pager) (page : Page) : Pager :=
  { p with
    items := p.items ++ page.items.toArray
    nextOffset := p.nextOffset + page.items.length
    hasMore := page.hasMore && !page.items.isEmpty
    inFlight := false
    error := none
    pagesLoaded := p.pagesLoaded + 1 }

def receive (p : Pager) (g : Generation) (page : Page) : Pager × PageOutcome :=
  if g = p.generation then (p.append page, .appended page.items.length) else (p, .stale)

/-- Notes a failure and keeps what is loaded; whether it counted. -/
def fail (p : Pager) (g : Generation) (error : String) : Pager × Bool :=
  if g = p.generation then ({ p with inFlight := false, error := some error }, true) else (p, false)

def isEmptyResult (p : Pager) : Bool := p.items.isEmpty && !p.hasMore && !p.inFlight && p.error.isNone

end Pager

end JobBoard
