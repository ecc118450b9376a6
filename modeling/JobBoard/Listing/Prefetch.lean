import JobBoard.Listing.Pager

/-!
Asking for more before the end of the loaded list is reached. An end that was acted on, told by its generation,
the number of loaded rows and the count of scrollings, is not acted on again.
-/

namespace JobBoard

/-- An end of the loaded list that came near. -/
structure TrailingEdge where
  generation : Generation
  loaded : Nat
  scrollings : Nat
  deriving DecidableEq

structure Prefetch where
  threshold : Nat
  handled : Option TrailingEdge := none
  deriving DecidableEq

namespace Prefetch

def reset (t : Prefetch) : Prefetch := { t with handled := none }

def mark (t : Prefetch) (edge : TrailingEdge) : Prefetch := { t with handled := some edge }

/-- Whether the highest row that was drawn is near the end; where no row was drawn, an empty list is. -/
def isNear (t : Prefetch) (highest : Option Nat) (loaded : Nat) : Bool :=
  match highest with
  | some i => loaded ≤ Word.add64 i t.threshold
  | none => loaded == 0

/-- Whether looking at what was drawn adds row numbers beyond their word. Where no page can be asked for, nothing is
added. -/
def observeCarries (t : Prefetch) (highest : Option Nat) (p : Pager) : Bool :=
  p.hasMore && !p.inFlight && highest.any (Word.carries64 · t.threshold)

/-- Looks at what was drawn, and asks for the next page where it is time for it. -/
def observe (t : Prefetch) (highest : Option Nat) (p : Pager) (scrollings : Nat) :
    Prefetch × Pager × Option PageRequest :=
  let edge : TrailingEdge := ⟨p.generation, p.size, scrollings⟩
  if p.hasMore && !p.inFlight && t.isNear highest p.size && t.handled != some edge then
    let (p, request) := p.fetch
    (t.mark edge, p, request)
  else (t, p, none)

end Prefetch

end JobBoard
