import JobBoard.Listing.RowHeights

/-!
The part of a list that is on screen: it is a number of lines high and starts at a scroll offset. Offsets are
32-bit words, row numbers 64-bit words. What changes the rows or looks for one of them remembers when a sum carries.
The sum of all rows is asked for after every change of the rows, so that asking for it later carries no more.
-/

namespace JobBoard

structure Viewport where
  rows : RowHeights
  scroll : Nat := 0
  height : Nat := 0
  /-- Rows prepared on each side of the visible ones. -/
  overscan : Nat
  /-- Whether a sum of lines has carried. Where sums are checked, nothing comes after that. -/
  overflowed : Bool := false
  /-- Whether a node of the tree has been cut. -/
  cut : Bool := false
  deriving DecidableEq

/-- The first and the last row of which something is on screen. -/
structure Window where
  first : Nat
  last : Nat
  deriving DecidableEq

namespace Viewport

def start (estimate overscan : Nat) : Viewport := { rows := .start estimate, overscan }

def maxScroll (v : Viewport) : Nat := v.rows.total - v.height

def clamp (v : Viewport) : Viewport := { v with scroll := min v.scroll v.maxScroll }

def setCount (v : Viewport) (n : Nat) : Viewport :=
  { v with
    rows := v.rows.resize n
    overflowed := v.overflowed || v.rows.resizeCarries n || (v.rows.resize n).totalCarries }.clamp

def setHeight (v : Viewport) (height : Nat) : Viewport := { v with height }.clamp

def reset (v : Viewport) : Viewport := { v with rows := v.rows.clear, scroll := 0 }

/-- The viewport at another offset, and whether it has moved. -/
def movedTo (v w : Viewport) : Viewport × Bool := (w, w.scroll != v.scroll)

/-- Scrolls by a number of lines as far as the list goes, and says whether that was anywhere. -/
def scrollBy (v : Viewport) (d : Int) : Viewport × Bool :=
  v.movedTo { v with scroll := (min ((v.scroll : Int) + d) v.maxScroll).toNat }

/-- Brings a row to the top as far as the list goes. -/
def scrollTo (v : Viewport) (index : Nat) : Viewport :=
  if v.rows.size = 0 then { v with scroll := 0 }
  else
    let i := min index (v.rows.size - 1)
    { v with
      scroll := min (v.rows.offsetOf i) v.maxScroll
      overflowed := v.overflowed || v.rows.offsetCarries i }

/-- The scroll offset nearest to the present one at which a row is on screen; a row that is too tall shows its
top. -/
def scrollShowing (v : Viewport) (index : Nat) : Nat :=
  let top := v.rows.offsetOf index
  let bottom := Word.add32 top (v.rows.height index)
  if top < v.scroll then top
  else if Word.add32 v.scroll v.height < bottom then min (bottom - v.height) top
  else v.scroll

def showingCarries (v : Viewport) (index : Nat) : Bool :=
  let top := v.rows.offsetOf index
  v.rows.offsetCarries index || Word.carries32 top (v.rows.height index) ||
    (decide (v.scroll ≤ top) && Word.carries32 v.scroll v.height)

def ensureVisible (v : Viewport) (index : Nat) : Viewport × Bool :=
  if index < v.rows.size then
    v.movedTo { v with
      scroll := v.scrollShowing index
      overflowed := v.overflowed || v.showingCarries index }.clamp
  else (v, false)

/-- Notes the measured height of a row, and says whether it differs. A row above the first visible one shifts
the viewport, so that the first visible row stays where it is. -/
def record (v : Viewport) (index height : Nat) : Viewport × Bool :=
  let (rows, d) := v.rows.record index height
  if d = 0 then ({ v with rows }, false)
  else
    let isAbove := (v.rows.indexAt v.scroll).any (index < ·)
    let scroll := if isAbove then ((v.scroll : Int) + d).toNat % Word.size32 else v.scroll
    let overflowed := v.overflowed || rows.totalCarries
    ({ v with rows, scroll, overflowed, cut := v.cut || v.rows.recordCuts index height }.clamp, true)

def window? (v : Viewport) : Option Window :=
  if v.height = 0 then none
  else do
    let first ← v.rows.indexAt v.scroll
    let last ← v.rows.indexAt (Word.add32 v.scroll (v.height - 1))
    some ⟨first, last⟩

def windowCarries (v : Viewport) : Bool := 0 < v.height && 0 < v.rows.size && Word.carries32 v.scroll v.height

/-- The rows that are prepared: the visible ones and their neighbours, from the first number up to the second
one. -/
def range (v : Viewport) : Nat × Nat :=
  match v.window? with
  | none => (0, 0)
  | some w => (w.first - v.overscan, min (Word.add64 (Word.add64 w.last v.overscan) 1) v.rows.size)

def rangeCarries (v : Viewport) : Bool :=
  v.windowCarries ||
    v.window?.any fun w =>
      Word.carries64 w.last v.overscan || Word.carries64 (Word.add64 w.last v.overscan) 1

def showsWhole (v : Viewport) (index : Nat) : Bool :=
  let top := v.rows.offsetOf index
  v.scroll ≤ top && Word.add32 top (v.rows.height index) ≤ Word.add32 v.scroll v.height

/-- The number of rows that are wholly on screen, and at least one: the step of paging. -/
def wholeRows (v : Viewport) : Nat :=
  match v.window? with
  | none => 1
  | some w => max ((List.range' w.first (w.last + 1 - w.first)).countP v.showsWhole) 1

def wholeRowsCarries (v : Viewport) : Bool :=
  v.windowCarries ||
    v.window?.any fun w =>
      (List.range' w.first (w.last + 1 - w.first)).any fun i =>
        v.rows.offsetCarries i ||
          (decide (v.scroll ≤ v.rows.offsetOf i) && Word.carries32 (v.rows.offsetOf i) (v.rows.height i))

/-- Whether a sum has carried on the way to the viewport, or does so when it is looked at. -/
def stops (v : Viewport) : Bool := v.overflowed || v.rangeCarries || v.wholeRowsCarries

end Viewport

end JobBoard
