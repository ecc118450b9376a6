/-!
Rectangles of a screen, and how one is parted into others. Where there is too little room, parts that come
earlier are served first.
-/

namespace JobBoard

/-- Where a table that has too little room for its columns puts them, and how wide it makes them. -/
class TightColumns where
  place : (width : Nat) → List (Option Nat) → List (Nat × Nat)

structure Area where
  left : Nat := 0
  top : Nat := 0
  width : Nat := 0
  height : Nat := 0
  deriving DecidableEq

namespace Area

def right (a : Area) : Nat := a.left + a.width

def bottom (a : Area) : Nat := a.top + a.height

def contains (a : Area) (x y : Nat) : Bool := a.left ≤ x && x < a.right && a.top ≤ y && y < a.bottom

def inside (a : Area) : Area :=
  { left := min (a.left + 1) a.right
    top := min (a.top + 1) a.bottom
    width := a.width - 2
    height := a.height - 2 }

def belowFirst (a : Area) : Area := { a with top := a.top + 1, height := a.height - 1 }

/-- Lines above, lines below, and between them the rest, which is never given less than `least` lines as long as
the area has them. -/
def parted (a : Area) (above least below : Nat) : Area × Area × Area :=
  let middle := max (min least a.height) (a.height - above - below)
  let upper := min above (a.height - middle)
  ({ a with height := upper },
    { a with top := a.top + upper, height := middle },
    { a with top := a.top + upper + middle, height := a.height - middle - upper })

def splitRight (a : Area) (columns : Nat) : Area × Area :=
  let n := min columns a.width
  ({ a with width := a.width - n }, { a with left := a.left + (a.width - n), width := n })

/-- The nearest whole number to `percent` hundredths of `n`; a half goes up. -/
def hundredths (n percent : Nat) : Nat := (n * percent + 50) / 100

/-- Where a part of `percent` hundredths starts and how long it is if it stands in the middle of `n`. -/
def middlePart (n percent : Nat) : Nat × Nat :=
  let margin := (100 - percent) / 2
  let start := hundredths n margin
  (start, hundredths n (margin + percent) - start)

def centered (a : Area) (percentWidth percentHeight : Nat) : Area :=
  let (x, w) := middlePart a.width percentWidth
  let (y, h) := middlePart a.height percentHeight
  { left := a.left + x, top := a.top + y, width := w, height := h }

/-- The columns that columns of these widths need, with one between two of them. -/
def needed (widths : List (Option Nat)) : Nat := widths.foldl (fun n w => n + w.getD 0) (widths.length - 1)

/-- The offsets and widths of columns that have room: `none` takes what the others leave. -/
def columnsFrom (start spare : Nat) : List (Option Nat) → List (Nat × Nat)
  | [] => []
  | w :: ws => (start, w.getD spare) :: columnsFrom (start + w.getD spare + 1) spare ws

def columns [TightColumns] (width : Nat) (widths : List (Option Nat)) : List (Nat × Nat) :=
  if needed widths ≤ width then columnsFrom 0 (width - needed widths) widths else TightColumns.place width widths

end Area

end JobBoard
