import JobBoard.Screen.Area

/-!
Columns in too little room. Those before a column without a width of its own come first, and this column gets nothing;
the widest ones are made smaller, and equally wide.
-/

namespace JobBoard.Area

/-- The greatest width that columns may have together in `room`; the widths that they want are in ascending order. -/
def commonWidth (room : Rat) : List Nat → Rat
  | [] => room
  | n :: ns =>
    if (n * (ns.length + 1) : Rat) ≤ room then commonWidth (room - n) ns else room / (ns.length + 1)

/-- The widths of columns of which those before the next column without a width of its own are at most `most` wide. -/
def tightWidths (room most : Rat) : List (Option Nat) → List Rat
  | [] => []
  | none :: ws => 0 :: tightWidths room (commonWidth room ((ws.takeWhile Option.isSome).filterMap id).mergeSort) ws
  | some n :: ws => min (n : Rat) most :: tightWidths (room - min (n : Rat) most) most ws

def nearest (x : Rat) : Nat := (x + 1 / 2).floor.toNat

def columnsAt (width : Nat) (start : Rat) : List Rat → List (Nat × Nat)
  | [] => []
  | w :: ws =>
    let left := min (nearest start) width
    (left, min (nearest (start + w)) width - left) :: columnsAt width (start + w + 1) ws

instance : TightColumns where
  place width widths :=
    -- The first group of columns stands behind the edge as the others stand behind a column without a width.
    columnsAt width 0 ((tightWidths (width - (widths.length - 1) : Nat) 0 (none :: widths)).drop 1)

end JobBoard.Area
