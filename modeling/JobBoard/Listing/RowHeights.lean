import JobBoard.Listing.HeightTree

/-!
The height of every loaded row: an estimate until the row is drawn and measured.
-/

namespace JobBoard

structure RowHeight where
  lines : Nat
  measured : Bool
  deriving DecidableEq

structure RowHeights where
  /-- The height of rows that are not measured; at least one. -/
  estimate : Nat
  rows : Array RowHeight := #[]
  tree : HeightTree := {}
  deriving DecidableEq

namespace RowHeights

def start (estimate : Nat) : RowHeights := { estimate := max estimate 1 }

def size (r : RowHeights) : Nat := r.rows.size

def clear (r : RowHeights) : RowHeights := { estimate := r.estimate }

def grow (r : RowHeights) : Nat → RowHeights
  | 0 => r
  | n + 1 => grow { r with rows := r.rows.push ⟨r.estimate, false⟩, tree := r.tree.push r.estimate } n

/-- Whether a sum carries while rows are appended. -/
def growCarries (r : RowHeights) : Nat → Bool
  | 0 => false
  | n + 1 =>
    r.tree.pushCarries r.estimate ||
      growCarries { r with rows := r.rows.push ⟨r.estimate, false⟩, tree := r.tree.push r.estimate } n

/-- Grows by estimated rows, or cuts off rows at the end. -/
def resize (r : RowHeights) (n : Nat) : RowHeights :=
  if n < r.size then
    let rows := r.rows.take n
    { r with rows, tree := HeightTree.ofHeights (rows.map RowHeight.lines) }
  else r.grow (n - r.size)

def resizeCarries (r : RowHeights) (n : Nat) : Bool :=
  if n < r.size then HeightTree.ofHeightsCarries ((r.rows.take n).map RowHeight.lines)
  else r.growCarries (n - r.size)

def height (r : RowHeights) (index : Nat) : Nat := (r.rows[index]?.map RowHeight.lines).getD r.estimate

def isMeasured (r : RowHeights) (index : Nat) : Bool := (r.rows[index]?.map RowHeight.measured).getD false

/-- Notes the measured height of a row, and says by how much the sum of the heights changed. -/
def record (r : RowHeights) (index height : Nat) : RowHeights × Int :=
  match r.rows[index]? with
  | none => (r, 0)
  | some row =>
    let lines := max height 1
    let d : Int := (lines : Int) - row.lines
    let rows := r.rows.setIfInBounds index ⟨lines, true⟩
    if d = 0 then ({ r with rows }, 0) else ({ r with rows, tree := r.tree.add index d }, d)

/-- Whether noting a height cuts a node of the tree. -/
def recordCuts (r : RowHeights) (index height : Nat) : Bool :=
  (r.record index height).2 != 0 && r.tree.addCuts index (r.record index height).2

def offsetOf (r : RowHeights) (index : Nat) : Nat := r.tree.sumFirst index

def offsetCarries (r : RowHeights) (index : Nat) : Bool := r.tree.sumFirstCarries index

/-- The row at an offset; below the end it is the last one. -/
def indexAt (r : RowHeights) (offset : Nat) : Option Nat :=
  if r.size = 0 then none else some (min (r.tree.rowsBefore offset) (r.size - 1))

def total (r : RowHeights) : Nat := r.tree.sumFirst r.size

def totalCarries (r : RowHeights) : Bool := r.offsetCarries r.size

end RowHeights

end JobBoard
