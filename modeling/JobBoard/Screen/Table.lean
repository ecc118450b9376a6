import JobBoard.Screen.Glyph

/-!
Tables: rows of differing heights below a line of titles. Rows are drawn in order from the first one; a selected
row that would be out of sight moves the first drawn row on until it fits.
-/

namespace JobBoard

structure TableRow where
  cells : List (List Line)
  height : Nat
  style : Style

namespace Table

/-- The number of rows, from the first one on, that fit into `limit` lines. -/
def fitting (limit : Nat) : List Nat → Nat
  | [] => 0
  | h :: hs => if h ≤ limit then fitting (limit - h) hs + 1 else 0

def lines (hs : List Nat) : Nat := hs.foldr (· + ·) 0

/-- The number of rows to leave out at the start so that the others fit into `limit` lines. -/
def excess (limit : Nat) : List Nat → Nat
  | [] => 0
  | h :: hs => if lines (h :: hs) ≤ limit then 0 else excess limit hs + 1

/-- The first row that is drawn, and the row behind the last one that is drawn whole. -/
def whole (limit : Nat) (heights : List Nat) (selected : Option Nat) : Nat × Nat :=
  let n := fitting limit heights
  match selected with
  | none => (0, n)
  | some i => if i < n then (0, n) else (excess limit (heights.take (i + 1)), i + 1)

/-- The first row that is drawn, and the row behind the last one: where lines are left, a part of the next row
is drawn in them. -/
def drawn (limit : Nat) (heights : List Nat) (selected : Option Nat) : Nat × Nat :=
  let (first, stop) := whole limit heights selected
  if lines ((heights.take stop).drop first) < limit && stop < heights.length then (first, stop + 1) else (first, stop)

/-- Gives every row its lines: the number of the row, its first line, and how many lines it has above `limit`. -/
def placeFrom (limit index line : Nat) : List Nat → List (Nat × Nat × Nat)
  | [] => []
  | h :: hs => (index, line, min h (limit - line)) :: placeFrom limit (index + 1) (line + h) hs

def placed (limit : Nat) (heights : List Nat) (selected : Option Nat) : List (Nat × Nat × Nat) :=
  let (first, stop) := drawn limit heights selected
  placeFrom limit first 0 ((heights.take stop).drop first)

end Table

namespace Screen

def tableCells (s : Screen) (a : Area) (columns : List (Nat × Nat)) (cells : List (List Line)) : Screen :=
  (columns.zip cells).foldl
    (fun s ((offset, width), ls) => s.writeLines { a with left := a.left + offset, width } ls) s

/-- Draws the titles into the first line of an area, each on a style of its own. -/
def tableHeader (s : Screen) (a : Area) (columns : List (Nat × Nat)) (rowStyle cellStyle : Style)
    (titles : List String) : Screen :=
  let line := { a with height := min 1 a.height }
  (columns.zip titles).foldl
    (fun s ((offset, width), title) =>
      let cell := { line with left := a.left + offset, width }
      (s.paint cell cellStyle).writeLines cell [Line.plain title])
    (s.paint line rowStyle)

def tableRows (s : Screen) (a : Area) (columns : List (Nat × Nat)) (selectedStyle : Style) (rows : List TableRow)
    (selected : Option Nat) : Screen :=
  (Table.placed a.height (rows.map TableRow.height) selected).foldl
    (fun s (i, line, height) =>
      match rows[i]? with
      | none => s
      | some row =>
        let place := { a with top := a.top + line, height }
        let s := (s.paint place row.style).tableCells place columns row.cells
        if selected = some i then s.paint place selectedStyle else s)
    s

end Screen

end JobBoard
