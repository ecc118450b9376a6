import JobBoard.Screen.Area

/-!
The parts of the screen.
-/

namespace JobBoard

structure Layout where
  counts : Area
  filters : Area
  list : Area
  status : Area
  hints : Area
  record : Area
  deriving DecidableEq

namespace Layout

def ofScreen (a : Area) : Layout :=
  let (counts, main, hints) := a.parted 3 6 1
  let (filters, list, status) := main.parted 3 3 1
  { counts, filters, list, status, hints, record := a.centered 80 80 }

end Layout

end JobBoard
