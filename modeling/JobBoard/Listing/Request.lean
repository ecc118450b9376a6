import JobBoard.Filter.Basic
import JobBoard.Word

/-!
Requests for a page of the listing, and the mark that tells the requests of different listings apart.
-/

namespace JobBoard

/-- A mark that changes with every new listing; it is a 64-bit word and wraps. -/
structure Generation where
  value : Nat := 0
  deriving DecidableEq

namespace Generation

def next (g : Generation) : Generation := ⟨Word.add64 g.value 1⟩

def text (g : Generation) : String := s!"g{g.value}"

end Generation

structure PageRequest where
  generation : Generation
  filter : Filter
  offset : Nat
  limit : Nat
  deriving DecidableEq

end JobBoard
