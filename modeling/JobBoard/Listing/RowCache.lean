import JobBoard.Listing.RowText
import Std.Data.HashMap

/-!
The formatted rows of the jobs that are near the screen, by the jobs' numbers.
-/

namespace JobBoard

structure RowCache where
  rows : Std.HashMap Int RowText := {}

namespace RowCache

def size (c : RowCache) : Nat := c.rows.size

/-- The row of a job, formatted anew if it is not there. -/
def text (c : RowCache) (j : Job) : RowText := c.rows.getD j.id (RowText.ofJob j)

/-- Keeps the row of a job from now on; a row that is there stays as it is. -/
def keep (c : RowCache) (j : Job) : RowCache := ⟨c.rows.insertIfNew j.id (RowText.ofJob j)⟩

def retain (c : RowCache) (items : Array Job) (start stop : Nat) : RowCache :=
  let kept := (items.extract start stop).foldl (fun ids j => ids.insert j.id ()) ({} : Std.HashMap Int Unit)
  ⟨c.rows.filter fun id _ => kept.contains id⟩

end RowCache

end JobBoard
