import JobBoard.Listing.Request

/-!
What the board asks to be done in answer to an event.
-/

namespace JobBoard

inductive Effect where
  | fetchPage (request : PageRequest)
  /-- The edited filter is to count after a quiet time in milliseconds. -/
  | scheduleCommit (ms : Nat)
  | cancelCommit
  | share (query : String)
  | openJob (id : Int)
  | fetchDashboard
  | closeRecord
  | quit
  deriving DecidableEq

end JobBoard
