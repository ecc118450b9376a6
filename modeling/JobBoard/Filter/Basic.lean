import JobBoard.Job.Status

/-!
What narrows a listing: a choice of statuses, and whether only jobs that need a manual review are shown.
-/

namespace JobBoard

structure Filter where
  status : StatusChoice := .all
  reviewOnly : Bool := false
  deriving DecidableEq

namespace Filter

def everything : Filter := {}

def isNarrowed (f : Filter) : Bool := f != everything

end Filter

end JobBoard
