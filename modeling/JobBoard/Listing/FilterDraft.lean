import JobBoard.Filter.Basic

/-!
The filter that is being edited beside the filter that is shown.
-/

namespace JobBoard

structure FilterDraft where
  pending : Filter
  committed : Filter
  /-- The quiet time after an edit, in milliseconds. -/
  quietMs : Nat
  deriving DecidableEq

namespace FilterDraft

def start (filter : Filter) (quietMs : Nat) : FilterDraft := { pending := filter, committed := filter, quietMs }

def isDirty (d : FilterDraft) : Bool := d.pending != d.committed

def edit (d : FilterDraft) (f : Filter → Filter) : FilterDraft := { d with pending := f d.pending }

/-- Makes the edits count; nothing is returned if there are none. -/
def commit (d : FilterDraft) : FilterDraft × Option Filter :=
  if d.isDirty then ({ d with committed := d.pending }, some d.pending) else (d, none)

end FilterDraft

end JobBoard
