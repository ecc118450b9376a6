import JobBoard.Service.Source

/-!
A service that answers from what it holds, or fails where it is told to.
-/

namespace JobBoard

structure Held where
  jobs : List Job := []
  counts : Dashboard := {}
  record : Job → Detail := fun job => { job }
  pageError : Option String := none
  countsError : Option String := none
  recordError : Option String := none
  /-- Whether every page claims that there are more jobs. -/
  claimMore : Bool := false

namespace Held

/-- A job that is not held is made up from its number. -/
def job (h : Held) (id : Int) : Job := (h.jobs.find? fun j => j.id == id).getD { id }

def orError {α : Type} (code : Nat) (error : Option String) (answer : α) : Except ServiceError α :=
  match error with
  | some text => .error (.status code text none none)
  | none => .ok answer

def source (h : Held) : Source :=
  { page := fun f offset limit => orError 503 h.pageError (Source.pageOf h.jobs h.claimMore f offset limit)
    counts := orError 500 h.countsError h.counts
    record := fun id => orError 404 h.recordError (h.record (h.job id)) }

end Held

end JobBoard
