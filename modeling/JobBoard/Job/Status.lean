import JobBoard.Text.Blank

/-!
The processing status of a job, and the choice of statuses that a listing shows.
-/

namespace JobBoard

/-- `unknown` stands for a missing status and for every name that is not one of the others. -/
inductive Status where
  | pending
  | processing
  | completed
  | unknown
  deriving DecidableEq

namespace Status

def name : Status → String
  | pending => "pending"
  | processing => "processing"
  | completed => "completed"
  | unknown => "unknown"

/-- A name that an operator typed: blanks around it and the case of its letters do not matter. -/
def ofTyped? (s : String) : Option Status :=
  match Text.asciiLower (Text.trimmed s) with
  | "pending" => some pending
  | "processing" => some processing
  | "completed" => some completed
  | _ => none

def ofName : String → Status
  | "pending" => pending
  | "processing" => processing
  | "completed" => completed
  | _ => unknown

theorem ofName_name (s : Status) : ofName s.name = s := by
  cases s <;> rfl

def refusal (typed : String) : String :=
  s!"invalid job status '{typed}'; expected pending, processing or completed"

end Status

inductive StatusChoice where
  | all
  | only (s : Status)
  deriving DecidableEq

namespace StatusChoice

def name : StatusChoice → String
  | all => "all"
  | only s => s.name

def status? : StatusChoice → Option Status
  | all => none
  | only s => some s

def ofTyped? (s : String) : Option StatusChoice :=
  if Text.sameIgnoringCase (Text.trimmed s) "all" then some all
  else (Status.ofTyped? s).map only

def cycle : List StatusChoice :=
  [all, only .pending, only .processing, only .completed]

/-- The next choice; a choice outside the cycle counts as its first. -/
def next : StatusChoice → StatusChoice
  | only .pending => only .processing
  | only .processing => only .completed
  | only .completed => all
  | _ => only .pending

def prev : StatusChoice → StatusChoice
  | only .pending => all
  | only .processing => only .pending
  | only .completed => only .processing
  | _ => only .completed

theorem prev_next {c : StatusChoice} (h : c ∈ cycle) : c.next.prev = c := by
  simp only [cycle, List.mem_cons, List.not_mem_nil, or_false] at h
  rcases h with rfl | rfl | rfl | rfl <;> rfl

end StatusChoice

end JobBoard
