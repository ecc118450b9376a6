import JobBoard.Filter.Basic
import JobBoard.Text.Form

/-!
The shareable text of a filter: a query with the keys `status` and `review`. What does not narrow the listing
is left out, so the empty text is the filter that lets everything through. Other keys are passed over in
reading; a malformed value of a known key is an error, so that a typing error cannot widen a shared view.
-/

namespace JobBoard.Filter

inductive QueryError where
  | unknownStatus (value : String)
  | invalidReview (value : String)
  deriving DecidableEq

def QueryError.message : QueryError → String
  | unknownStatus v => s!"unknown status '{v}' in query string"
  | invalidReview v => s!"invalid value '{v}' for review; expected true or false"

def statusKey : String := "status"

def reviewKey : String := "review"

def pairs (f : Filter) : List (String × String) :=
  (match f.status.status? with
    | some s => [(statusKey, s.name)]
    | none => []) ++ if f.reviewOnly then [(reviewKey, "true")] else []

def toQuery (f : Filter) : String := String.ofList (Text.Form.encode f.pairs)

def readReview (v : String) : Except QueryError Bool :=
  match Text.asciiLower v with
  | "true" | "1" => .ok true
  | "false" | "0" | "" => .ok false
  | _ => .error (.invalidReview v)

def readStatus (v : String) : Except QueryError StatusChoice :=
  match StatusChoice.ofTyped? v with
  | some s => .ok s
  | none => .error (.unknownStatus v)

def absorb (f : Filter) (p : String × String) : Except QueryError Filter :=
  if p.1 = statusKey then (readStatus p.2).map fun s => { f with status := s }
  else if p.1 = reviewKey then (readReview p.2).map fun r => { f with reviewOnly := r }
  else .ok f

def ofPairs (ps : List (String × String)) : Except QueryError Filter :=
  ps.foldlM absorb everything

/-- Blanks around the query and question marks before it do not count. -/
def queryBody (q : String) : List Char := (Text.trim q.toList).dropWhile (· == '?')

def ofQuery (q : String) : Except QueryError Filter :=
  ofPairs (Text.Form.decode (queryBody q))

end JobBoard.Filter
