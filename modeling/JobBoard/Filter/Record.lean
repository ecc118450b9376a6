import JobBoard.Filter.Basic
import JobBoard.Json.Fields

/-!
The record of a filter. Unlike a job's status, a choice of statuses has to be one of those an operator can type.
-/

namespace JobBoard

open Json

namespace Json.Tree

def statusChoice? (t : Tree) : Option StatusChoice := t.text?.bind StatusChoice.ofTyped?

end Json.Tree

namespace Filter

def fieldNames : List String := ["status", "requires_manual_review"]

def ofTree (t : Tree) : Option Filter := do
  let fs ← Fields.ofRecord fieldNames t
  let status ← fs.required "status" Tree.statusChoice?
  let reviewOnly ← fs.required "requires_manual_review" Tree.bool?
  some { status, reviewOnly }

def ofText (s : String) : Option Filter := (Tree.ofText s).bind ofTree

def toValue (f : Filter) : Value :=
  .record [("status", .text f.status.name), ("requires_manual_review", .bool f.reviewOnly)]

end Filter

end JobBoard
