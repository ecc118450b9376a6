import JobBoard.Json.Fields

/-!
What can go wrong between the board and the service, and the wording of it.
-/

namespace JobBoard

inductive ServiceError where
  | badBase (url reason : String)
  /-- The credential under this environment name cannot be sent. -/
  | badCredential (key : String)
  | status (code : Nat) (text : String) (kind requestId : Option String)
  /-- The body of a successful answer is no record of the expected kind. -/
  | undecodable
  | unreachable
  deriving DecidableEq

namespace ServiceError

def message : ServiceError → String
  | badBase url reason => s!"invalid API base URL '{url}': {reason}"
  | badCredential key => s!"invalid credential in {key}"
  | status code text _ _ => s!"API error {code}: {text}"
  | undecodable => "could not decode response"
  | unreachable => "request failed"

def status? : ServiceError → Option Nat
  | status code _ _ _ => some code
  | _ => none

end ServiceError

open Json

structure ErrorReport where
  message : Option String
  error : Option String
  code : Option String
  requestId : Option String

namespace ErrorReport

def fieldNames : List String := ["message", "error", "code", "request_id"]

/-- The request may be named in either of two spellings. -/
def canonical (name : String) : Option String :=
  if name == "requestId" then some "request_id"
  else if fieldNames.contains name then some name
  else none

def ofTree (t : Tree) : Option ErrorReport := do
  let fs ← Fields.ofTree fieldNames canonical t
  let message ← fs.optional "message" Tree.text?
  let error ← fs.optional "error" Tree.text?
  let code ← fs.optional "code" Tree.text?
  let requestId ← fs.optional "request_id" Tree.text?
  some { message, error, code, requestId }

def ofText (s : String) : Option ErrorReport := (Tree.ofText s).bind ofTree

end ErrorReport

end JobBoard
