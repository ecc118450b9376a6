import JobBoard.Service.Error
import JobBoard.Job.Page
import JobBoard.Job.Dashboard
import JobBoard.Job.Detail

/-!
Answers of the service, and the records or errors that they stand for.
-/

namespace JobBoard

structure Answer where
  status : Nat
  contentType : Option String := none
  requestId : Option String := none
  body : String := ""
  deriving DecidableEq

namespace Answer

def isSuccess (a : Answer) : Bool := 200 ≤ a.status && a.status < 300

/-- Some statuses never come with a body. -/
def content (a : Answer) : String := if a.status == 204 || a.status == 304 then "" else a.body

/-- A header's text without spaces and tabs around it; none if it holds anything but visible ASCII. -/
def headerText? (h : Option String) : Option String :=
  let isGap (c : Char) : Bool := c == ' ' || c == '\t'
  let plain := h.map fun s => ((s.toList.dropWhile isGap).reverse.dropWhile isGap).reverse
  (plain.filter fun cs => cs.all fun c => c == '\t' || (0x20 ≤ c.toNat && c.toNat < 0x7F)).map String.ofList

def isJson (a : Answer) : Bool :=
  (headerText? a.contentType).any (Text.contains · "application/json")

def noText : String := "request failed"

/-- The error that an answer without success tells of: from its report, or from its whole body. -/
def error (a : Answer) : ServiceError :=
  let header := headerText? a.requestId
  match if a.isJson then ErrorReport.ofText a.content else none with
  | some r => .status a.status ((r.message.or r.error).getD noText) r.code (r.requestId.or header)
  | none =>
    let text := Text.trimmed a.content
    .status a.status (if text.isEmpty then noText else text) none header

def decode {α : Type} (read : String → Option α) (a : Answer) : Except ServiceError α :=
  if a.isSuccess then
    match read a.content with
    | some x => .ok x
    | none => .error .undecodable
  else .error a.error

def page (offset limit : Nat) (a : Answer) : Except ServiceError Page :=
  (a.decode ListAnswer.ofText).map (·.toPage offset limit)

def dashboard (a : Answer) : Except ServiceError Dashboard := a.decode Dashboard.ofText

def detail (a : Answer) : Except ServiceError Detail := a.decode Detail.ofText

end Answer

end JobBoard
