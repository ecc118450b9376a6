import JobBoard.Job.Status
import JobBoard.Json.Fields
import JobBoard.Time.Reader

/-!
The record of a queue job, read leniently and written in full.
-/

namespace JobBoard

structure Job where
  id : Int
  messageId : Option String := none
  status : Status := .unknown
  priority : Int := 0
  retryCount : Int := 0
  needsReview : Bool := false
  reviewReason : Option String := none
  decisionReason : Option String := none
  finalMethod : Option String := none
  nextRetryAt : Option Instant := none
  createdAt : Option Instant := none
  updatedAt : Option Instant := none
  deriving DecidableEq

namespace Json.Tree

def instant? (t : Tree) : Option Instant := t.text?.bind Instant.ofText?

/-- A status is written as its name, or as a record whose only field has that name and is null. -/
def status? : Tree → Option Status
  | text (some name) => some (Status.ofName name)
  | record [(some name, null)] => some (Status.ofName name)
  | _ => none

end Json.Tree

namespace Job

open Json

def fieldNames : List String :=
  ["id", "message_id", "status", "priority", "retry_count", "requires_manual_review", "manual_review_reason",
    "decision_reason", "final_method", "next_retry_at", "created_at", "updated_at"]

def ofTree (t : Tree) : Option Job := do
  let fs ← Fields.ofRecord fieldNames t
  let id ← fs.required "id" Tree.int64?
  let messageId ← fs.optional "message_id" Tree.text?
  let status ← fs.orNull "status" .unknown Tree.status?
  let priority ← fs.orNull "priority" 0 Tree.int32?
  let retryCount ← fs.orNull "retry_count" 0 Tree.int32?
  let needsReview ← fs.orNull "requires_manual_review" false Tree.bool?
  let reviewReason ← fs.optional "manual_review_reason" Tree.text?
  let decisionReason ← fs.optional "decision_reason" Tree.text?
  let finalMethod ← fs.optional "final_method" Tree.text?
  let nextRetryAt ← fs.optional "next_retry_at" Tree.instant?
  let createdAt ← fs.optional "created_at" Tree.instant?
  let updatedAt ← fs.optional "updated_at" Tree.instant?
  some { id, messageId, status, priority, retryCount, needsReview, reviewReason, decisionReason, finalMethod,
         nextRetryAt, createdAt, updatedAt }

def ofText (s : String) : Option Job := (Tree.ofText s).bind ofTree

def optionalText (s : Option String) : Value := Value.ofOption .text s

def optionalInstant (t : Option Instant) : Value := Value.ofOption (fun t => .text t.text) t

def writtenFields (j : Job) : List (String × Value) := [
  ("id", .int j.id),
  ("message_id", optionalText j.messageId),
  ("status", .text j.status.name),
  ("priority", .int j.priority),
  ("retry_count", .int j.retryCount),
  ("requires_manual_review", .bool j.needsReview),
  ("manual_review_reason", optionalText j.reviewReason),
  ("decision_reason", optionalText j.decisionReason),
  ("final_method", optionalText j.finalMethod),
  ("next_retry_at", optionalInstant j.nextRetryAt),
  ("created_at", optionalInstant j.createdAt),
  ("updated_at", optionalInstant j.updatedAt)]

def toValue (j : Job) : Value := .record j.writtenFields

end Job

end JobBoard
