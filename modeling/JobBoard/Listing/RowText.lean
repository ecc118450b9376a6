import JobBoard.Job.Record

/-!
The text of a job's row in the list. What depends on the present time is formatted when the row is drawn.
-/

namespace JobBoard

structure RowText where
  id : String
  status : String
  priority : String
  retries : String
  review : String
  messageId : String
  updated : String
  nextRetryAt : Option Instant
  reviewNote : Option String
  deriving DecidableEq

namespace RowText

/-- The reason for a review, on one line; the reason of the decision stands in for a missing one, and a blank
one counts for nothing. -/
def reviewNoteOf (j : Job) : Option String :=
  if j.needsReview then
    ((j.reviewReason.or j.decisionReason).map Text.singleLine).filter (· != "")
  else none

def ofJob (j : Job) : RowText :=
  { id := toString j.id
    status := j.status.name
    priority := toString j.priority
    retries := toString j.retryCount
    review := if j.needsReview then "●" else ""
    messageId := Text.orPlaceholder j.messageId
    updated := Instant.stampOrPlaceholder j.updatedAt
    nextRetryAt := j.nextRetryAt
    reviewNote := reviewNoteOf j }

def nextRetry (r : RowText) (now : Instant) : String := Instant.relativeOrPlaceholder now r.nextRetryAt

def height (r : RowText) : Nat := if r.reviewNote.isSome then 2 else 1

theorem height_pos (r : RowText) : 0 < r.height := by
  unfold height
  split <;> decide

end RowText

end JobBoard
