import JobBoard.Job.Record

/-!
Aggregate counts of the queue.
-/

namespace JobBoard

structure StatusCounts where
  pending : Int := 0
  processing : Int := 0
  completed : Int := 0
  deriving DecidableEq

structure Dashboard where
  statusCounts : StatusCounts := {}
  reviewCount : Int := 0
  errorCount : Int := 0
  staleCount : Int := 0
  updatedAt : Option Instant := none
  deriving DecidableEq

open Json

namespace StatusCounts

def fieldNames : List String := ["pending", "processing", "completed"]

def ofTree (t : Tree) : Option StatusCounts := do
  let fs ← Fields.ofRecord fieldNames t
  let pending ← fs.orElse "pending" 0 Tree.int64?
  let processing ← fs.orElse "processing" 0 Tree.int64?
  let completed ← fs.orElse "completed" 0 Tree.int64?
  some { pending, processing, completed }

def writtenFields (c : StatusCounts) : List (String × Value) :=
  [("pending", .int c.pending), ("processing", .int c.processing), ("completed", .int c.completed)]

def toValue (c : StatusCounts) : Value := .record c.writtenFields

end StatusCounts

namespace Dashboard

def fieldNames : List String :=
  ["status_counts", "manual_review_count", "error_count", "stale_processing_count", "updated_at"]

def ofTree (t : Tree) : Option Dashboard := do
  let fs ← Fields.ofRecord fieldNames t
  let statusCounts ← fs.orElse "status_counts" {} StatusCounts.ofTree
  let reviewCount ← fs.orElse "manual_review_count" 0 Tree.int64?
  let errorCount ← fs.orElse "error_count" 0 Tree.int64?
  let staleCount ← fs.orElse "stale_processing_count" 0 Tree.int64?
  let updatedAt ← fs.optional "updated_at" Tree.instant?
  some { statusCounts, reviewCount, errorCount, staleCount, updatedAt }

def ofText (s : String) : Option Dashboard := (Tree.ofText s).bind ofTree

/-- The fields with their values, given the value of the counts by status. -/
def writtenFields (d : Dashboard) (counts : Value) : List (String × Value) := [
  ("status_counts", counts),
  ("manual_review_count", .int d.reviewCount),
  ("error_count", .int d.errorCount),
  ("stale_processing_count", .int d.staleCount),
  ("updated_at", Job.optionalInstant d.updatedAt)]

def toValue (d : Dashboard) : Value := .record (d.writtenFields d.statusCounts.toValue)

end Dashboard

end JobBoard
