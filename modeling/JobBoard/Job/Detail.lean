import JobBoard.Job.Record

/-!
The full record of one job: the job with what its processing left behind.
-/

namespace JobBoard

structure Detail where
  job : Job
  partialFields : Option Json.Value := none
  lastError : Option String := none
  latencyMs : Option Int := none
  startedAt : Option Instant := none
  completedAt : Option Instant := none
  sourcePreview : Option String := none

namespace Detail

open Json

def fieldNames : List String :=
  ["job", "partial_fields", "last_error", "llm_latency_ms", "processing_started_at", "completed_at",
    "source_preview"]

/-- How many values may stand around one another in a record that is read. -/
def maxNesting : Nat := 127

def ofTree (t : Tree) : Option Detail := do
  let fs ← Fields.ofRecord fieldNames t
  let job ← fs.required "job" Job.ofTree
  let partialFields ← fs.optional "partial_fields" (Value.ofTree (maxNesting - 1))
  let lastError ← fs.optional "last_error" Tree.text?
  let latencyMs ← fs.optional "llm_latency_ms" Tree.int64?
  let startedAt ← fs.optional "processing_started_at" Tree.instant?
  let completedAt ← fs.optional "completed_at" Tree.instant?
  let sourcePreview ← fs.optional "source_preview" Tree.text?
  some { job, partialFields, lastError, latencyMs, startedAt, completedAt, sourcePreview }

def ofText (s : String) : Option Detail := (Tree.ofText s).bind ofTree

def toValue (d : Detail) : Value :=
  .record [
    ("job", d.job.toValue),
    ("partial_fields", Value.ofOption id d.partialFields),
    ("last_error", Job.optionalText d.lastError),
    ("llm_latency_ms", Value.ofOption .int d.latencyMs),
    ("processing_started_at", Job.optionalInstant d.startedAt),
    ("completed_at", Job.optionalInstant d.completedAt),
    ("source_preview", Job.optionalText d.sourcePreview)]

end Detail

end JobBoard
