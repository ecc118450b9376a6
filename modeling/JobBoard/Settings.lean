import JobBoard.Filter.Record
import JobBoard.Text.Utf8

/-!
The settings of the board: the file that holds them, and the limits that keep a listing moving.
-/

namespace JobBoard

structure Settings where
  /-- The address of the service; without it the environment decides. -/
  apiBase : Option String := none
  pageSize : Nat := 50
  /-- The distance in rows from the end of the loaded list at which more is asked for. -/
  prefetchThreshold : Nat := 10
  overscan : Nat := 3
  /-- The quiet time after an edit of the filter before it counts, in milliseconds. -/
  debounceMs : Nat := 300
  /-- The height of a row that has not been measured. -/
  rowHeight : Nat := 1
  defaultStatus : StatusChoice := .all
  defaultReviewOnly : Bool := false
  deriving DecidableEq

namespace Settings

open Json

def fieldNames : List String :=
  ["api_base", "page_size", "prefetch_threshold", "overscan", "debounce_ms", "estimated_row_height",
    "default_status", "default_review_only"]

def ofTree (t : Tree) : Option Settings := do
  let fs ← Fields.ofRecord fieldNames t
  let d : Settings := {}
  let apiBase ← fs.optional "api_base" Tree.text?
  let pageSize ← fs.orElse "page_size" d.pageSize Tree.word64?
  let prefetchThreshold ← fs.orElse "prefetch_threshold" d.prefetchThreshold Tree.word64?
  let overscan ← fs.orElse "overscan" d.overscan Tree.word64?
  let debounceMs ← fs.orElse "debounce_ms" d.debounceMs Tree.word64?
  let rowHeight ← fs.orElse "estimated_row_height" d.rowHeight Tree.word16?
  let defaultStatus ← fs.orElse "default_status" d.defaultStatus Tree.statusChoice?
  let defaultReviewOnly ← fs.orElse "default_review_only" d.defaultReviewOnly Tree.bool?
  some { apiBase, pageSize, prefetchThreshold, overscan, debounceMs, rowHeight, defaultStatus, defaultReviewOnly }

def ofText (s : String) : Option Settings := (Tree.ofText s).bind ofTree

def toValue (s : Settings) : Value :=
  .record [
    ("api_base", Value.ofOption .text s.apiBase),
    ("page_size", .int s.pageSize),
    ("prefetch_threshold", .int s.prefetchThreshold),
    ("overscan", .int s.overscan),
    ("debounce_ms", .int s.debounceMs),
    ("estimated_row_height", .int s.rowHeight),
    ("default_status", .text s.defaultStatus.name),
    ("default_review_only", .bool s.defaultReviewOnly)]

/-- Replaces the values with which a listing would stand still. -/
def sanitized (s : Settings) : Settings :=
  { s with
    pageSize := if s.pageSize = 0 then 50 else s.pageSize
    rowHeight := max s.rowHeight 1 }

def defaultFilter (s : Settings) : Filter := ⟨s.defaultStatus, s.defaultReviewOnly⟩

inductive FileContent where
  | missing
  | directory
  | bytes (bs : List Nat)

inductive LoadError where
  | isDirectory
  | invalidData
  deriving DecidableEq

/-- A missing file and one that is no settings record count as an empty one; a file that is no text is an
error. -/
def load : FileContent → Except LoadError Settings
  | .missing => .ok (sanitized {})
  | .directory => .error .isDirectory
  | .bytes bs =>
    if Text.Utf8.isWellFormed bs then
      .ok ((ofText (String.ofList (Text.Utf8.decodeLossy bs))).getD {}).sanitized
    else .error .invalidData

end Settings

end JobBoard
