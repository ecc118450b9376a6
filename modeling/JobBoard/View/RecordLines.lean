import JobBoard.Job.Detail
import JobBoard.Screen.Glyph
import JobBoard.Theme.Basic

/-!
The lines in which the full record of a job is shown. What is missing is shown as the placeholder; a part of the
record that may be long has a title of its own and is left out if it is missing.
-/

namespace JobBoard.Detail

open Text (orPlaceholder placeholder)

/-- The number of characters that a label takes at least. -/
def labelWidth : Nat := 20

def padRight (n : Nat) (s : String) : String := String.ofList (s.toList ++ List.replicate (n - s.length) ' ')

def field (theme : Theme) (label value : String) (style : Style) : Line :=
  [⟨padRight labelWidth label, theme.secondaryStyle⟩, ⟨value, style⟩]

def part (theme : Theme) (title : String) (style : Style) (text : String) : List Line :=
  [[], [⟨title, theme.accentStyle.bolder⟩]] ++ (Text.lines text).map fun l => [⟨l, style⟩]

def optionalPart (theme : Theme) (title : String) (style : Style) (text : Option String) : List Line :=
  text.elim [] (part theme title style)

def reviewText (j : Job) : String :=
  if j.needsReview then
    match j.reviewReason with
    | some reason => s!"yes ({reason})"
    | none => "yes"
  else "no"

def latencyText (d : Detail) : String := (d.latencyMs.map fun ms => s!"{ms} ms").getD placeholder

def nextRetryText (now : Instant) (j : Job) : String :=
  (j.nextRetryAt.map fun t => s!"{t.stamp} ({t.relative now})").getD placeholder

def fieldLines (theme : Theme) (now : Instant) (d : Detail) : List Line :=
  let j := d.job
  let plain (label value : String) : Line := field theme label value theme.textStyle
  [ plain "ID" (toString j.id),
    plain "Message ID" (orPlaceholder j.messageId),
    field theme "Status" j.status.name (theme.statusStyle j.status),
    plain "Priority" (toString j.priority),
    plain "Retries" (toString j.retryCount),
    field theme "Manual review" (reviewText j) (if j.needsReview then theme.warningStyle else theme.textStyle),
    plain "Decision reason" (orPlaceholder j.decisionReason),
    plain "Final method" (orPlaceholder j.finalMethod),
    plain "LLM latency" d.latencyText,
    plain "Created" (Instant.stampOrPlaceholder j.createdAt),
    plain "Updated" (Instant.stampOrPlaceholder j.updatedAt),
    plain "Processing started" (Instant.stampOrPlaceholder d.startedAt),
    plain "Completed" (Instant.stampOrPlaceholder d.completedAt),
    plain "Next retry" (nextRetryText now j) ]

/-- The extracted fields as text; a null in their place is none. -/
def partialText (d : Detail) : Option String :=
  (d.partialFields.filter fun v => !v.isNull).map Json.Value.pretty

def partLineCount (text : Option String) : Nat := text.elim 0 fun s => (Text.lines s).length + 2

def lineCount (d : Detail) : Nat :=
  14 + partLineCount d.lastError + partLineCount d.partialText +
    partLineCount d.sourcePreview

def lines (theme : Theme) (now : Instant) (d : Detail) : List Line :=
  fieldLines theme now d ++
  optionalPart theme "Last error" theme.errorStyle d.lastError ++
  optionalPart theme "Partial fields" theme.textStyle d.partialText ++
  optionalPart theme "Source preview" theme.mutedStyle d.sourcePreview

theorem length_optionalPart (theme : Theme) (title : String) (style : Style) (text : Option String) :
    (optionalPart theme title style text).length = partLineCount text := by
  cases text with
  | none => rfl
  | some s => simp only [optionalPart, partLineCount, part, Option.elim_some, List.length_append,
      List.length_map, List.length_cons, List.length_nil]; omega

theorem length_lines (theme : Theme) (now : Instant) (d : Detail) :
    (d.lines theme now).length = d.lineCount := by
  simp only [lines, lineCount, List.length_append, length_optionalPart]
  rfl

end JobBoard.Detail
