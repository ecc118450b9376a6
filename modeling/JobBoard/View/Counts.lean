import JobBoard.Job.Dashboard
import JobBoard.Theme.Basic

/-!
The counts of the queue in one line.
-/

namespace JobBoard.Dashboard

def countSpans (theme : Theme) (label : String) (n : Int) (style : Style) : List Span :=
  [⟨label ++ " ", theme.secondaryStyle⟩, ⟨s!"{n}   ", style⟩]

def alertStyle (theme : Theme) (n : Int) : Style := if 0 < n then theme.errorStyle else theme.mutedStyle

def updatedText (now : Instant) (t : Instant) : String := s!"updated {t.stamp} ({t.relative now})"

def spans (theme : Theme) (now : Instant) (d : Dashboard) : List Span :=
  countSpans theme "Pending" d.statusCounts.pending (theme.statusStyle .pending) ++
  countSpans theme "Processing" d.statusCounts.processing (theme.statusStyle .processing) ++
  countSpans theme "Completed" d.statusCounts.completed (theme.statusStyle .completed) ++
  countSpans theme "Review" d.reviewCount theme.warningStyle ++
  countSpans theme "Errors" d.errorCount (alertStyle theme d.errorCount) ++
  countSpans theme "Stale" d.staleCount (alertStyle theme d.staleCount) ++
  (d.updatedAt.map fun t => ⟨updatedText now t, theme.mutedStyle⟩).toList

end JobBoard.Dashboard
