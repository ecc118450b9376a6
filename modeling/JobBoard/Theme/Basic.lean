import JobBoard.Job.Status
import JobBoard.Screen.Style

/-!
A theme gives a colour to every role that something on the board can play, and the styles follow from the roles.
-/

namespace JobBoard

structure Theme where
  background : Color
  surface : Color
  surfaceMuted : Color
  border : Color
  text : Color
  textSecondary : Color
  textMuted : Color
  accent : Color
  info : Color
  success : Color
  warning : Color
  error : Color
  selectionGround : Color
  selectionText : Color
  focus : Color
  modalGround : Color
  scrollbarTrack : Color
  scrollbarThumb : Color
  deriving DecidableEq

namespace Theme

def textStyle (t : Theme) : Style := .onText t.text

def secondaryStyle (t : Theme) : Style := .onText t.textSecondary

def mutedStyle (t : Theme) : Style := .onText t.textMuted

def borderStyle (t : Theme) (focused : Bool) : Style := .onText (if focused then t.focus else t.border)

def selectionStyle (t : Theme) : Style :=
  { foreground := some t.selectionText, background := some t.selectionGround }

def modalStyle (t : Theme) : Style := .onGround t.modalGround

def infoStyle (t : Theme) : Style := .onText t.info

def successStyle (t : Theme) : Style := .onText t.success

def warningStyle (t : Theme) : Style := .onText t.warning

def errorStyle (t : Theme) : Style := .onText t.error

def statusStyle (t : Theme) : Status → Style
  | .pending => t.warningStyle
  | .processing => t.infoStyle
  | .completed => t.successStyle
  | .unknown => t.mutedStyle

def accentStyle (t : Theme) : Style := .onText t.accent

def emphasisStyle (t : Theme) : Style := t.accentStyle.bolder

def panelStyle (t : Theme) : Style := { foreground := some t.text, background := some t.surface }

def titleStyle (t : Theme) : Style := t.secondaryStyle.bolder

def headerStyle (t : Theme) : Style := t.secondaryStyle.bolder

/-- The style below a whole row of column titles, gaps between the columns included. -/
def headerRowStyle (t : Theme) : Style :=
  { foreground := some t.textSecondary, background := some t.surfaceMuted }

/-- Stripes follow the place of a row in the whole list, so that they stay with the rows. -/
def rowStyle (t : Theme) (index : Nat) : Style :=
  { foreground := some t.text
    background := some ((if index % 2 = 0 then t.surface else t.surfaceMuted).darken 0.6) }

def selectedStyle (t : Theme) : Style := t.selectionStyle.bolder

def hintSpans (t : Theme) (hints : List (String × String)) : List Span :=
  hints.flatMap fun (key, what) => [⟨key, t.emphasisStyle⟩, ⟨what, t.mutedStyle⟩]

end Theme

end JobBoard
