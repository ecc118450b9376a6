import JobBoard.Screen.Color

/-!
Styles of text on a screen. What a style leaves open stays as it was.
-/

namespace JobBoard

structure Style where
  foreground : Option Color := none
  background : Option Color := none
  bold : Bool := false
  dim : Bool := false
  deriving DecidableEq

namespace Style

def onText (c : Color) : Style := { foreground := some c }

def onGround (c : Color) : Style := { background := some c }

def bolder (s : Style) : Style := { s with bold := true }

def dimmer (s : Style) : Style := { s with dim := true }

end Style

structure Span where
  text : String
  style : Style := {}
  deriving DecidableEq

end JobBoard
