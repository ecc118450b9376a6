/-!
What an operator does: keys and the mouse.
-/

namespace JobBoard

inductive KeyCode where
  | char (c : Char)
  | up
  | down
  | left
  | right
  | home
  | last
  | pageUp
  | pageDown
  | enter
  | escape
  | tab
  | backTab
  | other
  deriving DecidableEq

structure Key where
  code : KeyCode
  ctrl : Bool := false
  shift : Bool := false
  alt : Bool := false
  deriving DecidableEq

namespace Key

def isAlone (k : Key) : Bool := !k.ctrl && !k.shift && !k.alt

end Key

inductive MouseAction where
  | scrollDown
  | scrollUp
  | pressLeft
  | other
  deriving DecidableEq

structure Mouse where
  action : MouseAction
  column : Nat
  row : Nat
  deriving DecidableEq

end JobBoard
