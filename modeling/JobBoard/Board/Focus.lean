/-!
Which panel the keys go to. Only the panels that were on screen when it was drawn last can have the focus.
-/

namespace JobBoard

inductive Panel where
  | filters
  | list
  | record
  deriving DecidableEq

structure Focus where
  ring : List Panel
  holder : Option Panel := none
  deriving DecidableEq

namespace Focus

def has (f : Focus) (p : Panel) : Bool := f.holder == some p

def give (f : Focus) (p : Panel) : Focus := if p ∈ f.ring then { f with holder := some p } else f

/-- The panel behind the given one in a ring; the first one comes behind the last. -/
def after (ring : List Panel) (p : Panel) : Option Panel := ((ring.dropWhile (· != p)).drop 1).head?.or ring.head?

def next (f : Focus) : Focus :=
  { f with holder := f.holder.elim f.ring.head? (after f.ring) }

def prev (f : Focus) : Focus :=
  { f with holder := f.holder.elim f.ring.getLast? (after f.ring.reverse) }

/-- Puts other panels on screen; a panel that is gone loses the focus, and `fallback` gets it. -/
def rebuild (f : Focus) (ring : List Panel) (fallback : Panel) : Focus :=
  { ring, holder := (f.holder.filter (· ∈ ring)).or (some fallback) }

end Focus

end JobBoard
