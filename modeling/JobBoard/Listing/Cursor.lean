/-!
The active row of a list. An empty list has none.
-/

namespace JobBoard

/-- A command to the cursor. The number of a paging command is the step in rows. -/
inductive CursorKey where
  | up
  | down
  | first
  | last
  | pageUp (step : Nat)
  | pageDown (step : Nat)
  | activate
  deriving DecidableEq

inductive CursorOutcome where
  | unchanged
  | moved (index : Nat)
  | activated (index : Nat)
  deriving DecidableEq

structure Cursor where
  active : Option Nat := none
  deriving DecidableEq

namespace Cursor

def moveTo (c : Cursor) (target : Nat) : Cursor × CursorOutcome :=
  if c.active = some target then (c, .unchanged) else (⟨some target⟩, .moved target)

/-- Where a command leads from row `i` if `last` is the last row. -/
def target (i last : Nat) : CursorKey → Nat
  | .up => i - 1
  | .down => min (i + 1) last
  | .first => 0
  | .last => last
  | .pageUp step => i - max step 1
  | .pageDown step => min (i + max step 1) last
  | .activate => i

/-- Where a command leads when no row is active: into the list by its first row. -/
def entry (last : Nat) : CursorKey → Nat
  | .last => last
  | _ => 0

def handle (c : Cursor) (key : CursorKey) (size : Nat) : Cursor × CursorOutcome :=
  if size = 0 then ({}, .unchanged)
  else
    match key, c.active with
    | .activate, some i => (c, .activated i)
    | .activate, none => (c, .unchanged)
    | key, some i => c.moveTo (target i (size - 1) key)
    | key, none => c.moveTo (entry (size - 1) key)

def select (c : Cursor) (index size : Nat) : Cursor × CursorOutcome :=
  if size = 0 then ({}, .unchanged) else c.moveTo (min index (size - 1))

def fit (c : Cursor) (size : Nat) : Cursor :=
  if size = 0 then {} else ⟨c.active.map (min · (size - 1))⟩

end Cursor

end JobBoard
