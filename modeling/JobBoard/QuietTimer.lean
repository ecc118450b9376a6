/-!
One deadline that can be moved and cancelled, so that of many edits only the last one starts the quiet time.
Times are in milliseconds.
-/

namespace JobBoard

structure QuietTimer where
  deadline : Option Nat := none
  deriving DecidableEq

namespace QuietTimer

/-- Takes the place of an earlier deadline. -/
def schedule (now ms : Nat) : QuietTimer := ⟨some (now + ms)⟩

def isArmed (t : QuietTimer) : Bool := t.deadline.isSome

/-- The time after which a timer fires that is awaited from `now` on. A deadline that has passed is still
waited for. -/
def delay? (t : QuietTimer) (now : Nat) : Option Nat := t.deadline.map (· - now)

/-- Waits for the timer, but not longer than `limit`: whether it fires, and how long it takes. A timer that has
fired is disarmed. -/
def wait (t : QuietTimer) (now limit : Nat) : QuietTimer × Bool × Nat :=
  match t.delay? now with
  | some d => if d ≤ limit then ({}, true, d) else (t, false, limit)
  | none => (t, false, limit)

end QuietTimer

end JobBoard
