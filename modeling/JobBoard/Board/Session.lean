import JobBoard.Board.Event
import JobBoard.Terminal.Input

/-!
A session at the board: what happens is handed to the board, its effects are carried out, and the fetches that come
of them wait for the service.
-/

namespace JobBoard

structure Session where
  board : Board
  waiting : List Fetch := []
  now : Nat := 0
  closed : Bool := false

inductive Happening where
  | input (i : Input)
  | pause (ms : Nat)

namespace Session

def settle (s : Session) (r : Board × List Effect) : Session :=
  let (board, fetches, quit) := r.1.carryOut s.now r.2
  { s with board, waiting := s.waiting ++ fetches, closed := s.closed || quit }

def step (s : Session) (e : Event) : Session := s.settle (s.board.on e)

def start (b : Board) (now : Nat) : Session := ({ board := b, now } : Session).step .mount

def load (source : Source) (s : Session) : Session :=
  { s with waiting := [] }.settle (s.board.learnAll (s.waiting.map (Fetch.run source)))

/-- Draws and loads in turn until no fetch waits, but not more than `fuel` times. -/
def rest (screen : Area) (source : Source) : (fuel : Nat) → Session → Session
  | 0, s => s
  | fuel + 1, s =>
    let s := s.step (.draw screen)
    if s.waiting.isEmpty then s else rest screen source fuel (s.load source)

def isInterrupt (k : Key) : Bool := k.code == .char 'c' && k.ctrl

def take (s : Session) : Input → Session
  | .key k => if isInterrupt k then { s with closed := true } else s.step (.key k)
  | .mouse m => s.step (.mouse m)
  | .ignored => s

/-- Lets time pass; the timer fires if its deadline comes. -/
def pause (s : Session) (ms : Nat) : Session :=
  let (_, fires, _) := s.board.timer.wait s.now ms
  let s := { s with now := s.now + ms }
  if fires then s.step .quiet else s

def patience : Nat := 20

def run (screen : Area) (source : Source) (s : Session) : List Happening → Session
  | [] => s
  | h :: hs =>
    if s.closed then s
    else
      let s := s.rest screen source patience
      run screen source (match h with
        | .input i => s.take i
        | .pause ms => s.pause ms) hs

/-- What is printed when the session is over: the filter that is shown, if it leaves anything out. -/
def farewell (s : Session) : String := if s.board.query.isEmpty then "" else s.board.query ++ "\n"

end Session

end JobBoard
