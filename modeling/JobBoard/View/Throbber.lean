/-!
The sign that something is being loaded: frames that follow one another.
-/

namespace JobBoard.Throbber

def frames : List Char := ['⠋', '⠙', '⠹', '⠸', '⠼', '⠴', '⠦', '⠧', '⠇', '⠏']

def frame (n : Nat) : String := String.singleton (frames.getD (n % 10) ' ')

end JobBoard.Throbber
