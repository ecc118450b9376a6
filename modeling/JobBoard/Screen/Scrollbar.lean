import JobBoard.Screen.Cell
import JobBoard.Theme.Basic

/-!
A bar at the right side of an area that shows which part of a longer extent is seen.
-/

namespace JobBoard

namespace Scrollbar

def nearest (num den : Nat) : Nat := (2 * num + den) / (2 * den)

/-- The first line of the thumb and the line behind it, on a track of `track` lines, if `viewport` lines from
`position` on are seen of `content`. The thumb has a line at least, and its length does not depend on the
position. -/
def thumb (track content position viewport : Nat) : Nat × Nat :=
  let last := content - viewport - 1
  let extent := last + viewport
  let length := min (max (nearest (viewport * track) extent) 1) track
  let first := min (nearest (min position last * track) extent) (track - length)
  (first, first + length)

end Scrollbar

namespace Screen

/-- Draws nothing where all of the content is seen. -/
def scrollbar (s : Screen) (a : Area) (theme : Theme) (content position viewport : Nat) : Screen :=
  if viewport = 0 || content ≤ viewport || a.width = 0 then s
  else
    let (first, stop) := Scrollbar.thumb a.height content position viewport
    (List.range a.height).foldl
      (fun s dy =>
        let inThumb := first ≤ dy && dy < stop
        s.put (a.right - 1) (a.top + dy) (if inThumb then "█" else "║")
          (.onText (if inThumb then theme.scrollbarThumb else theme.scrollbarTrack)))
      s

end Screen

end JobBoard
