import JobBoard.Screen.Glyph
import JobBoard.Theme.Basic

/-!
Bordered panels with a title in the upper border.
-/

namespace JobBoard.Screen

def putRow (s : Screen) (left right y : Nat) (symbol : String) (style : Style) : Screen :=
  (List.range' left (right - left)).foldl (fun s x => s.put x y symbol style) s

def putColumn (s : Screen) (x top bottom : Nat) (symbol : String) (style : Style) : Screen :=
  (List.range' top (bottom - top)).foldl (fun s y => s.put x y symbol style) s

def border (s : Screen) (a : Area) (style : Style) : Screen :=
  if a.width = 0 || a.height = 0 then s
  else
    let (x, y) := (a.right - 1, a.bottom - 1)
    let s := (s.putColumn a.left a.top a.bottom "│" style).putRow a.left a.right a.top "─" style
    let s := (s.putColumn x a.top a.bottom "│" style).putRow a.left a.right y "─" style
    (((s.put x y "┘" style).put x a.top "┐" style).put a.left y "└" style).put a.left a.top "┌" style

/-- Draws a panel; the border of the one that has the focus is marked. -/
def panel (s : Screen) (a : Area) (theme : Theme) (title : String) (focused : Bool) : Screen :=
  let s := (s.paint a theme.panelStyle).border a (theme.borderStyle focused)
  if a.height = 0 then s
  else s.writeLine (a.left + 1) a.top (a.right - 1) [⟨title, theme.titleStyle⟩]

end JobBoard.Screen
