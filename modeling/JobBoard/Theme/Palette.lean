import JobBoard.Environment
import JobBoard.Text.Blank
import JobBoard.Theme.Basic

/-!
The themes there are, and the choice among them: a terminal that does not promise full colour gets the theme
of indexed colours, whatever is asked for.
-/

namespace JobBoard.Theme

structure NordPalette where
  night : Fin 4 → Color
  snow : Fin 3 → Color
  frost : Fin 3 → Color
  red : Color
  orange : Color
  yellow : Color
  green : Color

def palette : NordPalette :=
  { night := fun
      | 0 => .rgb 0x2E 0x34 0x40
      | 1 => .rgb 0x3B 0x42 0x52
      | 2 => .rgb 0x43 0x4C 0x5E
      | 3 => .rgb 0x4C 0x56 0x6A
    snow := fun
      | 0 => .rgb 0xD8 0xDE 0xE9
      | 1 => .rgb 0xE5 0xE9 0xF0
      | 2 => .rgb 0xEC 0xEF 0xF4
    frost := fun
      | 0 => .rgb 0x88 0xC0 0xD0
      | 1 => .rgb 0x81 0xA1 0xC1
      | 2 => .rgb 0x5E 0x81 0xAC
    red := .rgb 0xBF 0x61 0x6A
    orange := .rgb 0xD0 0x87 0x70
    yellow := .rgb 0xEB 0xCB 0x8B
    green := .rgb 0xA3 0xBE 0x8C }

def nord : Theme :=
  { background := palette.night 0
    surface := palette.night 1
    surfaceMuted := palette.night 2
    border := palette.night 1
    text := palette.snow 0
    textSecondary := palette.snow 1
    textMuted := .rgb 0x61 0x6E 0x88
    accent := palette.frost 0
    info := palette.frost 1
    success := palette.green
    warning := palette.yellow
    error := palette.red
    selectionGround := palette.night 3
    selectionText := palette.snow 2
    focus := palette.frost 0
    modalGround := .rgb 0x1A 0x1E 0x28
    scrollbarTrack := palette.night 3
    scrollbarThumb := palette.frost 2 }

def highContrast : Theme :=
  { nord with
    surfaceMuted := nord.surfaceMuted.lighten 0.15
    border := nord.border.lighten 0.3
    text := palette.snow 2
    textSecondary := palette.snow 2
    textMuted := palette.snow 1
    warning := palette.orange
    selectionGround := nord.selectionGround.lighten 0.1
    focus := palette.frost 2
    scrollbarThumb := nord.scrollbarThumb.lighten 0.25 }

def indexed : Theme :=
  { background := .indexed 236
    surface := .indexed 237
    surfaceMuted := .indexed 239
    border := .indexed 240
    text := .indexed 253
    textSecondary := .indexed 255
    textMuted := .indexed 245
    accent := .indexed 110
    info := .indexed 110
    success := .indexed 108
    warning := .indexed 222
    error := .indexed 167
    selectionGround := .indexed 240
    selectionText := .indexed 255
    focus := .indexed 110
    modalGround := .indexed 234
    scrollbarTrack := .indexed 239
    scrollbarThumb := .indexed 67 }

def hasFullColor (env : Environment) : Bool :=
  let mentions (key what : String) : Bool := Text.contains (Text.asciiLower ((env.get? key).getD "")) what
  mentions "COLORTERM" "truecolor" || mentions "COLORTERM" "24bit" || mentions "TERM" "truecolor"

def nameKey : String := "QUEUEDECK_THEME"

def ofEnvironment (env : Environment) : Theme :=
  if hasFullColor env then
    match (env.get? nameKey).map fun name => Text.asciiLower (Text.trimmed name) with
    | some "nord-high-contrast" | some "high-contrast" => highContrast
    | _ => nord
  else indexed

end JobBoard.Theme
