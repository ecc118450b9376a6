import JobBoard.Screen.Glyph

/-!
Breaking a line into lines of limited width: between words where it can be done, and within a word that is too
long for a line. The gap at which a line is broken stays at its end as far as there is room.
-/

namespace JobBoard.Wrap

open Glyph

/-- A line that is being broken. Where `trim` is set, lines do not start with a gap. -/
structure State where
  /-- The lines that are complete, last one first. -/
  done : List (List Glyph) := []
  line : List Glyph := []
  gap : List Glyph := []
  word : List Glyph := []
  inWord : Bool := false

namespace State

/-- Whether the word, or a gap at the start of a line, fills the line with the next glyph. -/
def overflows (trim : Bool) (limit : Nat) (s : State) (g : Glyph) : Bool :=
  s.line.isEmpty &&
    if trim then limit < total s.word + g.columns || limit < total s.gap + g.columns
    else limit < total s.word + total s.gap + g.columns

def join (trim : Bool) (s : State) : State :=
  let gap := if s.line.isEmpty && trim then [] else s.gap
  { s with line := s.line ++ gap ++ s.word, gap := [], word := [] }

/-- The gap without what fits into the room at the end of the line. -/
def dropFitting : Nat → List Glyph → List Glyph
  | _, [] => []
  | room, g :: gs => if g.columns ≤ room then dropFitting (room - g.columns) gs else g :: gs

def finish (limit : Nat) (s : State) : State :=
  { s with done := s.line :: s.done, line := [], gap := dropFitting (limit - total s.line) s.gap }

def add (s : State) (g : Glyph) : State :=
  if g.isGap then { s with gap := s.gap ++ [g], inWord := false }
  else { s with word := s.word ++ [g], inWord := true }

/-- Takes the next glyph; one that is wider than a line is left out. -/
def step (trim : Bool) (limit : Nat) (s : State) (g : Glyph) : State :=
  if limit < g.columns then s
  else
    let s := if (s.inWord && g.isGap) || s.overflows trim limit g then s.join trim else s
    let isFull := limit ≤ total s.line
    let isOver := 0 < g.columns && limit ≤ total s.line + total s.gap + total s.word
    if isFull || isOver then
      let s := s.finish limit
      if g.isGap && s.gap.isEmpty then s else s.add g
    else s.add g

def toLines (trim : Bool) (s : State) : List (List Glyph) :=
  let done := if s.line.isEmpty && s.word.isEmpty && !s.gap.isEmpty then [] :: s.done else s.done
  let rest := (s.join trim).line
  let done := if rest.isEmpty then done else rest :: done
  if done.isEmpty then [[]] else done.reverse

end State

/-- The lines of at most `limit` columns into which glyphs are broken. -/
def lines (trim : Bool) (limit : Nat) (gs : List Glyph) : List (List Glyph) :=
  if limit = 0 then [] else (gs.foldl (State.step trim limit) {}).toLines trim

end JobBoard.Wrap
