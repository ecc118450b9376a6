import JobBoard.CommandLine.Grammar

/-!
The help for a command line. Options stand in two columns, or one below the other where a description would
leave the line; the full help parts them by empty lines.
-/

namespace JobBoard.CommandLine

def helpColumns : Nat := 100

namespace OptionRule

def valueText (o : OptionRule) : String :=
  match o.kind with
  | .value _ => " <" ++ o.name.map (fun c => if c == '-' then '_' else c.toUpper) ++ ">"
  | _ => ""

def label (o : OptionRule) : String :=
  let letter := match o.letter with
    | some c => String.ofList ['-', c, ',', ' ']
    | none => "    "
  letter ++ "--" ++ o.name ++ o.valueText

end OptionRule

namespace Grammar

/-- The full help is another one only where there is more to say. -/
def isFull (g : Grammar) (full : Bool) : Bool := full && g.more != ""

/-- What is said about an option; help itself tells of the other help. -/
def aboutText (g : Grammar) (full : Bool) (o : OptionRule) : String :=
  match o.kind with
  | .help =>
    if g.more == "" then o.about
    else if full then o.about ++ " (see a summary with '-h')"
    else o.about ++ " (see more with '--help')"
  | _ => o.about

def labelWidth (g : Grammar) : Nat := (g.options.map fun o => o.label.length).foldl max 0

def takenColumns (g : Grammar) : Nat := g.labelWidth + 12

def isStacked (g : Grammar) (full : Bool) : Bool :=
  g.isFull full ||
    (40 < g.takenColumns &&
      g.options.any fun o => helpColumns < g.takenColumns + (g.aboutText full o).length + o.note.length)

def padded (n : Nat) (s : String) : String := s ++ String.ofList (List.replicate (n - s.length) ' ')

def stackIndent : String := "\n" ++ padded 10 ""

def optionText (g : Grammar) (full : Bool) (o : OptionRule) : String :=
  let about := g.aboutText full o
  let gap := if about == "" || o.note == "" then "" else if g.isFull full then stackIndent ++ stackIndent else " "
  if g.isStacked full then "  " ++ o.label ++ stackIndent ++ about ++ gap ++ o.note
  else "  " ++ padded g.labelWidth o.label ++ "  " ++ about ++ gap ++ o.note

def commandsText (g : Grammar) : String :=
  let width := (g.commands.map fun c => c.1.length).foldl max 0
  if g.commands.isEmpty then ""
  else "\nCommands:\n" ++ String.join (g.commands.map fun c => "  " ++ padded width c.1 ++ "  " ++ c.2 ++ "\n")

def helpText (g : Grammar) (full : Bool) : String :=
  let about := if g.isFull full then g.about ++ ".\n\n" ++ g.more else g.about
  let parting := if g.isFull full then "\n\n" else "\n"
  about ++ "\n\nUsage: " ++ g.usage ++ "\n" ++ g.commandsText ++ "\nOptions:\n" ++
    parting.intercalate (g.options.map (g.optionText full)) ++ "\n"

end Grammar

end JobBoard.CommandLine
