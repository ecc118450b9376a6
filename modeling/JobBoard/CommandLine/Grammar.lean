/-!
The options and commands that a command line may hold, and what is said about them.
-/

namespace JobBoard.CommandLine

inductive UsageError where
  | missingValue
  | badValue
  | repeated
  | unknownOption
  | unneededValue
  | unknownCommand
  /-- Help was asked for instead; it is the text to print. -/
  | help (text : String)
  | version
  deriving DecidableEq

namespace UsageError

def reason : UsageError → String
  | missingValue => "a value is missing"
  | badValue => "a value cannot be used"
  | repeated => "an option is given more than once"
  | unknownOption => "an argument is not known here"
  | unneededValue => "an option takes no value"
  | unknownCommand => "a command is not known"
  | help _ => "help was asked for"
  | version => "the version was asked for"

def message (e : UsageError) : String := s!"error: {e.reason}\n\nFor more information, try '--help'.\n"

end UsageError

inductive OptionKind where
  | value (check : String → Except UsageError Unit)
  | switch
  | help
  | version

structure OptionRule where
  name : String
  letter : Option Char := none
  kind : OptionKind
  about : String
  note : String := ""

structure Grammar where
  usage : String
  about : String
  more : String := ""
  options : List OptionRule
  commands : List (String × String) := []

namespace Grammar

def named? (g : Grammar) (name : String) : Option OptionRule := g.options.find? (·.name == name)

def lettered? (g : Grammar) (c : Char) : Option OptionRule := g.options.find? (·.letter == some c)

def hasCommand (g : Grammar) (name : String) : Bool := (g.commands.lookup name).isSome

end Grammar

end JobBoard.CommandLine
