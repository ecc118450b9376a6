import JobBoard.Text.Blank

/-!
The named values that a program is started with, and the places in the file system that follow from them.
-/

namespace JobBoard

abbrev Environment := List (String × String)

namespace Environment

def get? (env : Environment) (name : String) : Option String := env.lookup name

def isAbsolute (path : String) : Bool := path.toList.head? == some '/'

/-- The path `rest` seen from the directory `base`; an absolute one stands for itself. -/
def joinPath (base rest : String) : String :=
  if isAbsolute rest then rest
  else if base.isEmpty || base.toList.getLast? == some '/' then base ++ rest
  else base ++ "/" ++ rest

def home? (env : Environment) : Option String :=
  (env.get? "HOME").filter (· != "")

/-- Replaces a `~` before the path's first separator by the home directory. -/
def expandTilde (env : Environment) (path : String) : String :=
  let home := env.home?.getD "~"
  match Text.trim path.toList with
  | ['~'] => home
  | '~' :: '/' :: rest => joinPath home (String.ofList rest)
  | '~' :: '\\' :: rest => joinPath home (String.ofList rest)
  | cs => String.ofList cs

def configRoot? (env : Environment) : Option String :=
  match (env.get? "XDG_CONFIG_HOME").filter isAbsolute with
  | some dir => some dir
  | none => env.home?.map (joinPath · ".config")

def configDir (env : Environment) : String := joinPath (env.configRoot?.getD ".") "queuedeck"

def configPathKey : String := "QUEUEDECK_CONFIG_PATH"

/-- The configuration file: the path that the environment names, or the one in the usual place. -/
def configPath (env : Environment) : String :=
  match (env.get? configPathKey).filter (!Text.blank ·) with
  | some path => env.expandTilde path
  | none => joinPath env.configDir "config.json"

end Environment

end JobBoard
