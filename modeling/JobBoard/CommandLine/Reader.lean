import JobBoard.CommandLine.Help

/-!
Reading the words of a command line: options with values, switches, and the names of commands. What an option is
worth is checked when the next option, or the end, shows that it is complete.
-/

namespace JobBoard.CommandLine

/-- An option whose value is still to come, or to be checked. -/
structure Pending where
  name : String
  value : Option String

structure State where
  given : List (String × String) := []
  pending : Option Pending := none
  /-- Two hyphens alone have been passed: no option follows. -/
  onlyWords : Bool := false

namespace Grammar

def check (g : Grammar) (name value : String) : Except UsageError Unit :=
  match (g.named? name).map OptionRule.kind with
  | some (.value check) => check value
  | _ => .ok ()

/-- Takes a complete option; none may be given twice. -/
def take (g : Grammar) (s : State) (name value : String) : Except UsageError State :=
  if (s.given.lookup name).isSome then .error .repeated
  else match g.check name value with
    | .error e => .error e
    | .ok () => .ok { s with given := (name, value) :: s.given, pending := none }

def settle (g : Grammar) (s : State) : Except UsageError State :=
  match s.pending with
  | none => .ok s
  | some ⟨_, none⟩ => .error .missingValue
  | some ⟨name, some v⟩ => g.take s name v

def awaitsValue (s : State) : Bool :=
  match s.pending with
  | some ⟨_, none⟩ => true
  | _ => false

def stray (g : Grammar) (s : State) (word : String) : UsageError :=
  if g.commands.isEmpty || (s.onlyWords && g.hasCommand word) then .unknownOption else .unknownCommand

def long? (word : String) : Option (String × Option String) :=
  match word.toList with
  | '-' :: '-' :: cs =>
    let name := cs.takeWhile (· != '=')
    match cs.drop name.length with
    | _ :: v => some (String.ofList name, some (String.ofList v))
    | [] => if name.isEmpty then none else some (String.ofList name, none)
  | _ => none

def letter? (word : String) : Option Char :=
  match word.toList with
  | '-' :: c :: _ => some c
  | _ => none

/-- Takes an option without a value; `full` says that it is given by its long name. -/
def flag (g : Grammar) (s : State) (o : OptionRule) (full : Bool) : Except UsageError State :=
  match g.settle s with
  | .error e => .error e
  | .ok s =>
    match o.kind with
    | .help => .error (.help (g.helpText full))
    | .version => .error .version
    | _ => g.take s o.name "true"

def long (g : Grammar) (s : State) (name : String) (value : Option String) : Except UsageError State :=
  match g.named? name with
  | none => .error .unknownOption
  | some o =>
    match o.kind, value with
    | .value _, some v =>
      match g.settle s with
      | .error e => .error e
      | .ok s => g.take s name v
    | .value _, none =>
      match g.settle s with
      | .error e => .error e
      | .ok s => .ok { s with pending := some ⟨name, none⟩ }
    | _, some _ => .error .unneededValue
    | _, none => g.flag s o true

/-- Reads words up to the end or to the name of a command. At the end nothing is pending; before a command the
last option may still be. -/
def read (g : Grammar) : State → List String → Except UsageError (State × Option (String × List String))
  | s, [] => (g.settle s).map fun s => (s, none)
  | s, word :: words =>
    if s.onlyWords then .error (g.stray s word)
    else if !awaitsValue s && g.hasCommand word then .ok (s, some (word, words))
    else if word == "--" then read g { s with onlyWords := true } words
    else
      match long? word with
      | some (name, value) =>
        match g.long s name value with
        | .error e => .error e
        | .ok s => read g s words
      | none =>
        match letter? word with
        | some c =>
          match g.lettered? c with
          | none => .error .unknownOption
          | some o =>
            match g.flag s o false with
            | .error e => .error e
            | .ok s => read g s words
        | none =>
          match s.pending with
          | some ⟨name, none⟩ => read g { s with pending := some ⟨name, some word⟩ } words
          | _ => .error (g.stray s word)

end Grammar

end JobBoard.CommandLine
