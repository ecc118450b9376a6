import JobBoard.Address.Names
import JobBoard.CommandLine.Options
import JobBoard.Filter.Query
import JobBoard.Service.Answer
import JobBoard.Service.Client

/-!
Carrying out a command line up to the point where the board opens: what is asked of the service, what is printed,
and what is said when something fails.
-/

namespace JobBoard

structure CommandFailure where
  context : String
  cause : ServiceError
  deriving DecidableEq

namespace Command

def request (c : Client) (settings : Settings) : Command → Except Address.Flaw Request
  | jobs f limit offset => c.jobsRequest f offset (limit.getD settings.pageSize)
  | dashboard => c.dashboardRequest

def context : Command → String
  | jobs .. => "list jobs"
  | dashboard => "fetch dashboard"

def record (settings : Settings) (a : Answer) : Command → Except ServiceError Json.Value
  | jobs _ limit offset => (a.page offset (limit.getD settings.pageSize)).map Page.toValue
  | dashboard => a.dashboard.map Dashboard.toValue

/-- What a command prints: its record in lines, with names in ascending order. -/
def output (settings : Settings) (a : Answer) (c : Command) : Except CommandFailure String :=
  match c.record settings a with
  | .ok v => .ok (v.sorted.pretty ++ "\n")
  | .error e => .error ⟨c.context, e⟩

end Command

namespace CommandLine

structure Outcome where
  request : Option Request := none
  output : String := ""
  errors : String := ""
  exitCode : Nat := 0
  deriving DecidableEq

/-- The text of a failure and its cause; lines after the first are indented as the first one. -/
def failureText (what why : String) : String :=
  let cause := why.toList.flatMap fun c => if c == '\n' then "\n    ".toList else [c]
  "Error: " ++ what ++ "\n\nCaused by:\n    " ++ String.ofList cause ++ "\n"

def failure (request : Option Request) (what why : String) : Outcome :=
  { request, errors := failureText what why, exitCode := 1 }

inductive Plan where
  | done (o : Outcome)
  | command (c : Command) (settings : Settings) (request : Request)
  | board (settings : Settings) (client : Client) (filter : Filter)

def versionText : String := "queuedeck 0.1.0\n"

/-- The plan for a command line. A settings file that cannot be read counts as one that is missing. -/
def plan (env : Environment) (file : Settings.FileContent) (words : List String) : Plan :=
  match Options.ofWords env words with
  | .error .version => .done { output := versionText }
  | .error (.help text) => .done { output := text }
  | .error e => .done { errors := e.message, exitCode := 2 }
  | .ok o =>
    let settings := o.applyTo ((Settings.load file).toOption.getD {})
    match Client.ofEnvironment settings.apiBase env with
    | .error e => .done (failure none "configure API client" e.message)
    | .ok client =>
      match o.command with
      | some c =>
        match c.request client settings with
        | .ok r => .command c settings r
        | .error _ => .done (failure none c.context ServiceError.unreachable.message)
      | none =>
        match o.query with
        | none => .board settings client settings.defaultFilter
        | some q =>
          match Filter.ofQuery q with
          | .ok f => .board settings client f
          | .error e => .done (failure none s!"invalid --query '{q}'" e.message)

def unanswered (c : Command) (request : Request) : Outcome :=
  failure (some request) c.context ServiceError.unreachable.message

def finish (c : Command) (settings : Settings) (request : Request) (a : Answer) : Outcome :=
  match c.output settings a with
  | .ok s => { request := some request, output := s }
  | .error f => failure (some request) f.context f.cause.message

end CommandLine

end JobBoard
