import JobBoard.CommandLine.Reader
import JobBoard.Decimal
import JobBoard.Environment
import JobBoard.Settings

/-!
The options of the program, its commands, and how options lie over the settings of a file.
-/

namespace JobBoard

inductive Command where
  | jobs (filter : Filter) (limit : Option Nat) (offset : Nat)
  | dashboard
  deriving DecidableEq

structure Options where
  apiBase : Option String := none
  pageSize : Option Nat := none
  prefetchThreshold : Option Nat := none
  overscan : Option Nat := none
  debounceMs : Option Nat := none
  defaultStatus : Option StatusChoice := none
  reviewOnly : Bool := false
  query : Option String := none
  logFile : Option String := none
  command : Option Command := none
  deriving DecidableEq

namespace Options

open CommandLine

/-- A number of 64 bits; a plus sign may stand before it. -/
def word64? (s : String) : Option Nat :=
  let digits := match s.toList with
    | '+' :: cs => cs
    | cs => cs
  (Decimal.readNat? digits).filter (· < 18446744073709551616)

def checked {α : Type} (read : String → Option α) : OptionKind :=
  .value fun s => if (read s).isSome then .ok () else .error .badValue

def number : OptionKind := checked word64?

def status : OptionKind := checked StatusChoice.ofTyped?

def anyText : OptionKind := .value fun _ => .ok ()

def path : OptionKind := .value fun s => if s.isEmpty then .error .missingValue else .ok ()

def baseRule : OptionRule := ⟨"api-base", none, anyText, "Base URL of the queue API", ""⟩

def pageSizeRule : OptionRule := ⟨"page-size", none, number, "Rows requested per page", ""⟩

def helpRule : OptionRule := ⟨"help", some 'h', .help, "Print help", ""⟩

def versionRule : OptionRule := ⟨"version", some 'V', .version, "Print version", ""⟩

def logFileKey : String := "QUEUEDECK_LOG_PATH"

def logFileRule (env : Environment) : OptionRule :=
  ⟨"log-file", none, path, "Log file for the interactive view",
    "[env: " ++ logFileKey ++ "=" ++ (env.get? logFileKey).getD "" ++ "]"⟩

def jobsAbout : String := "Print one page of jobs as JSON"

def dashboardAbout : String := "Print the dashboard counts as JSON"

def helpAbout : String := "Print this message or the help of the given subcommand(s)"

def mainGrammar (env : Environment) : Grammar :=
  { usage := "queuedeck [OPTIONS] [COMMAND]"
    about := "Browse a job queue from the terminal"
    more := "Without a subcommand the interactive list opens. On exit the query string of the last applied filter " ++
      "is printed; pass it back with `--query` to reopen the same view."
    options := [
      baseRule,
      pageSizeRule,
      ⟨"prefetch-threshold", none, number,
        "Rows from the end of the loaded list at which the next page is requested", ""⟩,
      ⟨"overscan", none, number, "Extra rows rendered above and below the viewport", ""⟩,
      ⟨"debounce-ms", none, number, "Quiet period in milliseconds before filter edits are applied", ""⟩,
      ⟨"default-status", none, status, "Status filter used when no query string is given", ""⟩,
      ⟨"review-only", none, .switch, "Start with the manual-review-only switch on", ""⟩,
      ⟨"query", none, anyText, "Query string to restore, e.g. `status=pending&review=true`", ""⟩,
      logFileRule env,
      helpRule,
      versionRule]
    commands := [("jobs", jobsAbout), ("dashboard", dashboardAbout), ("help", helpAbout)] }

def jobsGrammar : Grammar :=
  { usage := "queuedeck jobs [OPTIONS]"
    about := jobsAbout
    options := [
      baseRule,
      ⟨"status", none, status, "Only jobs with this status (`all`, `pending`, `processing`, `completed`)",
        "[default: all]"⟩,
      pageSizeRule,
      ⟨"review", none, .switch, "Only jobs flagged for manual review", ""⟩,
      ⟨"limit", none, number, "Page size; defaults to the configured page size", ""⟩,
      ⟨"offset", none, number, "", "[default: 0]"⟩,
      helpRule] }

def dashboardGrammar : Grammar :=
  { usage := "queuedeck dashboard [OPTIONS]", about := dashboardAbout, options := [baseRule, pageSizeRule, helpRule] }

def helpOnHelp : String :=
  helpAbout ++ "\n\nUsage: queuedeck help [COMMAND]...\n\nArguments:\n" ++
    "  [COMMAND]...  Print help for the subcommand(s)\n"

/-- Help for a command, or for help itself; the commands have no commands of their own. -/
def helpFor (env : Environment) : List String → UsageError
  | [] => .help ((mainGrammar env).helpText true)
  | ["jobs"] => .help (jobsGrammar.helpText true)
  | ["dashboard"] => .help (dashboardGrammar.helpText true)
  | ["help"] => .help helpOnHelp
  | _ => .unknownCommand

/-- The log file that the environment names if the command line names none. -/
def namedLogFile (env : Environment) (given : List (String × String)) : Except UsageError (Option String) :=
  match given.lookup "log-file", env.get? logFileKey with
  | some f, _ => .ok (some f)
  | none, some f => if f.isEmpty then .error .missingValue else .ok (some f)
  | none, none => .ok none

def jobsCommand (given : List (String × String)) : Command :=
  .jobs ⟨((given.lookup "status").bind StatusChoice.ofTyped?).getD .all, (given.lookup "review").isSome⟩
    ((given.lookup "limit").bind word64?) (((given.lookup "offset").bind word64?).getD 0)

/-- What was given before a command and behind it; the latter counts more. -/
def assemble (before behind : List (String × String)) (logFile : Option String) (command : Option Command) : Options :=
  let number (name : String) : Option Nat := (before.lookup name).bind word64?
  { apiBase := (behind.lookup "api-base").or (before.lookup "api-base")
    pageSize := ((behind.lookup "page-size").bind word64?).or (number "page-size")
    prefetchThreshold := number "prefetch-threshold"
    overscan := number "overscan"
    debounceMs := number "debounce-ms"
    defaultStatus := (before.lookup "default-status").bind StatusChoice.ofTyped?
    reviewOnly := (before.lookup "review-only").isSome
    query := before.lookup "query"
    logFile, command }

def ofWords (env : Environment) (words : List String) : Except UsageError Options := do
  let grammar := mainGrammar env
  let (s, command) ← grammar.read {} words
  match command with
  | none => return assemble s.given [] (← namedLogFile env s.given) none
  | some ("help", rest) => .error (helpFor env rest)
  | some (name, rest) =>
    let isJobs := name == "jobs"
    let (c, _) ← (if isJobs then jobsGrammar else dashboardGrammar).read {} rest
    let s ← grammar.settle s
    return assemble s.given c.given (← namedLogFile env s.given)
      (some (if isJobs then jobsCommand c.given else .dashboard))

def applyTo (o : Options) (s : Settings) : Settings :=
  Settings.sanitized
    { s with
      apiBase := o.apiBase.or s.apiBase
      pageSize := o.pageSize.getD s.pageSize
      prefetchThreshold := o.prefetchThreshold.getD s.prefetchThreshold
      overscan := o.overscan.getD s.overscan
      debounceMs := o.debounceMs.getD s.debounceMs
      defaultStatus := o.defaultStatus.getD s.defaultStatus
      defaultReviewOnly := o.reviewOnly || s.defaultReviewOnly }

end Options

namespace Command

def filter? : Command → Option Filter
  | jobs f _ _ => some f
  | dashboard => none

end Command

end JobBoard
