import JobBoard.Board.State
import JobBoard.Service.Source
import JobBoard.Text.Redact

/-!
Effects carried out. What needs the service becomes a fetch; a fetch ends with a report, and the board learns
what the report says.
-/

namespace JobBoard

inductive Fetch where
  | page (request : PageRequest)
  | counts
  | record (id : Int)
  deriving DecidableEq

inductive Report where
  | tick
  | resized
  | pageLoaded (generation : Generation) (page : Page)
  | pageFailed (generation : Generation) (error : String)
  | quietElapsed
  | countsLoaded (counts : Dashboard)
  | countsFailed (error : String)
  | recordLoaded (record : Detail)
  | recordFailed (id : Int) (error : String)

namespace Fetch

/-- What is told of an error: nothing that must stay secret. -/
def failureText (e : ServiceError) : String := Text.redacted e.message

def request (c : Client) : Fetch → Except Address.Flaw Request
  | page r => c.jobsRequest r.filter r.offset r.limit
  | counts => c.dashboardRequest
  | record id => c.detailRequest id

def run (s : Source) : Fetch → Report
  | page r =>
    match s.page r.filter r.offset r.limit with
    | .ok p => .pageLoaded r.generation p
    | .error e => .pageFailed r.generation (failureText e)
  | counts =>
    match s.counts with
    | .ok d => .countsLoaded d
    | .error e => .countsFailed (failureText e)
  | record id =>
    match s.record id with
    | .ok d => .recordLoaded d
    | .error e => .recordFailed id (failureText e)

end Fetch

namespace Board

def throbberFrames : Nat := 10

def learn (b : Board) : Report → Board × List Effect
  | .tick => (if b.isBusy then { b with throbber := (b.throbber + 1) % throbberFrames } else b, [])
  | .resized => (b, [])
  | .pageLoaded g page => ({ b with list := b.list.receive g page }, [])
  | .pageFailed g error => ({ b with list := b.list.fail g error }, [])
  | .quietElapsed => b.withList b.list.commit
  | .countsLoaded d => ({ b with counts := b.counts.receive d }, [])
  | .countsFailed error => ({ b with counts := b.counts.fail error }, [])
  | .recordLoaded d => ({ b with record := b.record.receive d }, [])
  | .recordFailed id error => ({ b with record := b.record.fail id error }, [])

def perform (now : Nat) (b : Board) : Effect → Board
  | .fetchPage _ => b
  | .scheduleCommit ms => { b with timer := .schedule now ms }
  | .cancelCommit => { b with timer := {} }
  | .share query => { b with query }
  | .openJob id => { b with record := .ofJob id }
  | .fetchDashboard => { b with counts := { b.counts with loading := true } }
  | .closeRecord => { b with record := {} }
  | .quit => b

def fetch? : Effect → Option Fetch
  | .fetchPage r => some (.page r)
  | .openJob id => some (.record id)
  | .fetchDashboard => some .counts
  | _ => none

/-- Carries out effects in order. What is left are the fetches, and whether the board is to be closed. -/
def carryOut (now : Nat) (b : Board) (effects : List Effect) : Board × List Fetch × Bool :=
  (effects.foldl (perform now) b, effects.filterMap fetch?, effects.contains .quit)

end Board

end JobBoard
