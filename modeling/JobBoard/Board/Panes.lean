import JobBoard.Job.Dashboard
import JobBoard.Job.Detail

/-!
The counts of the queue and the opened record, as far as they have been loaded.
-/

namespace JobBoard

structure CountsPane where
  counts : Option Dashboard := none
  error : Option String := none
  loading : Bool := false

namespace CountsPane

def receive (p : CountsPane) (d : Dashboard) : CountsPane :=
  { p with counts := some d, error := none, loading := false }

def fail (p : CountsPane) (error : String) : CountsPane := { p with error := some error, loading := false }

end CountsPane

structure RecordPane where
  /-- The job whose record is shown or being loaded. -/
  requested : Option Int := none
  record : Option Detail := none
  error : Option String := none
  scroll : Nat := 0

namespace RecordPane

def isOpen (p : RecordPane) : Bool := p.requested.isSome

def isLoading (p : RecordPane) : Bool := p.requested.isSome && p.record.isNone && p.error.isNone

def ofJob (id : Int) : RecordPane := { requested := some id }

def maxScroll : Nat := 65535

def scrollBy (p : RecordPane) (d : Int) : RecordPane :=
  { p with scroll := min ((p.scroll : Int) + d).toNat maxScroll }

/-- A record counts only for the job that is open. -/
def receive (p : RecordPane) (d : Detail) : RecordPane :=
  if p.requested = some d.job.id then { p with record := some d } else p

def fail (p : RecordPane) (id : Int) (error : String) : RecordPane :=
  if p.requested = some id then { p with error := some error } else p

end RecordPane

end JobBoard
