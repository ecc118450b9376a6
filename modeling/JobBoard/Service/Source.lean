import JobBoard.Address.Names
import JobBoard.Service.Answer
import JobBoard.Service.Client

/-!
Where the board's data come from.
-/

namespace JobBoard

structure Source where
  page : Filter → (offset limit : Nat) → Except ServiceError Page
  counts : Except ServiceError Dashboard
  record : Int → Except ServiceError Detail

namespace Filter

def admits (f : Filter) (j : Job) : Bool :=
  f.status.status?.all (· == j.status) && (!f.reviewOnly || j.needsReview)

end Filter

namespace Source

/-- The service behind a client, if `reply` is what it answers to requests, where it answers at all. -/
def ofService (c : Client) (reply : Request → Option Answer) : Source :=
  let ask (r : Except Address.Flaw Request) : Except ServiceError Answer :=
    match r.toOption.bind reply with
    | some a => .ok a
    | none => .error .unreachable
  { page := fun f offset limit => (ask (c.jobsRequest f offset limit)).bind (Answer.page offset limit)
    counts := (ask c.dashboardRequest).bind Answer.dashboard
    record := fun id => (ask (c.detailRequest id)).bind Answer.detail }

/-- A page of the jobs of a list that pass a filter; with `claimMore` every page claims that there are more. -/
def pageOf (jobs : List Job) (claimMore : Bool) (f : Filter) (offset limit : Nat) : Page :=
  let listed := jobs.filter f.admits
  { items := (listed.drop offset).take limit, offset, limit, hasMore := claimMore || offset + limit < listed.length }

end Source

end JobBoard
