import JobBoard.Address.Reader
import JobBoard.Filter.Basic
import JobBoard.Service.Credentials
import JobBoard.Service.Error
import JobBoard.Text.Base64

/-!
The client of the service: the address that it accepts as its base, and the requests that it sends.
-/

namespace JobBoard

structure Request where
  address : Address
  authorization : Option String
  apiKey : Option String
  deriving DecidableEq

namespace Request

def method : String := "GET"

def accept : String := "application/json"

def userAgent : String := "queuedeck/0.1.0; linux"

/-- The path and the query, as they stand in the first line of the request. -/
def target (r : Request) : String := r.address.path ++ Address.optionalText "?" r.address.query

end Request

structure Client where
  base : String
  credentials : Credentials
  deriving DecidableEq

namespace Client

open Address (Names)

def baseKey : String := "QUEUEDECK_API_BASE"

def defaultBase : String := "http://localhost:8080"

/-- Blanks around a base and slashes at its end do not count. -/
def trimBase (s : String) : String :=
  String.ofList ((Text.trim s.toList).reverse.dropWhile (· == '/')).reverse

/-- What is wrong with an address as a base: only the own machine may be reached without encryption. -/
def baseFlaw? [Names] (base : String) : Option String :=
  match Address.ofText base with
  | .error flaw => some flaw.message
  | .ok a =>
    match a.host with
    | none => some "missing host"
    | some h =>
      if h.isLocal || a.scheme == "https" then none
      else some s!"must use https for non-localhost hosts; got '{a.scheme}://'"

def ofBase [Names] (base : String) (credentials : Credentials) : Except ServiceError Client :=
  let base := trimBase base
  match baseFlaw? base with
  | some reason => .error (.badBase base reason)
  | none =>
    match credentials.flaw? with
    | some key => .error (.badCredential key)
    | none => .ok { base, credentials }

/-- The base comes from the caller, else from the environment; a blank one counts as the default. -/
def ofEnvironment [Names] (base : Option String) (env : Environment) : Except ServiceError Client :=
  let named := (base.or (env.get? baseKey)).filter (!Text.blank ·)
  ofBase (named.getD defaultBase) (Credentials.ofEnvironment env)

def plainText? (s : String) : Option String :=
  let bytes := Text.percentDecode (Text.Utf8.encode s.toList)
  if Text.Utf8.isWellFormed bytes then some (String.ofList (Text.Utf8.decodeLossy bytes)) else none

/-- Name and password in an address authorize the request in place of the client's credentials. -/
def userAuthorization? (a : Address) : Option String :=
  match plainText? a.username with
  | none => none
  | some name =>
    let password := a.password.bind plainText?
    if name.isEmpty && password.isNone then none
    else
      let pair := Text.Utf8.encode (name ++ ":" ++ password.getD "").toList
      some ("Basic " ++ String.ofList (Text.Base64.encode pair))

def bearerText? : Credentials → Option String
  | .bearer t => some ("Bearer " ++ t)
  | _ => none

def keyText? : Credentials → Option String
  | .apiKey k => some k
  | _ => none

def joined (query : Option String) (extra : String) : String :=
  match query with
  | none | some "" => extra
  | some q => q ++ "&" ++ extra

/-- The request for a path below the base, with named values behind the base's own query. -/
def request [Names] (c : Client) (path : String) (values : List (String × String)) : Except Address.Flaw Request :=
  match Address.ofText (c.base ++ path) with
  | .error flaw => .error flaw
  | .ok a =>
    let user := userAuthorization? a
    let extra := String.ofList (Text.Form.encode values)
    let query := if values.isEmpty then a.query else some (joined a.query extra)
    let address :=
      { a with
        username := if user.isSome then "" else a.username
        password := if user.isSome then none else a.password
        query }
    .ok { address, authorization := user.or (bearerText? c.credentials), apiKey := keyText? c.credentials }

/-- The values of a list request: what does not narrow the listing is left out. -/
def jobsValues (f : Filter) (offset limit : Nat) : List (String × String) :=
  [("limit", toString limit), ("offset", toString offset)] ++
    (match f.status.status? with
      | some s => [("status", s.name)]
      | none => []) ++
    if f.reviewOnly then [("requires_manual_review", "true")] else []

def jobsPath : String := "/api/queue/jobs"

def jobsRequest [Names] (c : Client) (f : Filter) (offset limit : Nat) : Except Address.Flaw Request :=
  c.request jobsPath (jobsValues f offset limit)

def dashboardRequest [Names] (c : Client) : Except Address.Flaw Request := c.request "/api/queue/dashboard" []

def detailRequest [Names] (c : Client) (id : Int) : Except Address.Flaw Request := c.request s!"{jobsPath}/{id}" []

end Client

end JobBoard
