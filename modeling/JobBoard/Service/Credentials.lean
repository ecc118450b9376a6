import JobBoard.Environment

/-!
How requests authenticate themselves.
-/

namespace JobBoard

inductive Credentials where
  | bearer (token : String)
  | apiKey (key : String)
  | anonymous
  deriving DecidableEq

namespace Credentials

def tokenKey : String := "QUEUEDECK_JWT_TOKEN"

def apiKeyKey : String := "QUEUEDECK_API_KEY"

/-- The sample value of a template, which counts as no key. -/
def sampleKey : String := "your-api-key-here"

def nonBlank? (s : Option String) : Option String := (s.map Text.trimmed).filter (· != "")

/-- A token that is not blank wins over a key. -/
def resolve (token key : Option String) : Credentials :=
  match nonBlank? token with
  | some t => bearer t
  | none =>
    match (nonBlank? key).filter (· != sampleKey) with
    | some k => apiKey k
    | none => anonymous

def ofEnvironment (env : Environment) : Credentials := resolve (env.get? tokenKey) (env.get? apiKeyKey)

/-- Whether a text can stand in a header: tabs are its only control characters. -/
def isHeaderText (s : String) : Bool :=
  s.toList.all fun c => c == '\t' || (0x20 ≤ c.toNat && c.toNat != 0x7F)

def flaw? : Credentials → Option String
  | bearer t => if isHeaderText t then none else some tokenKey
  | apiKey k => if isHeaderText k then none else some apiKeyKey
  | anonymous => none

end Credentials

end JobBoard
