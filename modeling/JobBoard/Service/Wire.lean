import JobBoard.Service.Answer
import JobBoard.Service.Client

/-!
Requests and answers as they go over a connection that serves one request.
-/

namespace JobBoard.Wire

def bytesOf (s : String) : List Nat := Text.Utf8.encode s.toList

def textOf (bs : List Nat) : String := String.ofList (Text.Utf8.decodeLossy bs)

def lineEnd : String := "\r\n"

def hostText (a : Address) : String := Address.optionalText "" (a.host.map Address.Host.text) ++ a.portText

def headers (r : Request) : List (String × String) :=
  [("Host", hostText r.address), ("Accept", Request.accept), ("User-Agent", Request.userAgent)] ++
    (r.authorization.map fun s => ("Authorization", s)).toList ++
    (r.apiKey.map fun s => ("X-Api-Key", s)).toList ++ [("Connection", "close")]

def requestText (r : Request) : String :=
  let first := Request.method ++ " " ++ r.target ++ " HTTP/1.1" ++ lineEnd
  String.join (first :: (headers r).map fun (name, value) => name ++ ": " ++ value ++ lineEnd) ++ lineEnd

def splitAt? (sep : List Nat) : List Nat → Option (List Nat × List Nat)
  | [] => if sep.isEmpty then some ([], []) else none
  | b :: bs =>
    if sep.isPrefixOf (b :: bs) then some ([], (b :: bs).drop sep.length)
    else (splitAt? sep bs).map fun (before, behind) => (b :: before, behind)

def header? (line : String) : Option (String × String) :=
  match line.splitOn ":" with
  | name :: value => some (Text.asciiLower (Text.trimmed name), Text.trimmed (":".intercalate value))
  | [] => none

def hex? (cs : List Char) : Option Nat :=
  let digit? (c : Char) : Option Nat :=
    if c.isDigit then some (c.toNat - 48)
    else if 'a' ≤ c.toLower && c.toLower ≤ 'f' then some (c.toLower.toNat - 87)
    else none
  if cs.isEmpty then none else (cs.mapM digit?).map (·.foldl (fun n d => 16 * n + d) 0)

/-- Joins the pieces of a body, each of which stands behind a line with its length; no more than `fuel` of them. -/
def joinPieces : (fuel : Nat) → List Nat → List Nat
  | 0, _ => []
  | fuel + 1, bs =>
    match splitAt? (bytesOf lineEnd) bs with
    | none => []
    | some (line, rest) =>
      match hex? ((textOf line).toList.takeWhile (· != ';')) with
      | none | some 0 => []
      | some n => rest.take n ++ joinPieces fuel (rest.drop (n + 2))

def body (headers : List (String × String)) (bs : List Nat) : List Nat :=
  if headers.lookup "transfer-encoding" == some "chunked" then joinPieces bs.length bs
  else
    match (headers.lookup "content-length").bind fun s => Decimal.readNat? s.toList with
    | some n => bs.take n
    | none => bs

def answer? (bs : List Nat) : Option Answer := do
  let (head, rest) ← splitAt? (bytesOf (lineEnd ++ lineEnd)) bs
  let lines := (textOf head).splitOn lineEnd
  let status ← ((← lines.head?).splitOn " ")[1]?
  let status ← Decimal.readNat? status.toList
  let headers := (lines.drop 1).filterMap header?
  some { status, contentType := headers.lookup "content-type", requestId := headers.lookup "x-request-id",
         body := textOf (body headers rest) }

end JobBoard.Wire
