import JobBoard.Text.Blank

/-!
Hiding credentials in a text that is shown or logged: the values of authorization and API key headers, bearer
tokens, and assignments to names that end in KEY, TOKEN, SECRET or PASSWORD. Names are kept.
-/

namespace JobBoard.Text.Redact

/-- Lower case, also of the long s and the Kelvin sign, which are other forms of two of the letters. -/
def fold (c : Char) : Char :=
  if c.toNat == 0x17F then 's' else if c.toNat == 0x212A then 'k' else c.toLower

def startsWith : List Char → List Char → Bool
  | [], _ => true
  | _ :: _, [] => false
  | w :: ws, c :: cs => fold c == w && startsWith ws cs

def run (p : Char → Bool) (cs : List Char) : Nat := (cs.takeWhile p).length

/-- The characters of a header value: it ends at a blank, a comma or a semicolon. -/
def isHeaderValue (c : Char) : Bool := !isBlank c && c != ',' && c != ';'

def isNameLetter (c : Char) : Bool :=
  let f := fold c
  ('a' ≤ f && f ≤ 'z') || ('0' ≤ f && f ≤ '9') || f == '_'

def isTokenLetter (c : Char) : Bool :=
  let f := fold c
  ('a' ≤ f && f ≤ 'z') || ('0' ≤ f && f ≤ '9') || f == '-' || f == '.' || f == '_' || f == '~' || f == '+' ||
    f == '/'

def schemeLength (word cs : List Char) : Option Nat :=
  if startsWith word cs then
    let rest := cs.drop word.length
    let gap := run isBlank rest
    if gap != 0 && run isHeaderValue (rest.drop gap) != 0 then some (word.length + gap) else none
  else none

/-- A header at the start of the text: the length of its name with the blanks behind it, and the whole length. A
scheme word before the value belongs to what is hidden. -/
def header (name : List Char) (schemes : List (List Char)) (cs : List Char) : Option (Nat × Nat) :=
  if startsWith name cs then
    let kept := name.length + run isBlank (cs.drop name.length)
    let value := cs.drop kept
    let scheme := (schemes.findSome? fun w => schemeLength w value).getD 0
    let hidden := run isHeaderValue (value.drop scheme)
    if hidden != 0 then some (kept, kept + scheme + hidden) else none
  else none

def bearer (cs : List Char) : Option (Nat × Nat) :=
  let word := ['b', 'e', 'a', 'r', 'e', 'r']
  if startsWith word cs then
    let gap := run isBlank (cs.drop word.length)
    let kept := word.length + gap
    let token := run isTokenLetter (cs.drop kept)
    let padding := run (· == '=') (cs.drop (kept + token))
    if gap != 0 && token != 0 then some (kept, kept + token + padding) else none
  else none

/-- The ends of names whose values are hidden, with their letters in reverse. -/
def secretEndings : List (List Char) :=
  ["key", "token", "secret", "password"].map fun w => w.toList.reverse

/-- An assignment at the start of the text: the length up to its equals sign, and the whole length. -/
def assignment (cs : List Char) : Option (Nat × Nat) :=
  let name := cs.takeWhile isNameLetter
  match cs.drop name.length with
  | '=' :: value =>
    let hidden := run (!isBlank ·) value
    if secretEndings.any (startsWith · name.reverse) && hidden != 0 then
      some (name.length + 1, name.length + 1 + hidden)
    else none
  | _ => none

def mark : List Char := "[REDACTED]".toList

/-- Replaces what `find` finds, from left to right. `find` looks at the start of a text only; it gives the number
of characters to keep and the number of characters found. The first argument counts characters still to skip. -/
def scrub (find : List Char → Option (Nat × Nat)) : Nat → List Char → List Char
  | _, [] => []
  | n + 1, _ :: cs => scrub find n cs
  | 0, c :: cs =>
    match find (c :: cs) with
    | some (kept, length) => (c :: cs).take kept ++ mark ++ scrub find (length - 1) cs
    | none => c :: scrub find 0 cs

def finders : List (List Char → Option (Nat × Nat)) :=
  [header "authorization:".toList ["bearer".toList, "basic".toList], header "x-api-key:".toList [], bearer,
    assignment]

def redact (cs : List Char) : List Char := finders.foldl (fun cs find => scrub find 0 cs) cs

end JobBoard.Text.Redact

namespace JobBoard.Text

def redacted (s : String) : String := String.ofList (Redact.redact s.toList)

end JobBoard.Text
