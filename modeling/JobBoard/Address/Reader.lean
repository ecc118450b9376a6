import JobBoard.Address.Host

/-!
Addresses of a service: their parts, their reading, and their written form.
-/

namespace JobBoard

/-- An address, with its parts in the form in which they are written. Without a host the path is all that
stands between the scheme and the query. -/
structure Address where
  scheme : String
  username : String := ""
  password : Option String := none
  host : Option Address.Host := none
  port : Option Nat := none
  path : String := ""
  query : Option String := none
  fragment : Option String := none
  deriving DecidableEq

namespace Address

def defaultPort? : String → Option Nat
  | "http" | "ws" => some 80
  | "https" | "wss" => some 443
  | "ftp" => some 21
  | _ => none

/-- Schemes whose addresses have a host and a path with slashes. -/
def isKnownScheme (s : String) : Bool := s == "file" || (defaultPort? s).isSome

def optionalText (mark : String) : Option String → String
  | none => ""
  | some s => mark ++ s

def userText (a : Address) : String :=
  if a.username.isEmpty && a.password.isNone then ""
  else a.username ++ optionalText ":" a.password ++ "@"

def portText (a : Address) : String := optionalText ":" (a.port.map toString)

def hostText (a : Address) : String :=
  match a.host with
  | some h => "//" ++ a.userText ++ h.text ++ a.portText
  | none => ""

def text (a : Address) : String :=
  a.scheme ++ ":" ++ a.hostText ++ a.path ++ optionalText "?" a.query ++ optionalText "#" a.fragment

namespace Reader

abbrev Rest := List Char

def isTabOrLine (c : Char) : Bool := c == '\t' || c == '\n' || c == '\r'

def isLow (c : Char) : Bool := c.toNat ≤ 0x20

/-- Control characters and spaces around an address do not count, nor do tabs and line ends within it. -/
def clean (cs : List Char) : List Char :=
  (((cs.dropWhile isLow).reverse.dropWhile isLow).reverse).filter (!isTabOrLine ·)

def isSchemeLetter (c : Char) : Bool := c.isAlphanum || c == '+' || c == '-' || c == '.'

def scheme? (cs : List Char) : Option (String × Rest) :=
  match cs with
  | c :: _ =>
    let name := cs.takeWhile isSchemeLetter
    match cs.drop name.length with
    | ':' :: r => if c.isAlpha then some (String.ofList (name.map Char.toLower), r) else none
    | _ => none
  | [] => none

/-- A slash, or for a known scheme a backslash. -/
def isSlash (known : Bool) (c : Char) : Bool := c == '/' || (known && c == '\\')

/-- Bytes that are written as they are in a fragment; the other parts keep fewer. -/
def keepsFragment (b : Nat) : Bool :=
  0x21 ≤ b && b < 0x7F && !([34, 60, 62, 96] : List Nat).contains b

def keepsPath (b : Nat) : Bool := keepsFragment b && !([35, 63, 123, 125] : List Nat).contains b

def keepsUser (b : Nat) : Bool :=
  keepsPath b && !([47, 58, 59, 61, 64, 91, 92, 93, 94, 124] : List Nat).contains b

def keepsQuery (known : Bool) (b : Nat) : Bool :=
  0x21 ≤ b && b < 0x7F && !([34, 35, 60, 62] : List Nat).contains b && !(known && b == 39)

def encodeWith (keep : Nat → Bool) (cs : List Char) : String := String.ofList (Host.percentEncode keep cs)

/-- The characters before the last `@`, and those behind it. -/
def splitUser (cs : List Char) : Option (List Char × List Char) :=
  let behind := (cs.reverse.takeWhile (· != '@')).reverse
  if behind.length == cs.length then none else some (cs.take (cs.length - behind.length - 1), behind)

/-- Name and password; an empty password counts as none. -/
def user (cs : List Char) : String × Option String :=
  let name := cs.takeWhile (· != ':')
  let rest := (cs.drop name.length).drop 1
  (encodeWith keepsUser name, if rest.isEmpty then none else some (encodeWith keepsUser rest))

/-- The place of the colon before a port: one outside of square brackets. -/
def hostLength : Bool → List Char → Nat
  | _, [] => 0
  | inside, c :: cs =>
    if c == ':' && !inside then 0
    else 1 + hostLength (if c == '[' then true else if c == ']' then false else inside) cs

def named (cs : List Char) : String × Option String :=
  match splitUser cs with
  | some (u, _) => user u
  | none => ("", none)

def hostAndPort (cs : List Char) : List Char :=
  match splitUser cs with
  | some (_, r) => r
  | none => cs

def hostChars (cs : List Char) : List Char := (hostAndPort cs).take (hostLength false (hostAndPort cs))

def portPart (cs : List Char) : List Char := (hostAndPort cs).drop (hostChars cs).length

def readHost [Names] (known : Bool) (cs : List Char) : Except Flaw (Option Host) :=
  if known then (Host.ofText cs).map some else Host.ofOpaque cs

/-- The number of a port, none if it is missing or the scheme's own, and what stands behind it: a backslash there begins
the path. -/
def port (scheme : String) (cs : List Char) : Except Flaw (Option Nat × Rest) :=
  let digits := cs.takeWhile (fun c => (Decimal.digit? c).isSome)
  let behind := cs.drop digits.length
  let n := Decimal.ofDigits (digits.filterMap Decimal.digit?)
  if 65535 < n then .error .invalidPort
  else if !behind.isEmpty && behind.head? != some '\\' then .error .invalidPort
  else .ok (if digits.isEmpty || some n == defaultPort? scheme then none else some n, behind)

def isHere (s : List Char) : Bool :=
  let t := s.map Char.toLower
  t == ['.'] || t == "%2e".toList

def isAbove (s : List Char) : Bool :=
  let t := s.map Char.toLower
  t == ['.', '.'] || t == ".%2e".toList || t == "%2e.".toList || t == "%2e%2e".toList

def startsWithDrive (s : List Char) : Bool :=
  match s with
  | [c, d] => c.isAlpha && (d == ':' || d == '|')
  | c :: d :: '\\' :: _ => c.isAlpha && (d == ':' || d == '|')
  | _ => false

/-- The place above a path, whose segments stand in reverse; above a drive there is nothing. -/
def above (path : List (List Char)) : List (List Char) :=
  match path with
  | top :: rest => if startsWithDrive top then path else rest
  | [] => []

/-- Takes one segment into a path, whose segments stand in reverse; `last` says that none follows. -/
def enter (path : List (List Char)) (segment : List Char) (last : Bool) : List (List Char) :=
  if isAbove segment then if last then [] :: above path else above path
  else if isHere segment then if last then [] :: path else path
  else Host.percentEncode keepsPath segment :: path

def enterAll : List (List Char) → List (List Char) → List (List Char)
  | path, [] => path
  | path, [s] => enter path s true
  | path, s :: ss => enterAll (enter path s false) ss

def segments (known : Bool) (cs : List Char) : List (List Char) :=
  splitOn '/' (cs.map fun c => if isSlash known c then '/' else c)

def slashPath (known : Bool) (cs : List Char) : String :=
  String.ofList ((enterAll [] (segments known cs)).reverse.flatMap fun s => '/' :: s)

def hostPath (known : Bool) (cs : List Char) : String :=
  match cs with
  | [] => if known then "/" else ""
  | c :: r => if isSlash known c then slashPath known r else slashPath known (c :: r)

def cutTail (cs : List Char) : List Char × Option (List Char) × Option (List Char) :=
  let front := cs.takeWhile (· != '#')
  let fragment := match cs.drop front.length with
    | _ :: r => some r
    | [] => none
  let before := front.takeWhile (· != '?')
  let query := match front.drop before.length with
    | _ :: r => some r
    | [] => none
  (before, query, fragment)

def withTail (known : Bool) (a : Address) (query fragment : Option (List Char)) : Address :=
  { a with
    query := query.map (encodeWith (keepsQuery known))
    fragment := fragment.map (encodeWith keepsFragment) }

/-- The host and what belongs to it, from the text behind the slashes and before the first slash of the path, and what
of this text is path already. -/
def authority [Names] (scheme : String) (known : Bool) (cs : List Char) : Except Flaw (Address × Rest) :=
  if (hostChars cs).isEmpty && (known || !(portPart cs).isEmpty) then .error .emptyHost
  else
    match readHost known (hostChars cs) with
    | .error e => .error e
    | .ok host =>
      match port scheme ((portPart cs).drop 1) with
      | .error e => .error e
      | .ok (n, rest) =>
        let (username, password) := named cs
        if host.isNone && (username != "" || password.isSome) then .error .emptyHost
        else .ok ({ scheme, username, password, host, port := n }, rest)

def front (known : Bool) (cs : List Char) : List Char := cs.takeWhile (!isSlash known ·)

def behind (known : Bool) (cs : List Char) : List Char := cs.dropWhile (!isSlash known ·)

/-- An address with a host, from the text behind the two slashes. An `@` between the slashes and the path
announces a host. -/
def hosted [Names] (scheme : String) (known : Bool) (cs : List Char) : Except Flaw Address :=
  let (before, query, fragment) := cutTail cs
  if front known before == ['@'] && (front known before).length < cs.length then .error .emptyHost
  else
    match authority scheme known (front known before) with
    | .error e => .error e
    | .ok (a, rest) =>
      .ok (withTail known { a with path := hostPath known (rest ++ behind known before) } query fragment)

def isDrive (cs : List Char) : Bool :=
  match cs with
  | [c, d] => c.isAlpha && (d == ':' || d == '|')
  | _ => false

def beginsWithDrive (cs : List Char) : Bool :=
  match segments true cs with
  | first :: _ => isDrive first
  | [] => false

/-- The address of a file: a drive leaves out the machine before it. -/
def fileAddress (host : Option Host) (path : List Char) (query fragment : Option (List Char)) : Address :=
  withTail true { scheme := "file", host := if beginsWithDrive path then none else host, path := slashPath true path }
    query fragment

/-- An address of a file. Its own machine counts as no host. -/
def file [Names] (cs : List Char) : Except Flaw Address :=
  let (before, query, fragment) := cutTail cs
  match before with
  | a :: b :: r =>
    if isSlash true a && isSlash true b then
      let machine := front true r
      let path := (behind true r).drop 1
      if isDrive machine then .ok (fileAddress none r query fragment)
      else if machine.isEmpty then .ok (fileAddress none path query fragment)
      else
        match Host.ofText machine with
        | .error e => .error e
        | .ok h => .ok (fileAddress (if h.text == "localhost" then none else some h) path query fragment)
    else if isSlash true a then .ok (fileAddress none (b :: r) query fragment)
    else .ok (fileAddress none before query fragment)
  | [a] => .ok (fileAddress none (if isSlash true a then [] else [a]) query fragment)
  | [] => .ok (fileAddress none [] query fragment)

def hostless (scheme : String) (cs : List Char) : Address :=
  let (before, query, fragment) := cutTail cs
  let path := match before with
    | '/' :: r => slashPath false r
    | r => encodeWith (fun b => 0x20 ≤ b && b < 0x7F) r
  withTail false { scheme, path } query fragment

def readClean [Names] (cs : List Char) : Except Flaw Address :=
  match scheme? cs with
  | none => .error .relative
  | some (scheme, r) =>
    if scheme == "file" then file r
    else if isKnownScheme scheme then hosted scheme true (r.dropWhile (isSlash true))
    else
      match r with
      | '/' :: '/' :: r => hosted scheme false r
      | r => .ok (hostless scheme r)

def read [Names] (cs : List Char) : Except Flaw Address := readClean (clean cs)

end Reader

def ofText [Names] (s : String) : Except Flaw Address := Reader.read s.toList

end Address

end JobBoard
