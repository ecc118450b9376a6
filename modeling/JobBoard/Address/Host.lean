import JobBoard.Decimal
import JobBoard.Text.Blank
import JobBoard.Text.Form

/-!
Hosts: domain names, and addresses of four and of sixteen bytes.
-/

namespace JobBoard.Address

inductive Flaw where
  | relative
  | emptyHost
  | invalidPort
  | invalidName
  | invalidHostCharacter
  | invalidFour
  | invalidSix
  deriving DecidableEq

def Flaw.message : Flaw → String
  | relative => "relative URL without a base"
  | emptyHost => "empty host"
  | invalidPort => "invalid port number"
  | invalidName => "invalid international domain name"
  | invalidHostCharacter => "invalid domain character"
  | invalidFour => "invalid IPv4 address"
  | invalidSix => "invalid IPv6 address"

/-- How names of domains are read: the form in ASCII of a name, none if the text is no name. -/
class Names where
  ascii? : List Char → Option (List Char)

inductive Host where
  | name (s : String)
  | four (n : Nat)
  | six (pieces : List Nat)
  deriving DecidableEq

def splitOn (sep : Char) : List Char → List (List Char)
  | [] => [[]]
  | c :: cs =>
    if c = sep then [] :: splitOn sep cs
    else match splitOn sep cs with
      | [] => [[c]]
      | part :: parts => (c :: part) :: parts

def joinWith (sep : Char) (parts : List (List Char)) : List Char := List.intercalate [sep] parts

namespace Host

/-- The longest run of two or more zero pieces: its place and length; the first of two that are equally long. -/
def longestZeros (pieces : List Nat) : Option (Nat × Nat) :=
  let runs := (List.range pieces.length).map fun i => (i, ((pieces.drop i).takeWhile (· == 0)).length)
  runs.foldl (fun best r =>
    if r.2 < 2 then best
    else match best with
      | none => some r
      | some b => if b.2 < r.2 then some r else some b) none

def hexDigits (n : Nat) : List Char := Nat.toDigits 16 n

def pieceText (ps : List Nat) : List Char := joinWith ':' (ps.map hexDigits)

def sixText (pieces : List Nat) : List Char :=
  match longestZeros pieces with
  | none => pieceText pieces
  | some (at', n) => pieceText (pieces.take at') ++ ':' :: ':' :: pieceText (pieces.drop (at' + n))

def fourText (n : Nat) : List Char :=
  joinWith '.' ([n / 16777216 % 256, n / 65536 % 256, n / 256 % 256, n % 256].map Decimal.natText)

def text : Host → String
  | name s => s
  | four n => String.ofList (fourText n)
  | six ps => String.ofList ('[' :: sixText ps ++ [']'])

/-- The hosts for which every scheme is allowed. -/
def localNames : List String := ["localhost", "127.0.0.1", "::1", "[::1]"]

def isLocal (h : Host) : Bool := localNames.any (Text.sameIgnoringCase h.text ·)

/-- A number of a four-byte address: none if the text is no number, and no value if it does not fit a word. -/
def partOfFour? (cs : List Char) : Option (Option Nat) :=
  let value (radix : Nat) (cs : List Char) : Option (Option Nat) :=
    if cs.isEmpty then some (some 0)
    else
      match cs.mapM fun c => (Text.hexValue? c.toNat).filter (· < radix) with
      | none => none
      | some ds =>
        let n := ds.foldl (fun n d => radix * n + d) 0
        some (if n < 4294967296 then some n else none)
  match cs with
  | [] => none
  | '0' :: 'x' :: r => value 16 r
  | '0' :: 'X' :: r => value 16 r
  | '0' :: d :: r => value 8 (d :: r)
  | r => value 10 r

def endsInNumber (cs : List Char) : Bool :=
  let last := match (splitOn '.' cs).reverse with
    | [] :: part :: _ => part
    | [[]] => []
    | part :: _ => part
    | [] => []
  !last.isEmpty && (last.all (fun c => (Decimal.digit? c).isSome) || (partOfFour? last).isSome)

/-- The last number fills the bytes that the numbers before it leave. -/
def ofFour (cs : List Char) : Except Flaw Host :=
  let parts := splitOn '.' cs
  let parts := if parts.getLast? == some [] then parts.dropLast else parts
  match parts.mapM partOfFour? with
  | none => .error .invalidFour
  | some ns =>
    match ns.mapM id with
    | none => .error .invalidFour
    | some ns =>
      match ns.reverse with
      | [] => .error .invalidFour
      | last :: before =>
        let before := before.reverse
        if 3 < before.length || before.any (255 < ·) || 1 <<< (8 * (4 - before.length)) ≤ last then .error .invalidFour
        else
          let high := before.foldl (fun n b => 256 * n + b) 0
          .ok (four (high <<< (8 * (4 - before.length)) + last))

def hexPiece? (cs : List Char) : Option Nat :=
  if cs.isEmpty || 4 < cs.length then none
  else (cs.mapM fun c => Text.hexValue? c.toNat).map (·.foldl (fun n d => 16 * n + d) 0)

def dottedPieces? (cs : List Char) : Option (List Nat) :=
  let byte? (cs : List Char) : Option Nat :=
    match cs with
    | '0' :: _ :: _ => none
    | _ => (Decimal.readNat? cs).filter (· < 256)
  match (splitOn '.' cs).mapM byte? with
  | some [a, b, c, d] => some [256 * a + b, 256 * c + d]
  | _ => none

/-- Pieces parted by colons; the last may be written as an address of four bytes. -/
def pieces? : List (List Char) → Option (List Nat)
  | [] => some []
  | [last] => (hexPiece? last).map ([·]) |>.or (dottedPieces? last)
  | part :: rest =>
    match hexPiece? part, pieces? rest with
    | some n, some ns => some (n :: ns)
    | _, _ => none

def splitDouble : List Char → Option (List Char × List Char)
  | [] => none
  | ':' :: ':' :: r => some ([], r)
  | c :: r => (splitDouble r).map fun (a, b) => (c :: a, b)

def sidePieces? (cs : List Char) : Option (List Nat) := if cs.isEmpty then some [] else pieces? (splitOn ':' cs)

/-- A double colon stands for one or more zero pieces. -/
def ofSix (cs : List Char) : Except Flaw Host :=
  let pieces := match splitDouble cs with
    | none => (sidePieces? cs).filter (·.length == 8)
    | some (a, b) =>
      match sidePieces? a, sidePieces? b with
      | some x, some y =>
        if x.length + y.length ≤ 7 && !a.contains '.' then
          some (x ++ List.replicate (8 - x.length - y.length) 0 ++ y)
        else none
      | _, _ => none
  match pieces with
  | some ps => .ok (six ps)
  | none => .error .invalidSix

def ofText [Names] (cs : List Char) : Except Flaw Host :=
  match cs with
  | '[' :: r =>
    if r.getLast? == some ']' then ofSix r.dropLast else .error .invalidSix
  | _ =>
    let bytes := Text.percentDecode (Text.Utf8.encode cs)
    if !Text.Utf8.isWellFormed bytes then .error .invalidName
    else
      match Names.ascii? (Text.Utf8.decodeLossy bytes) with
      | none => .error .invalidName
      | some [] => .error .emptyHost
      | some d => if endsInNumber d then ofFour d else .ok (name (String.ofList d))

def percentEncode (keep : Nat → Bool) (cs : List Char) : List Char :=
  (Text.Utf8.encode cs).flatMap fun b => if keep b then [Char.ofNat b] else Text.percentByte b

def isForbiddenOpaque (c : Char) : Bool :=
  c.toNat == 0 || c == '\t' || c == '\n' || c == '\r' || " #/:<>?@[\\]^|".toList.contains c

/-- The host of an address with an unknown scheme: no host if the text is empty. -/
def ofOpaque (cs : List Char) : Except Flaw (Option Host) :=
  match cs with
  | '[' :: r =>
    if r.getLast? == some ']' then (ofSix r.dropLast).map some else .error .invalidSix
  | [] => .ok none
  | _ =>
    if cs.any isForbiddenOpaque then .error .invalidHostCharacter
    else .ok (some (name (String.ofList (percentEncode (fun b => 0x20 ≤ b && b < 0x7F) cs))))

end Host

end JobBoard.Address
