import JobBoard.Json.Real

/-!
JSON as a value, and its two written forms: on one line without spaces, and on lines indented by two spaces.
-/

namespace JobBoard.Json

inductive Value where
  | null
  | bool (b : Bool)
  | int (n : Int)
  | real (x : Float)
  | text (s : String)
  | list (items : List Value)
  | record (fields : List (String × Value))

instance : Inhabited Value := ⟨.null⟩

namespace Value

def isNull : Value → Bool
  | null => true
  | _ => false

def hexLower (n : Nat) : Char := if n < 10 then Char.ofNat (48 + n) else Char.ofNat (87 + n)

def escape (c : Char) : List Char :=
  match c.toNat with
  | 34 => ['\\', '"']
  | 92 => ['\\', '\\']
  | 8 => ['\\', 'b']
  | 9 => ['\\', 't']
  | 10 => ['\\', 'n']
  | 12 => ['\\', 'f']
  | 13 => ['\\', 'r']
  | n => if n < 0x20 then ['\\', 'u', '0', '0', hexLower (n / 16), hexLower (n % 16)] else [c]

def quote (s : String) : List Char := '"' :: s.toList.flatMap escape ++ ['"']

mutual

def print : Value → List Char
  | null => ['n', 'u', 'l', 'l']
  | bool true => ['t', 'r', 'u', 'e']
  | bool false => ['f', 'a', 'l', 's', 'e']
  | int n => Decimal.intText n
  | real x => Real.print x
  | text s => quote s
  | list [] => ['[', ']']
  | list (v :: vs) => '[' :: print v ++ printItems vs
  | record [] => ['\x7b', '\x7d']
  | record ((name, v) :: fs) => '\x7b' :: quote name ++ ':' :: print v ++ printFields fs

def printItems : List Value → List Char
  | [] => [']']
  | v :: vs => ',' :: print v ++ printItems vs

def printFields : List (String × Value) → List Char
  | [] => ['\x7d']
  | (name, v) :: fs => ',' :: quote name ++ ':' :: print v ++ printFields fs

end

def newLine (depth : Nat) : List Char := '\n' :: List.replicate (2 * depth) ' '

mutual

/-- The indented form of a value that stands at the given depth. -/
def printAt (depth : Nat) : Value → List Char
  | list [] => ['[', ']']
  | list (v :: vs) => '[' :: newLine (depth + 1) ++ printAt (depth + 1) v ++ printItemsAt depth vs
  | record [] => ['\x7b', '\x7d']
  | record ((name, v) :: fs) =>
    '\x7b' :: newLine (depth + 1) ++ quote name ++ ':' :: ' ' :: printAt (depth + 1) v ++ printFieldsAt depth fs
  | null => ['n', 'u', 'l', 'l']
  | bool true => ['t', 'r', 'u', 'e']
  | bool false => ['f', 'a', 'l', 's', 'e']
  | int n => Decimal.intText n
  | real x => Real.print x
  | text s => quote s

def printItemsAt (depth : Nat) : List Value → List Char
  | [] => newLine depth ++ [']']
  | v :: vs => ',' :: newLine (depth + 1) ++ printAt (depth + 1) v ++ printItemsAt depth vs

def printFieldsAt (depth : Nat) : List (String × Value) → List Char
  | [] => newLine depth ++ ['\x7d']
  | (name, v) :: fs =>
    ',' :: newLine (depth + 1) ++ quote name ++ ':' :: ' ' :: printAt (depth + 1) v ++ printFieldsAt depth fs

end

def compact (v : Value) : String := String.ofList v.print

def pretty (v : Value) : String := String.ofList (v.printAt 0)

/-- Puts a field where its name belongs in ascending order; it replaces a field of that name. -/
def insertField (name : String) (v : Value) : List (String × Value) → List (String × Value)
  | [] => [(name, v)]
  | (n, w) :: fs =>
    if name < n then (name, v) :: (n, w) :: fs
    else if name = n then (name, v) :: fs
    else (n, w) :: insertField name v fs

/-- The fields in ascending order of their names; of two with one name the later one counts. -/
def sortFields (fs : List (String × Value)) : List (String × Value) :=
  fs.foldl (fun acc p => insertField p.1 p.2 acc) []

mutual

def sorted : Value → Value
  | list vs => list (sortedItems vs)
  | record fs => record (sortFields (sortedFields fs))
  | v => v

def sortedItems : List Value → List Value
  | [] => []
  | v :: vs => sorted v :: sortedItems vs

def sortedFields : List (String × Value) → List (String × Value)
  | [] => []
  | (n, v) :: fs => (n, sorted v) :: sortedFields fs

end

mutual

/-- The value that a tree stands for, with at most `depth` values around one another; none if a text or a
number in it cannot be read. -/
def ofTree (depth : Nat) : Tree → Option Value
  | .null => some null
  | .bool b => some (bool b)
  | .number n =>
    match Number.ofNumeral n with
    | some (.int n) => some (int n)
    | some (.real x) => some (real x)
    | none => none
  | .text s => s.map text
  | .list ts => if depth = 0 then none else (itemsOfTrees (depth - 1) ts).map list
  | .record fs => if depth = 0 then none else (fieldsOfTrees (depth - 1) fs).map fun fs => record (sortFields fs)

def itemsOfTrees (depth : Nat) : List Tree → Option (List Value)
  | [] => some []
  | t :: ts =>
    match ofTree depth t, itemsOfTrees depth ts with
    | some v, some vs => some (v :: vs)
    | _, _ => none

def fieldsOfTrees (depth : Nat) : List (Option String × Tree) → Option (List (String × Value))
  | [] => some []
  | (name, t) :: fs =>
    match name, ofTree depth t, fieldsOfTrees depth fs with
    | some n, some v, some vs => some ((n, v) :: vs)
    | _, _, _ => none

end

end Value

end JobBoard.Json
