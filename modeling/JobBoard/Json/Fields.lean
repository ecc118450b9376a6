import JobBoard.Json.Value

/-!
Reading records leniently. A record may be written with named fields, where names that the reader does not know
are passed over and a known name may stand only once, or as a list of its fields in the order of their
declaration, where the last ones may be missing.
-/

namespace JobBoard.Json

namespace Tree

def int? (low high : Int) : Tree → Option Int
  | number n =>
    match Number.ofNumeral n with
    | some (.int k) => if low ≤ k ∧ k ≤ high then some k else none
    | _ => none
  | _ => none

def int32? : Tree → Option Int := int? (-2147483648) 2147483647

def int64? : Tree → Option Int := int? (-9223372036854775808) 9223372036854775807

def nat? (bound : Nat) (t : Tree) : Option Nat := (int? 0 (bound - 1) t).map Int.toNat

def word16? : Tree → Option Nat := nat? 65536

def word64? : Tree → Option Nat := nat? 18446744073709551616

def bool? : Tree → Option Bool
  | bool b => some b
  | _ => none

def text? : Tree → Option String
  | text s => s
  | _ => none

def items? : Tree → Option (List Tree)
  | list ts => some ts
  | _ => none

end Tree

abbrev Fields := List (String × Tree)

namespace Fields

/-- The known fields among those of a record, under their first names; none if a name cannot be read or a known
field stands twice. -/
def known (canonical : String → Option String) : List (Option String × Tree) → Option Fields
  | [] => some []
  | (none, _) :: _ => none
  | (some name, t) :: fs =>
    match canonical name, known canonical fs with
    | _, none => none
    | none, some rest => some rest
    | some n, some rest => if rest.any (·.1 == n) then none else some ((n, t) :: rest)

def ofTree (order : List String) (canonical : String → Option String) : Tree → Option Fields
  | .record fs => known canonical fs
  | .list ts => if ts.length ≤ order.length then some (order.zip ts) else none
  | _ => none

def ofRecord (order : List String) (t : Tree) : Option Fields :=
  ofTree order (fun name => if order.contains name then some name else none) t

def get? (fs : Fields) (name : String) : Option Tree := fs.lookup name

def required {α : Type} (fs : Fields) (name : String) (read : Tree → Option α) : Option α :=
  (fs.get? name).bind read

def optional {α : Type} (fs : Fields) (name : String) (read : Tree → Option α) : Option (Option α) :=
  match fs.get? name with
  | none => some none
  | some .null => some none
  | some t => (read t).map some

/-- A field that has a value of its own when it is missing. -/
def orElse {α : Type} (fs : Fields) (name : String) (missing : α) (read : Tree → Option α) : Option α :=
  match fs.get? name with
  | none => some missing
  | some t => read t

/-- A field that has a value of its own when it is missing or null. -/
def orNull {α : Type} (fs : Fields) (name : String) (missing : α) (read : Tree → Option α) : Option α :=
  match fs.get? name with
  | none => some missing
  | some .null => some missing
  | some t => read t

end Fields

namespace Value

def ofOption {α : Type} (write : α → Value) : Option α → Value
  | none => null
  | some a => write a

end Value

end JobBoard.Json
