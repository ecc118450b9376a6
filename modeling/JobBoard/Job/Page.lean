import JobBoard.Job.Record
import JobBoard.Word

/-!
Pages of a listing: the answer of the service as it was sent, and the page that it stands for.
-/

namespace JobBoard

structure Page where
  items : List Job := []
  offset : Nat := 0
  limit : Nat := 0
  hasMore : Bool := false
  deriving DecidableEq

namespace Page

/-- Fewer jobs than asked for, with the claim that there are more. -/
def isShortWithMore (p : Page) : Bool := p.hasMore && p.items.length < p.limit

def toValue (p : Page) : Json.Value :=
  .record [
    ("items", .list (p.items.map Job.toValue)),
    ("offset", .int p.offset),
    ("limit", .int p.limit),
    ("has_more", .bool p.hasMore)]

end Page

/-- The answer to a list request. Place and size are repeated for information only. -/
structure ListAnswer where
  items : List Job := []
  limit : Option Nat := none
  offset : Option Nat := none
  hasMore : Option Bool := none
  total : Option Nat := none
  deriving DecidableEq

namespace ListAnswer

open Json

def fieldNames : List String := ["items", "limit", "offset", "has_more", "total"]

def jobs? (t : Tree) : Option (List Job) := t.items?.bind fun ts => ts.mapM Job.ofTree

def ofTree (t : Tree) : Option ListAnswer := do
  let fs ← Fields.ofRecord fieldNames t
  let items ← fs.orElse "items" [] jobs?
  let limit ← fs.optional "limit" Tree.word64?
  let offset ← fs.optional "offset" Tree.word64?
  let hasMore ← fs.optional "has_more" Tree.bool?
  let total ← fs.optional "total" Tree.word64?
  some { items, limit, offset, hasMore, total }

def ofText (s : String) : Option ListAnswer := (Tree.ofText s).bind ofTree

/-- Whether the listing goes on: the flag decides, else the total, else whether the page is full. -/
def continues (a : ListAnswer) (offset limit : Nat) : Bool :=
  match a.hasMore, a.total with
  | some more, _ => more
  | none, some total => Word.add64 offset a.items.length < total
  | none, none => 0 < a.items.length && limit ≤ a.items.length

def toPage (a : ListAnswer) (offset limit : Nat) : Page :=
  { items := a.items, offset, limit, hasMore := a.continues offset limit }

end ListAnswer

end JobBoard
