import JobBoard.Word

/-!
Sums over the first heights of a list, kept in a binary indexed tree: node `i`, counted from one, holds the sum
of the heights behind number `i` without its lowest bit, up to number `i`. Sums are 32-bit words. There is no node
zero: a place for it would be looked at by nothing, and an empty tree would not be one tree but two.
-/

namespace JobBoard

def dropLowBit (i : Nat) : Nat := i &&& (i - 1)

def lowBit (i : Nat) : Nat := i - dropLowBit i

theorem dropLowBit_lt {i : Nat} (h : 0 < i) : dropLowBit i < i :=
  Nat.lt_of_le_of_lt Nat.and_le_right (Nat.sub_lt h Nat.one_pos)

theorem lowBit_pos {i : Nat} (h : 0 < i) : 0 < lowBit i :=
  Nat.sub_pos_of_lt (dropLowBit_lt h)

structure HeightTree where
  /-- Node `i` stands at place `i - 1`. -/
  nodes : Array Nat := #[]
  deriving DecidableEq

namespace HeightTree

def size (t : HeightTree) : Nat := t.nodes.size

def node (t : HeightTree) (i : Nat) : Nat := t.nodes.getD (i - 1) 0

def bump (t : HeightTree) (i : Nat) (d : Int) : HeightTree := ⟨t.nodes.modify (i - 1) (Word.shift32 · d)⟩

/-- The sum over the nodes of `count` and of what is left when its lowest bits are dropped one by one. -/
def sumFrom (t : HeightTree) (count : Nat) : Nat :=
  if count = 0 then 0
  else Word.add32 (t.sumFrom (dropLowBit count)) (t.node count)
termination_by count
decreasing_by exact dropLowBit_lt (Nat.pos_of_ne_zero ‹_›)

def sumFirst (t : HeightTree) (count : Nat) : Nat := t.sumFrom (min count t.size)

def sumFromCarries (t : HeightTree) (count : Nat) : Bool :=
  if count = 0 then false
  else
    t.sumFromCarries (dropLowBit count) || Word.carries32 (t.sumFrom (dropLowBit count)) (t.node count)
termination_by count
decreasing_by exact dropLowBit_lt (Nat.pos_of_ne_zero ‹_›)

def sumFirstCarries (t : HeightTree) (count : Nat) : Bool := t.sumFromCarries (min count t.size)

/-- Adds a signed amount to node `i` and to all nodes above it. -/
def bumpUp (t : HeightTree) (i : Nat) (d : Int) : HeightTree :=
  if 0 < i ∧ i ≤ t.size then bumpUp (t.bump i d) (i + lowBit i) d else t
termination_by t.size + 1 - i
decreasing_by
  rename_i h
  have := lowBit_pos h.1
  simp only [size, bump, Array.size_modify] at *
  omega

def add (t : HeightTree) (index : Nat) (d : Int) : HeightTree := t.bumpUp (index + 1) d

/-- Whether adding up from node `i` takes a node out of its word. This stops nothing: the node is cut. -/
def cutsUp (t : HeightTree) (i : Nat) (d : Int) : Bool :=
  if 0 < i ∧ i ≤ t.size then Word.cuts32 (t.node i) d || t.cutsUp (i + lowBit i) d else false
termination_by t.size + 1 - i
decreasing_by
  rename_i h
  have := lowBit_pos h.1
  omega

def addCuts (t : HeightTree) (index : Nat) (d : Int) : Bool := t.cutsUp (index + 1) d

/-- Appends a height. All that the new node covers but the height itself is summed already. -/
def push (t : HeightTree) (height : Nat) : HeightTree :=
  let i := t.size + 1
  let covered := Word.sub32 (t.sumFirst (i - 1)) (t.sumFirst (dropLowBit i))
  ⟨t.nodes.push (Word.add32 covered height)⟩

/-- Whether a sum carries when a height is appended, or less is summed up to its place than before it. -/
def pushCarries (t : HeightTree) (height : Nat) : Bool :=
  let i := t.size + 1
  let all := t.sumFirst (i - 1)
  let before := t.sumFirst (dropLowBit i)
  t.sumFirstCarries (i - 1) || t.sumFirstCarries (dropLowBit i) || decide (all < before) ||
    Word.carries32 (Word.sub32 all before) height

/-- Adds node `i` to the node above it. -/
def raise (nodes : Array Nat) (i : Nat) : Array Nat :=
  nodes.modify (i + lowBit i - 1) fun above => Word.add32 above (nodes.getD (i - 1) 0)

def ofHeights (heights : Array Nat) : HeightTree :=
  ⟨(List.range' 1 heights.size).foldl raise heights⟩

def raiseCarries (nodes : Array Nat) (i : Nat) : Bool :=
  decide (i + lowBit i ≤ nodes.size) &&
    Word.carries32 (nodes.getD (i + lowBit i - 1) 0) (nodes.getD (i - 1) 0)

def ofHeightsCarries (heights : Array Nat) : Bool :=
  ((List.range' 1 heights.size).foldl (fun (nodes, carries) i => (raise nodes i, carries || raiseCarries nodes i))
    (heights, false)).2

/-- Goes down from `position` by steps of `1 <<< (k - 1)`, …, `1` as long as the nodes passed fit into
`remaining`. -/
def descend (t : HeightTree) : (k position remaining : Nat) → Nat
  | 0, position, _ => position
  | k + 1, position, remaining =>
    let next := position + 1 <<< k
    if next ≤ t.size && t.node next ≤ remaining then t.descend k next (remaining - t.node next)
    else t.descend k position remaining

/-- The number of rows at the start that end at or before an offset, which is the index of the row there. -/
def rowsBefore (t : HeightTree) (offset : Nat) : Nat :=
  if t.size = 0 then 0 else t.descend (Nat.log2 t.size + 1) 0 offset

end HeightTree

end JobBoard
