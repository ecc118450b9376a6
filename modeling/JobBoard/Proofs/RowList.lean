import JobBoard.Proofs.RowHeights
import JobBoard.Proofs.TreeBuild
import Mathlib.Algebra.Order.BigOperators.Group.List
import Mathlib.Algebra.Order.Group.Nat
import Mathlib.Data.List.Infix

/-!
The heights of rows as a plain list. Whatever is done to them, they hold the rows that the list holds, report the
differences that it reports, and keep the tree that is built of it.
-/

namespace JobBoard

inductive RowChange where
  | resize (n : Nat)
  | clear
  | record (index height : Nat)
  deriving DecidableEq

namespace RowChange

/-- What a change makes of a plain list of rows. Only the recording of a height reports a difference. -/
def onList (estimate : Nat) (rows : List RowHeight) : RowChange → List RowHeight × Option Int
  | .resize n => (rows.take n ++ List.replicate (n - rows.length) ⟨max estimate 1, false⟩, none)
  | .clear => ([], none)
  | .record index height =>
    match rows[index]? with
    | none => (rows, some 0)
    | some row => (rows.set index ⟨max height 1, true⟩, some (((max height 1 : Nat) : Int) - row.lines))

def onHeights (r : RowHeights) : RowChange → RowHeights × Option Int
  | .resize n => (r.resize n, none)
  | .clear => (r.clear, none)
  | .record index height => ((r.record index height).1, some (r.record index height).2)

/-- Makes changes one after the other and collects what they report. -/
def run {α : Type} (change : α → RowChange → α × Option Int) (a : α) : List RowChange → α × List (Option Int)
  | [] => (a, [])
  | c :: cs =>
    let (a, d) := change a c
    let (a, ds) := run change a cs
    (a, d :: ds)

end RowChange

def linesOf (rows : List RowHeight) : List Nat := rows.map RowHeight.lines

namespace RowHeights

variable {r : RowHeights} {rows : List RowHeight} {estimate : Nat}

/-- The heights stand for a plain list of rows. -/
structure StandsFor (estimate : Nat) (r : RowHeights) (rows : List RowHeight) : Prop where
  estimate : r.estimate = max estimate 1
  rows : r.rows.toList = rows
  sound : r.Sound

theorem StandsFor.start (estimate : Nat) : StandsFor estimate (start estimate) [] where
  estimate := rfl
  rows := rfl
  sound := .start estimate

theorem StandsFor.lines (h : StandsFor estimate r rows) : r.lines = linesOf rows := by
  rw [RowHeights.lines, h.rows, linesOf]

theorem rows_grow (r : RowHeights) (n : Nat) :
    (r.grow n).rows.toList = r.rows.toList ++ List.replicate n ⟨r.estimate, false⟩ := by
  induction n generalizing r with
  | zero => exact (List.append_nil _).symm
  | succ n ih =>
    rw [grow, ih]
    simp [List.replicate_succ]

/-- Cutting rows off builds the tree again of the heights that are left. -/
def cut (r : RowHeights) (n : Nat) : RowHeights :=
  { r with rows := r.rows.take n, tree := .ofHeights ((r.rows.take n).map RowHeight.lines) }

theorem rows_cut (r : RowHeights) (n : Nat) : (r.cut n).rows.toList = r.rows.toList.take n := by
  simp [cut]

theorem lines_cut (r : RowHeights) (n : Nat) : (r.cut n).lines = r.lines.take n := by
  rw [lines, rows_cut, List.map_take]
  rfl

theorem resize_of_lt {n : Nat} (h : n < r.size) : r.resize n = r.cut n := by
  rw [resize, if_pos h]
  rfl

theorem rows_resize (r : RowHeights) (n : Nat) :
    (r.resize n).rows.toList =
      r.rows.toList.take n ++ List.replicate (n - r.size) ⟨r.estimate, false⟩ := by
  rcases Nat.lt_or_ge n r.size with hlt | hge
  · rw [resize_of_lt hlt, Nat.sub_eq_zero_of_le (Nat.le_of_lt hlt), List.replicate_zero, List.append_nil, rows_cut]
  · rw [resize_of_le hge, rows_grow, List.take_of_length_le hge]

theorem Sound.cut (h : r.Sound) (hl : ∀ k ∈ r.lines, k < Word.size32) (n : Nat) : (r.cut n).Sound where
  estimate := h.estimate
  positive := by
    intro k hk
    rw [lines_cut] at hk
    exact h.positive k (List.mem_of_mem_take hk)
  unmeasured := by
    intro row hrow hm
    rw [rows_cut] at hrow
    exact h.unmeasured row (List.mem_of_mem_take hrow) hm
  tree := by
    have hlist : ((r.rows.take n).map RowHeight.lines).toList = (r.cut n).lines := Array.toList_map
    rw [← hlist]
    apply HeightTree.Sums.ofHeights
    intro k hk
    rw [hlist, lines_cut] at hk
    exact hl k (List.mem_of_mem_take hk)

theorem Sound.resize (h : r.Sound) (hl : ∀ k ∈ r.lines, k < Word.size32) (n : Nat) : (r.resize n).Sound := by
  rcases Nat.lt_or_ge n r.size with hlt | hge
  · rw [resize_of_lt hlt]
    exact h.cut hl n
  · rw [resize_of_le hge]
    exact h.grow _

theorem estimate_resize (r : RowHeights) (n : Nat) : (r.resize n).estimate = r.estimate := by
  unfold RowHeights.resize
  split
  · rfl
  · exact r.estimate_grow _

theorem StandsFor.resize (h : StandsFor estimate r rows) (hw : (linesOf rows).sum < Word.size32) (n : Nat) :
    StandsFor estimate (r.resize n) (RowChange.onList estimate rows (.resize n)).1 where
  estimate := (r.estimate_resize n).trans h.estimate
  rows := by
    have hsize : r.size = rows.length := by rw [← h.rows, Array.length_toList, size]
    rw [rows_resize, h.rows, h.estimate, hsize]
    rfl
  sound := by
    apply h.sound.resize
    intro k hk
    rw [h.lines] at hk
    exact Nat.lt_of_le_of_lt (List.le_sum_of_mem hk) hw

theorem StandsFor.clear (h : StandsFor estimate r rows) : StandsFor estimate r.clear [] where
  estimate := h.estimate
  rows := rfl
  sound := h.sound.clear

theorem StandsFor.record (h : StandsFor estimate r rows) (index height : Nat) :
    StandsFor estimate (r.record index height).1 (RowChange.onList estimate rows (.record index height)).1 ∧
      some (r.record index height).2 = (RowChange.onList estimate rows (.record index height)).2 := by
  have hest := (r.estimate_record index height).trans h.estimate
  have hrow : rows[index]? = r.rows[index]? := by rw [← h.rows, Array.getElem?_toList]
  simp only [RowChange.onList, hrow]
  rcases Nat.lt_or_ge index r.size with hlt | hge
  · rw [Array.getElem?_eq_getElem hlt]
    refine ⟨⟨hest, ?_, h.sound.record index height⟩, ?_⟩
    · rw [record_of_lt hlt, ← h.rows]
      exact Array.toList_setIfInBounds
    · rw [record_delta hlt, RowHeights.height, Array.getElem?_eq_getElem hlt]
      rfl
  · rw [Array.getElem?_eq_none hge]
    rw [record_of_size_le hge]
    exact ⟨h, rfl⟩

theorem StandsFor.change (h : StandsFor estimate r rows) (hw : (linesOf rows).sum < Word.size32) (c : RowChange) :
    StandsFor estimate (c.onHeights r).1 (c.onList estimate rows).1 ∧
      (c.onHeights r).2 = (c.onList estimate rows).2 := by
  cases c with
  | resize n => exact ⟨h.resize hw n, rfl⟩
  | clear => exact ⟨h.clear, rfl⟩
  | record index height => exact h.record index height

/-- Whatever is done to them, the heights stand for the list to which the same is done, as long as all lines together
fit into a word. -/
theorem StandsFor.run (h : StandsFor estimate r rows) {cs : List RowChange}
    (hw : ∀ done, done <+: cs →
      (linesOf (RowChange.run (RowChange.onList estimate) rows done).1).sum < Word.size32) :
    StandsFor estimate (RowChange.run RowChange.onHeights r cs).1
        (RowChange.run (RowChange.onList estimate) rows cs).1 ∧
      (RowChange.run RowChange.onHeights r cs).2 = (RowChange.run (RowChange.onList estimate) rows cs).2 := by
  induction cs generalizing r rows with
  | nil => exact ⟨h, rfl⟩
  | cons c cs ih =>
    obtain ⟨hc, hd⟩ := h.change (hw [] (List.nil_prefix)) c
    obtain ⟨hr, hds⟩ := ih hc (fun done hdone => hw (c :: done) (List.cons_prefix_cons.2 ⟨rfl, hdone⟩))
    refine ⟨hr, ?_⟩
    simp only [RowChange.run, hd, hds]

theorem StandsFor.tree_eq (h : StandsFor estimate r rows) (hw : (linesOf rows).sum < Word.size32) :
    r.tree = HeightTree.ofHeights (linesOf rows).toArray := by
  have hbuilt : (HeightTree.ofHeights (linesOf rows).toArray).Sums (linesOf rows) := by
    apply HeightTree.Sums.ofHeights
    intro n hn
    exact Nat.lt_of_le_of_lt (List.le_sum_of_mem hn) hw
  have htree := h.sound.tree
  rw [h.lines] at htree
  exact htree.eq hbuilt

theorem StandsFor.node (h : StandsFor estimate r rows) (hw : (linesOf rows).sum < Word.size32) {i : Nat}
    (hi : 0 < i) (hle : i ≤ rows.length) :
    r.tree.node i = (((linesOf rows).take i).drop (i - lowBit i)).sum := by
  have hle' : i ≤ r.lines.length := by rwa [h.lines, linesOf, List.length_map]
  have hlow : i - lowBit i = dropLowBit i := Nat.sub_sub_self (Nat.le_of_lt (dropLowBit_lt hi))
  have hsplit := sum_take_split (linesOf rows) (Nat.le_of_lt (dropLowBit_lt hi))
  have hsum := sum_take_le (linesOf rows) i
  rw [h.sound.tree.node i hi hle', h.lines, hlow, Nat.mod_eq_of_lt (by omega)]

theorem StandsFor.offsetOf (h : StandsFor estimate r rows) (hw : (linesOf rows).sum < Word.size32) (k : Nat) :
    r.offsetOf k = ((linesOf rows).take (min k rows.length)).sum := by
  have hlen : rows.length = (linesOf rows).length := (List.length_map _).symm
  rw [h.sound.offsetOf (by rwa [h.lines]), top, h.lines, hlen, ← List.take_eq_take_min]

theorem StandsFor.total (h : StandsFor estimate r rows) (hw : (linesOf rows).sum < Word.size32) :
    r.total = (linesOf rows).sum := by
  rw [h.sound.total (by rwa [h.lines]), h.lines]

/-- As long as all lines together fit into a word, the heights of rows behave as a plain list of rows: they hold the
rows of the list, and every recording reports the difference that it makes there. Distances are sums over the list,
and each node of the tree holds the sum of the heights that it covers, as in the tree that is built of the list. -/
theorem behave_as_list {estimate : Nat} {cs : List RowChange}
    (hw : ∀ done, done <+: cs →
      (linesOf (RowChange.run (RowChange.onList estimate) [] done).1).sum < Word.size32) :
    let r := RowChange.run RowChange.onHeights (start estimate) cs
    let l := RowChange.run (RowChange.onList estimate) [] cs
    r.1.rows.toList = l.1 ∧ r.2 = l.2 ∧
      (∀ k, r.1.offsetOf k = ((linesOf l.1).take (min k l.1.length)).sum) ∧
      r.1.total = (linesOf l.1).sum ∧
      (∀ i, 0 < i → i ≤ l.1.length → r.1.tree.node i = (((linesOf l.1).take i).drop (i - lowBit i)).sum) ∧
      r.1.tree = HeightTree.ofHeights (linesOf l.1).toArray := by
  obtain ⟨h, hreports⟩ := (StandsFor.start estimate).run hw
  have hsum := hw cs List.prefix_rfl
  refine ⟨h.rows, hreports, fun k => h.offsetOf hsum k, h.total hsum, ?_, h.tree_eq hsum⟩
  intro i hi hle
  exact h.node hsum hi hle

/-- Six rows of which one is measured, cut off behind it, measured again, and grown over a power of two. -/
def sixToNine : List RowChange :=
  [.resize 6, .record 3 4, .record 5 2, .resize 5, .record 3 0, .record 0 3, .record 7 2, .resize 9]

theorem behave_as_list_sixToNine :
    (∀ done, done <+: sixToNine →
      (linesOf (RowChange.run (RowChange.onList 2) [] done).1).sum < Word.size32) ∧
    (RowChange.run RowChange.onHeights (start 2) sixToNine).2 =
      [none, some 2, some 0, none, some (-3), some 1, some 0, none] ∧
    (RowChange.run RowChange.onHeights (start 2) sixToNine).1.offsetOf 4 = 8 ∧
    (RowChange.run RowChange.onHeights (start 2) sixToNine).1.total = 18 ∧
    (RowChange.run RowChange.onHeights (start 2) sixToNine).1.tree.node 8 = 16 := by
  have hw : ∀ done, done <+: sixToNine →
      (linesOf (RowChange.run (RowChange.onList 2) [] done).1).sum < Word.size32 := by
    intro done hdone
    have hall : ∀ d ∈ sixToNine.inits, (linesOf (RowChange.run (RowChange.onList 2) [] d).1).sum < Word.size32 := by
      decide
    exact hall done ((List.mem_inits done sixToNine).2 hdone)
  obtain ⟨-, hreports, hoffset, htotal, hnode, -⟩ := behave_as_list hw
  refine ⟨hw, hreports.trans (by decide), (hoffset 4).trans (by decide), htotal.trans (by decide), ?_⟩
  exact (hnode 8 (by decide) (by decide)).trans (by decide)

end RowHeights

end JobBoard
