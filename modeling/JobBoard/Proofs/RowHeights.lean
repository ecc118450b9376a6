import JobBoard.Listing.RowHeights
import JobBoard.Proofs.HeightTree

/-!
The heights of rows against the plain list of their lines. A sound record of heights stays sound, and as long as all
lines together fit into a word, distances and rows at an offset are those of the list.
-/

namespace JobBoard.RowHeights

def lines (r : RowHeights) : List Nat := r.rows.toList.map RowHeight.lines

def top (r : RowHeights) (index : Nat) : Nat := (r.lines.take index).sum

structure Sound (r : RowHeights) : Prop where
  estimate : 0 < r.estimate
  positive : ∀ n ∈ r.lines, 0 < n
  unmeasured : ∀ row ∈ r.rows.toList, row.measured = false → row.lines = r.estimate
  tree : r.tree.Sums r.lines

variable {r : RowHeights}

theorem length_lines (r : RowHeights) : r.lines.length = r.size := by
  rw [lines, List.length_map, Array.length_toList, size]

theorem getElem_lines {index : Nat} (h : index < r.lines.length) : r.lines[index] = r.height index := by
  have h' : index < r.rows.size := by rw [← size, ← length_lines]; exact h
  simp only [lines, height, List.getElem_map, Array.getElem_toList, Array.getElem?_eq_getElem h', Option.map_some,
    Option.getD_some]

theorem Sound.height_pos (h : r.Sound) (index : Nat) : 0 < r.height index := by
  rcases Nat.lt_or_ge index r.lines.length with hlt | hge
  · rw [← getElem_lines hlt]
    exact h.positive _ (List.getElem_mem hlt)
  · have hnone : r.rows[index]? = none := Array.getElem?_eq_none (by rw [← size, ← length_lines]; exact hge)
    simp only [height, hnone, Option.map_none, Option.getD_none]
    exact h.estimate

theorem Sound.height_of_unmeasured (h : r.Sound) {index : Nat} (hm : r.isMeasured index = false) :
    r.height index = r.estimate := by
  unfold isMeasured at hm
  unfold height
  cases hr : r.rows[index]? with
  | none => rfl
  | some row =>
    rw [hr] at hm
    obtain ⟨hlt, he⟩ := Array.getElem?_eq_some_iff.1 hr
    exact h.unmeasured row (Array.mem_toList_iff.2 (he ▸ Array.getElem_mem hlt)) hm

@[simp] theorem top_zero (r : RowHeights) : r.top 0 = 0 := rfl

theorem top_succ {index : Nat} (h : index < r.size) : r.top (index + 1) = r.top index + r.height index := by
  have h' : index < r.lines.length := by rwa [length_lines]
  rw [top, sum_take_succ h', getElem_lines h', top]

theorem top_add (r : RowHeights) (i k : Nat) : r.top (i + k) = r.top i + ((r.lines.drop i).take k).sum := by
  rw [top, List.take_add, List.sum_append]
  rfl

theorem top_mono {i j : Nat} (h : i ≤ j) : r.top i ≤ r.top j := sum_take_mono _ h

theorem top_size (r : RowHeights) : r.top r.size = r.lines.sum := by
  rw [top, ← length_lines, List.take_of_length_le (Nat.le_refl _)]

theorem top_le (r : RowHeights) (index : Nat) : r.top index ≤ r.lines.sum := sum_take_le _ _

theorem Sound.top_lt_succ (h : r.Sound) {index : Nat} (hi : index < r.size) : r.top index < r.top (index + 1) := by
  rw [top_succ hi]
  exact Nat.lt_add_of_pos_right (h.height_pos index)

theorem Sound.top_lt_sum (h : r.Sound) {index : Nat} (hi : index < r.size) : r.top index < r.lines.sum :=
  Nat.lt_of_lt_of_le (h.top_lt_succ hi) (r.top_le _)

theorem Sound.offsetOf (h : r.Sound) (hw : r.lines.sum < Word.size32) (index : Nat) :
    r.offsetOf index = r.top index := by
  rw [RowHeights.offsetOf, h.tree.sumFirst]
  exact Nat.mod_eq_of_lt (Nat.lt_of_le_of_lt (r.top_le index) hw)

theorem Sound.total (h : r.Sound) (hw : r.lines.sum < Word.size32) : r.total = r.lines.sum := by
  rw [RowHeights.total, h.tree.sumFirst, ← top_size]
  exact Nat.mod_eq_of_lt (Nat.lt_of_le_of_lt (r.top_le r.size) hw)

theorem Sound.offsetCarries (h : r.Sound) (hw : r.lines.sum < Word.size32) (index : Nat) :
    r.offsetCarries index = false := h.tree.sumFirstCarries_eq_false hw index

/-- The row at an offset is the one whose lines the offset falls into; below the end it is the last one. -/
theorem Sound.indexAt (h : r.Sound) (hw : r.lines.sum < Word.size32) (hn : 0 < r.size) (offset : Nat) :
    ∃ i, r.indexAt offset = some i ∧ i < r.size ∧
      (r.top i ≤ offset ∧ offset < r.top (i + 1) ∨ i = r.size - 1 ∧ r.lines.sum ≤ offset) := by
  obtain ⟨hle, hsum, hend⟩ := h.tree.rowsBefore hw offset
  rw [length_lines] at hle hend
  refine ⟨min (r.tree.rowsBefore offset) (r.size - 1), ?_, by omega, ?_⟩
  · rw [RowHeights.indexAt, if_neg (Nat.ne_of_gt hn)]
  · rcases hend with hend | hend
    · right
      refine ⟨by omega, ?_⟩
      rw [← top_size, top, ← hend]
      exact hsum
    · left
      have hlt : r.tree.rowsBefore offset < r.size := by
        rcases Nat.lt_or_ge (r.tree.rowsBefore offset) r.size with hlt | hge
        · exact hlt
        · rw [List.take_of_length_le (by rw [length_lines]; omega)] at hsum hend
          omega
      rw [Nat.min_eq_left (by omega)]
      exact ⟨hsum, hend⟩

theorem le_iff_lt_top {i j offset : Nat} (hi : r.top i ≤ offset ∧ offset < r.top (i + 1)) :
    i ≤ j ↔ offset < r.top (j + 1) := by
  constructor
  · intro hle
    exact Nat.lt_of_lt_of_le hi.2 (top_mono (Nat.succ_le_succ hle))
  · intro hlt
    by_contra hgt
    have hmono : r.top (j + 1) ≤ r.top i := top_mono (Nat.not_le.1 hgt)
    omega

theorem le_iff_top_le {i j offset : Nat} (hi : r.top i ≤ offset ∧ offset < r.top (i + 1)) :
    j ≤ i ↔ r.top j ≤ offset := by
  constructor
  · intro hle
    exact Nat.le_trans (top_mono hle) hi.1
  · intro hle
    by_contra hgt
    have hmono : r.top (i + 1) ≤ r.top j := top_mono (Nat.not_le.1 hgt)
    omega

theorem eq_of_top_le {i j offset : Nat} (hi : r.top i ≤ offset ∧ offset < r.top (i + 1))
    (hj : r.top j ≤ offset ∧ offset < r.top (j + 1)) : i = j :=
  Nat.le_antisymm ((le_iff_top_le hj).2 hi.1) ((le_iff_top_le hi).2 hj.1)

theorem top_of_size_le {index : Nat} (h : r.size ≤ index) : r.top index = r.lines.sum := by
  rw [top, List.take_of_length_le]
  rw [length_lines]
  exact h

theorem lt_size_of_top_lt {i offset : Nat} (hi : r.top i ≤ offset ∧ offset < r.top (i + 1)) : i < r.size := by
  by_contra hge
  have hle := r.top_le (i + 1)
  rw [top_of_size_le (Nat.not_lt.1 hge)] at hi
  omega

theorem Sound.indexAt_of_top (h : r.Sound) (hw : r.lines.sum < Word.size32) {i offset : Nat}
    (hi : r.top i ≤ offset ∧ offset < r.top (i + 1)) : r.indexAt offset = some i := by
  obtain ⟨j, hj, -, hjt | ⟨-, hend⟩⟩ := h.indexAt hw (Nat.zero_lt_of_lt (lt_size_of_top_lt hi)) offset
  · rw [hj, eq_of_top_le hjt hi]
  · have hle := r.top_le (i + 1)
    omega

theorem Sound.indexAt_of_sum_le (h : r.Sound) (hw : r.lines.sum < Word.size32) (hn : 0 < r.size) {offset : Nat}
    (hend : r.lines.sum ≤ offset) : r.indexAt offset = some (r.size - 1) := by
  obtain ⟨j, hj, -, hjt | ⟨he, -⟩⟩ := h.indexAt hw hn offset
  · have hle := r.top_le (j + 1)
    omega
  · rw [hj, he]

theorem Sound.top_le_of_indexAt (h : r.Sound) (hw : r.lines.sum < Word.size32) {i offset : Nat}
    (hi : r.indexAt offset = some i) : i < r.size ∧ r.top i ≤ offset := by
  have hn : 0 < r.size := by
    rw [Nat.pos_iff_ne_zero]
    intro h₀
    rw [RowHeights.indexAt, if_pos h₀] at hi
    cases hi
  obtain ⟨j, hj, hlt, hjt⟩ := h.indexAt hw hn offset
  obtain rfl : j = i := Option.some.inj (hj.symm.trans hi)
  rcases hjt with ⟨htop, -⟩ | ⟨-, hend⟩
  · exact ⟨hlt, htop⟩
  · exact ⟨hlt, Nat.le_trans (r.top_le j) hend⟩

theorem Sound.indexAt_mono (h : r.Sound) (hw : r.lines.sum < Word.size32) (hn : 0 < r.size) {a b : Nat}
    (hab : a ≤ b) : ∃ i j, r.indexAt a = some i ∧ r.indexAt b = some j ∧ i ≤ j := by
  obtain ⟨i, hi, hlt, -⟩ := h.indexAt hw hn a
  obtain ⟨j, hj, -, hjt | ⟨rfl, -⟩⟩ := h.indexAt hw hn b
  · refine ⟨i, j, hi, hj, (le_iff_top_le hjt).2 ?_⟩
    exact Nat.le_trans (h.top_le_of_indexAt hw hi).2 hab
  · exact ⟨i, _, hi, hj, Nat.le_sub_one_of_lt hlt⟩

theorem Sound.start (estimate : Nat) : (start estimate).Sound where
  estimate := Nat.le_max_right _ _
  positive := by
    intro n hn
    cases hn
  unmeasured := by
    intro row hrow
    cases hrow
  tree := .nil

theorem Sound.clear (h : r.Sound) : r.clear.Sound where
  estimate := h.estimate
  positive := by
    intro n hn
    cases hn
  unmeasured := by
    intro row hrow
    cases hrow
  tree := .nil

theorem estimate_grow (r : RowHeights) (n : Nat) : (r.grow n).estimate = r.estimate := by
  induction n generalizing r with
  | zero => rfl
  | succ n ih => rw [grow, ih]

theorem lines_grow (r : RowHeights) (n : Nat) : (r.grow n).lines = r.lines ++ List.replicate n r.estimate := by
  induction n generalizing r with
  | zero => exact (List.append_nil _).symm
  | succ n ih =>
    rw [grow, ih]
    simp [lines, List.replicate_succ]

theorem sum_grow (r : RowHeights) (n : Nat) : (r.grow n).lines.sum = r.lines.sum + n * r.estimate := by
  rw [lines_grow, List.sum_append, List.sum_replicate_nat]

theorem size_grow (r : RowHeights) (n : Nat) : (r.grow n).size = r.size + n := by
  rw [← length_lines, lines_grow, List.length_append, List.length_replicate, length_lines]

theorem height_grow (n : Nat) {index : Nat} (h : index < r.size) : (r.grow n).height index = r.height index := by
  induction n generalizing r with
  | zero => rfl
  | succ n ih =>
    have h' : index < r.rows.size := h
    rw [grow, ih (by rw [size, Array.size_push]; exact Nat.lt_succ_of_lt h)]
    simp only [height, Array.getElem?_push_lt h', Array.getElem?_eq_getElem h']

theorem isMeasured_grow (r : RowHeights) (n index : Nat) : (r.grow n).isMeasured index = r.isMeasured index := by
  induction n generalizing r with
  | zero => rfl
  | succ n ih =>
    rw [grow, ih]
    simp only [isMeasured, Array.getElem?_push]
    split
    · rename_i he
      rw [he, Array.getElem?_eq_none (Nat.le_refl _)]
      rfl
    · rfl

theorem lt_size_of_isMeasured {index : Nat} (h : r.isMeasured index = true) : index < r.size := by
  by_contra hge
  rw [isMeasured, Array.getElem?_eq_none (Nat.not_lt.1 hge)] at h
  cases h

theorem Sound.grow (h : r.Sound) (n : Nat) : (r.grow n).Sound := by
  induction n generalizing r with
  | zero => exact h
  | succ n ih =>
    have hl : lines { r with rows := r.rows.push ⟨r.estimate, false⟩, tree := r.tree.push r.estimate } =
        r.lines ++ [r.estimate] := by
      simp [lines]
    refine ih ⟨h.estimate, ?_, ?_, ?_⟩
    · rw [hl]
      intro k hk
      rcases List.mem_append.1 hk with hk | hk
      · exact h.positive k hk
      · rw [List.mem_singleton.1 hk]
        exact h.estimate
    · intro row hrow hm
      rw [Array.toList_push] at hrow
      rcases List.mem_append.1 hrow with hrow | hrow
      · exact h.unmeasured row hrow hm
      · rw [List.mem_singleton.1 hrow]
    · rw [hl]
      exact h.tree.push r.estimate

theorem resize_of_le {n : Nat} (h : r.size ≤ n) : r.resize n = r.grow (n - r.size) := by
  rw [resize, if_neg (Nat.not_lt.2 h)]

theorem size_resize (r : RowHeights) (n : Nat) : (r.resize n).size = n := by
  unfold resize
  split
  · rename_i h
    have hmin : (r.rows.take n).size = min n r.rows.size := by simp
    exact hmin.trans (Nat.min_eq_left (Nat.le_of_lt h))
  · rw [size_grow]
    omega

theorem record_of_size_le {index : Nat} (h : r.size ≤ index) (height : Nat) :
    r.record index height = (r, 0) := by
  simp only [record, Array.getElem?_eq_none h]

theorem record_of_lt {index : Nat} (h : index < r.size) (height : Nat) :
    r.record index height =
      ({ r with
          rows := r.rows.setIfInBounds index ⟨max height 1, true⟩
          tree := if ((max height 1 : Nat) : Int) - r.height index = 0 then r.tree
            else r.tree.add index (((max height 1 : Nat) : Int) - r.height index) },
        ((max height 1 : Nat) : Int) - r.height index) := by
  have hr : r.rows[index]? = some r.rows[index] := Array.getElem?_eq_getElem h
  simp only [record, RowHeights.height, hr, Option.map_some, Option.getD_some]
  split
  · rename_i h₀
    rw [h₀]
  · rfl

theorem record_delta {index : Nat} (h : index < r.size) (height : Nat) :
    (r.record index height).2 = ((max height 1 : Nat) : Int) - r.height index := by
  rw [record_of_lt h]

theorem lines_record (r : RowHeights) (index height : Nat) :
    (r.record index height).1.lines = r.lines.set index (max height 1) := by
  rcases Nat.lt_or_ge index r.size with h | h
  · rw [record_of_lt h]
    simp only [lines, Array.toList_setIfInBounds, List.map_set]
  · rw [record_of_size_le h, List.set_eq_of_length_le]
    rw [length_lines]
    exact h

theorem size_record (r : RowHeights) (index height : Nat) : (r.record index height).1.size = r.size := by
  rw [← length_lines, lines_record, List.length_set, length_lines]

theorem estimate_record (r : RowHeights) (index height : Nat) :
    (r.record index height).1.estimate = r.estimate := by
  rcases Nat.lt_or_ge index r.size with h | h
  · rw [record_of_lt h]
  · rw [record_of_size_le h]

theorem Sound.record (h : r.Sound) (index height : Nat) : (r.record index height).1.Sound := by
  rcases Nat.lt_or_ge index r.size with hlt | hge
  · have hl : index < r.lines.length := by rwa [length_lines]
    refine ⟨by rw [estimate_record]; exact h.estimate, ?_, ?_, ?_⟩
    · rw [lines_record]
      intro n hn
      rcases List.mem_or_eq_of_mem_set hn with hn | rfl
      · exact h.positive n hn
      · exact Nat.le_max_right _ _
    · rw [record_of_lt hlt]
      intro row hrow hm
      rw [Array.toList_setIfInBounds] at hrow
      rcases List.mem_or_eq_of_mem_set hrow with hrow | rfl
      · exact h.unmeasured row hrow hm
      · cases hm
    · rw [lines_record, record_of_lt hlt, ← getElem_lines hl]
      dsimp only
      split
      · rename_i h₀
        have he : max height 1 = r.lines[index] := by omega
        rw [he, List.set_getElem_self]
        exact h.tree
      · exact h.tree.add hl _
  · rw [record_of_size_le hge]
    exact h

theorem height_record {index : Nat} (h : index < r.size) (height i : Nat) :
    (r.record index height).1.height i = if i = index then max height 1 else r.height i := by
  rw [record_of_lt h]
  simp only [RowHeights.height, Array.getElem?_setIfInBounds]
  by_cases hi : i = index
  · subst hi
    have h' : i < r.rows.size := h
    simp only [↓reduceIte, h', Option.map_some, Option.getD_some]
  · rw [if_neg (Ne.symm hi), if_neg hi]

theorem height_record_of_ne (r : RowHeights) {index i : Nat} (height : Nat) (hi : i ≠ index) :
    (r.record index height).1.height i = r.height i := by
  rcases Nat.lt_or_ge index r.size with h | h
  · rw [height_record h, if_neg hi]
  · rw [record_of_size_le h]

theorem isMeasured_record_self {index : Nat} (h : index < r.size) (height : Nat) :
    (r.record index height).1.isMeasured index = true := by
  have h' : index < r.rows.size := h
  rw [record_of_lt h]
  simp only [isMeasured, Array.getElem?_setIfInBounds_self_of_lt h', Option.map_some, Option.getD_some]

theorem top_record {index : Nat} (h : index < r.size) (height i : Nat) :
    (r.record index height).1.top i + (if index < i then r.height index else 0) =
      r.top i + (if index < i then max height 1 else 0) := by
  have hl : index < r.lines.length := by rwa [length_lines]
  have hs := sum_take_drop_set hl (max height 1) (d := 0) (i := i)
  simp only [List.drop_zero, Nat.zero_le, true_and, getElem_lines hl] at hs
  rw [top, lines_record]
  exact hs

theorem isMeasured_record (r : RowHeights) {index i : Nat} (height : Nat) (hi : i ≠ index) :
    (r.record index height).1.isMeasured i = r.isMeasured i := by
  rcases Nat.lt_or_ge index r.size with h | h
  · rw [record_of_lt h]
    simp only [isMeasured, Array.getElem?_setIfInBounds, if_neg (Ne.symm hi)]
  · rw [record_of_size_le h]

end JobBoard.RowHeights
