import JobBoard.Proofs.LowBit
import Mathlib.Algebra.BigOperators.Group.List.Basic

/-!
The height tree against the plain list of heights: every writer keeps each node equal to the sum over the rows it
covers, and every reader gives what the list gives. Sums are words, so the equations hold up to the size of a word.
-/

namespace JobBoard

theorem sum_take_split (hs : List Nat) {d i : Nat} (h : d ≤ i) :
    (hs.take i).sum = (hs.take d).sum + ((hs.take i).drop d).sum := by
  have hd := List.take_append_drop d (hs.take i)
  rw [List.take_take, Nat.min_eq_left h] at hd
  rw [← List.sum_append, hd]

theorem sum_take_succ {hs : List Nat} {i : Nat} (h : i < hs.length) :
    (hs.take (i + 1)).sum = (hs.take i).sum + hs[i] := by
  rw [List.take_add_one, List.sum_append, List.getElem?_eq_getElem h]
  simp

theorem sum_take_mono (hs : List Nat) {i j : Nat} (h : i ≤ j) : (hs.take i).sum ≤ (hs.take j).sum := by
  rw [sum_take_split hs h]
  exact Nat.le_add_right _ _

theorem sum_take_le (hs : List Nat) (i : Nat) : (hs.take i).sum ≤ hs.sum := by
  conv_rhs => rw [← List.take_append_drop i hs, List.sum_append]
  exact Nat.le_add_right _ _

theorem sum_set {hs : List Nat} {j : Nat} (h : j < hs.length) (x : Nat) :
    (hs.set j x).sum + hs[j] = hs.sum + x := by
  induction hs generalizing j with
  | nil => exact absurd h (Nat.not_lt_zero j)
  | cons y hs ih =>
    cases j with
    | zero =>
      simp only [List.set_cons_zero, List.sum_cons, List.getElem_cons_zero]
      omega
    | succ j =>
      have := ih (Nat.lt_of_succ_lt_succ h)
      simp only [List.set_cons_succ, List.sum_cons, List.getElem_cons_succ]
      omega

theorem sum_take_drop_set {hs : List Nat} {j : Nat} (hj : j < hs.length) (x : Nat) {d i : Nat} :
    (((hs.set j x).take i).drop d).sum + (if d ≤ j ∧ j < i then hs[j] else 0) =
      ((hs.take i).drop d).sum + (if d ≤ j ∧ j < i then x else 0) := by
  rw [List.take_set, List.drop_set]
  by_cases hd : j < d
  · rw [if_pos hd, if_neg (by omega), if_neg (by omega)]
  · rw [if_neg hd]
    by_cases hi : j < i
    · have hlt : j - d < ((hs.take i).drop d).length := by
        simp only [List.length_drop, List.length_take]
        omega
      have he : ((hs.take i).drop d)[j - d] = hs[j] := by
        rw [List.getElem_drop, List.getElem_take]
        congr 1
        omega
      rw [if_pos ⟨by omega, hi⟩, if_pos ⟨by omega, hi⟩, ← he]
      exact sum_set hlt x
    · rw [if_neg (by omega), if_neg (by omega), List.set_eq_of_length_le]
      simp only [List.length_drop, List.length_take]
      omega

namespace HeightTree

/-- Every node holds the sum of the heights that it covers. -/
structure Sums (t : HeightTree) (hs : List Nat) : Prop where
  size : t.size = hs.length
  node : ∀ i, 0 < i → i ≤ hs.length →
    t.node i = ((hs.take i).drop (dropLowBit i)).sum % Word.size32

variable {t : HeightTree} {hs : List Nat}

theorem Sums.nil : Sums {} [] where
  size := rfl
  node := by
    intro i h₀ h
    exact absurd (Nat.lt_of_lt_of_le h₀ h) (Nat.lt_irrefl 0)

theorem Sums.sumFrom (h : t.Sums hs) {count : Nat} (hc : count ≤ hs.length) :
    t.sumFrom count = (hs.take count).sum % Word.size32 := by
  induction count using Nat.strong_induction_on with
  | _ count ih =>
    rw [HeightTree.sumFrom]
    split
    · rename_i h₀
      subst h₀
      rfl
    · rename_i h₀
      have hlt := dropLowBit_lt (Nat.pos_of_ne_zero h₀)
      rw [ih _ hlt (by omega), h.node count (by omega) hc, sum_take_split hs (Nat.le_of_lt hlt), Word.add32,
        ← Nat.add_mod]

theorem Sums.sumFirst (h : t.Sums hs) (count : Nat) :
    t.sumFirst count = (hs.take count).sum % Word.size32 := by
  rw [HeightTree.sumFirst, h.size, h.sumFrom (Nat.min_le_right _ _)]
  rcases Nat.le_total count hs.length with hc | hc
  · rw [Nat.min_eq_left hc]
  · rw [Nat.min_eq_right hc, List.take_of_length_le hc, List.take_of_length_le (Nat.le_refl _)]

/-- Every node holds the whole sum of the heights that it covers, and not only what a word leaves of it. -/
def Whole (t : HeightTree) (hs : List Nat) : Prop :=
  ∀ i, 0 < i → i ≤ hs.length → t.node i = ((hs.take i).drop (dropLowBit i)).sum

theorem Sums.whole (h : t.Sums hs) (hw : hs.sum < Word.size32) : t.Whole hs := by
  intro i h₀ hi
  have hsplit := sum_take_split hs (Nat.le_of_lt (dropLowBit_lt h₀))
  have hle := sum_take_le hs i
  rw [h.node i h₀ hi]
  exact Nat.mod_eq_of_lt (by omega)

theorem Sums.sumFromCarries_iff (h : t.Sums hs) (hn : t.Whole hs) {count : Nat} (hc : count ≤ hs.length) :
    t.sumFromCarries count = false ↔ (hs.take count).sum < Word.size32 := by
  induction count using Nat.strong_induction_on with
  | _ count ih =>
    rw [sumFromCarries]
    split
    · rename_i h₀
      subst h₀
      exact iff_of_true rfl (Nat.zero_lt_succ _)
    · rename_i h₀
      have hpos := Nat.pos_of_ne_zero h₀
      have hlt := dropLowBit_lt hpos
      have hsplit := sum_take_split hs (Nat.le_of_lt hlt)
      rw [Bool.or_eq_false_iff, ih _ hlt (by omega), Word.carries32, decide_eq_false_iff_not, Nat.not_le,
        h.sumFrom (by omega), hn count hpos hc, hsplit]
      constructor
      · rintro ⟨hfirst, hall⟩
        rwa [Nat.mod_eq_of_lt hfirst] at hall
      · intro hall
        have hfirst : (hs.take (dropLowBit count)).sum < Word.size32 := by omega
        rw [Nat.mod_eq_of_lt hfirst]
        exact ⟨hfirst, hall⟩

theorem Sums.sumFirstCarries_eq_false (h : t.Sums hs) (hw : hs.sum < Word.size32) (count : Nat) :
    t.sumFirstCarries count = false := by
  have hle := sum_take_le hs (min count t.size)
  rw [sumFirstCarries, h.sumFromCarries_iff (h.whole hw) (by rw [← h.size]; exact Nat.min_le_right _ _)]
  omega

theorem node_push (t : HeightTree) (height i : Nat) (h₀ : 0 < i) (h : i ≤ t.size) :
    (t.push height).node i = t.node i := by
  simp only [push, node, Array.getD_eq_getD_getElem?, size] at *
  rw [Array.getElem?_push_lt (by omega), Array.getElem?_eq_getElem (by omega)]

theorem node_push_last (t : HeightTree) (height : Nat) :
    (t.push height).node (t.size + 1) =
      Word.add32 (Word.sub32 (t.sumFirst t.size) (t.sumFirst (dropLowBit (t.size + 1)))) height := by
  simp only [push, node, size, Nat.add_sub_cancel, Array.getD_eq_getD_getElem?, Array.getElem?_push_size,
    Option.getD_some]

theorem Sums.push (h : t.Sums hs) (height : Nat) : (t.push height).Sums (hs ++ [height]) where
  size := by
    rw [List.length_append, List.length_singleton, ← h.size]
    exact Array.size_push _
  node := by
    intro i h₀ hi
    rw [List.length_append, List.length_singleton] at hi
    rcases Nat.lt_or_ge hs.length i with hlt | hle
    · obtain rfl : i = t.size + 1 := by rw [h.size]; omega
      have hd : dropLowBit (t.size + 1) ≤ hs.length := by
        have := dropLowBit_lt h₀
        rw [h.size] at this ⊢
        omega
      have hall : (hs ++ [height]).take (t.size + 1) = hs ++ [height] := by
        rw [h.size]
        exact List.take_of_length_le (by simp)
      have hsplit := sum_take_split hs hd
      rw [List.take_of_length_le (Nat.le_refl _)] at hsplit
      rw [node_push_last, h.sumFirst, h.sumFirst, hall, List.drop_append_of_le_length hd, List.sum_append,
        List.take_of_length_le (Nat.le_of_eq h.size.symm), hsplit]
      simp only [Word.add32, Word.sub32, Word.size32, List.sum_singleton]
      omega
    · rw [node_push t height i h₀ (by rw [h.size]; exact hle), h.node i h₀ hle,
        List.take_append_of_le_length hle]

theorem size_bump (t : HeightTree) (i : Nat) (d : Int) : (t.bump i d).size = t.size := by
  simp only [bump, size, Array.size_modify]

theorem node_bump (t : HeightTree) {i k : Nat} (d : Int) (hi : 0 < i) (h₀ : 0 < k) (h : k ≤ t.size) :
    (t.bump i d).node k = if k = i then Word.shift32 (t.node k) d else t.node k := by
  simp only [bump, node, size, Array.getD_eq_getD_getElem?] at *
  rw [Array.getElem?_modify, Array.getElem?_eq_getElem (by omega)]
  by_cases hk : k = i
  · subst hk
    simp
  · rw [if_neg (by omega), if_neg hk]

theorem size_bumpUp (t : HeightTree) (i : Nat) (d : Int) : (t.bumpUp i d).size = t.size := by
  fun_induction bumpUp t i d with
  | case1 t i h ih => rw [ih, size_bump]
  | case2 => rfl

theorem node_bumpUp (t : HeightTree) {i : Nat} (d : Int) (hi : 0 < i) {k : Nat} (h₀ : 0 < k) (h : k ≤ t.size) :
    (t.bumpUp i d).node k = if Covers k i then Word.shift32 (t.node k) d else t.node k := by
  fun_induction bumpUp t i d with
  | case1 t i hle ih =>
    have hup : i < i + lowBit i := Nat.lt_add_of_pos_right (lowBit_pos hi)
    have hc := covers_iff_above hi k
    rw [ih (by omega) (by rw [size_bump]; exact h), node_bump t d hi h₀ h]
    by_cases hk : k = i
    · have hn : ¬Covers k (i + lowBit i) := by
        intro hcov
        have := hcov.2
        omega
      rw [if_neg hn, if_pos hk, if_pos (hc.2 (.inl hk))]
    · by_cases hcov : Covers k (i + lowBit i)
      · rw [if_pos hcov, if_neg hk, if_pos (hc.2 (.inr hcov))]
      · rw [if_neg hcov, if_neg hk, if_neg (fun hki => (hc.1 hki).elim hk hcov)]
  | case2 t i hgt =>
    rw [if_neg]
    intro hcov
    have := hcov.2
    omega

theorem Sums.add (h : t.Sums hs) {index : Nat} (hi : index < hs.length) (x : Nat) :
    (t.add index ((x : Int) - hs[index])).Sums (hs.set index x) where
  size := by rw [HeightTree.add, size_bumpUp, h.size, List.length_set]
  node := by
    intro i h₀ hle
    rw [List.length_set] at hle
    rw [HeightTree.add, node_bumpUp t _ (Nat.succ_pos index) h₀ (by rw [h.size]; exact hle), h.node i h₀ hle]
    have hs' := sum_take_drop_set hi x (d := dropLowBit i) (i := i)
    by_cases hc : Covers i (index + 1)
    · have hin : dropLowBit i ≤ index ∧ index < i := ⟨by have := hc.1; omega, hc.2⟩
      rw [if_pos hin, if_pos hin] at hs'
      rw [if_pos hc, Word.shift32]
      simp only [Word.size32] at *
      omega
    · have hin : ¬(dropLowBit i ≤ index ∧ index < i) := fun hin => hc ⟨by omega, hin.2⟩
      rw [if_neg hin, if_neg hin] at hs'
      rw [if_neg hc]
      simp only [Nat.add_zero] at hs'
      rw [hs']

theorem Sums.node_middle (h : t.Sums hs) (hw : hs.sum < Word.size32) {q k : Nat}
    (hle : q * 2 ^ (k + 1) + 2 ^ k ≤ hs.length) :
    t.node (q * 2 ^ (k + 1) + 2 ^ k) =
      ((hs.take (q * 2 ^ (k + 1) + 2 ^ k)).drop (q * 2 ^ (k + 1))).sum := by
  have hpos := Nat.two_pow_pos k
  have hsum := sum_take_le hs (q * 2 ^ (k + 1) + 2 ^ k)
  have hsplit := sum_take_split hs (Nat.le_add_right (q * 2 ^ (k + 1)) (2 ^ k))
  rw [h.node _ (by omega) hle, dropLowBit_middle, Nat.mod_eq_of_lt (by omega)]

/-- While all sums fit into words, the way down ends behind the last row that ends at or before an offset. What the
stretch that is left covers is told by `k`, and the sum of what was passed by `remaining`. -/
theorem Sums.descend (h : t.Sums hs) (hw : hs.sum < Word.size32) (offset k q remaining : Nat)
    (hq : q * 2 ^ k ≤ hs.length) (hr : (hs.take (q * 2 ^ k)).sum + remaining = offset)
    (hend : hs.length < q * 2 ^ k + 2 ^ k ∨ offset < (hs.take (q * 2 ^ k + 2 ^ k)).sum) :
    let i := t.descend k (q * 2 ^ k) remaining
    i ≤ hs.length ∧ (hs.take i).sum ≤ offset ∧ (i = hs.length ∨ offset < (hs.take (i + 1)).sum) := by
  induction k generalizing q remaining with
  | zero =>
    simp only [HeightTree.descend, Nat.pow_zero, Nat.mul_one] at *
    refine ⟨hq, by omega, ?_⟩
    rcases hend with hend | hend
    · exact .inl (by omega)
    · exact .inr hend
  | succ k ih =>
    have hdouble : 2 ^ (k + 1) = 2 ^ k + 2 ^ k := by rw [Nat.pow_succ]; omega
    have hleft : q * 2 ^ (k + 1) = (2 * q) * 2 ^ k := by rw [hdouble]; ring
    have hright : q * 2 ^ (k + 1) + 2 ^ k = (2 * q + 1) * 2 ^ k := by rw [hdouble]; ring
    have hpos := Nat.two_pow_pos k
    rw [HeightTree.descend, Nat.one_shiftLeft]
    by_cases hfit : q * 2 ^ (k + 1) + 2 ^ k ≤ t.size ∧ t.node (q * 2 ^ (k + 1) + 2 ^ k) ≤ remaining
    · have hle : q * 2 ^ (k + 1) + 2 ^ k ≤ hs.length := by
        rw [← h.size]
        exact hfit.1
      have hsplit := sum_take_split hs (Nat.le_add_right (q * 2 ^ (k + 1)) (2 ^ k))
      have hnode := h.node_middle hw hle
      have hfit' := hfit.2
      simp only [hfit.1, hfit.2, decide_true, Bool.and_self, ↓reduceIte]
      -- The left half is passed, and the right one is the next stretch.
      rw [hnode] at hfit' ⊢
      rw [hright] at hsplit hle hfit' ⊢
      refine ih (2 * q + 1) _ hle (by omega) ?_
      rw [← hright, Nat.add_assoc, ← hdouble]
      exact hend
    · have hskip : hs.length < q * 2 ^ (k + 1) + 2 ^ k ∨ offset < (hs.take (q * 2 ^ (k + 1) + 2 ^ k)).sum := by
        rcases Nat.lt_or_ge hs.length (q * 2 ^ (k + 1) + 2 ^ k) with hlt | hle
        · exact .inl hlt
        · right
          have hsplit := sum_take_split hs (Nat.le_add_right (q * 2 ^ (k + 1)) (2 ^ k))
          rw [h.size, h.node_middle hw hle] at hfit
          omega
      have hcond : (decide (q * 2 ^ (k + 1) + 2 ^ k ≤ t.size) &&
          decide (t.node (q * 2 ^ (k + 1) + 2 ^ k) ≤ remaining)) = false := by
        rw [← Bool.decide_and, decide_eq_false_iff_not]
        exact hfit
      simp only [hcond, Bool.false_eq_true, ↓reduceIte]
      rw [hleft] at hr hq hskip ⊢
      exact ih (2 * q) remaining hq hr hskip

theorem Sums.rowsBefore (h : t.Sums hs) (hw : hs.sum < Word.size32) (offset : Nat) :
    let i := t.rowsBefore offset
    i ≤ hs.length ∧ (hs.take i).sum ≤ offset ∧ (i = hs.length ∨ offset < (hs.take (i + 1)).sum) := by
  unfold HeightTree.rowsBefore
  split
  · rename_i h₀
    rw [h.size] at h₀
    exact ⟨Nat.zero_le _, Nat.zero_le _, .inl h₀.symm⟩
  · have := h.descend hw offset (Nat.log2 t.size + 1) 0 offset (by simp) (by simp)
      (.inl (by rw [Nat.zero_mul, Nat.zero_add, ← h.size]; exact Nat.lt_log2_self))
    rwa [Nat.zero_mul] at this

end HeightTree

end JobBoard
