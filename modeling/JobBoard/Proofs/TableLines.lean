import JobBoard.Proofs.HeightTree
import JobBoard.Screen.Table

/-!
The lines of a table. Rows of one or two lines fill the screen from the first drawn row on, one below the other, and
the first drawn row is the first one of all as long as the selected row fits below it.
-/

namespace JobBoard.Table

/-- The row that has a line, among rows of the given heights one below the other. -/
def rowAt : List Nat → Nat → Option Nat
  | [], _ => none
  | h :: hs, line => if line < h then some 0 else (rowAt hs (line - h)).map (· + 1)

def visible (limit : Nat) : List Nat → List Nat
  | [] => []
  | h :: hs => if limit = 0 then [] else min h limit :: visible (limit - h) hs

def rowDrawnAt (limit : Nat) (heights : List Nat) (selected : Option Nat) (line : Nat) : Option Nat :=
  ((placed limit heights selected).find? fun p => p.2.1 ≤ line && line < p.2.1 + p.2.2).map Prod.fst

variable {limit : Nat} {hs : List Nat}

theorem excess_cons (limit h : Nat) (hs : List Nat) :
    excess limit (h :: hs) = if (h :: hs).sum ≤ limit then 0 else excess limit hs + 1 := rfl

theorem drawn_eq (limit : Nat) (heights : List Nat) (selected : Option Nat) : drawn limit heights selected =
    if ((heights.take (whole limit heights selected).2).drop (whole limit heights selected).1).sum < limit &&
        (whole limit heights selected).2 < heights.length then
      ((whole limit heights selected).1, (whole limit heights selected).2 + 1)
    else whole limit heights selected := rfl

theorem rowAt_spec (hs : List Nat) (line : Nat) :
    (∃ k, rowAt hs line = some k ∧ k < hs.length ∧ (hs.take k).sum ≤ line ∧ line < (hs.take (k + 1)).sum) ∨
      rowAt hs line = none ∧ hs.sum ≤ line := by
  induction hs generalizing line with
  | nil => exact .inr ⟨rfl, Nat.zero_le _⟩
  | cons h hs ih =>
    rw [rowAt]
    split
    · exact .inl ⟨0, rfl, by simp, by simp, by simpa⟩
    · rcases ih (line - h) with ⟨k, hk, hlt, hle, hgt⟩ | ⟨hn, hle⟩
      · refine .inl ⟨k + 1, by rw [hk]; rfl, by simpa using hlt, ?_, ?_⟩
        · simp only [List.take_succ_cons, List.sum_cons]
          omega
        · simp only [List.take_succ_cons, List.sum_cons] at hgt ⊢
          omega
      · refine .inr ⟨by rw [hn]; rfl, ?_⟩
        rw [List.sum_cons]
        omega

theorem rowAt_eq_some_iff {line k : Nat} : rowAt hs line = some k ↔
    k < hs.length ∧ (hs.take k).sum ≤ line ∧ line < (hs.take (k + 1)).sum := by
  rcases rowAt_spec hs line with ⟨i, hi, hlen, hle, hgt⟩ | ⟨hn, hle⟩
  · rw [hi, Option.some.injEq]
    constructor
    · rintro rfl
      exact ⟨hlen, hle, hgt⟩
    · rintro ⟨-, hle', hgt'⟩
      rcases Nat.lt_trichotomy i k with hlt | he | hlt
      · have := sum_take_mono hs (show i + 1 ≤ k from hlt)
        omega
      · exact he
      · have := sum_take_mono hs (show k + 1 ≤ i from hlt)
        omega
  · rw [hn]
    constructor
    · intro h
      cases h
    · rintro ⟨-, -, hgt⟩
      have := sum_take_le hs (k + 1)
      omega

theorem find_placeFrom {line : Nat} (hline : line < limit) (index top : Nat) (htop : top ≤ line) (hs : List Nat) :
    ((placeFrom limit index top hs).find? fun p => p.2.1 ≤ line && line < p.2.1 + p.2.2).map Prod.fst =
      (rowAt hs (line - top)).map (index + ·) := by
  induction hs generalizing index top with
  | nil => rfl
  | cons h hs ih =>
    rw [placeFrom, List.find?_cons, rowAt]
    by_cases hlt : line - top < h
    · have hin : (decide (top ≤ line) && decide (line < top + min h (limit - top))) = true := by
        simp only [Bool.and_eq_true, decide_eq_true_eq]
        omega
      simp only [hin, hlt, ↓reduceIte]
      rfl
    · have hout : (decide (top ≤ line) && decide (line < top + min h (limit - top))) = false := by
        simp only [Bool.and_eq_false_iff, decide_eq_false_iff_not]
        omega
      simp only [hout, hlt, ↓reduceIte]
      rw [ih (index + 1) (top + h) (by omega), Nat.sub_sub, Option.map_map]
      congr 1
      funext k
      exact Nat.add_right_comm index 1 k

theorem sum_take_fitting (limit : Nat) (hs : List Nat) : (hs.take (fitting limit hs)).sum ≤ limit := by
  induction hs generalizing limit with
  | nil => exact Nat.zero_le _
  | cons h hs ih =>
    rw [fitting]
    split
    · have := ih (limit - h)
      rw [List.take_succ_cons, List.sum_cons]
      omega
    · exact Nat.zero_le _

theorem lt_sum_take_fitting (h : fitting limit hs < hs.length) : limit < (hs.take (fitting limit hs + 1)).sum := by
  induction hs generalizing limit with
  | nil => exact absurd h (Nat.not_lt_zero _)
  | cons x hs ih =>
    rw [fitting] at h ⊢
    split at h
    · rename_i hle
      rw [if_pos hle]
      have := ih (Nat.lt_of_succ_lt_succ h)
      rw [List.take_succ_cons, List.sum_cons]
      omega
    · rename_i hgt
      rw [if_neg hgt, List.take_succ_cons, List.sum_cons]
      omega

theorem lt_fitting_iff {i : Nat} (hi : i < hs.length) : i < fitting limit hs ↔ (hs.take (i + 1)).sum ≤ limit := by
  constructor
  · intro h
    exact Nat.le_trans (sum_take_mono hs h) (sum_take_fitting limit hs)
  · intro h
    rcases Nat.lt_or_ge i (fitting limit hs) with hlt | hge
    · exact hlt
    · have hnext : limit < (hs.take (fitting limit hs + 1)).sum := lt_sum_take_fitting (by omega)
      have hmono : (hs.take (fitting limit hs + 1)).sum ≤ (hs.take (i + 1)).sum :=
        sum_take_mono hs (Nat.succ_le_succ hge)
      omega

theorem excess_le (limit : Nat) (hs : List Nat) : excess limit hs ≤ hs.length := by
  induction hs with
  | nil => exact Nat.le_refl _
  | cons h hs ih =>
    rw [excess_cons]
    split
    · exact Nat.zero_le _
    · exact Nat.succ_le_succ ih

theorem sum_drop_excess (limit : Nat) (hs : List Nat) : (hs.drop (excess limit hs)).sum ≤ limit := by
  induction hs with
  | nil => exact Nat.zero_le _
  | cons h hs ih =>
    rw [excess_cons]
    split
    · rename_i hle
      exact hle
    · exact ih

theorem le_sum_drop_excess (hb : ∀ h ∈ hs, h ≤ 2) (hsum : limit < hs.sum) :
    limit ≤ (hs.drop (excess limit hs)).sum + 1 := by
  induction hs with
  | nil => exact absurd hsum (Nat.not_lt_zero _)
  | cons h hs ih =>
    have hh := hb h List.mem_cons_self
    rw [excess_cons, if_neg (Nat.not_le.2 hsum), List.drop_succ_cons]
    rw [List.sum_cons] at hsum
    by_cases hlt : limit < hs.sum
    · exact ih (fun x hx => hb x (List.mem_cons_of_mem h hx)) hlt
    · cases hs with
      | nil =>
        simp only [List.sum_nil, excess, List.drop_nil] at hsum ⊢
        omega
      | cons x hs =>
        rw [excess_cons, if_pos (Nat.not_lt.1 hlt), List.drop_zero]
        omega

theorem whole_fills (limit : Nat) (hb : ∀ h ∈ hs, 0 < h ∧ h ≤ 2) {selected : Option Nat}
    (hsel : ∀ i, selected = some i → i < hs.length) (hlt : (whole limit hs selected).2 < hs.length) :
    limit ≤ ((hs.take ((whole limit hs selected).2 + 1)).drop (whole limit hs selected).1).sum := by
  unfold whole at hlt ⊢
  dsimp only at hlt ⊢
  split at hlt
  · exact Nat.le_of_lt (lt_sum_take_fitting hlt)
  · rename_i i
    split at hlt
    · rename_i hi
      rw [if_pos hi]
      exact Nat.le_of_lt (lt_sum_take_fitting hlt)
    · rename_i hi
      rw [if_neg hi]
      dsimp only at hlt ⊢
      have hi' := hsel i rfl
      rw [lt_fitting_iff hi', Nat.not_le] at hi
      have hle := excess_le limit (hs.take (i + 1))
      rw [List.length_take] at hle
      have hleft := le_sum_drop_excess (fun h hh => (hb h (List.mem_of_mem_take hh)).2) hi
      have hnext := (hb hs[i + 1] (List.getElem_mem hlt)).1
      rw [← List.take_append_getElem hlt, List.drop_append_of_le_length (by rw [List.length_take]; exact hle),
        List.sum_append, List.sum_singleton]
      omega

theorem drawn_fills (limit : Nat) (hb : ∀ h ∈ hs, 0 < h ∧ h ≤ 2) {selected : Option Nat}
    (hsel : ∀ i, selected = some i → i < hs.length) :
    (drawn limit hs selected).1 = (whole limit hs selected).1 ∧
      (hs.length ≤ (drawn limit hs selected).2 ∨
        limit ≤ ((hs.take (drawn limit hs selected).2).drop (drawn limit hs selected).1).sum) := by
  have hnext := whole_fills limit hb hsel
  rw [drawn_eq]
  split
  · rename_i h
    simp only [Bool.and_eq_true, decide_eq_true_eq] at h
    exact ⟨rfl, .inr (hnext h.2)⟩
  · rename_i h
    simp only [Bool.and_eq_true, decide_eq_true_eq] at h
    refine ⟨rfl, ?_⟩
    omega

theorem rowAt_take {n line : Nat} (h : hs.length ≤ n ∨ line < (hs.take n).sum) :
    rowAt (hs.take n) line = rowAt hs line := by
  induction hs generalizing n line with
  | nil => rw [List.take_nil]
  | cons x hs ih =>
    cases n with
    | zero =>
      rcases h with h | h
      · exact absurd h (Nat.not_succ_le_zero _)
      · exact absurd h (Nat.not_lt_zero _)
    | succ n =>
      rw [List.take_succ_cons, rowAt, rowAt]
      split
      · rfl
      · rw [ih]
        rw [List.take_succ_cons, List.sum_cons, List.length_cons] at h
        omega

/-- Every line of the screen has the row that comes there when rows are drawn from the first one on. -/
theorem rowDrawnAt_eq (hb : ∀ h ∈ hs, 0 < h ∧ h ≤ 2) {selected : Option Nat}
    (hsel : ∀ i, selected = some i → i < hs.length) {line : Nat} (hline : line < limit) :
    rowDrawnAt limit hs selected line =
      (rowAt (hs.drop (whole limit hs selected).1) line).map ((whole limit hs selected).1 + ·) := by
  obtain ⟨hfirst, hfill⟩ := drawn_fills limit hb hsel
  unfold rowDrawnAt placed
  dsimp only
  rw [find_placeFrom hline _ 0 (Nat.zero_le _), hfirst, Nat.sub_zero, List.drop_take, rowAt_take]
  rw [List.length_drop, ← List.drop_take, ← hfirst]
  omega

theorem whole_first {selected : Option Nat} (hsel : ∀ i, selected = some i → i < hs.length) :
    (whole limit hs selected).1 = 0 ↔ ∀ i, selected = some i → (hs.take (i + 1)).sum ≤ limit := by
  cases selected with
  | none =>
    constructor
    · intro _ i hi
      cases hi
    · intro _
      rfl
  | some i =>
    have hi := hsel i rfl
    have hfit : i < fitting limit hs ↔ (hs.take (i + 1)).sum ≤ limit := lt_fitting_iff hi
    simp only [whole, Option.some.injEq, forall_eq']
    rw [← hfit]
    split
    · rename_i h
      exact iff_of_true rfl h
    · rename_i h
      rw [hfit] at h
      constructor
      · intro he
        have := sum_drop_excess limit (hs.take (i + 1))
        rw [show excess limit (hs.take (i + 1)) = 0 from he, List.drop_zero] at this
        exact absurd this h
      · intro hle
        exact absurd (hfit.1 hle) h

theorem rowAt_visible {line : Nat} (h : line < limit) : rowAt (visible limit hs) line = rowAt hs line := by
  induction hs generalizing limit line with
  | nil => rfl
  | cons x hs ih =>
    rw [visible, if_neg (Nat.ne_of_gt (Nat.zero_lt_of_lt h)), rowAt, rowAt]
    by_cases hx : line < x
    · rw [if_pos hx, if_pos (by omega)]
    · rw [if_neg hx, if_neg (by omega), Nat.min_eq_left (by omega), ih (by omega)]

theorem visible_take {n : Nat} (h : hs.length ≤ n ∨ limit ≤ (hs.take n).sum) :
    visible limit (hs.take n) = visible limit hs := by
  induction hs generalizing n limit with
  | nil => rw [List.take_nil]
  | cons x hs ih =>
    cases n with
    | zero =>
      rcases h with h | h
      · exact absurd h (Nat.not_succ_le_zero _)
      · rw [Nat.le_zero.1 h]
        rfl
    | succ n =>
      rw [List.take_succ_cons, visible, visible, ih]
      rw [List.take_succ_cons, List.sum_cons, List.length_cons] at h
      omega

theorem min_eq_of_rowAt {x y : Nat} {xs ys : List Nat}
    (h : ∀ line < limit, rowAt (x :: xs) line = rowAt (y :: ys) line) : min x limit = min y limit := by
  by_contra hne
  have hrow := h (min x y) (by omega)
  rw [rowAt, rowAt] at hrow
  rcases Nat.lt_or_gt_of_ne (show x ≠ y by omega) with hlt | hgt
  · rw [if_neg (by omega), if_pos (by omega)] at hrow
    cases hr : rowAt xs (min x y - x) <;> rw [hr] at hrow <;> cases hrow
  · rw [if_pos (by omega), if_neg (by omega)] at hrow
    cases hr : rowAt ys (min x y - y) <;> rw [hr] at hrow <;> cases hrow

theorem rowAt_tail {x : Nat} {xs ys : List Nat} (h : ∀ line < limit, rowAt (x :: xs) line = rowAt (x :: ys) line) :
    ∀ line < limit - x, rowAt xs line = rowAt ys line := by
  intro line hline
  have hrow := h (x + line) (by omega)
  rw [rowAt, rowAt, if_neg (by omega), if_neg (by omega), Nat.add_sub_cancel_left] at hrow
  exact Option.map_injective (fun i j hij => Nat.succ.inj hij) hrow

theorem visible_eq_of_rowAt {xs ys : List Nat} (hx : ∀ h ∈ xs, 0 < h) (hy : ∀ h ∈ ys, 0 < h)
    (h : ∀ line < limit, rowAt xs line = rowAt ys line) : visible limit xs = visible limit ys := by
  induction xs generalizing limit ys with
  | nil =>
    cases ys with
    | nil => rfl
    | cons y ys =>
      rw [visible, visible]
      split
      · rfl
      · have := h 0 (by omega)
        rw [rowAt, rowAt, if_pos (hy y List.mem_cons_self)] at this
        cases this
  | cons x xs ih =>
    have hx₀ := hx x List.mem_cons_self
    cases ys with
    | nil =>
      rw [visible, visible]
      split
      · rfl
      · have := h 0 (by omega)
        rw [rowAt, rowAt, if_pos hx₀] at this
        cases this
    | cons y ys =>
      have hy₀ := hy y List.mem_cons_self
      rw [visible, visible]
      split
      · rfl
      · have hmin := min_eq_of_rowAt h
        by_cases hle : limit ≤ x
        · rw [hmin, Nat.sub_eq_zero_of_le hle, Nat.sub_eq_zero_of_le (show limit ≤ y by omega)]
          congr 1
          cases xs <;> cases ys <;> rfl
        · obtain rfl : x = y := by omega
          congr 1
          exact ih (fun z hz => hx z (List.mem_cons_of_mem x hz)) (fun z hz => hy z (List.mem_cons_of_mem x hz))
            (rowAt_tail h)

/-- Lines have the rows that they have in another table, drawn from a later row on, only if that row is its first one
and rows of the same heights are on screen. -/
theorem rowAt_drop_iff {xs ys : List Nat} (hx : ∀ h ∈ xs, 0 < h) (hy : ∀ h ∈ ys, 0 < h) (hne : xs ≠ [])
    (hl : 0 < limit) (first : Nat) :
    (∀ line < limit, rowAt xs line = (rowAt (ys.drop first) line).map (first + ·)) ↔
      first = 0 ∧ visible limit xs = visible limit ys := by
  constructor
  · intro h
    have hzero : first = 0 := by
      have h₀ := h 0 hl
      obtain ⟨x, xs, rfl⟩ := List.exists_cons_of_ne_nil hne
      rw [rowAt, if_pos (hx x List.mem_cons_self)] at h₀
      cases hr : rowAt (ys.drop first) 0 with
      | none =>
        rw [hr] at h₀
        cases h₀
      | some k =>
        rw [hr] at h₀
        have he : 0 = first + k := Option.some.inj h₀
        omega
    subst hzero
    refine ⟨rfl, ?_⟩
    apply visible_eq_of_rowAt hx hy
    intro line hline
    simpa using h line hline
  · rintro ⟨rfl, he⟩ line hline
    have hrow : rowAt xs line = rowAt ys line := by
      rw [← rowAt_visible hline, he, rowAt_visible hline]
    simp [hrow]

theorem excess_le_iff {i : Nat} (hi : i < hs.length) : excess limit (hs.take (i + 1)) ≤ i ↔ hs[i] ≤ limit := by
  induction hs generalizing i with
  | nil => exact absurd hi (Nat.not_lt_zero i)
  | cons h hs ih =>
    rw [List.take_succ_cons, excess_cons]
    cases i with
    | zero =>
      simp only [List.take_zero, List.sum_singleton, List.getElem_cons_zero, excess]
      split <;> omega
    | succ i =>
      have hi' := Nat.lt_of_succ_lt_succ hi
      rw [List.getElem_cons_succ]
      split
      · rename_i hle
        rw [List.sum_cons, sum_take_succ hi'] at hle
        constructor <;> omega
      · rw [Nat.add_le_add_iff_right]
        exact ih hi'

theorem rowAt_sum_take {i : Nat} (hi : i < hs.length) (hpos : 0 < hs[i]) : rowAt hs (hs.take i).sum = some i := by
  refine rowAt_eq_some_iff.2 ⟨hi, Nat.le_refl _, ?_⟩
  rw [sum_take_succ hi]
  exact Nat.lt_add_of_pos_right hpos

theorem sum_whole_le (limit : Nat) {i : Nat} (hi : i < hs.length) :
    ((hs.take (i + 1)).drop (whole limit hs (some i)).1).sum ≤ limit := by
  simp only [whole]
  split
  · rename_i h
    exact (lt_fitting_iff hi).1 h
  · exact sum_drop_excess limit _

theorem selected_drawn_iff (hb : ∀ h ∈ hs, 0 < h ∧ h ≤ 2) {i : Nat} (hi : i < hs.length) :
    (∃ line < limit, rowDrawnAt limit hs (some i) line = some i) ↔ hs[i] ≤ limit := by
  have hsel : ∀ k, some i = some k → k < hs.length := by
    rintro k ⟨⟩
    exact hi
  have hfirst : (whole limit hs (some i)).1 ≤ i ↔ hs[i] ≤ limit := by
    have hfit : i < fitting limit hs ↔ (hs.take (i + 1)).sum ≤ limit := lt_fitting_iff hi
    simp only [whole]
    split
    · rename_i h
      have := hfit.1 h
      rw [sum_take_succ hi] at this
      exact ⟨fun _ => by omega, fun _ => Nat.zero_le _⟩
    · exact excess_le_iff hi
  rw [← hfirst]
  constructor
  · rintro ⟨line, hline, he⟩
    rw [rowDrawnAt_eq hb hsel hline] at he
    obtain ⟨k, -, hk⟩ := Option.map_eq_some_iff.1 he
    omega
  · intro hle
    have hsum := sum_whole_le limit hi
    revert hle hsum
    generalize hs' : (whole limit hs (some i)).1 = first
    intro hle hsum
    have hlen : i - first < (hs.drop first).length := by
      rw [List.length_drop]
      omega
    have hget : (hs.drop first)[i - first] = hs[i] := by
      rw [List.getElem_drop]
      congr 1
      omega
    have hpos := (hb hs[i] (List.getElem_mem hi)).1
    rw [List.drop_take, show i + 1 - first = i - first + 1 by omega, sum_take_succ hlen, hget] at hsum
    refine ⟨((hs.drop first).take (i - first)).sum, by omega, ?_⟩
    rw [rowDrawnAt_eq hb hsel (by omega), hs', rowAt_sum_take hlen (by rw [hget]; exact hpos), Option.map_some,
      Nat.add_sub_cancel' hle]

end JobBoard.Table
