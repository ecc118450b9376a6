import JobBoard.Listing.Viewport
import JobBoard.Proofs.RowHeights

/-!
The viewport over a sound record of heights. Its scroll offset never goes beyond the list, and while all lines fit
into a word its window is made of exactly those rows of which a line is on screen.
-/

namespace JobBoard.Viewport

/-- A viewport inside its list. -/
structure Valid (v : Viewport) : Prop where
  rows : v.rows.Sound
  scroll : v.scroll ≤ v.maxScroll

/-- What comes of a viewport without rows being added or dropped. -/
inductive Handled : Viewport → Viewport → Prop
  | refl (v : Viewport) : Handled v v
  | setHeight {v w : Viewport} (height : Nat) : Handled v w → Handled v (w.setHeight height)
  | scrollBy {v w : Viewport} (d : Int) : Handled v w → Handled v (w.scrollBy d).1
  | ensureVisible {v w : Viewport} (index : Nat) : Handled v w → Handled v (w.ensureVisible index).1
  | record {v w : Viewport} (index height : Nat) : Handled v w → Handled v (w.record index height).1

variable {v w : Viewport}

theorem Valid.clamp (h : v.rows.Sound) : v.clamp.Valid where
  rows := h
  scroll := Nat.min_le_right _ _

theorem Valid.start (estimate overscan : Nat) : (start estimate overscan).Valid where
  rows := .start estimate
  scroll := Nat.zero_le _

theorem Valid.reset (h : v.Valid) : v.reset.Valid where
  rows := h.rows.clear
  scroll := Nat.zero_le _

theorem Valid.setCount (h : v.Valid) {n : Nat} (hn : v.rows.size ≤ n) : (v.setCount n).Valid := by
  refine .clamp ?_
  rw [RowHeights.resize_of_le hn]
  exact h.rows.grow _

theorem Valid.setHeight (h : v.Valid) (height : Nat) : (v.setHeight height).Valid := .clamp h.rows

theorem Valid.scrollBy (h : v.Valid) (d : Int) : (v.scrollBy d).1.Valid where
  rows := h.rows
  scroll := by
    change (min ((v.scroll : Int) + d) v.maxScroll).toNat ≤ v.maxScroll
    omega

theorem Valid.ensureVisible (h : v.Valid) (index : Nat) : (v.ensureVisible index).1.Valid := by
  unfold Viewport.ensureVisible
  split
  · exact .clamp h.rows
  · exact h

theorem ensureVisible_height (v : Viewport) (index : Nat) : (v.ensureVisible index).1.height = v.height := by
  unfold ensureVisible
  split <;> rfl

theorem ensureVisible_rows (v : Viewport) (index : Nat) : (v.ensureVisible index).1.rows = v.rows := by
  unfold ensureVisible
  split <;> rfl

theorem ensureVisible_moved (v : Viewport) (index : Nat) :
    (v.ensureVisible index).2 = ((v.ensureVisible index).1.scroll != v.scroll) := by
  unfold ensureVisible
  split
  · rfl
  · exact (bne_self_eq_false v.scroll).symm

theorem clamp_of_le (h : v.scroll ≤ v.maxScroll) : v.clamp = v := by
  rw [Viewport.clamp, Nat.min_eq_left h]

theorem Valid.setHeight_self (h : v.Valid) : v.setHeight v.height = v := clamp_of_le h.scroll

theorem record_rows (v : Viewport) (index height : Nat) :
    (v.record index height).1.rows = (v.rows.record index height).1 := by
  unfold record
  dsimp only
  split <;> rfl

theorem record_height (v : Viewport) (index height : Nat) : (v.record index height).1.height = v.height := by
  unfold record
  dsimp only
  split <;> rfl

theorem record_overscan (v : Viewport) (index height : Nat) :
    (v.record index height).1.overscan = v.overscan := by
  unfold record
  dsimp only
  split <;> rfl

theorem Valid.record (h : v.Valid) (index height : Nat) : (v.record index height).1.Valid := by
  unfold Viewport.record
  dsimp only
  split
  · rename_i h₀
    refine ⟨h.rows.record index height, ?_⟩
    have hs := h.scroll
    simp only [maxScroll, RowHeights.total] at hs ⊢
    rcases Nat.lt_or_ge index v.rows.size with hlt | hge
    · rw [RowHeights.size_record]
      rw [RowHeights.record_delta hlt] at h₀
      rw [RowHeights.record_of_lt hlt]
      simp only [h₀, ↓reduceIte]
      exact hs
    · rw [RowHeights.record_of_size_le hge]
      exact hs
  · exact .clamp (h.rows.record index height)

theorem Handled.kept (h : Handled v w) :
    w.rows.size = v.rows.size ∧ w.rows.estimate = v.rows.estimate ∧ w.overscan = v.overscan := by
  induction h with
  | refl => exact ⟨rfl, rfl, rfl⟩
  | setHeight _ _ ih => exact ih
  | scrollBy _ _ ih => exact ih
  | ensureVisible index _ ih =>
    unfold Viewport.ensureVisible
    split <;> exact ih
  | record index height _ ih =>
    rw [record_rows, RowHeights.size_record, RowHeights.estimate_record, record_overscan]
    exact ih

theorem Handled.size (h : Handled v w) : w.rows.size = v.rows.size := h.kept.1

theorem Handled.estimate (h : Handled v w) : w.rows.estimate = v.rows.estimate := h.kept.2.1

theorem Handled.overscan (h : Handled v w) : w.overscan = v.overscan := h.kept.2.2

theorem Handled.trans {u : Viewport} (h : Handled u v) (h' : Handled v w) : Handled u w := by
  induction h' with
  | refl => exact h
  | setHeight height _ ih => exact .setHeight height ih
  | scrollBy d _ ih => exact .scrollBy d ih
  | ensureVisible index _ ih => exact .ensureVisible index ih
  | record index height _ ih => exact .record index height ih

theorem Handled.valid (h : Handled v w) (hv : v.Valid) : w.Valid := by
  induction h with
  | refl => exact hv
  | setHeight height _ ih => exact ih.setHeight height
  | scrollBy d _ ih => exact ih.scrollBy d
  | ensureVisible index _ ih => exact ih.ensureVisible index
  | record index height _ ih => exact ih.record index height

theorem range_stop_le (v : Viewport) : v.range.2 ≤ v.rows.size := by
  unfold range
  split
  · exact Nat.zero_le _
  · exact Nat.min_le_right _ _

/-- The prepared rows are those of the window and `overscan` more on each side, as far as there are any. -/
theorem range_of_window {w : Window} (hwin : v.window? = some w)
    (ho : w.last + v.overscan + 1 < Word.size64) :
    v.range = (w.first - v.overscan, min (w.last + v.overscan + 1) v.rows.size) := by
  rw [range, hwin]
  dsimp only
  rw [Word.add64_of_lt (Nat.lt_of_succ_lt ho), Word.add64_of_lt ho]

def Prepares (v : Viewport) (index : Nat) : Prop := v.range.1 ≤ index ∧ index < v.range.2

def Shows (v : Viewport) (index : Nat) : Prop :=
  v.rows.top index < v.scroll + v.height ∧ v.scroll < v.rows.top (index + 1)

theorem Valid.maxScroll_eq (h : v.Valid) (hw : v.rows.lines.sum < Word.size32) :
    v.maxScroll = v.rows.lines.sum - v.height := by
  rw [maxScroll, h.rows.total hw]

theorem Valid.first (h : v.Valid) (hw : v.rows.lines.sum < Word.size32) (hh : 0 < v.height)
    (hn : 0 < v.rows.size) :
    ∃ i, v.rows.indexAt v.scroll = some i ∧ i < v.rows.size ∧
      v.rows.top i ≤ v.scroll ∧ v.scroll < v.rows.top (i + 1) := by
  obtain ⟨i, he, hi, ht | ⟨-, ht⟩⟩ := h.rows.indexAt hw hn v.scroll
  · exact ⟨i, he, hi, ht⟩
  · have hs := h.scroll
    rw [h.maxScroll_eq hw] at hs
    have hpos := h.rows.top_lt_sum hn
    omega

theorem Valid.window (h : v.Valid) (hw : v.rows.lines.sum < Word.size32) (hs : v.height < Word.size32)
    (hh : 0 < v.height) (hn : 0 < v.rows.size) :
    ∃ first last, v.window? = some ⟨first, last⟩ ∧ first < v.rows.size ∧ last < v.rows.size ∧
      (v.rows.top first ≤ v.scroll ∧ v.scroll < v.rows.top (first + 1)) ∧
      ∀ i < v.rows.size, first ≤ i ∧ i ≤ last ↔ v.Shows i := by
  obtain ⟨first, hf, hf', hft⟩ := h.first hw hh hn
  have hscroll := h.scroll
  rw [h.maxScroll_eq hw] at hscroll
  have hb : Word.add32 v.scroll (v.height - 1) = v.scroll + (v.height - 1) :=
    Word.add32_of_lt (by omega)
  obtain ⟨last, hl, hl', hlt⟩ := h.rows.indexAt hw hn (v.scroll + (v.height - 1))
  refine ⟨first, last, ?_, hf', hl', hft, ?_⟩
  · rw [window?, if_neg (Nat.ne_of_gt hh), hf, hb, hl]
    rfl
  · intro i hi
    have hil : i ≤ last ↔ v.rows.top i < v.scroll + v.height := by
      rcases hlt with hlt | hlt
      · rw [RowHeights.le_iff_top_le hlt]
        omega
      -- The list ends above the bottom of the screen, so its last row is that of the window.
      · have := h.rows.top_lt_sum hi
        omega
    rw [RowHeights.le_iff_lt_top hft, hil]
    exact And.comm

theorem Valid.scrollShowing_eq (h : v.Valid) (hw : v.rows.lines.sum < Word.size32) (hs : v.height < Word.size32)
    {i : Nat} (hi : i < v.rows.size) :
    v.scrollShowing i = min (max v.scroll (v.rows.top (i + 1) - v.height)) (v.rows.top i) := by
  have htop := h.rows.top_lt_succ hi
  have hle := v.rows.top_le (i + 1)
  have hscroll := h.scroll
  rw [h.maxScroll_eq hw] at hscroll
  have hsucc := RowHeights.top_succ hi
  have hbottom : Word.add32 (v.rows.top i) (v.rows.height i) = v.rows.top (i + 1) := by
    rw [Word.add32_of_lt (by omega), hsucc]
  have hend : Word.add32 v.scroll v.height = v.scroll + v.height := Word.add32_of_lt (by omega)
  rw [scrollShowing, h.rows.offsetOf hw, hbottom, hend]
  split
  · omega
  · split <;> omega

theorem Valid.scrollShowing_le (h : v.Valid) (hw : v.rows.lines.sum < Word.size32) (hs : v.height < Word.size32)
    {i : Nat} (hi : i < v.rows.size) : v.scrollShowing i ≤ v.maxScroll := by
  have htop := h.rows.top_lt_succ hi
  have hle := v.rows.top_le (i + 1)
  have hscroll := h.scroll
  rw [h.maxScroll_eq hw] at hscroll ⊢
  rw [h.scrollShowing_eq hw hs hi]
  omega

theorem Valid.showingCarries (h : v.Valid) (hw : v.rows.lines.sum < Word.size32) (hs : v.height < Word.size32)
    {i : Nat} (hi : i < v.rows.size) : v.showingCarries i = false := by
  have hle := v.rows.top_le (i + 1)
  have hscroll := h.scroll
  rw [h.maxScroll_eq hw] at hscroll
  rw [RowHeights.top_succ hi] at hle
  simp only [Viewport.showingCarries, h.rows.offsetCarries hw, h.rows.offsetOf hw, Word.carries32, Bool.false_or,
    Bool.or_eq_false_iff, Bool.and_eq_false_iff, decide_eq_false_iff_not]
  exact ⟨by omega, .inr (by omega)⟩

theorem Valid.ensureVisible_eq (h : v.Valid) (hw : v.rows.lines.sum < Word.size32) (hs : v.height < Word.size32)
    {i : Nat} (hi : i < v.rows.size) : v.ensureVisible i = v.movedTo { v with scroll := v.scrollShowing i } := by
  rw [Viewport.ensureVisible, if_pos hi, h.showingCarries hw hs hi, Bool.or_false, clamp_of_le]
  exact h.scrollShowing_le hw hs hi

theorem Valid.shows_ensureVisible (h : v.Valid) (hw : v.rows.lines.sum < Word.size32)
    (hs : v.height < Word.size32) (hh : 0 < v.height) {i : Nat} (hi : i < v.rows.size) :
    (v.ensureVisible i).1.Shows i := by
  have htop := h.rows.top_lt_succ hi
  rw [h.ensureVisible_eq hw hs hi]
  change v.rows.top i < v.scrollShowing i + v.height ∧ v.scrollShowing i < v.rows.top (i + 1)
  rw [h.scrollShowing_eq hw hs hi]
  omega

end JobBoard.Viewport
