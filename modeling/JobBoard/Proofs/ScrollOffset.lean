import JobBoard.Proofs.Measuring
import JobBoard.Proofs.VisibleRows
import Mathlib.Data.Nat.Dist

/-!
The scroll offset of a viewport. Showing a row takes it to the nearest offset at which the row is on screen, and
measuring a row above the screen takes it along with the rows below, so that the picture stays as it is.
-/

namespace JobBoard

/-- Of the numbers from `low` up to `high`, `y` is the nearest one to `x`. -/
structure Nearest (low high x y : Nat) : Prop where
  low_le : low ≤ y
  le_high : y ≤ high
  nearest : ∀ z, low ≤ z → z ≤ high → z ≠ y → Nat.dist x y < Nat.dist x z

theorem nearest_clamped {low high : Nat} (h : low ≤ high) (x : Nat) : Nearest low high x (min (max x low) high) where
  low_le := by omega
  le_high := Nat.min_le_right _ _
  nearest := by
    intro z hlow hhigh hne
    simp only [Nat.dist]
    omega

namespace Viewport

variable {v : Viewport} {estimate : UInt16} {overscan : Nat}

theorem Valid.scrollShowing_again (h : v.Valid) (hw : v.rows.lines.sum < Word.size32) (hs : v.height < Word.size32)
    {i : Nat} (hi : i < v.rows.size) : (v.ensureVisible i).1.scrollShowing i = (v.ensureVisible i).1.scroll := by
  have hshowing := h.scrollShowing_eq hw hs hi
  have hagain := (h.ensureVisible i).scrollShowing_eq (by rwa [ensureVisible_rows]) (by rwa [ensureVisible_height])
    (by rwa [ensureVisible_rows])
  rw [h.ensureVisible_eq hw hs hi] at hagain ⊢
  change _ = min (max (v.scrollShowing i) (v.rows.top (i + 1) - v.height)) (v.rows.top i) at hagain
  change _ = v.scrollShowing i
  rw [hagain]
  omega

theorem Valid.ensureVisible_again (h : v.Valid) (hw : v.rows.lines.sum < Word.size32) (hs : v.height < Word.size32)
    {i : Nat} (hi : i < v.rows.size) :
    (v.ensureVisible i).1.ensureVisible i = ((v.ensureVisible i).1, false) := by
  rw [(h.ensureVisible i).ensureVisible_eq (by rwa [ensureVisible_rows]) (by rwa [ensureVisible_height])
    (by rwa [ensureVisible_rows]), h.scrollShowing_again hw hs hi]
  exact Prod.ext rfl (bne_self_eq_false _)

/-- Whatever has been done to a viewport, as long as all lines of its rows fit into a word: showing a row takes the
scroll offset to the nearest one at which the row is wholly on screen, or to the top of the row if it has more lines
than the screen. The viewport need not be drawn back into its list then, and nothing but the offset changes. What is
reported is whether the offset has moved; and showing the row again moves nothing. There is nothing to be done for a
row that the list does not have. -/
theorem ensureVisible_minimal (h : Reachable estimate overscan v) (hw : v.rows.lines.sum < Word.size32) (i : Nat) :
    (i < v.rows.size →
      let top := v.rows.offsetOf i
      let bottom := top + v.rows.height i
      let w := (v.ensureVisible i).1
      (v.rows.height i ≤ v.height → Nearest (bottom - v.height) top v.scroll w.scroll) ∧
      (v.height < v.rows.height i → w.scroll = top) ∧
      w = { v with scroll := v.scrollShowing i } ∧ v.scrollShowing i ≤ v.maxScroll ∧
      ((v.ensureVisible i).2 = true ↔ w.scroll ≠ v.scroll) ∧ w.ensureVisible i = (w, false)) ∧
    (v.rows.size ≤ i → v.ensureVisible i = (v, false)) := by
  have hk := h.kept
  have hs : v.height < Word.size32 := Nat.lt_trans hk.height (by decide)
  refine ⟨?_, fun hge => if_neg (Nat.not_lt.2 hge)⟩
  intro hi
  have hbottom := hk.valid.bottom hw hi
  have hshowing := hk.valid.scrollShowing_eq hw hs hi
  have hframe : (v.ensureVisible i).1 = { v with scroll := v.scrollShowing i } :=
    congrArg Prod.fst (hk.valid.ensureVisible_eq hw hs hi)
  have hto : (v.ensureVisible i).1.scroll = v.scrollShowing i := congrArg Viewport.scroll hframe
  rw [← hbottom, ← hk.valid.rows.offsetOf hw] at hshowing
  refine ⟨?_, ?_, hframe, hk.valid.scrollShowing_le hw hs hi, ?_, hk.valid.ensureVisible_again hw hs hi⟩
  · intro hle
    rw [hto, hshowing]
    exact nearest_clamped (by omega) v.scroll
  · intro hlt
    rw [hto, hshowing]
    omega
  · rw [ensureVisible_moved, bne_iff_ne]

/-- Five rows, of which the fourth has more lines than the screen, scrolled down by one line. -/
def tallFourth : Viewport :=
  ((((start (1 : UInt16).toNat 0).change (.setCount 5)).change (.setHeight 3)).change (.record 3 5)).change
    (.scrollBy 1)

theorem tallFourth_reachable : Reachable 1 0 tallFourth :=
  .change _ (.change _ (.change _ (.change _ .start)))

theorem ensureVisible_minimal_of_tallFourth :
    tallFourth.rows.lines.sum < Word.size32 ∧ tallFourth.scroll = 1 ∧
      Nearest 0 0 1 (tallFourth.ensureVisible 0).1.scroll ∧ Nearest 6 8 1 (tallFourth.ensureVisible 4).1.scroll ∧
      (tallFourth.ensureVisible 3).1.scroll = 3 ∧ tallFourth.ensureVisible 5 = (tallFourth, false) := by
  have hw : tallFourth.rows.lines.sum < Word.size32 := by decide
  have hn : tallFourth.rows.size = 5 := by decide
  have hs : tallFourth.scroll = 1 := by decide +kernel
  have hmin := ensureVisible_minimal tallFourth_reachable hw
  rw [hn] at hmin
  obtain ⟨hfirst, -⟩ := (hmin 0).1 (by decide)
  obtain ⟨-, hfourth, -⟩ := (hmin 3).1 (by decide)
  obtain ⟨hlast, -⟩ := (hmin 4).1 (by decide)
  have htops : tallFourth.rows.offsetOf 0 = 0 ∧ tallFourth.rows.offsetOf 3 = 3 ∧ tallFourth.rows.offsetOf 4 = 8 := by
    decide +kernel
  have hfirst := hfirst (by decide)
  have hlast := hlast (by decide)
  have hfourth := hfourth (by decide)
  rw [hs, htops.1] at hfirst
  rw [hs, htops.2.2] at hlast
  rw [htops.2.1] at hfourth
  exact ⟨hw, hs, hfirst, hlast, hfourth, (hmin 5).2 (by decide)⟩

theorem Valid.indexAt_record_of_lt (h : v.Valid) (hw : v.rows.lines.sum < Word.size32) {f i x : Nat}
    (hf : v.rows.indexAt v.scroll = some f) (hi : i < f) (hw' : (v.record i x).1.rows.lines.sum < Word.size32) :
    (v.record i x).1.rows.indexAt (v.record i x).1.scroll = some f := by
  have hfs := (h.rows.top_le_of_indexAt hw hf).1
  have his : i < v.rows.size := Nat.lt_trans hi hfs
  have hscroll := h.scroll_record_of_lt hw hf hi hw'
  rw [RowHeights.record_delta his] at hscroll
  have hsound := (h.record i x).rows
  obtain ⟨g, hg, -, hgt⟩ := h.rows.indexAt hw (Nat.zero_lt_of_lt hfs) v.scroll
  obtain rfl : g = f := Option.some.inj (hg.symm.trans hf)
  rcases hgt with ⟨htop, hnext⟩ | ⟨hlast, hend⟩
  · have hg := v.top_record his x g
    have hg' := v.top_record his x (g + 1)
    rw [if_pos hi, if_pos hi] at hg
    rw [if_pos (Nat.lt_succ_of_lt hi), if_pos (Nat.lt_succ_of_lt hi)] at hg'
    exact hsound.indexAt_of_top hw' ⟨by omega, by omega⟩
  -- A screen without lines can be below all rows, and then it stays there.
  · have hsum := v.sum_record his x
    have hsize : (v.record i x).1.rows.size = v.rows.size := by rw [record_rows, RowHeights.size_record]
    rw [hsound.indexAt_of_sum_le hw' (by omega) (by omega), hsize, ← hlast]

/-- Whatever has been done to a viewport, as long as all lines of its rows fit into a word before and after a row is
measured: if the row is above the one at the scroll offset, that one stays there with as many lines above the offset
as before, the offset being moved by what the row has grown or shrunk and by nothing else. Any other row leaves the
offset where it is as far as the list goes, so that it moves only if the list becomes shorter and no longer reaches
the lower end of the screen. In both cases the row is measured, and nothing is noted of the others. -/
theorem record_anchored (h : Reachable estimate overscan v) (hw : v.rows.lines.sum < Word.size32) {first : Nat}
    (hf : v.rows.indexAt v.scroll = some first) (index : Nat) (height : UInt16)
    (hw' : (v.record index height.toNat).1.rows.lines.sum < Word.size32) :
    let w := (v.record index height.toNat).1
    (index < first → w.rows.indexAt w.scroll = some first ∧
      (w.scroll : Int) - w.rows.offsetOf first = v.scroll - v.rows.offsetOf first ∧
      (w.scroll : Int) = v.scroll + (v.rows.record index height.toNat).2) ∧
    (first ≤ index → w.scroll = min v.scroll w.maxScroll ∧
      (w.scroll ≠ v.scroll → w.rows.total < v.rows.total ∧ w.rows.total < v.scroll + v.height)) ∧
    (∀ k, k ≠ index → w.rows.height k = v.rows.height k ∧ w.rows.isMeasured k = v.rows.isMeasured k) ∧
    (index < v.rows.size → w.rows.height index = max height.toNat 1 ∧ w.rows.isMeasured index = true) := by
  have hv := h.kept.valid
  have hsound := (hv.record index height.toNat).rows
  refine ⟨?_, ?_, ?_, ?_⟩
  · intro hlt
    have hscroll := hv.scroll_record_of_lt hw hf hlt hw'
    have his : index < v.rows.size := Nat.lt_trans hlt (hv.rows.top_le_of_indexAt hw hf).1
    have htop := v.top_record his height.toNat first
    rw [if_pos hlt, if_pos hlt] at htop
    refine ⟨hv.indexAt_record_of_lt hw hf hlt hw', ?_, hscroll⟩
    rw [hscroll, RowHeights.record_delta his, hsound.offsetOf hw', hv.rows.offsetOf hw]
    omega
  · intro hle
    have hscroll := hv.scroll_record_of_le (x := height.toNat) hf hle
    refine ⟨hscroll, ?_⟩
    intro hmoved
    have hmax := (hv.record index height.toNat).maxScroll_eq hw'
    rw [record_height] at hmax
    have hbound := hv.scroll
    rw [hv.maxScroll_eq hw] at hbound
    rw [hmax] at hscroll
    rw [hsound.total hw', hv.rows.total hw]
    omega
  · intro k hk
    rw [record_rows]
    exact ⟨RowHeights.height_record_of_ne _ _ hk, RowHeights.isMeasured_record _ _ hk⟩
  · intro hlt
    rw [record_rows, RowHeights.height_record hlt, if_pos rfl, RowHeights.isMeasured_record_self hlt]
    exact ⟨rfl, rfl⟩

/-- Six rows of two lines but for one, scrolled so that the fourth is cut at the top of the screen. -/
def cutFourth : Viewport :=
  (((((start (2 : UInt16).toNat 1).change (.setCount 6)).change (.setHeight 3)).change (.record 1 5)).change
    (.scrollTo 3)).change (.scrollBy 1)

theorem cutFourth_reachable : Reachable 2 1 cutFourth :=
  .change _ (.change _ (.change _ (.change _ (.change _ .start))))

theorem record_anchored_of_cutFourth :
    cutFourth.rows.lines.sum < Word.size32 ∧ cutFourth.rows.indexAt cutFourth.scroll = some 3 ∧
      cutFourth.scroll = 10 ∧
      (cutFourth.record 1 (1 : UInt16).toNat).1.rows.indexAt (cutFourth.record 1 (1 : UInt16).toNat).1.scroll = some 3 ∧
      ((cutFourth.record 1 (1 : UInt16).toNat).1.scroll : Int) = 6 ∧
      (cutFourth.record 5 (1 : UInt16).toNat).1.scroll = 10 := by
  have hw : cutFourth.rows.lines.sum < Word.size32 := by decide
  have hf : cutFourth.rows.indexAt cutFourth.scroll = some 3 := by decide +kernel
  have hs : cutFourth.scroll = 10 := by decide +kernel
  obtain ⟨habove, -⟩ := record_anchored cutFourth_reachable hw hf 1 1 (by decide +kernel)
  obtain ⟨-, hbelow, -⟩ := record_anchored cutFourth_reachable hw hf 5 1 (by decide +kernel)
  obtain ⟨hsame, -, hmoved⟩ := habove (by decide)
  refine ⟨hw, hf, hs, hsame, hmoved.trans (by decide +kernel), (hbelow (by decide)).1.trans (by decide +kernel)⟩

end Viewport

end JobBoard
