import JobBoard.Proofs.Viewport

/-!
Measuring a run of rows. Rows above the first visible one carry the scroll offset with them, rows from there on leave
it where it is, and since the heights of one pass all grow or all shrink, the viewport is clamped as if this were
done once at the end.
-/

namespace JobBoard.Viewport

def recordAll (v : Viewport) (height : Nat → Nat) (rows : List Nat) : Viewport :=
  rows.foldl (fun v i => (v.record i (height i)).1) v

theorem recordAll_cons (v : Viewport) (height : Nat → Nat) (i : Nat) (rows : List Nat) :
    v.recordAll height (i :: rows) = (v.record i (height i)).1.recordAll height rows := rfl

theorem recordAll_congr {v : Viewport} {height height' : Nat → Nat} {rows : List Nat}
    (h : ∀ i ∈ rows, height i = height' i) : v.recordAll height rows = v.recordAll height' rows := by
  induction rows generalizing v with
  | nil => rfl
  | cons i rows ih =>
    rw [recordAll_cons, recordAll_cons, h i List.mem_cons_self]
    apply ih
    intro j hj
    exact h j (List.mem_cons_of_mem i hj)

def unmeasured (v : Viewport) : List Nat :=
  (List.range' v.range.1 (v.range.2 - v.range.1)).filter fun i => !v.rows.isMeasured i

/-- Rows that wait for being measured, from the top of the list on. -/
structure Waiting (v : Viewport) (rows : List Nat) : Prop where
  sorted : rows.Pairwise (· < ·)
  inside : ∀ i ∈ rows, i < v.rows.size
  fresh : ∀ i ∈ rows, v.rows.isMeasured i = false

variable {v : Viewport} {rows : List Nat} {height : Nat → Nat}

theorem mem_unmeasured {i : Nat} : i ∈ v.unmeasured ↔ v.Prepares i ∧ v.rows.isMeasured i = false := by
  rw [unmeasured, List.mem_filter, List.mem_range'_1, Bool.not_eq_true']
  refine and_congr_left fun _ => and_congr_right fun hi => ?_
  omega

theorem waiting_unmeasured (v : Viewport) : v.Waiting v.unmeasured where
  sorted := List.Pairwise.filter _ List.pairwise_lt_range'
  inside := by
    intro i hi
    exact Nat.lt_of_lt_of_le (mem_unmeasured.1 hi).1.2 v.range_stop_le
  fresh := by
    intro i hi
    exact (mem_unmeasured.1 hi).2

theorem Waiting.tail {i : Nat} (h : v.Waiting (i :: rows)) (x : Nat) : (v.record i x).1.Waiting rows where
  sorted := (List.pairwise_cons.1 h.sorted).2
  inside := by
    intro j hj
    rw [record_rows, RowHeights.size_record]
    exact h.inside j (List.mem_cons_of_mem i hj)
  fresh := by
    intro j hj
    have hlt := (List.pairwise_cons.1 h.sorted).1 j hj
    rw [record_rows, RowHeights.isMeasured_record _ _ (Nat.ne_of_gt hlt)]
    exact h.fresh j (List.mem_cons_of_mem i hj)

theorem recordAll_height (v : Viewport) (height : Nat → Nat) (rows : List Nat) :
    (v.recordAll height rows).height = v.height := by
  induction rows generalizing v with
  | nil => rfl
  | cons i rows ih => rw [recordAll_cons, ih, record_height]

theorem recordAll_size (v : Viewport) (height : Nat → Nat) (rows : List Nat) :
    (v.recordAll height rows).rows.size = v.rows.size := by
  induction rows generalizing v with
  | nil => rfl
  | cons i rows ih => rw [recordAll_cons, ih, record_rows, RowHeights.size_record]

theorem top_record {i : Nat} (hi : i < v.rows.size) (x k : Nat) :
    (v.record i x).1.rows.top k + (if i < k then v.rows.height i else 0) =
      v.rows.top k + (if i < k then max x 1 else 0) := by
  rw [record_rows]
  exact RowHeights.top_record hi x k

theorem sum_record {i : Nat} (hi : i < v.rows.size) (x : Nat) :
    (v.record i x).1.rows.lines.sum + v.rows.height i = v.rows.lines.sum + max x 1 := by
  have h := v.top_record hi x v.rows.size
  have hs := (v.record i x).1.rows.top_size
  rw [record_rows, RowHeights.size_record] at hs
  rw [if_pos hi, if_pos hi, record_rows, hs, RowHeights.top_size, ← record_rows] at h
  exact h

theorem record_rows_eq (v : Viewport) (i x : Nat) (h : (v.rows.record i x).2 = 0) :
    (v.record i x).1 = { v with rows := (v.rows.record i x).1 } := by
  simp only [record, h, ↓reduceIte]

theorem record_scroll (v : Viewport) (i x : Nat) (h : (v.rows.record i x).2 ≠ 0) :
    (v.record i x).1.scroll =
      min (if (v.rows.indexAt v.scroll).any (i < ·) then
          ((v.scroll : Int) + (v.rows.record i x).2).toNat % Word.size32 else v.scroll)
        (v.record i x).1.maxScroll := by
  simp only [record, h, ↓reduceIte]
  rfl

/-- A row at or below the one at the scroll offset leaves the offset where it is, as far as the list goes. -/
theorem Valid.scroll_record_of_le (hv : v.Valid) {f i x : Nat} (hf : v.rows.indexAt v.scroll = some f) (hi : f ≤ i) :
    (v.record i x).1.scroll = min v.scroll (v.record i x).1.maxScroll := by
  have hbound := (hv.record i x).scroll
  by_cases hd : (v.rows.record i x).2 = 0
  · have he : (v.record i x).1.scroll = v.scroll := by rw [record_rows_eq v i x hd]
    rw [he] at hbound ⊢
    exact (Nat.min_eq_left hbound).symm
  · have hnot : (v.rows.indexAt v.scroll).any (i < ·) = false := by
      rw [hf]
      exact decide_eq_false (Nat.not_lt.2 hi)
    rw [v.record_scroll i x hd, hnot, if_neg Bool.false_ne_true]

/-- A row above the one at the scroll offset carries the offset with it. That one word holds the sums before and
after is enough for the shifted offset to be a word inside the list. -/
theorem Valid.scroll_record_of_lt (hv : v.Valid) (hw : v.rows.lines.sum < Word.size32) {f i x : Nat}
    (hf : v.rows.indexAt v.scroll = some f) (hi : i < f) (hw' : (v.record i x).1.rows.lines.sum < Word.size32) :
    ((v.record i x).1.scroll : Int) = v.scroll + (v.rows.record i x).2 := by
  obtain ⟨hfs, hft⟩ := hv.rows.top_le_of_indexAt hw hf
  have his : i < v.rows.size := Nat.lt_trans hi hfs
  have hdelta := RowHeights.record_delta his x
  by_cases hd : (v.rows.record i x).2 = 0
  · rw [record_rows_eq v i x hd, hd, Int.add_zero]
  · have habove : (v.rows.indexAt v.scroll).any (i < ·) = true := by
      rw [hf]
      exact decide_eq_true hi
    have hsum := v.sum_record his x
    have hmax := (hv.record i x).maxScroll_eq hw'
    rw [record_height] at hmax
    have hscroll := hv.scroll
    rw [hv.maxScroll_eq hw] at hscroll
    have hstep := RowHeights.top_succ his
    have hmono : v.rows.top (i + 1) ≤ v.rows.top f := RowHeights.top_mono hi
    have hpos := hv.rows.height_pos i
    rw [v.record_scroll i x hd, habove, if_pos rfl, hmax, Nat.mod_eq_of_lt (by omega), Nat.min_eq_left (by omega)]
    omega

/-- A row at or below the first visible one leaves the scroll offset where it is, as far as the list goes. -/
theorem Valid.record_below (hv : v.Valid) (hw : v.rows.lines.sum < Word.size32) {i x : Nat}
    (hi : i < v.rows.size) (hw' : (v.record i x).1.rows.lines.sum < Word.size32) (hh : 0 < v.height)
    (hs : v.scroll < v.rows.top (i + 1)) :
    (v.record i x).1.scroll = min v.scroll ((v.record i x).1.rows.lines.sum - v.height) := by
  obtain ⟨f, hf, -, hft⟩ := hv.first hw hh (Nat.zero_lt_of_lt hi)
  rw [hv.scroll_record_of_le hf ((RowHeights.le_iff_lt_top hft).2 hs), (hv.record i x).maxScroll_eq hw',
    record_height]

theorem Valid.record_above (hv : v.Valid) (hw : v.rows.lines.sum < Word.size32) {f i x : Nat} (hi : i < f)
    (hfs : f < v.rows.size) (hw' : (v.record i x).1.rows.lines.sum < Word.size32)
    (hf : v.rows.top f ≤ v.scroll ∧ v.scroll < v.rows.top (f + 1)) :
    (v.record i x).1.scroll + v.rows.top f = v.scroll + (v.record i x).1.rows.top f := by
  have his : i < v.rows.size := Nat.lt_trans hi hfs
  have hscroll := hv.scroll_record_of_lt hw (hv.rows.indexAt_of_top hw hf) hi hw'
  have hdelta := RowHeights.record_delta his x
  have htop := v.top_record his x f
  rw [if_pos hi, if_pos hi] at htop
  omega

theorem Waiting.height_eq (hr : v.Waiting rows) (hv : v.Valid) {i : Nat} (hi : i ∈ rows) :
    v.rows.height i = v.rows.estimate := hv.rows.height_of_unmeasured (hr.fresh i hi)

theorem Waiting.top_grows (hr : v.Waiting rows) (hv : v.Valid) (he : v.rows.estimate = 1) (height : Nat → Nat)
    {i k : Nat} (hik : i ≤ k) :
    v.rows.top k + (v.recordAll height rows).rows.top i ≤ (v.recordAll height rows).rows.top k + v.rows.top i := by
  induction rows generalizing v with
  | nil => exact Nat.le_refl _
  | cons j rows ih =>
    have hj := hr.inside j List.mem_cons_self
    have hheight : v.rows.height j = 1 := by rw [hr.height_eq hv List.mem_cons_self, he]
    have hest : (v.record j (height j)).1.rows.estimate = 1 := by
      rw [record_rows, RowHeights.estimate_record, he]
    have hrest := ih (hr.tail (height j)) (hv.record j (height j)) hest
    have hi := v.top_record hj (height j) i
    have hk := v.top_record hj (height j) k
    rw [hheight] at hi hk
    rw [recordAll_cons]
    split at hi <;> split at hk <;> omega

theorem Waiting.sum_grows (hr : v.Waiting rows) (hv : v.Valid) (he : v.rows.estimate = 1) (height : Nat → Nat) :
    v.rows.lines.sum ≤ (v.recordAll height rows).rows.lines.sum := by
  have hgrows := hr.top_grows hv he height (Nat.zero_le v.rows.size)
  have hsize := (v.recordAll height rows).rows.top_size
  rw [recordAll_size] at hsize
  rw [RowHeights.top_size, hsize, RowHeights.top_zero, RowHeights.top_zero] at hgrows
  exact hgrows

theorem Waiting.sum_shrinks (hr : v.Waiting rows) (hv : v.Valid) (he : 2 ≤ v.rows.estimate)
    (hx : ∀ i, height i ≤ 2) : (v.recordAll height rows).rows.lines.sum ≤ v.rows.lines.sum := by
  induction rows generalizing v with
  | nil => exact Nat.le_refl _
  | cons i rows ih =>
    have hsum := v.sum_record (hr.inside i List.mem_cons_self) (height i)
    rw [hr.height_eq hv List.mem_cons_self] at hsum
    have hest : 2 ≤ (v.record i (height i)).1.rows.estimate := by
      rw [record_rows, RowHeights.estimate_record]
      exact he
    have hrest := ih (hr.tail (height i)) (hv.record i (height i)) hest
    have := hx i
    exact Nat.le_trans hrest (by omega)

theorem Waiting.sum_between {i : Nat} (hr : v.Waiting (i :: rows)) (hv : v.Valid) (hx : ∀ i, height i ≤ 2) :
    let first := (v.record i (height i)).1.rows.lines.sum
    let all := (v.recordAll height (i :: rows)).rows.lines.sum
    v.rows.lines.sum ≤ first ∧ first ≤ all ∨ all ≤ first ∧ first ≤ v.rows.lines.sum := by
  have hone : v.Waiting [i] := by
    refine ⟨List.pairwise_singleton _ _, ?_, ?_⟩
    · intro j hj
      rw [List.mem_singleton.1 hj]
      exact hr.inside i List.mem_cons_self
    · intro j hj
      rw [List.mem_singleton.1 hj]
      exact hr.fresh i List.mem_cons_self
  have hest : (v.record i (height i)).1.rows.estimate = v.rows.estimate := by
    rw [record_rows, RowHeights.estimate_record]
  have hpos := hv.rows.estimate
  rcases Nat.lt_or_ge 1 v.rows.estimate with he | he
  · right
    exact ⟨(hr.tail _).sum_shrinks (hv.record i _) (by rw [hest]; exact he) hx, hone.sum_shrinks hv he hx⟩
  · left
    have he' : v.rows.estimate = 1 := by omega
    exact ⟨hone.sum_grows hv he' height, (hr.tail _).sum_grows (hv.record i _) (by rw [hest]; exact he') height⟩

/-- Rows below the top of the screen leave the scroll offset where it is, as far as the list goes in the end. -/
theorem Waiting.scroll_below (hr : v.Waiting rows) (hv : v.Valid) (hx : ∀ i, height i ≤ 2) (hh : 0 < v.height)
    (hw : v.rows.lines.sum < Word.size32) (hw' : (v.recordAll height rows).rows.lines.sum < Word.size32)
    (hs : ∀ i ∈ rows, v.scroll < v.rows.top i + v.rows.estimate) :
    (v.recordAll height rows).scroll = min v.scroll ((v.recordAll height rows).rows.lines.sum - v.height) := by
  induction rows generalizing v with
  | nil =>
    have hscroll := hv.scroll
    rw [hv.maxScroll_eq hw] at hscroll
    exact (Nat.min_eq_left hscroll).symm
  | cons i rows ih =>
    have hi := hr.inside i List.mem_cons_self
    have hbetween := hr.sum_between hv hx
    dsimp only at hbetween
    have hfirst : (v.record i (height i)).1.rows.lines.sum < Word.size32 := by omega
    have hstep := hv.record_below hw hi hfirst hh (by
      rw [RowHeights.top_succ hi, hr.height_eq hv List.mem_cons_self]
      exact hs i List.mem_cons_self)
    have hrest := ih (hr.tail (height i)) (hv.record i (height i)) (by rw [record_height]; exact hh) hfirst hw' (by
      intro j hj
      have hlt := (List.pairwise_cons.1 hr.sorted).1 j hj
      have htop := v.top_record hi (height i) i
      have hmono : (v.record i (height i)).1.rows.top i ≤ (v.record i (height i)).1.rows.top j :=
        RowHeights.top_mono (Nat.le_of_lt hlt)
      have hsi := hs i List.mem_cons_self
      simp only [Nat.lt_irrefl, ↓reduceIte] at htop
      rw [hstep, record_rows, RowHeights.estimate_record, ← record_rows]
      omega)
    rw [recordAll_cons] at hbetween ⊢
    rw [hrest, record_height, hstep]
    have hscroll := hv.scroll
    rw [hv.maxScroll_eq hw] at hscroll
    omega

theorem Waiting.height_recordAll (hr : v.Waiting rows) (k : Nat) :
    (v.recordAll height rows).rows.height k = if k ∈ rows then max (height k) 1 else v.rows.height k := by
  induction rows generalizing v with
  | nil => rfl
  | cons i rows ih =>
    have hi := hr.inside i List.mem_cons_self
    rw [recordAll_cons, ih (hr.tail (height i)), record_rows, RowHeights.height_record hi]
    by_cases hk : k = i
    · subst hk
      have hnot : k ∉ rows := by
        intro hmem
        exact Nat.lt_irrefl k ((List.pairwise_cons.1 hr.sorted).1 k hmem)
      rw [if_neg hnot, if_pos rfl, if_pos List.mem_cons_self]
    · simp only [List.mem_cons, hk, false_or, ↓reduceIte]

theorem Waiting.isMeasured_recordAll (hr : v.Waiting rows) (k : Nat) :
    (v.recordAll height rows).rows.isMeasured k = true ↔ k ∈ rows ∨ v.rows.isMeasured k = true := by
  induction rows generalizing v with
  | nil => simp [recordAll]
  | cons i rows ih =>
    rw [recordAll_cons, ih (hr.tail (height i)), record_rows, List.mem_cons]
    by_cases hk : k = i
    · subst hk
      have hself := RowHeights.isMeasured_record_self (hr.inside k List.mem_cons_self) (height k)
      simp only [hself, or_true, true_or]
    · rw [RowHeights.isMeasured_record _ _ hk]
      simp only [hk, false_or]

theorem Waiting.top_recordAll (hr : v.Waiting rows) {k : Nat} (hk : ∀ i ∈ rows, k ≤ i) :
    (v.recordAll height rows).rows.top k = v.rows.top k := by
  induction rows generalizing v with
  | nil => rfl
  | cons i rows ih =>
    have htop := v.top_record (hr.inside i List.mem_cons_self) (height i) k
    have hle := hk i List.mem_cons_self
    rw [if_neg (by omega), if_neg (by omega)] at htop
    rw [recordAll_cons, ih (hr.tail (height i)) fun j hj => hk j (List.mem_cons_of_mem i hj)]
    exact htop

/-- When rows have been measured, the row at the top of the screen is the one that was there, with as many of its
lines above the screen as before, as far as the list goes. -/
theorem Waiting.scroll_recordAll (hr : v.Waiting rows) (hv : v.Valid) (hx : ∀ i, height i ≤ 2) (hh : 0 < v.height)
    (hw : v.rows.lines.sum < Word.size32) (hw' : (v.recordAll height rows).rows.lines.sum < Word.size32) {f : Nat}
    (hfs : f < v.rows.size) (hf : v.rows.top f ≤ v.scroll ∧ v.scroll < v.rows.top (f + 1)) :
    (v.recordAll height rows).scroll =
      min ((v.recordAll height rows).rows.top f + (v.scroll - v.rows.top f))
        ((v.recordAll height rows).rows.lines.sum - v.height) := by
  induction rows generalizing v with
  | nil =>
    have hscroll := hv.scroll
    rw [hv.maxScroll_eq hw] at hscroll
    change v.scroll = min (v.rows.top f + (v.scroll - v.rows.top f)) (v.rows.lines.sum - v.height)
    omega
  | cons i rows ih =>
    have hi := hr.inside i List.mem_cons_self
    by_cases hlt : i < f
    -- The row moves those below it, and the scroll offset with them.
    · have hbetween := hr.sum_between hv hx
      dsimp only at hbetween
      have hfirst : (v.record i (height i)).1.rows.lines.sum < Word.size32 := by omega
      have hstep := hv.record_above hw hlt hfs hfirst hf
      have htop := v.top_record hi (height i) f
      have hnext := v.top_record hi (height i) (f + 1)
      rw [if_pos hlt, if_pos hlt] at htop
      rw [if_pos (Nat.lt_succ_of_lt hlt), if_pos (Nat.lt_succ_of_lt hlt)] at hnext
      have hrest := ih (hr.tail (height i)) (hv.record i (height i)) (by rw [record_height]; exact hh) hfirst hw'
        (by rw [record_rows, RowHeights.size_record]; exact hfs) (by omega)
      rw [recordAll_cons, hrest, record_height]
      omega
    -- The rows are sorted, so none of them is above the first visible one any more.
    · have hge : ∀ j ∈ i :: rows, f ≤ j := by
        intro j hj
        rcases List.mem_cons.1 hj with rfl | hj
        · exact Nat.le_of_not_lt hlt
        · have := (List.pairwise_cons.1 hr.sorted).1 j hj
          omega
      have hbelow := hr.scroll_below hv hx hh hw hw' (by
        intro j hj
        have hmono : v.rows.top (f + 1) ≤ v.rows.top (j + 1) := RowHeights.top_mono (Nat.succ_le_succ (hge j hj))
        rw [RowHeights.top_succ (hr.inside j hj), hr.height_eq hv hj] at hmono
        omega)
      rw [hbelow, hr.top_recordAll hge]
      omega

theorem Waiting.shows_recordAll (hr : v.Waiting rows) (hv : v.Valid) (hx : ∀ i, height i ≤ 2) (hh : 0 < v.height)
    (he : v.rows.estimate = 1) (hw' : (v.recordAll height rows).rows.lines.sum < Word.size32) {k : Nat}
    (hk : k < v.rows.size) (hshows : (v.recordAll height rows).Shows k) : v.Shows k := by
  have hw : v.rows.lines.sum < Word.size32 := Nat.lt_of_le_of_lt (hr.sum_grows hv he height) hw'
  obtain ⟨f, -, hfs, hf⟩ := hv.first hw hh (Nat.zero_lt_of_lt hk)
  have hto := hr.scroll_recordAll hv hx hh hw hw' hfs hf
  have hscroll := hv.scroll
  rw [hv.maxScroll_eq hw] at hscroll
  obtain ⟨habove, hbelow⟩ := hshows
  rw [recordAll_height] at habove
  rcases Nat.lt_or_ge k f with hlt | hge
  -- The row at the top keeps its place, so a row above it stays out of sight.
  · have hsize := (v.recordAll height rows).rows.top_size
    have hend := hr.top_grows hv he height (Nat.le_of_lt hfs)
    have hmono : (v.recordAll height rows).rows.top (k + 1) ≤ (v.recordAll height rows).rows.top f :=
      RowHeights.top_mono hlt
    have hold : v.rows.top (k + 1) ≤ v.rows.top f := RowHeights.top_mono hlt
    have hpos := hv.rows.top_lt_succ hk
    rw [recordAll_size] at hsize
    rw [hsize, RowHeights.top_size] at hend
    omega
  · have hgrows := hr.top_grows hv he height hge
    have hmono : v.rows.top (f + 1) ≤ v.rows.top (k + 1) := RowHeights.top_mono (Nat.succ_le_succ hge)
    exact ⟨by omega, by omega⟩

end JobBoard.Viewport
