import JobBoard.Proofs.ActiveRow
import JobBoard.Proofs.ScrollReach
import Mathlib.Data.List.Nodup

/-!
What has been measured when a board is drawn. Rows are measured once, those that are prepared by the heights that are
known before, and then the rows that are prepared by the new heights are drawn. With estimates of one line rows only
move apart, and there is nothing left to measure; greater estimates can shrink, and rows come near that nobody has
looked at.
-/

namespace JobBoard

namespace JobList

/-- All rows that are prepared have been measured, by their own texts. -/
def MeasuresPrepared (l : JobList) : Prop :=
  ∀ i, l.viewport.Prepares i → l.viewport.rows.isMeasured i = true ∧
    ∃ j, l.item? i = some j ∧ l.viewport.rows.height i = (RowText.ofJob j).height

variable {l : JobList} {settings : Settings} {panel : Area}

theorem Shown.prepares_iff (h : l.Shown) (ho : l.size + l.viewport.overscan < Word.size64) {i : Nat} :
    l.viewport.Prepares i ↔ i < l.size ∧
      ∃ k < l.size, l.viewport.InWindow k ∧ k ≤ i + l.viewport.overscan ∧ i ≤ k + l.viewport.overscan := by
  obtain ⟨first, last, hw, hfirst, hlast, htop, hshows⟩ := h.window
  have hlines := h.lines
  rw [← h.height] at hlines
  have hle : first ≤ last := ((hshows first hfirst).2 ⟨by omega, htop.2⟩).2
  rw [Viewport.Prepares, Viewport.range_of_window hw (by dsimp only; omega), h.rows]
  dsimp only
  constructor
  · rintro ⟨hstart, hstop⟩
    exact ⟨by omega, max first (min i last), by omega, ⟨_, hw, by dsimp only; omega⟩, by omega⟩
  · rintro ⟨hi, k, -, ⟨w, hw', hin⟩, hnear⟩
    rw [hw] at hw'
    cases hw'
    dsimp only at hin
    omega

theorem Shown.measuresPrepared_iff (h : l.Shown) (hf : l.Faithful) (hu : l.Unambiguous) :
    l.MeasuresPrepared ↔ ∀ i, l.viewport.Prepares i → l.viewport.rows.isMeasured i = true := by
  constructor
  · intro hm i hi
    exact (hm i hi).1
  · intro hm i hi
    obtain ⟨j, hj, -⟩ := l.item?_of_lt (i := i) (by
      rw [← h.rows]
      exact Nat.lt_of_lt_of_le hi.2 l.viewport.range_stop_le)
    exact ⟨hm i hi, j, hj, hf hu i j hj (hm i hi)⟩

/-- When the list has been laid out, all rows that are prepared have been measured exactly if none that was neither
measured nor prepared is within `overscan` rows of one that is on screen now. -/
theorem layOut_measured_iff (hs : l.InStep settings) (hshown : (l.layOut panel).Shown)
    (ho : l.size + settings.overscan < Word.size64) (hw : l.viewport.rows.lines.sum < Word.size32) {first : Nat}
    (hf : (l.viewport.setHeight (bodyOf panel).height).rows.indexAt
      (l.viewport.setHeight (bodyOf panel).height).scroll = some first) :
    (∀ i, (l.layOut panel).viewport.Prepares i → (l.layOut panel).viewport.rows.isMeasured i = true) ↔
      ∀ i < l.size, l.viewport.rows.isMeasured i = false →
        ¬(l.viewport.setHeight (bodyOf panel).height).Prepares i → ∀ k < l.size,
          Viewport.Remains (l.layOut panel).viewport.rows first
            ((l.viewport.setHeight (bodyOf panel).height).scroll - l.viewport.rows.top first)
            (bodyOf panel).height k →
          k + settings.overscan < i ∨ i + settings.overscan < k := by
  have hsize : 0 < l.size := by
    rw [← layOut_size l panel]
    exact hshown.nonempty
  have hnear (i : Nat) : (l.layOut panel).viewport.Prepares i ↔ i < l.size ∧ ∃ k < l.size,
      (l.layOut panel).viewport.InWindow k ∧ k ≤ i + settings.overscan ∧ i ≤ k + settings.overscan := by
    have hiff := hshown.prepares_iff (i := i) (by rw [layOut_size, layOut_overscan, hs.overscan]; exact ho)
    rwa [layOut_size, layOut_overscan, hs.overscan] at hiff
  have hmeasured (i : Nat) : (l.layOut panel).viewport.rows.isMeasured i = true ↔
      (l.viewport.setHeight (bodyOf panel).height).Prepares i ∨ l.viewport.rows.isMeasured i = true :=
    layOut_isMeasured_iff hs hsize
  have hwindow (k : Nat) (hk : k < l.size) := layOut_inWindow_iff hs hshown hw hf hk
  constructor
  · intro hall i hi hfresh hnot k hk hremains
    by_contra hclose
    have hin := (hwindow k hk).2 hremains
    rcases (hmeasured i).1 (hall i ((hnear i).2 ⟨hi, k, hk, hin, by omega, by omega⟩)) with hold | hold
    · exact hnot hold
    · rw [hfresh] at hold
      cases hold
  · intro hfar i hprep
    obtain ⟨hi, k, hk, hin, hki, hik⟩ := (hnear i).1 hprep
    by_contra hfresh
    rw [hmeasured, not_or, Bool.not_eq_true] at hfresh
    have := hfar i hi hfresh.2 hfresh.1 k hk ((hwindow k hk).1 hin)
    omega

end JobList

namespace Board

variable {settings : Settings} {filter : Filter} {b : Board} {screen : Area}

theorem unambiguous_of_nodup (h : (b.list.pager.items.toList.map Job.id).Nodup) : b.list.Unambiguous := by
  intro j hj k hk hid
  exact List.inj_on_of_nodup_map h (Array.mem_toList_iff.2 hj) (Array.mem_toList_iff.2 hk) hid

/-- What is left to ask of a board that has just been drawn is whether rows have been measured: those that have are as
high as their texts. -/
theorem measuresPrepared_iff_measured (h : Reachable settings filter b)
    (hids : (b.list.pager.items.toList.map Job.id).Nodup) (hshown : (b.layOut screen).list.Shown) :
    (b.layOut screen).list.MeasuresPrepared ↔
      ∀ i, (b.layOut screen).list.viewport.Prepares i →
        (b.layOut screen).list.viewport.rows.isMeasured i = true :=
  hshown.measuresPrepared_iff (JobList.layOut_faithful h.list.inStep h.faithful _)
    (JobList.layOut_unambiguous (unambiguous_of_nodup hids) _)

/-- On a board with numbers that stand for one job each, when it has just been drawn, all rows that are prepared have
been measured exactly if none that was neither measured nor prepared before is within `overscan` rows of one that
remains on screen. Rows that have been measured are as high as their texts in any case, and with estimates of one line
all rows that are prepared have been measured. -/
theorem prepared_rows_measured_iff (h : Reachable settings filter b)
    (hids : (b.list.pager.items.toList.map Job.id).Nodup) (hscreen : screen.height < 65536) (hn : 0 < b.list.size)
    (hh : 0 < (b.layOut screen).list.area.height) (hover : b.list.size + settings.overscan < Word.size64)
    (hw : b.list.viewport.rows.lines.sum < Word.size32)
    (hw' : (b.layOut screen).list.viewport.rows.lines.sum < Word.size32) :
    let v := b.list.viewport.setHeight (b.layOut screen).list.area.height
    let shown := (b.layOut screen).list
    (∃ first, v.rows.indexAt v.scroll = some first ∧
      (shown.MeasuresPrepared ↔ ∀ i < b.list.size, v.rows.isMeasured i = false → ¬v.Prepares i →
        ∀ k < b.list.size, Viewport.Remains shown.viewport.rows first (v.scroll - v.rows.top first) v.height k →
          k + settings.overscan < i ∨ i + settings.overscan < k)) ∧
    (∀ i j, shown.item? i = some j → shown.viewport.rows.isMeasured i = true →
      shown.viewport.rows.height i = (RowText.ofJob j).height) ∧
    (settings.rowHeight ≤ 1 → shown.MeasuresPrepared) := by
  have hs := h.list.inStep
  have hshown := layOut_shown h hscreen hn hh hw'
  have hiff := measuresPrepared_iff_measured h hids hshown
  have harea : (b.layOut screen).list.area.height = (JobList.bodyOf (Layout.ofScreen screen).list).height := by
    rw [layOut_list, JobList.layOut_area]
  rw [harea] at hh ⊢
  refine ⟨?_, JobList.layOut_faithful hs h.faithful _ (JobList.layOut_unambiguous (unambiguous_of_nodup hids) _), ?_⟩
  · obtain ⟨first, hfirst, -⟩ :=
      (hs.valid.setHeight (JobList.bodyOf (Layout.ofScreen screen).list).height).first hw hh
        (Nat.lt_of_lt_of_eq hn hs.rows.symm)
    exact ⟨first, hfirst, hiff.trans (JobList.layOut_measured_iff hs hshown hover hw hfirst)⟩
  · intro he
    exact hiff.2 fun i => JobList.layOut_measured hs he hshown hover

/-- Estimates of two lines. -/
def twoLines : Settings := Settings.sanitized { rowHeight := 2 }

def tallRows : List Job := (List.range 6).map fun n => { id := n, needsReview := true, reviewReason := some "stuck" }

/-- A board on which these rows have been loaded, as high as they are estimated. -/
def sixTall : Board :=
  ((start twoLines {}).after 0 .mount).after 0 (.report (.pageLoaded ⟨1⟩ { items := tallRows }))

theorem sixTall_reachable : Reachable twoLines {} sixTall := .after _ _ (.after _ _ .start)

theorem sixTall_laidOut : (sixTall.layOut lowScreen).list.viewport =
    (sixTall.list.viewport.setHeight 2).recordAll (fun _ => 2) (sixTall.list.viewport.setHeight 2).unmeasured :=
  layOut_viewport_of_uniform sixTall_reachable (by decide +kernel) (by decide +kernel) lowScreen

theorem sixTall_tops : ∀ i ≤ 6, (sixTall.layOut lowScreen).list.viewport.rows.top i = 2 * i := by
  rw [sixTall_laidOut]
  decide +kernel

/-- The first four rows are prepared. The fifth one has not been measured, and nothing near it remains on screen. -/
theorem prepared_rows_measured_of_sixTall :
    (sixTall.list.pager.items.toList.map Job.id).Nodup ∧ 0 < sixTall.list.size ∧
      0 < (sixTall.layOut lowScreen).list.area.height ∧ (sixTall.layOut lowScreen).list.viewport.Prepares 3 ∧
      (sixTall.layOut lowScreen).list.viewport.rows.isMeasured 4 = false ∧
      (sixTall.layOut lowScreen).list.MeasuresPrepared := by
  have hids : (sixTall.list.pager.items.toList.map Job.id).Nodup := by decide +kernel
  have hsize : sixTall.list.size = 6 := by decide +kernel
  have harea : (sixTall.layOut lowScreen).list.area.height = 2 := by
    rw [layOut_list, JobList.layOut_area]
    decide
  have hfirst : (sixTall.list.viewport.setHeight 2).rows.indexAt (sixTall.list.viewport.setHeight 2).scroll =
      some 0 := by
    decide +kernel
  have hrange : (sixTall.list.viewport.setHeight 2).range = (0, 4) := by decide +kernel
  have hsum : (sixTall.layOut lowScreen).list.viewport.rows.lines.sum < Word.size32 := by
    rw [sixTall_laidOut]
    decide +kernel
  obtain ⟨⟨first, hat, hiff⟩, -, -⟩ := prepared_rows_measured_iff sixTall_reachable hids
    (show lowScreen.height < 65536 by decide) (by rw [hsize]; decide) (by rw [harea]; decide)
    (by rw [hsize]; decide) (by decide +kernel) hsum
  rw [harea] at hat hiff
  obtain rfl : 0 = first := Option.some.inj (hfirst.symm.trans hat)
  refine ⟨hids, by rw [hsize]; decide, by rw [harea]; decide, ?_, ?_, hiff.2 ?_⟩
  · rw [sixTall_laidOut]
    exact ⟨by decide +kernel, by decide +kernel⟩
  · rw [sixTall_laidOut]
    decide +kernel
  · intro i hi _ hnot k hk hremains
    rw [hsize] at hk
    have hend := hremains.above_end
    have hscroll : (sixTall.list.viewport.setHeight 2).scroll = 0 := by decide +kernel
    rw [sixTall_tops k (Nat.le_of_lt hk), RowHeights.top_zero, hscroll] at hend
    rw [Viewport.Prepares, hrange] at hnot
    change 2 * k < 0 + (0 - _) + 2 at hend
    have hoverscan : twoLines.overscan = 3 := by decide
    omega

/-- One row more than are prepared beside a single row on screen. -/
def oneLiners (settings : Settings) : Board :=
  ((start settings {}).after 0 .mount).after 0
    (.report (.pageLoaded ⟨1⟩ { items := (List.range (settings.overscan + 2)).map fun n : Nat => { id := n } }))

theorem oneLiners_reachable (settings : Settings) : Reachable settings {} (oneLiners settings) :=
  .after _ _ (.after _ _ .start)

theorem oneLiners_list (settings : Settings) : (oneLiners settings).list =
    (JobList.start settings {}).mount.1.receive (JobList.start settings {}).mount.1.pager.generation
      { items := (List.range (settings.overscan + 2)).map fun n : Nat => { id := n } } := by
  rw [oneLiners, after_list]
  change ((start settings {}).after 0 .mount).list.receive ⟨1⟩ _ = _
  rw [after_list]
  rfl

theorem oneLiners_items (settings : Settings) : (oneLiners settings).list.pager.items.toList =
    (List.range (settings.overscan + 2)).map fun n : Nat => { id := n } := by
  rw [oneLiners_list, JobList.receive_current]
  change ((JobList.start settings {}).mount.1.pager.items ++ _).toList = _
  rw [Array.toList_append, List.toList_toArray]
  rfl

theorem oneLiners_size (settings : Settings) : (oneLiners settings).list.size = settings.overscan + 2 := by
  rw [JobList.size, Pager.size, ← Array.length_toList, oneLiners_items, List.length_map, List.length_range]

theorem oneLiners_nonempty (settings : Settings) : 0 < (oneLiners settings).list.size := by
  rw [oneLiners_size]
  exact Nat.zero_lt_succ _

theorem oneLiners_viewport (settings : Settings) : (oneLiners settings).list.viewport =
    (Viewport.start settings.rowHeight settings.overscan).reset.setCount (settings.overscan + 2) := by
  have hsize := oneLiners_size settings
  rw [oneLiners_list, JobList.receive_current] at hsize ⊢
  exact congrArg (Viewport.setCount _) hsize

theorem oneLiners_uniform (settings : Settings) :
    ∀ j ∈ (oneLiners settings).list.pager.items, (RowText.ofJob j).height = 1 := by
  intro j hj
  rw [← Array.mem_toList_iff, oneLiners_items] at hj
  obtain ⟨n, -, rfl⟩ := List.mem_map.1 hj
  rfl

theorem oneLiners_nodup (settings : Settings) :
    ((oneLiners settings).list.pager.items.toList.map Job.id).Nodup := by
  rw [oneLiners_items, List.map_map]
  refine List.Nodup.map ?_ List.nodup_range
  intro m n he
  exact Int.ofNat.inj he

theorem oneLiners_fresh (settings : Settings) (i : Nat) :
    (oneLiners settings).list.viewport.rows.isMeasured i = false := by
  rw [oneLiners_viewport]
  change ((RowHeights.start settings.rowHeight).clear.resize _).isMeasured i = false
  rw [RowHeights.resize_of_le (Nat.zero_le _), RowHeights.isMeasured_grow]
  rfl

theorem oneLiners_scroll (settings : Settings) (height : Nat) :
    ((oneLiners settings).list.viewport.setHeight height).scroll = 0 := by
  rw [oneLiners_viewport]
  change min (min 0 _) _ = 0
  rw [Nat.zero_min, Nat.zero_min]

theorem oneLiners_laidOut (settings : Settings) : ((oneLiners settings).layOut lowScreen).list.viewport =
    ((oneLiners settings).list.viewport.setHeight 2).recordAll (fun _ => 1)
      ((oneLiners settings).list.viewport.setHeight 2).unmeasured :=
  layOut_viewport_of_uniform (oneLiners_reachable settings) (oneLiners_nonempty settings)
    (oneLiners_uniform settings) lowScreen

/-- Estimates of more than one line, with which the lines of these rows fit into a word. -/
structure Coarse (settings : Settings) : Prop where
  estimate : 2 ≤ settings.rowHeight
  words : (settings.overscan + 2) * settings.rowHeight < Word.size32

variable (hc : Coarse settings)
include hc

theorem Coarse.overscan_lt : settings.overscan + 2 + settings.overscan < Word.size64 := by
  have hlt : settings.overscan + 2 < Word.size32 :=
    Nat.lt_of_le_of_lt (Nat.le_mul_of_pos_right _ (Nat.lt_of_lt_of_le Nat.two_pos hc.estimate)) hc.words
  simp only [Word.size32, Word.size64] at *
  omega

theorem oneLiners_height (i : Nat) : (oneLiners settings).list.viewport.rows.height i = settings.rowHeight := by
  have hs := (oneLiners_reachable settings).list.inStep
  rw [hs.valid.rows.height_of_unmeasured (oneLiners_fresh settings i), hs.estimate]
  exact Nat.max_eq_left (Nat.le_of_lt hc.estimate)

theorem oneLiners_sum : (oneLiners settings).list.viewport.rows.lines.sum < Word.size32 := by
  have hs := (oneLiners_reachable settings).list.inStep
  have hlines : (oneLiners settings).list.viewport.rows.lines =
      List.replicate (settings.overscan + 2) settings.rowHeight := by
    rw [List.eq_replicate_iff, RowHeights.length_lines, hs.rows, oneLiners_size]
    refine ⟨rfl, ?_⟩
    intro n hn
    obtain ⟨i, hi, rfl⟩ := List.getElem_of_mem hn
    rw [RowHeights.getElem_lines, oneLiners_height hc]
  rw [hlines, List.sum_replicate_nat]
  exact hc.words

theorem oneLiners_indexAt {offset : Nat} (ho : offset < 2) :
    (oneLiners settings).list.viewport.rows.indexAt offset = some 0 := by
  have hs := (oneLiners_reachable settings).list.inStep
  have hn := Nat.lt_of_lt_of_eq (oneLiners_nonempty settings) hs.rows.symm
  apply hs.valid.rows.indexAt_of_top (oneLiners_sum hc)
  rw [RowHeights.top_succ hn, oneLiners_height hc, RowHeights.top_zero, Nat.zero_add]
  exact ⟨Nat.zero_le _, Nat.lt_of_lt_of_le ho hc.estimate⟩

/-- By the estimates only the first row is on a screen of two lines, and all but the last are prepared. -/
theorem oneLiners_prepares {i : Nat} :
    ((oneLiners settings).list.viewport.setHeight 2).Prepares i ↔ i ≤ settings.overscan := by
  have hs := (oneLiners_reachable settings).list.inStep
  have hwindow : ((oneLiners settings).list.viewport.setHeight 2).window? = some ⟨0, 0⟩ := by
    rw [Viewport.window?, oneLiners_scroll]
    change (do
      let first ← (oneLiners settings).list.viewport.rows.indexAt 0
      let last ← (oneLiners settings).list.viewport.rows.indexAt 1
      some (⟨first, last⟩ : Window)) = _
    rw [oneLiners_indexAt hc Nat.two_pos, oneLiners_indexAt hc Nat.one_lt_two]
    rfl
  have hsize : ((oneLiners settings).list.viewport.setHeight 2).rows.size = settings.overscan + 2 :=
    hs.rows.trans (oneLiners_size settings)
  have hover : ((oneLiners settings).list.viewport.setHeight 2).overscan = settings.overscan := hs.overscan
  have hbound := hc.overscan_lt
  rw [Viewport.Prepares, Viewport.range_of_window hwindow (by dsimp only; omega), hsize, hover]
  dsimp only
  omega

theorem oneLiners_shown : ((oneLiners settings).layOut lowScreen).list.Shown := by
  have hs := (oneLiners_reachable settings).list.inStep
  have hestimate : 2 ≤ (oneLiners settings).list.viewport.rows.estimate := by
    rw [hs.estimate]
    exact Nat.le_trans hc.estimate (Nat.le_max_left _ _)
  have hone : ∀ _ : Nat, 1 ≤ 2 := fun _ => Nat.le_succ 1
  have hshrinks := (Viewport.waiting_unmeasured ((oneLiners settings).list.viewport.setHeight 2)).sum_shrinks
    (hs.valid.setHeight 2) hestimate hone
  refine JobList.layOut_shown hs (oneLiners_nonempty settings) (by decide) (by decide) ?_
  change ((oneLiners settings).layOut lowScreen).list.viewport.rows.lines.sum < Word.size32
  rw [oneLiners_laidOut]
  exact Nat.lt_of_le_of_lt hshrinks (oneLiners_sum hc)

theorem oneLiners_second_inWindow : ((oneLiners settings).layOut lowScreen).list.viewport.InWindow 1 := by
  have hs := (oneLiners_reachable settings).list.inStep
  have hshown := oneLiners_shown hc
  have hscroll : ((oneLiners settings).list.viewport.setHeight
      (JobList.bodyOf (Layout.ofScreen lowScreen).list).height).scroll = 0 := oneLiners_scroll settings _
  have hfirst : ((oneLiners settings).layOut lowScreen).list.viewport.rows.height 0 = 1 := by
    rw [oneLiners_laidOut, (Viewport.waiting_unmeasured _).height_recordAll, if_pos]
    · rfl
    · exact Viewport.mem_unmeasured.2 ⟨(oneLiners_prepares hc).2 (Nat.zero_le _), oneLiners_fresh settings 0⟩
  have htop : ((oneLiners settings).layOut lowScreen).list.viewport.rows.top 1 = 0 + 1 := by
    rw [RowHeights.top_succ (Nat.lt_of_lt_of_eq hshown.nonempty hshown.rows.symm), RowHeights.top_zero, hfirst]
  have hnext : ((oneLiners settings).layOut lowScreen).list.viewport.rows.top 1 ≤
    ((oneLiners settings).layOut lowScreen).list.viewport.rows.top 2 := RowHeights.top_mono (Nat.le_succ 1)
  have hremains : Viewport.Remains ((oneLiners settings).layOut lowScreen).list.viewport.rows 0
      (0 - (oneLiners settings).list.viewport.rows.top 0) 2 1 := by
    rw [Nat.zero_sub]
    refine ⟨?_, .inl (Nat.lt_of_lt_of_le ?_ hnext)⟩
    · rw [htop, RowHeights.top_zero]
      exact Nat.one_lt_two
    · rw [htop, RowHeights.top_zero]
      exact Nat.one_pos
  rw [← hscroll] at hremains
  exact (JobList.layOut_inWindow_iff hs hshown (oneLiners_sum hc)
    (by rw [hscroll]; exact oneLiners_indexAt hc Nat.two_pos) (by rw [oneLiners_size]; omega)).2 hremains

theorem oneLiners_last_prepared :
    ((oneLiners settings).layOut lowScreen).list.viewport.Prepares (settings.overscan + 1) ∧
      ((oneLiners settings).layOut lowScreen).list.viewport.rows.isMeasured (settings.overscan + 1) = false := by
  have hs := (oneLiners_reachable settings).list.inStep
  have hsize : ((oneLiners settings).layOut lowScreen).list.size = settings.overscan + 2 :=
    (JobList.layOut_size _ _).trans (oneLiners_size settings)
  have hover : ((oneLiners settings).layOut lowScreen).list.viewport.overscan = settings.overscan :=
    (JobList.layOut_overscan _ _).trans hs.overscan
  constructor
  · refine ((oneLiners_shown hc).prepares_iff (by rw [hsize, hover]; exact hc.overscan_lt)).2 ?_
    rw [hsize, hover]
    exact ⟨by omega, 1, by omega, oneLiners_second_inWindow hc, by omega, by omega⟩
  · rw [← Bool.not_eq_true]
    intro hm
    rcases (JobList.layOut_isMeasured_iff hs (oneLiners_nonempty settings)).1 hm with hprep | hold
    · exact absurd ((oneLiners_prepares hc).1 hprep) (Nat.not_succ_le_self _)
    · rw [oneLiners_fresh] at hold
      cases hold

omit hc

theorem twoLines_coarse : Coarse twoLines := ⟨by decide, by decide⟩

/-- Of five rows of one line, the last one is prepared and still counts with the two lines of the estimate. -/
theorem fifth_row_not_measured :
    Reachable twoLines {} (oneLiners twoLines) ∧
      ((oneLiners twoLines).list.pager.items.toList.map Job.id).Nodup ∧
      0 < (oneLiners twoLines).list.size ∧ 0 < ((oneLiners twoLines).layOut lowScreen).list.area.height ∧
      ((oneLiners twoLines).layOut lowScreen).list.viewport.Prepares 4 ∧
      ((oneLiners twoLines).layOut lowScreen).list.viewport.rows.isMeasured 4 = false ∧
      ((oneLiners twoLines).layOut lowScreen).list.viewport.rows.height 4 = 2 ∧
      (((oneLiners twoLines).layOut lowScreen).list.item? 4).map (fun j => (RowText.ofJob j).height) = some 1 ∧
      ¬((oneLiners twoLines).layOut lowScreen).list.MeasuresPrepared := by
  have hshown := oneLiners_shown twoLines_coarse
  obtain ⟨hprep, hfresh⟩ := oneLiners_last_prepared twoLines_coarse
  refine ⟨oneLiners_reachable _, oneLiners_nodup _, oneLiners_nonempty _, hshown.lines, hprep, hfresh, ?_, ?_, ?_⟩
  · have hs := (oneLiners_reachable twoLines).list.inStep.act (.layOut (Layout.ofScreen lowScreen).list)
    exact (hshown.valid.rows.height_of_unmeasured hfresh).trans hs.estimate
  · rw [layOut_list, JobList.item?, JobList.layOut_pager]
    decide +kernel
  · intro hall
    rw [(hall _ hprep).1] at hfresh
    cases hfresh

/-- As far as the lines of a few rows fit into a word, the boards of a configuration measure all that they prepare
exactly if its estimates have one line. -/
theorem always_measured_iff (hw : (settings.overscan + 2) * settings.rowHeight < Word.size32) :
    (∀ (filter : Filter) (b : Board) (screen : Area), Reachable settings filter b →
      (b.list.pager.items.toList.map Job.id).Nodup → screen.height < 65536 → 0 < b.list.size →
      0 < (b.layOut screen).list.area.height → b.list.size + settings.overscan < Word.size64 →
      (b.layOut screen).list.viewport.rows.lines.sum < Word.size32 → (b.layOut screen).list.MeasuresPrepared) ↔
    settings.rowHeight ≤ 1 := by
  constructor
  · intro hall
    by_contra he
    have hc : Coarse settings := ⟨Nat.lt_of_not_le he, hw⟩
    obtain ⟨hprep, hfresh⟩ := oneLiners_last_prepared hc
    have hshown := oneLiners_shown hc
    have hm := hall {} _ _ (oneLiners_reachable settings) (oneLiners_nodup settings) (by decide)
      (oneLiners_nonempty settings) hshown.lines
      (by rw [oneLiners_size]; exact hc.overscan_lt) hshown.words
    rw [(hm _ hprep).1] at hfresh
    cases hfresh
  · intro he filter b screen h hids hscreen hn hh hover hw'
    have hshown := layOut_shown h hscreen hn hh hw'
    exact (measuresPrepared_iff_measured h hids hshown).2 fun i =>
      JobList.layOut_measured h.list.inStep he hshown hover

end Board

end JobBoard
