import JobBoard.Proofs.CursorRun
import JobBoard.Proofs.HitTest

/-!
Rows that are as high on screen as they are recorded. A board records a height only when it draws the row, and then
it is that of the text. With estimates of one line, measuring pushes rows off the screen and brings none onto it, so
all rows on screen have been measured.
-/

namespace JobBoard

namespace JobList

/-- No number stands for two different jobs. -/
def Unambiguous (l : JobList) : Prop := ∀ j ∈ l.pager.items, ∀ k ∈ l.pager.items, j.id = k.id → j = k

/-- While no number stands for two jobs, measured rows are as high as their texts. -/
def Faithful (l : JobList) : Prop :=
  l.Unambiguous → ∀ i j, l.item? i = some j → l.viewport.rows.isMeasured i = true →
    l.viewport.rows.height i = (RowText.ofJob j).height

/-- What becomes of the recorded heights where nothing is measured. -/
inductive RowsStep (l : JobList) : JobList → Prop
  | keep {m : JobList} (hr : m.viewport.rows = l.viewport.rows) (hi : m.pager.items = l.pager.items) : RowsStep l m
  | clear {m : JobList} (hr : m.viewport.rows = l.viewport.rows.clear) : RowsStep l m

variable {l : JobList} {settings : Settings} {filter : Filter} {theme : Theme} {now : Instant}

theorem afterMove_rows (l : JobList) (c : Cursor) (o : CursorOutcome) :
    RowsStep l ({ l with cursor := c }.afterMove o).1 := by
  cases o with
  | unchanged => exact .keep rfl rfl
  | moved j =>
    refine .keep ?_ (follow_items _ j)
    rw [afterMove, follow_viewport, Viewport.ensureVisible_rows]
  | activated j => exact .keep rfl rfl

theorem commit_rows (l : JobList) : RowsStep l l.commit.1 := by
  unfold commit FilterDraft.commit
  split
  · exact .keep rfl rfl
  · exact .clear rfl

theorem act_rows (l : JobList) {a : ListAction} (ha : a.measures = false) : RowsStep l (l.act a).1 := by
  cases a with
  | mount => exact .clear rfl
  | edit f => exact .keep rfl rfl
  | commit => exact l.commit_rows
  | applyNow => exact l.commit_rows
  | clearFilters =>
    cases commit_rows { l with draft := l.draft.edit fun _ => .everything } with
    | keep hr hi => exact .keep hr hi
    | clear hr => exact .clear hr
  | refresh => exact .clear rfl
  | retry =>
    change RowsStep l l.retry.1
    unfold retry
    split
    · exact .keep rfl l.pager.fetch_items
    · exact .keep rfl rfl
  | scrollBy d => exact .keep rfl rfl
  | navigate key => exact l.afterMove_rows _ _
  | select index => exact l.afterMove_rows _ _
  | setHeight height => exact .keep rfl rfl
  | recordHeight index height => cases ha
  | layOut panel => cases ha
  | afterDraw => exact .keep rfl l.afterDraw_items

theorem RowsStep.faithful {m : JobList} (hs : RowsStep l m) (h : l.Faithful) : m.Faithful := by
  intro hu i j hj hm
  cases hs with
  | keep hr hi =>
    rw [Unambiguous, hi] at hu
    rw [item?, hi] at hj
    rw [hr] at hm ⊢
    exact h hu i j hj hm
  | clear hr =>
    rw [hr] at hm
    cases hm

theorem receive_faithful (hs : l.InStep settings) (h : l.Faithful) (page : Page) :
    (l.receive l.pager.generation page).Faithful := by
  rw [receive_current]
  intro hu i j hj hm
  change (l.viewport.rows.resize _).height i = _
  change (l.viewport.rows.resize _).isMeasured i = true at hm
  rw [RowHeights.resize_of_le (hs.rows_le page)] at hm ⊢
  rw [RowHeights.isMeasured_grow] at hm
  have hlt := RowHeights.lt_size_of_isMeasured hm
  rw [RowHeights.height_grow _ hlt]
  refine h ?_ i j ?_ hm
  · intro j hj k hk
    exact hu j (Array.mem_append_left _ hj) k (Array.mem_append_left _ hk)
  · rw [hs.rows] at hlt
    rw [← hj]
    exact (Array.getElem?_append_left hlt).symm

theorem learn_faithful (hs : l.InStep settings) (h : l.Faithful) (g : Generation) (a : PageAnswer) :
    (l.learn g a).Faithful := by
  by_cases hg : g = l.pager.generation
  · subst hg
    cases a with
    | page p => exact receive_faithful hs h p
    | failure error =>
      simp only [JobList.learn, fail_current]
      exact h
  · rw [learn_stale hg]
    exact h

theorem layOut_unambiguous (hu : l.Unambiguous) (panel : Area) : (l.layOut panel).Unambiguous := by
  rw [Unambiguous, layOut_pager]
  exact hu

theorem text_of_unambiguous {c : RowCache} (hc : c.Holds l.pager.items) (hu : l.Unambiguous) {j : Job}
    (hj : j ∈ l.pager.items) : c.text j = .ofJob j := by
  apply hc.text_of_agree _ hj
  intro j hj k hk hid
  rw [hu j hj k hk hid]

theorem layOut_viewport_of_unambiguous (hs : l.InStep settings) (hn : 0 < l.size) (hu : l.Unambiguous)
    (panel : Area) : (l.layOut panel).viewport =
      (l.viewport.setHeight (bodyOf panel).height).recordAll
        (fun i => ((l.item? i).map fun j => (RowText.ofJob j).height).getD 1)
        (l.viewport.setHeight (bodyOf panel).height).unmeasured := by
  obtain ⟨c, hc, hv⟩ := layOut_viewport hs hn panel
  rw [hv]
  apply Viewport.recordAll_congr
  intro i _
  unfold textHeight
  cases hj : l.item? i with
  | none => rfl
  | some j => rw [Option.map_some, Option.map_some, text_of_unambiguous hc hu (mem_of_item? hj)]

theorem layOut_faithful (hs : l.InStep settings) (h : l.Faithful) (panel : Area) : (l.layOut panel).Faithful := by
  intro hu i j hj hm
  rw [Unambiguous, layOut_pager] at hu
  rw [item?, layOut_pager] at hj
  have hmem : j ∈ l.pager.items := mem_of_item? (l := l) hj
  have hn : 0 < l.size := Array.size_pos_of_mem hmem
  have hwaiting := Viewport.waiting_unmeasured (l.viewport.setHeight (bodyOf panel).height)
  obtain ⟨c, hc, hv⟩ := layOut_viewport hs hn panel
  rw [hv] at hm ⊢
  rw [hwaiting.height_recordAll]
  split
  · rw [textHeight_of_item? hj, text_of_unambiguous hc hu hmem]
    exact Nat.max_eq_left (RowText.ofJob j).height_pos
  · rename_i hnot
    rcases (hwaiting.isMeasured_recordAll i).1 hm with hin | hm'
    · exact absurd hin hnot
    · exact h hu i j hj hm'

/-- Where estimates have one line, the window lies inside the one there was before rows were measured. -/
theorem layOut_window_within (hs : l.InStep settings) (he : settings.rowHeight ≤ 1) {panel : Area}
    (hshown : (l.layOut panel).Shown) :
    ∃ w w', (l.viewport.setHeight (bodyOf panel).height).window? = some w ∧
      (l.layOut panel).viewport.window? = some w' ∧ w.first ≤ w'.first ∧ w'.last ≤ w.last ∧ w.last < l.size := by
  have hn : 0 < l.size := by
    rw [← l.layOut_size panel]
    exact hshown.nonempty
  have hrows : l.viewport.rows.size = l.size := hs.rows
  have hest : l.viewport.rows.estimate = 1 := by
    rw [hs.estimate]
    exact Nat.max_eq_right he
  have hlines := hshown.lines
  have hfits := hshown.fits
  have hwords := hshown.words
  rw [layOut_area] at hlines hfits
  obtain ⟨c, -, hv⟩ := layOut_viewport hs hn panel
  rw [hv] at hwords
  have hvalid := hs.valid.setHeight (bodyOf panel).height
  have hwaiting := Viewport.waiting_unmeasured (l.viewport.setHeight (bodyOf panel).height)
  have hsum := Nat.lt_of_le_of_lt (hwaiting.sum_grows hvalid hest (l.textHeight c)) hwords
  have hshows {k : Nat} (hk : k < l.size) (h : (l.layOut panel).viewport.Shows k) :
      (l.viewport.setHeight (bodyOf panel).height).Shows k := by
    rw [hv] at h
    exact hwaiting.shows_recordAll hvalid (fun i => (l.textHeight_bounds c i).2) hlines hest hwords
      (Nat.lt_of_lt_of_eq hk hrows.symm) h
  obtain ⟨first, last, hw, -, hlast, -, hold⟩ := hvalid.window hsum hfits hlines (Nat.lt_of_lt_of_eq hn hrows.symm)
  obtain ⟨first', last', hw', hfirst', hlast', htop', hnew⟩ := hshown.window
  rw [layOut_size] at hfirst' hlast' hnew
  change last < l.viewport.rows.size at hlast
  change ∀ i < l.viewport.rows.size, _ at hold
  rw [hrows] at hlast hold
  have hpos : 0 < (l.layOut panel).viewport.height := by
    rw [hshown.height]
    exact hshown.lines
  have hstart : (l.layOut panel).viewport.Shows first' := ⟨by omega, htop'.2⟩
  have hle := (hnew first' hfirst').2 hstart
  have hend := (hnew last' hlast').1 ⟨hle.2, Nat.le_refl _⟩
  exact ⟨_, _, hw, hw', ((hold first' hfirst').2 (hshows hfirst' hstart)).1,
    ((hold last' hlast').2 (hshows hlast' hend)).2, hlast⟩

theorem layOut_measured (hs : l.InStep settings) (he : settings.rowHeight ≤ 1) {panel : Area}
    (hshown : (l.layOut panel).Shown) (hover : l.size + settings.overscan < Word.size64) {i : Nat}
    (hi : (l.layOut panel).viewport.Prepares i) : (l.layOut panel).viewport.rows.isMeasured i = true := by
  obtain ⟨w, w', hw, hw', hfirst, hlast, hlt⟩ := layOut_window_within hs he hshown
  have ho : (l.viewport.setHeight (bodyOf panel).height).overscan = settings.overscan := hs.overscan
  have hn : (l.viewport.setHeight (bodyOf panel).height).rows.size = l.size := hs.rows
  refine (layOut_isMeasured_iff hs (Nat.zero_lt_of_lt hlt)).2 (.inl ?_)
  rw [Viewport.Prepares, Viewport.range_of_window hw' (by rw [layOut_overscan, hs.overscan]; omega), layOut_overscan,
    hs.overscan, hshown.rows, layOut_size] at hi
  rw [Viewport.Prepares, Viewport.range_of_window hw (by omega), ho, hn]
  dsimp only at hi ⊢
  omega

theorem prepares_of_drawRange {i : Nat} (hi : l.drawRange.1 ≤ i ∧ i < l.drawRange.2) : l.viewport.Prepares i := by
  rw [drawRange_eq] at hi
  refine ⟨?_, hi.2⟩
  cases hw : l.viewport.window? with
  | none =>
    rw [hw] at hi
    exact hi.1
  | some w =>
    rw [hw] at hi
    simp only [Viewport.range, hw]
    exact Nat.le_trans (Nat.sub_le _ _) hi.1

theorem Shown.tableHeights_eq_take (h : l.Shown) (theme : Theme) (now : Instant) (hf : l.Faithful)
    (hu : l.Unambiguous) (hc : l.cache.Holds l.pager.items)
    (hm : ∀ i, l.drawRange.1 ≤ i ∧ i < l.drawRange.2 → l.viewport.rows.isMeasured i = true) :
    l.tableHeights theme now =
      (l.viewport.rows.lines.drop l.drawRange.1).take (l.drawRange.2 - l.drawRange.1) := by
  have hstop : l.drawRange.2 ≤ l.viewport.rows.size := l.viewport.range_stop_le
  have hlength : (l.tableHeights theme now).length = l.drawRange.2 - l.drawRange.1 := by
    rw [tableHeights_eq, List.length_map, length_drawnJobs h]
  apply List.ext_getElem
  · rw [hlength, List.length_take, List.length_drop, RowHeights.length_lines]
    omega
  · intro k hk hk'
    rw [hlength] at hk
    have hi : l.drawRange.1 ≤ l.drawRange.1 + k ∧ l.drawRange.1 + k < l.drawRange.2 := by omega
    obtain ⟨hlt, htext⟩ := h.tableHeight theme now hi
    obtain ⟨j, hj, hmem⟩ := l.item?_of_lt (i := l.drawRange.1 + k) (by rw [← h.rows]; omega)
    rw [textHeight_of_item? hj, text_of_unambiguous hc hu hmem, ← hf hu _ j hj (hm _ hi)] at htext
    simp only [Nat.add_sub_cancel_left] at htext
    rw [htext, List.getElem_take, List.getElem_drop, RowHeights.getElem_lines]

theorem Shown.drawRange_fills (h : l.Shown) (hover : l.size + l.viewport.overscan < Word.size64) :
    (l.viewport.rows.lines.drop l.drawRange.1).length ≤ l.drawRange.2 - l.drawRange.1 ∨
      l.area.height ≤
        ((l.viewport.rows.lines.drop l.drawRange.1).take (l.drawRange.2 - l.drawRange.1)).sum := by
  obtain ⟨first, last, hw, hfirst, hlast, htop, hshows⟩ := h.window
  have hrange := drawRange_of_window hw
  rw [Word.add64_of_lt (a := last) (by omega), Word.add64_of_lt (by omega), h.rows] at hrange
  rw [hrange]
  dsimp only
  rw [List.length_drop, RowHeights.length_lines, h.rows]
  rcases Nat.lt_or_ge (last + l.viewport.overscan + 1) l.size with hlt | hge
  · right
    have hlines := h.lines
    have hheight := h.height
    have hle := (hshows first hfirst).2 ⟨by omega, htop.2⟩
    have hend := (hshows last hlast).1 ⟨hle.2, Nat.le_refl _⟩
    have hbehind : ¬l.viewport.Shows (last + 1) := by
      intro hs
      have := (hshows (last + 1) (by omega)).2 hs
      omega
    have hnext : l.viewport.rows.top (last + 1) ≤ l.viewport.rows.top (last + 1 + 1) :=
      RowHeights.top_mono (Nat.le_succ _)
    have hfull : l.viewport.scroll + l.area.height ≤ l.viewport.rows.top (last + 1) := by
      rw [Viewport.Shows, Decidable.not_and_iff_or_not] at hbehind
      have := hend.2
      omega
    have hadd := l.viewport.rows.top_add first (last + l.viewport.overscan + 1 - first)
    have hmono : l.viewport.rows.top (last + 1) ≤ l.viewport.rows.top (last + l.viewport.overscan + 1) :=
      RowHeights.top_mono (by omega)
    rw [Nat.add_sub_cancel' (by omega)] at hadd
    rw [Nat.min_eq_left (Nat.le_of_lt hlt)]
    omega
  · left
    rw [Nat.min_eq_right hge]

end JobList

namespace Board

variable {settings : Settings} {filter : Filter} {b : Board}

theorem ListStep.faithful {l m : JobList} (h : ListStep l m) (hs : l.InStep settings) (hf : l.Faithful) :
    m.Faithful := by
  cases h with
  | does hd =>
    cases hd with
    | nothing => exact hf
    | act a ha => exact (l.act_rows ha).faithful hf
  | learn g a => exact JobList.learn_faithful hs hf g a
  | draw panel =>
    have hdraw := (l.layOut panel).act_rows (show ListAction.measures .afterDraw = false from rfl)
    exact hdraw.faithful (JobList.layOut_faithful hs hf panel)

theorem Reachable.faithful (h : Reachable settings filter b) : b.list.Faithful := by
  induction h with
  | start =>
    intro hu i j hj hm
    cases hm
  | after now e hr ih =>
    rw [after_list]
    exact (on_step _ e).faithful hr.list.inStep ih

/-- With estimates of one line and numbers that stand for one job each, clicks on a board that has just been drawn
are taken for the rows that are drawn at their lines exactly if the active row fits into the table below the rows
before it. -/
theorem clicks_hit_drawn_rows_iff_fits (h : Reachable settings filter b) (he : settings.rowHeight ≤ 1)
    (hu : b.list.Unambiguous) (theme : Theme) (instant : Instant) (now : Nat) {screen : Area}
    (hscreen : screen.height < 65536) (hn : 0 < b.list.size) (hover : b.list.size + settings.overscan < Word.size64)
    (hh : 0 < (b.layOut screen).list.area.height)
    (hw : (b.layOut screen).list.viewport.rows.lines.sum < Word.size32) :
    (∀ y, (b.layOut screen).list.area.top ≤ y → y < (b.layOut screen).list.area.bottom →
      (b.after now (.draw screen)).list.indexAtLine y = (b.layOut screen).list.drawnAtLine theme instant y) ↔
    ∀ k, (b.layOut screen).list.selected? = some k →
      (((b.layOut screen).list.tableHeights theme instant).take (k + 1)).sum ≤
        (b.layOut screen).list.area.height := by
  have hs := h.list.inStep
  have hshown := layOut_shown h hscreen hn hh hw
  have hover' : (b.layOut screen).list.size + (b.layOut screen).list.viewport.overscan < Word.size64 := by
    rw [layOut_list, JobList.layOut_size, JobList.layOut_overscan, hs.overscan]
    exact hover
  have htable := hshown.tableHeights_eq_take theme instant (JobList.layOut_faithful hs h.faithful _)
    (JobList.layOut_unambiguous hu _) (layOut_holds h screen) fun i hi =>
      JobList.layOut_measured hs he hshown hover (JobList.prepares_of_drawRange hi)
  have hvisible := Table.visible_take (hshown.drawRange_fills hover')
  rw [← htable] at hvisible
  rw [after_draw]
  refine hshown.agree_iff.trans ?_
  constructor
  · intro hp
    exact hp.selection
  · intro hfit
    exact ⟨hfit, hvisible.symm⟩

end Board

end JobBoard
