import JobBoard.Proofs.BoardRun
import JobBoard.Proofs.LaidOut
import JobBoard.Proofs.TableLines
import JobBoard.Theme.Palette
import JobBoard.View.ListPanel

/-!
Clicks against the picture. A click is taken for the row that the recorded heights have at its line, counted from the
first visible row on, and the table draws the rows in its own way; both agree as long as the table starts with the
first visible row and its rows are as high as recorded.
-/

namespace JobBoard

theorem Area.not_outside_iff {a : Area} {y : Nat} :
    (decide (y < a.top) || decide (a.bottom ≤ y)) = false ↔ a.top ≤ y ∧ y < a.bottom := by
  rw [Bool.or_eq_false_iff, decide_eq_false_iff_not, decide_eq_false_iff_not, Nat.not_lt, Nat.not_le]

theorem Layout.list_height_le (screen : Area) : (Layout.ofScreen screen).list.height ≤ screen.height := by
  simp only [Layout.ofScreen, Area.parted]
  omega

namespace JobList

def tableHeights (theme : Theme) (now : Instant) (l : JobList) : List Nat :=
  (l.tableRows theme now).map TableRow.height

def drawnAtLine (theme : Theme) (now : Instant) (l : JobList) (y : Nat) : Option Nat :=
  if y < l.area.top || l.area.bottom ≤ y then none
  else
    (Table.rowDrawnAt l.area.height (l.tableHeights theme now) l.selected? (y - l.area.top)).bind fun k =>
      l.drawnJobs[k]?.map Prod.fst

/-- The table starts with the first visible row, and on screen its rows are as high as recorded. -/
structure InPlace (theme : Theme) (now : Instant) (l : JobList) : Prop where
  selection : ∀ k, l.selected? = some k → ((l.tableHeights theme now).take (k + 1)).sum ≤ l.area.height
  heights : Table.visible l.area.height (l.viewport.rows.lines.drop l.drawRange.1) =
    Table.visible l.area.height (l.tableHeights theme now)

/-- A list with rows that has been given a place with lines. -/
structure Shown (l : JobList) : Prop where
  valid : l.viewport.Valid
  rows : l.viewport.rows.size = l.size
  height : l.viewport.height = l.area.height
  nonempty : 0 < l.size
  lines : 0 < l.area.height
  fits : l.area.height < Word.size32
  words : l.viewport.rows.lines.sum < Word.size32

variable {l : JobList} {theme : Theme} {now : Instant}

theorem Shown.window (h : l.Shown) : ∃ first last, l.viewport.window? = some ⟨first, last⟩ ∧
    first < l.size ∧ last < l.size ∧
    (l.viewport.rows.top first ≤ l.viewport.scroll ∧ l.viewport.scroll < l.viewport.rows.top (first + 1)) ∧
    ∀ i < l.size, first ≤ i ∧ i ≤ last ↔ l.viewport.Shows i := by
  obtain ⟨first, last, hw, hfirst, hlast, htop, hshows⟩ := h.valid.window h.words (by rw [h.height]; exact h.fits)
    (by rw [h.height]; exact h.lines) (by rw [h.rows]; exact h.nonempty)
  rw [h.rows] at hfirst hlast hshows
  exact ⟨first, last, hw, hfirst, hlast, htop, hshows⟩

theorem drawRange_of_window {w : Window} (h : l.viewport.window? = some w) : l.drawRange =
    (w.first, min (Word.add64 (Word.add64 w.last l.viewport.overscan) 1) l.viewport.rows.size) := by
  simp only [drawRange, Viewport.range, h, Option.map_some, Option.getD_some]

/-- A click is taken for the row that has its line when the recorded heights are laid out from the first visible
row on. -/
theorem Shown.indexAtLine (h : l.Shown) {line : Nat} (hl : line < l.area.height) :
    l.indexAtLine (l.area.top + line) =
      (Table.rowAt (l.viewport.rows.lines.drop l.drawRange.1) line).map (l.drawRange.1 + ·) := by
  obtain ⟨first, last, hw, hlt, -, ⟨htop, -⟩, -⟩ := h.window
  have hfirst := congrArg Prod.fst (drawRange_of_window hw)
  have hscroll := h.valid.scroll
  rw [h.valid.maxScroll_eq h.words, h.height] at hscroll
  have hfits := h.fits
  have hwords := h.words
  have hoff : Word.add32 (l.viewport.rows.top first) line = l.viewport.rows.top first + line :=
    Word.add32_of_lt (by omega)
  have harea := Area.not_outside_iff.2 ⟨Nat.le_add_right l.area.top line, Nat.add_lt_add_left hl l.area.top⟩
  have hsum : l.viewport.rows.lines.sum = l.viewport.rows.top first + (l.viewport.rows.lines.drop first).sum := by
    conv_lhs => rw [← List.take_append_drop first l.viewport.rows.lines, List.sum_append]
    rfl
  simp only [JobList.indexAtLine, harea, hw, Bool.false_eq_true, ↓reduceIte, h.valid.rows.offsetOf h.words,
    h.valid.rows.total h.words, Nat.add_sub_cancel_left, hoff, Option.bind_eq_bind, Option.bind_some, hfirst]
  -- The search counts from the top of the list, the table from the first visible row on.
  rcases Table.rowAt_spec (l.viewport.rows.lines.drop first) line with ⟨k, hk, hlen, hle, hgt⟩ | ⟨hn, hle⟩
  · have hin : ¬l.viewport.rows.lines.sum ≤ l.viewport.rows.top first + line := by
      have := sum_take_le (l.viewport.rows.lines.drop first) (k + 1)
      omega
    rw [hk, if_neg hin]
    obtain ⟨i, hi, -, hrow | ⟨-, hend⟩⟩ := h.valid.rows.indexAt h.words (by rw [h.rows]; exact h.nonempty)
      (l.viewport.rows.top first + line)
    · have hat : l.viewport.rows.top (first + k) ≤ l.viewport.rows.top first + line ∧
          l.viewport.rows.top first + line < l.viewport.rows.top (first + k + 1) := by
        rw [Nat.add_assoc, RowHeights.top_add, RowHeights.top_add]
        omega
      rw [hi, RowHeights.eq_of_top_le hrow hat]
      rfl
    · exact absurd hend hin
  · rw [hn, if_pos (by omega)]
    rfl

theorem layOut_shown {settings : Settings} (hs : l.InStep settings) (hn : 0 < l.size) {panel : Area}
    (hh : 0 < (bodyOf panel).height) (hf : (bodyOf panel).height < Word.size32)
    (hw : (l.layOut panel).viewport.rows.lines.sum < Word.size32) : (l.layOut panel).Shown := by
  obtain ⟨v, c, he, hv, -⟩ := l.layOut_frame panel
  have hheight := layOut_height hs hn panel
  rw [he] at hheight hw ⊢
  exact ⟨hv.valid hs.valid, hv.size.trans hs.rows, hheight, hn, hh, hf, hw⟩

theorem length_drawnJobs (h : l.Shown) : l.drawnJobs.length = l.drawRange.2 - l.drawRange.1 := by
  have hle := l.viewport.range_stop_le
  rw [h.rows] at hle
  rw [← List.length_map Prod.fst]
  exact (congrArg List.length (map_fst_jobsBetween hle)).trans List.length_range'

theorem drawnJobs_index (h : l.Shown) {k : Nat} (hk : k < l.drawnJobs.length) :
    l.drawnJobs[k]?.map Prod.fst = some (l.drawRange.1 + k) := by
  have hle := l.viewport.range_stop_le
  rw [h.rows] at hle
  have he : l.drawnJobs.map Prod.fst = List.range' l.drawRange.1 (l.drawRange.2 - l.drawRange.1) :=
    map_fst_jobsBetween hle
  rw [length_drawnJobs h] at hk
  rw [← List.getElem?_map, he, List.getElem?_range' hk, Nat.one_mul]

theorem tableHeights_eq (theme : Theme) (now : Instant) (l : JobList) :
    l.tableHeights theme now = l.drawnJobs.map fun p => (l.cache.text p.2).height := by
  rw [tableHeights, tableRows, List.map_map]
  rfl

theorem tableHeights_bounds (theme : Theme) (now : Instant) (l : JobList) :
    ∀ h ∈ l.tableHeights theme now, 0 < h ∧ h ≤ 2 := by
  rw [tableHeights_eq]
  intro h hh
  obtain ⟨p, -, rfl⟩ := List.mem_map.1 hh
  exact ⟨(l.cache.text p.2).height_pos, (l.cache.text p.2).height_le⟩

theorem drawRange_eq (l : JobList) : l.drawRange =
    ((l.viewport.window?.map Window.first).getD l.viewport.range.1, l.viewport.range.2) := rfl

theorem selected?_eq (l : JobList) : l.selected? =
    (l.cursor.active.filter fun i => l.drawRange.1 ≤ i && i < l.drawRange.2).map (· - l.drawRange.1) := rfl

theorem selected?_lt (h : l.Shown) {k : Nat} (hk : l.selected? = some k) :
    k < (l.tableHeights theme now).length ∧ l.cursor.active = some (l.drawRange.1 + k) := by
  rw [tableHeights_eq, List.length_map, length_drawnJobs h]
  rw [selected?_eq] at hk
  obtain ⟨i, hi, rfl⟩ := Option.map_eq_some_iff.1 hk
  obtain ⟨ha, hr⟩ := Option.filter_eq_some_iff.1 hi
  simp only [Bool.and_eq_true, decide_eq_true_eq] at hr
  refine ⟨?_, ?_⟩
  · omega
  · rw [ha]
    congr 1
    omega

theorem Shown.tableHeight (theme : Theme) (now : Instant) (h : l.Shown) {i : Nat}
    (hr : l.drawRange.1 ≤ i ∧ i < l.drawRange.2) :
    ∃ hlt : i - l.drawRange.1 < (l.tableHeights theme now).length,
      (l.tableHeights theme now)[i - l.drawRange.1] = l.textHeight l.cache i := by
  have hlt : i - l.drawRange.1 < l.drawnJobs.length := by
    rw [length_drawnJobs h]
    omega
  have hindex := drawnJobs_index h hlt
  have hitem := item_of_mem_jobsBetween (List.getElem_mem hlt)
  rw [List.getElem?_eq_getElem hlt, Option.map_some] at hindex
  have he : l.drawnJobs[i - l.drawRange.1].1 = i := by
    have := Option.some.inj hindex
    omega
  rw [he] at hitem
  refine ⟨by rw [tableHeights_eq, List.length_map]; exact hlt, ?_⟩
  rw [textHeight_of_item? hitem]
  simp only [tableHeights_eq, List.getElem_map]

theorem Shown.drawnAtLine (theme : Theme) (now : Instant) (h : l.Shown) {line : Nat} (hl : line < l.area.height) :
    l.drawnAtLine theme now (l.area.top + line) =
      (Table.rowDrawnAt l.area.height (l.tableHeights theme now) l.selected? line).map (l.drawRange.1 + ·) := by
  have harea := Area.not_outside_iff.2 ⟨Nat.le_add_right l.area.top line, Nat.add_lt_add_left hl l.area.top⟩
  rw [JobList.drawnAtLine, harea, if_neg Bool.false_ne_true, Nat.add_sub_cancel_left,
    Table.rowDrawnAt_eq (tableHeights_bounds theme now l) (fun i hi => (selected?_lt h hi).1) hl]
  generalize (Table.whole l.area.height (l.tableHeights theme now) l.selected?).1 = first
  rcases Table.rowAt_spec ((l.tableHeights theme now).drop first) line with ⟨k, hk, hlen, -⟩ | ⟨hn, -⟩
  · rw [hk]
    rw [List.length_drop, tableHeights_eq, List.length_map] at hlen
    exact drawnJobs_index h (show first + k < l.drawnJobs.length by omega)
  · rw [hn]
    rfl

theorem line_of_drawnAtLine {y i : Nat} (h : l.drawnAtLine theme now y = some i) :
    ∃ line < l.area.height, y = l.area.top + line := by
  have hin : l.area.top ≤ y ∧ y < l.area.bottom := by
    by_contra hout
    rw [← Area.not_outside_iff, Bool.not_eq_false] at hout
    rw [drawnAtLine, hout, if_pos rfl] at h
    cases h
  obtain ⟨line, rfl⟩ := Nat.exists_eq_add_of_le hin.1
  exact ⟨line, Nat.lt_of_add_lt_add_left hin.2, rfl⟩

theorem drawnAtLine_lt {y i : Nat} (h : l.drawnAtLine theme now y = some i) : i < l.drawRange.2 := by
  unfold drawnAtLine at h
  split at h
  · cases h
  · obtain ⟨k, -, hk⟩ := Option.bind_eq_some_iff.1 h
    obtain ⟨p, hp, rfl⟩ := Option.map_eq_some_iff.1 hk
    obtain ⟨n, hn, hj⟩ := List.mem_filterMap.1 (List.mem_of_getElem? hp)
    obtain ⟨j, -, rfl⟩ := Option.map_eq_some_iff.1 hj
    have hr : l.drawRange.1 ≤ n ∧ n < l.drawRange.1 + (l.drawRange.2 - l.drawRange.1) := List.mem_range'_1.1 hn
    exact (by omega : n < l.drawRange.2)

/-- At a line, clicks and the picture agree exactly if the recorded heights and those of the table have the same row
there. -/
theorem Shown.agree_at_iff (h : l.Shown) {line : Nat} (hl : line < l.area.height) :
    l.indexAtLine (l.area.top + line) = l.drawnAtLine theme now (l.area.top + line) ↔
      Table.rowAt (l.viewport.rows.lines.drop l.drawRange.1) line =
        (Table.rowAt ((l.tableHeights theme now).drop
          (Table.whole l.area.height (l.tableHeights theme now) l.selected?).1) line).map
            ((Table.whole l.area.height (l.tableHeights theme now) l.selected?).1 + ·) := by
  have hinj : Function.Injective (Option.map (l.drawRange.1 + ·)) := by
    apply Option.map_injective
    intro i j hij
    exact Nat.add_left_cancel hij
  rw [h.indexAtLine hl, h.drawnAtLine theme now hl,
    Table.rowDrawnAt_eq (tableHeights_bounds theme now l) (fun i hi => (selected?_lt h hi).1) hl]
  exact hinj.eq_iff

theorem Shown.lines_ne_nil (h : l.Shown) : l.viewport.rows.lines.drop l.drawRange.1 ≠ [] := by
  obtain ⟨first, last, hw, hlt, -⟩ := h.window
  rw [drawRange_of_window hw]
  intro he
  have hle := List.drop_eq_nil_iff.1 he
  rw [RowHeights.length_lines, h.rows] at hle
  exact absurd hlt (Nat.not_lt.2 hle)

theorem Shown.agree_iff (h : l.Shown) :
    (∀ y, l.area.top ≤ y → y < l.area.bottom → l.indexAtLine y = l.drawnAtLine theme now y) ↔
      l.InPlace theme now := by
  have hpos : ∀ x ∈ l.viewport.rows.lines.drop l.drawRange.1, 0 < x := by
    intro x hx
    exact h.valid.rows.positive x (List.mem_of_mem_drop hx)
  have hiff := Table.rowAt_drop_iff hpos (fun x hx => (tableHeights_bounds theme now l x hx).1)
    h.lines_ne_nil h.lines (Table.whole l.area.height (l.tableHeights theme now) l.selected?).1
  rw [Table.whole_first fun i hi => (selected?_lt h hi).1] at hiff
  constructor
  · intro ha
    obtain ⟨hs, hh⟩ := hiff.1 fun line hline =>
      (h.agree_at_iff hline).1 (ha _ (Nat.le_add_right _ _) (Nat.add_lt_add_left hline _))
    exact ⟨hs, hh⟩
  · intro hp y hy hy'
    obtain ⟨line, rfl⟩ := Nat.exists_eq_add_of_le hy
    have hline : line < l.area.height := Nat.lt_of_add_lt_add_left hy'
    exact (h.agree_at_iff hline).2 (hiff.2 ⟨hp.selection, hp.heights⟩ line hline)

theorem tableHeights_of_uniform (theme : Theme) (now : Instant) (h : l.Shown)
    (hc : l.cache.Holds l.pager.items) {k : Nat} (hu : ∀ j ∈ l.pager.items, (RowText.ofJob j).height = k) :
    l.tableHeights theme now = List.replicate (l.drawRange.2 - l.drawRange.1) k := by
  rw [tableHeights_eq, List.eq_replicate_iff, List.length_map, length_drawnJobs h]
  refine ⟨rfl, ?_⟩
  intro x hx
  obtain ⟨p, hp, rfl⟩ := List.mem_map.1 hx
  exact text_height_of_uniform hc hu (mem_of_item? (item_of_mem_jobsBetween hp))

end JobList

namespace Board

variable {settings : Settings} {filter : Filter} {b : Board}

theorem body_height_lt {screen : Area} (h : screen.height < 65536) :
    (JobList.bodyOf (Layout.ofScreen screen).list).height < Word.size32 := by
  have := Layout.list_height_le screen
  simp only [JobList.bodyOf, Area.belowFirst, Area.inside, Word.size32]
  omega

theorem layOut_shown (h : Reachable settings filter b) {screen : Area} (hscreen : screen.height < 65536)
    (hn : 0 < b.list.size) (hh : 0 < (b.layOut screen).list.area.height)
    (hw : (b.layOut screen).list.viewport.rows.lines.sum < Word.size32) : (b.layOut screen).list.Shown := by
  have harea := b.list.layOut_area (Layout.ofScreen screen).list
  rw [layOut_list, harea] at hh
  exact JobList.layOut_shown h.list.inStep hn hh (body_height_lt hscreen) hw

/-- On a board that has just been drawn, clicks are taken for the rows that are drawn at their lines exactly if the
table is in place: the active row fits into it below the rows before it, and the rows on screen are as high as
recorded. -/
theorem clicks_hit_drawn_rows_iff (h : Reachable settings filter b) (theme : Theme) (instant : Instant) (now : Nat)
    {screen : Area} (hscreen : screen.height < 65536) (hn : 0 < b.list.size)
    (hh : 0 < (b.layOut screen).list.area.height)
    (hw : (b.layOut screen).list.viewport.rows.lines.sum < Word.size32) :
    (∀ y, (b.layOut screen).list.area.top ≤ y → y < (b.layOut screen).list.area.bottom →
      (b.after now (.draw screen)).list.indexAtLine y = (b.layOut screen).list.drawnAtLine theme instant y) ↔
    (b.layOut screen).list.InPlace theme instant := by
  rw [after_draw]
  exact (layOut_shown h hscreen hn hh hw).agree_iff

theorem draw_items (b : Board) (now : Nat) (screen : Area) :
    (b.after now (.draw screen)).list.pager.items = b.list.pager.items := by
  rw [after_draw]
  exact (JobList.afterDraw_items _).trans (congrArg Pager.items (JobList.layOut_pager _ _))

theorem draw_cursor (b : Board) (now : Nat) (screen : Area) :
    (b.after now (.draw screen)).list.cursor = b.list.cursor := by
  rw [after_draw]
  exact b.list.layOut_cursor _

theorem draw_viewport (b : Board) (now : Nat) (screen : Area) :
    (b.after now (.draw screen)).list.viewport = (b.layOut screen).list.viewport := by
  obtain ⟨t, inFlight, h⟩ := (b.layOut screen).list.afterDraw_frame
  rw [after_draw]
  exact (congrArg JobList.viewport h).trans rfl

theorem layOut_viewport_of_uniform (h : Reachable settings filter b) (hn : 0 < b.list.size) {k : Nat}
    (hu : ∀ j ∈ b.list.pager.items, (RowText.ofJob j).height = k) (screen : Area) :
    (b.layOut screen).list.viewport =
      (b.list.viewport.setHeight (JobList.bodyOf (Layout.ofScreen screen).list).height).recordAll (fun _ => k)
        (b.list.viewport.setHeight (JobList.bodyOf (Layout.ofScreen screen).list).height).unmeasured :=
  JobList.layOut_viewport_of_uniform h.list.inStep hn hu _

theorem layOut_holds (h : Reachable settings filter b) (screen : Area) :
    (b.layOut screen).list.cache.Holds (b.layOut screen).list.pager.items :=
  (JobList.Reachable.act (.layOut (Layout.ofScreen screen).list) h.list).inStep.cache

/-- A screen on which the list has five lines. -/
def smallScreen : Area := { width := 80, height := 16 }

def loaded (items : List Job) : Board :=
  ((start {} {}).after 0 .mount).after 0 (.report (.pageLoaded ⟨1⟩ { items }))

theorem loaded_reachable (items : List Job) : Reachable {} {} (loaded items) := .after _ _ (.after _ _ .start)

/-- Twelve rows of one line. -/
def twelve : List Job := (List.range 12).map fun n => { id := n }

/-- A board on which the last of twelve rows has been made the active one. -/
def lastOfTwelve : Board := (loaded twelve).after 0 (.key { code := .last })

theorem lastOfTwelve_reachable : Reachable {} {} lastOfTwelve := .after _ _ (loaded_reachable twelve)

theorem lastOfTwelve_uniform : ∀ j ∈ lastOfTwelve.list.pager.items, (RowText.ofJob j).height = 1 := by
  decide +kernel

theorem lastOfTwelve_viewport : (lastOfTwelve.layOut smallScreen).list.viewport =
    (lastOfTwelve.list.viewport.setHeight 5).recordAll (fun _ => 1)
      (lastOfTwelve.list.viewport.setHeight 5).unmeasured :=
  layOut_viewport_of_uniform lastOfTwelve_reachable (by decide +kernel) lastOfTwelve_uniform smallScreen

theorem lastOfTwelve_area : (lastOfTwelve.layOut smallScreen).list.area = ⟨1, 8, 78, 5⟩ :=
  (JobList.layOut_area _ _).trans (by decide)

theorem lastOfTwelve_shown : (lastOfTwelve.layOut smallScreen).list.Shown :=
  JobList.layOut_shown lastOfTwelve_reachable.list.inStep (by decide +kernel) (by decide) (by decide) (by
    change (lastOfTwelve.layOut smallScreen).list.viewport.rows.lines.sum < Word.size32
    rw [lastOfTwelve_viewport]
    decide +kernel)

theorem lastOfTwelve_inPlace : (lastOfTwelve.layOut smallScreen).list.InPlace Theme.nord ⟨0, 0⟩ := by
  have hrange : (lastOfTwelve.layOut smallScreen).list.drawRange = (7, 12) := by
    rw [JobList.drawRange_eq, lastOfTwelve_viewport]
    decide +kernel
  have hcursor : (lastOfTwelve.layOut smallScreen).list.cursor = ⟨some 11⟩ :=
    (JobList.layOut_cursor _ _).trans (by decide +kernel)
  have hheights := JobList.tableHeights_of_uniform Theme.nord ⟨0, 0⟩ lastOfTwelve_shown
    (layOut_holds lastOfTwelve_reachable smallScreen) (k := 1) (by
      rw [layOut_list, JobList.layOut_pager]
      exact lastOfTwelve_uniform)
  constructor
  · rw [hheights, lastOfTwelve_area, JobList.selected?_eq, hcursor, hrange]
    decide
  · rw [hheights, lastOfTwelve_area, hrange, lastOfTwelve_viewport]
    decide +kernel

theorem clicks_hit_drawn_rows_of_lastOfTwelve :
    smallScreen.height < 65536 ∧ 0 < lastOfTwelve.list.size ∧
    (lastOfTwelve.layOut smallScreen).list.InPlace Theme.nord ⟨0, 0⟩ ∧
    ∀ y, (lastOfTwelve.layOut smallScreen).list.area.top ≤ y →
      y < (lastOfTwelve.layOut smallScreen).list.area.bottom →
      (lastOfTwelve.after 0 (.draw smallScreen)).list.indexAtLine y =
        (lastOfTwelve.layOut smallScreen).list.drawnAtLine Theme.nord ⟨0, 0⟩ y :=
  ⟨by decide, by decide +kernel, lastOfTwelve_inPlace,
    (clicks_hit_drawn_rows_iff lastOfTwelve_reachable Theme.nord ⟨0, 0⟩ 0 (by decide) (by decide +kernel)
      lastOfTwelve_shown.lines lastOfTwelve_shown.words).2 lastOfTwelve_inPlace⟩

/-- The same board when it has been drawn and the wheel has been turned back: the active row is out of sight, but
still prepared. -/
def turnedBack : Board := (lastOfTwelve.after 0 (.draw smallScreen)).after 0 (.mouse ⟨.scrollUp, 5, 9⟩)

theorem turnedBack_reachable : Reachable {} {} turnedBack := .after _ _ (.after _ _ lastOfTwelve_reachable)

theorem turnedBack_list : turnedBack.list = (lastOfTwelve.after 0 (.draw smallScreen)).list.scrollBy (-3) := by
  rw [turnedBack, after_draw]
  rfl

theorem turnedBack_items : turnedBack.list.pager.items = lastOfTwelve.list.pager.items := by
  rw [turnedBack_list]
  exact draw_items lastOfTwelve 0 smallScreen

theorem turnedBack_viewport :
    turnedBack.list.viewport = (((lastOfTwelve.list.viewport.setHeight 5).recordAll (fun _ => 1)
      (lastOfTwelve.list.viewport.setHeight 5).unmeasured).scrollBy (-3)).1 := by
  rw [turnedBack_list, after_draw, ← lastOfTwelve_viewport]
  rfl

theorem turnedBack_uniform : ∀ j ∈ turnedBack.list.pager.items, (RowText.ofJob j).height = 1 := by
  rw [turnedBack_items]
  exact lastOfTwelve_uniform

theorem turnedBack_size : turnedBack.list.size = 12 := by
  rw [JobList.size, Pager.size, turnedBack_items]
  decide +kernel

theorem turnedBack_laidOut : (turnedBack.layOut smallScreen).list.viewport =
    (turnedBack.list.viewport.setHeight 5).recordAll (fun _ => 1)
      (turnedBack.list.viewport.setHeight 5).unmeasured :=
  layOut_viewport_of_uniform turnedBack_reachable (by rw [turnedBack_size]; decide) turnedBack_uniform smallScreen

/-- A click on the ninth line, where row 8 is drawn, is taken for row 5: the table has moved on to show the active
row. -/
theorem click_misses_drawn_row :
    Reachable {} {} turnedBack ∧ (turnedBack.layOut smallScreen).list.area = ⟨1, 8, 78, 5⟩ ∧
    (turnedBack.after 0 (.draw smallScreen)).list.indexAtLine 9 = some 5 ∧
    (turnedBack.layOut smallScreen).list.drawnAtLine Theme.nord ⟨0, 0⟩ 9 = some 8 := by
  have harea : (turnedBack.layOut smallScreen).list.area = ⟨1, 8, 78, 5⟩ :=
    (JobList.layOut_area _ _).trans (by decide)
  have hrange : (turnedBack.layOut smallScreen).list.drawRange = (4, 12) := by
    rw [JobList.drawRange_eq, turnedBack_laidOut, turnedBack_viewport]
    decide +kernel
  have hcursor : (turnedBack.layOut smallScreen).list.cursor = ⟨some 11⟩ := by
    rw [layOut_list, JobList.layOut_cursor, turnedBack_list]
    exact (draw_cursor lastOfTwelve 0 smallScreen).trans (by decide +kernel)
  have hshown : (turnedBack.layOut smallScreen).list.Shown :=
    JobList.layOut_shown turnedBack_reachable.list.inStep (by rw [turnedBack_size]; decide) (by decide) (by decide) (by
      change (turnedBack.layOut smallScreen).list.viewport.rows.lines.sum < Word.size32
      rw [turnedBack_laidOut, turnedBack_viewport]
      decide +kernel)
  have hheights := JobList.tableHeights_of_uniform Theme.nord ⟨0, 0⟩ hshown
    (layOut_holds turnedBack_reachable smallScreen) (k := 1) (by
      rw [layOut_list, JobList.layOut_pager]
      exact turnedBack_uniform)
  refine ⟨turnedBack_reachable, harea, ?_, ?_⟩
  · rw [after_draw]
    change (turnedBack.layOut smallScreen).list.indexAtLine 9 = some 5
    rw [JobList.indexAtLine, harea, turnedBack_laidOut, turnedBack_viewport]
    decide +kernel
  · have hline := hshown.drawnAtLine Theme.nord ⟨0, 0⟩ (show 1 < _ by rw [harea]; decide)
    rw [harea, hheights, hrange, JobList.selected?_eq, hcursor, hrange] at hline
    rw [show (9 : Nat) = (⟨1, 8, 78, 5⟩ : Area).top + 1 from rfl, hline]
    decide

end Board

end JobBoard
