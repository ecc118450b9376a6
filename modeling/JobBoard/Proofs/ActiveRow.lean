import JobBoard.Proofs.CursorRun
import JobBoard.Proofs.HitTest

/-!
The active row when the board is drawn after a move. The move scrolls to the row by the heights that are known then;
drawing measures rows anew, keeps the row at the top of the screen in its place, and does not look at the active row
again. So what decides is how the rows between both have changed.
-/

namespace JobBoard

namespace Viewport

def InWindow (v : Viewport) (i : Nat) : Prop := ∃ w, v.window? = some w ∧ w.first ≤ i ∧ i ≤ w.last

/-- Whether a line of a row is on a screen of `height` lines at whose top row `first` stands with `gone` of its lines
above the screen, or that shows the end of the list if there are too few rows from there on. -/
structure Remains (rows : RowHeights) (first gone height i : Nat) : Prop where
  above_end : rows.top i < rows.top first + gone + height
  below_start : rows.top first + gone < rows.top (i + 1) ∨ rows.lines.sum - height < rows.top (i + 1)

end Viewport

namespace JobList

variable {l : JobList} {settings : Settings} {theme : Theme} {now : Instant}

def Drawn (theme : Theme) (now : Instant) (l : JobList) (i : Nat) : Prop :=
  ∃ y, l.drawnAtLine theme now y = some i

theorem Shown.inWindow_iff (h : l.Shown) {i : Nat} (hi : i < l.size) :
    l.viewport.InWindow i ↔ l.viewport.Shows i := by
  obtain ⟨first, last, hw, -, -, -, hshows⟩ := h.window
  rw [← hshows i hi]
  constructor
  · rintro ⟨w, hw', hle⟩
    rw [hw] at hw'
    cases hw'
    exact hle
  · exact fun hle => ⟨_, hw, hle⟩

theorem Shown.drawRange_of_inWindow (h : l.Shown) (ho : l.size + l.viewport.overscan < Word.size64) {i : Nat}
    (hi : i < l.size) (hin : l.viewport.InWindow i) : l.drawRange.1 ≤ i ∧ i < l.drawRange.2 := by
  obtain ⟨first, last, hw, -, hlast, -⟩ := h.window
  obtain ⟨w, hw', hle⟩ := hin
  rw [hw] at hw'
  cases hw'
  dsimp only at hle
  have hover : Word.add64 last l.viewport.overscan = last + l.viewport.overscan := Word.add64_of_lt (by omega)
  have hone : Word.add64 (last + l.viewport.overscan) 1 = last + l.viewport.overscan + 1 :=
    Word.add64_of_lt (by omega)
  simp only [drawRange_of_window hw, hover, hone, h.rows]
  omega

/-- The active row, if it is in the window, is drawn exactly if it has no more lines than the screen. -/
theorem Shown.drawn_iff (h : l.Shown) {i : Nat} (hr : l.drawRange.1 ≤ i ∧ i < l.drawRange.2)
    (hactive : l.cursor.active = some i) : l.Drawn theme now i ↔ l.textHeight l.cache i ≤ l.area.height := by
  have hselected : l.selected? = some (i - l.drawRange.1) := by
    rw [selected?_eq, hactive, Option.filter_some, if_pos (by simpa using hr)]
    rfl
  have hiff : (∃ line < l.area.height, Table.rowDrawnAt l.area.height (l.tableHeights theme now)
      (some (i - l.drawRange.1)) line = some (i - l.drawRange.1)) ↔ l.textHeight l.cache i ≤ l.area.height := by
    obtain ⟨hlt, hheight⟩ := h.tableHeight theme now hr
    rw [← hheight]
    exact Table.selected_drawn_iff (tableHeights_bounds theme now l) hlt
  rw [← hiff]
  constructor
  · rintro ⟨y, hy⟩
    obtain ⟨line, hline, rfl⟩ := line_of_drawnAtLine hy
    rw [h.drawnAtLine theme now hline, hselected] at hy
    obtain ⟨k, hk, hki⟩ := Option.map_eq_some_iff.1 hy
    refine ⟨line, hline, ?_⟩
    rw [hk]
    congr 1
    omega
  · rintro ⟨line, hline, he⟩
    refine ⟨l.area.top + line, ?_⟩
    rw [h.drawnAtLine theme now hline, hselected, he, Option.map_some]
    congr 1
    omega

theorem layOut_scroll (hs : l.InStep settings) (hn : 0 < l.size) {panel : Area} (hh : 0 < (bodyOf panel).height)
    (hw : l.viewport.rows.lines.sum < Word.size32)
    (hw' : (l.layOut panel).viewport.rows.lines.sum < Word.size32) {first : Nat}
    (hf : (l.viewport.setHeight (bodyOf panel).height).rows.indexAt
      (l.viewport.setHeight (bodyOf panel).height).scroll = some first) :
    (l.layOut panel).viewport.scroll =
      min ((l.layOut panel).viewport.rows.top first +
          ((l.viewport.setHeight (bodyOf panel).height).scroll - l.viewport.rows.top first))
        ((l.layOut panel).viewport.rows.lines.sum - (bodyOf panel).height) := by
  obtain ⟨c, -, hv⟩ := layOut_viewport hs hn panel
  have hvalid := hs.valid.setHeight (bodyOf panel).height
  have hrows : 0 < (l.viewport.setHeight (bodyOf panel).height).rows.size := Nat.lt_of_lt_of_eq hn hs.rows.symm
  obtain ⟨f, hf', hlt, htop⟩ := hvalid.first hw hh hrows
  obtain rfl : f = first := Option.some.inj (hf'.symm.trans hf)
  rw [hv] at hw' ⊢
  exact (Viewport.waiting_unmeasured _).scroll_recordAll hvalid (fun i => (l.textHeight_bounds c i).2) hh hw hw'
    hlt htop

/-- A row is in the window when the list has been laid out exactly if it remains there with the row that is kept at
the top of the screen. -/
theorem layOut_inWindow_iff (hs : l.InStep settings) {panel : Area} (hshown : (l.layOut panel).Shown)
    (hw : l.viewport.rows.lines.sum < Word.size32) {first : Nat}
    (hf : (l.viewport.setHeight (bodyOf panel).height).rows.indexAt
      (l.viewport.setHeight (bodyOf panel).height).scroll = some first) {i : Nat} (hi : i < l.size) :
    (l.layOut panel).viewport.InWindow i ↔
      Viewport.Remains (l.layOut panel).viewport.rows first
        ((l.viewport.setHeight (bodyOf panel).height).scroll - l.viewport.rows.top first) (bodyOf panel).height i := by
  have harea := hshown.height
  have hlines := hshown.lines
  rw [layOut_area] at harea hlines
  have hscroll := layOut_scroll hs (Nat.zero_lt_of_lt hi) hlines hw hshown.words hf
  have hlt : i < (l.layOut panel).viewport.rows.size := by
    rw [hshown.rows, layOut_size]
    exact hi
  have htop := hshown.valid.rows.top_lt_sum hlt
  rw [hshown.inWindow_iff (by rw [layOut_size]; exact hi), Viewport.Shows, hscroll, harea]
  constructor
  · rintro ⟨hend, hstart⟩
    exact ⟨by omega, by omega⟩
  · rintro ⟨hend, hstart⟩
    exact ⟨by omega, by omega⟩

/-- The active row is in the window and is drawn when the list has been laid out exactly if it remains on screen and
has no more lines than the screen. -/
theorem layOut_active_iff (theme : Theme) (now : Instant) (hs : l.InStep settings)
    (hc : l.cursor.Inside l.size) {i : Nat} (hactive : l.cursor.active = some i) {panel : Area}
    (hh : 0 < (bodyOf panel).height) (hf : (bodyOf panel).height < Word.size32)
    (hover : l.size + settings.overscan < Word.size64)
    (hw : l.viewport.rows.lines.sum < Word.size32)
    (hw' : (l.layOut panel).viewport.rows.lines.sum < Word.size32) :
    ∃ first, (l.viewport.setHeight (bodyOf panel).height).rows.indexAt
        (l.viewport.setHeight (bodyOf panel).height).scroll = some first ∧
      ((l.layOut panel).viewport.InWindow i ∧ (l.layOut panel).Drawn theme now i ↔
        Viewport.Remains (l.layOut panel).viewport.rows first
            ((l.viewport.setHeight (bodyOf panel).height).scroll - l.viewport.rows.top first) (bodyOf panel).height i ∧
          (l.layOut panel).textHeight (l.layOut panel).cache i ≤ (bodyOf panel).height) := by
  have hi : i < l.size := hc i hactive
  have hn := Nat.zero_lt_of_lt hi
  have hshown := layOut_shown hs hn hh hf hw'
  obtain ⟨first, hfirst, -⟩ := (hs.valid.setHeight (bodyOf panel).height).first hw hh
    (Nat.lt_of_lt_of_eq hn hs.rows.symm)
  have hi' : i < (l.layOut panel).size := by
    rw [layOut_size]
    exact hi
  have hover' : (l.layOut panel).size + (l.layOut panel).viewport.overscan < Word.size64 := by
    rw [layOut_size, layOut_overscan, hs.overscan]
    exact hover
  have hdrawn (hin : (l.layOut panel).viewport.InWindow i) : (l.layOut panel).Drawn theme now i ↔
      (l.layOut panel).textHeight (l.layOut panel).cache i ≤ (bodyOf panel).height := by
    rw [hshown.drawn_iff (hshown.drawRange_of_inWindow hover' hi' hin) (by rw [layOut_cursor]; exact hactive),
      layOut_area]
  refine ⟨first, hfirst, ?_⟩
  rw [← layOut_inWindow_iff hs hshown hw hfirst hi]
  exact and_congr_right hdrawn

end JobList

namespace Board

structure MovesTo (b : Board) (now : Nat) (e : Event) (i : Nat) : Prop where
  input : (∃ k, e = .key k) ∨ ∃ m, e = .mouse m
  before : b.list.cursor.active ≠ some i
  after : (b.after now e).list.cursor.active = some i

variable {settings : Settings} {filter : Filter} {b : Board} {now : Nat} {e : Event} {i : Nat}

theorem MovesTo.viewport (hm : b.MovesTo now e i) (h : Reachable settings filter b) :
    (b.after now e).list.viewport = (b.list.viewport.ensureVisible i).1 := by
  have hafter := hm.after
  have hdoes : b.list.Does (b.on e).1.list := by
    rcases hm.input with ⟨k, rfl⟩ | ⟨m, rfl⟩
    · exact b.press_does k
    · exact b.point_does m
  rw [after_list] at hafter ⊢
  exact hdoes.moved h.list hm.before hafter

/-- The row to which a key or the mouse has moved is in the window when the board is drawn next, and a line of it is
drawn, exactly if it remains on screen when measuring has changed the rows between it and the one at the top of the
screen, and has no more lines than the screen. -/
theorem moved_row_on_screen_iff (h : Reachable settings filter b) (hm : b.MovesTo now e i) (theme : Theme)
    (instant : Instant) {screen : Area} (hscreen : screen.height < 65536)
    (hh : 0 < ((b.after now e).layOut screen).list.area.height)
    (hover : (b.after now e).list.size + settings.overscan < Word.size64)
    (hw : b.list.viewport.rows.lines.sum < Word.size32)
    (hw' : ((b.after now e).layOut screen).list.viewport.rows.lines.sum < Word.size32) :
    let v := (b.list.viewport.ensureVisible i).1.setHeight ((b.after now e).layOut screen).list.area.height
    let shown := ((b.after now e).layOut screen).list
    ∃ first, v.rows.indexAt v.scroll = some first ∧
      (shown.viewport.InWindow i ∧ shown.Drawn theme instant i ↔
        Viewport.Remains shown.viewport.rows first (v.scroll - v.rows.top first) v.height i ∧
          shown.textHeight shown.cache i ≤ v.height) := by
  have hreach : Reachable settings filter (b.after now e) := .after now e h
  have hmoved := hm.viewport h
  have harea : ((b.after now e).layOut screen).list.area.height =
      (JobList.bodyOf (Layout.ofScreen screen).list).height := by
    rw [layOut_list, JobList.layOut_area]
  have hlines : (b.after now e).list.viewport.rows.lines.sum < Word.size32 := by
    rw [hmoved, Viewport.ensureVisible_rows]
    exact hw
  rw [harea] at hh ⊢
  have hiff := JobList.layOut_active_iff theme instant hreach.list.inStep
    hreach.list.cursor_inside hm.after hh (body_height_lt hscreen) hover hlines hw'
  rw [hmoved] at hiff
  exact hiff

/-- The row to which a key or the mouse has moved is in the window when the board is drawn next at the same size, as
long as no row has to be measured for that. -/
theorem moved_row_inWindow_of_measured (h : Reachable settings filter b) (hm : b.MovesTo now e i) {screen : Area}
    (hscreen : screen.height < 65536) (hh : 0 < b.list.viewport.height)
    (hsame : b.list.viewport.height = (JobList.bodyOf (Layout.ofScreen screen).list).height)
    (hmeasured : ((b.list.viewport.ensureVisible i).1.setHeight b.list.viewport.height).unmeasured = [])
    (hw : b.list.viewport.rows.lines.sum < Word.size32) :
    ((b.after now e).layOut screen).list.viewport.InWindow i := by
  have hreach : Reachable settings filter (b.after now e) := .after now e h
  have hs := hreach.list.inStep
  have hi : i < (b.after now e).list.size := hreach.list.cursor_inside i hm.after
  have hmoved := hm.viewport h
  have hrows : i < b.list.viewport.rows.size := by
    rw [← Viewport.ensureVisible_rows _ i, ← hmoved, hs.rows]
    exact hi
  have hvalid := h.list.inStep.valid.ensureVisible i
  have hheight : (b.list.viewport.ensureVisible i).1.height = b.list.viewport.height := Viewport.ensureVisible_height _ i
  rw [← hheight, hvalid.setHeight_self] at hmeasured
  have hv : (JobList.layOut (b.after now e).list (Layout.ofScreen screen).list).viewport =
      (b.after now e).list.viewport := by
    apply JobList.layOut_viewport_of_measured hs (Nat.zero_lt_of_lt hi)
    · rw [hmoved, hheight, hsame]
    · rw [hmoved, hmeasured]
  have hbody := body_height_lt hscreen
  have hshows := h.list.inStep.valid.shows_ensureVisible hw (by rw [hsame]; exact hbody) hh hrows
  rw [← hmoved, ← hv] at hshows
  have hshown : ((b.after now e).layOut screen).list.Shown :=
    JobList.layOut_shown hs (Nat.zero_lt_of_lt hi) (by rw [← hsame]; exact hh) hbody (by
      rw [hv, hmoved, Viewport.ensureVisible_rows]
      exact hw)
  exact (hshown.inWindow_iff (by rw [layOut_list, JobList.layOut_size]; exact hi)).2 hshows

theorem lastOfTwelve_moves : (loaded twelve).MovesTo 0 (.key { code := .last }) 11 where
  input := .inl ⟨_, rfl⟩
  before := by decide
  after := by decide +kernel

theorem moved_row_on_screen_of_lastOfTwelve :
    (loaded twelve).MovesTo 0 (.key { code := .last }) 11 ∧ smallScreen.height < 65536 ∧
    (lastOfTwelve.layOut smallScreen).list.viewport.InWindow 11 ∧
    (lastOfTwelve.layOut smallScreen).list.Drawn Theme.nord ⟨0, 0⟩ 11 := by
  obtain ⟨first, hf, hiff⟩ := moved_row_on_screen_iff (loaded_reachable twelve) lastOfTwelve_moves Theme.nord ⟨0, 0⟩
    (show smallScreen.height < 65536 by decide) lastOfTwelve_shown.lines (by decide +kernel) (by decide)
    lastOfTwelve_shown.words
  have harea := lastOfTwelve_area
  have hview := lastOfTwelve_viewport
  unfold lastOfTwelve at harea hview ⊢
  rw [harea] at hf hiff
  have hfirst : first = 7 := Option.some.inj (hf.symm.trans (by decide +kernel))
  subst hfirst
  refine ⟨lastOfTwelve_moves, by decide, hiff.2 ⟨?_, ?_⟩⟩
  · rw [hview]
    exact ⟨by decide +kernel, by decide +kernel⟩
  · exact Nat.le_trans (JobList.textHeight_bounds _ _ _).2 (by decide)

/-- Twenty rows that all have a reason for a review, and so a second line. -/
def twentyTall : List Job :=
  (List.range 20).map fun n => { id := n, needsReview := true, reviewReason := some "stuck" }

/-- A screen on which the list has thirteen lines. -/
def usualScreen : Area := { width := 80, height := 24 }

/-- A board on which the last of twenty such rows has been made the active one. -/
def lastOfTwenty : Board := (loaded twentyTall).after 0 (.key { code := .last })

theorem lastOfTwenty_reachable : Reachable {} {} lastOfTwenty := .after _ _ (loaded_reachable twentyTall)

theorem lastOfTwenty_moves : (loaded twentyTall).MovesTo 0 (.key { code := .last }) 19 where
  input := .inl ⟨_, rfl⟩
  before := by decide
  after := by decide +kernel

theorem lastOfTwenty_uniform : ∀ j ∈ lastOfTwenty.list.pager.items, (RowText.ofJob j).height = 2 := by
  decide +kernel

theorem lastOfTwenty_viewport : (lastOfTwenty.layOut usualScreen).list.viewport =
    (lastOfTwenty.list.viewport.setHeight 13).recordAll (fun _ => 2)
      (lastOfTwenty.list.viewport.setHeight 13).unmeasured :=
  layOut_viewport_of_uniform lastOfTwenty_reachable (by decide +kernel) lastOfTwenty_uniform usualScreen

/-- The last of twenty tall rows is made the active one, and drawing stops six rows short of it: seven rows fill the
screen, and the table gets three more. -/
theorem moved_row_out_of_sight :
    Reachable {} {} (loaded twentyTall) ∧ (loaded twentyTall).MovesTo 0 (.key { code := .last }) 19 ∧
    (lastOfTwenty.layOut usualScreen).list.area = ⟨1, 8, 78, 13⟩ ∧
    ¬(lastOfTwenty.layOut usualScreen).list.viewport.InWindow 19 ∧
    ¬(lastOfTwenty.layOut usualScreen).list.Drawn Theme.nord ⟨0, 0⟩ 19 := by
  have hwindow : (lastOfTwenty.layOut usualScreen).list.viewport.window? = some ⟨7, 13⟩ := by
    rw [lastOfTwenty_viewport]
    decide +kernel
  have hrange : (lastOfTwenty.layOut usualScreen).list.drawRange = (7, 17) := by
    rw [JobList.drawRange_eq, lastOfTwenty_viewport]
    decide +kernel
  have harea := (JobList.layOut_area lastOfTwenty.list (Layout.ofScreen usualScreen).list).trans
    (show _ = (⟨1, 8, 78, 13⟩ : Area) by decide)
  refine ⟨loaded_reachable twentyTall, lastOfTwenty_moves, harea, ?_, ?_⟩
  · rintro ⟨w, hw, -, hlast⟩
    rw [hwindow] at hw
    cases hw
    exact absurd hlast (by decide)
  · rintro ⟨y, hy⟩
    have hlt := JobList.drawnAtLine_lt hy
    rw [hrange] at hlt
    exact absurd hlt (by decide)

end Board

end JobBoard
