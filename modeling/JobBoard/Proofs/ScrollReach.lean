import JobBoard.Proofs.DrawnHeights

/-!
Scrolling through a list. Offsets are counted in lines, while the table starts with a row of its own. Where the
largest offset cuts a row of two lines, the table therefore ends a line before the list does, and the last row stays
out of reach; all others can be reached.
-/

namespace JobBoard

namespace RowHeights

variable {r : RowHeights} {limit i : Nat}

theorem exists_row_of_lt_sum {offset : Nat} (h : offset < r.lines.sum) :
    ∃ f < r.size, r.top f ≤ offset ∧ offset < r.top (f + 1) := by
  rcases Table.rowAt_spec r.lines offset with ⟨f, -, hlen, hle⟩ | ⟨-, hle⟩
  · rw [length_lines] at hlen
    exact ⟨f, hlen, hle⟩
  · exact absurd h (Nat.not_lt.2 hle)

/-- Whether a row can be seen whole on `limit` lines that start with the row at some offset. -/
def InReach (r : RowHeights) (limit i : Nat) : Prop :=
  ∃ offset ≤ r.lines.sum - limit, ∃ first ≤ i,
    (r.top first ≤ offset ∧ offset < r.top (first + 1)) ∧ r.top (i + 1) ≤ r.top first + limit

theorem Sound.inReach_of_top_le (hr : r.Sound) (hi : i < r.size) (hheight : r.height i ≤ limit)
    (h : r.top i ≤ r.lines.sum - limit) : r.InReach limit i := by
  refine ⟨r.top i, h, i, Nat.le_refl i, ⟨Nat.le_refl _, hr.top_lt_succ hi⟩, ?_⟩
  rw [top_succ hi]
  exact Nat.add_le_add_left hheight _

/-- With rows of one or two lines all rows but the last are in reach, and the last one is exactly if a row starts at
the largest offset. -/
theorem Sound.inReach_iff (hr : r.Sound) (hb : ∀ i < r.size, r.height i ≤ 2) (hlimit : 2 ≤ limit)
    (hi : i < r.size) : r.InReach limit i ↔ i + 1 < r.size ∨ ∃ k, r.top k = r.lines.sum - limit := by
  have hheight := hb i hi
  have hlast := r.top_le (i + 1)
  constructor
  · rintro ⟨offset, hoffset, first, -, ⟨htop, -⟩, hend⟩
    rcases Nat.lt_or_ge (i + 1) r.size with hlt | hge
    · exact .inl hlt
    · have hsum : r.top (i + 1) = r.lines.sum := by
        rw [Nat.le_antisymm (show i + 1 ≤ r.size from hi) hge, top_size]
      exact .inr ⟨first, by omega⟩
  · intro h
    rcases Nat.lt_or_ge (r.lines.sum - limit) (r.top i) with hbehind | htop
    · have hsum := hr.top_lt_sum hi
      rcases h with hnext | ⟨k, hk⟩
      -- The row at the largest offset may be cut, but then a line of room is left, and the last row has it.
      · obtain ⟨first, hfirst, htop⟩ := r.exists_row_of_lt_sum (Nat.lt_trans hbehind hsum)
        have hle : first ≤ i := (le_iff_top_le ⟨Nat.le_refl _, hr.top_lt_succ hi⟩).2 (by omega)
        refine ⟨_, Nat.le_refl _, first, hle, htop, ?_⟩
        have hstep := top_succ hfirst
        have htall := hb first hfirst
        have hrest := hr.top_lt_sum hnext
        omega
      · have hk' : k ≤ i := (le_iff_top_le ⟨Nat.le_refl _, hr.top_lt_succ hi⟩).2 (by omega)
        have hsucc := hr.top_lt_succ (Nat.lt_of_le_of_lt hk' hi)
        exact ⟨_, Nat.le_refl _, k, hk', ⟨by omega, by omega⟩, by omega⟩
    · exact hr.inReach_of_top_le hi (Nat.le_trans hheight hlimit) htop

end RowHeights

namespace JobList

variable {l : JobList} {settings : Settings} {theme : Theme} {now : Instant} {panel : Area} {i : Nat}

/-- A list that has been drawn at a place with two lines at least, with all its rows measured and none of them
active. -/
structure AtRest (l : JobList) (panel : Area) : Prop where
  height : l.viewport.height = (bodyOf panel).height
  lines : 2 ≤ (bodyOf panel).height
  measured : ∀ i < l.size, l.viewport.rows.isMeasured i = true
  inactive : l.cursor.active = none

def DrawnWhole (theme : Theme) (now : Instant) (l : JobList) (i : Nat) : Prop :=
  ∃ j, l.item? i = some j ∧ ∃ y, ∀ k < (RowText.ofJob j).height, l.drawnAtLine theme now (y + k) = some i

/-- A table without a selected row and with the recorded heights has the lines that the recorded heights have from
the first visible row on. -/
theorem Shown.drawnAtLine_iff (h : l.Shown) (ho : l.size + l.viewport.overscan < Word.size64)
    (ht : l.tableHeights theme now = (l.viewport.rows.lines.drop l.drawRange.1).take (l.drawRange.2 - l.drawRange.1))
    (ha : l.cursor.active = none) {line : Nat} (hl : line < l.area.height) :
    l.drawnAtLine theme now (l.area.top + line) = some i ↔
      i < l.size ∧ l.drawRange.1 ≤ i ∧ l.viewport.rows.top i ≤ l.viewport.rows.top l.drawRange.1 + line ∧
        l.viewport.rows.top l.drawRange.1 + line < l.viewport.rows.top (i + 1) := by
  have hsel : l.selected? = none := by
    rw [selected?_eq, ha]
    rfl
  have hrow : Table.rowDrawnAt l.area.height (l.tableHeights theme now) none line =
      Table.rowAt (l.viewport.rows.lines.drop l.drawRange.1) line := by
    have hfills := h.drawRange_fills ho
    rw [Table.rowDrawnAt_eq (tableHeights_bounds theme now l) (fun i hi => by cases hi) hl, ht]
    change (Table.rowAt _ line).map (0 + ·) = _
    simp only [Nat.zero_add, Option.map_id_fun', id_eq]
    exact Table.rowAt_take (hfills.imp id fun hle => Nat.lt_of_lt_of_le hl hle)
  rw [h.drawnAtLine theme now hl, hsel, hrow, Option.map_eq_some_iff]
  constructor
  · rintro ⟨k, hk, rfl⟩
    obtain ⟨hlen, hle, hgt⟩ := Table.rowAt_eq_some_iff.1 hk
    rw [List.length_drop, RowHeights.length_lines, h.rows] at hlen
    rw [Nat.add_assoc, RowHeights.top_add, RowHeights.top_add]
    omega
  · rintro ⟨hi, hfirst, hle, hgt⟩
    obtain ⟨k, rfl⟩ := Nat.exists_eq_add_of_le hfirst
    rw [Nat.add_assoc, RowHeights.top_add] at hgt
    rw [RowHeights.top_add] at hle
    refine ⟨k, Table.rowAt_eq_some_iff.2 ⟨?_, by omega, by omega⟩, rfl⟩
    rw [List.length_drop, RowHeights.length_lines, h.rows]
    omega

/-- A row of such a table is drawn whole exactly if it is among the lines from the first visible row on. -/
theorem Shown.drawnWhole_iff (h : l.Shown) (ho : l.size + l.viewport.overscan < Word.size64)
    (ht : l.tableHeights theme now = (l.viewport.rows.lines.drop l.drawRange.1).take (l.drawRange.2 - l.drawRange.1))
    (ha : l.cursor.active = none) {j : Job} (hj : l.item? i = some j)
    (hheight : l.viewport.rows.height i = (RowText.ofJob j).height) :
    l.DrawnWhole theme now i ↔ l.drawRange.1 ≤ i ∧
      l.viewport.rows.top (i + 1) ≤ l.viewport.rows.top l.drawRange.1 + l.area.height := by
  have hi : i < l.size := (Array.getElem?_eq_some_iff.1 hj).1
  have hpos := (RowText.ofJob j).height_pos
  have htop := RowHeights.top_succ (show i < l.viewport.rows.size by rw [h.rows]; exact hi)
  rw [hheight] at htop
  constructor
  · rintro ⟨j', hj', y, hy⟩
    obtain rfl : j' = j := Option.some.inj (hj'.symm.trans hj)
    -- The first of its lines tells where the row starts, the last one that it ends on screen.
    obtain ⟨line, hline, rfl⟩ := line_of_drawnAtLine (hy 0 hpos)
    obtain ⟨line', hline', he⟩ := line_of_drawnAtLine (hy _ (Nat.sub_lt hpos Nat.one_pos))
    obtain ⟨-, hfirst, hle, -⟩ := (h.drawnAtLine_iff ho ht ha hline).1 (hy 0 hpos)
    exact ⟨hfirst, by omega⟩
  · rintro ⟨hfirst, hend⟩
    have hmono : l.viewport.rows.top l.drawRange.1 ≤ l.viewport.rows.top i := RowHeights.top_mono hfirst
    refine ⟨j, hj, l.area.top + (l.viewport.rows.top i - l.viewport.rows.top l.drawRange.1), ?_⟩
    intro k hk
    rw [Nat.add_assoc]
    exact (h.drawnAtLine_iff ho ht ha (by omega)).2 ⟨hi, hfirst, by omega, by omega⟩

theorem AtRest.scrollBy (h : l.AtRest panel) (d : Int) : (l.scrollBy d).AtRest panel :=
  ⟨h.height, h.lines, h.measured, h.inactive⟩

theorem AtRest.unmeasured (h : l.AtRest panel) (hs : l.InStep settings) : l.viewport.unmeasured = [] := by
  refine List.eq_nil_iff_forall_not_mem.2 ?_
  intro i hi
  have hlt := (Viewport.waiting_unmeasured _).inside i hi
  have hfresh := (Viewport.mem_unmeasured.1 hi).2
  rw [hs.rows] at hlt
  rw [h.measured i hlt] at hfresh
  cases hfresh

theorem AtRest.layOut_viewport (h : l.AtRest panel) (hs : l.InStep settings) (hn : 0 < l.size) :
    (l.layOut panel).viewport = l.viewport :=
  layOut_viewport_of_measured hs hn h.height (h.unmeasured hs)

/-- A row is drawn whole exactly if it is on the lines that start with the row at the scroll offset. -/
theorem AtRest.drawnWhole_iff (h : l.AtRest panel) (theme : Theme) (now : Instant) (hs : l.InStep settings)
    (hf : l.Faithful) (hu : l.Unambiguous) (hbody : (bodyOf panel).height < Word.size32)
    (ho : l.size + settings.overscan < Word.size64) (hw : l.viewport.rows.lines.sum < Word.size32)
    (hi : i < l.size) :
    (l.layOut panel).DrawnWhole theme now i ↔ ∃ first ≤ i,
      (l.viewport.rows.top first ≤ l.viewport.scroll ∧ l.viewport.scroll < l.viewport.rows.top (first + 1)) ∧
        l.viewport.rows.top (i + 1) ≤ l.viewport.rows.top first + l.viewport.height := by
  have hn := Nat.zero_lt_of_lt hi
  have hv := h.layOut_viewport hs hn
  have hshown : (l.layOut panel).Shown :=
    layOut_shown hs hn (Nat.lt_of_lt_of_le Nat.two_pos h.lines) hbody (by rw [hv]; exact hw)
  have hover : (l.layOut panel).size + (l.layOut panel).viewport.overscan < Word.size64 := by
    rw [layOut_size, layOut_overscan, hs.overscan]
    exact ho
  have hfaithful := layOut_faithful hs hf panel
  have hsame := layOut_unambiguous hu panel
  have hmeasured (k : Nat) (hk : k < l.size) : (l.layOut panel).viewport.rows.isMeasured k = true := by
    rw [hv]
    exact h.measured k hk
  have htable := hshown.tableHeights_eq_take theme now hfaithful hsame (hs.act (.layOut panel)).cache fun k hk => by
    have hstop := (l.layOut panel).viewport.range_stop_le
    rw [hshown.rows, layOut_size] at hstop
    exact hmeasured k (Nat.lt_of_lt_of_le hk.2 hstop)
  have hinactive : (l.layOut panel).cursor.active = none := by
    rw [layOut_cursor]
    exact h.inactive
  obtain ⟨j, hj, -⟩ := l.item?_of_lt hi
  have hj' : (l.layOut panel).item? i = some j := by
    rw [item?, layOut_pager]
    exact hj
  obtain ⟨first, last, hwindow, -, -, htop, -⟩ := hshown.window
  have hrange := congrArg Prod.fst (drawRange_of_window hwindow)
  rw [hshown.drawnWhole_iff hover htable hinactive hj' (hfaithful hsame i j hj' (hmeasured i hi)), hrange,
    ← hshown.height, hv]
  rw [hv] at htop
  constructor
  · rintro ⟨hle, hend⟩
    exact ⟨first, hle, htop, hend⟩
  · rintro ⟨first', hle, htop', hend⟩
    obtain rfl : first' = first := RowHeights.eq_of_top_le htop' htop
    exact ⟨hle, hend⟩

/-- With the steps of a 32-bit number, a list at rest can be scrolled so that a row is drawn whole exactly if the row
is in reach. -/
theorem AtRest.reaches_iff (h : l.AtRest panel) (theme : Theme) (now : Instant) (hs : l.InStep settings)
    (hf : l.Faithful) (hu : l.Unambiguous) (hbody : (bodyOf panel).height < Word.size32)
    (ho : l.size + settings.overscan < Word.size64) (hw : l.viewport.rows.lines.sum ≤ 2 ^ 31) (hi : i < l.size) :
    (∃ d : Int, -2 ^ 31 ≤ d ∧ d < 2 ^ 31 ∧ ((l.scrollBy d).layOut panel).DrawnWhole theme now i) ↔
      l.viewport.rows.InReach l.viewport.height i := by
  have hword : l.viewport.rows.lines.sum < Word.size32 := by
    simp only [Word.size32]
    omega
  have hscroll := hs.valid.scroll
  have hmax := hs.valid.maxScroll_eq hword
  have hlines := h.lines
  rw [← h.height] at hlines
  have hdrawn (d : Int) := (h.scrollBy d).drawnWhole_iff theme now (hs.act (.scrollBy d)) hf hu hbody ho hword hi
  have hto (d : Int) : (l.scrollBy d).viewport.scroll =
      (min ((l.viewport.scroll : Int) + d) l.viewport.maxScroll).toNat := rfl
  constructor
  · rintro ⟨d, -, -, hd⟩
    obtain ⟨first, hle, htop, hend⟩ := (hdrawn d).1 hd
    refine ⟨(l.scrollBy d).viewport.scroll, ?_, first, hle, htop, hend⟩
    rw [hto]
    omega
  · rintro ⟨offset, hoffset, first, hle, htop, hend⟩
    have he : (l.scrollBy ((offset : Int) - l.viewport.scroll)).viewport.scroll = offset := by
      rw [hto]
      omega
    refine ⟨(offset : Int) - l.viewport.scroll, by omega, by omega, (hdrawn _).2 ⟨first, hle, ?_, hend⟩⟩
    rw [he]
    exact htop

end JobList

namespace Board

variable {settings : Settings} {filter : Filter} {b : Board}

/-- On a board with two lines for its list at least, with all rows measured and none active, every row but the last
can be scrolled to so that it is drawn whole when the board is drawn again at the same size, and the last one exactly
if a row starts at the largest scroll offset. -/
theorem row_in_reach_iff (h : Reachable settings filter b) {screen : Area}
    (hrest : b.list.AtRest (Layout.ofScreen screen).list) (hu : b.list.Unambiguous) (theme : Theme)
    (instant : Instant) (hscreen : screen.height < 65536) (hover : b.list.size + settings.overscan < Word.size64)
    (hw : b.list.viewport.rows.lines.sum ≤ 2 ^ 31) {i : Nat} (hi : i < b.list.size) :
    (∃ d : Int, -2 ^ 31 ≤ d ∧ d < 2 ^ 31 ∧
      ({ b with list := b.list.scrollBy d }.layOut screen).list.DrawnWhole theme instant i) ↔
    i + 1 < b.list.size ∨
      ∃ k, b.list.viewport.rows.top k = b.list.viewport.rows.lines.sum - b.list.viewport.height := by
  have hs := h.list.inStep
  have hlines := hrest.lines
  rw [← hrest.height] at hlines
  have hb (k : Nat) (hk : k < b.list.viewport.rows.size) : b.list.viewport.rows.height k ≤ 2 := by
    rw [hs.rows] at hk
    obtain ⟨j, hj, -⟩ := b.list.item?_of_lt hk
    rw [h.faithful hu k j hj (hrest.measured k hk)]
    exact (RowText.ofJob j).height_le
  refine (hrest.reaches_iff theme instant hs h.faithful hu (body_height_lt hscreen) hover hw hi).trans ?_
  rw [hs.valid.rows.inReach_iff hb hlines (by rw [hs.rows]; exact hi), hs.rows]

/-- A row of two lines and below it one of one line. -/
def tallAboveShort : List Job := [{ id := 0, needsReview := true, reviewReason := some "stuck" }, { id := 1 }]

/-- A screen on which the list has two lines. -/
def lowScreen : Area := { width := 80, height := 13 }

/-- A board on which these rows have been drawn. -/
def tallDrawn : Board := (loaded tallAboveShort).after 0 (.draw lowScreen)

theorem tallDrawn_reachable : Reachable {} {} tallDrawn := .after _ _ (loaded_reachable tallAboveShort)

theorem tallDrawn_items : tallDrawn.list.pager.items = (loaded tallAboveShort).list.pager.items := draw_items _ _ _

theorem tallDrawn_unambiguous : tallDrawn.list.Unambiguous := by
  rw [JobList.Unambiguous, tallDrawn_items]
  decide

theorem tallDrawn_viewport : tallDrawn.list.viewport =
    ((loaded tallAboveShort).list.viewport.setHeight 2).recordAll (fun i => if i = 0 then 2 else 1)
      ((loaded tallAboveShort).list.viewport.setHeight 2).unmeasured := by
  have hsame : (loaded tallAboveShort).list.Unambiguous := by
    unfold JobList.Unambiguous
    decide
  refine (draw_viewport _ 0 lowScreen).trans ?_
  refine (JobList.layOut_viewport_of_unambiguous (loaded_reachable tallAboveShort).list.inStep (by decide)
    hsame (Layout.ofScreen lowScreen).list).trans ?_
  apply Viewport.recordAll_congr
  decide +kernel

theorem tallDrawn_size : tallDrawn.list.size = 2 := by
  rw [JobList.size, Pager.size, tallDrawn_items]
  decide

theorem tallDrawn_sum : tallDrawn.list.viewport.rows.lines.sum = 3 := by
  rw [tallDrawn_viewport]
  decide +kernel

theorem tallDrawn_atRest : tallDrawn.list.AtRest (Layout.ofScreen lowScreen).list where
  height := by
    rw [tallDrawn_viewport]
    decide +kernel
  lines := by decide
  measured := by
    rw [tallDrawn_viewport, tallDrawn_size]
    decide +kernel
  inactive := (congrArg Cursor.active (draw_cursor _ 0 lowScreen)).trans (by decide)

theorem row_in_reach_of_tallDrawn : tallDrawn.list.AtRest (Layout.ofScreen lowScreen).list ∧
    ∃ d : Int, -2 ^ 31 ≤ d ∧ d < 2 ^ 31 ∧
      ({ tallDrawn with list := tallDrawn.list.scrollBy d }.layOut lowScreen).list.DrawnWhole Theme.nord ⟨0, 0⟩ 0 := by
  have hsize := tallDrawn_size
  have hiff := row_in_reach_iff tallDrawn_reachable tallDrawn_atRest tallDrawn_unambiguous Theme.nord ⟨0, 0⟩
    (show lowScreen.height < 65536 by decide) (by rw [hsize]; decide) (by rw [tallDrawn_sum]; decide)
    (show 0 < tallDrawn.list.size by rw [hsize]; decide)
  exact ⟨tallDrawn_atRest, hiff.2 (.inl (by rw [hsize]; decide))⟩

/-- The row below it cannot: the largest offset is one line, and from there the table still starts with both lines of
the row above. -/
theorem last_row_out_of_reach :
    Reachable {} {} tallDrawn ∧ tallDrawn.list.AtRest (Layout.ofScreen lowScreen).list ∧ 1 < tallDrawn.list.size ∧
    ¬∃ d : Int, -2 ^ 31 ≤ d ∧ d < 2 ^ 31 ∧
      ({ tallDrawn with list := tallDrawn.list.scrollBy d }.layOut lowScreen).list.DrawnWhole Theme.nord ⟨0, 0⟩ 1 := by
  have hs := tallDrawn_reachable.list.inStep
  have hsize : 1 < tallDrawn.list.size := by
    rw [tallDrawn_size]
    decide
  have hsum := tallDrawn_sum
  have hheight : tallDrawn.list.viewport.height = 2 := tallDrawn_atRest.height.trans (by decide)
  have htops : tallDrawn.list.viewport.rows.top 1 = 2 ∧ tallDrawn.list.viewport.rows.top 2 = 3 := by
    rw [tallDrawn_viewport]
    decide +kernel
  refine ⟨tallDrawn_reachable, tallDrawn_atRest, hsize, ?_⟩
  intro hd
  obtain ⟨offset, hoffset, first, hfirst, ⟨htop, -⟩, hend⟩ :=
    (tallDrawn_atRest.reaches_iff Theme.nord ⟨0, 0⟩ hs tallDrawn_reachable.faithful tallDrawn_unambiguous (by decide)
      (by rw [tallDrawn_size]; decide) (by rw [hsum]; decide) hsize).1 hd
  rw [hsum, hheight] at hoffset
  rw [hheight, htops.2] at hend
  rcases Nat.le_one_iff_eq_zero_or_eq_one.1 hfirst with rfl | rfl
  · rw [RowHeights.top_zero] at hend
    omega
  · omega

end Board

end JobBoard
