import JobBoard.Proofs.ActiveRow
import Mathlib.Algebra.Order.BigOperators.Group.List
import Mathlib.Algebra.Order.Group.Nat

/-!
The texts of drawn rows. A row shows the text that was formatted first for its number and is still kept. So every row
shows its own text as long as loaded rows of one number have one text; where they have not, a board that prepares
enough rows draws one of them with the text of another.
-/

namespace JobBoard

namespace RowCache

variable {c : RowCache} {j k : Job}

theorem mem_keep (c : RowCache) (j : Job) : j.id ∈ (c.keep j).rows :=
  Std.HashMap.mem_insertIfNew.2 (.inl (beq_self_eq_true _))

theorem mem_keep_of_mem {id : Int} (h : id ∈ c.rows) (j : Job) : id ∈ (c.keep j).rows :=
  Std.HashMap.mem_insertIfNew.2 (.inr h)

theorem text_congr (h : j.id ∈ c.rows) (he : j.id = k.id) : c.text j = c.text k := by
  have hk : k.id ∈ c.rows := he ▸ h
  rw [text, text, ← he, Std.HashMap.getD_eq_getD_getElem?, Std.HashMap.getD_eq_getD_getElem?,
    Std.HashMap.getElem?_eq_some_getElem h]
  rfl

theorem mem_foldl_keep {jobs : List (Nat × Job)} {id : Int}
    (h : id ∈ c.rows ∨ ∃ p ∈ jobs, p.2.id = id) : id ∈ (jobs.foldl (fun c p => c.keep p.2) c).rows := by
  induction jobs generalizing c with
  | nil =>
    rcases h with h | ⟨p, hp, -⟩
    · exact h
    · cases hp
  | cons q jobs ih =>
    apply ih
    rcases h with h | ⟨p, hp, rfl⟩
    · exact .inl (mem_keep_of_mem h q.2)
    · rcases List.mem_cons.1 hp with rfl | hp
      · exact .inl (c.mem_keep p.2)
      · exact .inr ⟨p, hp, rfl⟩

end RowCache

namespace JobList

/-- The list at its place, before any row is measured. -/
def placed (l : JobList) (panel : Area) : JobList :=
  { l with area := bodyOf panel }.setHeight (bodyOf panel).height

/-- Where a list is laid out, every row is measured and drawn by the text of its own job. -/
structure ShowsOwnTexts (l : JobList) (panel : Area) : Prop where
  measured : ∀ p ∈ (l.placed panel).unmeasured,
    ((l.placed panel).keepRows (l.placed panel).unmeasured).cache.text p.2 = .ofJob p.2
  drawn : ∀ p ∈ (l.layOut panel).drawnJobs, (l.layOut panel).cache.text p.2 = .ofJob p.2

variable {l : JobList} {settings : Settings} {filter : Filter} {panel : Area}

theorem InStep.showsOwnTexts (hs : l.InStep settings) (h : RowCache.TextsAgree l.pager.items) (panel : Area) :
    l.ShowsOwnTexts panel where
  measured := by
    intro p hp
    have hitem := item_of_mem_unmeasured hp
    refine (keepRows_holds (l := l.placed panel) ?_ hs.cache).text_of_agree h (mem_of_item? (l := l) hitem)
    intro q hq
    exact mem_of_item? (item_of_mem_unmeasured hq)
  drawn := by
    intro p hp
    have hmem : p.2 ∈ l.pager.items := by
      rw [← l.layOut_pager panel]
      exact mem_of_item? (item_of_mem_jobsBetween hp)
    have hcache := (hs.act (.layOut panel)).cache
    change (l.layOut panel).cache.Holds (l.layOut panel).pager.items at hcache
    rw [layOut_pager] at hcache
    exact hcache.text_of_agree h hmem

theorem drawnJobs_prepareRows (l : JobList) : l.prepareRows.drawnJobs = l.drawnJobs := by
  obtain ⟨c, hc, -⟩ := l.prepareRows_frame
  rw [hc]
  rfl

theorem mem_prepareRows {p : Nat × Job} (hp : p ∈ l.drawnJobs) : p.2.id ∈ l.prepareRows.cache.rows :=
  RowCache.mem_foldl_keep (.inr ⟨p, hp, rfl⟩)

theorem mem_cache_of_drawn {p : Nat × Job} (hp : p ∈ (l.layOut panel).drawnJobs) :
    p.2.id ∈ (l.layOut panel).cache.rows := by
  have hn : l.size ≠ 0 := by
    rw [← l.layOut_size panel]
    exact Nat.ne_of_gt (Array.size_pos_of_mem (mem_of_item? (item_of_mem_jobsBetween hp)))
  have he : l.layOut panel = (l.placed panel).measure.prepareRows := if_neg hn
  rw [he, drawnJobs_prepareRows] at hp
  rw [he]
  exact mem_prepareRows hp

theorem drawn_alike {p q : Nat × Job} (hp : p ∈ (l.layOut panel).drawnJobs) (he : p.2.id = q.2.id) :
    (l.layOut panel).cache.text p.2 = (l.layOut panel).cache.text q.2 :=
  RowCache.text_congr (mem_cache_of_drawn hp) he

theorem mem_drawnJobs {i : Nat} {j : Job} (hj : l.item? i = some j) (hi : l.drawRange.1 ≤ i ∧ i < l.drawRange.2) :
    (i, j) ∈ l.drawnJobs := by
  have hmem : i ∈ List.range' l.drawRange.1 (l.drawRange.2 - l.drawRange.1) := List.mem_range'_1.2 ⟨hi.1, by omega⟩
  refine List.mem_filterMap.2 ⟨i, hmem, ?_⟩
  rw [hj]
  rfl

theorem ShowsOwnTexts.textsAgree (h : l.ShowsOwnTexts panel) (hr : (l.layOut panel).drawRange = (0, l.size)) :
    RowCache.TextsAgree l.pager.items := by
  have hdrawn {j : Job} (hj : j ∈ l.pager.items) : ∃ i, (i, j) ∈ (l.layOut panel).drawnJobs := by
    obtain ⟨i, hi, rfl⟩ := Array.mem_iff_getElem.1 hj
    refine ⟨i, mem_drawnJobs ?_ ?_⟩
    · rw [item?, layOut_pager]
      exact Array.getElem?_eq_getElem hi
    · rw [hr]
      exact ⟨Nat.zero_le i, hi⟩
  intro j hj k hk he
  obtain ⟨i, hi⟩ := hdrawn hj
  obtain ⟨i', hi'⟩ := hdrawn hk
  have halike := drawn_alike hi (q := (i', k)) he
  rw [h.drawn _ hi, h.drawn _ hi'] at halike
  exact halike

theorem layOut_scroll_zero (hs : l.InStep settings) (hn : 0 < l.size) (hh : 0 < (bodyOf panel).height)
    (hw : l.viewport.rows.lines.sum < Word.size32) (hw' : (l.layOut panel).viewport.rows.lines.sum < Word.size32)
    (h₀ : l.viewport.scroll = 0) : (l.layOut panel).viewport.scroll = 0 := by
  have hvalid := hs.valid.setHeight (bodyOf panel).height
  have hrows : 0 < l.viewport.rows.size := Nat.lt_of_lt_of_eq hn hs.rows.symm
  have hscroll : (l.viewport.setHeight (bodyOf panel).height).scroll = 0 := by
    change min l.viewport.scroll _ = 0
    rw [h₀]
    exact Nat.zero_min _
  -- The first row is at the top of the screen, and measuring keeps it there.
  obtain ⟨f, hf, -, htop⟩ := hvalid.first hw hh hrows
  have hfirst : f = 0 := by
    refine RowHeights.eq_of_top_le htop ?_
    rw [hscroll]
    exact ⟨Nat.le_refl 0, hs.valid.rows.top_lt_succ hrows⟩
  rw [layOut_scroll hs hn hh hw hw' hf, hfirst, hscroll]
  exact Nat.zero_min _

theorem layOut_sum_le (hs : l.InStep settings) (hn : 0 < l.size) (hb : ∀ i, l.viewport.rows.height i ≤ 2)
    (panel : Area) : (l.layOut panel).viewport.rows.lines.sum ≤ 2 * l.size := by
  obtain ⟨c, -, hv⟩ := layOut_viewport hs hn panel
  have hlength : (l.layOut panel).viewport.rows.lines.length = l.size := by
    rw [RowHeights.length_lines, hv, Viewport.recordAll_size]
    exact hs.rows
  rw [← hlength, Nat.mul_comm]
  apply List.sum_le_card_nsmul
  intro x hx
  obtain ⟨i, hi, rfl⟩ := List.getElem_of_mem hx
  rw [RowHeights.getElem_lines, hv, (Viewport.waiting_unmeasured _).height_recordAll]
  split
  · exact Nat.max_le.2 ⟨(l.textHeight_bounds c i).2, by decide⟩
  · exact hb i

theorem Shown.drawRange_of_top (h : l.Shown) (h₀ : l.viewport.scroll = 0) (ho : l.size ≤ l.viewport.overscan)
    (hover : l.size + l.viewport.overscan < Word.size64) : l.drawRange = (0, l.size) := by
  obtain ⟨first, last, hw, hfirst, hlast, htop, -⟩ := h.window
  rw [h₀] at htop
  have hrows : 0 < l.viewport.rows.size := Nat.lt_of_lt_of_eq h.nonempty h.rows.symm
  have hzero : first = 0 :=
    RowHeights.eq_of_top_le htop ⟨Nat.le_refl 0, h.valid.rows.top_lt_succ hrows⟩
  rw [drawRange_of_window hw, hzero, Word.add64_of_lt (a := last) (by omega), Word.add64_of_lt (by omega), h.rows,
    Nat.min_eq_right (by omega)]

end JobList

namespace Board

variable {settings : Settings} {filter : Filter} {b : Board}

/-- A board that prepares all rows of its first page. -/
def wide (js : List Job) : Board :=
  ((start { overscan := js.length } {}).after 0 .mount).after 0 (.report (.pageLoaded ⟨1⟩ { items := js }))

variable {js : List Job}

theorem wide_reachable (js : List Job) : Reachable { overscan := js.length } {} (wide js) :=
  .after _ _ (.after _ _ .start)

theorem wide_list (js : List Job) :
    let l := (JobList.start { overscan := js.length } {}).mount.1
    (wide js).list = l.receive l.pager.generation { items := js } := by
  rw [wide, after_list]
  rfl

theorem wide_items (js : List Job) : (wide js).list.pager.items = js.toArray := by
  rw [wide_list, JobList.receive_current]
  exact Array.empty_append

theorem wide_viewport (js : List Job) : (wide js).list.viewport =
    (Viewport.start 1 js.length).reset.setCount js.length := by
  rw [wide_list, JobList.receive_current]
  change (Viewport.start 1 js.length).reset.setCount (Array.size (#[] ++ js.toArray)) = _
  rw [Array.empty_append]
  rfl

theorem wide_lines (js : List Job) : (wide js).list.viewport.rows.lines = List.replicate js.length 1 := by
  rw [wide_viewport]
  change ((RowHeights.start 1).clear.resize js.length).lines = _
  rw [RowHeights.resize_of_le (Nat.zero_le _), RowHeights.lines_grow]
  rfl

theorem wide_height (js : List Job) (i : Nat) : (wide js).list.viewport.rows.height i = 1 := by
  have hs := (wide_reachable js).list.inStep
  have hm : (wide js).list.viewport.rows.isMeasured i = false := by
    rw [wide_viewport]
    change ((RowHeights.start 1).clear.resize js.length).isMeasured i = false
    rw [RowHeights.resize_of_le (Nat.zero_le _), RowHeights.isMeasured_grow]
    rfl
  rw [hs.valid.rows.height_of_unmeasured hm]
  exact hs.estimate

theorem wide_scroll (js : List Job) : (wide js).list.viewport.scroll = 0 := by
  rw [wide_viewport]
  exact Nat.zero_min _

theorem wide_size (js : List Job) : (wide js).list.size = js.length := congrArg Array.size (wide_items js)

theorem wide_drawRange (hn : js ≠ []) (h : 2 * js.length < Word.size32) :
    ((wide js).layOut smallScreen).list.drawRange = (0, (wide js).list.size) := by
  have hs := (wide_reachable js).list.inStep
  have hsize := wide_size js
  have hpos : 0 < (wide js).list.size := by
    rw [hsize]
    exact List.length_pos_of_ne_nil hn
  have hw : (wide js).list.viewport.rows.lines.sum < Word.size32 := by
    rw [wide_lines, List.sum_replicate_nat]
    omega
  have hw' : (JobList.layOut (wide js).list (Layout.ofScreen smallScreen).list).viewport.rows.lines.sum <
      Word.size32 := by
    refine Nat.lt_of_le_of_lt (JobList.layOut_sum_le hs hpos ?_ _) (by rw [hsize]; exact h)
    intro i
    rw [wide_height]
    decide
  have hshown := JobList.layOut_shown hs hpos (by decide) (by decide) hw'
  have hscroll := JobList.layOut_scroll_zero hs hpos (by decide) hw hw' (wide_scroll js)
  have hoverscan : (JobList.layOut (wide js).list (Layout.ofScreen smallScreen).list).viewport.overscan =
      js.length := by
    rw [JobList.layOut_overscan]
    exact hs.overscan
  rw [layOut_list, hshown.drawRange_of_top hscroll, JobList.layOut_size]
  · rw [JobList.layOut_size, hoverscan, hsize]
  · rw [JobList.layOut_size, hoverscan, hsize]
    simp only [Word.size32, Word.size64] at h ⊢
    omega

/-- Whatever has happened to boards with the same rows loaded, and wherever they are drawn, every row is measured and
drawn by the text of its own job, exactly if rows of one number have one text. -/
theorem rows_show_own_texts_iff (js : List Job) (h : 2 * js.length < Word.size32) :
    (∀ settings filter b, Reachable settings filter b → b.list.pager.items = js.toArray →
      ∀ screen, b.list.ShowsOwnTexts (Layout.ofScreen screen).list) ↔
    RowCache.TextsAgree js.toArray := by
  constructor
  -- A board that draws all the rows at once shows whether they agree.
  · intro hown
    by_cases hn : js = []
    · subst hn
      intro j hj
      cases Array.not_mem_empty j hj
    · rw [← wide_items]
      exact (hown _ _ _ (wide_reachable js) (wide_items js) smallScreen).textsAgree (wide_drawRange hn h)
  · intro hagree settings filter b hb hitems screen
    rw [← hitems] at hagree
    exact hb.list.inStep.showsOwnTexts hagree _

/-- Two records of one number that differ in what no row shows. -/
def sameText : List Job := [{ id := 1 }, { id := 1, decisionReason := some "no amount" }]

theorem sameText_agree : RowCache.TextsAgree sameText.toArray := by
  intro j hj k hk _
  simp only [sameText, List.mem_toArray, List.mem_cons, List.not_mem_nil, or_false] at hj hk
  rcases hj with rfl | rfl
  · rcases hk with rfl | rfl <;> rfl
  · rcases hk with rfl | rfl <;> rfl

theorem rows_show_own_texts_of_sameText :
    2 * sameText.length < Word.size32 ∧ (wide sameText).list.ShowsOwnTexts (Layout.ofScreen smallScreen).list :=
  ⟨by decide, (rows_show_own_texts_iff sameText (by decide)).2 sameText_agree _ _ _ (wide_reachable sameText)
    (wide_items sameText) smallScreen⟩

theorem draw_generation (b : Board) (now : Nat) (screen : Area) :
    (b.after now (.draw screen)).list.pager.generation = b.list.pager.generation := by
  obtain ⟨t, inFlight, h⟩ := (b.layOut screen).list.afterDraw_frame
  have hlaidOut := congrArg Pager.generation (b.list.layOut_pager (Layout.ofScreen screen).list)
  rw [after_draw]
  exact (congrArg (fun l => l.pager.generation) h).trans hlaidOut

/-- A board that shows the first two rows of a listing. -/
def twoOfThree : Board :=
  ((start { pageSize := 2 } {}).after 0 .mount).after 0
    (.report (.pageLoaded ⟨1⟩
      { items := [{ id := 1, status := .pending }, { id := 2, status := .pending }], hasMore := true }))

theorem twoOfThree_reachable : Reachable { pageSize := 2 } {} twoOfThree := .after _ _ (.after _ _ .start)

theorem twoOfThree_viewport : (twoOfThree.layOut usualScreen).list.viewport =
    (twoOfThree.list.viewport.setHeight 13).recordAll (fun _ => 1)
      (twoOfThree.list.viewport.setHeight 13).unmeasured :=
  layOut_viewport_of_uniform twoOfThree_reachable (by decide) (k := 1) (by decide) usualScreen

/-- The rest of the listing. A row has come in before the two, so that the second one comes again, and its job has
ended meanwhile. -/
def changedRows : List Job := [{ id := 2, status := .completed }]

/-- The same board when it has been drawn and the rest of the listing has been loaded. -/
def changedMeanwhile : Board :=
  (twoOfThree.after 0 (.draw usualScreen)).after 0 (.report (.pageLoaded ⟨1⟩ { items := changedRows }))

theorem changedMeanwhile_reachable : Reachable { pageSize := 2 } {} changedMeanwhile :=
  .after _ _ (.after _ _ twoOfThree_reachable)

theorem changedMeanwhile_list : changedMeanwhile.list =
    (twoOfThree.after 0 (.draw usualScreen)).list.receive
      (twoOfThree.after 0 (.draw usualScreen)).list.pager.generation { items := changedRows } := by
  rw [changedMeanwhile, after_list, draw_generation]
  rfl

theorem changedMeanwhile_items : changedMeanwhile.list.pager.items =
    twoOfThree.list.pager.items ++ changedRows.toArray := by
  rw [changedMeanwhile_list, JobList.receive_current, ← draw_items twoOfThree 0 usualScreen]
  rfl

theorem changedMeanwhile_uniform : ∀ j ∈ changedMeanwhile.list.pager.items, (RowText.ofJob j).height = 1 := by
  rw [changedMeanwhile_items]
  decide

theorem changedMeanwhile_viewport : changedMeanwhile.list.viewport =
    ((twoOfThree.list.viewport.setHeight 13).recordAll (fun _ => 1)
      (twoOfThree.list.viewport.setHeight 13).unmeasured).setCount 3 := by
  rw [changedMeanwhile_list, JobList.receive_current, ← twoOfThree_viewport]
  change Viewport.setCount _ (Array.size (_ ++ _)) = _
  rw [draw_items, draw_viewport]
  rfl

theorem changedMeanwhile_drawRange : (changedMeanwhile.layOut usualScreen).list.drawRange = (0, 3) := by
  have hn : 0 < changedMeanwhile.list.size := by
    rw [JobList.size, Pager.size, changedMeanwhile_items]
    decide
  rw [JobList.drawRange_eq, layOut_viewport_of_uniform changedMeanwhile_reachable hn changedMeanwhile_uniform,
    changedMeanwhile_viewport]
  decide +kernel

/-- The job that has ended is drawn in two rows and by one text, so in one of them by that of another record. -/
theorem changed_row_shows_other_text :
    Reachable { pageSize := 2 } {} changedMeanwhile ∧
    ¬changedMeanwhile.list.ShowsOwnTexts (Layout.ofScreen usualScreen).list := by
  refine ⟨changedMeanwhile_reachable, ?_⟩
  intro hown
  have hsize : changedMeanwhile.list.size = 3 := by
    rw [JobList.size, Pager.size, changedMeanwhile_items]
    decide
  have hagree := hown.textsAgree (by rw [hsize]; exact changedMeanwhile_drawRange)
  rw [changedMeanwhile_items] at hagree
  have hstatus := congrArg RowText.status (hagree { id := 2, status := .pending } (by decide +kernel)
    { id := 2, status := .completed } (by decide +kernel) rfl)
  revert hstatus
  decide

end Board

end JobBoard
