import JobBoard.Proofs.CursorRun

/-!
The parts of a list against each other: the rows that are loaded, the rows that have a height, the active row, the
scroll offset, and the count of scrollings. Each part is kept by the structure it belongs to, and all of them agree
whatever has been done to the list.
-/

namespace JobBoard

namespace JobList

variable {l m : JobList} {settings : Settings} {filter : Filter}

/-- Where a list has been scrolled, this has been counted. -/
def ScrollCounted (l m : JobList) : Prop :=
  m.viewport.scroll ≠ l.viewport.scroll → m.scrollings = Word.add64 l.scrollings 1

theorem ScrollCounted.of_viewport (h : m.viewport = l.viewport) : l.ScrollCounted m := by
  intro hne
  exact absurd (congrArg Viewport.scroll h) hne

theorem follow_scrollCounted (l : JobList) (index : Nat) : l.ScrollCounted (l.follow index) := by
  intro hne
  rw [follow_viewport] at hne
  have hmoved : (l.viewport.ensureVisible index).2 = true := by
    rw [Viewport.ensureVisible_moved]
    exact bne_iff_ne.2 hne
  simp only [follow, hmoved, ↓reduceIte]
  rfl

theorem afterMove_scrollCounted (l : JobList) (o : CursorOutcome) : l.ScrollCounted (l.afterMove o).1 := by
  cases o with
  | unchanged => exact .of_viewport rfl
  | moved index => exact l.follow_scrollCounted index
  | activated index => exact .of_viewport rfl

theorem navigate_scrollCounted (l : JobList) (key : CursorKey) : l.ScrollCounted (l.navigate key).1 :=
  afterMove_scrollCounted { l with cursor := (l.cursor.handle key l.size).1 } _

theorem select_scrollCounted (l : JobList) (index : Nat) : l.ScrollCounted (l.select index).1 :=
  afterMove_scrollCounted { l with cursor := (l.cursor.select index l.size).1 } _

theorem navigate_activate {i : Nat} {j : Job} (ha : l.cursor.active = some i) (hj : l.item? i = some j) :
    l.navigate .activate = (l, .activated i, [.openJob j.id]) := by
  have hn : l.size ≠ 0 := Nat.ne_of_gt (Array.size_pos_of_mem (mem_of_item? hj))
  have hhandle : l.cursor.handle .activate l.size = (l.cursor, .activated i) := by
    simp only [Cursor.handle, hn, ha, ↓reduceIte]
  simp only [navigate, hhandle, afterMove, hj, Option.map_some, Option.toList_some]

theorem Reachable.activeJob (h : Reachable settings filter l) {i : Nat} (ha : l.cursor.active = some i) :
    ∃ j, l.item? i = some j ∧ l.activeJob? = some j := by
  have hi : i < l.size := h.cursor_inside i ha
  refine ⟨l.pager.items[i], Array.getElem?_eq_getElem hi, ?_⟩
  rw [activeJob?, ha]
  exact Array.getElem?_eq_getElem hi

theorem Reachable.activeJob?_isSome (h : Reachable settings filter l) :
    l.activeJob?.isSome = l.cursor.active.isSome := by
  cases ha : l.cursor.active with
  | none =>
    rw [activeJob?, ha]
    rfl
  | some i =>
    obtain ⟨j, -, hj⟩ := h.activeJob ha
    rw [hj]
    rfl

/-- Whatever has been done to a list and whatever has been answered, every loaded row has a height and the next page
is asked for behind it; the active row is a loaded one, opening it opens its job and changes nothing; the list is not
scrolled beyond its end; and where a move scrolls it, the count of scrollings grows (it is a word, which starts again
behind its last value). -/
theorem parts_agree (h : Reachable settings filter l) :
    l.viewport.rows.size = l.size ∧ l.pager.nextOffset = l.size ∧
    (∀ i, l.cursor.active = some i → i < l.size) ∧
    l.activeJob?.isSome = l.cursor.active.isSome ∧
    l.viewport.scroll ≤ l.viewport.maxScroll ∧
    (∀ i, l.cursor.active = some i →
      ∃ j, l.item? i = some j ∧ l.navigate .activate = (l, .activated i, [.openJob j.id])) ∧
    ∀ m, (∃ key, m = (l.navigate key).1) ∨ (∃ index, m = (l.select index).1) →
      m.viewport.scroll ≠ l.viewport.scroll →
        m.scrollings = Word.add64 l.scrollings 1 ∧
          (l.scrollings + 1 < Word.size64 → l.scrollings < m.scrollings) := by
  have hs := h.inStep
  refine ⟨hs.rows, hs.offset, h.cursor_inside, h.activeJob?_isSome, hs.valid.scroll, ?_, ?_⟩
  · intro i ha
    obtain ⟨j, hj, -⟩ := h.activeJob ha
    exact ⟨j, hj, navigate_activate ha hj⟩
  · intro m hm hne
    have hcount : m.scrollings = Word.add64 l.scrollings 1 := by
      rcases hm with ⟨key, rfl⟩ | ⟨index, rfl⟩
      · exact l.navigate_scrollCounted key hne
      · exact l.select_scrollCounted index hne
    refine ⟨hcount, ?_⟩
    intro hlt
    rw [hcount]
    exact Word.lt_add64_one hlt

/-- Three rows on two lines, the first of them active. -/
def threeRowsFromTop : JobList :=
  let l : JobList := .start (Settings.sanitized {}) {}
  ((((l.act (.setHeight 2)).1.act .mount).1.learn ⟨1⟩
    (.page { items := [{ id := 4 }, { id := 5 }, { id := 6 }], hasMore := false })).act (.navigate .first)).1

theorem threeRowsFromTop_reachable : Reachable (Settings.sanitized {}) {} threeRowsFromTop :=
  .act _ (.learn _ _ (.act _ (.act _ .start)))

theorem parts_agree_of_threeRowsFromTop :
    let l := threeRowsFromTop
    l.viewport.rows.size = l.size ∧ l.size = 3 ∧ l.navigate .activate = (l, .activated 0, [.openJob 4]) ∧
      (l.navigate .last).1.viewport.scroll = 1 ∧ l.scrollings < (l.navigate .last).1.scrollings := by
  obtain ⟨hrows, -, -, -, -, hopen, hmove⟩ := parts_agree threeRowsFromTop_reachable
  have hactive : threeRowsFromTop.cursor.active = some 0 := by decide +kernel
  have hscroll : (threeRowsFromTop.navigate .last).1.viewport.scroll = 1 := by decide +kernel
  have hstill : threeRowsFromTop.viewport.scroll = 0 := by decide +kernel
  have hcount : threeRowsFromTop.scrollings + 1 < Word.size64 := by decide +kernel
  obtain ⟨j, hj, hactivate⟩ := hopen 0 hactive
  have hid : (threeRowsFromTop.item? 0).map Job.id = some 4 := by decide +kernel
  rw [hj] at hid
  rw [Option.some.inj hid] at hactivate
  refine ⟨hrows, by decide +kernel, hactivate, hscroll, ?_⟩
  refine (hmove _ (.inl ⟨.last, rfl⟩) ?_).2 hcount
  rw [hscroll, hstill]
  exact Nat.one_ne_zero

end JobList

end JobBoard
