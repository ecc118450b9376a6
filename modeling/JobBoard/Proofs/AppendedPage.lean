import JobBoard.Proofs.Carries
import JobBoard.Proofs.CursorRun

/-!
A page that comes in below the screen. All that is known of the loaded rows stays as it is, whatever the page holds, and
so does the picture of them as long as the lines of the longer list fit into a word; answers that are too late change
nothing, and a failure leaves a note only.
-/

namespace JobBoard

namespace RowHeights

variable {r : RowHeights}

theorem Sound.offsetOf_mod (h : r.Sound) (index : Nat) : r.offsetOf index = r.top index % Word.size32 :=
  h.tree.sumFirst index

theorem Sound.total_mod (h : r.Sound) : r.total = r.lines.sum % Word.size32 := by
  rw [← top_size]
  exact h.offsetOf_mod r.size

theorem top_grow (n : Nat) {index : Nat} (hi : index ≤ r.size) : (r.grow n).top index = r.top index := by
  rw [top, lines_grow, List.take_append_of_le_length (by rwa [length_lines])]
  rfl

theorem Sound.offsetOf_grow (h : r.Sound) (n : Nat) {index : Nat} (hi : index ≤ r.size) :
    (r.grow n).offsetOf index = r.offsetOf index := by
  rw [(h.grow n).offsetOf_mod, h.offsetOf_mod, top_grow n hi]

theorem Sound.total_grow (h : r.Sound) (n : Nat) : (r.grow n).total = (r.total + n * r.estimate) % Word.size32 := by
  rw [(h.grow n).total_mod, h.total_mod, sum_grow, Nat.mod_add_mod]

theorem Sound.indexAt_grow (h : r.Sound) {n : Nat} (hw : r.lines.sum + n * r.estimate < Word.size32) {offset : Nat}
    (ho : offset < r.lines.sum) : (r.grow n).indexAt offset = r.indexAt offset := by
  have hold : r.lines.sum < Word.size32 := Nat.lt_of_le_of_lt (Nat.le_add_right _ _) hw
  have hn : 0 < r.size := by
    rw [Nat.pos_iff_ne_zero]
    intro h₀
    rw [← top_size, h₀, top_zero] at ho
    exact Nat.not_lt_zero _ ho
  obtain ⟨i, hi, hlt, htop | ⟨-, hend⟩⟩ := h.indexAt hold hn offset
  · rw [hi]
    apply (h.grow n).indexAt_of_top (by rwa [sum_grow])
    rw [top_grow n (Nat.le_of_lt hlt), top_grow n hlt]
    exact htop
  · exact absurd ho (Nat.not_lt.2 hend)

end RowHeights

namespace Viewport

variable {v : Viewport}

theorem map_first_window? (hh : 0 < v.height) (hn : 0 < v.rows.size) :
    v.window?.map Window.first = v.rows.indexAt v.scroll := by
  have hat (offset : Nat) : ∃ i, v.rows.indexAt offset = some i :=
    ⟨_, by rw [RowHeights.indexAt, if_neg (Nat.ne_of_gt hn)]⟩
  obtain ⟨first, hfirst⟩ := hat v.scroll
  obtain ⟨last, hlast⟩ := hat (Word.add32 v.scroll (v.height - 1))
  rw [window?, if_neg (Nat.ne_of_gt hh), hfirst, hlast]
  rfl

/-- More rows leave the scroll offset as far as the end of the longer list, as a word tells it, is below the screen. -/
theorem Valid.scroll_setCount (h : v.Valid) (n : Nat) : (v.setCount (v.rows.size + n)).scroll =
    min v.scroll ((v.rows.total + n * v.rows.estimate) % Word.size32 - v.height) := by
  rw [← h.rows.total_grow, ← Nat.add_sub_cancel_left v.rows.size n,
    ← RowHeights.resize_of_le (Nat.le_add_right _ _), Nat.add_sub_cancel_left]
  rfl

end Viewport

namespace Cursor

theorem Inside.fit_add {c : Cursor} {size : Nat} (h : c.Inside size) (n : Nat) : c.fit (size + n) = c := by
  unfold Cursor.fit
  cases ha : c.active with
  | none =>
    split
    · exact congrArg Cursor.mk ha.symm
    · exact congrArg Cursor.mk ha.symm
  | some i =>
    have hi := h i ha
    rw [if_neg (by omega), Option.map_some, Nat.min_eq_left (by omega)]
    exact congrArg Cursor.mk ha.symm

end Cursor

namespace JobList

/-- All that is known of the rows of a list, and all that its operator has done to it, is found in a longer list. -/
structure Extends (l m : JobList) : Prop where
  item : ∀ i < l.size, m.item? i = l.item? i
  height : ∀ i < l.size, m.viewport.rows.height i = l.viewport.rows.height i
  measured : ∀ i < l.size, m.viewport.rows.isMeasured i = l.viewport.rows.isMeasured i
  offset : ∀ i ≤ l.size, m.viewport.rows.offsetOf i = l.viewport.rows.offsetOf i
  cursor : m.cursor = l.cursor
  activeJob : m.activeJob? = l.activeJob?
  draft : m.draft = l.draft
  cache : m.cache = l.cache
  scrollings : m.scrollings = l.scrollings

/-- The screen shows the same stretch of the list from the same row on. -/
structure SamePlace (l m : JobList) : Prop where
  scroll : m.viewport.scroll = l.viewport.scroll
  first : m.viewport.window?.map Window.first = l.viewport.window?.map Window.first

variable {l : JobList} {settings : Settings} {filter : Filter}

theorem size_append (l : JobList) (page : Page) : (l.pager.append page).size = l.size + page.items.length := by
  simp only [Pager.append, Pager.size, Array.size_append, List.size_toArray, size]

theorem item?_receive (page : Page) {i : Nat} (hi : i < l.size) :
    (l.receive l.pager.generation page).item? i = l.item? i := by
  rw [receive_current]
  exact Array.getElem?_append_left hi

theorem InStep.rows_receive (hs : l.InStep settings) (page : Page) :
    (l.receive l.pager.generation page).viewport.rows = l.viewport.rows.grow page.items.length := by
  rw [receive_current]
  change l.viewport.rows.resize _ = _
  rw [size_append, ← hs.rows, RowHeights.resize_of_le (Nat.le_add_right _ _), Nat.add_sub_cancel_left]

theorem InStep.scroll_receive (hs : l.InStep settings) (page : Page) :
    (l.receive l.pager.generation page).viewport.scroll = min l.viewport.scroll
      ((l.viewport.rows.total + page.items.length * l.viewport.rows.estimate) % Word.size32 - l.viewport.height) := by
  rw [receive_current, size_append, ← hs.rows]
  exact hs.valid.scroll_setCount page.items.length

theorem Reachable.extends_receive (h : Reachable settings filter l) (page : Page) :
    l.Extends (l.receive l.pager.generation page) := by
  have hs := h.inStep
  have hcursor : (l.receive l.pager.generation page).cursor = l.cursor := by
    rw [receive_current, size_append]
    exact h.cursor_inside.fit_add _
  refine ⟨fun i hi => item?_receive page hi, ?_, ?_, ?_, hcursor, ?_, ?_, ?_, ?_⟩
  · intro i hi
    rw [hs.rows_receive, RowHeights.height_grow _ (by rwa [hs.rows])]
  · intro i _
    rw [hs.rows_receive, RowHeights.isMeasured_grow]
  · intro i hi
    rw [hs.rows_receive, hs.valid.rows.offsetOf_grow _ (by rwa [hs.rows])]
  · rw [activeJob?, activeJob?, hcursor]
    cases ha : l.cursor.active with
    | none => rfl
    | some i => exact item?_receive page (h.cursor_inside i ha)
  all_goals rw [receive_current]

theorem InStep.samePlace_receive (hs : l.InStep settings) (hn : 0 < l.size) (hh : 0 < l.viewport.height) {page : Page}
    (hw : l.viewport.rows.lines.sum + page.items.length * l.viewport.rows.estimate < Word.size32) :
    l.SamePlace (l.receive l.pager.generation page) := by
  have hold : l.viewport.rows.lines.sum < Word.size32 := Nat.lt_of_le_of_lt (Nat.le_add_right _ _) hw
  have hrows : 0 < l.viewport.rows.size := by rwa [hs.rows]
  have hpos := hs.valid.rows.top_lt_sum hrows
  have hbound := hs.valid.scroll
  rw [hs.valid.maxScroll_eq hold] at hbound
  have hscroll : (l.receive l.pager.generation page).viewport.scroll = l.viewport.scroll := by
    rw [hs.scroll_receive, hs.valid.rows.total hold, Nat.mod_eq_of_lt hw]
    omega
  refine ⟨hscroll, ?_⟩
  have hheight : (l.receive l.pager.generation page).viewport.height = l.viewport.height := by
    rw [receive_current]
    rfl
  rw [Viewport.map_first_window? hh hrows, Viewport.map_first_window?, hscroll, hs.rows_receive,
    hs.valid.rows.indexAt_grow hw (by omega)]
  · rwa [hheight]
  · rw [hs.rows_receive, RowHeights.size_grow]
    omega

theorem Reachable.overflowed_receive_iff (h : Reachable settings filter l) (hu : l.viewport.Uncarried) (page : Page) :
    (l.receive l.pager.generation page).viewport.overflowed = true ↔
      Word.size32 ≤ l.viewport.rows.lines.sum + page.items.length * l.viewport.rows.estimate := by
  have hs := h.inStep
  have hfits := hs.valid.uncarried_setCount_iff (h.sum_lt hu) (hs.rows_le page)
  have hm : (l.receive l.pager.generation page).viewport = l.viewport.setCount (l.pager.append page).size := by
    rw [receive_current]
  rw [← hm, hs.rows_receive, RowHeights.sum_grow, and_iff_right hu] at hfits
  have hcut : (l.receive l.pager.generation page).viewport.cut = false := by
    rw [hm]
    exact hu.cut
  rw [← Nat.not_lt, ← hfits, ← Bool.not_eq_false]
  exact not_congr ⟨fun ho => ⟨ho, hcut⟩, fun hu' => hu'.overflowed⟩

/-- Whatever has been done to a list that shows rows: a page of the present listing leaves all that is known of these
rows, the active one, the filters and the formatted texts as they are. A sum of lines carries, and where sums are
checked all stops there, exactly if the lines of the longer list do not fit into a word; otherwise the scroll offset
stays, and so does the row at the top of the screen. Where sums are not checked, the offset stays unless the end of the
longer list, as a word tells it, comes above the lower end of the screen. An answer to a request of an earlier listing
changes nothing at all, and a failure changes nothing but what is noted of it. -/
theorem page_keeps_screen (h : Reachable settings filter l) (hn : 0 < l.size) (hh : 0 < l.viewport.height) :
    (∀ page : Page,
      let m := l.receive l.pager.generation page
      let added := page.items.length * l.viewport.rows.estimate
      l.Extends m ∧
      (l.viewport.Uncarried →
        (m.viewport.overflowed = true ↔ Word.size32 ≤ l.viewport.rows.lines.sum + added) ∧
          (m.viewport.overflowed = false → l.SamePlace m)) ∧
      (m.viewport.scroll = l.viewport.scroll ↔
        l.viewport.scroll ≤ (l.viewport.rows.total + added) % Word.size32 - l.viewport.height)) ∧
    (∀ g, g ≠ l.pager.generation → ∀ a, l.learn g a = l) ∧
    ∀ error, l.fail l.pager.generation error =
      { l with
        pager := { l.pager with inFlight := false, error := some error }
        prefetch := { l.prefetch with handled := some l.edge } } := by
  have hs := h.inStep
  refine ⟨?_, fun g hg a => learn_stale hg a, fun error => fail_current error⟩
  intro page
  refine ⟨h.extends_receive page, ?_, ?_⟩
  · intro hu
    have hover := h.overflowed_receive_iff hu page
    refine ⟨hover, fun hfits => hs.samePlace_receive hn hh ?_⟩
    rw [← Nat.not_le, ← hover, hfits]
    exact Bool.false_ne_true
  · rw [hs.scroll_receive]
    exact min_eq_left_iff

def tallest : Settings := Settings.sanitized { pageSize := 65537, rowHeight := 65535 }

def pageOf (start n : Nat) (hasMore : Bool) : Page :=
  { items := (List.range' start n).map fun id : Nat => { id }, hasMore }

/-- A list that waits for its first page on a screen of five lines. -/
def opened : JobList := (((start tallest {}).act (.setHeight 5)).1.act .mount).1

def filled (n : Nat) : JobList := opened.receive opened.pager.generation (pageOf 0 n true)

/-- A list of `n` rows, scrolled down twice as far as a scrolling can go. -/
def atEnd (n : Nat) : JobList := ((filled n).scrollBy 2147483647).scrollBy 2147483647

theorem opened_reachable : Reachable tallest {} opened := .act _ (.act _ .start)

theorem atEnd_reachable (n : Nat) : Reachable tallest {} (atEnd n) :=
  .act (.scrollBy _) (.act (.scrollBy _) (.learn _ (.page (pageOf 0 n true)) opened_reachable))

theorem length_pageOf (start n : Nat) (hasMore : Bool) : (pageOf start n hasMore).items.length = n := by
  rw [pageOf, List.length_map, List.length_range']

theorem pager_scrollBy (l : JobList) (d : Int) : (l.scrollBy d).pager = l.pager := rfl

theorem height_scrollBy (l : JobList) (d : Int) : (l.scrollBy d).viewport.height = l.viewport.height := rfl

theorem rows_scrollBy (l : JobList) (d : Int) : (l.scrollBy d).viewport.rows = l.viewport.rows := rfl

theorem scroll_scrollBy (l : JobList) (d : Int) :
    (l.scrollBy d).viewport.scroll = (min ((l.viewport.scroll : Int) + d) l.viewport.maxScroll).toNat := rfl

theorem filled_rows (n : Nat) : (filled n).viewport.rows = opened.viewport.rows.grow n := by
  rw [filled, opened_reachable.inStep.rows_receive, length_pageOf]

theorem filled_scroll (n : Nat) : (filled n).viewport.scroll = 0 := by
  rw [filled, opened_reachable.inStep.scroll_receive, show opened.viewport.scroll = 0 from rfl, Nat.zero_min]

theorem atEnd_pager (n : Nat) : (atEnd n).pager = opened.pager.append (pageOf 0 n true) := by
  rw [atEnd, pager_scrollBy, pager_scrollBy, filled, receive_current]

theorem atEnd_generation (n : Nat) : (atEnd n).pager.generation = ⟨1⟩ := by
  rw [atEnd_pager]
  rfl

theorem atEnd_height (n : Nat) : (atEnd n).viewport.height = 5 := by
  rw [atEnd, height_scrollBy, height_scrollBy, filled, receive_current]
  rfl

theorem atEnd_size (n : Nat) : (atEnd n).size = n := by
  rw [size, atEnd_pager, opened.size_append, length_pageOf]
  exact Nat.zero_add n

theorem atEnd_rows (n : Nat) : (atEnd n).viewport.rows = opened.viewport.rows.grow n := by
  rw [atEnd, rows_scrollBy, rows_scrollBy, filled_rows]

theorem atEnd_estimate (n : Nat) : (atEnd n).viewport.rows.estimate = 65535 := by
  rw [atEnd_rows, RowHeights.estimate_grow]
  rfl

theorem atEnd_sum (n : Nat) : (atEnd n).viewport.rows.lines.sum = n * 65535 := by
  rw [atEnd_rows, RowHeights.sum_grow]
  exact Nat.zero_add _

theorem atEnd_total (n : Nat) : (atEnd n).viewport.rows.total = n * 65535 % Word.size32 := by
  rw [(atEnd_reachable n).inStep.valid.rows.total_mod, atEnd_sum]

theorem atEnd_scroll (n : Nat) : (atEnd n).viewport.scroll =
    min (min 2147483647 (n * 65535 % Word.size32 - 5) + 2147483647) (n * 65535 % Word.size32 - 5) := by
  have hmax (l : JobList) (d : Int) : (l.scrollBy d).viewport.maxScroll = l.viewport.maxScroll := rfl
  have hend : (filled n).viewport.maxScroll = n * 65535 % Word.size32 - 5 := by
    rw [← hmax, ← hmax, ← atEnd, Viewport.maxScroll, atEnd_total, atEnd_height]
  rw [atEnd, scroll_scrollBy, scroll_scrollBy, hmax, filled_scroll, hend]
  omega

theorem atEnd_after (n start added : Nat) :
    ((atEnd n).receive (atEnd n).pager.generation (pageOf start added false)).viewport.scroll =
      min (atEnd n).viewport.scroll
        ((n * 65535 % Word.size32 + added * 65535) % Word.size32 - 5) := by
  rw [(atEnd_reachable n).inStep.scroll_receive, atEnd_total, atEnd_estimate, atEnd_height, length_pageOf]

theorem atEnd_uncarried {n : Nat} (hn : n * 65535 < Word.size32) : (atEnd n).viewport.Uncarried := by
  have hs := opened_reachable.inStep
  have hopened : opened.viewport.Uncarried := ⟨rfl, rfl⟩
  have hfits := hs.valid.uncarried_setCount_iff (opened_reachable.sum_lt hopened) (hs.rows_le (pageOf 0 n true))
  have hm : (filled n).viewport = opened.viewport.setCount (opened.pager.append (pageOf 0 n true)).size := by
    rw [filled, receive_current]
  rw [← hm, filled_rows, ← atEnd_rows, atEnd_sum] at hfits
  have hscroll (l : JobList) (d : Int) : (l.scrollBy d).viewport.Uncarried ↔ l.viewport.Uncarried :=
    Viewport.uncarried_scrollBy_iff d
  rw [atEnd, hscroll, hscroll]
  exact hfits.2 ⟨hopened, hn⟩

/-- The last lines that a word can tell are on screen, and one more row is one too many. -/
theorem page_overflows :
    Reachable tallest {} (atEnd 65537) ∧ (atEnd 65537).viewport.height = 5 ∧ (atEnd 65537).size = 65537 ∧
      (atEnd 65537).viewport.rows.lines.sum = 4294967295 ∧ (atEnd 65537).viewport.scroll = 4294967290 ∧
      (atEnd 65537).viewport.Uncarried ∧
      ((atEnd 65537).receive (atEnd 65537).pager.generation (pageOf 65537 1 false)).viewport.overflowed = true ∧
      ¬(atEnd 65537).SamePlace
        ((atEnd 65537).receive (atEnd 65537).pager.generation (pageOf 65537 1 false)) := by
  have hscroll : (atEnd 65537).viewport.scroll = 4294967290 := by
    rw [atEnd_scroll]
    decide
  have hfits : (atEnd 65537).viewport.Uncarried := atEnd_uncarried (by decide)
  refine ⟨atEnd_reachable _, atEnd_height _, atEnd_size _, ?_, hscroll, hfits, ?_, ?_⟩
  · rw [atEnd_sum]
  · rw [(atEnd_reachable 65537).overflowed_receive_iff hfits, atEnd_sum, length_pageOf, atEnd_estimate]
    decide
  · intro hsame
    have h := hsame.scroll
    rw [atEnd_after, hscroll] at h
    exact absurd h (by decide)

theorem page_keeps_screen_of_atEnd :
    (atEnd 65536).viewport.rows.lines.sum + 1 * 65535 < Word.size32 ∧
      ((atEnd 65536).receive (atEnd 65536).pager.generation (pageOf 65536 1 false)).viewport.overflowed = false ∧
      (atEnd 65536).SamePlace
        ((atEnd 65536).receive (atEnd 65536).pager.generation (pageOf 65536 1 false)) ∧
      ((atEnd 65536).receive (atEnd 65536).pager.generation (pageOf 65536 1 false)).viewport.scroll = 4294901755 ∧
      (atEnd 65536).learn ⟨0⟩ (.page (pageOf 65536 1 false)) = atEnd 65536 := by
  have hn : 0 < (atEnd 65536).size := by
    rw [atEnd_size]
    exact Nat.zero_lt_succ _
  have hh : 0 < (atEnd 65536).viewport.height := by
    rw [atEnd_height]
    exact Nat.zero_lt_succ _
  have hlate : (⟨0⟩ : Generation) ≠ (atEnd 65536).pager.generation := by
    rw [atEnd_generation]
    decide
  have hfits : (atEnd 65536).viewport.rows.lines.sum + 1 * 65535 < Word.size32 := by
    rw [atEnd_sum]
    decide
  have hscroll : (atEnd 65536).viewport.scroll = 4294901755 := by
    rw [atEnd_scroll]
    decide
  obtain ⟨hpage, hstale, -⟩ := page_keeps_screen (atEnd_reachable 65536) hn hh
  obtain ⟨-, hkept, -⟩ := hpage (pageOf 65536 1 false)
  obtain ⟨hover, hsame⟩ := hkept (atEnd_uncarried (by decide))
  rw [length_pageOf, atEnd_estimate] at hover
  have hnot := Bool.eq_false_iff.2 fun ho => absurd (hover.1 ho) (Nat.not_le.2 hfits)
  exact ⟨hfits, hnot, hsame hnot, (hsame hnot).scroll.trans hscroll, hstale ⟨0⟩ hlate _⟩

end JobList

end JobBoard
