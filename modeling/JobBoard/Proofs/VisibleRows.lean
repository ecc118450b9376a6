import JobBoard.Proofs.RowLookup
import JobBoard.Proofs.Viewport
import Mathlib.Data.List.Range

/-!
The viewport as a machine. Whatever has been done to it, it is inside its list, and what it says of its rows is what
the picture of them says: every row is an interval of lines, the screen is another one, and a row is in the window, or
counts for the step of paging, by how the two lie to each other.
-/

namespace JobBoard.Viewport

inductive Change where
  | setCount (n : Nat)
  | setHeight (height : UInt16)
  | reset
  | scrollBy (d : Int)
  | scrollTo (index : Nat)
  | ensureVisible (index : Nat)
  | record (index : Nat) (height : UInt16)

def change (v : Viewport) : Change → Viewport
  | .setCount n => v.setCount n
  | .setHeight height => v.setHeight height.toNat
  | .reset => v.reset
  | .scrollBy d => (v.scrollBy d).1
  | .scrollTo index => v.scrollTo index
  | .ensureVisible index => (v.ensureVisible index).1
  | .record index height => (v.record index height.toNat).1

inductive Reachable (estimate : UInt16) (overscan : Nat) : Viewport → Prop
  | start : Reachable estimate overscan (.start estimate.toNat overscan)
  | change {v : Viewport} (c : Change) : Reachable estimate overscan v → Reachable estimate overscan (v.change c)

def Meets (v : Viewport) (index : Nat) : Prop :=
  ∃ line, (v.rows.offsetOf index ≤ line ∧ line < v.rows.offsetOf index + v.rows.height index) ∧
    (v.scroll ≤ line ∧ line < v.scroll + v.height)

def Encloses (v : Viewport) (index : Nat) : Prop :=
  v.scroll ≤ v.rows.offsetOf index ∧
    v.rows.offsetOf index + v.rows.height index ≤ v.scroll + v.height

instance (v : Viewport) : DecidablePred v.Encloses := fun _ => inferInstanceAs (Decidable (_ ∧ _))

variable {v : Viewport} {estimate : UInt16} {overscan : Nat}

/-- A valid viewport whose heights are 16-bit words. -/
structure Kept (overscan : Nat) (v : Viewport) : Prop where
  valid : v.Valid
  estimate : v.rows.estimate < 65536
  lines : ∀ n ∈ v.rows.lines, n < 65536
  height : v.height < 65536
  overscan : v.overscan = overscan

theorem Kept.rows (h : v.Kept overscan) : v.rows.Kept where
  sound := h.valid.rows
  estimate := h.estimate
  lines := h.lines

theorem Kept.start (estimate : UInt16) (overscan : Nat) : (start estimate.toNat overscan).Kept overscan where
  valid := .start _ _
  estimate := (RowHeights.Kept.start estimate).estimate
  lines := (RowHeights.Kept.start estimate).lines
  height := Nat.zero_lt_succ _
  overscan := rfl

theorem Kept.setCount (h : v.Kept overscan) (n : Nat) : (v.setCount n).Kept overscan where
  valid := .clamp (h.rows.resize n).sound
  estimate := (h.rows.resize n).estimate
  lines := (h.rows.resize n).lines
  height := h.height
  overscan := h.overscan

theorem scrollTo_frame (v : Viewport) (index : Nat) :
    ∃ n b, v.scrollTo index = { v with scroll := n, overflowed := b } := by
  unfold scrollTo
  split <;> exact ⟨_, _, rfl⟩

theorem ensureVisible_frame (v : Viewport) (index : Nat) :
    ∃ n b, (v.ensureVisible index).1 = { v with scroll := n, overflowed := b } := by
  unfold ensureVisible
  split <;> exact ⟨_, _, rfl⟩

theorem Valid.scrollTo (h : v.Valid) (index : Nat) : (v.scrollTo index).Valid := by
  unfold Viewport.scrollTo
  split
  · exact ⟨h.rows, Nat.zero_le _⟩
  · exact ⟨h.rows, Nat.min_le_right _ _⟩

theorem Kept.scrolled (h : v.Kept overscan) {w : Viewport} (hw : w.Valid)
    (hs : ∃ n b, w = { v with scroll := n, overflowed := b }) : w.Kept overscan := by
  obtain ⟨n, b, rfl⟩ := hs
  exact ⟨hw, h.estimate, h.lines, h.height, h.overscan⟩

theorem Kept.record (h : v.Kept overscan) (index : Nat) (height : UInt16) :
    (v.record index height.toNat).1.Kept overscan where
  valid := h.valid.record _ _
  estimate := by
    rw [record_rows]
    exact (h.rows.record index height).estimate
  lines := by
    rw [record_rows]
    exact (h.rows.record index height).lines
  height := by
    rw [record_height]
    exact h.height
  overscan := by
    rw [record_overscan]
    exact h.overscan

theorem Kept.change (h : v.Kept overscan) (c : Change) : (v.change c).Kept overscan := by
  cases c with
  | setCount n => exact h.setCount n
  | setHeight height => exact ⟨h.valid.setHeight _, h.estimate, h.lines, height.toNat_lt, h.overscan⟩
  | reset => exact ⟨h.valid.reset, h.rows.clear.estimate, h.rows.clear.lines, h.height, h.overscan⟩
  | scrollBy d => exact h.scrolled (h.valid.scrollBy d) ⟨_, _, rfl⟩
  | scrollTo index => exact h.scrolled (h.valid.scrollTo index) (v.scrollTo_frame index)
  | ensureVisible index => exact h.scrolled (h.valid.ensureVisible index) (v.ensureVisible_frame index)
  | record index height => exact h.record index height

theorem Reachable.kept (h : Reachable estimate overscan v) : v.Kept overscan := by
  induction h with
  | start => exact .start estimate overscan
  | change c _ ih => exact ih.change c

theorem Valid.bottom (h : v.Valid) (hw : v.rows.lines.sum < Word.size32) {index : Nat} (hi : index < v.rows.size) :
    v.rows.offsetOf index + v.rows.height index = v.rows.top (index + 1) := by
  rw [h.rows.offsetOf hw, RowHeights.top_succ hi]

theorem Valid.screen_lt (h : v.Valid) (hw : v.rows.lines.sum < Word.size32) (hh : v.height < 65536) :
    v.scroll + v.height < Word.size32 := by
  have hscroll := h.scroll
  rw [h.maxScroll_eq hw] at hscroll
  simp only [Word.size32] at *
  omega

theorem Valid.meets_iff_shows (h : v.Valid) (hw : v.rows.lines.sum < Word.size32) (hh : 0 < v.height) {index : Nat}
    (hi : index < v.rows.size) : v.Meets index ↔ v.Shows index := by
  have hlt := h.rows.top_lt_succ hi
  rw [Meets, Shows, h.bottom hw hi, h.rows.offsetOf hw]
  constructor
  · rintro ⟨line, ⟨htop, hbottom⟩, hfrom, hto⟩
    exact ⟨by omega, by omega⟩
  · rintro ⟨htop, hbottom⟩
    exact ⟨max (v.rows.top index) v.scroll, by omega, by omega⟩

theorem Valid.showsWhole_eq (h : v.Valid) (hw : v.rows.lines.sum < Word.size32) (hh : v.height < 65536) {index : Nat}
    (hi : index < v.rows.size) : v.showsWhole index = decide (v.Encloses index) := by
  have hle : v.rows.offsetOf index + v.rows.height index < Word.size32 := by
    rw [h.bottom hw hi]
    exact Nat.lt_of_le_of_lt (v.rows.top_le _) hw
  rw [showsWhole, Word.add32_of_lt hle, Word.add32_of_lt (h.screen_lt hw hh), ← Bool.decide_and]
  rfl

theorem Valid.shows_of_encloses (h : v.Valid) (hw : v.rows.lines.sum < Word.size32) {index : Nat}
    (hi : index < v.rows.size) (he : v.Encloses index) : v.Shows index := by
  have hlt := h.rows.top_lt_succ hi
  rw [Encloses, h.bottom hw hi, h.rows.offsetOf hw] at he
  exact ⟨by omega, by omega⟩

/-- Where only entries of a stretch of a range count, the stretch has as many of them as the range. -/
theorem countP_range_eq {p q : Nat → Bool} {first last n : Nat} (hl : last < n) (hf : first ≤ last)
    (hin : ∀ i < n, q i = true → first ≤ i ∧ i ≤ last) (heq : ∀ i < n, p i = q i) :
    (List.range' first (last + 1 - first)).countP p = (List.range n).countP q := by
  have hsplit : List.range n = List.range' 0 first ++ List.range' first (last + 1 - first) ++
      List.range' (last + 1) (n - (last + 1)) := by
    rw [List.range_eq_range', List.append_assoc]
    have h₁ := List.range'_append_1 (s := first) (m := last + 1 - first) (n := n - (last + 1))
    have h₂ := List.range'_append_1 (s := 0) (m := first) (n := n - first)
    rw [show first + (last + 1 - first) = last + 1 by omega] at h₁
    rw [h₁, show last + 1 - first + (n - (last + 1)) = n - first by omega]
    rw [Nat.zero_add] at h₂
    rw [h₂, show first + (n - first) = n by omega]
  have hbefore : (List.range' 0 first).countP q = 0 := by
    rw [List.countP_eq_zero]
    intro i hi hq
    have hi := List.mem_range'_1.1 hi
    have := hin i (by omega) hq
    omega
  have hbehind : (List.range' (last + 1) (n - (last + 1))).countP q = 0 := by
    rw [List.countP_eq_zero]
    intro i hi hq
    have hi := List.mem_range'_1.1 hi
    have := hin i (by omega) hq
    omega
  rw [hsplit, List.countP_append, List.countP_append, hbefore, hbehind, Nat.zero_add, Nat.add_zero]
  apply List.countP_congr
  intro i hi
  have hi := List.mem_range'_1.1 hi
  rw [heq i (by omega)]

/-- The step of paging is the number of rows of the list that are wholly on screen, and at least one. -/
theorem Kept.wholeRows_eq (h : v.Kept overscan) (hw : v.rows.lines.sum < Word.size32) :
    v.wholeRows = max 1 ((List.range v.rows.size).countP fun i => decide (v.Encloses i)) := by
  by_cases hopen : 0 < v.height ∧ 0 < v.rows.size
  · obtain ⟨hh, hn⟩ := hopen
    obtain ⟨first, last, hwin, hfirst, hlast, hft, hin⟩ :=
      h.valid.window hw (Nat.lt_trans h.height (by decide)) hh hn
    have hf : first ≤ last := ((hin first hfirst).2 ⟨by omega, hft.2⟩).2
    rw [wholeRows, hwin]
    dsimp only
    rw [Nat.max_comm, countP_range_eq hlast hf]
    · intro i hi he
      exact (hin i hi).2 (h.valid.shows_of_encloses hw hi (of_decide_eq_true he))
    · intro i hi
      exact h.valid.showsWhole_eq hw h.height hi
  · have hnone : (List.range v.rows.size).countP (fun i => decide (v.Encloses i)) = 0 := by
      rw [List.countP_eq_zero]
      intro i hi he
      have hi := List.mem_range.1 hi
      have he := of_decide_eq_true he
      have := h.valid.rows.height_pos i
      simp only [Encloses] at he
      omega
    have hwin : v.window? = none := by
      rw [window?]
      split
      · rfl
      · have hn : v.rows.size = 0 := by omega
        rw [RowHeights.indexAt, if_pos hn]
        rfl
    rw [wholeRows, hwin, hnone]
    rfl

/-- Whatever has been done to a viewport, as long as all lines of its rows fit into a word: it is not scrolled beyond
its list; where there is anything to show, the rows of its window are exactly those of which a line is on screen, and
the rows that are prepared are these with `overscan` rows on each side; and the step of paging is the number of rows
of the whole list that are wholly on screen, and at least one. -/
theorem window_exact (h : Reachable estimate overscan v) (hw : v.rows.lines.sum < Word.size32) :
    v.scroll ≤ v.maxScroll ∧
    (0 < v.height → 0 < v.rows.size → ∃ w, v.window? = some w ∧
      (∀ i < v.rows.size, w.first ≤ i ∧ i ≤ w.last ↔ v.Meets i) ∧
      (w.last + overscan + 1 < Word.size64 →
        v.range = (w.first - overscan, min (w.last + overscan + 1) v.rows.size))) ∧
    v.wholeRows = max 1 ((List.range v.rows.size).countP fun i => decide (v.Encloses i)) := by
  have hk := h.kept
  refine ⟨hk.valid.scroll, ?_, hk.wholeRows_eq hw⟩
  intro hh hn
  obtain ⟨first, last, hwin, -, -, -, hin⟩ := hk.valid.window hw (Nat.lt_trans hk.height (by decide)) hh hn
  refine ⟨⟨first, last⟩, hwin, ?_, ?_⟩
  · intro i hi
    rw [hin i hi, hk.valid.meets_iff_shows hw hh hi]
  · intro ho
    have hover := hk.overscan
    subst hover
    exact range_of_window hwin ho

/-- Five rows of which the screen shows the last line of the first, the second, and the first line of the third. -/
def cutAtBothEnds : Viewport :=
  (((((start (1 : UInt16).toNat 1).change (.setCount 5)).change (.setHeight 3)).change (.record 0 2)).change
    (.record 2 3)).change (.scrollBy 1)

theorem cutAtBothEnds_reachable : Reachable 1 1 cutAtBothEnds :=
  .change _ (.change _ (.change _ (.change _ (.change _ .start))))

theorem window_exact_of_cutAtBothEnds :
    cutAtBothEnds.rows.lines.sum < Word.size32 ∧ cutAtBothEnds.window? = some ⟨0, 2⟩ ∧
      cutAtBothEnds.range = (0, 4) ∧ cutAtBothEnds.Meets 2 ∧ ¬cutAtBothEnds.Meets 3 ∧
      cutAtBothEnds.wholeRows = 1 := by
  have hw : cutAtBothEnds.rows.lines.sum < Word.size32 := by decide
  have hn : cutAtBothEnds.rows.size = 5 := by decide
  have hwin : cutAtBothEnds.window? = some ⟨0, 2⟩ := by decide +kernel
  obtain ⟨-, hopen, hwhole⟩ := window_exact cutAtBothEnds_reachable hw
  obtain ⟨w, hw', hin, hrange⟩ := hopen (by decide) (by rw [hn]; decide)
  obtain rfl : w = ⟨0, 2⟩ := Option.some.inj (hw'.symm.trans hwin)
  rw [hn] at hrange hin
  refine ⟨hw, hwin, hrange (by decide), (hin 2 (by decide)).1 (by decide), ?_, ?_⟩
  · intro h
    exact absurd ((hin 3 (by decide)).2 h).2 (by decide)
  · exact hwhole.trans (by decide +kernel)

end JobBoard.Viewport
