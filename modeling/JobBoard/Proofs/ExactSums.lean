import JobBoard.Proofs.Carries
import JobBoard.Proofs.TrailingEdge
import Mathlib.Data.List.Range

/-!
Sums that fit into their words. The list counts lines in words of 32 bits and rows in words of 64 bits; here stands when
no addition carries beyond them, which is exactly when the rows that are prepared, and whether the end of the list is
near, come out as they do with numbers that have no bound.
-/

namespace JobBoard

namespace HeightTree

variable {t : HeightTree} {hs : List Nat}

/-- The nodes of the tree hold whole sums, and no sum over them carries. -/
structure Exact (t : HeightTree) (hs : List Nat) : Prop where
  whole : t.Whole hs
  sum : ∀ count ≤ hs.length, t.sumFromCarries count = false

/-- The tree over a list is exact as long as the sum of the whole list fits into a word, and no longer. -/
theorem Sums.exact_iff (h : t.Sums hs) : t.Exact hs ↔ hs.sum < Word.size32 := by
  constructor
  · intro he
    have hall := (h.sumFromCarries_iff he.whole (Nat.le_refl _)).1 (he.sum hs.length (Nat.le_refl _))
    rwa [List.take_of_length_le (Nat.le_refl _)] at hall
  · intro hw
    refine ⟨h.whole hw, ?_⟩
    intro count hc
    have hle := sum_take_le hs count
    rw [h.sumFromCarries_iff (h.whole hw) hc]
    omega

end HeightTree

namespace RowHeights

variable {r : RowHeights}

/-- The row at an offset, by sums without a bound: the first one that ends behind the offset, or else the last one. -/
def rowAt (r : RowHeights) (offset : Nat) : Option Nat :=
  if r.size = 0 then none
  else some (min ((List.range r.size).findIdx fun i => decide (offset < r.top (i + 1))) (r.size - 1))

theorem Sound.indexAt_eq_rowAt (h : r.Sound) (hw : r.lines.sum < Word.size32) (offset : Nat) :
    r.indexAt offset = r.rowAt offset := by
  rcases Nat.eq_zero_or_pos r.size with h₀ | hn
  · rw [RowHeights.indexAt, rowAt, if_pos h₀, if_pos h₀]
  · rw [rowAt, if_neg (Nat.ne_of_gt hn)]
    obtain ⟨i, hi, hlt, htop | ⟨rfl, hend⟩⟩ := h.indexAt hw hn offset
    · have hfind : (List.range r.size).findIdx (fun i => decide (offset < r.top (i + 1))) = i := by
        rw [List.findIdx_eq (by rwa [List.length_range])]
        simp only [List.getElem_range, decide_eq_true_eq, decide_eq_false_iff_not]
        refine ⟨htop.2, fun j hj => ?_⟩
        rw [← le_iff_lt_top htop]
        omega
      rw [hi, hfind, Nat.min_eq_left (by omega)]
    · have hfind : (List.range r.size).findIdx (fun i => decide (offset < r.top (i + 1))) = r.size := by
        rw [List.findIdx_eq_length_of_false, List.length_range]
        intro j _
        have hle := r.top_le (j + 1)
        exact decide_eq_false (by omega)
      rw [hi, hfind, Nat.min_eq_right (Nat.sub_le _ _)]

theorem Sound.size_le_sum (h : r.Sound) : r.size ≤ r.lines.sum := by
  rw [← length_lines]
  exact List.length_le_sum_of_one_le _ h.positive

end RowHeights

namespace Viewport

variable {v : Viewport}

/-- The first and the last row on screen, by sums without a bound. -/
def exactWindow? (v : Viewport) : Option Window :=
  if v.height = 0 then none
  else do
    let first ← v.rows.rowAt v.scroll
    let last ← v.rows.rowAt (v.scroll + (v.height - 1))
    some ⟨first, last⟩

/-- The rows that are prepared, by sums without a bound. -/
def exactRange (v : Viewport) : Nat × Nat :=
  match v.exactWindow? with
  | none => (0, 0)
  | some w => (w.first - v.overscan, min (w.last + v.overscan + 1) v.rows.size)

theorem Valid.window?_eq_exact (h : v.Valid) (hw : v.rows.lines.sum < Word.size32) (hs : v.height < Word.size32) :
    v.window? = v.exactWindow? := by
  have hscroll := h.scroll
  rw [h.maxScroll_eq hw] at hscroll
  unfold window? exactWindow?
  by_cases hh : v.height = 0
  · rw [if_pos hh, if_pos hh]
  · have hbottom : Word.add32 v.scroll (v.height - 1) = v.scroll + (v.height - 1) := Word.add32_of_lt (by omega)
    rw [if_neg hh, if_neg hh, hbottom, h.rows.indexAt_eq_rowAt hw, h.rows.indexAt_eq_rowAt hw]

theorem Valid.windowCarries (h : v.Valid) (hw : v.rows.lines.sum < Word.size32) (hs : v.height < Word.size32) :
    v.windowCarries = false := by
  have hscroll := h.scroll
  rw [h.maxScroll_eq hw] at hscroll
  simp only [Viewport.windowCarries, Word.carries32, Bool.and_eq_false_iff, decide_eq_false_iff_not]
  omega

theorem Valid.rangeCarries_iff (h : v.Valid) (hw : v.rows.lines.sum < Word.size32) (hs : v.height < Word.size32) :
    v.rangeCarries = false ↔ ∀ w, v.window? = some w → w.last + v.overscan + 1 < Word.size64 := by
  rw [rangeCarries, h.windowCarries hw hs, Bool.false_or]
  rcases v.window? with - | w
  · exact iff_of_true rfl nofun
  · simp only [Option.any_some, Word.carries64, Bool.or_eq_false_iff, decide_eq_false_iff_not,
      Option.some.injEq, forall_eq']
    unfold Word.add64 Word.size64
    omega

theorem last_lt_size {w : Window} (hwin : v.window? = some w) : w.last < v.rows.size := by
  unfold window? at hwin
  split at hwin
  · cases hwin
  · obtain ⟨first, -, hwin⟩ := Option.bind_eq_some_iff.1 hwin
    obtain ⟨last, hlast, hwin⟩ := Option.bind_eq_some_iff.1 hwin
    cases hwin
    unfold RowHeights.indexAt at hlast
    split at hlast
    · cases hlast
    · cases hlast
      dsimp only
      omega

/-- Where the number of the last prepared row carries beyond its word, the last row on screen is not prepared. -/
theorem range_of_carry {w : Window} (hwin : v.window? = some w) (ho : v.overscan < Word.size64)
    (hn : v.rows.size ≤ Word.size64) (hcarry : Word.size64 ≤ w.last + v.overscan + 1) : v.range.2 ≤ w.last := by
  have hlast := last_lt_size hwin
  have hstop : Word.add64 (Word.add64 w.last v.overscan) 1 ≤ w.last := by
    unfold Word.add64 Word.size64 at *
    omega
  rw [range, hwin]
  exact Nat.le_trans (Nat.min_le_left _ _) hstop

theorem Valid.range_eq_exact_iff (h : v.Valid) (hw : v.rows.lines.sum < Word.size32) (hs : v.height < Word.size32)
    (ho : v.overscan < Word.size64) :
    v.range = v.exactRange ↔ ∀ w, v.window? = some w → w.last + v.overscan + 1 < Word.size64 := by
  have hexact := h.window?_eq_exact hw hs
  have hsize : v.rows.size < Word.size64 := by
    have := h.rows.size_le_sum
    unfold Word.size32 Word.size64 at *
    omega
  rcases hwin : v.window? with - | w
  · refine iff_of_true ?_ nofun
    rw [range, exactRange, ← hexact, hwin]
  · have hright : v.exactRange = (w.first - v.overscan, min (w.last + v.overscan + 1) v.rows.size) := by
      rw [exactRange, ← hexact, hwin]
    have hlast := last_lt_size hwin
    constructor
    · rintro he w' ⟨⟩
      by_contra hcarry
      have hle := range_of_carry hwin ho (Nat.le_of_lt hsize) (Nat.le_of_not_lt hcarry)
      rw [he, hright] at hle
      dsimp only at hle
      omega
    · intro hfits
      rw [range_of_window hwin (hfits w rfl), hright]

end Viewport

namespace Prefetch

/-- Whether the highest row that was drawn is near the end, by a sum without a bound. -/
def isNearExact (t : Prefetch) (highest : Option Nat) (loaded : Nat) : Bool :=
  match highest with
  | some i => loaded ≤ i + t.threshold
  | none => loaded == 0

theorem isNear_eq_exact_iff {t : Prefetch} {highest : Option Nat} {loaded : Nat} (ht : t.threshold < Word.size64)
    (hloaded : loaded ≤ Word.size64) (hhighest : ∀ i, highest = some i → i < loaded) :
    t.isNear highest loaded = t.isNearExact highest loaded ↔
      ∀ i, highest = some i → i + t.threshold < Word.size64 := by
  cases highest with
  | none => exact iff_of_true rfl nofun
  | some i =>
    have hi := hhighest i rfl
    -- A sum with a carry is below the number of the row, while the sum without a bound is beyond every row.
    simp only [isNear, isNearExact, Option.some.injEq, forall_eq', decide_eq_decide]
    unfold Word.add64 Word.size64 at *
    omega

theorem observeCarries_iff {t : Prefetch} (highest : Option Nat) {p : Pager} (hm : p.hasMore = true)
    (hf : p.inFlight = false) :
    t.observeCarries highest p = false ↔ ∀ i, highest = some i → i + t.threshold < Word.size64 := by
  rw [observeCarries, hm, hf]
  cases highest with
  | none => exact iff_of_true rfl nofun
  | some i => simp [Word.carries64]

end Prefetch

namespace JobList

variable {l : JobList} {settings : Settings} {filter : Filter}

theorem highestPrepared_lt (h : l.InStep settings) : ∀ i, l.highestPrepared = some i → i < l.size := by
  intro i hi
  have hle := l.viewport.range_stop_le
  rw [h.rows] at hle
  simp only [highestPrepared] at hi
  split at hi
  · cases hi
    omega
  · cases hi

/-- Of every run under sanitized settings it is known exactly when words suffice. Its additions to the height tree are
free of carries if and only if the lines of all rows have fit into a word together from step to step, and as long as
they do, the tree is exact. Then the rows that are prepared are those found with numbers without a bound, and are found
without a carry, if and only if the number of the last row on screen, the overscan and one fit into a word together. The
end of the list is near, or is not, as it is with numbers without a bound if and only if the number of the highest
prepared row and the threshold fit into a word together; where a page can be asked for, the sum carries otherwise. -/
theorem sums_exact_iff {steps : List Step}
    (hheight : ∀ k ≤ steps.length,
      ((start settings.sanitized filter).run (steps.take k)).viewport.height < 65536)
    (hsize : ((start settings.sanitized filter).run steps).size < Word.size64) (ho : settings.overscan < Word.size64)
    (ht : settings.prefetchThreshold < Word.size64) :
    let list := (start settings.sanitized filter).run
    let l := list steps
    (l.viewport.Uncarried ↔
      ∀ k ≤ steps.length, (list (steps.take k)).viewport.rows.lines.sum < Word.size32) ∧
    (l.viewport.rows.tree.Exact l.viewport.rows.lines ↔ l.viewport.rows.lines.sum < Word.size32) ∧
    (l.viewport.rows.lines.sum < Word.size32 →
      let fits := ∀ w, l.viewport.window? = some w → w.last + settings.overscan + 1 < Word.size64
      (l.viewport.rangeCarries = false ↔ fits) ∧ (l.viewport.range = l.viewport.exactRange ↔ fits)) ∧
    let fits := ∀ i, l.highestPrepared = some i → i + settings.prefetchThreshold < Word.size64
    (l.pager.hasMore = true → l.pager.inFlight = false →
      (l.prefetch.observeCarries l.highestPrepared l.pager = false ↔ fits)) ∧
    (l.prefetch.isNear l.highestPrepared l.size = l.prefetch.isNearExact l.highestPrepared l.size ↔ fits) := by
  intro list l
  have hs : l.InStep settings.sanitized := (Reachable.run .start steps).inStep
  have hoverscan : l.viewport.overscan = settings.overscan := hs.overscan
  have hthreshold : l.prefetch.threshold = settings.prefetchThreshold := hs.threshold
  have hscreen (k : Nat) (hk : k ≤ steps.length) : (list (steps.take k)).viewport.height < Word.size32 :=
    Nat.lt_trans (hheight k hk) (by decide)
  refine ⟨?_, hs.valid.rows.tree.exact_iff, ?_, ?_, ?_⟩
  · have hstart : (start settings.sanitized filter).InStep settings.sanitized := .start
    exact uncarried_run_iff hstart (.start _ _) hscreen (Nat.zero_lt_succ _)
  · intro hw
    have hlast := hscreen steps.length (Nat.le_refl _)
    rw [List.take_length] at hlast
    have hcarries := hs.valid.rangeCarries_iff hw hlast
    have hrange := hs.valid.range_eq_exact_iff hw hlast (by rwa [hoverscan])
    rw [hoverscan] at hcarries hrange
    exact ⟨hcarries, hrange⟩
  · intro hm hf
    have hobserve := Prefetch.observeCarries_iff (t := l.prefetch) l.highestPrepared hm hf
    rwa [hthreshold] at hobserve
  · have hnear := Prefetch.isNear_eq_exact_iff (by rwa [hthreshold]) (Nat.le_of_lt hsize) (highestPrepared_lt hs)
    rwa [hthreshold] at hnear

def threeRowSteps : List Step :=
  [.act (.setHeight 5), .act .mount,
    .learn ⟨1⟩ (.page { items := [{ id := 0 }, { id := 1 }, { id := 2 }], hasMore := true })]

theorem sums_exact_of_threeRows :
    let l := (start (Settings.sanitized {}) {}).run threeRowSteps
    l.viewport.Uncarried ∧ l.viewport.rows.tree.Exact l.viewport.rows.lines ∧ l.viewport.rangeCarries = false ∧
      l.viewport.range = l.viewport.exactRange ∧ l.prefetch.observeCarries l.highestPrepared l.pager = false ∧
      l.prefetch.isNear l.highestPrepared l.size = l.prefetch.isNearExact l.highestPrepared l.size := by
  intro l
  have hwindow : l.viewport.window? = some ⟨0, 2⟩ := by decide +kernel
  have hhighest : l.highestPrepared = some 2 := by decide +kernel
  obtain ⟨hrun, htree, hrange, hask, hnear⟩ := @sums_exact_iff {} {} threeRowSteps (by decide +kernel)
    (by decide +kernel) (by decide) (by decide)
  have hw : ∀ k ≤ threeRowSteps.length,
      ((start (Settings.sanitized {}) {}).run (threeRowSteps.take k)).viewport.rows.lines.sum < Word.size32 := by
    decide +kernel
  have hsum : l.viewport.rows.lines.sum < Word.size32 := hw 3 (Nat.le_refl 3)
  have hlast : ∀ w, l.viewport.window? = some w → w.last + 3 + 1 < Word.size64 := by
    intro w hwin
    cases hwindow.symm.trans hwin
    decide
  have hrow : ∀ i, l.highestPrepared = some i → i + 10 < Word.size64 := by
    intro i hi
    cases hhighest.symm.trans hi
    decide
  exact ⟨hrun.2 hw, htree.2 hsum, (hrange hsum).1.2 hlast, (hrange hsum).2.2 hlast,
    (hask (by decide +kernel) (by decide +kernel)).2 hrow, hnear.2 hrow⟩

/-- With the greatest overscan, which sanitizing lets pass, looking for the rows to prepare carries when there are three
of them, where it should find them all. -/
theorem greatest_overscan_carries :
    let settings := Settings.sanitized { overscan := 18446744073709551615 }
    let l := (start settings {}).run threeRowSteps
    Reachable settings {} l ∧ l.viewport.Uncarried ∧ l.viewport.window? = some ⟨0, 2⟩ ∧
      Word.size64 ≤ 2 + settings.overscan + 1 ∧ l.viewport.rangeCarries = true ∧ l.stops = true ∧
      l.viewport.exactRange = (0, 3) :=
  ⟨.run .start _, ⟨by decide +kernel, by decide +kernel⟩, by decide +kernel, by decide, by decide +kernel,
    by decide +kernel, by decide +kernel⟩

end JobList

end JobBoard
