import JobBoard.Proofs.RowList

/-!
Rows and offsets. Whatever has been done to the heights of rows, every offset within the list falls into exactly one
row, and looking up the row at an offset undoes looking up the offset of a row.
-/

namespace JobBoard.RowHeights

/-- The heights that come of some order of changes. A height is a 16-bit word. -/
inductive Reachable (estimate : UInt16) : RowHeights → Prop
  | start : Reachable estimate (.start estimate.toNat)
  | resize {r : RowHeights} (n : Nat) : Reachable estimate r → Reachable estimate (r.resize n)
  | clear {r : RowHeights} : Reachable estimate r → Reachable estimate r.clear
  | record {r : RowHeights} (index : Nat) (height : UInt16) :
      Reachable estimate r → Reachable estimate (r.record index height.toNat).1

/-- Sound heights that are 16-bit words. -/
structure Kept (r : RowHeights) : Prop where
  sound : r.Sound
  estimate : r.estimate < 65536
  lines : ∀ n ∈ r.lines, n < 65536

variable {r : RowHeights} {estimate : UInt16}

theorem lines_resize (r : RowHeights) (n : Nat) :
    (r.resize n).lines = r.lines.take n ++ List.replicate (n - r.size) r.estimate := by
  rw [lines, rows_resize, List.map_append, List.map_take, List.map_replicate]
  rfl

theorem Kept.start (estimate : UInt16) : (start estimate.toNat).Kept where
  sound := .start _
  estimate := Nat.max_lt.2 ⟨estimate.toNat_lt, by decide⟩
  lines := by
    intro n hn
    cases hn

theorem Kept.resize (h : r.Kept) (n : Nat) : (r.resize n).Kept where
  sound := by
    apply h.sound.resize
    intro k hk
    exact Nat.lt_trans (h.lines k hk) (by decide)
  estimate := by
    rw [estimate_resize]
    exact h.estimate
  lines := by
    intro k hk
    rw [lines_resize] at hk
    rcases List.mem_append.1 hk with hk | hk
    · exact h.lines k (List.mem_of_mem_take hk)
    · rw [List.eq_of_mem_replicate hk]
      exact h.estimate

theorem Kept.clear (h : r.Kept) : r.clear.Kept where
  sound := h.sound.clear
  estimate := h.estimate
  lines := by
    intro n hn
    cases hn

theorem Kept.record (h : r.Kept) (index : Nat) (height : UInt16) : (r.record index height.toNat).1.Kept where
  sound := h.sound.record _ _
  estimate := by
    rw [estimate_record]
    exact h.estimate
  lines := by
    intro k hk
    rw [lines_record] at hk
    rcases List.mem_or_eq_of_mem_set hk with hk | rfl
    · exact h.lines k hk
    · exact Nat.max_lt.2 ⟨height.toNat_lt, by decide⟩

theorem Reachable.kept (h : Reachable estimate r) : r.Kept := by
  induction h with
  | start => exact .start estimate
  | resize n _ ih => exact ih.resize n
  | clear _ ih => exact ih.clear
  | record index height _ ih => exact ih.record index height

/-- Whatever has been done to the heights of rows, as long as all lines together fit into a word: the row at an
offset within the list is the only one that starts at or above the offset and ends below it, and at offsets behind the
end it is the last one; the row at a greater offset does not come before; and the row at the offset of a row is that
row. -/
theorem indexAt_inverts_offsetOf (h : Reachable estimate r) (hn : 0 < r.size) (hw : r.lines.sum < Word.size32) :
    (∀ offset < r.total, ∃ i < r.size, r.indexAt offset = some i ∧
      ∀ k, r.offsetOf k ≤ offset ∧ offset < r.offsetOf (k + 1) ↔ k = i) ∧
    (∀ offset, r.total ≤ offset → r.indexAt offset = some (r.size - 1)) ∧
    (∀ a b, a ≤ b → ∃ i j, r.indexAt a = some i ∧ r.indexAt b = some j ∧ i ≤ j) ∧
    ∀ i < r.size, r.indexAt (r.offsetOf i) = some i := by
  have hs := h.kept.sound
  simp only [hs.total hw, hs.offsetOf hw]
  refine ⟨?_, ?_, ?_, ?_⟩
  · intro offset hlt
    obtain ⟨i, hi, hin, htop | ⟨-, hend⟩⟩ := hs.indexAt hw hn offset
    · refine ⟨i, hin, hi, fun k => ⟨fun hk => eq_of_top_le hk htop, ?_⟩⟩
      rintro rfl
      exact htop
    · exact absurd hlt (Nat.not_lt.2 hend)
  · intro offset hend
    exact hs.indexAt_of_sum_le hw hn hend
  · intro a b hab
    exact hs.indexAt_mono hw hn hab
  · intro i hi
    exact hs.indexAt_of_top hw ⟨Nat.le_refl _, hs.top_lt_succ hi⟩

/-- Eleven rows of which one is measured, cut off behind it, measured at the top, and grown to thirteen. -/
def elevenToThirteen : RowHeights :=
  ((((((start (2 : UInt16).toNat).resize 11).record 3 (4 : UInt16).toNat).1.resize 6).record 0
    (1 : UInt16).toNat).1.resize 13)

theorem elevenToThirteen_reachable : Reachable 2 elevenToThirteen :=
  .resize _ (.record _ _ (.resize _ (.record _ _ (.resize _ .start))))

theorem indexAt_inverts_offsetOf_of_elevenToThirteen :
    0 < elevenToThirteen.size ∧ elevenToThirteen.lines.sum < Word.size32 ∧ elevenToThirteen.total = 27 ∧
      elevenToThirteen.indexAt 8 = some 3 ∧ elevenToThirteen.indexAt 27 = some 12 ∧
      elevenToThirteen.indexAt (elevenToThirteen.offsetOf 7) = some 7 := by
  have hsize : elevenToThirteen.size = 13 := by decide
  have htotal : elevenToThirteen.total = 27 := by decide +kernel
  have hn : 0 < elevenToThirteen.size := by rw [hsize]; decide
  have hw : elevenToThirteen.lines.sum < Word.size32 := by decide
  obtain ⟨hin, hend, -, hinv⟩ := indexAt_inverts_offsetOf elevenToThirteen_reachable hn hw
  rw [hsize, htotal] at hend
  rw [hsize] at hinv
  rw [htotal] at hin
  obtain ⟨i, -, hi, hk⟩ := hin 8 (by decide)
  obtain rfl : 3 = i := (hk 3).1 (by decide +kernel)
  exact ⟨hn, hw, htotal, hi, hend 27 (by decide), hinv 7 (by decide)⟩

end JobBoard.RowHeights
