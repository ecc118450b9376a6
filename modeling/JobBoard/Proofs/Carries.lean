import JobBoard.Proofs.LaidOut

/-!
When sums carry on the way to a viewport. The tree asks for the sum of all rows after each change of them, and what it
sums up before that carries no sooner; so a viewport is free of carries as long as the lines of all rows together have
fit into a word, and no longer.
-/

namespace JobBoard

namespace HeightTree

variable {t : HeightTree} {hs : List Nat}

theorem Sums.sumFirstCarries_size (h : t.Sums hs) (hn : t.Whole hs) :
    t.sumFirstCarries t.size = false ↔ hs.sum < Word.size32 := by
  rw [sumFirstCarries, Nat.min_self, h.size, h.sumFromCarries_iff hn (Nat.le_refl _),
    List.take_of_length_le (Nat.le_refl _)]

theorem Sums.sub32_sumFirst (h : t.Sums hs) (hw : hs.sum < Word.size32) (k : Nat) :
    Word.sub32 (t.sumFirst t.size) (t.sumFirst k) = (hs.drop k).sum ∧ t.sumFirst k ≤ t.sumFirst t.size := by
  have hsplit := congrArg List.sum (List.take_append_drop k hs)
  rw [List.sum_append] at hsplit
  rw [h.sumFirst, h.sumFirst, List.take_of_length_le (Nat.le_of_eq h.size.symm), Nat.mod_eq_of_lt hw,
    Nat.mod_eq_of_lt (by omega), Word.sub32_of_le hw (by omega)]
  omega

/-- Where the old heights fit into a word, the sum for the new node is the only one that can carry. -/
theorem Sums.pushCarries_iff (h : t.Sums hs) (hw : hs.sum < Word.size32) (height : Nat) :
    t.pushCarries height = false ↔ (hs.drop (dropLowBit (t.size + 1))).sum + height < Word.size32 := by
  obtain ⟨hcovered, hle⟩ := h.sub32_sumFirst hw (dropLowBit (t.size + 1))
  simp only [pushCarries, Nat.add_sub_cancel, h.sumFirstCarries_eq_false hw, hcovered, Word.carries32,
    decide_eq_false (Nat.not_lt.2 hle), Bool.false_or, decide_eq_false_iff_not, Nat.not_le]

theorem Sums.whole_push (h : t.Sums hs) (hw : hs.sum < Word.size32) {height : Nat}
    (hp : t.pushCarries height = false) : (t.push height).Whole (hs ++ [height]) := by
  intro i h₀ hi
  have hnode := (h.push height).node i h₀ hi
  rw [List.length_append, List.length_singleton] at hi
  rcases Nat.lt_or_ge hs.length i with hlt | hle
  · obtain rfl : i = t.size + 1 := by rw [h.size]; omega
    have hd := dropLowBit_lt h₀
    rw [List.take_of_length_le (by rw [List.length_append, List.length_singleton, h.size]),
      List.drop_append_of_le_length (by rw [← h.size]; omega), List.sum_append, List.sum_singleton] at hnode ⊢
    rw [hnode, Nat.mod_eq_of_lt ((h.pushCarries_iff hw height).1 hp)]
  · rw [node_push t height i h₀ (by rw [h.size]; exact hle), h.whole hw i h₀ hle, List.take_append_of_le_length hle]

theorem Sums.pushCarries_of_sum (h : t.Sums hs) (hn : t.Whole hs) (hw : Word.size32 ≤ hs.sum) (height : Nat) :
    t.pushCarries height = true := by
  have hall : t.sumFirstCarries t.size = true := by
    rw [← Bool.not_eq_false, h.sumFirstCarries_size hn]
    omega
  simp only [pushCarries, Nat.add_sub_cancel, hall, Bool.true_or]

theorem cutsUp_eq_false_iff (t : HeightTree) {i : Nat} (d : Int) (hi : 0 < i) :
    t.cutsUp i d = false ↔ ∀ k, k ≤ t.size → Covers k i → Word.cuts32 (t.node k) d = false := by
  fun_induction cutsUp t i d with
  | case1 i hle ih =>
    have hc := covers_iff_above hi
    rw [Bool.or_eq_false_iff, ih (by omega)]
    constructor
    · rintro ⟨hself, habove⟩ k hk hcov
      rcases (hc k).1 hcov with rfl | hcov'
      · exact hself
      · exact habove k hk hcov'
    · intro h
      exact ⟨h i hle.2 ((hc i).2 (.inl rfl)), fun k hk hcov => h k hk ((hc k).2 (.inr hcov))⟩
  | case2 i hgt =>
    refine iff_of_true rfl ?_
    intro k hk hcov
    have := hcov.2
    omega

/-- A node is cut where the heights that it covers do not fit into a word when one of them has been replaced. -/
theorem Sums.addCuts_iff (h : t.Sums hs) (hn : t.Whole hs) {index : Nat} (hi : index < hs.length) (x : Nat) :
    t.addCuts index ((x : Int) - hs[index]) = false ↔ (t.add index ((x : Int) - hs[index])).Whole (hs.set index x) := by
  rw [addCuts, cutsUp_eq_false_iff t _ (Nat.succ_pos index)]
  have hs' (k : Nat) := sum_take_drop_set hi x (d := dropLowBit k) (i := k)
  have hin {k : Nat} (hc : Covers k (index + 1)) : dropLowBit k ≤ index ∧ index < k := ⟨by have := hc.1; omega, hc.2⟩
  constructor
  · intro hcuts k h₀ hk
    rw [List.length_set] at hk
    rw [HeightTree.add, node_bumpUp t _ (Nat.succ_pos index) h₀ (by rw [h.size]; exact hk)]
    have hsk := hs' k
    split
    · rename_i hc
      have hcut := hcuts k (by rw [h.size]; exact hk) hc
      rw [Word.cuts32, decide_eq_false_iff_not, hn k h₀ hk] at hcut
      rw [if_pos (hin hc), if_pos (hin hc)] at hsk
      rw [hn k h₀ hk, Word.shift32_of_bounds (by omega) (by omega)]
      omega
    · rename_i hc
      have hout : ¬(dropLowBit k ≤ index ∧ index < k) := fun hin => hc ⟨by omega, hin.2⟩
      rw [if_neg hout, if_neg hout] at hsk
      rw [hn k h₀ hk]
      omega
  · intro hwhole k hk hc
    have h₀ : 0 < k := Nat.lt_of_le_of_lt (Nat.zero_le _) hc.2
    rw [h.size] at hk
    have hk' : k ≤ (hs.set index x).length := by rwa [List.length_set]
    have hsk := hs' k
    rw [if_pos (hin hc), if_pos (hin hc)] at hsk
    -- The node is a word now, so that the sum it holds is one.
    have hword : (((hs.set index x).take k).drop (dropLowBit k)).sum < Word.size32 := by
      rw [← hwhole k h₀ hk', (h.add hi x).node k h₀ hk']
      exact Nat.mod_lt _ (by decide)
    rw [Word.cuts32, decide_eq_false_iff_not, hn k h₀ hk]
    omega

end HeightTree

namespace RowHeights

variable {r : RowHeights}

theorem Sound.totalCarries_iff (h : r.Sound) (hn : r.tree.Whole r.lines) :
    r.totalCarries = false ↔ r.lines.sum < Word.size32 := by
  rw [totalCarries, RowHeights.offsetCarries, ← length_lines, ← h.tree.size, h.tree.sumFirstCarries_size hn]

/-- Rows that are appended make a sum carry where the lines of all rows together do not fit into a word any more. -/
theorem Sound.growCarries_iff (h : r.Sound) (hw : r.lines.sum < Word.size32) (n : Nat) :
    (r.growCarries n = false ∧ (r.grow n).totalCarries = false) ↔ (r.grow n).lines.sum < Word.size32 := by
  induction n generalizing r with
  | zero => exact iff_of_true ⟨rfl, h.offsetCarries hw _⟩ hw
  | succ n ih =>
    let r' : RowHeights := { r with rows := r.rows.push ⟨r.estimate, false⟩, tree := r.tree.push r.estimate }
    have hone : r.grow 1 = r' := rfl
    have hlines : r'.lines = r.lines ++ [r.estimate] := lines_grow r 1
    have hsound : r'.Sound := h.grow 1
    change (r.tree.pushCarries r.estimate || r'.growCarries n) = false ∧ (r'.grow n).totalCarries = false ↔
      (r'.grow n).lines.sum < Word.size32
    rcases Nat.lt_or_ge r'.lines.sum Word.size32 with hfits | hover
    · have hfits' := hfits
      have hdrop := congrArg List.sum (List.take_append_drop (dropLowBit (r.tree.size + 1)) r.lines)
      rw [hlines, List.sum_append, List.sum_singleton] at hfits'
      rw [List.sum_append] at hdrop
      rw [(h.tree.pushCarries_iff hw r.estimate).2 (by omega), Bool.false_or]
      exact ih hsound hfits
    -- The row does not fit. Its own node may hold it all the same, and then the next sum of all rows carries.
    · refine iff_of_false ?_ ?_
      · rintro ⟨hcarries, hall⟩
        obtain ⟨hpush, hrest⟩ := Bool.or_eq_false_iff.1 hcarries
        have hwhole : r'.tree.Whole r'.lines := by
          rw [hlines]
          exact h.tree.whole_push hw hpush
        cases n with
        | zero => exact absurd ((hsound.totalCarries_iff hwhole).1 hall) (Nat.not_lt.2 hover)
        | succ n =>
          rw [growCarries, hsound.tree.pushCarries_of_sum hwhole hover] at hrest
          cases hrest
      · rw [sum_grow]
        omega

theorem sum_record_of_zero {index height : Nat} (hd : (r.record index height).2 = 0) :
    (r.record index height).1.lines.sum = r.lines.sum := by
  rw [lines_record]
  rcases Nat.lt_or_ge index r.size with hlt | hge
  · have hi : index < r.lines.length := by rwa [length_lines]
    have hset := sum_set hi (max height 1)
    rw [record_delta hlt] at hd
    rw [getElem_lines hi] at hset
    omega
  · rw [List.set_eq_of_length_le (by rwa [length_lines])]

theorem Sound.recordCuts_iff (h : r.Sound) (hw : r.lines.sum < Word.size32) (index height : Nat) :
    (r.recordCuts index height = false ∧ (r.record index height).1.totalCarries = false) ↔
      (r.record index height).1.lines.sum < Word.size32 := by
  have hsound := h.record index height
  by_cases hd : (r.record index height).2 = 0
  · have hnone : r.recordCuts index height = false := by rw [recordCuts, hd, bne_self_eq_false, Bool.false_and]
    rw [← sum_record_of_zero hd] at hw
    exact iff_of_true ⟨hnone, hsound.offsetCarries hw _⟩ hw
  · have hlt : index < r.size := by
      by_contra hge
      exact hd (by rw [record_of_size_le (Nat.not_lt.1 hge)])
    have hi : index < r.lines.length := by rwa [length_lines]
    have hcuts := h.tree.addCuts_iff (h.tree.whole hw) hi (max height 1)
    rw [← lines_record, getElem_lines hi, ← record_delta hlt height] at hcuts
    have htree : (r.record index height).1.tree = r.tree.add index (r.record index height).2 := by
      rw [record_delta hlt] at hd
      simp only [record_of_lt hlt, hd, ↓reduceIte]
    rw [← htree] at hcuts
    rw [recordCuts, bne_iff_ne.2 hd, Bool.true_and, hcuts]
    constructor
    · rintro ⟨hwhole, hall⟩
      exact (hsound.totalCarries_iff hwhole).1 hall
    · intro hfits
      exact ⟨hsound.tree.whole hfits, hsound.offsetCarries hfits _⟩

end RowHeights

namespace Viewport

variable {v : Viewport} {rows : List Nat} {height : Nat → Nat}

/-- No sum of lines has carried on the way to the viewport, and no node has been cut. -/
structure Uncarried (v : Viewport) : Prop where
  overflowed : v.overflowed = false
  cut : v.cut = false

theorem Uncarried.start (estimate overscan : Nat) : (start estimate overscan).Uncarried := ⟨rfl, rfl⟩

theorem uncarried_reset_iff : v.reset.Uncarried ↔ v.Uncarried := ⟨fun h => ⟨h.1, h.2⟩, fun h => ⟨h.1, h.2⟩⟩

theorem uncarried_setHeight_iff (height : Nat) : (v.setHeight height).Uncarried ↔ v.Uncarried :=
  ⟨fun h => ⟨h.1, h.2⟩, fun h => ⟨h.1, h.2⟩⟩

theorem uncarried_scrollBy_iff (d : Int) : (v.scrollBy d).1.Uncarried ↔ v.Uncarried :=
  ⟨fun h => ⟨h.1, h.2⟩, fun h => ⟨h.1, h.2⟩⟩

theorem Valid.uncarried_ensureVisible_iff (h : v.Valid) (hw : v.rows.lines.sum < Word.size32)
    (hs : v.height < Word.size32) (index : Nat) : (v.ensureVisible index).1.Uncarried ↔ v.Uncarried := by
  rcases Nat.lt_or_ge index v.rows.size with hi | hi
  · rw [h.ensureVisible_eq hw hs hi]
    exact ⟨fun h => ⟨h.1, h.2⟩, fun h => ⟨h.1, h.2⟩⟩
  · rw [Viewport.ensureVisible, if_neg (Nat.not_lt.2 hi)]

theorem Valid.uncarried_setCount_iff (h : v.Valid) (hw : v.rows.lines.sum < Word.size32) {n : Nat}
    (hn : v.rows.size ≤ n) :
    (v.setCount n).Uncarried ↔ v.Uncarried ∧ (v.setCount n).rows.lines.sum < Word.size32 := by
  have hgrow := h.rows.growCarries_iff hw (n - v.rows.size)
  rw [← RowHeights.resize_of_le hn] at hgrow
  have hcarries : v.rows.resizeCarries n = v.rows.growCarries (n - v.rows.size) := if_neg (Nat.not_lt.2 hn)
  change _ ↔ v.Uncarried ∧ (v.rows.resize n).lines.sum < Word.size32
  rw [← hgrow, ← hcarries]
  constructor
  · rintro ⟨hover, hcut⟩
    obtain ⟨hbefore, hall⟩ := Bool.or_eq_false_iff.1 hover
    obtain ⟨hold, hpush⟩ := Bool.or_eq_false_iff.1 hbefore
    exact ⟨⟨hold, hcut⟩, hpush, hall⟩
  · rintro ⟨⟨hold, hcut⟩, hpush, hall⟩
    exact ⟨Bool.or_eq_false_iff.2 ⟨Bool.or_eq_false_iff.2 ⟨hold, hpush⟩, hall⟩, hcut⟩

theorem record_flags (v : Viewport) (index height : Nat) :
    (v.record index height).1.overflowed =
        (v.overflowed || (v.rows.record index height).2 != 0 && (v.rows.record index height).1.totalCarries) ∧
      (v.record index height).1.cut = (v.cut || v.rows.recordCuts index height) := by
  unfold record
  dsimp only
  split
  · rename_i hd
    simp only [RowHeights.recordCuts, hd, bne_self_eq_false, Bool.false_and, Bool.or_false, and_self]
  · rename_i hd
    rw [bne_iff_ne.2 hd, Bool.true_and]
    exact ⟨rfl, rfl⟩

theorem Uncarried.of_record {index height : Nat} (h : (v.record index height).1.Uncarried) : v.Uncarried := by
  obtain ⟨hover, hcut⟩ := v.record_flags index height
  have hflags := And.intro h.1 h.2
  rw [hover, hcut, Bool.or_eq_false_iff, Bool.or_eq_false_iff] at hflags
  exact ⟨hflags.1.1, hflags.2.1⟩

theorem Uncarried.of_recordAll (h : (v.recordAll height rows).Uncarried) : v.Uncarried := by
  induction rows generalizing v with
  | nil => exact h
  | cons i rows ih => exact .of_record (ih h)

theorem Valid.uncarried_record_iff (h : v.Valid) (hw : v.rows.lines.sum < Word.size32) (index height : Nat) :
    (v.record index height).1.Uncarried ↔
      v.Uncarried ∧ (v.record index height).1.rows.lines.sum < Word.size32 := by
  obtain ⟨hover, hcut⟩ := v.record_flags index height
  have hrecord := h.rows.recordCuts_iff hw index height
  rw [record_rows]
  by_cases hd : (v.rows.record index height).2 = 0
  · have hfits : (v.rows.record index height).1.lines.sum < Word.size32 := by
      rw [RowHeights.sum_record_of_zero hd]
      exact hw
    rw [hd, bne_self_eq_false, Bool.false_and, Bool.or_false] at hover
    rw [(hrecord.2 hfits).1, Bool.or_false] at hcut
    rw [and_iff_left hfits]
    exact ⟨fun h => ⟨hover ▸ h.1, hcut ▸ h.2⟩, fun h => ⟨hover ▸ h.1, hcut ▸ h.2⟩⟩
  · rw [bne_iff_ne.2 hd, Bool.true_and] at hover
    rw [← hrecord]
    constructor
    · rintro ⟨h₁, h₂⟩
      rw [hover, Bool.or_eq_false_iff] at h₁
      rw [hcut, Bool.or_eq_false_iff] at h₂
      exact ⟨⟨h₁.1, h₂.1⟩, h₂.2, h₁.2⟩
    · rintro ⟨⟨h₁, h₂⟩, hnew, hall⟩
      exact ⟨by rw [hover, h₁, hall]; rfl, by rw [hcut, h₂, hnew]; rfl⟩

theorem Handled.uncarried {w : Viewport} (h : Handled v w) (hw : w.Uncarried) : v.Uncarried := by
  induction h with
  | refl => exact hw
  | setHeight _ _ ih => exact ih ⟨hw.1, hw.2⟩
  | scrollBy _ _ ih => exact ih ⟨hw.1, hw.2⟩
  | ensureVisible index _ ih =>
    unfold Viewport.ensureVisible at hw
    split at hw
    · exact ih ⟨(Bool.or_eq_false_iff.1 hw.1).1, hw.2⟩
    · exact ih hw
  | record _ _ _ ih => exact ih hw.of_record

theorem Handled.sum_lt {w : Viewport} (h : Handled v w) (hv : v.Valid) (hw : v.rows.lines.sum < Word.size32)
    (hu : w.Uncarried) : w.rows.lines.sum < Word.size32 := by
  induction h with
  | refl => exact hw
  | setHeight _ _ ih => exact ih ⟨hu.1, hu.2⟩
  | scrollBy _ _ ih => exact ih ⟨hu.1, hu.2⟩
  | ensureVisible index hw' ih =>
    rw [ensureVisible_rows]
    exact ih ((Handled.ensureVisible index (.refl _)).uncarried hu)
  | record index height hw' ih => exact (((hw'.valid hv).uncarried_record_iff (ih hu.of_record) index height).1 hu).2

/-- The sums between the heights of one pass lie between the first and the last one, so that these decide. -/
theorem Waiting.uncarried_recordAll_iff (hr : v.Waiting rows) (hv : v.Valid) (hx : ∀ i, height i ≤ 2)
    (hw : v.rows.lines.sum < Word.size32) :
    (v.recordAll height rows).Uncarried ↔
      v.Uncarried ∧ (v.recordAll height rows).rows.lines.sum < Word.size32 := by
  induction rows generalizing v with
  | nil => exact (and_iff_left hw).symm
  | cons i rows ih =>
    have hbetween := hr.sum_between hv hx
    have hone := hv.uncarried_record_iff hw i (height i)
    dsimp only at hbetween
    rw [recordAll_cons] at hbetween ⊢
    rcases Nat.lt_or_ge (v.record i (height i)).1.rows.lines.sum Word.size32 with hfits | hover
    · rw [ih (hr.tail _) (hv.record i _) hfits, hone, and_iff_left hfits]
    · refine iff_of_false ?_ ?_
      · intro h
        exact absurd (hone.1 h.of_recordAll).2 (Nat.not_lt.2 hover)
      · rintro ⟨-, hall⟩
        omega

end Viewport

namespace JobList

inductive Step where
  | act (a : ListAction)
  | learn (g : Generation) (a : PageAnswer)

def after (l : JobList) : Step → JobList
  | .act a => (l.act a).1
  | .learn g a => l.learn g a

def run (l : JobList) (steps : List Step) : JobList := steps.foldl after l

variable {l : JobList} {settings : Settings} {filter : Filter}

theorem run_cons (l : JobList) (s : Step) (steps : List Step) : l.run (s :: steps) = (l.after s).run steps := rfl

theorem Reachable.run (h : Reachable settings filter l) (steps : List Step) :
    Reachable settings filter (l.run steps) := by
  induction steps generalizing l with
  | nil => exact h
  | cons s steps ih =>
    cases s with
    | act a => exact ih (.act a h)
    | learn g a => exact ih (.learn g a h)

theorem InStep.after (h : l.InStep settings) (s : Step) : (l.after s).InStep settings := by
  cases s with
  | act a => exact h.act a
  | learn g a => exact h.learn g a

/-- Whether a list comes of another one free of carries exactly if the other one is and the lines of all its own rows
fit into a word together. -/
def FitsAfter (l m : JobList) : Prop :=
  m.viewport.Uncarried ↔ l.viewport.Uncarried ∧ m.viewport.rows.lines.sum < Word.size32

theorem FitsAfter.of_rows (hw : l.viewport.rows.lines.sum < Word.size32) {m : JobList}
    (hr : m.viewport.rows = l.viewport.rows) (hu : m.viewport.Uncarried ↔ l.viewport.Uncarried) : l.FitsAfter m := by
  rw [FitsAfter, hr, hu]
  exact (and_iff_left hw).symm

theorem FitsAfter.of_reset {m : JobList} (hv : m.viewport = l.viewport.reset) : l.FitsAfter m := by
  rw [FitsAfter, hv, Viewport.uncarried_reset_iff]
  exact (and_iff_left (Nat.zero_lt_succ _)).symm

theorem commit_fits (hw : l.viewport.rows.lines.sum < Word.size32) : l.FitsAfter l.commit.1 := by
  cases h : l.draft.isDirty with
  | true =>
    rw [commit_of_dirty h]
    exact .of_reset rfl
  | false =>
    rw [commit_of_clean h]
    exact .of_rows hw rfl .rfl

theorem afterMove_fits (hs : l.InStep settings) (hw : l.viewport.rows.lines.sum < Word.size32)
    (hh : l.viewport.height < Word.size32) (c : Cursor) (o : CursorOutcome) :
    l.FitsAfter ({ l with cursor := c }.afterMove o).1 := by
  cases o with
  | unchanged => exact .of_rows hw rfl .rfl
  | activated index => exact .of_rows hw rfl .rfl
  | moved index =>
    have hv : ({ l with cursor := c }.follow index).viewport = (l.viewport.ensureVisible index).1 := by
      unfold follow countScrolling
      dsimp only
      split <;> rfl
    change l.FitsAfter ({ l with cursor := c }.follow index)
    refine .of_rows hw ?_ ?_
    · rw [hv, Viewport.ensureVisible_rows]
    · rw [hv, hs.valid.uncarried_ensureVisible_iff hw hh]

theorem layOut_fits (hs : l.InStep settings) (hw : l.viewport.rows.lines.sum < Word.size32) (panel : Area) :
    l.FitsAfter (l.layOut panel) := by
  rcases Nat.eq_zero_or_pos l.size with hn | hn
  · have he : l.layOut panel = { l with area := bodyOf panel }.setHeight (bodyOf panel).height := if_pos hn
    rw [he]
    exact .of_rows hw rfl (Viewport.uncarried_setHeight_iff _)
  · obtain ⟨c, -, hv⟩ := layOut_viewport hs hn panel
    have hset := Viewport.uncarried_setHeight_iff (v := l.viewport) (bodyOf panel).height
    rw [FitsAfter, hv, ← hset]
    exact (Viewport.waiting_unmeasured _).uncarried_recordAll_iff (hs.valid.setHeight _)
      (fun i => (l.textHeight_bounds c i).2) hw

theorem act_fits (hs : l.InStep settings) (hw : l.viewport.rows.lines.sum < Word.size32)
    (hh : l.viewport.height < Word.size32) (a : ListAction) : l.FitsAfter (l.act a).1 := by
  cases a with
  | mount => exact .of_reset rfl
  | edit f => exact .of_rows hw rfl .rfl
  | commit => exact commit_fits hw
  | applyNow => exact commit_fits hw
  | clearFilters => exact commit_fits (l := { l with draft := l.draft.edit fun _ => .everything }) hw
  | refresh => exact .of_reset rfl
  | retry =>
    change l.FitsAfter l.retry.1
    unfold retry
    split <;> exact .of_rows hw rfl .rfl
  | scrollBy d => exact .of_rows hw rfl (Viewport.uncarried_scrollBy_iff d)
  | navigate key => exact afterMove_fits hs hw hh _ _
  | select index => exact afterMove_fits hs hw hh _ _
  | setHeight height => exact .of_rows hw rfl (Viewport.uncarried_setHeight_iff height)
  | recordHeight index height => exact hs.valid.uncarried_record_iff hw index height
  | layOut panel => exact layOut_fits hs hw panel
  | afterDraw =>
    obtain ⟨t, inFlight, h⟩ := l.afterDraw_frame
    change l.FitsAfter l.afterDraw.1
    rw [h]
    exact .of_rows hw rfl .rfl

theorem learn_fits (hs : l.InStep settings) (hw : l.viewport.rows.lines.sum < Word.size32) (g : Generation)
    (a : PageAnswer) : l.FitsAfter (l.learn g a) := by
  by_cases hg : g = l.pager.generation
  · subst hg
    cases a with
    | page p =>
      simp only [JobList.learn, receive_current]
      exact hs.valid.uncarried_setCount_iff hw (hs.rows_le p)
    | failure error =>
      simp only [JobList.learn, fail_current]
      exact .of_rows hw rfl .rfl
  · rw [learn_stale hg]
    exact .of_rows hw rfl .rfl

theorem after_fits (hs : l.InStep settings) (hw : l.viewport.rows.lines.sum < Word.size32)
    (hh : l.viewport.height < Word.size32) (s : Step) : l.FitsAfter (l.after s) := by
  cases s with
  | act a => exact act_fits hs hw hh a
  | learn g a => exact learn_fits hs hw g a

theorem ListingStep.viewport {m : JobList} {rs : List PageRequest} {b : Bool} (h : ListingStep l m rs b) :
    l.viewport.Handled m.viewport ∨ m.viewport = l.viewport.reset := by
  cases h with
  | keep hg _ _ => exact .inl hg.viewport
  | ask hg _ _ => exact .inl hg.viewport
  | restart _ _ hv _ _ _ => exact .inr hv

theorem uncarried_of_after {s : Step} (h : (l.after s).viewport.Uncarried) : l.viewport.Uncarried := by
  cases s with
  | act a =>
    change (l.act a).1.viewport.Uncarried at h
    rcases (l.act_listing a).viewport with hv | hv
    · exact hv.uncarried h
    · exact Viewport.uncarried_reset_iff.1 (hv ▸ h)
  | learn g a =>
    change (l.learn g a).viewport.Uncarried at h
    by_cases hg : g = l.pager.generation
    · subst hg
      cases a with
      | page p =>
        simp only [JobList.learn, receive_current] at h
        have hover := Bool.or_eq_false_iff.1 h.1
        exact ⟨(Bool.or_eq_false_iff.1 hover.1).1, h.2⟩
      | failure error =>
        simp only [JobList.learn, fail_current] at h
        exact h
    · rwa [learn_stale hg] at h

theorem uncarried_of_run {steps : List Step} (h : (l.run steps).viewport.Uncarried) : l.viewport.Uncarried := by
  induction steps generalizing l with
  | nil => exact h
  | cons s steps ih => exact uncarried_of_after (ih h)

theorem sum_lt_of_after (hs : l.InStep settings) (hw : l.viewport.rows.lines.sum < Word.size32) {s : Step}
    (hu : (l.after s).viewport.Uncarried) : (l.after s).viewport.rows.lines.sum < Word.size32 := by
  cases s with
  | act a =>
    change (l.act a).1.viewport.Uncarried at hu
    change (l.act a).1.viewport.rows.lines.sum < Word.size32
    rcases (l.act_listing a).viewport with hv | hv
    · exact hv.sum_lt hs.valid hw hu
    · rw [hv]
      exact Nat.zero_lt_succ _
  | learn g a => exact ((learn_fits hs hw g a).1 hu).2

theorem Reachable.sum_lt (h : Reachable settings filter l) (hu : l.viewport.Uncarried) :
    l.viewport.rows.lines.sum < Word.size32 := by
  induction h with
  | start => exact Nat.zero_lt_succ _
  | @act l a h ih => exact sum_lt_of_after (s := .act a) h.inStep (ih (uncarried_of_after (s := .act a) hu)) hu
  | @learn l g a h ih =>
    exact sum_lt_of_after (s := .learn g a) h.inStep (ih (uncarried_of_after (s := .learn g a) hu)) hu

/-- A run is free of carries exactly if the lines of all rows have fit into a word together from step to step. -/
theorem uncarried_run_iff (hs : l.InStep settings) (hl : l.viewport.Uncarried) {steps : List Step}
    (hh : ∀ k ≤ steps.length, (l.run (steps.take k)).viewport.height < Word.size32)
    (hw : l.viewport.rows.lines.sum < Word.size32) :
    (l.run steps).viewport.Uncarried ↔
      ∀ k ≤ steps.length, (l.run (steps.take k)).viewport.rows.lines.sum < Word.size32 := by
  induction steps generalizing l with
  | nil =>
    refine iff_of_true hl ?_
    intro k _
    rw [List.take_nil]
    exact hw
  | cons s steps ih =>
    have hstep := after_fits hs hw (hh 0 (Nat.zero_le _)) s
    rcases Nat.lt_or_ge (l.after s).viewport.rows.lines.sum Word.size32 with hfits | hover
    · rw [run_cons, ih (hs.after s) (hstep.2 ⟨hl, hfits⟩) (fun k hk => hh (k + 1) (Nat.succ_le_succ hk)) hfits]
      constructor
      · intro h k hk
        cases k with
        | zero => exact hw
        | succ k => exact h k (Nat.le_of_succ_le_succ hk)
      · intro h k hk
        exact h (k + 1) (Nat.succ_le_succ hk)
    · refine iff_of_false ?_ ?_
      · intro h
        exact absurd (hstep.1 (uncarried_of_run h)).2 (Nat.not_lt.2 hover)
      · intro h
        have hfirst := h 1 (Nat.succ_le_succ (Nat.zero_le _))
        exact absurd hfirst (Nat.not_lt.2 hover)

end JobList

end JobBoard
