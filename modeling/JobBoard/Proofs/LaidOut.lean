import JobBoard.Proofs.ListRun
import JobBoard.Proofs.Measuring

/-!
The list when it has been laid out: its viewport is the one it had, with the new height and with the rows measured
that were prepared for the first time.
-/

namespace JobBoard

theorem RowText.height_le (r : RowText) : r.height ≤ 2 := by
  unfold height
  split <;> decide

namespace JobList

variable {l : JobList} {settings : Settings}

theorem item?_of_lt {i : Nat} (h : i < l.size) : ∃ j, l.item? i = some j ∧ j ∈ l.pager.items :=
  ⟨l.pager.items[i], Array.getElem?_eq_getElem h, Array.getElem_mem h⟩

theorem map_fst_jobsBetween {start stop : Nat} (h : stop ≤ l.size) :
    (l.jobsBetween start stop).map Prod.fst = List.range' start (stop - start) := by
  rw [jobsBetween, List.map_filterMap]
  conv_rhs => rw [← List.filterMap_some (l := List.range' start (stop - start))]
  apply List.filterMap_congr
  intro i hi
  have hi' := List.mem_range'_1.1 hi
  obtain ⟨j, hj, -⟩ := l.item?_of_lt (i := i) (by omega)
  rw [hj]
  rfl

def textHeight (l : JobList) (c : RowCache) (i : Nat) : Nat := ((l.item? i).map fun j => (c.text j).height).getD 1

theorem textHeight_of_item? {c : RowCache} {i : Nat} {j : Job} (h : l.item? i = some j) :
    l.textHeight c i = (c.text j).height := by
  rw [textHeight, h]
  rfl

theorem textHeight_bounds (l : JobList) (c : RowCache) (i : Nat) :
    0 < l.textHeight c i ∧ l.textHeight c i ≤ 2 := by
  unfold textHeight
  cases l.item? i with
  | none =>
    simp only [Option.map_none, Option.getD_none]
    decide
  | some j => exact ⟨(c.text j).height_pos, (c.text j).height_le⟩

theorem map_fst_unmeasured (h : l.viewport.rows.size = l.size) :
    l.unmeasured.map Prod.fst = l.viewport.unmeasured := by
  have hle := l.viewport.range_stop_le
  rw [h] at hle
  rw [Viewport.unmeasured, ← map_fst_jobsBetween hle, List.filter_map]
  rfl

theorem recordHeights_viewport (c : RowCache) {jobs : List (Nat × Job)}
    (hj : ∀ p ∈ jobs, l.item? p.1 = some p.2) (m : JobList) :
    (jobs.foldl (fun acc p => acc.recordHeight p.1 (c.text p.2).height) m).viewport =
      m.viewport.recordAll (l.textHeight c) (jobs.map Prod.fst) := by
  induction jobs generalizing m with
  | nil => rfl
  | cons p jobs ih =>
    rw [List.map_cons, Viewport.recordAll_cons, textHeight_of_item? (hj p List.mem_cons_self)]
    apply ih
    intro q hq
    exact hj q (List.mem_cons_of_mem p hq)

theorem measure_viewport (h : l.viewport.rows.size = l.size) :
    l.measure.viewport =
      l.viewport.recordAll (l.textHeight (l.keepRows l.unmeasured).cache) l.viewport.unmeasured := by
  rw [← map_fst_unmeasured h]
  apply recordHeights_viewport
  intro p hp
  exact item_of_mem_unmeasured hp

theorem layOut_viewport (hs : l.InStep settings) (hn : 0 < l.size) (panel : Area) :
    ∃ c : RowCache, c.Holds l.pager.items ∧ (l.layOut panel).viewport =
      (l.viewport.setHeight (bodyOf panel).height).recordAll (l.textHeight c)
        (l.viewport.setHeight (bodyOf panel).height).unmeasured := by
  let m : JobList := { l with area := bodyOf panel }.setHeight (bodyOf panel).height
  have he : l.layOut panel = m.measure.prepareRows := if_neg (Nat.ne_of_gt hn)
  obtain ⟨c, hc, -⟩ := m.measure.prepareRows_frame
  refine ⟨(m.keepRows m.unmeasured).cache, ?_, ?_⟩
  · apply keepRows_holds (l := m) _ hs.cache
    intro p hp
    exact mem_of_item? (item_of_mem_unmeasured hp)
  · rw [he, hc]
    exact measure_viewport (l := m) hs.rows

/-- Laying out a list again at the same height changes nothing in its viewport while no row has to be measured. -/
theorem layOut_viewport_of_measured (hs : l.InStep settings) (hn : 0 < l.size) {panel : Area}
    (hsame : l.viewport.height = (bodyOf panel).height) (hm : l.viewport.unmeasured = []) :
    (l.layOut panel).viewport = l.viewport := by
  obtain ⟨c, -, hv⟩ := layOut_viewport hs hn panel
  rw [hv, ← hsame, hs.valid.setHeight_self, hm]
  rfl

theorem layOut_height (hs : l.InStep settings) (hn : 0 < l.size) (panel : Area) :
    (l.layOut panel).viewport.height = (bodyOf panel).height := by
  obtain ⟨c, -, hv⟩ := layOut_viewport hs hn panel
  rw [hv, Viewport.recordAll_height]
  rfl

theorem layOut_isMeasured_iff (hs : l.InStep settings) (hn : 0 < l.size) {panel : Area} {i : Nat} :
    (l.layOut panel).viewport.rows.isMeasured i = true ↔
      (l.viewport.setHeight (bodyOf panel).height).Prepares i ∨ l.viewport.rows.isMeasured i = true := by
  obtain ⟨c, -, hv⟩ := layOut_viewport hs hn panel
  rw [hv, (Viewport.waiting_unmeasured _).isMeasured_recordAll, Viewport.mem_unmeasured]
  change _ ∧ l.viewport.rows.isMeasured i = false ∨ l.viewport.rows.isMeasured i = true ↔ _
  cases l.viewport.rows.isMeasured i with
  | true => exact iff_of_true (.inr rfl) (.inr rfl)
  | false => simp only [and_true]

theorem text_height_of_uniform {c : RowCache} {k : Nat} (hc : c.Holds l.pager.items)
    (hu : ∀ j ∈ l.pager.items, (RowText.ofJob j).height = k) {j : Job} (hj : j ∈ l.pager.items) :
    (c.text j).height = k := by
  obtain ⟨j', hj', -, he⟩ := hc.text hj
  rw [he]
  exact hu j' hj'

theorem layOut_viewport_of_uniform (hs : l.InStep settings) (hn : 0 < l.size) {k : Nat}
    (hu : ∀ j ∈ l.pager.items, (RowText.ofJob j).height = k) (panel : Area) :
    (l.layOut panel).viewport =
      (l.viewport.setHeight (bodyOf panel).height).recordAll (fun _ => k)
        (l.viewport.setHeight (bodyOf panel).height).unmeasured := by
  obtain ⟨c, hc, hv⟩ := layOut_viewport hs hn panel
  rw [hv]
  apply Viewport.recordAll_congr
  intro i hi
  have hlt := (Viewport.waiting_unmeasured _).inside i hi
  obtain ⟨j, hj, hmem⟩ := l.item?_of_lt (i := i) (by rw [← hs.rows]; exact hlt)
  rw [textHeight_of_item? hj, text_height_of_uniform hc hu hmem]

end JobList

end JobBoard
