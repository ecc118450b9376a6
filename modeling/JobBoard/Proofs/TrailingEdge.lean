import JobBoard.Proofs.ListRun

/-!
Whether the end of the loaded list brings the next page. An end that was acted on stays so only while its request is
out, has failed, or has ended the listing; where nothing of this holds, it is the threshold alone that can keep the
list from asking.
-/

namespace JobBoard

namespace TrailingEdge

/-- What became of an end that was acted on: rows came behind it, or its request is out, or has failed, or has ended
the listing. -/
structure ActedOn (e : TrailingEdge) (p : Pager) : Prop where
  generation : e.generation = p.generation
  loaded : e.loaded ≤ p.size
  outcome : e.loaded = p.size → p.inFlight = true ∨ p.error.isSome = true ∨ p.hasMore = false

variable {e : TrailingEdge} {p : Pager}

theorem ActedOn.fetch (h : e.ActedOn p) : e.ActedOn p.fetch.1 := by
  unfold Pager.fetch
  split
  · exact h
  · exact ⟨h.generation, h.loaded, fun _ => .inl rfl⟩

theorem ActedOn.of_fetch (hm : p.hasMore = true) (hf : p.inFlight = false) (n : Nat) :
    ActedOn ⟨p.generation, p.size, n⟩ p.fetch.1 := by
  rw [Pager.fetch_of_more hm hf]
  exact ⟨rfl, Nat.le_refl _, fun _ => .inl rfl⟩

theorem ActedOn.append (h : e.ActedOn p) (page : Page) : e.ActedOn (p.append page) := by
  have hsize : (p.append page).size = p.size + page.items.length := by simp [Pager.append, Pager.size]
  have hle := h.loaded
  refine ⟨h.generation, by omega, ?_⟩
  intro he
  right
  right
  have hn : page.items = [] := List.length_eq_zero_iff.1 (by omega)
  simp [Pager.append, hn]

theorem ActedOn.of_fail (p : Pager) (error : String) (n : Nat) :
    ActedOn ⟨p.generation, p.size, n⟩ { p with inFlight := false, error := some error } where
  generation := rfl
  loaded := Nat.le_refl _
  outcome := fun _ => .inr (.inl rfl)

end TrailingEdge

namespace Prefetch

/-- Where a request can be made and the end was not acted on, all depends on whether the end is near. -/
theorem observe_request {t : Prefetch} {p : Pager} (highest : Option Nat) {n : Nat} (hm : p.hasMore = true)
    (hf : p.inFlight = false) (hn : t.handled ≠ some ⟨p.generation, p.size, n⟩) :
    (t.observe highest p n).2.2 = if t.isNear highest p.size = true then some p.request else none := by
  have hne : (t.handled != some ⟨p.generation, p.size, n⟩) = true := bne_iff_ne.2 hn
  unfold observe
  cases t.isNear highest p.size <;> simp [hm, hf, hne, Pager.fetch]

/-- The last row is near the end if the threshold is not zero, unless the threshold is so large that the sum of both
wraps. -/
theorem isNear_last {t : Prefetch} {n : Nat} (hn : 0 < n) (ht : t.threshold < Word.size64) :
    t.isNear (some (n - 1)) n = decide (0 < t.threshold ∧ n - 1 + t.threshold < Word.size64) := by
  simp only [Prefetch.isNear, Word.add64]
  congr 1
  rw [eq_iff_iff]
  by_cases hlt : n - 1 + t.threshold < Word.size64
  · rw [Nat.mod_eq_of_lt hlt]
    omega
  · unfold Word.size64 at *
    omega

end Prefetch

namespace JobList

variable {l : JobList} {settings : Settings} {filter : Filter}

def RemembersEdge (l : JobList) : Prop := ∀ e, l.prefetch.handled = some e → e.ActedOn l.pager

theorem RemembersEdge.act (h : l.RemembersEdge) (a : ListAction) : (l.act a).1.RemembersEdge := by
  intro e he
  have hs := l.act_listing a
  revert hs he
  generalize (l.act a).1 = m
  generalize pageRequests (l.act a).2 = rs
  generalize l.restarts a = b
  intro he hs
  cases hs with
  | keep _ hp ht =>
    rw [hp]
    exact h e (ht ▸ he)
  | ask _ hp ht =>
    rw [hp]
    rcases ht with ht | ⟨hm, hf, ht⟩ <;> rw [ht] at he
    · exact (h e he).fetch
    · obtain rfl := Option.some.inj he
      exact .of_fetch hm hf _
  | restart _ _ _ _ _ ht =>
    rw [ht] at he
    cases he

theorem RemembersEdge.learn (h : l.RemembersEdge) (g : Generation) (a : PageAnswer) :
    (l.learn g a).RemembersEdge := by
  by_cases hg : g = l.pager.generation
  · subst hg
    cases a with
    | page p =>
      simp only [JobList.learn, receive_current]
      intro e he
      exact (h e he).append p
    | failure error =>
      simp only [JobList.learn, fail_current]
      intro e he
      obtain rfl := Option.some.inj he
      exact .of_fail _ _ _
  · rw [learn_stale hg]
    exact h

theorem Reachable.remembersEdge (h : Reachable settings filter l) : l.RemembersEdge := by
  induction h with
  | start =>
    intro e he
    cases he
  | act a _ ih => exact ih.act a
  | learn g a _ ih => exact ih.learn g a

/-- The last loaded row is prepared, the listing goes on behind it, and neither a request nor a failure stands in the
way of the next page. -/
structure AtOpenEnd (l : JobList) : Prop where
  rows : 0 < l.size
  prepared : l.viewport.range.1 ≤ l.size - 1 ∧ l.size - 1 < l.viewport.range.2
  more : l.pager.hasMore = true
  idle : l.pager.inFlight = false
  sound : l.pager.error = none

theorem AtOpenEnd.highestPrepared (h : l.AtOpenEnd) (hs : l.InStep settings) :
    l.highestPrepared = some (l.size - 1) := by
  have hle := l.viewport.range_stop_le
  rw [hs.rows] at hle
  obtain ⟨hstart, hstop⟩ := h.prepared
  have he : l.viewport.range.2 = l.size := by
    have := h.rows
    omega
  simp only [JobList.highestPrepared, he]
  rw [if_pos (by omega)]

theorem AtOpenEnd.handled_ne (h : l.AtOpenEnd) (hr : l.RemembersEdge) :
    l.prefetch.handled ≠ some ⟨l.pager.generation, l.pager.size, l.scrollings⟩ := by
  intro he
  rcases (hr _ he).outcome rfl with hf | hf | hf
  · rw [h.idle] at hf
    cases hf
  · rw [h.sound] at hf
    cases hf
  · rw [h.more] at hf
    cases hf

/-- At an open end the list asks for the page behind the loaded rows, with the filter that is shown, exactly if the
threshold is not zero and does not carry the number of the last row beyond a word. Otherwise it asks for nothing. -/
theorem request_at_open_end (h : Reachable settings.sanitized filter l)
    (ht : settings.prefetchThreshold < Word.size64) (ho : l.AtOpenEnd) :
    l.afterDraw.2 =
      if 0 < settings.prefetchThreshold ∧ l.size - 1 + settings.prefetchThreshold < Word.size64 then
        [.fetchPage ⟨l.pager.generation, l.draft.committed, l.size, l.pager.pageSize⟩]
      else [] := by
  have hs := h.inStep
  have hth : l.prefetch.threshold = settings.prefetchThreshold := hs.threshold
  have hreq : l.pager.request = ⟨l.pager.generation, l.draft.committed, l.size, l.pager.pageSize⟩ := by
    simp only [Pager.request, hs.filter, hs.offset, size, Pager.size]
  have hobs := Prefetch.observe_request l.highestPrepared ho.more ho.idle (ho.handled_ne h.remembersEdge)
  have hnear := Prefetch.isNear_last (t := l.prefetch) ho.rows (by rw [hth]; exact ht)
  rw [ho.highestPrepared hs] at hobs
  change (l.prefetch.observe (some (l.size - 1)) l.pager l.scrollings).2.2 =
    if l.prefetch.isNear (some (l.size - 1)) l.size = true then _ else _ at hobs
  rw [hnear, hth, hreq] at hobs
  change ((l.prefetch.observe l.highestPrepared l.pager l.scrollings).2.2.map Effect.fetchPage).toList = _
  rw [ho.highestPrepared hs, hobs]
  simp only [decide_eq_true_eq]
  split <;> rfl

/-- Three rows in a viewport of five lines, with more to come. -/
def threeRows (settings : Settings) : JobList :=
  ((((start settings {}).act (.setHeight 5)).1.act .mount).1).learn ⟨1⟩
    (.page { items := [{ id := 0 }, { id := 1 }, { id := 2 }], hasMore := true })

theorem threeRows_reachable (settings : Settings) : Reachable settings {} (threeRows settings) :=
  .learn _ _ (.act _ (.act _ .start))

theorem request_behind_three_rows :
    (threeRows (Settings.sanitized {})).AtOpenEnd ∧ (10 : Nat) < Word.size64 ∧
      (threeRows (Settings.sanitized {})).afterDraw.2 = [.fetchPage ⟨⟨1⟩, {}, 3, 50⟩] := by
  have ho : (threeRows (Settings.sanitized {})).AtOpenEnd :=
    ⟨by decide, by decide +kernel, by decide, by decide, by decide⟩
  refine ⟨ho, by decide, ?_⟩
  rw [request_at_open_end (threeRows_reachable _) (by decide) ho]
  decide

/-- A threshold of zero, which sanitizing lets pass, leaves a list at its open end without the next page. -/
theorem no_request_behind_three_rows :
    Reachable (Settings.sanitized { prefetchThreshold := 0 }) {}
        (threeRows (Settings.sanitized { prefetchThreshold := 0 })) ∧
      (threeRows (Settings.sanitized { prefetchThreshold := 0 })).AtOpenEnd ∧
      ¬∃ r, (threeRows (Settings.sanitized { prefetchThreshold := 0 })).afterDraw.2 = [.fetchPage r] := by
  have ho : (threeRows (Settings.sanitized { prefetchThreshold := 0 })).AtOpenEnd :=
    ⟨by decide, by decide +kernel, by decide, by decide, by decide⟩
  have hn : (threeRows (Settings.sanitized { prefetchThreshold := 0 })).afterDraw.2 = [] := by decide +kernel
  exact ⟨threeRows_reachable _, ho, fun ⟨r, hr⟩ => absurd (hn ▸ hr) (List.cons_ne_nil _ _).symm⟩

end JobList

end JobBoard
