import JobBoard.Listing.Measure
import JobBoard.Proofs.RowCache
import JobBoard.Proofs.Viewport

/-!
The list as a machine. What is done to it is one action, answers of the service come in between, and a list is
reachable if it comes of some order of both. Whatever the order, its parts stay in step with each other.
-/

namespace JobBoard

/-- Everything that is done to the list but for answers of the service. -/
inductive ListAction where
  | mount
  | edit (f : Filter → Filter)
  | commit
  | applyNow
  | clearFilters
  | refresh
  | retry
  | scrollBy (d : Int)
  | navigate (key : CursorKey)
  | select (index : Nat)
  | setHeight (height : Nat)
  | recordHeight (index height : Nat)
  | layOut (panel : Area)
  | afterDraw

def ListAction.measures : ListAction → Bool
  | .recordHeight _ _ | .layOut _ => true
  | _ => false

inductive PageAnswer where
  | page (p : Page)
  | failure (error : String)

def pageRequests (es : List Effect) : List PageRequest :=
  es.filterMap fun
    | .fetchPage r => some r
    | _ => none

namespace JobList

def act (l : JobList) : ListAction → JobList × List Effect
  | .mount => l.mount
  | .edit f => l.edit f
  | .commit => l.commit
  | .applyNow => l.applyNow
  | .clearFilters => l.clearFilters
  | .refresh => l.refresh
  | .retry => l.retry
  | .scrollBy d => (l.scrollBy d, [])
  | .navigate key => ((l.navigate key).1, (l.navigate key).2.2)
  | .select index => ((l.select index).1, [])
  | .setHeight height => (l.setHeight height, [])
  | .recordHeight index height => (l.recordHeight index height, [])
  | .layOut panel => (l.layOut panel, [])
  | .afterDraw => l.afterDraw

/-- Takes an answer to a request of the given generation. -/
def learn (l : JobList) (g : Generation) : PageAnswer → JobList
  | .page p => l.receive g p
  | .failure error => l.fail g error

def restarts (l : JobList) : ListAction → Bool
  | .mount | .refresh => true
  | .commit | .applyNow => l.draft.isDirty
  | .clearFilters => (l.draft.edit fun _ => .everything).isDirty
  | _ => false

/-- The lists that come of some order of actions and answers, whatever the answers are. -/
inductive Reachable (settings : Settings) (filter : Filter) : JobList → Prop
  | start : Reachable settings filter (.start settings filter)
  | act {l : JobList} (a : ListAction) : Reachable settings filter l → Reachable settings filter (l.act a).1
  | learn {l : JobList} (g : Generation) (a : PageAnswer) :
      Reachable settings filter l → Reachable settings filter (l.learn g a)

/-- What an action that measures nothing makes of a list, or the list itself. -/
inductive Does (l : JobList) : JobList → Prop
  | nothing : Does l l
  | act (a : ListAction) (h : a.measures = false) : Does l (l.act a).1

variable {l : JobList}

theorem Does.reachable {settings : Settings} {filter : Filter} {m : JobList} (h : l.Does m)
    (hl : Reachable settings filter l) : Reachable settings filter m := by
  cases h with
  | nothing => exact hl
  | act a _ => exact .act a hl

theorem receive_current (page : Page) :
    l.receive l.pager.generation page =
      { l with
        pager := l.pager.append page
        viewport := l.viewport.setCount (l.pager.append page).size
        cursor := l.cursor.fit (l.pager.append page).size } := by
  simp only [receive, Pager.receive, ↓reduceIte]

theorem receive_stale {g : Generation} (h : g ≠ l.pager.generation) (page : Page) :
    l.receive g page = l := by
  simp only [receive, Pager.receive, if_neg h]

theorem fail_current (error : String) :
    l.fail l.pager.generation error =
      { l with
        pager := { l.pager with inFlight := false, error := some error }
        prefetch := l.prefetch.mark ⟨l.pager.generation, l.pager.size, l.scrollings⟩ } := by
  simp only [fail, Pager.fail, ↓reduceIte, Pager.size]

theorem fail_stale {g : Generation} (h : g ≠ l.pager.generation) (error : String) :
    l.fail g error = l := by
  simp only [fail, Pager.fail, if_neg h]

theorem learn_stale {g : Generation} (h : g ≠ l.pager.generation) (a : PageAnswer) :
    l.learn g a = l := by
  cases a with
  | page p => exact receive_stale h p
  | failure error => exact fail_stale h error

theorem item_of_mem_jobsBetween {start stop : Nat} {p : Nat × Job} (h : p ∈ l.jobsBetween start stop) :
    l.item? p.1 = some p.2 := by
  obtain ⟨i, -, hp⟩ := List.mem_filterMap.1 h
  obtain ⟨j, hj, rfl⟩ := Option.map_eq_some_iff.1 hp
  exact hj

theorem item_of_mem_unmeasured {p : Nat × Job} (h : p ∈ l.unmeasured) : l.item? p.1 = some p.2 :=
  item_of_mem_jobsBetween (List.mem_filter.1 h).1

theorem mem_of_item? {i : Nat} {j : Job} (h : l.item? i = some j) : j ∈ l.pager.items := by
  obtain ⟨hi, rfl⟩ := Array.getElem?_eq_some_iff.1 h
  exact Array.getElem_mem hi

theorem keepRows_holds {jobs : List (Nat × Job)} (hj : ∀ p ∈ jobs, p.2 ∈ l.pager.items)
    (h : l.cache.Holds l.pager.items) : (l.keepRows jobs).cache.Holds l.pager.items := by
  change (jobs.foldl (fun c p => c.keep p.2) l.cache).Holds l.pager.items
  generalize l.cache = c at h
  induction jobs generalizing c with
  | nil => exact h
  | cons p jobs ih =>
    apply ih _ _ (h.keep (hj p List.mem_cons_self))
    intro q hq
    exact hj q (List.mem_cons_of_mem p hq)

theorem recordHeights_frame (height : Nat × Job → Nat) (jobs : List (Nat × Job)) (l : JobList) :
    ∃ v, jobs.foldl (fun acc p => acc.recordHeight p.1 (height p)) l = { l with viewport := v } ∧
      l.viewport.Handled v := by
  induction jobs generalizing l with
  | nil => exact ⟨l.viewport, rfl, .refl _⟩
  | cons p jobs ih =>
    obtain ⟨v, he, hv⟩ := ih (l.recordHeight p.1 (height p))
    exact ⟨v, he, .trans (.record p.1 (height p) (.refl _)) hv⟩

theorem measure_frame (l : JobList) : ∃ v c, l.measure = { l with viewport := v, cache := c } ∧
    l.viewport.Handled v ∧ (l.cache.Holds l.pager.items → c.Holds l.pager.items) := by
  obtain ⟨v, he, hv⟩ := recordHeights_frame
    (fun p => ((l.keepRows l.unmeasured).cache.text p.2).height) l.unmeasured (l.keepRows l.unmeasured)
  refine ⟨v, _, he, hv, ?_⟩
  apply keepRows_holds
  intro p hp
  exact mem_of_item? (item_of_mem_unmeasured hp)

theorem prepareRows_frame (l : JobList) : ∃ c, l.prepareRows = { l with cache := c } ∧
    (l.cache.Holds l.pager.items → c.Holds l.pager.items) := by
  refine ⟨_, rfl, ?_⟩
  intro h
  have hretain := h.retain l.viewport.range.1 l.viewport.range.2
  apply keepRows_holds (l := { l with cache := l.cache.retain l.pager.items _ _ }) _ hretain
  intro p hp
  exact mem_of_item? (item_of_mem_jobsBetween hp)

theorem layOut_frame (l : JobList) (panel : Area) :
    ∃ v c, l.layOut panel = { l with area := bodyOf panel, viewport := v, cache := c } ∧
      l.viewport.Handled v ∧ (l.cache.Holds l.pager.items → c.Holds l.pager.items) := by
  have hset : l.viewport.Handled (l.viewport.setHeight (bodyOf panel).height) := .setHeight _ (.refl _)
  unfold layOut
  dsimp only
  split
  · exact ⟨_, _, rfl, hset, id⟩
  · obtain ⟨v, c, h, hv, hc⟩ :=
      ({ l with area := bodyOf panel }.setHeight (bodyOf panel).height).measure_frame
    obtain ⟨c', h', hc'⟩ := ({ l with area := bodyOf panel, viewport := v, cache := c } : JobList).prepareRows_frame
    rw [h]
    exact ⟨v, c', h', hset.trans hv, fun hl => hc' (hc hl)⟩

theorem layOut_pager (l : JobList) (panel : Area) : (l.layOut panel).pager = l.pager := by
  obtain ⟨v, c, h, -⟩ := l.layOut_frame panel
  rw [h]

theorem layOut_cursor (l : JobList) (panel : Area) : (l.layOut panel).cursor = l.cursor := by
  obtain ⟨v, c, h, -⟩ := l.layOut_frame panel
  rw [h]

theorem layOut_area (l : JobList) (panel : Area) : (l.layOut panel).area = bodyOf panel := by
  obtain ⟨v, c, h, -⟩ := l.layOut_frame panel
  rw [h]

theorem layOut_overscan (l : JobList) (panel : Area) :
    (l.layOut panel).viewport.overscan = l.viewport.overscan := by
  obtain ⟨v, c, h, hv, -⟩ := l.layOut_frame panel
  rw [h]
  exact hv.overscan

theorem layOut_size (l : JobList) (panel : Area) : (l.layOut panel).size = l.size := by
  rw [size, layOut_pager]
  rfl

def edge (l : JobList) : TrailingEdge := ⟨l.pager.generation, l.pager.size, l.scrollings⟩

/-- A drawn list that asks can ask and has not acted on its end before, and remembers that it has now. -/
theorem afterDraw_cases (l : JobList) : l.afterDraw = (l, []) ∨
    (l.pager.hasMore = true ∧ l.pager.inFlight = false ∧ l.prefetch.handled ≠ some l.edge) ∧
      l.afterDraw = ({ l with
        prefetch := l.prefetch.mark l.edge
        pager := { l.pager with inFlight := true } }, [.fetchPage l.pager.request]) := by
  unfold afterDraw Prefetch.observe
  dsimp only
  split
  · rename_i h
    simp only [Bool.and_eq_true, Bool.not_eq_true', bne_iff_ne] at h
    obtain ⟨⟨⟨hm, hf⟩, -⟩, hn⟩ := h
    refine .inr ⟨⟨hm, hf, hn⟩, ?_⟩
    rw [Pager.fetch_of_more hm hf]
    rfl
  · exact .inl rfl

theorem afterDraw_frame (l : JobList) : ∃ t inFlight,
    l.afterDraw.1 = { l with prefetch := t, pager := { l.pager with inFlight } } := by
  rcases l.afterDraw_cases with h | ⟨-, h⟩
  · exact ⟨l.prefetch, l.pager.inFlight, congrArg Prod.fst h⟩
  · exact ⟨l.prefetch.mark l.edge, true, congrArg Prod.fst h⟩

theorem afterDraw_items (l : JobList) : l.afterDraw.1.pager.items = l.pager.items := by
  obtain ⟨t, inFlight, h⟩ := l.afterDraw_frame
  rw [h]

theorem follow_frame (l : JobList) (index : Nat) :
    ∃ v n b, l.follow index = { l with viewport := v, scrollings := n, miscounted := b } ∧ l.viewport.Handled v := by
  have hv : l.viewport.Handled (l.viewport.ensureVisible index).1 := .ensureVisible index (.refl _)
  unfold follow countScrolling
  split
  rename_i v moved he
  rw [he] at hv
  split
  · exact ⟨v, _, _, rfl, hv⟩
  · exact ⟨v, _, _, rfl, hv⟩

theorem afterMove_frame (l : JobList) (o : CursorOutcome) :
    ∃ v n b, (l.afterMove o).1 = { l with viewport := v, scrollings := n, miscounted := b } ∧
      l.viewport.Handled v := by
  cases o with
  | unchanged => exact ⟨_, _, _, rfl, .refl _⟩
  | moved index => exact l.follow_frame index
  | activated index => exact ⟨_, _, _, rfl, .refl _⟩

theorem navigate_frame (l : JobList) (key : CursorKey) :
    ∃ v c n b, (l.navigate key).1 = { l with viewport := v, cursor := c, scrollings := n, miscounted := b } ∧
      l.viewport.Handled v := by
  obtain ⟨v, n, b, h⟩ := { l with cursor := (l.cursor.handle key l.size).1 }.afterMove_frame
    (l.cursor.handle key l.size).2
  exact ⟨v, _, n, b, h⟩

theorem select_frame (l : JobList) (index : Nat) :
    ∃ v c n b, (l.select index).1 = { l with viewport := v, cursor := c, scrollings := n, miscounted := b } ∧
      l.viewport.Handled v := by
  obtain ⟨v, n, b, h⟩ := { l with cursor := (l.cursor.select index l.size).1 }.afterMove_frame
    (l.cursor.select index l.size).2
  exact ⟨v, _, n, b, h⟩

theorem afterMove_requests (l : JobList) (o : CursorOutcome) : pageRequests (l.afterMove o).2 = [] := by
  cases o with
  | unchanged => rfl
  | moved index => rfl
  | activated index => cases h : l.item? index <;> simp [afterMove, h, pageRequests]

/-- What an action that does not start the listing again keeps of it. -/
structure GoesOn (l m : JobList) : Prop where
  committed : m.draft.committed = l.draft.committed
  viewport : l.viewport.Handled m.viewport
  cache : l.cache.Holds l.pager.items → m.cache.Holds l.pager.items

theorem GoesOn.of_eq {m : JobList} (hd : m.draft.committed = l.draft.committed) (hv : m.viewport = l.viewport)
    (hc : m.cache = l.cache) : l.GoesOn m where
  committed := hd
  viewport := by rw [hv]; exact .refl _
  cache := by rw [hc]; exact id

/-- Of a listing an action keeps all, or asks for the next page, or starts it again with another filter. The flag
tells whether it starts again. -/
inductive ListingStep (l : JobList) : JobList → List PageRequest → Bool → Prop
  | keep {m : JobList} (h : l.GoesOn m) (hp : m.pager = l.pager) (ht : m.prefetch = l.prefetch) :
      ListingStep l m [] false
  | ask {m : JobList} (h : l.GoesOn m) (hp : m.pager = l.pager.fetch.1)
      (ht : m.prefetch = l.prefetch ∨
        l.pager.hasMore = true ∧ l.pager.inFlight = false ∧
          m.prefetch = l.prefetch.mark ⟨l.pager.generation, l.pager.size, l.scrollings⟩) :
      ListingStep l m l.pager.fetch.2.toList false
  | restart {m : JobList} (filter : Filter) (hd : m.draft.committed = filter)
      (hv : m.viewport = l.viewport.reset) (hc : m.cache = {}) (hp : m.pager = (l.pager.reset filter).fetch.1)
      (ht : m.prefetch = l.prefetch.reset) : ListingStep l m [(l.pager.reset filter).request] true

theorem ListingStep.edited {f : Filter → Filter} {m : JobList} {rs : List PageRequest} {b : Bool}
    (h : ListingStep { l with draft := l.draft.edit f } m rs b) : ListingStep l m rs b := by
  cases h with
  | keep h hp ht => exact .keep ⟨h.committed, h.viewport, h.cache⟩ hp ht
  | ask h hp ht => exact .ask ⟨h.committed, h.viewport, h.cache⟩ hp ht
  | restart filter hd hv hc hp ht => exact .restart filter hd hv hc hp ht

theorem mount_listing (l : JobList) : ListingStep l l.mount.1 (pageRequests l.mount.2) true :=
  .restart l.draft.committed rfl rfl rfl rfl rfl

theorem commit_of_clean (h : l.draft.isDirty = false) : l.commit = (l, []) := by
  simp only [commit, FilterDraft.commit, h, Bool.false_eq_true, ↓reduceIte]

theorem commit_of_dirty (h : l.draft.isDirty = true) :
    l.commit = ({ l with draft := { l.draft with committed := l.draft.pending } }.resetTo l.draft.pending).fetch.map
      id (.share l.draft.pending.toQuery :: ·) := by
  simp only [commit, FilterDraft.commit, h, ↓reduceIte]
  rfl

theorem commit_listing (l : JobList) : ListingStep l l.commit.1 (pageRequests l.commit.2) l.draft.isDirty := by
  cases h : l.draft.isDirty with
  | true =>
    rw [commit_of_dirty h]
    exact .restart l.draft.pending rfl rfl rfl rfl rfl
  | false =>
    rw [commit_of_clean h]
    exact .keep (.of_eq rfl rfl rfl) rfl rfl

theorem applyNow_listing (l : JobList) :
    ListingStep l l.applyNow.1 (pageRequests l.applyNow.2) l.draft.isDirty :=
  l.commit_listing

theorem retry_listing (l : JobList) : ListingStep l l.retry.1 (pageRequests l.retry.2) false := by
  unfold retry
  split
  · have hr : pageRequests l.fetch.2 = l.pager.fetch.2.toList := by
      unfold fetch
      cases h : l.pager.fetch.2 <;> simp [h, pageRequests]
    rw [hr]
    exact .ask (.of_eq rfl rfl rfl) rfl (.inl rfl)
  · exact .keep (.of_eq rfl rfl rfl) rfl rfl

theorem afterDraw_listing (l : JobList) :
    ListingStep l l.afterDraw.1 (pageRequests l.afterDraw.2) false := by
  rcases l.afterDraw_cases with h | ⟨⟨hm, hf, -⟩, h⟩ <;> rw [h]
  · exact .keep (.of_eq rfl rfl rfl) rfl rfl
  · have hs : ListingStep l { l with prefetch := l.prefetch.mark l.edge, pager := l.pager.fetch.1 }
        l.pager.fetch.2.toList false :=
      .ask (.of_eq rfl rfl rfl) rfl (.inr ⟨hm, hf, rfl⟩)
    rw [Pager.fetch_of_more hm hf] at hs
    exact hs

theorem act_listing (l : JobList) (a : ListAction) :
    ListingStep l (l.act a).1 (pageRequests (l.act a).2) (l.restarts a) := by
  cases a with
  | mount => exact l.mount_listing
  | edit f => exact .keep (.of_eq rfl rfl rfl) rfl rfl
  | commit => exact l.commit_listing
  | applyNow => exact l.applyNow_listing
  | clearFilters => exact (applyNow_listing { l with draft := l.draft.edit fun _ => .everything }).edited
  | refresh =>
    have hr : pageRequests l.refresh.2 = pageRequests l.mount.2 := by
      simp only [refresh, pageRequests, List.filterMap_append]
      exact List.append_nil _
    change ListingStep l l.mount.1 (pageRequests l.refresh.2) true
    rw [hr]
    exact l.mount_listing
  | retry => exact l.retry_listing
  | scrollBy d => exact .keep ⟨rfl, .scrollBy d (.refl _), id⟩ rfl rfl
  | navigate key =>
    obtain ⟨v, c, n, b, h, hv⟩ := l.navigate_frame key
    have hr : pageRequests (l.act (.navigate key)).2 = [] := afterMove_requests _ _
    rw [hr]
    change ListingStep l (l.navigate key).1 [] false
    rw [h]
    exact .keep ⟨rfl, hv, id⟩ rfl rfl
  | select index =>
    obtain ⟨v, c, n, b, h, hv⟩ := l.select_frame index
    change ListingStep l (l.select index).1 [] false
    rw [h]
    exact .keep ⟨rfl, hv, id⟩ rfl rfl
  | setHeight height => exact .keep ⟨rfl, .setHeight height (.refl _), id⟩ rfl rfl
  | recordHeight index height => exact .keep ⟨rfl, .record index height (.refl _), id⟩ rfl rfl
  | layOut panel =>
    obtain ⟨v, c, h, hv, hc⟩ := l.layOut_frame panel
    change ListingStep l (l.layOut panel) [] false
    rw [h]
    exact .keep ⟨rfl, hv, hc⟩ rfl rfl
  | afterDraw => exact l.afterDraw_listing

structure InStep (settings : Settings) (l : JobList) : Prop where
  filter : l.pager.filter = l.draft.committed
  offset : l.pager.nextOffset = l.pager.items.size
  rows : l.viewport.rows.size = l.size
  valid : l.viewport.Valid
  cache : l.cache.Holds l.pager.items
  estimate : l.viewport.rows.estimate = max settings.rowHeight 1
  overscan : l.viewport.overscan = settings.overscan
  threshold : l.prefetch.threshold = settings.prefetchThreshold

variable {settings : Settings} {filter : Filter}

theorem InStep.start : (start settings filter).InStep settings where
  filter := rfl
  offset := rfl
  rows := rfl
  valid := .start _ _
  cache := .empty _
  estimate := rfl
  overscan := rfl
  threshold := rfl

theorem InStep.of_goesOn (h : l.InStep settings) {m : JobList} (hg : l.GoesOn m)
    (hf : m.pager.filter = l.pager.filter) (ho : m.pager.nextOffset = l.pager.nextOffset)
    (hi : m.pager.items = l.pager.items) (ht : m.prefetch.threshold = l.prefetch.threshold) :
    m.InStep settings where
  filter := by rw [hf, hg.committed, h.filter]
  offset := by rw [ho, hi, h.offset]
  rows := by
    rw [hg.viewport.size, h.rows]
    exact congrArg Array.size hi.symm
  valid := hg.viewport.valid h.valid
  cache := by rw [hi]; exact hg.cache h.cache
  estimate := by rw [hg.viewport.estimate, h.estimate]
  overscan := by rw [hg.viewport.overscan, h.overscan]
  threshold := by rw [ht, h.threshold]

theorem InStep.act (h : l.InStep settings) (a : ListAction) : (l.act a).1.InStep settings := by
  have hs := l.act_listing a
  revert hs
  generalize (l.act a).1 = m
  generalize pageRequests (l.act a).2 = rs
  generalize l.restarts a = b
  intro hs
  cases hs with
  | keep hg hp ht => exact h.of_goesOn hg (by rw [hp]) (by rw [hp]) (by rw [hp]) (by rw [ht])
  | ask hg hp ht =>
    have ht' : m.prefetch.threshold = l.prefetch.threshold := by
      rcases ht with ht | ⟨-, -, ht⟩
      · rw [ht]
      · rw [ht]
        rfl
    unfold Pager.fetch at hp
    split at hp <;> exact h.of_goesOn hg (by rw [hp]) (by rw [hp]) (by rw [hp]) ht'
  | restart f hd hv hc hp ht =>
    have hm : m.pager = { l.pager.reset f with inFlight := true } := hp
    refine ⟨by rw [hm, hd]; rfl, by rw [hm]; rfl, ?_, ?_, ?_, ?_, ?_, ?_⟩
    · rw [hv, size, hm]
      rfl
    · rw [hv]
      exact h.valid.reset
    · rw [hc]
      exact .empty _
    · rw [hv]
      exact h.estimate
    · rw [hv]
      exact h.overscan
    · rw [ht]
      exact h.threshold

theorem InStep.rows_le (h : l.InStep settings) (p : Page) : l.viewport.rows.size ≤ (l.pager.append p).size := by
  rw [h.rows]
  simp [Pager.append, size, Pager.size]

theorem InStep.receive (h : l.InStep settings) (p : Page) :
    (l.receive l.pager.generation p).InStep settings := by
  have hle := h.rows_le p
  rw [receive_current]
  refine ⟨h.filter, ?_, RowHeights.size_resize _ _, h.valid.setCount hle, h.cache.append _, ?_, h.overscan,
    h.threshold⟩
  · simp only [Pager.append, h.offset, Array.size_append, List.size_toArray]
  · rw [← h.estimate]
    change (l.viewport.rows.resize _).estimate = _
    rw [RowHeights.resize_of_le hle, RowHeights.estimate_grow]

theorem InStep.learn (h : l.InStep settings) (g : Generation) (a : PageAnswer) :
    (l.learn g a).InStep settings := by
  by_cases hg : g = l.pager.generation
  · subst hg
    cases a with
    | page p => exact h.receive p
    | failure error =>
      simp only [JobList.learn, fail_current]
      exact ⟨h.filter, h.offset, h.rows, h.valid, h.cache, h.estimate, h.overscan, h.threshold⟩
  · rw [learn_stale hg]
    exact h

theorem Reachable.inStep (h : Reachable settings filter l) : l.InStep settings := by
  induction h with
  | start => exact .start
  | act a _ ih => exact ih.act a
  | learn g a _ ih => exact ih.learn g a

end JobList

end JobBoard
