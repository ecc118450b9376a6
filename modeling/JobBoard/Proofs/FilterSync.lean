import JobBoard.Proofs.BoardRun
import JobBoard.Proofs.StartFilter

/-!
The filter in its four places: as it is edited, as it is shown, as the list asks for it, and as the query that shares
it. What an event does to it is an edit, which starts the quiet time, or it settles the edited filter; whatever else
happens leaves it alone.
-/

namespace JobBoard

def Effect.concernsFilter : Effect → Bool
  | .scheduleCommit _ | .cancelCommit | .share _ => true
  | _ => false

inductive FilterDeed where
  | edit (f : Filter → Filter)
  | applyNow
  | clear

namespace JobList

variable {l : JobList}

def onDeed (l : JobList) : FilterDeed → JobList × List Effect
  | .edit f => l.edit f
  | .applyNow => l.applyNow
  | .clear => l.clearFilters

theorem isDirty_eq_false_iff : l.draft.isDirty = false ↔ l.draft.pending = l.draft.committed := by
  simp only [FilterDraft.isDirty, bne_eq_false_iff_eq]

theorem commit_draft (l : JobList) : l.commit.1.draft = { l.draft with committed := l.draft.pending } := by
  cases h : l.draft.isDirty with
  | true =>
    rw [commit_of_dirty h]
    rfl
  | false =>
    rw [commit_of_clean h, isDirty_eq_false_iff.1 h]

theorem commit_typable (l : JobList) (h : l.draft.pending.Typable) :
    l.commit.1.draft.pending.Typable ∧ l.commit.1.draft.committed.Typable := by
  rw [commit_draft]
  exact ⟨h, h⟩

theorem navigate_draft (l : JobList) (key : CursorKey) : (l.navigate key).1.draft = l.draft := by
  obtain ⟨v, c, n, b, h, -⟩ := l.navigate_frame key
  rw [h]

theorem select_draft (l : JobList) (index : Nat) : (l.select index).1.draft = l.draft := by
  obtain ⟨v, c, n, b, h, -⟩ := l.select_frame index
  rw [h]

theorem layOut_draft (l : JobList) (panel : Area) : (l.layOut panel).draft = l.draft := by
  obtain ⟨v, c, h, -⟩ := l.layOut_frame panel
  rw [h]

theorem learn_draft (l : JobList) (g : Generation) (a : PageAnswer) : (l.learn g a).draft = l.draft := by
  by_cases hg : g = l.pager.generation
  · subst hg
    cases a with
    | page p => simp only [learn, receive_current]
    | failure error => simp only [learn, fail_current]
  · rw [learn_stale hg]

theorem aside_of_request (request : Option PageRequest) :
    ∀ e ∈ (request.map Effect.fetchPage).toList, e.concernsFilter = false := by
  intro e he
  obtain ⟨r, -, rfl⟩ := Option.map_eq_some_iff.1 (Option.mem_toList.1 he)
  rfl

theorem afterMove_aside (l : JobList) (o : CursorOutcome) : ∀ e ∈ (l.afterMove o).2, e.concernsFilter = false := by
  intro e he
  cases o with
  | unchanged => cases he
  | moved index => cases he
  | activated index =>
    obtain ⟨j, -, rfl⟩ := Option.map_eq_some_iff.1 (Option.mem_toList.1 he)
    rfl

theorem mount_aside (l : JobList) : ∀ e ∈ l.mount.2, e.concernsFilter = false :=
  aside_of_request (l.pager.reset l.draft.committed).fetch.2

end JobList

namespace Board

variable {settings : Settings} {filter : Filter} {b : Board} {r : Board × List Effect} {es : List Effect}

def filterKey? : KeyCode → Option FilterDeed
  | .left | .char 'h' => some (.edit fun f => { f with status := f.status.prev })
  | .right | .char 'l' => some (.edit fun f => { f with status := f.status.next })
  | .char ' ' => some (.edit fun f => { f with reviewOnly := !f.reviewOnly })
  | .enter => some .applyNow
  | _ => none

/-- What an operator does to the filters by an event. An open record keeps the keys from them. -/
def filterDeed? (b : Board) : Event → Option FilterDeed
  | .key k =>
    if b.record.isOpen = true ∨ k.code = .char 'q' ∧ k.isAlone = true ∨ k.code = .char 'r' ∧ k.ctrl = true then none
    else if k.code = .char 'c' ∧ k.isAlone then some .clear
    else if b.focus.has .filters then filterKey? k.code
    else none
  | _ => none

structure LeavesFilter (b : Board) (r : Board × List Effect) : Prop where
  draft : r.1.list.draft = b.list.draft
  query : r.1.query = b.query
  timer : r.1.timer = b.timer
  effects : ∀ e ∈ r.2, e.concernsFilter = false

/-- What an event does to the filter: nothing, or an edit, or it settles what was edited, or it edits and settles at
once. -/
inductive FilterStep (b : Board) : Board × List Effect → Prop
  | aside {r : Board × List Effect} (h : b.LeavesFilter r) : FilterStep b r
  | edit (f : Filter → Filter) (hf : ∀ g : Filter, g.Typable → (f g).Typable) :
      FilterStep b (b.withList (b.list.edit f))
  | commit (timer : QuietTimer) : FilterStep b ({ b with timer }.withList b.list.commit)
  | applyNow (f : Filter → Filter) (hf : ∀ g : Filter, g.Typable → (f g).Typable) :
      FilterStep b (b.withList (b.list.edit f).1.applyNow)

theorem LeavesFilter.of_nil {m : Board} (hd : m.list.draft = b.list.draft) (hq : m.query = b.query)
    (ht : m.timer = b.timer) : b.LeavesFilter (m, []) where
  draft := hd
  query := hq
  timer := ht
  effects := by
    intro e he
    cases he

theorem pressInRecord_leaves (b : Board) (k : Key) : b.LeavesFilter (b.pressInRecord k) := by
  unfold pressInRecord
  split <;> exact ⟨rfl, rfl, rfl, by simp [scrollRecord, Effect.concernsFilter]⟩

theorem navigate_leaves (b : Board) (key : CursorKey) : b.LeavesFilter (b.navigate key) := by
  have hd := b.list.navigate_draft key
  have he : ∀ e ∈ (b.list.navigate key).2.2, e.concernsFilter = false := JobList.afterMove_aside _ _
  unfold navigate
  dsimp only
  split <;> exact ⟨hd, rfl, rfl, he⟩

theorem retry_leaves (b : Board) : b.LeavesFilter (b.withList b.list.retry) := by
  unfold JobList.retry
  split
  · exact ⟨rfl, rfl, rfl, JobList.aside_of_request _⟩
  · exact .of_nil rfl rfl rfl

theorem mount_leaves (b : Board) : b.LeavesFilter b.mount where
  draft := rfl
  query := rfl
  timer := rfl
  effects := by
    intro e he
    rcases List.mem_append.1 he with he | he
    · exact b.list.mount_aside e he
    · rw [List.mem_singleton.1 he]
      rfl

theorem pressInList_leaves (b : Board) (k : Key) : b.LeavesFilter (b.pressInList k) := by
  unfold pressInList
  split
  · exact b.navigate_leaves _
  · split
    · exact b.retry_leaves
    · exact .of_nil rfl rfl rfl
    · exact .of_nil rfl rfl rfl
    · exact .of_nil rfl rfl rfl

theorem pressInFilters_of_deed {k : Key} {d : FilterDeed} (h : filterKey? k.code = some d) :
    b.pressInFilters k = b.withList (b.list.onDeed d) := by
  unfold filterKey? at h
  unfold pressInFilters
  split at h <;> cases h <;> simp only [*] <;> rfl

theorem pressInFilters_leaves {k : Key} (h : filterKey? k.code = none) : b.LeavesFilter (b.pressInFilters k) := by
  unfold pressInFilters
  split
  all_goals first
    | exact .of_nil rfl rfl rfl
    | rename_i hcode
      rw [hcode] at h
      cases h

theorem press_of_deed {k : Key} {d : FilterDeed} (h : b.filterDeed? (.key k) = some d) :
    b.press k = b.withList (b.list.onDeed d) := by
  unfold filterDeed? at h
  dsimp only at h
  split at h
  · cases h
  rename_i hmain
  obtain ⟨hrecord, hquit, hrefresh⟩ := not_or.1 hmain |>.imp_right not_or.1
  unfold press pressInMain
  rw [if_neg hrecord, if_neg hquit, if_neg hrefresh]
  split at h
  · rename_i hclear
    obtain rfl := Option.some.inj h
    rw [if_neg (by rw [hclear.1]; decide), if_neg (by rw [hclear.1]; decide), if_pos hclear]
    rfl
  · rename_i hclear
    split at h
    · rename_i hfocus
      rw [if_neg, if_neg, if_neg hclear, if_pos hfocus]
      · exact pressInFilters_of_deed h
      · intro hcode
        rw [hcode] at h
        cases h
      · intro hcode
        rw [hcode] at h
        cases h
    · cases h

theorem press_leaves {k : Key} (h : b.filterDeed? (.key k) = none) : b.LeavesFilter (b.press k) := by
  unfold filterDeed? at h
  dsimp only at h
  unfold press pressInMain
  split
  · exact b.pressInRecord_leaves k
  rename_i hrecord
  split
  · exact ⟨rfl, rfl, rfl, by simp [Effect.concernsFilter]⟩
  rename_i hquit
  split
  · exact ⟨rfl, rfl, rfl, b.mount_leaves.effects⟩
  rename_i hrefresh
  rw [if_neg (not_or.2 ⟨hrecord, not_or.2 ⟨hquit, hrefresh⟩⟩)] at h
  split
  · exact .of_nil rfl rfl rfl
  split
  · exact .of_nil rfl rfl rfl
  split
  · rename_i hclear
    rw [if_pos hclear] at h
    cases h
  rename_i hclear
  rw [if_neg hclear] at h
  split
  · rename_i hfocus
    rw [if_pos hfocus] at h
    exact pressInFilters_leaves h
  · exact b.pressInList_leaves k

theorem filterKey?_typable {c : KeyCode} {f : Filter → Filter} (h : filterKey? c = some (.edit f)) :
    ∀ g : Filter, g.Typable → (f g).Typable := by
  unfold filterKey? at h
  split at h <;> cases h
  · exact fun g _ => g.status.prev_mem_cycle
  · exact fun g _ => g.status.prev_mem_cycle
  · exact fun g _ => g.status.next_mem_cycle
  · exact fun g _ => g.status.next_mem_cycle
  · exact fun g hg => hg

theorem filterDeed?_typable {e : Event} {f : Filter → Filter} (h : b.filterDeed? e = some (.edit f)) :
    ∀ g : Filter, g.Typable → (f g).Typable := by
  unfold filterDeed? at h
  split at h
  · split at h
    · cases h
    split at h
    · cases h
    split at h
    · exact filterKey?_typable h
    · cases h
  · cases h

theorem press_filterStep (b : Board) (k : Key) : b.FilterStep (b.press k) := by
  cases hd : b.filterDeed? (.key k) with
  | none => exact .aside (press_leaves hd)
  | some d =>
    rw [press_of_deed hd]
    cases d with
    | edit f => exact .edit f (filterDeed?_typable hd)
    | applyNow => exact .applyNow id fun g hg => hg
    | clear => exact .applyNow _ fun g _ => Filter.Typable.everything

theorem clickList_leaves (b : Board) (y : Nat) : b.LeavesFilter (b.clickList y) := by
  unfold clickList
  dsimp only
  split
  · exact .of_nil rfl rfl rfl
  · split
    · have h := (b.giveFocus .list).navigate_leaves .activate
      exact ⟨h.draft, h.query, h.timer, h.effects⟩
    · exact .of_nil (b.list.select_draft _) rfl rfl

theorem point_leaves (b : Board) (m : Mouse) : b.LeavesFilter (b.point m) := by
  unfold point pointInMain scrollRecord
  split
  · split <;> exact .of_nil rfl rfl rfl
  · dsimp only
    split
    · split <;> exact .of_nil rfl rfl rfl
    · split <;> exact .of_nil rfl rfl rfl
    · split
      · exact b.clickList_leaves _
      · split <;> exact .of_nil rfl rfl rfl
    · exact .of_nil rfl rfl rfl

theorem learn_leaves {r : Report} (h : r ≠ .quietElapsed) : b.LeavesFilter (b.learn r) := by
  cases r with
  | tick =>
    unfold learn
    dsimp only
    split <;> exact .of_nil rfl rfl rfl
  | pageLoaded g page => exact .of_nil (b.list.learn_draft g (.page page)) rfl rfl
  | pageFailed g error => exact .of_nil (b.list.learn_draft g (.failure error)) rfl rfl
  | quietElapsed => exact absurd rfl h
  | _ => exact .of_nil rfl rfl rfl

theorem on_leaves {e : Event} (h : b.filterDeed? e = none) (hq : e ≠ .quiet) (hr : e ≠ .report .quietElapsed) :
    b.LeavesFilter (b.on e) := by
  cases e with
  | mount => exact b.mount_leaves
  | key k => exact press_leaves h
  | mouse m => exact b.point_leaves m
  | report r => exact learn_leaves fun he => hr (congrArg Event.report he)
  | quiet => exact absurd rfl hq
  | draw screen => exact ⟨b.list.layOut_draft _, rfl, rfl, JobList.aside_of_request _⟩

theorem on_filterStep (b : Board) (e : Event) : b.FilterStep (b.on e) := by
  cases e with
  | key k => exact b.press_filterStep k
  | report r =>
    by_cases hr : r = .quietElapsed
    · subst hr
      exact .commit b.timer
    · exact .aside (learn_leaves hr)
  | quiet =>
    change b.FilterStep b.fire
    unfold fire
    split
    · exact .commit {}
    · exact .aside (.of_nil rfl rfl rfl)
  | _ => exact .aside (on_leaves rfl (by rintro ⟨⟩) (by rintro ⟨⟩))

theorem perform_aside (now : Nat) (b : Board) {e : Effect} (h : e.concernsFilter = false) :
    (b.perform now e).query = b.query ∧ (b.perform now e).timer = b.timer := by
  cases e with
  | scheduleCommit ms => cases h
  | cancelCommit => cases h
  | share query => cases h
  | _ => exact ⟨rfl, rfl⟩

theorem carryOut_aside (now : Nat) (b : Board) (h : ∀ e ∈ es, e.concernsFilter = false) :
    (b.carryOut now es).1.query = b.query ∧ (b.carryOut now es).1.timer = b.timer := by
  change (es.foldl (perform now) b).query = b.query ∧ (es.foldl (perform now) b).timer = b.timer
  induction es generalizing b with
  | nil => exact ⟨rfl, rfl⟩
  | cons e es ih =>
    obtain ⟨hq, ht⟩ := ih (b.perform now e) fun x hx => h x (List.mem_cons_of_mem e hx)
    obtain ⟨hq', ht'⟩ := b.perform_aside now (h e List.mem_cons_self)
    exact ⟨hq.trans hq', ht.trans ht'⟩

/-- A query that stood for the filter that was shown stands for the edited one when this has been settled. -/
theorem carryOut_commit_query (now : Nat) (l : JobList) (h : b.query = l.draft.committed.toQuery) :
    (b.carryOut now l.commit.2).1.query = l.draft.pending.toQuery := by
  cases hd : l.draft.isDirty with
  | true =>
    rw [JobList.commit_of_dirty hd]
    exact (carryOut_aside now { b with query := l.draft.pending.toQuery } (JobList.aside_of_request _)).1
  | false =>
    rw [JobList.commit_of_clean hd, JobList.isDirty_eq_false_iff.1 hd]
    exact h

/-- The query stands for the filter that is shown, and an edit is waited for. -/
structure FilterInStep (b : Board) : Prop where
  query : b.query = b.list.draft.committed.toQuery
  armed : b.list.draft.isDirty = true → b.timer.isArmed = true

theorem FilterInStep.of_settled (hd : b.list.draft.pending = b.list.draft.committed)
    (hq : b.query = b.list.draft.pending.toQuery) : b.FilterInStep where
  query := by rw [hq, hd]
  armed := by
    intro hdirty
    rw [JobList.isDirty_eq_false_iff.2 hd] at hdirty
    cases hdirty

theorem FilterInStep.of_commit {l : JobList} (now : Nat) (hl : b.list = l.commit.1)
    (hq : b.query = l.draft.committed.toQuery) : (b.carryOut now l.commit.2).1.FilterInStep := by
  apply FilterInStep.of_settled <;> rw [carryOut_list, hl, JobList.commit_draft]
  exact carryOut_commit_query now l hq

theorem FilterInStep.carryOut (h : b.FilterInStep) (hs : b.FilterStep r) (now : Nat) :
    (r.1.carryOut now r.2).1.FilterInStep := by
  cases hs with
  | aside ha =>
    obtain ⟨hq, ht⟩ := r.1.carryOut_aside now ha.effects
    have hd : (r.1.carryOut now r.2).1.list.draft = b.list.draft := by rw [carryOut_list, ha.draft]
    refine ⟨by rw [hq, hd, ha.query]; exact h.query, ?_⟩
    rw [hd, ht, ha.timer]
    exact h.armed
  | edit f hf => exact ⟨h.query, fun _ => rfl⟩
  | commit timer => exact .of_commit now rfl h.query
  | applyNow f hf =>
    exact FilterInStep.of_commit (b := { b with list := (b.list.edit f).1.commit.1, timer := {} })
      (l := (b.list.edit f).1) now rfl h.query

theorem FilterStep.typable (hs : b.FilterStep r) (hp : b.list.draft.pending.Typable)
    (hc : b.list.draft.committed.Typable) :
    r.1.list.draft.pending.Typable ∧ r.1.list.draft.committed.Typable := by
  cases hs with
  | aside ha =>
    rw [ha.draft]
    exact ⟨hp, hc⟩
  | edit f hf => exact ⟨hf _ hp, hc⟩
  | commit timer => exact b.list.commit_typable hp
  | applyNow f hf => exact (b.list.edit f).1.commit_typable (hf _ hp)

theorem Reachable.filterInStep (h : Reachable settings filter b) : b.FilterInStep := by
  induction h with
  | start => exact .of_settled rfl rfl
  | after now e _ ih => exact ih.carryOut (on_filterStep _ e) now

theorem Reachable.typable (h : Reachable settings filter b) (hf : filter.Typable) :
    b.list.draft.pending.Typable ∧ b.list.draft.committed.Typable := by
  induction h with
  | start => exact ⟨hf, hf⟩
  | after now e _ ih =>
    rw [after_list]
    exact (on_filterStep _ e).typable ih.1 ih.2

/-- Whatever has happened to a board, the list asks for the filter that is shown, the query stands for it, and an edit
that is not shown yet is waited for, so that nothing is left to show when the timer is not armed. If the board was
opened with a query, a settings file or options, then its query is read as the filter that is shown. -/
theorem filter_places_agree (h : Reachable settings filter b) :
    b.list.pager.filter = b.list.draft.committed ∧
    b.query = b.list.draft.committed.toQuery ∧
    (b.list.draft.isDirty = true → b.timer.isArmed = true) ∧
    (b.timer.isArmed = false → b.list.draft.pending = b.list.draft.committed) ∧
    (filter.Start → Filter.ofQuery b.query = .ok b.list.draft.committed) := by
  have hs := h.filterInStep
  refine ⟨h.list.inStep.filter, hs.query, hs.armed, ?_, ?_⟩
  · intro ht
    apply JobList.isDirty_eq_false_iff.1
    apply Bool.eq_false_iff.2
    intro hd
    rw [hs.armed hd] at ht
    cases ht
  · intro hf
    rw [hs.query]
    exact Filter.ofQuery_toQuery (h.typable hf.typable).2

/-- Pending jobs are shown, and the choice of those that need a review is still waited for. -/
def reviewChosen : Board :=
  (((Board.start {} ⟨.only .pending, false⟩).after 0 .mount).after 0 (.key { code := .char '/' })).after 5
    (.key { code := .char ' ' })

theorem reviewChosen_reachable : Reachable {} ⟨.only .pending, false⟩ reviewChosen :=
  .after _ _ (.after _ _ (.after _ _ .start))

theorem filter_places_agree_of_reviewChosen :
    reviewChosen.list.draft.isDirty = true ∧ reviewChosen.timer.isArmed = true ∧
      Filter.ofQuery reviewChosen.query = .ok ⟨.only .pending, false⟩ ∧
      (reviewChosen.after 305 .quiet).list.draft.pending = (reviewChosen.after 305 .quiet).list.draft.committed ∧
      (reviewChosen.after 305 .quiet).query = Filter.toQuery ⟨.only .pending, true⟩ ∧
      Filter.ofQuery (reviewChosen.after 305 .quiet).query = .ok ⟨.only .pending, true⟩ := by
  have hf : Filter.Start ⟨.only .pending, false⟩ := .query (Filter.ofQuery_toQuery (by decide))
  have hd : reviewChosen.list.draft.isDirty = true := by decide
  have hc : reviewChosen.list.draft.committed = ⟨.only .pending, false⟩ := by decide
  have hc' : (reviewChosen.after 305 .quiet).list.draft.committed = ⟨.only .pending, true⟩ := by decide
  obtain ⟨-, -, ht, -, hq⟩ := filter_places_agree reviewChosen_reachable
  obtain ⟨-, hquery, -, hp, hq'⟩ := filter_places_agree (.after 305 .quiet reviewChosen_reachable)
  rw [hc] at hq
  rw [hc'] at hquery hq'
  exact ⟨hd, ht hd, hq hf, hp (by decide), hquery, hq' hf⟩

end Board

end JobBoard
