import JobBoard.Proofs.TrailingEdge

/-!
The requests that are made when a list has been drawn. An end that was acted on is remembered until it changes, and an
end that has changed does not come back before the count of scrollings has gone all the way round; so no end is asked
for twice, and an end at which a page could not be loaded is not asked for again.
-/

namespace JobBoard

namespace JobList

variable {l m : JobList}

theorem commit_scrollings (h : l.draft.isDirty = true) : l.commit.1.scrollings = Word.add64 l.scrollings 1 := by
  rw [commit_of_dirty h]
  rfl

theorem follow_scrollings (l : JobList) (index : Nat) :
    (l.follow index).scrollings = l.scrollings ∨ (l.follow index).scrollings = Word.add64 l.scrollings 1 := by
  unfold follow
  dsimp only
  split
  · exact .inr rfl
  · exact .inl rfl

theorem afterMove_scrollings (l : JobList) (o : CursorOutcome) :
    (l.afterMove o).1.scrollings = l.scrollings ∨
      (l.afterMove o).1.scrollings = Word.add64 l.scrollings 1 := by
  cases o with
  | unchanged => exact .inl rfl
  | moved index => exact l.follow_scrollings index
  | activated index => exact .inl rfl

theorem restarts_scrollings {a : ListAction} (h : l.restarts a = true) :
    (l.act a).1.scrollings = Word.add64 l.scrollings 1 := by
  cases a with
  | mount => rfl
  | refresh => rfl
  | commit => exact commit_scrollings h
  | applyNow => exact commit_scrollings h
  | clearFilters => exact commit_scrollings (l := (l.edit fun _ => .everything).1) h
  | _ => cases h

theorem restarts_eq_false {a : ListAction} (h : (l.act a).1.scrollings = l.scrollings) : l.restarts a = false := by
  cases hr : l.restarts a with
  | false => rfl
  | true =>
    rw [restarts_scrollings hr] at h
    exact absurd h (Word.add64_one_ne _)

theorem act_scrollings (l : JobList) (a : ListAction) :
    (l.act a).1.scrollings = l.scrollings ∨ (l.act a).1.scrollings = Word.add64 l.scrollings 1 := by
  cases hr : l.restarts a with
  | true => exact .inr (restarts_scrollings hr)
  | false =>
    cases a with
    | mount => cases hr
    | refresh => cases hr
    | edit f => exact .inl rfl
    | commit => exact .inl (congrArg (fun p => p.1.scrollings) (commit_of_clean hr))
    | applyNow => exact .inl (congrArg (fun p => p.1.scrollings) (commit_of_clean hr))
    | clearFilters =>
      exact .inl (congrArg (fun p => p.1.scrollings)
        (commit_of_clean (l := (l.edit fun _ => .everything).1) hr))
    | retry =>
      left
      change l.retry.1.scrollings = l.scrollings
      unfold retry
      split <;> rfl
    | scrollBy d => exact .inr rfl
    | navigate key => exact afterMove_scrollings { l with cursor := (l.cursor.handle key l.size).1 } _
    | select index => exact afterMove_scrollings { l with cursor := (l.cursor.select index l.size).1 } _
    | setHeight height => exact .inl rfl
    | recordHeight index height => exact .inl rfl
    | layOut panel =>
      left
      obtain ⟨v, c, h, -⟩ := l.layOut_frame panel
      change (l.layOut panel).scrollings = l.scrollings
      rw [h]
    | afterDraw =>
      left
      change l.afterDraw.1.scrollings = l.scrollings
      rcases l.afterDraw_cases with h | ⟨-, h⟩ <;> rw [h]

/-- A list that has not been scrolled goes on with its listing, and as long as no rows have come it remembers what it
remembered, or its present end. -/
structure Remains (l m : JobList) : Prop where
  scrollings : m.scrollings = l.scrollings
  generation : m.pager.generation = l.pager.generation
  loaded : l.pager.size ≤ m.pager.size
  handled : m.pager.size = l.pager.size →
    m.prefetch.handled = l.prefetch.handled ∨ m.prefetch.handled = some m.edge

theorem Remains.edge_eq (h : l.Remains m) (he : m.pager.size = l.pager.size) : m.edge = l.edge := by
  simp only [edge, h.scrollings, h.generation, he]

theorem act_remains {a : ListAction} (h : (l.act a).1.scrollings = l.scrollings) : l.Remains (l.act a).1 := by
  have hs := l.act_listing a
  rw [restarts_eq_false h] at hs
  revert hs h
  generalize (l.act a).1 = m
  generalize pageRequests (l.act a).2 = rs
  intro h hs
  cases hs with
  | keep _ hp ht => exact ⟨h, by rw [hp], by rw [hp], fun _ => .inl (by rw [ht])⟩
  | ask _ hp ht =>
    have hfetch : l.pager.fetch.1.generation = l.pager.generation ∧ l.pager.fetch.1.size = l.pager.size := by
      unfold Pager.fetch
      split <;> exact ⟨rfl, rfl⟩
    have hedge : m.edge = l.edge := by
      simp only [edge, h, hp, hfetch]
    refine ⟨h, by rw [hp, hfetch.1], by rw [hp, hfetch.2], fun _ => ?_⟩
    rcases ht with ht | ⟨-, -, ht⟩
    · exact .inl (by rw [ht])
    · right
      rw [ht, hedge]
      rfl

theorem learn_remains (l : JobList) (g : Generation) (a : PageAnswer) : l.Remains (l.learn g a) := by
  by_cases hg : g = l.pager.generation
  · subst hg
    cases a with
    | page p =>
      simp only [JobList.learn, receive_current]
      refine ⟨rfl, rfl, ?_, fun _ => .inl rfl⟩
      simp [Pager.append, Pager.size]
    | failure error =>
      simp only [JobList.learn, fail_current]
      exact ⟨rfl, rfl, Nat.le_refl _, fun _ => .inr rfl⟩
  · rw [learn_stale hg]
    exact ⟨rfl, rfl, Nat.le_refl _, fun _ => .inl rfl⟩

/-- What comes of a list as long as its end stays where it is. -/
inductive Stays (l : JobList) : JobList → Prop
  | refl : Stays l l
  | act {m : JobList} (a : ListAction) : Stays l m → (m.act a).1.edge = m.edge → Stays l (m.act a).1
  | learn {m : JobList} (g : Generation) (a : PageAnswer) :
      Stays l m → (m.learn g a).edge = m.edge → Stays l (m.learn g a)

theorem Remains.handled_edge (h : l.Remains m) (he : m.edge = l.edge) (hl : l.prefetch.handled = some l.edge) :
    m.prefetch.handled = some m.edge := by
  rcases h.handled (congrArg TrailingEdge.loaded he) with hm | hm
  · rw [hm, hl, he]
  · exact hm

theorem Stays.handled (h : l.Stays m) (hl : l.prefetch.handled = some l.edge) :
    m.prefetch.handled = some m.edge := by
  induction h with
  | refl => exact hl
  | act a _ he ih => exact (act_remains (congrArg TrailingEdge.scrollings he)).handled_edge he ih
  | learn g a _ he ih => exact (learn_remains _ g a).handled_edge he ih

theorem afterDraw_silent (h : l.prefetch.handled = some l.edge) : l.afterDraw.2 = [] := by
  rcases l.afterDraw_cases with he | ⟨⟨-, -, hn⟩, -⟩
  · rw [he]
  · exact absurd h hn

theorem act_silent {a : ListAction} (hr : l.restarts a = false) (hd : a ≠ .afterDraw) (ht : a ≠ .retry) :
    pageRequests (l.act a).2 = [] := by
  cases a with
  | mount => cases hr
  | refresh => cases hr
  | edit f => rfl
  | commit => exact congrArg (fun p => pageRequests p.2) (commit_of_clean hr)
  | applyNow => exact congrArg (fun p => pageRequests (.cancelCommit :: p.2)) (commit_of_clean hr)
  | clearFilters =>
    exact congrArg (fun p => pageRequests (.cancelCommit :: p.2))
      (commit_of_clean (l := (l.edit fun _ => .everything).1) hr)
  | retry => exact absurd rfl ht
  | scrollBy d => rfl
  | navigate key => exact afterMove_requests _ _
  | select index => rfl
  | setHeight height => rfl
  | recordHeight index height => rfl
  | layOut panel => rfl
  | afterDraw => exact absurd rfl hd

theorem act_silent_of_handled {a : ListAction} (h : l.prefetch.handled = some l.edge) (ht : a ≠ .retry)
    (he : (l.act a).1.edge = l.edge) : pageRequests (l.act a).2 = [] := by
  by_cases hd : a = .afterDraw
  · subst hd
    change pageRequests l.afterDraw.2 = []
    rw [afterDraw_silent h]
    rfl
  · exact act_silent (restarts_eq_false (congrArg TrailingEdge.scrollings he)) hd ht

theorem fail_handled (l : JobList) (error : String) :
    (l.fail l.pager.generation error).prefetch.handled = some (l.fail l.pager.generation error).edge := by
  rw [fail_current]
  rfl

end JobList

structure EdgeRequest where
  edge : TrailingEdge
  /-- How often the count of scrollings had changed before. -/
  changes : Nat
  deriving DecidableEq

/-- A list, how often its count of scrollings has changed, and the requests made when it had been drawn. -/
structure DrawRun where
  list : JobList
  changes : Nat := 0
  asked : List EdgeRequest := []

namespace DrawRun

/-- The requests that are made if an action is that the list has been drawn. -/
def asks (r : DrawRun) : ListAction → List EdgeRequest
  | .afterDraw => (pageRequests r.list.afterDraw.2).map fun q =>
      ⟨⟨q.generation, r.list.size, r.list.scrollings⟩, r.changes⟩
  | _ => []

def act (r : DrawRun) (a : ListAction) : DrawRun :=
  { list := (r.list.act a).1
    changes := if (r.list.act a).1.scrollings = r.list.scrollings then r.changes else r.changes + 1
    asked := r.asked ++ r.asks a }

def learn (r : DrawRun) (g : Generation) (a : PageAnswer) : DrawRun := { r with list := r.list.learn g a }

inductive Reachable (settings : Settings) (filter : Filter) : DrawRun → Prop
  | start : Reachable settings filter { list := .start settings filter }
  | act {r : DrawRun} (a : ListAction) : Reachable settings filter r → Reachable settings filter (r.act a)
  | learn {r : DrawRun} (g : Generation) (a : PageAnswer) :
      Reachable settings filter r → Reachable settings filter (r.learn g a)

variable {r : DrawRun} {settings : Settings} {filter : Filter} {l m : JobList} {n : Nat} {x : EdgeRequest}

/-- Where a request stands when the count of scrollings has changed a number of times: since it was made the list was
scrolled, or rows came, or its end is remembered. -/
structure Spent (l : JobList) (n : Nat) (x : EdgeRequest) : Prop where
  counted : x.edge.scrollings = x.changes % Word.size64
  past : x.changes ≤ n
  acted : x.changes = n → x.edge.generation = l.pager.generation ∧ x.edge.loaded ≤ l.pager.size ∧
    (x.edge.loaded = l.pager.size → l.prefetch.handled = some x.edge)

theorem Spent.scrolled (h : Spent l n x) (m : JobList) : Spent m (n + 1) x where
  counted := h.counted
  past := Nat.le_succ_of_le h.past
  acted := fun hn => absurd h.past (by omega)

theorem Spent.edge_eq (h : Spent l n x) (hl : l.scrollings = n % Word.size64) (hn : x.changes = n)
    (he : x.edge.loaded = l.pager.size) : x.edge = l.edge := by
  have hg := (h.acted hn).1
  have hs : x.edge.scrollings = l.scrollings := by rw [h.counted, hn, hl]
  simp only [JobList.edge, ← hg, ← he, ← hs]

theorem Spent.remains (h : Spent l n x) (hl : l.scrollings = n % Word.size64) (hm : l.Remains m) : Spent m n x where
  counted := h.counted
  past := h.past
  acted := by
    intro hn
    obtain ⟨hg, hle, hh⟩ := h.acted hn
    have hgrow := hm.loaded
    refine ⟨by rw [hm.generation]; exact hg, by omega, fun he => ?_⟩
    have hsize : m.pager.size = l.pager.size := by omega
    rcases hm.handled hsize with hk | hk
    · rw [hk]
      exact hh (by omega)
    · rw [hk, hm.edge_eq hsize, h.edge_eq hl hn (by omega)]

/-- At an end that is not remembered, a request made at the same end lies a whole round of the count back. -/
theorem Spent.apart (h : Spent l n x) (hl : l.scrollings = n % Word.size64) (hn : l.prefetch.handled ≠ some l.edge)
    (he : x.edge = l.edge) : x.changes + Word.size64 ≤ n := by
  have hc := h.counted
  have hp := h.past
  have hne : x.changes ≠ n := by
    intro hx
    have hh := (h.acted hx).2.2 (by rw [he]; rfl)
    exact hn (by rw [hh, he])
  rw [he] at hc
  change l.scrollings = _ at hc
  unfold Word.size64 at *
  omega

structure Kept (r : DrawRun) : Prop where
  count : r.list.scrollings = r.changes % Word.size64
  spent : ∀ x ∈ r.asked, Spent r.list r.changes x
  apart : r.asked.Pairwise fun x y => x.edge = y.edge → x.changes + Word.size64 ≤ y.changes

theorem Kept.start : Kept { list := .start settings filter } where
  count := rfl
  spent := by
    intro x hx
    cases hx
  apart := .nil

theorem Kept.remains (h : r.Kept) (hm : r.list.Remains m) : Kept { r with list := m } where
  count := hm.scrollings.trans h.count
  spent := fun x hx => (h.spent x hx).remains h.count hm
  apart := h.apart

theorem Kept.scrolled (h : r.Kept) (hm : m.scrollings = Word.add64 r.list.scrollings 1) :
    Kept { r with list := m, changes := r.changes + 1 } where
  count := by
    have hc := h.count
    change m.scrollings = (r.changes + 1) % Word.size64
    rw [hm, hc]
    exact Nat.mod_add_mod _ _ _
  spent := fun x hx => (h.spent x hx).scrolled m
  apart := h.apart

theorem Kept.drawn (h : r.Kept) : (r.act .afterDraw).Kept := by
  have hs : r.list.afterDraw.1.scrollings = r.list.scrollings := by
    rcases r.list.afterDraw_cases with he | ⟨-, he⟩ <;> rw [he]
  have hm : r.list.Remains r.list.afterDraw.1 := JobList.act_remains (a := .afterDraw) hs
  have hk := h.remains hm
  have hr : r.act .afterDraw = { r with list := r.list.afterDraw.1, asked := r.asked ++ r.asks .afterDraw } := by
    simp only [DrawRun.act, JobList.act, hs, ↓reduceIte]
  rw [hr]
  rcases r.list.afterDraw_cases with he | ⟨⟨-, -, hn⟩, he⟩
  · have hq : r.asks .afterDraw = [] := by simp only [asks, he, pageRequests, List.filterMap_nil, List.map_nil]
    rw [hq, List.append_nil]
    exact hk
  · have hq : r.asks .afterDraw = [⟨r.list.edge, r.changes⟩] := by
      simp only [asks, he]
      rfl
    have hnew : Spent r.list.afterDraw.1 r.changes ⟨r.list.edge, r.changes⟩ := by
      rw [he]
      exact ⟨h.count, Nat.le_refl _, fun _ => ⟨rfl, Nat.le_refl _, fun _ => rfl⟩⟩
    rw [hq]
    refine ⟨hk.count, ?_, List.pairwise_append.2 ⟨h.apart, List.pairwise_singleton _ _, ?_⟩⟩
    · intro x hx
      rcases List.mem_append.1 hx with hx | hx
      · exact hk.spent x hx
      · rw [List.mem_singleton.1 hx]
        exact hnew
    · intro x hx y hy
      rw [List.mem_singleton.1 hy]
      exact (h.spent x hx).apart h.count hn

theorem Kept.act (h : r.Kept) (a : ListAction) : (r.act a).Kept := by
  by_cases hd : a = .afterDraw
  · subst hd
    exact h.drawn
  · have hq : r.asks a = [] := by
      cases a with
      | afterDraw => exact absurd rfl hd
      | _ => rfl
    unfold DrawRun.act
    rw [hq, List.append_nil]
    split
    · rename_i hs
      exact h.remains (JobList.act_remains hs)
    · rename_i hs
      exact h.scrolled ((r.list.act_scrollings a).resolve_left hs)

theorem Reachable.kept (h : Reachable settings filter r) : r.Kept := by
  induction h with
  | start => exact .start
  | act a _ ih => exact ih.act a
  | learn g a _ ih => exact ih.remains (JobList.learn_remains _ g a)

theorem Kept.nodup (h : r.Kept) (hn : r.changes < Word.size64) : (r.asked.map EdgeRequest.edge).Nodup := by
  apply List.pairwise_map.2
  refine h.apart.imp_of_mem ?_
  intro x y _ hy hxy he
  have hround := hxy he
  have hpast := (h.spent y hy).past
  omega

/-- No two requests of a run that were made when the list had been drawn were made at the same end. (The count of
scrollings is a word: two requests at ends that look the same are a whole round of it apart.) And once a page could not
be loaded, a drawn list asks for nothing until its end has changed; until then only a retry asks for a page. -/
theorem each_end_asked_once (h : Reachable settings filter r) (error : String) :
    (r.changes < Word.size64 → (r.asked.map EdgeRequest.edge).Nodup) ∧
    (r.asked.Pairwise fun x y => x.edge = y.edge → x.changes + Word.size64 ≤ y.changes) ∧
    ∀ m, (r.list.fail r.list.pager.generation error).Stays m →
      m.afterDraw.2 = [] ∧
      ∀ a, a ≠ .retry → (m.act a).1.edge = m.edge → pageRequests (m.act a).2 = [] := by
  refine ⟨h.kept.nodup, h.kept.apart, fun m hm => ?_⟩
  have hh := hm.handled (r.list.fail_handled error)
  exact ⟨JobList.afterDraw_silent hh, fun a ht he => JobList.act_silent_of_handled hh ht he⟩

/-- Three rows are drawn, their page fails, and they are scrolled and drawn again. -/
def threeRowsTwice : DrawRun :=
  let r : DrawRun := { list := .start (Settings.sanitized {}) {} }
  (((((((r.act (.setHeight 5)).act .mount).learn ⟨1⟩
    (.page { items := [{ id := 0 }, { id := 1 }, { id := 2 }], hasMore := true })).act .afterDraw).learn ⟨1⟩
    (.failure "refused")).act (.scrollBy 1)).act .afterDraw)

theorem threeRowsTwice_reachable : Reachable (Settings.sanitized {}) {} threeRowsTwice :=
  .act _ (.act _ (.learn _ _ (.act _ (.learn _ _ (.act _ (.act _ .start))))))

/-- The scrolling brings the second request, and its failure silences the list though it is drawn again. -/
theorem each_end_asked_once_of_threeRows :
    let failed := threeRowsTwice.list.fail ⟨1⟩ "refused"
    threeRowsTwice.asked = [⟨⟨⟨1⟩, 3, 1⟩, 1⟩, ⟨⟨⟨1⟩, 3, 2⟩, 2⟩] ∧
      threeRowsTwice.changes < Word.size64 ∧
      (threeRowsTwice.asked.map EdgeRequest.edge).Nodup ∧
      (failed.act .retry).2 = [.fetchPage ⟨⟨1⟩, {}, 3, 50⟩] ∧ failed.afterDraw.1.afterDraw.2 = [] := by
  have hg : threeRowsTwice.list.pager.generation = ⟨1⟩ := by decide +kernel
  have hn : threeRowsTwice.changes < Word.size64 := by decide +kernel
  obtain ⟨hnodup, -, hsilent⟩ := each_end_asked_once threeRowsTwice_reachable "refused"
  rw [hg] at hsilent
  have hdrawn : (threeRowsTwice.list.fail ⟨1⟩ "refused").afterDraw.1.edge =
      (threeRowsTwice.list.fail ⟨1⟩ "refused").edge := by decide +kernel
  exact ⟨by decide +kernel, hn, hnodup hn, by decide +kernel, (hsilent _ (.act .afterDraw .refl hdrawn)).1⟩

end DrawRun

end JobBoard
