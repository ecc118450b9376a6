import JobBoard.Proofs.ListRun

/-!
A run of the list with a log of the requests it has issued and of the answers that have come. The loaded rows are
what was delivered for the present listing, at the place for which it was asked.
-/

namespace JobBoard

/-- A request for a page, and the answer to it once it has come. -/
structure Issued where
  request : PageRequest
  answer : Option PageAnswer := none

namespace Issued

def isOpen (x : Issued) : Bool := x.answer.isNone

def rows (x : Issued) : List Job :=
  match x.answer with
  | some (.page p) => p.items
  | _ => []

end Issued

/-- All rows that came for the requests of a log, in the order of issue. -/
def delivered (log : List Issued) : List Job := log.flatMap Issued.rows

/-- Every request of a log carries the filter, and asks for the rows behind those that came for the requests
before it. -/
def InOrder (filter : Filter) (log : List Issued) : Prop :=
  ∀ before x after, log = before ++ x :: after →
    x.request.filter = filter ∧ x.request.offset = (delivered before).length

/-- A list, the requests it has issued so far, and how often the listing was started again. -/
structure PageRun where
  list : JobList
  log : List Issued := []
  restarts : Nat := 0

namespace PageRun

def act (r : PageRun) (a : ListAction) : PageRun :=
  { list := (r.list.act a).1
    log := r.log ++ (pageRequests (r.list.act a).2).map fun q => { request := q }
    restarts := r.restarts + (r.list.restarts a).toNat }

/-- Delivers an answer to the request at a place of the log, unless there is none or it is answered. -/
def deliver (r : PageRun) (k : Nat) (a : PageAnswer) : PageRun :=
  match r.log[k]? with
  | some ⟨q, none⟩ => { r with list := r.list.learn q.generation a, log := r.log.set k ⟨q, some a⟩ }
  | _ => r

def current (r : PageRun) : List Issued :=
  r.log.filter fun x => x.request.generation = r.list.pager.generation

inductive Reachable (settings : Settings) (filter : Filter) : PageRun → Prop
  | start : Reachable settings filter { list := .start settings filter }
  | act {r : PageRun} (a : ListAction) : Reachable settings filter r → Reachable settings filter (r.act a)
  | deliver {r : PageRun} (k : Nat) (a : PageAnswer) :
      Reachable settings filter r → Reachable settings filter (r.deliver k a)

end PageRun

theorem delivered_append (xs ys : List Issued) : delivered (xs ++ ys) = delivered xs ++ delivered ys :=
  List.flatMap_append

theorem InOrder.nil (filter : Filter) : InOrder filter [] := by
  intro before x after h
  exact absurd h.symm (List.append_ne_nil_of_right_ne_nil _ (List.cons_ne_nil x after))

theorem InOrder.snoc {filter : Filter} {log : List Issued} (h : InOrder filter log) {x : Issued}
    (hf : x.request.filter = filter) (ho : x.request.offset = (delivered log).length) :
    InOrder filter (log ++ [x]) := by
  intro before y after he
  cases List.eq_nil_or_concat after with
  | inl hn =>
    subst hn
    obtain ⟨rfl, hx⟩ := List.append_inj' he rfl
    cases hx
    exact ⟨hf, ho⟩
  | inr hc =>
    obtain ⟨rest, z, rfl⟩ := hc
    have he' : log ++ [x] = (before ++ y :: rest) ++ [z] := by simpa using he
    obtain ⟨rfl, -⟩ := List.append_inj' he' rfl
    exact h before y rest rfl

namespace PageRun

/-- What a run keeps: the requests of the present listing are answered but for the one that is out. -/
structure Kept (r : PageRun) : Prop where
  generation : r.list.pager.generation.value = r.restarts
  issued : ∀ x ∈ r.log, x.request.generation.value ≤ r.restarts
  requests : ∃ closed, r.current =
      closed ++ (if r.list.pager.inFlight then [{ request := r.list.pager.request }] else []) ∧
    (∀ x ∈ closed, x.isOpen = false) ∧ InOrder r.list.draft.committed closed ∧
      delivered closed = r.list.pager.items.toList

variable {r : PageRun} {settings : Settings} {filter : Filter}

theorem Kept.start : Kept { list := .start settings filter } where
  generation := rfl
  issued := by
    intro x hx
    cases hx
  requests := by
    refine ⟨[], rfl, ?_, .nil _, rfl⟩
    intro x hx
    cases hx

theorem Kept.of_keep (h : r.Kept) {m : JobList} (hp : m.pager = r.list.pager)
    (hc : m.draft.committed = r.list.draft.committed) : Kept { r with list := m } where
  generation := by rw [hp]; exact h.generation
  issued := h.issued
  requests := by
    simp only [current, hp, hc]
    exact h.requests

theorem Kept.of_ask (h : r.Kept) {m : JobList} (hp : m.pager = { r.list.pager with inFlight := true })
    (hq : r.list.pager.inFlight = false) (hc : m.draft.committed = r.list.draft.committed) :
    Kept { r with list := m, log := r.log ++ [{ request := r.list.pager.request }] } where
  generation := by simp only [hp]; exact h.generation
  issued := by
    intro x hx
    rcases List.mem_append.1 hx with hx | hx
    · exact h.issued x hx
    · rw [List.mem_singleton.1 hx]
      exact Nat.le_of_eq h.generation
  requests := by
    obtain ⟨closed, he, ha, ho, hd⟩ := h.requests
    refine ⟨closed, ?_, ha, by simpa only [hc] using ho, by simpa only [hp] using hd⟩
    simp only [hq, Bool.false_eq_true, ↓reduceIte, List.append_nil] at he
    simp only [current, hp, List.filter_append, ↓reduceIte] at he ⊢
    rw [he]
    simp [Pager.request]

theorem Kept.of_restart (h : r.Kept) {m : JobList} {f : Filter}
    (hp : m.pager = (r.list.pager.reset f).fetch.1) (hn : r.restarts + 1 < Word.size64) :
    Kept { list := m, log := r.log ++ [{ request := (r.list.pager.reset f).request }],
           restarts := r.restarts + 1 } := by
  have hg : (r.list.pager.reset f).generation.value = r.restarts + 1 := by
    change Word.add64 r.list.pager.generation.value 1 = r.restarts + 1
    rw [h.generation, Word.add64_of_lt hn]
  have hm : m.pager = { r.list.pager.reset f with inFlight := true } := hp
  refine ⟨by rw [hm]; exact hg, ?_, [], ?_, by simp, .nil _, by rw [hm]; rfl⟩
  · intro x hx
    rcases List.mem_append.1 hx with hx | hx
    · exact Nat.le_succ_of_le (h.issued x hx)
    · rw [List.mem_singleton.1 hx]
      exact Nat.le_of_eq hg
  · have hold : r.log.filter (fun x => x.request.generation = (r.list.pager.reset f).generation) = [] := by
      apply List.filter_eq_nil_iff.2
      intro x hx he
      have hle := h.issued x hx
      rw [of_decide_eq_true he, hg] at hle
      omega
    simp only [current, hm, List.filter_append, hold]
    simp [Pager.request]

theorem Kept.act (h : r.Kept) (a : ListAction) (hn : (r.act a).restarts < Word.size64) : (r.act a).Kept := by
  have hs := r.list.act_listing a
  unfold PageRun.act at hn ⊢
  revert hs hn
  generalize (r.list.act a).1 = m
  generalize pageRequests (r.list.act a).2 = rs
  generalize r.list.restarts a = b
  intro hn hs
  cases hs with
  | keep hg hp => simpa using h.of_keep hp hg.committed
  | ask hg hp =>
    cases hb : r.list.pager.inFlight || !r.list.pager.hasMore with
    | true =>
      simp only [Pager.fetch, hb, ↓reduceIte] at hp ⊢
      simpa using h.of_keep hp hg.committed
    | false =>
      simp only [Pager.fetch, hb, Bool.false_eq_true, ↓reduceIte] at hp ⊢
      exact h.of_ask hp (Bool.or_eq_false_iff.1 hb).1 hg.committed
  | restart f _ _ _ hp => exact h.of_restart hp hn

theorem eq_of_append_open {before after closed : List Issued} {x : Issued} {tail : List Issued}
    (he : before ++ x :: after = closed ++ tail) (hx : x.isOpen = true)
    (hc : ∀ y ∈ closed, y.isOpen = false) (ht : tail.length ≤ 1) :
    before = closed ∧ tail = [x] ∧ after = [] := by
  rcases List.append_eq_append_iff.1 he with ⟨as, rfl, hs⟩ | ⟨bs, rfl, hs⟩
  · cases as with
    | nil =>
      obtain rfl : after = [] := by
        rw [List.nil_append] at hs
        rw [← hs] at ht
        exact List.length_eq_zero_iff.1 (by simpa using ht)
      exact ⟨(List.append_nil _).symm, hs.symm, rfl⟩
    | cons y as =>
      obtain ⟨rfl, -⟩ := List.cons.inj hs
      exact absurd hx (by rw [hc x (by simp)]; exact Bool.false_ne_true)
  · cases bs with
    | nil =>
      obtain rfl : after = [] := by
        rw [List.nil_append] at hs
        rw [hs] at ht
        exact List.length_eq_zero_iff.1 (by simpa using ht)
      exact ⟨List.append_nil _, hs, rfl⟩
    | cons y bs =>
      rw [hs] at ht
      simp at ht

theorem Kept.issued_answered (h : r.Kept) {before after : List Issued} {q : PageRequest} (a : PageAnswer)
    (hl : r.log = before ++ ⟨q, none⟩ :: after) :
    ∀ x ∈ before ++ ⟨q, some a⟩ :: after, x.request.generation.value ≤ r.restarts := by
  intro x hx
  rcases List.mem_append.1 hx with hx | hx
  · exact h.issued x (hl ▸ List.mem_append_left _ hx)
  · rcases List.mem_cons.1 hx with rfl | hx
    · exact h.issued ⟨q, none⟩ (hl ▸ List.mem_append_right _ List.mem_cons_self)
    · exact h.issued x (hl ▸ List.mem_append_right _ (List.mem_cons_of_mem _ hx))

theorem Kept.of_stale (h : r.Kept) {before after : List Issued} {q : PageRequest} (a : PageAnswer)
    (hl : r.log = before ++ ⟨q, none⟩ :: after) (hq : q.generation ≠ r.list.pager.generation) :
    Kept { r with list := r.list.learn q.generation a, log := before ++ ⟨q, some a⟩ :: after } where
  generation := by rw [JobList.learn_stale hq]; exact h.generation
  issued := h.issued_answered a hl
  requests := by
    have hr := h.requests
    simp only [current, hl, JobList.learn_stale hq, List.filter_append, List.filter_cons, hq, decide_false,
      Bool.false_eq_true, ↓reduceIte] at hr ⊢
    exact hr

theorem Kept.of_closed {m : JobList} {log closed : List Issued} {n : Nat} (hg : m.pager.generation.value = n)
    (hi : ∀ x ∈ log, x.request.generation.value ≤ n) (hf : m.pager.inFlight = false)
    (he : current { list := m, log, restarts := n } = closed) (hc : ∀ x ∈ closed, x.isOpen = false)
    (ho : InOrder m.draft.committed closed) (hd : delivered closed = m.pager.items.toList) :
    Kept { list := m, log, restarts := n } where
  generation := hg
  issued := hi
  requests := by
    refine ⟨closed, ?_, hc, ho, hd⟩
    rw [he, hf]
    exact (List.append_nil closed).symm

/-- An answer to the request that is out closes it, and the rows of a page join those that are loaded. -/
theorem Kept.of_answer (h : r.Kept) (hs : r.list.InStep settings) {before after : List Issued}
    {q : PageRequest} (a : PageAnswer) (hl : r.log = before ++ ⟨q, none⟩ :: after)
    (hq : q.generation = r.list.pager.generation) :
    Kept { r with list := r.list.learn q.generation a, log := before ++ ⟨q, some a⟩ :: after } := by
  have issued := h.issued_answered a hl
  obtain ⟨closed, he, hc, ho, hd⟩ := h.requests
  simp only [current, hl, List.filter_append, List.filter_cons, hq, decide_true, ↓reduceIte] at he
  obtain ⟨hb, ht, hlast⟩ := eq_of_append_open he rfl hc (by split <;> simp)
  have hreq : q = r.list.pager.request := by
    split at ht
    · cases ht
      rfl
    · cases ht
  have hx : InOrder r.list.draft.committed (closed ++ [⟨q, some a⟩]) := by
    refine ho.snoc ?_ ?_
    · rw [hreq]
      exact hs.filter
    · rw [hreq, hd, Array.length_toList]
      exact hs.offset
  have hclosed : ∀ x ∈ closed ++ [⟨q, some a⟩], x.isOpen = false := by
    intro x hx
    rcases List.mem_append.1 hx with hx | hx
    · exact hc x hx
    · rw [List.mem_singleton.1 hx]
      rfl
  have hcurrent {m : JobList} (hm : m.pager.generation = r.list.pager.generation) :
      current { r with list := m, log := before ++ ⟨q, some a⟩ :: after } = closed ++ [⟨q, some a⟩] := by
    simp only [current, hm, List.filter_append, List.filter_cons, hq, decide_true, ↓reduceIte, hb, hlast]
  have hrows : delivered (closed ++ [⟨q, some a⟩]) = r.list.pager.items.toList ++ Issued.rows ⟨q, some a⟩ := by
    rw [delivered_append, hd]
    exact congrArg _ (List.append_nil _)
  rw [hq]
  cases a with
  | page p =>
    simp only [JobList.learn, JobList.receive_current]
    refine .of_closed h.generation issued rfl (hcurrent rfl) hclosed hx ?_
    rw [hrows, Pager.append, Array.toList_append]
    rfl
  | failure error =>
    simp only [JobList.learn, JobList.fail_current]
    refine .of_closed h.generation issued rfl (hcurrent rfl) hclosed hx ?_
    rw [hrows]
    exact List.append_nil _

theorem Kept.deliver (h : r.Kept) (hs : r.list.InStep settings) (k : Nat) (a : PageAnswer) :
    (r.deliver k a).Kept := by
  unfold PageRun.deliver
  split
  · rename_i q hk
    obtain ⟨hlt, hx⟩ := List.getElem?_eq_some_iff.1 hk
    have hl : r.log = r.log.take k ++ ⟨q, none⟩ :: r.log.drop (k + 1) := by
      rw [← hx, ← List.drop_eq_getElem_cons hlt, List.take_append_drop]
    rw [List.set_eq_take_append_cons_drop, if_pos hlt]
    by_cases hq : q.generation = r.list.pager.generation
    · exact h.of_answer hs a hl hq
    · exact h.of_stale a hl hq
  · exact h

theorem deliver_list (r : PageRun) (k : Nat) (a : PageAnswer) :
    (r.deliver k a).list = r.list ∨ ∃ g, (r.deliver k a).list = r.list.learn g a := by
  unfold PageRun.deliver
  split
  · exact .inr ⟨_, rfl⟩
  · exact .inl rfl

theorem Reachable.list (h : Reachable settings filter r) : JobList.Reachable settings filter r.list := by
  induction h with
  | start => exact .start
  | act a _ ih => exact .act a ih
  | @deliver r k a _ ih =>
    rcases r.deliver_list k a with he | ⟨g, he⟩ <;> rw [he]
    · exact ih
    · exact .learn g a ih

theorem Reachable.kept (h : Reachable settings filter r) (hn : r.restarts < Word.size64) : r.Kept := by
  induction h with
  | start => exact .start
  | @act r a _ ih =>
    have hle : r.restarts ≤ (r.act a).restarts := Nat.le_add_right _ _
    exact (ih (Nat.lt_of_le_of_lt hle hn)).act a hn
  | @deliver r k a hr ih =>
    have he : (r.deliver k a).restarts = r.restarts := by
      unfold PageRun.deliver
      split <;> rfl
    rw [he] at hn
    exact (ih hn).deliver hr.list.inStep k a

theorem Kept.current_open (h : r.Kept) : r.current.filter Issued.isOpen =
    if r.list.pager.inFlight then [{ request := r.list.pager.request }] else [] := by
  obtain ⟨closed, he, hc, -, -⟩ := h.requests
  have hn : closed.filter Issued.isOpen = [] := by
    apply List.filter_eq_nil_iff.2
    intro x hx
    rw [hc x hx]
    exact Bool.false_ne_true
  rw [he, List.filter_append, hn, List.nil_append]
  split <;> rfl

theorem Kept.current_inOrder (h : r.Kept) (hs : r.list.InStep settings) :
    InOrder r.list.draft.committed r.current := by
  obtain ⟨closed, he, -, ho, hd⟩ := h.requests
  rw [he]
  split
  · refine ho.snoc hs.filter ?_
    rw [hd, Array.length_toList]
    exact hs.offset
  · rw [List.append_nil]
    exact ho

theorem Kept.delivered_current (h : r.Kept) : delivered r.current = r.list.pager.items.toList := by
  obtain ⟨closed, he, -, -, hd⟩ := h.requests
  rw [he, delivered_append, hd]
  split <;> exact List.append_nil _

/-- In every run the loaded rows are those of the pages that came for the requests of the present listing, in the
order in which the requests were issued. Each of these requests carries the filter that is shown and the number of
rows that came before it, and one is out exactly if the list says so, which then asks for the rows behind the loaded
ones. -/
theorem loaded_rows_follow_requests (h : Reachable settings filter r) (hn : r.restarts < Word.size64) :
    r.list.pager.items.toList = delivered r.current ∧
    (∀ before x after, r.current = before ++ x :: after →
      x.request.filter = r.list.draft.committed ∧ x.request.offset = (delivered before).length) ∧
    (r.list.pager.inFlight = true ↔ ∃ x, r.current.filter Issued.isOpen = [x]) ∧
    (∀ x ∈ r.current.filter Issued.isOpen, x.request.offset = r.list.pager.items.size) ∧
    (r.current.filter Issued.isOpen).length ≤ 1 := by
  have hk := h.kept hn
  have hs := h.list.inStep
  refine ⟨hk.delivered_current.symm, hk.current_inOrder hs, ?_⟩
  rw [hk.current_open]
  cases r.list.pager.inFlight with
  | true =>
    refine ⟨iff_of_true rfl ⟨_, rfl⟩, ?_, Nat.le_refl 1⟩
    intro x hx
    rw [List.mem_singleton.1 hx]
    exact hs.offset
  | false =>
    refine ⟨iff_of_false Bool.false_ne_true ?_, ?_, Nat.zero_le 1⟩
    · rintro ⟨x, hx⟩
      cases hx
    · intro x hx
      cases hx

/-- The first answer comes when the list has been loaded again: its row is dropped, and that of the second one is
kept. -/
theorem loaded_rows_of_late_answer :
    let r := ((((({ list := .start {} {} } : PageRun).act .mount).act .refresh).deliver 0
      (.page { items := [{ id := 1 }] })).deliver 1 (.page { items := [{ id := 2 }] }))
    r.restarts < Word.size64 ∧ r.list.pager.items.toList = delivered r.current ∧
      delivered r.current = [{ id := 2 }] := by
  have hr : Reachable {} {} ((((({ list := .start {} {} } : PageRun).act .mount).act .refresh).deliver 0
      (.page { items := [{ id := 1 }] })).deliver 1 (.page { items := [{ id := 2 }] })) :=
    ((((Reachable.start.act .mount).act .refresh).deliver 0 _).deliver 1 _)
  exact ⟨by decide, (loaded_rows_follow_requests hr (by decide)).1, by decide⟩

end PageRun

end JobBoard
