import JobBoard.Proofs.FilterSync

/-!
The quiet time after an edit of the filter, over runs in time. The timer is one deadline, which every edit moves and
every settling takes away; so when it fires, the last thing that was done to the filter is an edit, the quiet time
has passed since then, and what is shown from now on is the filter as that edit left it.
-/

namespace JobBoard

inductive FilterMark where
  | edited (pending : Filter)
  | settled
  | elapsed (shown : Filter)
  deriving DecidableEq

/-- The mark that a deed leaves with the filter that is edited after it. -/
def FilterDeed.mark (pending : Filter) : FilterDeed → FilterMark
  | .edit _ => .edited pending
  | .applyNow | .clear => .settled

/-- A board at a point of time, and what was done to its filter until then. -/
structure QuietRun where
  board : Board
  now : Nat
  log : List (Nat × FilterMark) := []

namespace QuietRun

def take (r : QuietRun) (now : Nat) (e : Event) : QuietRun :=
  let board := r.board.after now e
  { board, now, log := r.log ++ ((r.board.filterDeed? e).map fun d => (now, d.mark board.list.draft.pending)).toList }

/-- A deed, whatever has led to it. -/
def deed (r : QuietRun) (now : Nat) (d : FilterDeed) : QuietRun :=
  let asked := r.board.withList (r.board.list.onDeed d)
  let board := (asked.1.carryOut now asked.2).1
  { board, now, log := r.log ++ [(now, d.mark board.list.draft.pending)] }

def fire (r : QuietRun) (now : Nat) : QuietRun :=
  let board := r.board.after now .quiet
  { board, now, log := r.log ++ [(now, .elapsed board.list.draft.committed)] }

/-- The runs in which time does not go back, and in which the timer fires only at its deadline or later; nothing else
says that the quiet time is over. -/
inductive Reachable (settings : Settings) (filter : Filter) : QuietRun → Prop
  | start (now : Nat) : Reachable settings filter { board := .start settings filter, now }
  | take {r : QuietRun} {now : Nat} (e : Event) (hnow : r.now ≤ now) (hq : e ≠ .quiet)
      (hr : e ≠ .report .quietElapsed) : Reachable settings filter r → Reachable settings filter (r.take now e)
  | deed {r : QuietRun} {now : Nat} (d : FilterDeed) (hnow : r.now ≤ now) :
      Reachable settings filter r → Reachable settings filter (r.deed now d)
  | fire {r : QuietRun} {now deadline : Nat} (hnow : r.now ≤ now) (harmed : r.board.timer.deadline = some deadline)
      (hdue : deadline ≤ now) : Reachable settings filter r → Reachable settings filter (r.fire now)

end QuietRun

theorem eq_or_of_concat {α : Type} {l before after : List α} {x y : α} (h : l ++ [x] = before ++ y :: after) :
    (before = l ∧ y = x) ∨ ∃ rest, l = before ++ y :: rest := by
  cases List.eq_nil_or_concat after with
  | inl hnil =>
    subst hnil
    obtain ⟨rfl, hx⟩ := List.append_inj' h rfl
    exact .inl ⟨rfl, (List.cons.inj hx).1.symm⟩
  | inr hconcat =>
    obtain ⟨rest, z, rfl⟩ := hconcat
    have h' : l ++ [x] = (before ++ y :: rest) ++ [z] := by simpa using h
    exact .inr ⟨rest, (List.append_inj' h' rfl).1⟩

namespace JobList

theorem onDeed_quietMs (l : JobList) (d : FilterDeed) : (l.onDeed d).1.draft.quietMs = l.draft.quietMs := by
  have hcommit (m : JobList) : m.applyNow.1.draft.quietMs = m.draft.quietMs := by
    change m.commit.1.draft.quietMs = m.draft.quietMs
    rw [commit_draft]
  cases d with
  | edit f => rfl
  | applyNow => exact hcommit l
  | clear => exact hcommit _

end JobList

namespace Board

theorem carryOut_commit_timer (now : Nat) (b : Board) (l : JobList) :
    (b.carryOut now l.commit.2).1.timer = b.timer := by
  cases hd : l.draft.isDirty with
  | true =>
    rw [JobList.commit_of_dirty hd]
    exact (carryOut_aside now { b with query := l.draft.pending.toQuery } (JobList.aside_of_request _)).2
  | false =>
    rw [JobList.commit_of_clean hd]
    rfl

theorem carryOut_applyNow_timer (now : Nat) (b : Board) (l : JobList) :
    (b.carryOut now l.applyNow.2).1.timer = {} :=
  carryOut_commit_timer now { b with timer := {} } l

theorem after_list_of_deed {b : Board} {e : Event} {d : FilterDeed} (h : b.filterDeed? e = some d) (now : Nat) :
    b.after now e = ((b.withList (b.list.onDeed d)).1.carryOut now (b.withList (b.list.onDeed d)).2).1 := by
  cases e with
  | key k =>
    unfold after
    rw [show b.on (.key k) = b.press k from rfl, press_of_deed h]
  | _ => cases h

end Board

namespace QuietRun

variable {r : QuietRun} {settings : Settings} {filter : Filter}

theorem take_of_deed {e : Event} {d : FilterDeed} (h : r.board.filterDeed? e = some d) (now : Nat) :
    r.take now e = r.deed now d := by
  rw [take, deed, h, Board.after_list_of_deed h]
  rfl

theorem take_of_none {e : Event} (h : r.board.filterDeed? e = none) (now : Nat) :
    r.take now e = { board := r.board.after now e, now, log := r.log } := by
  rw [take, h]
  simp

/-- What a run keeps: where the timer is armed, an edit was the last thing that was noted. -/
structure Kept (ms : Nat) (r : QuietRun) : Prop where
  quiet : r.board.list.draft.quietMs = ms
  sorted : (r.log.map Prod.fst).Pairwise (· ≤ ·)
  past : ∀ x ∈ r.log, x.1 ≤ r.now
  armed : ∀ deadline, r.board.timer.deadline = some deadline →
    ∃ earlier t₀, r.log = earlier ++ [(t₀, .edited r.board.list.draft.pending)] ∧ deadline = t₀ + ms
  elapsed : ∀ before t shown after, r.log = before ++ (t, .elapsed shown) :: after →
    ∃ earlier t₀, before = earlier ++ [(t₀, .edited shown)] ∧ t₀ + ms ≤ t

variable {ms : Nat}

theorem Kept.start (settings : Settings) (filter : Filter) (now : Nat) :
    Kept settings.debounceMs { board := .start settings filter, now } where
  quiet := rfl
  sorted := .nil
  past := by
    intro x hx
    cases hx
  armed := by
    intro deadline h
    cases h
  elapsed := by
    intro before t shown after h
    exact absurd h.symm (List.append_ne_nil_of_right_ne_nil _ (List.cons_ne_nil _ _))

theorem Kept.sorted_snoc (h : r.Kept ms) {now : Nat} (hnow : r.now ≤ now) (m : FilterMark) :
    ((r.log ++ [(now, m)]).map Prod.fst).Pairwise (· ≤ ·) := by
  rw [List.map_append, List.pairwise_append]
  refine ⟨h.sorted, List.pairwise_singleton _ _, ?_⟩
  intro t ht t' ht'
  obtain ⟨x, hx, rfl⟩ := List.mem_map.1 ht
  rw [List.mem_singleton.1 ht']
  exact Nat.le_trans (h.past x hx) hnow

theorem Kept.past_snoc (h : r.Kept ms) {now : Nat} (hnow : r.now ≤ now) (m : FilterMark) :
    ∀ x ∈ r.log ++ [(now, m)], x.1 ≤ now := by
  intro x hx
  rcases List.mem_append.1 hx with hx | hx
  · exact Nat.le_trans (h.past x hx) hnow
  · rw [List.mem_singleton.1 hx]

theorem Kept.elapsed_snoc (h : r.Kept ms) {now : Nat} {m : FilterMark} (hm : ∀ shown, m ≠ .elapsed shown) :
    ∀ before t shown after, r.log ++ [(now, m)] = before ++ (t, .elapsed shown) :: after →
      ∃ earlier t₀, before = earlier ++ [(t₀, .edited shown)] ∧ t₀ + ms ≤ t := by
  intro before t shown after hlog
  rcases eq_or_of_concat hlog with ⟨-, he⟩ | ⟨rest, hlog⟩
  · exact absurd (congrArg Prod.snd he).symm (hm shown)
  · exact h.elapsed before t shown rest hlog

theorem Kept.aside (h : r.Kept ms) {now : Nat} (hnow : r.now ≤ now) {e : Event}
    (hl : r.board.LeavesFilter (r.board.on e)) :
    Kept ms { board := r.board.after now e, now, log := r.log } := by
  have hd : (r.board.after now e).list.draft = r.board.list.draft := by
    rw [Board.after_list, hl.draft]
  have ht : (r.board.after now e).timer = r.board.timer :=
    (Board.carryOut_aside now _ hl.effects).2.trans hl.timer
  refine ⟨?_, h.sorted, fun x hx => Nat.le_trans (h.past x hx) hnow, ?_, h.elapsed⟩
  · change (r.board.after now e).list.draft.quietMs = ms
    rw [hd]
    exact h.quiet
  · change ∀ deadline, (r.board.after now e).timer.deadline = some deadline → _
    rw [ht]
    dsimp only
    rw [hd]
    exact h.armed

theorem Kept.deed (h : r.Kept ms) {now : Nat} (hnow : r.now ≤ now) (d : FilterDeed) : (r.deed now d).Kept ms where
  quiet := by
    change (Board.carryOut now (r.board.withList (r.board.list.onDeed d)).1 _).1.list.draft.quietMs = ms
    rw [Board.carryOut_list]
    exact (r.board.list.onDeed_quietMs d).trans h.quiet
  sorted := h.sorted_snoc hnow _
  past := h.past_snoc hnow _
  armed := by
    intro deadline hdeadline
    cases d with
    | edit f =>
      obtain rfl := Option.some.inj hdeadline
      exact ⟨r.log, now, rfl, congrArg (now + ·) h.quiet⟩
    | applyNow =>
      rw [show (r.deed now .applyNow).board.timer = {} from Board.carryOut_applyNow_timer now _ _] at hdeadline
      cases hdeadline
    | clear =>
      rw [show (r.deed now .clear).board.timer = {} from Board.carryOut_applyNow_timer now _ _] at hdeadline
      cases hdeadline
  elapsed := by
    apply h.elapsed_snoc
    intro shown hm
    cases d <;> cases hm

theorem Kept.take (h : r.Kept ms) {now : Nat} (hnow : r.now ≤ now) {e : Event} (hq : e ≠ .quiet)
    (hr : e ≠ .report .quietElapsed) : (r.take now e).Kept ms := by
  cases hd : r.board.filterDeed? e with
  | none =>
    rw [take_of_none hd]
    exact h.aside hnow (Board.on_leaves hd hq hr)
  | some d =>
    rw [take_of_deed hd]
    exact h.deed hnow d

theorem fire_board {deadline : Nat} (harmed : r.board.timer.deadline = some deadline) (now : Nat) :
    (r.fire now).board =
      (Board.carryOut now { r.board with list := r.board.list.commit.1, timer := {} } r.board.list.commit.2).1 := by
  have h : r.board.timer.isArmed = true := by rw [QuietTimer.isArmed, harmed]; rfl
  have hon : r.board.on .quiet =
      ({ r.board with list := r.board.list.commit.1, timer := {} }, r.board.list.commit.2) := by
    change r.board.fire = _
    rw [Board.fire, if_pos h]
    rfl
  change (Board.carryOut now (r.board.on .quiet).1 (r.board.on .quiet).2).1 = _
  rw [hon]

theorem Kept.fire (h : r.Kept ms) {now deadline : Nat} (hnow : r.now ≤ now)
    (harmed : r.board.timer.deadline = some deadline) (hdue : deadline ≤ now) : (r.fire now).Kept ms := by
  have hboard := fire_board harmed now
  have hdraft : (r.fire now).board.list.draft =
      { r.board.list.draft with committed := r.board.list.draft.pending } := by
    rw [hboard, Board.carryOut_list]
    exact r.board.list.commit_draft
  have htimer : (r.fire now).board.timer = {} := by
    rw [hboard]
    exact Board.carryOut_commit_timer now _ _
  refine ⟨?_, h.sorted_snoc hnow _, h.past_snoc hnow _, ?_, ?_⟩
  · rw [hdraft]
    exact h.quiet
  · intro d hd
    rw [htimer] at hd
    cases hd
  · intro before t shown after hlog
    rcases eq_or_of_concat hlog with ⟨rfl, he⟩ | ⟨rest, hlog⟩
    · obtain ⟨rfl, hshown⟩ := Prod.mk.inj he
      obtain rfl := FilterMark.elapsed.inj hshown
      obtain ⟨earlier, t₀, hlast, rfl⟩ := h.armed deadline harmed
      refine ⟨earlier, t₀, ?_, hdue⟩
      change r.log = earlier ++ [(t₀, .edited (r.fire t).board.list.draft.committed)]
      rw [hdraft]
      exact hlast
    · exact h.elapsed before t shown rest hlog

theorem Reachable.kept (h : Reachable settings filter r) : r.Kept settings.debounceMs := by
  induction h with
  | start now => exact .start settings filter now
  | take e hnow hq hr _ ih => exact ih.take hnow hq hr
  | deed d hnow _ ih => exact ih.deed hnow d
  | fire hnow harmed hdue _ ih => exact ih.fire hnow harmed hdue

/-- Whatever happens and whenever it does: when the quiet time is over, the last thing that was done to the filter
before is an edit, which was made at least the quiet time ago, and the filter that is shown from then on is the one
that this edit has left. So a row of edits is followed by one end of the quiet time at most, and what was applied or
cleared by none. -/
theorem quiet_time_follows_last_edit (h : Reachable settings filter r) :
    (r.log.map Prod.fst).Pairwise (· ≤ ·) ∧
    ∀ before t shown after, r.log = before ++ (t, .elapsed shown) :: after →
      ∃ earlier t₀, before = earlier ++ [(t₀, .edited shown)] ∧ t₀ + settings.debounceMs ≤ t :=
  ⟨h.kept.sorted, h.kept.elapsed⟩

/-- Two edits within the quiet time, and a timer that fires fifty milliseconds late. -/
def twoEdits : QuietRun :=
  let start : QuietRun := { board := .start {} {}, now := 0 }
  ((((start.take 0 .mount).take 10 (.key { code := .char 'f' })).take 20 (.key { code := .char ' ' })).take 100
    (.key { code := .right })).fire 450

theorem twoEdits_reachable : Reachable {} {} twoEdits := by
  refine @Reachable.fire {} {} _ _ 400 (by decide) (by decide) (by decide) ?_
  refine .take _ (by decide) nofun nofun (.take _ (by decide) nofun nofun ?_)
  exact .take _ (by decide) nofun nofun (.take _ (by decide) nofun nofun (.start 0))

theorem quiet_time_follows_last_edit_of_twoEdits :
    twoEdits.log = [(20, .edited ⟨.all, true⟩), (100, .edited ⟨.only .pending, true⟩)] ++
        (450, .elapsed ⟨.only .pending, true⟩) :: [] ∧
      ∃ earlier t₀, [(20, .edited ⟨.all, true⟩), (100, .edited ⟨.only .pending, true⟩)] =
        earlier ++ [(t₀, FilterMark.edited ⟨.only .pending, true⟩)] ∧ t₀ + 300 ≤ 450 := by
  have hlog : twoEdits.log = [(20, .edited ⟨.all, true⟩), (100, .edited ⟨.only .pending, true⟩)] ++
      (450, .elapsed ⟨.only .pending, true⟩) :: [] := by decide
  exact ⟨hlog, (quiet_time_follows_last_edit twoEdits_reachable).2 _ _ _ _ hlog⟩

end QuietRun

end JobBoard
