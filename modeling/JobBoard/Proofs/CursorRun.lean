import JobBoard.Proofs.ListRun

/-!
The active row along runs. An action leaves it, drops it, or moves it inside the list, and only a move scrolls to it;
so the active row of a reachable list is always one that is loaded.
-/

namespace JobBoard

namespace Cursor

/-- The active row, if there is one, is inside a list. -/
def Inside (c : Cursor) (size : Nat) : Prop := ∀ i, c.active = some i → i < size

inductive Step (c : Cursor) (size : Nat) : Cursor → CursorOutcome → Prop
  | keep {o : CursorOutcome} (h : ∀ j, o ≠ .moved j) : Step c size c o
  | drop : Step c size {} .unchanged
  | move {j : Nat} (h : j < size) : Step c size ⟨some j⟩ (.moved j)

variable {c : Cursor} {size : Nat}

theorem moveTo_step (c : Cursor) {target : Nat} (h : target < size) :
    Step c size (c.moveTo target).1 (c.moveTo target).2 := by
  unfold moveTo
  split
  · apply Step.keep
    intro j hj
    cases hj
  · exact .move h

theorem target_lt {i : Nat} (hi : i < size) (key : CursorKey) : target i (size - 1) key < size := by
  cases key <;> simp only [target] <;> omega

theorem entry_lt (h : 0 < size) (key : CursorKey) : entry (size - 1) key < size := by
  cases key <;> simp only [entry] <;> omega

theorem handle_step (h : c.Inside size) (key : CursorKey) :
    Step c size (c.handle key size).1 (c.handle key size).2 := by
  unfold handle
  split
  · exact .drop
  · rename_i hn
    split
    · apply Step.keep
      intro j hj
      cases hj
    · apply Step.keep
      intro j hj
      cases hj
    · rename_i i _ hi
      exact moveTo_step c (target_lt (h i hi) _)
    · exact moveTo_step c (entry_lt (Nat.pos_of_ne_zero hn) _)

theorem select_step (c : Cursor) (index size : Nat) :
    Step c size (c.select index size).1 (c.select index size).2 := by
  unfold select
  split
  · exact .drop
  · exact moveTo_step c (by omega)

theorem Inside.fit (c : Cursor) (size : Nat) : (c.fit size).Inside size := by
  intro i hi
  unfold Cursor.fit at hi
  split at hi
  · cases hi
  · obtain ⟨j, -, rfl⟩ := Option.map_eq_some_iff.1 hi
    omega

end Cursor

namespace JobList

inductive CursorStep (l : JobList) : JobList → Prop
  | keep {m : JobList} (hc : m.cursor = l.cursor) (hi : m.pager.items = l.pager.items) : CursorStep l m
  | drop {m : JobList} (hc : m.cursor = {}) : CursorStep l m
  | move {m : JobList} {j : Nat} (hj : j < l.size) (hc : m.cursor = ⟨some j⟩) (hi : m.pager.items = l.pager.items)
      (hv : m.viewport = (l.viewport.ensureVisible j).1) : CursorStep l m

variable {l : JobList} {settings : Settings} {filter : Filter}

theorem follow_viewport (l : JobList) (index : Nat) :
    (l.follow index).viewport = (l.viewport.ensureVisible index).1 := by
  unfold follow countScrolling
  dsimp only
  split <;> rfl

theorem follow_cursor (l : JobList) (index : Nat) : (l.follow index).cursor = l.cursor := by
  obtain ⟨v, n, b, h, -⟩ := l.follow_frame index
  rw [h]

theorem follow_items (l : JobList) (index : Nat) : (l.follow index).pager.items = l.pager.items := by
  obtain ⟨v, n, b, h, -⟩ := l.follow_frame index
  rw [h]

theorem afterMove_step {c : Cursor} {o : CursorOutcome} (h : l.cursor.Step l.size c o) :
    CursorStep l ({ l with cursor := c }.afterMove o).1 := by
  cases h with
  | keep h =>
    cases o with
    | unchanged => exact .keep rfl rfl
    | moved j => exact absurd rfl (h j)
    | activated j => exact .keep rfl rfl
  | drop => exact .drop rfl
  | @move j hj => exact .move hj (follow_cursor _ j) (follow_items _ j) (follow_viewport _ j)

theorem commit_cursor (l : JobList) : CursorStep l l.commit.1 := by
  unfold commit FilterDraft.commit
  split
  · exact .keep rfl rfl
  · exact .drop rfl

theorem act_cursor (h : l.cursor.Inside l.size) (a : ListAction) : CursorStep l (l.act a).1 := by
  cases a with
  | mount => exact .drop rfl
  | edit f => exact .keep rfl rfl
  | commit => exact l.commit_cursor
  | applyNow => exact l.commit_cursor
  | clearFilters =>
    cases commit_cursor { l with draft := l.draft.edit fun _ => .everything } with
    | keep hc hi => exact .keep hc hi
    | drop hc => exact .drop hc
    | move hj hc hi hv => exact .move hj hc hi hv
  | refresh => exact .drop rfl
  | retry =>
    change CursorStep l l.retry.1
    unfold retry
    split
    · exact .keep rfl l.pager.fetch_items
    · exact .keep rfl rfl
  | scrollBy d => exact .keep rfl rfl
  | navigate key => exact afterMove_step (Cursor.handle_step h key)
  | select index => exact afterMove_step (Cursor.select_step l.cursor index l.size)
  | setHeight height => exact .keep rfl rfl
  | recordHeight index height => exact .keep rfl rfl
  | layOut panel => exact .keep (l.layOut_cursor panel) (congrArg Pager.items (l.layOut_pager panel))
  | afterDraw => exact .keep rfl l.afterDraw_items

theorem CursorStep.inside (h : l.cursor.Inside l.size) {m : JobList} (hs : CursorStep l m) :
    m.cursor.Inside m.size := by
  cases hs with
  | keep hc hi =>
    rw [hc, size, Pager.size, hi]
    exact h
  | drop hc =>
    rw [hc]
    intro i hi
    cases hi
  | @move j hj hc hi hv =>
    rw [hc, size, Pager.size, hi]
    rintro i ⟨⟩
    exact hj

theorem Reachable.cursor_inside (h : Reachable settings filter l) : l.cursor.Inside l.size := by
  induction h with
  | start =>
    intro i hi
    cases hi
  | act a _ ih => exact (act_cursor ih a).inside ih
  | @learn l g a _ ih =>
    by_cases hg : g = l.pager.generation
    · subst hg
      cases a with
      | page p =>
        simp only [JobList.learn, receive_current]
        exact .fit _ _
      | failure error =>
        simp only [JobList.learn, fail_current]
        exact ih
    · rw [learn_stale hg]
      exact ih

theorem Does.moved {m : JobList} (h : l.Does m) (hr : Reachable settings filter l) {i : Nat}
    (hbefore : l.cursor.active ≠ some i) (hafter : m.cursor.active = some i) :
    m.viewport = (l.viewport.ensureVisible i).1 := by
  cases h with
  | nothing => exact absurd hafter hbefore
  | act a _ =>
    cases act_cursor hr.cursor_inside a with
    | keep hc hi => exact absurd (hc ▸ hafter) hbefore
    | drop hc =>
      rw [hc] at hafter
      cases hafter
    | move hj hc hi hv =>
      rw [hc] at hafter
      cases hafter
      exact hv

end JobList

end JobBoard
