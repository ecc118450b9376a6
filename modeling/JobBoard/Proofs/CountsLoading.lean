import JobBoard.Proofs.OpenFetches

/-!
The fetches of the counts. Unlike those of pages and of records they are not told apart, and there may be several of
them: whether the counts are being loaded is whether the last thing that happened to them was that they were asked for.
So while an answer is the last thing that happened and another fetch is out, the board shows nothing of that fetch.
-/

namespace JobBoard

def Report.isOfCounts : Report → Bool
  | .countsLoaded _ | .countsFailed _ => true
  | _ => false

theorem Fetch.IsAnsweredBy.isOfCounts {a : Report} (h : Fetch.counts.IsAnsweredBy a) : a.isOfCounts = true := by
  cases a with
  | countsLoaded d => rfl
  | countsFailed error => rfl
  | _ => exact False.elim h

theorem Fetch.IsAnsweredBy.eq_counts {f : Fetch} {a : Report} (h : f.IsAnsweredBy a) (ha : a.isOfCounts = true) :
    f = .counts := by
  cases f with
  | counts => rfl
  | page request =>
    cases a with
    | pageLoaded g page => cases ha
    | pageFailed g error => cases ha
    | _ => exact False.elim h
  | record id =>
    cases a with
    | recordLoaded d => cases ha
    | recordFailed id error => cases ha
    | _ => exact False.elim h

namespace Board

/-- Keys and the mouse change the list, the focus, and how far an open record is scrolled. All else that they bring
about is an effect. -/
def Operated (b c : Board) : Prop :=
  ∃ list focus scroll, c = { b with list, focus, record := { b.record with scroll } }

theorem pressInRecord_operated (b : Board) (k : Key) : b.Operated (b.pressInRecord k).1 := by
  unfold pressInRecord
  split <;> exact ⟨_, _, _, rfl⟩

theorem navigate_operated (b : Board) (key : CursorKey) : b.Operated (b.navigate key).1 := by
  unfold navigate
  dsimp only
  split <;> exact ⟨_, _, _, rfl⟩

theorem pressInFilters_operated (b : Board) (k : Key) : b.Operated (b.pressInFilters k).1 := by
  unfold pressInFilters
  split <;> exact ⟨_, _, _, rfl⟩

theorem pressInList_operated (b : Board) (k : Key) : b.Operated (b.pressInList k).1 := by
  unfold pressInList
  split
  · exact b.navigate_operated _
  · split <;> exact ⟨_, _, _, rfl⟩

theorem pressInMain_operated (b : Board) (k : Key) : b.Operated (b.pressInMain k).1 := by
  unfold pressInMain
  split
  · exact ⟨_, _, _, rfl⟩
  split
  · exact ⟨_, _, _, rfl⟩
  split
  · exact ⟨_, _, _, rfl⟩
  split
  · exact ⟨_, _, _, rfl⟩
  split
  · exact b.pressInFilters_operated k
  · exact b.pressInList_operated k

theorem press_operated (b : Board) (k : Key) : b.Operated (b.press k).1 := by
  unfold press
  split
  · exact b.pressInRecord_operated k
  split
  · exact ⟨_, _, _, rfl⟩
  · exact b.pressInMain_operated k

theorem clickList_operated (b : Board) (y : Nat) : b.Operated (b.clickList y).1 := by
  unfold clickList
  dsimp only
  split
  · exact ⟨_, _, _, rfl⟩
  · split
    · obtain ⟨list, focus, scroll, h⟩ := (b.giveFocus .list).navigate_operated .activate
      exact ⟨list, focus, scroll, h⟩
    · exact ⟨_, _, _, rfl⟩

theorem pointInMain_operated (b : Board) (m : Mouse) : b.Operated (b.pointInMain m).1 := by
  unfold pointInMain
  dsimp only
  split
  · split <;> exact ⟨_, _, _, rfl⟩
  · split <;> exact ⟨_, _, _, rfl⟩
  · split
    · exact b.clickList_operated _
    · split <;> exact ⟨_, _, _, rfl⟩
  · exact ⟨_, _, _, rfl⟩

theorem point_operated (b : Board) (m : Mouse) : b.Operated (b.point m).1 := by
  unfold point
  split
  · split <;> exact ⟨_, _, _, rfl⟩
  · exact b.pointInMain_operated m

theorem Operated.counts {b c : Board} (h : b.Operated c) : c.counts = b.counts := by
  obtain ⟨list, focus, scroll, rfl⟩ := h
  rfl

theorem learn_counts {a : Report} (b : Board) (h : a.isOfCounts = false) : (b.learn a).1.counts = b.counts := by
  cases a with
  | tick =>
    unfold learn
    dsimp only
    split <;> rfl
  | countsLoaded d => cases h
  | countsFailed error => cases h
  | _ => rfl

theorem on_counts (b : Board) (e : Event) (h : ∀ a, e = .report a → a.isOfCounts = false) :
    (b.on e).1.counts = b.counts := by
  cases e with
  | mount => rfl
  | key k => exact (b.press_operated k).counts
  | mouse m => exact (b.point_operated m).counts
  | report a => exact b.learn_counts (h a rfl)
  | quiet =>
    change b.fire.1.counts = b.counts
    unfold fire
    split <;> rfl
  | draw screen => rfl

theorem learn_loading {a : Report} (b : Board) (h : a.isOfCounts = true) :
    (b.learn a).1.counts.loading = false ∧ (b.learn a).2 = [] := by
  cases a with
  | countsLoaded d => exact ⟨rfl, rfl⟩
  | countsFailed error => exact ⟨rfl, rfl⟩
  | _ => cases h

theorem perform_loading (now : Nat) (b : Board) (e : Effect) :
    (b.perform now e).counts.loading = (b.counts.loading || decide (fetch? e = some .counts)) := by
  cases e <;> first | exact (Bool.or_false _).symm | exact (Bool.or_true _).symm

theorem carryOut_loading (now : Nat) (b : Board) (es : List Effect) :
    (b.carryOut now es).1.counts.loading = (b.counts.loading || decide (.counts ∈ (b.carryOut now es).2.1)) := by
  change (es.foldl (perform now) b).counts.loading = (b.counts.loading || decide (.counts ∈ es.filterMap fetch?))
  induction es generalizing b with
  | nil => exact (Bool.or_false _).symm
  | cons e es ih =>
    rw [List.foldl_cons, ih, perform_loading, Bool.or_assoc, ← Bool.decide_or]
    congr 2
    rw [List.filterMap_cons]
    cases fetch? e with
    | none => simp
    | some f => simp [eq_comm]

end Board

/-- What happens to the counts: a fetch of them is sent, or one is answered. -/
inductive CountsNote where
  | asked
  | answered
  deriving DecidableEq

structure CountsRun extends FetchRun where
  log : List CountsNote := []

namespace CountsRun

def fetches (r : CountsRun) (now : Nat) (e : Event) : List Fetch := ((r.board.on e).1.carryOut now (r.board.on e).2).2.1

def take (r : CountsRun) (now : Nat) (e : Event) : CountsRun :=
  { r.toFetchRun.take now e with log := r.log ++ List.replicate ((r.fetches now e).count .counts) .asked }

/-- A fetch is not out any more, since its answer has come. -/
def settle (r : CountsRun) (f : Fetch) (a : Report) : CountsRun where
  board := r.board
  waiting := r.waiting.erase f
  answered := r.answered ++ [(f, a)]
  log := if f = .counts then r.log ++ [.answered] else r.log

def answer (r : CountsRun) (now : Nat) (f : Fetch) (a : Report) : CountsRun := (r.settle f a).take now (.report a)

/-- The runs in which reports about the counts come as answers only, while all else happens at any time. -/
inductive Reachable (settings : Settings) (filter : Filter) : CountsRun → Prop
  | start : Reachable settings filter { board := .start settings filter }
  | take {r : CountsRun} (now : Nat) (e : Event) (h : ∀ a, e = .report a → a.isOfCounts = false) :
      Reachable settings filter r → Reachable settings filter (r.take now e)
  | answer {r : CountsRun} (now : Nat) {f : Fetch} {a : Report} (hf : f ∈ r.waiting) (ha : f.IsAnsweredBy a) :
      Reachable settings filter r → Reachable settings filter (r.answer now f a)

variable {r : CountsRun} {settings : Settings} {filter : Filter}

theorem exists_of_fetchRun {r : FetchRun} (h : FetchRun.Reachable Report.isOfCounts settings filter r) :
    ∃ log, Reachable settings filter { r with log } := by
  induction h with
  | start => exact ⟨[], .start⟩
  | take now e he _ ih =>
    obtain ⟨log, ih⟩ := ih
    exact ⟨_, ih.take now e he⟩
  | answer now hf ha _ ih =>
    obtain ⟨log, ih⟩ := ih
    exact ⟨_, ih.answer now hf ha⟩

/-- What the board says of the counts, and the fetches that are out, agree with what has happened. -/
structure Kept (r : CountsRun) : Prop where
  loading : r.board.counts.loading = true ↔ r.log.getLast? = some .asked
  count : r.waiting.count .counts + r.log.count .answered = r.log.count .asked
  asked : r.log.getLast? = some .asked → .counts ∈ r.waiting

theorem Kept.start (settings : Settings) (filter : Filter) : Kept { board := .start settings filter } where
  loading := by
    constructor
    · intro h
      cases h
    · intro h
      cases h
  count := rfl
  asked := by
    intro h
    cases h

theorem getLast?_asked (log : List CountsNote) (n : Nat) :
    (log ++ List.replicate n CountsNote.asked).getLast? = some .asked ↔ log.getLast? = some .asked ∨ 0 < n := by
  cases n with
  | zero => simp
  | succ n => simp [List.replicate_succ']

theorem Kept.take (h : r.Kept) (now : Nat) {e : Event} (he : ∀ a, e = .report a → a.isOfCounts = false) :
    (r.take now e).Kept := by
  have hloading : (r.take now e).board.counts.loading =
      (r.board.counts.loading || decide (.counts ∈ r.fetches now e)) := by
    rw [← r.board.on_counts e he]
    exact Board.carryOut_loading now _ _
  have hwaiting : (r.take now e).waiting = r.waiting ++ r.fetches now e := rfl
  have hlog : (r.take now e).log = r.log ++ List.replicate ((r.fetches now e).count .counts) .asked := rfl
  refine ⟨?_, ?_, ?_⟩
  · rw [hloading, hlog, getLast?_asked, ← h.loading, List.count_pos_iff, Bool.or_eq_true, decide_eq_true_eq]
  · have hnone : (List.replicate ((r.fetches now e).count .counts) CountsNote.asked).count .answered = 0 :=
      List.count_eq_zero.2 fun hmem => by cases List.eq_of_mem_replicate hmem
    have hcount := h.count
    rw [hwaiting, hlog, List.count_append, List.count_append, List.count_append, List.count_replicate_self, hnone]
    omega
  · intro hlast
    rw [hlog, getLast?_asked, List.count_pos_iff] at hlast
    rw [hwaiting, List.mem_append]
    exact hlast.imp_left h.asked

theorem Kept.settle (h : r.Kept) {f : Fetch} (hf : f ≠ .counts) (a : Report) : (r.settle f a).Kept := by
  have hlog : (r.settle f a).log = r.log := if_neg hf
  refine ⟨?_, ?_, ?_⟩
  · rw [hlog]
    exact h.loading
  · rw [hlog, ← h.count]
    exact congrArg (· + r.log.count .answered) (List.count_erase_of_ne hf.symm)
  · rw [hlog]
    intro hlast
    exact (List.mem_erase_of_ne hf.symm).2 (h.asked hlast)

/-- An answer to a fetch of the counts is the last thing that happened, whether or not others are out. -/
theorem Kept.answer_counts (h : r.Kept) (now : Nat) {a : Report} (hf : .counts ∈ r.waiting)
    (ha : Fetch.counts.IsAnsweredBy a) : (r.answer now .counts a).Kept := by
  -- The log tells of the answer before the board has learned of it, so that what is kept is kept over both steps only.
  obtain ⟨hloading, hnothing⟩ := r.board.learn_loading ha.isOfCounts
  have hfetches : (r.settle .counts a).fetches now (.report a) = [] := by
    change (r.board.learn a).2.filterMap Board.fetch? = []
    rw [hnothing, List.filterMap_nil]
  have hboard : (r.answer now .counts a).board.counts.loading = false := by
    change ((r.board.learn a).2.foldl (Board.perform now) (r.board.learn a).1).counts.loading = false
    rw [hnothing]
    exact hloading
  have hwaiting : (r.answer now .counts a).waiting = r.waiting.erase .counts := by
    change r.waiting.erase .counts ++ (r.settle .counts a).fetches now (.report a) = _
    rw [hfetches, List.append_nil]
  have hlog : (r.answer now .counts a).log = r.log ++ [.answered] := by
    change (r.log ++ [.answered]) ++ List.replicate (((r.settle .counts a).fetches now (.report a)).count .counts) _ = _
    rw [hfetches, List.count_nil, List.replicate_zero, List.append_nil]
  refine ⟨?_, ?_, ?_⟩
  · rw [hboard, hlog, List.getLast?_concat]
    decide
  · have hcount := h.count
    have hpos : 0 < r.waiting.count .counts := List.count_pos_iff.2 hf
    have hanswered : [CountsNote.answered].count .answered = 1 := rfl
    have hasked : [CountsNote.answered].count .asked = 0 := rfl
    rw [hwaiting, hlog, List.count_erase_self, List.count_append, List.count_append, hanswered, hasked]
    omega
  · rw [hlog, List.getLast?_concat]
    intro hlast
    cases hlast

theorem Kept.answer (h : r.Kept) (now : Nat) {f : Fetch} {a : Report} (hf : f ∈ r.waiting) (ha : f.IsAnsweredBy a) :
    (r.answer now f a).Kept := by
  by_cases hcounts : f = .counts
  · subst hcounts
    exact h.answer_counts now hf ha
  · refine (h.settle hcounts a).take now ?_
    rintro _ ⟨⟩
    exact Bool.eq_false_iff.2 fun hreport => hcounts (ha.eq_counts hreport)

theorem Reachable.kept (h : Reachable settings filter r) : r.Kept := by
  induction h with
  | start => exact .start settings filter
  | take now e he _ ih => exact ih.take now he
  | answer now hf ha _ ih => exact ih.answer now hf ha

/-- However often the counts are asked for, and in whatever order the fetches are answered: the counts are shown as
being loaded exactly when the last thing that happened to them is that they were asked for, and a fetch of them is out
then. That is whether a fetch of them is out, unless one has been answered since they were asked for last while
another is still out. -/
theorem counts_loading_iff (h : Reachable settings filter r) :
    r.waiting.count .counts + r.log.count .answered = r.log.count .asked ∧
    (r.board.counts.loading = true ↔ r.log.getLast? = some .asked) ∧
    (r.board.counts.loading = true → .counts ∈ r.waiting) ∧
    ((r.board.counts.loading = true ↔ .counts ∈ r.waiting) ↔
      (r.log.getLast? = some .answered → .counts ∉ r.waiting)) := by
  have hk := h.kept
  refine ⟨hk.count, hk.loading, fun hloading => hk.asked (hk.loading.1 hloading), ?_⟩
  rw [hk.loading]
  cases hlast : r.log.getLast? with
  | none =>
    have hcount := hk.count
    rw [List.getLast?_eq_none_iff.1 hlast] at hcount
    have hnone : .counts ∉ r.waiting := List.count_eq_zero.1 hcount
    simp [hnone]
  | some note =>
    cases note with
    | asked => simp [hk.asked hlast]
    | answered => simp

/-- The counts are asked for again before the first fetch of them is answered. -/
def askedTwice : CountsRun :=
  let start : CountsRun := { board := .start {} {} }
  (start.take 0 .mount).take 1 (.key { code := .char 'r', ctrl := true })

theorem askedTwice_reachable : Reachable {} {} askedTwice := by
  refine .take 1 _ ?_ (.take 0 _ ?_ .start)
  · rintro a ⟨⟩
  · rintro a ⟨⟩

theorem counts_loading_iff_of_askedTwice :
    askedTwice.waiting.count .counts = 2 ∧ askedTwice.board.counts.loading = true ∧
      (askedTwice.board.counts.loading = true ↔ .counts ∈ askedTwice.waiting) := by
  obtain ⟨hcount, hloading, -, hexact⟩ := counts_loading_iff askedTwice_reachable
  have hlog : askedTwice.log = [.asked, .asked] := by decide +kernel
  rw [hlog] at hcount hloading hexact
  exact ⟨hcount, hloading.2 rfl, hexact.2 fun hlast => by cases hlast⟩

/-- One of the two fetches is answered, and so is the fetch of the page. -/
def answeredOnce : CountsRun :=
  (askedTwice.answer 2 .counts (.countsLoaded {})).answer 3 (.page ⟨⟨2⟩, {}, 0, 50⟩)
    (.pageLoaded ⟨2⟩ { items := [], hasMore := false })

theorem answeredOnce_reachable : Reachable {} {} answeredOnce :=
  .answer 3 (by decide +kernel) rfl (.answer 2 (by decide +kernel) trivial askedTwice_reachable)

/-- A fetch of the counts is still out, and nothing is shown as being loaded. -/
theorem not_loading_of_answeredOnce :
    Reachable {} {} answeredOnce ∧ .counts ∈ answeredOnce.waiting ∧
      ¬ (answeredOnce.board.counts.loading = true ↔ .counts ∈ answeredOnce.waiting) ∧
      answeredOnce.board.isBusy = false := by
  have hout : .counts ∈ answeredOnce.waiting := by decide +kernel
  have hloading : answeredOnce.board.counts.loading = false := by decide +kernel
  refine ⟨answeredOnce_reachable, hout, ?_, by decide +kernel⟩
  intro hexact
  rw [hexact.2 hout] at hloading
  cases hloading

end CountsRun

end JobBoard
