import JobBoard.Proofs.BoardRun

/-!
The fetches that are out. Every fetch is answered at most once and at any time, also when nobody waits for it any more.
The open record is that of the job it was opened for, and as long as it is being loaded a fetch for that job is out.
-/

namespace JobBoard

def Fetch.IsAnsweredBy : Fetch → Report → Prop
  | .page r, .pageLoaded g _ => g = r.generation
  | .page r, .pageFailed g _ => g = r.generation
  | .counts, .countsLoaded _ => True
  | .counts, .countsFailed _ => True
  | .record id, .recordLoaded d => d.job.id = id
  | .record id, .recordFailed i _ => i = id
  | _, _ => False

def Report.isOfRecord : Report → Bool
  | .recordLoaded _ | .recordFailed _ _ => true
  | _ => false

theorem Fetch.IsAnsweredBy.isOfRecord {id : Int} {a : Report} (h : (Fetch.record id).IsAnsweredBy a) :
    a.isOfRecord = true := by
  cases a with
  | recordLoaded d => rfl
  | recordFailed id error => rfl
  | _ => exact False.elim h

theorem Fetch.IsAnsweredBy.eq_of_loaded {f : Fetch} {d : Detail} (h : f.IsAnsweredBy (.recordLoaded d)) :
    f = .record d.job.id := by
  cases f with
  | record id => exact congrArg Fetch.record (Eq.symm h)
  | _ => exact False.elim h

theorem Fetch.IsAnsweredBy.eq_of_failed {f : Fetch} {id : Int} {error : String}
    (h : f.IsAnsweredBy (.recordFailed id error)) : f = .record id := by
  cases f with
  | record id => exact congrArg Fetch.record (Eq.symm h)
  | _ => exact False.elim h

/-- A board, the fetches that are out, and those that have been answered with their answers. -/
structure FetchRun where
  board : Board
  waiting : List Fetch := []
  answered : List (Fetch × Report) := []

namespace FetchRun

/-- Something happens to the board, and what comes of it is carried out. -/
def take (r : FetchRun) (now : Nat) (e : Event) : FetchRun :=
  let (board, fetches, _) := (r.board.on e).1.carryOut now (r.board.on e).2
  { r with board, waiting := r.waiting ++ fetches }

/-- The answer to a fetch comes; the fetch is not out any more. -/
def answer (r : FetchRun) (now : Nat) (f : Fetch) (a : Report) : FetchRun :=
  { r with waiting := r.waiting.erase f, answered := r.answered ++ [(f, a)] }.take now (.report a)

/-- The runs in which reports of the given kind come as answers only, while all else happens at any time. -/
inductive Reachable (isAnswer : Report → Bool) (settings : Settings) (filter : Filter) : FetchRun → Prop
  | start : Reachable isAnswer settings filter { board := .start settings filter }
  | take {r : FetchRun} (now : Nat) (e : Event) (h : ∀ a, e = .report a → isAnswer a = false) :
      Reachable isAnswer settings filter r → Reachable isAnswer settings filter (r.take now e)
  | answer {r : FetchRun} (now : Nat) {f : Fetch} {a : Report} (hf : f ∈ r.waiting) (ha : f.IsAnsweredBy a) :
      Reachable isAnswer settings filter r → Reachable isAnswer settings filter (r.answer now f a)

end FetchRun

namespace RecordPane

/-- A pane that is closed is left as it is, and one that is open is scrolled at most. -/
def Scrolled (p q : RecordPane) : Prop := ∃ n, q = { p with scroll := n } ∧ (p.isOpen = false → q = p)

theorem Scrolled.refl (p : RecordPane) : p.Scrolled p := ⟨p.scroll, rfl, fun _ => rfl⟩

theorem Scrolled.of_isOpen {p : RecordPane} (h : p.isOpen = true) (n : Nat) : p.Scrolled { p with scroll := n } := by
  refine ⟨n, rfl, ?_⟩
  intro hclosed
  rw [h] at hclosed
  cases hclosed

theorem clamp_scrolled (p : RecordPane) : p.Scrolled p.clamp := by
  unfold clamp
  split
  · exact .of_isOpen ‹_› _
  · exact .refl p

end RecordPane

namespace Board

variable {b : Board}

theorem navigate_record (b : Board) (key : CursorKey) : (b.navigate key).1.record = b.record := by
  unfold navigate
  dsimp only
  split <;> rfl

theorem pressInFilters_record (b : Board) (k : Key) : (b.pressInFilters k).1.record = b.record := by
  unfold pressInFilters
  split <;> rfl

theorem pressInList_record (b : Board) (k : Key) : (b.pressInList k).1.record = b.record := by
  unfold pressInList
  split
  · exact b.navigate_record _
  · split <;> rfl

theorem pressInMain_record (b : Board) (k : Key) : (b.pressInMain k).1.record = b.record := by
  unfold pressInMain
  split
  · rfl
  split
  · rfl
  split
  · rfl
  split
  · rfl
  split
  · exact b.pressInFilters_record k
  · exact b.pressInList_record k

theorem pressInRecord_scrolled (h : b.record.isOpen = true) (k : Key) :
    b.record.Scrolled (b.pressInRecord k).1.record := by
  unfold pressInRecord
  split <;> first | exact .refl _ | exact .of_isOpen h _

theorem press_scrolled (b : Board) (k : Key) : b.record.Scrolled (b.press k).1.record := by
  unfold press
  split
  · exact pressInRecord_scrolled ‹_› k
  split
  · exact .refl _
  · rw [pressInMain_record]
    exact .refl _

theorem clickList_record (b : Board) (y : Nat) : (b.clickList y).1.record = b.record := by
  unfold clickList
  dsimp only
  split
  · rfl
  · split
    · exact (b.giveFocus .list).navigate_record .activate
    · rfl

theorem pointInMain_record (b : Board) (m : Mouse) : (b.pointInMain m).1.record = b.record := by
  unfold pointInMain
  dsimp only
  split
  · split <;> rfl
  · split <;> rfl
  · split
    · exact b.clickList_record _
    · split <;> rfl
  · rfl

theorem point_scrolled (b : Board) (m : Mouse) : b.record.Scrolled (b.point m).1.record := by
  unfold point
  split
  · split <;> first | exact .refl _ | exact .of_isOpen ‹_› _
  · rw [pointInMain_record]
    exact .refl _

theorem learn_record {a : Report} (b : Board) (h : a.isOfRecord = false) : (b.learn a).1.record = b.record := by
  cases a with
  | tick =>
    unfold learn
    dsimp only
    split <;> rfl
  | recordLoaded d => cases h
  | recordFailed id error => cases h
  | _ => rfl

/-- Whatever happens, but for reports about records, scrolls an open record at most. The opening and the closing are
effects. -/
theorem on_scrolled (b : Board) (e : Event) (h : ∀ a, e = .report a → a.isOfRecord = false) :
    b.record.Scrolled (b.on e).1.record := by
  cases e with
  | mount => exact .refl _
  | key k => exact b.press_scrolled k
  | mouse m => exact b.point_scrolled m
  | report a =>
    change b.record.Scrolled (b.learn a).1.record
    rw [learn_record b (h a rfl)]
    exact .refl _
  | quiet =>
    change b.record.Scrolled b.fire.1.record
    unfold fire
    split <;> exact .refl _
  | draw screen => exact b.record.clamp_scrolled

end Board

namespace RecordPane

/-- What a pane says is backed by the fetches that are out and by the answers that have come. -/
structure Backed (p : RecordPane) (waiting : List Fetch) (answered : List (Fetch × Report)) : Prop where
  record : ∀ d, p.record = some d → p.requested = some d.job.id
  error : ∀ error, p.error = some error →
    ∃ id, p.requested = some id ∧ (Fetch.record id, Report.recordFailed id error) ∈ answered
  closed : p.requested = none → p = {}
  loading : ∀ id, p.requested = some id → p.record = none → p.error = none → .record id ∈ waiting

variable {p q : RecordPane} {waiting waiting' : List Fetch} {answered answered' : List (Fetch × Report)}

theorem Backed.of_closed (waiting : List Fetch) (answered : List (Fetch × Report)) : Backed {} waiting answered where
  record := by
    intro d h
    cases h
  error := by
    intro error h
    cases h
  closed := fun _ => rfl
  loading := by
    intro id h
    cases h

theorem Backed.ofJob {id : Int} (h : .record id ∈ waiting) (answered : List (Fetch × Report)) :
    (ofJob id).Backed waiting answered where
  record := by
    intro d h
    cases h
  error := by
    intro error h
    cases h
  closed := by
    intro h
    cases h
  loading := by
    intro id' h'
    obtain rfl := Option.some.inj h'
    exact fun _ _ => h

theorem Backed.mono (h : p.Backed waiting answered) (hw : ∀ id, .record id ∈ waiting → .record id ∈ waiting')
    (ha : ∀ x ∈ answered, x ∈ answered') : p.Backed waiting' answered' where
  record := h.record
  error := by
    intro error he
    obtain ⟨id, hid, hfailed⟩ := h.error error he
    exact ⟨id, hid, ha _ hfailed⟩
  closed := h.closed
  loading := by
    intro id hid hrecord herror
    exact hw id (h.loading id hid hrecord herror)

theorem Backed.scrolled (h : p.Backed waiting answered) (hs : p.Scrolled q) : q.Backed waiting answered := by
  obtain ⟨n, rfl, hclosed⟩ := hs
  refine ⟨h.record, h.error, ?_, h.loading⟩
  intro hnone
  have hopen : p.isOpen = false := by
    change p.requested.isSome = false
    rw [show p.requested = none from hnone]
    rfl
  rw [hclosed hopen]
  exact h.closed hnone

/-- The answer to a fetch of a record counts if the record is still wanted; the fetch is not needed any more. -/
theorem Backed.receive (h : p.Backed waiting answered) (d : Detail) :
    (p.receive d).Backed (waiting.erase (.record d.job.id))
      (answered ++ [(.record d.job.id, .recordLoaded d)]) := by
  have hmono : ∀ x ∈ answered, x ∈ answered ++ [(Fetch.record d.job.id, Report.recordLoaded d)] :=
    fun x hx => List.mem_append_left _ hx
  unfold RecordPane.receive
  split
  · rename_i hwanted
    refine ⟨?_, (h.mono (fun _ hw => hw) hmono).error, ?_, ?_⟩
    · intro d' hd
      obtain rfl := Option.some.inj hd
      exact hwanted
    · intro hnone
      rw [show p.requested = none from hnone] at hwanted
      cases hwanted
    · intro id _ hrecord
      cases hrecord
  · rename_i hother
    refine ⟨h.record, (h.mono (fun _ hw => hw) hmono).error, h.closed, ?_⟩
    intro id hid hrecord herror
    refine (List.mem_erase_of_ne ?_).2 (h.loading id hid hrecord herror)
    rintro ⟨⟩
    exact hother hid

theorem Backed.fail (h : p.Backed waiting answered) (id : Int) (error : String) :
    (p.fail id error).Backed (waiting.erase (.record id))
      (answered ++ [(.record id, .recordFailed id error)]) := by
  have hmono : ∀ x ∈ answered, x ∈ answered ++ [(Fetch.record id, Report.recordFailed id error)] :=
    fun x hx => List.mem_append_left _ hx
  unfold RecordPane.fail
  split
  · rename_i hwanted
    refine ⟨h.record, ?_, ?_, ?_⟩
    · intro error' he
      obtain rfl := Option.some.inj he
      exact ⟨id, hwanted, List.mem_append_right _ List.mem_cons_self⟩
    · intro hnone
      rw [show p.requested = none from hnone] at hwanted
      cases hwanted
    · intro id' _ _ herror
      cases herror
  · rename_i hother
    refine ⟨h.record, (h.mono (fun _ hw => hw) hmono).error, h.closed, ?_⟩
    intro id' hid hrecord herror
    refine (List.mem_erase_of_ne ?_).2 (h.loading id' hid hrecord herror)
    rintro ⟨⟩
    exact hother hid

end RecordPane

namespace Board

theorem backed_perform {now : Nat} {b : Board} {waiting : List Fetch} {answered : List (Fetch × Report)}
    (h : b.record.Backed waiting answered) (e : Effect) :
    (b.perform now e).record.Backed (waiting ++ (fetch? e).toList) answered := by
  have hsame : b.record.Backed (waiting ++ (fetch? e).toList) answered :=
    h.mono (fun _ hw => List.mem_append_left _ hw) fun _ ha => ha
  cases e with
  | openJob id => exact .ofJob (List.mem_append_right _ List.mem_cons_self) answered
  | closeRecord => exact .of_closed _ answered
  | _ => exact hsame

theorem backed_carryOut {now : Nat} {b : Board} {waiting : List Fetch} {answered : List (Fetch × Report)}
    (h : b.record.Backed waiting answered) (es : List Effect) :
    (b.carryOut now es).1.record.Backed (waiting ++ (b.carryOut now es).2.1) answered := by
  change (es.foldl (perform now) b).record.Backed (waiting ++ es.filterMap fetch?) answered
  induction es generalizing b waiting with
  | nil => rwa [List.filterMap_nil, List.append_nil]
  | cons e es ih =>
    have hnext : (es.foldl (perform now) (b.perform now e)).record.Backed
        (waiting ++ (fetch? e).toList ++ es.filterMap fetch?) answered :=
      ih (backed_perform h e)
    rw [List.append_assoc] at hnext
    rw [List.foldl_cons, List.filterMap_cons]
    cases hf : fetch? e <;> rw [hf] at hnext <;> exact hnext

end Board

namespace FetchRun

variable {r : FetchRun} {settings : Settings} {filter : Filter}

def Backed (r : FetchRun) : Prop := r.board.record.Backed r.waiting r.answered

theorem Backed.take (h : r.Backed) (now : Nat) {e : Event} (he : ∀ a, e = .report a → a.isOfRecord = false) :
    (r.take now e).Backed :=
  Board.backed_carryOut (h.scrolled (r.board.on_scrolled e he)) _

theorem Backed.answer (h : r.Backed) (now : Nat) {f : Fetch} {a : Report} (ha : f.IsAnsweredBy a) :
    (r.answer now f a).Backed := by
  cases hrecord : a.isOfRecord with
  | false =>
    refine Backed.take (r := { r with waiting := r.waiting.erase f, answered := r.answered ++ [(f, a)] }) ?_ now ?_
    · refine RecordPane.Backed.mono h ?_ fun x hx => List.mem_append_left _ hx
      intro id hw
      refine (List.mem_erase_of_ne ?_).2 hw
      rintro rfl
      rw [ha.isOfRecord] at hrecord
      cases hrecord
    · rintro a' ⟨⟩
      exact hrecord
  | true =>
    -- Reports about records come of the fetches of records, and have no effects.
    cases a with
    | recordLoaded d =>
      obtain rfl := ha.eq_of_loaded
      refine RecordPane.Backed.mono (RecordPane.Backed.receive h d) ?_ (fun _ hx => hx)
      exact fun _ hw => List.mem_append_left _ hw
    | recordFailed id error =>
      obtain rfl := ha.eq_of_failed
      refine RecordPane.Backed.mono (RecordPane.Backed.fail h id error) ?_ (fun _ hx => hx)
      exact fun _ hw => List.mem_append_left _ hw
    | _ => cases hrecord

theorem Reachable.backed (h : Reachable Report.isOfRecord settings filter r) : r.Backed := by
  induction h with
  | start => exact .of_closed [] []
  | take now e he _ ih => exact ih.take now he
  | answer now _ ha _ ih => exact ih.answer now ha

/-- However often records are opened and closed, and in whatever order the fetches for them are answered: the record
that is shown is that of the job that is open, an error is one with which a fetch for that job has failed, nothing is
left of a record that is closed, and while a record is being loaded, a fetch for its job is out. -/
theorem open_record_is_backed (h : Reachable Report.isOfRecord settings filter r) :
    (∀ d, r.board.record.record = some d → r.board.record.requested = some d.job.id) ∧
    (∀ error, r.board.record.error = some error → ∃ id, r.board.record.requested = some id ∧
      (Fetch.record id, Report.recordFailed id error) ∈ r.answered) ∧
    (r.board.record.requested = none →
      r.board.record.record = none ∧ r.board.record.error = none ∧ r.board.record.scroll = 0) ∧
    (r.board.record.isLoading = true → ∃ id, r.board.record.requested = some id ∧ .record id ∈ r.waiting) := by
  have hb := h.backed
  refine ⟨hb.record, hb.error, ?_, ?_⟩
  · intro hnone
    rw [hb.closed hnone]
    exact ⟨rfl, rfl, rfl⟩
  · intro hloading
    simp only [RecordPane.isLoading, Bool.and_eq_true, Option.isNone_iff_eq_none] at hloading
    obtain ⟨⟨hopen, hrecord⟩, herror⟩ := hloading
    obtain ⟨id, hid⟩ := Option.isSome_iff_exists.1 hopen
    exact ⟨id, hid, hb.loading id hid hrecord herror⟩

/-- A record is opened, closed, and opened again before the first fetch for it is answered. -/
def reopened : FetchRun :=
  let start : FetchRun := { board := .start {} {} }
  let loaded := (start.take 0 .mount).take 1 (.report (.pageLoaded ⟨1⟩ { items := [{ id := 4 }], hasMore := false }))
  (((loaded.take 2 (.key { code := .home })).take 3 (.key { code := .enter })).take 4 (.key { code := .escape })).take
    5 (.key { code := .enter })

def reopenedFailed : FetchRun := reopened.answer 6 (.record 4) (.recordFailed 4 "gone")

theorem reopened_reachable : Reachable Report.isOfRecord {} {} reopened := by
  have hkey (k : Key) : ∀ a, Event.key k = .report a → a.isOfRecord = false := by
    rintro a ⟨⟩
  have hreport : ∀ a, Event.report (.pageLoaded ⟨1⟩ { items := [{ id := 4 }], hasMore := false }) = .report a →
      a.isOfRecord = false := by
    rintro a ⟨⟩
    rfl
  have hmount : ∀ a, Event.mount = .report a → a.isOfRecord = false := by
    rintro a ⟨⟩
  refine .take _ _ (hkey _) (.take _ _ (hkey _) (.take _ _ (hkey _) (.take _ _ (hkey _) ?_)))
  exact .take _ _ hreport (.take _ _ hmount .start)

theorem reopenedFailed_reachable : Reachable Report.isOfRecord {} {} reopenedFailed :=
  .answer 6 (by decide +kernel) rfl reopened_reachable

theorem open_record_is_backed_of_reopened :
    reopened.board.record.isLoading = true ∧ reopened.waiting.count (.record 4) = 2 ∧
      (∃ id, reopened.board.record.requested = some id ∧ .record id ∈ reopened.waiting) ∧
      reopenedFailed.board.record.error = some "gone" ∧ reopenedFailed.waiting.count (.record 4) = 1 ∧
      ∃ id, reopenedFailed.board.record.requested = some id ∧
        (Fetch.record id, Report.recordFailed id "gone") ∈ reopenedFailed.answered := by
  have hloading : reopened.board.record.isLoading = true := by decide +kernel
  have herror : reopenedFailed.board.record.error = some "gone" := by decide +kernel
  obtain ⟨-, -, -, hout⟩ := open_record_is_backed reopened_reachable
  obtain ⟨-, hfailed, -, -⟩ := open_record_is_backed reopenedFailed_reachable
  exact ⟨hloading, by decide +kernel, hout hloading, herror, by decide +kernel, hfailed "gone" herror⟩

end FetchRun

end JobBoard
