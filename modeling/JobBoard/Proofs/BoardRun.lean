import JobBoard.Board.Event
import JobBoard.Proofs.ListRun

/-!
The board as a machine. Whatever happens to the board does to its list what the list allows, so that the lists of
reachable boards are reachable lists.
-/

namespace JobBoard.Board

/-- The board when an event has happened at a point of time and its effects have been carried out. -/
def after (b : Board) (now : Nat) (e : Event) : Board := ((b.on e).1.carryOut now (b.on e).2).1

inductive Reachable (settings : Settings) (filter : Filter) : Board → Prop
  | start : Reachable settings filter (.start settings filter)
  | after {b : Board} (now : Nat) (e : Event) :
      Reachable settings filter b → Reachable settings filter (b.after now e)

variable {settings : Settings} {filter : Filter} {b : Board}

theorem perform_list (now : Nat) (b : Board) (e : Effect) : (b.perform now e).list = b.list := by
  cases e <;> rfl

theorem carryOut_list (now : Nat) (b : Board) (es : List Effect) : (b.carryOut now es).1.list = b.list := by
  change (es.foldl (perform now) b).list = b.list
  induction es generalizing b with
  | nil => rfl
  | cons e es ih =>
    rw [List.foldl_cons, ih, perform_list]

theorem after_list (now : Nat) (b : Board) (e : Event) : (b.after now e).list = (b.on e).1.list :=
  carryOut_list now _ _

/-- All that can be asked for when the board has been drawn is a page, and that changes nothing yet. -/
theorem after_draw (b : Board) (now : Nat) (screen : Area) :
    b.after now (.draw screen) = (b.layOut screen).afterDraw.1 := by
  have h (request : Option PageRequest) (b : Board) :
      (b.carryOut now (request.map Effect.fetchPage).toList).1 = b := by
    cases request <;> rfl
  exact h _ _

theorem navigate_list (b : Board) (key : CursorKey) : (b.navigate key).1.list = (b.list.navigate key).1 := by
  unfold navigate
  dsimp only
  split <;> rfl

theorem layOut_list (b : Board) (screen : Area) :
    (b.layOut screen).list = b.list.layOut (Layout.ofScreen screen).list := rfl

theorem pressInRecord_list (b : Board) (k : Key) : (b.pressInRecord k).1.list = b.list := by
  unfold pressInRecord
  split <;> rfl

theorem pressInFilters_does (b : Board) (k : Key) : b.list.Does (b.pressInFilters k).1.list := by
  unfold pressInFilters
  split
  · exact .act (.edit _) rfl
  · exact .act (.edit _) rfl
  · exact .act (.edit _) rfl
  · exact .act (.edit _) rfl
  · exact .act (.edit _) rfl
  · exact .act .applyNow rfl
  · exact .nothing
  · exact .nothing
  · exact .nothing

theorem navigate_does (b : Board) (key : CursorKey) : b.list.Does (b.navigate key).1.list := by
  rw [navigate_list]
  exact .act (.navigate key) rfl

theorem pressInList_does (b : Board) (k : Key) : b.list.Does (b.pressInList k).1.list := by
  unfold pressInList
  split
  · exact b.navigate_does _
  · split
    · exact .act .retry rfl
    · exact .nothing
    · exact .nothing
    · exact .nothing

theorem press_does (b : Board) (k : Key) : b.list.Does (b.press k).1.list := by
  unfold press pressInMain
  split
  · rw [pressInRecord_list]
    exact .nothing
  split
  · exact .nothing
  split
  · exact .act .refresh rfl
  split
  · exact .nothing
  split
  · exact .nothing
  split
  · exact .act .clearFilters rfl
  split
  · exact b.pressInFilters_does k
  · exact b.pressInList_does k

theorem clickList_does (b : Board) (y : Nat) : b.list.Does (b.clickList y).1.list := by
  unfold clickList
  dsimp only
  split
  · exact .nothing
  · split
    · exact (b.giveFocus .list).navigate_does .activate
    · exact .act (.select _) rfl

theorem point_does (b : Board) (m : Mouse) : b.list.Does (b.point m).1.list := by
  unfold point pointInMain
  split
  · split <;> exact .nothing
  · dsimp only
    split
    · split
      · exact .act (.scrollBy _) rfl
      · exact .nothing
    · split
      · exact .act (.scrollBy _) rfl
      · exact .nothing
    · split
      · exact b.clickList_does _
      · split <;> exact .nothing
    · exact .nothing

inductive ListStep (l : JobList) : JobList → Prop
  | does {m : JobList} (h : l.Does m) : ListStep l m
  | learn (g : Generation) (a : PageAnswer) : ListStep l (l.learn g a)
  | draw (panel : Area) : ListStep l (l.layOut panel).afterDraw.1

theorem learn_step (b : Board) (r : Report) : ListStep b.list (b.learn r).1.list := by
  cases r with
  | tick =>
    unfold learn
    dsimp only
    split <;> exact .does .nothing
  | resized => exact .does .nothing
  | pageLoaded g page => exact .learn g (.page page)
  | pageFailed g error => exact .learn g (.failure error)
  | quietElapsed => exact .does (.act .commit rfl)
  | countsLoaded d => exact .does .nothing
  | countsFailed error => exact .does .nothing
  | recordLoaded d => exact .does .nothing
  | recordFailed id error => exact .does .nothing

theorem on_step (b : Board) (e : Event) : ListStep b.list (b.on e).1.list := by
  cases e with
  | mount => exact .does (.act .mount rfl)
  | key k => exact .does (b.press_does k)
  | mouse m => exact .does (b.point_does m)
  | report r => exact b.learn_step r
  | quiet =>
    change ListStep b.list b.fire.1.list
    unfold fire
    split
    · exact learn_step { b with timer := {} } .quietElapsed
    · exact .does .nothing
  | draw screen => exact .draw (Layout.ofScreen screen).list

theorem ListStep.reachable {l m : JobList} (hs : ListStep l m) (h : JobList.Reachable settings filter l) :
    JobList.Reachable settings filter m := by
  cases hs with
  | does hd => exact hd.reachable h
  | learn g a => exact .learn g a h
  | draw panel => exact .act .afterDraw (.act (.layOut panel) h)

theorem Reachable.list (h : Reachable settings filter b) : JobList.Reachable settings filter b.list := by
  induction h with
  | start => exact .start
  | after now e _ ih =>
    rw [after_list]
    exact (on_step _ e).reachable ih

end JobBoard.Board
