import JobBoard.Proofs.DrawnText
import JobBoard.Proofs.HitTest
import JobBoard.View.Picture

/-!
How far an open record can be read. Scrolling passes over lines as they are on the screen, after they are broken, but it
goes only as far as there are lines before that.
-/

namespace JobBoard

namespace RecordPane

/-- What an operator does to read on: scrolling, by as many lines as a word of 16 bits tells, and looking. -/
inductive Move where
  | scroll (d : Int16)
  | look

def move (p : RecordPane) : Move → RecordPane
  | .scroll d => p.scrollBy d.toInt
  | .look => p.clamp

def moved (p : RecordPane) (ms : List Move) : RecordPane := ms.foldl move p

def scrolledTo (p : RecordPane) (n : Nat) : RecordPane := { p with scroll := n }

variable {p : RecordPane}

theorem scrolledTo_self (p : RecordPane) : p.scrolledTo p.scroll = p := rfl

theorem isOpen_scrolledTo (p : RecordPane) (n : Nat) : (p.scrolledTo n).isOpen = p.isOpen := rfl

theorem isOpen_iff : p.isOpen = true ↔ ∃ id, p.requested = some id := Option.isSome_iff_exists

/-! Every offset can be had before the pane is drawn, and none beyond the last line stays when it is. -/

theorem move_eq (p : RecordPane) (m : Move) : ∃ n, p.move m = p.scrolledTo n := by
  cases m with
  | scroll d => exact ⟨_, rfl⟩
  | look =>
    change ∃ n, p.clamp = _
    unfold clamp
    split
    · exact ⟨_, rfl⟩
    · exact ⟨p.scroll, rfl⟩

theorem moved_eq (p : RecordPane) (ms : List Move) : ∃ n, p.moved ms = p.scrolledTo n := by
  induction ms generalizing p with
  | nil => exact ⟨p.scroll, rfl⟩
  | cons m ms ih =>
    obtain ⟨n, hn⟩ := p.move_eq m
    obtain ⟨k, hk⟩ := ih (p.move m)
    refine ⟨k, hk.trans ?_⟩
    rw [hn]
    rfl

theorem moved_append (p : RecordPane) (ms ns : List Move) : p.moved (ms ++ ns) = (p.moved ms).moved ns :=
  List.foldl_append

theorem moved_up (p : RecordPane) {n : Nat} (h : p.scroll ≤ n) :
    p.moved (List.replicate n (.scroll (-1))) = p.scrolledTo 0 := by
  induction n generalizing p with
  | zero =>
    rw [← Nat.le_zero.1 h, scrolledTo_self, Nat.le_zero.1 h]
    rfl
  | succ n ih =>
    have hup : (p.scrollBy (-1)).scroll ≤ n := by
      change min ((p.scroll : Int) + -1).toNat maxScroll ≤ n
      omega
    exact ih (p.scrollBy (-1)) hup

theorem moved_down (p : RecordPane) {n : Nat} (h : p.scroll + n ≤ maxScroll) :
    p.moved (List.replicate n (.scroll 1)) = p.scrolledTo (p.scroll + n) := by
  induction n generalizing p with
  | zero => rfl
  | succ n ih =>
    have hdown : p.scrollBy 1 = p.scrolledTo (p.scroll + 1) := by
      have : min ((p.scroll : Int) + 1).toNat maxScroll = p.scroll + 1 := by omega
      rw [scrollBy, this]
      rfl
    have hscroll : (p.scrollBy 1).scroll = p.scroll + 1 := by rw [hdown, scrolledTo]
    refine (ih (p.scrollBy 1) (by omega)).trans ?_
    rw [hscroll, hdown, Nat.add_assoc, Nat.add_comm 1 n]
    rfl

theorem exists_moved (p : RecordPane) {n : Nat} (h : n ≤ maxScroll) : ∃ ms, p.moved ms = p.scrolledTo n := by
  refine ⟨List.replicate p.scroll (.scroll (-1)) ++ List.replicate n (.scroll 1), ?_⟩
  rw [moved_append, moved_up p (Nat.le_refl _), moved_down _ (by rwa [scrolledTo, Nat.zero_add])]
  exact congrArg p.scrolledTo (Nat.zero_add n)

/-- The greatest offset that an open record keeps when it is drawn. -/
def lastScroll (p : RecordPane) : Nat := min (p.lineCount - 1) maxScroll

theorem clamp_scrolledTo (h : p.isOpen = true) (n : Nat) :
    (p.scrolledTo n).clamp = p.scrolledTo (min n p.lastScroll) := by
  rw [clamp, isOpen_scrolledTo, if_pos h]
  rfl

theorem clamp_moved_iff (h : p.isOpen = true) {q : RecordPane} :
    (∃ ms, (p.moved ms).clamp = q) ↔ ∃ n ≤ p.lastScroll, q = p.scrolledTo n := by
  constructor
  · rintro ⟨ms, rfl⟩
    obtain ⟨n, hn⟩ := p.moved_eq ms
    exact ⟨min n p.lastScroll, Nat.min_le_right _ _, by rw [hn, clamp_scrolledTo h]⟩
  · rintro ⟨n, hn, rfl⟩
    obtain ⟨ms, hms⟩ := p.exists_moved (Nat.le_trans hn (Nat.min_le_right _ _))
    exact ⟨ms, by rw [hms, clamp_scrolledTo h, Nat.min_eq_left hn]⟩

section Drawn

variable (breaking : Breaking) (theme : Theme) (now : Instant) (throbber : Nat)

def brokenLines (p : RecordPane) (width : Nat) : List (List Glyph) :=
  p.requested.elim [] fun id => Paragraph.broken breaking width (p.lines theme now throbber id)

/-- Whether drawing the record in an area puts the broken line `k` on the screen, inside the border. -/
def Shows (p : RecordPane) (a : Area) (s : Screen) (k : Nat) : Prop :=
  ∃ dy < a.inside.height, p.scroll + dy = k ∧
    ∃ gs, (p.brokenLines breaking theme now throbber a.inside.width)[k]? = some gs ∧
      (p.drawBy breaking theme now throbber a s).Holds a.inside.left (a.inside.top + dy) a.inside.right gs

variable {breaking theme now throbber} {a : Area} {s : Screen} {k : Nat}

theorem length_lines (p : RecordPane) (id : Int) : (p.lines theme now throbber id).length = p.lineCount := by
  unfold lines lineCount
  cases p.record with
  | some d => exact d.length_lines theme now
  | none => cases p.error <;> rfl

theorem shows_iff (h : p.isOpen = true) (hx : a.right ≤ s.width) (hy : a.bottom ≤ s.height) :
    p.Shows breaking theme now throbber a s k ↔ p.scroll ≤ k ∧ k < p.scroll + a.inside.height ∧
      k < (p.brokenLines breaking theme now throbber a.inside.width).length := by
  constructor
  · rintro ⟨dy, hdy, rfl, gs, hgs, -⟩
    obtain ⟨hlength, -⟩ := List.getElem?_eq_some_iff.1 hgs
    exact ⟨Nat.le_add_right _ _, Nat.add_lt_add_left hdy _, hlength⟩
  · rintro ⟨hle, hlt, hlength⟩
    obtain ⟨id, hid⟩ := isOpen_iff.1 h
    refine ⟨k - p.scroll, by omega, by omega, _, List.getElem?_eq_getElem hlength, ?_⟩
    have hinner : a.inside.right ≤ a.right ∧ a.inside.bottom ≤ a.bottom := by
      simp only [Area.inside, Area.right, Area.bottom]
      omega
    have hsize := s.panel_sameSize a theme s!"Job #{id}" true
    have hseen : (Paragraph.visible breaking a.inside p.scroll (p.lines theme now throbber id))[k - p.scroll]? =
        some (p.brokenLines breaking theme now throbber a.inside.width)[k] := by
      rw [Paragraph.visible, List.getElem?_take_of_lt (by omega), List.getElem?_drop, Nat.add_sub_cancel' hle,
        ← List.getElem?_eq_getElem hlength, brokenLines, hid]
      rfl
    rw [drawBy, hid]
    exact Screen.drawBroken_holds breaking (by rw [hsize.1]; omega) (by rw [hsize.2]; omega) _ _ hseen

theorem shows_moved_iff (h : p.isOpen = true) (hh : 0 < a.inside.height) (hx : a.right ≤ s.width)
    (hy : a.bottom ≤ s.height) (hk : k < (p.brokenLines breaking theme now throbber a.inside.width).length) :
    (∃ ms, (p.moved ms).clamp.Shows breaking theme now throbber a s k) ↔ k < p.lastScroll + a.inside.height := by
  have hat (n : Nat) : (p.scrolledTo n).Shows breaking theme now throbber a s k ↔ n ≤ k ∧ k < n + a.inside.height ∧
      k < (p.brokenLines breaking theme now throbber a.inside.width).length :=
    shows_iff (p := p.scrolledTo n) h hx hy
  constructor
  · rintro ⟨ms, hshows⟩
    obtain ⟨n, hn, hq⟩ := (clamp_moved_iff h).1 ⟨ms, rfl⟩
    rw [hq, hat] at hshows
    omega
  · intro hlt
    obtain ⟨ms, hms⟩ := (clamp_moved_iff h).2 ⟨min k p.lastScroll, Nat.min_le_right _ _, rfl⟩
    refine ⟨ms, ?_⟩
    rw [hms, hat]
    exact ⟨Nat.min_le_left _ _, by omega, hk⟩

/-- However lines are broken: of the lines that an open record has then, those can be read, by scrolling and looking,
that come before the greatest offset and one area more; and this offset counts the lines before they are broken. So all
can be read where no line is broken and a word of 16 bits tells their number. -/
theorem lines_readable_iff {id : Int} (h : p.requested = some id) (hh : 0 < a.inside.height) (hx : a.right ≤ s.width)
    (hy : a.bottom ≤ s.height) :
    let whole := p.lines theme now throbber id
    let lines := Paragraph.broken breaking a.inside.width whole
    let reach := min (whole.length - 1) maxScroll + a.inside.height
    (∀ k < lines.length, (∃ ms, (p.moved ms).clamp.Shows breaking theme now throbber a s k) ↔ k < reach) ∧
    ((∀ k < lines.length, ∃ ms, (p.moved ms).clamp.Shows breaking theme now throbber a s k) ↔ lines.length ≤ reach) ∧
    ((∀ l ∈ whole, (breaking a.inside.width l).length = 1) → whole.length ≤ maxScroll + 1 →
      ∀ k < lines.length, ∃ ms, (p.moved ms).clamp.Shows breaking theme now throbber a s k) := by
  intro whole lines reach
  have hline (k : Nat) (hk : k < lines.length) :
      (∃ ms, (p.moved ms).clamp.Shows breaking theme now throbber a s k) ↔ k < reach := by
    have hwidth : p.brokenLines breaking theme now throbber a.inside.width = lines := by rw [brokenLines, h]; rfl
    have hlast : reach = p.lastScroll + a.inside.height := by rw [lastScroll, ← length_lines p id]
    rw [hlast]
    exact shows_moved_iff (isOpen_iff.2 ⟨id, h⟩) hh hx hy (by rwa [hwidth])
  have hall : (∀ k < lines.length, ∃ ms, (p.moved ms).clamp.Shows breaking theme now throbber a s k) ↔
      lines.length ≤ reach := by
    constructor
    · intro hall
      by_contra hlong
      have hreach : reach < lines.length := Nat.not_le.1 hlong
      exact Nat.lt_irrefl reach ((hline reach hreach).1 (hall reach hreach))
    · intro hlength k hk
      exact (hline k hk).2 (Nat.lt_of_lt_of_le hk hlength)
  refine ⟨hline, hall, ?_⟩
  intro hone hcount
  have hlength : (whole.flatMap (breaking a.inside.width)).length = whole.length := by
    rw [List.length_flatMap, List.map_congr_left hone, List.map_const', List.sum_replicate_nat, Nat.mul_one]
  change lines.length = whole.length at hlength
  exact hall.2 (by omega)

end Drawn

/-- The record of a job of which little is known. -/
def brief : RecordPane := { requested := some 1, record := some { job := { id := 1 } } }

/-- Where a record is shown on a screen of 40 columns and 16 lines. -/
def briefArea : Area := (Layout.ofScreen { width := 40, height := 16 }).record

theorem lines_readable_of_brief :
    let breaking := Paragraph.byWords false
    let whole := brief.lines Theme.nord ⟨0, 0⟩ 0 1
    whole.length = 14 ∧ (Paragraph.broken breaking briefArea.inside.width whole).length = 14 ∧
      briefArea.inside.height = 10 ∧
      ∀ k < 14, ∃ ms, (brief.moved ms).clamp.Shows breaking Theme.nord ⟨0, 0⟩ 0 briefArea (Screen.blank 40 16) k := by
  intro breaking whole
  have hlength : (Paragraph.broken breaking briefArea.inside.width whole).length = 14 := by decide +kernel
  have hone : whole.all (fun l => (breaking briefArea.inside.width l).length == 1) = true := by decide +kernel
  have hall := (@lines_readable_iff brief breaking Theme.nord ⟨0, 0⟩ 0 briefArea (Screen.blank 40 16) 1 rfl (by decide)
    (by decide) (by decide)).2.2 (fun l hl => beq_iff_eq.1 (List.all_eq_true.1 hone l hl)) (by decide)
  rw [hlength] at hall
  exact ⟨by decide, hlength, rfl, hall⟩

end RecordPane

namespace Board

def refusal : String :=
  "API error 404: upstream connect error or disconnect/reset before headers. reset reason: connection timeout"

/-- A board whose only job has been opened in vain. -/
def refused : Board :=
  (((loaded [{ id := 1 }]).after 0 (.key { code := .down })).after 0 (.key { code := .enter })).after 0
    (.report (.recordFailed 1 refusal))

theorem refused_reachable : Reachable {} {} refused := .after _ _ (.after _ _ (.after _ _ (loaded_reachable _)))

/-- Where a record is shown on a screen of 20 columns and 10 lines. -/
def refusedArea : Area := (Layout.ofScreen { width := 20, height := 10 }).record

theorem refused_record : refused.record = { requested := some 1, error := some refusal } := by
  have hrequested : refused.record.requested = some 1 := by decide +kernel
  have herror : refused.record.error = some refusal := by decide +kernel
  have hrecord : refused.record.record = none := Option.isNone_iff_eq_none.1 (by decide +kernel)
  have hscroll : refused.record.scroll = 0 := by decide +kernel
  cases h : refused.record
  rw [h] at hrequested herror hrecord hscroll
  rw [RecordPane.mk.injEq]
  exact ⟨hrequested, hrecord, herror, hscroll⟩

/-- The refusal is one line, which a narrow screen breaks into twelve; the second half of them never comes on screen. -/
theorem refused_unreadable :
    Reachable {} {} refused ∧ refusedArea.inside.height = 6 ∧
      (refused.record.brokenLines (Paragraph.byWords false) Theme.nord ⟨0, 0⟩ 0 refusedArea.inside.width).length = 12 ∧
      ∀ k, 6 ≤ k → k < 12 → ∀ ms,
        ¬(refused.record.moved ms).clamp.Shows (Paragraph.byWords false) Theme.nord ⟨0, 0⟩ 0 refusedArea
          (Screen.blank 20 10) k := by
  have hlength : (refused.record.brokenLines (Paragraph.byWords false) Theme.nord ⟨0, 0⟩ 0
      refusedArea.inside.width).length = 12 := by
    rw [refused_record]
    decide +kernel
  refine ⟨refused_reachable, by decide, hlength, ?_⟩
  intro k hk hlt ms hshows
  have hopen : refused.record.isOpen = true := by
    rw [refused_record]
    rfl
  have hreach := (RecordPane.shows_moved_iff hopen (by decide) (by decide) (by decide) (by rwa [hlength])).1
    ⟨ms, hshows⟩
  have hlast : refused.record.lastScroll + refusedArea.inside.height = 6 := by
    rw [refused_record]
    decide
  omega

end Board

end JobBoard
