import JobBoard.Screen.Frame
import JobBoard.Screen.Paragraph
import Mathlib.Tactic.Common

/-!
What drawing leaves on a screen: its size stays, a symbol stands where it has been put, and lines of glyphs stand below
each other.
-/

namespace JobBoard

namespace Glyph

theorem foldl_total (gs : List Glyph) (n : Nat) : gs.foldl (fun n g => n + g.columns) n = n + total gs := by
  induction gs generalizing n with
  | nil => rfl
  | cons g gs ih =>
    have htotal : total (g :: gs) = g.columns + total gs := by rw [total, List.foldl_cons, ih, Nat.zero_add]
    rw [List.foldl_cons, ih, htotal, Nat.add_assoc]

@[simp] theorem total_nil : total [] = 0 := rfl

@[simp] theorem total_cons (g : Glyph) (gs : List Glyph) : total (g :: gs) = g.columns + total gs := by
  rw [total, List.foldl_cons, foldl_total, Nat.zero_add]

end Glyph

namespace Screen

def SameSize (s t : Screen) : Prop := t.width = s.width ∧ t.height = s.height

theorem SameSize.refl (s : Screen) : s.SameSize s := ⟨rfl, rfl⟩

theorem SameSize.trans {s t u : Screen} (h : s.SameSize t) (h' : t.SameSize u) : s.SameSize u :=
  ⟨h'.1.trans h.1, h'.2.trans h.2⟩

theorem SameSize.foldl {α : Type} {f : Screen → α → Screen} (h : ∀ (s : Screen) (a : α), s.SameSize (f s a))
    (s : Screen) (l : List α) : s.SameSize (l.foldl f s) := by
  induction l generalizing s with
  | nil => exact .refl s
  | cons a l ih => exact (h s a).trans (ih (f s a))

theorem change_sameSize (s : Screen) (x y : Nat) (f : Cell → Cell) : s.SameSize (s.change x y f) := by
  unfold change
  split
  · exact ⟨rfl, rfl⟩
  · exact .refl s

theorem put_sameSize (s : Screen) (x y : Nat) (symbol : String) (style : Style) : s.SameSize (s.put x y symbol style) :=
  s.change_sameSize x y _

theorem changeAll_sameSize (s : Screen) (a : Area) (f : Cell → Cell) : s.SameSize (s.changeAll a f) :=
  .foldl (fun s dy => .foldl (fun s dx => s.change_sameSize (a.left + dx) (a.top + dy) f) s _) s _

theorem putRow_sameSize (s : Screen) (left right y : Nat) (symbol : String) (style : Style) :
    s.SameSize (s.putRow left right y symbol style) :=
  .foldl (fun s x => s.put_sameSize x y symbol style) s _

theorem putColumn_sameSize (s : Screen) (x top bottom : Nat) (symbol : String) (style : Style) :
    s.SameSize (s.putColumn x top bottom symbol style) :=
  .foldl (fun s y => s.put_sameSize x y symbol style) s _

theorem border_sameSize (s : Screen) (a : Area) (style : Style) : s.SameSize (s.border a style) := by
  unfold border
  split
  · exact .refl s
  · exact ((((((((s.putColumn_sameSize _ _ _ _ _).trans (putRow_sameSize _ _ _ _ _ _)).trans
      (putColumn_sameSize _ _ _ _ _ _)).trans (putRow_sameSize _ _ _ _ _ _)).trans (put_sameSize _ _ _ _ _)).trans
      (put_sameSize _ _ _ _ _)).trans (put_sameSize _ _ _ _ _)).trans (put_sameSize _ _ _ _ _))

theorem writeGlyphs_sameSize (s : Screen) (y start right x : Nat) (gs : List Glyph) :
    s.SameSize (s.writeGlyphs y start right x gs) := by
  induction gs generalizing s x with
  | nil => exact .refl s
  | cons g gs ih =>
    rw [writeGlyphs]
    dsimp only
    split
    · exact .refl s
    · refine SameSize.trans ?_ ((changeAll_sameSize _ _ _).trans (ih _ _))
      split
      · exact s.change_sameSize _ _ _
      · split
        · exact s.change_sameSize _ _ _
        · exact s.put_sameSize _ _ _ _

theorem writeSpan_sameSize (s : Screen) (x y right : Nat) (p : Span) : s.SameSize (s.writeSpan x y right p) := by
  unfold writeSpan
  split
  · exact .refl s
  · dsimp only
    split
    · exact .refl s
    · exact ((s.put_sameSize _ _ _ _).trans (changeAll_sameSize _ _ _)).trans (writeGlyphs_sameSize _ _ _ _ _ _)

theorem writeLine_sameSize (s : Screen) (x y right : Nat) (l : Line) : s.SameSize (s.writeLine x y right l) := by
  induction l generalizing s x with
  | nil => exact .refl s
  | cons p l ih =>
    rw [writeLine]
    split
    · exact ih s x
    · split
      · exact .refl s
      · exact (s.writeSpan_sameSize x y right p).trans (ih _ _)

theorem panel_sameSize (s : Screen) (a : Area) (theme : Theme) (title : String) (focused : Bool) :
    s.SameSize (s.panel a theme title focused) := by
  have hframe := (s.changeAll_sameSize a (Cell.withStyle theme.panelStyle)).trans
    (border_sameSize _ a (theme.borderStyle focused))
  unfold panel
  dsimp only
  split
  · exact hframe
  · exact hframe.trans (writeLine_sameSize _ _ _ _ _)

theorem drawGlyphs_sameSize (s : Screen) (y x : Nat) (gs : List Glyph) : s.SameSize (s.drawGlyphs y x gs) := by
  induction gs generalizing s x with
  | nil => exact .refl s
  | cons g gs ih =>
    rw [drawGlyphs]
    refine SameSize.trans ?_ (ih _ _)
    split
    · exact .refl s
    · exact s.put_sameSize _ _ _ _

variable {s : Screen} {x y : Nat}

theorem cell_change (hx : x < s.width) (hy : y < s.height) (f : Cell → Cell) :
    (s.change x y f).cell x y = f (s.cell x y) := by
  have hin : y * s.width + x < s.cells.size := by
    rw [s.size_cells]
    calc y * s.width + x < y * s.width + s.width := Nat.add_lt_add_left hx _
      _ = (y + 1) * s.width := (Nat.succ_mul _ _).symm
      _ ≤ s.height * s.width := Nat.mul_le_mul_right _ hy
      _ = s.width * s.height := Nat.mul_comm _ _
  rw [change, if_pos hx, cell, cell, if_pos hx, if_pos hx, Array.getElem?_modify, if_pos rfl,
    Array.getElem?_eq_getElem hin]
  rfl

theorem cell_change_of_ne {x' y' : Nat} (h : x' ≠ x ∨ y' ≠ y) (f : Cell → Cell) :
    (s.change x y f).cell x' y' = s.cell x' y' := by
  unfold change
  split
  case isFalse => rfl
  case isTrue hx =>
    rw [cell, cell]
    split
    case isFalse => rfl
    case isTrue hx' =>
      have hne : y * s.width + x ≠ y' * s.width + x' := by
        intro he
        have hmod := congrArg (· % s.width) he
        have hdiv := congrArg (· / s.width) he
        have hpos : 0 < s.width := Nat.zero_lt_of_lt hx
        simp only [Nat.mul_add_mod_self_right, Nat.mod_eq_of_lt hx, Nat.mod_eq_of_lt hx'] at hmod
        simp only [Nat.mul_comm _ s.width, Nat.mul_add_div hpos, Nat.div_eq_of_lt hx, Nat.div_eq_of_lt hx'] at hdiv
        omega
      rw [Array.getElem?_modify, if_neg hne]

theorem cell_put (hx : x < s.width) (hy : y < s.height) (symbol : String) (style : Style) :
    ((s.put x y symbol style).cell x y).symbol = symbol := by
  rw [put, cell_change hx hy]
  rfl

theorem cell_drawGlyphs_of_ne {x' y' : Nat} (h : x' < x ∨ y' ≠ y) (gs : List Glyph) :
    (s.drawGlyphs y x gs).cell x' y' = s.cell x' y' := by
  induction gs generalizing s x with
  | nil => rfl
  | cons g gs ih =>
    rw [drawGlyphs, ih (by omega)]
    split
    · rfl
    · exact cell_change_of_ne (by omega) _

/-- Whether glyphs stand in line `y` from column `x` on, as far as they start before column `right`. -/
def Holds (s : Screen) (x y right : Nat) (gs : List Glyph) : Prop :=
  ∀ before g after, gs = before ++ g :: after → 0 < g.columns → x + Glyph.total before < right →
    (s.cell (x + Glyph.total before) y).symbol = String.ofList g.symbol

theorem Holds.of_cell {t : Screen} {right : Nat} {gs : List Glyph} (h : s.Holds x y right gs)
    (hcell : ∀ x', t.cell x' y = s.cell x' y) : t.Holds x y right gs := by
  intro before g after hgs hg hr
  rw [hcell]
  exact h before g after hgs hg hr

theorem drawGlyphs_holds {right : Nat} (hr : right ≤ s.width) (hy : y < s.height) (gs : List Glyph) :
    (s.drawGlyphs y x gs).Holds x y right gs := by
  induction gs generalizing s x with
  | nil =>
    intro before g after hgs
    exact absurd hgs (by simp)
  | cons d gs ih =>
    intro before g after hgs hg hin
    rw [drawGlyphs]
    cases before with
    | nil =>
      obtain ⟨rfl, -⟩ := List.cons.inj hgs
      rw [Glyph.total_nil, Nat.add_zero] at hin ⊢
      rw [cell_drawGlyphs_of_ne (by omega), if_neg (by omega)]
      exact cell_put (by omega) hy _ _
    | cons b before =>
      obtain ⟨rfl, hrest⟩ := List.cons.inj hgs
      rw [Glyph.total_cons, ← Nat.add_assoc] at hin ⊢
      have hsize : s.SameSize (if d.columns = 0 then s else s.put x y (String.ofList d.symbol) d.style) := by
        split
        · exact .refl s
        · exact s.put_sameSize _ _ _ _
      exact ih (by rwa [hsize.1]) (by rwa [hsize.2]) before g after hrest hg hin

theorem foldl_drawGlyphs_holds (left : List Glyph → Nat) {right : Nat} (hr : right ≤ s.width)
    (ls : List (List Glyph)) (n : Nat) (hy : y + n + ls.length ≤ s.height) :
    (∀ x' y', y' < y + n →
      ((ls.zipIdx n).foldl (fun s (gs, dy) => s.drawGlyphs (y + dy) (left gs) gs) s).cell x' y' = s.cell x' y') ∧
    ∀ i gs, ls[i]? = some gs →
      ((ls.zipIdx n).foldl (fun s (gs, dy) => s.drawGlyphs (y + dy) (left gs) gs) s).Holds (left gs) (y + n + i)
        right gs := by
  induction ls generalizing s n with
  | nil => exact ⟨fun _ _ _ => rfl, fun i gs h => by simp at h⟩
  | cons l ls ih =>
    have hsize := s.drawGlyphs_sameSize (y + n) (left l) l
    rw [List.length_cons] at hy
    obtain ⟨habove, hlines⟩ := ih (s := s.drawGlyphs (y + n) (left l) l) (by rwa [hsize.1]) (n + 1)
      (by rw [hsize.2]; omega)
    rw [List.zipIdx_cons, List.foldl_cons]
    refine ⟨?_, ?_⟩
    · intro x' y' hy'
      rw [habove x' y' (by omega), cell_drawGlyphs_of_ne (.inr (by omega))]
    · intro i gs hi
      cases i with
      | zero =>
        obtain rfl := Option.some.inj hi
        exact (drawGlyphs_holds hr (by omega) l).of_cell fun x' => habove x' (y + n) (by omega)
      | succ i =>
        have := hlines i gs hi
        rwa [show y + (n + 1) + i = y + n + (i + 1) by omega] at this

theorem drawBroken_holds (breaking : Breaking) {a : Area} (hx : a.right ≤ s.width) (hy : a.bottom ≤ s.height)
    (scroll : Nat) (ls : List Line) {dy : Nat} {gs : List Glyph}
    (h : (Paragraph.visible breaking a scroll ls)[dy]? = some gs) :
    (s.drawBroken breaking a scroll ls).Holds a.left (a.top + dy) a.right gs := by
  have htake : (Paragraph.visible breaking a scroll ls).take a.height = Paragraph.visible breaking a scroll ls := by
    rw [Paragraph.visible, List.take_take, Nat.min_self]
  have hlength : (Paragraph.visible breaking a scroll ls).length ≤ a.height := by
    rw [Paragraph.visible]
    exact List.length_take_le _ _
  rw [Area.bottom] at hy
  have hroom : a.top + 0 + (Paragraph.visible breaking a scroll ls).length ≤ s.height := by omega
  have hlines :=
    (foldl_drawGlyphs_holds (fun _ => a.left + 0) hx (Paragraph.visible breaking a scroll ls) 0 hroom).2 dy gs h
  rw [drawBroken, drawLines, htake]
  exact hlines

end Screen

end JobBoard
