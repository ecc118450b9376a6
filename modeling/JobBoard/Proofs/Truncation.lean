import JobBoard.Text.Fit
import Mathlib.Algebra.GroupWithZero.Nat
import Mathlib.Data.List.Infix

/-!
What a cut text keeps. A text is cut when it is too wide as a whole, but what is kept is counted character by character,
and the two counts differ where characters join; they agree on the texts whose characters stand alone.
-/

namespace JobBoard.Text

namespace Measure

/-- What is relied on of a count: an empty text has no columns, and an ellipsis takes one behind every text. -/
structure Lawful (m : Measure) : Prop where
  empty : m.text [] = 0
  ellipsis : ∀ cs, m.text (cs ++ [Text.ellipsis]) = m.text cs + 1

variable (m : Measure)

/-- The columns of a text if each of its characters is counted alone. -/
def alone (cs : List Char) : Nat := (cs.map m.char).sum

@[simp] theorem alone_nil : m.alone [] = 0 := rfl

@[simp] theorem alone_cons (c : Char) (cs : List Char) : m.alone (c :: cs) = m.char c + m.alone cs := by
  simp [alone]

theorem alone_append (cs ds : List Char) : m.alone (cs ++ ds) = m.alone cs + m.alone ds := by
  simp [alone]

theorem alone_le_of_start {q cs : List Char} (h : q <+: cs) : m.alone q ≤ m.alone cs := by
  obtain ⟨rest, rfl⟩ := h
  rw [alone_append]
  exact Nat.le_add_right _ _

theorem takeColumns_start (budget : Nat) (cs : List Char) : m.takeColumns budget cs <+: cs := by
  induction cs generalizing budget with
  | nil => exact List.prefix_rfl
  | cons c cs ih =>
    rw [takeColumns]
    split
    · exact (List.prefix_cons_inj c).2 (ih _)
    · exact List.nil_prefix

theorem alone_takeColumns_le (budget : Nat) (cs : List Char) : m.alone (m.takeColumns budget cs) ≤ budget := by
  induction cs generalizing budget with
  | nil => exact Nat.zero_le _
  | cons c cs ih =>
    rw [takeColumns]
    split
    · have := ih (budget - m.char c)
      rw [alone_cons]
      omega
    · exact Nat.zero_le _

theorem prefix_takeColumns_iff {q cs : List Char} (h : q <+: cs) (budget : Nat) :
    q <+: m.takeColumns budget cs ↔ m.alone q ≤ budget := by
  constructor
  · intro hq
    exact Nat.le_trans (m.alone_le_of_start hq) (m.alone_takeColumns_le budget cs)
  · intro hq
    induction cs generalizing q budget with
    | nil => exact h
    | cons c cs ih =>
      cases q with
      | nil => exact List.nil_prefix
      | cons d q =>
        obtain ⟨rfl, hrest⟩ := List.cons_prefix_cons.1 h
        rw [alone_cons] at hq
        rw [takeColumns, if_pos (by omega)]
        exact List.cons_prefix_cons.2 ⟨rfl, ih hrest _ (by omega)⟩

theorem takeColumns_eq_self_iff (budget : Nat) (cs : List Char) :
    m.takeColumns budget cs = cs ↔ m.alone cs ≤ budget := by
  rw [← m.prefix_takeColumns_iff List.prefix_rfl]
  constructor
  · intro h
    rw [h]
  · intro h
    exact (m.takeColumns_start budget cs).eq_of_length_le h.length_le

/-- The text itself if it fits, and otherwise its longest proper start that fits with the ellipsis. -/
structure Fits (limit : Nat) (cs out : List Char) : Prop where
  within : m.text out ≤ limit
  whole : out = cs ↔ m.text cs ≤ limit
  longest : 0 < limit → limit < m.text cs → ∃ p, out = p ++ [ellipsis] ∧ p <+: cs ∧ p ≠ cs ∧
    ∀ q, q <+: cs → q ≠ cs → m.text (q ++ [ellipsis]) ≤ limit → q <+: p

/-- The text does not fit into a number of columns with its characters counted alone either, the longest start that
does so fits as a whole, and so does no longer proper start. -/
structure CutAlike (budget : Nat) (cs : List Char) : Prop where
  text : budget < m.alone cs
  taken : m.text (m.takeColumns budget cs) ≤ budget
  longer : ∀ q, q <+: cs → q ≠ cs → m.text q ≤ budget → m.alone q ≤ budget

variable {m} {cs : List Char} {limit : Nat}

theorem fit_of_le (h : m.text cs ≤ limit) : m.fit limit cs = cs := by
  rw [fit, if_pos h]

theorem fit_of_lt {budget : Nat} (h : budget + 1 < m.text cs) :
    m.fit (budget + 1) cs = m.takeColumns budget cs ++ [ellipsis] := by
  rw [fit, if_neg (Nat.not_le.2 h), if_neg (Nat.succ_ne_zero budget), Nat.add_sub_cancel]

theorem fits_of_le (h : m.text cs ≤ limit) : m.Fits limit cs (m.fit limit cs) := by
  rw [fit_of_le h]
  exact ⟨h, iff_of_true rfl h, fun _ hcut => absurd h (Nat.not_le.2 hcut)⟩

theorem Lawful.fits_zero (hm : m.Lawful) (h : 0 < m.text cs) : m.Fits 0 cs (m.fit 0 cs) := by
  have hfit : m.fit 0 cs = [] := by rw [fit, if_neg (Nat.not_le.2 h), if_pos rfl]
  have hne : [] ≠ cs := by
    rintro rfl
    rw [hm.empty] at h
    exact Nat.lt_irrefl 0 h
  rw [hfit]
  exact ⟨Nat.le_of_eq hm.empty, iff_of_false hne (Nat.not_le.2 h), fun h₀ => absurd h₀ (Nat.lt_irrefl 0)⟩

theorem Lawful.fits_succ_iff (hm : m.Lawful) {budget : Nat} (h : budget + 1 < m.text cs) :
    m.Fits (budget + 1) cs (m.fit (budget + 1) cs) ↔ m.CutAlike budget cs := by
  rw [fit_of_lt h]
  constructor
  · intro hfits
    obtain ⟨p, hp, hstart, hproper, hlongest⟩ := hfits.longest (Nat.succ_pos budget) h
    obtain rfl := List.append_cancel_right hp
    refine ⟨?_, ?_, ?_⟩
    · rw [← Nat.not_le, ← m.takeColumns_eq_self_iff]
      exact hproper
    · have := hfits.within
      rw [hm.ellipsis] at this
      exact Nat.le_of_succ_le_succ this
    · intro q hq hne hwidth
      rw [← m.prefix_takeColumns_iff hq]
      refine hlongest q hq hne ?_
      rw [hm.ellipsis]
      exact Nat.succ_le_succ hwidth
  · intro hcut
    have hwithin : m.text (m.takeColumns budget cs ++ [Text.ellipsis]) ≤ budget + 1 := by
      rw [hm.ellipsis]
      exact Nat.succ_le_succ hcut.taken
    refine ⟨hwithin, iff_of_false ?_ (Nat.not_le.2 h), fun _ _ => ⟨_, rfl, m.takeColumns_start _ _, ?_, ?_⟩⟩
    · intro hsame
      rw [hsame] at hwithin
      exact Nat.not_le.2 h hwithin
    · rw [Ne, m.takeColumns_eq_self_iff, Nat.not_le]
      exact hcut.text
    · intro q hq hne hwidth
      rw [hm.ellipsis] at hwidth
      exact (m.prefix_takeColumns_iff hq budget).2 (hcut.longer q hq hne (Nat.le_of_succ_le_succ hwidth))

theorem cutAlike_of_alone {budget : Nat} (h : ∀ q, q <+: cs → m.text q = m.alone q) (hcut : budget < m.text cs) :
    m.CutAlike budget cs where
  text := by rwa [← h cs List.prefix_rfl]
  taken := by
    rw [h _ (m.takeColumns_start budget cs)]
    exact m.alone_takeColumns_le budget cs
  longer q hq _ hwidth := by rwa [← h q hq]

/-- However columns are counted: a text becomes itself, if it fits, or else its longest proper start that fits with an
ellipsis, exactly if the two ways to count its columns cut it alike; and they cut it alike at every limit if they agree
on its starts. -/
theorem truncated_fits (hm : m.Lawful) (s : String) :
    (∀ limit, m.Fits limit s.toList (m.truncated limit s).toList ↔
      (0 < limit → limit < m.text s.toList → m.CutAlike (limit - 1) s.toList)) ∧
    ((∀ q, q <+: s.toList → m.text q = m.alone q) →
      ∀ limit, m.Fits limit s.toList (m.truncated limit s).toList) := by
  have hcut (limit : Nat) : m.Fits limit s.toList (m.truncated limit s).toList ↔
      (0 < limit → limit < m.text s.toList → m.CutAlike (limit - 1) s.toList) := by
    rw [truncated, String.toList_ofList]
    by_cases hwhole : m.text s.toList ≤ limit
    · exact iff_of_true (fits_of_le hwhole) fun _ hlt => absurd hlt (Nat.not_lt.2 hwhole)
    · have hlt : limit < m.text s.toList := Nat.not_le.1 hwhole
      cases limit with
      | zero => exact iff_of_true (hm.fits_zero hlt) fun h₀ => absurd h₀ (Nat.lt_irrefl 0)
      | succ budget =>
        rw [hm.fits_succ_iff hlt, Nat.add_sub_cancel]
        exact ⟨fun h _ _ => h, fun h => h (Nat.succ_pos budget) hlt⟩
  refine ⟨hcut, fun halone limit => (hcut limit).2 fun hpos hlt => cutAlike_of_alone halone ?_⟩
  exact Nat.lt_of_le_of_lt (Nat.sub_le limit 1) hlt

end Measure

namespace Behind

/-- What is taken back at most if the character before joins. -/
def owed : Behind → Int
  | coengLetter | tifinaghJoiner | joinedFlag | oddFlags => 1
  | _ => 0

theorem owed_bounds (b : Behind) : 0 ≤ b.owed ∧ b.owed ≤ 1 := by
  unfold owed
  split <;> decide

theorem owed_join (b : Behind) : b.join.owed = b.owed := by
  cases b <;> rfl

theorem owed_ofCode (n : Nat) : (ofCode n).owed ≤ charWidth (Char.ofNat n) := by
  have hletters : ∀ k < 48, 1 ≤ charWidth (Char.ofNat (0x1780 + k)) := by decide +kernel
  by_cases hc : isCoengLetter n = true
  · have hle : 0x1780 ≤ n ∧ n < 0x1780 + 48 := by
      simp only [isCoengLetter, Bool.or_eq_true, Bool.and_eq_true, decide_eq_true_eq, beq_iff_eq] at hc
      omega
    have hone := hletters (n - 0x1780) (by omega)
    rw [Nat.add_sub_cancel' hle.1] at hone
    have hbound := (ofCode n).owed_bounds
    omega
  · have hite (p : Prop) [Decidable p] (a b : Behind) (ha : a.owed = 0) (hb : b.owed = 0) :
        (if p then a else b).owed = 0 := by
      split <;> assumption
    have hzero : (ofCode n).owed = 0 := by
      rw [ofCode, if_neg hc]
      repeat' apply hite
      all_goals rfl
    omega

theorem owed_meet {b : Behind} {n : Nat} {w : Int} {b' : Behind} (h : b.meet n = some (w, b')) :
    b'.owed ≤ b.owed + w := by
  unfold meet at h
  repeat' split at h
  all_goals cases h
  all_goals simp [owed]

theorem owed_before (b : Behind) (n : Nat) : (b.before n).2.owed ≤ b.owed + (b.before n).1 := by
  unfold before
  split
  · rw [Int.add_zero]
    dsimp only
    split
    · exact Int.le_of_eq b.owed_join
    · exact Int.le_refl _
  · cases h : b.meet n with
    | none =>
      have hown := owed_ofCode n
      have hbound := b.owed_bounds
      simp only [Option.getD_none]
      omega
    | some p => exact owed_meet h

end Behind

namespace Follower

theorem owed_kept (f : Follower) : f.kept.behind.owed ≤ f.behind.owed := by
  unfold kept
  split
  · exact Int.le_refl _
  · exact f.behind.owed_bounds.1

theorem owed_selectPicture (f : Follower) : f.selectPicture.behind.owed ≤ f.behind.owed := by
  unfold selectPicture
  split
  · exact Int.le_refl _
  · exact f.owed_kept

theorem owed_unselectPicture (f : Follower) : f.unselectPicture.behind.owed ≤ f.behind.owed := by
  unfold unselectPicture
  split
  · exact f.owed_kept
  · exact Int.le_refl _

theorem owed_beforeSign (f : Follower) (n : Nat) :
    (f.beforeSign n).2.behind.owed ≤ f.behind.owed + (f.beforeSign n).1 := by
  have hpos := f.behind.owed_bounds.1
  have hnothing {w : Int} (hw : 0 ≤ w) : Behind.nothing.owed ≤ f.behind.owed + w := Int.add_nonneg hpos hw
  have hselect {g : Follower} (hg : g.behind.owed ≤ f.behind.owed) : g.behind.owed ≤ f.behind.owed + 0 := by
    rwa [Int.add_zero]
  unfold beforeSign
  split
  · exact hnothing (by decide)
  split
  · exact hnothing (by decide)
  split
  · exact hnothing (by decide)
  split
  · exact hselect f.owed_selectPicture
  split
  · exact hselect f.owed_kept
  split
  · exact hselect f.owed_kept
  split
  · exact hnothing (by decide)
  split
  · exact hnothing (by decide)
  · exact f.behind.owed_before n

theorem owed_before (f : Follower) (n : Nat) : (f.before n).2.behind.owed ≤ f.behind.owed + (f.before n).1 := by
  unfold before
  split
  · have hpos := f.behind.owed_bounds.1
    split
    · exact Int.add_nonneg hpos (by decide)
    · exact Int.add_nonneg hpos (by decide)
  · exact Int.le_trans (f.unselectPicture.owed_beforeSign n) (Int.add_le_add_right f.owed_unselectPicture _)

end Follower

theorem owed_measure (cs : List Char) : (measure cs).2.behind.owed ≤ (measure cs).1 := by
  induction cs with
  | nil => exact Int.le_refl _
  | cons c cs ih =>
    have := (measure cs).2.owed_before c.toNat
    change ((measure cs).2.before c.toNat).2.behind.owed ≤ (measure cs).1 + ((measure cs).2.before c.toNat).1
    omega

theorem coe_width (cs : List Char) : (width cs : Int) = (measure cs).1 := by
  have := owed_measure cs
  have := (measure cs).2.behind.owed_bounds
  rw [width, Int.toNat_of_nonneg (by omega)]

theorem measure_append_ellipsis (cs : List Char) :
    measure (cs ++ [ellipsis]) = ((measure cs).1 + 1, (measure cs).2) := by
  induction cs with
  | nil => decide +kernel
  | cons c cs ih =>
    rw [List.cons_append, measure, ih]
    simp only [measure, Prod.mk.injEq, and_true]
    omega

theorem terminal_text (cs : List Char) : Measure.terminal.text cs = width cs := rfl

theorem terminal_lawful : Measure.terminal.Lawful where
  empty := rfl
  ellipsis := by
    intro cs
    have h := coe_width (cs ++ [ellipsis])
    have h' := coe_width cs
    rw [measure_append_ellipsis] at h
    rw [terminal_text, terminal_text]
    omega

/-- A character that takes its own columns and leaves nothing for another one to join to. -/
def StandsAlone (c : Char) : Prop := ({} : Follower).before c.toNat = ((charWidth c : Int), {})

instance (c : Char) : Decidable (StandsAlone c) := inferInstanceAs (Decidable (_ = _))

theorem measure_of_standsAlone {cs : List Char} (h : ∀ c ∈ cs, StandsAlone c) :
    measure cs = ((Measure.terminal.alone cs : Int), {}) := by
  induction cs with
  | nil => rfl
  | cons c cs ih =>
    have hc : ({} : Follower).before c.toNat = ((charWidth c : Int), {}) := h c List.mem_cons_self
    have hsum : Measure.terminal.alone (c :: cs) = charWidth c + Measure.terminal.alone cs :=
      Measure.terminal.alone_cons c cs
    rw [measure, ih fun d hd => h d (List.mem_cons_of_mem c hd)]
    simp only [hc, hsum, Prod.mk.injEq, and_true]
    omega

theorem width_eq_alone {cs q : List Char} (h : ∀ c ∈ cs, StandsAlone c) (hq : q <+: cs) :
    Measure.terminal.text q = Measure.terminal.alone q := by
  have hw := coe_width q
  rw [measure_of_standsAlone fun c hc => h c (hq.subset hc)] at hw
  exact Int.ofNat_inj.1 hw

def waiting : String := "審査待ち案件"

theorem truncated_fits_of_waiting :
    Measure.terminal.Lawful ∧ (∀ c ∈ waiting.toList, StandsAlone c) ∧ truncated 5 waiting = "審査…" ∧
      ∀ limit, Measure.terminal.Fits limit waiting.toList (truncated limit waiting).toList := by
  have hall : waiting.toList.all (fun c => decide (StandsAlone c)) = true := by decide +kernel
  have halone : ∀ c ∈ waiting.toList, StandsAlone c := fun c hc => of_decide_eq_true (List.all_eq_true.1 hall c hc)
  exact ⟨terminal_lawful, halone, by decide +kernel,
    (Measure.truncated_fits terminal_lawful waiting).2 fun _ => width_eq_alone halone⟩

/-- Three hearts, each a sign of one column that a selector makes a picture of two. -/
def hearts : String := "\u2764\ufe0f\u2764\ufe0f\u2764\ufe0f"

/-- The hearts do not fit into four columns; counted alone they do so with room for the ellipsis. -/
theorem truncated_hearts_too_wide :
    columns hearts = 6 ∧ (truncated 4 hearts).toList = hearts.toList ++ [ellipsis] ∧ columns (truncated 4 hearts) = 7 ∧
      ¬Measure.terminal.Fits 4 hearts.toList (truncated 4 hearts).toList := by
  have hwidth : columns (truncated 4 hearts) = 7 := by decide +kernel
  refine ⟨by decide +kernel, by decide +kernel, hwidth, ?_⟩
  intro h
  have hle := h.within
  rw [terminal_text, ← columns, hwidth] at hle
  exact absurd hle (by decide)

end JobBoard.Text
