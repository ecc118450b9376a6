import JobBoard.Listing.HeightTree
import Mathlib.Algebra.Group.Nat.Even
import Mathlib.Tactic.Ring

/-!
The rows that a node of the height tree covers: those behind the number of the node without its lowest bit, up to
that number. Going up by the lowest bit leads through all nodes that cover a row, and through no others.
-/

namespace JobBoard

theorem dropLowBit_odd (i : Nat) : dropLowBit (2 * i + 1) = 2 * i := by
  apply Nat.eq_of_testBit_eq
  intro j
  simp only [dropLowBit, Nat.add_sub_cancel, Nat.testBit_and]
  cases j with
  | zero => simp [Nat.testBit_zero]
  | succ j =>
    have h : (2 * i + 1) / 2 = i := by omega
    simp [Nat.testBit_succ, h]

theorem dropLowBit_even {i : Nat} (h : 0 < i) : dropLowBit (2 * i) = 2 * dropLowBit i := by
  obtain ⟨j, rfl⟩ := Nat.exists_eq_succ_of_ne_zero (Nat.ne_of_gt h)
  apply Nat.eq_of_testBit_eq
  intro k
  simp only [dropLowBit, Nat.testBit_and]
  cases k with
  | zero => simp [Nat.testBit_zero]
  | succ k =>
    have h₁ : (2 * (j + 1) - 1) / 2 = j := by omega
    have h₂ : 2 * (j + 1) / 2 = j + 1 := by omega
    have h₃ : 2 * ((j + 1) &&& j) / 2 = (j + 1) &&& j := by omega
    simp only [Nat.succ_eq_add_one, Nat.testBit_succ, h₁, h₂, h₃, Nat.add_sub_cancel, Nat.testBit_and]

theorem lowBit_odd (i : Nat) : lowBit (2 * i + 1) = 1 := by
  rw [lowBit, dropLowBit_odd]
  omega

theorem lowBit_even {i : Nat} (h : 0 < i) : lowBit (2 * i) = 2 * lowBit i := by
  rw [lowBit, lowBit, dropLowBit_even h]
  omega

/-- Whether node `i` covers row number `p`, rows being counted from one. -/
def Covers (i p : Nat) : Prop := dropLowBit i < p ∧ p ≤ i

instance (i p : Nat) : Decidable (Covers i p) := inferInstanceAs (Decidable (_ ∧ _))

/-- The nodes that cover a row are the node of its number, and those that cover the number above it. -/
theorem covers_iff_above {p : Nat} (hp : 0 < p) (i : Nat) :
    Covers i p ↔ i = p ∨ Covers i (p + lowBit p) := by
  -- If `i` and `p` are even, both sides are those of their halves; the other cases need no induction.
  induction i using Nat.strong_induction_on generalizing p with
  | _ i ih =>
    rcases Nat.even_or_odd' i with ⟨a, rfl | rfl⟩
    · rcases Nat.even_or_odd' p with ⟨b, rfl | rfl⟩
      · rcases Nat.eq_zero_or_pos a with rfl | ha
        · have := lowBit_pos hp
          simp only [Covers]
          omega
        · have hb : 0 < b := by omega
          have := ih a (by omega) hb
          simp only [Covers, dropLowBit_even ha, lowBit_even hb] at this ⊢
          omega
      · rcases Nat.eq_zero_or_pos a with rfl | ha
        · simp only [Covers]
          omega
        · simp only [Covers, dropLowBit_even ha, lowBit_odd]
          omega
    · have hup : (p + lowBit p) % 2 = 0 := by
        rcases Nat.even_or_odd' p with ⟨b, rfl | rfl⟩
        · rw [lowBit_even (by omega : 0 < b)]
          omega
        · rw [lowBit_odd]
          omega
      simp only [Covers, dropLowBit_odd]
      omega

/-- The node in the middle of a stretch that starts at a multiple of its length covers the first half of it. -/
theorem dropLowBit_middle (q k : Nat) : dropLowBit (q * 2 ^ (k + 1) + 2 ^ k) = q * 2 ^ (k + 1) := by
  induction k with
  | zero =>
    rw [Nat.zero_add, Nat.pow_one, Nat.pow_zero, Nat.mul_comm]
    exact dropLowBit_odd q
  | succ k ih =>
    have hpos : 0 < q * 2 ^ (k + 1) + 2 ^ k := Nat.add_pos_right _ (Nat.two_pow_pos k)
    have hd : q * 2 ^ (k + 1 + 1) + 2 ^ (k + 1) = 2 * (q * 2 ^ (k + 1) + 2 ^ k) := by ring
    rw [hd, dropLowBit_even hpos, ih]
    ring

theorem covers_above {c : Nat} (hc : 0 < c) : Covers (c + lowBit c) c := by
  have hlow := lowBit_pos hc
  exact (covers_iff_above hc _).2 (.inr ⟨dropLowBit_lt (by omega), Nat.le_refl _⟩)

/-- Below what a node covers begins what the node above covers, or stands another node below the same one. -/
theorem dropLowBit_above {c : Nat} (hc : 0 < c) :
    dropLowBit c = dropLowBit (c + lowBit c) ∨
      0 < dropLowBit c ∧ dropLowBit c + lowBit (dropLowBit c) = c + lowBit c := by
  induction c using Nat.strong_induction_on with
  | _ c ih =>
    rcases Nat.even_or_odd' c with ⟨a, rfl | rfl⟩
    · have ha : 0 < a := by omega
      have h := ih a (by omega) ha
      have hup : 2 * a + lowBit (2 * a) = 2 * (a + lowBit a) := by
        rw [lowBit_even ha]
        omega
      rw [hup, dropLowBit_even ha, dropLowBit_even (by omega)]
      rcases h with h | ⟨hpos, h⟩
      · exact .inl (congrArg (2 * ·) h)
      · right
        rw [lowBit_even hpos]
        omega
    · have hup : 2 * a + 1 + lowBit (2 * a + 1) = 2 * (a + 1) := by
        rw [lowBit_odd]
        omega
      rw [hup, dropLowBit_odd, dropLowBit_even (Nat.succ_pos a)]
      rcases Nat.even_or_odd' a with ⟨b, rfl | rfl⟩
      · exact .inl (by rw [dropLowBit_odd])
      · right
        rw [lowBit_even (by omega), lowBit_odd]
        omega

theorem dropLowBit_pred {i : Nat} (hi : 0 < i) :
    i - 1 = dropLowBit i ∨ 0 < i - 1 ∧ i - 1 + lowBit (i - 1) = i := by
  rcases Nat.even_or_odd' i with ⟨a, rfl | rfl⟩
  · right
    have hodd : 2 * a - 1 = 2 * (a - 1) + 1 := by omega
    rw [hodd, lowBit_odd]
    omega
  · left
    rw [dropLowBit_odd]
    omega

end JobBoard
