import JobBoard.Decimal
import Mathlib.Algebra.Group.Nat.Defs
import Mathlib.Data.List.Induction

/-!
Numbers in decimal digits. The digits that are written for a number are read back whatever stands behind them, as long
as it is no further digit.
-/

namespace JobBoard.Decimal

/-- The text does not go on with a digit. -/
def Stops (cs : List Char) : Prop := ∀ c r, cs = c :: r → digit? c = none

variable {cs r x : List Char} {ds : List Nat}

theorem stops_nil : Stops [] := by
  intro c r h
  cases h

theorem stops_cons {c : Char} (h : digit? c = none) (r : List Char) : Stops (c :: r) := by
  rintro c' r' ⟨⟩
  exact h

theorem takeDigits_of_stops (h : Stops x) : takeDigits x = ([], x) := by
  cases x with
  | nil => rfl
  | cons c x => rw [takeDigits, h c x rfl]

theorem takeDigits_cons {c : Char} {d : Nat} (h : digit? c = some d) (cs : List Char) :
    takeDigits (c :: cs) = (d :: (takeDigits cs).1, (takeDigits cs).2) := by
  rw [takeDigits, h]

theorem exists_of_takeDigits (h : takeDigits cs = (ds, r)) :
    Stops r ∧ ∃ p, cs = p ++ r ∧ p.length = ds.length ∧ ∀ x, Stops x → takeDigits (p ++ x) = (ds, x) := by
  induction cs generalizing ds with
  | nil =>
    cases h
    exact ⟨stops_nil, [], rfl, rfl, fun x hx => takeDigits_of_stops hx⟩
  | cons c cs ih =>
    cases hc : digit? c with
    | none =>
      rw [takeDigits, hc] at h
      cases h
      exact ⟨stops_cons hc cs, [], rfl, rfl, fun x hx => takeDigits_of_stops hx⟩
    | some d =>
      rw [takeDigits_cons hc] at h
      cases h
      obtain ⟨hr, p, hp, hlength, hx⟩ := ih rfl
      refine ⟨hr, c :: p, congrArg (c :: ·) hp, congrArg (· + 1) hlength, ?_⟩
      intro x hstop
      rw [List.cons_append, takeDigits_cons hc, hx x hstop]

theorem digit?_digitChar {d : Nat} (h : d < 10) : digit? (digitChar d) = some d := by
  have hall : ∀ d < 10, digit? (digitChar d) = some d := by decide
  exact hall d h

theorem takeDigits_map (h : ∀ d ∈ ds, d < 10) (hx : Stops x) :
    takeDigits (ds.map digitChar ++ x) = (ds, x) := by
  induction ds with
  | nil => exact takeDigits_of_stops hx
  | cons d ds ih =>
    obtain ⟨hd, hds⟩ := List.forall_mem_cons.1 h
    rw [List.map_cons, List.cons_append, takeDigits_cons (digit?_digitChar hd), ih hds]

theorem digits_of_lt {n : Nat} (h : n < 10) : digits n = [n] := by
  rw [digits, if_pos h]

theorem digits_of_le {n : Nat} (h : 10 ≤ n) : digits n = digits (n / 10) ++ [n % 10] := by
  rw [digits, if_neg (Nat.not_lt.2 h)]

theorem digits_lt (n : Nat) : ∀ d ∈ digits n, d < 10 := by
  induction n using Nat.strongRecOn with
  | _ n ih =>
    rcases Nat.lt_or_ge n 10 with h | h
    · rw [digits_of_lt h]
      intro d hd
      rwa [List.mem_singleton.1 hd]
    · rw [digits_of_le h]
      intro d hd
      rcases List.mem_append.1 hd with hd | hd
      · exact ih (n / 10) (by omega) d hd
      · rw [List.mem_singleton.1 hd]
        exact Nat.mod_lt n (by decide)

theorem digits_begin (n : Nat) : ∃ d ds, digits n = d :: ds ∧ (d = 0 → ds = []) := by
  induction n using Nat.strongRecOn with
  | _ n ih =>
    rcases Nat.lt_or_ge n 10 with h | h
    · exact ⟨n, [], digits_of_lt h, fun _ => rfl⟩
    · obtain ⟨d, ds, he, hzero⟩ := ih (n / 10) (by omega)
      refine ⟨d, ds ++ [n % 10], by rw [digits_of_le h, he, List.cons_append], ?_⟩
      rintro rfl
      have hvalue := ofDigits_digits (n / 10)
      rw [he, hzero rfl] at hvalue
      change 0 = n / 10 at hvalue
      omega

theorem length_digits_le {n k : Nat} (h : n < 10 ^ (k + 1)) : (digits n).length ≤ k + 1 := by
  induction k generalizing n with
  | zero =>
    rw [digits_of_lt h]
    exact Nat.le_refl 1
  | succ k ih =>
    rcases Nat.lt_or_ge n 10 with hn | hn
    · rw [digits_of_lt hn, List.length_singleton]
      omega
    · have hlt : n / 10 < 10 ^ (k + 1) := by
        rw [Nat.pow_succ] at h
        omega
      rw [digits_of_le hn, List.length_append, List.length_singleton]
      exact Nat.succ_le_succ (ih hlt)

theorem takeDigits_natText (n : Nat) (hx : Stops x) : takeDigits (natText n ++ x) = (digits n, x) :=
  takeDigits_map (digits_lt n) hx

def paddedDigits (width n : Nat) : List Nat := List.replicate (width - (digits n).length) 0 ++ digits n

theorem padded_eq (width n : Nat) : padded width n = (paddedDigits width n).map digitChar := by
  rw [padded, paddedDigits, List.map_append, List.map_replicate, natText, List.length_map]
  rfl

theorem paddedDigits_lt (width n : Nat) : ∀ d ∈ paddedDigits width n, d < 10 := by
  intro d hd
  rcases List.mem_append.1 hd with hd | hd
  · rw [List.eq_of_mem_replicate hd]
    decide
  · exact digits_lt n d hd

theorem ofDigits_zeros (k : Nat) (ds : List Nat) : ofDigits (List.replicate k 0 ++ ds) = ofDigits ds := by
  induction k with
  | zero => rfl
  | succ k ih => exact ih

theorem ofDigits_paddedDigits (width n : Nat) : ofDigits (paddedDigits width n) = n := by
  rw [paddedDigits, ofDigits_zeros, ofDigits_digits]

theorem length_paddedDigits {k n : Nat} (h : n < 10 ^ (k + 1)) : (paddedDigits (k + 1) n).length = k + 1 := by
  have hle := length_digits_le h
  rw [paddedDigits, List.length_append, List.length_replicate]
  omega

theorem paddedDigits_ne_nil (width n : Nat) : paddedDigits width n ≠ [] := by
  obtain ⟨d, ds, he, -⟩ := digits_begin n
  rw [paddedDigits, he]
  exact List.append_ne_nil_of_right_ne_nil _ (List.cons_ne_nil _ _)

theorem takeDigits_padded (width n : Nat) (hx : Stops x) :
    takeDigits (padded width n ++ x) = (paddedDigits width n, x) := by
  rw [padded_eq, takeDigits_map (paddedDigits_lt width n) hx]

end JobBoard.Decimal
