import JobBoard.Proofs.Calendar
import JobBoard.Proofs.DecimalText
import JobBoard.Time.Reader

/-!
The exact text of a point of time. Every point of time that is read can be written, and what is written is read back,
with its leap second, its nanoseconds and its year, however many digits that has.
-/

namespace JobBoard.Instant

open Decimal

structure IsReadable (t : Instant) : Prop where
  nano : t.nano < 2 * billion
  leap : billion ≤ t.nano → t.second % 60 = 59
  year : Date.firstYear ≤ t.date.year ∧ t.date.year ≤ Date.lastYear

namespace Reader

variable {cs r x : List Char} {t : Instant}

def dateEnd : List Char → Option (List Char)
  | c :: r => if c = 'T' ∨ c = 't' ∨ c = ' ' then some r else none
  | [] => none

theorem read_eq (cs : List Char) :
    read cs = (do
      let (d, r) ← day cs
      let r ← dateEnd r
      let ((h, m, s, n), r) ← clock r
      let (off, r) ← zone (Text.trimStart r)
      if (Text.trimStart r).isEmpty then assemble d h m s n off else none) := by
  unfold read
  rcases day cs with - | ⟨d, - | ⟨c, r⟩⟩
  · rfl
  · rfl
  · by_cases hc : c = 'T' ∨ c = 't' ∨ c = ' '
    · simp only [Option.bind_eq_bind, Option.bind_some, dateEnd, if_pos hc]
    · simp only [Option.bind_eq_bind, Option.bind_some, Option.bind_none, dateEnd, if_neg hc]

theorem trimStart_cons {c : Char} (h : Text.isBlank c = false) (r : List Char) :
    Text.trimStart (c :: r) = c :: r :=
  List.dropWhile_cons_of_neg (by rw [h]; exact Bool.false_ne_true)

theorem digitChar_plain {d : Nat} (h : d < 10) :
    Text.isBlank (digitChar d) = false ∧ digitChar d ≠ '-' ∧ digitChar d ≠ '+' := by
  have hall : ∀ d < 10, Text.isBlank (digitChar d) = false ∧ digitChar d ≠ '-' ∧ digitChar d ≠ '+' := by decide
  exact hall d h

theorem padded_cons (width n : Nat) : ∃ d ds, d < 10 ∧ padded width n = digitChar d :: ds := by
  obtain ⟨d, ds, he⟩ := List.exists_cons_of_ne_nil (paddedDigits_ne_nil width n)
  refine ⟨d, ds.map digitChar, paddedDigits_lt width n d (by rw [he]; exact List.mem_cons_self), ?_⟩
  rw [padded_eq, he, List.map_cons]

theorem trimStart_padded (width n : Nat) (x : List Char) :
    Text.trimStart (padded width n ++ x) = padded width n ++ x := by
  obtain ⟨d, ds, hd, he⟩ := padded_cons width n
  rw [he, List.cons_append, trimStart_cons (digitChar_plain hd).1]

theorem digits_padded {width n limit : Nat} (h : (paddedDigits width n).length ≤ limit) (hx : Stops x) :
    digits limit (padded width n ++ x) = some (paddedDigits width n, x) := by
  have hempty : (paddedDigits width n).isEmpty = false :=
    List.isEmpty_eq_false_iff.2 (paddedDigits_ne_nil width n)
  have hlength : (padded width n).length = (paddedDigits width n).length := by rw [padded_eq, List.length_map]
  unfold digits
  dsimp only
  rw [takeDigits_padded width n hx, List.take_of_length_le h, hempty, if_neg Bool.false_ne_true, ← hlength,
    List.drop_left]

theorem number_padded {n : Nat} (h : n < 100) (hx : Stops x) : number 2 (padded 2 n ++ x) = some (n, x) := by
  have hlength : (paddedDigits 2 n).length = 2 := length_paddedDigits h
  rw [number, trimStart_padded, digits_padded (Nat.le_of_eq hlength) hx]
  simp only [Option.map_some, ofDigits_paddedDigits]

theorem sep_cons {c : Char} (h : Text.isBlank c = false) (r : List Char) : sep c (c :: r) = some r := by
  rw [sep, trimStart_cons h]
  exact if_pos rfl

theorem year_of_digits {d : Nat} (hd : d < 10) (r : List Char) :
    year (digitChar d :: r) = (digits 4 (digitChar d :: r)).map fun (ds, r) => ((ofDigits ds : Int), r) := by
  obtain ⟨hblank, hminus, hplus⟩ := digitChar_plain hd
  rw [year, trimStart_cons hblank]
  split
  · rename_i heq
    exact absurd (List.cons.inj heq).1 hminus
  · rename_i heq
    exact absurd (List.cons.inj heq).1 hplus
  · rfl

theorem digits_length_padded (n : Nat) (hx : Stops x) :
    digits (padded 4 n ++ x).length (padded 4 n ++ x) = some (paddedDigits 4 n, x) := by
  refine digits_padded ?_ hx
  rw [padded_eq, List.length_append, List.length_map]
  exact Nat.le_add_right _ _

theorem year_minus (r : List Char) :
    year ('-' :: r) = (digits r.length r).map fun (ds, r) => (-(ofDigits ds : Int), r) := by
  rw [year, trimStart_cons (by decide)]
  rfl

theorem year_plus (r : List Char) :
    year ('+' :: r) = (digits r.length r).map fun (ds, r) => ((ofDigits ds : Int), r) := by
  rw [year, trimStart_cons (by decide)]
  rfl

theorem year_yearText (y : Int) (hx : Stops x) : year (yearText y ++ x) = some (y, x) := by
  unfold yearText
  by_cases hshort : 0 ≤ y ∧ y ≤ 9999
  · have hlength : (paddedDigits 4 y.natAbs).length = 4 := length_paddedDigits (by omega)
    have hvalue : (y.natAbs : Int) = y := by omega
    obtain ⟨d, ds, hd, he⟩ := padded_cons 4 y.natAbs
    rw [if_pos hshort, he, List.cons_append, year_of_digits hd, ← List.cons_append, ← he,
      digits_padded (Nat.le_of_eq hlength) hx]
    simp only [Option.map_some, ofDigits_paddedDigits, hvalue]
  · rw [if_neg hshort]
    by_cases hneg : y < 0
    · have hvalue : -(y.natAbs : Int) = y := by omega
      rw [if_pos hneg, List.cons_append, year_minus, digits_length_padded y.natAbs hx]
      simp only [Option.map_some, ofDigits_paddedDigits, hvalue]
    · have hvalue : (y.natAbs : Int) = y := by omega
      rw [if_neg hneg, List.cons_append, year_plus, digits_length_padded y.natAbs hx]
      simp only [Option.map_some, ofDigits_paddedDigits, hvalue]

theorem day_dateText {d : Date} (h : d.IsDay) (hx : Stops x) : day (dateText d ++ x) = some (d, x) := by
  obtain ⟨-, hmonth, -, hday⟩ := h
  have hday' : d.day < 100 := by
    unfold Date.daysInMonth at hday
    split at hday
    · split at hday <;> omega
    · split at hday <;> omega
  have hdash (r : List Char) : sep '-' ('-' :: r) = some r := sep_cons (by decide) r
  have hstops (r : List Char) : Stops ('-' :: r) := stops_cons (by decide) r
  rw [dateText, List.append_assoc, List.cons_append, List.append_assoc, List.cons_append, day,
    year_yearText d.year (hstops _)]
  simp only [Option.bind_eq_bind, Option.bind_some, hdash, number_padded (show d.month < 100 by omega) (hstops _),
    number_padded hday' hx]

theorem fraction_padded {k n : Nat} (hk : k < 9) (h : n < 10 ^ (k + 1)) (hx : Stops x) :
    fraction ('.' :: padded (k + 1) n ++ x) = some (n * 10 ^ (8 - k), x) := by
  have hlength := length_paddedDigits h
  rw [List.cons_append, fraction, takeDigits_padded (k + 1) n hx]
  split
  · rename_i heq
    exact absurd (Prod.mk.inj heq).1 (paddedDigits_ne_nil _ _)
  · rename_i heq
    cases heq
    rw [List.take_of_length_le (by omega), ofDigits_paddedDigits, hlength, Nat.add_sub_add_right 8 1 k]
    rfl

theorem fraction_fractionText {n : Nat} (h : n < billion) (x : List Char) :
    fraction (fractionText n ++ 'Z' :: x) = some (n, 'Z' :: x) := by
  have hx : Stops ('Z' :: x) := stops_cons (by decide) x
  have hlt : n < 1000000000 := h
  unfold fractionText
  simp only [beq_iff_eq]
  split
  · rename_i hzero
    rw [hzero]
    rfl
  · split
    · have hvalue : n / 1000000 * 10 ^ (8 - 2) = n := by omega
      rw [fraction_padded (k := 2) (by decide) (by omega) hx, hvalue]
    · split
      · have hvalue : n / 1000 * 10 ^ (8 - 5) = n := by omega
        rw [fraction_padded (k := 5) (by decide) (by omega) hx, hvalue]
      · rw [fraction_padded (k := 8) (by decide) h hx, Nat.sub_self, Nat.pow_zero, Nat.mul_one]

theorem clock_padded {h m s n : Nat} (hh : h < 100) (hm : m < 100) (hs : s < 100) (hn : n < billion)
    (x : List Char) :
    clock (padded 2 h ++ ':' :: (padded 2 m ++ ':' :: (padded 2 s ++ (fractionText n ++ 'Z' :: x)))) =
      some ((h, m, s, n), 'Z' :: x) := by
  have hcolon (r : List Char) : sep ':' (':' :: r) = some r := sep_cons (by decide) r
  have hstops (r : List Char) : Stops (':' :: r) := stops_cons (by decide) r
  have hfraction : Stops (fractionText n ++ 'Z' :: x) := by
    have hpoint (r : List Char) : Stops ('.' :: r) := stops_cons (by decide) r
    unfold fractionText
    split
    · exact stops_cons (by decide) x
    · split
      · exact hpoint _
      · split
        · exact hpoint _
        · exact hpoint _
  rw [clock, number_padded hh (hstops _)]
  simp only [Option.bind_eq_bind, Option.bind_some, hcolon, number_padded hm (hstops _),
    number_padded hs hfraction, fraction_fractionText hn x]

theorem assemble_parts (h : t.IsReadable) :
    assemble t.date (t.secondOfDay / 3600) (t.secondOfDay / 60 % 60)
      (t.secondOfDay % 60 + if t.isLeap then 1 else 0) (t.nano % billion) 0 = some t := by
  obtain ⟨hnano, hleap, hyear⟩ := h
  have hday : t.date.toDays = t.second / secondsPerDay := Date.toDays_ofDays _
  have hvalid : t.date.IsValid := ⟨hyear.1, hyear.2, Date.ofDays_isDay _⟩
  have hsecond : (t.secondOfDay : Int) = t.second - t.second / 86400 * 86400 := by
    change ((t.second % 86400).toNat : Int) = _
    omega
  have hlt : t.secondOfDay < 86400 := by omega
  unfold isLeap
  simp only [decide_eq_true_eq]
  split
  · rename_i hle
    have hsixty : t.secondOfDay % 60 + 1 = 60 := by
      have := hleap hle
      omega
    have hnano' : t.nano % billion + billion = t.nano := by
      change t.nano < 2 * 1000000000 at hnano
      change 1000000000 ≤ t.nano at hle
      change t.nano % 1000000000 + 1000000000 = t.nano
      omega
    have htime : t.date.toDays * secondsPerDay +
        ((3600 * (t.secondOfDay / 3600) + 60 * (t.secondOfDay / 60 % 60) + 59 : Nat) : Int) - 0 = t.second := by
      rw [hday]
      dsimp only [secondsPerDay]
      omega
    rw [hsixty, assemble, if_pos ⟨hvalid, by omega, by omega, Nat.le_refl _, by decide⟩, if_pos rfl]
    dsimp only
    rw [htime, hnano', if_pos hyear]
  · rename_i hlt'
    have hnot : ¬ t.secondOfDay % 60 + 0 = 60 := by omega
    have hnano' : t.nano % billion = t.nano := Nat.mod_eq_of_lt (Nat.lt_of_not_le hlt')
    have htime : t.date.toDays * secondsPerDay +
        ((3600 * (t.secondOfDay / 3600) + 60 * (t.secondOfDay / 60 % 60) + (t.secondOfDay % 60 + 0) : Nat) : Int) -
          0 = t.second := by
      rw [hday]
      dsimp only [secondsPerDay]
      omega
    rw [assemble, if_pos ⟨hvalid, by omega, by omega, by omega, by decide⟩, if_neg hnot]
    dsimp only
    rw [htime, hnano', if_pos hyear]

theorem read_print (h : t.IsReadable) : read t.print = some t := by
  have hlt : t.secondOfDay < 86400 := by
    change (t.second % 86400).toNat < 86400
    omega
  have hsecond : (t.secondOfDay % 60 + if t.isLeap then 1 else 0) < 100 := by
    split <;> omega
  rw [read_eq, print]
  simp only [List.append_assoc, List.cons_append]
  rw [day_dateText (d := t.date) (Date.ofDays_isDay _) (stops_cons (by decide) _)]
  simp only [Option.bind_eq_bind, Option.bind_some]
  rw [dateEnd, if_pos (Or.inl rfl), Option.bind_some,
    clock_padded (by omega) (by omega) hsecond (Nat.mod_lt _ (by decide)), Option.bind_some]
  exact assemble_parts h

end Reader

theorem IsReadable.ofText_text {t : Instant} (h : t.IsReadable) : ofText? t.text = some t := by
  rw [ofText?, text, String.toList_ofList, Reader.read_print h]

end JobBoard.Instant
