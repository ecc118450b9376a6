import JobBoard.Text.Redact
import Mathlib.Data.List.Basic

/-!
Searching a text from left to right and replacing what is found, one part of the text after the other. What a search
makes of the beginning of a text is known once it is known what stands behind it, and all that the rest has to know of
the beginning is how many of its characters were found already.
-/

namespace JobBoard.Text.Redact

/-- A search looks at the start of a text; it gives the number of characters to keep and the number of characters
found. -/
abbrev Search := List Char → Option (Nat × Nat)

variable {find : Search} {p x : List Char} {n : Nat}

/-- The number of characters of `x` that belong to something found in the text `p` before it. The first number counts
characters of `p` still to skip. -/
def overlap (find : Search) : Nat → List Char → List Char → Nat
  | n, [], _ => n
  | n + 1, _ :: p, x => overlap find n p x
  | 0, c :: p, x =>
    match find (c :: p ++ x) with
    | some (_, length) => overlap find (length - 1) p x
    | none => overlap find 0 p x

/-- What a search makes of the text `p` if `x` stands behind it. -/
def scrubBefore (find : Search) : Nat → List Char → List Char → List Char
  | _, [], _ => []
  | n + 1, _ :: p, x => scrubBefore find n p x
  | 0, c :: p, x =>
    match find (c :: p ++ x) with
    | some (kept, length) => (c :: p ++ x).take kept ++ mark ++ scrubBefore find (length - 1) p x
    | none => c :: scrubBefore find 0 p x

theorem scrub_append (find : Search) (n : Nat) (p x : List Char) :
    scrub find n (p ++ x) = scrubBefore find n p x ++ scrub find (overlap find n p x) x := by
  induction p generalizing n with
  | nil => rfl
  | cons c p ih =>
    cases n with
    | succ n => exact ih n
    | zero =>
      rw [List.cons_append, scrub, scrubBefore, overlap, ← List.cons_append]
      cases find (c :: p ++ x) with
      | none =>
        dsimp only
        rw [ih, List.cons_append]
      | some found =>
        dsimp only
        rw [ih, ← List.append_assoc]

theorem overlap_append (find : Search) (n : Nat) (p m x : List Char) :
    overlap find n (p ++ m) x = overlap find (overlap find n p (m ++ x)) m x := by
  induction p generalizing n with
  | nil => rfl
  | cons c p ih =>
    cases n with
    | succ n => exact ih n
    | zero =>
      rw [List.cons_append, overlap, overlap, ← List.cons_append, List.append_assoc]
      cases find (c :: p ++ (m ++ x)) with
      | none => exact ih 0
      | some found => exact ih _

theorem scrubBefore_append (find : Search) (n : Nat) (p m x : List Char) :
    scrubBefore find n (p ++ m) x =
      scrubBefore find n p (m ++ x) ++ scrubBefore find (overlap find n p (m ++ x)) m x := by
  induction p generalizing n with
  | nil => rfl
  | cons c p ih =>
    cases n with
    | succ n => exact ih n
    | zero =>
      rw [List.cons_append, scrubBefore, scrubBefore, overlap, ← List.cons_append, List.append_assoc]
      cases find (c :: p ++ (m ++ x)) with
      | none =>
        dsimp only
        rw [ih, List.cons_append]
      | some found =>
        dsimp only
        rw [ih, ← List.append_assoc]

theorem overlap_of_length_le (find : Search) (x : List Char) (h : p.length ≤ n) :
    overlap find n p x = n - p.length := by
  induction p generalizing n with
  | nil => rfl
  | cons c p ih =>
    cases n with
    | zero => exact absurd h (Nat.not_succ_le_zero _)
    | succ n => rw [overlap, ih (Nat.le_of_succ_le_succ h), List.length_cons, Nat.add_sub_add_right]

theorem scrubBefore_of_length_le (find : Search) (x : List Char) (h : p.length ≤ n) :
    scrubBefore find n p x = [] := by
  induction p generalizing n with
  | nil => rfl
  | cons c p ih =>
    cases n with
    | zero => exact absurd h (Nat.not_succ_le_zero _)
    | succ n => exact ih (Nat.le_of_succ_le_succ h)

theorem overlap_drop (find : Search) (x : List Char) (h : n ≤ p.length) :
    overlap find n p x = overlap find 0 (p.drop n) x := by
  have hlength : (p.take n).length = n := List.length_take_of_le h
  conv_lhs =>
    rw [← List.take_append_drop n p, overlap_append, overlap_of_length_le find _ (Nat.le_of_eq hlength), hlength,
      Nat.sub_self]

theorem scrubBefore_drop (find : Search) (x : List Char) (h : n ≤ p.length) :
    scrubBefore find n p x = scrubBefore find 0 (p.drop n) x := by
  have hlength : (p.take n).length = n := List.length_take_of_le h
  conv_lhs =>
    rw [← List.take_append_drop n p, scrubBefore_append, scrubBefore_of_length_le find _ (Nat.le_of_eq hlength),
      overlap_of_length_le find _ (Nat.le_of_eq hlength), hlength, Nat.sub_self, List.nil_append]

theorem unchanged_of_none (h : ∀ t, t ≠ [] → t <:+ p → find (t ++ x) = none) :
    overlap find 0 p x = 0 ∧ scrubBefore find 0 p x = p := by
  induction p with
  | nil => exact ⟨rfl, rfl⟩
  | cons c p ih =>
    obtain ⟨ho, hs⟩ := ih fun t ht hsuffix => h t ht (hsuffix.trans (List.suffix_cons c p))
    rw [overlap, scrubBefore, h (c :: p) (List.cons_ne_nil c p) List.suffix_rfl]
    exact ⟨ho, congrArg (c :: ·) hs⟩

theorem scrub_of_none {q : List Char} (h : ∀ t, t ≠ [] → t <:+ p → find (t ++ q) = none) :
    scrub find 0 (p ++ q) = p ++ scrub find 0 q := by
  obtain ⟨ho, hs⟩ := unchanged_of_none h
  rw [scrub_append, ho, hs]

theorem scrub_skip (find : Search) (p q : List Char) : scrub find p.length (p ++ q) = scrub find 0 q := by
  rw [scrub_append, scrubBefore_of_length_le find q (Nat.le_refl _),
    overlap_of_length_le find q (Nat.le_refl _), Nat.sub_self, List.nil_append]

/-- What reaches into `x` was found in `p`, and its mark is the last of what the search makes of `p`. -/
theorem exists_found_of_overlap (hn : n ≤ p.length) (h : 0 < overlap find n p x) :
    ∃ t k v, t ≠ [] ∧ t <:+ p ∧ find (t ++ x) = some (k, t.length + overlap find n p x) ∧
      scrubBefore find n p x = v ++ (t ++ x).take k ++ mark := by
  induction p generalizing n with
  | nil =>
    obtain rfl : n = 0 := Nat.le_zero.1 hn
    exact absurd h (Nat.lt_irrefl 0)
  | cons c p ih =>
    cases n with
    | succ n =>
      obtain ⟨t, k, v, ht, hsuffix, hfound, hscrub⟩ := ih (Nat.le_of_succ_le_succ hn) h
      exact ⟨t, k, v, ht, hsuffix.trans (List.suffix_cons c p), hfound, hscrub⟩
    | zero =>
      rw [overlap] at h ⊢
      rw [scrubBefore]
      cases hf : find (c :: p ++ x) with
      | none =>
        rw [hf] at h
        obtain ⟨t, k, v, ht, hsuffix, hfound, hscrub⟩ := ih (Nat.zero_le _) h
        refine ⟨t, k, c :: v, ht, hsuffix.trans (List.suffix_cons c p), hfound, ?_⟩
        dsimp only
        rw [hscrub]
        rfl
      | some found =>
        obtain ⟨k, length⟩ := found
        rw [hf] at h
        dsimp only at h ⊢
        rcases Nat.lt_or_ge p.length (length - 1) with hlt | hle
        · refine ⟨c :: p, k, [], List.cons_ne_nil c p, List.suffix_rfl, ?_, ?_⟩
          · rw [overlap_of_length_le find x (Nat.le_of_lt hlt), hf, List.length_cons]
            congr 2
            omega
          · rw [scrubBefore_of_length_le find x (Nat.le_of_lt hlt), List.append_nil, List.nil_append]
        · obtain ⟨t, k', v, ht, hsuffix, hfound, hscrub⟩ := ih hle h
          refine ⟨t, k', (c :: p ++ x).take k ++ mark ++ v, ht, hsuffix.trans (List.suffix_cons c p), hfound, ?_⟩
          rw [hscrub]
          simp only [List.append_assoc]

theorem scrubBefore_concat (find : Search) (p : List Char) (c : Char) (x : List Char) :
    ∃ v b, scrubBefore find 0 (p ++ [c]) x = v ++ [b] ∧ (b = c ∨ b = ']') := by
  rw [scrubBefore_append]
  cases ho : overlap find 0 p ([c] ++ x) with
  | zero =>
    rw [scrubBefore]
    cases find ([c] ++ x) with
    | none => exact ⟨_, c, rfl, .inl rfl⟩
    | some found =>
      obtain ⟨k, length⟩ := found
      refine ⟨scrubBefore find 0 p ([c] ++ x) ++ (([c] ++ x).take k ++ mark.dropLast), ']', ?_, .inr rfl⟩
      have hmark : mark = mark.dropLast ++ [']'] := by decide
      dsimp only
      rw [scrubBefore, List.append_nil]
      conv_lhs => rw [hmark]
      simp only [List.append_assoc]
  | succ j =>
    have hpos : 0 < overlap find 0 p ([c] ++ x) := by
      rw [ho]
      exact Nat.succ_pos j
    obtain ⟨t, k, v, -, -, -, hscrub⟩ := exists_found_of_overlap (Nat.zero_le _) hpos
    refine ⟨v ++ (t ++ ([c] ++ x)).take k ++ mark.dropLast, ']', ?_, .inr rfl⟩
    have hmark : mark = mark.dropLast ++ [']'] := by decide
    rw [scrubBefore, scrubBefore, List.append_nil, hscrub]
    conv_lhs => rw [hmark]
    simp only [List.append_assoc]

/-- A character over which nothing goes that is found before it separates a text: what stands behind it is searched
as if it stood alone. -/
theorem overlap_wall {b : Char} (hb : find (b :: x) = none)
    (hp : ∀ t k length, t ≠ [] → t <:+ p → find (t ++ b :: x) = some (k, length) → length ≤ t.length) :
    overlap find 0 (p ++ [b]) x = 0 ∧
      scrubBefore find 0 (p ++ [b]) x = scrubBefore find 0 p (b :: x) ++ [b] := by
  have ho : overlap find 0 p (b :: x) = 0 := by
    by_contra hne
    obtain ⟨t, k, v, ht, hsuffix, hfound, -⟩ := exists_found_of_overlap (Nat.zero_le _) (Nat.pos_of_ne_zero hne)
    have := hp t k _ ht hsuffix hfound
    omega
  rw [overlap_append, scrubBefore_append, List.cons_append, List.nil_append, ho, overlap, scrubBefore, List.cons_append,
    List.nil_append, hb]
  exact ⟨rfl, rfl⟩

end JobBoard.Text.Redact
