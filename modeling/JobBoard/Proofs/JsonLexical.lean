import JobBoard.Json.Tree
import JobBoard.Proofs.DecimalText

/-!
The smallest parts of a JSON text: spaces, texts and numbers. Each of them is known by how it is read, whatever stands
behind it; a number ends where a character stands that cannot belong to it.
-/

namespace JobBoard.Json.Tree

open Decimal

variable {cs r p w x : List Char}

def Space (w : List Char) : Prop := ∀ c ∈ w, isSpace c = true

theorem space_nil : Space [] := by
  intro c hc
  cases hc

theorem skipSpace_append (h : Space w) (x : List Char) : skipSpace (w ++ x) = skipSpace x :=
  List.dropWhile_append_of_pos h

theorem skipSpace_cons {c : Char} (h : isSpace c = false) (cs : List Char) : skipSpace (c :: cs) = c :: cs :=
  List.dropWhile_cons_of_neg (by rw [h]; exact Bool.false_ne_true)

theorem exists_skipSpace (cs : List Char) : ∃ w, Space w ∧ cs = w ++ skipSpace cs :=
  ⟨cs.takeWhile isSpace, List.all_eq_true.1 (List.all_takeWhile ..), (List.takeWhile_append_dropWhile ..).symm⟩

theorem Space.skipSpace (h : Space w) : Tree.skipSpace w = [] := by
  have he := skipSpace_append h []
  rwa [List.append_nil] at he

/-- A text with this content, from behind its opening quote to its closing one. -/
def IsText (content : Option String) (p : List Char) : Prop := ∀ x, readText (p ++ x) = some (content, x)

/-- Text up to a closing quote that stands for these units. -/
def IsUnits (us : List Nat) (p : List Char) : Prop := ∀ x, readUnits (p ++ x) = some (us, x)

theorem isUnits_quote : IsUnits [] ['"'] := fun _ => rfl

theorem IsUnits.unicode {a b c d : Char} {n : Nat} {us : List Nat} (hn : hexUnit? a b c d = some n)
    (h : IsUnits us p) : IsUnits (n :: us) ('\\' :: 'u' :: a :: b :: c :: d :: p) := by
  intro x
  rw [List.cons_append, List.cons_append, List.cons_append, List.cons_append, List.cons_append, List.cons_append,
    readUnits, hn, h x]

theorem IsUnits.escaped {e : Char} {n : Nat} {us : List Nat} (hn : escaped? e = some n)
    (h : IsUnits us p) : IsUnits (n :: us) ('\\' :: e :: p) := by
  intro x
  rw [List.cons_append, List.cons_append, readUnits, hn, h x]
  rintro a b c d r rfl -
  cases hn

theorem IsUnits.plain {c : Char} {us : List Nat} (hquote : c ≠ '"') (hslash : c ≠ '\\') (hn : ¬ c.toNat < 0x20)
    (h : IsUnits us p) : IsUnits (c.toNat :: us) (c :: p) := by
  intro x
  rw [List.cons_append, readUnits, if_neg hn, h x]
  · exact hquote
  · intro a b c' d r hc
    exact absurd hc hslash
  · intro e r hc
    exact absurd hc hslash
  · intro hc
    exact absurd hc hslash

theorem exists_of_readUnits {us : List Nat} (h : readUnits cs = some (us, r)) :
    ∃ p, cs = p ++ r ∧ IsUnits us p := by
  induction cs using readUnits.induct generalizing us with
  | case1 => cases h
  | case2 r' =>
    cases h
    exact ⟨['"'], rfl, isUnits_quote⟩
  | case3 a b c d r' n us' rest hread hn ih =>
    rw [readUnits, hn, hread] at h
    cases h
    obtain ⟨p, rfl, hp⟩ := ih hread
    exact ⟨_ :: _ :: _ :: _ :: _ :: _ :: p, rfl, hp.unicode hn⟩
  | case4 a b c d r' hnone ih =>
    rw [readUnits] at h
    split at h
    · rename_i hn hread
      exact (hnone _ _ _ hn hread).elim
    · cases h
  | case5 e r' hnot n us' rest hread hn ih =>
    rw [readUnits, hn, hread] at h
    · cases h
      obtain ⟨p, rfl, hp⟩ := ih hread
      exact ⟨_ :: _ :: p, rfl, hp.escaped hn⟩
    · exact hnot
  | case6 e r' hnot hnone ih =>
    rw [readUnits] at h
    · split at h
      · rename_i hn hread
        exact (hnone _ _ _ hn hread).elim
      · cases h
    · exact hnot
  | case7 => cases h
  | case8 c r' hquote h₁ h₂ h₃ hlow =>
    rw [readUnits, if_pos hlow] at h
    · cases h
    all_goals assumption
  | case9 c r' hquote h₁ h₂ h₃ hlow us' rest hread ih =>
    rw [readUnits, if_neg hlow, hread] at h
    · cases h
      obtain ⟨p, rfl, hp⟩ := ih hread
      refine ⟨c :: p, rfl, hp.plain hquote ?_ hlow⟩
      -- A backslash is followed by nothing or by a letter.
      intro hslash
      rcases hrest : p ++ r with - | ⟨e, rest⟩
      · exact h₃ hslash hrest
      · exact h₂ e rest hslash hrest
    all_goals assumption
  | case10 c r' hquote h₁ h₂ h₃ hlow hread ih =>
    rw [readUnits, if_neg hlow, hread] at h
    · cases h
    all_goals assumption

theorem IsUnits.isText {us : List Nat} (h : IsUnits us p) : IsText ((joinUnits us).map String.ofList) p := by
  intro x
  rw [readText, h x]
  rfl

theorem exists_of_readText {content : Option String} (h : readText cs = some (content, r)) :
    ∃ p, cs = p ++ r ∧ IsText content p := by
  obtain ⟨⟨us, r'⟩, hread, he⟩ := Option.map_eq_some_iff.1 h
  cases he
  obtain ⟨p, hp, hunits⟩ := exists_of_readUnits hread
  exact ⟨p, hp, hunits.isText⟩

def goesOn (c : Char) : Bool := (digit? c).isSome || c == '.' || c == 'e' || c == 'E'

/-- The text does not go on with a part of a number. -/
def Ends (cs : List Char) : Prop := ∀ c r, cs = c :: r → goesOn c = false

theorem ends_nil : Ends [] := by
  intro c r h
  cases h

theorem ends_cons {c : Char} (h : goesOn c = false) (r : List Char) : Ends (c :: r) := by
  rintro c' r' ⟨⟩
  exact h

theorem not_goesOn_of_isSpace {c : Char} (h : isSpace c = true) : goesOn c = false := by
  simp only [isSpace, Bool.or_eq_true, beq_iff_eq] at h
  rcases h with ((rfl | rfl) | rfl) | rfl <;> decide

theorem Space.ends_append (h : Space w) (hx : Ends x) : Ends (w ++ x) := by
  cases w with
  | nil => exact hx
  | cons c w => exact ends_cons (not_goesOn_of_isSpace (h c List.mem_cons_self)) _

theorem Ends.stops (h : Ends x) : Stops x := by
  intro c r hx
  have hc := h c r hx
  simp only [goesOn, Bool.or_eq_false_iff, Option.isSome_eq_false_iff, Option.isNone_iff_eq_none] at hc
  exact hc.1.1.1

def IsNumeral (n : Numeral) (p : List Char) : Prop := ∀ x, Ends x → readNumeral (p ++ x) = some (n, x)

/-- The text does not go on with a digit or a point. -/
def NoPoint (cs : List Char) : Prop := Stops cs ∧ ∀ r, cs ≠ '.' :: r

theorem Ends.noPoint (h : Ends x) : NoPoint x := by
  refine ⟨h.stops, ?_⟩
  rintro r rfl
  exact absurd (h '.' r rfl) (by decide)

theorem digit?_of_takeDigits {c : Char} {ds : List Nat} (h : takeDigits (c :: cs) = (ds, r)) (hds : ds ≠ []) :
    (digit? c).isSome := by
  cases hc : digit? c with
  | none =>
    rw [takeDigits, hc] at h
    cases h
    exact absurd rfl hds
  | some d => rfl

theorem exists_of_digits {ds : List Nat} (h : takeDigits cs = (ds, r)) (hds : ds ≠ []) :
    ∃ c q, cs = c :: q ++ r ∧ (digit? c).isSome ∧ ∀ x, Stops x → takeDigits (c :: q ++ x) = (ds, x) := by
  obtain ⟨-, - | ⟨c, q⟩, hcs, -, hx⟩ := exists_of_takeDigits h
  · have hnil := hx [] stops_nil
    cases hnil
    exact absurd rfl hds
  · exact ⟨c, q, hcs, digit?_of_takeDigits (hx [] stops_nil) hds, hx⟩

theorem exists_of_readWhole {ds : List Nat} (h : readWhole cs = some (ds, r)) :
    ∃ c q, cs = c :: q ++ r ∧ (digit? c).isSome ∧ ∀ x, Stops x → readWhole (c :: q ++ x) = some (ds, x) := by
  unfold readWhole at h
  split at h
  · cases h
  · cases h
  · rename_i hnil hzero htake
    cases h
    obtain ⟨c, q, hcs, hc, hx⟩ := exists_of_digits htake hnil
    refine ⟨c, q, hcs, hc, ?_⟩
    intro x hstop
    rw [readWhole, hx x hstop]
    split
    · rename_i he
      exact absurd (Prod.mk.inj he).1 hnil
    · rename_i he
      exact (hzero _ _ (Prod.mk.inj he).1).elim
    · rename_i he
      cases he
      rfl

theorem readFraction_of_noPoint (h : NoPoint x) : readFraction x = some (none, x) := by
  rw [readFraction]
  exact h.2

theorem exists_of_readFraction {f : Option (List Nat)} (h : readFraction cs = some (f, r)) :
    ∃ p, cs = p ++ r ∧ ∀ x, NoPoint x → readFraction (p ++ x) = some (f, x) ∧ Stops (p ++ x) := by
  unfold readFraction at h
  split at h
  · split at h
    · cases h
    · rename_i hnil htake
      cases h
      obtain ⟨c, q, hcs, -, hx⟩ := exists_of_digits htake hnil
      refine ⟨'.' :: c :: q, congrArg ('.' :: ·) hcs, ?_⟩
      intro x hstop
      refine ⟨?_, stops_cons (by decide) _⟩
      rw [List.cons_append, readFraction, hx x hstop.1]
      split
      · rename_i he
        exact absurd (Prod.mk.inj he).1 hnil
      · rename_i he
        cases he
        rfl
  · cases h
    exact ⟨[], rfl, fun x hx => ⟨readFraction_of_noPoint hx, hx.1⟩⟩

def exponentDigits (below : Bool) (cs : List Char) : Option (Option (Bool × List Nat) × List Char) :=
  match takeDigits cs with
  | ([], _) => none
  | (ds, r) => some (some (below, ds), r)

/-- Whether an exponent is below zero, and what stands behind its sign. -/
def exponentSign (cs : List Char) : Bool × List Char :=
  match cs with
  | '-' :: r => (true, r)
  | '+' :: r => (false, r)
  | _ => (false, cs)

theorem readExponent_cons {c : Char} (hc : (c == 'e' || c == 'E') = true) (cs : List Char) :
    readExponent (c :: cs) = exponentDigits (exponentSign cs).1 (exponentSign cs).2 := by
  unfold readExponent
  dsimp only
  rw [if_pos hc]
  rfl

theorem exists_of_exponentSign (cs : List Char) :
    ∃ s, cs = s ++ (exponentSign cs).2 ∧
      ∀ c q, (digit? c).isSome → exponentSign (s ++ c :: q) = ((exponentSign cs).1, c :: q) := by
  unfold exponentSign
  split
  · exact ⟨['-'], rfl, fun _ _ _ => rfl⟩
  · exact ⟨['+'], rfl, fun _ _ _ => rfl⟩
  · refine ⟨[], rfl, ?_⟩
    intro c q hc
    rw [List.nil_append]
    split
    · rename_i he
      cases he
      exact absurd hc (by decide)
    · rename_i he
      cases he
      exact absurd hc (by decide)
    · rfl

theorem readExponent_cons_of_not {c : Char} (hc : (c == 'e' || c == 'E') = false) (cs : List Char) :
    readExponent (c :: cs) = some (none, c :: cs) := by
  unfold readExponent
  dsimp only
  rw [hc, if_neg Bool.false_ne_true]

theorem exists_of_exponentDigits {below : Bool} {e : Option (Bool × List Nat)}
    (h : exponentDigits below cs = some (e, r)) :
    ∃ c q, cs = c :: q ++ r ∧ (digit? c).isSome ∧ ∀ x, Stops x → exponentDigits below (c :: q ++ x) = some (e, x) := by
  unfold exponentDigits at h
  split at h
  · cases h
  · rename_i hnil htake
    cases h
    obtain ⟨c, q, hcs, hc, hx⟩ := exists_of_digits htake hnil
    refine ⟨c, q, hcs, hc, ?_⟩
    intro x hstop
    rw [exponentDigits, hx x hstop]
    split
    · rename_i he
      exact absurd (Prod.mk.inj he).1 hnil
    · rename_i he
      cases he
      rfl

theorem noPoint_cons_of_exponent {c : Char} (hc : (c == 'e' || c == 'E') = true) (cs : List Char) :
    NoPoint (c :: cs) := by
  simp only [Bool.or_eq_true, beq_iff_eq] at hc
  refine ⟨stops_cons ?_ cs, ?_⟩
  · rcases hc with rfl | rfl <;> decide
  · rintro r ⟨⟩
    rcases hc with hc | hc
    · exact absurd hc (by decide)
    · exact absurd hc (by decide)

theorem readExponent_of_ends (h : Ends x) : readExponent x = some (none, x) := by
  cases x with
  | nil => rfl
  | cons c x =>
    have hc := h c x rfl
    simp only [goesOn, Bool.or_eq_false_iff] at hc
    exact readExponent_cons_of_not (by rw [hc.1.2, hc.2, Bool.or_false]) x

theorem exists_of_readExponent {e : Option (Bool × List Nat)} (h : readExponent cs = some (e, r)) :
    ∃ p, cs = p ++ r ∧ ∀ x, Ends x → readExponent (p ++ x) = some (e, x) ∧ NoPoint (p ++ x) := by
  have hnone (he : e = none) (hcs : cs = r) :
      ∃ p, cs = p ++ r ∧ ∀ x, Ends x → readExponent (p ++ x) = some (e, x) ∧ NoPoint (p ++ x) := by
    subst he hcs
    exact ⟨[], rfl, fun x hx => ⟨readExponent_of_ends hx, hx.noPoint⟩⟩
  cases cs with
  | nil =>
    cases h
    exact hnone rfl rfl
  | cons c cs =>
    cases hc : (c == 'e' || c == 'E') with
    | false =>
      rw [readExponent_cons_of_not hc] at h
      cases h
      exact hnone rfl rfl
    | true =>
      rw [readExponent_cons hc] at h
      obtain ⟨s, hcs, hs⟩ := exists_of_exponentSign cs
      obtain ⟨d, q, hrest, hd, hx⟩ := exists_of_exponentDigits h
      refine ⟨c :: (s ++ d :: q), ?_, fun x hends => ⟨?_, noPoint_cons_of_exponent hc _⟩⟩
      · rw [hcs, hrest]
        simp only [List.cons_append, List.append_assoc]
      · rw [List.cons_append, List.append_assoc, List.cons_append, readExponent_cons hc, hs d _ hd]
        exact hx x hends.stops

def readUnsigned (negative : Bool) (cs : List Char) : Option (Numeral × List Char) := do
  let (whole, r) ← readWhole cs
  let (fraction, r) ← readFraction r
  let (exponent, r) ← readExponent r
  some (⟨negative, whole, fraction, exponent⟩, r)

theorem readNumeral_minus (cs : List Char) : readNumeral ('-' :: cs) = readUnsigned true cs := rfl

theorem readNumeral_of_ne (h : ∀ r, cs ≠ '-' :: r) : readNumeral cs = readUnsigned false cs := by
  unfold readNumeral
  split
  · rename_i r he
    split at he
    · exact absurd rfl (h _)
    · cases he
      rfl

theorem exists_of_readUnsigned {negative : Bool} {n : Numeral} (h : readUnsigned negative cs = some (n, r)) :
    ∃ c q, cs = c :: q ++ r ∧ (digit? c).isSome ∧
      ∀ x, Ends x → readUnsigned negative (c :: q ++ x) = some (n, x) := by
  obtain ⟨⟨whole, r₁⟩, hwhole, h⟩ := Option.bind_eq_some_iff.1 h
  obtain ⟨⟨fraction, r₂⟩, hfraction, h⟩ := Option.bind_eq_some_iff.1 h
  obtain ⟨⟨exponent, r₃⟩, hexponent, h⟩ := Option.bind_eq_some_iff.1 h
  cases h
  obtain ⟨c, q, rfl, hc, hw⟩ := exists_of_readWhole hwhole
  obtain ⟨pf, rfl, hf⟩ := exists_of_readFraction hfraction
  obtain ⟨pe, rfl, he⟩ := exists_of_readExponent hexponent
  refine ⟨c, q ++ pf ++ pe, ?_, hc, ?_⟩
  · simp only [List.cons_append, List.append_assoc]
  · intro x hx
    obtain ⟨he, hnoPoint⟩ := he x hx
    obtain ⟨hf, hstops⟩ := hf _ hnoPoint
    have hsplit : c :: (q ++ pf ++ pe) ++ x = c :: q ++ (pf ++ (pe ++ x)) := by
      simp only [List.cons_append, List.append_assoc]
    rw [hsplit, readUnsigned, hw _ hstops]
    simp only [Option.bind_eq_bind, Option.bind_some, hf, he]

def beginsNumeral (c : Char) : Bool := c == '-' || (digit? c).isSome

theorem exists_of_readNumeral {n : Numeral} (h : readNumeral cs = some (n, r)) :
    ∃ c q, cs = c :: q ++ r ∧ beginsNumeral c = true ∧ IsNumeral n (c :: q) := by
  by_cases hsign : ∃ r', cs = '-' :: r'
  · obtain ⟨r', rfl⟩ := hsign
    rw [readNumeral_minus] at h
    obtain ⟨c, q, rfl, -, hx⟩ := exists_of_readUnsigned h
    exact ⟨'-', c :: q, rfl, rfl, fun x hends => hx x hends⟩
  · rw [readNumeral_of_ne fun r' he => hsign ⟨r', he⟩] at h
    obtain ⟨c, q, rfl, hc, hx⟩ := exists_of_readUnsigned h
    refine ⟨c, q, rfl, ?_, fun x hends => ?_⟩
    · rw [beginsNumeral, hc, Bool.or_true]
    · rw [readNumeral_of_ne, hx x hends]
      rintro r' ⟨⟩
      exact absurd hc (by decide)

theorem IsNumeral.begins {n : Numeral} (h : IsNumeral n p) : ∃ c q, p = c :: q ∧ beginsNumeral c = true := by
  obtain ⟨c, q, hp, hc, -⟩ := exists_of_readNumeral (h [] ends_nil)
  rw [List.append_nil, List.append_nil] at hp
  exact ⟨c, q, hp, hc⟩

end JobBoard.Json.Tree
