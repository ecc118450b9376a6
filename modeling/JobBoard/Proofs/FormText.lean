import JobBoard.Text.Blank
import JobBoard.Text.Form

/-!
Texts that are written as bytes or into a form, and read back. Every text comes back from its UTF-8, and every list of
named values from the form it is written into, whatever characters names and values have.
-/

namespace JobBoard.Text

namespace Utf8

variable {a b c d : Nat}

theorem decodeLossy_one (h : a < 0x80) (r : List Nat) : decodeLossy (a :: r) = Char.ofNat a :: decodeLossy r := by
  rw [decodeLossy.eq_def]
  simp only [h, ↓reduceIte]

theorem decodeLossy_two (ha : 0xC2 ≤ a ∧ a ≤ 0xDF) (hb : isTail b = true) (r : List Nat) :
    decodeLossy (a :: b :: r) = Char.ofNat ((a - 0xC0) * 0x40 + (b - 0x80)) :: decodeLossy r := by
  have h₁ : ¬a < 0x80 := by omega
  rw [decodeLossy.eq_def]
  simp only [h₁, ha, hb, decide_true, Bool.and_self, ↓reduceIte]

theorem decodeLossy_three (ha : 0xE0 ≤ a ∧ a ≤ 0xEF) (hb : isSecondOfThree a b = true) (hc : isTail c = true)
    (r : List Nat) : decodeLossy (a :: b :: c :: r) =
      Char.ofNat ((a - 0xE0) * 0x1000 + (b - 0x80) * 0x40 + (c - 0x80)) :: decodeLossy r := by
  have h₁ : ¬a < 0x80 := by omega
  have h₂ : ¬a ≤ 0xDF := by omega
  rw [decodeLossy.eq_def]
  simp only [h₁, h₂, ha, hb, hc, decide_true, decide_false, Bool.and_self, Bool.and_false, Bool.false_eq_true,
    ↓reduceIte]

theorem decodeLossy_four (ha : 0xF0 ≤ a ∧ a ≤ 0xF4) (hb : isSecondOfFour a b = true) (hc : isTail c = true)
    (hd : isTail d = true) (r : List Nat) : decodeLossy (a :: b :: c :: d :: r) =
      Char.ofNat ((a - 0xF0) * 0x40000 + (b - 0x80) * 0x1000 + (c - 0x80) * 0x40 + (d - 0x80)) :: decodeLossy r := by
  have h₁ : ¬a < 0x80 := by omega
  have h₂ : ¬a ≤ 0xDF := by omega
  have h₃ : ¬a ≤ 0xEF := by omega
  rw [decodeLossy.eq_def]
  simp only [h₁, h₂, h₃, ha, hb, hc, hd, decide_true, decide_false, Bool.and_self, Bool.and_false, Bool.false_eq_true,
    ↓reduceIte]

theorem isTail_low (n : Nat) : isTail (0x80 + n % 0x40) = true := by
  simp only [isTail, Bool.and_eq_true, decide_eq_true_eq]
  omega

theorem decodeLossy_encodeChar (x : Char) (r : List Nat) : decodeLossy (encodeChar x ++ r) = x :: decodeLossy r := by
  have hvalid : x.toNat < 0xD800 ∨ 0xDFFF < x.toNat ∧ x.toNat < 0x110000 := x.valid
  have hx : Char.ofNat x.toNat = x := Char.ofNat_toNat x
  revert hvalid hx
  unfold encodeChar
  generalize x.toNat = n
  intro hvalid hx
  dsimp only
  split
  · rename_i h
    rw [List.cons_append, List.nil_append, decodeLossy_one h, hx]
  split
  · rw [List.cons_append, List.cons_append, List.nil_append, decodeLossy_two (by omega) (isTail_low n)]
    rw [show (0xC0 + n / 0x40 - 0xC0) * 0x40 + (0x80 + n % 0x40 - 0x80) = n by omega, hx]
  split
  -- The first byte bounds the second one, which leaves out surrogates and numbers that have a shorter form.
  · have hsecond : isSecondOfThree (0xE0 + n / 0x1000) (0x80 + n / 0x40 % 0x40) = true := by
      simp only [isSecondOfThree, isTail, beq_iff_eq]
      split
      · simp only [Bool.and_eq_true, decide_eq_true_eq]
        omega
      · split <;> (simp only [Bool.and_eq_true, decide_eq_true_eq]; omega)
    rw [List.cons_append, List.cons_append, List.cons_append, List.nil_append,
      decodeLossy_three (by omega) hsecond (isTail_low n)]
    rw [show (0xE0 + n / 0x1000 - 0xE0) * 0x1000 + (0x80 + n / 0x40 % 0x40 - 0x80) * 0x40 +
      (0x80 + n % 0x40 - 0x80) = n by omega, hx]
  · have hsecond : isSecondOfFour (0xF0 + n / 0x40000) (0x80 + n / 0x1000 % 0x40) = true := by
      simp only [isSecondOfFour, isTail, beq_iff_eq]
      split
      · simp only [Bool.and_eq_true, decide_eq_true_eq]
        omega
      · split <;> (simp only [Bool.and_eq_true, decide_eq_true_eq]; omega)
    rw [List.cons_append, List.cons_append, List.cons_append, List.cons_append, List.nil_append,
      decodeLossy_four (by omega) hsecond (isTail_low (n / 0x40)) (isTail_low n)]
    rw [show (0xF0 + n / 0x40000 - 0xF0) * 0x40000 + (0x80 + n / 0x1000 % 0x40 - 0x80) * 0x1000 +
      (0x80 + n / 0x40 % 0x40 - 0x80) * 0x40 + (0x80 + n % 0x40 - 0x80) = n by omega, hx]

theorem decodeLossy_encode (cs : List Char) : decodeLossy (encode cs) = cs := by
  induction cs with
  | nil => rfl
  | cons c cs ih =>
    rw [encode, List.flatMap_cons, decodeLossy_encodeChar]
    congr 1

theorem lt_of_mem_encode {cs : List Char} {n : Nat} (h : n ∈ encode cs) : n < 256 := by
  obtain ⟨x, -, hn⟩ := List.mem_flatMap.1 h
  have hvalid : x.toNat < 0xD800 ∨ 0xDFFF < x.toNat ∧ x.toNat < 0x110000 := x.valid
  unfold encodeChar at hn
  dsimp only at hn
  split at hn
  · rw [List.mem_singleton.1 hn]
    omega
  split at hn
  · simp only [List.mem_cons, List.not_mem_nil, or_false] at hn
    omega
  split at hn
  · simp only [List.mem_cons, List.not_mem_nil, or_false] at hn
    omega
  · simp only [List.mem_cons, List.not_mem_nil, or_false] at hn
    omega

theorem encode_of_ascii {cs : List Char} (h : ∀ x ∈ cs, x.toNat < 0x80) : encode cs = cs.map Char.toNat := by
  induction cs with
  | nil => rfl
  | cons x cs ih =>
    have hx : encodeChar x = [x.toNat] := by
      rw [encodeChar, if_pos (h x List.mem_cons_self)]
    rw [encode, List.flatMap_cons, hx, List.map_cons, ← ih fun y hy => h y (List.mem_cons_of_mem x hy)]
    rfl

end Utf8

theorem hexValue?_hexDigit : ∀ n < 16, hexValue? (hexDigit n).toNat = some n := by
  decide

theorem percentDecode_cons {b : Nat} (h : b ≠ 37) (r : List Nat) : percentDecode (b :: r) = b :: percentDecode r := by
  rw [percentDecode.eq_def]
  split
  · rename_i he
    cases he
  · rename_i he
    cases he
    exact absurd rfl h
  · rename_i he
    cases he
    rfl

theorem percentDecode_byte {b : Nat} (h : b < 256) (r : List Nat) :
    percentDecode (37 :: (hexDigit (b / 16)).toNat :: (hexDigit (b % 16)).toNat :: r) = b :: percentDecode r := by
  rw [percentDecode, hexValue?_hexDigit (b / 16) (by omega), hexValue?_hexDigit (b % 16) (by omega)]
  dsimp only
  rw [Nat.div_add_mod]

namespace Form

def IsPart (x : Char) : Prop := isPlain x.toNat = true ∨ x = '+' ∨ x = '%'

def IsFormed (x : Char) : Prop := IsPart x ∨ x = '=' ∨ x = '&'

variable {b : Nat} {x : Char}

theorem isPlain_bounds (h : isPlain b = true) : b < 0x80 ∧ b ≠ 37 ∧ b ≠ 38 ∧ b ≠ 43 ∧ b ≠ 61 ∧ b ≠ 63 ∧ 32 < b := by
  simp only [isPlain, Bool.or_eq_true, Bool.and_eq_true, decide_eq_true_eq, beq_iff_eq] at h
  omega

theorem toNat_ofNat_of_isPlain (h : isPlain b = true) : (Char.ofNat b).toNat = b := by
  have hb := (isPlain_bounds h).1
  rw [Char.ofNat, dif_pos (Or.inl (by omega))]
  rfl

theorem isPlain_hexDigit : ∀ n < 16, isPlain (hexDigit n).toNat = true := by
  decide

theorem IsPart.bounds (h : IsPart x) : x.toNat < 0x80 ∧ x.toNat ≠ 38 ∧ x.toNat ≠ 61 ∧ x.toNat ≠ 63 ∧ 32 < x.toNat := by
  rcases h with h | rfl | rfl
  · have := isPlain_bounds h
    omega
  · decide
  · decide

theorem IsFormed.bounds (h : IsFormed x) : x.toNat < 0x80 ∧ x.toNat ≠ 63 ∧ 32 < x.toNat := by
  rcases h with h | rfl | rfl
  · have := h.bounds
    omega
  · decide
  · decide

theorem IsFormed.not_blank (h : IsFormed x) : isBlank x = false := by
  have := h.bounds
  simp only [isBlank, Bool.or_eq_false_iff, Bool.and_eq_false_iff, decide_eq_false_iff_not, beq_eq_false_iff_ne]
  omega

theorem isPart_of_mem_encodeByte (hb : b < 256) (h : x ∈ encodeByte b) : IsPart x := by
  unfold encodeByte at h
  split at h
  · rename_i hp
    rw [List.mem_singleton.1 h, IsPart, toNat_ofNat_of_isPlain hp]
    exact .inl hp
  split at h
  · exact .inr (.inl (List.mem_singleton.1 h))
  · simp only [percentByte, List.mem_cons, List.not_mem_nil, or_false] at h
    rcases h with rfl | rfl | rfl
    · exact .inr (.inr rfl)
    · exact .inl (isPlain_hexDigit _ (by omega))
    · exact .inl (isPlain_hexDigit _ (by omega))

theorem isPart_of_mem_encodeText {s : String} (h : x ∈ encodeText s) : IsPart x := by
  obtain ⟨b, hb, hx⟩ := List.mem_flatMap.1 h
  exact isPart_of_mem_encodeByte (Utf8.lt_of_mem_encode hb) hx

theorem isPart_of_mem_encodePair {p : String × String} (h : x ∈ encodePair p) (hx : x ≠ '=') : IsPart x := by
  rcases List.mem_append.1 h with h | h
  · exact isPart_of_mem_encodeText h
  · rcases List.mem_cons.1 h with h | h
    · exact absurd h hx
    · exact isPart_of_mem_encodeText h

theorem encode_cons_cons (p q : String × String) (ps : List (String × String)) :
    encode (p :: q :: ps) = encodePair p ++ '&' :: encode (q :: ps) := by
  simp only [encode, List.map_cons, List.intercalate_cons_cons, List.append_assoc, List.singleton_append]

theorem isFormed_of_mem_encode {ps : List (String × String)} (h : x ∈ encode ps) : IsFormed x := by
  have hpair {p : String × String} (h : x ∈ encodePair p) : IsFormed x := by
    by_cases hx : x = '='
    · exact .inr (.inl hx)
    · exact .inl (isPart_of_mem_encodePair h hx)
  induction ps with
  | nil => cases h
  | cons p ps ih =>
    cases ps with
    | nil => exact hpair (by simpa [encode] using h)
    | cons q ps =>
      rw [encode_cons_cons] at h
      rcases List.mem_append.1 h with h | h
      · exact hpair h
      · rcases List.mem_cons.1 h with h | h
        · exact .inr (.inr h)
        · exact ih h

def unplus (bs : List Nat) : List Nat := bs.map fun b => if b == 43 then 32 else b

theorem unplus_cons (hb : b ≠ 43) (bs : List Nat) : unplus (b :: bs) = b :: unplus bs := by
  rw [unplus, List.map_cons, if_neg (by simpa using hb)]
  rfl

theorem percentDecode_encodeByte (hb : b < 256) (r : List Nat) :
    percentDecode (unplus ((encodeByte b).map Char.toNat ++ r)) = b :: percentDecode (unplus r) := by
  unfold encodeByte
  split
  -- What is written for a byte never has a plus sign but for the space, so taking it for a space does no harm.
  · rename_i hp
    have hne := isPlain_bounds hp
    rw [List.map_singleton, List.singleton_append, toNat_ofNat_of_isPlain hp, unplus_cons (by omega),
      percentDecode_cons (by omega)]
  split
  · rename_i h
    rw [eq_of_beq h]
    exact percentDecode_cons (by decide) (unplus r)
  · have hhigh := isPlain_bounds (isPlain_hexDigit (b / 16) (by omega))
    have hlow := isPlain_bounds (isPlain_hexDigit (b % 16) (by omega))
    rw [percentByte, List.map_cons, List.map_cons, List.map_singleton, List.cons_append, List.cons_append,
      List.singleton_append, unplus_cons (by decide), unplus_cons (by omega), unplus_cons (by omega)]
    exact percentDecode_byte hb (unplus r)

theorem percentDecode_encodeBytes {bs : List Nat} (hb : ∀ b ∈ bs, b < 256) :
    percentDecode (unplus ((bs.flatMap encodeByte).map Char.toNat)) = bs := by
  induction bs with
  | nil => rfl
  | cons b bs ih =>
    rw [List.flatMap_cons, List.map_append, percentDecode_encodeByte (hb b List.mem_cons_self),
      ih fun c hc => hb c (List.mem_cons_of_mem b hc)]

theorem decodeText_encodeText (s : String) : decodeText ((encodeText s).map Char.toNat) = s := by
  have hbytes : ∀ b ∈ Utf8.encode s.toList, b < 256 := fun b hb => Utf8.lt_of_mem_encode hb
  have h := percentDecode_encodeBytes hbytes
  change String.ofList (Utf8.decodeLossy (percentDecode (unplus _))) = s
  rw [encodeText, h, Utf8.decodeLossy_encode, String.ofList_toList]

theorem decodePair_encodePair (p : String × String) : decodePair ((encodePair p).map Char.toNat) = p := by
  have hname : ∀ b ∈ (encodeText p.1).map Char.toNat, (b != 61) = true := by
    intro b hb
    obtain ⟨x, hx, rfl⟩ := List.mem_map.1 hb
    exact bne_iff_ne.2 (isPart_of_mem_encodeText hx).bounds.2.2.1
  have hpair : (encodePair p).map Char.toNat =
      (encodeText p.1).map Char.toNat ++ 61 :: (encodeText p.2).map Char.toNat := by
    rw [encodePair, List.map_append, List.map_cons]
    rfl
  rw [hpair, decodePair, List.takeWhile_append_of_pos hname, List.dropWhile_append_of_pos hname,
    List.takeWhile_cons_of_neg (by decide), List.dropWhile_cons_of_neg (by decide), List.append_nil, List.drop_one,
    List.tail_cons, decodeText_encodeText, decodeText_encodeText]

theorem splitAt_of_notMem {sep : Nat} {part : List Nat} (h : sep ∉ part) : splitAt sep part = [part] := by
  induction part with
  | nil => rfl
  | cons b part ih =>
    rw [List.mem_cons, not_or] at h
    obtain ⟨hb, hpart⟩ := h
    rw [splitAt, ih hpart, if_neg (by simpa using Ne.symm hb)]

theorem splitAt_append {sep : Nat} {part : List Nat} (h : sep ∉ part) (r : List Nat) :
    splitAt sep (part ++ sep :: r) = part :: splitAt sep r := by
  induction part with
  | nil =>
    rw [List.nil_append, splitAt, if_pos (beq_self_eq_true sep)]
  | cons b part ih =>
    rw [List.mem_cons, not_or] at h
    obtain ⟨hb, hpart⟩ := h
    rw [List.cons_append, splitAt, ih hpart, if_neg (by simpa using Ne.symm hb)]

theorem amp_notMem_encodePair (p : String × String) : 38 ∉ (encodePair p).map Char.toNat := by
  intro h
  obtain ⟨x, hx, he⟩ := List.mem_map.1 h
  by_cases hxe : x = '='
  · subst hxe
    cases he
  · exact (isPart_of_mem_encodePair hx hxe).bounds.2.1 he

theorem splitAt_encode (p : String × String) (ps : List (String × String)) :
    splitAt 38 ((encode (p :: ps)).map Char.toNat) = (p :: ps).map fun q => (encodePair q).map Char.toNat := by
  induction ps generalizing p with
  | nil =>
    rw [encode, List.map_singleton, List.intercalate_singleton]
    exact splitAt_of_notMem (amp_notMem_encodePair p)
  | cons q ps ih =>
    rw [encode_cons_cons, List.map_append, List.map_cons]
    change splitAt 38 (_ ++ 38 :: _) = _
    rw [splitAt_append (amp_notMem_encodePair p), ih, List.map_cons (a := p)]

theorem decode_encode (ps : List (String × String)) : decode (encode ps) = ps := by
  cases ps with
  | nil => rfl
  | cons p ps =>
    have hascii : ∀ x ∈ encode (p :: ps), x.toNat < 0x80 := fun x hx => (isFormed_of_mem_encode hx).bounds.1
    have hfull : ∀ part ∈ (p :: ps).map (fun q => (encodePair q).map Char.toNat), (!part.isEmpty) = true := by
      intro part hpart
      obtain ⟨q, -, rfl⟩ := List.mem_map.1 hpart
      simp [encodePair]
    have hread : decodePair ∘ (fun q => (encodePair q).map Char.toNat) = id := funext decodePair_encodePair
    rw [decode, Utf8.encode_of_ascii hascii, splitAt_encode, List.filter_eq_self.2 hfull, List.map_map, hread,
      List.map_id]

end Form

end JobBoard.Text
