import JobBoard.Proofs.Searches

/-!
Where what is found ends. A value goes on as long as it can, so that the character behind it does not belong to it;
and a blank is gone over only behind the words of a search, so that a separator before a blank keeps two parts of a
text apart.
-/

namespace JobBoard.Text.Redact

variable {w name cs : List Char} {schemes : List (List Char)} {i k l : Nat} {b c : Char}

/-- The characters that belong to no word of a search and to no token. -/
def isSeparator (c : Char) : Bool := !isBlank c && !isTokenLetter c && c != '=' && fold c != ':'

theorem isSeparator_spec {c : Char} (h : isSeparator c) :
    isBlank c = false ∧ isTokenLetter c = false ∧ c ≠ '=' ∧ ∀ w ∈ searchWords, fold c ∉ w := by
  simp only [isSeparator, Bool.and_eq_true, Bool.not_eq_true', bne_iff_ne] at h
  obtain ⟨⟨⟨hblank, htoken⟩, hequals⟩, hcolon⟩ := h
  refine ⟨hblank, htoken, hequals, fun w hw hmem => ?_⟩
  have hletters : ∀ w ∈ searchWords, w.all fun d => d == ':' || fold d == d && isTokenLetter d := by decide
  have hletter := List.all_eq_true.1 (hletters w hw) (fold c) hmem
  rw [Bool.or_eq_true, Bool.and_eq_true, beq_iff_eq, beq_iff_eq] at hletter
  obtain heq | ⟨hfold, hd⟩ := hletter
  · exact hcolon heq
  · simp only [isTokenLetter, hfold] at hd htoken
    exact Bool.false_ne_true (htoken.symm.trans hd)

theorem header_some (h : header name schemes cs = some (k, l)) :
    startsWith name cs ∧ k = name.length + run isBlank (cs.drop name.length) ∧
      ∃ n, (n = 0 ∨ ∃ w ∈ schemes, schemeLength w (cs.drop k) = some n) ∧
        l = k + n + run isHeaderValue (cs.drop (k + n)) := by
  rw [header] at h
  split at h
  · next hstart =>
    dsimp only at h
    split at h
    · obtain ⟨rfl, rfl⟩ := Prod.mk.inj (Option.some.inj h)
      refine ⟨hstart, rfl, _, ?_, by rw [List.drop_drop]⟩
      let value := cs.drop (name.length + run isBlank (cs.drop name.length))
      cases ho : schemes.findSome? fun w => schemeLength w value with
      | none => exact .inl rfl
      | some n => exact .inr (List.exists_of_findSome?_eq_some ho)
    · cases h
  · cases h

theorem header_end (h : header name schemes cs = some (k, l)) (hc : cs[l]? = some c) : isHeaderValue c = false := by
  obtain ⟨-, -, n, -, rfl⟩ := header_some h
  exact getElem?_add_run hc

theorem schemeLength_le {n : Nat} (h : schemeLength w cs = some n) (hi : cs[i]? = some b) (hb : isBlank b = false)
    (hword : fold b ∉ w) : n ≤ i := by
  rw [schemeLength] at h
  split at h
  · next hstart =>
    dsimp only at h
    split at h
    · obtain rfl := Option.some.inj h
      exact add_run_le (length_le_of_startsWith hstart hi hword) hi hb
    · cases h
  · cases h

theorem header_le (h : header name schemes cs = some (k, l)) (hi : cs[i]? = some b) (hb : isBlank b = false)
    (hwords : ∀ w ∈ schemes, fold b ∉ w) (hname : name.length ≤ i) (hnext : cs[i + 1]? = some c) (hc : isBlank c) :
    l ≤ i + 1 := by
  obtain ⟨-, hk, n, hn, rfl⟩ := header_some h
  have hki : k ≤ i := hk ▸ add_run_le hname hi hb
  have hni : k + n ≤ i := by
    rcases hn with rfl | ⟨w, hw, hn⟩
    · exact hki
    · have hvalue : (cs.drop k)[i - k]? = some b := by rw [List.getElem?_drop, Nat.add_sub_of_le hki, hi]
      have := schemeLength_le hn hvalue hb (hwords w hw)
      omega
  exact add_run_le (Nat.le_succ_of_le hni) hnext (not_headerValue_of_blank c hc)

theorem bearer_some (h : bearer cs = some (k, l)) :
    startsWith bearerWord cs ∧ k = bearerWord.length + run isBlank (cs.drop bearerWord.length) ∧
      0 < run isBlank (cs.drop bearerWord.length) ∧
      l = k + run isTokenLetter (cs.drop k) + run (· == '=') (cs.drop (k + run isTokenLetter (cs.drop k))) := by
  rw [bearer_eq] at h
  split at h
  · next hstart =>
    dsimp only at h
    split at h
    · next hgap =>
      rw [Bool.and_eq_true, bne_iff_ne] at hgap
      obtain ⟨rfl, rfl⟩ := Prod.mk.inj (Option.some.inj h)
      exact ⟨hstart, rfl, Nat.pos_of_ne_zero hgap.1, rfl⟩
    · cases h
  · cases h

theorem bearer_end (h : bearer cs = some (k, l)) (hc : cs[l]? = some c) :
    c ≠ '=' ∧ (isTokenLetter c → cs[l - 1]? = some '=') := by
  obtain ⟨-, -, -, rfl⟩ := bearer_some h
  refine ⟨fun heq => ?_, fun htoken => ?_⟩
  · subst heq
    exact absurd (getElem?_add_run hc) (by decide)
  · rcases Nat.eq_zero_or_pos (run (· == '=') (cs.drop (k + run isTokenLetter (cs.drop k)))) with hzero | hpos
    · rw [hzero] at hc
      exact absurd htoken (Bool.eq_false_iff.1 (getElem?_add_run hc))
    · obtain ⟨d, hd, heq⟩ := exists_of_lt_run (Nat.sub_one_lt hpos.ne')
      rw [beq_iff_eq] at heq
      rw [List.getElem?_drop, ← Nat.add_sub_assoc hpos] at hd
      rw [hd, heq]

theorem bearer_kept (h : bearer cs = some (k, l)) : ∃ v b, cs.take k = v ++ [b] ∧ isBlank b := by
  obtain ⟨-, rfl, hpos, -⟩ := bearer_some h
  obtain ⟨n, hn⟩ := Nat.exists_eq_succ_of_ne_zero hpos.ne'
  obtain ⟨b, hb, hblank⟩ := exists_of_lt_run (hn ▸ Nat.lt_succ_self n)
  rw [List.getElem?_drop] at hb
  refine ⟨cs.take (bearerWord.length + n), b, ?_, hblank⟩
  rw [hn, Nat.add_succ, List.take_add_one, hb]
  rfl

theorem bearer_le (h : bearer cs = some (k, l)) (hi : cs[i]? = some b) (hb : isSeparator b) : l ≤ i := by
  obtain ⟨hblank, htoken, hequals, hwords⟩ := isSeparator_spec hb
  obtain ⟨hstart, rfl, -, rfl⟩ := bearer_some h
  have hword : bearerWord.length ≤ i := length_le_of_startsWith hstart hi (hwords _ bearerWord_mem)
  exact add_run_le (add_run_le (add_run_le hword hi hblank) hi htoken) hi (beq_eq_false_iff_ne.2 hequals)

theorem assignment_some (h : assignment cs = some (k, l)) :
    cs[run isNameLetter cs]? = some '=' ∧
      l = run isNameLetter cs + 1 + run (!isBlank ·) (cs.drop (run isNameLetter cs + 1)) := by
  rw [assignment_eq] at h
  split at h
  · next value hdrop =>
    dsimp only at h
    split at h
    · obtain ⟨rfl, rfl⟩ := Prod.mk.inj (Option.some.inj h)
      rw [← List.head?_drop, ← List.drop_drop, hdrop]
      exact ⟨rfl, rfl⟩
    · cases h
  · cases h

theorem assignment_end (h : assignment cs = some (k, l)) (hc : cs[l]? = some c) : isBlank c := by
  obtain ⟨-, rfl⟩ := assignment_some h
  simpa using getElem?_add_run hc

theorem assignment_le (h : assignment cs = some (k, l)) (hi : cs[i]? = some c) (hc : isBlank c) : l ≤ i := by
  obtain ⟨hget, rfl⟩ := assignment_some h
  have hle : run isNameLetter cs ≤ i := run_le hi (not_nameLetter_of_blank c hc)
  have hne : run isNameLetter cs ≠ i := by
    rintro rfl
    rw [hi] at hget
    exact ne_equals_of_blank c hc (Option.some.inj hget)
  exact add_run_le (Nat.lt_of_le_of_ne hle hne) hi (congrArg (!·) hc)

theorem length_le_of_finder {find : Search} (hfind : find ∈ finders) (h : find cs = some (k, l))
    (hi : cs[i]? = some b) (hb : isSeparator b) (hnext : cs[i + 1]? = some c) (hc : isBlank c) : l ≤ i + 1 := by
  obtain ⟨hblank, -, -, hwords⟩ := isSeparator_spec hb
  simp only [finders, List.mem_cons, List.not_mem_nil, or_false] at hfind
  rcases hfind with rfl | rfl | rfl | rfl
  · exact header_le h hi hblank (fun w hw => hwords w (mem_searchWords hw))
      (length_le_of_startsWith (header_some h).1 hi (hwords _ (by decide))) hnext hc
  · exact header_le h hi hblank (List.forall_mem_nil _)
      (length_le_of_startsWith (header_some h).1 hi (hwords _ (by decide))) hnext hc
  · exact Nat.le_succ_of_le (bearer_le h hi hb)
  · exact assignment_le h hnext hc

end JobBoard.Text.Redact
