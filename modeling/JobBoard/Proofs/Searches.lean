import JobBoard.Proofs.Credential
import Mathlib.Data.List.TakeWhile

/-!
The four searches for credentials: headers, bearer tokens and assignments. Each treats a credential as one piece, and
what it finds stops at the first character that cannot belong to it.
-/

namespace JobBoard.Text.Redact

/-- The words that begin what is found, and the words that may stand before the value of a header. -/
def searchWords : List (List Char) := ["authorization:", "x-api-key:", "bearer", "basic"].map String.toList

theorem ascii_forall {P : Char → Prop} (h : ∀ n < 128, P (Char.ofNat n)) (c : Char) (hc : c.toNat < 128) : P c := by
  have hofNat := h c.toNat hc
  rwa [Char.ofNat_toNat] at hofNat

/-- The code points of the blanks. -/
def blankCodes : List Nat :=
  [9, 10, 11, 12, 13, 0x20, 0x85, 0xA0, 0x1680, 0x2000, 0x2001, 0x2002, 0x2003, 0x2004, 0x2005, 0x2006, 0x2007, 0x2008,
    0x2009, 0x200A, 0x2028, 0x2029, 0x202F, 0x205F, 0x3000]

theorem blank_forall {P : Char → Prop} (h : ∀ n ∈ blankCodes, P (Char.ofNat n)) (c : Char) (hc : isBlank c) : P c := by
  have hmem : c.toNat ∈ blankCodes := by
    simp only [isBlank, Bool.or_eq_true, Bool.and_eq_true, decide_eq_true_eq, beq_iff_eq] at hc
    simp only [blankCodes, List.mem_cons, List.not_mem_nil, or_false]
    omega
  have hofNat := h c.toNat hmem
  rwa [Char.ofNat_toNat] at hofNat

theorem toNat_lt_of_isAlphanum {c : Char} (h : c.isAlphanum) : c.toNat < 128 := by
  change (decide ('A'.val ≤ c.val ∧ c.val ≤ 'Z'.val) || (decide ('a'.val ≤ c.val) && decide (c.val ≤ 'z'.val)) ||
    (decide ('0'.val ≤ c.val) && decide (c.val ≤ '9'.val))) = true at h
  simp only [Bool.or_eq_true, Bool.and_eq_true, decide_eq_true_eq, UInt32.le_iff_toNat_le] at h
  have hval : c.toNat = c.val.toNat := rfl
  have hZ : 'Z'.val.toNat = 90 := rfl
  have hz : 'z'.val.toNat = 122 := rfl
  have h9 : '9'.val.toNat = 57 := rfl
  omega

theorem isSecretLetter_toNat_lt {c : Char} (h : isSecretLetter c) : c.toNat < 128 := by
  rw [isSecretLetter, Bool.or_eq_true] at h
  rcases h with h | h
  · exact toNat_lt_of_isAlphanum h
  · simp only [List.contains_iff_mem, List.mem_cons, List.not_mem_nil, or_false] at h
    rcases h with rfl | rfl | rfl | rfl | rfl | rfl <;> decide

theorem isSecretLetter_spec (c : Char) (h : isSecretLetter c) :
    isBlank c = false ∧ isHeaderValue c ∧ isTokenLetter c ∧ c ≠ '=' ∧ fold c = c.toLower ∧ fold c ≠ ':' := by
  have hlt : c.toNat < 128 := isSecretLetter_toNat_lt h
  revert h
  revert c
  apply ascii_forall
  decide

theorem not_blank_of_secretLetter (c : Char) (h : isSecretLetter c) : isBlank c = false := (isSecretLetter_spec c h).1

theorem headerValue_of_secretLetter (c : Char) (h : isSecretLetter c) : isHeaderValue c :=
  (isSecretLetter_spec c h).2.1

theorem tokenLetter_of_secretLetter (c : Char) (h : isSecretLetter c) : isTokenLetter c :=
  (isSecretLetter_spec c h).2.2.1

theorem ne_equals_of_secretLetter (c : Char) (h : isSecretLetter c) : c ≠ '=' := (isSecretLetter_spec c h).2.2.2.1

theorem isBlank_spec : ∀ c, isBlank c →
    isHeaderValue c = false ∧ isTokenLetter c = false ∧ isNameLetter c = false ∧ c ≠ '=' ∧
      ∀ w ∈ searchWords, fold c ∉ w :=
  blank_forall (by decide)

theorem not_headerValue_of_blank (c : Char) (h : isBlank c) : isHeaderValue c = false := (isBlank_spec c h).1

theorem not_tokenLetter_of_blank (c : Char) (h : isBlank c) : isTokenLetter c = false := (isBlank_spec c h).2.1

theorem not_nameLetter_of_blank (c : Char) (h : isBlank c) : isNameLetter c = false := (isBlank_spec c h).2.2.1

theorem ne_equals_of_blank (c : Char) (h : isBlank c) : c ≠ '=' := (isBlank_spec c h).2.2.2.1

theorem fold_notMem_of_blank (c : Char) (h : isBlank c) : ∀ w ∈ searchWords, fold c ∉ w := (isBlank_spec c h).2.2.2.2

theorem stop_forall {P : Char → Prop} (hblank : ∀ c, isBlank c → P c) (hequals : P '=') (hmark : P ']') (c : Char)
    (hc : isStop c) : P c := by
  simp only [isStop, Bool.or_eq_true, beq_iff_eq] at hc
  rcases hc with (hc | rfl) | rfl
  · exact hblank c hc
  · exact hequals
  · exact hmark

theorem not_tokenLetter_of_stop : ∀ c, isStop c → isTokenLetter c = false :=
  stop_forall not_tokenLetter_of_blank (by decide) (by decide)

theorem not_nameLetter_of_stop : ∀ c, isStop c → isNameLetter c = false :=
  stop_forall not_nameLetter_of_blank (by decide) (by decide)

theorem fold_notMem_of_stop : ∀ c, isStop c → ∀ w ∈ searchWords, fold c ∉ w :=
  stop_forall fold_notMem_of_blank (by decide) (by decide)

variable {w t u s q cs : List Char} {c : Char} {i : Nat}

theorem startsWith_iff : startsWith w t ↔ w <+: t.map fold := by
  induction w generalizing t with
  | nil => exact iff_of_true rfl List.nil_prefix
  | cons a w ih =>
    cases t with
    | nil => exact iff_of_false Bool.false_ne_true (by simp)
    | cons c t => rw [startsWith, Bool.and_eq_true, beq_iff_eq, ih, List.map_cons, List.cons_prefix_cons, eq_comm]

theorem startsWith_append (hc : ∀ c ∈ q.head?, fold c ∉ w) : startsWith w (t ++ q) = startsWith w t := by
  induction w generalizing t with
  | nil => rfl
  | cons a w ih =>
    cases t with
    | nil =>
      cases q with
      | nil => rfl
      | cons c q =>
        have hne : fold c ≠ a := fun heq => hc c rfl (heq ▸ List.mem_cons_self)
        change (fold c == a && startsWith w q) = false
        rw [beq_eq_false_iff_ne.2 hne, Bool.false_and]
    | cons b t =>
      rw [List.cons_append, startsWith, startsWith, ih fun c hq hmem => hc c hq (List.mem_cons_of_mem a hmem)]

theorem length_le_of_startsWith (h : startsWith w cs) (hi : cs[i]? = some c) (hc : fold c ∉ w) : w.length ≤ i := by
  by_contra hlt
  obtain ⟨r, hr⟩ := startsWith_iff.1 h
  have hget : (cs.map fold)[i]? = some (fold c) := by rw [List.getElem?_map, hi, Option.map_some]
  rw [← hr, List.getElem?_append_left (Nat.lt_of_not_le hlt)] at hget
  exact hc (List.mem_of_getElem? hget)

variable {P : Char → Bool}

theorem run_le_length (P : Char → Bool) (cs : List Char) : run P cs ≤ cs.length :=
  (List.takeWhile_prefix P).length_le

theorem run_append (P : Char → Bool) (t q : List Char) :
    run P (t ++ q) = if run P t = t.length then t.length + run P q else run P t := by
  rw [run, List.takeWhile_append, apply_ite List.length, List.length_append]
  rfl

theorem run_eq_zero (h : ∀ c ∈ q.head?, P c = false) : run P q = 0 := by
  cases q with
  | nil => rfl
  | cons c q => rw [run, List.takeWhile_cons, h c rfl]; rfl

theorem run_append_of_head (h : ∀ c ∈ q.head?, P c = false) : run P (t ++ q) = run P t := by
  rw [run_append, run_eq_zero h]
  split
  · next heq => rw [Nat.add_zero, heq]
  · rfl

theorem getElem?_run (h : cs[run P cs]? = some c) : P c = false := by
  induction cs with
  | nil => cases h
  | cons d cs ih =>
    rw [run, List.takeWhile_cons] at h
    cases hd : P d with
    | false =>
      rw [hd] at h
      obtain rfl : d = c := Option.some.inj h
      exact hd
    | true =>
      rw [hd] at h
      exact ih h

theorem exists_of_lt_run (h : i < run P cs) : ∃ c, cs[i]? = some c ∧ P c := by
  have hlt : i < (cs.takeWhile P).length := h
  refine ⟨(cs.takeWhile P)[i], ?_, List.mem_takeWhile_imp (List.getElem_mem hlt)⟩
  rw [← List.getElem?_eq_getElem hlt, ← List.getElem?_append_left hlt, List.takeWhile_append_dropWhile]

theorem run_le (hi : cs[i]? = some c) (hc : P c = false) : run P cs ≤ i := by
  by_contra hlt
  obtain ⟨d, hd, hP⟩ := exists_of_lt_run (Nat.lt_of_not_le hlt)
  rw [hi] at hd
  obtain rfl := Option.some.inj hd
  exact Bool.false_ne_true (hc.symm.trans hP)

theorem add_run_le {n : Nat} (hn : n ≤ i) (hi : cs[i]? = some c) (hc : P c = false) : n + run P (cs.drop n) ≤ i := by
  have hrun : run P (cs.drop n) ≤ i - n := run_le (by rw [List.getElem?_drop, Nat.add_sub_of_le hn, hi]) hc
  omega

theorem getElem?_add_run {n : Nat} (h : cs[n + run P (cs.drop n)]? = some c) : P c = false := by
  rw [← List.getElem?_drop] at h
  exact getElem?_run h

theorem Closed.eq_nil_or_drop (hu : Closed u) (n : Nat) : u.drop n = [] ∨ Closed (u.drop n) := by
  rcases Nat.lt_or_ge n u.length with hlt | hle
  · exact .inr (hu.drop hlt)
  · exact .inl (List.drop_eq_nil_of_le hle)

theorem IsSecret.head_append {P : Char → Bool} (hs : IsSecret s) (hP : ∀ c, isSecretLetter c → P c = false) :
    ∀ c ∈ (s ++ q).head?, P c = false := by
  obtain ⟨d, r, rfl⟩ := List.exists_cons_of_ne_nil hs.nonempty
  rintro c ⟨⟩
  exact hP _ (hs.letters _ List.mem_cons_self)

theorem run_blank_tail (hs : IsSecret s) (u q : List Char) : run isBlank (u ++ (s ++ q)) = run isBlank u :=
  run_append_of_head (hs.head_append not_blank_of_secretLetter)

/-- The characters of a value: all letters of a credential are among them, and no blank. -/
def Carries (P : Char → Bool) : Prop := (∀ c, isSecretLetter c → P c) ∧ ∀ c, isBlank c → P c = false

theorem carries_isHeaderValue : Carries isHeaderValue :=
  ⟨headerValue_of_secretLetter, not_headerValue_of_blank⟩

theorem carries_isTokenLetter : Carries isTokenLetter :=
  ⟨tokenLetter_of_secretLetter, not_tokenLetter_of_blank⟩

theorem carries_not_isBlank : Carries (!isBlank ·) :=
  ⟨fun c hc => congrArg (!·) (not_blank_of_secretLetter c hc), fun _ hc => congrArg (!·) hc⟩

theorem Carries.run_tail (hP : Carries P) (hs : IsSecret s) (hq : EndsHere q) (u : List Char) :
    run P (u ++ (s ++ q)) = if run P u = u.length then u.length + s.length else run P u := by
  have hall : run P s = s.length := by
    rw [run, List.takeWhile_eq_self_iff.2 fun c hc => hP.1 c (hs.letters c hc)]
  rw [run_append, run_append_of_head fun c hc => hP.2 c (hq.blank c hc), hall]

theorem IsSecret.not_startsWith (hs : IsSecret s) (hq : EndsHere q) (ht : t <:+ s) (hw : w ∈ searchWords) :
    ¬ startsWith w (t ++ q) := by
  rw [startsWith_append fun c hc => fold_notMem_of_blank c (hq.blank c hc) w hw, startsWith_iff]
  intro hword
  have hletters (c) (hc : c ∈ t) : isSecretLetter c := hs.letters c (ht.mem hc)
  have hsplit : ∀ w ∈ searchWords, w ∈ schemeWords ∨ ':' ∈ w := by decide
  rcases hsplit w hw with hscheme | hcolon
  · have hmap : t.map fold = t.map Char.toLower :=
      List.map_congr_left fun c hc => (isSecretLetter_spec c (hletters c hc)).2.2.2.2.1
    rw [hmap] at hword
    exact hs.unlike w hscheme (hword.isInfix.trans (ht.map Char.toLower).isInfix)
  · obtain ⟨c, hc, hfold⟩ := List.mem_map.1 (hword.mem hcolon)
    exact (isSecretLetter_spec c (hletters c hc)).2.2.2.2.2 hfold

theorem not_startsWith_blank (hw : w ∈ searchWords) (hc : isBlank c) (q : List Char) : ¬ startsWith w (c :: q) := by
  intro h
  have hle : w.length ≤ 0 := length_le_of_startsWith h List.getElem?_cons_zero (fold_notMem_of_blank c hc w hw)
  have hpos : ∀ w ∈ searchWords, ¬ w.length ≤ 0 := by decide
  exact hpos w hw hle

theorem startsWith_tail (hw : w ∈ searchWords) (hu : u = [] ∨ Closed u) (hs : IsSecret s) (hq : EndsHere q) :
    startsWith w (u ++ (s ++ q)) = startsWith w u := by
  rcases hu with rfl | hu
  · have hnil : startsWith w [] = false := by
      revert w
      decide
    rw [List.nil_append, hnil]
    exact Bool.eq_false_iff.2 (hs.not_startsWith hq List.suffix_rfl hw)
  · obtain ⟨v, c, rfl, hc⟩ := hu.exists_concat
    have hstop : fold c ∉ w := fold_notMem_of_stop c hc w hw
    rw [List.append_assoc, startsWith_append, startsWith_append]
    · rintro _ ⟨⟩
      exact hstop
    · rintro _ ⟨⟩
      exact hstop

theorem Closed.length_lt (hu : Closed u) (hw : w ∈ searchWords) (h : startsWith w u) : w.length < u.length := by
  obtain ⟨v, c, rfl, hc⟩ := hu.exists_concat
  have hle : w.length ≤ v.length :=
    length_le_of_startsWith h List.getElem?_concat_length (fold_notMem_of_stop c hc w hw)
  rw [List.length_append]
  exact Nat.lt_succ_of_le hle

theorem Closed.run_lt (hu : Closed u) (hP : ∀ c, isStop c → P c = false) : run P u < u.length := by
  obtain ⟨v, c, rfl, hc⟩ := hu.exists_concat
  rw [List.length_append]
  exact Nat.lt_succ_of_le (run_le List.getElem?_concat_length (hP c hc))

theorem add_run_le_length {n : Nat} (P : Char → Bool) (hn : n ≤ u.length) : n + run P (u.drop n) ≤ u.length := by
  have hrun : run P (u.drop n) ≤ u.length - n := (run_le_length P _).trans_eq List.length_drop
  omega

theorem IsSecret.length_ne_zero (hs : IsSecret s) : s.length ≠ 0 :=
  fun hzero => hs.nonempty (List.length_eq_zero_iff.1 hzero)

/-- A search settles if what it finds ends with a value: `z` is the part of the value that stands in the text. -/
theorem Settles.of_value {find : Search} (z : List Char) (kept start : Nat) (hP : Carries P) (hkept : kept ≤ u.length)
    (hz : start + z.length = u.length)
    (h : ∀ s q, IsSecret s → EndsHere q → find (u ++ (s ++ q)) =
      if run P (z ++ (s ++ q)) != 0 then some (kept, start + run P (z ++ (s ++ q))) else none) :
    Settles find u := by
  by_cases hfull : run P z = z.length
  · refine .through kept hkept fun s q hs hq => ?_
    have hne : z.length + s.length ≠ 0 := fun hzero => hs.length_ne_zero (Nat.add_eq_zero_iff.1 hzero).2
    rw [h s q hs hq, hP.run_tail hs hq, if_pos hfull, if_pos (bne_iff_ne.2 hne), ← Nat.add_assoc, hz]
  · by_cases hzero : run P z = 0
    · refine .nothing fun s q hs hq => ?_
      rw [h s q hs hq, hP.run_tail hs hq, if_neg hfull, hzero]
      rfl
    · refine .within kept (start + run P z) hkept ?_ fun s q hs hq => ?_
      · rw [← hz]
        exact Nat.add_le_add_left (run_le_length P z) start
      · rw [h s q hs hq, hP.run_tail hs hq, if_neg hfull, if_pos (bne_iff_ne.2 hzero)]

theorem mem_searchWords (hw : w ∈ schemeWords) : w ∈ searchWords := by
  revert w
  decide

theorem schemeLength_settles (hw : w ∈ schemeWords) (hu : u = [] ∨ Closed u) :
    ∃ o : Option Nat, (∀ n ∈ o, n ≤ u.length) ∧
      ∀ s q, IsSecret s → EndsHere q → schemeLength w (u ++ (s ++ q)) = o := by
  have hw' := mem_searchWords hw
  by_cases hstart : startsWith w u
  · have hclosed : Closed u := by
      refine hu.resolve_left fun hnil => ?_
      subst hnil
      exact absurd hstart (by revert w; decide)
    have hlt : w.length < u.length := hclosed.length_lt hw' hstart
    let r := u.drop w.length
    have hgap : run isBlank r ≤ r.length := run_le_length isBlank r
    let z := r.drop (run isBlank r)
    refine ⟨if run isBlank r != 0 && (decide (run isHeaderValue z = z.length) || run isHeaderValue z != 0)
      then some (w.length + run isBlank r) else none, fun n hn => ?_, fun s q hs hq => ?_⟩
    · split at hn
      · obtain rfl := Option.some.inj hn
        have hr : r.length = u.length - w.length := List.length_drop
        omega
      · cases hn
    · have hvalue : (run isHeaderValue (z ++ (s ++ q)) != 0) =
          (decide (run isHeaderValue z = z.length) || run isHeaderValue z != 0) := by
        rw [carries_isHeaderValue.run_tail hs hq]
        split
        · next heq => simp [heq, hs.length_ne_zero]
        · next hne => simp [hne]
      rw [schemeLength, startsWith_tail hw' hu hs hq, if_pos hstart, List.drop_append_of_le_length hlt.le]
      dsimp only
      rw [run_blank_tail hs, List.drop_append_of_le_length hgap, hvalue]
  · refine ⟨none, fun n hn => (nomatch hn), fun s q hs hq => ?_⟩
    rw [schemeLength, startsWith_tail hw' hu hs hq, if_neg hstart]

theorem findSome?_schemeLength_settles {schemes : List (List Char)} (hschemes : ∀ w ∈ schemes, w ∈ schemeWords)
    (hu : u = [] ∨ Closed u) :
    ∃ o : Option Nat, (∀ n ∈ o, n ≤ u.length) ∧
      ∀ s q, IsSecret s → EndsHere q → (schemes.findSome? fun w => schemeLength w (u ++ (s ++ q))) = o := by
  induction schemes with
  | nil => exact ⟨none, fun n hn => (nomatch hn), fun _ _ _ _ => rfl⟩
  | cons w schemes ih =>
    obtain ⟨o, ho, hlength⟩ := schemeLength_settles (hschemes w List.mem_cons_self) hu
    cases o with
    | some n => exact ⟨some n, ho, fun s q hs hq => by rw [List.findSome?_cons, hlength s q hs hq]⟩
    | none =>
      obtain ⟨o, ho, hrest⟩ := ih fun w hw => hschemes w (List.mem_cons_of_mem _ hw)
      exact ⟨o, ho, fun s q hs hq => by rw [List.findSome?_cons, hlength s q hs hq, hrest s q hs hq]⟩

variable {name : List Char} {schemes : List (List Char)}

theorem header_settles (hname : name ∈ searchWords) (hschemes : ∀ w ∈ schemes, w ∈ schemeWords) (hu : Closed u) :
    Settles (header name schemes) u := by
  by_cases hstart : startsWith name u
  · have hlt : name.length < u.length := hu.length_lt hname hstart
    let kept := name.length + run isBlank (u.drop name.length)
    have hkept : kept ≤ u.length := add_run_le_length isBlank hlt.le
    obtain ⟨o, ho, hscheme⟩ := findSome?_schemeLength_settles hschemes (hu.eq_nil_or_drop kept)
    let scheme := o.getD 0
    have hle : scheme ≤ (u.drop kept).length := by
      cases o with
      | none => exact Nat.zero_le _
      | some n => exact ho n rfl
    refine .of_value ((u.drop kept).drop scheme) kept (kept + scheme) carries_isHeaderValue hkept ?_
      fun s q hs hq => ?_
    · rw [List.length_drop] at hle
      rw [List.length_drop, List.length_drop]
      omega
    · rw [header, startsWith_tail hname (.inr hu) hs hq, if_pos hstart, List.drop_append_of_le_length hlt.le,
        run_blank_tail hs]
      dsimp only
      rw [List.drop_append_of_le_length hkept, hscheme s q hs hq, List.drop_append_of_le_length hle]
  · refine .nothing fun s q hs hq => ?_
    rw [header, startsWith_tail hname (.inr hu) hs hq, if_neg hstart]

theorem header_regular (hname : name ∈ searchWords) (hschemes : ∀ w ∈ schemes, w ∈ schemeWords) :
    Regular (header name schemes) where
  settles u hu := header_settles hname hschemes hu
  silent s q t hs hq _ ht := by rw [header, if_neg (hs.not_startsWith hq ht hname)]
  skips c q hc := by rw [header, if_neg (not_startsWith_blank hname hc q)]

def bearerWord : List Char := "bearer".toList

theorem bearerWord_mem : bearerWord ∈ searchWords := by decide

theorem bearer_eq (cs : List Char) : bearer cs =
    if startsWith bearerWord cs then
      let gap := run isBlank (cs.drop bearerWord.length)
      let kept := bearerWord.length + gap
      let token := run isTokenLetter (cs.drop kept)
      if gap != 0 && token != 0 then some (kept, kept + token + run (· == '=') (cs.drop (kept + token))) else none
    else none :=
  rfl

theorem bearer_settles (hu : Closed u) : Settles bearer u := by
  by_cases hstart : startsWith bearerWord u
  · have hlt : bearerWord.length < u.length := hu.length_lt bearerWord_mem hstart
    let gap := run isBlank (u.drop bearerWord.length)
    let kept := bearerWord.length + gap
    have hkept : kept ≤ u.length := add_run_le_length isBlank hlt.le
    let z := u.drop kept
    have hbearer (s q) (hs : IsSecret s) (hq : EndsHere q) : bearer (u ++ (s ++ q)) =
        if gap != 0 && run isTokenLetter (z ++ (s ++ q)) != 0 then
          some (kept, kept + run isTokenLetter (z ++ (s ++ q)) +
            run (· == '=') ((u ++ (s ++ q)).drop (kept + run isTokenLetter (z ++ (s ++ q))))) else none := by
      rw [bearer_eq, startsWith_tail bearerWord_mem (.inr hu) hs hq, if_pos hstart,
        List.drop_append_of_le_length hlt.le, run_blank_tail hs]
      dsimp only
      rw [List.drop_append_of_le_length hkept]
    by_cases hgap : gap = 0
    · exact .nothing fun s q hs hq => by rw [hbearer s q hs hq, hgap]; rfl
    rcases hu.eq_nil_or_drop kept with hz | hz
    · -- the token is the credential: no equals sign follows it
      have hlength : kept = u.length := Nat.le_antisymm hkept (List.drop_eq_nil_iff.1 hz)
      refine .through kept hkept fun s q hs hq => ?_
      have htoken : run isTokenLetter (z ++ (s ++ q)) = s.length := by
        have hnil : z = [] := hz
        have hfull : run isTokenLetter [] = ([] : List Char).length := rfl
        rw [hnil, carries_isTokenLetter.run_tail hs hq, if_pos hfull, List.length_nil, Nat.zero_add]
      have hpadding : run (· == '=') q = 0 :=
        run_eq_zero fun c hc => beq_eq_false_iff_ne.2 (ne_equals_of_blank c (hq.blank c hc))
      have hdrop : (u ++ (s ++ q)).drop (u.length + s.length) = q := by
        rw [← List.append_assoc, ← List.length_append, List.drop_left]
      rw [hbearer s q hs hq, htoken, hlength, hdrop, hpadding, bne_iff_ne.2 hgap, bne_iff_ne.2 hs.length_ne_zero]
      rfl
    · -- the token ends before the credential, and so do the equals signs behind it
      have htoken (s q) (hs : IsSecret s) (hq : EndsHere q) :
          run isTokenLetter (z ++ (s ++ q)) = run isTokenLetter z := by
        rw [carries_isTokenLetter.run_tail hs hq, if_neg (hz.run_lt not_tokenLetter_of_stop).ne]
      have hle : kept + run isTokenLetter z ≤ u.length := add_run_le_length isTokenLetter hkept
      by_cases hzero : run isTokenLetter z = 0
      · exact .nothing fun s q hs hq => by rw [hbearer s q hs hq, htoken s q hs hq, hzero, Bool.and_comm]; rfl
      · refine .within kept (kept + run isTokenLetter z + run (· == '=') (u.drop (kept + run isTokenLetter z))) hkept
          (add_run_le_length _ hle) fun s q hs hq => ?_
        have hpadding := hs.head_append (q := q) (P := (· == '=')) fun c hc =>
          beq_eq_false_iff_ne.2 (ne_equals_of_secretLetter c hc)
        rw [hbearer s q hs hq, htoken s q hs hq, List.drop_append_of_le_length hle, run_append_of_head hpadding,
          bne_iff_ne.2 hgap, bne_iff_ne.2 hzero]
        rfl
  · refine .nothing fun s q hs hq => ?_
    rw [bearer_eq, startsWith_tail bearerWord_mem (.inr hu) hs hq, if_neg hstart]

theorem bearer_regular : Regular bearer where
  settles _ hu := bearer_settles hu
  silent s q t hs hq _ ht := by rw [bearer_eq, if_neg (hs.not_startsWith hq ht bearerWord_mem)]
  skips c q hc := by rw [bearer_eq, if_neg (not_startsWith_blank bearerWord_mem hc q)]

theorem assignment_eq (cs : List Char) : assignment cs =
    match cs.drop (run isNameLetter cs) with
    | '=' :: value =>
      let hidden := run (!isBlank ·) value
      if secretEndings.any (startsWith · (cs.takeWhile isNameLetter).reverse) && hidden != 0 then
        some (run isNameLetter cs + 1, run isNameLetter cs + 1 + hidden)
      else none
    | _ => none :=
  rfl

theorem assignment_eq_none (h : cs[run isNameLetter cs]? ≠ some '=') : assignment cs = none := by
  rw [assignment_eq]
  split
  · next value hdrop =>
    rw [← List.head?_drop, hdrop] at h
    exact absurd rfl h
  · rfl

theorem assignment_settles (hu : Closed u) : Settles assignment u := by
  let n := run isNameLetter u
  have hlt : n < u.length := hu.run_lt not_nameLetter_of_stop
  obtain ⟨d, v, hv⟩ := List.exists_cons_of_ne_nil fun hnil => Nat.not_le.2 hlt (List.drop_eq_nil_iff.1 hnil)
  have hne : (u.takeWhile isNameLetter).length ≠ u.length := hlt.ne
  have hname (x : List Char) : (u ++ x).takeWhile isNameLetter = u.takeWhile isNameLetter := by
    rw [List.takeWhile_append, if_neg hne]
  have hrun (x : List Char) : run isNameLetter (u ++ x) = n := congrArg List.length (hname x)
  have hdrop (x : List Char) : (u ++ x).drop (run isNameLetter (u ++ x)) = d :: (v ++ x) := by
    rw [hrun, List.drop_append_of_le_length hlt.le, hv, List.cons_append]
  by_cases hd : d = '='
  · subst hd
    have hlength : n + 1 + v.length = u.length := by
      have hlengths := congrArg List.length hv
      rw [List.length_drop, List.length_cons] at hlengths
      omega
    have hassignment (x : List Char) : assignment (u ++ x) =
        if secretEndings.any (startsWith · (u.takeWhile isNameLetter).reverse) && run (!isBlank ·) (v ++ x) != 0 then
          some (n + 1, n + 1 + run (!isBlank ·) (v ++ x)) else none := by
      rw [assignment_eq, hdrop]
      dsimp only
      rw [hname, hrun]
      rfl
    by_cases hending : secretEndings.any (startsWith · (u.takeWhile isNameLetter).reverse)
    · refine .of_value v (n + 1) (n + 1) carries_not_isBlank hlt hlength fun s q _ _ => ?_
      rw [hassignment, hending, Bool.true_and]
    · refine .nothing fun s q _ _ => ?_
      rw [hassignment, Bool.eq_false_iff.2 hending]
      rfl
  · refine .nothing fun s q _ _ => assignment_eq_none ?_
    rw [← List.head?_drop, hdrop]
    exact fun h => hd (Option.some.inj h)

theorem assignment_regular : Regular assignment where
  settles _ hu := assignment_settles hu
  silent s q t hs hq _ ht := by
    refine assignment_eq_none fun hget => ?_
    have hrun : run isNameLetter (t ++ q) = run isNameLetter t :=
      run_append_of_head fun c hc => not_nameLetter_of_blank c (hq.blank c hc)
    rw [hrun] at hget
    rcases Nat.lt_or_ge (run isNameLetter t) t.length with hlt | hge
    · rw [List.getElem?_append_left hlt] at hget
      exact ne_equals_of_secretLetter _ (hs.letters _ (ht.mem (List.mem_of_getElem? hget))) rfl
    · rw [Nat.le_antisymm (run_le_length _ _) hge, List.getElem?_append_right (Nat.le_refl _), Nat.sub_self,
        ← List.head?_eq_getElem?] at hget
      exact ne_equals_of_blank _ (hq.blank _ hget) rfl
  skips c q hc := by
    refine assignment_eq_none fun hget => ?_
    rw [run_eq_zero (q := c :: q) (by rintro _ ⟨⟩; exact not_nameLetter_of_blank c hc), List.getElem?_cons_zero] at hget
    exact ne_equals_of_blank c hc (Option.some.inj hget)

theorem finders_regular : ∀ find ∈ finders, Regular find := by
  simp only [finders, List.mem_cons, List.not_mem_nil, or_false]
  rintro find (rfl | rfl | rfl | rfl)
  · exact header_regular (by decide) (by decide)
  · exact header_regular (by decide) (by decide)
  · exact bearer_regular
  · exact assignment_regular

end JobBoard.Text.Redact
