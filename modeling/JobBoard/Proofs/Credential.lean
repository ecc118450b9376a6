import JobBoard.Proofs.Scrubbing
import Mathlib.Data.List.Infix

/-!
A text with a credential in it, seen by one search after the other. A search is regular if it treats a credential as
one piece: what it finds begins before the credential and ends before it or with it. What a text of regular searches
leaves of the credential is then known from the text before it alone, and a credential of one letter shows it.
-/

namespace JobBoard.Text.Redact

def schemeWords : List (List Char) := ["bearer", "basic"].map String.toList

def isSecretLetter (c : Char) : Bool := c.isAlphanum || ['-', '.', '_', '~', '+', '/'].contains c

/-- A credential: at least one letter, and no scheme word in it, whatever the case of their letters. -/
structure IsSecret (s : List Char) : Prop where
  nonempty : s ≠ []
  all_letters : s.all isSecretLetter
  unlike : ∀ w ∈ schemeWords, ¬ w <:+: s.map Char.toLower

theorem IsSecret.letters {s : List Char} (hs : IsSecret s) : ∀ c ∈ s, isSecretLetter c :=
  List.all_eq_true.1 hs.all_letters

def sample : List Char := ['x']

theorem sample_isSecret : IsSecret sample := ⟨by decide, by decide, by decide⟩

/-- What stands behind a credential begins with a blank. -/
def EndsHere (q : List Char) : Prop := q.head?.all isBlank

theorem endsHere_nil : EndsHere [] := rfl

theorem EndsHere.blank {q : List Char} (hq : EndsHere q) : ∀ c ∈ q.head?, isBlank c := (Option.all_eq_true _ _).1 hq

/-- The characters behind which a credential stands. -/
def isStop (c : Char) : Bool := isBlank c || c == '=' || c == ']'

/-- A credential can stand behind this text. -/
def Closed (u : List Char) : Prop := ∃ c, u.getLast? = some c ∧ isStop c

namespace Closed

variable {u t : List Char}

theorem exists_concat (h : Closed u) : ∃ v c, u = v ++ [c] ∧ isStop c := by
  obtain ⟨c, hlast, hc⟩ := h
  obtain ⟨v, rfl⟩ := List.getLast?_eq_some_iff.1 hlast
  exact ⟨v, c, rfl, hc⟩

theorem concat (v : List Char) {c : Char} (hc : isStop c) : Closed (v ++ [c]) :=
  ⟨c, List.getLast?_concat, hc⟩

theorem suffix (h : Closed u) (ht : t ≠ []) (hsuffix : t <:+ u) : Closed t := by
  obtain ⟨v, rfl⟩ := hsuffix
  obtain ⟨c, hlast, hc⟩ := h
  rw [List.getLast?_append_of_ne_nil v ht] at hlast
  exact ⟨c, hlast, hc⟩

theorem drop (h : Closed u) {n : Nat} (hn : n < u.length) : Closed (u.drop n) :=
  h.suffix (by rwa [Ne, List.drop_eq_nil_iff, Nat.not_le]) (List.drop_suffix n u)

end Closed

/-- What a search finds where the text `u` begins and a credential stands behind it: nothing, or something within
`u`, or something that ends with the credential. It is the same for every credential. -/
inductive Settles (find : Search) (u : List Char) : Prop
  | nothing (h : ∀ s q, IsSecret s → EndsHere q → find (u ++ (s ++ q)) = none)
  | within (kept length : Nat) (hkept : kept ≤ u.length) (hlength : length ≤ u.length)
      (h : ∀ s q, IsSecret s → EndsHere q → find (u ++ (s ++ q)) = some (kept, length))
  | through (kept : Nat) (hkept : kept ≤ u.length)
      (h : ∀ s q, IsSecret s → EndsHere q → find (u ++ (s ++ q)) = some (kept, u.length + s.length))

/-- A search that treats a credential as one piece. -/
structure Regular (find : Search) : Prop where
  settles : ∀ u, Closed u → Settles find u
  silent : ∀ s q t, IsSecret s → EndsHere q → t ≠ [] → t <:+ s → find (t ++ q) = none
  skips : ∀ c q, isBlank c → find (c :: q) = none

namespace Regular

variable {find : Search} {u s q : List Char} {n : Nat}

/-- One search over a text with a credential: what it makes of the text before is the same for every credential, and
it finds nothing of the credential or all of it. -/
theorem pass (hfind : Regular find) (hu : u = [] ∨ Closed u) (hn : n ≤ u.length) :
    ∃ v, (∀ s q, IsSecret s → EndsHere q → scrubBefore find n u (s ++ q) = v) ∧
      ((∀ s q, IsSecret s → EndsHere q → overlap find n u (s ++ q) = 0) ∨
        ∀ s q, IsSecret s → EndsHere q → overlap find n u (s ++ q) = s.length) := by
  induction u generalizing n with
  | nil =>
    obtain rfl : n = 0 := Nat.le_zero.1 hn
    exact ⟨[], fun _ _ _ _ => rfl, .inl fun _ _ _ _ => rfl⟩
  | cons c u ih =>
    have hclosed : Closed (c :: u) := hu.resolve_left (List.cons_ne_nil c u)
    have hrest : u = [] ∨ Closed u :=
      Classical.or_iff_not_imp_left.2 fun hne => hclosed.suffix hne (List.suffix_cons c u)
    cases n with
    | succ n => exact ih hrest (Nat.le_of_succ_le_succ hn)
    | zero =>
      cases hfind.settles _ hclosed with
      | nothing h =>
        obtain ⟨v, hv, ho⟩ := ih hrest (Nat.zero_le _)
        refine ⟨c :: v, fun s q hs hq => ?_, ho.imp (fun ho s q hs hq => ?_) fun ho s q hs hq => ?_⟩
        · rw [scrubBefore, h s q hs hq, ← hv s q hs hq]
        · rw [overlap, h s q hs hq]
          exact ho s q hs hq
        · rw [overlap, h s q hs hq]
          exact ho s q hs hq
      | within kept length hkept hlength h =>
        obtain ⟨v, hv, ho⟩ := ih hrest (Nat.sub_le_of_le_add hlength : length - 1 ≤ u.length)
        refine ⟨(c :: u).take kept ++ mark ++ v, fun s q hs hq => ?_,
          ho.imp (fun ho s q hs hq => ?_) fun ho s q hs hq => ?_⟩
        · rw [scrubBefore, h s q hs hq, ← hv s q hs hq]
          dsimp only
          rw [List.take_append_of_le_length hkept]
        · rw [overlap, h s q hs hq]
          exact ho s q hs hq
        · rw [overlap, h s q hs hq]
          exact ho s q hs hq
      | through kept hkept h =>
        have hle (s : List Char) : u.length ≤ (c :: u).length + s.length - 1 := by
          rw [List.length_cons]
          omega
        refine ⟨(c :: u).take kept ++ mark, fun s q hs hq => ?_, .inr fun s q hs hq => ?_⟩
        · rw [scrubBefore, h s q hs hq]
          dsimp only
          rw [List.take_append_of_le_length hkept, scrubBefore_of_length_le find _ (hle s), List.append_nil]
        · rw [overlap, h s q hs hq]
          dsimp only
          rw [overlap_of_length_le find _ (hle s), List.length_cons]
          omega

theorem scrubBefore_eq (hfind : Regular find) (hu : Closed u) (hs : IsSecret s) (hq : EndsHere q) :
    scrubBefore find 0 u (s ++ q) = scrubBefore find 0 u sample := by
  obtain ⟨v, hv, -⟩ := hfind.pass (.inr hu) (Nat.zero_le _)
  exact (hv s q hs hq).trans (hv sample [] sample_isSecret endsHere_nil).symm

theorem overlap_eq (hfind : Regular find) (hu : Closed u) (hs : IsSecret s) (hq : EndsHere q) :
    overlap find 0 u (s ++ q) = if 0 < overlap find 0 u sample then s.length else 0 := by
  obtain ⟨-, -, ho | ho⟩ := hfind.pass (.inr hu) (Nat.zero_le _)
  · have hsample : overlap find 0 u sample = 0 := ho sample [] sample_isSecret endsHere_nil
    rw [hsample, if_neg (Nat.lt_irrefl 0), ho s q hs hq]
  · have hsample : overlap find 0 u sample = 1 := ho sample [] sample_isSecret endsHere_nil
    rw [hsample, if_pos Nat.one_pos, ho s q hs hq]

theorem closed_scrubBefore (hu : Closed u) (x : List Char) : Closed (scrubBefore find 0 u x) := by
  obtain ⟨v, c, rfl, hc⟩ := hu.exists_concat
  obtain ⟨v', b, hv', rfl | rfl⟩ := scrubBefore_concat find v c x
  · exact hv' ▸ Closed.concat v' hc
  · exact hv' ▸ Closed.concat v' (by decide)

theorem endsHere_scrub (hfind : Regular find) (hq : EndsHere q) : EndsHere (scrub find 0 q) := by
  cases q with
  | nil => exact endsHere_nil
  | cons c q =>
    have hc : isBlank c := hq.blank c rfl
    rw [scrub, hfind.skips c q hc]
    exact hc

theorem scrub_of_covered (hfind : Regular find) (hu : Closed u) (hs : IsSecret s) (hq : EndsHere q)
    (h : 0 < overlap find 0 u sample) :
    scrub find 0 (u ++ (s ++ q)) = scrubBefore find 0 u sample ++ scrub find 0 q := by
  rw [scrub_append, hfind.scrubBefore_eq hu hs hq, hfind.overlap_eq hu hs hq, if_pos h, scrub_skip]

theorem scrub_of_not_covered (hfind : Regular find) (hu : Closed u) (hs : IsSecret s) (hq : EndsHere q)
    (h : ¬ 0 < overlap find 0 u sample) :
    scrub find 0 (u ++ (s ++ q)) = scrubBefore find 0 u sample ++ (s ++ scrub find 0 q) := by
  rw [scrub_append, hfind.scrubBefore_eq hu hs hq, hfind.overlap_eq hu hs hq, if_neg h,
    scrub_of_none fun t ht hsuffix => hfind.silent s q t hs hq ht hsuffix]

end Regular

def sweep (finds : List Search) (cs : List Char) : List Char := finds.foldl (fun cs find => scrub find 0 cs) cs

/-- Whether one of the searches covers a credential that stands behind `u`. -/
def hides : List Search → List Char → Bool
  | [], _ => false
  | find :: finds, u => decide (0 < overlap find 0 u sample) || hides finds (scrubBefore find 0 u sample)

variable {finds : List Search} {u s s' q : List Char}

theorem sweep_eq_of_hides (hfinds : ∀ find ∈ finds, Regular find) (hu : Closed u) (hs : IsSecret s)
    (hs' : IsSecret s') (hq : EndsHere q) (h : hides finds u) :
    sweep finds (u ++ (s ++ q)) = sweep finds (u ++ (s' ++ q)) := by
  induction finds generalizing u q with
  | nil => cases h
  | cons find finds ih =>
    have hfind : Regular find := hfinds find List.mem_cons_self
    rw [sweep, sweep, List.foldl_cons, List.foldl_cons]
    by_cases hcovered : 0 < overlap find 0 u sample
    · rw [hfind.scrub_of_covered hu hs hq hcovered, hfind.scrub_of_covered hu hs' hq hcovered]
    · rw [hfind.scrub_of_not_covered hu hs hq hcovered, hfind.scrub_of_not_covered hu hs' hq hcovered]
      rw [hides, decide_eq_false hcovered, Bool.false_or] at h
      exact ih (fun f hf => hfinds f (List.mem_cons_of_mem find hf)) (Regular.closed_scrubBefore hu sample)
        (hfind.endsHere_scrub hq) h

theorem sweep_of_not_hides (hfinds : ∀ find ∈ finds, Regular find) (hu : Closed u) (h : ¬ hides finds u) :
    ∃ v, ∀ s, IsSecret s → sweep finds (u ++ s) = v ++ s := by
  induction finds generalizing u with
  | nil => exact ⟨u, fun _ _ => rfl⟩
  | cons find finds ih =>
    have hfind : Regular find := hfinds find List.mem_cons_self
    rw [hides, Bool.or_eq_true, decide_eq_true_eq, not_or] at h
    obtain ⟨v, hv⟩ := ih (fun f hf => hfinds f (List.mem_cons_of_mem find hf))
      (Regular.closed_scrubBefore hu sample) h.2
    refine ⟨v, fun s hs => ?_⟩
    have hscrub := hfind.scrub_of_not_covered hu hs endsHere_nil h.1
    rw [scrub, List.append_nil] at hscrub
    rw [sweep, List.foldl_cons, hscrub]
    exact hv s hs

end JobBoard.Text.Redact
