import JobBoard.Proofs.SearchEnds
import JobBoard.Board.Fetch

/-!
Which credentials a redacted text shows. A credential behind a marker is hidden, unless something that one of the
searches finds in the text before the marker ends within the marker: then the marker is no longer there when its own
search comes to it.
-/

namespace JobBoard.Text.Redact

def isUpperNameLetter (c : Char) : Bool := c.isUpper || c.isDigit || c == '_'

structure SecretName where
  text : String
  all_letters : text.toList.all isUpperNameLetter
  ending : ∃ e ∈ ["KEY", "TOKEN", "SECRET", "PASSWORD"].map String.toList, e <:+ text.toList

theorem SecretName.letters (name : SecretName) : ∀ c ∈ name.text.toList, isUpperNameLetter c :=
  List.all_eq_true.1 name.all_letters

/-- What stands right before a credential. -/
inductive Marker
  | bearerHeader
  | basicHeader
  | keyHeader
  | bearer
  | assignment (name : SecretName)

namespace Marker

def text : Marker → String
  | bearerHeader => "Authorization: Bearer "
  | basicHeader => "Authorization: Basic "
  | keyHeader => "X-API-Key: "
  | bearer => "Bearer "
  | assignment name => name.text ++ "="

def letters (m : Marker) : List Char := m.text.toList

end Marker

/-- Whether something that is found in `p` ends within the text `m` behind it, when the searches run one after the
other and a credential follows `m`. -/
def isCut (m : List Char) : List Search → List Char → Bool
  | [], _ => false
  | find :: finds, p =>
    if overlap find 0 p (m ++ sample) = 0 then isCut m finds (scrubBefore find 0 p (m ++ sample))
    else decide (overlap find 0 p (m ++ sample) ≤ m.length)

/-- Whether a search up to the marker's own cuts the marker behind the text `p`. What is cut of the first header is
`Authorization:`, and its bearer token is still found. -/
def Marker.isCutBehind (p : List Char) : Marker → Bool
  | .bearerHeader => false
  | .basicHeader => isCut (letters .basicHeader) (finders.take 1) p
  | .keyHeader => isCut (letters .keyHeader) (finders.take 2) p
  | .bearer => isCut (letters .bearer) (finders.take 3) p
  | .assignment name => isCut (letters (.assignment name)) finders p

variable {find : Search} {finds fs : List Search} {m p v z : List Char} {n : Nat}

/-- A text that ends with a separator and a blank. -/
def Separated (v : List Char) : Prop := ∃ w c, v = w ++ [c] ++ [' '] ∧ isSeparator c

theorem Separated.pass (hv : Separated v) (hfind : find ∈ finders) (x : List Char) :
    overlap find 0 v x = 0 ∧ Separated (scrubBefore find 0 v x) := by
  obtain ⟨w, c, rfl, hc⟩ := hv
  have hblank : find (' ' :: x) = none := (finders_regular find hfind).skips ' ' x (by decide)
  obtain ⟨hoverlap, hscrub⟩ := overlap_wall (p := w ++ [c]) hblank fun t k length ht hsuffix hfound => by
    obtain ⟨t, rfl, -⟩ := (List.suffix_concat_iff.1 hsuffix).resolve_left ht
    rw [List.append_assoc, List.singleton_append] at hfound
    have hnext : (t ++ c :: ' ' :: x)[t.length + 1]? = some ' ' := by simp
    have hle : length ≤ t.length + 1 := length_le_of_finder hfind hfound (by simp) hc hnext (by decide)
    rwa [List.length_append]
  obtain ⟨w', b, hw', hb⟩ := scrubBefore_concat find w c (' ' :: x)
  refine ⟨hoverlap, w', b, by rw [hscrub, hw'], ?_⟩
  rcases hb with rfl | rfl
  · exact hc
  · decide

theorem Separated.hides_append (hv : Separated v) (hfinds : ∀ find ∈ finds, find ∈ finders) :
    hides finds (v ++ z) = hides finds z := by
  induction finds generalizing v z with
  | nil => rfl
  | cons find finds ih =>
    obtain ⟨hoverlap, hscrub⟩ := hv.pass (hfinds find List.mem_cons_self) (z ++ sample)
    rw [hides, hides, overlap_append, scrubBefore_append, hoverlap,
      ih hscrub fun f hf => hfinds f (List.mem_cons_of_mem find hf)]

theorem Separated.isCut_eq_false (hp : Separated p) (hfinds : ∀ find ∈ finds, find ∈ finders) :
    isCut m finds p = false := by
  induction finds generalizing p with
  | nil => rfl
  | cons find finds ih =>
    obtain ⟨hoverlap, hscrub⟩ := hp.pass (hfinds find List.mem_cons_self) (m ++ sample)
    rw [isCut, if_pos hoverlap, ih hscrub fun f hf => hfinds f (List.mem_cons_of_mem find hf)]

theorem Marker.not_isCutBehind_of_separated (m : Marker) (hp : Separated p) : ¬ m.isCutBehind p := by
  have htake (n : Nat) : ∀ find ∈ finders.take n, find ∈ finders := fun _ => List.mem_of_mem_take
  rw [Bool.not_eq_true]
  cases m with
  | bearerHeader => rfl
  | basicHeader => exact hp.isCut_eq_false (htake 1)
  | keyHeader => exact hp.isCut_eq_false (htake 2)
  | bearer => exact hp.isCut_eq_false (htake 3)
  | assignment name => exact hp.isCut_eq_false fun _ hfind => hfind

/-- The search finds nothing in the text if a credential stands behind it. -/
def Leaves (find : Search) (z : List Char) : Prop := overlap find 0 z sample = 0 ∧ scrubBefore find 0 z sample = z

instance (find : Search) (z : List Char) : Decidable (Leaves find z) := inferInstanceAs (Decidable (_ ∧ _))

/-- A credential shows where the search cuts the text `m` before it. -/
def ShowsIfCut (find : Search) (finds : List Search) (m : List Char) : Prop :=
  ∀ p, 0 < overlap find 0 p (m ++ sample) → overlap find 0 p (m ++ sample) ≤ m.length →
    hides (find :: finds) (p ++ m) = false

theorem hides_of_overlap (hcut : ShowsIfCut find finds m) (hne : overlap find 0 p (m ++ sample) ≠ 0) :
    hides (find :: finds) (p ++ m) = !decide (overlap find 0 p (m ++ sample) ≤ m.length) := by
  rcases Nat.lt_or_ge m.length (overlap find 0 p (m ++ sample)) with hlt | hle
  · have hpos : 0 < overlap find 0 (p ++ m) sample := by
      rw [overlap_append, overlap_of_length_le find _ hlt.le]
      exact Nat.sub_pos_of_lt hlt
    rw [hides, decide_eq_true hpos, Bool.true_or, decide_eq_false (Nat.not_le.2 hlt), Bool.not_false]
  · rw [hcut p (Nat.pos_of_ne_zero hne) hle, decide_eq_true hle, Bool.not_true]

/-- The search for a marker hides the credential, unless it finds something before that cuts the marker. -/
theorem hides_own (hown : 0 < overlap find 0 m sample) (hcut : ShowsIfCut find finds m) (p : List Char) :
    hides (find :: finds) (p ++ m) = !isCut m [find] p := by
  rw [isCut]
  split
  · next hzero =>
    have hpos : 0 < overlap find 0 (p ++ m) sample := by rwa [overlap_append, hzero]
    rw [hides, decide_eq_true hpos, Bool.true_or]
    rfl
  · next hne => exact hides_of_overlap hcut hne

/-- A search before that for the marker leaves the credential to the next, unless it finds something that reaches into
the marker. -/
theorem hides_before (hleaves : Leaves find m) (hcut : ShowsIfCut find finds m)
    (hrest : ∀ p, hides finds (p ++ m) = !isCut m fs p) (p : List Char) :
    hides (find :: finds) (p ++ m) = !isCut m (find :: fs) p := by
  rw [isCut]
  split
  · next hzero =>
    rw [hides, overlap_append, hzero, hleaves.1, decide_eq_false (Nat.lt_irrefl 0), Bool.false_or, scrubBefore_append,
      hzero, hleaves.2, hrest]
  · next hne => exact hides_of_overlap hcut hne

theorem hides_of_cut (hfinds : ∀ find ∈ finds, find ∈ finders)
    (hpos : 0 < overlap find 0 p (m ++ sample)) (hle : overlap find 0 p (m ++ sample) ≤ m.length)
    (hz : m.drop (overlap find 0 p (m ++ sample)) = ' ' :: z) (hleaves : Leaves find (' ' :: z)) :
    hides (find :: finds) (p ++ m) = hides finds z := by
  obtain ⟨t, k, v, -, -, -, hscrub⟩ := exists_found_of_overlap (Nat.zero_le _) hpos
  have hmark : mark = mark.dropLast ++ [']'] := by decide
  have hseparated : Separated (v ++ (t ++ (m ++ sample)).take k ++ mark ++ [' ']) :=
    ⟨v ++ (t ++ (m ++ sample)).take k ++ mark.dropLast, ']', by rw [List.append_assoc _ mark.dropLast, ← hmark],
      by decide⟩
  have htext : scrubBefore find 0 (p ++ m) sample = (v ++ (t ++ (m ++ sample)).take k ++ mark ++ [' ']) ++ z := by
    rw [scrubBefore_append, scrubBefore_drop find _ hle, hz, hleaves.2, hscrub, List.append_assoc _ [' '],
      List.singleton_append]
  rw [hides, overlap_append, overlap_drop find _ hle, hz, hleaves.1, decide_eq_false (Nat.lt_irrefl 0), Bool.false_or,
    htext, hseparated.hides_append hfinds]

theorem getElem?_behind (t x : List Char) (n : Nat) : (t ++ x)[t.length + n]? = x[n]? := by
  rw [List.getElem?_append_right (Nat.le_add_right _ _), Nat.add_sub_cancel_left]

theorem header_overlap_end {name x : List Char} {schemes : List (List Char)}
    (hpos : 0 < overlap (header name schemes) 0 p x) :
    x[overlap (header name schemes) 0 p x]?.all fun c => !isHeaderValue c := by
  obtain ⟨t, k, -, -, -, hfound, -⟩ := exists_found_of_overlap (Nat.zero_le _) hpos
  exact (Option.all_eq_true _ _).2 fun c hc => congrArg (!·) (header_end hfound ((getElem?_behind t x _).trans hc))

theorem bearer_overlap_end {x : List Char} (hpos : 0 < overlap bearer 0 p x) :
    x[overlap bearer 0 p x]?.all fun c =>
      c != '=' && (!isTokenLetter c || x[overlap bearer 0 p x - 1]? == some '=') := by
  obtain ⟨t, k, -, -, -, hfound, -⟩ := exists_found_of_overlap (Nat.zero_le _) hpos
  refine (Option.all_eq_true _ _).2 fun c hc => ?_
  have hend := bearer_end hfound ((getElem?_behind t x _).trans hc)
  rw [Nat.add_sub_assoc hpos, getElem?_behind] at hend
  cases htoken : isTokenLetter c with
  | false => simpa using hend.1
  | true => simpa [hend.1] using hend.2 htoken

theorem assignment_overlap_end {x : List Char} (hpos : 0 < overlap assignment 0 p x) :
    x[overlap assignment 0 p x]?.all isBlank := by
  obtain ⟨t, k, -, -, -, hfound, -⟩ := exists_found_of_overlap (Nat.zero_le _) hpos
  exact (Option.all_eq_true _ _).2 fun c hc => assignment_end hfound ((getElem?_behind t x _).trans hc)

/-- A cut behind `n` characters leaves a blank and nothing that hides a credential. -/
def Spoils (find : Search) (finds : List Search) (m : List Char) (n : Nat) : Prop :=
  m.drop n = ' ' :: (m.drop n).tail ∧ Leaves find (m.drop n) ∧ hides finds (m.drop n).tail = false

instance (find : Search) (finds : List Search) (m : List Char) (n : Nat) : Decidable (Spoils find finds m n) :=
  inferInstanceAs (Decidable (_ ∧ _))

theorem showsIfCut_of_spoils (hfinds : ∀ find ∈ finds, find ∈ finders)
    (h : ∀ p, 0 < overlap find 0 p (m ++ sample) → overlap find 0 p (m ++ sample) ≤ m.length →
      Spoils find finds m (overlap find 0 p (m ++ sample))) :
    ShowsIfCut find finds m := by
  intro p hpos hle
  obtain ⟨hblank, hleaves, hhides⟩ := h p hpos hle
  rw [hides_of_cut hfinds hpos hle hblank (hblank ▸ hleaves), hhides]

theorem header_showsIfCut {name : List Char} {schemes : List (List Char)} (hfinds : ∀ find ∈ finds, find ∈ finders)
    (h : ∀ n ≤ m.length, 0 < n → ((m ++ sample)[n]?.all fun c => !isHeaderValue c) →
      Spoils (header name schemes) finds m n) :
    ShowsIfCut (header name schemes) finds m :=
  showsIfCut_of_spoils hfinds fun _ hpos hle => h _ hle hpos (header_overlap_end hpos)

theorem bearer_showsIfCut (hfinds : ∀ find ∈ finds, find ∈ finders)
    (h : ∀ n ≤ m.length, 0 < n →
      ((m ++ sample)[n]?.all fun c => c != '=' && (!isTokenLetter c || (m ++ sample)[n - 1]? == some '=')) →
        Spoils bearer finds m n) :
    ShowsIfCut bearer finds m :=
  showsIfCut_of_spoils hfinds fun _ hpos hle => h _ hle hpos (bearer_overlap_end hpos)

def authorizationHeader : Search := header "authorization:".toList ["bearer".toList, "basic".toList]

def keyHeader : Search := header "x-api-key:".toList []

theorem finders_eq : finders = [authorizationHeader, keyHeader, bearer, assignment] := rfl

theorem mem_of_later (n : Nat) : ∀ find ∈ finders.drop n, find ∈ finders := fun _ => List.mem_of_mem_drop

theorem hides_basicHeader (p : List Char) :
    hides finders (p ++ Marker.letters .basicHeader) = !Marker.isCutBehind p .basicHeader :=
  hides_own (by decide) (header_showsIfCut (mem_of_later 1) (by decide)) p

theorem hides_keyHeader (p : List Char) :
    hides finders (p ++ Marker.letters .keyHeader) = !Marker.isCutBehind p .keyHeader :=
  hides_before (by decide) (header_showsIfCut (mem_of_later 1) (by decide))
    (hides_own (by decide) (header_showsIfCut (mem_of_later 2) (by decide))) p

theorem hides_bearer (p : List Char) :
    hides finders (p ++ Marker.letters .bearer) = !Marker.isCutBehind p .bearer :=
  hides_before (by decide) (header_showsIfCut (mem_of_later 1) (by decide))
    (hides_before (by decide) (header_showsIfCut (mem_of_later 2) (by decide))
      (hides_own (by decide) (bearer_showsIfCut (mem_of_later 3) (by decide)))) p

theorem overlap_bearerHeader_le (p : List Char) :
    overlap authorizationHeader 0 p (Marker.letters .bearerHeader ++ sample) ≤ 14 := by
  rcases Nat.eq_zero_or_pos (overlap authorizationHeader 0 p (Marker.letters .bearerHeader ++ sample)) with hzero | hpos
  · rw [hzero]
    exact Nat.zero_le 14
  · obtain ⟨t, k, -, ht, -, hfound, -⟩ := exists_found_of_overlap (Nat.zero_le _) hpos
    have hlength : 0 < t.length := List.length_pos_of_ne_nil ht
    have hcolon : (t ++ (Marker.letters .bearerHeader ++ sample))[t.length + 13]? = some ':' :=
      (getElem?_behind t _ 13).trans (by decide)
    have hblank : (t ++ (Marker.letters .bearerHeader ++ sample))[t.length + 13 + 1]? = some ' ' :=
      (getElem?_behind t _ 14).trans (by decide)
    have hname : "authorization:".toList.length ≤ t.length + 13 := Nat.add_le_add_right hlength 13
    have hle := header_le hfound hcolon (by decide) (by decide) hname hblank (by decide)
    omega

theorem hides_bearerHeader (p : List Char) : hides finders (p ++ Marker.letters .bearerHeader) = true := by
  rcases Nat.eq_zero_or_pos (overlap authorizationHeader 0 p (Marker.letters .bearerHeader ++ sample)) with hzero | hpos
  · have hown : 0 < overlap authorizationHeader 0 (p ++ Marker.letters .bearerHeader) sample := by
      rw [overlap_append, hzero]
      decide
    rw [finders_eq, hides, decide_eq_true hown, Bool.true_or]
  · have hends : ∀ n ≤ 14, 0 < n → ((Marker.letters .bearerHeader ++ sample)[n]?.all fun c => !isHeaderValue c) →
        n = 14 := by
      decide
    have hcut := hends _ (overlap_bearerHeader_le p) hpos (header_overlap_end hpos)
    have hle : overlap authorizationHeader 0 p (Marker.letters .bearerHeader ++ sample) ≤
        (Marker.letters .bearerHeader).length := by
      rw [hcut]
      decide
    have hrest : (Marker.letters .bearerHeader).drop
        (overlap authorizationHeader 0 p (Marker.letters .bearerHeader ++ sample)) = ' ' :: "Bearer ".toList := by
      rw [hcut]
      decide
    have hhides : hides (finders.drop 1) "Bearer ".toList = true := by decide
    exact (hides_of_cut (mem_of_later 1) hpos hle hrest (by decide)).trans hhides

theorem isUpperNameLetter_toNat_lt {c : Char} (h : isUpperNameLetter c) : c.toNat < 128 := by
  rw [isUpperNameLetter, Bool.or_eq_true, beq_iff_eq] at h
  rcases h with h | rfl
  · apply toNat_lt_of_isAlphanum
    change (c.isUpper || c.isLower || c.isDigit) = true
    rw [Bool.or_right_comm, h, Bool.true_or]
  · decide

variable (name : SecretName)

theorem SecretName.letters_spec : ∀ c ∈ name.text.toList,
    isNameLetter c ∧ isTokenLetter c ∧ c ≠ '=' ∧ isHeaderValue c ∧ isBlank c = false ∧ fold c ≠ ':' := by
  intro c hc
  have hletter : isUpperNameLetter c := name.letters c hc
  have hlt : c.toNat < 128 := isUpperNameLetter_toNat_lt hletter
  clear hc
  revert hletter
  revert c
  apply ascii_forall
  decide

theorem letters_assignment : Marker.letters (.assignment name) = name.text.toList ++ ['='] := String.toList_append

theorem letters_assignment_inner {c : Char} (hc : c ∈ Marker.letters (.assignment name) ++ sample) :
    isHeaderValue c ∧ isBlank c = false ∧ fold c ≠ ':' := by
  rw [letters_assignment] at hc
  simp only [sample, List.append_assoc, List.mem_append, List.mem_singleton] at hc
  rcases hc with hc | rfl | rfl
  · exact (name.letters_spec c hc).2.2.2
  · decide
  · decide

theorem mem_of_suffix {t : List Char} {c : Char} (ht : t <:+ Marker.letters (.assignment name))
    (hc : c ∈ t ++ sample) : c ∈ Marker.letters (.assignment name) ++ sample :=
  (List.mem_append.1 hc).elim (fun h => List.mem_append_left _ (ht.mem h)) (List.mem_append_right _)

theorem getElem?_of_le {n : Nat} (hn : n ≤ (Marker.letters (.assignment name)).length) :
    ∃ c, (Marker.letters (.assignment name) ++ sample)[n]? = some c :=
  ⟨_, List.getElem?_eq_getElem (by rw [List.length_append]; exact Nat.lt_succ_of_le hn)⟩

theorem header_leaves_assignment {word : List Char} (hword : ':' ∈ word) (schemes : List (List Char)) :
    Leaves (header word schemes) (Marker.letters (.assignment name)) := by
  refine unchanged_of_none fun t _ hsuffix => ?_
  have hstart : ¬ startsWith word (t ++ sample) := by
    rw [startsWith_iff]
    intro hstarts
    obtain ⟨c, hc, hfold⟩ := List.mem_map.1 (hstarts.mem hword)
    exact (letters_assignment_inner name (mem_of_suffix name hsuffix hc)).2.2 hfold
  rw [header, if_neg hstart]

theorem bearer_leaves_assignment : Leaves bearer (Marker.letters (.assignment name)) := by
  refine unchanged_of_none fun t _ hsuffix => Option.eq_none_iff_forall_ne_some.2 fun found hfound => ?_
  obtain ⟨v, b, htake, hb⟩ := bearer_kept hfound
  have hmem : b ∈ t ++ sample := List.mem_of_mem_take (htake ▸ List.mem_append_right v List.mem_cons_self)
  rw [(letters_assignment_inner name (mem_of_suffix name hsuffix hmem)).2.1] at hb
  cases hb

theorem header_showsIfCut_assignment (word : List Char) (schemes : List (List Char)) (finds : List Search) :
    ShowsIfCut (header word schemes) finds (Marker.letters (.assignment name)) := by
  intro p hpos hle
  obtain ⟨c, hc⟩ := getElem?_of_le name hle
  have hend := (Option.all_eq_true _ _).1 (header_overlap_end hpos) c hc
  rw [(letters_assignment_inner name (List.mem_of_getElem? hc)).1] at hend
  cases hend

theorem assignment_showsIfCut (finds : List Search) :
    ShowsIfCut assignment finds (Marker.letters (.assignment name)) := by
  intro p hpos hle
  obtain ⟨c, hc⟩ := getElem?_of_le name hle
  have hend := (Option.all_eq_true _ _).1 (assignment_overlap_end hpos) c hc
  rw [(letters_assignment_inner name (List.mem_of_getElem? hc)).2.1] at hend
  cases hend

theorem bearer_overlap_assignment {p : List Char}
    (hpos : 0 < overlap bearer 0 p (Marker.letters (.assignment name) ++ sample))
    (hle : overlap bearer 0 p (Marker.letters (.assignment name) ++ sample) ≤
      (Marker.letters (.assignment name)).length) :
    overlap bearer 0 p (Marker.letters (.assignment name) ++ sample) = (Marker.letters (.assignment name)).length := by
  obtain ⟨c, hc⟩ := getElem?_of_le name hle
  have hend := (Option.all_eq_true _ _).1 (bearer_overlap_end hpos) c hc
  rw [Bool.and_eq_true, bne_iff_ne, Bool.or_eq_true, beq_iff_eq] at hend
  obtain ⟨hne, htoken⟩ := hend
  generalize overlap bearer 0 p (Marker.letters (.assignment name) ++ sample) = n at *
  have hletter (i : Nat) (hi : i < name.text.toList.length) :
      (Marker.letters (.assignment name) ++ sample)[i]? = some name.text.toList[i] := by
    rw [letters_assignment, List.append_assoc, List.getElem?_append_left hi, List.getElem?_eq_getElem hi]
  rw [letters_assignment, List.length_append, List.length_singleton] at hle ⊢
  refine Nat.le_antisymm hle ?_
  rcases Nat.lt_trichotomy n name.text.toList.length with hlt | heq | hgt
  · rw [hletter n hlt] at hc
    obtain rfl := Option.some.inj hc
    have hequals := htoken.resolve_left (by rw [(name.letters_spec _ (List.getElem_mem hlt)).2.1]; decide)
    rw [hletter (n - 1) (by omega)] at hequals
    exact absurd (Option.some.inj hequals) (name.letters_spec _ (List.getElem_mem _)).2.2.1
  · rw [letters_assignment, List.append_assoc, List.getElem?_append_right heq.ge, heq, Nat.sub_self] at hc
    exact absurd (Option.some.inj hc).symm hne
  · exact hgt

theorem bearer_showsIfCut_assignment : ShowsIfCut bearer [assignment] (Marker.letters (.assignment name)) := by
  intro p hpos hle
  have heq := bearer_overlap_assignment name hpos hle
  obtain ⟨t, k, v, -, -, hfound, hscrub⟩ := exists_found_of_overlap (Nat.zero_le _) hpos
  obtain ⟨w, b, htake, hb⟩ := bearer_kept hfound
  have hoverlap : overlap bearer 0 (p ++ Marker.letters (.assignment name)) sample = 0 := by
    rw [overlap_append, heq, overlap_of_length_le bearer _ (Nat.le_refl _), Nat.sub_self]
  have htext : scrubBefore bearer 0 (p ++ Marker.letters (.assignment name)) sample = (v ++ w) ++ [b] ++ mark := by
    rw [scrubBefore_append, heq, scrubBefore_of_length_le bearer _ (Nat.le_refl _), List.append_nil, hscrub, htake]
    simp only [List.append_assoc]
  -- the blank before the mark keeps the name of an assignment away from it
  have hwall : overlap assignment 0 (v ++ w ++ [b]) (mark ++ sample) = 0 := by
    refine (overlap_wall (assignment_regular.skips b _ hb) fun t k length _ _ hfound => ?_).1
    exact assignment_le hfound (by rw [List.getElem?_append_right (Nat.le_refl _), Nat.sub_self]; rfl) hb
  have hlast : overlap assignment 0 ((v ++ w) ++ [b] ++ mark) sample = 0 := by
    rw [overlap_append, hwall]
    decide
  rw [hides, hides, hides, hoverlap, htext, hlast]
  rfl

theorem secretEndings_any : secretEndings.any (startsWith · name.text.toList.reverse) := by
  obtain ⟨e, he, v, hv⟩ := name.ending
  have hends : ∀ e ∈ ["KEY", "TOKEN", "SECRET", "PASSWORD"].map String.toList, e.reverse.map fold ∈ secretEndings := by
    decide
  refine List.any_eq_true.2 ⟨_, hends e he, startsWith_iff.2 ?_⟩
  rw [← hv, List.reverse_append, List.map_append]
  exact List.prefix_append _ _

theorem assignment_of_name : assignment (name.text.toList ++ '=' :: sample) =
    some (name.text.toList.length + 1, name.text.toList.length + 1 + 1) := by
  have hname : (name.text.toList ++ '=' :: sample).takeWhile isNameLetter = name.text.toList := by
    rw [List.takeWhile_append_of_pos fun c hc => (name.letters_spec c hc).1]
    exact List.append_nil _
  have hrun : run isNameLetter (name.text.toList ++ '=' :: sample) = name.text.toList.length :=
    congrArg List.length hname
  rw [assignment_eq, hrun, hname, List.drop_left, secretEndings_any]
  rfl

theorem assignment_own : 0 < overlap assignment 0 (Marker.letters (.assignment name)) sample := by
  have hfound := assignment_of_name name
  rw [letters_assignment]
  cases hname : name.text.toList with
  | nil =>
    rw [hname] at hfound
    cases hfound
  | cons c w =>
    rw [hname] at hfound
    have htext : c :: (w ++ ['=']) ++ sample = c :: w ++ '=' :: sample := by simp
    rw [List.cons_append, overlap, htext, hfound]
    dsimp only
    rw [overlap_of_length_le assignment _ (by simp)]
    simp

theorem hides_assignment (p : List Char) :
    hides finders (p ++ Marker.letters (.assignment name)) = !Marker.isCutBehind p (.assignment name) :=
  hides_before (header_leaves_assignment name (by decide) _) (header_showsIfCut_assignment name _ _ _)
    (hides_before (header_leaves_assignment name (by decide) _) (header_showsIfCut_assignment name _ _ _)
      (hides_before (bearer_leaves_assignment name) (bearer_showsIfCut_assignment name)
        (hides_own (assignment_own name) (assignment_showsIfCut name [])))) p

theorem hides_marker (m : Marker) (p : List Char) : hides finders (p ++ m.letters) = !m.isCutBehind p := by
  cases m with
  | bearerHeader => exact hides_bearerHeader p
  | basicHeader => exact hides_basicHeader p
  | keyHeader => exact hides_keyHeader p
  | bearer => exact hides_bearer p
  | assignment name => exact hides_assignment name p

theorem Marker.closed_append_letters (m : Marker) (p : List Char) : Closed (p ++ m.letters) := by
  have hsplit : ∃ v c, m.letters = v ++ [c] ∧ isStop c := by
    cases m with
    | assignment name => exact ⟨_, '=', letters_assignment name, by decide⟩
    | _ => exact ⟨_, ' ', (List.dropLast_concat_getLast (by decide)).symm, by decide⟩
  obtain ⟨v, c, hv, hc⟩ := hsplit
  rw [hv, ← List.append_assoc]
  exact Closed.concat _ hc

end JobBoard.Text.Redact

namespace JobBoard.Text

open Redact

theorem redacted_append (p : String) (m : Marker) (s q : String) :
    redacted (p ++ m.text ++ s ++ q) =
      String.ofList (sweep finders (p.toList ++ m.letters ++ (s.toList ++ q.toList))) := by
  rw [redacted, String.toList_append, String.toList_append, String.toList_append, List.append_assoc _ s.toList]
  rfl

variable {p : String} {m : Marker}

theorem redacted_eq_of_not_cut {s s' q : String} (hcut : ¬ m.isCutBehind p.toList) (hs : IsSecret s.toList)
    (hs' : IsSecret s'.toList) (hq : EndsHere q.toList) :
    redacted (p ++ m.text ++ s ++ q) = redacted (p ++ m.text ++ s' ++ q) := by
  have hhides : hides finders (p.toList ++ m.letters) := by rw [hides_marker, Bool.eq_false_iff.2 hcut, Bool.not_false]
  rw [redacted_append, redacted_append,
    sweep_eq_of_hides finders_regular (m.closed_append_letters p.toList) hs hs' hq hhides]

theorem redacted_of_cut (hcut : m.isCutBehind p.toList) :
    ∃ v : String, ∀ s : String, IsSecret s.toList → redacted (p ++ m.text ++ s) = v ++ s := by
  have hshows : ¬ hides finders (p.toList ++ m.letters) := by rw [hides_marker, hcut]; decide
  obtain ⟨v, hv⟩ := sweep_of_not_hides finders_regular (m.closed_append_letters p.toList) hshows
  refine ⟨String.ofList v, fun s hs => ?_⟩
  have htext := redacted_append p m s ""
  rw [String.append_empty, String.toList_empty, List.append_nil, hv s.toList hs, String.ofList_append,
    String.ofList_toList] at htext
  exact htext

end JobBoard.Text

namespace JobBoard

open Text.Redact

def Source.failing (e : ServiceError) : Source :=
  { page := fun _ _ _ => .error e, counts := .error e, record := fun _ => .error e }

/-- What a fetch reports of an error is the same for every credential in its message, behind a marker that is not
cut. -/
theorem Fetch.run_failing_eq {p s s' q : String} {m : Marker} {e e' : ServiceError}
    (hcut : ¬ m.isCutBehind p.toList) (hs : IsSecret s.toList) (hs' : IsSecret s'.toList) (hq : EndsHere q.toList)
    (he : e.message = p ++ m.text ++ s ++ q) (he' : e'.message = p ++ m.text ++ s' ++ q) (f : Fetch) :
    f.run (Source.failing e) = f.run (Source.failing e') := by
  have htext : failureText e = failureText e' := by
    rw [failureText, failureText, he, he', Text.redacted_eq_of_not_cut hcut hs hs' hq]
  cases f <;> simp only [run, Source.failing, htext]

end JobBoard

namespace JobBoard.Text

open Redact

/-- Credentials behind a marker look all the same in a redacted text, unless something found in the text before cuts
the marker; then so does what a fetch reports of an error with such a message. A separator and a blank before a marker
keep it from being cut. -/
theorem redacted_eq_iff_not_cut (p : String) (m : Marker) :
    ((∀ s s' q : String, IsSecret s.toList → IsSecret s'.toList → EndsHere q.toList →
      redacted (p ++ m.text ++ s ++ q) = redacted (p ++ m.text ++ s' ++ q)) ↔ ¬ m.isCutBehind p.toList) ∧
    (¬ m.isCutBehind p.toList → ∀ s s' q : String, IsSecret s.toList → IsSecret s'.toList → EndsHere q.toList →
      ∀ e e' : ServiceError, e.message = p ++ m.text ++ s ++ q → e'.message = p ++ m.text ++ s' ++ q →
        ∀ f : Fetch, f.run (.failing e) = f.run (.failing e')) ∧
    (Separated p.toList → ¬ m.isCutBehind p.toList) := by
  refine ⟨⟨fun h hcut => ?_, fun hcut s s' q hs hs' hq => redacted_eq_of_not_cut hcut hs hs' hq⟩,
    fun hcut s s' q hs hs' hq e e' he he' f => Fetch.run_failing_eq hcut hs hs' hq he he' f,
    m.not_isCutBehind_of_separated⟩
  obtain ⟨v, hv⟩ := redacted_of_cut hcut
  have hx : IsSecret "x".toList := sample_isSecret
  have hy : IsSecret "y".toList := ⟨by decide, by decide, by decide⟩
  have heq := h "x" "y" "" hx hy endsHere_nil
  rw [String.append_empty, String.append_empty, hv "x" hx, hv "y" hy, String.append_right_inj] at heq
  exact absurd heq (by decide)

/-- An API key behind two other words of a message, and one that a fetch is told of behind a comma. -/
theorem redacted_eq_of_keyBehindWords :
    redacted "request failed: X-API-Key: k-123 then retry" = redacted "request failed: X-API-Key: t.456 then retry" ∧
    Fetch.counts.run (.failing (.status 403 "refused, X-API-Key: k-123 then retry" none none)) =
      Fetch.counts.run (.failing (.status 403 "refused, X-API-Key: t.456 then retry" none none)) := by
  have hk : IsSecret "k-123".toList := ⟨by decide, by decide, by decide⟩
  have ht : IsSecret "t.456".toList := ⟨by decide, by decide, by decide⟩
  have hp : Separated "API error 403: refused, ".toList := ⟨"API error 403: refused".toList, ',', by decide, by decide⟩
  obtain ⟨hiff, -, -⟩ := redacted_eq_iff_not_cut "request failed: " .keyHeader
  obtain ⟨-, hreport, hseparated⟩ := redacted_eq_iff_not_cut "API error 403: refused, " .keyHeader
  exact ⟨hiff.2 (by decide) "k-123" "t.456" " then retry" hk ht rfl,
    hreport (hseparated hp) "k-123" "t.456" " then retry" hk ht rfl _ _ (by decide) (by decide) .counts⟩

def apiKeyName : SecretName := ⟨"QUEUEDECK_API_KEY", by decide, by decide⟩

/-- The word before the name takes the name for a bearer token, and the key behind it shows. -/
theorem redacted_tells_apart :
    ¬ ∀ (p : String) (m : Marker) (s s' q : String), IsSecret s.toList → IsSecret s'.toList → EndsHere q.toList →
      redacted (p ++ m.text ++ s ++ q) = redacted (p ++ m.text ++ s' ++ q) := by
  intro h
  have heq := h "request failed: bearer " (.assignment apiKeyName) "abc123" "xyz789" ""
    ⟨by decide, by decide, by decide⟩ ⟨by decide, by decide, by decide⟩ rfl
  exact absurd heq (by decide)

example : redacted "request failed: bearer QUEUEDECK_API_KEY=abc123" = "request failed: bearer [REDACTED]abc123" := by
  decide

end JobBoard.Text
