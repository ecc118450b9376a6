import JobBoard.Proofs.FormText
import JobBoard.Service.Client

/-!
The path of an address that is read from a text with more behind it. The segments before the last slash come out as they
do without it; what the last one turns into depends on whether anything follows.
-/

namespace JobBoard.Address

theorem splitOn_ne_nil (sep : Char) (cs : List Char) : splitOn sep cs ≠ [] := by
  cases cs with
  | nil => exact List.cons_ne_nil _ _
  | cons c cs =>
    rw [splitOn]
    split
    · exact List.cons_ne_nil _ _
    · split <;> exact List.cons_ne_nil _ _

theorem splitOn_cons_of_ne {sep c : Char} (hc : c ≠ sep) (cs : List Char) :
    ∃ part parts, splitOn sep cs = part :: parts ∧ splitOn sep (c :: cs) = (c :: part) :: parts := by
  rw [splitOn, if_neg hc]
  cases h : splitOn sep cs with
  | nil => exact absurd h (splitOn_ne_nil sep cs)
  | cons part parts => exact ⟨part, parts, rfl, rfl⟩

theorem splitOn_append_sep (sep : Char) (cs ds : List Char) :
    splitOn sep (cs ++ sep :: ds) = splitOn sep cs ++ splitOn sep ds := by
  induction cs with
  | nil =>
    change (if sep = sep then [] :: splitOn sep ds else _) = _
    rw [if_pos rfl]
    rfl
  | cons c cs ih =>
    by_cases hc : c = sep
    · rw [List.cons_append, splitOn, if_pos hc, ih, splitOn, if_pos hc, List.cons_append]
    · obtain ⟨part, parts, hparts, hall⟩ := splitOn_cons_of_ne hc cs
      obtain ⟨part', parts', hparts', hall'⟩ := splitOn_cons_of_ne hc (cs ++ sep :: ds)
      rw [ih, hparts, List.cons_append] at hparts'
      obtain ⟨rfl, rfl⟩ := List.cons.inj hparts'
      rw [List.cons_append, hall', hall, List.cons_append]

theorem splitOn_of_notMem {sep : Char} {cs : List Char} (h : sep ∉ cs) : splitOn sep cs = [cs] := by
  induction cs with
  | nil => rfl
  | cons c cs ih =>
    rw [List.mem_cons, not_or] at h
    rw [splitOn, if_neg (Ne.symm h.1), ih h.2]

theorem splitOn_last (sep : Char) (cs : List Char) : ∃ parts last, sep ∉ last ∧
    (last = [] ↔ cs = [] ∨ cs.getLast? = some sep) ∧
    ∀ more, sep ∉ more → splitOn sep (cs ++ more) = parts ++ [last ++ more] := by
  by_cases h : sep ∈ cs
  · obtain ⟨v, u, hrev, hv⟩ := List.eq_append_cons_of_mem (List.mem_reverse.2 h)
    have hcs : cs = u.reverse ++ sep :: v.reverse := by
      rw [← List.reverse_reverse cs, hrev]
      simp
    have hnot : sep ∉ v.reverse := fun hmem => hv (List.mem_reverse.1 hmem)
    refine ⟨splitOn sep u.reverse, v.reverse, hnot, ?_, ?_⟩
    · have hne : v.reverse.getLast? ≠ some sep := fun he => hnot (List.mem_of_getLast? he)
      rw [hcs, List.getLast?_append, List.getLast?_cons]
      cases hlast : v.reverse with
      | nil => simp
      | cons c w =>
        rw [hlast] at hne
        simpa [List.getLast?_cons] using hne
    · intro more hmore
      have hrest : sep ∉ v.reverse ++ more := fun hmem => (List.mem_append.1 hmem).elim hnot hmore
      rw [hcs, List.append_assoc, List.cons_append, splitOn_append_sep, splitOn_of_notMem hrest]
  · refine ⟨[], cs, h, ?_, ?_⟩
    · have hne : cs.getLast? ≠ some sep := fun he => h (List.mem_of_getLast? he)
      simp [hne]
    · intro more hmore
      exact splitOn_of_notMem fun hmem => (List.mem_append.1 hmem).elim h hmore

theorem percentEncode_append (keep : Nat → Bool) (cs ds : List Char) :
    Host.percentEncode keep (cs ++ ds) = Host.percentEncode keep cs ++ Host.percentEncode keep ds := by
  rw [Host.percentEncode, Text.Utf8.encode, List.flatMap_append, List.flatMap_append]
  rfl

theorem encodeChar_ne_nil (c : Char) : Text.Utf8.encodeChar c ≠ [] := by
  unfold Text.Utf8.encodeChar
  dsimp only
  split
  · exact List.cons_ne_nil _ _
  split
  · exact List.cons_ne_nil _ _
  split
  · exact List.cons_ne_nil _ _
  · exact List.cons_ne_nil _ _

theorem percentEncode_ne_nil {keep : Nat → Bool} {cs : List Char} (h : cs ≠ []) : Host.percentEncode keep cs ≠ [] := by
  obtain ⟨c, rest, rfl⟩ := List.exists_cons_of_ne_nil h
  obtain ⟨b, bs, hb⟩ := List.exists_cons_of_ne_nil (encodeChar_ne_nil c)
  rw [Host.percentEncode, Text.Utf8.encode, List.flatMap_cons, hb, List.cons_append, List.flatMap_cons]
  split
  · exact List.cons_ne_nil _ _
  · exact List.cons_ne_nil _ _

theorem exists_of_mem_encode {cs : List Char} {b : Nat} (hb : b < 0x80) (h : b ∈ Text.Utf8.encode cs) :
    ∃ c ∈ cs, c.toNat = b := by
  obtain ⟨c, hc, hbc⟩ := List.mem_flatMap.1 h
  refine ⟨c, hc, ?_⟩
  unfold Text.Utf8.encodeChar at hbc
  dsimp only at hbc
  split at hbc
  · exact (List.mem_singleton.1 hbc).symm
  split at hbc
  · simp only [List.mem_cons, List.not_mem_nil, or_false] at hbc
    omega
  split at hbc
  · simp only [List.mem_cons, List.not_mem_nil, or_false] at hbc
    omega
  · simp only [List.mem_cons, List.not_mem_nil, or_false] at hbc
    omega

theorem toNat_ofNat {b : Nat} (h : b < 256) : (Char.ofNat b).toNat = b := by
  rw [Char.ofNat, dif_pos (Or.inl (by omega))]
  rfl

theorem hexDigit_ne_slash : ∀ n < 16, Text.hexDigit n ≠ '/' := by
  decide

theorem slash_notMem_percentEncode {keep : Nat → Bool} {cs : List Char} (h : '/' ∉ cs) :
    '/' ∉ Host.percentEncode keep cs := by
  intro hmem
  obtain ⟨b, hb, hslash⟩ := List.mem_flatMap.1 hmem
  have hbyte : b < 256 := Text.Utf8.lt_of_mem_encode hb
  split at hslash
  · have hcode : 47 = b := (congrArg Char.toNat (List.mem_singleton.1 hslash)).trans (toNat_ofNat hbyte)
    obtain ⟨c, hc, hcb⟩ := exists_of_mem_encode (by omega) hb
    have hc' : c = '/' := Char.toNat_inj.1 (hcb.trans hcode.symm)
    exact h (hc' ▸ hc)
  · rw [Text.percentByte] at hslash
    rcases List.mem_cons.1 hslash with he | hdigit
    · exact absurd he (by decide)
    · rcases List.mem_cons.1 hdigit with he | hlow
      · exact hexDigit_ne_slash _ (by omega) he.symm
      · exact hexDigit_ne_slash _ (by omega) (List.mem_singleton.1 hlow).symm

namespace Reader

def written (path : List (List Char)) : List Char := path.reverse.flatMap fun s => '/' :: s

theorem written_cons (s : List Char) (path : List (List Char)) : written (s :: path) = written path ++ '/' :: s := by
  rw [written, List.reverse_cons, List.flatMap_append, List.flatMap_singleton]
  rfl

def passed (path ss : List (List Char)) : List (List Char) := ss.foldl (fun p s => enter p s false) path

theorem enterAll_append (path ss ts : List (List Char)) (hts : ts ≠ []) :
    enterAll path (ss ++ ts) = enterAll (passed path ss) ts := by
  induction ss generalizing path with
  | nil => rfl
  | cons s ss ih =>
    have hrest : ss ++ ts ≠ [] := fun h => hts (List.append_eq_nil_iff.1 h).2
    obtain ⟨t, ts', ht⟩ := List.exists_cons_of_ne_nil hrest
    rw [List.cons_append, ht, enterAll, ← ht, ih]
    · rfl
    · exact fun h => List.cons_ne_nil _ _ h

/-- Segments that stand for a place and are not written. -/
def isDots (s : List Char) : Bool := isAbove s || isHere s

theorem enter_of_dots {s : List Char} (h : isDots s = true) (path : List (List Char)) :
    enter path s true = [] :: enter path s false := by
  unfold enter
  split
  · rfl
  · rename_i habove
    rw [isDots, Bool.or_eq_true] at h
    have hhere := h.resolve_left habove
    rw [if_pos hhere, if_pos hhere]
    rfl

theorem enter_of_not_dots {s : List Char} (h : isDots s = false) (path : List (List Char)) (last : Bool) :
    enter path s last = Host.percentEncode keepsPath s :: path := by
  rw [isDots, Bool.or_eq_false_iff] at h
  rw [enter, h.1, h.2]
  rfl

theorem length_written_above (path : List (List Char)) : (written (above path)).length ≤ (written path).length := by
  unfold above
  split
  · split
    · exact Nat.le_refl _
    · rw [written_cons, List.length_append]
      exact Nat.le_add_right _ _
  · exact Nat.le_refl _

theorem length_enter_dots {s : List Char} (h : isDots s = true) (path : List (List Char)) :
    (written (enter path s false)).length ≤ (written path).length := by
  unfold enter
  split
  · exact length_written_above path
  · rename_i habove
    rw [isDots, Bool.or_eq_true] at h
    rw [if_pos (h.resolve_left habove)]
    exact Nat.le_refl _

def inner (known : Bool) : List Char → List Char
  | [] => []
  | c :: cs => if isSlash known c then cs else c :: cs

/-- What stands before a further path that a text goes on with. -/
def kept (known : Bool) (y : List Char) : List Char :=
  if y.isEmpty then [] else written (passed [] (segments known (inner known y)))

def EndsInSlash (known : Bool) (y : List Char) : Prop := ∃ c, y.getLast? = some c ∧ isSlash known c = true

def withoutSlashes (cs : List Char) : List Char := (cs.reverse.dropWhile (· == '/')).reverse

variable {known : Bool} {y : List Char}

theorem hostPath_of_ne_nil (hy : y ≠ []) :
    (hostPath known y).toList = written (enterAll [] (segments known (inner known y))) := by
  cases y with
  | nil => exact absurd rfl hy
  | cons c cs =>
    rw [hostPath, inner]
    split
    · rw [slashPath, String.toList_ofList]
      rfl
    · rw [slashPath, String.toList_ofList]
      rfl

theorem inner_append (hy : y ≠ []) (x : List Char) : inner known (y ++ x) = inner known y ++ x := by
  cases y with
  | nil => exact absurd rfl hy
  | cons c cs =>
    rw [List.cons_append, inner, inner]
    split
    · rfl
    · rfl

theorem segments_append_slash (cs ds : List Char) :
    segments known (cs ++ '/' :: ds) = segments known cs ++ segments known ds := by
  have hslash : (if isSlash known '/' then '/' else '/') = '/' := ite_self _
  rw [segments, List.map_append, List.map_cons, hslash, splitOn_append_sep]
  rfl

theorem slash_iff (known : Bool) (c : Char) : (if isSlash known c then '/' else c) = '/' ↔ isSlash known c = true := by
  split
  · rename_i h
    exact iff_of_true rfl h
  · rename_i h
    refine iff_of_false ?_ h
    rintro rfl
    exact h rfl

theorem inner_ends_iff (hy : y ≠ []) :
    ((inner known y).map fun c => if isSlash known c then '/' else c) = [] ∨
      ((inner known y).map fun c => if isSlash known c then '/' else c).getLast? = some '/' ↔ EndsInSlash known y := by
  have hlast (cs : List Char) : (cs.map fun c => if isSlash known c then '/' else c).getLast? = some '/' ↔
      EndsInSlash known cs := by
    rw [List.getLast?_map, Option.map_eq_some_iff]
    exact exists_congr fun c => and_congr_right fun _ => slash_iff known c
  rw [List.map_eq_nil_iff, hlast]
  obtain ⟨c, cs, rfl⟩ := List.exists_cons_of_ne_nil hy
  rw [inner]
  split
  case isFalse hc => exact or_iff_right (List.cons_ne_nil _ _)
  case isTrue hc =>
    cases cs with
    | nil => exact iff_of_true (.inl rfl) ⟨c, rfl, hc⟩
    | cons d ds =>
      rw [EndsInSlash, EndsInSlash, List.getLast?_cons_cons]
      exact or_iff_right (List.cons_ne_nil _ _)

theorem segments_last (known : Bool) (cs : List Char) : ∃ ss z, '/' ∉ z ∧
    (z = [] ↔ (cs.map fun c => if isSlash known c then '/' else c) = [] ∨
      (cs.map fun c => if isSlash known c then '/' else c).getLast? = some '/') ∧
    ∀ more, (∀ c ∈ more, isSlash known c = false) → segments known (cs ++ more) = ss ++ [z ++ more] := by
  obtain ⟨ss, z, hz, hend, hmore⟩ := splitOn_last '/' (cs.map fun c => if isSlash known c then '/' else c)
  refine ⟨ss, z, hz, hend, ?_⟩
  intro more hno
  have hsame : (more.map fun c => if isSlash known c then '/' else c) = more := by
    refine (List.map_congr_left fun c hc => ?_).trans (List.map_id more)
    rw [hno c hc]
    rfl
  have hslash : '/' ∉ more := fun hmem => absurd (hno _ hmem) (by simp [isSlash])
  rw [segments, List.map_append, hsame, hmore more hslash]

theorem withoutSlashes_eq_iff {cs : List Char} : withoutSlashes cs = cs ↔ cs.getLast? ≠ some '/' := by
  rw [withoutSlashes, List.reverse_eq_iff, List.getLast?_eq_head?_reverse]
  generalize cs.reverse = r
  cases r with
  | nil => exact iff_of_true rfl (by simp)
  | cons c r =>
    rw [List.dropWhile_cons, List.head?_cons]
    split
    case isTrue hc =>
      refine iff_of_false ?_ fun hne => hne (congrArg some (eq_of_beq hc))
      intro he
      have hle := (List.dropWhile_suffix (· == '/') (l := r)).length_le
      rw [he] at hle
      exact Nat.lt_irrefl _ hle
    case isFalse hc => exact iff_of_true rfl fun he => hc (beq_iff_eq.2 (Option.some.inj he))

theorem withoutSlashes_concat (cs : List Char) : withoutSlashes (cs ++ ['/']) = withoutSlashes cs := by
  rw [withoutSlashes, List.reverse_append]
  rfl

theorem length_withoutSlashes_le (cs : List Char) : (withoutSlashes cs).length ≤ cs.length := by
  rw [withoutSlashes, List.length_reverse, ← cs.length_reverse]
  exact (List.dropWhile_suffix _).length_le

theorem exists_last_segment (known : Bool) (hy : y ≠ []) : ∃ path z, '/' ∉ z ∧ (z = [] ↔ EndsInSlash known y) ∧
    (hostPath known y).toList = written (enter path z true) ∧
    ∀ more, (∀ c ∈ more, isSlash known c = false) →
      kept known (y ++ more) = written (enter path (z ++ more) false) := by
  obtain ⟨ss, z, hz, hend, hmore⟩ := segments_last known (inner known y)
  have hmore (more : List Char) (hno : ∀ c ∈ more, isSlash known c = false) :
      segments known (inner known (y ++ more)) = ss ++ [z ++ more] := by
    rw [inner_append hy, hmore more hno]
  refine ⟨passed [] ss, z, hz, hend.trans (inner_ends_iff hy), ?_, ?_⟩
  · have hsame := hmore [] fun c hc => absurd hc List.not_mem_nil
    rw [List.append_nil, List.append_nil] at hsame
    rw [hostPath_of_ne_nil hy, hsame, enterAll_append _ _ _ (List.cons_ne_nil _ _), enterAll]
  · intro more hno
    have hne : (y ++ more).isEmpty = false := by
      rw [List.isEmpty_eq_false_iff]
      exact fun h => hy (List.append_eq_nil_iff.1 h).1
    rw [kept, hne, hmore more hno, passed, List.foldl_append]
    rfl

theorem toLower_of_low {c : Char} (h : c.toNat ≤ 0x20) : c.toLower = c := by
  have hlow : ¬(c.val ≥ 'A'.val ∧ c.val ≤ 'Z'.val) := by
    intro hc
    have hle : 65 ≤ c.toNat := UInt32.le_iff_toNat_le.1 hc.1
    omega
  exact dif_neg hlow

theorem isDots_chars {s : List Char} (h : isDots s = true) : ∀ c ∈ s, 0x20 < c.toNat := by
  have hall : (s.map Char.toLower).all (fun d => 0x20 < d.toNat) = true := by
    simp only [isDots, isAbove, isHere, Bool.or_eq_true, beq_iff_eq] at h
    rcases h with ((((h | h) | h) | h) | (h | h))
    all_goals
      rw [h]
      decide
  intro c hc
  refine Nat.lt_of_not_le fun hlow => ?_
  have hlower := of_decide_eq_true (List.all_eq_true.1 hall c.toLower (List.mem_map_of_mem hc))
  rw [toLower_of_low hlow] at hlower
  exact Nat.not_lt.2 hlow hlower

theorem double_slash_iff (cs : List Char) : ['/', '/'] <:+ cs ++ ['/'] ↔ cs.getLast? = some '/' := by
  rw [List.getLast?_eq_some_iff]
  constructor
  · rintro ⟨front, hfront⟩
    have hsame : (front ++ ['/']) ++ ['/'] = cs ++ ['/'] := by
      rw [List.append_assoc]
      exact hfront
    exact ⟨front, (List.append_cancel_right hsame).symm⟩
  · rintro ⟨front, rfl⟩
    exact ⟨front, by rw [List.append_assoc]; rfl⟩

theorem getLast?_of_double_slash {cs : List Char} (h : ['/', '/'] <:+ cs) : cs.getLast? = some '/' := by
  obtain ⟨front, rfl⟩ := h
  rw [List.getLast?_append]
  rfl

/-- What stands before a further path is the path itself without the slashes at its end, if the text does not end in a
slash and the path not in two. -/
theorem withoutSlashes_hostPath_iff (known : Bool) (y : List Char) :
    withoutSlashes (hostPath known y).toList = kept known y ↔
      ¬EndsInSlash known y ∧ ¬['/', '/'] <:+ (hostPath known y).toList := by
  by_cases hy : y = []
  · subst hy
    have hend : ¬EndsInSlash known [] := fun ⟨c, hc, _⟩ => by simp at hc
    cases known
    · exact iff_of_true rfl ⟨hend, by decide⟩
    · exact iff_of_true rfl ⟨hend, by decide⟩
  obtain ⟨path, z, hz, hend, hpath, hmore⟩ := exists_last_segment known hy
  have hkept := hmore [] fun c hc => absurd hc List.not_mem_nil
  rw [List.append_nil, List.append_nil] at hkept
  rw [hpath, hkept, ← hend]
  cases hdots : isDots z with
  | true =>
    have hne : z ≠ [] := by
      rintro rfl
      cases hdots
    rw [enter_of_dots hdots, written_cons, withoutSlashes_concat, withoutSlashes_eq_iff, double_slash_iff]
    exact ⟨fun hlast => ⟨hne, hlast⟩, fun h => h.2⟩
  | false =>
    rw [enter_of_not_dots hdots, enter_of_not_dots hdots, withoutSlashes_eq_iff, written_cons]
    by_cases hempty : z = []
    · subst hempty
      refine iff_of_false (fun h => h ?_) (fun h => h.1 rfl)
      rw [List.getLast?_append]
      rfl
    · have hlast : (written path ++ '/' :: Host.percentEncode keepsPath z).getLast? ≠ some '/' := by
        have hne : Host.percentEncode keepsPath z ≠ [] := percentEncode_ne_nil hempty
        rw [List.append_cons, List.getLast?_append, List.getLast?_eq_some_getLast hne, Option.some_or]
        exact fun he => slash_notMem_percentEncode hz (Option.some.inj he ▸ List.getLast_mem hne)
      exact iff_of_true hlast ⟨hempty, fun hdouble => hlast (getLast?_of_double_slash hdouble)⟩

theorem not_slash_of_low (known : Bool) {c : Char} (h : c.toNat ≤ 0x20) : isSlash known c = false := by
  rw [isSlash, Bool.or_eq_false_iff, Bool.and_eq_false_iff, beq_eq_false_iff_ne, beq_eq_false_iff_ne]
  refine ⟨?_, .inr ?_⟩
  · rintro rfl
    exact absurd h (by decide)
  · rintro rfl
    exact absurd h (by decide)

theorem length_hostPath_lt (known : Bool) (hy : y ≠ []) {w : List Char} (hw : w ≠ []) (hlow : ∀ c ∈ w, c.toNat ≤ 0x20) :
    (hostPath known y).toList.length < (kept known (y ++ w)).length := by
  obtain ⟨path, z, hz, hend, hpath, hmore⟩ := exists_last_segment known hy
  have hno : ∀ c ∈ w, isSlash known c = false := fun c hc => not_slash_of_low known (hlow c hc)
  have hplain : isDots (z ++ w) = false := by
    obtain ⟨c, rest, rfl⟩ := List.exists_cons_of_ne_nil hw
    rw [Bool.eq_false_iff]
    intro hdots
    have := isDots_chars hdots c (by simp)
    have := hlow c List.mem_cons_self
    omega
  have hlength : 0 < (Host.percentEncode keepsPath w).length := List.length_pos_iff.2 (percentEncode_ne_nil hw)
  rw [hpath, hmore w hno, enter_of_not_dots hplain, percentEncode_append, written_cons]
  cases hdots : isDots z with
  | true =>
    have := length_enter_dots hdots path
    rw [enter_of_dots hdots, written_cons]
    simp only [List.length_append, List.length_cons, List.length_nil]
    omega
  | false =>
    rw [enter_of_not_dots hdots, written_cons]
    simp only [List.length_append, List.length_cons]
    omega

theorem hostPath_jobs (known : Bool) (y : List Char) :
    (hostPath known (y ++ Client.jobsPath.toList)).toList = kept known y ++ Client.jobsPath.toList := by
  have hrest : segments known "api/queue/jobs".toList = ["api".toList, "queue".toList, "jobs".toList] := by
    cases known <;> decide
  have henter (path : List (List Char)) : enterAll path (segments known "api/queue/jobs".toList) =
      "jobs".toList :: "queue".toList :: "api".toList :: path := by
    rw [hrest]
    rfl
  have hpath : Client.jobsPath.toList = '/' :: "api/queue/jobs".toList := by decide
  by_cases hy : y = []
  · subst hy
    have hinner : inner known ('/' :: "api/queue/jobs".toList) = "api/queue/jobs".toList := rfl
    rw [hpath, List.nil_append, hostPath_of_ne_nil (List.cons_ne_nil _ _), hinner, henter]
    rfl
  · have hempty : y.isEmpty = false := by rw [List.isEmpty_eq_false_iff]; exact hy
    rw [hostPath_of_ne_nil (fun h => hy (List.append_eq_nil_iff.1 h).1), inner_append hy, hpath, segments_append_slash,
      enterAll_append _ _ _ (by rw [hrest]; exact List.cons_ne_nil _ _), henter, kept, hempty]
    simp only [written_cons, List.append_assoc]
    rfl

end Reader

end JobBoard.Address
