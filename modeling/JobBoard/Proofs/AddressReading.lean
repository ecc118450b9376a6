import Mathlib.Data.List.TakeWhile
import JobBoard.Proofs.AddressHost

/-!
What becomes of an address when the path of the job list stands behind its text. A text without query and fragment is
read as before, with a longer path; behind one of them, the path goes where they end.
-/

namespace JobBoard.Address.Reader

variable {cs w x : List Char} {known : Bool} {scheme : String} {a b : Address}

theorem drop_takeWhile (p : Char → Bool) (cs : List Char) : cs.drop (cs.takeWhile p).length = cs.dropWhile p := by
  calc cs.drop (cs.takeWhile p).length
      = (cs.takeWhile p ++ cs.dropWhile p).drop (cs.takeWhile p).length := by rw [List.takeWhile_append_dropWhile]
    _ = cs.dropWhile p := List.drop_left

theorem not_of_dropWhile {p : Char → Bool} {c : Char} {r : List Char} (h : cs.dropWhile p = c :: r) : p c = false := by
  have hne : cs.dropWhile p ≠ [] := by
    rw [h]
    exact List.cons_ne_nil _ _
  have hc : (cs.dropWhile p).head hne = c := (List.head_eq_iff_head?_eq_some _).2 (congrArg List.head? h)
  rw [← hc]
  exact List.head_dropWhile_not p hne

theorem takeWhile_append_stop {p : Char → Bool} (h : cs.dropWhile p ≠ []) (x : List Char) :
    (cs ++ x).takeWhile p = cs.takeWhile p := by
  rw [List.takeWhile_append, if_neg]
  intro hall
  exact h (List.dropWhile_eq_nil_iff.2 (List.takeWhile_eq_self_iff.1 ((List.takeWhile_prefix p).eq_of_length hall)))

theorem dropWhile_append_stop {p : Char → Bool} (h : cs.dropWhile p ≠ []) (x : List Char) :
    (cs ++ x).dropWhile p = cs.dropWhile p ++ x := by
  rw [List.dropWhile_append, if_neg (by rwa [List.isEmpty_iff])]

def isOpen (c : Char) : Bool := c != '?' && c != '#'

theorem cutTail_fst (cs : List Char) : (cutTail cs).1 = cs.takeWhile isOpen := by
  have hopen : (fun c => decide ((c != '?') = true ∧ (c != '#') = true)) = isOpen := by
    funext c
    rw [Bool.decide_and, Bool.decide_coe, Bool.decide_coe, isOpen]
  unfold cutTail
  dsimp only
  rw [List.takeWhile_takeWhile, hopen]

theorem cutTail_of_open (h : cs.dropWhile isOpen = []) : cutTail cs = (cs, none, none) := by
  rw [List.dropWhile_eq_nil_iff] at h
  have hmark : cs.takeWhile (· != '#') = cs :=
    List.takeWhile_eq_self_iff.2 fun c hc => (Bool.and_eq_true_iff.1 (h c hc)).2
  have hquery : cs.takeWhile (· != '?') = cs :=
    List.takeWhile_eq_self_iff.2 fun c hc => (Bool.and_eq_true_iff.1 (h c hc)).1
  unfold cutTail
  dsimp only
  rw [hmark, hquery, List.drop_length]

theorem open_of_cutTail (hquery : (cutTail cs).2.1 = none) (hfragment : (cutTail cs).2.2 = none) :
    cs.dropWhile isOpen = [] := by
  unfold cutTail at hquery hfragment
  dsimp only at hquery hfragment
  have hmark : cs.takeWhile (· != '#') = cs := by
    split at hfragment
    · cases hfragment
    rename_i hnil
    exact (List.takeWhile_prefix _).eq_of_length_le (List.drop_eq_nil_iff.1 hnil)
  have hfront : cs.takeWhile (· != '?') = cs := by
    rw [hmark] at hquery
    split at hquery
    · cases hquery
    rename_i hnil
    exact (List.takeWhile_prefix _).eq_of_length_le (List.drop_eq_nil_iff.1 hnil)
  rw [List.takeWhile_eq_self_iff] at hmark hfront
  exact List.dropWhile_eq_nil_iff.2 fun c hc => Bool.and_eq_true_iff.2 ⟨hfront c hc, hmark c hc⟩

theorem open_of_low {c : Char} (h : c.toNat ≤ 0x20) : isOpen c = true :=
  Bool.and_eq_true_iff.2 ⟨bne_iff_ne.2 (ne_of_low h (by decide)), bne_iff_ne.2 (ne_of_low h (by decide))⟩

theorem open_append_jobs (hopen : cs.dropWhile isOpen = []) (hlow : ∀ c ∈ w, c.toNat ≤ 0x20) :
    (cs ++ (w ++ Client.jobsPath.toList)).dropWhile isOpen = [] := by
  have hjobs : ∀ c ∈ Client.jobsPath.toList, isOpen c = true := List.all_eq_true.1 (by decide)
  rw [List.dropWhile_eq_nil_iff] at hopen ⊢
  intro c hc
  rcases List.mem_append.1 hc with hc | hc
  · exact hopen c hc
  · rcases List.mem_append.1 hc with hc | hc
    · exact open_of_low (hlow c hc)
    · exact hjobs c hc

theorem front_append_behind (known : Bool) (cs : List Char) : front known cs ++ behind known cs = cs :=
  List.takeWhile_append_dropWhile

theorem not_slash_of_mem_front {c : Char} (h : c ∈ front known cs) : isSlash known c = false := by
  rw [← Bool.not_eq_true']
  exact List.mem_takeWhile_imp (p := (!isSlash known ·)) h

theorem slash_of_behind {c : Char} {r : List Char} (h : behind known cs = c :: r) : isSlash known c = true :=
  Bool.not_eq_false' _ ▸ not_of_dropWhile h

theorem hostPath_behind (cs : List Char) :
    hostPath true (behind true cs) = slashPath true ((behind true cs).drop 1) := by
  unfold hostPath
  split
  case h_1 hnil =>
    rw [hnil]
    decide
  case h_2 c r hcons =>
    rw [if_pos (slash_of_behind hcons), hcons]
    rfl

theorem front_of_behind (h : behind known cs = []) : front known cs = cs := by
  rw [← List.append_nil (front known cs), ← h, front_append_behind]

theorem front_append (h : behind known cs ≠ []) (x : List Char) :
    front known (cs ++ x) = front known cs ∧ behind known (cs ++ x) = behind known cs ++ x :=
  ⟨takeWhile_append_stop h x, dropWhile_append_stop h x⟩

theorem front_append_jobs (h : behind known cs = []) (hlow : ∀ c ∈ w, c.toNat ≤ 0x20) :
    front known (cs ++ (w ++ Client.jobsPath.toList)) = cs ++ w ∧
      behind known (cs ++ (w ++ Client.jobsPath.toList)) = Client.jobsPath.toList := by
  have hall : ∀ c ∈ cs ++ w, (!isSlash known c) = true := by
    intro c hc
    rcases List.mem_append.1 hc with hc | hc
    · exact List.dropWhile_eq_nil_iff.1 h c hc
    · rw [not_slash_of_low known (hlow c hc)]
      rfl
  have hjobs : Client.jobsPath.toList.takeWhile (!isSlash known ·) = [] ∧
      Client.jobsPath.toList.dropWhile (!isSlash known ·) = Client.jobsPath.toList := by
    cases known
    · exact ⟨by decide, by decide⟩
    · exact ⟨by decide, by decide⟩
  rw [← List.append_assoc, front, behind, List.takeWhile_append_of_pos hall, List.dropWhile_append_of_pos hall, hjobs.1,
    hjobs.2]
  exact ⟨List.append_nil _, rfl⟩

/-- A path that begins before the first slash or with it stands behind a character that is no slash. -/
theorem exists_before {f rest : List Char} (hf : f ≠ []) (hfront : front known cs = f ++ rest) :
    ∃ f' c, cs = f' ++ c :: (rest ++ behind known cs) ∧ isSlash known c = false := by
  obtain ⟨f', c, rfl⟩ := List.eq_nil_or_concat f |>.resolve_left hf
  have hmem : c ∈ front known cs := by
    rw [hfront]
    simp
  refine ⟨f', c, ?_, not_slash_of_mem_front hmem⟩
  calc cs = front known cs ++ behind known cs := (front_append_behind known cs).symm
    _ = f' ++ c :: (rest ++ behind known cs) := by
      rw [hfront]
      simp

/-- The text ends in its path, which begins behind a character that is no slash; with more behind it the address is the
same but for the path, or it has another host. -/
structure Reads (read : Rest → Except Flaw Address) (known : Bool) (cs y : List Char) (a : Address) : Prop where
  path : a.path = hostPath known y
  before : ∃ f c, cs = f ++ c :: y ∧ isSlash known c = false
  goesOn : ∀ w, (∀ c ∈ w, c.toNat ≤ 0x20) → (y = [] → w = []) → read (cs ++ (w ++ Client.jobsPath.toList)) =
    .ok { a with path := hostPath known (y ++ (w ++ Client.jobsPath.toList)) }
  stops : ∀ w, (∀ c ∈ w, c.toNat ≤ 0x20) → w ≠ [] → y = [] →
    ∀ b, read (cs ++ (w ++ Client.jobsPath.toList)) = .ok b → b.host ≠ a.host

theorem authority_of_hosted [Names] (h : hosted scheme known cs = .ok a) :
    ∃ b rest, authority scheme known (front known (cutTail cs).1) = .ok (b, rest) ∧
      a = withTail known { b with path := hostPath known (rest ++ behind known (cutTail cs).1) }
        (cutTail cs).2.1 (cutTail cs).2.2 := by
  unfold hosted at h
  dsimp only at h
  split at h
  · cases h
  split at h
  · cases h
  rename_i b rest hb
  exact ⟨b, rest, hb, (Except.ok.inj h).symm⟩

theorem front_ne_at [Names] [LawfulNames] {rest : Rest} (h : authority scheme known cs = .ok (b, rest))
    (hhost : b.host.isSome) : cs ≠ ['@'] := by
  rintro rfl
  obtain ⟨host, hhost⟩ := Option.isSome_iff_exists.1 hhost
  exact (authority_iff.1 ⟨h, hhost⟩).1 rfl

theorem hosted_of_open [Names] [LawfulNames] (hopen : cs.dropWhile isOpen = []) {rest : Rest}
    (h : authority scheme known (front known cs) = .ok (b, rest)) (hhost : b.host.isSome) : hosted scheme known cs =
      .ok { b with path := hostPath known (rest ++ behind known cs), query := none, fragment := none } := by
  have hat : (front known cs == ['@']) = false := beq_eq_false_iff_ne.2 (front_ne_at h hhost)
  unfold hosted
  rw [cutTail_of_open hopen]
  dsimp only
  rw [hat, Bool.false_and, if_neg Bool.false_ne_true, h]
  rfl

section

variable [Names] [LawfulNames] {rest : Rest} (hhost : b.host.isSome)
  (hb : authority scheme known (front known cs) = .ok (b, rest)) (hlow : ∀ c ∈ w, c.toNat ≤ 0x20)

include hhost hb hlow

/-- What belongs to the host stays as it is, and the path goes on, if there is one or no low character comes before. -/
theorem authority_goesOn (hw : rest ++ behind known cs = [] → w = []) : ∃ rest',
    authority scheme known (front known (cs ++ (w ++ Client.jobsPath.toList))) = .ok (b, rest') ∧
      rest' ++ behind known (cs ++ (w ++ Client.jobsPath.toList)) =
        rest ++ behind known cs ++ (w ++ Client.jobsPath.toList) := by
  by_cases hbehind : behind known cs = []
  · -- The low characters come before the slash; they stay there only if the path has begun behind the port.
    obtain ⟨hfront, hpath⟩ := front_append_jobs hbehind hlow
    refine ⟨rest ++ w, ?_, by rw [hpath, hbehind, List.append_nil, List.append_assoc]⟩
    rw [hfront, ← front_of_behind hbehind]
    by_cases hrest : rest = []
    · rw [hw (by rw [hrest, hbehind]; rfl), List.append_nil, List.append_nil]
      exact hb
    · exact authority_append hhost hb hrest hlow
  · obtain ⟨hfront, hpath⟩ := front_append hbehind (w ++ Client.jobsPath.toList)
    exact ⟨rest, by rw [hfront, hb], by rw [hpath, List.append_assoc]⟩

theorem authority_stops (hw : w ≠ []) (hpath : rest ++ behind known cs = []) {b' : Address} {rest' : Rest}
    (hb' : authority scheme known (front known (cs ++ (w ++ Client.jobsPath.toList))) = .ok (b', rest')) :
    b'.host ≠ b.host := by
  obtain ⟨hrest, hbehind⟩ := List.append_eq_nil_iff.1 hpath
  rw [(front_append_jobs hbehind hlow).1, ← front_of_behind hbehind] at hb'
  exact authority_of_low hhost hb hrest hw hlow hb'

end

theorem reads_of_hosted [Names] [LawfulNames] (h : hosted scheme known cs = .ok a) (hhost : a.host.isSome)
    (hquery : a.query = none) (hfragment : a.fragment = none) : ∃ y, Reads (hosted scheme known) known cs y a := by
  obtain ⟨b, rest, hb, ha⟩ := authority_of_hosted h
  have hopen : cs.dropWhile isOpen = [] := by
    rw [ha] at hquery hfragment
    exact open_of_cutTail (Option.map_eq_none_iff.1 hquery) (Option.map_eq_none_iff.1 hfragment)
  rw [cutTail_of_open hopen] at hb ha
  obtain rfl : a = { b with path := hostPath known (rest ++ behind known cs), query := none, fragment := none } := ha
  have hhost : b.host.isSome := hhost
  refine ⟨rest ++ behind known cs, rfl, ?before, ?goesOn, ?stops⟩
  case before =>
    obtain ⟨f, hf, hfront⟩ := authority_front hhost hb
    exact exists_before hf hfront
  case goesOn =>
    intro w hlow hw
    obtain ⟨rest', hread, hpath⟩ := authority_goesOn hhost hb hlow hw
    rw [hosted_of_open (open_append_jobs hopen hlow) hread hhost, hpath]
  case stops =>
    intro w hlow hw hy b' hread
    obtain ⟨b'', rest', hb', rfl⟩ := authority_of_hosted hread
    rw [cutTail_of_open (open_append_jobs hopen hlow)] at hb'
    have hother : b''.host ≠ b.host := authority_stops hhost hb hlow hw hy hb'
    exact hother

theorem path_of_hosted [Names] (h : hosted scheme known cs = .ok a) (htail : ¬(a.query = none ∧ a.fragment = none))
    (x : List Char) (hb : hosted scheme known (cs ++ x) = .ok b) : b.path = a.path := by
  obtain ⟨a', rest, ha, rfl⟩ := authority_of_hosted h
  obtain ⟨b', rest', hb', rfl⟩ := authority_of_hosted hb
  have hclosed : cs.dropWhile isOpen ≠ [] := by
    intro hopen
    rw [cutTail_of_open hopen] at htail
    exact htail ⟨rfl, rfl⟩
  have hcut : (cutTail (cs ++ x)).1 = (cutTail cs).1 := by
    rw [cutTail_fst, cutTail_fst, takeWhile_append_stop hclosed]
  rw [hcut, ha] at hb'
  obtain ⟨-, rfl⟩ := Prod.mk.inj (Except.ok.inj hb')
  change hostPath _ _ = hostPath _ _
  rw [hcut]

theorem host_fileAddress {host : Option Host} {path : List Char} {query fragment : Option (List Char)} {h : Host} :
    (fileAddress host path query fragment).host = some h ↔ host = some h ∧ beginsWithDrive path = false := by
  change (if beginsWithDrive path then none else host) = some h ↔ _
  cases beginsWithDrive path with
  | true => simp
  | false => simp

theorem file_iff [Names] [LawfulNames] {h : Host} : file cs = .ok a ∧ a.host = some h ↔
    ∃ s t r, (cutTail cs).1 = s :: t :: r ∧ isSlash true s = true ∧ isSlash true t = true ∧
      isDrive (front true r) = false ∧ Host.ofText (front true r) = .ok h ∧ h.text ≠ "localhost" ∧
      beginsWithDrive ((behind true r).drop 1) = false ∧
      a = fileAddress (some h) ((behind true r).drop 1) (cutTail cs).2.1 (cutTail cs).2.2 := by
  unfold file
  dsimp only
  constructor
  · rintro ⟨hread, hhost⟩
    have hnone {path : List Char} (he : Except.ok (fileAddress none path (cutTail cs).2.1 (cutTail cs).2.2) =
        (.ok a : Except Flaw Address)) : False := by
      rw [← Except.ok.inj he, host_fileAddress] at hhost
      cases hhost.1
    split at hread
    case h_2 => exact (hnone hread).elim
    case h_3 => exact (hnone hread).elim
    case h_1 s t r hbefore =>
      split at hread
      case isFalse =>
        split at hread
        · exact (hnone hread).elim
        · exact (hnone hread).elim
      rename_i hslashes
      obtain ⟨hs, ht⟩ := Bool.and_eq_true_iff.1 hslashes
      split at hread
      · exact (hnone hread).elim
      rename_i hdrive
      split at hread
      · exact (hnone hread).elim
      split at hread
      · cases hread
      rename_i h' hh
      rw [← Except.ok.inj hread, host_fileAddress] at hhost
      obtain ⟨hhost, hfirst⟩ := hhost
      split at hhost
      · cases hhost
      rename_i hlocal
      obtain rfl := Option.some.inj hhost
      rw [if_neg hlocal] at hread
      exact ⟨s, t, r, hbefore, hs, ht, Bool.not_eq_true _ ▸ hdrive, hh, fun he => hlocal (beq_iff_eq.2 he), hfirst,
        (Except.ok.inj hread).symm⟩
  · rintro ⟨s, t, r, hbefore, hs, ht, hdrive, hhost, hlocal, hfirst, rfl⟩
    have hempty : (front true r).isEmpty = false := by
      rw [List.isEmpty_eq_false_iff]
      intro hnil
      rw [hnil, ofText_nil] at hhost
      cases hhost
    have hlocal : (h.text == "localhost") = false := beq_eq_false_iff_ne.2 hlocal
    refine ⟨?_, host_fileAddress.2 ⟨rfl, hfirst⟩⟩
    rw [hbefore]
    dsimp only
    rw [hs, ht, Bool.and_self, if_pos rfl, hdrive, if_neg Bool.false_ne_true, hempty, if_neg Bool.false_ne_true, hhost]
    dsimp only
    rw [hlocal, if_neg Bool.false_ne_true]

theorem isDrive_append (hlow : ∀ c ∈ w, c.toNat ≤ 0x20) (h : isDrive cs = false) : isDrive (cs ++ w) = false := by
  by_cases hw : w = []
  · rw [hw, List.append_nil, h]
  obtain ⟨c, hlast, hc⟩ := getLast?_append_low cs hw hlow
  rw [Bool.eq_false_iff]
  intro hdrive
  unfold isDrive at hdrive
  split at hdrive
  · rename_i d hd
    rw [hd] at hlast
    obtain rfl : d = c := Option.some.inj hlast
    obtain ⟨-, hmark⟩ := Bool.and_eq_true_iff.1 hdrive
    rcases Bool.or_eq_true_iff.1 hmark with he | he
    · exact ne_of_low hc (by decide) (eq_of_beq he)
    · exact ne_of_low hc (by decide) (eq_of_beq he)
  · cases hdrive

theorem beginsWithDrive_append {q : List Char} (hlow : ∀ c ∈ w, c.toNat ≤ 0x20) (h : beginsWithDrive cs = false) :
    beginsWithDrive (cs ++ (w ++ '/' :: q)) = false := by
  have hno : ∀ c ∈ w, isSlash true c = false := fun c hc => not_slash_of_low true (hlow c hc)
  obtain ⟨ss, z, -, -, hmore⟩ := segments_last true cs
  have hsame := hmore [] fun c hc => absurd hc List.not_mem_nil
  rw [List.append_nil, List.append_nil] at hsame
  unfold beginsWithDrive at h ⊢
  rw [← List.append_assoc, segments_append_slash, hmore w hno]
  rw [hsame] at h
  cases ss with
  | nil => exact isDrive_append hlow h
  | cons first ss => exact h

theorem fileAddress_of_no_drive {path : List Char} (h : beginsWithDrive path = false) (host : Option Host) :
    fileAddress host path none none = { scheme := "file", host, path := slashPath true path } := by
  rw [fileAddress, h]
  rfl

/-- The machine of a file stays as it is, and the path goes on; a first segment that is no drive stays one. -/
theorem machine_goesOn (hfirst : beginsWithDrive ((behind true cs).drop 1) = false) (hlow : ∀ c ∈ w, c.toNat ≤ 0x20)
    (hw : behind true cs = [] → w = []) : front true (cs ++ (w ++ Client.jobsPath.toList)) = front true cs ∧
      behind true (cs ++ (w ++ Client.jobsPath.toList)) = behind true cs ++ (w ++ Client.jobsPath.toList) ∧
      beginsWithDrive ((behind true cs ++ (w ++ Client.jobsPath.toList)).drop 1) = false := by
  cases hbehind : behind true cs with
  | nil =>
    obtain ⟨hfront, hpath⟩ := front_append_jobs hbehind hlow
    rw [hw hbehind] at hfront hpath ⊢
    exact ⟨by rw [hfront, List.append_nil, front_of_behind hbehind], hpath, by decide⟩
  | cons c y =>
    obtain ⟨hfront, hpath⟩ := front_append (hbehind ▸ List.cons_ne_nil _ _) (w ++ Client.jobsPath.toList)
    rw [hbehind] at hfirst hpath
    exact ⟨hfront, hpath, beginsWithDrive_append hlow hfirst⟩

theorem reads_of_file [Names] [LawfulNames] (h : file cs = .ok a) (hhost : a.host.isSome) (hquery : a.query = none)
    (hfragment : a.fragment = none) : ∃ y, Reads file true cs y a := by
  obtain ⟨host, hhost⟩ := Option.isSome_iff_exists.1 hhost
  obtain ⟨s, t, r, hcut, hs, ht, hdrive, hread, hlocal, hfirst, ha⟩ := file_iff.1 ⟨h, hhost⟩
  have hopen : cs.dropWhile isOpen = [] := by
    rw [ha] at hquery hfragment
    exact open_of_cutTail (Option.map_eq_none_iff.1 hquery) (Option.map_eq_none_iff.1 hfragment)
  rw [cutTail_of_open hopen] at hcut ha
  obtain rfl : cs = s :: t :: r := hcut
  dsimp only at ha
  rw [fileAddress_of_no_drive hfirst, ← hostPath_behind] at ha
  have hcut' {w : List Char} (hlow : ∀ c ∈ w, c.toNat ≤ 0x20) := cutTail_of_open (open_append_jobs hopen hlow)
  refine ⟨behind true r, by rw [ha], ?before, ?goesOn, ?stops⟩
  case before =>
    have hne : front true r ≠ [] := by
      intro hnil
      rw [hnil, ofText_nil] at hread
      cases hread
    obtain ⟨f, c, hr, hc⟩ := exists_before hne (List.append_nil _).symm
    exact ⟨s :: t :: f, c, congrArg (s :: t :: ·) hr, hc⟩
  case goesOn =>
    intro w hlow hw
    obtain ⟨hfront, hpath, hfirst'⟩ := machine_goesOn hfirst hlow hw
    refine (file_iff (h := host).2 ⟨s, t, r ++ (w ++ Client.jobsPath.toList), ?_, hs, ht, ?_, ?_, hlocal, ?_, ?_⟩).1
    · rw [hcut' hlow]
      rfl
    · rw [hfront, hdrive]
    · rw [hfront, hread]
    · rw [hpath, hfirst']
    · rw [hcut' hlow, hpath, fileAddress_of_no_drive hfirst', ← hpath, hostPath_behind, ha]
  case stops =>
    intro w hlow hw hy b hb hsame
    obtain ⟨s', t', r', hcut, -, -, -, hread', -⟩ := file_iff.1 ⟨hb, hsame.trans hhost⟩
    rw [hcut' hlow] at hcut
    obtain ⟨-, -, rfl⟩ : s = s' ∧ t = t' ∧ r ++ (w ++ Client.jobsPath.toList) = r' := by simpa using hcut
    rw [(front_append_jobs hy hlow).1] at hread'
    exact ofText_of_low hw hlow host hread'

theorem path_of_file [Names] [LawfulNames] (h : file cs = .ok a) (hhost : a.host.isSome)
    (htail : ¬(a.query = none ∧ a.fragment = none)) (x : List Char) (hb : file (cs ++ x) = .ok b)
    (hsame : b.host = a.host) : b.path = a.path := by
  obtain ⟨host, hhost⟩ := Option.isSome_iff_exists.1 hhost
  obtain ⟨s, t, r, hcut, -, -, -, -, -, -, rfl⟩ := file_iff.1 ⟨h, hhost⟩
  obtain ⟨s', t', r', hcut', -, -, -, -, -, -, rfl⟩ := file_iff.1 ⟨hb, hsame.trans hhost⟩
  have hclosed : cs.dropWhile isOpen ≠ [] := by
    intro hopen
    rw [cutTail_of_open hopen] at htail
    exact htail ⟨rfl, rfl⟩
  rw [cutTail_fst, takeWhile_append_stop hclosed, ← cutTail_fst, hcut] at hcut'
  obtain ⟨-, -, rfl⟩ : s = s' ∧ t = t' ∧ r = r' := by simpa using hcut'
  rfl

theorem scheme?_append {r : Rest} (h : scheme? cs = some (scheme, r)) :
    (∃ f, cs = f ++ r) ∧ ∀ x, scheme? (cs ++ x) = some (scheme, r ++ x) := by
  unfold scheme? at h
  split at h
  case h_2 => cases h
  case h_1 c cs' =>
    dsimp only at h
    rw [drop_takeWhile] at h
    split at h
    case h_2 => cases h
    case h_1 r' hcolon =>
      split at h
      case isFalse => cases h
      case isTrue hletter =>
        obtain ⟨rfl, rfl⟩ := Prod.mk.inj (Option.some.inj h)
        have hne : (c :: cs').dropWhile isSchemeLetter ≠ [] := by
          rw [hcolon]
          exact List.cons_ne_nil _ _
        refine ⟨⟨(c :: cs').takeWhile isSchemeLetter ++ [':'], ?_⟩, ?_⟩
        · rw [List.append_assoc, List.singleton_append, ← hcolon, List.takeWhile_append_dropWhile]
        · intro x
          rw [List.cons_append, scheme?, ← List.cons_append, drop_takeWhile, takeWhile_append_stop hne,
            dropWhile_append_stop hne, hcolon]
          exact if_pos hletter

theorem scheme_of_hosted [Names] [LawfulNames] (h : hosted scheme known cs = .ok a) (hhost : a.host.isSome) :
    a.scheme = scheme ∧ cs ≠ [] := by
  obtain ⟨b, rest, hb, rfl⟩ := authority_of_hosted h
  obtain ⟨host, hhost⟩ := Option.isSome_iff_exists.1 hhost
  obtain ⟨hne, -, n, -, rfl⟩ := authority_iff.1 ⟨hb, hhost⟩
  refine ⟨rfl, ?_⟩
  rintro rfl
  exact hne rfl

theorem readClean_cases [Names] [LawfulNames] (h : readClean cs = .ok a) (hhost : a.host.isSome) : ∃ f r, cs = f ++ r ∧
    ((a.scheme = "file" ∧ file r = .ok a ∧ ∀ x, readClean (cs ++ x) = file (r ++ x)) ∨
      (hosted a.scheme (isKnownScheme a.scheme) r = .ok a ∧
        ∀ x, readClean (cs ++ x) = hosted a.scheme (isKnownScheme a.scheme) (r ++ x))) := by
  rw [readClean] at h
  split at h
  case h_1 => cases h
  case h_2 scheme r hscheme =>
    obtain ⟨⟨f, hf⟩, happend⟩ := scheme?_append hscheme
    split at h
    case isTrue hfile =>
      refine ⟨f, r, hf, .inl ⟨?_, h, ?_⟩⟩
      · obtain ⟨host, hhost⟩ := Option.isSome_iff_exists.1 hhost
        obtain ⟨s, t, r, -, -, -, -, -, -, -, rfl⟩ := file_iff.1 ⟨h, hhost⟩
        rfl
      · intro x
        rw [readClean, happend]
        exact if_pos hfile
    case isFalse hfile =>
      split at h
      case isTrue hknown =>
        obtain ⟨rfl, hne⟩ := scheme_of_hosted h hhost
        refine ⟨f ++ r.takeWhile (isSlash true), r.dropWhile (isSlash true), ?_, .inr ⟨?_, ?_⟩⟩
        · rw [List.append_assoc, List.takeWhile_append_dropWhile, hf]
        · rw [hknown, h]
        · intro x
          rw [readClean, happend]
          dsimp only
          rw [if_neg hfile, if_pos hknown, hknown, dropWhile_append_stop hne]
      case isFalse hknown =>
        have hknown := Bool.eq_false_iff.2 hknown
        split at h
        case h_1 r' =>
          obtain ⟨rfl, -⟩ := scheme_of_hosted h hhost
          refine ⟨f ++ ['/', '/'], r', ?_, .inr ⟨?_, ?_⟩⟩
          · rw [hf, List.append_assoc]
            rfl
          · rw [hknown, h]
          · intro x
            rw [readClean, happend]
            dsimp only
            rw [if_neg hfile, if_neg (Bool.eq_false_iff.1 hknown), hknown]
            rfl
        case h_2 =>
          rw [← Except.ok.inj h] at hhost
          cases hhost

theorem Reads.after {read read' : Rest → Except Flaw Address} {y : Rest} (h : Reads read known cs y a) (f : List Char)
    (hsame : ∀ x, read' ((f ++ cs) ++ x) = read (cs ++ x)) : Reads read' known (f ++ cs) y a where
  path := h.path
  before := by
    obtain ⟨f', c, hcs, hc⟩ := h.before
    exact ⟨f ++ f', c, by rw [hcs, List.append_assoc], hc⟩
  goesOn := fun w hlow hw => (hsame _).trans (h.goesOn w hlow hw)
  stops := fun w hlow hw hy b hb => h.stops w hlow hw hy b ((hsame _).symm.trans hb)

theorem reads_of_readClean [Names] [LawfulNames] (h : readClean cs = .ok a) (hhost : a.host.isSome)
    (hquery : a.query = none) (hfragment : a.fragment = none) : ∃ y, Reads readClean (isKnownScheme a.scheme) cs y a := by
  obtain ⟨f, r, rfl, ⟨hscheme, hread, hsame⟩ | ⟨hread, hsame⟩⟩ := readClean_cases h hhost
  · obtain ⟨y, hy⟩ := reads_of_file hread hhost hquery hfragment
    rw [hscheme]
    exact ⟨y, hy.after f hsame⟩
  · obtain ⟨y, hy⟩ := reads_of_hosted hread hhost hquery hfragment
    exact ⟨y, hy.after f hsame⟩

theorem path_of_readClean [Names] [LawfulNames] (h : readClean cs = .ok a) (hhost : a.host.isSome)
    (htail : ¬(a.query = none ∧ a.fragment = none)) (x : List Char) (hb : readClean (cs ++ x) = .ok b)
    (hsame : b.host = a.host) : b.path = a.path := by
  obtain ⟨f, r, rfl, ⟨-, hread, heq⟩ | ⟨hread, heq⟩⟩ := readClean_cases h hhost
  · rw [heq] at hb
    exact path_of_file hread hhost htail x hb hsame
  · rw [heq] at hb
    exact path_of_hosted hread htail x hb

end JobBoard.Address.Reader
