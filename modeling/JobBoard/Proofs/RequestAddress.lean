import JobBoard.Address.Names
import JobBoard.Proofs.AddressReading

/-!
Where a list request goes. Its address is the text of the base with the path of the job list behind it, read once more;
it is the base's own address with a longer path if the base ends in a path to which one can add.
-/

namespace JobBoard.Address

variable {cs : List Char} {a b : Address}

namespace Reader

theorem visible_of_high {c : Char} (h : 0x20 < c.toNat) : (!isTabOrLine c) = true := by
  have hne {d : Char} (hd : d.toNat ≤ 0x20) : (c == d) = false := beq_eq_false_iff_ne.2 (ne_of_low hd h).symm
  rw [isTabOrLine, hne (by decide), hne (by decide), hne (by decide)]
  rfl

theorem exists_middle (cs : List Char) : ∃ start middle rest, cs = start ++ (middle ++ rest) ∧
    cs.dropWhile isLow = middle ++ rest ∧ clean cs = middle.filter (!isTabOrLine ·) ∧
    (∀ c ∈ rest, c.toNat ≤ 0x20) ∧ ∀ c, middle.getLast? = some c → 0x20 < c.toNat := by
  refine ⟨cs.takeWhile isLow, ((cs.dropWhile isLow).reverse.dropWhile isLow).reverse,
    ((cs.dropWhile isLow).reverse.takeWhile isLow).reverse, ?_, ?_, rfl, ?_, ?_⟩
  · rw [← List.reverse_append, List.takeWhile_append_dropWhile, List.reverse_reverse, List.takeWhile_append_dropWhile]
  · rw [← List.reverse_append, List.takeWhile_append_dropWhile, List.reverse_reverse]
  · intro c hc
    have hlow : isLow c = true := List.mem_takeWhile_imp (List.mem_reverse.1 hc)
    exact of_decide_eq_true hlow
  · intro c hc
    rw [List.getLast?_reverse] at hc
    obtain ⟨r, hr⟩ := List.head?_eq_some_iff.1 hc
    exact Nat.lt_of_not_le (of_decide_eq_false (not_of_dropWhile hr))

theorem getLast?_visible {middle : List Char} (h : ∀ c, middle.getLast? = some c → 0x20 < c.toNat) {c : Char}
    (hc : (middle.filter (!isTabOrLine ·)).getLast? = some c) : 0x20 < c.toNat := by
  obtain rfl | ⟨front, d, rfl⟩ := List.eq_nil_or_concat middle
  · cases hc
  · rw [List.concat_eq_append] at h hc
    have hd : 0x20 < d.toNat := h d List.getLast?_concat
    rw [List.filter_append, List.filter_cons_of_pos (p := (!isTabOrLine ·)) (visible_of_high hd), List.filter_nil,
      List.getLast?_concat] at hc
    exact Option.some.inj hc ▸ hd

theorem clean_append_jobs (cs : List Char) : clean (cs ++ Client.jobsPath.toList) =
    (cs.dropWhile isLow ++ Client.jobsPath.toList).filter (!isTabOrLine ·) := by
  have hfirst : (cs ++ Client.jobsPath.toList).dropWhile isLow = cs.dropWhile isLow ++ Client.jobsPath.toList := by
    have hjobs : Client.jobsPath.toList.dropWhile isLow = Client.jobsPath.toList := by decide
    rw [List.dropWhile_append, hjobs]
    split
    · rename_i hnil
      rw [List.isEmpty_iff.1 hnil]
      rfl
    · rfl
  have hlast : (cs.dropWhile isLow ++ Client.jobsPath.toList).reverse.dropWhile isLow =
      (cs.dropWhile isLow ++ Client.jobsPath.toList).reverse := by
    have hjobs : Client.jobsPath.toList.reverse.dropWhile isLow = Client.jobsPath.toList.reverse := by decide
    have hsome : Client.jobsPath.toList.reverse.isEmpty = false := by decide
    rw [List.reverse_append, List.dropWhile_append, hjobs, hsome, if_neg Bool.false_ne_true]
  change ((((cs ++ Client.jobsPath.toList).dropWhile isLow).reverse.dropWhile isLow).reverse).filter _ = _
  rw [hfirst, hlast, List.reverse_reverse]

theorem read_append_jobs [Names] (cs : List Char) : ∃ v w, cs.filter (!isTabOrLine ·) = v ++ (clean cs ++ w) ∧
    (∀ c ∈ w, c.toNat ≤ 0x20) ∧ (∀ c, (clean cs).getLast? = some c → 0x20 < c.toNat) ∧
    read (cs ++ Client.jobsPath.toList) = readClean (clean cs ++ (w ++ Client.jobsPath.toList)) := by
  obtain ⟨start, middle, rest, hcs, hdrop, hclean, hlow, hlast⟩ := exists_middle cs
  have hjobs : Client.jobsPath.toList.filter (!isTabOrLine ·) = Client.jobsPath.toList := by decide
  refine ⟨start.filter (!isTabOrLine ·), rest.filter (!isTabOrLine ·), ?_, ?_, ?_, ?_⟩
  · rw [hclean, hcs, List.filter_append, List.filter_append]
  · exact fun c hc => hlow c (List.mem_filter.1 hc).1
  · rw [hclean]
    exact fun c hc => getLast?_visible hlast hc
  · rw [read, clean_append_jobs, hdrop, hclean, List.filter_append, List.filter_append, hjobs, List.append_assoc]

end Reader

/-- A text whose address takes a further path: there is neither a query nor a fragment, the text ends neither in a blank
nor in a slash, where tabs and line ends do not count, and the path not in two slashes. -/
structure TakesPath (s : String) (a : Address) : Prop where
  query : a.query = none
  fragment : a.fragment = none
  ending : ∀ c, (s.toList.filter (!Reader.isTabOrLine ·)).getLast? = some c →
    0x20 < c.toNat ∧ Reader.isSlash (isKnownScheme a.scheme) c = false
  path : ¬['/', '/'] <:+ a.path.toList

open Reader

theorem ending_iff {known : Bool} {all v text w y : List Char} (hall : all = v ++ (text ++ w))
    (hlow : ∀ c ∈ w, c.toNat ≤ 0x20) (hlast : ∀ c, text.getLast? = some c → 0x20 < c.toNat)
    (hbefore : ∃ f c, text = f ++ c :: y ∧ isSlash known c = false) :
    (∀ c, all.getLast? = some c → 0x20 < c.toNat ∧ isSlash known c = false) ↔ w = [] ∧ ¬EndsInSlash known y := by
  obtain ⟨f, d, rfl, hd⟩ := hbefore
  by_cases hw : w = []
  · rw [and_iff_right hw]
    obtain rfl | ⟨y', e, rfl⟩ := List.eq_nil_or_concat y
    · have hend : all.getLast? = some d := by
        rw [hall, hw]
        simp
      refine iff_of_true ?_ fun ⟨c, hc, _⟩ => by simp at hc
      intro c hc
      obtain rfl : d = c := Option.some.inj (hend.symm.trans hc)
      exact ⟨hlast d (by simp), hd⟩
    · have hlong (front : List Char) : (front ++ (f ++ d :: y'.concat e)).getLast? = some e := by
        rw [List.concat_eq_append, ← List.cons_append, ← List.append_assoc, ← List.append_assoc, List.getLast?_concat]
      have hend : all.getLast? = some e := by
        rw [hall, hw, List.append_nil, hlong]
      have he : EndsInSlash known (y'.concat e) ↔ isSlash known e = true := by simp [EndsInSlash]
      rw [hend, he, Bool.not_eq_true]
      exact ⟨fun hc => (hc e rfl).2, fun hno c hc => Option.some.inj hc ▸ ⟨hlast e (hlong []), hno⟩⟩
  · obtain ⟨c, hc, hclow⟩ := getLast?_append_low (v ++ (f ++ d :: y)) hw hlow
    refine iff_of_false (fun hno => ?_) fun hnil => hw hnil.1
    refine Nat.not_lt.2 hclow (hno c ?_).1
    rw [hall, ← List.append_assoc, hc]

theorem exists_reading [Names] [LawfulNames] {s : String} (h : Address.ofText s = .ok a) (hhost : a.host.isSome)
    (hquery : a.query = none) (hfragment : a.fragment = none) : ∃ y w, (∀ c ∈ w, c.toNat ≤ 0x20) ∧
      a.path = hostPath (isKnownScheme a.scheme) y ∧
      ((∀ c, (s.toList.filter (!isTabOrLine ·)).getLast? = some c →
        0x20 < c.toNat ∧ isSlash (isKnownScheme a.scheme) c = false) ↔
        w = [] ∧ ¬EndsInSlash (isKnownScheme a.scheme) y) ∧
      ((y = [] → w = []) → Address.ofText (s ++ Client.jobsPath) =
        .ok { a with path := hostPath (isKnownScheme a.scheme) (y ++ (w ++ Client.jobsPath.toList)) }) ∧
      (w ≠ [] → y = [] → ∀ b, Address.ofText (s ++ Client.jobsPath) = .ok b → b.host ≠ a.host) := by
  obtain ⟨v, w, hall, hlow, hlast, hread⟩ := read_append_jobs s.toList
  obtain ⟨y, hy⟩ := reads_of_readClean h hhost hquery hfragment
  refine ⟨y, w, hlow, hy.path, ending_iff hall hlow hlast hy.before, ?_, ?_⟩
  · intro hw
    rw [Address.ofText, String.toList_append, hread, hy.goesOn w hlow hw]
  · intro hw hnil b hb
    rw [Address.ofText, String.toList_append, hread] at hb
    exact hy.stops w hlow hw hnil b hb

theorem withoutSlashes_append_jobs (cs : List Char) :
    withoutSlashes (cs ++ Client.jobsPath.toList) = cs ++ Client.jobsPath.toList := by
  have hjobs : Client.jobsPath.toList.getLast? = some 's' := by decide
  rw [withoutSlashes_eq_iff, List.getLast?_append, hjobs, Option.some_or]
  decide

/-- With the path of the job list behind it, a text that takes a further path has the same address with this path. -/
theorem ofText_jobs [Names] [LawfulNames] {s : String} (h : Address.ofText s = .ok a) (hhost : a.host.isSome)
    (htakes : TakesPath s a) :
    Address.ofText (s ++ Client.jobsPath) =
      .ok { a with path := String.ofList (withoutSlashes a.path.toList) ++ Client.jobsPath } := by
  obtain ⟨y, w, -, hpath, hending, hgoes, -⟩ := exists_reading h hhost htakes.query htakes.fragment
  obtain ⟨rfl, hslash⟩ := hending.1 htakes.ending
  have hkept := (withoutSlashes_hostPath_iff (isKnownScheme a.scheme) y).2 ⟨hslash, hpath ▸ htakes.path⟩
  have hlonger : hostPath (isKnownScheme a.scheme) (y ++ ([] ++ Client.jobsPath.toList)) =
      String.ofList (withoutSlashes a.path.toList) ++ Client.jobsPath := by
    rw [← String.toList_inj, String.toList_append, String.toList_ofList, List.nil_append, hostPath_jobs, hpath, hkept]
  rw [hgoes fun _ => rfl, hlonger]

theorem takesPath_of_jobs [Names] [LawfulNames] {s : String} (h : Address.ofText s = .ok a) (hhost : a.host.isSome)
    (hb : Address.ofText (s ++ Client.jobsPath) = .ok b) (hsame : b.host = a.host)
    (hpath : b.path = String.ofList (withoutSlashes a.path.toList) ++ Client.jobsPath) : TakesPath s a := by
  have hlist : b.path.toList = withoutSlashes a.path.toList ++ Client.jobsPath.toList := by
    rw [hpath, String.toList_append, String.toList_ofList]
  by_cases htail : a.query = none ∧ a.fragment = none
  case neg =>
    -- The path would be its own beginning.
    obtain ⟨v, w, -, -, -, hread⟩ := read_append_jobs s.toList
    rw [Address.ofText, String.toList_append, hread] at hb
    rw [path_of_readClean h hhost htail _ hb hsame] at hlist
    have hbare : withoutSlashes a.path.toList = a.path.toList := by
      rw [hlist, withoutSlashes_append_jobs]
    rw [hbare, List.self_eq_append_right] at hlist
    exact absurd hlist (by decide)
  case pos =>
    obtain ⟨y, w, hlow, hpath', hending, hgoes, hstops⟩ := exists_reading h hhost htail.1 htail.2
    have hy : y = [] → w = [] := by
      intro hnil
      by_contra hw
      exact hstops hw hnil b hb hsame
    rw [hgoes hy] at hb
    rw [← Except.ok.inj hb, ← List.append_assoc, hostPath_jobs, hpath', List.append_cancel_right_eq] at hlist
    have hw : w = [] := by
      by_contra hw
      have hlonger := length_hostPath_lt (isKnownScheme a.scheme) (fun hnil => hw (hy hnil)) hw hlow
      have hshorter := length_withoutSlashes_le (hostPath (isKnownScheme a.scheme) y).toList
      rw [← hlist] at hshorter
      exact Nat.not_lt.2 hshorter hlonger
    rw [hw, List.append_nil] at hlist
    obtain ⟨hslash, hdouble⟩ := (withoutSlashes_hostPath_iff (isKnownScheme a.scheme) y).1 hlist.symm
    exact ⟨htail.1, htail.2, hending.2 ⟨hw, hslash⟩, hpath' ▸ hdouble⟩

theorem fold_of_low {c : Char} (h : c.toNat ≤ 0x20) : Fold.char c = [c] := by
  have hcodes : Fold.codes c.toNat = [c.toNat] := by
    have h₁ : c.toNat < 0x80 := by omega
    have h₂ : ¬65 ≤ c.toNat := by omega
    simp only [Fold.codes, h₁, h₂, decide_false, Bool.false_and, Bool.false_eq_true, ↓reduceIte]
  rw [Fold.char, hcodes, List.map_singleton, Char.ofNat_toNat]

theorem domain?_of_low (h : ∃ c ∈ cs, c.toNat ≤ 0x20) : Names.domain? cs = none := by
  obtain ⟨c, hc, hlow⟩ := h
  have hforbidden : (cs.flatMap Fold.char).any Names.isForbidden = true := by
    have hmem : c ∈ Fold.char c := by
      rw [fold_of_low hlow]
      exact List.mem_singleton_self c
    refine List.any_eq_true.2 ⟨c, List.mem_flatMap.2 ⟨c, hc, hmem⟩, ?_⟩
    rw [Names.isForbidden, decide_eq_true hlow]
    rfl
  rw [Names.domain?, if_pos hforbidden]

instance : LawfulNames where
  empty := by decide
  low := fun _ => domain?_of_low

end JobBoard.Address

namespace JobBoard.Client

open Address

/-- The request asks for the path of the job list below the address `a`, and for these values only. -/
structure GoesTo (r : Request) (a : Address) (f : Filter) (offset limit : Nat) : Prop where
  scheme : r.address.scheme = a.scheme
  host : r.address.host = a.host
  port : r.address.port = a.port
  path : r.address.path = String.ofList (Reader.withoutSlashes a.path.toList) ++ jobsPath
  query : ∃ q, r.address.query = some q ∧ Text.Form.decode q.toList =
    [("limit", toString limit), ("offset", toString offset)] ++
      f.status.status?.toList.map (fun status => ("status", status.name)) ++
      if f.reviewOnly then [("requires_manual_review", "true")] else []

theorem ofBase_eq_ok [Names] {s : String} {credentials : Credentials} {c : Client} (h : ofBase s credentials = .ok c) :
    ∃ a, Address.ofText c.base = .ok a ∧ a.host.isSome := by
  unfold ofBase at h
  dsimp only at h
  split at h
  · cases h
  rename_i hflaw
  split at h
  · cases h
  obtain rfl := Except.ok.inj h
  unfold baseFlaw? at hflaw
  split at hflaw
  · cases hflaw
  rename_i a ha
  split at hflaw
  · cases hflaw
  rename_i host hhost
  exact ⟨a, ha, hhost ▸ rfl⟩

theorem jobsValues_eq (f : Filter) (offset limit : Nat) : jobsValues f offset limit =
    [("limit", toString limit), ("offset", toString offset)] ++
      f.status.status?.toList.map (fun status => ("status", status.name)) ++
      if f.reviewOnly then [("requires_manual_review", "true")] else [] := by
  rw [jobsValues]
  cases f.status.status? with
  | none => rfl
  | some status => rfl

/-- However names of domains are read: the list request of an accepted base goes below the address of this base if and
only if the base takes a further path. -/
theorem jobsRequest_goesTo_iff [Names] [LawfulNames] {s : String} {credentials : Credentials} {c : Client}
    (h : ofBase s credentials = .ok c) (f : Filter) (offset limit : Nat) : ∃ a, Address.ofText c.base = .ok a ∧
      ((∃ r, c.jobsRequest f offset limit = .ok r ∧ GoesTo r a f offset limit) ↔ TakesPath c.base a) := by
  obtain ⟨a, ha, hhost⟩ := ofBase_eq_ok h
  refine ⟨a, ha, ?_, ?_⟩
  · rintro ⟨r, hr, hgoes⟩
    rw [jobsRequest, request] at hr
    split at hr
    case h_1 => cases hr
    case h_2 b hb =>
      obtain rfl := Except.ok.inj hr
      exact takesPath_of_jobs ha hhost hb hgoes.host hgoes.path
  · intro htakes
    cases hr : c.jobsRequest f offset limit with
    | error flaw =>
      rw [jobsRequest, request, ofText_jobs ha hhost htakes] at hr
      cases hr
    | ok r =>
      rw [jobsRequest, request, ofText_jobs ha hhost htakes] at hr
      obtain rfl := Except.ok.inj hr
      refine ⟨_, rfl, rfl, rfl, rfl, rfl, String.ofList (Text.Form.encode (jobsValues f offset limit)), ?_, ?_⟩
      · change some (joined a.query _) = _
        rw [htakes.query]
        rfl
      · rw [String.toList_ofList, Text.Form.decode_encode, jobsValues_eq]

theorem jobsRequest_goesTo_desk : ∃ c a r,
    ofBase " https://queue.example.com:443/team/../desk// " .anonymous = .ok c ∧ Address.ofText c.base = .ok a ∧
      a.path = "/desk" ∧ c.jobsRequest { status := .only .pending, reviewOnly := true } 50 25 = .ok r ∧
      GoesTo r a { status := .only .pending, reviewOnly := true } 50 25 := by
  have hbase : ofBase " https://queue.example.com:443/team/../desk// " .anonymous =
      .ok { base := "https://queue.example.com:443/team/../desk", credentials := .anonymous } := by decide +kernel
  have hread : Address.ofText "https://queue.example.com:443/team/../desk" =
      .ok { scheme := "https", host := some (.name "queue.example.com"), path := "/desk" } := by decide +kernel
  obtain ⟨a, ha, hgoes⟩ := jobsRequest_goesTo_iff hbase { status := .only .pending, reviewOnly := true } 50 25
  obtain rfl := Except.ok.inj (ha.symm.trans hread)
  have hlast : ("https://queue.example.com:443/team/../desk".toList.filter (!Reader.isTabOrLine ·)).getLast? =
      some 'k' := by decide +kernel
  obtain ⟨r, hr, hr'⟩ := hgoes.2 ⟨rfl, rfl, fun c hc => Option.some.inj (hlast.symm.trans hc) ▸ by decide, by decide⟩
  exact ⟨_, _, r, hbase, ha, rfl, hr, hr'⟩

/-- Behind the query of a base the path of the list is a part of this query. -/
theorem jobsRequest_in_query : ∃ c a r, ofBase "http://localhost:8080?tenant=a" .anonymous = .ok c ∧
    Address.ofText c.base = .ok a ∧ c.jobsRequest {} 0 50 = .ok r ∧ ¬GoesTo r a {} 0 50 ∧
      r.target = "/?tenant=a/api/queue/jobs&limit=50&offset=0" := by
  have hbase : ofBase "http://localhost:8080?tenant=a" .anonymous =
      .ok { base := "http://localhost:8080?tenant=a", credentials := .anonymous } := by decide +kernel
  have hread : Address.ofText "http://localhost:8080?tenant=a" =
      .ok {
        scheme := "http", host := some (.name "localhost"), port := some 8080, path := "/",
        query := some "tenant=a" } := by
    decide +kernel
  have hr : jobsRequest { base := "http://localhost:8080?tenant=a", credentials := .anonymous } {} 0 50 =
      .ok {
        address := {
          scheme := "http", host := some (.name "localhost"), port := some 8080, path := "/",
          query := some "tenant=a/api/queue/jobs&limit=50&offset=0" },
        authorization := none, apiKey := none } := by
    decide +kernel
  exact ⟨_, _, _, hbase, hread, hr, fun hgoes => absurd hgoes.path (by decide +kernel), by decide +kernel⟩

end JobBoard.Client
