import JobBoard.Proofs.AddressPath

/-!
The host of an address that is read from a text with control characters or spaces behind it, and its port. No name holds
such characters: behind a port they are left to the path or spoil the port, and behind a name they spoil the name or
make it another.
-/

namespace JobBoard.Address

/-- What is relied on of a reader of names: the empty text is the empty name, and no name holds a control character or
a space. -/
class LawfulNames [Names] : Prop where
  empty : Names.ascii? [] = some []
  low : ∀ cs, (∃ c ∈ cs, c.toNat ≤ 0x20) → Names.ascii? cs = none

variable {cs w : List Char} {c : Char}

theorem ne_of_low {d : Char} (h : c.toNat ≤ 0x20) (hd : 0x20 < d.toNat) : c ≠ d := by
  rintro rfl
  exact Nat.not_lt.2 h hd

theorem getLast?_append_low (cs : List Char) (hw : w ≠ []) (hlow : ∀ c ∈ w, c.toNat ≤ 0x20) :
    ∃ c, (cs ++ w).getLast? = some c ∧ c.toNat ≤ 0x20 := by
  refine ⟨w.getLast hw, ?_, hlow _ (List.getLast_mem hw)⟩
  rw [List.getLast?_append, List.getLast?_eq_some_getLast hw, Option.some_or]

theorem hexValue?_of_low {b : Nat} (hb : b ≤ 0x20) : Text.hexValue? b = none := by
  have h₁ : ¬48 ≤ b := by omega
  have h₂ : ¬65 ≤ b := by omega
  have h₃ : ¬97 ≤ b := by omega
  simp only [Text.hexValue?, h₁, h₂, h₃, decide_false, Bool.false_and, Bool.false_eq_true, ↓reduceIte]

theorem mem_percentDecode {b : Nat} (hb : b ≤ 0x20) (bs : List Nat) (h : b ∈ bs) : b ∈ Text.percentDecode bs := by
  induction bs using Text.percentDecode.induct with
  | case1 => exact absurd h List.not_mem_nil
  | case2 x y r n m hy hx ih =>
    have hne : ∀ d, (Text.hexValue? d).isSome → b ≠ d := by
      rintro d hd rfl
      rw [hexValue?_of_low hb] at hd
      cases hd
    rw [Text.percentDecode, hx, hy]
    simp only [List.mem_cons] at h
    rcases h with he | he | he | hr
    · omega
    · exact absurd he (hne x (by rw [hx]; rfl))
    · exact absurd he (hne y (by rw [hy]; rfl))
    · exact List.mem_cons_of_mem _ (ih hr)
  | case3 x y r hbad ih =>
    -- The percent sign stands for itself, and the two bytes behind it are read again.
    have hopen : Text.percentDecode (37 :: x :: y :: r) = 37 :: Text.percentDecode (x :: y :: r) := by
      rw [Text.percentDecode]
      split
      · rename_i m n hx hy
        exact absurd hy (hbad m n hx)
      · rfl
    rw [hopen]
    rcases List.mem_cons.1 h with he | hr
    · omega
    · exact List.mem_cons_of_mem _ (ih hr)
  | case4 d r hplain ih =>
    have hopen : Text.percentDecode (d :: r) = d :: Text.percentDecode r := by
      rw [Text.percentDecode]
      exact hplain
    rw [hopen]
    rcases List.mem_cons.1 h with he | hr
    · exact he ▸ List.mem_cons_self
    · exact List.mem_cons_of_mem _ (ih hr)

theorem bracket_of_low (hw : w ≠ []) (hlow : ∀ c ∈ w, c.toNat ≤ 0x20) {r : List Char} (h : cs ++ w = '[' :: r) :
    (r.getLast? == some ']') = false := by
  obtain ⟨c, hlast, hc⟩ := getLast?_append_low cs hw hlow
  rw [h, List.getLast?_cons] at hlast
  cases hr : r.getLast? with
  | none => rfl
  | some d =>
    rw [hr] at hlast
    have hd : d = c := Option.some.inj hlast
    exact beq_eq_false_iff_ne.2 fun he => ne_of_low hc (by decide) (hd.symm.trans (Option.some.inj he))

theorem ofText_nil [Names] [LawfulNames] : Host.ofText [] = .error .emptyHost := by
  have hempty : Text.Utf8.decodeLossy (Text.percentDecode (Text.Utf8.encode [])) = [] := by decide
  have hformed : (!Text.Utf8.isWellFormed (Text.percentDecode (Text.Utf8.encode []))) = false := by decide
  unfold Host.ofText
  dsimp only
  rw [hformed, if_neg Bool.false_ne_true, hempty, LawfulNames.empty]

theorem ofText_of_low [Names] [LawfulNames] (hw : w ≠ []) (hlow : ∀ c ∈ w, c.toNat ≤ 0x20) (h : Host) :
    Host.ofText (cs ++ w) ≠ .ok h := by
  unfold Host.ofText
  split
  case h_1 r hr =>
    rw [bracket_of_low hw hlow hr, if_neg Bool.false_ne_true]
    intro hok
    cases hok
  case h_2 =>
    dsimp only
    split
    · intro hok
      cases hok
    -- A low byte of well-formed bytes is a character of the name, which is forbidden.
    rename_i hformed
    rw [Bool.not_eq_true', Bool.not_eq_false] at hformed
    have hbytes := eq_of_beq hformed
    have hdecoded : ∃ d ∈ Text.Utf8.decodeLossy (Text.percentDecode (Text.Utf8.encode (cs ++ w))), d.toNat ≤ 0x20 := by
      have hc := hlow _ (List.getLast_mem hw)
      have hmem : (w.getLast hw).toNat ∈ Text.Utf8.encode (cs ++ w) := by
        refine List.mem_flatMap.2 ⟨w.getLast hw, List.mem_append_right _ (List.getLast_mem hw), ?_⟩
        rw [Text.Utf8.encodeChar, if_pos (by omega)]
        exact List.mem_singleton_self _
      have hkept := mem_percentDecode hc _ hmem
      rw [← hbytes] at hkept
      obtain ⟨d, hd, heq⟩ := exists_of_mem_encode (by omega) hkept
      exact ⟨d, hd, by omega⟩
    rw [LawfulNames.low _ hdecoded]
    intro hok
    cases hok

theorem ofOpaque_of_low (hcs : cs ≠ []) (hw : w ≠ []) (hlow : ∀ c ∈ w, c.toNat ≤ 0x20) {h : Host}
    (hread : Host.ofOpaque cs = .ok (some h)) : Host.ofOpaque (cs ++ w) ≠ .ok (some h) := by
  unfold Host.ofOpaque
  split
  case h_1 r hr =>
    rw [bracket_of_low hw hlow hr, if_neg Bool.false_ne_true]
    intro hok
    cases hok
  case h_2 hnil => exact absurd (List.append_eq_nil_iff.1 hnil).1 hcs
  case h_3 hopen hne =>
    split
    · intro hok
      cases hok
    intro heq
    have hopen' : ∀ r, cs ≠ '[' :: r := fun r hr => hopen (r ++ w) (by rw [hr]; rfl)
    unfold Host.ofOpaque at hread
    split at hread
    · exact hopen' _ rfl
    · exact hcs rfl
    split at hread
    · cases hread
    rw [← hread, Except.ok.injEq, Option.some.injEq, Host.name.injEq, String.ofList_inj, percentEncode_append,
      List.append_right_eq_self] at heq
    exact percentEncode_ne_nil hw heq

namespace Reader

variable {known : Bool} {scheme : String} {rest : Rest} {a : Address}

theorem readHost_nil [Names] [LawfulNames] (known : Bool) (h : Host) : readHost known [] ≠ .ok (some h) := by
  cases known with
  | false =>
    intro hok
    cases hok
  | true =>
    rw [readHost, if_pos rfl, ofText_nil]
    intro hok
    cases hok

theorem readHost_of_low [Names] [LawfulNames] {h : Host} (hcs : cs ≠ []) (hw : w ≠ []) (hlow : ∀ c ∈ w, c.toNat ≤ 0x20)
    (hread : readHost known cs = .ok (some h)) : readHost known (cs ++ w) ≠ .ok (some h) := by
  cases known with
  | false => exact ofOpaque_of_low hcs hw hlow hread
  | true =>
    rw [readHost, if_pos rfl]
    cases hr : Host.ofText (cs ++ w) with
    | error e =>
      intro hok
      cases hok
    | ok h' => exact absurd hr (ofText_of_low hw hlow h')

theorem authority_iff [Names] [LawfulNames] {h : Host} : authority scheme known cs = .ok (a, rest) ∧ a.host = some h ↔
    hostChars cs ≠ [] ∧ readHost known (hostChars cs) = .ok (some h) ∧
      ∃ n, port scheme ((portPart cs).drop 1) = .ok (n, rest) ∧
        a = { scheme, username := (named cs).1, password := (named cs).2, host := some h, port := n } := by
  constructor
  · rintro ⟨hread, hhost⟩
    rw [authority] at hread
    split at hread
    · cases hread
    split at hread
    · cases hread
    rename_i host hh
    split at hread
    · cases hread
    rename_i n behind hport
    dsimp only at hread
    split at hread
    · cases hread
    obtain ⟨rfl, rfl⟩ := Prod.mk.inj (Except.ok.inj hread)
    obtain rfl : host = some h := hhost
    refine ⟨?_, hh, n, hport, rfl⟩
    intro hnil
    rw [hnil] at hh
    exact readHost_nil known h hh
  · rintro ⟨hne, hh, n, hport, rfl⟩
    have hempty : (hostChars cs).isEmpty = false := by
      rw [List.isEmpty_eq_false_iff]
      exact hne
    rw [authority, hempty, hh, hport]
    exact ⟨rfl, rfl⟩

theorem splitUser_append (hw : '@' ∉ w) :
    splitUser (cs ++ w) = (splitUser cs).map fun (u, behind) => (u, behind ++ w) := by
  have hbehind : ((cs ++ w).reverse.takeWhile (· != '@')).reverse = (cs.reverse.takeWhile (· != '@')).reverse ++ w := by
    rw [List.reverse_append, List.takeWhile_append_of_pos, List.reverse_append, List.reverse_reverse]
    intro c hc
    rw [bne_iff_ne]
    rintro rfl
    exact hw (List.mem_reverse.1 hc)
  have hle : (cs.reverse.takeWhile (· != '@')).reverse.length ≤ cs.length := by
    rw [List.length_reverse, ← cs.length_reverse]
    exact (List.takeWhile_prefix _).length_le
  rw [splitUser, splitUser, hbehind]
  generalize (cs.reverse.takeWhile (· != '@')).reverse = behind at hle
  dsimp only
  by_cases heq : behind.length = cs.length
  · rw [if_pos (by simp [heq]), if_pos (by simp [heq])]
    rfl
  · rw [if_neg (by simp [heq]), if_neg (by simp [heq])]
    have htake : (cs ++ w).take ((cs ++ w).length - (behind ++ w).length - 1) =
        cs.take (cs.length - behind.length - 1) := by
      rw [List.length_append, List.length_append, Nat.add_sub_add_right, List.take_append_of_le_length (by omega)]
    rw [htake]
    rfl

theorem hostLength_le (inside : Bool) (cs : List Char) : hostLength inside cs ≤ cs.length := by
  induction cs generalizing inside with
  | nil => exact Nat.le_refl _
  | cons c cs ih =>
    rw [hostLength]
    split
    · exact Nat.zero_le _
    · rw [Nat.add_comm]
      exact Nat.succ_le_succ (ih _)

theorem hostLength_eq (inside : Bool) (hw : ':' ∉ w) : hostLength inside w = w.length := by
  induction w generalizing inside with
  | nil => rfl
  | cons c w ih =>
    rw [List.mem_cons, not_or] at hw
    have hc : (c == ':') = false := beq_eq_false_iff_ne.2 (Ne.symm hw.1)
    rw [hostLength, hc, Bool.false_and, if_neg Bool.false_ne_true, ih _ hw.2, List.length_cons, Nat.add_comm]

theorem hostLength_append (inside : Bool) (cs : List Char) (hw : ':' ∉ w) : hostLength inside (cs ++ w) =
    hostLength inside cs + if hostLength inside cs = cs.length then w.length else 0 := by
  induction cs generalizing inside with
  | nil =>
    rw [List.nil_append, hostLength_eq inside hw]
    exact (Nat.zero_add _).symm
  | cons c cs ih =>
    rw [List.cons_append, hostLength, hostLength, List.length_cons]
    split
    · rw [if_neg (by omega)]
    · rw [ih]
      generalize hostLength _ cs = n
      by_cases heq : n = cs.length
      · rw [if_pos heq, if_pos (by omega), Nat.add_assoc]
      · rw [if_neg heq, if_neg (by omega), Nat.add_zero, Nat.add_zero]

theorem hostAndPort_append (hw : '@' ∉ w) : hostAndPort (cs ++ w) = hostAndPort cs ++ w := by
  rw [hostAndPort, splitUser_append hw, hostAndPort]
  cases splitUser cs with
  | none => rfl
  | some u => rfl

theorem named_append (hw : '@' ∉ w) : named (cs ++ w) = named cs := by
  rw [named, splitUser_append hw, named]
  cases splitUser cs with
  | none => rfl
  | some u => rfl

theorem length_hostChars (cs : List Char) : (hostChars cs).length = hostLength false (hostAndPort cs) := by
  rw [hostChars, List.length_take, Nat.min_eq_left (hostLength_le _ _)]

theorem hostChars_append_portPart (cs : List Char) : hostChars cs ++ portPart cs = hostAndPort cs := by
  rw [portPart, length_hostChars, hostChars, List.take_append_drop]

theorem portPart_eq_nil_iff : portPart cs = [] ↔ hostLength false (hostAndPort cs) = (hostAndPort cs).length := by
  rw [portPart, List.drop_eq_nil_iff, length_hostChars]
  have := hostLength_le false (hostAndPort cs)
  omega

theorem port_takes (hat : '@' ∉ w) (hcolon : ':' ∉ w) (h : portPart cs ≠ []) :
    hostChars (cs ++ w) = hostChars cs ∧ portPart (cs ++ w) = portPart cs ++ w := by
  have hlength : hostLength false (hostAndPort (cs ++ w)) = hostLength false (hostAndPort cs) := by
    rw [hostAndPort_append hat, hostLength_append _ _ hcolon, if_neg (fun he => h (portPart_eq_nil_iff.2 he)),
      Nat.add_zero]
  have hle := hostLength_le false (hostAndPort cs)
  have hchars : hostChars (cs ++ w) = hostChars cs := by
    rw [hostChars, hlength, hostAndPort_append hat, List.take_append_of_le_length hle, hostChars]
  refine ⟨hchars, ?_⟩
  rw [portPart, hchars, hostAndPort_append hat, List.drop_append_of_le_length (by rw [length_hostChars]; exact hle),
    portPart]

theorem host_takes (hat : '@' ∉ w) (hcolon : ':' ∉ w) (h : portPart cs = []) :
    hostChars (cs ++ w) = hostChars cs ++ w ∧ portPart (cs ++ w) = [] := by
  have hall := portPart_eq_nil_iff.1 h
  have hchars : hostChars cs = hostAndPort cs := by
    rw [← hostChars_append_portPart cs, h, List.append_nil]
  have hlength : hostLength false (hostAndPort (cs ++ w)) = (hostAndPort (cs ++ w)).length := by
    rw [hostAndPort_append hat, hostLength_append _ _ hcolon, if_pos hall, hall, List.length_append]
  refine ⟨?_, portPart_eq_nil_iff.2 hlength⟩
  rw [hostChars, hlength, List.take_length, hostAndPort_append hat, hchars]

theorem digit?_of_low (h : c.toNat ≤ 0x20) : Decimal.digit? c = none := by
  have hno : ¬48 ≤ c.toNat := by omega
  rw [Decimal.digit?, decide_eq_false hno, Bool.false_and, if_neg Bool.false_ne_true]

theorem port_suffix {n : Option Nat} (h : port scheme cs = .ok (n, rest)) : rest <:+ cs := by
  unfold port at h
  dsimp only at h
  split at h
  · cases h
  split at h
  · cases h
  · obtain ⟨rfl, rfl⟩ := Prod.mk.inj (Except.ok.inj h)
    exact List.drop_suffix _ _

theorem port_append {n : Option Nat} (hw : w ≠ []) (hlow : ∀ c ∈ w, c.toNat ≤ 0x20)
    (h : port scheme cs = .ok (n, rest)) :
    port scheme (cs ++ w) = if rest.isEmpty then .error .invalidPort else .ok (n, rest ++ w) := by
  obtain ⟨c, w', rfl⟩ := List.exists_cons_of_ne_nil hw
  have hc : c.toNat ≤ 0x20 := hlow c List.mem_cons_self
  have hdigits : (cs ++ c :: w').takeWhile (fun c => (Decimal.digit? c).isSome) =
      cs.takeWhile fun c => (Decimal.digit? c).isSome := by
    rw [List.takeWhile_append]
    split
    · rename_i hall
      rw [List.takeWhile_cons, digit?_of_low hc, (List.takeWhile_prefix _).eq_of_length hall]
      exact List.append_nil _
    · rfl
  have hle : (cs.takeWhile fun c => (Decimal.digit? c).isSome).length ≤ cs.length := (List.takeWhile_prefix _).length_le
  unfold port at h ⊢
  dsimp only at h ⊢
  rw [hdigits, List.drop_append_of_le_length hle]
  split at h
  · cases h
  rename_i hbig
  rw [if_neg hbig]
  split at h
  · cases h
  rename_i hbehind
  obtain ⟨rfl, rfl⟩ := Prod.mk.inj (Except.ok.inj h)
  cases hd : cs.drop (cs.takeWhile fun c => (Decimal.digit? c).isSome).length with
  | nil =>
    have hslash : (some c != some '\\') = true := bne_iff_ne.2 fun he => ne_of_low hc (by decide) (Option.some.inj he)
    exact if_pos hslash
  | cons d ds =>
    rw [hd] at hbehind
    exact if_neg hbehind

theorem not_mem_of_low (hlow : ∀ c ∈ w, c.toNat ≤ 0x20) {d : Char} (hd : 0x20 < d.toNat) : d ∉ w :=
  fun hmem => ne_of_low (hlow d hmem) hd rfl

variable [Names] [LawfulNames] (hhost : a.host.isSome) (h : authority scheme known cs = .ok (a, rest))

include hhost h

theorem authority_append (hrest : rest ≠ []) (hlow : ∀ c ∈ w, c.toNat ≤ 0x20) :
    authority scheme known (cs ++ w) = .ok (a, rest ++ w) := by
  by_cases hw : w = []
  · rw [hw, List.append_nil, List.append_nil, h]
  obtain ⟨host, hhost⟩ := Option.isSome_iff_exists.1 hhost
  obtain ⟨hne, hread, n, hport, rfl⟩ := authority_iff.1 ⟨h, hhost⟩
  have hat := not_mem_of_low hlow (d := '@') (by decide)
  have hsome : portPart cs ≠ [] := by
    intro hnil
    have hsuffix := port_suffix hport
    rw [hnil] at hsuffix
    exact hrest (List.suffix_nil.1 hsuffix)
  obtain ⟨hchars, hpart⟩ := port_takes hat (not_mem_of_low hlow (by decide)) hsome
  refine (authority_iff.2 ⟨hchars ▸ hne, hchars ▸ hread, n, ?_, by rw [named_append hat]⟩).1
  rw [hpart, List.drop_append_of_le_length (List.length_pos_iff.2 hsome), port_append hw hlow hport,
    List.isEmpty_eq_false_iff.2 hrest, if_neg Bool.false_ne_true]

theorem authority_of_low (hrest : rest = []) (hw : w ≠ []) (hlow : ∀ c ∈ w, c.toNat ≤ 0x20) {b : Address} {rest' : Rest}
    (hb : authority scheme known (cs ++ w) = .ok (b, rest')) : b.host ≠ a.host := by
  intro hsame
  obtain ⟨host, hhost⟩ := Option.isSome_iff_exists.1 hhost
  obtain ⟨hne, hread, n, hport, -⟩ := authority_iff.1 ⟨h, hhost⟩
  obtain ⟨-, hread', m, hport', -⟩ := authority_iff.1 ⟨hb, hsame.trans hhost⟩
  have hat := not_mem_of_low hlow (d := '@') (by decide)
  have hcolon := not_mem_of_low hlow (d := ':') (by decide)
  by_cases hnone : portPart cs = []
  · rw [(host_takes hat hcolon hnone).1] at hread'
    exact readHost_of_low hne hw hlow hread hread'
  · rw [(port_takes hat hcolon hnone).2, List.drop_append_of_le_length (List.length_pos_iff.2 hnone),
      port_append hw hlow hport, hrest] at hport'
    cases hport'

theorem authority_front : ∃ front, front ≠ [] ∧ cs = front ++ rest := by
  obtain ⟨host, hhost⟩ := Option.isSome_iff_exists.1 hhost
  obtain ⟨hne, -, n, hport, -⟩ := authority_iff.1 ⟨h, hhost⟩
  have hpart : rest <:+ portPart cs := (port_suffix hport).trans (List.drop_suffix _ _)
  have hbehind : hostAndPort cs <:+ cs := by
    rw [hostAndPort]
    split
    · rename_i u r heq
      unfold splitUser at heq
      dsimp only at heq
      split at heq
      · cases heq
      obtain ⟨-, rfl⟩ := Prod.mk.inj (Option.some.inj heq)
      have hsuffix := List.reverse_suffix.2 (List.takeWhile_prefix (· != '@') (l := cs.reverse))
      rwa [List.reverse_reverse] at hsuffix
    · exact List.suffix_refl _
  obtain ⟨user, huser⟩ := hbehind
  obtain ⟨digits, hdigits⟩ := hpart
  refine ⟨user ++ hostChars cs ++ digits, ?_, ?_⟩
  · simp [hne]
  · rw [List.append_assoc, List.append_assoc, hdigits, hostChars_append_portPart, huser]

end Reader

end JobBoard.Address
