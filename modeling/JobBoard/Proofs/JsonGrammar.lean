import JobBoard.Proofs.JsonLexical

/-!
The grammar of JSON texts. A text is read as a tree exactly if the grammar has it as a text of that tree, with spaces
around it at most; the reader's fuel never runs out before the text does.
-/

namespace JobBoard.Json

/-- What a piece of a text can be: a value, the values of a list from behind its opening bracket to its closing one, or
the fields of a record likewise. -/
inductive Part where
  | value (t : Tree)
  | items (ts : List Tree)
  | fields (fs : List (Option String × Tree))

namespace Tree

/-- The name of a field, with its colon and the spaces around both. -/
def IsName (name : Option String) (m : List Char) : Prop :=
  ∃ w p w₁ w₂, Space w ∧ IsText name p ∧ Space w₁ ∧ Space w₂ ∧ m = w ++ '"' :: (p ++ (w₁ ++ ':' :: w₂))

end Tree

open JobBoard.Json.Tree

inductive Spells : Part → List Char → Prop
  | null : Spells (.value .null) ['n', 'u', 'l', 'l']
  | yes : Spells (.value (.bool true)) ['t', 'r', 'u', 'e']
  | no : Spells (.value (.bool false)) ['f', 'a', 'l', 's', 'e']
  | number {n : Numeral} {p : List Char} (hp : IsNumeral n p) : Spells (.value (.number n)) p
  | text {content : Option String} {p : List Char} (hp : IsText content p) :
      Spells (.value (.text content)) ('"' :: p)
  | emptyList {w : List Char} (hw : Space w) : Spells (.value (.list [])) ('[' :: (w ++ [']']))
  | list {ts : List Tree} {p : List Char} (hp : Spells (.items ts) p) : Spells (.value (.list ts)) ('[' :: p)
  | emptyRecord {w : List Char} (hw : Space w) : Spells (.value (.record [])) ('\x7b' :: (w ++ ['\x7d']))
  | record {fs : List (Option String × Tree)} {p : List Char} (hp : Spells (.fields fs) p) :
      Spells (.value (.record fs)) ('\x7b' :: p)
  | lastItem {t : Tree} {w p w' : List Char} (hw : Space w) (hp : Spells (.value t) p) (hw' : Space w') :
      Spells (.items [t]) (w ++ (p ++ (w' ++ [']'])))
  | item {t : Tree} {ts : List Tree} {w p w' q : List Char} (hw : Space w) (hp : Spells (.value t) p)
      (hw' : Space w') (hq : Spells (.items ts) q) : Spells (.items (t :: ts)) (w ++ (p ++ (w' ++ ',' :: q)))
  | lastField {name : Option String} {t : Tree} {m p w : List Char} (hm : IsName name m)
      (hp : Spells (.value t) p) (hw : Space w) : Spells (.fields [(name, t)]) (m ++ (p ++ (w ++ ['\x7d'])))
  | field {name : Option String} {t : Tree} {fs : List (Option String × Tree)} {m p w q : List Char}
      (hm : IsName name m) (hp : Spells (.value t) p) (hw : Space w) (hq : Spells (.fields fs) q) :
      Spells (.fields ((name, t) :: fs)) (m ++ (p ++ (w ++ ',' :: q)))

section

variable {cs r p q w x : List Char} {n : Nat} {t : Tree}

namespace Tree

def beginsValue (c : Char) : Bool :=
  c == 'n' || c == 't' || c == 'f' || c == '"' || c == '[' || c == '\x7b' || beginsNumeral c

theorem not_isSpace_of_begins {c : Char} (h : beginsValue c = true) : isSpace c = false := by
  cases hc : isSpace c with
  | false => rfl
  | true =>
    simp only [isSpace, Bool.or_eq_true, beq_iff_eq] at hc
    rcases hc with ((rfl | rfl) | rfl) | rfl <;> exact absurd h (by decide)

theorem IsName.begins {name : Option String} {m : List Char} (h : IsName name m) (x : List Char) :
    ∃ r, skipSpace (m ++ x) = '"' :: r := by
  obtain ⟨w, p, w₁, w₂, hw, -, -, -, rfl⟩ := h
  refine ⟨p ++ (w₁ ++ ':' :: w₂) ++ x, ?_⟩
  rw [List.append_assoc, skipSpace_append hw, List.cons_append, skipSpace_cons (by decide)]

end Tree

theorem Spells.begins (h : Spells (.value t) p) : ∃ c q, p = c :: q ∧ beginsValue c = true := by
  cases h with
  | number hp =>
    obtain ⟨c, q, rfl, hc⟩ := hp.begins
    exact ⟨c, q, rfl, by rw [beginsValue, hc, Bool.or_true]⟩
  | _ => exact ⟨_, _, rfl, by decide⟩

theorem Spells.items_begin {ts : List Tree} (h : Spells (.items ts) p) :
    ∃ c, c ≠ ']' ∧ ∀ x, ∃ r, skipSpace (p ++ x) = c :: r := by
  have hbegin {w p q : List Char} {t : Tree} (hw : Space w) (hp : Spells (.value t) p) :
      ∃ c, c ≠ ']' ∧ ∀ x, ∃ r, skipSpace (w ++ (p ++ q) ++ x) = c :: r := by
    obtain ⟨c, p', rfl, hc⟩ := Spells.begins hp
    refine ⟨c, ?_, fun x => ⟨p' ++ q ++ x, ?_⟩⟩
    · rintro rfl
      exact absurd hc (by decide)
    · rw [List.append_assoc, skipSpace_append hw, List.cons_append, List.cons_append,
        skipSpace_cons (not_isSpace_of_begins hc)]
  cases h with
  | lastItem hw hp _ => exact hbegin hw hp
  | item hw hp _ _ => exact hbegin hw hp

theorem Spells.fields_begin {fs : List (Option String × Tree)} (h : Spells (.fields fs) p) (x : List Char) :
    ∃ r, skipSpace (p ++ x) = '"' :: r := by
  cases h with
  | lastField hm _ _ =>
    rw [List.append_assoc]
    exact hm.begins _
  | field hm _ _ _ =>
    rw [List.append_assoc]
    exact hm.begins _

namespace Tree

theorem read_append (hw : Space w) (n : Nat) (cs : List Char) : read n (w ++ cs) = read n cs := by
  cases n with
  | zero => rfl
  | succ n => rw [read, read, skipSpace_append hw]

theorem readItems_append (hw : Space w) (n : Nat) (cs : List Char) : readItems n (w ++ cs) = readItems n cs := by
  cases n with
  | zero => rfl
  | succ n => rw [readItems, readItems, read_append hw]

theorem readFields_append (hw : Space w) (n : Nat) (cs : List Char) : readFields n (w ++ cs) = readFields n cs := by
  cases n with
  | zero => rfl
  | succ n => rw [readFields, readFields, skipSpace_append hw]

theorem readItems_skipSpace (n : Nat) (cs : List Char) : readItems n (skipSpace cs) = readItems n cs := by
  obtain ⟨w, hw, he⟩ := exists_skipSpace cs
  rw [← readItems_append hw n (skipSpace cs), ← he]

theorem readFields_skipSpace (n : Nat) (cs : List Char) : readFields n (skipSpace cs) = readFields n cs := by
  obtain ⟨w, hw, he⟩ := exists_skipSpace cs
  rw [← readFields_append hw n (skipSpace cs), ← he]

theorem read_of_beginsNumeral {c : Char} (hc : beginsNumeral c = true) (n : Nat) (cs : List Char) :
    read (n + 1) (c :: cs) = (readNumeral (c :: cs)).map fun (m, r) => (number m, r) := by
  have hspace : isSpace c = false := not_isSpace_of_begins (by rw [beginsValue, hc, Bool.or_true])
  rw [read, skipSpace_cons hspace]
  split
  case h_7 => rfl
  all_goals
    rename_i he
    rw [(List.cons.inj he).1] at hc
    exact absurd hc (by decide)

theorem read_text (n : Nat) (cs : List Char) :
    read (n + 1) ('"' :: cs) = (readText cs).map fun (s, r) => (text s, r) := by
  rw [read, skipSpace_cons (by decide)]
  rfl

def readList (n : Nat) (cs : List Char) : Option (Tree × List Char) :=
  match skipSpace cs with
  | ']' :: r => some (list [], r)
  | r => (readItems n r).map fun (ts, r') => (list ts, r')

theorem read_bracket (n : Nat) (cs : List Char) : read (n + 1) ('[' :: cs) = readList n cs := by
  rw [read, skipSpace_cons (by decide)]
  rfl

theorem readList_empty (hw : Space w) (n : Nat) (x : List Char) :
    readList n (w ++ ']' :: x) = some (list [], x) := by
  rw [readList, skipSpace_append hw, skipSpace_cons (by decide)]
  rfl

theorem readList_of_ne {c : Char} (hc : c ≠ ']') (h : skipSpace cs = c :: r) (n : Nat) :
    readList n cs = (readItems n cs).map fun (ts, r) => (list ts, r) := by
  rw [readList, ← readItems_skipSpace n cs, h]
  split
  · rename_i he
    exact absurd (List.cons.inj he).1 hc
  · rfl

def readAfterItem (n : Nat) (t : Tree) (cs : List Char) : Option (List Tree × List Char) :=
  match skipSpace cs with
  | ',' :: r => (readItems n r).map fun (ts, r') => (t :: ts, r')
  | ']' :: r => some ([t], r)
  | _ => none

theorem readAfterItem_comma (hw : Space w) (n : Nat) (t : Tree) (cs : List Char) :
    readAfterItem n t (w ++ ',' :: cs) = (readItems n cs).map fun (ts, r) => (t :: ts, r) := by
  rw [readAfterItem, skipSpace_append hw, skipSpace_cons (by decide)]
  rfl

theorem readAfterItem_bracket (hw : Space w) (n : Nat) (t : Tree) (x : List Char) :
    readAfterItem n t (w ++ ']' :: x) = some ([t], x) := by
  rw [readAfterItem, skipSpace_append hw, skipSpace_cons (by decide)]
  rfl

theorem readItems_succ (n : Nat) (cs : List Char) :
    readItems (n + 1) cs = (read n cs).bind fun (t, r) => readAfterItem n t r := by
  rw [readItems]
  cases read n cs <;> rfl

def readRecord (n : Nat) (cs : List Char) : Option (Tree × List Char) :=
  match skipSpace cs with
  | '\x7d' :: r => some (record [], r)
  | r => (readFields n r).map fun (fs, r') => (record fs, r')

theorem read_brace (n : Nat) (cs : List Char) : read (n + 1) ('\x7b' :: cs) = readRecord n cs := by
  rw [read, skipSpace_cons (by decide)]
  rfl

theorem readRecord_empty (hw : Space w) (n : Nat) (x : List Char) :
    readRecord n (w ++ '\x7d' :: x) = some (record [], x) := by
  rw [readRecord, skipSpace_append hw, skipSpace_cons (by decide)]
  rfl

theorem readRecord_of_name (h : skipSpace cs = '"' :: r) (n : Nat) :
    readRecord n cs = (readFields n cs).map fun (fs, r) => (record fs, r) := by
  rw [readRecord, ← readFields_skipSpace n cs, h]
  rfl

def readAfterField (n : Nat) (name : Option String) (t : Tree) (cs : List Char) :
    Option (List (Option String × Tree) × List Char) :=
  match skipSpace cs with
  | ',' :: r => (readFields n r).map fun (fs, r') => ((name, t) :: fs, r')
  | '\x7d' :: r => some ([(name, t)], r)
  | _ => none

theorem readAfterField_comma (hw : Space w) (n : Nat) (name : Option String) (t : Tree) (cs : List Char) :
    readAfterField n name t (w ++ ',' :: cs) = (readFields n cs).map fun (fs, r) => ((name, t) :: fs, r) := by
  rw [readAfterField, skipSpace_append hw, skipSpace_cons (by decide)]
  rfl

theorem readAfterField_brace (hw : Space w) (n : Nat) (name : Option String) (t : Tree) (x : List Char) :
    readAfterField n name t (w ++ '\x7d' :: x) = some ([(name, t)], x) := by
  rw [readAfterField, skipSpace_append hw, skipSpace_cons (by decide)]
  rfl

def readAfterName (n : Nat) (name : Option String) (cs : List Char) :
    Option (List (Option String × Tree) × List Char) :=
  match skipSpace cs with
  | ':' :: r => (read n r).bind fun (t, r') => readAfterField n name t r'
  | _ => none

theorem readAfterName_colon (hw : Space w) (n : Nat) (name : Option String) (cs : List Char) :
    readAfterName n name (w ++ ':' :: cs) = (read n cs).bind fun (t, r) => readAfterField n name t r := by
  rw [readAfterName, skipSpace_append hw, skipSpace_cons (by decide)]
  rfl

theorem readFields_quote (h : skipSpace cs = '"' :: r) (n : Nat) :
    readFields (n + 1) cs = (readText r).bind fun (name, r') => readAfterName n name r' := by
  rw [readFields, h]
  split
  · rename_i r₁ hr
    obtain rfl := (List.cons.inj hr).2
    rcases readText r with - | ⟨name, r'⟩
    · rfl
    · dsimp only [Option.bind_some]
      split
      · rename_i r'' hcolon
        obtain ⟨w, hw, hr'⟩ := exists_skipSpace r'
        rw [hr', hcolon, readAfterName_colon hw]
        cases read n r'' <;> rfl
      · rename_i hother
        unfold readAfterName
        split
        · exact absurd ‹_› (hother _)
        · rfl
  · rename_i hquote
    exact absurd rfl (hquote r)

theorem readFields_name {name : Option String} {m : List Char} (hm : IsName name m) (n : Nat) (cs : List Char) :
    readFields (n + 1) (m ++ cs) = (read n cs).bind fun (t, r) => readAfterField n name t r := by
  obtain ⟨w, p, w₁, w₂, hw, hp, hw₁, hw₂, rfl⟩ := hm
  rw [List.append_assoc, readFields_append hw, List.cons_append, readFields_quote (skipSpace_cons (by decide) _),
    List.append_assoc, hp, List.append_assoc, List.cons_append]
  change readAfterName n name (w₁ ++ ':' :: (w₂ ++ cs)) = _
  rw [readAfterName_colon hw₁, read_append hw₂]

end Tree

end

/-- What it is for a piece to be read from the start of a text. -/
def Part.IsRead : Part → Nat → List Char → List Char → Prop
  | .value t, n, cs, r => read n cs = some (t, r)
  | .items ts, n, cs, r => readItems n cs = some (ts, r)
  | .fields fs, n, cs, r => readFields n cs = some (fs, r)

theorem exists_of_length_cons {c : Char} {q : List Char} {n : Nat} (h : 2 * (c :: q).length ≤ n) :
    ∃ m, n = m + 1 := by
  rw [List.length_cons] at h
  exact ⟨n - 1, by omega⟩

theorem Spells.isRead {part : Part} {p : List Char} (h : Spells part p) :
    ∀ {n : Nat} {x : List Char}, 2 * p.length ≤ n → Ends x → part.IsRead n (p ++ x) x := by
  -- The induction is on the text; each nesting uses two units of fuel and has two characters at least.
  induction h with
  | null =>
    rintro (- | n) x hn -
    · exact absurd hn (by decide)
    · rfl
  | yes =>
    rintro (- | n) x hn -
    · exact absurd hn (by decide)
    · rfl
  | no =>
    rintro (- | n) x hn -
    · exact absurd hn (by decide)
    · rfl
  | @number m p hp =>
    intro n x hn hx
    obtain ⟨c, q, rfl, hc⟩ := hp.begins
    obtain ⟨n, rfl⟩ := exists_of_length_cons hn
    change read (n + 1) (c :: q ++ x) = _
    rw [List.cons_append, read_of_beginsNumeral hc, ← List.cons_append, hp x hx]
    rfl
  | @text content p hp =>
    intro n x hn _
    obtain ⟨n, rfl⟩ := exists_of_length_cons hn
    change read (n + 1) ('"' :: (p ++ x)) = _
    rw [read_text, hp x]
    rfl
  | @emptyList w hw =>
    intro n x hn _
    obtain ⟨n, rfl⟩ := exists_of_length_cons hn
    change read (n + 1) ('[' :: (w ++ [']'] ++ x)) = _
    rw [read_bracket, List.append_assoc]
    exact readList_empty hw n x
  | @list ts p hp ih =>
    intro n x hn hx
    obtain ⟨n, rfl⟩ := exists_of_length_cons hn
    rw [List.length_cons] at hn
    obtain ⟨c, hc, hbegin⟩ := hp.items_begin
    obtain ⟨r, hr⟩ := hbegin x
    have hread : readItems n (p ++ x) = some (ts, x) := ih (by omega) hx
    change read (n + 1) ('[' :: (p ++ x)) = _
    rw [read_bracket, readList_of_ne hc hr, hread]
    rfl
  | @emptyRecord w hw =>
    intro n x hn _
    obtain ⟨n, rfl⟩ := exists_of_length_cons hn
    change read (n + 1) ('\x7b' :: (w ++ ['\x7d'] ++ x)) = _
    rw [read_brace, List.append_assoc]
    exact readRecord_empty hw n x
  | @record fs p hp ih =>
    intro n x hn hx
    obtain ⟨n, rfl⟩ := exists_of_length_cons hn
    rw [List.length_cons] at hn
    obtain ⟨r, hr⟩ := hp.fields_begin x
    have hread : readFields n (p ++ x) = some (fs, x) := ih (by omega) hx
    change read (n + 1) ('\x7b' :: (p ++ x)) = _
    rw [read_brace, readRecord_of_name hr, hread]
    rfl
  | @lastItem t w p w' hw hp hw' ih =>
    intro n x hn hx
    simp only [List.length_append, List.length_singleton] at hn
    obtain ⟨n, rfl⟩ : ∃ m, n = m + 1 := ⟨n - 1, by omega⟩
    have hread : read n (p ++ (w' ++ ']' :: x)) = some (t, w' ++ ']' :: x) :=
      ih (by omega) (hw'.ends_append (ends_cons (by decide) x))
    change readItems (n + 1) (w ++ (p ++ (w' ++ [']'])) ++ x) = _
    rw [List.append_assoc, List.append_assoc, List.append_assoc, readItems_append hw, readItems_succ]
    change (read n (p ++ (w' ++ ']' :: x))).bind _ = _
    rw [hread]
    exact readAfterItem_bracket hw' n t x
  | @item t ts w p w' q hw hp hw' hq ih ihq =>
    intro n x hn hx
    simp only [List.length_append, List.length_cons] at hn
    obtain ⟨n, rfl⟩ : ∃ m, n = m + 1 := ⟨n - 1, by omega⟩
    have hread : read n (p ++ (w' ++ ',' :: (q ++ x))) = some (t, w' ++ ',' :: (q ++ x)) :=
      ih (by omega) (hw'.ends_append (ends_cons (by decide) _))
    have hrest : readItems n (q ++ x) = some (ts, x) := ihq (by omega) hx
    change readItems (n + 1) (w ++ (p ++ (w' ++ ',' :: q)) ++ x) = _
    rw [List.append_assoc, List.append_assoc, List.append_assoc, readItems_append hw, readItems_succ,
      List.cons_append, hread]
    change readAfterItem n t (w' ++ ',' :: (q ++ x)) = _
    rw [readAfterItem_comma hw', hrest]
    rfl
  | @lastField name t m p w hm hp hw ih =>
    intro n x hn hx
    simp only [List.length_append, List.length_singleton] at hn
    obtain ⟨n, rfl⟩ : ∃ m, n = m + 1 := ⟨n - 1, by omega⟩
    have hread : read n (p ++ (w ++ '\x7d' :: x)) = some (t, w ++ '\x7d' :: x) :=
      ih (by omega) (hw.ends_append (ends_cons (by decide) x))
    change readFields (n + 1) (m ++ (p ++ (w ++ ['\x7d'])) ++ x) = _
    rw [List.append_assoc, List.append_assoc, List.append_assoc, readFields_name hm]
    change (read n (p ++ (w ++ '\x7d' :: x))).bind _ = _
    rw [hread]
    exact readAfterField_brace hw n name t x
  | @field name t fs m p w q hm hp hw hq ih ihq =>
    intro n x hn hx
    simp only [List.length_append, List.length_cons] at hn
    obtain ⟨n, rfl⟩ : ∃ m, n = m + 1 := ⟨n - 1, by omega⟩
    have hread : read n (p ++ (w ++ ',' :: (q ++ x))) = some (t, w ++ ',' :: (q ++ x)) :=
      ih (by omega) (hw.ends_append (ends_cons (by decide) _))
    have hrest : readFields n (q ++ x) = some (fs, x) := ihq (by omega) hx
    change readFields (n + 1) (m ++ (p ++ (w ++ ',' :: q)) ++ x) = _
    rw [List.append_assoc, List.append_assoc, List.append_assoc, readFields_name hm, List.cons_append, hread]
    change readAfterField n name t (w ++ ',' :: (q ++ x)) = _
    rw [readAfterField_comma hw, hrest]
    rfl

structure ReadsGrammar (n : Nat) : Prop where
  value : ∀ {cs r : List Char} {t : Tree}, read n cs = some (t, r) →
    ∃ w p, Space w ∧ Spells (.value t) p ∧ cs = w ++ (p ++ r)
  items : ∀ {cs r : List Char} {ts : List Tree}, readItems n cs = some (ts, r) →
    ∃ p, Spells (.items ts) p ∧ cs = p ++ r
  fields : ∀ {cs r : List Char} {fs : List (Option String × Tree)}, readFields n cs = some (fs, r) →
    ∃ p, Spells (.fields fs) p ∧ cs = p ++ r

namespace ReadsGrammar

variable {cs r : List Char} {n : Nat} {t : Tree}

theorem list (hn : ReadsGrammar n) (h : readList n cs = some (t, r)) :
    ∃ p, Spells (.value t) ('[' :: p) ∧ cs = p ++ r := by
  obtain ⟨w, hw, hcs⟩ := exists_skipSpace cs
  unfold readList at h
  split at h
  · rename_i hskip
    cases h
    refine ⟨w ++ [']'], .emptyList hw, ?_⟩
    rw [hcs, hskip, List.append_assoc]
    rfl
  · rw [readItems_skipSpace] at h
    obtain ⟨⟨ts, r'⟩, hitems, he⟩ := Option.map_eq_some_iff.1 h
    cases he
    obtain ⟨p, hp, he⟩ := hn.items hitems
    exact ⟨p, .list hp, he⟩

theorem record (hn : ReadsGrammar n) (h : readRecord n cs = some (t, r)) :
    ∃ p, Spells (.value t) ('\x7b' :: p) ∧ cs = p ++ r := by
  obtain ⟨w, hw, hcs⟩ := exists_skipSpace cs
  unfold readRecord at h
  split at h
  · rename_i hskip
    cases h
    refine ⟨w ++ ['\x7d'], .emptyRecord hw, ?_⟩
    rw [hcs, hskip, List.append_assoc]
    rfl
  · rw [readFields_skipSpace] at h
    obtain ⟨⟨fs, r'⟩, hfields, he⟩ := Option.map_eq_some_iff.1 h
    cases he
    obtain ⟨p, hp, he⟩ := hn.fields hfields
    exact ⟨p, .record hp, he⟩

theorem afterSpace (hn : ReadsGrammar n) (h : read (n + 1) cs = some (t, r)) :
    ∃ p, Spells (.value t) p ∧ skipSpace cs = p ++ r := by
  rw [Tree.read] at h
  split at h
  · rename_i hskip
    cases h
    exact ⟨_, .null, hskip⟩
  · rename_i hskip
    cases h
    exact ⟨_, .yes, hskip⟩
  · rename_i hskip
    cases h
    exact ⟨_, .no, hskip⟩
  · rename_i hskip
    obtain ⟨⟨content, r'⟩, htext, he⟩ := Option.map_eq_some_iff.1 h
    cases he
    obtain ⟨p, rfl, hp⟩ := exists_of_readText htext
    exact ⟨_, .text hp, hskip⟩
  · rename_i hskip
    obtain ⟨p, hp, rfl⟩ := hn.list h
    exact ⟨_, hp, hskip⟩
  · rename_i hskip
    obtain ⟨p, hp, rfl⟩ := hn.record h
    exact ⟨_, hp, hskip⟩
  · obtain ⟨⟨m, r'⟩, hnumeral, he⟩ := Option.map_eq_some_iff.1 h
    cases he
    obtain ⟨c, q, hcs, -, hq⟩ := exists_of_readNumeral hnumeral
    exact ⟨_, .number hq, hcs⟩

theorem afterItem (hn : ReadsGrammar n) {w p : List Char} {ts : List Tree} (hw : Space w)
    (hp : Spells (.value t) p) (h : readAfterItem n t cs = some (ts, r)) :
    ∃ q, Spells (.items ts) (w ++ (p ++ q)) ∧ cs = q ++ r := by
  obtain ⟨w', hw', hcs⟩ := exists_skipSpace cs
  unfold readAfterItem at h
  split at h
  · rename_i hskip
    obtain ⟨⟨ts, r'⟩, hitems, he⟩ := Option.map_eq_some_iff.1 h
    cases he
    obtain ⟨q, hq, rfl⟩ := hn.items hitems
    refine ⟨w' ++ ',' :: q, .item hw hp hw' hq, ?_⟩
    rw [hcs, hskip, List.append_assoc]
    rfl
  · rename_i hskip
    cases h
    refine ⟨w' ++ [']'], .lastItem hw hp hw', ?_⟩
    rw [hcs, hskip, List.append_assoc]
    rfl
  · cases h

theorem afterField (hn : ReadsGrammar n) {name : Option String} {m p : List Char}
    {fs : List (Option String × Tree)} (hm : IsName name m) (hp : Spells (.value t) p)
    (h : readAfterField n name t cs = some (fs, r)) : ∃ q, Spells (.fields fs) (m ++ (p ++ q)) ∧ cs = q ++ r := by
  obtain ⟨w, hw, hcs⟩ := exists_skipSpace cs
  unfold readAfterField at h
  split at h
  · rename_i hskip
    obtain ⟨⟨fs, r'⟩, hfields, he⟩ := Option.map_eq_some_iff.1 h
    cases he
    obtain ⟨q, hq, rfl⟩ := hn.fields hfields
    refine ⟨w ++ ',' :: q, .field hm hp hw hq, ?_⟩
    rw [hcs, hskip, List.append_assoc]
    rfl
  · rename_i hskip
    cases h
    refine ⟨w ++ ['\x7d'], .lastField hm hp hw, ?_⟩
    rw [hcs, hskip, List.append_assoc]
    rfl
  · cases h

theorem afterQuote (hn : ReadsGrammar n) {w cs' : List Char} {fs : List (Option String × Tree)} (hw : Space w)
    (h : (readText cs).bind (fun (name, r) => readAfterName n name r) = some (fs, cs')) :
    ∃ p, Spells (.fields fs) (w ++ '"' :: p) ∧ cs = p ++ cs' := by
  obtain ⟨⟨name, r⟩, htext, hname⟩ := Option.bind_eq_some_iff.1 h
  obtain ⟨p, rfl, hp⟩ := exists_of_readText htext
  obtain ⟨w₁, hw₁, hr⟩ := exists_skipSpace r
  dsimp only at hname
  unfold readAfterName at hname
  split at hname
  · rename_i hskip
    obtain ⟨⟨t, r'⟩, hvalue, hfield⟩ := Option.bind_eq_some_iff.1 hname
    obtain ⟨w₂, v, hw₂, hv, rfl⟩ := hn.value hvalue
    obtain ⟨q, hq, rfl⟩ := hn.afterField ⟨w, p, w₁, w₂, hw, hp, hw₁, hw₂, rfl⟩ hv hfield
    refine ⟨p ++ (w₁ ++ ':' :: (w₂ ++ (v ++ q))), ?_, ?_⟩
    · simpa only [List.append_assoc, List.cons_append] using hq
    · rw [hr, hskip]
      simp only [List.append_assoc, List.cons_append]
  · cases hname

end ReadsGrammar

theorem readsGrammar (n : Nat) : ReadsGrammar n := by
  induction n with
  | zero =>
    refine ⟨?_, ?_, ?_⟩
    all_goals
      intro _ _ _ h
      cases h
  | succ n ih =>
    refine ⟨?_, ?_, ?_⟩
    · intro cs r t h
      obtain ⟨w, hw, hcs⟩ := exists_skipSpace cs
      obtain ⟨p, hp, hskip⟩ := ih.afterSpace h
      exact ⟨w, p, hw, hp, hskip ▸ hcs⟩
    · intro cs r ts h
      rw [readItems_succ] at h
      obtain ⟨⟨t, r'⟩, hvalue, hitem⟩ := Option.bind_eq_some_iff.1 h
      obtain ⟨w, p, hw, hp, rfl⟩ := ih.value hvalue
      obtain ⟨q, hq, rfl⟩ := ih.afterItem hw hp hitem
      exact ⟨_, hq, by simp only [List.append_assoc]⟩
    · intro cs r fs h
      obtain ⟨w, hw, hcs⟩ := exists_skipSpace cs
      by_cases hquote : ∃ r', skipSpace cs = '"' :: r'
      · obtain ⟨r', hskip⟩ := hquote
        rw [readFields_quote hskip] at h
        obtain ⟨p, hp, rfl⟩ := ih.afterQuote hw h
        refine ⟨_, hp, ?_⟩
        rw [hcs, hskip, List.append_assoc]
        rfl
      · rw [readFields] at h
        split at h
        · rename_i hskip
          exact absurd ⟨_, hskip⟩ hquote
        · cases h

theorem ofChars_eq_some_iff {cs : List Char} {t : Tree} :
    Tree.ofChars cs = some t ↔ ∃ w p w', Space w ∧ Spells (.value t) p ∧ Space w' ∧ cs = w ++ (p ++ w') := by
  unfold Tree.ofChars
  constructor
  · intro h
    split at h
    · rename_i t' r hread
      split at h
      · rename_i hempty
        cases h
        obtain ⟨w, p, hw, hp, hcs⟩ := (readsGrammar _).value hread
        obtain ⟨w', hw', hr⟩ := exists_skipSpace r
        rw [List.isEmpty_iff.1 hempty, List.append_nil] at hr
        exact ⟨w, p, w', hw, hp, hw', hr ▸ hcs⟩
      · cases h
    · cases h
  · rintro ⟨w, p, w', hw, hp, hw', rfl⟩
    have hread : read (2 * (w ++ (p ++ w')).length + 2) (p ++ w') = some (t, w') := by
      refine hp.isRead ?_ ?_
      · rw [List.length_append, List.length_append]
        omega
      · have hends := hw'.ends_append ends_nil
        rwa [List.append_nil] at hends
    rw [read_append hw, hread]
    dsimp only
    rw [hw'.skipSpace]
    rfl

end JobBoard.Json
