import JobBoard.Proofs.JsonText

/-!
Texts that are changed in one place: a value that stands in a list or a record can be put in place of another one, and a
field that is null can be added to a record at every place between its fields.
-/

namespace JobBoard.Json

open JobBoard.Json.Tree Value

variable {before after : List (Option String × Tree)} {ts us : List Tree} {t t' : Tree} {p : List Char} {name : String}

theorem spells_items_middle (h : Spells (.items (ts ++ t :: us)) p) :
    ∃ a q b, p = a ++ (q ++ b) ∧ Spells (.value t) q ∧
      ∀ t' q', Spells (.value t') q' → Spells (.items (ts ++ t' :: us)) (a ++ (q' ++ b)) := by
  induction ts generalizing p with
  | nil =>
    cases h with
    | @lastItem _ w q w' hw hq hw' =>
      exact ⟨w, q, w' ++ [']'], rfl, hq, fun t' q' hq' => .lastItem hw hq' hw'⟩
    | @item _ _ w q w' r hw hq hw' hr =>
      exact ⟨w, q, w' ++ ',' :: r, rfl, hq, fun t' q' hq' => .item hw hq' hw' hr⟩
  | cons s ts ih =>
    obtain ⟨rest, hrest⟩ : ∃ rest, rest = ts ++ t :: us := ⟨_, rfl⟩
    rw [List.cons_append, ← hrest] at h
    cases h with
    | lastItem => exact absurd hrest.symm (List.append_ne_nil_of_right_ne_nil _ (List.cons_ne_nil _ _))
    | @item _ _ w s' w' r hw hs hw' hr =>
      rw [hrest] at hr
      obtain ⟨a, q, b, rfl, hq, hreplace⟩ := ih hr
      refine ⟨w ++ (s' ++ (w' ++ ',' :: a)), q, b, ?_, hq, ?_⟩
      · simp only [List.append_assoc, List.cons_append]
      · intro t' q' hq'
        have htext := Spells.item hw hs hw' (hreplace t' q' hq')
        simpa only [List.append_assoc, List.cons_append] using htext

theorem spells_fields_middle {n : Option String} (h : Spells (.fields (before ++ (n, t) :: after)) p) :
    ∃ a q b, p = a ++ (q ++ b) ∧ Spells (.value t) q ∧
      ∀ t' q', Spells (.value t') q' → Spells (.fields (before ++ (n, t') :: after)) (a ++ (q' ++ b)) := by
  induction before generalizing p with
  | nil =>
    cases h with
    | @lastField _ _ m q w hm hq hw => exact ⟨m, q, w ++ ['\x7d'], rfl, hq, fun t' q' hq' => .lastField hm hq' hw⟩
    | @field _ _ _ m q w r hm hq hw hr => exact ⟨m, q, w ++ ',' :: r, rfl, hq, fun t' q' hq' => .field hm hq' hw hr⟩
  | cons f before ih =>
    obtain ⟨rest, hrest⟩ : ∃ rest, rest = before ++ (n, t) :: after := ⟨_, rfl⟩
    rw [List.cons_append, ← hrest] at h
    cases h with
    | lastField => exact absurd hrest.symm (List.append_ne_nil_of_right_ne_nil _ (List.cons_ne_nil _ _))
    | @field _ _ _ m s w r hm hs hw hr =>
      rw [hrest] at hr
      obtain ⟨a, q, b, rfl, hq, hreplace⟩ := ih hr
      refine ⟨m ++ (s ++ (w ++ ',' :: a)), q, b, ?_, hq, ?_⟩
      · simp only [List.append_assoc, List.cons_append]
      · intro t' q' hq'
        have htext := Spells.field hm hs hw (hreplace t' q' hq')
        simpa only [List.append_assoc, List.cons_append] using htext

def nullEntry (name : String) : List Char := quote name ++ [':', 'n', 'u', 'l', 'l']

/-- The second text is the first one with a null field put in somewhere, and a comma on one side of it if need be. -/
def Inserted (name : String) (p p' : List Char) : Prop :=
  ∃ a entry b, entry ∈ [nullEntry name, nullEntry name ++ [','], ',' :: nullEntry name] ∧ p = a ++ b ∧
    p' = a ++ (entry ++ b)

theorem Inserted.append {p' : List Char} (h : Inserted name p p') (a b : List Char) :
    Inserted name (a ++ (p ++ b)) (a ++ (p' ++ b)) := by
  obtain ⟨c, entry, d, hentry, rfl, rfl⟩ := h
  exact ⟨a ++ c, entry, d ++ b, hentry, by simp only [List.append_assoc], by simp only [List.append_assoc]⟩

theorem spells_fields_insert (h : Spells (.fields (before ++ after)) p) (name : String) :
    ∃ p', Inserted name p p' ∧ Spells (.fields (before ++ (some name, .null) :: after)) p' := by
  have hname : IsName (some name) (quote name ++ [':']) := isName_quote name space_nil space_nil
  induction before generalizing p with
  | nil =>
    refine ⟨nullEntry name ++ [','] ++ p, ⟨[], nullEntry name ++ [','], p, ?_, rfl, rfl⟩, ?_⟩
    · exact List.mem_cons_of_mem _ List.mem_cons_self
    · have htext := Spells.field hname .null space_nil h
      simpa only [nullEntry, List.append_assoc, List.cons_append, List.nil_append] using htext
  | cons f before ih =>
    obtain ⟨rest, hrest⟩ : ∃ rest, rest = before ++ after := ⟨_, rfl⟩
    rw [List.cons_append, ← hrest] at h
    cases h with
    | @lastField n t m q w hm hq hw =>
      obtain ⟨rfl, rfl⟩ := List.append_eq_nil_iff.1 hrest.symm
      refine ⟨m ++ (q ++ w) ++ (',' :: nullEntry name ++ ['\x7d']),
        ⟨m ++ (q ++ w), ',' :: nullEntry name, ['\x7d'], ?_, ?_, rfl⟩, ?_⟩
      · exact List.mem_cons_of_mem _ (List.mem_cons_of_mem _ List.mem_cons_self)
      · simp only [List.append_assoc]
      · have htext := Spells.field hm hq hw (Spells.lastField hname .null space_nil)
        simpa only [nullEntry, List.append_assoc, List.cons_append, List.nil_append] using htext
    | @field n t _ m q w r hm hq hw hr =>
      rw [hrest] at hr
      obtain ⟨r', hins, hr'⟩ := ih hr
      have hins' := hins.append (m ++ (q ++ (w ++ [',']))) []
      refine ⟨m ++ (q ++ (w ++ ',' :: r')), ?_, .field hm hq hw hr'⟩
      simpa only [List.append_assoc, List.cons_append, List.nil_append, List.append_nil] using hins'

theorem spells_record_insert (h : Spells (.value (.record (before ++ after))) p) (name : String) :
    ∃ p', Inserted name p p' ∧ Spells (.value (.record (before ++ (some name, .null) :: after))) p' := by
  obtain ⟨fs, hfs⟩ : ∃ fs, fs = before ++ after := ⟨_, rfl⟩
  rw [← hfs] at h
  cases h with
  | @emptyRecord w hw =>
    obtain ⟨rfl, rfl⟩ := List.append_eq_nil_iff.1 hfs.symm
    refine ⟨'\x7b' :: (nullEntry name ++ (w ++ ['\x7d'])),
      ⟨['\x7b'], nullEntry name, w ++ ['\x7d'], List.mem_cons_self, rfl, rfl⟩, .record ?_⟩
    have htext := Spells.lastField (isName_quote name space_nil space_nil) .null hw
    simpa only [nullEntry, List.append_assoc, List.cons_append, List.nil_append] using htext
  | record hp =>
    rw [hfs] at hp
    obtain ⟨p', hins, hp'⟩ := spells_fields_insert hp name
    have hins' := hins.append ['\x7b'] []
    rw [List.append_nil, List.append_nil] at hins'
    exact ⟨'\x7b' :: p', hins', .record hp'⟩

/-- Every text of the first tree becomes one of the second when the null field is put in. -/
def InsertsInto (name : String) (t t' : Tree) : Prop :=
  ∀ p, Spells (.value t) p → ∃ p', Inserted name p p' ∧ Spells (.value t') p'

theorem InsertsInto.field (h : InsertsInto name t t') (n : Option String) :
    InsertsInto name (.record (before ++ (n, t) :: after)) (.record (before ++ (n, t') :: after)) := by
  intro p hp
  obtain ⟨fs, hfs⟩ : ∃ fs, fs = before ++ (n, t) :: after := ⟨_, rfl⟩
  rw [← hfs] at hp
  cases hp with
  | emptyRecord => exact absurd hfs.symm (List.append_ne_nil_of_right_ne_nil _ (List.cons_ne_nil _ _))
  | record hp =>
    rw [hfs] at hp
    obtain ⟨a, q, b, rfl, hq, hreplace⟩ := spells_fields_middle hp
    obtain ⟨q', hins, hq'⟩ := h q hq
    exact ⟨'\x7b' :: (a ++ (q' ++ b)), hins.append ('\x7b' :: a) b, .record (hreplace t' q' hq')⟩

theorem InsertsInto.item (h : InsertsInto name t t') :
    InsertsInto name (.list (ts ++ t :: us)) (.list (ts ++ t' :: us)) := by
  intro p hp
  obtain ⟨vs, hvs⟩ : ∃ vs, vs = ts ++ t :: us := ⟨_, rfl⟩
  rw [← hvs] at hp
  cases hp with
  | emptyList => exact absurd hvs.symm (List.append_ne_nil_of_right_ne_nil _ (List.cons_ne_nil _ _))
  | list hp =>
    rw [hvs] at hp
    obtain ⟨a, q, b, rfl, hq, hreplace⟩ := spells_items_middle hp
    obtain ⟨q', hins, hq'⟩ := h q hq
    exact ⟨'[' :: (a ++ (q' ++ b)), hins.append ('[' :: a) b, .list (hreplace t' q' hq')⟩

theorem InsertsInto.ofText (h : InsertsInto name t t') {s : String} (hs : Tree.ofText s = some t) :
    ∃ s', Inserted name s.toList s'.toList ∧ Tree.ofText s' = some t' := by
  obtain ⟨w, p, w', hw, hp, hw', he⟩ := ofChars_eq_some_iff.1 hs
  obtain ⟨p', hins, hp'⟩ := h p hp
  refine ⟨String.ofList (w ++ (p' ++ w')), ?_, ?_⟩
  · rw [String.toList_ofList, he]
    exact hins.append w w'
  · rw [Tree.ofText, String.toList_ofList]
    exact ofChars_eq_some_iff.2 ⟨w, p', w', hw, hp', hw', rfl⟩

end JobBoard.Json
