import JobBoard.Json.Value
import JobBoard.Proofs.JsonGrammar
import Mathlib.Data.List.Perm.Basic

/-!
The written forms of a value are texts of the grammar: on one line and on indented lines, whatever characters its texts
hold. Putting the fields of a record in order changes nothing but their order.
-/

namespace JobBoard.Json

open JobBoard.Json.Tree

def Numeral.ofInt (n : Int) : Numeral := ⟨decide (n < 0), Decimal.digits n.natAbs, none, none⟩

namespace Value

mutual

def isExact : Value → Bool
  | real _ => false
  | list vs => areExact vs
  | record fs => fieldsAreExact fs
  | _ => true

def areExact : List Value → Bool
  | [] => true
  | v :: vs => isExact v && areExact vs

def fieldsAreExact : List (String × Value) → Bool
  | [] => true
  | (_, v) :: fs => isExact v && fieldsAreExact fs

end

mutual

/-- The tree of the written forms of a value whose numbers are integers. -/
def toTree : Value → Tree
  | null => .null
  | bool b => .bool b
  | int n => .number (.ofInt n)
  | real _ => .null
  | text s => .text (some s)
  | list vs => .list (toTrees vs)
  | record fs => .record (toFields fs)

def toTrees : List Value → List Tree
  | [] => []
  | v :: vs => toTree v :: toTrees vs

def toFields : List (String × Value) → List (Option String × Tree)
  | [] => []
  | (name, v) :: fs => (some name, toTree v) :: toFields fs

end

theorem hexUnit?_hexLower {n : Nat} (h : n < 32) :
    hexUnit? '0' '0' (hexLower (n / 16)) (hexLower (n % 16)) = some n := by
  have hall : ∀ n < 32, hexUnit? '0' '0' (hexLower (n / 16)) (hexLower (n % 16)) = some n := by decide
  exact hall n h

theorem isUnits_escape {us : List Nat} {p : List Char} (c : Char) (h : IsUnits us p) :
    IsUnits (c.toNat :: us) (escape c ++ p) := by
  unfold escape
  split
  case h_8 n h₁ h₂ h₃ h₄ h₅ h₆ h₇ =>
    split
    · rename_i hlow
      exact h.unicode (hexUnit?_hexLower hlow)
    · rename_i hlow
      refine h.plain ?_ ?_ hlow
      · rintro rfl
        exact h₁ rfl
      · rintro rfl
        exact h₂ rfl
  all_goals
    rename_i he
    rw [he]
    exact h.escaped rfl

theorem isUnits_escapes (cs : List Char) : IsUnits (cs.map Char.toNat) (cs.flatMap escape ++ ['"']) := by
  induction cs with
  | nil => exact isUnits_quote
  | cons c cs ih =>
    rw [List.flatMap_cons, List.append_assoc]
    exact isUnits_escape c ih

theorem not_isHalf (c : Char) : isHighHalf c.toNat = false ∧ isLowHalf c.toNat = false := by
  have hvalid : c.toNat < 0xD800 ∨ 0xDFFF < c.toNat ∧ c.toNat < 0x110000 := c.valid
  simp only [isHighHalf, isLowHalf, Bool.and_eq_false_iff, decide_eq_false_iff_not]
  omega

theorem joinUnits_map_toNat (cs : List Char) : joinUnits (cs.map Char.toNat) = some cs := by
  induction cs with
  | nil => rfl
  | cons c cs ih =>
    obtain ⟨hhigh, hlow⟩ := not_isHalf c
    cases cs with
    | nil =>
      rw [List.map_cons, List.map_nil, joinUnits, hhigh, hlow, Char.ofNat_toNat]
      rfl
    | cons d cs =>
      rw [List.map_cons, List.map_cons, joinUnits, hhigh, hlow, ← List.map_cons, ih, Char.ofNat_toNat]
      rfl

theorem isText_escapes (s : String) : IsText (some s) (s.toList.flatMap escape ++ ['"']) := by
  have htext := (isUnits_escapes s.toList).isText
  rwa [joinUnits_map_toNat, Option.map_some, String.ofList_toList] at htext

theorem spells_quote (s : String) : Spells (.value (.text (some s))) (quote s) := .text (isText_escapes s)

theorem isName_quote (name : String) {w w' : List Char} (hw : Space w) (hw' : Space w') :
    IsName (some name) (w ++ (quote name ++ ':' :: w')) := by
  refine ⟨w, _, [], w', hw, isText_escapes name, space_nil, hw', ?_⟩
  rw [quote, List.cons_append, List.nil_append, List.cons_append]

theorem readWhole_natText (n : Nat) {x : List Char} (hx : Decimal.Stops x) :
    readWhole (Decimal.natText n ++ x) = some (Decimal.digits n, x) := by
  obtain ⟨d, ds, hdigits, hzero⟩ := Decimal.digits_begin n
  rw [readWhole, Decimal.takeDigits_natText n hx, hdigits]
  split
  · rename_i he
    cases he
  · rename_i he
    cases he
    exact absurd (hzero rfl) (List.cons_ne_nil _ _)
  · rename_i he
    cases he
    rfl

theorem readUnsigned_natText (negative : Bool) (n : Nat) {x : List Char} (hx : Ends x) :
    readUnsigned negative (Decimal.natText n ++ x) = some (⟨negative, Decimal.digits n, none, none⟩, x) := by
  rw [readUnsigned, readWhole_natText n hx.stops]
  simp only [Option.bind_eq_bind, Option.bind_some, readFraction_of_noPoint hx.noPoint, readExponent_of_ends hx]

theorem isNumeral_intText (n : Int) : IsNumeral (.ofInt n) (Decimal.intText n) := by
  intro x hx
  unfold Numeral.ofInt Decimal.intText
  by_cases hn : n < 0
  · rw [if_pos hn, decide_eq_true hn]
    exact readUnsigned_natText true n.natAbs hx
  · obtain ⟨d, ds, hdigits, -⟩ := Decimal.digits_begin n.natAbs
    have hd : d < 10 := Decimal.digits_lt n.natAbs d (by rw [hdigits]; exact List.mem_cons_self)
    rw [if_neg hn, decide_eq_false hn, readNumeral_of_ne, readUnsigned_natText false n.natAbs hx]
    intro r he
    rw [Decimal.natText, hdigits, List.map_cons, List.cons_append] at he
    have hall : ∀ d < 10, Decimal.digitChar d ≠ '-' := by decide
    exact hall d hd (List.cons.inj he).1

mutual

theorem spells_print : ∀ v : Value, v.isExact = true → Spells (.value v.toTree) v.print
  | null, _ => .null
  | bool true, _ => .yes
  | bool false, _ => .no
  | int n, _ => .number (isNumeral_intText n)
  | text s, _ => spells_quote s
  | list [], _ => .emptyList space_nil
  | list (v :: vs), h => by
    obtain ⟨hv, hvs⟩ := Bool.and_eq_true_iff.1 h
    exact .list (spells_printItems vs hvs (spells_print v hv))
  | record [], _ => .emptyRecord space_nil
  | record ((name, v) :: fs), h => by
    obtain ⟨hv, hfs⟩ := Bool.and_eq_true_iff.1 h
    have hfields := spells_printFields fs hfs (isName_quote name space_nil space_nil) (spells_print v hv)
    simp only [List.append_assoc, List.cons_append, List.nil_append] at hfields
    simp only [toTree, toFields, print, List.append_assoc, List.cons_append]
    exact .record hfields

theorem spells_printItems : ∀ vs : List Value, areExact vs = true → ∀ {t : Tree} {p : List Char},
    Spells (.value t) p → Spells (.items (t :: toTrees vs)) (p ++ printItems vs)
  | [], _, t, p, hp => .lastItem space_nil hp space_nil
  | v :: vs, h, t, p, hp => by
    obtain ⟨hv, hvs⟩ := Bool.and_eq_true_iff.1 h
    exact .item space_nil hp space_nil (spells_printItems vs hvs (spells_print v hv))

theorem spells_printFields : ∀ fs : List (String × Value), fieldsAreExact fs = true →
    ∀ {name : Option String} {m : List Char} {t : Tree} {p : List Char}, IsName name m → Spells (.value t) p →
      Spells (.fields ((name, t) :: toFields fs)) (m ++ (p ++ printFields fs))
  | [], _, name, m, t, p, hm, hp => .lastField hm hp space_nil
  | (name', v) :: fs, h, name, m, t, p, hm, hp => by
    obtain ⟨hv, hfs⟩ := Bool.and_eq_true_iff.1 h
    have hfields := spells_printFields fs hfs (isName_quote name' space_nil space_nil) (spells_print v hv)
    have htext := Spells.field hm hp space_nil hfields
    rw [toFields, printFields]
    simpa only [List.append_assoc, List.nil_append, List.cons_append] using htext

end

theorem space_newLine (depth : Nat) : Space (newLine depth) := by
  intro c hc
  rcases List.mem_cons.1 hc with rfl | hc
  · rfl
  · rw [List.eq_of_mem_replicate hc]
    rfl

theorem space_blank : Space [' '] := by
  intro c hc
  rw [List.mem_singleton.1 hc]
  rfl

mutual

theorem spells_printAt : ∀ (depth : Nat) (v : Value), v.isExact = true → Spells (.value v.toTree) (v.printAt depth)
  | _, null, _ => .null
  | _, bool true, _ => .yes
  | _, bool false, _ => .no
  | _, int n, _ => .number (isNumeral_intText n)
  | _, text s, _ => spells_quote s
  | _, list [], _ => .emptyList space_nil
  | depth, list (v :: vs), h => by
    obtain ⟨hv, hvs⟩ := Bool.and_eq_true_iff.1 h
    have hitems := spells_printItemsAt depth vs hvs (space_newLine (depth + 1)) (spells_printAt (depth + 1) v hv)
    simp only [toTree, toTrees, printAt, List.append_assoc, List.cons_append]
    exact .list hitems
  | _, record [], _ => .emptyRecord space_nil
  | depth, record ((name, v) :: fs), h => by
    obtain ⟨hv, hfs⟩ := Bool.and_eq_true_iff.1 h
    have hfields := spells_printFieldsAt depth fs hfs (isName_quote name (space_newLine (depth + 1)) space_blank)
      (spells_printAt (depth + 1) v hv)
    simp only [List.append_assoc, List.cons_append] at hfields
    simp only [toTree, toFields, printAt, List.append_assoc, List.cons_append]
    exact .record hfields

theorem spells_printItemsAt : ∀ (depth : Nat) (vs : List Value), areExact vs = true →
    ∀ {t : Tree} {w p : List Char}, Space w → Spells (.value t) p →
      Spells (.items (t :: toTrees vs)) (w ++ (p ++ printItemsAt depth vs))
  | depth, [], _, t, w, p, hw, hp => .lastItem hw hp (space_newLine depth)
  | depth, v :: vs, h, t, w, p, hw, hp => by
    obtain ⟨hv, hvs⟩ := Bool.and_eq_true_iff.1 h
    have hitems := spells_printItemsAt depth vs hvs (space_newLine (depth + 1)) (spells_printAt (depth + 1) v hv)
    have htext := Spells.item hw hp space_nil hitems
    rw [toTrees, printItemsAt]
    simpa only [List.append_assoc, List.nil_append, List.cons_append] using htext

theorem spells_printFieldsAt : ∀ (depth : Nat) (fs : List (String × Value)), fieldsAreExact fs = true →
    ∀ {name : Option String} {m : List Char} {t : Tree} {p : List Char}, IsName name m → Spells (.value t) p →
      Spells (.fields ((name, t) :: toFields fs)) (m ++ (p ++ printFieldsAt depth fs))
  | depth, [], _, name, m, t, p, hm, hp => .lastField hm hp (space_newLine depth)
  | depth, (name', v) :: fs, h, name, m, t, p, hm, hp => by
    obtain ⟨hv, hfs⟩ := Bool.and_eq_true_iff.1 h
    have hfields := spells_printFieldsAt depth fs hfs (isName_quote name' (space_newLine (depth + 1)) space_blank)
      (spells_printAt (depth + 1) v hv)
    have htext := Spells.field hm hp space_nil hfields
    rw [toFields, printFieldsAt]
    simpa only [List.append_assoc, List.nil_append, List.cons_append] using htext

end

theorem ofText_written {v : Value} (h : v.isExact = true) {s : String} (hs : s = v.compact ∨ s = v.pretty) :
    Tree.ofText s = some v.toTree := by
  rw [Tree.ofText, ofChars_eq_some_iff]
  rcases hs with rfl | rfl
  · refine ⟨[], v.print, [], space_nil, spells_print v h, space_nil, ?_⟩
    rw [compact, String.toList_ofList, List.nil_append, List.append_nil]
  · refine ⟨[], v.printAt 0, [], space_nil, spells_printAt 0 v h, space_nil, ?_⟩
    rw [pretty, String.toList_ofList, List.nil_append, List.append_nil]

theorem insertField_perm {name : String} {v : Value} {fs : List (String × Value)} (h : name ∉ fs.map Prod.fst) :
    (insertField name v fs).Perm ((name, v) :: fs) := by
  induction fs with
  | nil => exact .refl _
  | cons p fs ih =>
    rw [List.map_cons, List.mem_cons, not_or] at h
    rw [insertField]
    split
    · exact .refl _
    · rw [if_neg h.1]
      exact ((ih h.2).cons p).trans (.swap _ _ _)

theorem foldl_insertField_perm {fs acc : List (String × Value)}
    (h : (acc.map Prod.fst ++ fs.map Prod.fst).Nodup) :
    (fs.foldl (fun acc p => insertField p.1 p.2 acc) acc).Perm (acc ++ fs) := by
  induction fs generalizing acc with
  | nil => rw [List.append_nil]; exact .refl _
  | cons p fs ih =>
    have hnew : p.1 ∉ acc.map Prod.fst := by
      intro hmem
      exact (List.nodup_append.1 h).2.2 _ hmem _ List.mem_cons_self rfl
    have hinsert : (insertField p.1 p.2 acc).Perm (p :: acc) := insertField_perm hnew
    have hnames : ((insertField p.1 p.2 acc).map Prod.fst ++ fs.map Prod.fst).Nodup := by
      refine (List.Perm.nodup_iff ?_).2 h
      exact ((hinsert.map Prod.fst).append_right _).trans List.perm_middle.symm
    exact (ih hnames).trans ((hinsert.append_right fs).trans List.perm_middle.symm)

theorem sortFields_perm {fs : List (String × Value)} (h : (fs.map Prod.fst).Nodup) :
    (sortFields fs).Perm fs :=
  foldl_insertField_perm h

theorem mem_insertField {name : String} {v : Value} {q : String × Value} {fs : List (String × Value)}
    (h : q ∈ insertField name v fs) : q = (name, v) ∨ q ∈ fs := by
  induction fs with
  | nil => exact .inl (List.mem_singleton.1 h)
  | cons p fs ih =>
    rw [insertField] at h
    split at h
    · exact List.mem_cons.1 h
    · split at h
      · exact (List.mem_cons.1 h).imp_right (List.mem_cons_of_mem _)
      · rcases List.mem_cons.1 h with rfl | h
        · exact .inr List.mem_cons_self
        · exact (ih h).imp_right (List.mem_cons_of_mem _)

theorem mem_sortFields {q : String × Value} {fs : List (String × Value)} (h : q ∈ sortFields fs) : q ∈ fs := by
  have hfold : ∀ acc : List (String × Value),
      q ∈ fs.foldl (fun acc p => insertField p.1 p.2 acc) acc → q ∈ acc ∨ q ∈ fs := by
    clear h
    induction fs with
    | nil => exact fun acc h => .inl h
    | cons p fs ih =>
      intro acc h
      rcases ih _ h with h | h
      · rcases mem_insertField h with rfl | h
        · exact .inr List.mem_cons_self
        · exact .inl h
      · exact .inr (List.mem_cons_of_mem _ h)
  rcases hfold [] h with h | h
  · cases h
  · exact h

theorem fieldsAreExact_iff {fs : List (String × Value)} :
    fieldsAreExact fs = true ↔ ∀ p ∈ fs, p.2.isExact = true := by
  induction fs with
  | nil => exact iff_of_true rfl fun _ hp => nomatch hp
  | cons p fs ih => rw [fieldsAreExact, Bool.and_eq_true_iff, ih, List.forall_mem_cons]

mutual

theorem isExact_sorted : ∀ v : Value, v.isExact = true → v.sorted.isExact = true
  | null, _ => rfl
  | bool _, _ => rfl
  | int _, _ => rfl
  | text _, _ => rfl
  | list vs, h => areExact_sortedItems vs h
  | record fs, h => by
    have hfs := fieldsAreExact_iff.1 (fieldsAreExact_sortedFields fs h)
    exact fieldsAreExact_iff.2 fun p hp => hfs p (mem_sortFields hp)

theorem areExact_sortedItems : ∀ vs : List Value, areExact vs = true → areExact (sortedItems vs) = true
  | [], _ => rfl
  | v :: vs, h => by
    obtain ⟨hv, hvs⟩ := Bool.and_eq_true_iff.1 h
    exact Bool.and_eq_true_iff.2 ⟨isExact_sorted v hv, areExact_sortedItems vs hvs⟩

theorem fieldsAreExact_sortedFields : ∀ fs : List (String × Value), fieldsAreExact fs = true →
    fieldsAreExact (sortedFields fs) = true
  | [], _ => rfl
  | (_, v) :: fs, h => by
    obtain ⟨hv, hfs⟩ := Bool.and_eq_true_iff.1 h
    exact Bool.and_eq_true_iff.2 ⟨isExact_sorted v hv, fieldsAreExact_sortedFields fs hfs⟩

end

end Value

end JobBoard.Json
