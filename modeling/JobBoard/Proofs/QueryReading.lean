import JobBoard.Proofs.FormText
import JobBoard.Proofs.StartFilter

/-!
Queries as they are read. Of the named values of a query only those of the two known names count. The first malformed
one of them is the error; if there is none, the last one of each name makes the filter.
-/

namespace JobBoard.Filter

def namedStatus? (v : String) : Option StatusChoice :=
  [("all", .all), ("pending", .only .pending), ("processing", .only .processing),
    ("completed", .only .completed)].lookup (Text.asciiLower (Text.trimmed v))

def namedReview? (v : String) : Option Bool :=
  [("true", true), ("1", true), ("false", false), ("0", false), ("", false)].lookup (Text.asciiLower v)

def status? (p : String × String) : Option StatusChoice := if p.1 = "status" then namedStatus? p.2 else none

def review? (p : String × String) : Option Bool := if p.1 = "review" then namedReview? p.2 else none

def flaw? (p : String × String) : Option QueryError :=
  if p.1 = "status" ∧ namedStatus? p.2 = none then some (.unknownStatus p.2)
  else if p.1 = "review" ∧ namedReview? p.2 = none then some (.invalidReview p.2)
  else none

/-- The filter that named values without a flaw stand for, seen from a filter that holds before them. -/
def settled (f : Filter) (ps : List (String × String)) : Filter where
  status := (ps.filterMap status?).getLast?.getD f.status
  reviewOnly := (ps.filterMap review?).getLast?.getD f.reviewOnly

variable {p : String × String} {ps : List (String × String)}

theorem ofTyped?_eq_namedStatus? (v : String) : StatusChoice.ofTyped? v = namedStatus? v := by
  have hall : Text.asciiLower "all" = "all" := rfl
  unfold StatusChoice.ofTyped? Text.sameIgnoringCase Status.ofTyped? namedStatus?
  rw [hall]
  generalize Text.asciiLower (Text.trimmed v) = t
  split
  · rename_i h
    rw [eq_of_beq h]
    rfl
  · rename_i h
    split
    · rfl
    · rfl
    · rfl
    · rename_i h₁ h₂ h₃
      simp only [beq_iff_eq] at h
      simp only [List.lookup_cons, List.lookup_nil, beq_eq_false_iff_ne.2 h, beq_eq_false_iff_ne.2 h₁, beq_eq_false_iff_ne.2 h₂,
        beq_eq_false_iff_ne.2 h₃, Option.map_none]

theorem readStatus_eq (v : String) : readStatus v = (namedStatus? v).elim (.error (.unknownStatus v)) .ok := by
  rw [readStatus, ofTyped?_eq_namedStatus?]
  cases namedStatus? v <;> rfl

theorem readReview_eq (v : String) : readReview v = (namedReview? v).elim (.error (.invalidReview v)) .ok := by
  unfold readReview namedReview?
  split
  · rename_i h
    rw [h]
    rfl
  · rename_i h
    rw [h]
    rfl
  · rename_i h
    rw [h]
    rfl
  · rename_i h
    rw [h]
    rfl
  · rename_i h
    rw [h]
    rfl
  · rename_i h₁ h₂ h₃ h₄ h₅
    simp only [List.lookup_cons, List.lookup_nil, beq_eq_false_iff_ne.2 h₁, beq_eq_false_iff_ne.2 h₂, beq_eq_false_iff_ne.2 h₃,
      beq_eq_false_iff_ne.2 h₄, beq_eq_false_iff_ne.2 h₅, Option.elim_none]

theorem absorb_eq (f : Filter) (p : String × String) :
    f.absorb p = (flaw? p).elim (.ok (f.settled [p])) .error := by
  obtain ⟨k, v⟩ := p
  unfold absorb
  split
  · rename_i hk
    change k = "status" at hk
    subst hk
    rw [readStatus_eq]
    cases hv : namedStatus? v with
    | none => simp [flaw?, hv, Except.map]
    | some c => simp [flaw?, hv, Except.map, settled, status?, review?]
  split
  · rename_i hk hr
    change k = "review" at hr
    subst hr
    rw [readReview_eq]
    cases hv : namedReview? v with
    | none => simp [flaw?, hv, Except.map]
    | some r => simp [flaw?, hv, Except.map, settled, status?, review?]
  · rename_i hk hr
    change ¬k = "status" at hk
    change ¬k = "review" at hr
    simp [flaw?, settled, status?, review?, hk, hr]

theorem settled_cons (f : Filter) (p : String × String) (ps : List (String × String)) :
    f.settled (p :: ps) = (f.settled [p]).settled ps := by
  have hlast {α : Type} (read : String × String → Option α) (a : α) :
      ((p :: ps).filterMap read).getLast?.getD a =
        (ps.filterMap read).getLast?.getD (([p].filterMap read).getLast?.getD a) := by
    rw [List.filterMap_cons, List.filterMap_cons, List.filterMap_nil]
    cases read p with
    | none => rfl
    | some x => simp [List.getLast?_cons]
  rw [settled, settled, hlast status?, hlast review?]
  rfl

theorem foldlM_absorb (f : Filter) (ps : List (String × String)) :
    ps.foldlM absorb f = (ps.findSome? flaw?).elim (.ok (f.settled ps)) .error := by
  -- Each value changes the filter that the next ones start from.
  induction ps generalizing f with
  | nil => rfl
  | cons p ps ih =>
    rw [List.foldlM_cons, absorb_eq, List.findSome?_cons]
    cases flaw? p with
    | some e => rfl
    | none =>
      have h := ih (f.settled [p])
      rw [← settled_cons] at h
      exact h

theorem dropWhile_of_none {α : Type} {q : α → Bool} {xs : List α} (h : ∀ x ∈ xs, q x = false) :
    xs.dropWhile q = xs := by
  cases xs with
  | nil => rfl
  | cons x xs =>
    apply List.dropWhile_cons_of_neg
    rw [h x List.mem_cons_self]
    exact Bool.false_ne_true

theorem trim_of_not_blank {cs : List Char} (h : ∀ x ∈ cs, Text.isBlank x = false) : Text.trim cs = cs := by
  have hreverse : ∀ x ∈ cs.reverse, Text.isBlank x = false := by
    intro x hx
    exact h x (List.mem_reverse.1 hx)
  rw [Text.trim, Text.trimStart, dropWhile_of_none h, Text.trimEnd, dropWhile_of_none hreverse, List.reverse_reverse]

theorem queryBody_form (marks : Nat) (ps : List (String × String)) :
    queryBody (String.ofList (List.replicate marks '?' ++ Text.Form.encode ps)) = Text.Form.encode ps := by
  have hblank : ∀ x ∈ List.replicate marks '?' ++ Text.Form.encode ps, Text.isBlank x = false := by
    intro x hx
    rcases List.mem_append.1 hx with hx | hx
    · rw [List.eq_of_mem_replicate hx]
      rfl
    · exact (Text.Form.isFormed_of_mem_encode hx).not_blank
  have hmarks : ∀ x ∈ List.replicate marks '?', (x == '?') = true := by
    intro x hx
    exact beq_iff_eq.2 (List.eq_of_mem_replicate hx)
  have hform : ∀ x ∈ Text.Form.encode ps, (x == '?') = false := by
    intro x hx
    apply beq_eq_false_iff_ne.2
    rintro rfl
    exact (Text.Form.isFormed_of_mem_encode hx).bounds.2.1 rfl
  rw [queryBody, String.toList_ofList, trim_of_not_blank hblank, List.dropWhile_append_of_pos hmarks,
    dropWhile_of_none hform]

/-- Named values that are written into a query, behind a question mark or not, are read by the two names that are
known. The first malformed value of these is the error, as it was before it was written; if there is none, the last
value of each name counts, and everything is shown where there is none. And the query that shares the filter which a
query has been read as is read as this filter. -/
theorem ofQuery_reads_format :
    (∀ (ps : List (String × String)) (marks : Nat),
      ofQuery (String.ofList (List.replicate marks '?' ++ Text.Form.encode ps)) =
        match ps.findSome? flaw? with
        | some e => .error e
        | none => .ok
            { status := (ps.filterMap status?).getLast?.getD .all
              reviewOnly := (ps.filterMap review?).getLast?.getD false }) ∧
    ∀ (q : String) (f : Filter), ofQuery q = .ok f → ofQuery f.toQuery = .ok f := by
  constructor
  · intro ps marks
    rw [ofQuery, queryBody_form, Text.Form.decode_encode, ofPairs, foldlM_absorb]
    cases ps.findSome? flaw? with
    | some e => rfl
    | none => rfl
  · intro q f h
    exact ofQuery_toQuery (.of_query h)

theorem ofQuery_reads_format_of_badReview :
    let ps := [("status", " PENDING "), ("page&=3", "ä ?"), ("review", "100%"), ("status", "archived")]
    Text.Form.encode ps =
        "status=+PENDING+&page%26%3D3=%C3%A4+%3F&review=100%25&status=archived".toList ∧
      ofQuery (String.ofList (List.replicate 1 '?' ++ Text.Form.encode ps)) = .error (.invalidReview "100%") ∧
      ofQuery " ?status=all&x&review=1&status=%43ompleted" = .ok ⟨.only .completed, true⟩ ∧
      ofQuery (toQuery ⟨.only .completed, true⟩) = .ok ⟨.only .completed, true⟩ := by
  have hd : Text.Form.decode (queryBody " ?status=all&x&review=1&status=%43ompleted") =
      [("status", "all"), ("x", ""), ("review", "1"), ("status", "Completed")] := by decide +kernel
  have hq : ofQuery " ?status=all&x&review=1&status=%43ompleted" = .ok ⟨.only .completed, true⟩ := by
    rw [ofQuery, hd]
    rfl
  have hflaw : [("status", " PENDING "), ("page&=3", "ä ?"), ("review", "100%"),
      ("status", "archived")].findSome? flaw? = some (.invalidReview "100%") := by decide
  refine ⟨by decide, ?_, hq, ofQuery_reads_format.2 _ _ hq⟩
  rw [ofQuery_reads_format.1, hflaw]

end JobBoard.Filter
