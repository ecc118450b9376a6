import JobBoard.Proofs.InstantText
import JobBoard.Proofs.JsonText
import JobBoard.Proofs.RecordFields

/-!
Records that are written and read again. A record that has been read holds numbers of the types of its fields and points
of time that can be written; what is written of it, on one line or indented, in the order of its fields or in that of
their names, is read as the same record.
-/

namespace JobBoard

open Json

namespace Json

namespace Tree

variable {low high n : Int} {t : Tree}

theorem ofNumeral_ofInt (h : -9223372036854775808 ≤ n ∧ n < 18446744073709551616) :
    Number.ofNumeral (.ofInt n) = some (.int n) := by
  unfold Number.ofNumeral Numeral.ofInt
  dsimp only
  rw [Decimal.ofDigits_digits]
  by_cases hn : n < 0
  · have hmagnitude : (n.natAbs != 0 && decide (n.natAbs ≤ 1 <<< 63)) = true := by
      rw [Bool.and_eq_true, bne_iff_ne, decide_eq_true_eq, Nat.shiftLeft_eq]
      omega
    have hvalue : -(n.natAbs : Int) = n := by omega
    rw [decide_eq_true hn, if_pos rfl, if_pos hmagnitude, hvalue]
  · have hlt : n.natAbs < 1 <<< 64 := by
      rw [Nat.shiftLeft_eq]
      omega
    have hvalue : (n.natAbs : Int) = n := by omega
    rw [decide_eq_false hn, if_neg Bool.false_ne_true, if_pos hlt, hvalue]

theorem int?_ofInt (hlow : -9223372036854775808 ≤ low) (hhigh : high < 18446744073709551616)
    (h : low ≤ n ∧ n ≤ high) : int? low high (.number (.ofInt n)) = some n := by
  unfold int?
  dsimp only
  rw [ofNumeral_ofInt (by omega)]
  dsimp only
  rw [if_pos h]

end Tree

namespace Fields

variable {fs : Fields} {name : String} {n : Int}

theorem optional_text {s : Option String} (h : fs.get? name = some (Job.optionalText s).toTree) :
    fs.optional name Tree.text? = some s := by
  rw [optional, h]
  cases s <;> rfl

theorem optional_instant {i : Option Instant} (hi : ∀ t, i = some t → t.IsReadable)
    (h : fs.get? name = some (Job.optionalInstant i).toTree) : fs.optional name Tree.instant? = some i := by
  rw [optional, h]
  cases i with
  | none => rfl
  | some t =>
    have ht : Tree.instant? (.text (some t.text)) = some t := by
      rw [Tree.instant?, Tree.text?, Option.bind_some, (hi t rfl).ofText_text]
    change (Tree.instant? (.text (some t.text))).map some = _
    rw [ht, Option.map_some]

theorem orNull_int32 (hn : -2147483648 ≤ n ∧ n ≤ 2147483647) {missing : Int}
    (h : fs.get? name = some (Value.int n).toTree) : fs.orNull name missing Tree.int32? = some n := by
  rw [orNull, h]
  exact Tree.int?_ofInt (by decide) (by decide) hn

theorem orElse_int64 (hn : -9223372036854775808 ≤ n ∧ n ≤ 9223372036854775807) {missing : Int}
    (h : fs.get? name = some (Value.int n).toTree) : fs.orElse name missing Tree.int64? = some n := by
  rw [orElse, h]
  exact Tree.int?_ofInt (by decide) (by decide) hn

end Fields

namespace Value

variable {vs ws : List (String × Value)}

def trees (vs : List (String × Value)) : Fields := vs.map fun p => (p.1, p.2.toTree)

theorem toFields_eq (vs : List (String × Value)) : toFields vs = (trees vs).named := by
  induction vs with
  | nil => rfl
  | cons p vs ih => rw [toFields, ih]; rfl

theorem trees_names (vs : List (String × Value)) : (trees vs).map Prod.fst = vs.map Prod.fst := by
  rw [trees, List.map_map]
  rfl

theorem exists_ofRecord (order : List String) (hn : (vs.map Prod.fst).Nodup)
    (horder : ∀ name ∈ vs.map Prod.fst, name ∈ order) (hperm : ws.Perm vs) :
    ∃ fs, Fields.ofRecord order (record ws).toTree = some fs ∧
      ∀ p ∈ vs, fs.get? p.1 = some p.2.toTree := by
  have hnames := hperm.map Prod.fst
  have hn' : ((trees ws).map Prod.fst).Nodup := by
    rw [trees_names]
    exact hnames.nodup_iff.2 hn
  refine ⟨trees ws, ?_, ?_⟩
  · rw [toTree, toFields_eq]
    refine Fields.ofRecord_named hn' ?_
    intro name hname
    rw [trees_names] at hname
    exact horder name (hnames.mem_iff.1 hname)
  · intro p hp
    exact Fields.get?_of_mem hn' (List.mem_map.2 ⟨p, hperm.mem_iff.2 hp, rfl⟩)

theorem sortedFields_of_leaves (h : ∀ p ∈ vs, p.2.sorted = p.2) : sortedFields vs = vs := by
  induction vs with
  | nil => rfl
  | cons p vs ih =>
    obtain ⟨hp, hvs⟩ := List.forall_mem_cons.1 h
    rw [sortedFields, hp, ih hvs]

theorem sorted_optionalText (s : Option String) : (Job.optionalText s).sorted = Job.optionalText s := by
  cases s <;> rfl

theorem sorted_optionalInstant (t : Option Instant) : (Job.optionalInstant t).sorted = Job.optionalInstant t := by
  cases t <;> rfl

theorem isExact_optionalText (s : Option String) : (Job.optionalText s).isExact = true := by
  cases s <;> rfl

theorem isExact_optionalInstant (t : Option Instant) : (Job.optionalInstant t).isExact = true := by
  cases t <;> rfl

/-- The texts that are written for a value: on one line or indented, as it is or with its fields in order. -/
def writtenTexts (v : Value) : List String := [v.compact, v.pretty, v.sorted.compact, v.sorted.pretty]

theorem ofText_of_mem_writtenTexts {v : Value} (h : v.isExact = true) {s : String} (hs : s ∈ v.writtenTexts) :
    Tree.ofText s = some v.toTree ∨ Tree.ofText s = some v.sorted.toTree := by
  simp only [writtenTexts, List.mem_cons, List.not_mem_nil, or_false] at hs
  rcases hs with hs | hs | hs | hs
  · exact .inl (ofText_written h (.inl hs))
  · exact .inl (ofText_written h (.inr hs))
  · exact .inr (ofText_written (isExact_sorted v h) (.inl hs))
  · exact .inr (ofText_written (isExact_sorted v h) (.inr hs))

end Value

end Json

open Value

namespace Job

variable {fs : Fields} {j : Job}

structure IsReadable (j : Job) : Prop where
  id : -9223372036854775808 ≤ j.id ∧ j.id ≤ 9223372036854775807
  priority : -2147483648 ≤ j.priority ∧ j.priority ≤ 2147483647
  retryCount : -2147483648 ≤ j.retryCount ∧ j.retryCount ≤ 2147483647
  nextRetryAt : ∀ t, j.nextRetryAt = some t → t.IsReadable
  createdAt : ∀ t, j.createdAt = some t → t.IsReadable
  updatedAt : ∀ t, j.updatedAt = some t → t.IsReadable

theorem IsReadable.isReadFrom (h : j.IsReadable) (hfs : ∀ p ∈ j.writtenFields, fs.get? p.1 = some p.2.toTree) :
    j.IsReadFrom fs := by
  simp only [writtenFields, List.forall_mem_cons] at hfs
  obtain ⟨h₁, h₂, h₃, h₄, h₅, h₆, h₇, h₈, h₉, h₁₀, h₁₁, h₁₂, -⟩ := hfs
  refine ⟨?_, Fields.optional_text h₂, ?_, Fields.orNull_int32 h.priority h₄, Fields.orNull_int32 h.retryCount h₅, ?_,
    Fields.optional_text h₇, Fields.optional_text h₈, Fields.optional_text h₉,
    Fields.optional_instant h.nextRetryAt h₁₀, Fields.optional_instant h.createdAt h₁₁,
    Fields.optional_instant h.updatedAt h₁₂⟩
  · rw [Fields.required, h₁]
    exact Tree.int?_ofInt (by decide) (by decide) h.id
  · rw [Fields.orNull, h₃]
    exact congrArg some (Status.ofName_name j.status)
  · rw [Fields.orNull, h₆]
    rfl

theorem writtenFields_nodup (j : Job) : (j.writtenFields.map Prod.fst).Nodup := by
  change fieldNames.Nodup
  decide

theorem isExact_toValue (j : Job) : j.toValue.isExact = true := by
  refine fieldsAreExact_iff.2 ?_
  simp only [writtenFields, List.forall_mem_cons]
  exact ⟨rfl, isExact_optionalText _, rfl, rfl, rfl, rfl, isExact_optionalText _, isExact_optionalText _,
    isExact_optionalText _, isExact_optionalInstant _, isExact_optionalInstant _, isExact_optionalInstant _,
    fun _ hp => nomatch hp⟩

theorem sortedFields_writtenFields (j : Job) : sortedFields j.writtenFields = j.writtenFields := by
  refine sortedFields_of_leaves ?_
  simp only [writtenFields, List.forall_mem_cons]
  exact ⟨rfl, sorted_optionalText _, rfl, rfl, rfl, rfl, sorted_optionalText _, sorted_optionalText _,
    sorted_optionalText _, sorted_optionalInstant _, sorted_optionalInstant _, sorted_optionalInstant _,
    fun _ hp => nomatch hp⟩

theorem IsReadable.ofTree_written (h : j.IsReadable) {ws : List (String × Value)} (hperm : ws.Perm j.writtenFields) :
    ofTree (Value.record ws).toTree = some j := by
  obtain ⟨fs, hfs, hget⟩ := exists_ofRecord fieldNames j.writtenFields_nodup (fun _ hn => hn) hperm
  exact ofTree_eq_some_iff.2 ⟨fs, hfs, h.isReadFrom hget⟩

theorem IsReadable.ofText_written (h : j.IsReadable) {s : String} (hs : s ∈ j.toValue.writtenTexts) :
    ofText s = some j := by
  rcases ofText_of_mem_writtenTexts j.isExact_toValue hs with hs | hs
  · rw [ofText, hs, Option.bind_some, toValue]
    exact h.ofTree_written (.refl _)
  · rw [ofText, hs, Option.bind_some, toValue, sorted, sortedFields_writtenFields]
    exact h.ofTree_written (sortFields_perm j.writtenFields_nodup)

end Job

namespace StatusCounts

variable {fs : Fields} {c : StatusCounts}

structure IsReadable (c : StatusCounts) : Prop where
  pending : -9223372036854775808 ≤ c.pending ∧ c.pending ≤ 9223372036854775807
  processing : -9223372036854775808 ≤ c.processing ∧ c.processing ≤ 9223372036854775807
  completed : -9223372036854775808 ≤ c.completed ∧ c.completed ≤ 9223372036854775807

theorem writtenFields_nodup (c : StatusCounts) : (c.writtenFields.map Prod.fst).Nodup := by
  change fieldNames.Nodup
  decide

theorem IsReadable.isReadFrom (h : c.IsReadable) (hfs : ∀ p ∈ c.writtenFields, fs.get? p.1 = some p.2.toTree) :
    c.IsReadFrom fs := by
  simp only [writtenFields, List.forall_mem_cons] at hfs
  obtain ⟨h₁, h₂, h₃, -⟩ := hfs
  exact ⟨Fields.orElse_int64 h.pending h₁, Fields.orElse_int64 h.processing h₂, Fields.orElse_int64 h.completed h₃⟩

theorem IsReadable.ofTree_written (h : c.IsReadable) {v : Value} (hv : v = c.toValue ∨ v = c.toValue.sorted) :
    ofTree v.toTree = some c := by
  have hperm : ∃ ws, v = .record ws ∧ ws.Perm c.writtenFields := by
    rcases hv with rfl | rfl
    · exact ⟨c.writtenFields, rfl, .refl _⟩
    · exact ⟨sortFields c.writtenFields, rfl, sortFields_perm c.writtenFields_nodup⟩
  obtain ⟨ws, rfl, hperm⟩ := hperm
  obtain ⟨fs, hfs, hget⟩ := exists_ofRecord fieldNames c.writtenFields_nodup (fun _ hn => hn) hperm
  exact ofTree_eq_some_iff.2 ⟨fs, hfs, h.isReadFrom hget⟩

end StatusCounts

namespace Dashboard

variable {fs : Fields} {d : Dashboard} {counts : Value}

structure IsReadable (d : Dashboard) : Prop where
  statusCounts : d.statusCounts.IsReadable
  reviewCount : -9223372036854775808 ≤ d.reviewCount ∧ d.reviewCount ≤ 9223372036854775807
  errorCount : -9223372036854775808 ≤ d.errorCount ∧ d.errorCount ≤ 9223372036854775807
  staleCount : -9223372036854775808 ≤ d.staleCount ∧ d.staleCount ≤ 9223372036854775807
  updatedAt : ∀ t, d.updatedAt = some t → t.IsReadable

theorem writtenFields_nodup (d : Dashboard) (counts : Value) : ((d.writtenFields counts).map Prod.fst).Nodup := by
  change fieldNames.Nodup
  decide

theorem sortedFields_writtenFields (d : Dashboard) (counts : Value) :
    sortedFields (d.writtenFields counts) = d.writtenFields counts.sorted := by
  simp only [writtenFields, sortedFields, sorted_optionalInstant]
  rfl

theorem isExact_toValue (d : Dashboard) : d.toValue.isExact = true := by
  refine fieldsAreExact_iff.2 ?_
  simp only [writtenFields, List.forall_mem_cons]
  exact ⟨rfl, rfl, rfl, rfl, isExact_optionalInstant _, fun _ hp => nomatch hp⟩

theorem IsReadable.isReadFrom (h : d.IsReadable)
    (hcounts : counts = d.statusCounts.toValue ∨ counts = d.statusCounts.toValue.sorted)
    (hfs : ∀ p ∈ d.writtenFields counts, fs.get? p.1 = some p.2.toTree) : d.IsReadFrom fs := by
  simp only [writtenFields, List.forall_mem_cons] at hfs
  obtain ⟨h₁, h₂, h₃, h₄, h₅, -⟩ := hfs
  refine ⟨?_, Fields.orElse_int64 h.reviewCount h₂, Fields.orElse_int64 h.errorCount h₃,
    Fields.orElse_int64 h.staleCount h₄, Fields.optional_instant h.updatedAt h₅⟩
  rw [Fields.orElse, h₁]
  exact h.statusCounts.ofTree_written hcounts

theorem IsReadable.ofTree_written (h : d.IsReadable) {ws : List (String × Value)}
    (hcounts : counts = d.statusCounts.toValue ∨ counts = d.statusCounts.toValue.sorted)
    (hperm : ws.Perm (d.writtenFields counts)) : ofTree (Value.record ws).toTree = some d := by
  obtain ⟨fs, hfs, hget⟩ :=
    exists_ofRecord fieldNames (d.writtenFields_nodup counts) (fun _ hn => hn) hperm
  exact ofTree_eq_some_iff.2 ⟨fs, hfs, h.isReadFrom hcounts hget⟩

theorem IsReadable.ofText_written (h : d.IsReadable) {s : String} (hs : s ∈ d.toValue.writtenTexts) :
    ofText s = some d := by
  rcases ofText_of_mem_writtenTexts d.isExact_toValue hs with hs | hs
  · rw [ofText, hs, Option.bind_some, toValue]
    exact h.ofTree_written (.inl rfl) (.refl _)
  · rw [ofText, hs, Option.bind_some, toValue, sorted, sortedFields_writtenFields]
    exact h.ofTree_written (.inr rfl) (sortFields_perm (d.writtenFields_nodup _))

end Dashboard

end JobBoard
