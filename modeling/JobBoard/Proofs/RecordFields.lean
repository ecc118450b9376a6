import JobBoard.Job.Dashboard
import JobBoard.Job.Detail
import JobBoard.Job.Page
import Mathlib.Data.List.Perm.Basic

/-!
What is read of each kind of record, field by field. A record depends on its fields by name only: neither their order
nor, for the fields that may be null, the difference between a null and a missing one counts.
-/

namespace JobBoard

namespace Json.Fields

variable {fs gs : Fields} {name : String} {t : Tree} {α : Type} {read : Tree → Option α}

theorem get?_cons (n name : String) (t : Tree) (fs : Fields) :
    get? ((n, t) :: fs) name = if name = n then some t else get? fs name := by
  rw [get?, List.lookup_cons]
  by_cases h : name = n
  · rw [if_pos h, h, beq_self_eq_true]
  · rw [if_neg h, beq_eq_false_iff_ne.2 h]
    rfl

theorem get?_of_not_mem (h : name ∉ fs.map Prod.fst) : fs.get? name = none := by
  induction fs with
  | nil => rfl
  | cons p fs ih =>
    rw [List.map_cons, List.mem_cons, not_or] at h
    rw [get?_cons, if_neg h.1, ih h.2]

theorem get?_of_mem (hn : (fs.map Prod.fst).Nodup) (h : (name, t) ∈ fs) : fs.get? name = some t := by
  induction fs with
  | nil => cases h
  | cons p fs ih =>
    obtain ⟨hp, hfs⟩ := List.nodup_cons.1 hn
    rw [get?_cons]
    rcases List.mem_cons.1 h with rfl | h
    · rw [if_pos rfl]
    · rw [if_neg, ih hfs h]
      rintro rfl
      exact hp (List.mem_map.2 ⟨_, h, rfl⟩)

def named (fs : Fields) : List (Option String × Tree) := fs.map fun p => (some p.1, p.2)

theorem known_named {canonical : String → Option String} (hn : (fs.map Prod.fst).Nodup)
    (h : ∀ name ∈ fs.map Prod.fst, canonical name = some name) : known canonical (named fs) = some fs := by
  induction fs with
  | nil => rfl
  | cons p fs ih =>
    rw [List.map_cons] at hn h
    obtain ⟨hp, hfs⟩ := List.nodup_cons.1 hn
    obtain ⟨hname, hnames⟩ := List.forall_mem_cons.1 h
    have hany : (fs.any fun q => q.1 == p.1) = false := by
      rw [List.any_eq_false]
      intro q hq he
      exact hp (List.mem_map.2 ⟨q, hq, beq_iff_eq.1 he⟩)
    rw [named, List.map_cons, known, hname, ← named, ih hfs hnames]
    dsimp only
    rw [hany, if_neg Bool.false_ne_true]

theorem ofRecord_named {order : List String} (hn : (fs.map Prod.fst).Nodup)
    (h : ∀ name ∈ fs.map Prod.fst, name ∈ order) : ofRecord order (.record (named fs)) = some fs := by
  refine known_named hn ?_
  intro name hname
  rw [if_pos (List.contains_iff_mem.2 (h name hname))]

theorem optional_eq : fs.optional name read =
    match (fs.get? name).getD .null with
    | .null => some none
    | t => (read t).map some := by
  unfold optional
  rcases fs.get? name with - | t
  · rfl
  · cases t <;> rfl

theorem orNull_eq {missing : α} : fs.orNull name missing read =
    match (fs.get? name).getD .null with
    | .null => some missing
    | t => read t := by
  unfold orNull
  rcases fs.get? name with - | t
  · rfl
  · cases t <;> rfl

/-- The same fields, except that one may be missing here and null there; those with the given names are the same. -/
structure Alike (solid : List String) (fs gs : Fields) : Prop where
  same : ∀ name ∈ solid, fs.get? name = gs.get? name
  alike : ∀ name, (fs.get? name).getD .null = (gs.get? name).getD .null

namespace Alike

variable {solid : List String}

theorem required (h : Alike solid fs gs) (hname : name ∈ solid) : fs.required name read = gs.required name read := by
  rw [Fields.required, Fields.required, h.same name hname]

theorem orElse (h : Alike solid fs gs) (hname : name ∈ solid) {missing : α} :
    fs.orElse name missing read = gs.orElse name missing read := by
  rw [Fields.orElse, Fields.orElse, h.same name hname]

theorem optional (h : Alike solid fs gs) : fs.optional name read = gs.optional name read := by
  rw [optional_eq, optional_eq, h.alike name]

theorem orNull (h : Alike solid fs gs) {missing : α} : fs.orNull name missing read = gs.orNull name missing read := by
  rw [orNull_eq, orNull_eq, h.alike name]

end Alike

end Json.Fields

open Json

namespace Job

variable {fs gs : Fields} {t : Tree} {j : Job}

structure IsReadFrom (j : Job) (fs : Fields) : Prop where
  id : fs.required "id" Tree.int64? = some j.id
  messageId : fs.optional "message_id" Tree.text? = some j.messageId
  status : fs.orNull "status" .unknown Tree.status? = some j.status
  priority : fs.orNull "priority" 0 Tree.int32? = some j.priority
  retryCount : fs.orNull "retry_count" 0 Tree.int32? = some j.retryCount
  needsReview : fs.orNull "requires_manual_review" false Tree.bool? = some j.needsReview
  reviewReason : fs.optional "manual_review_reason" Tree.text? = some j.reviewReason
  decisionReason : fs.optional "decision_reason" Tree.text? = some j.decisionReason
  finalMethod : fs.optional "final_method" Tree.text? = some j.finalMethod
  nextRetryAt : fs.optional "next_retry_at" Tree.instant? = some j.nextRetryAt
  createdAt : fs.optional "created_at" Tree.instant? = some j.createdAt
  updatedAt : fs.optional "updated_at" Tree.instant? = some j.updatedAt

theorem ofTree_eq_some_iff : ofTree t = some j ↔ ∃ fs, Fields.ofRecord fieldNames t = some fs ∧ j.IsReadFrom fs := by
  unfold ofTree
  constructor
  · intro h
    -- Field after field: all of them at once are too many for a rewriting.
    obtain ⟨fs, hfs, h⟩ := Option.bind_eq_some_iff.1 h
    obtain ⟨_, h₁, h⟩ := Option.bind_eq_some_iff.1 h
    obtain ⟨_, h₂, h⟩ := Option.bind_eq_some_iff.1 h
    obtain ⟨_, h₃, h⟩ := Option.bind_eq_some_iff.1 h
    obtain ⟨_, h₄, h⟩ := Option.bind_eq_some_iff.1 h
    obtain ⟨_, h₅, h⟩ := Option.bind_eq_some_iff.1 h
    obtain ⟨_, h₆, h⟩ := Option.bind_eq_some_iff.1 h
    obtain ⟨_, h₇, h⟩ := Option.bind_eq_some_iff.1 h
    obtain ⟨_, h₈, h⟩ := Option.bind_eq_some_iff.1 h
    obtain ⟨_, h₉, h⟩ := Option.bind_eq_some_iff.1 h
    obtain ⟨_, h₁₀, h⟩ := Option.bind_eq_some_iff.1 h
    obtain ⟨_, h₁₁, h⟩ := Option.bind_eq_some_iff.1 h
    obtain ⟨_, h₁₂, h⟩ := Option.bind_eq_some_iff.1 h
    cases h
    exact ⟨fs, hfs, h₁, h₂, h₃, h₄, h₅, h₆, h₇, h₈, h₉, h₁₀, h₁₁, h₁₂⟩
  · rintro ⟨fs, hfs, h₁, h₂, h₃, h₄, h₅, h₆, h₇, h₈, h₉, h₁₀, h₁₁, h₁₂⟩
    simp only [Option.bind_eq_bind, hfs, h₁, h₂, h₃, h₄, h₅, h₆, h₇, h₈, h₉, h₁₀, h₁₁, h₁₂, Option.bind_some]

def solidNames : List String := ["id"]

theorem IsReadFrom.of_alike (h : j.IsReadFrom fs) (ha : Fields.Alike solidNames fs gs) : j.IsReadFrom gs where
  id := (ha.required (by decide)).symm.trans h.id
  messageId := ha.optional.symm.trans h.messageId
  status := ha.orNull.symm.trans h.status
  priority := ha.orNull.symm.trans h.priority
  retryCount := ha.orNull.symm.trans h.retryCount
  needsReview := ha.orNull.symm.trans h.needsReview
  reviewReason := ha.optional.symm.trans h.reviewReason
  decisionReason := ha.optional.symm.trans h.decisionReason
  finalMethod := ha.optional.symm.trans h.finalMethod
  nextRetryAt := ha.optional.symm.trans h.nextRetryAt
  createdAt := ha.optional.symm.trans h.createdAt
  updatedAt := ha.optional.symm.trans h.updatedAt

end Job

namespace StatusCounts

variable {fs gs : Fields} {t : Tree} {c : StatusCounts}

structure IsReadFrom (c : StatusCounts) (fs : Fields) : Prop where
  pending : fs.orElse "pending" 0 Tree.int64? = some c.pending
  processing : fs.orElse "processing" 0 Tree.int64? = some c.processing
  completed : fs.orElse "completed" 0 Tree.int64? = some c.completed

theorem ofTree_eq_some_iff : ofTree t = some c ↔ ∃ fs, Fields.ofRecord fieldNames t = some fs ∧ c.IsReadFrom fs := by
  unfold ofTree
  constructor
  · intro h
    simp only [Option.bind_eq_bind, Option.bind_eq_some_iff] at h
    obtain ⟨fs, hfs, _, h₁, _, h₂, _, h₃, he⟩ := h
    cases he
    exact ⟨fs, hfs, h₁, h₂, h₃⟩
  · rintro ⟨fs, hfs, h₁, h₂, h₃⟩
    simp only [Option.bind_eq_bind, hfs, h₁, h₂, h₃, Option.bind_some]

def solidNames : List String := fieldNames

theorem IsReadFrom.of_alike (h : c.IsReadFrom fs) (ha : Fields.Alike solidNames fs gs) : c.IsReadFrom gs where
  pending := (ha.orElse (by decide)).symm.trans h.pending
  processing := (ha.orElse (by decide)).symm.trans h.processing
  completed := (ha.orElse (by decide)).symm.trans h.completed

end StatusCounts

namespace Dashboard

variable {fs gs : Fields} {t : Tree} {d : Dashboard}

structure IsReadFrom (d : Dashboard) (fs : Fields) : Prop where
  statusCounts : fs.orElse "status_counts" {} StatusCounts.ofTree = some d.statusCounts
  reviewCount : fs.orElse "manual_review_count" 0 Tree.int64? = some d.reviewCount
  errorCount : fs.orElse "error_count" 0 Tree.int64? = some d.errorCount
  staleCount : fs.orElse "stale_processing_count" 0 Tree.int64? = some d.staleCount
  updatedAt : fs.optional "updated_at" Tree.instant? = some d.updatedAt

theorem ofTree_eq_some_iff : ofTree t = some d ↔ ∃ fs, Fields.ofRecord fieldNames t = some fs ∧ d.IsReadFrom fs := by
  unfold ofTree
  constructor
  · intro h
    simp only [Option.bind_eq_bind, Option.bind_eq_some_iff] at h
    obtain ⟨fs, hfs, _, h₁, _, h₂, _, h₃, _, h₄, _, h₅, he⟩ := h
    cases he
    exact ⟨fs, hfs, h₁, h₂, h₃, h₄, h₅⟩
  · rintro ⟨fs, hfs, h₁, h₂, h₃, h₄, h₅⟩
    simp only [Option.bind_eq_bind, hfs, h₁, h₂, h₃, h₄, h₅, Option.bind_some]

/-- The fields that cannot be null: all but the time of the update. -/
def solidNames : List String := ["status_counts", "manual_review_count", "error_count", "stale_processing_count"]

theorem IsReadFrom.of_alike (h : d.IsReadFrom fs) (ha : Fields.Alike solidNames fs gs) : d.IsReadFrom gs where
  statusCounts := (ha.orElse (by decide)).symm.trans h.statusCounts
  reviewCount := (ha.orElse (by decide)).symm.trans h.reviewCount
  errorCount := (ha.orElse (by decide)).symm.trans h.errorCount
  staleCount := (ha.orElse (by decide)).symm.trans h.staleCount
  updatedAt := ha.optional.symm.trans h.updatedAt

end Dashboard

namespace ListAnswer

variable {fs gs : Fields} {t : Tree} {a : ListAnswer}

/-- What the fields of a record say of the answer to a list request. -/
structure IsReadFrom (a : ListAnswer) (fs : Fields) : Prop where
  items : fs.orElse "items" [] jobs? = some a.items
  limit : fs.optional "limit" Tree.word64? = some a.limit
  offset : fs.optional "offset" Tree.word64? = some a.offset
  hasMore : fs.optional "has_more" Tree.bool? = some a.hasMore
  total : fs.optional "total" Tree.word64? = some a.total

theorem ofTree_eq_some_iff : ofTree t = some a ↔ ∃ fs, Fields.ofRecord fieldNames t = some fs ∧ a.IsReadFrom fs := by
  unfold ofTree
  constructor
  · intro h
    simp only [Option.bind_eq_bind, Option.bind_eq_some_iff] at h
    obtain ⟨fs, hfs, _, h₁, _, h₂, _, h₃, _, h₄, _, h₅, he⟩ := h
    cases he
    exact ⟨fs, hfs, h₁, h₂, h₃, h₄, h₅⟩
  · rintro ⟨fs, hfs, h₁, h₂, h₃, h₄, h₅⟩
    simp only [Option.bind_eq_bind, hfs, h₁, h₂, h₃, h₄, h₅, Option.bind_some]

def solidNames : List String := ["items"]

theorem IsReadFrom.of_alike (h : a.IsReadFrom fs) (ha : Fields.Alike solidNames fs gs) : a.IsReadFrom gs where
  items := (ha.orElse (by decide)).symm.trans h.items
  limit := ha.optional.symm.trans h.limit
  offset := ha.optional.symm.trans h.offset
  hasMore := ha.optional.symm.trans h.hasMore
  total := ha.optional.symm.trans h.total

end ListAnswer

namespace Detail

variable {fs gs : Fields} {t : Tree} {d : Detail}

/-- What the fields of a record say of a job and what its processing left behind. -/
structure IsReadFrom (d : Detail) (fs : Fields) : Prop where
  job : fs.required "job" Job.ofTree = some d.job
  partialFields : fs.optional "partial_fields" (Value.ofTree (maxNesting - 1)) = some d.partialFields
  lastError : fs.optional "last_error" Tree.text? = some d.lastError
  latencyMs : fs.optional "llm_latency_ms" Tree.int64? = some d.latencyMs
  startedAt : fs.optional "processing_started_at" Tree.instant? = some d.startedAt
  completedAt : fs.optional "completed_at" Tree.instant? = some d.completedAt
  sourcePreview : fs.optional "source_preview" Tree.text? = some d.sourcePreview

theorem ofTree_eq_some_iff : ofTree t = some d ↔ ∃ fs, Fields.ofRecord fieldNames t = some fs ∧ d.IsReadFrom fs := by
  unfold ofTree
  constructor
  · intro h
    simp only [Option.bind_eq_bind, Option.bind_eq_some_iff] at h
    obtain ⟨fs, hfs, _, h₁, _, h₂, _, h₃, _, h₄, _, h₅, _, h₆, _, h₇, he⟩ := h
    cases he
    exact ⟨fs, hfs, h₁, h₂, h₃, h₄, h₅, h₆, h₇⟩
  · rintro ⟨fs, hfs, h₁, h₂, h₃, h₄, h₅, h₆, h₇⟩
    simp only [Option.bind_eq_bind, hfs, h₁, h₂, h₃, h₄, h₅, h₆, h₇, Option.bind_some]

def solidNames : List String := ["job"]

theorem IsReadFrom.of_alike (h : d.IsReadFrom fs) (ha : Fields.Alike solidNames fs gs) : d.IsReadFrom gs where
  job := (ha.required (by decide)).symm.trans h.job
  partialFields := ha.optional.symm.trans h.partialFields
  lastError := ha.optional.symm.trans h.lastError
  latencyMs := ha.optional.symm.trans h.latencyMs
  startedAt := ha.optional.symm.trans h.startedAt
  completedAt := ha.optional.symm.trans h.completedAt
  sourcePreview := ha.optional.symm.trans h.sourcePreview

end Detail

end JobBoard
