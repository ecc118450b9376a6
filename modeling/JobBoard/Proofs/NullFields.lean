import JobBoard.Proofs.JsonInsertion
import JobBoard.Proofs.RecordFields

/-!
Fields that are null. Adding a field that is null to a record that has been read, at the top or in a record inside it,
changes nothing where the field's reader takes null for a missing field; where it does not, the whole text cannot be
read any more. The counts refuse null in all their fields but one, and so does the list of items of an answer.
-/

namespace JobBoard

open Json

namespace Json.Fields

variable {before after raw : List (Option String × Tree)} {order : List String} {fs gs : Fields} {name : String}
  {t u : Tree} {α : Type} {read : Tree → Option α}

/-- The fields of `gs` are those of `fs`, with the given value under the name. -/
def Sets (name : String) (t : Tree) (fs gs : Fields) : Prop :=
  ∀ n, gs.get? n = if n = name then some t else fs.get? n

theorem sets_middle (h : name ∉ (fs ++ gs).map Prod.fst) (t : Tree) :
    Sets name t (fs ++ gs) (fs ++ (name, t) :: gs) := by
  induction fs with
  | nil =>
    intro n
    exact get?_cons name n t gs
  | cons p fs ih =>
    rw [List.cons_append, List.map_cons, List.mem_cons, not_or] at h
    intro n
    rw [List.cons_append, List.cons_append, get?_cons, get?_cons, ih h.2 n]
    by_cases hn : n = p.1
    · rw [if_pos hn, if_pos hn, if_neg]
      rintro rfl
      exact h.1 hn
    · rw [if_neg hn, if_neg hn]

/-- The known fields of a record whose fields have one name each. -/
def knownOf (order : List String) : List (Option String × Tree) → Option Fields :=
  known fun name => if order.contains name then some name else none

theorem knownOf_cons {m : String} (hm : m ∈ order) (t : Tree) (raw : List (Option String × Tree)) :
    knownOf order ((some m, t) :: raw) =
      (knownOf order raw).bind fun fs => if m ∈ fs.map Prod.fst then none else some ((m, t) :: fs) := by
  unfold knownOf
  rw [known, if_pos (List.contains_iff_mem.2 hm)]
  rcases known _ raw with - | fs
  · rfl
  · have hany : (fs.any (·.1 == m)) = true ↔ m ∈ fs.map Prod.fst := by
      simp only [List.any_eq_true, beq_iff_eq, List.mem_map]
    by_cases h : m ∈ fs.map Prod.fst
    · simp only [Option.bind_some, if_pos h, if_pos (hany.2 h)]
    · simp only [Option.bind_some, if_neg h, if_neg (mt hany.1 h)]

theorem knownOf_cons_of_not_mem {m : String} (hm : m ∉ order) (t : Tree) (raw : List (Option String × Tree)) :
    knownOf order ((some m, t) :: raw) = knownOf order raw := by
  unfold knownOf
  rw [known, if_neg (mt List.contains_iff_mem.1 hm)]
  cases known _ raw <;> rfl

theorem knownOf_cons_eq_some_iff {m : String} (hm : m ∈ order) :
    knownOf order ((some m, t) :: raw) = some gs ↔
      ∃ fs, knownOf order raw = some fs ∧ m ∉ fs.map Prod.fst ∧ gs = (m, t) :: fs := by
  rw [knownOf_cons hm, Option.bind_eq_some_iff]
  constructor
  · rintro ⟨fs, hfs, h⟩
    split at h
    · cases h
    · rename_i hfresh
      exact ⟨fs, hfs, hfresh, (Option.some.inj h).symm⟩
  · rintro ⟨fs, hfs, hfresh, rfl⟩
    exact ⟨fs, hfs, if_neg hfresh⟩

theorem mem_of_knownOf (h : knownOf order raw = some fs) {p : String × Tree} (hp : p ∈ fs) : (some p.1, p.2) ∈ raw := by
  induction raw generalizing fs with
  | nil =>
    cases h
    cases hp
  | cons f raw ih =>
    obtain ⟨- | m, t⟩ := f
    · cases h
    · by_cases hm : m ∈ order
      · obtain ⟨fs', hfs', -, rfl⟩ := (knownOf_cons_eq_some_iff hm).1 h
        rcases List.mem_cons.1 hp with rfl | hp
        · exact List.mem_cons_self
        · exact List.mem_cons_of_mem _ (ih hfs' hp)
      · rw [knownOf_cons_of_not_mem hm] at h
        exact List.mem_cons_of_mem _ (ih h hp)

theorem knownOf_insert (hname : name ∈ order) (h : knownOf order (before ++ after) = some fs)
    (hfresh : name ∉ fs.map Prod.fst) :
    ∃ fs₁ fs₂, fs = fs₁ ++ fs₂ ∧
      ∀ u, knownOf order (before ++ (some name, u) :: after) = some (fs₁ ++ (name, u) :: fs₂) := by
  induction before generalizing fs with
  | nil => exact ⟨[], fs, rfl, fun u => (knownOf_cons_eq_some_iff hname).2 ⟨fs, h, hfresh, rfl⟩⟩
  | cons f before ih =>
    obtain ⟨- | m, t⟩ := f
    · cases h
    · by_cases hm : m ∈ order
      · obtain ⟨fs', hfs', hm', rfl⟩ := (knownOf_cons_eq_some_iff hm).1 h
        rw [List.map_cons, List.mem_cons, not_or] at hfresh
        obtain ⟨fs₁, fs₂, rfl, hinsert⟩ := ih hfs' hfresh.2
        refine ⟨(m, t) :: fs₁, fs₂, rfl, fun u => (knownOf_cons_eq_some_iff hm).2 ⟨_, hinsert u, ?_, rfl⟩⟩
        rw [List.map_append, List.map_cons, List.mem_append, List.mem_cons]
        rw [List.map_append, List.mem_append] at hm'
        rintro (h₁ | h₂ | h₃)
        · exact hm' (.inl h₁)
        · exact hfresh.1 h₂.symm
        · exact hm' (.inr h₃)
      · rw [List.cons_append, knownOf_cons_of_not_mem hm] at h
        obtain ⟨fs₁, fs₂, rfl, hinsert⟩ := ih h hfresh
        refine ⟨fs₁, fs₂, rfl, fun u => ?_⟩
        rw [List.cons_append, knownOf_cons_of_not_mem hm, hinsert u]

theorem knownOf_erase (hname : name ∈ order) (h : knownOf order (before ++ (some name, u) :: after) = some gs) :
    ∃ fs₁ fs₂, gs = fs₁ ++ (name, u) :: fs₂ ∧ knownOf order (before ++ after) = some (fs₁ ++ fs₂) ∧
      name ∉ (fs₁ ++ fs₂).map Prod.fst := by
  induction before generalizing gs with
  | nil =>
    obtain ⟨fs, hfs, hfresh, rfl⟩ := (knownOf_cons_eq_some_iff hname).1 h
    exact ⟨[], fs, rfl, hfs, hfresh⟩
  | cons f before ih =>
    obtain ⟨- | m, t⟩ := f
    · cases h
    · by_cases hm : m ∈ order
      · obtain ⟨gs', hgs', hm', rfl⟩ := (knownOf_cons_eq_some_iff hm).1 h
        obtain ⟨fs₁, fs₂, rfl, hfs, hfresh⟩ := ih hgs'
        rw [List.map_append, List.map_cons, List.mem_append, List.mem_cons, not_or, not_or] at hm'
        refine ⟨(m, t) :: fs₁, fs₂, rfl, (knownOf_cons_eq_some_iff hm).2 ⟨_, hfs, ?_, rfl⟩, ?_⟩
        · rw [List.map_append, List.mem_append, not_or]
          exact ⟨hm'.1, hm'.2.2⟩
        · rw [List.cons_append, List.map_cons, List.mem_cons, not_or]
          exact ⟨fun he => hm'.2.1 he.symm, hfresh⟩
      · rw [List.cons_append, knownOf_cons_of_not_mem hm] at h
        obtain ⟨fs₁, fs₂, rfl, hfs, hfresh⟩ := ih h
        refine ⟨fs₁, fs₂, rfl, ?_, hfresh⟩
        rw [List.cons_append, knownOf_cons_of_not_mem hm, hfs]

theorem ofRecord_insert (hname : name ∈ order) (h : ofRecord order (.record (before ++ after)) = some fs)
    (habsent : ∀ t, (some name, t) ∉ before ++ after) (u : Tree) :
    fs.get? name = none ∧
      ∃ gs, ofRecord order (.record (before ++ (some name, u) :: after)) = some gs ∧ Sets name u fs gs := by
  have hfresh : name ∉ fs.map Prod.fst := by
    intro hmem
    obtain ⟨p, hp, rfl⟩ := List.mem_map.1 hmem
    exact habsent p.2 (mem_of_knownOf h hp)
  refine ⟨get?_of_not_mem hfresh, ?_⟩
  obtain ⟨fs₁, fs₂, rfl, hinsert⟩ := knownOf_insert hname h hfresh
  exact ⟨_, hinsert u, sets_middle hfresh u⟩

theorem ofRecord_change (hname : name ∈ order)
    (h : ofRecord order (.record (before ++ (some name, t) :: after)) = some fs) :
    fs.get? name = some t ∧
      ∀ u, ∃ gs, ofRecord order (.record (before ++ (some name, u) :: after)) = some gs ∧ Sets name u fs gs := by
  -- The field is taken out, and comes back with the other value.
  obtain ⟨fs₁, fs₂, rfl, hfs, hfresh⟩ := knownOf_erase hname h
  have hold := sets_middle hfresh t
  obtain ⟨gs₁, gs₂, he, hinsert⟩ := knownOf_insert hname hfs hfresh
  refine ⟨(hold name).trans (if_pos rfl), fun u => ⟨gs₁ ++ (name, u) :: gs₂, hinsert u, ?_⟩⟩
  intro n
  rw [sets_middle (he ▸ hfresh) u n, ← he]
  by_cases hn : n = name
  · rw [if_pos hn, if_pos hn]
  · rw [if_neg hn, if_neg hn, hold n, if_neg hn]

theorem Sets.alike {solid : List String} (h : Sets name .null fs gs) (hfs : fs.get? name = none)
    (hname : name ∉ solid) : Alike solid fs gs where
  same n hn := by
    rw [h n, if_neg]
    rintro rfl
    exact hname hn
  alike n := by
    rw [h n]
    by_cases hn : n = name
    · rw [if_pos hn, hn, hfs]
      rfl
    · rw [if_neg hn]

theorem orElse_null (h : gs.get? name = some .null) (hread : read .null = none) {missing : α} :
    gs.orElse name missing read = none := by
  rw [orElse, h]
  exact hread

namespace Sets

variable {n : String} {missing : α}

theorem required_self (h : Sets name u fs gs) : gs.required name read = read u := by
  rw [required, h name, if_pos rfl, Option.bind_some]

theorem orElse_self (h : Sets name u fs gs) : gs.orElse name missing read = read u := by
  rw [orElse, h name, if_pos rfl]

theorem orElse_of_ne (h : Sets name u fs gs) (hn : n ≠ name) :
    gs.orElse n missing read = fs.orElse n missing read := by
  rw [orElse, orElse, h n, if_neg hn]

theorem optional_of_ne (h : Sets name u fs gs) (hn : n ≠ name) : gs.optional n read = fs.optional n read := by
  rw [optional, optional, h n, if_neg hn]

end Sets

end Json.Fields

inductive RecordKind where
  | job
  | answer
  | counts
  | dashboard
  | detail

namespace RecordKind

def Record : RecordKind → Type
  | job => Job
  | answer => ListAnswer
  | counts => StatusCounts
  | dashboard => Dashboard
  | detail => Detail

def ofTree : (k : RecordKind) → Tree → Option k.Record
  | job => Job.ofTree
  | answer => ListAnswer.ofTree
  | counts => StatusCounts.ofTree
  | dashboard => Dashboard.ofTree
  | detail => Detail.ofTree

def ofText (k : RecordKind) (s : String) : Option k.Record := (Tree.ofText s).bind k.ofTree

def fieldNames : RecordKind → List String
  | job => Job.fieldNames
  | answer => ListAnswer.fieldNames
  | counts => StatusCounts.fieldNames
  | dashboard => Dashboard.fieldNames
  | detail => Detail.fieldNames

def requiredNames : RecordKind → List String
  | job => ["id"]
  | detail => ["job"]
  | _ => []

def solidNames : RecordKind → List String
  | job => Job.solidNames
  | answer => ListAnswer.solidNames
  | counts => StatusCounts.solidNames
  | dashboard => Dashboard.solidNames
  | detail => Detail.solidNames

def IsReadFrom : (k : RecordKind) → k.Record → Fields → Prop
  | job => Job.IsReadFrom
  | answer => ListAnswer.IsReadFrom
  | counts => StatusCounts.IsReadFrom
  | dashboard => Dashboard.IsReadFrom
  | detail => Detail.IsReadFrom

variable {k : RecordKind} {v : k.Record} {fs gs : Fields} {name : String} {t : Tree}

theorem ofTree_eq_some_iff :
    k.ofTree t = some v ↔ ∃ fs, Fields.ofRecord k.fieldNames t = some fs ∧ k.IsReadFrom v fs := by
  cases k with
  | job => exact Job.ofTree_eq_some_iff
  | answer => exact ListAnswer.ofTree_eq_some_iff
  | counts => exact StatusCounts.ofTree_eq_some_iff
  | dashboard => exact Dashboard.ofTree_eq_some_iff
  | detail => exact Detail.ofTree_eq_some_iff

theorem ofTree_eq_none (hgs : Fields.ofRecord k.fieldNames t = some gs) (h : ∀ v, ¬ k.IsReadFrom v gs) :
    k.ofTree t = none := by
  rw [Option.eq_none_iff_forall_ne_some]
  intro v hv
  obtain ⟨gs', hgs', hread⟩ := ofTree_eq_some_iff.1 hv
  cases hgs.symm.trans hgs'
  exact h v hread

theorem IsReadFrom.of_alike (h : k.IsReadFrom v fs) (ha : Fields.Alike k.solidNames fs gs) : k.IsReadFrom v gs := by
  cases k with
  | job => exact Job.IsReadFrom.of_alike h ha
  | answer => exact ListAnswer.IsReadFrom.of_alike h ha
  | counts => exact StatusCounts.IsReadFrom.of_alike h ha
  | dashboard => exact Dashboard.IsReadFrom.of_alike h ha
  | detail => exact Detail.IsReadFrom.of_alike h ha

theorem not_isReadFrom_null (hname : name ∈ k.solidNames) (hnull : gs.get? name = some .null) :
    ¬ k.IsReadFrom v gs := by
  have hrefused {α : Type} {missing a : α} {read : Tree → Option α} (hread : read .null = none) :
      gs.orElse name missing read ≠ some a := by
    rw [Fields.orElse_null hnull hread]
    exact nofun
  intro h
  cases k with
  | job =>
    obtain rfl := List.mem_singleton.1 hname
    have hid := Job.IsReadFrom.id h
    rw [Fields.required, hnull] at hid
    cases hid
  | answer =>
    obtain rfl := List.mem_singleton.1 hname
    exact hrefused rfl (ListAnswer.IsReadFrom.items h)
  | counts =>
    simp only [solidNames, StatusCounts.solidNames, StatusCounts.fieldNames, List.mem_cons, List.not_mem_nil,
      or_false] at hname
    rcases hname with rfl | rfl | rfl
    · exact hrefused rfl (StatusCounts.IsReadFrom.pending h)
    · exact hrefused rfl (StatusCounts.IsReadFrom.processing h)
    · exact hrefused rfl (StatusCounts.IsReadFrom.completed h)
  | dashboard =>
    simp only [solidNames, Dashboard.solidNames, List.mem_cons, List.not_mem_nil, or_false] at hname
    rcases hname with rfl | rfl | rfl | rfl
    · exact hrefused rfl (Dashboard.IsReadFrom.statusCounts h)
    · exact hrefused rfl (Dashboard.IsReadFrom.reviewCount h)
    · exact hrefused rfl (Dashboard.IsReadFrom.errorCount h)
    · exact hrefused rfl (Dashboard.IsReadFrom.staleCount h)
  | detail =>
    obtain rfl := List.mem_singleton.1 hname
    have hjob := Detail.IsReadFrom.job h
    rw [Fields.required, hnull] at hjob
    cases hjob

end RecordKind

variable {before after : List (Option String × Tree)} {t : Tree}

theorem Dashboard.ofTree_change {d : Dashboard}
    (h : ofTree (.record (before ++ (some "status_counts", t) :: after)) = some d) :
    StatusCounts.ofTree t = some d.statusCounts ∧
      ∀ u, ofTree (.record (before ++ (some "status_counts", u) :: after)) =
        (StatusCounts.ofTree u).map fun c => { d with statusCounts := c } := by
  obtain ⟨fs, hfs, hread⟩ := ofTree_eq_some_iff.1 h
  obtain ⟨hget, hchange⟩ := Fields.ofRecord_change (by decide) hfs
  have hcounts := hread.statusCounts
  rw [Fields.orElse, hget] at hcounts
  refine ⟨hcounts, fun u => ?_⟩
  obtain ⟨gs, hgs, hsets⟩ := hchange u
  rcases hu : StatusCounts.ofTree u with - | c
  · refine RecordKind.ofTree_eq_none (k := .dashboard) hgs ?_
    intro w hw
    cases (hsets.orElse_self.trans hu).symm.trans (Dashboard.IsReadFrom.statusCounts hw)
  · refine ofTree_eq_some_iff.2 ⟨gs, hgs, hsets.orElse_self.trans hu, ?_, ?_, ?_, ?_⟩
    · exact (hsets.orElse_of_ne (by decide)).trans hread.reviewCount
    · exact (hsets.orElse_of_ne (by decide)).trans hread.errorCount
    · exact (hsets.orElse_of_ne (by decide)).trans hread.staleCount
    · exact (hsets.optional_of_ne (by decide)).trans hread.updatedAt

theorem ListAnswer.ofTree_change {a : ListAnswer}
    (h : ofTree (.record (before ++ (some "items", t) :: after)) = some a) :
    jobs? t = some a.items ∧
      ∀ u, ofTree (.record (before ++ (some "items", u) :: after)) =
        (jobs? u).map fun js => { a with items := js } := by
  obtain ⟨fs, hfs, hread⟩ := ofTree_eq_some_iff.1 h
  obtain ⟨hget, hchange⟩ := Fields.ofRecord_change (by decide) hfs
  have hitems := hread.items
  rw [Fields.orElse, hget] at hitems
  refine ⟨hitems, fun u => ?_⟩
  obtain ⟨gs, hgs, hsets⟩ := hchange u
  rcases hu : jobs? u with - | js
  · refine RecordKind.ofTree_eq_none (k := .answer) hgs ?_
    intro w hw
    cases (hsets.orElse_self.trans hu).symm.trans (ListAnswer.IsReadFrom.items hw)
  · refine ofTree_eq_some_iff.2 ⟨gs, hgs, hsets.orElse_self.trans hu, ?_, ?_, ?_, ?_⟩
    · exact (hsets.optional_of_ne (by decide)).trans hread.limit
    · exact (hsets.optional_of_ne (by decide)).trans hread.offset
    · exact (hsets.optional_of_ne (by decide)).trans hread.hasMore
    · exact (hsets.optional_of_ne (by decide)).trans hread.total

theorem Detail.ofTree_change {d : Detail}
    (h : ofTree (.record (before ++ (some "job", t) :: after)) = some d) :
    Job.ofTree t = some d.job ∧
      ∀ u, ofTree (.record (before ++ (some "job", u) :: after)) = (Job.ofTree u).map fun j => { d with job := j } := by
  obtain ⟨fs, hfs, hread⟩ := ofTree_eq_some_iff.1 h
  obtain ⟨hget, hchange⟩ := Fields.ofRecord_change (by decide) hfs
  have hjob := hread.job
  rw [Fields.required, hget, Option.bind_some] at hjob
  refine ⟨hjob, fun u => ?_⟩
  obtain ⟨gs, hgs, hsets⟩ := hchange u
  rcases hu : Job.ofTree u with - | j
  · refine RecordKind.ofTree_eq_none (k := .detail) hgs ?_
    intro w hw
    cases (hsets.required_self.trans hu).symm.trans (Detail.IsReadFrom.job hw)
  · refine ofTree_eq_some_iff.2 ⟨gs, hgs, hsets.required_self.trans hu, ?_, ?_, ?_, ?_, ?_, ?_⟩
    · exact (hsets.optional_of_ne (by decide)).trans hread.partialFields
    · exact (hsets.optional_of_ne (by decide)).trans hread.lastError
    · exact (hsets.optional_of_ne (by decide)).trans hread.latencyMs
    · exact (hsets.optional_of_ne (by decide)).trans hread.startedAt
    · exact (hsets.optional_of_ne (by decide)).trans hread.completedAt
    · exact (hsets.optional_of_ne (by decide)).trans hread.sourcePreview

theorem ListAnswer.jobs?_change {ts us : List Tree} {js : List Job} (h : jobs? (.list (ts ++ t :: us)) = some js) :
    ∃ js₁ j js₂, js = js₁ ++ j :: js₂ ∧ Job.ofTree t = some j ∧
      ∀ u, jobs? (.list (ts ++ u :: us)) = (Job.ofTree u).map fun i => js₁ ++ i :: js₂ := by
  have hjobs (u : Tree) : jobs? (.list (ts ++ u :: us)) = (do
      let js₁ ← ts.mapM Job.ofTree
      let i ← Job.ofTree u
      let js₂ ← us.mapM Job.ofTree
      some (js₁ ++ i :: js₂)) := by
    change (ts ++ u :: us).mapM Job.ofTree = _
    rw [List.mapM_append, List.mapM_cons]
    simp only [Option.bind_eq_bind, Option.bind_assoc, Option.pure_def, Option.bind_some]
  rw [hjobs] at h
  obtain ⟨js₁, h₁, h⟩ := Option.bind_eq_some_iff.1 h
  obtain ⟨j, hj, h⟩ := Option.bind_eq_some_iff.1 h
  obtain ⟨js₂, h₂, h⟩ := Option.bind_eq_some_iff.1 h
  cases h
  refine ⟨js₁, j, js₂, rfl, hj, fun u => ?_⟩
  rw [hjobs, h₁, h₂]
  cases Job.ofTree u <;> rfl

/-- The second tree is the first one with a null field of this name added to a record of kind `inner`, which has no such
field and need not have it: to the record itself, or to one of those inside it. -/
inductive NullAdded (name : String) (inner : RecordKind) : RecordKind → Tree → Tree → Prop
  | here {before after : List (Option String × Tree)} (hname : name ∈ inner.fieldNames)
      (hoptional : name ∉ inner.requiredNames) (habsent : ∀ t, (some name, t) ∉ before ++ after) :
      NullAdded name inner inner (.record (before ++ after)) (.record (before ++ (some name, .null) :: after))
  | inCounts {before after : List (Option String × Tree)} {t t' : Tree} (h : NullAdded name inner .counts t t') :
      NullAdded name inner .dashboard (.record (before ++ (some "status_counts", t) :: after))
        (.record (before ++ (some "status_counts", t') :: after))
  | inItem {before after : List (Option String × Tree)} {ts us : List Tree} {t t' : Tree}
      (h : NullAdded name inner .job t t') :
      NullAdded name inner .answer (.record (before ++ (some "items", .list (ts ++ t :: us)) :: after))
        (.record (before ++ (some "items", .list (ts ++ t' :: us)) :: after))
  | inJob {before after : List (Option String × Tree)} {t t' : Tree} (h : NullAdded name inner .job t t') :
      NullAdded name inner .detail (.record (before ++ (some "job", t) :: after))
        (.record (before ++ (some "job", t') :: after))

namespace NullAdded

variable {k inner : RecordKind} {name : String} {t t' : Tree}

theorem insertsInto (h : NullAdded name inner k t t') : InsertsInto name t t' := by
  induction h with
  | here => exact fun p hp => spells_record_insert hp name
  | inCounts _ ih => exact ih.field _
  | inItem _ ih => exact ih.item.field _
  | inJob _ ih => exact ih.field _

theorem ofTree_eq (h : NullAdded name inner k t t') {v : k.Record} (hv : k.ofTree t = some v) :
    k.ofTree t' = if name ∈ inner.solidNames then none else some v := by
  induction h with
  | here hname _ habsent =>
    obtain ⟨fs, hfs, hread⟩ := RecordKind.ofTree_eq_some_iff.1 hv
    obtain ⟨hmissing, gs, hgs, hsets⟩ := Fields.ofRecord_insert hname hfs habsent .null
    by_cases hsolid : name ∈ inner.solidNames
    -- A field that cannot be null is asked for by its reader, and null is none of its values.
    · rw [if_pos hsolid]
      refine RecordKind.ofTree_eq_none hgs ?_
      intro w
      exact RecordKind.not_isReadFrom_null hsolid ((hsets name).trans (if_pos rfl))
    · rw [if_neg hsolid]
      exact RecordKind.ofTree_eq_some_iff.2 ⟨gs, hgs, hread.of_alike (hsets.alike hmissing hsolid)⟩
  | inCounts _ ih =>
    obtain ⟨hcounts, hchange⟩ := Dashboard.ofTree_change hv
    refine (hchange _).trans ?_
    rw [show StatusCounts.ofTree _ = _ from ih hcounts]
    split <;> rfl
  | inItem _ ih =>
    obtain ⟨hitems, hchange⟩ := ListAnswer.ofTree_change hv
    obtain ⟨js₁, j, js₂, hjs, hj, hitem⟩ := ListAnswer.jobs?_change hitems
    refine (hchange _).trans ?_
    rw [hitem, show Job.ofTree _ = _ from ih hj]
    split
    · rfl
    · exact congrArg some (congrArg (fun js => { v with items := js }) hjs.symm)
  | inJob _ ih =>
    obtain ⟨hjob, hchange⟩ := Detail.ofTree_change hv
    refine (hchange _).trans ?_
    rw [show Job.ofTree _ = _ from ih hjob]
    split <;> rfl

end NullAdded

/-- A null field can be added to the text of a record, at the top or inside, wherever the field may be missing. However
that is written, the text is read as the same record, unless the field is one that cannot be null: then it is not
read. -/
theorem ofText_nullAdded {k inner : RecordKind} {name s : String} {t t' : Tree} {v : k.Record}
    (hv : k.ofText s = some v) (ht : Tree.ofText s = some t) (h : NullAdded name inner k t t') :
    (∃ s', Inserted name s.toList s'.toList ∧ Tree.ofText s' = some t') ∧
      ∀ s', Tree.ofText s' = some t' → k.ofText s' = if name ∈ inner.solidNames then none else some v := by
  refine ⟨h.insertsInto.ofText ht, ?_⟩
  intro s' hs'
  rw [RecordKind.ofText, ht] at hv
  rw [RecordKind.ofText, hs']
  exact h.ofTree_eq hv

theorem ofText_nullAdded_status_count :
    RecordKind.answer.ofText "\x7b\"items\":[\x7b\"id\":3,\"status\":null\x7d]\x7d" =
        some ({ items := [{ id := 3 }] } : ListAnswer) ∧
      RecordKind.dashboard.ofText "\x7b\"status_counts\":\x7b\"processing\":null,\"pending\":2\x7d\x7d" = none := by
  constructor
  · have hv : RecordKind.answer.ofText "\x7b\"items\":[\x7b\"id\":3\x7d]\x7d" =
        some ({ items := [{ id := 3 }] } : ListAnswer) := by
      change ListAnswer.ofText _ = _
      decide +kernel
    have ht : Tree.ofText "\x7b\"items\":[\x7b\"id\":3\x7d]\x7d" =
        some (.record [(some "items", .list [.record [(some "id", .number (.ofInt 3))]])]) :=
      @Value.ofText_written (.record [("items", .list [.record [("id", .int 3)]])]) rfl _ (.inl (by decide +kernel))
    have ht' : Tree.ofText "\x7b\"items\":[\x7b\"id\":3,\"status\":null\x7d]\x7d" =
        some (.record [(some "items", .list [.record [(some "id", .number (.ofInt 3)), (some "status", .null)]])]) :=
      @Value.ofText_written (.record [("items", .list [.record [("id", .int 3), ("status", .null)]])]) rfl _
        (.inl (by decide +kernel))
    have habsent : ∀ t, (some "status", t) ∉ [(some "id", Tree.number (.ofInt 3))] ++ [] := by
      intro t h
      have hname := congrArg Prod.fst (List.mem_singleton.1 h)
      dsimp only at hname
      exact absurd hname (by decide)
    have hadded : NullAdded "status" .job .answer _ _ :=
      @NullAdded.inItem _ _ [] [] [] [] _ _ (.here (by decide) (by decide) habsent)
    exact ((ofText_nullAdded hv ht hadded).2 _ ht').trans (if_neg (by decide))
  · have hv : RecordKind.dashboard.ofText "\x7b\"status_counts\":\x7b\"pending\":2\x7d\x7d" =
        some ({ statusCounts := { pending := 2 } } : Dashboard) := by
      change Dashboard.ofText _ = _
      decide +kernel
    have ht : Tree.ofText "\x7b\"status_counts\":\x7b\"pending\":2\x7d\x7d" =
        some (.record [(some "status_counts", .record [(some "pending", .number (.ofInt 2))])]) :=
      @Value.ofText_written (.record [("status_counts", .record [("pending", .int 2)])]) rfl _
        (.inl (by decide +kernel))
    have ht' : Tree.ofText "\x7b\"status_counts\":\x7b\"processing\":null,\"pending\":2\x7d\x7d" =
        some (.record [(some "status_counts",
          .record [(some "processing", .null), (some "pending", .number (.ofInt 2))])]) :=
      @Value.ofText_written (.record [("status_counts", .record [("processing", .null), ("pending", .int 2)])]) rfl _
        (.inl (by decide +kernel))
    have habsent : ∀ t, (some "processing", t) ∉ [] ++ [(some "pending", Tree.number (.ofInt 2))] := by
      intro t h
      have hname := congrArg Prod.fst (List.mem_singleton.1 h)
      dsimp only at hname
      exact absurd hname (by decide)
    have hadded : NullAdded "processing" .counts .dashboard _ _ :=
      @NullAdded.inCounts _ _ [] [] _ _ (.here (by decide) (by decide) habsent)
    exact ((ofText_nullAdded hv ht hadded).2 _ ht').trans (if_pos (by decide))

/-- Counts that are read without the number of jobs in process are not read with a null in its place. -/
theorem null_count_refused :
    Dashboard.ofText "\x7b\"status_counts\":\x7b\"pending\":2\x7d\x7d" = some { statusCounts := { pending := 2 } } ∧
      Inserted "processing" "\x7b\"status_counts\":\x7b\"pending\":2\x7d\x7d".toList
        "\x7b\"status_counts\":\x7b\"pending\":2,\"processing\":null\x7d\x7d".toList ∧
      Dashboard.ofText "\x7b\"status_counts\":\x7b\"pending\":2,\"processing\":null\x7d\x7d" = none := by
  refine ⟨by decide +kernel, ⟨"\x7b\"status_counts\":\x7b\"pending\":2".toList, ',' :: nullEntry "processing",
    "\x7d\x7d".toList, ?_, by decide +kernel, by decide +kernel⟩, by decide +kernel⟩
  exact List.mem_cons_of_mem _ (List.mem_cons_of_mem _ List.mem_cons_self)

end JobBoard
