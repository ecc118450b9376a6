import JobBoard.CommandLine.Run

/-!
The filters that a board can be opened with. Whether they come from a query, from the settings file or from options,
their choice of statuses is one that an operator can type, and the query that shares them brings them back.
-/

namespace JobBoard

theorem exists_of_bind_eq_ok {ε α β : Type} {x : Except ε α} {f : α → Except ε β} {b : β}
    (h : x >>= f = .ok b) : ∃ a, x = .ok a ∧ f a = .ok b := by
  cases x with
  | ok a => exact ⟨a, rfl, h⟩
  | error e => cases h

namespace StatusChoice

theorem mem_cycle_of_ofTyped? {s : String} {c : StatusChoice} (h : ofTyped? s = some c) : c ∈ cycle := by
  unfold ofTyped? at h
  split at h
  · cases h
    decide
  · obtain ⟨t, ht, rfl⟩ := Option.map_eq_some_iff.1 h
    unfold Status.ofTyped? at ht
    split at ht <;> cases ht <;> decide

theorem next_mem_cycle (c : StatusChoice) : c.next ∈ cycle := by
  unfold next
  split <;> decide

theorem prev_mem_cycle (c : StatusChoice) : c.prev ∈ cycle := by
  unfold prev
  split <;> decide

end StatusChoice

namespace Filter

def Typable (f : Filter) : Prop := f.status ∈ StatusChoice.cycle

instance (f : Filter) : Decidable f.Typable := inferInstanceAs (Decidable (f.status ∈ StatusChoice.cycle))

variable {f g : Filter}

theorem Typable.everything : everything.Typable := List.mem_cons_self

theorem decode_toQuery (h : f.Typable) : Text.Form.decode (queryBody f.toQuery) = f.pairs := by
  obtain ⟨s, r⟩ := f
  simp only [Typable, StatusChoice.cycle, List.mem_cons, List.not_mem_nil, or_false] at h
  rcases h with rfl | rfl | rfl | rfl <;> cases r <;> decide +kernel

theorem ofPairs_pairs (h : f.Typable) : ofPairs f.pairs = .ok f := by
  obtain ⟨s, r⟩ := f
  simp only [Typable, StatusChoice.cycle, List.mem_cons, List.not_mem_nil, or_false] at h
  rcases h with rfl | rfl | rfl | rfl <;> cases r <;> rfl

theorem ofQuery_toQuery (h : f.Typable) : ofQuery f.toQuery = .ok f := by
  rw [ofQuery, decode_toQuery h, ofPairs_pairs h]

theorem Typable.absorb {p : String × String} (hf : f.Typable) (h : f.absorb p = .ok g) : g.Typable := by
  unfold Filter.absorb at h
  split at h
  · unfold readStatus at h
    split at h
    · rename_i c hc
      cases h
      exact StatusChoice.mem_cycle_of_ofTyped? hc
    · cases h
  · split at h
    · cases hr : readReview p.2 with
      | ok r =>
        rw [hr] at h
        cases h
        exact hf
      | error e =>
        rw [hr] at h
        cases h
    · cases h
      exact hf

theorem Typable.absorbAll {ps : List (String × String)} (hf : f.Typable) (h : ps.foldlM Filter.absorb f = .ok g) :
    g.Typable := by
  induction ps generalizing f with
  | nil =>
    cases h
    exact hf
  | cons p ps ih =>
    rw [List.foldlM_cons] at h
    obtain ⟨_, hp, hps⟩ := exists_of_bind_eq_ok h
    exact ih (hf.absorb hp) hps

theorem Typable.of_query {q : String} (h : ofQuery q = .ok f) : f.Typable := Typable.everything.absorbAll h

end Filter

namespace Settings

variable {s : Settings}

theorem defaultStatus_of_tree {t : Json.Tree} (h : ofTree t = some s) : s.defaultStatus ∈ StatusChoice.cycle := by
  simp only [ofTree, Option.bind_eq_bind, Option.bind_eq_some_iff] at h
  obtain ⟨fs, -, _, -, _, -, _, -, _, -, _, -, _, -, c, hc, _, -, h⟩ := h
  cases h
  unfold Json.Fields.orElse at hc
  split at hc
  · cases hc
    exact List.mem_cons_self
  · obtain ⟨typed, -, hc⟩ := Option.bind_eq_some_iff.1 hc
    exact StatusChoice.mem_cycle_of_ofTyped? hc

theorem defaultStatus_of_file {file : FileContent} (h : load file = .ok s) :
    s.defaultStatus ∈ StatusChoice.cycle := by
  cases file with
  | missing =>
    cases h
    exact List.mem_cons_self
  | directory => cases h
  | bytes bs =>
    simp only [load] at h
    split at h
    · cases h
      change ((ofText _).getD {}).defaultStatus ∈ StatusChoice.cycle
      cases ht : ofText (String.ofList (Text.Utf8.decodeLossy bs)) with
      | none => exact List.mem_cons_self
      | some s =>
        obtain ⟨t, -, ht⟩ := Option.bind_eq_some_iff.1 ht
        exact defaultStatus_of_tree ht
    · cases h

end Settings

namespace Options

variable {env : Environment} {words : List String} {o : Options}

theorem assembled (h : ofWords env words = .ok o) :
    ∃ before behind logFile command, o = assemble before behind logFile command := by
  obtain ⟨⟨s, command⟩, -, h⟩ := exists_of_bind_eq_ok h
  cases command with
  | none =>
    dsimp only at h
    obtain ⟨logFile, -, h⟩ := exists_of_bind_eq_ok h
    cases h
    exact ⟨_, _, _, _, rfl⟩
  | some c =>
    obtain ⟨name, rest⟩ := c
    dsimp only at h
    split at h
    · rename_i hc
      cases hc
    · cases h
    · rename_i hc
      cases hc
      obtain ⟨⟨c, _⟩, -, h⟩ := exists_of_bind_eq_ok h
      obtain ⟨_, -, h⟩ := exists_of_bind_eq_ok h
      obtain ⟨logFile, -, h⟩ := exists_of_bind_eq_ok h
      cases h
      exact ⟨_, _, _, _, rfl⟩

theorem defaultStatus_of_words (h : ofWords env words = .ok o) {c : StatusChoice} (hc : o.defaultStatus = some c) :
    c ∈ StatusChoice.cycle := by
  obtain ⟨before, behind, logFile, command, rfl⟩ := assembled h
  obtain ⟨typed, -, hc⟩ := Option.bind_eq_some_iff.1 hc
  exact StatusChoice.mem_cycle_of_ofTyped? hc

end Options

namespace Filter

variable {f : Filter}

inductive Start : Filter → Prop
  | query {q : String} {f : Filter} (h : ofQuery q = .ok f) : Start f
  | file {file : Settings.FileContent} {s : Settings} (h : Settings.load file = .ok s) : Start s.defaultFilter
  /-- What the options say counts more than the file, which may not be readable. -/
  | options {env : Environment} {words : List String} {o : Options} (file : Settings.FileContent)
      (h : Options.ofWords env words = .ok o) :
      Start (o.applyTo ((Settings.load file).toOption.getD {})).defaultFilter

theorem Start.typable (h : Start f) : f.Typable := by
  cases h with
  | query h => exact .of_query h
  | file h => exact Settings.defaultStatus_of_file h
  | @options env words o file h =>
    change o.defaultStatus.getD _ ∈ StatusChoice.cycle
    cases hc : o.defaultStatus with
    | some c => exact Options.defaultStatus_of_words h hc
    | none =>
      change ((Settings.load file).toOption.getD {}).defaultStatus ∈ StatusChoice.cycle
      cases hs : Settings.load file with
      | ok s => exact Settings.defaultStatus_of_file hs
      | error e => exact List.mem_cons_self

end Filter

theorem CommandLine.plan_start {env : Environment} {file : Settings.FileContent} {words : List String}
    {settings : Settings} {client : Client} {f : Filter} (h : plan env file words = .board settings client f) :
    f.Start := by
  unfold plan at h
  split at h
  · cases h
  · cases h
  · cases h
  · rename_i o ho
    dsimp only at h
    split at h
    · cases h
    · split at h
      · split at h <;> cases h
      · split at h
        · cases h
          exact .options file ho
        · split at h
          · rename_i hq
            cases h
            exact .query hq
          · cases h

end JobBoard
