import JobBoard.Listing.RowCache

/-!
The formatted rows against the loaded jobs. A row that is kept is the text of a loaded job, whichever job of that
number was formatted first.
-/

namespace JobBoard.RowCache

/-- Every row that is kept is the text of a job among `items`. -/
def Holds (c : RowCache) (items : Array Job) : Prop :=
  ∀ id row, c.rows[id]? = some row → ∃ j ∈ items, j.id = id ∧ row = .ofJob j

/-- Rows of one number have one text. -/
def TextsAgree (items : Array Job) : Prop :=
  ∀ j ∈ items, ∀ k ∈ items, j.id = k.id → RowText.ofJob j = RowText.ofJob k

variable {c : RowCache} {items : Array Job}

theorem Holds.empty (items : Array Job) : Holds {} items := by
  intro id row h
  exact absurd h (by simp)

theorem Holds.append (h : c.Holds items) (more : Array Job) : c.Holds (items ++ more) := by
  intro id row hr
  obtain ⟨j, hj, he⟩ := h id row hr
  exact ⟨j, Array.mem_append_left _ hj, he⟩

theorem Holds.keep (h : c.Holds items) {j : Job} (hj : j ∈ items) : (c.keep j).Holds items := by
  intro id row hr
  rw [RowCache.keep, Std.HashMap.getElem?_insertIfNew] at hr
  split at hr
  · rename_i hid
    exact ⟨j, hj, eq_of_beq hid.1, (Option.some.inj hr).symm⟩
  · exact h id row hr

theorem Holds.retain (h : c.Holds items) (start stop : Nat) : (c.retain items start stop).Holds items := by
  intro id row hr
  rw [RowCache.retain, Std.HashMap.getElem?_filter'] at hr
  exact h id row (Option.filter_eq_some_iff.1 hr).1

theorem Holds.text (h : c.Holds items) {j : Job} (hj : j ∈ items) :
    ∃ k ∈ items, k.id = j.id ∧ c.text j = .ofJob k := by
  rw [RowCache.text, Std.HashMap.getD_eq_getD_getElem?]
  cases hr : c.rows[j.id]? with
  | none => exact ⟨j, hj, rfl, rfl⟩
  | some row => exact h j.id row hr

theorem Holds.text_of_agree (h : c.Holds items) (ha : TextsAgree items) {j : Job} (hj : j ∈ items) :
    c.text j = .ofJob j := by
  obtain ⟨k, hk, hid, he⟩ := h.text hj
  rw [he]
  exact ha k hk j hj hid

end JobBoard.RowCache
