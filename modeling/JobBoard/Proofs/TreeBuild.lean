import JobBoard.Proofs.HeightTree

/-!
The tree that is built of all heights at once. Each node is handed on to the node above it, and when its turn comes it
has got all that it covers; so the tree is the one that adding the heights one by one gives.
-/

namespace JobBoard.HeightTree

variable {hs : List Nat}

/-- The sum of the heights that node `i` covers. -/
def covered (hs : List Nat) (i : Nat) : Nat := ((hs.take i).drop (dropLowBit i)).sum

/-- What node `i` has got when the nodes up to the given one have been handed on. -/
def handedOn (hs : List Nat) (i : Nat) : Nat → Nat
  | 0 => 0
  | c + 1 => handedOn hs i c + if c + 1 + lowBit (c + 1) = i then covered hs (c + 1) else 0

theorem handedOn_skip {i a b : Nat} (hab : a ≤ b) (h : ∀ c, a < c → c ≤ b → c + lowBit c ≠ i) :
    handedOn hs i b = handedOn hs i a := by
  induction b with
  | zero =>
    obtain rfl : a = 0 := Nat.le_zero.1 hab
    rfl
  | succ b ih =>
    rcases Nat.eq_or_lt_of_le hab with rfl | hlt
    · rfl
    · rw [handedOn, if_neg (h (b + 1) hlt (Nat.le_refl _)), Nat.add_zero]
      apply ih (Nat.le_of_lt_succ hlt)
      intro c hac hcb
      exact h c hac (Nat.le_succ_of_le hcb)

theorem sum_drop_take_split (hs : List Nat) {a b c : Nat} (hab : a ≤ b) (hbc : b ≤ c) :
    ((hs.take c).drop a).sum = ((hs.take b).drop a).sum + ((hs.take c).drop b).sum := by
  have hac := sum_take_split hs (Nat.le_trans hab hbc)
  have hab := sum_take_split hs hab
  have hbc := sum_take_split hs hbc
  omega

theorem handedOn_eq {i m : Nat} (hm : m = dropLowBit i ∨ 0 < m ∧ m + lowBit m = i) :
    handedOn hs i m = ((hs.take m).drop (dropLowBit i)).sum := by
  -- The nodes that are handed on to `i` lie end to end, so the induction goes from one of them to the next lower.
  induction m using Nat.strong_induction_on with
  | _ m ih =>
    have hlow {c : Nat} (hc : 0 < c) (he : c + lowBit c = i) : dropLowBit i < c := by
      rw [← he]
      exact (covers_above hc).1
    rcases hm with rfl | ⟨hpos, he⟩
    · rw [handedOn_skip (Nat.zero_le _), List.drop_eq_nil_of_le (by simp)]
      · rfl
      · intro c hc hle hce
        have := hlow hc hce
        omega
    · have hd : dropLowBit m < m := dropLowBit_lt hpos
      have hnext := dropLowBit_above hpos
      rw [he] at hnext
      have hle : dropLowBit i ≤ dropLowBit m := by
        rcases hnext with hnext | ⟨hpos', he'⟩
        · exact Nat.le_of_eq hnext.symm
        · exact Nat.le_of_lt (hlow hpos' he')
      have hskip : handedOn hs i (m - 1) = handedOn hs i (dropLowBit m) := by
        apply handedOn_skip (by omega)
        intro c hdc hcm hce
        have hcov : Covers m c := ⟨hdc, by omega⟩
        rcases (covers_iff_above (by omega) m).1 hcov with hcm' | hcov'
        · omega
        · have := hcov'.2
          have := lowBit_pos hpos
          omega
      obtain ⟨c, rfl⟩ : ∃ c, m = c + 1 := ⟨m - 1, by omega⟩
      rw [Nat.add_sub_cancel] at hskip
      rw [handedOn, if_pos he, hskip, ih _ hd hnext, covered, ← sum_drop_take_split hs hle (Nat.le_of_lt hd)]

/-- With its own height a node has got all that it covers as soon as all nodes below it have been handed on. -/
theorem handedOn_complete {i : Nat} (hi : 0 < i) (hle : i ≤ hs.length) {j : Nat} (hj : i - 1 ≤ j) :
    hs[i - 1] + handedOn hs i j = covered hs i := by
  have hskip : handedOn hs i j = handedOn hs i (i - 1) := by
    apply handedOn_skip hj
    intro c hc _ he
    have := lowBit_pos (by omega : 0 < c)
    omega
  have hd := dropLowBit_lt hi
  have hsplit := sum_drop_take_split hs (by omega : dropLowBit i ≤ i - 1) (Nat.sub_le i 1)
  have hlast := sum_take_split hs (Nat.sub_le i 1)
  have hsucc := sum_take_succ (by omega : i - 1 < hs.length)
  rw [Nat.sub_add_cancel hi] at hsucc
  rw [hskip, handedOn_eq (dropLowBit_pred hi), covered, hsplit]
  omega

theorem size_raise (nodes : Array Nat) (i : Nat) : (raise nodes i).size = nodes.size := by
  rw [raise, Array.size_modify]

theorem node_raise (nodes : Array Nat) {c i : Nat} (hc : 0 < c) (hi : 0 < i) (hle : i ≤ nodes.size) :
    node ⟨raise nodes c⟩ i =
      if c + lowBit c = i then Word.add32 (node ⟨nodes⟩ i) (node ⟨nodes⟩ c) else node ⟨nodes⟩ i := by
  have hplace : c + lowBit c - 1 = i - 1 ↔ c + lowBit c = i := by omega
  have hlt : i - 1 < nodes.size := by omega
  simp only [node, raise, Array.getD_eq_getD_getElem?, Array.getElem?_modify, hplace,
    Array.getElem?_eq_getElem hlt]
  split <;> rfl

def raised (heights : Array Nat) (j : Nat) : Array Nat := (List.range' 1 j).foldl raise heights

theorem raised_succ (heights : Array Nat) (j : Nat) : raised heights (j + 1) = raise (raised heights j) (j + 1) := by
  rw [raised, List.range'_concat, List.foldl_concat, Nat.one_mul, Nat.add_comm 1 j]
  rfl

theorem size_raised (heights : Array Nat) (j : Nat) : (raised heights j).size = heights.size := by
  induction j with
  | zero => rfl
  | succ j ih => rw [raised_succ, size_raise, ih]

theorem node_raised {heights : Array Nat} (hw : ∀ n ∈ heights.toList, n < Word.size32) {i : Nat} (hi : 0 < i)
    (hle : i ≤ heights.toList.length) {j : Nat} (hj : j ≤ heights.size) :
    node ⟨raised heights j⟩ i = (heights.toList[i - 1] + handedOn heights.toList i j) % Word.size32 := by
  induction j generalizing i with
  | zero =>
    have hlt : i - 1 < heights.size := by
      rw [Array.length_toList] at hle
      omega
    have hnode : node ⟨raised heights 0⟩ i = heights.toList[i - 1] := by
      simp only [raised, List.range'_zero, List.foldl_nil, node, Array.getD_eq_getD_getElem?,
        Array.getElem?_eq_getElem hlt, Option.getD_some, Array.getElem_toList]
    rw [hnode, handedOn, Nat.add_zero, Nat.mod_eq_of_lt (hw _ (List.getElem_mem _))]
  | succ j ih =>
    have hlen : heights.toList.length = heights.size := Array.length_toList
    have hrow := ih hi hle (by omega)
    rw [raised_succ, node_raise _ (Nat.succ_pos j) hi (by rw [size_raised]; omega), handedOn]
    split
    · have hself := ih (Nat.succ_pos j) (by omega) (by omega)
      rw [handedOn_complete (Nat.succ_pos j) (by omega) (Nat.le_of_eq (Nat.succ_sub_one j))] at hself
      rw [hrow, hself, Word.add32, ← Nat.add_mod, Nat.add_assoc]
    · exact hrow

theorem Sums.ofHeights {heights : Array Nat} (hw : ∀ n ∈ heights.toList, n < Word.size32) :
    (ofHeights heights).Sums heights.toList where
  size := by
    rw [Array.length_toList]
    exact size_raised heights heights.size
  node := by
    intro i hi hle
    have hlen : heights.toList.length = heights.size := Array.length_toList
    change HeightTree.node ⟨raised heights heights.size⟩ i = covered heights.toList i % Word.size32
    rw [node_raised hw hi hle (Nat.le_refl _), handedOn_complete hi hle (by omega)]

theorem Sums.eq {t u : HeightTree} (ht : t.Sums hs) (hu : u.Sums hs) : t = u := by
  have hsize : t.nodes.size = u.nodes.size := ht.size.trans hu.size.symm
  have hnodes : t.nodes = u.nodes := by
    apply Array.ext hsize
    intro k hkt hku
    have hle : k + 1 ≤ hs.length := by
      rw [← ht.size]
      exact hkt
    have he := (ht.node (k + 1) (Nat.succ_pos k) hle).trans (hu.node (k + 1) (Nat.succ_pos k) hle).symm
    simpa only [HeightTree.node, Nat.add_sub_cancel, Array.getD_eq_getD_getElem?, Array.getElem?_eq_getElem hkt,
      Array.getElem?_eq_getElem hku, Option.getD_some] using he
  cases t
  cases u
  exact congrArg HeightTree.mk hnodes

end JobBoard.HeightTree
