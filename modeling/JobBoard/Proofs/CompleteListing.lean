import JobBoard.Listing.Pager
import Mathlib.Data.Nat.Find

/-!
A whole listing against a list of jobs that the service holds unchanged. However the service cuts its pages, tells
where the list ends and fails in between, asking for pages until there is nothing to ask for loads the whole list.
-/

namespace JobBoard

/-- What comes back for a request: a failure, or the answer of the service. -/
inductive Reply where
  | failure (error : String)
  | answer (a : ListAnswer)

def Reply.isAnswer : Reply → Bool
  | failure _ => false
  | answer _ => true

namespace ListAnswer

/-- How an answer tells whether the list of `n` jobs goes on behind it: by the flag, else by the total, which is a
word, else by being as long as it can be. -/
inductive TellsEnd (n offset limit : Nat) (a : ListAnswer) : Prop
  | byFlag (h : a.hasMore = some (decide (offset + a.items.length < n)))
  | byTotal (hm : a.hasMore = none) (ht : a.total = some n) (hw : n < Word.size64)
  | byLength (hm : a.hasMore = none) (ht : a.total = none) (hl : a.items.length = min limit (n - offset))

/-- The answers to a request that a service may give that holds a list of jobs. -/
structure Serves (jobs : List Job) (q : PageRequest) (a : ListAnswer) : Prop where
  items : a.items = (jobs.drop q.offset).take a.items.length
  limit : a.items.length ≤ q.limit
  some_of_lt : q.offset < jobs.length → 0 < a.items.length
  ends : a.TellsEnd jobs.length q.offset q.limit

namespace Serves

variable {jobs : List Job} {q : PageRequest} {a : ListAnswer}

theorem le_length (h : a.Serves jobs q) (ho : q.offset ≤ jobs.length) :
    q.offset + a.items.length ≤ jobs.length := by
  have hlen := congrArg List.length h.items
  rw [List.length_take, List.length_drop] at hlen
  omega

theorem length_of_not_continues (h : a.Serves jobs q) (ho : q.offset ≤ jobs.length)
    (hc : a.continues q.offset q.limit = false) : q.offset + a.items.length = jobs.length := by
  have hle := h.le_length ho
  have hsome := h.some_of_lt
  rcases h.ends with hm | ⟨hm, ht, hw⟩ | ⟨hm, ht, hl⟩
  · simp only [continues, hm, decide_eq_false_iff_not] at hc
    omega
  · simp only [continues, hm, ht, Word.add64_of_lt (Nat.lt_of_le_of_lt hle hw), decide_eq_false_iff_not] at hc
    omega
  · simp only [continues, hm, ht, Bool.and_eq_false_iff, decide_eq_false_iff_not] at hc
    omega

theorem length_of_empty (h : a.Serves jobs q) (ho : q.offset ≤ jobs.length) (he : a.items.length = 0) :
    q.offset + a.items.length = jobs.length := by
  have hsome := h.some_of_lt
  omega

end Serves

end ListAnswer

/-- A service that holds a list of jobs may fail, but it does not answer wrongly. -/
def Reply.Honest (jobs : List Job) (q : PageRequest) : Reply → Prop
  | failure _ => True
  | answer a => a.Serves jobs q

namespace Pager

/-- Pagers that have asked for nothing yet. -/
inductive Fresh : Pager → Prop
  | start (filter : Filter) (pageSize : Nat) : Fresh (.start filter pageSize)
  | reset (p : Pager) (filter : Filter) (h : 0 < p.pageSize) : Fresh (p.reset filter)

/-- Asks for the next page, if there is one, and takes what comes back. -/
def exchange (p : Pager) (r : Reply) : Pager :=
  match p.fetch with
  | (p, none) => p
  | (p, some q) =>
    match r with
    | .failure error => (p.fail q.generation error).1
    | .answer a => (p.receive q.generation (a.toPage q.offset q.limit)).1

def exchanges (p : Pager) (reply : Nat → Reply) : Nat → Pager
  | 0 => p
  | n + 1 => (p.exchanges reply n).exchange (reply n)

end Pager

def answersBefore (reply : Nat → Reply) : Nat → Nat
  | 0 => 0
  | n + 1 => answersBefore reply n + (reply n).isAnswer.toNat

theorem le_answersBefore {reply : Nat → Reply} {m : Nat} (h : ∀ n, m ≤ n → (reply n).isAnswer = true) (k : Nat) :
    k ≤ answersBefore reply (m + k) := by
  induction k with
  | zero => exact Nat.zero_le _
  | succ k ih =>
    have hk : (reply (m + k)).isAnswer = true := h _ (Nat.le_add_right m k)
    rw [← Nat.add_assoc, answersBefore, hk]
    exact Nat.succ_le_succ ih

namespace Pager

variable {p : Pager} {jobs : List Job}

/-- What an idle pager has loaded is the start of the list, and it has ended only with the whole list. -/
structure Follows (jobs : List Job) (p : Pager) : Prop where
  items : p.items.toList = jobs.take p.nextOffset
  offset : p.nextOffset ≤ jobs.length
  idle : p.inFlight = false
  ended : p.hasMore = false → p.nextOffset = jobs.length ∧ p.error = none

theorem Fresh.hasMore (h : p.Fresh) : p.hasMore = true := by
  cases h <;> rfl

theorem Fresh.follows (h : p.Fresh) : p.Follows jobs := by
  cases h with
  | start => exact ⟨rfl, Nat.zero_le _, rfl, nofun⟩
  | reset => exact ⟨rfl, Nat.zero_le _, rfl, nofun⟩

theorem exchange_of_ended (hm : p.hasMore = false) (r : Reply) : p.exchange r = p := by
  simp only [exchange, fetch_of_ended hm]

theorem exchange_failure (hf : p.inFlight = false) (hm : p.hasMore = true) (error : String) :
    p.exchange (.failure error) = { p with inFlight := false, error := some error } := by
  simp only [exchange, fetch_of_more hm hf, fail, request, ↓reduceIte]

theorem exchange_answer (hf : p.inFlight = false) (hm : p.hasMore = true) (a : ListAnswer) :
    p.exchange (.answer a) = p.append (a.toPage p.nextOffset p.pageSize) := by
  simp only [exchange, fetch_of_more hm hf, receive, request, ↓reduceIte]
  rfl

theorem Follows.failure (h : p.Follows jobs) (hm : p.hasMore = true) (error : String) :
    (p.exchange (.failure error)).Follows jobs := by
  rw [exchange_failure h.idle hm]
  refine ⟨h.items, h.offset, rfl, ?_⟩
  intro he
  rw [hm] at he
  cases he

theorem Follows.answer (h : p.Follows jobs) (hm : p.hasMore = true) {a : ListAnswer}
    (ha : a.Serves jobs p.request) : (p.exchange (.answer a)).Follows jobs := by
  rw [exchange_answer h.idle hm]
  have hle := ha.le_length h.offset
  refine ⟨?_, hle, rfl, ?_⟩
  · change (p.items ++ a.items.toArray).toList = jobs.take (p.nextOffset + a.items.length)
    rw [Array.toList_append, h.items, List.take_add]
    exact congrArg _ ha.items
  · intro he
    refine ⟨?_, rfl⟩
    rcases Bool.and_eq_false_iff.1 he with hc | hn
    · exact ha.length_of_not_continues h.offset hc
    · apply ha.length_of_empty h.offset
      rw [Bool.not_eq_false', List.isEmpty_iff] at hn
      exact List.length_eq_zero_iff.2 hn

theorem Follows.exchange (h : p.Follows jobs) {r : Reply}
    (hr : ∀ q, p.fetch.2 = some q → r.Honest jobs q) : (p.exchange r).Follows jobs := by
  cases hm : p.hasMore with
  | false =>
    rw [exchange_of_ended hm]
    exact h
  | true =>
    have hq := hr p.request (by rw [fetch_of_more hm h.idle])
    cases r with
    | failure error => exact h.failure hm error
    | answer a => exact h.answer hm hq

theorem hasMore_of_exchange {r : Reply} (h : (p.exchange r).hasMore = true) : p.hasMore = true := by
  cases hm : p.hasMore with
  | true => rfl
  | false =>
    rw [exchange_of_ended hm, hm] at h
    exact h

theorem Follows.advance (h : p.Follows jobs) {r : Reply} (hm : (p.exchange r).hasMore = true) :
    p.nextOffset + r.isAnswer.toNat ≤ (p.exchange r).nextOffset := by
  have hp := hasMore_of_exchange hm
  cases r with
  | failure error =>
    rw [exchange_failure h.idle hp]
    exact Nat.le_refl _
  | answer a =>
    rw [exchange_answer h.idle hp] at hm ⊢
    have hn : a.items.isEmpty = false := by
      have hne := (Bool.and_eq_true_iff.1 hm).2
      rwa [Bool.not_eq_true'] at hne
    have hpos : 0 < a.items.length := List.length_pos_iff.2 (List.isEmpty_eq_false_iff.1 hn)
    exact Nat.add_le_add_left hpos p.nextOffset

theorem fetch_eq_none_iff (h : p.Follows jobs) : p.fetch.2 = none ↔ p.hasMore = false := by
  cases hm : p.hasMore with
  | false => simp [fetch_of_ended hm]
  | true => simp [fetch_of_more hm h.idle]

variable {reply : Nat → Reply}

theorem Follows.exchanges (h : p.Follows jobs)
    (hr : ∀ n q, (p.exchanges reply n).fetch.2 = some q → (reply n).Honest jobs q) (n : Nat) :
    (p.exchanges reply n).Follows jobs := by
  induction n with
  | zero => exact h
  | succ n ih => exact ih.exchange (hr n)

theorem exchanges_of_ended {n : Nat} (hm : (p.exchanges reply n).hasMore = false) (k : Nat) :
    p.exchanges reply (n + k) = p.exchanges reply n := by
  induction k with
  | zero => rfl
  | succ k ih =>
    rw [← Nat.add_assoc, Pager.exchanges, ih]
    exact exchange_of_ended hm _

theorem answersBefore_le (hf : ∀ n, (p.exchanges reply n).Follows jobs) {n : Nat}
    (hm : (p.exchanges reply n).hasMore = true) : answersBefore reply n ≤ (p.exchanges reply n).nextOffset := by
  induction n with
  | zero => exact Nat.zero_le _
  | succ n ih =>
    have hlast := ih (hasMore_of_exchange hm)
    have hadd := (hf n).advance hm
    rw [answersBefore]
    exact Nat.le_trans (Nat.add_le_add_right hlast _) hadd

theorem ends_of_answers (hf : ∀ n, (p.exchanges reply n).Follows jobs) {m : Nat}
    (ha : ∀ n, m ≤ n → (reply n).isAnswer = true) : ∃ n, (p.exchanges reply n).hasMore = false := by
  refine ⟨m + (jobs.length + 1), ?_⟩
  cases hm : (p.exchanges reply (m + (jobs.length + 1))).hasMore with
  | false => rfl
  | true =>
    have hcount := le_answersBefore ha (jobs.length + 1)
    have hle := answersBefore_le hf hm
    have hbound := (hf (m + (jobs.length + 1))).offset
    omega

/-- From a pager that has asked for nothing, against a service that holds a list of jobs and fails only so many times,
there comes a point at which nothing is left to ask for. At the first such point at most one more answer has come than
there are jobs, all of them are loaded in their order, and no error is left. -/
theorem loads_whole_list (h : p.Fresh) (ha : ∃ m, ∀ n, m ≤ n → (reply n).isAnswer = true)
    (hr : ∀ n q, (p.exchanges reply n).fetch.2 = some q → (reply n).Honest jobs q) :
    ∃ n, (p.exchanges reply n).fetch.2 = none ∧ (∀ m, m < n → (p.exchanges reply m).fetch.2 ≠ none) ∧
      answersBefore reply n ≤ jobs.length + 1 ∧
      (p.exchanges reply n).items.toList = jobs ∧ (p.exchanges reply n).nextOffset = jobs.length ∧
      (p.exchanges reply n).hasMore = false ∧ (p.exchanges reply n).error = none := by
  have hf := h.follows.exchanges hr
  obtain ⟨m, hm⟩ := ha
  have hends := ends_of_answers hf hm
  have hended := Nat.find_spec hends
  obtain ⟨hall, herror⟩ := (hf (Nat.find hends)).ended hended
  refine ⟨Nat.find hends, (fetch_eq_none_iff (hf _)).2 hended, ?_, ?_, ?_, hall, hended, herror⟩
  · intro k hk hnone
    exact Nat.find_min hends hk ((fetch_eq_none_iff (hf k)).1 hnone)
  · obtain ⟨n, hn⟩ : ∃ n, Nat.find hends = n + 1 := by
      apply Nat.exists_eq_succ_of_ne_zero
      intro hzero
      rw [hzero] at hended
      exact absurd h.hasMore (Bool.eq_false_iff.1 hended)
    have hlast : (p.exchanges reply n).hasMore = true := by
      have hmin := Nat.find_min hends (m := n) (by omega)
      rwa [Bool.not_eq_false] at hmin
    have hle := answersBefore_le hf hlast
    have hbound := (hf n).offset
    have hone := Bool.toNat_le (reply n).isAnswer
    rw [hn, answersBefore]
    omega
  · rw [(hf _).items, hall, List.take_length]

/-- A full page, a failure, and the last job with the total. -/
def replyOfThree : Nat → Reply
  | 0 => .answer { items := [{ id := 0 }, { id := 1 }] }
  | 1 => .failure "busy"
  | 2 => .answer { items := [{ id := 2 }], total := some 3 }
  | _ => .answer {}

theorem replyOfThree_honest (n : Nat) {q : PageRequest}
    (hq : ((Pager.start {} 2).exchanges replyOfThree n).fetch.2 = some q) :
    (replyOfThree n).Honest [{ id := 0 }, { id := 1 }, { id := 2 }] q := by
  match n with
  | 0 =>
    cases hq
    exact ⟨rfl, by decide, by decide, .byLength rfl rfl rfl⟩
  | 1 => trivial
  | 2 =>
    cases hq
    exact ⟨rfl, by decide, by decide, .byTotal rfl rfl (by decide)⟩
  | k + 3 =>
    have hm : ((Pager.start {} 2).exchanges replyOfThree 3).hasMore = false := rfl
    rw [Nat.add_comm, exchanges_of_ended hm, fetch_of_ended hm] at hq
    cases hq

theorem loads_whole_list_of_three :
    Fresh (.start {} 2) ∧ (∃ m, ∀ n, m ≤ n → (replyOfThree n).isAnswer = true) ∧
    (∀ n q, ((Pager.start {} 2).exchanges replyOfThree n).fetch.2 = some q →
      (replyOfThree n).Honest [{ id := 0 }, { id := 1 }, { id := 2 }] q) ∧
    ∃ n, ((Pager.start {} 2).exchanges replyOfThree n).fetch.2 = none ∧ answersBefore replyOfThree n ≤ 4 ∧
      ((Pager.start {} 2).exchanges replyOfThree n).items.toList = [{ id := 0 }, { id := 1 }, { id := 2 }] := by
  have ha : ∃ m, ∀ n, m ≤ n → (replyOfThree n).isAnswer = true := by
    refine ⟨2, ?_⟩
    intro n hn
    match n with
    | 2 => rfl
    | k + 3 => rfl
  have hfresh : Fresh (.start {} 2) := .start {} 2
  have hr := fun n q => replyOfThree_honest n (q := q)
  obtain ⟨n, hnone, -, hcount, hitems, -⟩ := loads_whole_list hfresh ha hr
  exact ⟨hfresh, ha, hr, n, hnone, hcount, hitems⟩

end Pager

end JobBoard
