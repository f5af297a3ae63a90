import Mathlib.Data.List.Nodup
import Mathlib.Data.List.TakeDrop
import Mathlib.Tactic.Common
import Mathlib.Tactic.Ring

/-!
# Queues polled from their head

A pass looks at the first `limit` items of a queue and removes those that do not stay.  An item that
stays keeps its place, so every later pass meets it again before anything behind it: a pass has room
for as many new items as the limit exceeds the number of items met before and still waiting.
-/

namespace NimHunt.Lib

section Polling

variable {α : Type*} (limit : ℕ)

/-- One pass: of the first `limit` items those that stay remain. -/
def pollPass (stays : α → Bool) (q : List α) : List α := (q.take limit).filter stays ++ q.drop limit

/-- The queue after `n` passes; what stays may differ from pass to pass. -/
def pollPasses (stays : ℕ → α → Bool) : ℕ → List α → List α
  | 0, q => q
  | n + 1, q => pollPass limit (stays n) (pollPasses stays n q)

/-- The item is in one of the first `n` batches. -/
def PolledWithin (stays : ℕ → α → Bool) (n : ℕ) (q : List α) (x : α) : Prop :=
  ∃ k < n, x ∈ (pollPasses limit stays k q).take limit

/-- After `n` passes: the items met that still wait, and how many items were met. -/
def progress (stays : ℕ → α → Bool) (q : List α) : ℕ → List α × ℕ
  | 0 => ([], 0)
  | n + 1 =>
    let (waiting, met) := progress stays q n
    let room := limit - waiting.length
    (pollPass limit (stays n) (waiting ++ (q.drop met).take room), met + room)

def waiting (stays : ℕ → α → Bool) (q : List α) (n : ℕ) : ℕ := (progress limit stays q n).1.length

def reached (stays : ℕ → α → Bool) (q : List α) (n : ℕ) : ℕ := (progress limit stays q n).2

variable {limit} {stays : ℕ → α → Bool} {q : List α}

lemma reached_succ (n : ℕ) :
    reached limit stays q (n + 1) = reached limit stays q n + (limit - waiting limit stays q n) := rfl

lemma reached_le_succ (n : ℕ) : reached limit stays q n ≤ reached limit stays q (n + 1) :=
  Nat.le_add_right _ _

lemma pollPass_sublist (p : α → Bool) (xs : List α) : (pollPass limit p xs).Sublist xs := by
  have h := (List.filter_sublist (p := p) (l := xs.take limit)).append (List.Sublist.refl (xs.drop limit))
  rwa [List.take_append_drop] at h

/-- A pass is a deletion: it takes out what is in the batch and does not stay. -/
lemma filter_eq_pollPass [DecidableEq α] (hnodup : q.Nodup) (p : α → Bool) :
    q.filter (fun x => !(decide (x ∈ q.take limit) && !p x)) = pollPass limit p q := by
  have hsplit := List.take_append_drop limit q
  have hdisjoint : ∀ x ∈ q.drop limit, x ∉ q.take limit := by
    intro x hdrop htake
    rw [← hsplit] at hnodup
    exact (List.nodup_append.mp hnodup).2.2 x htake x hdrop rfl
  set batch := q.take limit with hbatch
  rw [pollPass, ← hbatch]
  nth_rewrite 1 [← hsplit]
  rw [List.filter_append]
  congr 1
  · refine List.filter_congr fun x hx => ?_
    simp [hx]
  · rw [List.filter_eq_self]
    intro x hx
    simp [hdisjoint x hx]

/-- What waits was met, in the order of the queue. -/
lemma waiting_sublist (n : ℕ) :
    (progress limit stays q n).1.Sublist (q.take (reached limit stays q n)) := by
  induction n with
  | zero => simp [progress]
  | succ n ih =>
    rw [reached_succ, List.take_add]
    exact (pollPass_sublist _ _).trans (ih.append (List.Sublist.refl _))

/-- A pass over waiting items and fresh ones is a pass over as many fresh ones as it has room for. -/
lemma pollPass_append (p : α → Bool) (kept fresh : List α) :
    pollPass limit p (kept ++ fresh) =
      pollPass limit p (kept ++ fresh.take (limit - kept.length)) ++ fresh.drop (limit - kept.length) := by
  unfold pollPass
  rcases Nat.le_total limit kept.length with hfull | hroom
  · have hno : limit - kept.length = 0 := Nat.sub_eq_zero_of_le hfull
    rw [hno, List.take_zero, List.append_nil, List.drop_zero, List.take_append_of_le_length hfull,
      List.drop_append_of_le_length hfull, List.append_assoc]
  · have hlen : (kept ++ fresh.take (limit - kept.length)).length ≤ limit := by
      rw [List.length_append, List.length_take]
      omega
    have hdrop : (kept ++ fresh).drop limit = fresh.drop (limit - kept.length) := by
      rw [List.drop_append, List.drop_of_length_le hroom, List.nil_append]
    have htake : (kept ++ fresh).take limit = kept ++ fresh.take (limit - kept.length) := by
      rw [List.take_append, List.take_of_length_le hroom]
    rw [List.take_of_length_le hlen, List.drop_of_length_le hlen, List.append_nil, htake, hdrop]

/-- The head of the queue is what waits of the part met; the rest is untouched. -/
lemma pollPasses_eq (n : ℕ) :
    pollPasses limit stays n q = (progress limit stays q n).1 ++ q.drop (reached limit stays q n) := by
  induction n with
  | zero => simp [pollPasses, progress, reached]
  | succ n ih =>
    rw [pollPasses, ih, pollPass_append, reached_succ, List.drop_drop]
    rfl

lemma mem_batch_iff (n : ℕ) {x : α} :
    x ∈ (pollPasses limit stays n q).take limit ↔
      x ∈ (progress limit stays q n).1.take limit ∨
        x ∈ (q.drop (reached limit stays q n)).take (limit - waiting limit stays q n) := by
  rw [pollPasses_eq, List.take_append, List.mem_append]
  rfl

/-- The batch of pass `n` adds what lies between the two marks. -/
lemma mem_batch (n : ℕ) {x : α} (hx : x ∈ (pollPasses limit stays n q).take limit) :
    x ∈ q.take (reached limit stays q (n + 1)) := by
  rcases (mem_batch_iff n).mp hx with hkept | hnew
  · have hold := (waiting_sublist n).subset (List.mem_of_mem_take hkept)
    exact List.take_subset_take_left _ (reached_le_succ n) hold
  · rw [reached_succ, List.take_add]
    exact List.mem_append_right _ hnew

/-- Within `n` passes exactly the first `reached n` items are looked at. -/
theorem polledWithin_iff (n : ℕ) {x : α} :
    PolledWithin limit stays n q x ↔ x ∈ q.take (reached limit stays q n) := by
  constructor
  · rintro ⟨k, hk, hx⟩
    have hmono : reached limit stays q (k + 1) ≤ reached limit stays q n :=
      monotone_nat_of_le_succ reached_le_succ hk
    exact List.take_subset_take_left _ hmono (mem_batch k hx)
  · intro hx
    induction n with
    | zero => simp [reached, progress] at hx
    | succ n ih =>
      rw [reached_succ, List.take_add] at hx
      rcases List.mem_append.mp hx with hold | hnew
      · obtain ⟨k, hk, hbatch⟩ := ih hold
        exact ⟨k, Nat.lt_succ_of_lt hk, hbatch⟩
      · exact ⟨n, Nat.lt_succ_self n, (mem_batch_iff n).mpr (Or.inr hnew)⟩

lemma all_mem_take_iff (hnodup : q.Nodup) (m : ℕ) : (∀ x ∈ q, x ∈ q.take m) ↔ q.length ≤ m := by
  constructor
  · intro hall
    by_contra hshort
    have hlt : m < q.length := Nat.lt_of_not_le hshort
    obtain ⟨i, hi, hget⟩ := List.mem_take_iff_getElem.mp (hall _ (List.getElem_mem hlt))
    have hsame : i = m := hnodup.getElem_inj_iff.mp hget
    omega
  · intro hlen x hx
    rwa [List.take_of_length_le hlen]

/-- Every item is looked at as soon as the passes reach the end of the queue, and not before. -/
theorem all_polledWithin_iff (hnodup : q.Nodup) (n : ℕ) :
    (∀ x ∈ q, PolledWithin limit stays n q x) ↔ q.length ≤ reached limit stays q n := by
  simp only [polledWithin_iff]
  exact all_mem_take_iff hnodup _

end Polling

section Runs

variable {α : Type*} [DecidableEq α] (limit : ℕ) (stays : ℕ → α → Bool) (queue : ℕ → List α)

variable {limit} {stays} {queue}

end Runs

section Steady

variable {α : Type*} (limit : ℕ) (stuck : α → Bool)

/-- How far `n` passes get over a queue whose stuck items never leave: each pass has room for `limit`
less the stuck items among those met before. -/
def steadyReach (q : List α) : ℕ → ℕ
  | 0 => 0
  | n + 1 => steadyReach q n + (limit - (q.take (steadyReach q n)).countP stuck)

variable {limit} {stuck} {q : List α}

lemma progress_steady (n : ℕ) :
    progress limit (fun _ => stuck) q n =
      ((q.take (steadyReach limit stuck q n)).filter stuck, steadyReach limit stuck q n) := by
  induction n with
  | zero => simp [progress, steadyReach]
  | succ n ih =>
    rw [progress, ih]
    dsimp only
    rw [← List.countP_eq_length_filter, steadyReach]
    set v := steadyReach limit stuck q n
    set kept := (q.take v).filter stuck with hkept
    have hcount : (q.take v).countP stuck = kept.length := List.countP_eq_length_filter
    have hkeeps : ∀ xs : List α, xs.Sublist kept → xs.filter stuck = xs := by
      intro xs hsub
      rw [List.filter_eq_self]
      intro x hx
      exact (List.mem_filter.mp (hsub.subset hx)).2
    rw [hcount, Prod.mk.injEq]
    refine ⟨?_, rfl⟩
    rw [List.take_add, List.filter_append, ← hkept, pollPass]
    rcases Nat.le_total limit kept.length with hfull | hroom
    · have hno : limit - kept.length = 0 := Nat.sub_eq_zero_of_le hfull
      rw [hno, List.take_zero, List.filter_nil, List.append_nil, hkeeps _ (List.take_sublist _ _),
        List.take_append_drop]
    · have hlen : (kept ++ (q.drop v).take (limit - kept.length)).length ≤ limit := by
        rw [List.length_append, List.length_take]
        omega
      rw [List.take_of_length_le hlen, List.drop_of_length_le hlen, List.append_nil, List.filter_append,
        hkeeps _ (List.Sublist.refl _)]

lemma reached_steady (n : ℕ) : reached limit (fun _ => stuck) q n = steadyReach limit stuck q n := by
  rw [reached, progress_steady]

end Steady

end NimHunt.Lib
