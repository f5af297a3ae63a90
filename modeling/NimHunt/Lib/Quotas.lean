import Mathlib.Data.List.Basic
import NimHunt.Lib.Windows

/-!
# Rolling quotas

A quota admits as long as fewer than `limit` of its times are younger than `width`.  Who is turned away is told to come
back when the oldest of them no longer counts; with several quotas there is at most one such refusal by each.
-/

namespace NimHunt.Lib

section Recent

variable {width width' now later : ℕ} {times : List ℕ}

/-- The times younger than `width`. -/
def recentTimes (width now : ℕ) (times : List ℕ) : List ℕ := times.filter fun a => now < a + width

lemma length_recentTimes : (recentTimes width now times).length = recentCount width now times :=
  List.countP_eq_length_filter.symm

@[simp] lemma recentTimes_append (times' : List ℕ) :
    recentTimes width now (times ++ times') = recentTimes width now times ++ recentTimes width now times' :=
  List.filter_append ..

/-- Later, or in a narrower window, the old times that are left out do not count either. -/
lemma recentTimes_recentTimes (hlater : now ≤ later) (hwidth : width' ≤ width) :
    recentTimes width' later (recentTimes width now times) = recentTimes width' later times := by
  unfold recentTimes
  rw [List.filter_filter]
  apply List.filter_congr
  intro a _
  rw [← Bool.decide_and]
  apply decide_eq_decide.mpr
  constructor
  · exact And.left
  · intro ha
    exact ⟨ha, by omega⟩

/-- Two windows at one moment are the narrower of them. -/
lemma recentTimes_inside : recentTimes width' now (recentTimes width now times) = recentTimes (min width' width) now times := by
  unfold recentTimes
  rw [List.filter_filter]
  apply List.filter_congr
  intro a _
  rw [← Bool.decide_and]
  apply decide_eq_decide.mpr
  omega

lemma recentTimes_later (hlater : now ≤ later) :
    (recentTimes width later times).Sublist (recentTimes width now times) := by
  rw [← recentTimes_recentTimes hlater (Nat.le_refl width)]
  exact List.filter_sublist

end Recent

section Quotas

/-- A rolling quota with the times it has admitted. -/
structure Quota where
  width : ℕ
  limit : ℕ
  times : List ℕ

variable {now later : ℕ} {quota : Quota} {quotas : List Quota}

namespace Quota

def recent (quota : Quota) (now : ℕ) : List ℕ := recentTimes quota.width now quota.times

def IsFull (quota : Quota) (now : ℕ) : Prop := quota.limit ≤ (quota.recent now).length

instance (quota : Quota) (now : ℕ) : Decidable (quota.IsFull now) := inferInstanceAs (Decidable (_ ≤ _))

/-- One second after the oldest of the recent times has left the window. -/
def retryAt (quota : Quota) (now : ℕ) : ℕ := (quota.recent now).min?.getD 0 + quota.width + 1

/-- It admits somebody, and has never admitted more than it may. -/
def WithinLimit (quota : Quota) (now : ℕ) : Prop := 0 < quota.limit ∧ (quota.recent now).length ≤ quota.limit

lemma WithinLimit.atLater (h : quota.WithinLimit now) (hlater : now ≤ later) : quota.WithinLimit later :=
  ⟨h.1, Nat.le_trans (recentTimes_later hlater).length_le h.2⟩

/-- A quota that has room keeps it while nobody is admitted. -/
lemma IsFull.earlier (h : quota.IsFull later) (hlater : now ≤ later) : quota.IsFull now :=
  Nat.le_trans h (recentTimes_later hlater).length_le

lemma min_recent (h : quota.WithinLimit now) (hfull : quota.IsFull now) :
    ∃ oldest ∈ quota.recent now, (quota.recent now).min? = some oldest ∧ now < oldest + quota.width := by
  have hsome : quota.recent now ≠ [] := by
    intro hnone
    unfold IsFull at hfull
    rw [hnone] at hfull
    exact absurd h.1 (Nat.not_lt.mpr hfull)
  cases hmin : (quota.recent now).min? with
  | none => exact absurd (List.min?_eq_none_iff.mp hmin) hsome
  | some oldest =>
    have hmem : oldest ∈ quota.recent now := List.min?_mem hmin
    exact ⟨oldest, hmem, rfl, of_decide_eq_true (List.mem_filter.mp hmem).2⟩

/-- The time to come back lies ahead. -/
lemma lt_retryAt (h : quota.WithinLimit now) (hfull : quota.IsFull now) : now < quota.retryAt now := by
  obtain ⟨oldest, -, hmin, hrecent⟩ := min_recent h hfull
  unfold retryAt
  rw [hmin]
  dsimp only [Option.getD_some]
  omega

/-- Then there is room. -/
lemma not_isFull_retryAt (h : quota.WithinLimit now) (hfull : quota.IsFull now) :
    ¬ quota.IsFull (quota.retryAt now) := by
  obtain ⟨oldest, hmem, hmin, hrecent⟩ := min_recent h hfull
  have hahead := lt_retryAt h hfull
  have hgone : oldest ∉ quota.recent (quota.retryAt now) := by
    intro hstays
    have hlate : quota.retryAt now < oldest + quota.width := of_decide_eq_true (List.mem_filter.mp hstays).2
    unfold retryAt at hlate
    rw [hmin] at hlate
    dsimp only [Option.getD_some] at hlate
    omega
  have hsub : (quota.recent (quota.retryAt now)).Sublist (quota.recent now) := recentTimes_later (Nat.le_of_lt hahead)
  intro hstill
  have hsame : quota.recent (quota.retryAt now) = quota.recent now :=
    hsub.eq_of_length (Nat.le_antisymm hsub.length_le (Nat.le_trans h.2 hstill))
  rw [hsame] at hgone
  exact hgone hmem

end Quota

/-- How many of the quotas turn away. -/
def fullQuotas (quotas : List Quota) (now : ℕ) : ℕ := quotas.countP fun quota => quota.IsFull now

/-- While nobody is admitted, who comes back when a quota without room says meets fewer of them. -/
theorem fullQuotas_lt (hwithin : quota.WithinLimit now) (hmem : quota ∈ quotas) (hfull : quota.IsFull now)
    (hlater : quota.retryAt now ≤ later) : fullQuotas quotas later < fullQuotas quotas now := by
  have hahead : now ≤ later := Nat.le_trans (Nat.le_of_lt (Quota.lt_retryAt hwithin hfull)) hlater
  have hmono : ∀ qs : List Quota, fullQuotas qs later ≤ fullQuotas qs now := by
    intro qs
    apply List.countP_mono_left
    intro q _ hq
    exact decide_eq_true (Quota.IsFull.earlier (of_decide_eq_true hq) hahead)
  have hroom : ¬ quota.IsFull later := fun hstill =>
    Quota.not_isFull_retryAt hwithin hfull (Quota.IsFull.earlier hstill hlater)
  obtain ⟨before, after, rfl⟩ := List.append_of_mem hmem
  have hbefore := hmono before
  have hafter := hmono after
  unfold fullQuotas at hbefore hafter ⊢
  simp only [List.countP_append, List.countP_cons, hroom, hfull, decide_true, decide_false, if_true]
  simp only [Bool.false_eq_true, if_false]
  omega

lemma fullQuotas_le_length : fullQuotas quotas now ≤ quotas.length := List.countP_le_length

end Quotas

end NimHunt.Lib
