import Mathlib.Tactic.Common

/-!
# Sliding windows of a given width

A list of times fits a limit when no window `(t - width, t]` holds more of them than the limit.  A time is
added safely when it is not before a moment at which the recent times left room.
-/

namespace NimHunt.Lib

section Windows

variable {width limit now m : ℕ} {times : List ℕ}

/-- How many of the times lie in `(t - width, t]`. -/
def inWindow (width t : ℕ) (times : List ℕ) : ℕ := times.countP fun a => a ≤ t ∧ t < a + width

/-- How many of the times are younger than `width` at `now`, later ones included. -/
def recentCount (width now : ℕ) (times : List ℕ) : ℕ := times.countP fun a => now < a + width

def FitsWindows (width limit : ℕ) (times : List ℕ) : Prop := ∀ t, inWindow width t times ≤ limit

lemma inWindow_append (t : ℕ) (times times' : List ℕ) :
    inWindow width t (times ++ times') = inWindow width t times + inWindow width t times' :=
  List.countP_append

/-- The window of a later moment holds no more than what is recent now. -/
lemma inWindow_le_recentCount {t : ℕ} (h : now ≤ t) : inWindow width t times ≤ recentCount width now times := by
  apply List.countP_mono_left
  intro a _ ha
  simp only [decide_eq_true_eq] at ha ⊢
  omega

/-- Before any time lies ahead, what is recent is what the window of now holds. -/
lemma recentCount_eq_inWindow (h : ∀ a ∈ times, a ≤ now) : recentCount width now times = inWindow width now times := by
  apply List.countP_congr
  intro a ha
  have hpast := h a ha
  simp only [decide_eq_true_eq]
  omega

/-- The clock may move on between the check and the new time. -/
theorem FitsWindows.add (h : FitsWindows width limit times) (hroom : recentCount width now times < limit)
    (hlater : now ≤ m) : FitsWindows width limit (times ++ [m]) := by
  intro t
  have hold := h t
  rw [inWindow_append]
  by_cases hin : m ≤ t ∧ t < m + width
  · have hnew : inWindow width t [m] = 1 := by simp [inWindow, hin]
    have hrecent : inWindow width t times ≤ recentCount width now times :=
      inWindow_le_recentCount (Nat.le_trans hlater hin.1)
    omega
  · have hnew : inWindow width t [m] = 0 := by
      unfold inWindow
      rw [List.countP_eq_zero]
      intro a ha
      rw [List.mem_singleton.mp ha]
      simpa using hin
    omega

end Windows

end NimHunt.Lib
