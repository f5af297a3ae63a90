import Mathlib.Data.List.Induction
import Mathlib.Data.Nat.Digits.Defs
import Mathlib.Data.Nat.ModEq

/-!
# Positional numbers

The number that digits write, leading digit first, and its remainder taken along the digits.  Where the base is prime
to the modulus, a change within some of the digits is seen in the remainder as it would be in these digits alone.
-/

namespace NimHunt.Lib

variable {b m : ℕ} {front back mid mid' : List ℕ}

/-- The number written in base `b`. -/
def numberOf (b : ℕ) (digits : List ℕ) : ℕ := Nat.ofDigits b digits.reverse

/-- The remainder by `m`, one digit after another. -/
def remainderOf (b m : ℕ) (digits : List ℕ) : ℕ := digits.foldl (fun remainder digit => (remainder * b + digit) % m) 0

lemma numberOf_append (b : ℕ) (digits digits' : List ℕ) :
    numberOf b (digits ++ digits') = numberOf b digits * b ^ digits'.length + numberOf b digits' := by
  unfold numberOf
  rw [List.reverse_append, Nat.ofDigits_append, List.length_reverse, add_comm, mul_comm]

lemma numberOf_concat (b : ℕ) (digits : List ℕ) (digit : ℕ) :
    numberOf b (digits ++ [digit]) = numberOf b digits * b + digit := by
  rw [numberOf_append, List.length_singleton, pow_one]
  unfold numberOf
  rw [List.reverse_singleton, Nat.ofDigits_singleton]

lemma remainderOf_eq (b m : ℕ) (digits : List ℕ) : remainderOf b m digits = numberOf b digits % m := by
  induction digits using List.reverseRecOn with
  | nil => exact (Nat.zero_mod m).symm
  | append_singleton digits digit ih =>
    unfold remainderOf at ih ⊢
    rw [List.foldl_append, ih, numberOf_concat, List.foldl_cons, List.foldl_nil]
    exact ((Nat.mod_modEq (numberOf b digits) m).mul_right b).add_right digit

/-- Digits around a change tell nothing about it. -/
lemma numberOf_segment (hcoprime : Nat.Coprime m b) (hlength : mid.length = mid'.length)
    (h : numberOf b (front ++ mid ++ back) ≡ numberOf b (front ++ mid' ++ back) [MOD m]) :
    numberOf b mid ≡ numberOf b mid' [MOD m] := by
  rw [numberOf_append, numberOf_append, numberOf_append, numberOf_append, hlength] at h
  have hpow : Nat.gcd m (b ^ back.length) = 1 := hcoprime.pow_right back.length
  have hfront := Nat.ModEq.add_right_cancel' _ h
  exact Nat.ModEq.add_left_cancel' _ (Nat.ModEq.cancel_right_of_coprime hpow hfront)

end NimHunt.Lib
