import Mathlib.Data.Int.Log
import Mathlib.Data.Rat.Floor
import Mathlib.Tactic.FieldSimp
import Mathlib.Tactic.Linarith
import Mathlib.Tactic.Ring

/-!
# Rounding to binary64

Exact results are rounded to 53 bits: to an integer multiple of a power of two that depends on the size of the result.
How the multiple is rounded to an integer is a parameter, as long as it is a nearest one.
-/

namespace NimHunt.Lib

section Rounding

/-- An integer next to the number. -/
def NearestInteger (round : ℚ → ℤ) : Prop := ∀ x, |(round x : ℚ) - x| ≤ 1 / 2

variable {round : ℚ → ℤ} (hround : NearestInteger round)
include hround

lemma NearestInteger.le_of_le {x : ℚ} {k : ℤ} (h : x ≤ k) : round x ≤ k := by
  have hnear := (abs_le.mp (hround x)).2
  have hlt : (round x : ℚ) < (k + 1 : ℤ) := by
    push_cast
    linarith
  exact Int.lt_add_one_iff.mp (Int.cast_lt.mp hlt)

lemma NearestInteger.ge_of_ge {x : ℚ} {k : ℤ} (h : (k : ℚ) ≤ x) : k ≤ round x := by
  have hnear := (abs_le.mp (hround x)).1
  have hlt : ((k - 1 : ℤ) : ℚ) < round x := by
    push_cast
    linarith
  exact Int.sub_one_lt_iff.mp (Int.cast_lt.mp hlt)

lemma NearestInteger.intCast (k : ℤ) : round k = k :=
  le_antisymm (hround.le_of_le le_rfl) (hround.ge_of_ge le_rfl)

end Rounding

section HalfEven

/-- The nearest integer; a half goes to the even neighbour. -/
def roundHalfEven (x : ℚ) : ℤ :=
  if Int.fract x = 1 / 2 then (if 2 ∣ ⌊x⌋ then ⌊x⌋ else ⌊x⌋ + 1) else ⌊x + 1 / 2⌋

lemma roundHalfEven_nearest : NearestInteger roundHalfEven := by
  intro x
  have hfract := Int.fract_add_floor x
  unfold roundHalfEven
  split_ifs with hhalf heven
  · rw [abs_le]
    constructor <;> linarith
  · rw [abs_le]
    push_cast
    constructor <;> linarith
  · have hle := Int.floor_le (x + 1 / 2)
    have hlt := Int.lt_floor_add_one (x + 1 / 2)
    rw [abs_le]
    constructor <;> linarith

end HalfEven

section Binary64

/-- The exponent of the last bit: 53 bits, but no bit below the smallest subnormal number. -/
def lastBit (x : ℚ) : ℤ := max (Int.log 2 |x| - 52) (-1074)

/-- The number in binary64 for an exact result in its range. -/
def binary64 (round : ℚ → ℤ) (x : ℚ) : ℚ := round (x / 2 ^ lastBit x) * 2 ^ lastBit x

variable {round : ℚ → ℤ} {x : ℚ} {k : ℤ}

lemma lastBit_le_of_ne_zero (hx : x ≠ 0) (h : |x| < 2 ^ k) (hk : -1021 ≤ k) : lastBit x ≤ k - 53 := by
  have hlog : Int.log 2 |x| < k := (Int.lt_zpow_iff_log_lt (by norm_num) (abs_pos.mpr hx)).mp (by exact_mod_cast h)
  unfold lastBit
  omega

lemma lastBit_le (h : |x| < 2 ^ k) (hk : 1 ≤ k) : lastBit x ≤ k - 53 := by
  by_cases hx : x = 0
  · unfold lastBit
    rw [hx, abs_zero, Int.log_zero_right]
    omega
  · exact lastBit_le_of_ne_zero hx h (by omega)

/-- The rounding error is at most half of the last bit. -/
lemma abs_binary64_sub_le (hround : NearestInteger round) (h : |x| < 2 ^ k) (hk : 1 ≤ k) :
    |binary64 round x - x| ≤ 2 ^ (k - 54) := by
  have hpos : (0 : ℚ) < 2 ^ lastBit x := zpow_pos (by norm_num) _
  have hstep : (2 : ℚ) ^ lastBit x ≤ 2 ^ (k - 53) := zpow_le_zpow_right₀ (by norm_num) (lastBit_le h hk)
  have hhalf : (2 : ℚ) ^ (k - 54) = 1 / 2 * 2 ^ (k - 53) := by
    rw [show k - 53 = k - 54 + 1 by ring, zpow_add_one₀ (by norm_num)]
    ring
  calc |binary64 round x - x|
      = |(round (x / 2 ^ lastBit x) : ℚ) - x / 2 ^ lastBit x| * 2 ^ lastBit x := by
        rw [← abs_of_pos hpos, ← abs_mul, abs_of_pos hpos]
        unfold binary64
        congr 1
        field_simp
    _ ≤ 1 / 2 * 2 ^ lastBit x := mul_le_mul_of_nonneg_right (hround _) hpos.le
    _ ≤ 1 / 2 * 2 ^ (k - 53) := mul_le_mul_of_nonneg_left hstep (by norm_num)
    _ = 2 ^ (k - 54) := hhalf.symm

/-- A multiple of a power of two is one of each lower power. -/
lemma multiple_of_le {low high : ℤ} (m : ℤ) (h : low ≤ high) :
    ∃ multiple : ℤ, (m : ℚ) * 2 ^ high = multiple * 2 ^ low := by
  refine ⟨m * 2 ^ (high - low).toNat, ?_⟩
  have hexp : (2 : ℚ) ^ (high - low).toNat = 2 ^ (high - low) := by
    rw [← zpow_natCast, Int.toNat_of_nonneg (by omega)]
  push_cast
  rw [hexp, mul_assoc, ← zpow_add₀ (by norm_num), sub_add_cancel]

/-- An integer is a multiple of each last bit that is not above one. -/
lemma int_div_lastBit (m : ℤ) (h : lastBit x ≤ 0) : ∃ multiple : ℤ, (m : ℚ) = multiple * 2 ^ lastBit x := by
  obtain ⟨multiple, hm⟩ := multiple_of_le m h
  rw [zpow_zero, mul_one] at hm
  exact ⟨multiple, hm⟩

lemma binary64_le (hround : NearestInteger round) {m : ℤ} (hx : x ≤ m) (h : lastBit x ≤ 0) : binary64 round x ≤ m := by
  have hpos : (0 : ℚ) < 2 ^ lastBit x := zpow_pos (by norm_num) _
  obtain ⟨multiple, hm⟩ := int_div_lastBit m h
  have hle : round (x / 2 ^ lastBit x) ≤ multiple :=
    hround.le_of_le (by rw [div_le_iff₀ hpos, ← hm]; exact hx)
  unfold binary64
  rw [hm]
  exact mul_le_mul_of_nonneg_right (Int.cast_le.mpr hle) hpos.le

lemma le_binary64 (hround : NearestInteger round) {m : ℤ} (hx : (m : ℚ) ≤ x) (h : lastBit x ≤ 0) : m ≤ binary64 round x := by
  have hpos : (0 : ℚ) < 2 ^ lastBit x := zpow_pos (by norm_num) _
  obtain ⟨multiple, hm⟩ := int_div_lastBit m h
  have hle : multiple ≤ round (x / 2 ^ lastBit x) :=
    hround.ge_of_ge (by rw [le_div_iff₀ hpos, ← hm]; exact hx)
  unfold binary64
  rw [hm]
  exact mul_le_mul_of_nonneg_right (Int.cast_le.mpr hle) hpos.le

/-- A multiple of the last bit is a binary64 number. -/
lemma binary64_of_multiple (hround : NearestInteger round) (multiple : ℤ) (hx : x = multiple * 2 ^ lastBit x) :
    binary64 round x = x := by
  have hpos : (2 : ℚ) ^ lastBit x ≠ 0 := zpow_ne_zero _ (by norm_num)
  have hquotient : x / 2 ^ lastBit x = multiple := by
    rw [div_eq_iff hpos]
    exact hx
  unfold binary64
  rw [hquotient, hround.intCast]
  exact hx.symm

/-- Fifty-three bits reach up to the number. -/
lemma abs_lt_lastBit (x : ℚ) : |x| < 2 ^ (lastBit x + 53) := by
  by_cases hx : x = 0
  · rw [hx, abs_zero]
    exact zpow_pos (by norm_num) _
  · have hlog : Int.log 2 |x| < lastBit x + 53 := by
      unfold lastBit
      omega
    exact_mod_cast (Int.lt_zpow_iff_log_lt (b := 2) (by norm_num) (abs_pos.mpr hx)).mpr hlog

/-- A rounded number is rounded to itself. -/
lemma binary64_binary64 (hround : NearestInteger round) (x : ℚ) :
    binary64 round (binary64 round x) = binary64 round x := by
  generalize hy : binary64 round x = y
  unfold binary64 at hy
  have hpos : (0 : ℚ) < 2 ^ lastBit x := zpow_pos (by norm_num) _
  have hleast : -1074 ≤ lastBit x := le_max_right _ _
  have hquotient : |x / 2 ^ lastBit x| < 2 ^ 53 := by
    rw [abs_div, abs_of_pos hpos, div_lt_iff₀ hpos]
    have hlt := abs_lt_lastBit x
    rw [zpow_add₀ (by norm_num), mul_comm] at hlt
    exact_mod_cast hlt
  obtain ⟨hlow, hhigh⟩ := abs_lt.mp hquotient
  generalize x / 2 ^ lastBit x = quotient at hy hlow hhigh
  have hmost : round quotient ≤ 2 ^ 53 := hround.le_of_le (by push_cast; exact hhigh.le)
  have hleastRound : -(2 ^ 53) ≤ round quotient := hround.ge_of_ge (by push_cast; exact hlow.le)
  generalize round quotient = m at hy hmost hleastRound
  have hsize : |y| = (|m| : ℤ) * 2 ^ lastBit x := by
    rw [← hy, abs_mul, abs_of_pos hpos, Int.cast_abs]
  have hmultiple : ∃ multiple : ℤ, y = multiple * 2 ^ lastBit y := by
    by_cases hzero : y = 0
    · exact ⟨0, by simpa using hzero⟩
    by_cases hfull : |m| = 2 ^ 53
    · -- the number has grown by a bit, and its last bit with it
      have hbit : lastBit y ≤ lastBit x + 1 := by
        have hlt : |y| < 2 ^ (lastBit x + 54) := by
          rw [hsize, hfull, zpow_add₀ (by norm_num), mul_comm]
          push_cast
          exact mul_lt_mul_of_pos_left (by norm_num) hpos
        have hle := lastBit_le_of_ne_zero hzero hlt (by omega)
        omega
      have heven : ∃ half : ℤ, m = 2 * half := by
        rcases abs_choice m with habs | habs
        · exact ⟨2 ^ 52, by omega⟩
        · exact ⟨-2 ^ 52, by omega⟩
      obtain ⟨half, hhalf⟩ := heven
      obtain ⟨multiple, hm⟩ := multiple_of_le half hbit
      refine ⟨multiple, ?_⟩
      rw [← hm, ← hy, hhalf, zpow_add_one₀ (by norm_num)]
      push_cast
      ring
    · have hbit : lastBit y ≤ lastBit x := by
        have hless : |m| < 2 ^ 53 := lt_of_le_of_ne (abs_le.mpr ⟨hleastRound, hmost⟩) hfull
        have hlt : |y| < 2 ^ (lastBit x + 53) := by
          rw [hsize, zpow_add₀ (by norm_num), mul_comm]
          exact mul_lt_mul_of_pos_left (by exact_mod_cast hless) hpos
        have hle := lastBit_le_of_ne_zero hzero hlt (by omega)
        omega
      obtain ⟨multiple, hm⟩ := multiple_of_le m hbit
      exact ⟨multiple, by rw [← hm, ← hy]⟩
  obtain ⟨multiple, hm⟩ := hmultiple
  exact binary64_of_multiple hround _ hm

end Binary64

end NimHunt.Lib
