import Mathlib.Algebra.Order.Field.Basic
import Mathlib.Logic.Function.Basic

/-!
# Bisection in turn

Boxes with two axes are halved along one axis and the other in turn.  An interval has its lower end, and not its upper
end unless that is the top of its axis, so each point of a box is in one of the halves: the sides it falls on name all
boxes that it is in.
-/

namespace NimHunt.Lib.Bisection

variable {K : Type} [Field K] [LinearOrder K]
variable {top x : K} {i : K × K} {tops point : Bool → K} {box : Bool → K × K} {axis upper : Bool} {sides : List Bool}

def middle (i : K × K) : K := (i.1 + i.2) / 2

def half (upper : Bool) (i : K × K) : K × K := if upper then (middle i, i.2) else (i.1, middle i)

/-- The interval has the point; the top of the axis belongs to the last interval. -/
def Within (top : K) (i : K × K) (x : K) : Prop := i.1 ≤ x ∧ (x < i.2 ∨ x = top ∧ i.2 = top)

def halveAlong (axis upper : Bool) (box : Bool → K × K) : Bool → K × K :=
  Function.update box axis (half upper (box axis))

/-- The box on these sides, the first along `axis`. -/
def narrow (axis : Bool) (box : Bool → K × K) : List Bool → Bool → K × K
  | [] => box
  | upper :: sides => narrow (!axis) (halveAlong axis upper box) sides

/-- The sides on which a point falls. -/
def sidesOf (point : Bool → K) (axis : Bool) (box : Bool → K × K) : ℕ → List Bool
  | 0 => []
  | n + 1 =>
    let upper := decide (middle (box axis) ≤ point axis)
    upper :: sidesOf point (!axis) (halveAlong axis upper box) n

def InBox (tops : Bool → K) (box : Bool → K × K) (point : Bool → K) : Prop :=
  ∀ axis, Within (tops axis) (box axis) (point axis)

lemma sidesOf_succ (point : Bool → K) (axis : Bool) (box : Bool → K × K) (n : ℕ) : sidesOf point axis box (n + 1) =
    decide (middle (box axis) ≤ point axis) ::
      sidesOf point (!axis) (halveAlong axis (decide (middle (box axis) ≤ point axis)) box) n := rfl

lemma length_sidesOf (point : Bool → K) (axis : Bool) (box : Bool → K × K) (n : ℕ) :
    (sidesOf point axis box n).length = n := by
  induction n generalizing axis box with
  | zero => rfl
  | succ n ih => exact congrArg Nat.succ (ih _ _)

lemma sidesOf_prefix (point : Bool → K) (axis : Bool) (box : Bool → K × K) {n m : ℕ} (h : n ≤ m) :
    sidesOf point axis box n <+: sidesOf point axis box m := by
  induction n generalizing axis box m with
  | zero => exact List.nil_prefix
  | succ n ih =>
    cases m with
    | zero => omega
    | succ m => exact List.cons_prefix_cons.mpr ⟨rfl, ih _ _ (by omega)⟩

/-- A proper interval of the axis. -/
structure Proper (top : K) (i : K × K) : Prop where
  lt : i.1 < i.2
  le : i.2 ≤ top

variable [IsStrictOrderedRing K]

lemma Proper.middle_inside (h : Proper top i) : i.1 < middle i ∧ middle i < i.2 :=
  ⟨left_lt_add_div_two.mpr h.lt, add_div_two_lt_right.mpr h.lt⟩

lemma Proper.halved (h : Proper top i) (upper : Bool) : Proper top (half upper i) := by
  obtain ⟨hlow, hhigh⟩ := h.middle_inside
  cases upper with
  | true => exact ⟨hhigh, h.le⟩
  | false => exact ⟨hlow, (hhigh.trans_le h.le).le⟩

/-- A half has the points of the interval on its side of the middle; the middle itself goes up. -/
lemma Proper.within_half (h : Proper top i) :
    Within top (half upper i) x ↔ Within top i x ∧ upper = decide (middle i ≤ x) := by
  obtain ⟨hlow, hhigh⟩ := h.middle_inside
  have hmiddle : middle i ≠ top := (hhigh.trans_le h.le).ne
  cases upper with
  | true =>
    constructor
    · rintro ⟨hle, hend⟩
      exact ⟨⟨hlow.le.trans hle, hend⟩, (decide_eq_true hle).symm⟩
    · rintro ⟨⟨-, hend⟩, hside⟩
      exact ⟨of_decide_eq_true hside.symm, hend⟩
  | false =>
    constructor
    · rintro ⟨hle, hlt | ⟨-, htop⟩⟩
      · exact ⟨⟨hle, .inl (hlt.trans hhigh)⟩, (decide_eq_false (not_le.mpr hlt)).symm⟩
      · exact absurd htop hmiddle
    · rintro ⟨⟨hle, -⟩, hside⟩
      exact ⟨hle, .inl (not_le.mp (of_decide_eq_false hside.symm))⟩

lemma proper_halveAlong (h : ∀ axis, Proper (tops axis) (box axis)) (axis upper : Bool) (other : Bool) :
    Proper (tops other) (halveAlong axis upper box other) := by
  unfold halveAlong
  by_cases hother : other = axis
  · subst hother
    rw [Function.update_self]
    exact (h other).halved upper
  · rw [Function.update_of_ne hother]
    exact h other

lemma inBox_halveAlong (h : ∀ axis, Proper (tops axis) (box axis)) : InBox tops (halveAlong axis upper box) point ↔
    InBox tops box point ∧ upper = decide (middle (box axis) ≤ point axis) := by
  have hself : halveAlong axis upper box axis = half upper (box axis) := Function.update_self _ _ _
  have hother : ∀ other, other ≠ axis → halveAlong axis upper box other = box other := fun other hne =>
    Function.update_of_ne hne _ _
  constructor
  · intro hin
    have haxis := hin axis
    rw [hself, (h axis).within_half] at haxis
    refine ⟨?_, haxis.2⟩
    intro other
    by_cases hne : other = axis
    · exact hne ▸ haxis.1
    · exact hother other hne ▸ hin other
  · rintro ⟨hin, hside⟩ other
    by_cases hne : other = axis
    · subst hne
      rw [hself, (h other).within_half]
      exact ⟨hin other, hside⟩
    · rw [hother other hne]
      exact hin other

/-- The boxes that have a point of the first box are named by the sides it falls on. -/
lemma inBox_narrow (h : ∀ axis, Proper (tops axis) (box axis)) : InBox tops (narrow axis box sides) point ↔
    InBox tops box point ∧ sides = sidesOf point axis box sides.length := by
  induction sides generalizing axis box with
  | nil => exact (and_iff_left rfl).symm
  | cons upper sides ih =>
    unfold narrow
    rw [ih (proper_halveAlong h axis upper), inBox_halveAlong h, List.length_cons, sidesOf_succ, List.cons.injEq]
    constructor
    · rintro ⟨⟨hin, rfl⟩, hsides⟩
      exact ⟨hin, rfl, hsides⟩
    · rintro ⟨hin, rfl, hsides⟩
      exact ⟨⟨hin, rfl⟩, hsides⟩

end NimHunt.Lib.Bisection
