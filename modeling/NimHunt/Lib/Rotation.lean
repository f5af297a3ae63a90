import NimHunt.Lib.Paging
import Mathlib.Data.Finset.Max
import Mathlib.Algebra.Order.Floor.Div
import Mathlib.Order.Bounds.Defs
import Mathlib.Tactic.Linarith

/-!
# A cursor that goes round a table

A turn visits the first keys after the cursor, or the first keys of all once there are none, and leaves the
cursor on the last of them.  It may delete what it visits, so the table shrinks on both sides of the cursor.
-/

namespace NimHunt.Lib

section Rotation

variable {κ : Type*} [LinearOrder κ]

/-- `taken` holds the first `limit` keys of the pool, or all of them. -/
structure FirstOf (limit : ℕ) (pool taken : Finset κ) : Prop where
  sub : taken ⊆ pool
  low : ∀ x ∈ taken, ∀ y ∈ pool, y < x → y ∈ taken
  full : taken.card = limit ∨ taken = pool

/-- A table in rotation: its keys, those still to be visited, and the cursor. -/
structure Rotation (κ : Type*) where
  present : Finset κ
  due : Finset κ
  cursor : κ

def above (cursor : κ) (keys : Finset κ) : Finset κ := keys.filter fun x => cursor < x

def below (cursor : κ) (keys : Finset κ) : Finset κ := keys.filter fun x => x ≤ cursor

/-- The keys the next turn chooses from. -/
def pool (first : κ) (s : Rotation κ) : Finset κ :=
  if (above s.cursor s.present).Nonempty then above s.cursor s.present else above first s.present

/-- One turn, which visits `taken`. -/
structure Turn (first : κ) (limit : ℕ) (taken : Finset κ) (s s' : Rotation κ) : Prop where
  takes : FirstOf limit (pool first s) taken
  present_sub : s'.present ⊆ s.present
  kept : ∀ x ∈ s.present, x ∉ taken → x ∈ s'.present
  due_eq : s'.due = s.due \ taken
  cursor_mem : taken.Nonempty → s'.cursor ∈ taken
  cursor_ge : ∀ x ∈ taken, x ≤ s'.cursor

/-- On either side of the cursor the keys still due come first, and all keys after it are due as long as one
before it is. -/
structure InRotation (first : κ) (s : Rotation κ) : Prop where
  due_sub : s.due ⊆ s.present
  first_lt : ∀ x ∈ s.present, first < x
  ahead : ∀ x ∈ s.due, s.cursor < x → ∀ y ∈ s.present, s.cursor < y → y < x → y ∈ s.due
  behind : ∀ x ∈ s.due, x ≤ s.cursor → ∀ y ∈ s.present, y < x → y ∈ s.due
  fresh : ∀ x ∈ s.due, x ≤ s.cursor → ∀ y ∈ s.present, s.cursor < y → y ∈ s.due

/-- So many turns are enough: some for the keys after the cursor, the others for those before it. -/
def Within (limit : ℕ) (s : Rotation κ) (turns : ℕ) : Prop :=
  ∃ a b, a + b ≤ turns ∧ (above s.cursor s.due).card ≤ a * limit ∧ (below s.cursor s.due).card ≤ b * limit

variable {first : κ} {limit turns : ℕ} {taken : Finset κ} {s s' : Rotation κ} {x : κ} {keys : Finset κ}

lemma mem_above {cursor : κ} : x ∈ above cursor keys ↔ x ∈ keys ∧ cursor < x := Finset.mem_filter

lemma mem_below {cursor : κ} : x ∈ below cursor keys ↔ x ∈ keys ∧ x ≤ cursor := Finset.mem_filter

lemma Within.mono (h : Within limit s turns) {turns' : ℕ} (hle : turns ≤ turns') : Within limit s turns' := by
  obtain ⟨a, b, hsum, hcards⟩ := h
  exact ⟨a, b, hsum.trans hle, hcards⟩

/-- Of keys that come first in the pool, a turn leaves `limit` fewer. -/
lemma FirstOf.card_sdiff_le {wanted pool : Finset κ} (h : FirstOf limit pool taken) (hsub : wanted ⊆ pool)
    (hfirst : ∀ x ∈ wanted, ∀ y ∈ pool, y < x → y ∈ wanted) : (wanted \ taken).card ≤ wanted.card - limit := by
  by_cases hleft : (wanted \ taken).Nonempty
  · -- what is left lies above everything taken, so everything taken was wanted
    obtain ⟨x, hx⟩ := hleft
    obtain ⟨hwanted, hmissed⟩ := Finset.mem_sdiff.mp hx
    have hinside : taken ⊆ wanted := by
      intro y hy
      have hne : y ≠ x := by
        intro heq
        rw [heq] at hy
        exact hmissed hy
      have hlt : y < x := by
        by_contra hnot
        have hgt : x < y := lt_of_le_of_ne (not_lt.mp hnot) hne.symm
        exact hmissed (h.low y hy x (hsub hwanted) hgt)
      exact hfirst x hwanted y (h.sub hy) hlt
    have hcard : taken.card = limit := by
      cases h.full with
      | inl hfull => exact hfull
      | inr hall =>
        rw [hall] at hmissed
        exact absurd (hsub hwanted) hmissed
    rw [Finset.card_sdiff_of_subset hinside, hcard]
  · rw [Finset.not_nonempty_iff_eq_empty.mp hleft, Finset.card_empty]
    exact Nat.zero_le _

/-- Without keys after the cursor, all of them are before it. -/
lemma pool_wrapped (hnone : ¬ (above s.cursor s.present).Nonempty) (hfirst : ∀ x ∈ s.present, first < x) :
    pool first s = s.present := by
  unfold pool
  rw [if_neg hnone]
  exact Finset.filter_true_of_mem hfirst

lemma le_cursor_of_wrapped (hnone : ¬ (above s.cursor s.present).Nonempty) (hx : x ∈ s.present) : x ≤ s.cursor := by
  by_contra hnot
  exact hnone ⟨x, mem_above.mpr ⟨hx, not_le.mp hnot⟩⟩

lemma Turn.mem_due (h : Turn first limit taken s s') : x ∈ s'.due ↔ x ∈ s.due ∧ x ∉ taken := by
  rw [h.due_eq, Finset.mem_sdiff]

/-- A key after everything visited was not visited. -/
lemma Turn.not_mem_of_gt (h : Turn first limit taken s s') (hx : s'.cursor < x) : x ∉ taken :=
  fun hmem => absurd (h.cursor_ge x hmem) (not_le.mpr hx)

/-- A key of the pool that was not visited comes after everything visited. -/
lemma Turn.cursor_lt (h : Turn first limit taken s s') (hnonempty : taken.Nonempty) (hx : x ∈ pool first s)
    (hmissed : x ∉ taken) : s'.cursor < x := by
  by_contra hnot
  have hcursor := h.cursor_mem hnonempty
  by_cases heq : x = s'.cursor
  · rw [heq] at hmissed
    exact hmissed hcursor
  · exact hmissed (h.takes.low s'.cursor hcursor x hx (lt_of_le_of_ne (not_lt.mp hnot) heq))

lemma FirstOf.nonempty {pool : Finset κ} (h : FirstOf limit pool taken) (hlimit : 0 < limit) (hpool : pool.Nonempty) :
    taken.Nonempty := by
  cases h.full with
  | inl hfull => exact Finset.card_pos.mp (by omega)
  | inr hall =>
    rw [hall]
    exact hpool

/-- A turn while there are keys after the cursor. -/
lemma Turn.ahead (h : Turn first limit taken s s') (hlimit : 0 < limit) (hin : InRotation first s)
    (hsome : (above s.cursor s.present).Nonempty) (hwithin : Within limit s (turns + 1)) :
    InRotation first s' ∧ Within limit s' turns := by
  have hpool : pool first s = above s.cursor s.present := if_pos hsome
  have hnonempty : taken.Nonempty := h.takes.nonempty hlimit (hpool ▸ hsome)
  have hforward : s.cursor < s'.cursor := by
    have hmem := h.takes.sub (h.cursor_mem hnonempty)
    rw [hpool] at hmem
    exact (mem_above.mp hmem).2
  have hvisited : ∀ x ∈ taken, s.cursor < x := by
    intro x hx
    have hmem := h.takes.sub hx
    rw [hpool] at hmem
    exact (mem_above.mp hmem).2
  -- what is due on the near side of the new cursor was on the near side of the old one
  have hback : ∀ x ∈ s'.due, x ≤ s'.cursor → x ≤ s.cursor := by
    intro x hx hle
    obtain ⟨hdue, hmissed⟩ := h.mem_due.mp hx
    by_contra hnot
    have hmem : x ∈ pool first s := by
      rw [hpool]
      exact mem_above.mpr ⟨hin.due_sub hdue, not_le.mp hnot⟩
    exact absurd hle (not_le.mpr (h.cursor_lt hnonempty hmem hmissed))
  constructor
  · refine ⟨?_, ?_, ?_, ?_, ?_⟩
    · intro x hx
      obtain ⟨hdue, hmissed⟩ := h.mem_due.mp hx
      exact h.kept x (hin.due_sub hdue) hmissed
    · intro x hx
      exact hin.first_lt x (h.present_sub hx)
    · intro x hx hlt y hy hylt hyx
      obtain ⟨hdue, -⟩ := h.mem_due.mp hx
      have hydue := hin.ahead x hdue (hforward.trans hlt) y (h.present_sub hy) (hforward.trans hylt) hyx
      exact h.mem_due.mpr ⟨hydue, h.not_mem_of_gt hylt⟩
    · intro x hx hle y hy hyx
      obtain ⟨hdue, -⟩ := h.mem_due.mp hx
      have hle' := hback x hx hle
      have hydue := hin.behind x hdue hle' y (h.present_sub hy) hyx
      refine h.mem_due.mpr ⟨hydue, fun hmem => ?_⟩
      exact absurd (hvisited y hmem) (not_lt.mpr (hyx.le.trans hle'))
    · intro x hx hle y hy hylt
      obtain ⟨hdue, -⟩ := h.mem_due.mp hx
      have hydue := hin.fresh x hdue (hback x hx hle) y (h.present_sub hy) (hforward.trans hylt)
      exact h.mem_due.mpr ⟨hydue, h.not_mem_of_gt hylt⟩
  · obtain ⟨a, b, hsum, habove, hbelow⟩ := hwithin
    have habove' : (above s'.cursor s'.due).card ≤ (above s.cursor s.due).card - limit := by
      have hleft : (above s.cursor s.due \ taken).card ≤ (above s.cursor s.due).card - limit := by
        apply h.takes.card_sdiff_le
        · intro x hx
          obtain ⟨hdue, hlt⟩ := mem_above.mp hx
          rw [hpool]
          exact mem_above.mpr ⟨hin.due_sub hdue, hlt⟩
        · intro x hx y hy hyx
          obtain ⟨hdue, hlt⟩ := mem_above.mp hx
          rw [hpool] at hy
          obtain ⟨hpresent, hylt⟩ := mem_above.mp hy
          exact mem_above.mpr ⟨hin.ahead x hdue hlt y hpresent hylt hyx, hylt⟩
      refine (Finset.card_le_card ?_).trans hleft
      intro x hx
      obtain ⟨hdue, hlt⟩ := mem_above.mp hx
      obtain ⟨hdue', hmissed⟩ := h.mem_due.mp hdue
      exact Finset.mem_sdiff.mpr ⟨mem_above.mpr ⟨hdue', hforward.trans hlt⟩, hmissed⟩
    have hbelow' : (below s'.cursor s'.due).card ≤ (below s.cursor s.due).card := by
      apply Finset.card_le_card
      intro x hx
      obtain ⟨hdue, hle⟩ := mem_below.mp hx
      exact mem_below.mpr ⟨(h.mem_due.mp hdue).1, hback x hdue hle⟩
    by_cases hleft : a = 0
    · -- nothing after the cursor was due, so nothing before it is either
      have hempty : (below s.cursor s.due).card = 0 := by
        rw [hleft, zero_mul] at habove
        have hnone : above s.cursor s.due = ∅ := Finset.card_eq_zero.mp (by omega)
        apply Finset.card_eq_zero.mpr
        apply Finset.eq_empty_of_forall_notMem
        intro x hx
        obtain ⟨hdue, hle⟩ := mem_below.mp hx
        obtain ⟨y, hy⟩ := hsome
        obtain ⟨hpresent, hlt⟩ := mem_above.mp hy
        have hmem : y ∈ above s.cursor s.due := mem_above.mpr ⟨hin.fresh x hdue hle y hpresent hlt, hlt⟩
        rw [hnone] at hmem
        exact Finset.notMem_empty y hmem
      rw [hleft, zero_mul] at habove
      refine ⟨0, 0, Nat.zero_le _, ?_, ?_⟩
      · omega
      · omega
    · obtain ⟨a', rfl⟩ := Nat.exists_eq_succ_of_ne_zero hleft
      rw [Nat.succ_mul] at habove
      exact ⟨a', b, by omega, by omega, by omega⟩

/-- A turn that goes back to the first key. -/
lemma Turn.wrapped (h : Turn first limit taken s s') (hlimit : 0 < limit) (hin : InRotation first s)
    (hnone : ¬ (above s.cursor s.present).Nonempty) (hwithin : Within limit s (turns + 1)) :
    InRotation first s' ∧ Within limit s' turns := by
  have hpool : pool first s = s.present := pool_wrapped hnone hin.first_lt
  have hnothing : ∀ x ∈ s'.due, s'.cursor < x := by
    intro x hx
    obtain ⟨hdue, hmissed⟩ := h.mem_due.mp hx
    have hmem : x ∈ pool first s := by
      rw [hpool]
      exact hin.due_sub hdue
    exact h.cursor_lt (h.takes.nonempty hlimit ⟨x, hmem⟩) hmem hmissed
  have hdownwards : ∀ x ∈ s.due, ∀ y ∈ s.present, y < x → y ∈ s.due := fun x hx =>
    hin.behind x hx (le_cursor_of_wrapped hnone (hin.due_sub hx))
  constructor
  · refine ⟨?_, ?_, ?_, ?_, ?_⟩
    · intro x hx
      obtain ⟨hdue, hmissed⟩ := h.mem_due.mp hx
      exact h.kept x (hin.due_sub hdue) hmissed
    · intro x hx
      exact hin.first_lt x (h.present_sub hx)
    · intro x hx _ y hy hylt hyx
      obtain ⟨hdue, -⟩ := h.mem_due.mp hx
      exact h.mem_due.mpr ⟨hdownwards x hdue y (h.present_sub hy) hyx, h.not_mem_of_gt hylt⟩
    · intro x hx hle
      exact absurd hle (not_le.mpr (hnothing x hx))
    · intro x hx hle
      exact absurd hle (not_le.mpr (hnothing x hx))
  · obtain ⟨a, b, hsum, habove, hbelow⟩ := hwithin
    have hall : below s.cursor s.due = s.due := by
      apply Finset.filter_true_of_mem
      intro x hx
      exact le_cursor_of_wrapped hnone (hin.due_sub hx)
    rw [hall] at hbelow
    have hleft : s'.due.card ≤ s.due.card - limit := by
      rw [h.due_eq]
      apply h.takes.card_sdiff_le
      · rw [hpool]
        exact hin.due_sub
      · intro x hx y hy hyx
        rw [hpool] at hy
        exact hdownwards x hx y hy hyx
    have habove' : (above s'.cursor s'.due).card ≤ s'.due.card := Finset.card_filter_le _ _
    have hbelow' : (below s'.cursor s'.due).card = 0 := by
      apply Finset.card_eq_zero.mpr
      apply Finset.eq_empty_of_forall_notMem
      intro x hx
      obtain ⟨hdue, hle⟩ := mem_below.mp hx
      exact absurd hle (not_le.mpr (hnothing x hdue))
    cases b with
    | zero =>
      rw [zero_mul] at hbelow
      exact ⟨0, 0, Nat.zero_le _, by omega, by omega⟩
    | succ b =>
      rw [Nat.succ_mul] at hbelow
      exact ⟨b, 0, by omega, by omega, by omega⟩

theorem Turn.within (h : Turn first limit taken s s') (hlimit : 0 < limit) (hin : InRotation first s)
    (hwithin : Within limit s (turns + 1)) : InRotation first s' ∧ Within limit s' turns := by
  by_cases hsome : (above s.cursor s.present).Nonempty
  · exact h.ahead hlimit hin hsome hwithin
  · exact h.wrapped hlimit hin hsome hwithin

section Pages

variable {α : Type*} {key : α → κ} {rows : List α}

end Pages

end Rotation

end NimHunt.Lib
