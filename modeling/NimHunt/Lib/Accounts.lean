import NimHunt.Lib.Paging
import Mathlib.Algebra.BigOperators.Group.List.Basic
import Mathlib.Algebra.Order.BigOperators.Group.List
import Mathlib.Algebra.Order.BigOperators.Group.Finset
import Mathlib.Tactic.Linarith

/-!
# Accounts

An account is the list of its entries, oldest first.  It is never overdrawn if what has been paid out is covered by
what has come in at every point of that list, and then the newest entries by themselves never show more than there is.
-/

namespace NimHunt.Lib

section Balance

variable {α : Type*} {credit debit credit' debit' : α → ℕ} {rows : List α}

/-- What the rows come to. -/
def sumBy (f : α → ℕ) (rows : List α) : ℕ := (rows.map f).sum

@[simp] lemma sumBy_nil (f : α → ℕ) : sumBy f [] = 0 := rfl

@[simp] lemma sumBy_cons (f : α → ℕ) (x : α) (rows : List α) : sumBy f (x :: rows) = f x + sumBy f rows := by
  simp [sumBy]

@[simp] lemma sumBy_append (f : α → ℕ) (xs ys : List α) : sumBy f (xs ++ ys) = sumBy f xs + sumBy f ys := by
  simp [sumBy]

@[simp] lemma sumBy_reverse (f : α → ℕ) (rows : List α) : sumBy f rows.reverse = sumBy f rows := by
  unfold sumBy
  rw [List.map_reverse, List.sum_reverse]

lemma sumBy_take_add_drop (f : α → ℕ) (n : ℕ) (rows : List α) :
    sumBy f (rows.take n) + sumBy f (rows.drop n) = sumBy f rows := by
  rw [← sumBy_append, List.take_append_drop]

lemma sumBy_le {f g : α → ℕ} (h : ∀ x ∈ rows, f x ≤ g x) : sumBy f rows ≤ sumBy g rows := by
  induction rows with
  | nil => exact le_refl _
  | cons x rows ih =>
    have hhead := h x List.mem_cons_self
    have hrest := ih fun y hy => h y (List.mem_cons_of_mem x hy)
    simp only [sumBy_cons]
    omega

lemma sumBy_congr {f g : α → ℕ} (h : ∀ x ∈ rows, f x = g x) : sumBy f rows = sumBy g rows := by
  unfold sumBy
  rw [List.map_congr_left h]

lemma sumBy_map {β : Type*} (f : β → ℕ) (g : α → β) (rows : List α) :
    sumBy f (rows.map g) = sumBy (fun x => f (g x)) rows := by
  unfold sumBy
  rw [List.map_map]
  rfl

lemma sumBy_add (f g : α → ℕ) (rows : List α) : sumBy (fun x => f x + g x) rows = sumBy f rows + sumBy g rows := by
  induction rows with
  | nil => rfl
  | cons x rows ih =>
    simp only [sumBy_cons, ih]
    omega

/-- A sum over some of the rows. -/
lemma sumBy_filter (p : α → Bool) (f : α → ℕ) (rows : List α) :
    sumBy f (rows.filter p) = sumBy (fun x => if p x then f x else 0) rows := by
  induction rows with
  | nil => rfl
  | cons x rows ih =>
    by_cases hx : p x = true
    · simp [hx, ih]
    · simp [hx, ih]

/-- A row whose amounts do not count. -/
lemma sumBy_eq_zero {f : α → ℕ} (h : ∀ x ∈ rows, f x = 0) : sumBy f rows = 0 := by
  induction rows with
  | nil => rfl
  | cons x rows ih =>
    rw [sumBy_cons, h x List.mem_cons_self, ih fun y hy => h y (List.mem_cons_of_mem x hy)]

/-- At most one row counts, and it is bounded. -/
lemma sumBy_le_of_single {f : α → ℕ} {p : α → Bool} {bound : ℕ} (hone : rows.countP p ≤ 1)
    (hzero : ∀ x ∈ rows, p x = false → f x = 0) (hbound : ∀ x ∈ rows, p x = true → f x ≤ bound) :
    sumBy f rows ≤ bound := by
  induction rows with
  | nil => exact Nat.zero_le _
  | cons x rows ih =>
    rw [sumBy_cons]
    by_cases hx : p x = true
    · rw [List.countP_cons_of_pos hx] at hone
      have hnone : rows.countP p = 0 := by omega
      have hrest : sumBy f rows = 0 := by
        refine sumBy_eq_zero fun y hy => hzero y (List.mem_cons_of_mem x hy) ?_
        simpa using List.countP_eq_zero.mp hnone y hy
      have hhead := hbound x List.mem_cons_self hx
      omega
    · rw [List.countP_cons_of_neg hx] at hone
      have hhead := hzero x List.mem_cons_self (by simpa using hx)
      have hrest := ih hone (fun y hy => hzero y (List.mem_cons_of_mem x hy))
        fun y hy => hbound y (List.mem_cons_of_mem x hy)
      omega

variable (credit debit) in
/-- At every point of its history the account covers what has been paid out of it. -/
def NeverOverdrawn (rows : List α) : Prop := ∀ n, sumBy debit (rows.take n) ≤ sumBy credit (rows.take n)

lemma neverOverdrawn_nil : NeverOverdrawn credit debit [] := by
  intro n
  simp

lemma NeverOverdrawn.solvent (h : NeverOverdrawn credit debit rows) : sumBy debit rows ≤ sumBy credit rows := by
  have hall := h rows.length
  rwa [List.take_length] at hall

/-- A new entry has to be covered by all that is there. -/
lemma NeverOverdrawn.concat {row : α} (h : NeverOverdrawn credit debit rows)
    (hrow : sumBy debit rows + debit row ≤ sumBy credit rows) : NeverOverdrawn credit debit (rows ++ [row]) := by
  intro n
  by_cases hn : n ≤ rows.length
  · rw [List.take_append_of_le_length hn]
    exact h n
  · rw [List.take_of_length_le (by simp; omega)]
    simp only [sumBy_append, sumBy_cons, sumBy_nil]
    omega

/-- Entries may come to more, and cost less. -/
lemma NeverOverdrawn.map {β : Type*} {credit' debit' : β → ℕ} {g : α → β} (h : NeverOverdrawn credit debit rows)
    (hcredit : ∀ x ∈ rows, credit x ≤ credit' (g x)) (hdebit : ∀ x ∈ rows, debit' (g x) ≤ debit x) :
    NeverOverdrawn credit' debit' (rows.map g) := by
  intro n
  rw [← List.map_take, sumBy_map, sumBy_map]
  have hmem : ∀ x ∈ rows.take n, x ∈ rows := fun x hx => List.mem_of_mem_take hx
  calc
    sumBy (fun x => debit' (g x)) (rows.take n) ≤ sumBy debit (rows.take n) := sumBy_le fun x hx => hdebit x (hmem x hx)
    _ ≤ sumBy credit (rows.take n) := h n
    _ ≤ sumBy (fun x => credit' (g x)) (rows.take n) := sumBy_le fun x hx => hcredit x (hmem x hx)

lemma NeverOverdrawn.mono (h : NeverOverdrawn credit debit rows) (hdebit : ∀ x ∈ rows, debit' x ≤ debit x) :
    NeverOverdrawn credit debit' rows := by
  have hmap := NeverOverdrawn.map (g := id) h (fun _ _ => le_refl _) hdebit
  rwa [List.map_id] at hmap

/-- The newest entries show no more than there is. -/
lemma NeverOverdrawn.drop_le (h : NeverOverdrawn credit debit rows) (n : ℕ) :
    sumBy credit (rows.drop n) - sumBy debit (rows.drop n) ≤ sumBy credit rows - sumBy debit rows := by
  have hcovered := h n
  have hcredit := sumBy_take_add_drop credit n rows
  have hdebit := sumBy_take_add_drop debit n rows
  omega

/-- Nor does the page of them that is read newest first. -/
theorem NeverOverdrawn.page_le {r : α → α → Prop} [DecidableRel r] (h : NeverOverdrawn credit debit rows)
    (hordered : rows.Pairwise fun x y => ¬ r x y) (limit : ℕ) :
    sumBy credit (page r limit rows) - sumBy debit (page r limit rows) ≤ sumBy credit rows - sumBy debit rows := by
  rw [page_eq_reverse_drop hordered, sumBy_reverse, sumBy_reverse]
  exact h.drop_le _

end Balance

section Payees

variable {α ι : Type*} [DecidableEq ι] {amount : α → ℕ} {payee : α → Option ι} {share : ι → ℕ} {rows : List α}
  {payees : Finset ι}

/-- Payments of shares, at most one to each payee, come to no more than the shares. -/
lemma sumBy_le_shares (hone : ∀ i, rows.countP (fun x => payee x = some i) ≤ 1)
    (hnone : ∀ x ∈ rows, payee x = none → amount x = 0)
    (hshare : ∀ x ∈ rows, ∀ i, payee x = some i → i ∈ payees ∧ amount x = share i) :
    sumBy amount rows ≤ ∑ i ∈ payees, share i := by
  induction rows generalizing payees with
  | nil => exact Nat.zero_le _
  | cons x rows ih =>
    have hrest : ∀ i, rows.countP (fun x => payee x = some i) ≤ 1 := by
      intro i
      have hcount := hone i
      rw [List.countP_cons] at hcount
      omega
    have hnone' : ∀ y ∈ rows, payee y = none → amount y = 0 := fun y hy => hnone y (List.mem_cons_of_mem x hy)
    rw [sumBy_cons]
    cases hpayee : payee x with
    | none =>
      rw [hnone x List.mem_cons_self hpayee, Nat.zero_add]
      exact ih hrest hnone' fun y hy => hshare y (List.mem_cons_of_mem x hy)
    | some i =>
      obtain ⟨hmem, hamount⟩ := hshare x List.mem_cons_self i hpayee
      have hother : rows.countP (fun x => payee x = some i) = 0 := by
        have hcount := hone i
        rw [List.countP_cons_of_pos (by simpa using hpayee)] at hcount
        omega
      have herased : sumBy amount rows ≤ ∑ j ∈ payees.erase i, share j := by
        refine ih hrest hnone' fun y hy j hj => ?_
        obtain ⟨hpayees, hshares⟩ := hshare y (List.mem_cons_of_mem x hy) j hj
        refine ⟨Finset.mem_erase.mpr ⟨?_, hpayees⟩, hshares⟩
        rintro rfl
        exact absurd (by simpa using hj) (List.countP_eq_zero.mp hother y hy)
      rw [hamount, ← Finset.add_sum_erase payees share hmem]
      exact Nat.add_le_add_left herased _

/-- With a payment to each of them the shares come to no more than the payments. -/
lemma shares_le_sumBy (hpaid : ∀ i ∈ payees, ∃ x ∈ rows, payee x = some i ∧ share i ≤ amount x) :
    ∑ i ∈ payees, share i ≤ sumBy amount rows := by
  induction rows generalizing payees with
  | nil =>
    have hempty : payees = ∅ := Finset.eq_empty_of_forall_notMem fun i hi => by
      obtain ⟨x, hx, -⟩ := hpaid i hi
      cases hx
    rw [hempty, Finset.sum_empty]
    exact Nat.zero_le _
  | cons x rows ih =>
    rw [sumBy_cons]
    by_cases hhead : ∃ i ∈ payees, payee x = some i ∧ share i ≤ amount x
    · obtain ⟨i, hi, hpayee, hshare⟩ := hhead
      have herased : ∑ j ∈ payees.erase i, share j ≤ sumBy amount rows := by
        refine ih fun j hj => ?_
        obtain ⟨hne, hj⟩ := Finset.mem_erase.mp hj
        obtain ⟨y, hy, hyj, hyshare⟩ := hpaid j hj
        cases List.mem_cons.mp hy with
        | inl hyx =>
          rw [hyx, hpayee] at hyj
          exact absurd (Option.some.inj hyj).symm hne
        | inr hy => exact ⟨y, hy, hyj, hyshare⟩
      rw [← Finset.add_sum_erase payees share hi]
      omega
    · refine (ih fun i hi => ?_).trans (Nat.le_add_left _ _)
      obtain ⟨y, hy, hyi, hyshare⟩ := hpaid i hi
      cases List.mem_cons.mp hy with
      | inl hyx => exact absurd ⟨i, hi, hyx ▸ hyi, hyx ▸ hyshare⟩ hhead
      | inr hy => exact ⟨y, hy, hyi, hyshare⟩

end Payees

end NimHunt.Lib
