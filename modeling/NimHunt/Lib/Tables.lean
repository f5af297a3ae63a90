import Mathlib.Tactic.Common
import Mathlib.Tactic.Linarith
import Mathlib.Data.List.Nodup
import Mathlib.Data.List.Count
import Mathlib.Algebra.BigOperators.Group.List.Basic
import Mathlib.Algebra.Order.BigOperators.Group.List

/-!
# Tables as lists

A table is the list of its rows in insertion order.  `updateWhere sel f` is the statement
`UPDATE … SET f WHERE sel`; a key column is a function on rows that no update changes.
-/

namespace NimHunt.Lib

section Tables

variable {α κ : Type*}

def updateWhere (sel : α → Bool) (f : α → α) (xs : List α) : List α :=
  xs.map fun x => if sel x then f x else x

variable {sel : α → Bool} {f : α → α} {xs : List α}

@[simp] lemma updateWhere_nil : updateWhere sel f ([] : List α) = [] := rfl

@[simp] lemma updateWhere_cons (x : α) :
    updateWhere sel f (x :: xs) = (if sel x then f x else x) :: updateWhere sel f xs := rfl

lemma mem_updateWhere {y : α} :
    y ∈ updateWhere sel f xs ↔ ∃ x ∈ xs, (if sel x then f x else x) = y := by
  simp [updateWhere]

@[simp] lemma length_updateWhere : (updateWhere sel f xs).length = xs.length := by
  simp [updateWhere]

/-- An update never changes a key column. -/
lemma map_updateWhere {key : α → κ} (hkey : ∀ x, key (f x) = key x) :
    (updateWhere sel f xs).map key = xs.map key := by
  simp only [updateWhere, List.map_map]
  refine List.map_congr_left fun x _ => ?_
  by_cases h : sel x <;> simp [h, hkey]

lemma updateWhere_congr {sel' : α → Bool} {f' : α → α}
    (h : ∀ x ∈ xs, (if sel x then f x else x) = if sel' x then f' x else x) :
    updateWhere sel f xs = updateWhere sel' f' xs :=
  List.map_congr_left h

lemma updateWhere_eq_self (h : ∀ x ∈ xs, sel x = true → f x = x) :
    updateWhere sel f xs = xs := by
  conv_rhs => rw [← List.map_id xs]
  refine List.map_congr_left fun x hx => ?_
  by_cases hs : sel x
  · simp [hs, h x hx hs]
  · simp [hs]

/-- An update that makes no new row satisfy `p` does not raise the count of `p`. -/
lemma countP_updateWhere_le {p : α → Bool}
    (h : ∀ x ∈ xs, sel x = true → p (f x) = true → p x = true) :
    (updateWhere sel f xs).countP p ≤ xs.countP p := by
  induction xs with
  | nil => simp
  | cons x xs ih =>
    have hrest := ih fun y hy => h y (List.mem_cons_of_mem x hy)
    have hhead := h x List.mem_cons_self
    simp only [updateWhere_cons, List.countP_cons]
    by_cases hs : sel x
    · by_cases hp : p (f x)
      · simp [hs, hp, hhead hs hp, hrest]
      · simp only [hs, if_true, hp]
        exact le_trans hrest (Nat.le_add_right _ _)
    · simp [hs, hrest]

lemma countP_updateWhere_congr {p q : α → Bool}
    (h : ∀ x ∈ xs, p (if sel x then f x else x) = q x) :
    (updateWhere sel f xs).countP p = xs.countP q := by
  induction xs with
  | nil => simp
  | cons x xs ih =>
    have hrest := ih fun y hy => h y (List.mem_cons_of_mem x hy)
    simp only [updateWhere_cons, List.countP_cons, hrest, h x List.mem_cons_self]

/-- A filter does not see an update between rows it leaves out. -/
lemma filter_updateWhere_of_outside {p : α → Bool}
    (h : ∀ x ∈ xs, sel x = true → p x = false ∧ p (f x) = false) :
    (updateWhere sel f xs).filter p = xs.filter p := by
  induction xs with
  | nil => rfl
  | cons x xs ih =>
    have hrest := ih fun y hy => h y (List.mem_cons_of_mem x hy)
    have hhead := h x List.mem_cons_self
    by_cases hs : sel x
    · simp [hs, hhead hs, hrest]
    · simp [hs, hrest, List.filter_cons]

/-- Rows that leave a selection by the update are dropped from it. -/
lemma filter_updateWhere_of_leaving {p : α → Bool} (h : ∀ x ∈ xs, sel x = true → p (f x) = false) :
    (updateWhere sel f xs).filter p = (xs.filter p).filter fun x => !sel x := by
  induction xs with
  | nil => rfl
  | cons x xs ih =>
    have hrest := ih fun y hy => h y (List.mem_cons_of_mem x hy)
    rw [updateWhere_cons]
    by_cases hs : sel x
    · have hgone := h x List.mem_cons_self hs
      by_cases hp : p x <;> simp [hs, hp, hgone, hrest]
    · by_cases hp : p x <;> simp [hs, hp, hrest]

/-- However many rows an update touches, it adds at most that many to a count. -/
lemma countP_updateWhere_le_add (p : α → Bool) :
    (updateWhere sel f xs).countP p ≤ xs.countP p + xs.countP sel := by
  induction xs with
  | nil => simp
  | cons x xs ih =>
    simp only [updateWhere_cons, List.countP_cons]
    by_cases hs : sel x
    · have hone : (if p (f x) = true then 1 else 0) ≤ 1 := by split <;> omega
      simp only [hs, if_true]
      omega
    · simp only [hs, Bool.false_eq_true, if_false]
      omega

/-- A key selects at most one row. -/
lemma countP_key_le_one [DecidableEq κ] {key : α → κ} (hnodup : (xs.map key).Nodup) (k : κ) :
    xs.countP (fun x => key x = k) ≤ 1 := by
  have hcount : xs.countP (fun x => key x = k) = (xs.map key).count k := by
    rw [List.count, List.countP_map]
    exact List.countP_congr fun x _ => by simp
  rw [hcount]
  exact List.nodup_iff_count_le_one.mp hnodup k

lemma eq_of_key_eq {key : α → κ} (hnodup : (xs.map key).Nodup) {x y : α}
    (hx : x ∈ xs) (hy : y ∈ xs) (hkey : key x = key y) : x = y :=
  List.inj_on_of_nodup_map hnodup hx hy hkey

/-- Looking a row up by its key. -/
lemma find?_key_eq_some [DecidableEq κ] {key : α → κ} (hnodup : (xs.map key).Nodup) {x : α} {k : κ} :
    xs.find? (fun y => key y = k) = some x ↔ x ∈ xs ∧ key x = k := by
  constructor
  · intro h
    exact ⟨List.mem_of_find?_eq_some h, by simpa using List.find?_some h⟩
  · rintro ⟨hx, rfl⟩
    obtain ⟨y, hy⟩ : ∃ y, xs.find? (fun y => key y = key x) = some y := by
      rw [← Option.isSome_iff_exists, List.find?_isSome]
      exact ⟨x, hx, by simp⟩
    have hkey : key y = key x := by simpa using List.find?_some hy
    rw [hy, eq_of_key_eq hnodup (List.mem_of_find?_eq_some hy) hx hkey]

/-- Updating the one row with a key. -/
lemma mem_updateWhere_key [DecidableEq κ] {key : α → κ} (hnodup : (xs.map key).Nodup) {x : α} (hx : x ∈ xs) (y : α) :
    y ∈ updateWhere (fun z => key z = key x) f xs ↔ y = f x ∨ y ∈ xs ∧ key y ≠ key x := by
  rw [mem_updateWhere]
  constructor
  · rintro ⟨z, hz, hnext⟩
    by_cases hkey : key z = key x
    · rw [if_pos (decide_eq_true hkey), eq_of_key_eq hnodup hz hx hkey] at hnext
      exact .inl hnext.symm
    · rw [if_neg fun hsel => hkey (of_decide_eq_true hsel)] at hnext
      exact .inr (hnext ▸ ⟨hz, hkey⟩)
  · rintro (rfl | ⟨hy, hkey⟩)
    · exact ⟨x, hx, if_pos (decide_eq_true rfl)⟩
    · exact ⟨y, hy, if_neg fun hsel => hkey (of_decide_eq_true hsel)⟩

lemma find?_updateWhere_key [DecidableEq κ] {key : α → κ} (hkey : ∀ x, key (f x) = key x) (k : κ) :
    (updateWhere sel f xs).find? (fun x => key x = k) =
      (xs.find? fun x => key x = k).map fun x => if sel x then f x else x := by
  induction xs with
  | nil => rfl
  | cons x xs ih =>
    have hx : key (if sel x then f x else x) = key x := by
      by_cases hs : sel x <;> simp [hs, hkey]
    by_cases hk : key x = k
    · simp [hx, hk]
    · simp [hx, hk, ih]

/-- Updating the one row with a key moves a weighted sum by that row's weights only. -/
lemma sum_updateWhere_key [DecidableEq κ] {key : α → κ} (hnodup : (xs.map key).Nodup) {x : α} (hx : x ∈ xs)
    (w : α → ℕ) :
    ((updateWhere (fun y => key y = key x) f xs).map w).sum + w x = (xs.map w).sum + w (f x) := by
  induction xs with
  | nil => simp at hx
  | cons y ys ih =>
    rw [List.map_cons, List.nodup_cons] at hnodup
    rw [updateWhere_cons, List.map_cons, List.sum_cons, List.map_cons, List.sum_cons]
    rcases List.mem_cons.mp hx with rfl | hys
    · have hsame : updateWhere (fun y => key y = key x) f ys = ys := by
        refine updateWhere_eq_self fun z hz hsel => ?_
        exact absurd (of_decide_eq_true hsel ▸ List.mem_map_of_mem hz) hnodup.1
      rw [hsame]
      simp only [decide_true, if_true]
      omega
    · have hne : key y ≠ key x := fun heq => hnodup.1 (heq ▸ List.mem_map_of_mem hys)
      have hrest := ih hnodup.2 hys
      simp only [hne, decide_false, Bool.false_eq_true, if_false]
      omega

lemma nodup_concat_of_fresh {ks : List ℕ} {k : ℕ} (hnodup : ks.Nodup) (hfresh : ∀ j ∈ ks, j < k) :
    (ks ++ [k]).Nodup := by
  rw [List.nodup_append]
  refine ⟨hnodup, by simp, ?_⟩
  intro a ha b hb
  have hlt := hfresh a ha
  simp only [List.mem_singleton] at hb
  omega

end Tables

section Kept

variable {α κ : Type*} {R : α → α → Prop} {xs ys zs : List α}

/-- Every row of `xs` is still there, changed within `R`; new rows come after them. -/
def Kept (R : α → α → Prop) (xs ys : List α) : Prop :=
  ∃ (f : α → α) (fresh : List α), ys = xs.map f ++ fresh ∧ ∀ x ∈ xs, R x (f x)

lemma Kept.refl (hrefl : ∀ x, R x x) (xs : List α) : Kept R xs xs :=
  ⟨id, [], by simp, fun x _ => hrefl x⟩

lemma Kept.then (htrans : ∀ x y z, R x y → R y z → R x z) (h : Kept R xs ys) (h' : Kept R ys zs) :
    Kept R xs zs := by
  obtain ⟨f, fresh, rfl, hf⟩ := h
  obtain ⟨g, fresh', rfl, hg⟩ := h'
  refine ⟨g ∘ f, fresh.map g ++ fresh', by simp, fun x hx => ?_⟩
  have hfx : f x ∈ xs.map f ++ fresh := List.mem_append_left _ (List.mem_map_of_mem hx)
  exact htrans _ _ _ (hf x hx) (hg (f x) hfx)

lemma kept_append (hrefl : ∀ x, R x x) (xs fresh : List α) : Kept R xs (xs ++ fresh) :=
  ⟨id, fresh, by simp, fun x _ => hrefl x⟩

lemma kept_updateWhere {sel : α → Bool} {f : α → α} (hrefl : ∀ x, R x x)
    (h : ∀ x ∈ xs, sel x = true → R x (f x)) : Kept R xs (updateWhere sel f xs) := by
  refine ⟨fun x => if sel x then f x else x, [], by rw [updateWhere, List.append_nil], fun x hx => ?_⟩
  by_cases hsel : sel x = true
  · simp only [hsel, if_true]
    exact h x hx hsel
  · simp only [hsel]
    exact hrefl x

lemma Kept.mono {S : α → α → Prop} (himp : ∀ x y, R x y → S x y) (h : Kept R xs ys) : Kept S xs ys := by
  obtain ⟨f, fresh, hys, hf⟩ := h
  exact ⟨f, fresh, hys, fun x hx => himp _ _ (hf x hx)⟩

lemma Kept.mem (h : Kept R xs ys) {x : α} (hx : x ∈ xs) : ∃ y ∈ ys, R x y := by
  obtain ⟨f, fresh, rfl, hf⟩ := h
  exact ⟨f x, List.mem_append_left _ (List.mem_map_of_mem hx), hf x hx⟩

/-- A kept row is found under the key it had. -/
lemma Kept.find? [DecidableEq κ] {key : α → κ} (hkey : ∀ x y, R x y → key y = key x) (h : Kept R xs ys) {k : κ}
    {x : α} (hx : xs.find? (fun z => key z = k) = some x) :
    ∃ y, ys.find? (fun z => key z = k) = some y ∧ R x y := by
  obtain ⟨f, fresh, rfl, hf⟩ := h
  induction xs with
  | nil => simp at hx
  | cons z zs ih =>
    have hz := hkey z (f z) (hf z List.mem_cons_self)
    by_cases hsel : key z = k
    · simp only [List.find?_cons, hsel, decide_true, Option.some.injEq] at hx
      subst hx
      exact ⟨f z, by simp [hz, hsel], hf z List.mem_cons_self⟩
    · simp only [List.find?_cons, hsel, decide_false] at hx
      obtain ⟨y, hy, hR⟩ := ih hx fun x hx => hf x (List.mem_cons_of_mem z hx)
      refine ⟨y, ?_, hR⟩
      simpa [hz, hsel] using hy

end Kept

/-- What a loop that may raise collects, it has computed from an element. -/
lemma mapM_ok_mem {α β ε : Type*} {f : α → Except ε β} {xs : List α} {ys : List β} (h : xs.mapM f = .ok ys) :
    ∀ y ∈ ys, ∃ x ∈ xs, f x = .ok y := by
  induction xs generalizing ys with
  | nil =>
    cases h
    simp
  | cons x xs ih =>
    rw [List.mapM_cons] at h
    cases hx : f x with
    | error e =>
      rw [hx] at h
      cases h
    | ok y =>
      rw [hx] at h
      cases hxs : xs.mapM f with
      | error e =>
        rw [hxs] at h
        cases h
      | ok rest =>
        rw [hxs] at h
        cases h
        intro z hz
        rcases List.mem_cons.mp hz with rfl | hz
        · exact ⟨x, List.mem_cons_self, hx⟩
        · obtain ⟨w, hw, hwz⟩ := ih hxs z hz
          exact ⟨w, List.mem_cons_of_mem x hw, hwz⟩

end NimHunt.Lib
