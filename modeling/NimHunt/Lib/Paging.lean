import Mathlib.Data.List.Sort

/-!
# Paged reads

`page r limit rows` is `SELECT … ORDER BY r LIMIT limit` over the selected rows: a page holds every
row only as long as the rows fit it, and of rows stored in the opposite order it holds the last ones.
-/

namespace NimHunt.Lib

section Paging

variable {α : Type*} (r : α → α → Prop) [DecidableRel r]

def page (limit : ℕ) (rows : List α) : List α := (rows.insertionSort r).take limit

variable {r} {limit : ℕ} {rows : List α}

lemma page_subset : page r limit rows ⊆ rows := by
  intro x hx
  exact (List.perm_insertionSort r rows).subset (List.mem_of_mem_take hx)

lemma page_nodup (h : rows.Nodup) : (page r limit rows).Nodup :=
  ((List.perm_insertionSort r rows).nodup_iff.mpr h).sublist (List.take_sublist _ _)

lemma length_page : (page r limit rows).length = min limit rows.length := by
  simp [page]

/-- Rows that fit the page are all on it. -/
lemma page_perm (h : rows.length ≤ limit) : (page r limit rows).Perm rows := by
  have hlen : (rows.insertionSort r).length ≤ limit := by simpa using h
  rw [page, List.take_of_length_le hlen]
  exact List.perm_insertionSort r rows

lemma orderedInsert_eq_concat {x : α} {xs : List α} (h : ∀ y ∈ xs, ¬ r x y) :
    xs.orderedInsert r x = xs ++ [x] := by
  induction xs with
  | nil => rfl
  | cons y ys ih =>
    have hrest := ih fun z hz => h z (List.mem_cons_of_mem y hz)
    rw [List.orderedInsert_of_not_le r ys (h y List.mem_cons_self), hrest, List.cons_append]

lemma insertionSort_eq_reverse (h : rows.Pairwise fun x y => ¬ r x y) :
    rows.insertionSort r = rows.reverse := by
  induction rows with
  | nil => rfl
  | cons x xs ih =>
    rw [List.pairwise_cons] at h
    rw [List.insertionSort_cons, ih h.2, List.reverse_cons]
    exact orderedInsert_eq_concat fun y hy => h.1 y (List.mem_reverse.mp hy)

/-- An order without ties among the rows sorts every permutation of them alike. -/
lemma insertionSort_eq_of_perm [Std.Total r] [IsTrans α r] {rows' : List α} (hperm : rows'.Perm rows)
    (hanti : ∀ x ∈ rows, ∀ y ∈ rows, r x y → r y x → x = y) :
    rows'.insertionSort r = rows.insertionSort r := by
  have hsorted := List.pairwise_insertionSort r rows'
  have hsorted' := List.pairwise_insertionSort r rows
  have hsame : (rows'.insertionSort r).Perm (rows.insertionSort r) :=
    ((List.perm_insertionSort r rows').trans hperm).trans (List.perm_insertionSort r rows).symm
  refine hsame.eq_of_pairwise (fun x y hx hy hxy hyx => ?_) hsorted hsorted'
  have hx' : x ∈ rows := hperm.subset ((List.perm_insertionSort r rows').subset hx)
  exact hanti x hx' y ((List.perm_insertionSort r rows).subset hy) hxy hyx

/-- Dropping rows from a table drops them from its sorted read. -/
lemma insertionSort_filter [Std.Total r] [IsTrans α r] (p : α → Bool)
    (hanti : ∀ x ∈ rows, ∀ y ∈ rows, r x y → r y x → x = y) :
    (rows.filter p).insertionSort r = (rows.insertionSort r).filter p := by
  have hsorted : ((rows.insertionSort r).filter p).Pairwise r :=
    (List.pairwise_insertionSort r rows).filter p
  have hperm : ((rows.insertionSort r).filter p).Perm (rows.filter p) :=
    (List.perm_insertionSort r rows).filter p
  have hanti' : ∀ x ∈ rows.filter p, ∀ y ∈ rows.filter p, r x y → r y x → x = y := fun x hx y hy =>
    hanti x (List.mem_of_mem_filter hx) y (List.mem_of_mem_filter hy)
  rw [← insertionSort_eq_of_perm hperm hanti', hsorted.insertionSort_eq]

/-- Of rows stored oldest first, the newest-first page is the end of the table. -/
lemma page_eq_reverse_drop (h : rows.Pairwise fun x y => ¬ r x y) :
    page r limit rows = (rows.drop (rows.length - limit)).reverse := by
  rw [page, insertionSort_eq_reverse h, List.take_reverse]

end Paging

section Filters

variable {α : Type*} {p : α → Bool} {limit : ℕ} {rows : List α}

/-- A filter behind the page loses nothing, if and only if it keeps all of the page or nothing after it. -/
lemma length_filter_take_eq_iff : ((rows.take limit).filter p).length = min limit (rows.filter p).length ↔
    (∀ x ∈ rows.take limit, p x = true) ∨ ∀ x ∈ rows.drop limit, p x = false := by
  have hsplit : (rows.filter p).length = ((rows.take limit).filter p).length + ((rows.drop limit).filter p).length := by
    rw [← List.length_append, ← List.filter_append, List.take_append_drop]
  have hpage : ((rows.take limit).filter p).length ≤ (rows.take limit).length := List.length_filter_le _ _
  have hlimit : (rows.take limit).length ≤ limit := List.length_take_le _ _
  have hall : (∀ x ∈ rows.take limit, p x = true) ↔
      ((rows.take limit).filter p).length = (rows.take limit).length := by
    rw [List.length_filter_eq_length_iff]
  have hnone : (∀ x ∈ rows.drop limit, p x = false) ↔ ((rows.drop limit).filter p).length = 0 := by
    rw [List.length_eq_zero_iff, List.filter_eq_nil_iff]
    simp only [Bool.not_eq_true]
  rw [hall, hnone]
  by_cases hfits : rows.length ≤ limit
  · have hdrop : ((rows.drop limit).filter p).length = 0 := by
      rw [List.drop_eq_nil_of_le hfits]
      rfl
    omega
  · have hfull : (rows.take limit).length = limit := List.length_take_of_le (not_le.mp hfits).le
    omega

end Filters

section Ranks

variable {α κ : Type*} [LinearOrder κ] {key : α → κ} [DecidableRel fun x y : α => key x ≤ key y] {limit : ℕ}
  {rows more : List α}

/-- A row is on the page if and only if fewer rows than the page holds come before it. -/
lemma mem_page_key (hkeys : (rows.map key).Nodup) {x : α} (hx : x ∈ rows) :
    x ∈ page (fun x y => key x ≤ key y) limit rows ↔ rows.countP (fun y => key y < key x) < limit := by
  have hperm := List.perm_insertionSort (fun x y : α => key x ≤ key y) rows
  have hsorted := List.pairwise_insertionSort (fun x y : α => key x ≤ key y) rows
  have hnodup := (hperm.map key).nodup_iff.mpr hkeys
  rw [← hperm.countP_eq]
  unfold page
  have hmem := hperm.symm.subset hx
  generalize rows.insertionSort (fun x y : α => key x ≤ key y) = sorted at hsorted hnodup hmem ⊢
  obtain ⟨before, after, rfl⟩ := List.append_of_mem hmem
  rw [List.map_append, List.map_cons, List.nodup_append, List.nodup_cons] at hnodup
  rw [List.pairwise_append, List.pairwise_cons] at hsorted
  have hbefore : before.countP (fun y => key y < key x) = before.length := by
    rw [List.countP_eq_length]
    intro y hy
    have hne : key y ≠ key x := hnodup.2.2 _ (List.mem_map_of_mem hy) _ List.mem_cons_self
    exact decide_eq_true (lt_of_le_of_ne (hsorted.2.2 y hy x List.mem_cons_self) hne)
  have hafter : (x :: after).countP (fun y => key y < key x) = 0 := by
    rw [List.countP_eq_zero]
    intro y hy
    rw [decide_eq_true_eq, not_lt]
    cases List.mem_cons.mp hy with
    | inl hsame => rw [hsame]
    | inr hlater => exact hsorted.2.1.1 y hlater
  rw [List.countP_append, hbefore, hafter, Nat.add_zero]
  constructor
  · intro htaken
    by_contra hfull
    rw [List.take_append_of_le_length (not_lt.mp hfull)] at htaken
    have hinside := List.mem_of_mem_take htaken
    exact hnodup.2.2 _ (List.mem_map_of_mem hinside) _ List.mem_cons_self rfl
  · intro hroom
    rw [List.take_append, List.mem_append]
    right
    obtain ⟨k, hk⟩ := Nat.exists_eq_succ_of_ne_zero (Nat.sub_ne_zero_of_lt hroom)
    rw [hk, List.take_succ_cons]
    exact List.mem_cons_self

/-- Rows that are not on the page may be left out of the read. -/
lemma page_append_eq_iff (hkeys : ((rows ++ more).map key).Nodup) :
    page (fun x y => key x ≤ key y) limit rows = page (fun x y => key x ≤ key y) limit (rows ++ more) ↔
      ∀ x ∈ more, limit ≤ (rows ++ more).countP fun y => key y < key x := by
  have hinj : ∀ x ∈ rows ++ more, ∀ y ∈ rows ++ more, key x ≤ key y → key y ≤ key x → x = y := by
    intro x hx y hy hxy hyx
    exact List.inj_on_of_nodup_map hkeys hx hy (le_antisymm hxy hyx)
  have hapart : ∀ x ∈ rows, x ∉ more := by
    intro x hx hmore
    rw [List.map_append, List.nodup_append] at hkeys
    exact hkeys.2.2 _ (List.mem_map_of_mem hx) _ (List.mem_map_of_mem hmore) rfl
  have hrank : (∀ x ∈ more, limit ≤ (rows ++ more).countP fun y => key y < key x) ↔
      ∀ x ∈ more, x ∉ page (fun x y => key x ≤ key y) limit (rows ++ more) := by
    apply forall₂_congr
    intro x hx
    rw [mem_page_key hkeys (List.mem_append_right rows hx), not_lt]
  rw [hrank]
  constructor
  · intro hsame x hx hpage
    rw [← hsame] at hpage
    exact hapart x (page_subset hpage) hx
  · intro hnone
    classical
    have hfilter : (rows ++ more).filter (fun x => decide (x ∈ rows)) = rows := by
      rw [List.filter_append, List.filter_eq_self.mpr, List.filter_eq_nil_iff.mpr, List.append_nil]
      · intro x hx
        rw [decide_eq_true_eq]
        exact fun hrows => hapart x hrows hx
      · intro x hx
        exact decide_eq_true hx
    have hsorted : rows.insertionSort (fun x y : α => key x ≤ key y) =
        ((rows ++ more).insertionSort fun x y => key x ≤ key y).filter fun x => decide (x ∈ rows) := by
      rw [← insertionSort_filter _ hinj, hfilter]
    unfold page at hnone ⊢
    rw [hsorted]
    have hmem : ∀ x ∈ (rows ++ more).insertionSort (fun x y : α => key x ≤ key y), x ∈ rows ++ more :=
      fun x hx => (List.perm_insertionSort _ _).subset hx
    generalize (rows ++ more).insertionSort (fun x y : α => key x ≤ key y) = sorted at hnone hmem ⊢
    have hkept : (sorted.take limit).filter (fun x => decide (x ∈ rows)) = sorted.take limit := by
      apply List.filter_eq_self.mpr
      intro x hx
      have hx' := hmem x (List.mem_of_mem_take hx)
      exact decide_eq_true ((List.mem_append.mp hx').resolve_right fun hmore => hnone x hmore hx)
    have hsplit : sorted.filter (fun x => decide (x ∈ rows)) =
        sorted.take limit ++ (sorted.drop limit).filter fun x => decide (x ∈ rows) := by
      rw [← hkept, ← List.filter_append, List.take_append_drop]
    rw [hsplit, List.take_append, List.take_take, Nat.min_self, List.length_take]
    by_cases hfits : sorted.length ≤ limit
    · rw [List.drop_eq_nil_of_le hfits, List.filter_nil, List.take_nil, List.append_nil]
    · have hfull : limit - min limit sorted.length = 0 := by omega
      rw [hfull, List.take_zero, List.append_nil]

end Ranks

end NimHunt.Lib
