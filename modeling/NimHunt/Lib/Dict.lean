import NimHunt.Lib.Tables

/-!
# Dictionaries of rows

A `Dict key` is a dictionary whose entries sit under a key of their own, in the order of their first
insertion.  That no two entries share a key is part of the type.
-/

namespace NimHunt.Lib

structure Dict {α κ : Type*} (key : α → κ) where
  rows : List α
  keys : (rows.map key).Nodup

namespace Dict

variable {α κ : Type*} {key : α → κ}

instance : Membership α (Dict key) := ⟨fun d x => x ∈ d.rows⟩

lemma mem_rows {d : Dict key} {x : α} : x ∈ d.rows ↔ x ∈ d := Iff.rfl

def empty : Dict key := ⟨[], List.nodup_nil⟩

@[simp] lemma not_mem_empty {x : α} : x ∉ (empty : Dict key) := List.not_mem_nil

variable [DecidableEq κ]

def get? (d : Dict key) (k : κ) : Option α := d.rows.find? fun y => key y = k

variable (key) in
/-- `d[key x] = x`: an entry that is there keeps its place. -/
def setRows (rows : List α) (x : α) : List α :=
  if rows.any fun y => key y = key x then updateWhere (fun y => key y = key x) (fun _ => x) rows
  else rows ++ [x]

lemma mem_setRows {rows : List α} {x y : α} :
    y ∈ setRows key rows x ↔ y = x ∨ y ∈ rows ∧ key y ≠ key x := by
  unfold setRows
  by_cases h : rows.any fun y => key y = key x
  · rw [if_pos h, mem_updateWhere]
    have hthere : ∃ z ∈ rows, key z = key x := by simpa using h
    constructor
    · rintro ⟨z, hz, rfl⟩
      by_cases hkey : key z = key x
      · left
        simp [hkey]
      · right
        simp [hkey, hz]
    · rintro (rfl | ⟨hy, hkey⟩)
      · obtain ⟨z, hz, hkey⟩ := hthere
        exact ⟨z, hz, by simp [hkey]⟩
      · exact ⟨y, hy, by simp [hkey]⟩
  · rw [if_neg h, List.mem_append, List.mem_singleton]
    have hnone : ∀ z ∈ rows, key z ≠ key x := by simpa using h
    constructor
    · rintro (hy | rfl)
      · exact Or.inr ⟨hy, hnone y hy⟩
      · exact Or.inl rfl
    · rintro (rfl | ⟨hy, -⟩)
      · exact Or.inr rfl
      · exact Or.inl hy

lemma nodup_setRows {rows : List α} (h : (rows.map key).Nodup) (x : α) :
    ((setRows key rows x).map key).Nodup := by
  unfold setRows
  by_cases hany : rows.any fun y => key y = key x
  · rw [if_pos hany]
    have hsame : (updateWhere (fun y => key y = key x) (fun _ => x) rows).map key = rows.map key := by
      unfold updateWhere
      rw [List.map_map]
      apply List.map_congr_left
      intro y hy
      by_cases hkey : key y = key x
      · simp [hkey]
      · simp [hkey]
    rw [hsame]
    exact h
  · rw [if_neg hany, List.map_append, List.map_singleton]
    have hnone : ∀ z ∈ rows, key z ≠ key x := by simpa using hany
    apply List.nodup_append.mpr
    refine ⟨h, List.nodup_singleton _, ?_⟩
    intro k hk k' hk'
    obtain ⟨z, hz, rfl⟩ := List.mem_map.mp hk
    rw [List.mem_singleton.mp hk']
    exact hnone z hz

def set (d : Dict key) (x : α) : Dict key := ⟨setRows key d.rows x, nodup_setRows d.keys x⟩

@[simp] lemma mem_set {d : Dict key} {x y : α} : y ∈ d.set x ↔ y = x ∨ y ∈ d ∧ key y ≠ key x :=
  mem_setRows

def pop (d : Dict key) (k : κ) : Dict key :=
  ⟨d.rows.filter fun y => key y ≠ k, d.keys.sublist (List.filter_sublist.map key)⟩

@[simp] lemma mem_pop {d : Dict key} {k : κ} {y : α} : y ∈ d.pop k ↔ y ∈ d ∧ key y ≠ k := by
  have h : y ∈ d.rows.filter (fun y => key y ≠ k) ↔ y ∈ d.rows ∧ key y ≠ k := by
    rw [List.mem_filter, decide_eq_true_iff]
  exact h

/-- `{key x: x for x in xs}` -/
def ofList (xs : List α) : Dict key := xs.foldl set empty

lemma mem_foldl_set {xs : List α} {d : Dict key} (hnodup : (xs.map key).Nodup)
    (hfresh : ∀ x ∈ xs, ∀ y ∈ d, key y ≠ key x) {y : α} : y ∈ xs.foldl set d ↔ y ∈ d ∨ y ∈ xs := by
  induction xs generalizing d with
  | nil => simp
  | cons x xs ih =>
    rw [List.map_cons, List.nodup_cons] at hnodup
    have hx : ∀ z ∈ xs, key z ≠ key x := by
      intro z hz heq
      apply hnodup.1
      rw [← heq]
      exact List.mem_map_of_mem hz
    have hfresh' : ∀ z ∈ xs, ∀ w ∈ d.set x, key w ≠ key z := by
      intro z hz w hw
      rcases mem_set.mp hw with rfl | ⟨hw, -⟩
      · exact (hx z hz).symm
      · exact hfresh z (List.mem_cons_of_mem x hz) w hw
    have hkept : y ∈ d → key y ≠ key x := hfresh x List.mem_cons_self y
    rw [List.foldl_cons, ih hnodup.2 hfresh', mem_set, List.mem_cons]
    tauto

@[simp] lemma mem_ofList {xs : List α} (hnodup : (xs.map key).Nodup) {y : α} :
    y ∈ (ofList xs : Dict key) ↔ y ∈ xs := by
  have hfresh : ∀ x ∈ xs, ∀ y ∈ (empty : Dict key), key y ≠ key x := fun x _ y hy => absurd hy not_mem_empty
  rw [ofList, mem_foldl_set hnodup hfresh]
  simp

lemma get?_eq_some {d : Dict key} {k : κ} {x : α} : d.get? k = some x ↔ x ∈ d ∧ key x = k := by
  unfold get?
  rw [find?_key_eq_some d.keys]
  exact Iff.rfl

lemma get?_set (d : Dict key) (x : α) (k : κ) : (d.set x).get? k = if key x = k then some x else d.get? k := by
  by_cases hkey : key x = k
  · rw [if_pos hkey]
    exact get?_eq_some.mpr ⟨mem_set.mpr (Or.inl rfl), hkey⟩
  · rw [if_neg hkey]
    apply Option.ext
    intro y
    rw [get?_eq_some, get?_eq_some, mem_set]
    constructor
    · rintro ⟨rfl | ⟨hy, -⟩, hk⟩
      · exact absurd hk hkey
      · exact ⟨hy, hk⟩
    · rintro ⟨hy, hk⟩
      exact ⟨Or.inr ⟨hy, fun h => hkey (h.symm.trans hk)⟩, hk⟩

lemma get?_pop (d : Dict key) (k k' : κ) : (d.pop k).get? k' = if k = k' then none else d.get? k' := by
  apply Option.ext
  intro y
  rw [get?_eq_some, mem_pop]
  by_cases hkey : k = k'
  · rw [if_pos hkey]
    constructor
    · rintro ⟨⟨-, hne⟩, hk⟩
      exact absurd (hk.trans hkey.symm) hne
    · intro h
      cases h
  · rw [if_neg hkey, get?_eq_some]
    constructor
    · rintro ⟨⟨hy, -⟩, hk⟩
      exact ⟨hy, hk⟩
    · rintro ⟨hy, hk⟩
      exact ⟨⟨hy, fun h => hkey (h.symm.trans hk)⟩, hk⟩

end Dict

end NimHunt.Lib
