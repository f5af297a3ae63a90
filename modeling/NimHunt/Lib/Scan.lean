import Mathlib.Data.List.Basic
import Mathlib.Order.Basic

/-!
# Scanning for matches

A scan goes from left to right and rewrites the characters of every match it meets; the text behind a match is scanned
on.  `find before rest` is the length of the match at the start of `rest`, after the character `before`.  Where matches
are delimited, one scan leaves none.
-/

namespace NimHunt.Lib

variable {α : Type} (find : Option α → List α → Option ℕ) (mask : α → α)

section Scan

/-- The rewritten text, and how many matches it had; the first `skip` characters belong to a match met before. -/
def subn : Option α → ℕ → List α → List α × ℕ
  | _, _, [] => ([], 0)
  | _, skip + 1, c :: rest =>
    let (out, count) := subn (some c) skip rest
    (mask c :: out, count)
  | before, 0, c :: rest =>
    match find before (c :: rest) with
    | none | some 0 =>
      let (out, count) := subn (some c) 0 rest
      (c :: out, count)
    | some (n + 1) =>
      let (out, count) := subn (some c) n rest
      (mask c :: out, count + 1)

/-- Whether there is a match anywhere. -/
def search : Option α → List α → Bool
  | before, [] => (find before []).isSome
  | before, c :: rest => (find before (c :: rest)).isSome || search (some c) rest

/-- Which characters a scan rewrites. -/
def marks : Option α → ℕ → List α → List Bool
  | _, _, [] => []
  | _, skip + 1, c :: rest => true :: marks (some c) skip rest
  | before, 0, c :: rest =>
    match find before (c :: rest) with
    | none | some 0 => false :: marks (some c) 0 rest
    | some (n + 1) => true :: marks (some c) n rest

def charBefore (before : Option α) (text : List α) : ℕ → Option α
  | 0 => before
  | i + 1 => text[i]?

/-- The match at this place of the text. -/
def findAt (before : Option α) (text : List α) (i : ℕ) : Option ℕ := find (charBefore before text i) (text.drop i)

variable {find mask} {before : Option α} {text rest : List α} {c : α} {skip i n : ℕ}

lemma findAt_succ : findAt find before (c :: rest) (i + 1) = findAt find (some c) rest i := by
  cases i <;> rfl

lemma search_iff : search find before text = true ↔ ∃ i ≤ text.length, (findAt find before text i).isSome := by
  induction text generalizing before with
  | nil =>
    constructor
    · exact fun h => ⟨0, Nat.le_refl 0, h⟩
    · rintro ⟨i, hi, h⟩
      rw [Nat.le_zero.mp hi] at h
      exact h
  | cons c rest ih =>
    unfold search
    rw [Bool.or_eq_true, ih]
    constructor
    · rintro (hhere | ⟨i, hi, hlater⟩)
      · exact ⟨0, Nat.zero_le _, hhere⟩
      · exact ⟨i + 1, Nat.succ_le_succ hi, by rw [findAt_succ]; exact hlater⟩
    · rintro ⟨i, hi, h⟩
      cases i with
      | zero => exact .inl h
      | succ i =>
        rw [findAt_succ] at h
        exact .inr ⟨i, Nat.le_of_succ_le_succ hi, h⟩

lemma marks_none (h : find before (c :: rest) = none) :
    marks find before 0 (c :: rest) = false :: marks find (some c) 0 rest := by
  rw [marks, h]

lemma marks_some (h : find before (c :: rest) = some (n + 1)) :
    marks find before 0 (c :: rest) = true :: marks find (some c) n rest := by
  rw [marks, h]

lemma subn_none (h : find before (c :: rest) = none) : subn find mask before 0 (c :: rest) =
    (c :: (subn find mask (some c) 0 rest).1, (subn find mask (some c) 0 rest).2) := by
  rw [subn, h]

lemma subn_some (h : find before (c :: rest) = some (n + 1)) : subn find mask before 0 (c :: rest) =
    (mask c :: (subn find mask (some c) n rest).1, (subn find mask (some c) n rest).2 + 1) := by
  rw [subn, h]

lemma marks_of_lt_skip (hskip : i < skip) (hi : i < text.length) : (marks find before skip text)[i]? = some true := by
  induction text generalizing before skip i with
  | nil => cases hi
  | cons c rest ih =>
    cases skip with
    | zero => cases hskip
    | succ skip =>
      rw [marks]
      cases i with
      | zero => rfl
      | succ i => exact ih (Nat.lt_of_succ_lt_succ hskip) (Nat.lt_of_succ_lt_succ hi)

/-- What a scanner may ask of its pattern: a match is not empty. -/
def NonEmpty (find : Option α → List α → Option ℕ) : Prop :=
  ∀ before text n, find before text = some n → 0 < n ∧ n ≤ text.length

/-- No match here, or one of a positive length. -/
lemma NonEmpty.cases (hfind : NonEmpty find) (before : Option α) (text : List α) :
    find before text = none ∨ ∃ n, find before text = some (n + 1) := by
  cases h : find before text with
  | none => exact .inl rfl
  | some n =>
    cases n with
    | zero => exact absurd (hfind before text 0 h).1 (Nat.lt_irrefl 0)
    | succ n => exact .inr ⟨n, rfl⟩

/-- The character lies in a match all of whose characters are marked. -/
structure InMatch (find : Option α → List α → Option ℕ) (before : Option α) (text : List α) (marked : List Bool)
    (i a n : ℕ) : Prop where
  start : a ≤ i
  stop : i < a + n
  found : findAt find before text a = some n
  all : ∀ j, a ≤ j → j < a + n → j < text.length → marked[j]? = some true

lemma InMatch.cons {marked : List Bool} {a : ℕ} (h : InMatch find (some c) rest marked i a n) (b : Bool) :
    InMatch find before (c :: rest) (b :: marked) (i + 1) (a + 1) n where
  start := Nat.succ_le_succ h.start
  stop := by have := h.stop; omega
  found := by rw [findAt_succ]; exact h.found
  all j hstart hstop hj := by
    cases j with
    | zero => cases hstart
    | succ j => exact h.all j (Nat.le_of_succ_le_succ hstart) (by omega) (Nat.lt_of_succ_lt_succ hj)

lemma subn_eq_self (h : search find before text = false) : (subn find mask before 0 text).1 = text := by
  induction text generalizing before with
  | nil => rw [subn]
  | cons c rest ih =>
    rw [search, Bool.or_eq_false_iff] at h
    rw [subn_none (Option.isSome_eq_false_iff.mp h.1 |> Option.isNone_iff_eq_none.mp), ih h.2]

variable (hfind : NonEmpty find)
include hfind

lemma length_marks : (marks find before skip text).length = text.length := by
  induction text generalizing before skip with
  | nil =>
    rw [marks]
    rfl
  | cons c rest ih =>
    cases skip with
    | succ skip => rw [marks, List.length_cons, List.length_cons, ih]
    | zero =>
      obtain hnone | ⟨n, hsome⟩ := hfind.cases before (c :: rest)
      · rw [marks_none hnone, List.length_cons, List.length_cons, ih]
      · rw [marks_some hsome, List.length_cons, List.length_cons, ih]

/-- The marked characters are rewritten, and the others kept. -/
lemma subn_fst : (subn find mask before skip text).1 =
    List.zipWith (fun marked c => if marked then mask c else c) (marks find before skip text) text := by
  induction text generalizing before skip with
  | nil => rw [subn, List.zipWith_nil_right]
  | cons c rest ih =>
    cases skip with
    | succ skip =>
      rw [marks, List.zipWith_cons_cons, ← ih, subn]
      rfl
    | zero =>
      obtain hnone | ⟨n, hsome⟩ := hfind.cases before (c :: rest)
      · rw [marks_none hnone, subn_none hnone, List.zipWith_cons_cons, ← ih]
        rfl
      · rw [marks_some hsome, subn_some hsome, List.zipWith_cons_cons, ← ih]
        rfl

/-- Where nothing is marked, no match starts. -/
lemma findAt_eq_none (h : (marks find before skip text)[i]? = some false) : findAt find before text i = none := by
  induction text generalizing before skip i with
  | nil =>
    rw [marks] at h
    cases h
  | cons c rest ih =>
    cases skip with
    | succ skip =>
      rw [marks] at h
      cases i with
      | zero => cases h
      | succ i =>
        rw [findAt_succ]
        exact ih h
    | zero =>
      obtain hnone | ⟨n, hsome⟩ := hfind.cases before (c :: rest)
      · rw [marks_none hnone] at h
        cases i with
        | zero => exact hnone
        | succ i =>
          rw [findAt_succ]
          exact ih h
      · rw [marks_some hsome] at h
        cases i with
        | zero => cases h
        | succ i =>
          rw [findAt_succ]
          exact ih h

lemma inMatch_of_marks (h : (marks find before skip text)[i]? = some true) :
    i < skip ∨ ∃ a n, InMatch find before text (marks find before skip text) i a n := by
  induction text generalizing before skip i with
  | nil =>
    rw [marks] at h
    cases h
  | cons c rest ih =>
    cases skip with
    | succ skip =>
      rw [marks] at h ⊢
      cases i with
      | zero => exact .inl (Nat.succ_pos skip)
      | succ i =>
        obtain hskip | ⟨a, n, hmatch⟩ := ih h
        · exact .inl (Nat.succ_lt_succ hskip)
        · exact .inr ⟨a + 1, n, hmatch.cons true⟩
    | zero =>
      right
      obtain hnone | ⟨n, hsome⟩ := hfind.cases before (c :: rest)
      · rw [marks_none hnone] at h ⊢
        cases i with
        | zero => cases h
        | succ i =>
          obtain hskip | ⟨a, n, hmatch⟩ := ih h
          · cases hskip
          · exact ⟨a + 1, n, hmatch.cons false⟩
      · rw [marks_some hsome] at h ⊢
        have hhead : ∀ k < n + 1, InMatch find before (c :: rest) (true :: marks find (some c) n rest) k 0 (n + 1) := by
          intro k hk
          refine ⟨Nat.zero_le k, by omega, hsome, ?_⟩
          intro j _ hstop hj
          cases j with
          | zero => rfl
          | succ j => exact marks_of_lt_skip (by omega) (Nat.lt_of_succ_lt_succ hj)
        cases i with
        | zero => exact ⟨0, n + 1, hhead 0 (Nat.succ_pos n)⟩
        | succ i =>
          obtain hskip | ⟨a, m, hmatch⟩ := ih h
          · exact ⟨0, n + 1, hhead (i + 1) (Nat.succ_lt_succ hskip)⟩
          · exact ⟨a + 1, m, hmatch.cons true⟩

/-- No match is counted exactly where there is none. -/
lemma subn_snd_eq_zero : (subn find mask before 0 text).2 = 0 ↔ search find before text = false := by
  induction text generalizing before with
  | nil =>
    have hnone : find before [] = none := by
      obtain hnone | ⟨n, hsome⟩ := hfind.cases before []
      · exact hnone
      · exact absurd (hfind before [] _ hsome).2 (by rw [List.length_nil]; omega)
    rw [subn, search, hnone]
    exact iff_of_true rfl rfl
  | cons c rest ih =>
    rw [search]
    obtain hnone | ⟨n, hsome⟩ := hfind.cases before (c :: rest)
    · rw [subn_none hnone, hnone, Option.isSome_none, Bool.false_or]
      exact ih
    · rw [subn_some hsome, hsome, Option.isSome_some, Bool.true_or]
      exact iff_of_false (Nat.succ_ne_zero _) nofun

lemma length_subn : (subn find mask before skip text).1.length = text.length := by
  rw [subn_fst hfind, List.length_zipWith, length_marks hfind, Nat.min_self]

/-- A character of the result, and where it comes from. -/
lemma subn_getElem? (h : i < text.length) : ∃ c marked, text[i]? = some c ∧
    (marks find before skip text)[i]? = some marked ∧
    (subn find mask before skip text).1[i]? = some (if marked then mask c else c) := by
  have hmarks : i < (marks find before skip text).length := by rw [length_marks hfind]; exact h
  refine ⟨text[i], (marks find before skip text)[i], List.getElem?_eq_getElem h, List.getElem?_eq_getElem hmarks, ?_⟩
  rw [subn_fst hfind, List.getElem?_zipWith, List.getElem?_eq_getElem h, List.getElem?_eq_getElem hmarks]

end Scan

section Delimited

/-- Matches begin and end with a letter, are not part of a longer word, and are masked beyond recognition. -/
structure Delimited (find : Option α → List α → Option ℕ) (mask : α → α) (inside letter word : α → Prop) : Prop where
  nonEmpty : NonEmpty find
  body : ∀ {before text n}, find before text = some n → ∀ i < n, ∀ c ∈ text[i]?, inside c
  first : ∀ {before text n}, find before text = some n → ∀ c ∈ text[0]?, letter c
  last : ∀ {before text n}, find before text = some (n + 1) → ∀ c ∈ text[n]?, letter c
  before : ∀ {before text n}, find before text = some n → ∀ c ∈ before, ¬ word c
  after : ∀ {before text n}, find before text = some n → ∀ c ∈ text[n]?, ¬ word c
  copy : ∀ {before text n before' text'}, find before text = some n → (∀ i < n, text'[i]? = text[i]?) →
    (∀ c ∈ before', ¬ word c) → (∀ c ∈ text'[n]?, ¬ word c) → find before' text' ≠ none
  letter_word : ∀ c, letter c → word c
  masked : ∀ c, letter c → ¬ inside (mask c)
  kept : ∀ c, inside (mask c) → mask c = c

variable {find : Option α → List α → Option ℕ} {mask : α → α} {inside letter word : α → Prop} {text : List α} {i j n : ℕ}

/-- A match in the result is made of unmasked characters. -/
lemma Delimited.unmasked (h : Delimited find mask inside letter word)
    (hfound : findAt find none (subn find mask none 0 text).1 i = some n) (hj : j < n) :
    (subn find mask none 0 text).1[i + j]? = text[i + j]? := by
  have hlength := (h.nonEmpty _ _ _ hfound).2
  rw [List.length_drop, length_subn h.nonEmpty] at hlength
  obtain ⟨c, marked, hc, -, hout⟩ := @subn_getElem? _ find mask none text 0 (i + j) h.nonEmpty (by omega)
  have hin := h.body hfound j hj
  rw [List.getElem?_drop, hout] at hin
  rw [hout, hc]
  cases marked with
  | false => rfl
  | true => exact congrArg some (h.kept c (hin _ rfl))

/-- A letter of such a match was not marked. -/
lemma Delimited.not_marked (h : Delimited find mask inside letter word)
    (hfound : findAt find none (subn find mask none 0 text).1 i = some n) (hj : j < n)
    (hletter : ∀ c ∈ text[i + j]?, letter c) : (marks find none 0 text)[i + j]? = some false := by
  have hlength := (h.nonEmpty _ _ _ hfound).2
  rw [List.length_drop, length_subn h.nonEmpty] at hlength
  obtain ⟨c, marked, hc, hmarked, hout⟩ := @subn_getElem? _ find mask none text 0 (i + j) h.nonEmpty (by omega)
  have hin := h.body hfound j hj
  rw [List.getElem?_drop, hout] at hin
  cases marked with
  | false => exact hmarked
  | true => exact absurd (hin _ rfl) (h.masked c (hletter c hc))

/-- One scan leaves no match: what looks like one afterwards was one before, and would have been met. -/
theorem Delimited.search_subn (h : Delimited find mask inside letter word) :
    search find none (subn find mask none 0 text).1 = false := by
  rw [← Bool.not_eq_true, search_iff]
  rintro ⟨i, -, hsome⟩
  obtain ⟨n, hfound⟩ := Option.isSome_iff_exists.mp hsome
  have hlength := (h.nonEmpty _ _ _ hfound).2
  rw [List.length_drop, length_subn h.nonEmpty] at hlength
  obtain ⟨m, rfl⟩ : ∃ m, n = m + 1 := ⟨n - 1, by have := (h.nonEmpty _ _ _ hfound).1; omega⟩
  have hfirst : ∀ c ∈ text[i]?, letter c := by
    have hkept := h.unmasked hfound (Nat.succ_pos m)
    have hletter := h.first hfound
    rw [List.getElem?_drop, hkept] at hletter
    exact hletter
  have hlast : ∀ c ∈ text[i + m]?, letter c := by
    have hkept := h.unmasked hfound (Nat.lt_succ_self m)
    have hletter := h.last hfound
    rw [List.getElem?_drop, hkept] at hletter
    exact hletter
  have hstart : (marks find none 0 text)[i]? = some false := h.not_marked hfound (Nat.succ_pos m) hfirst
  have hend : (marks find none 0 text)[i + m]? = some false := h.not_marked hfound (Nat.lt_succ_self m) hlast
  obtain ⟨head, -, hhead, -⟩ := @subn_getElem? _ find mask none text 0 i h.nonEmpty (by omega)
  obtain ⟨tail, -, htail, -⟩ := @subn_getElem? _ find mask none text 0 (i + m) h.nonEmpty (by omega)
  refine h.copy hfound ?_ ?_ ?_ (findAt_eq_none h.nonEmpty hstart)
  · intro j hj
    rw [List.getElem?_drop, List.getElem?_drop, h.unmasked hfound hj]
  · intro c hc hword
    cases i with
    | zero => cases hc
    | succ k =>
      change text[k]? = some c at hc
      obtain ⟨c', marked, hc', hmarked, hout⟩ := @subn_getElem? _ find mask none text 0 k h.nonEmpty (by omega)
      obtain rfl : c' = c := Option.some.inj (hc'.symm.trans hc)
      cases marked with
      | false => exact h.before hfound c' hout hword
      | true =>
        -- A match ends just before, or reaches into this one.
        obtain hskip | ⟨a, len, hmatch⟩ := inMatch_of_marks h.nonEmpty hmarked
        · cases hskip
        have hstop := hmatch.stop
        have hle := hmatch.start
        by_cases hreach : k + 1 < a + len
        · have hall := hmatch.all (k + 1) (by omega) hreach (by omega)
          rw [hstart] at hall
          cases hall
        · have hnext := h.after hmatch.found
          rw [List.getElem?_drop, show a + len = k + 1 by omega] at hnext
          exact hnext head hhead (h.letter_word head (hfirst head hhead))
  · intro c hc hword
    rw [List.getElem?_drop] at hc
    have hin : i + (m + 1) < text.length := (List.getElem?_eq_some_iff.mp hc).1
    obtain ⟨c', marked, hc', hmarked, hout⟩ := @subn_getElem? _ find mask none text 0 (i + (m + 1)) h.nonEmpty hin
    obtain rfl : c' = c := Option.some.inj (hc'.symm.trans hc)
    cases marked with
    | false =>
      have hnext := h.after hfound
      rw [List.getElem?_drop] at hnext
      exact hnext c' hout hword
    | true =>
      -- A match starts just behind, or in this one.
      obtain hskip | ⟨a, len, hmatch⟩ := inMatch_of_marks h.nonEmpty hmarked
      · cases hskip
      have hstop := hmatch.stop
      have hle := hmatch.start
      by_cases hreach : a ≤ i + m
      · have hall := hmatch.all (i + m) hreach (by omega) (by omega)
        rw [hend] at hall
        cases hall
      · have hprevious := h.before hmatch.found
        rw [show a = i + m + 1 by omega] at hprevious
        exact hprevious tail htail (h.letter_word tail (hlast tail htail))

end Delimited

end NimHunt.Lib
