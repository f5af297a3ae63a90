import NimHunt.ContentModeration

/-!
# Censoring

A match begins and ends with a letter, holds only letters and white space, and stands between characters of no word, so
one scan leaves no match behind.
-/

namespace NimHunt

open Lib

section Matches

variable {letter c : Char} {letters word : List Char} {before before' : Option Char} {text tail : Text} {n : ℕ}

lemma isAlpha_of_sameLetter (hletter : letter.isLower = true) (h : sameLetter letter c = true) : isAlpha c = true := by
  unfold sameLetter at h
  simp only [Bool.or_eq_true, Bool.and_eq_true, decide_eq_true_eq] at h
  unfold isAlpha
  rw [Bool.or_eq_true, decide_eq_true_iff]
  obtain ((hlower | ⟨-, rfl⟩) | ⟨-, rfl⟩) | ⟨-, rfl | rfl⟩ := h
  · left
    rw [← hlower] at hletter
    unfold Char.toLower at hletter
    unfold Char.isAlpha
    split at hletter
    · next hupper => exact Bool.or_eq_true_iff.mpr (.inl (decide_eq_true hupper))
    · rw [hletter, Bool.or_true]
  all_goals exact .inr (by decide)

lemma isSpace_of_isAlpha (h : isAlpha c = true) : isSpace c = false := by
  unfold isAlpha at h
  rw [Bool.or_eq_true, decide_eq_true_iff] at h
  cases h with
  | inl hascii =>
    rw [← Bool.not_eq_true]
    intro hspace
    unfold isSpace at hspace
    simp only [Bool.or_eq_true, Bool.and_eq_true, decide_eq_true_eq] at hspace
    have hletter : (c.val ≥ 'A'.val ∧ c.val ≤ 'Z'.val) ∨ (c.val ≥ 'a'.val && c.val ≤ 'z'.val) = true :=
      (Bool.or_eq_true_iff.mp hascii).imp_left of_decide_eq_true
    simp only [Bool.and_eq_true, decide_eq_true_eq, ge_iff_le, UInt32.le_iff_toNat_le] at hletter
    change 65 ≤ c.toNat ∧ c.toNat ≤ 90 ∨ 97 ≤ c.toNat ∧ c.toNat ≤ 122 at hletter
    omega
  | inr hfolded =>
    simp only [foldedLetters, List.mem_cons, List.not_mem_nil, or_false] at hfolded
    obtain rfl | rfl | rfl | rfl := hfolded <;> rfl

/-- What a match is made of. -/
def InBlocked (c : Char) : Prop := isSpace c = true ∨ isAlpha c = true

lemma not_inBlocked_hash : ¬ InBlocked '#' := by
  unfold InBlocked
  decide

def Letters (letters : List Char) : Prop := ∀ letter ∈ letters, letter.isLower = true

instance (letters : List Char) : Decidable (Letters letters) := inferInstanceAs (Decidable (∀ letter ∈ letters, _))

/-- The characters the letters take up, with whatever stands behind them. -/
structure LettersTaken (letters : List Char) (taken : Text) : Prop where
  inside : ∀ c ∈ taken, InBlocked c
  last : ∀ c ∈ taken.getLast?, isAlpha c = true
  again : ∀ tail, matchLetters letters (taken ++ tail) = some tail

lemma matchLetters_taken (hletters : Letters letters) (h : matchLetters letters text = some tail) :
    ∃ taken, text = taken ++ tail ∧ LettersTaken letters taken := by
  induction letters generalizing text with
  | nil =>
    rw [matchLetters] at h
    exact ⟨[], Option.some.inj h, nofun, nofun, fun _ => rfl⟩
  | cons letter letters ih =>
    rw [matchLetters] at h
    cases hdrop : text.dropWhile isSpace with
    | nil =>
      rw [hdrop] at h
      cases h
    | cons c rest =>
      rw [hdrop] at h
      dsimp only at h
      split_ifs at h with hsame
      obtain ⟨hlower, hrest⟩ := List.forall_mem_cons.mp hletters
      have halpha := isAlpha_of_sameLetter hlower hsame
      obtain ⟨taken, rfl, htaken⟩ := ih hrest h
      have hspaces : ∀ s ∈ text.takeWhile isSpace, isSpace s = true := fun s hs => List.mem_takeWhile_imp hs
      refine ⟨text.takeWhile isSpace ++ c :: taken, ?_, ?_, ?_, ?_⟩
      · rw [List.append_assoc, List.cons_append, ← hdrop, List.takeWhile_append_dropWhile]
      · intro s hs
        obtain hspace | rfl | hlater := by simpa only [List.mem_append, List.mem_cons] using hs
        · exact .inl (hspaces s hspace)
        · exact .inr halpha
        · exact htaken.inside s hlater
      · intro s hs
        cases taken with
        | nil =>
          rw [List.getLast?_append] at hs
          exact Option.mem_some.mp hs ▸ halpha
        | cons next taken =>
          rw [List.getLast?_append, List.getLast?_cons_cons] at hs
          refine htaken.last s ?_
          have hne : (next :: taken).getLast?.isSome := List.getLast?_isSome.mpr (List.cons_ne_nil next taken)
          rwa [Option.or_of_isSome hne] at hs
      · intro other
        rw [matchLetters, List.append_assoc, List.dropWhile_append_of_pos hspaces, List.cons_append,
          List.dropWhile_cons_of_neg (by rw [isSpace_of_isAlpha halpha]; nofun)]
        dsimp only
        rw [if_pos hsame]
        exact htaken.again other

def NoWordChar (c : Option Char) : Prop := c.any isWordChar = false

lemma noWordChar_iff (c : Option Char) : NoWordChar c ↔ ∀ x ∈ c, ¬ isWordChar x = true := by
  unfold NoWordChar
  cases c with
  | none => exact iff_of_true rfl nofun
  | some x =>
    rw [Option.any_some, ← Bool.not_eq_true]
    exact ⟨fun h y hy => Option.mem_some.mp hy ▸ h, fun h => h x rfl⟩

/-- A match of one of the words, and that it is one wherever it stands between characters of no word. -/
structure BlockedMatch (before : Option Char) (text : Text) (n : ℕ) : Prop where
  positive : 0 < n
  le : n ≤ text.length
  inside : ∀ i < n, ∀ c ∈ text[i]?, InBlocked c
  first : ∀ c ∈ text[0]?, isAlpha c = true
  last : ∀ c ∈ text[n - 1]?, isAlpha c = true
  before : NoWordChar before
  after : NoWordChar text[n]?
  copy : ∀ before' text', (∀ i < n, text'[i]? = text[i]?) → NoWordChar before' → NoWordChar text'[n]? →
    (findBlocked before' text').isSome

lemma letters_blockedWords : ∀ word ∈ blockedWords, Letters word.toList := by decide +kernel

/-- The same characters at the start of another text. -/
lemma eq_append_drop {m text' : Text} (htext : text = m ++ tail) (h : ∀ i < m.length, text'[i]? = text[i]?) :
    text' = m ++ text'.drop m.length := by
  have htake : text'.take m.length = m := by
    apply List.ext_getElem?
    intro i
    rw [List.getElem?_take]
    split_ifs with hi
    · rw [h i hi, htext, List.getElem?_append_left hi]
    · exact (List.getElem?_eq_none (Nat.le_of_not_lt hi)).symm
  calc text' = text'.take m.length ++ text'.drop m.length := (List.take_append_drop m.length text').symm
    _ = m ++ text'.drop m.length := by rw [htake]

lemma matchWord_match {blocked : String} (hmem : blocked ∈ blockedWords)
    (h : matchWord blocked.toList before text = some n) : BlockedMatch before text n := by
  have hletters := letters_blockedWords blocked hmem
  unfold matchWord at h
  split at h
  · next letter letters c rest hword =>
    rw [hword] at hletters
    obtain ⟨hlower, hrest⟩ := List.forall_mem_cons.mp hletters
    split_ifs at h with hfirst
    obtain ⟨tail, htail, hlength⟩ := Option.bind_eq_some_iff.mp h
    split_ifs at hlength with hafter
    obtain ⟨taken, rfl, htaken⟩ := matchLetters_taken hrest htail
    have halpha := isAlpha_of_sameLetter hlower hfirst.2
    have hn : n = (c :: taken).length := by
      rw [← Option.some.inj hlength, List.length_cons, List.length_cons, List.length_append]
      omega
    have hlast : ∀ s ∈ (c :: taken).getLast?, isAlpha s = true := by
      intro s hs
      cases taken with
      | nil => exact Option.mem_some.mp hs ▸ halpha
      | cons next taken =>
        rw [List.getLast?_cons_cons] at hs
        exact htaken.last s hs
    have htext : c :: (taken ++ tail) = (c :: taken) ++ tail := rfl
    have hnext : (c :: (taken ++ tail))[n]? = tail.head? := by
      rw [htext, hn, List.getElem?_append_right (le_refl _), Nat.sub_self, List.head?_eq_getElem?]
    refine ⟨?_, ?_, ?_, ?_, ?_, hfirst.1, ?_, ?_⟩
    · rw [hn, List.length_cons]
      exact Nat.succ_pos _
    · rw [hn, htext, List.length_append]
      exact Nat.le_add_right _ _
    · intro i hi s hs
      rw [htext, List.getElem?_append_left (hn ▸ hi)] at hs
      cases List.mem_cons.mp (List.mem_of_getElem? hs) with
      | inl hhead => exact hhead ▸ .inr halpha
      | inr hlater => exact htaken.inside s hlater
    · intro s hs
      exact Option.mem_some.mp hs ▸ halpha
    · intro s hs
      rw [htext, List.getElem?_append_left (by rw [hn, List.length_cons]; omega), hn, ← List.getLast?_eq_getElem?] at hs
      exact hlast s hs
    · rw [hnext]
      exact Bool.eq_false_iff.mpr hafter
    · intro before' text' hsame hbefore' hafter'
      have hsplit := eq_append_drop htext fun i hi => hsame i (hn ▸ hi)
      unfold findBlocked
      rw [List.findSome?_isSome_iff]
      refine ⟨blocked, hmem, ?_⟩
      have hrest' : (text'.drop (c :: taken).length).head?.any isWordChar = false := by
        rw [List.head?_drop, ← hn]
        exact hafter'
      rw [hword, hsplit, List.cons_append, matchWord, if_pos ⟨hbefore', hfirst.2⟩, htaken.again]
      dsimp only [Option.bind]
      rw [hrest']
      rfl
  · cases h

lemma findBlocked_match (h : findBlocked before text = some n) : BlockedMatch before text n := by
  obtain ⟨blocked, hmem, hmatch⟩ := List.exists_of_findSome?_eq_some h
  exact matchWord_match hmem hmatch

/-- The pattern and the mask leave nothing to a second scan. -/
lemma delimited_findBlocked : Delimited findBlocked maskLetter InBlocked (fun c => isAlpha c = true)
    (fun c => isWordChar c = true) where
  nonEmpty _ _ _ h := ⟨(findBlocked_match h).positive, (findBlocked_match h).le⟩
  body h := (findBlocked_match h).inside
  first h := (findBlocked_match h).first
  last h := (findBlocked_match h).last
  before h := (noWordChar_iff _).mp (findBlocked_match h).before
  after h := (noWordChar_iff _).mp (findBlocked_match h).after
  copy h hsame hbefore hafter :=
    Option.isSome_iff_ne_none.mp ((findBlocked_match h).copy _ _ hsame ((noWordChar_iff _).mpr hbefore)
      ((noWordChar_iff _).mpr hafter))
  letter_word c h := by
    unfold isAlpha at h
    unfold isWordChar Char.isAlphanum
    rw [Bool.or_eq_true] at h ⊢
    exact h.imp_left fun hascii => by rw [hascii, Bool.true_or]
  masked c h := by
    unfold maskLetter
    rw [if_pos h]
    exact not_inBlocked_hash
  kept c h := by
    unfold maskLetter at h ⊢
    split_ifs at h ⊢ with halpha
    · exact absurd h not_inBlocked_hash
    · rfl

end Matches

section Censoring

/-- Nothing blocked is left, and only letters of blocked words have been changed. -/
structure Censored (text out : Text) (changed : Bool) : Prop where
  clean : containsBlockedWord (some out) = false
  length : out.length = text.length
  masked : ∀ i c, text[i]? = some c → out[i]? ≠ some c → out[i]? = some '#' ∧ isAlpha c = true ∧
    ∃ a n, a ≤ i ∧ i < a + n ∧ ∃ word ∈ blockedWords,
      matchWord word.toList (charBefore none text a) (text.drop a) = some n
  unchanged : out = text ∧ changed = false ↔ containsBlockedWord (some text) = false
  again : censorText (some out) = (some out, false)

variable {text : Text}

lemma censorText_clean (h : containsBlockedWord (some text) = false) : censorText (some text) = (some text, false) := by
  have hfind := delimited_findBlocked.nonEmpty
  change (some (subn findBlocked maskLetter none 0 text).1,
    decide (0 < (subn findBlocked maskLetter none 0 text).2)) = (some text, false)
  rw [subn_eq_self h, (subn_snd_eq_zero hfind).mpr h]
  rfl

theorem censorText_censored (text : Text) :
    ∃ out changed, censorText (some text) = (some out, changed) ∧ Censored text out changed := by
  have hfind := delimited_findBlocked.nonEmpty
  have hclean : containsBlockedWord (some (subn findBlocked maskLetter none 0 text).1) = false :=
    delimited_findBlocked.search_subn
  refine ⟨_, _, rfl, hclean, length_subn hfind, ?_, ?_, censorText_clean hclean⟩
  · intro i c hc hchanged
    have hi : i < text.length := (List.getElem?_eq_some_iff.mp hc).1
    obtain ⟨c', marked, hc', hmarked, hout⟩ := @subn_getElem? _ findBlocked maskLetter none text 0 i hfind hi
    obtain rfl : c' = c := Option.some.inj (hc'.symm.trans hc)
    cases marked with
    | false => exact absurd hout hchanged
    | true =>
      rw [if_pos rfl] at hout
      obtain hskip | ⟨a, n, hmatch⟩ := inMatch_of_marks hfind hmarked
      · cases hskip
      have halpha : isAlpha c' = true := by
        by_contra hother
        rw [maskLetter, if_neg hother] at hout
        exact hchanged hout
      rw [maskLetter, if_pos halpha] at hout
      obtain ⟨word, hword, hfound⟩ := List.exists_of_findSome?_eq_some hmatch.found
      exact ⟨hout, halpha, a, n, hmatch.start, hmatch.stop, word, hword, hfound⟩
  · constructor
    · rintro ⟨hsame, -⟩
      rw [← hsame]
      exact hclean
    · intro h
      refine ⟨subn_eq_self h, ?_⟩
      rw [(subn_snd_eq_zero hfind).mpr h]
      rfl

/-- Matching is by the first word of the list that fits, over white space, and not inside longer words. -/
example : censorText (some "fuck sx, f u\nc ks Scunthorpe".toList) = (some "#### sx, # #\n# ## Scunthorpe".toList, true) := by
  decide +kernel

end Censoring

end NimHunt
