import NimHunt.Lib.Positional
import NimHunt.Proofs.AddressSpelling

/-!
# Typing errors in an address

Digits stand for one digit of the number that is checked, letters for two.  Putting a letter for a letter, a digit for
a digit, or exchanging two of a kind leaves every other character in its place of the number, and changes the part
between by less than 97, or by 9 or 99 times such a difference: never by a multiple of 97, which is prime to 10.
-/

namespace NimHunt

open Lib

section Numbers

variable {c : Char} {text front mid back address digits : Text}

/-- The number that a text of decimal digits writes. -/
def wholeNumber (digits : Text) : ℕ := numberOf 10 (digits.map digitValue)

lemma mod97DecimalString_eq (digits : Text) : mod97DecimalString digits = wholeNumber digits % 97 := by
  unfold wholeNumber
  rw [← remainderOf_eq]
  unfold mod97DecimalString remainderOf
  rw [List.foldl_map]
  rfl

/-- The digits of a character, where it has some. -/
def ibanDigits (c : Char) : Text := (ibanPart c).getD []

/-- The digits of a text. -/
def numeric (text : Text) : Text := text.flatMap ibanDigits

/-- The text whose number is checked. -/
def rearranged (address : Text) : Text := address.drop 4 ++ address.take 4

lemma numeric_append (text text' : Text) : numeric (text ++ text') = numeric text ++ numeric text' :=
  List.flatMap_append

lemma flatten_mapM_ibanPart {parts : List Text} (h : text.mapM ibanPart = some parts) : parts.flatten = numeric text := by
  induction text generalizing parts with
  | nil =>
    cases h
    rfl
  | cons c text ih =>
    rw [List.mapM_cons] at h
    cases hpart : ibanPart c with
    | none =>
      rw [hpart] at h
      cases h
    | some part =>
      cases hparts : text.mapM ibanPart with
      | none =>
        rw [hpart, hparts] at h
        cases h
      | some rest =>
        rw [hpart, hparts] at h
        cases h
        change part ++ rest.flatten = ibanDigits c ++ numeric text
        unfold ibanDigits
        rw [hpart, ih hparts]
        rfl

lemma numeric_of_ibanRearrangedNumeric (h : ibanRearrangedNumeric address = some digits) :
    digits = numeric (rearranged address) := by
  obtain ⟨parts, hparts, rfl⟩ := Option.map_eq_some_iff.mp h
  exact flatten_mapM_ibanPart hparts

/-- What an accepted address writes has remainder 1. -/
lemma Spelled.number {body : AccountBody} {d e : Char} (h : Spelled address body d e) :
    wholeNumber (numeric (rearranged address)) ≡ 1 [MOD 97] := by
  have hcheck := (mod97_spelling body.alphabet h.first h.second).mpr h.check
  rw [← h.eq] at hcheck
  obtain ⟨digits, hdigits, hone⟩ := Option.map_eq_some_iff.mp hcheck
  rw [numeric_of_ibanRearrangedNumeric hdigits, mod97DecimalString_eq] at hone
  exact hone

end Numbers

section Characters

variable {c c' : Char}

/-- Both letters, or both digits. -/
def SameKind (c c' : Char) : Prop := c.isUpper = true ∧ c'.isUpper = true ∨ c.isDigit = true ∧ c'.isDigit = true

lemma digit_digits (h : c.isDigit = true) :
    (ibanDigits c).length = 1 ∧ wholeNumber (ibanDigits c) = c.toNat - 48 ∧ c.toNat - 48 ≤ 9 ∧ 48 ≤ c.toNat :=
  @forall_ascii c (fun c => c.isDigit = true →
    (ibanDigits c).length = 1 ∧ wholeNumber (ibanDigits c) = c.toNat - 48 ∧ c.toNat - 48 ≤ 9 ∧ 48 ≤ c.toNat)
    (by decide +kernel) (IsPlain.lt (.inl h)) h

lemma letter_digits (h : c.isUpper = true) :
    (ibanDigits c).length = 2 ∧ wholeNumber (ibanDigits c) = c.toNat - 55 ∧ c.toNat - 55 ≤ 35 ∧ 55 ≤ c.toNat :=
  @forall_ascii c (fun c => c.isUpper = true →
    (ibanDigits c).length = 2 ∧ wholeNumber (ibanDigits c) = c.toNat - 55 ∧ c.toNat - 55 ≤ 35 ∧ 55 ≤ c.toNat)
    (by decide +kernel) (IsPlain.lt (.inr h)) h

/-- Characters of a kind have equally many digits, which write small numbers of their own. -/
lemma SameKind.numbers (h : SameKind c c') : (ibanDigits c).length = (ibanDigits c').length ∧
    ((ibanDigits c).length = 1 ∨ (ibanDigits c).length = 2) ∧ wholeNumber (ibanDigits c) ≤ 35 ∧
    wholeNumber (ibanDigits c') ≤ 35 ∧ (c ≠ c' → wholeNumber (ibanDigits c) ≠ wholeNumber (ibanDigits c')) := by
  have hne : c ≠ c' → c.toNat ≠ c'.toNat := fun hne heq => hne (Char.toNat_inj.mp heq)
  obtain ⟨hletter, hletter'⟩ | ⟨hdigit, hdigit'⟩ := h
  · obtain ⟨hlength, hnumber, hle, hlow⟩ := letter_digits hletter
    obtain ⟨hlength', hnumber', hle', hlow'⟩ := letter_digits hletter'
    refine ⟨by rw [hlength, hlength'], .inr hlength, by omega, by omega, ?_⟩
    intro hother
    have := hne hother
    omega
  · obtain ⟨hlength, hnumber, hle, hlow⟩ := digit_digits hdigit
    obtain ⟨hlength', hnumber', hle', hlow'⟩ := digit_digits hdigit'
    refine ⟨by rw [hlength, hlength'], .inl hlength, by omega, by omega, ?_⟩
    intro hother
    have := hne hother
    omega

lemma wholeNumber_append (digits digits' : Text) :
    wholeNumber (digits ++ digits') = wholeNumber digits * 10 ^ digits'.length + wholeNumber digits' := by
  unfold wholeNumber
  rw [List.map_append, numberOf_append, List.length_map]

/-- Another character of the kind. -/
lemma SameKind.changed (h : SameKind c c') (hne : c ≠ c') :
    ¬ wholeNumber (ibanDigits c) ≡ wholeNumber (ibanDigits c') [MOD 97] := by
  obtain ⟨-, -, hle, hle', hother⟩ := h.numbers
  have := hother hne
  unfold Nat.ModEq
  omega

/-- Two of a kind exchanged: the numbers differ by 9 or 99 times the difference of the characters' own. -/
lemma SameKind.swapped (h : SameKind c c') (hne : c ≠ c') :
    ¬ wholeNumber (ibanDigits c ++ ibanDigits c') ≡ wholeNumber (ibanDigits c' ++ ibanDigits c) [MOD 97] := by
  obtain ⟨hsame, hlength, hle, hle', hother⟩ := h.numbers
  have := hother hne
  rw [wholeNumber_append, wholeNumber_append, ← hsame]
  unfold Nat.ModEq
  obtain hone | htwo := hlength
  · rw [hone]
    omega
  · rw [htwo]
    omega

end Characters

section Typos

variable {address other pre post : Text} {c c' : Char}

/-- One typing error in an address without white space, in capitals: the first two characters are `NQ`, the next two
the check digits. -/
inductive Mistyped : Text → Text → Prop
  | letter (pre post : Text) (c c' : Char) (hbody : 4 ≤ pre.length) (hc : c.isUpper = true) (hc' : c'.isUpper = true)
      (hne : c ≠ c') : Mistyped (pre ++ c :: post) (pre ++ c' :: post)
  | digit (pre post : Text) (c c' : Char) (hcheck : 2 ≤ pre.length) (hc : c.isDigit = true) (hc' : c'.isDigit = true)
      (hne : c ≠ c') : Mistyped (pre ++ c :: post) (pre ++ c' :: post)
  | letters (pre post : Text) (c c' : Char) (hbody : 4 ≤ pre.length) (hc : c.isUpper = true) (hc' : c'.isUpper = true)
      (hne : c ≠ c') : Mistyped (pre ++ c :: c' :: post) (pre ++ c' :: c :: post)
  | digits (pre post : Text) (c c' : Char) (hbody : 4 ≤ pre.length) (hc : c.isDigit = true) (hc' : c'.isDigit = true)
      (hne : c ≠ c') : Mistyped (pre ++ c :: c' :: post) (pre ++ c' :: c :: post)

/-- The parts of two texts around where they differ, and what differs: of the same length, but of another number. -/
def Differ (text text' : Text) : Prop :=
  ∃ front mid mid' back, text = front ++ mid ++ back ∧ text' = front ++ mid' ++ back ∧
    (numeric mid).length = (numeric mid').length ∧ ¬ wholeNumber (numeric mid) ≡ wholeNumber (numeric mid') [MOD 97]

lemma Differ.number {text text' : Text} (h : Differ text text') :
    ¬ wholeNumber (numeric text) ≡ wholeNumber (numeric text') [MOD 97] := by
  obtain ⟨front, mid, mid', back, rfl, rfl, hlength, hother⟩ := h
  intro hsame
  apply hother
  rw [numeric_append, numeric_append, numeric_append, numeric_append] at hsame
  unfold wholeNumber at hsame ⊢
  rw [List.map_append, List.map_append, List.map_append, List.map_append] at hsame
  refine numberOf_segment (by decide) ?_ hsame
  rw [List.length_map, List.length_map, hlength]

/-- Rearranging keeps what stands within the body together. -/
lemma rearranged_body (hbody : 4 ≤ pre.length) (mid post : Text) :
    rearranged (pre ++ (mid ++ post)) = pre.drop 4 ++ mid ++ (post ++ pre.take 4) := by
  unfold rearranged
  rw [List.drop_append_of_le_length hbody, List.take_append_of_le_length hbody]
  simp only [List.append_assoc]

/-- Rearranging moves each character to a place of its own. -/
lemma rearranged_char (pre post : Text) : ∃ front back, ∀ c, rearranged (pre ++ c :: post) = front ++ [c] ++ back := by
  by_cases hbody : 4 ≤ pre.length
  · exact ⟨pre.drop 4, post ++ pre.take 4, fun c => rearranged_body hbody [c] post⟩
  · refine ⟨post.drop (3 - pre.length) ++ pre, post.take (3 - pre.length), ?_⟩
    intro c
    have hrest : 4 - pre.length = 3 - pre.length + 1 := by omega
    unfold rearranged
    rw [List.drop_append, List.take_append, List.drop_eq_nil_of_le (by omega), List.take_of_length_le (by omega), hrest,
      List.drop_succ_cons, List.take_succ_cons]
    simp only [List.append_assoc, List.nil_append, List.cons_append]

lemma numeric_singleton (c : Char) : numeric [c] = ibanDigits c := List.flatMap_singleton ibanDigits c

lemma numeric_pair (c c' : Char) : numeric [c, c'] = ibanDigits c ++ ibanDigits c' := by
  rw [← numeric_singleton, ← numeric_singleton, ← numeric_append]
  rfl

lemma SameKind.differ (h : SameKind c c') (hne : c ≠ c') (pre post : Text) :
    Differ (rearranged (pre ++ c :: post)) (rearranged (pre ++ c' :: post)) := by
  obtain ⟨front, back, hsplit⟩ := rearranged_char pre post
  refine ⟨front, [c], [c'], back, hsplit c, hsplit c', ?_, ?_⟩
  · rw [numeric_singleton, numeric_singleton]
    exact h.numbers.1
  · rw [numeric_singleton, numeric_singleton]
    exact h.changed hne

lemma SameKind.differ_swapped (h : SameKind c c') (hne : c ≠ c') (hbody : 4 ≤ pre.length) (post : Text) :
    Differ (rearranged (pre ++ c :: c' :: post)) (rearranged (pre ++ c' :: c :: post)) := by
  refine ⟨pre.drop 4, [c, c'], [c', c], post ++ pre.take 4, rearranged_body hbody [c, c'] post,
    rearranged_body hbody [c', c] post, ?_, ?_⟩
  · rw [numeric_pair, numeric_pair, List.length_append, List.length_append, add_comm]
  · rw [numeric_pair, numeric_pair]
    exact h.swapped hne

lemma Mistyped.differ (h : Mistyped address other) : Differ (rearranged address) (rearranged other) := by
  cases h with
  | letter pre post c c' hbody hc hc' hne => exact SameKind.differ (.inl ⟨hc, hc'⟩) hne pre post
  | digit pre post c c' hcheck hc hc' hne => exact SameKind.differ (.inr ⟨hc, hc'⟩) hne pre post
  | letters pre post c c' hbody hc hc' hne => exact SameKind.differ_swapped (.inl ⟨hc, hc'⟩) hne hbody post
  | digits pre post c c' hbody hc hc' hne => exact SameKind.differ_swapped (.inr ⟨hc, hc'⟩) hne hbody post

/-- No typing error passes, whatever the case and the white space around it; and the remainder taken digit by digit is
that of the whole number, of the numeric text of every address and of every other text of digits. -/
theorem typing_errors_caught :
    (∀ value typed, isValidNimiqUserFriendlyAddress value = true →
      Mistyped (normaliseAddressCandidate value) (normaliseAddressCandidate typed) →
      isValidNimiqUserFriendlyAddress typed = false) ∧
    (∀ digits, mod97DecimalString digits = wholeNumber digits % 97) ∧
    ∀ address, (ibanRearrangedNumeric address).map mod97DecimalString =
      (ibanRearrangedNumeric address).map fun digits => wholeNumber digits % 97 := by
  refine ⟨?_, mod97DecimalString_eq, fun address => congrArg (Option.map · _) (funext mod97DecimalString_eq)⟩
  intro value typed hvalid htyped
  by_contra haccepted
  obtain ⟨body, d, e, hspelled⟩ := (isValidNimiqUserFriendlyAddress_iff value).mp hvalid
  obtain ⟨body', d', e', hspelled'⟩ := (isValidNimiqUserFriendlyAddress_iff typed).mp (Bool.not_eq_false _ ▸ haccepted)
  exact htyped.differ.number (hspelled.number.trans hspelled'.number.symm)

/-- A check digit typed as another, in small letters and groups. -/
theorem typing_error_caught :
    isValidNimiqUserFriendlyAddress "nq01 0000 0000 0000 0000 0000 0000 0000 0000".toList = false := by
  refine typing_errors_caught.1 "nq07 0000 0000 0000 0000 0000 0000 0000 0000".toList _ (by decide +kernel) ?_
  have hvalue : normaliseAddressCandidate "nq07 0000 0000 0000 0000 0000 0000 0000 0000".toList =
      "NQ0".toList ++ '7' :: List.replicate 32 '0' := by decide +kernel
  have htyped : normaliseAddressCandidate "nq01 0000 0000 0000 0000 0000 0000 0000 0000".toList =
      "NQ0".toList ++ '1' :: List.replicate 32 '0' := by decide +kernel
  rw [hvalue, htyped]
  exact Mistyped.digit _ _ _ _ (by decide) (by decide) (by decide) (by decide)

end Typos

end NimHunt
