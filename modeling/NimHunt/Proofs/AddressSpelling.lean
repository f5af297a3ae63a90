import NimHunt.Wallet

/-!
# Spellings of an address

White space and case make no difference, and what is returned is returned again.  The check digits are accepted modulo
97, so an account whose check is 0, 1 or 2 has a second spelling with 97, 98 or 99.
-/

namespace NimHunt

open Lib

section Characters

variable {c u : Char} {text value : Text}

/-- What holds of the first 128 characters one by one. -/
lemma forall_ascii {p : Char → Prop} (h : ∀ n < 128, p (Char.ofNat n)) (hc : c.toNat < 128) : p c :=
  Char.ofNat_toNat c ▸ h c.toNat hc

lemma toUpper_eq_self (h : 128 ≤ c.toNat) : c.toUpper = c := by
  unfold Char.toUpper
  split
  · next hlower =>
    have hle : c.toNat ≤ 122 := hlower.2
    omega
  · rfl

lemma convertChar_cases (special : List (Char × Text)) (convert : Char → Char) (c : Char) :
    (∃ row ∈ special, row.1 = c ∧ convertChar special convert c = row.2) ∨ convertChar special convert c = [convert c] := by
  unfold convertChar
  cases hrow : special.find? fun row => row.1 = c with
  | none => exact .inr rfl
  | some row =>
    have hfound := List.find?_some hrow
    exact .inl ⟨row, List.mem_of_find?_eq_some hrow, of_decide_eq_true hfound, rfl⟩

/-- A character's upper case: what holds of the table, and of the other characters, holds of all. -/
lemma forall_upperChar {p : Char → Text → Prop} (htable : ∀ row ∈ specialUpper, p row.1 row.2)
    (hascii : ∀ n < 128, p (Char.ofNat n) [(Char.ofNat n).toUpper]) (hbeyond : ∀ c : Char, 128 ≤ c.toNat → upperChar c = [c] → p c [c])
    (c : Char) : p c (upperChar c) := by
  obtain ⟨row, hrow, rfl, hupper⟩ | hupper := convertChar_cases specialUpper Char.toUpper c
  · exact (show upperChar row.1 = row.2 from hupper) ▸ htable row hrow
  · have hupper : upperChar c = [c.toUpper] := hupper
    by_cases hc : c.toNat < 128
    · rw [hupper]
      exact @forall_ascii c (fun c => p c [c.toUpper]) hascii hc
    · rw [toUpper_eq_self (not_lt.mp hc)] at hupper
      rw [hupper]
      exact hbeyond c (not_lt.mp hc) hupper

/-- Raising the case keeps white space, and nothing else becomes white space. -/
lemma isSpace_upperChar (c : Char) : ∀ u ∈ upperChar c, isSpace u = isSpace c := by
  refine @forall_upperChar (fun c upper => ∀ u ∈ upper, isSpace u = isSpace c) ?_ ?_ ?_ c
  · decide
  · decide
  · intro c _ _ u hu
    rw [List.mem_singleton.mp hu]

/-- A second time changes nothing. -/
lemma upperChar_upperChar (c : Char) : ∀ u ∈ upperChar c, upperChar u = [u] := by
  refine @forall_upperChar (fun _ upper => ∀ u ∈ upper, upperChar u = [u]) ?_ ?_ ?_ c
  · decide
  · decide
  · intro c _ hupper u hu
    rw [List.mem_singleton.mp hu]
    exact hupper

lemma upperText_visible (text : Text) : visible (upperText text) = upperText (visible text) := by
  unfold upperText
  induction text with
  | nil => rfl
  | cons c text ih =>
    rw [List.flatMap_cons, visible_append, ih]
    by_cases hc : isSpace c = true
    · rw [visible_eq_nil fun u hu => (isSpace_upperChar c u hu).trans hc]
      unfold visible
      rw [List.filter_cons_of_neg (by rw [hc]; nofun), List.nil_append]
    · rw [visible_eq_self fun u hu => (isSpace_upperChar c u hu).trans (Bool.eq_false_iff.mpr hc)]
      unfold visible
      rw [List.filter_cons_of_pos (by rw [Bool.eq_false_iff.mpr hc]; rfl), List.flatMap_cons]

lemma upperText_eq_self (h : ∀ c ∈ text, upperChar c = [c]) : upperText text = text := by
  unfold upperText
  rw [List.flatMap_congr h, List.flatMap_singleton' ]

/-- The candidate is the text without white space, in upper case. -/
lemma normaliseAddressCandidate_eq (value : Text) : normaliseAddressCandidate value = upperText (visible value) := by
  unfold normaliseAddressCandidate
  rw [flatten_words, upperText_visible, visible_strip]

lemma normaliseAddressCandidate_again (value : Text) :
    normaliseAddressCandidate (normaliseAddressCandidate value) = normaliseAddressCandidate value := by
  have hvisible : visible (upperText (visible value)) = upperText (visible value) := by
    rw [upperText_visible]
    unfold visible
    rw [List.filter_filter]
    congr 2
    funext c
    exact Bool.and_self _
  have hupper : ∀ u ∈ upperText (visible value), upperChar u = [u] := by
    intro u hu
    obtain ⟨c, -, hc⟩ := List.mem_flatMap.mp hu
    exact upperChar_upperChar c u hc
  rw [normaliseAddressCandidate_eq (normaliseAddressCandidate value), normaliseAddressCandidate_eq, hvisible,
    upperText_eq_self hupper]

/-- Digits and capitals. -/
def IsPlain (c : Char) : Prop := c.isDigit = true ∨ c.isUpper = true

instance (c : Char) : Decidable (IsPlain c) := inferInstanceAs (Decidable (_ ∨ _))

lemma IsPlain.lt (h : IsPlain c) : c.toNat < 128 := by
  have hlast : c.val ≤ '9'.val ∨ c.val ≤ 'Z'.val := by
    cases h with
    | inl hdigit => exact Or.inl (of_decide_eq_true (Bool.and_eq_true_iff.mp hdigit).2)
    | inr hupper => exact Or.inr (of_decide_eq_true hupper).2
  simp only [UInt32.le_iff_toNat_le] at hlast
  change c.toNat ≤ 57 ∨ c.toNat ≤ 90 at hlast
  omega

/-- Digits and capitals are in upper case, and no white space. -/
lemma IsPlain.fixed (h : IsPlain c) : upperChar c = [c] ∧ isSpace c = false :=
  @forall_ascii c (fun c => IsPlain c → upperChar c = [c] ∧ isSpace c = false) (by decide +kernel) h.lt h

lemma normaliseAddressCandidate_eq_self (h : ∀ c ∈ text, IsPlain c) : normaliseAddressCandidate text = text := by
  rw [normaliseAddressCandidate_eq, visible_eq_self fun c hc => (h c hc).fixed.2,
    upperText_eq_self fun c hc => (h c hc).fixed.1]

lemma flatten_groupsOfFour (text : Text) : (groupsOfFour text).flatten = text := by
  fun_induction groupsOfFour text with
  | case5 a b c d rest ih => rw [List.flatten_cons, ih]; rfl
  | _ => rfl

/-- Grouping adds blanks only. -/
lemma normaliseAddressCandidate_format (h : ∀ c ∈ text, IsPlain c) :
    normaliseAddressCandidate (formatUserFriendlyAddress text) = text := by
  rw [normaliseAddressCandidate_eq]
  unfold formatUserFriendlyAddress
  rw [visible_joinWords, flatten_groupsOfFour, ← normaliseAddressCandidate_eq, normaliseAddressCandidate_eq_self h]

end Characters

section Checksum

variable {d e : Char} {body : Text}

/-- The 32 characters that name an account. -/
structure AccountBody where
  chars : Text
  length : chars.length = 32
  alphabet : ∀ c ∈ chars, c ∈ nimiqAddressAlphabet

def spelling (body : Text) (d e : Char) : Text := 'N' :: 'Q' :: d :: e :: body

/-- The remainder of an address with the check digits `00`. -/
def checkRemainder (body : Text) : ℕ := ((ibanRearrangedNumeric (spelling body '0' '0')).map mod97DecimalString).getD 0

/-- What the check digits must be, up to multiples of 97. -/
def requiredCheck (body : Text) : ℕ := (98 - checkRemainder body) % 97

def digitValue (d : Char) : ℕ := d.toNat - '0'.toNat

/-- The check of two digits. -/
def checkOf (d e : Char) : ℕ := digitValue d * 10 + digitValue e

lemma mod97DecimalString_append (digits : Text) (d e : Char) :
    mod97DecimalString (digits ++ [d, e]) = (mod97DecimalString digits * 100 + checkOf d e) % 97 := by
  unfold mod97DecimalString checkOf digitValue
  rw [List.foldl_append]
  simp only [List.foldl_cons, List.foldl_nil]
  omega

lemma ibanPart_alphabet : ∀ c ∈ nimiqAddressAlphabet, (ibanPart c).isSome = true := by decide

lemma exists_mapM_ibanPart {text : Text} (h : ∀ c ∈ text, (ibanPart c).isSome = true) :
    ∃ parts, text.mapM ibanPart = some parts := by
  induction text with
  | nil => exact ⟨[], rfl⟩
  | cons c text ih =>
    obtain ⟨hc, htext⟩ := List.forall_mem_cons.mp h
    obtain ⟨part, hpart⟩ := Option.isSome_iff_exists.mp hc
    obtain ⟨parts, hparts⟩ := ih htext
    exact ⟨part :: parts, by rw [List.mapM_cons, hpart, hparts]; rfl⟩

/-- The check digits come last in the number. -/
lemma ibanRearrangedNumeric_spelling (hbody : ∀ c ∈ body, c ∈ nimiqAddressAlphabet) : ∃ digits,
    ∀ d e, d.isDigit = true → e.isDigit = true → ibanRearrangedNumeric (spelling body d e) = some (digits ++ [d, e]) := by
  obtain ⟨parts, hparts⟩ := exists_mapM_ibanPart fun c hc => ibanPart_alphabet c (hbody c hc)
  refine ⟨parts.flatten ++ ['2', '3', '2', '6'], ?_⟩
  intro d e hd he
  have htail : ['N', 'Q', d, e].mapM ibanPart = some [['2', '3'], ['2', '6'], [d], [e]] := by
    have hpart : ∀ c : Char, c.isDigit = true → ibanPart c = some [c] := fun c hc => if_pos hc
    rw [List.mapM_cons, List.mapM_cons, List.mapM_cons, List.mapM_cons, hpart d hd, hpart e he]
    rfl
  unfold ibanRearrangedNumeric spelling
  change ((body ++ ['N', 'Q', d, e]).mapM ibanPart).map List.flatten = _
  rw [List.mapM_append, hparts, htail]
  simp

/-- A spelling is accepted by its check alone. -/
lemma mod97_spelling (hbody : ∀ c ∈ body, c ∈ nimiqAddressAlphabet) (hd : d.isDigit = true) (he : e.isDigit = true) :
    (ibanRearrangedNumeric (spelling body d e)).map mod97DecimalString = some 1 ↔
      checkOf d e % 97 = requiredCheck body := by
  obtain ⟨digits, hdigits⟩ := ibanRearrangedNumeric_spelling hbody
  have hzero : checkRemainder body = mod97DecimalString digits * 100 % 97 := by
    unfold checkRemainder
    rw [hdigits '0' '0' rfl rfl]
    exact mod97DecimalString_append digits '0' '0'
  unfold requiredCheck
  rw [hdigits d e hd he, hzero, Option.map_some, mod97DecimalString_append, Option.some_inj]
  omega

end Checksum

section Spellings

variable {fieldName : String} {value value' address address' : Text} {c d e d' e' : Char} {body : AccountBody}

/-- A spelling of an account with check digits that are accepted. -/
structure Spelled (address : Text) (body : AccountBody) (d e : Char) : Prop where
  eq : address = spelling body.chars d e
  first : d.isDigit = true
  second : e.isDigit = true
  check : checkOf d e % 97 = requiredCheck body.chars

lemma isPlain_alphabet : ∀ c ∈ nimiqAddressAlphabet, IsPlain c := by decide

lemma mem_alphabet_of_isDigit (h : d.isDigit = true) : d ∈ nimiqAddressAlphabet :=
  @forall_ascii d (fun d => d.isDigit = true → d ∈ nimiqAddressAlphabet) (by decide +kernel)
    (IsPlain.lt (.inl h)) h

lemma Spelled.alphabet (h : Spelled address body d e) : ∀ c ∈ address, c ∈ nimiqAddressAlphabet := by
  rw [h.eq]
  unfold spelling
  simp only [List.forall_mem_cons]
  exact ⟨by decide, by decide, mem_alphabet_of_isDigit h.first, mem_alphabet_of_isDigit h.second, body.alphabet⟩

lemma Spelled.plain (h : Spelled address body d e) : ∀ c ∈ address, IsPlain c := fun c hc =>
  isPlain_alphabet c (h.alphabet c hc)

lemma isValidNimiqUserFriendlyAddress_iff (value : Text) : isValidNimiqUserFriendlyAddress value = true ↔
    ∃ body d e, Spelled (normaliseAddressCandidate value) body d e := by
  unfold isValidNimiqUserFriendlyAddress
  dsimp only
  generalize normaliseAddressCandidate value = address
  constructor
  · intro h
    simp only [Bool.and_eq_true, decide_eq_true_eq] at h
    obtain ⟨⟨⟨⟨hlength, hstart⟩, hdigits⟩, hbody⟩, hcheck⟩ := h
    obtain ⟨rest, rfl⟩ := List.isPrefixOf_iff_prefix.mp hstart
    match rest, hlength with
    | d :: e :: body, hlength =>
      have hlength : body.length = 32 := by simpa using hlength
      have hchars : ∀ c ∈ body, c ∈ nimiqAddressAlphabet := fun c hc =>
        of_decide_eq_true (List.all_eq_true.mp hbody c hc)
      have hd := List.all_eq_true.mp hdigits d (by simp)
      have he := List.all_eq_true.mp hdigits e (by simp)
      exact ⟨⟨body, hlength, hchars⟩, d, e, rfl, hd, he, (mod97_spelling hchars hd he).mp hcheck⟩
  · rintro ⟨body, d, e, rfl, hd, he, hcheck⟩
    have hbody : (body.chars.all fun c => decide (c ∈ nimiqAddressAlphabet)) = true :=
      List.all_eq_true.mpr fun c hc => decide_eq_true (body.alphabet c hc)
    have hsum := (mod97_spelling body.alphabet hd he).mpr hcheck
    have hlength : (spelling body.chars d e).length = 36 := by
      unfold spelling
      rw [List.length_cons, List.length_cons, List.length_cons, List.length_cons, body.length]
    rw [hlength, hsum]
    unfold spelling
    simp [hd, he, hbody]

/-- What is accepted, and what is returned for it. -/
lemma normaliseNimiqAddress_ok_iff : normaliseNimiqAddress fieldName value = .ok address ↔
    ∃ body d e, Spelled (normaliseAddressCandidate value) body d e ∧
      address = formatUserFriendlyAddress (normaliseAddressCandidate value) := by
  have hstrip : normaliseAddressCandidate (strip value) = normaliseAddressCandidate value := by
    rw [normaliseAddressCandidate_eq, normaliseAddressCandidate_eq, visible_strip]
  have hvalid := isValidNimiqUserFriendlyAddress_iff (normaliseAddressCandidate value)
  rw [normaliseAddressCandidate_again] at hvalid
  unfold normaliseNimiqAddress
  dsimp only
  rw [hstrip]
  split_ifs with hempty hrefused
  · refine iff_of_false nofun ?_
    rintro ⟨body, d, e, hspelled, -⟩
    have hnil : normaliseAddressCandidate value = [] := by
      rw [← hstrip, hempty]
      rfl
    have heq := hspelled.eq
    rw [hnil] at heq
    cases heq
  · refine iff_of_false nofun ?_
    rintro ⟨body, d, e, hspelled, -⟩
    rw [hvalid.mpr ⟨body, d, e, hspelled⟩] at hrefused
    cases hrefused
  · obtain ⟨body, d, e, hspelled⟩ := hvalid.mp (Bool.not_eq_false _ ▸ hrefused)
    constructor
    · exact fun h => ⟨body, d, e, hspelled, (Except.ok.inj h).symm⟩
    · rintro ⟨-, -, -, -, rfl⟩
      rfl

/-- The value names this account. -/
def Names (value : Text) (body : AccountBody) : Prop := (normaliseAddressCandidate value).drop 4 = body.chars

/-- `str.casefold` where it ends in ASCII; every other character beyond ASCII keeps one beyond it. -/
def foldChar (c : Char) : Text :=
  convertChar [('ß', ['s', 's']), ('ẞ', ['s', 's']), ('ſ', ['s']), ('\u212a', ['k']), ('ﬀ', ['f', 'f']),
    ('ﬁ', ['f', 'i']), ('ﬂ', ['f', 'l']), ('ﬃ', ['f', 'f', 'i']), ('ﬄ', ['f', 'f', 'l']), ('ﬅ', ['s', 't']),
    ('ﬆ', ['s', 't'])] Char.toLower c

/-- The values differ in letter case and white space only. -/
def SameButCase (value value' : Text) : Prop := (visible value).flatMap foldChar = (visible value').flatMap foldChar

/-- Where raising the case gives characters of addresses, folding it and then raising it gives the same. -/
lemma upperChar_eq_foldChar (c : Char) (h : ∀ u ∈ upperChar c, u ∈ nimiqAddressAlphabet) :
    upperChar c = (foldChar c).map Char.toUpper := by
  revert h
  refine @forall_upperChar (fun c upper => (∀ u ∈ upper, u ∈ nimiqAddressAlphabet) →
    upper = (foldChar c).map Char.toUpper) ?_ ?_ ?_ c
  · decide +kernel
  · decide +kernel
  · intro c hc _ h
    have hlt := (isPlain_alphabet c (h c List.mem_cons_self)).lt
    omega

/-- The candidate of an accepted value is its folded text in capitals. -/
lemma Spelled.folded (h : Spelled (normaliseAddressCandidate value) body d e) :
    normaliseAddressCandidate value = ((visible value).flatMap foldChar).map Char.toUpper := by
  have hchars := h.alphabet
  rw [normaliseAddressCandidate_eq] at hchars ⊢
  unfold upperText at hchars ⊢
  rw [List.map_flatMap]
  apply List.flatMap_congr
  intro c hc
  exact upperChar_eq_foldChar c fun u hu => hchars u (List.mem_flatMap.mpr ⟨c, hc, hu⟩)

/-- All accepted values that name the account give one string. -/
def OneSpelling (fieldName : String) (body : AccountBody) : Prop :=
  ∀ value value' address address', normaliseNimiqAddress fieldName value = .ok address →
    normaliseNimiqAddress fieldName value' = .ok address' → Names value body → Names value' body → address = address'

lemma normaliseNimiqAddress_again (h : normaliseNimiqAddress fieldName value = .ok address) :
    normaliseNimiqAddress fieldName address = .ok address := by
  obtain ⟨body, d, e, hspelled, rfl⟩ := normaliseNimiqAddress_ok_iff.mp h
  have hagain := normaliseAddressCandidate_format hspelled.plain
  exact normaliseNimiqAddress_ok_iff.mpr ⟨body, d, e, hagain.symm ▸ hspelled, by rw [hagain]⟩

lemma normaliseNimiqAddress_sameButCase (h : normaliseNimiqAddress fieldName value = .ok address)
    (h' : normaliseNimiqAddress fieldName value' = .ok address') (hsame : SameButCase value value') :
    address = address' := by
  obtain ⟨body, d, e, hspelled, rfl⟩ := normaliseNimiqAddress_ok_iff.mp h
  obtain ⟨body', d', e', hspelled', rfl⟩ := normaliseNimiqAddress_ok_iff.mp h'
  rw [hspelled.folded, hspelled'.folded, hsame]

lemma toNat_of_isDigit (h : c.isDigit = true) : 48 ≤ c.toNat ∧ c.toNat ≤ 57 := by
  unfold Char.isDigit at h
  simp only [Bool.and_eq_true, decide_eq_true_eq, ge_iff_le, UInt32.le_iff_toNat_le] at h
  exact h

lemma digitValue_eq (c : Char) : digitValue c = c.toNat - 48 := rfl

lemma checkOf_lt (hd : d.isDigit = true) (he : e.isDigit = true) : checkOf d e < 100 := by
  have hdigit := toNat_of_isDigit hd
  have hdigit' := toNat_of_isDigit he
  unfold checkOf
  rw [digitValue_eq, digitValue_eq]
  omega

/-- Two digits are told by their check. -/
lemma eq_of_checkOf (hd : d.isDigit = true) (he : e.isDigit = true) (hd' : d'.isDigit = true) (he' : e'.isDigit = true)
    (h : checkOf d e = checkOf d' e') : d = d' ∧ e = e' := by
  have h₁ := toNat_of_isDigit hd
  have h₂ := toNat_of_isDigit he
  have h₃ := toNat_of_isDigit hd'
  have h₄ := toNat_of_isDigit he'
  unfold checkOf at h
  rw [digitValue_eq, digitValue_eq, digitValue_eq, digitValue_eq] at h
  exact ⟨Char.toNat_inj.mp (by omega), Char.toNat_inj.mp (by omega)⟩

def digitChar (n : ℕ) : Char := Char.ofNat (48 + n)

/-- The spelling of an account with this check. -/
def spell (body : AccountBody) (check : ℕ) : Text := spelling body.chars (digitChar (check / 10)) (digitChar (check % 10))

lemma checkOf_digitChar : ∀ check < 100, (digitChar (check / 10)).isDigit = true ∧
    (digitChar (check % 10)).isDigit = true ∧ checkOf (digitChar (check / 10)) (digitChar (check % 10)) = check := by
  decide

lemma spell_spelled {check : ℕ} (hcheck : check < 100) (h : check % 97 = requiredCheck body.chars) :
    Spelled (spell body check) body (digitChar (check / 10)) (digitChar (check % 10)) := by
  obtain ⟨hd, he, hof⟩ := checkOf_digitChar check hcheck
  exact ⟨rfl, hd, he, by rw [hof, h]⟩

lemma spell_accepted {check : ℕ} (hcheck : check < 100) (h : check % 97 = requiredCheck body.chars) :
    normaliseNimiqAddress fieldName (spell body check) = .ok (formatUserFriendlyAddress (spell body check)) ∧
      Names (spell body check) body := by
  have hspelled := spell_spelled hcheck h
  have hsame := normaliseAddressCandidate_eq_self hspelled.plain
  refine ⟨normaliseNimiqAddress_ok_iff.mpr ⟨body, _, _, hsame.symm ▸ hspelled, by rw [hsame]⟩, ?_⟩
  unfold Names
  rw [hsame]
  rfl

lemma Spelled.body_eq (h : Spelled (normaliseAddressCandidate value) body d e) {named : AccountBody}
    (hnames : Names value named) : body.chars = named.chars := by
  unfold Names at hnames
  rw [h.eq] at hnames
  exact hnames

/-- An account has one spelling exactly when its check is not so small that 97 can be added. -/
lemma oneSpelling_iff (fieldName : String) (body : AccountBody) :
    OneSpelling fieldName body ↔ 2 < requiredCheck body.chars := by
  constructor
  · intro hone
    by_contra hsmall
    have hlow := @spell_spelled body (requiredCheck body.chars) (by omega) (by omega)
    have hhigh := @spell_spelled body (requiredCheck body.chars + 97) (by omega) (by omega)
    have haccepted := @spell_accepted fieldName body (requiredCheck body.chars) (by omega) (by omega)
    have haccepted' := @spell_accepted fieldName body (requiredCheck body.chars + 97) (by omega) (by omega)
    have hsame := hone _ _ _ _ haccepted.1 haccepted'.1 haccepted.2 haccepted'.2
    have hspell : spell body (requiredCheck body.chars) = spell body (requiredCheck body.chars + 97) := by
      rw [← normaliseAddressCandidate_format hlow.plain, hsame, normaliseAddressCandidate_format hhigh.plain]
    have hdigits := List.cons.inj (List.cons.inj (List.cons.inj hspell).2).2
    have hcheck := (checkOf_digitChar (requiredCheck body.chars) (by omega)).2.2
    rw [hdigits.1, (List.cons.inj hdigits.2).1, (checkOf_digitChar (requiredCheck body.chars + 97) (by omega)).2.2] at hcheck
    omega
  · intro hlarge value value' address address' h h' hnames hnames'
    obtain ⟨body₁, d, e, hspelled, rfl⟩ := normaliseNimiqAddress_ok_iff.mp h
    obtain ⟨body₂, d', e', hspelled', rfl⟩ := normaliseNimiqAddress_ok_iff.mp h'
    have hbody := hspelled.body_eq hnames
    have hbody' := hspelled'.body_eq hnames'
    have hcheck := hspelled.check
    have hcheck' := hspelled'.check
    rw [hbody] at hcheck
    rw [hbody'] at hcheck'
    have hlt := checkOf_lt hspelled.first hspelled.second
    have hlt' := checkOf_lt hspelled'.first hspelled'.second
    have hcheckOf : checkOf d e = checkOf d' e' := by omega
    obtain ⟨rfl, rfl⟩ := eq_of_checkOf hspelled.first hspelled.second hspelled'.first hspelled'.second hcheckOf
    rw [hspelled.eq, hspelled'.eq, hbody, hbody']

/-- What is returned is returned again, and case and white space make no difference; but an account has one string only
where its check is above 2. -/
theorem addresses_canonical_iff (fieldName : String) :
    (∀ value address, normaliseNimiqAddress fieldName value = .ok address →
      normaliseNimiqAddress fieldName address = .ok address) ∧
    (∀ value value' address address', normaliseNimiqAddress fieldName value = .ok address →
      normaliseNimiqAddress fieldName value' = .ok address' → SameButCase value value' → address = address') ∧
    ∀ body : AccountBody, OneSpelling fieldName body ↔ 2 < requiredCheck body.chars :=
  ⟨fun _ _ h => normaliseNimiqAddress_again h, fun _ _ _ _ h h' hsame => normaliseNimiqAddress_sameButCase h h' hsame,
    oneSpelling_iff fieldName⟩

def twiceSpelled : AccountBody where
  chars := "0000000000000000000000000000000T".toList
  length := by decide
  alphabet := by decide

/-- With the check digits 00 and with 97, the account appears under two strings. -/
theorem two_spellings : ¬ ∀ body : AccountBody, OneSpelling "address" body := by
  intro hall
  have hsame := hall twiceSpelled
    "NQ00 0000 0000 0000 0000 0000 0000 0000 000T".toList "NQ97 0000 0000 0000 0000 0000 0000 0000 000T".toList
    "NQ00 0000 0000 0000 0000 0000 0000 0000 000T".toList "NQ97 0000 0000 0000 0000 0000 0000 0000 000T".toList
    (by decide +kernel) (by decide +kernel) (by unfold Names; decide +kernel) (by unfold Names; decide +kernel)
  exact absurd hsame (by decide)

end Spellings

end NimHunt
