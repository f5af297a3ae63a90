import NimHunt.TransactionDescriptions

/-!
# The budget of a description

The loop takes bytes away until the rest decodes, and so stops at the longest prefix of whole characters that fits.
-/

namespace NimHunt

open Lib

section Budget

variable {kind text p : Text} {title : Option Text} {maxBytes : ℤ}

/-- All white space of this text is the plain blank. -/
def OneLine (text : Text) : Prop := ∀ c ∈ text, isSpace c = true → c = ' '

instance (text : Text) : Decidable (OneLine text) := inferInstanceAs (Decidable (∀ c ∈ text, _))

lemma OneLine.append {text' : Text} (h : OneLine text) (h' : OneLine text') : OneLine (text ++ text') := by
  intro c hc
  cases List.mem_append.mp hc with
  | inl hleft => exact h c hleft
  | inr hright => exact h' c hright

lemma OneLine.of_prefix (h : OneLine text) (hp : p <+: text) : OneLine p := fun c hc => h c (hp.subset hc)

lemma oneLine_normaliseWords {fallback : Text} (h : OneLine fallback) (value : Option Text) :
    OneLine (normaliseWords fallback value) := by
  unfold normaliseWords
  dsimp only
  split_ifs
  · exact h
  · exact fun c hc => eq_blank_of_mem_joinWords (fun part hpart => not_isSpace_of_mem_words hpart) hc

lemma oneLine_normalisedDescription (kind : Text) (title : Option Text) : OneLine (normalisedDescription kind title) := by
  have hkind : OneLine "NimHunt".toList := by decide
  have htitle : OneLine "Spot".toList := by decide
  have hcolon : OneLine ": ".toList := by decide
  exact ((oneLine_normaliseWords hkind _).append hcolon).append (oneLine_normaliseWords htitle title)

lemma utf8Size_replicate_dot (n : ℕ) : utf8Size (List.replicate n '.') = n := by
  induction n with
  | zero => rfl
  | succ n ih =>
    have hdot : utf8Size ['.'] = 1 := by decide
    rw [List.replicate_succ', utf8Size_append, ih, hdot]

lemma utf8Size_suffix : utf8Size suffix = 3 := utf8Size_replicate_dot 3

/-- The bytes the loop starts from hold this prefix and no longer one. -/
lemma decodePrefix_eq {n : ℕ} (hn : n ≤ utf8Size text) :
    ∃ p, LongestFitting text n p ∧ decodePrefix (encodeUtf8 text) n = rstrip p ++ suffix := by
  induction n with
  | zero => exact ⟨[], longestFitting_zero text, rfl⟩
  | succ n ih =>
    unfold decodePrefix
    cases hdecode : ((encodeUtf8 text).extract 0 (n + 1)).utf8Decode? with
    | some chars => exact ⟨chars.toList, longestFitting_of_decode hn hdecode, rfl⟩
    | none =>
      obtain ⟨p, hp, heq⟩ := ih (Nat.le_of_succ_le hn)
      exact ⟨p, hp.of_not_decode hdecode, heq⟩

lemma truncateUtf8_short (hshort : utf8Size text ≤ maxBytes.toNat) : truncateUtf8 text maxBytes = text := if_pos hshort

/-- Where there is no room for more than the dots. -/
lemma truncateUtf8_dots (hlong : maxBytes.toNat < utf8Size text) (hdots : maxBytes.toNat ≤ 3) :
    truncateUtf8 text maxBytes = List.replicate maxBytes.toNat '.' := by
  have hsize : ¬ (encodeUtf8 text).size ≤ maxBytes.toNat := not_le.mpr hlong
  unfold truncateUtf8
  dsimp only
  rw [if_neg hsize, utf8Size_suffix, if_pos hdots]
  split_ifs with hnone
  · rw [hnone]
    rfl
  · rfl

/-- A text that is too long is cut in front of the dots. -/
lemma truncateUtf8_long (hlong : maxBytes.toNat < utf8Size text) (hdots : 3 < maxBytes.toNat) :
    ∃ p, LongestFitting text (maxBytes.toNat - 3) p ∧ truncateUtf8 text maxBytes = rstrip p ++ suffix := by
  have hsize : ¬ (encodeUtf8 text).size ≤ maxBytes.toNat := not_le.mpr hlong
  unfold truncateUtf8
  dsimp only
  rw [if_neg hsize, if_neg (by omega), utf8Size_suffix, if_neg (by omega)]
  exact decodePrefix_eq (by omega)

/-- One line within the budget: all of `Kind: Title`, or as much of it as leaves room for three dots. -/
structure DescriptionFits (kind : Text) (title : Option Text) (maxBytes : ℤ) (description : Text) : Prop where
  oneLine : OneLine description
  fits : (utf8Size description : ℤ) ≤ max 0 maxBytes
  whole : utf8Size (normalisedDescription kind title) ≤ maxBytes → description = normalisedDescription kind title
  cut : maxBytes < utf8Size (normalisedDescription kind title) → 3 < maxBytes →
    ∃ p, LongestFitting (normalisedDescription kind title) (maxBytes - 3).toNat p ∧ description = rstrip p ++ suffix

theorem buildTransactionDescription_fits (kind : Text) (title : Option Text) (maxBytes : ℤ) :
    DescriptionFits kind title maxBytes (buildTransactionDescription kind title maxBytes) := by
  have hline := oneLine_normalisedDescription kind title
  have hdots : ∀ n, OneLine (List.replicate n '.') := by
    intro n c hc hspace
    rw [List.eq_of_mem_replicate hc] at hspace
    exact absurd hspace (by decide)
  have hrest : (maxBytes - 3).toNat = maxBytes.toNat - 3 := by omega
  unfold buildTransactionDescription
  by_cases hshort : utf8Size (normalisedDescription kind title) ≤ maxBytes.toNat
  · rw [truncateUtf8_short hshort]
    exact ⟨hline, by omega, fun _ => rfl, by omega⟩
  · have hlong := not_le.mp hshort
    by_cases hroom : 3 < maxBytes.toNat
    · obtain ⟨p, hp, hcut⟩ := truncateUtf8_long hlong hroom
      rw [hcut]
      refine ⟨?_, ?_, by omega, fun _ _ => ⟨p, hrest ▸ hp, rfl⟩⟩
      · exact (hline.of_prefix ((rstrip_isPrefix p).trans hp.isPrefix)).append (hdots 3)
      · have hstripped := utf8Size_le_of_prefix (rstrip_isPrefix p)
        have hfits := hp.fits
        rw [utf8Size_append, utf8Size_suffix]
        omega
    · rw [truncateUtf8_dots hlong (not_lt.mp hroom)]
      refine ⟨hdots _, ?_, by omega, by omega⟩
      rw [utf8Size_replicate_dot]
      omega

/-- The cut falls inside a three-byte character. -/
example : buildTransactionDescription "Prizedraw".toList (some "龍の広場龍の広場龍の広場".toList) 30 =
    "Prizedraw: 龍の広場龍...".toList := by decide +kernel

end Budget

end NimHunt
