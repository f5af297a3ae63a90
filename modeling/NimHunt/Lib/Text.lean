import Mathlib.Data.List.DropRight
import Mathlib.Order.Basic

/-!
# Text

Unicode text as a list of characters: white space, words, and the longest prefix whose UTF-8 encoding fits a number of
bytes.
-/

namespace NimHunt.Lib

abbrev Text := List Char

/-- Checked along the text, not over all characters. -/
instance {p : Char → Prop} [DecidablePred p] (text : Text) : Decidable (∀ c ∈ text, p c) := List.decidableBAll p text

section Words

variable {text : Text}

/-- Unicode white space, line breaks included. -/
def isSpace (c : Char) : Bool :=
  let n := c.toNat
  (9 ≤ n && n ≤ 13) || (28 ≤ n && n ≤ 32) || n = 0x85 || n = 0xa0 || n = 0x1680 || (0x2000 ≤ n && n ≤ 0x200a) ||
    n = 0x2028 || n = 0x2029 || n = 0x202f || n = 0x205f || n = 0x3000

/-- The parts between runs of white space. -/
def words (text : Text) : List Text := (text.splitOnP isSpace).filter (· ≠ [])

def joinWords (parts : List Text) : Text := [' '].intercalate parts

lemma joinWords_singleton (part : Text) : joinWords [part] = part := List.append_nil part

lemma joinWords_cons_cons (part next : Text) (parts : List Text) :
    joinWords (part :: next :: parts) = part ++ ' ' :: joinWords (next :: parts) := rfl

def rstrip (text : Text) : Text := text.rdropWhile isSpace

def strip (text : Text) : Text := rstrip (text.dropWhile isSpace)

/-- The characters that are not white space. -/
def visible (text : Text) : Text := text.filter fun c => !isSpace c

lemma visible_append (text text' : Text) : visible (text ++ text') = visible text ++ visible text' :=
  List.filter_append text text'

lemma visible_eq_nil (h : ∀ c ∈ text, isSpace c = true) : visible text = [] := by
  apply List.filter_eq_nil_iff.mpr
  intro c hc
  rw [h c hc]
  nofun

lemma visible_eq_self (h : ∀ c ∈ text, isSpace c = false) : visible text = text := by
  apply List.filter_eq_self.mpr
  intro c hc
  rw [h c hc]
  rfl

lemma visible_dropWhile (text : Text) : visible (text.dropWhile isSpace) = visible text := by
  conv_rhs => rw [← List.takeWhile_append_dropWhile (p := isSpace) (l := text), visible_append]
  rw [visible_eq_nil fun c hc => List.mem_takeWhile_imp hc, List.nil_append]

lemma visible_strip (text : Text) : visible (strip text) = visible text := by
  have hreverse : ∀ text : Text, visible text.reverse = (visible text).reverse := fun text => List.filter_reverse
  unfold strip rstrip List.rdropWhile
  rw [hreverse, visible_dropWhile, hreverse, List.reverse_reverse, visible_dropWhile]

/-- The words one after the other are the text without its white space. -/
lemma flatten_words (text : Text) : (words text).flatten = visible text := by
  have hdropped : ∀ parts : List Text, (parts.filter (· ≠ [])).flatten = parts.flatten := by
    intro parts
    induction parts with
    | nil => rfl
    | cons part parts ih =>
      cases part with
      | nil => exact ih
      | cons c part => exact congrArg (fun rest => (c :: part) ++ rest) ih
  unfold words
  rw [hdropped]
  induction text with
  | nil => rfl
  | cons c text ih =>
    unfold visible at ih ⊢
    rw [List.splitOnP_cons_eq_if_modifyHead, List.filter_cons]
    split_ifs with hspace hvisible hvisible
    · rw [hspace] at hvisible
      cases hvisible
    · exact ih
    · rw [← ih]
      cases hparts : text.splitOnP isSpace with
      | nil => exact absurd hparts (List.splitOnP_ne_nil isSpace text)
      | cons first rest => rfl
    · rw [Bool.eq_false_iff.mpr hspace] at hvisible
      exact absurd rfl hvisible

lemma rstrip_isPrefix (text : Text) : rstrip text <+: text := List.rdropWhile_prefix isSpace text

lemma not_isSpace_of_mem_splitOnP {text part : Text} (h : part ∈ text.splitOnP isSpace) : ∀ c ∈ part, isSpace c = false := by
  induction text generalizing part with
  | nil =>
    rw [List.splitOnP_nil, List.mem_singleton] at h
    rw [h]
    nofun
  | cons c text ih =>
    rw [List.splitOnP_cons_eq_if_modifyHead] at h
    split_ifs at h with hspace
    · cases List.mem_cons.mp h with
      | inl hempty =>
        rw [hempty]
        nofun
      | inr hrest => exact ih hrest
    · have hne := List.splitOnP_ne_nil isSpace text
      cases hparts : text.splitOnP isSpace with
      | nil => exact absurd hparts hne
      | cons first rest =>
        rw [hparts, List.modifyHead_cons] at h
        rw [hparts] at ih
        cases List.mem_cons.mp h with
        | inl hfirst =>
          rw [hfirst]
          exact List.forall_mem_cons.mpr ⟨Bool.eq_false_iff.mpr hspace, ih List.mem_cons_self⟩
        | inr hrest => exact ih (List.mem_cons_of_mem first hrest)

lemma not_isSpace_of_mem_words {text part : Text} (h : part ∈ words text) : ∀ c ∈ part, isSpace c = false :=
  not_isSpace_of_mem_splitOnP (List.mem_filter.mp h).1

lemma visible_joinWords (parts : List Text) : visible (joinWords parts) = visible parts.flatten := by
  induction parts with
  | nil => rfl
  | cons part parts ih =>
    cases parts with
    | nil => rw [joinWords_singleton, List.flatten_singleton]
    | cons next parts =>
      have hblank : visible (' ' :: joinWords (next :: parts)) = visible (joinWords (next :: parts)) := rfl
      rw [joinWords_cons_cons, visible_append, hblank, ih, ← visible_append]
      rfl

/-- Between words stands one blank, and there is no other white space. -/
lemma eq_blank_of_mem_joinWords {parts : List Text} (h : ∀ part ∈ parts, ∀ c ∈ part, isSpace c = false) {c : Char}
    (hc : c ∈ joinWords parts) (hspace : isSpace c = true) : c = ' ' := by
  induction parts with
  | nil => cases hc
  | cons part parts ih =>
    have hrest : ∀ other ∈ parts, ∀ c ∈ other, isSpace c = false := fun other hother =>
      h other (List.mem_cons_of_mem part hother)
    have hpart : c ∉ part := by
      intro hmem
      rw [h part List.mem_cons_self c hmem] at hspace
      cases hspace
    cases parts with
    | nil => exact absurd (joinWords_singleton part ▸ hc) hpart
    | cons next parts =>
      rw [joinWords_cons_cons, List.mem_append, List.mem_cons] at hc
      obtain hmem | hblank | hlater := hc
      · exact absurd hmem hpart
      · exact hblank
      · exact ih hrest hlater

end Words

section Bytes

variable {text p q : Text} {limit n : ℕ}

/-- The UTF-8 encoding. -/
def encodeUtf8 (text : Text) : ByteArray := (String.ofList text).toByteArray

lemma encodeUtf8_eq (text : Text) : encodeUtf8 text = text.utf8Encode := String.toByteArray_ofList

/-- The number of bytes of the UTF-8 encoding. -/
def utf8Size (text : Text) : ℕ := (encodeUtf8 text).size

lemma encodeUtf8_append (text text' : Text) : encodeUtf8 (text ++ text') = encodeUtf8 text ++ encodeUtf8 text' := by
  rw [encodeUtf8_eq, encodeUtf8_eq, encodeUtf8_eq, List.utf8Encode_append]

lemma utf8Size_append (text text' : Text) : utf8Size (text ++ text') = utf8Size text + utf8Size text' := by
  unfold utf8Size
  rw [encodeUtf8_append, ByteArray.size_append]

lemma utf8Size_le_of_prefix (h : p <+: q) : utf8Size p ≤ utf8Size q := by
  obtain ⟨rest, rfl⟩ := h
  rw [utf8Size_append]
  exact Nat.le_add_right _ _

lemma eq_nil_of_utf8Size (h : utf8Size p = 0) : p = [] := by
  have hempty : p.utf8Encode = ByteArray.empty := encodeUtf8_eq p ▸ ByteArray.size_eq_zero_iff.mp h
  exact List.utf8Encode_eq_empty.mp hempty

/-- The longest prefix of the text within this many bytes. -/
structure LongestFitting (text : Text) (limit : ℕ) (p : Text) : Prop where
  isPrefix : p <+: text
  fits : utf8Size p ≤ limit
  longest : ∀ q, q <+: text → utf8Size q ≤ limit → q <+: p

lemma longestFitting_zero (text : Text) : LongestFitting text 0 [] where
  isPrefix := List.nil_prefix
  fits := le_refl _
  longest q _ hq := by
    exact List.prefix_nil.mpr (eq_nil_of_utf8Size (Nat.le_zero.mp hq))

/-- Bytes that decode are a prefix of the text. -/
lemma longestFitting_of_decode (hn : n ≤ utf8Size text) {decoded : Array Char}
    (h : ((encodeUtf8 text).extract 0 n).utf8Decode? = some decoded) : LongestFitting text n decoded.toList := by
  have hbytes : decoded.toList.utf8Encode = (encodeUtf8 text).extract 0 n := by
    have hget := @ByteArray.utf8Encode_get_utf8Decode? ((encodeUtf8 text).extract 0 n) (by rw [h]; rfl)
    simpa only [h, Option.get_some] using hget
  have hsize : utf8Size decoded.toList = n := by
    unfold utf8Size at hn ⊢
    rw [encodeUtf8_eq decoded.toList, hbytes, ByteArray.size_extract]
    omega
  have hstart : decoded.toList <+: text := by
    apply List.isPrefix_of_utf8Encode_append_eq_utf8Encode ((encodeUtf8 text).extract n (encodeUtf8 text).size)
    rw [hbytes, ← encodeUtf8_eq text, ByteArray.extract_append_extract]
    unfold utf8Size at hn
    rw [Nat.min_eq_left (Nat.zero_le n), Nat.max_eq_right hn, ByteArray.extract_zero_size]
  refine ⟨hstart, hsize.le, ?_⟩
  intro q hq hfits
  cases List.prefix_or_prefix_of_prefix hq hstart with
  | inl hshort => exact hshort
  | inr hlong =>
    obtain ⟨rest, rfl⟩ := hlong
    rw [utf8Size_append, hsize] at hfits
    have hnone : utf8Size rest = 0 := by omega
    rw [eq_nil_of_utf8Size hnone]
    simp

/-- Bytes that do not decode end inside a character, and one byte less holds the same prefixes. -/
lemma LongestFitting.of_not_decode (h : ((encodeUtf8 text).extract 0 (n + 1)).utf8Decode? = none)
    (hp : LongestFitting text n p) : LongestFitting text (n + 1) p := by
  refine ⟨hp.isPrefix, hp.fits.trans (Nat.le_succ n), ?_⟩
  intro q hq hfits
  refine hp.longest q hq (Nat.le_of_lt_succ (lt_of_le_of_ne hfits ?_))
  intro hsize
  obtain ⟨rest, hrest⟩ := hq
  have hbytes : (encodeUtf8 text).extract 0 (n + 1) = q.utf8Encode := by
    rw [← hrest, encodeUtf8_append, ← encodeUtf8_eq]
    exact ByteArray.extract_append_eq_left hsize.symm
  rw [hbytes, List.utf8Decode?_utf8Encode] at h
  cases h

end Bytes

end NimHunt.Lib
