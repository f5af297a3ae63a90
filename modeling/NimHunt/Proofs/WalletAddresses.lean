import NimHunt.ClaimWalletHourlyLimit
import NimHunt.Proofs.AddressSpelling

/-!
# Wallet addresses in a deployment

A wallet is bound, counted and compared in the spelling `wallet.py` returns for it.
-/

namespace NimHunt

open Lib

variable {P : Type}

/-- What `wallet.py` accepts it returns in a spelling that it accepts again and that Python's `strip` and
`upper` leave alone. -/
structure Settings.CanonicalAddresses (cfg : Settings P) : Prop where
  stable : ∀ text address, cfg.normaliseRealNimiqAddress text = .ok address →
    canonicalOptionalAddress cfg (some address) = some address
  spelled : ∀ text address, cfg.normaliseRealNimiqAddress text = .ok address →
    signalText cfg (some address) = address

/-- A deployment with Python's text functions and the normaliser of `wallet.py`. -/
def Settings.withWallet (cfg : Settings P) : Settings P :=
  { cfg with
    strip := fun text => String.ofList (Lib.strip text.toList)
    upper := fun text => String.ofList (upperText text.toList)
    normaliseRealNimiqAddress := fun text =>
      match NimHunt.normaliseNimiqAddress "wallet address" text.toList with
      | .ok address => .ok (String.ofList address)
      | .error e => .error e.message }

section Spelling

variable {text value address : Text} {fieldName : String}

lemma strip_eq_self (hfirst : ∀ c ∈ text.head?, isSpace c = false) (hlast : ∀ c ∈ text.getLast?, isSpace c = false) :
    strip text = text := by
  have hfront : text.dropWhile isSpace = text := by
    cases text with
    | nil => rfl
    | cons c text => rw [List.dropWhile_cons_of_neg (by rw [hfirst c rfl]; exact Bool.false_ne_true)]
  unfold strip rstrip
  rw [hfront, List.rdropWhile_eq_self_iff]
  intro hne
  rw [hlast _ (List.getLast?_eq_some_getLast hne)]
  exact Bool.false_ne_true

lemma groupsOfFour_ne_nil (h : text ≠ []) : groupsOfFour text ≠ [] := by
  fun_cases groupsOfFour text <;> simp_all

/-- Groups begin and end where the address does. -/
lemma formatUserFriendlyAddress_ends (text : Text) :
    (formatUserFriendlyAddress text).head? = text.head? ∧ (formatUserFriendlyAddress text).getLast? = text.getLast? := by
  unfold formatUserFriendlyAddress
  fun_induction groupsOfFour text with
  | case5 a b c d rest ih =>
    cases rest with
    | nil => exact ⟨rfl, rfl⟩
    | cons first rest =>
      obtain ⟨next, parts, hgroups⟩ := List.exists_cons_of_ne_nil (groupsOfFour_ne_nil (List.cons_ne_nil first rest))
      rw [hgroups] at ih ⊢
      rw [joinWords_cons_cons]
      refine ⟨rfl, ?_⟩
      obtain ⟨last, hlast⟩ := Option.isSome_iff_exists.mp (List.getLast?_isSome.mpr (List.cons_ne_nil first rest))
      have hjoined := ih.2
      rw [hlast] at hjoined
      simp [List.getLast?_cons, hjoined, hlast]
  | _ => exact ⟨rfl, rfl⟩

/-- Grouping adds no white space at the ends, and no character that `upper` changes. -/
lemma Spelled.format_fixed {body : AccountBody} {d e : Char} (h : Spelled address body d e) :
    strip (formatUserFriendlyAddress address) = formatUserFriendlyAddress address ∧
      upperText (formatUserFriendlyAddress address) = formatUserFriendlyAddress address := by
  obtain ⟨hhead, hlast⟩ := formatUserFriendlyAddress_ends address
  have hvisible : ∀ c ∈ address, isSpace c = false := fun c hc => (h.plain c hc).fixed.2
  constructor
  · apply strip_eq_self
    · exact fun c hc => hvisible c (List.mem_of_mem_head? (hhead ▸ hc))
    · exact fun c hc => hvisible c (List.mem_of_mem_getLast? (hlast ▸ hc))
  · apply upperText_eq_self
    intro c hc
    have hparts : ∀ part ∈ groupsOfFour address, ∀ c ∈ part, isSpace c = false := by
      intro part hpart c hc
      apply hvisible
      rw [← flatten_groupsOfFour address]
      exact List.mem_flatten_of_mem hpart hc
    by_cases hspace : isSpace c = true
    · rw [eq_blank_of_mem_joinWords hparts hc hspace]
      decide
    · have hmem : c ∈ visible (formatUserFriendlyAddress address) :=
        List.mem_filter.mpr ⟨hc, by simpa using hspace⟩
      unfold formatUserFriendlyAddress at hmem
      rw [visible_joinWords, flatten_groupsOfFour, visible_eq_self hvisible] at hmem
      exact (h.plain c hmem).fixed.1

lemma normaliseNimiqAddress_fixed (h : normaliseNimiqAddress fieldName value = .ok address) :
    strip address = address ∧ upperText address = address ∧ address ≠ [] := by
  obtain ⟨body, d, e, hspelled, rfl⟩ := normaliseNimiqAddress_ok_iff.mp h
  obtain ⟨hstrip, hupper⟩ := hspelled.format_fixed
  refine ⟨hstrip, hupper, ?_⟩
  intro hnil
  have hhead := (formatUserFriendlyAddress_ends (normaliseAddressCandidate value)).1
  rw [hnil, hspelled.eq] at hhead
  cases hhead

end Spelling

/-- What the limits ask of addresses `wallet.py` gives. -/
theorem canonicalAddresses_withWallet (cfg : Settings P) : cfg.withWallet.CanonicalAddresses := by
  have haccepted : ∀ text address, cfg.withWallet.normaliseRealNimiqAddress text = .ok address →
      ∃ value, NimHunt.normaliseNimiqAddress "wallet address" value = .ok address.toList := by
    intro text address h
    refine ⟨text.toList, ?_⟩
    change (match NimHunt.normaliseNimiqAddress "wallet address" text.toList with
      | .ok address => Except.ok (String.ofList address)
      | .error e => .error e.message) = .ok address at h
    cases haddress : NimHunt.normaliseNimiqAddress "wallet address" text.toList with
    | error e =>
      rw [haddress] at h
      cases h
    | ok found =>
      rw [haddress] at h
      rw [← Except.ok.inj h, String.toList_ofList]
  constructor
  · intro text address h
    obtain ⟨value, hvalue⟩ := haccepted text address h
    obtain ⟨hstrip, -, hsome⟩ := normaliseNimiqAddress_fixed hvalue
    have hstripped : cfg.withWallet.strip address = address := by
      change String.ofList (strip address.toList) = address
      rw [hstrip, String.ofList_toList]
    have hagain : cfg.withWallet.normaliseRealNimiqAddress address = .ok address := by
      change (match NimHunt.normaliseNimiqAddress "wallet address" address.toList with
        | .ok address => Except.ok (String.ofList address)
        | .error e => .error e.message) = .ok address
      rw [normaliseNimiqAddress_again hvalue]
      exact congrArg Except.ok String.ofList_toList
    unfold canonicalOptionalAddress
    rw [Option.map_some, hstripped]
    split
    · next hnone => cases hnone
    · next hempty =>
      rw [Option.some.inj hempty] at hsome
      exact absurd rfl hsome
    · next raw _ hraw =>
      rw [← Option.some.inj hraw, hagain]
      rfl
  · intro text address h
    obtain ⟨value, hvalue⟩ := haccepted text address h
    obtain ⟨hstrip, hupper, -⟩ := normaliseNimiqAddress_fixed hvalue
    change String.ofList (upperText (String.ofList (strip address.toList)).toList) = address
    rw [hstrip, String.toList_ofList, hupper, String.ofList_toList]

section Examples

/-- Two addresses as `wallet.py` spells them. -/
def firstWallet : Address := "NQ07 0000 0000 0000 0000 0000 0000 0000 0000"

def secondWallet : Address := "NQ77 0000 0000 0000 0000 0000 0000 0000 0001"

example : Settings.onePlace.withWallet.normaliseRealNimiqAddress " nq77 00000000 0000 0000 0000000000000001" =
    .ok secondWallet := by decide +kernel

end Examples

end NimHunt
