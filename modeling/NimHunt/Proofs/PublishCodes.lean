import NimHunt.DbAccess.Drafts
import Mathlib.Data.Finset.Card
import Mathlib.Data.List.Dedup

/-!
# Claim codes at publishing

A Spot that may have codes ends with one for each claim it allows, whatever codes it has before; used codes stay.
-/

namespace NimHunt

variable {P : Type}

section Generation

variable {db : Db P} {spotId count : ℕ} {seen codes draws made : List String}

variable (db spotId) in
/-- A code the Spot does not have. -/
def FreshCode (code : String) : Prop := db.claimCodeByCode spotId code = none

/-- What the loop holds: fresh codes without repetition, all of them seen. -/
structure CodesCollected (db : Db P) (spotId : ℕ) (seen codes : List String) : Prop where
  nodup : codes.Nodup
  fresh : ∀ code ∈ codes, FreshCode db spotId code
  seen : ∀ code ∈ codes, code ∈ seen

lemma CodesCollected.push {code : String} (h : CodesCollected db spotId seen codes) (hnew : code ∉ seen)
    (hfresh : FreshCode db spotId code) : CodesCollected db spotId (code :: seen) (codes ++ [code]) where
  nodup := List.nodup_append.mpr ⟨h.nodup, List.nodup_singleton code, by
    intro x hx y hy hsame
    rw [List.mem_singleton] at hy
    exact hnew (hy ▸ hsame ▸ h.seen x hx)⟩
  fresh x hx := by
    cases List.mem_append.mp hx with
    | inl hold => exact h.fresh x hold
    | inr hlast => exact List.mem_singleton.mp hlast ▸ hfresh
  seen x hx := by
    cases List.mem_append.mp hx with
    | inl hold => exact List.mem_cons_of_mem code (h.seen x hold)
    | inr hlast => exact List.mem_singleton.mp hlast ▸ List.mem_cons_self

lemma CodesCollected.skip {code : String} (h : CodesCollected db spotId seen codes) :
    CodesCollected db spotId (code :: seen) codes :=
  ⟨h.nodup, h.fresh, fun x hx => List.mem_cons_of_mem code (h.seen x hx)⟩

/-- The result has as many codes as asked for, all fresh. -/
lemma generateUniqueClaimCodesForSpot_ok (h : CodesCollected db spotId seen codes) (hcount : codes.length ≤ count)
    (hmade : generateUniqueClaimCodesForSpot db spotId count seen codes draws = some made) :
    made.length = count ∧ made.Nodup ∧ ∀ code ∈ made, FreshCode db spotId code := by
  have hdone : count ≤ codes.length → codes = made →
      made.length = count ∧ made.Nodup ∧ ∀ code ∈ made, FreshCode db spotId code := by
    rintro hfull rfl
    exact ⟨hcount.antisymm hfull, h.nodup, h.fresh⟩
  induction draws generalizing seen codes with
  | nil =>
    unfold generateUniqueClaimCodesForSpot at hmade
    split_ifs at hmade with hfull
    exact hdone hfull (Option.some.inj hmade)
  | cons code draws ih =>
    unfold generateUniqueClaimCodesForSpot at hmade
    split_ifs at hmade with hfull hseen hfresh
    · exact hdone hfull (Option.some.inj hmade)
    · exact ih h hcount hmade hdone
    · have hpushed := h.push hseen (Option.isNone_iff_eq_none.mp hfresh)
      have hlength : (codes ++ [code]).length ≤ count := by
        rw [List.length_append, List.length_singleton]
        omega
      refine ih hpushed hlength hmade ?_
      rintro hfull rfl
      exact ⟨hlength.antisymm hfull, hpushed.nodup, hpushed.fresh⟩
    · exact ih h.skip hcount hmade fun hfull' => absurd hfull' hfull

variable (db spotId) in
/-- The different fresh codes among these draws. -/
def freshDraws (draws : List String) : Finset String :=
  draws.toFinset.filter fun code => (db.claimCodeByCode spotId code).isNone

/-- The loop ends once enough different fresh codes have been drawn. -/
lemma generateUniqueClaimCodesForSpot_isSome
    (h : count ≤ codes.length + (freshDraws db spotId draws \ seen.toFinset).card) :
    (generateUniqueClaimCodesForSpot db spotId count seen codes draws).isSome := by
  induction draws generalizing seen codes with
  | nil =>
    unfold generateUniqueClaimCodesForSpot
    have hempty : freshDraws db spotId [] \ seen.toFinset = ∅ := by
      rw [freshDraws, List.toFinset_nil, Finset.filter_empty, Finset.empty_sdiff]
    rw [hempty, Finset.card_empty, Nat.add_zero] at h
    rw [if_pos h]
    rfl
  | cons code draws ih =>
    unfold generateUniqueClaimCodesForSpot
    have hsplit : freshDraws db spotId (code :: draws) \ seen.toFinset ⊆
        insert code (freshDraws db spotId draws \ (code :: seen).toFinset) := by
      intro x hx
      simp only [freshDraws, List.toFinset_cons, Finset.mem_sdiff, Finset.mem_filter, Finset.mem_insert] at hx ⊢
      tauto
    split_ifs with hfull hseen hfresh
    · rfl
    · refine ih (h.trans (Nat.add_le_add_left (Finset.card_le_card ?_) _))
      intro x hx
      simp only [freshDraws, List.toFinset_cons, Finset.mem_sdiff, Finset.mem_filter, Finset.mem_insert,
        List.mem_toFinset] at hx ⊢
      refine ⟨⟨hx.1.1.resolve_left ?_, hx.1.2⟩, hx.2⟩
      rintro rfl
      exact hx.2 hseen
    · refine ih ?_
      have hcard := (Finset.card_le_card hsplit).trans (Finset.card_insert_le _ _)
      rw [List.length_append, List.length_singleton]
      omega
    · refine ih (h.trans (Nat.add_le_add_left (Finset.card_le_card ?_) _))
      intro x hx
      have hin := hsplit hx
      rw [Finset.mem_insert] at hin
      refine hin.resolve_left ?_
      rintro rfl
      simp only [freshDraws, Finset.mem_sdiff, Finset.mem_filter] at hx
      exact hfresh hx.1.2

end Generation

section Tables

variable {db : Db P} {spotId : ℕ} {codes : List String}

lemma createClaimCodes_claimCodes (db : Db P) (spotId : ℕ) (codes : List String) :
    ∃ rows, (db.createClaimCodes spotId codes).claimCodes = db.claimCodes ++ rows ∧
      rows.map ClaimCode.code = codes ∧ ∀ cc ∈ rows, cc.spotId = spotId ∧ cc.usedBy = none := by
  unfold Db.createClaimCodes
  induction codes generalizing db with
  | nil => exact ⟨[], (List.append_nil _).symm, rfl, nofun⟩
  | cons code codes ih =>
    obtain ⟨rows, hrows, hcodes, hnew⟩ := ih (db.createClaimCode spotId code)
    refine ⟨⟨db.claimCodeSeq + 1, spotId, code, none⟩ :: rows, ?_, ?_, ?_⟩
    · rw [List.foldl_cons, hrows]
      unfold Db.createClaimCode
      rw [List.append_assoc, List.singleton_append]
    · rw [List.map_cons, hcodes]
    · exact List.forall_mem_cons.mpr ⟨⟨rfl, rfl⟩, hnew⟩

/-- Rows that are dropped from a table without repetition are missing from its length. -/
lemma length_filter_notMem {rows surplus : List ClaimCode} (hrows : rows.Nodup) (hsurplus : surplus.Sublist rows) :
    (rows.filter fun cc => !decide (cc ∈ surplus)).length + surplus.length = rows.length := by
  have hsame : (rows.filter fun cc => decide (cc ∈ surplus)).Perm surplus := by
    refine (List.perm_ext_iff_of_nodup (hrows.filter _) (hrows.sublist hsurplus)).mpr ?_
    intro cc
    rw [List.mem_filter, decide_eq_true_iff]
    exact ⟨And.right, fun hmem => ⟨hsurplus.subset hmem, hmem⟩⟩
  have hsplit := List.length_eq_length_filter_add (l := rows) (fun cc => decide (cc ∈ surplus))
  rw [hsame.length_eq] at hsplit
  omega

end Tables

section Publishing

/-- Each code is there once for a Spot. -/
def UniqueCodes (db : Db P) : Prop := (db.claimCodes.map fun cc => (cc.spotId, cc.code)).Nodup

instance (db : Db P) : Decidable (UniqueCodes db) := inferInstanceAs (Decidable (List.Nodup _))

def usedCodes (rows : List ClaimCode) : List ClaimCode := rows.filter fun cc => cc.usedBy.isSome

/-- A standard Spot with a finite limit that its used codes do not exceed. -/
structure CodesAllowed (db : Db P) (spot : Spot P) : Prop where
  standard : spot.prizeCount = none
  finite : spot.maxTotalClaims ≠ 0
  used : (usedCodes (db.getClaimCodes spot.id)).length ≤ spot.maxTotalClaims

/-- One code for each claim the Spot allows, with the used codes and the other Spots as before, and nothing left to do. -/
structure CodesReady (db coded : Db P) (spot : Spot P) : Prop where
  count : (coded.getClaimCodes spot.id).length = spot.maxTotalClaims
  distinct : ((coded.getClaimCodes spot.id).map ClaimCode.code).Nodup
  used : usedCodes coded.claimCodes = usedCodes db.claimCodes
  others : (coded.claimCodes.filter fun cc => cc.spotId ≠ spot.id) = db.claimCodes.filter fun cc => cc.spotId ≠ spot.id
  again : ∀ draws, ensureClaimCodesForPublish coded spot draws = (coded, .ok ())

variable {db coded : Db P} {spot : Spot P} {draws : List String}

lemma length_getClaimCodes (db : Db P) (spotId : ℕ) : (db.getClaimCodes spotId).length =
    (usedCodes (db.getClaimCodes spotId)).length + (db.getAvailableClaimCodes spotId).length := by
  unfold usedCodes Db.getAvailableClaimCodes
  rw [List.length_eq_length_filter_add fun cc : ClaimCode => cc.usedBy.isSome]
  congr 2
  apply List.filter_congr
  intro cc _
  cases cc.usedBy <;> rfl

lemma nodup_getClaimCodes (h : UniqueCodes db) (spotId : ℕ) :
    ((db.getClaimCodes spotId).map ClaimCode.code).Nodup := by
  have hkeys : ((db.getClaimCodes spotId).map fun cc => (cc.spotId, cc.code)).Nodup :=
    h.sublist (List.filter_sublist.map _)
  refine List.Nodup.of_map (fun code => (spotId, code)) ?_
  rw [List.map_map]
  convert hkeys using 1
  apply List.map_congr_left
  intro cc hcc
  have hspot : cc.spotId = spotId := of_decide_eq_true (List.mem_filter.mp hcc).2
  rw [Function.comp_apply, hspot]

/-- With its codes in place, the Spot needs none made and none dropped. -/
lemma ensureClaimCodesForPublish_idle (hstandard : spot.prizeCount = none) (hfinite : spot.maxTotalClaims ≠ 0)
    (hcount : (db.getClaimCodes spot.id).length = spot.maxTotalClaims) (draws : List String) :
    ensureClaimCodesForPublish db spot draws = (db, .ok ()) := by
  have hused : ¬ spot.maxTotalClaims <
      (db.getClaimCodes spot.id).length - (db.getAvailableClaimCodes spot.id).length := by omega
  have hmade : generateUniqueClaimCodesForSpot db spot.id 0 [] [] draws = some [] := by cases draws <;> rfl
  have hkept : db.deleteClaimCodes [] = db := by
    have hall : (db.claimCodes.filter fun cc => !decide (cc ∈ ([] : List ClaimCode))) = db.claimCodes :=
      List.filter_eq_self.mpr fun cc _ => rfl
    unfold Db.deleteClaimCodes
    rw [hall]
  unfold ensureClaimCodesForPublish
  by_cases hpassword : spot.usePassword = false
  · rw [if_pos hpassword]
  · rw [if_neg hpassword, hstandard, if_neg nofun, if_neg hfinite, if_neg hused]
    dsimp only
    rw [hcount, Nat.sub_self, hmade, List.take_zero, hkept]
    rfl

/-- What an accepted Spot gets. -/
lemma ensureClaimCodesForPublish_ready (hunique : UniqueCodes db) (hpassword : spot.usePassword = true)
    (hallowed : CodesAllowed db spot)
    (hdraws : spot.maxTotalClaims - (db.getClaimCodes spot.id).length ≤ (freshDraws db spot.id draws).card) :
    ∃ coded, ensureClaimCodesForPublish db spot draws = (coded, .ok ()) ∧ CodesReady db coded spot := by
  have hsplit := length_getClaimCodes db spot.id
  have hlimit := hallowed.used
  have hused : ¬ spot.maxTotalClaims <
      (db.getClaimCodes spot.id).length - (db.getAvailableClaimCodes spot.id).length := by omega
  obtain ⟨made, hmade⟩ := Option.isSome_iff_exists.mp
    (@generateUniqueClaimCodesForSpot_isSome _ db spot.id (spot.maxTotalClaims - (db.getClaimCodes spot.id).length) [] []
      draws (by rw [List.toFinset_nil, Finset.sdiff_empty, List.length_nil, Nat.zero_add]; exact hdraws))
  obtain ⟨hlength, hnodup, hfresh⟩ :=
    generateUniqueClaimCodesForSpot_ok ⟨List.nodup_nil, nofun, nofun⟩ (Nat.zero_le _) hmade
  generalize hsurplus : (db.getAvailableClaimCodes spot.id).take
    ((db.getClaimCodes spot.id).length - spot.maxTotalClaims) = surplus
  have hdropped : surplus.length = (db.getClaimCodes spot.id).length - spot.maxTotalClaims := by
    rw [← hsurplus, List.length_take]
    omega
  have hsublist : surplus.Sublist (db.getAvailableClaimCodes spot.id) := hsurplus ▸ List.take_sublist _ _
  have hunused : ∀ cc ∈ surplus, cc.spotId = spot.id ∧ cc.usedBy = none := by
    intro cc hcc
    obtain ⟨hmem, hfree⟩ := List.mem_filter.mp (hsublist.subset hcc)
    exact ⟨of_decide_eq_true (List.mem_filter.mp hmem).2, of_decide_eq_true hfree⟩
  obtain ⟨rows, hrows, hcodes, hnew⟩ := createClaimCodes_claimCodes (db.deleteClaimCodes surplus) spot.id made
  have hkept : ∀ sel : ClaimCode → Bool, (∀ cc, cc.spotId = spot.id → cc.usedBy = none → sel cc = false) →
      ((db.deleteClaimCodes surplus).createClaimCodes spot.id made).claimCodes.filter sel = db.claimCodes.filter sel := by
    intro sel hsel
    have hnone : rows.filter sel = [] := by
      rw [List.filter_eq_nil_iff]
      intro cc hcc
      rw [hsel cc (hnew cc hcc).1 (hnew cc hcc).2]
      nofun
    rw [hrows, List.filter_append, hnone, List.append_nil]
    unfold Db.deleteClaimCodes
    rw [List.filter_filter]
    apply List.filter_congr
    intro cc _
    by_cases hcc : cc ∈ surplus
    · rw [hsel cc (hunused cc hcc).1 (hunused cc hcc).2, Bool.false_and]
    · rw [decide_eq_false hcc, Bool.not_false, Bool.and_true]
  have hown : ((db.deleteClaimCodes surplus).createClaimCodes spot.id made).getClaimCodes spot.id =
      ((db.getClaimCodes spot.id).filter fun cc => !decide (cc ∈ surplus)) ++ rows := by
    unfold Db.getClaimCodes
    rw [hrows, List.filter_append, List.filter_eq_self.mpr fun cc hcc => decide_eq_true (hnew cc hcc).1]
    unfold Db.deleteClaimCodes
    rw [List.filter_filter, List.filter_filter]
    congr 2
    funext cc
    exact Bool.and_comm _ _
  have hcount : (((db.deleteClaimCodes surplus).createClaimCodes spot.id made).getClaimCodes spot.id).length =
      spot.maxTotalClaims := by
    have hleft := length_filter_notMem (List.Nodup.of_map _ (nodup_getClaimCodes hunique spot.id))
      (hsublist.trans List.filter_sublist)
    have hright : rows.length = made.length := by rw [← hcodes, List.length_map]
    rw [hown, List.length_append]
    omega
  refine ⟨(db.deleteClaimCodes surplus).createClaimCodes spot.id made, ?_, hcount, ?_, ?_, ?_, ?_⟩
  · unfold ensureClaimCodesForPublish
    rw [if_neg (by rw [hpassword]; nofun), hallowed.standard, if_neg nofun, if_neg hallowed.finite, if_neg hused]
    dsimp only
    rw [hmade, hsurplus]
  · rw [hown, List.map_append, hcodes]
    refine List.nodup_append.mpr ⟨(nodup_getClaimCodes hunique spot.id).sublist (List.filter_sublist.map _), hnodup, ?_⟩
    rintro code hold _ hmem rfl
    obtain ⟨cc, hcc, rfl⟩ := List.mem_map.mp hold
    obtain ⟨hrow, hspot⟩ := List.mem_filter.mp (List.mem_filter.mp hcc).1
    have habsent := List.find?_eq_none.mp (hfresh cc.code hmem) cc hrow
    exact habsent (decide_eq_true ⟨of_decide_eq_true hspot, rfl⟩)
  · exact hkept _ fun cc _ hfree => by rw [hfree]; rfl
  · exact hkept _ fun cc hspot _ => decide_eq_false fun hne => hne hspot
  · exact ensureClaimCodesForPublish_idle hallowed.standard hallowed.finite hcount

/-- A Spot with a password gets exactly as many codes as it allows claims, or is refused with its tables untouched. -/
theorem ensureClaimCodesForPublish_exact (hunique : UniqueCodes db) (hpassword : spot.usePassword = true)
    (hdraws : spot.maxTotalClaims - (db.getClaimCodes spot.id).length ≤ (freshDraws db spot.id draws).card) :
    (CodesAllowed db spot →
      ∃ coded, ensureClaimCodesForPublish db spot draws = (coded, .ok ()) ∧ CodesReady db coded spot) ∧
    (¬ CodesAllowed db spot → ∃ message, ensureClaimCodesForPublish db spot draws = (db, .error (.valueError message))) := by
  refine ⟨fun hallowed => ensureClaimCodesForPublish_ready hunique hpassword hallowed hdraws, ?_⟩
  intro hrefused
  have hsplit := length_getClaimCodes db spot.id
  unfold ensureClaimCodesForPublish
  rw [if_neg (by rw [hpassword]; nofun)]
  split_ifs with hprize hfinite hused
  · exact ⟨_, rfl⟩
  · exact ⟨_, rfl⟩
  · exact ⟨_, rfl⟩
  · refine absurd ⟨?_, hfinite, by omega⟩ hrefused
    simpa using hprize

end Publishing

section Codes

/-- A draft with a password and room for this many claims. -/
def codedSpot (maxTotalClaims : ℕ) : Spot Unit where
  id := 1
  createdBy := 1
  depositAddress := "NQ01 SPOT"
  position := some ()
  radius := 100
  claimDuration := 0
  maxClaimsPerUser := 1
  maxTotalClaims := maxTotalClaims
  usePassword := true
  totalValue := 100000
  creationFee := 0
  creationFeeAddress := "NQ07 FEE"
  startsAt := none
  endsAt := 3600
  status := .draft
  cancellationStartedAt := none
  prizeCount := none

def codesDb (codes : List ClaimCode) : Db Unit := { Db.empty with claimCodes := codes, claimCodeSeq := codes.length }

theorem ensureClaimCodesForPublish_exact_three : ∃ coded,
    ensureClaimCodesForPublish (codesDb [⟨1, 1, "USED", some 7⟩]) (codedSpot 3) ["NEW", "USED", "NEW", "LAST"] =
      (coded, .ok ()) ∧ CodesReady (codesDb [⟨1, 1, "USED", some 7⟩]) coded (codedSpot 3) :=
  (ensureClaimCodesForPublish_exact (by decide) rfl (by decide)).1 ⟨rfl, by decide, by decide⟩

/-- Two used codes are more than one claim allows, and neither may go. -/
theorem used_codes_exceed_limit : ¬ ∀ (db : Db Unit) (spot : Spot Unit) (draws : List String), UniqueCodes db →
    spot.usePassword = true →
    spot.maxTotalClaims - (db.getClaimCodes spot.id).length ≤ (freshDraws db spot.id draws).card →
    ∃ coded, ensureClaimCodesForPublish db spot draws = (coded, .ok ()) ∧ CodesReady db coded spot := by
  intro hall
  obtain ⟨coded, hcoded, -⟩ := hall (codesDb [⟨1, 1, "FIRST", some 7⟩, ⟨2, 1, "SECOND", some 8⟩]) (codedSpot 1) []
    (by decide) rfl (by decide)
  exact absurd (Prod.mk.inj hcoded).2 nofun

end Codes

end NimHunt
