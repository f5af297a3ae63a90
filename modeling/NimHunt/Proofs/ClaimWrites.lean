import NimHunt.ClaimSecurityDefenceInDepth
import Mathlib.Logic.Relation

/-!
# The writes of the claim tables

Claim creation, promotion, condition refreshes and heartbeats change the claim tables only through
a handful of writes.  A `WritePermit` says which of them a run admits; each operation is shown to be
a chain of permitted writes once, and invariants are then checked write by write.
-/

namespace NimHunt

open Lib Relation

variable {P : Type}

structure WritePermit (P : Type) where
  enter : Db P → Spot P → (userId : ℕ) → P → Prop
  settle : Db P → Claim P → ClaimStatus → Prop
  touch : Db P → Claim P → Prop

/-- Every write is admitted. -/
def WritePermit.all : WritePermit P := ⟨fun _ _ _ _ => True, fun _ _ _ => True, fun _ _ => True⟩

/-- A place is free for one more SUCCESS claim. -/
def hasRoom (db : Db P) (spot : Spot P) : Prop :=
  spot.prizeCount.isSome = true ∨ spot.maxTotalClaims = 0 ∨
    db.countClaimsByStatusForSpot spot.id .success < spot.maxTotalClaims

/-- The claim holds the code it needs on success. -/
def CodeConsumed (db : Db P) (spot : Spot P) (claimId : ℕ) (db' : Db P) : Prop :=
  (spot.usePassword = false ∧ db' = db) ∨
    (spot.usePassword = true ∧ ∃ code, db.attemptForClaim claimId = some code ∧
      db.consumeClaimCode code.id claimId = (db', true))

/-- The row `INSERT INTO claim` adds. -/
def Db.freshClaim (db : Db P) (spotId userId : ℕ) (payoutAddress : Option Address) (position : P) : Claim P where
  id := db.claimSeq + 1
  spotId := spotId
  recipient := userId
  payoutAddress := payoutAddress
  position := position
  accuracy := 1
  status := .pending
  claimedAt := db.now
  updatedAt := db.now

def Db.addClaim (db : Db P) (claim : Claim P) : Db P :=
  { db with claims := db.claims ++ [claim], claimSeq := claim.id }

inductive ClaimWrite (permit : WritePermit P) (db : Db P) : Db P → Prop
  /-- Bans and markers of the location guard. -/
  | guarded (users : List User) (markers : ℕ → Option ClaimLocationSuspicion) :
      ClaimWrite permit db { db with users := users, locationSuspicion := markers }
  | entered {spot : Spot P} {userId : ℕ} {payoutAddress : Option Address} {position : P}
      (hpublic : db.getPublicSpot spot.id = some spot)
      (hcapacity : db.spotHasPublicClaimCapacity spot = true)
      (hpermit : permit.enter db spot userId position) :
      ClaimWrite permit db (db.addClaim (db.freshClaim spot.id userId payoutAddress position))
  | attempted {claim : Claim P} {code : ClaimCode} (hclaim : db.getClaim claim.id = some claim)
      (hpending : claim.status = .pending) (hcode : code ∈ db.claimCodes)
      (hspot : code.spotId = claim.spotId) :
      ClaimWrite permit db (db.createAttempt claim.id code.id)
  | failed {claim : Claim P} (hclaim : db.getClaim claim.id = some claim)
      (hpending : claim.status = .pending) (hpermit : permit.settle db claim .failed) :
      ClaimWrite permit db (db.setClaimStatusToFailed claim.id)
  | failedReleasing {claim : Claim P} (hclaim : db.getClaim claim.id = some claim)
      (hpending : claim.status = .pending) (hpermit : permit.settle db claim .failed) :
      ClaimWrite permit db ((db.setClaimStatusToFailed claim.id).releaseCodeFromClaim claim.id)
  | succeeded {claim : Claim P} {spot : Spot P} {db' : Db P} (hclaim : db.getClaim claim.id = some claim)
      (hpending : claim.status = .pending) (hspot : db.getSpot claim.spotId = some spot)
      (hroom : hasRoom db spot) (hcode : CodeConsumed db spot claim.id db')
      (hpermit : permit.settle db claim .success) :
      ClaimWrite permit db
        ((db'.setClaimStatusToSuccess claim.id).failPendingStandardDurationClaimsIfCapacityFull claim.spotId)
  | moved {claim : Claim P} {position : P} {score : ℚ} {status : ClaimStatus}
      (hclaim : db.getClaim claim.id = some claim) (hpending : claim.status = .pending)
      (hpermit : status = .pending ∧ permit.touch db claim ∨ status = .failed ∧ permit.settle db claim .failed) :
      ClaimWrite permit db (db.modifyClaimLocationScore claim.id position score status)

/-- A chain of permitted writes. -/
abbrev ClaimWrites (permit : WritePermit P) : Db P → Db P → Prop := ReflTransGen (ClaimWrite permit)

/-- What every claim write leaves as it is. -/
structure SameGround (db db' : Db P) : Prop where
  now : db'.now = db.now
  spots : db'.spots = db.spots
  trans : db'.trans = db.trans
  spotSeq : db'.spotSeq = db.spotSeq

lemma SameGround.refl (db : Db P) : SameGround db db := ⟨rfl, rfl, rfl, rfl⟩

lemma SameGround.then {db db' db'' : Db P} (h : SameGround db db') (h' : SameGround db' db'') :
    SameGround db db'' :=
  ⟨h'.now.trans h.now, h'.spots.trans h.spots, h'.trans.trans h.trans,
    h'.spotSeq.trans h.spotSeq⟩

lemma SameGround.getSpot {db db' : Db P} (h : SameGround db db') (spotId : ℕ) :
    db'.getSpot spotId = db.getSpot spotId := by
  rw [Db.getSpot, Db.getSpot, h.spots]

lemma getSpot_id {db : Db P} {spotId : ℕ} {spot : Spot P} (h : db.getSpot spotId = some spot) :
    spot.id = spotId := by
  simpa using List.find?_some h

lemma getClaim_id {db : Db P} {claimId : ℕ} {claim : Claim P} (h : db.getClaim claimId = some claim) :
    claim.id = claimId := by
  simpa using List.find?_some h

lemma getPublicSpot_getSpot {db : Db P} {spotId : ℕ} {spot : Spot P}
    (h : db.getPublicSpot spotId = some spot) : db.getSpot spotId = some spot :=
  (Option.filter_eq_some_iff.mp h).1

section Writes

variable {db db' : Db P} {permit : WritePermit P} {claim : Claim P} {spot : Spot P} {claimId spotId : ℕ}

lemma sameGround_updateClaimStatus (db : Db P) (sel : Claim P → Bool) (status : ClaimStatus) :
    SameGround db (db.updateClaimStatus sel status) := ⟨rfl, rfl, rfl, rfl⟩

lemma sameGround_failPendingStandard (db : Db P) (spotId : ℕ) :
    SameGround db (db.failPendingStandardDurationClaimsIfCapacityFull spotId) := by
  unfold Db.failPendingStandardDurationClaimsIfCapacityFull
  cases db.getSpot spotId with
  | none => exact .refl db
  | some spot =>
    dsimp only
    split_ifs <;> exact ⟨rfl, rfl, rfl, rfl⟩

lemma CodeConsumed.sameGround (h : CodeConsumed db spot claimId db') : SameGround db db' := by
  rcases h with ⟨-, rfl⟩ | ⟨-, code, -, hconsume⟩
  · exact .refl _
  · unfold Db.consumeClaimCode at hconsume
    obtain ⟨rfl, -⟩ := Prod.mk.injEq .. ▸ hconsume
    exact ⟨rfl, rfl, rfl, rfl⟩

lemma ClaimWrite.sameGround (h : ClaimWrite permit db db') : SameGround db db' := by
  cases h with
  | guarded => exact ⟨rfl, rfl, rfl, rfl⟩
  | entered => exact ⟨rfl, rfl, rfl, rfl⟩
  | attempted => exact ⟨rfl, rfl, rfl, rfl⟩
  | failed => exact ⟨rfl, rfl, rfl, rfl⟩
  | failedReleasing => exact ⟨rfl, rfl, rfl, rfl⟩
  | succeeded _ _ _ _ hcode _ =>
    exact (hcode.sameGround.then (sameGround_updateClaimStatus ..)).then (sameGround_failPendingStandard ..)
  | moved => exact ⟨rfl, rfl, rfl, rfl⟩

lemma ClaimWrites.sameGround (h : ClaimWrites permit db db') : SameGround db db' := by
  induction h with
  | refl => exact .refl db
  | tail _ hwrite ih => exact ih.then hwrite.sameGround

/-- A claim after a status write to its own row. -/
lemma getClaim_modifyClaimStatus (hclaim : db.getClaim claimId = some claim) (status : ClaimStatus) :
    (db.modifyClaimStatus claimId status).getClaim claimId = some (claim.withStatus db.now status) := by
  have hid := getClaim_id hclaim
  have hkey : ∀ c : Claim P, (Claim.withStatus db.now status c).id = c.id := fun _ => rfl
  rw [Db.getClaim] at hclaim
  rw [Db.getClaim, Db.modifyClaimStatus, Db.updateClaimStatus_claims, find?_updateWhere_key hkey, hclaim]
  simp [hid]

/-- Failing the waiting claims of a full Spot is nothing where no limit applies. -/
lemma failPendingStandard_eq_self (hspot : db.getSpot spotId = some spot)
    (h : spot.prizeCount.isSome = true ∨ spot.maxTotalClaims = 0) :
    db.failPendingStandardDurationClaimsIfCapacityFull spotId = db := by
  unfold Db.failPendingStandardDurationClaimsIfCapacityFull
  rw [hspot]
  rcases h with h | h <;> simp [h]

/-- The original promoter on a PENDING claim: it succeeds while there is room and fails otherwise. -/
lemma originalPromoter_pending (hclaim : db.getClaim claimId = some claim) (hpending : claim.status = .pending)
    (hspot : db.getSpot claim.spotId = some spot) :
    (hasRoom db spot ∧ ∃ reason, promotePendingClaimToSuccessIfCapacityAvailable db claimId =
      ((db.setClaimStatusToSuccess claimId).failPendingStandardDurationClaimsIfCapacityFull claim.spotId,
        ⟨some (claim.withStatus db.now .success), some (true, reason)⟩)) ∨
    ¬ hasRoom db spot ∧ ∃ reason, promotePendingClaimToSuccessIfCapacityAvailable db claimId =
      (db.setClaimStatusToFailed claimId,
        ⟨some (claim.withStatus db.now .failed), some (false, reason)⟩) := by
  have hid := getSpot_id hspot
  have hsuccess := getClaim_modifyClaimStatus hclaim .success
  have hfailed := getClaim_modifyClaimStatus hclaim .failed
  have hset : (db.setClaimStatusToSuccess claimId).getSpot claim.spotId = some spot := hspot
  unfold promotePendingClaimToSuccessIfCapacityAvailable
  simp only [hclaim, hpending, hspot, ne_eq, not_true_eq_false, if_false]
  by_cases hprize : spot.prizeCount.isSome = true
  · left
    refine ⟨.inl hprize, "prizedraw_entry_promoted", ?_⟩
    rw [if_pos hprize, failPendingStandard_eq_self hset (.inl hprize)]
    simp [Db.setClaimStatusToSuccess, hsuccess]
  · rw [if_neg hprize]
    by_cases hmax : spot.maxTotalClaims = 0
    · left
      refine ⟨.inr (.inl hmax), "unlimited_standard_spot", ?_⟩
      rw [if_pos hmax, failPendingStandard_eq_self hset (.inr hmax)]
      simp [Db.setClaimStatusToSuccess, hsuccess]
    · rw [if_neg hmax]
      by_cases hroom : db.countClaimsByStatusForSpot claim.spotId .success < spot.maxTotalClaims
      · left
        refine ⟨.inr (.inr (hid ▸ hroom)), "promoted_with_capacity", ?_⟩
        rw [if_pos hroom]
        simp [Db.setClaimStatusToSuccess, hsuccess]
      · right
        have hfull : ¬ hasRoom db spot := by
          unfold hasRoom
          rw [hid]
          simp [hprize, hmax, hroom]
        refine ⟨hfull, "capacity_full_claim_failed", ?_⟩
        rw [if_neg hroom]
        simp [Db.setClaimStatusToFailed, hfailed]

lemma consumeClaimCode_fst (db : Db P) (codeId claimId : ℕ) :
    ∃ codes, (db.consumeClaimCode codeId claimId).1 = { db with claimCodes := codes } := ⟨_, rfl⟩

/-- Releasing what was just consumed is releasing what the claim held. -/
lemma release_consume (db : Db P) (codeId claimId : ℕ) :
    (updateWhere (fun cc : ClaimCode => cc.usedBy = some claimId) (fun cc => { cc with usedBy := none })
      (db.consumeClaimCode codeId claimId).1.claimCodes) =
    updateWhere (fun cc : ClaimCode => cc.usedBy = some claimId) (fun cc => { cc with usedBy := none })
      db.claimCodes := by
  simp only [Db.consumeClaimCode, updateWhere, List.map_map]
  refine List.map_congr_left fun cc _ => ?_
  by_cases hsel : cc.id = codeId ∧ (cc.usedBy = none ∨ cc.usedBy = some claimId)
  · rcases hsel.2 with h | h <;> simp [hsel.1, h, Function.comp]
    cases cc
    simp_all
  · simp [hsel]

/-- Where a write of the promoter leads, and what the promoter answers. -/
structure Settles (permit : WritePermit P) (db : Db P) (claim : Claim P) (outcome : Db P × Promotion P) : Prop where
  write : ClaimWrite permit db outcome.1
  answer : (∃ reason, outcome.2 = ⟨some (claim.withStatus db.now .success), some (true, reason)⟩) ∨
    ∃ reason, outcome.2 = ⟨some (claim.withStatus db.now .failed), some (false, reason)⟩

variable (hclaim : db.getClaim claimId = some claim) (hpending : claim.status = .pending)
  (hspot : db.getSpot claim.spotId = some spot) (hpermit : ∀ status, permit.settle db claim status)

include hclaim hpending hpermit in
lemma settles_failed (reason : String) :
    Settles permit db claim (db.setClaimStatusToFailed claimId,
      ⟨(db.setClaimStatusToFailed claimId).getClaim claimId, some (false, reason)⟩) := by
  have hid := getClaim_id hclaim
  subst hid
  refine ⟨.failed hclaim hpending (hpermit .failed), .inr ⟨reason, ?_⟩⟩
  rw [Db.setClaimStatusToFailed, getClaim_modifyClaimStatus hclaim]

include hclaim hpending hspot hpermit in
/-- The success-only code policy settles a PENDING claim with one write. -/
lemma codePromoter_settles : Settles permit db claim
    (promotePendingClaimToSuccessIfCodeAvailable promotePendingClaimToSuccessIfCapacityAvailable db claimId) := by
  have hid := getClaim_id hclaim
  unfold promotePendingClaimToSuccessIfCodeAvailable
  simp only [hclaim, hpending, hspot, ne_eq, not_true_eq_false, if_false]
  by_cases hcoded : spot.usePassword = true
  · rw [if_neg (by simp [hcoded])]
    cases hattempt : db.attemptForClaim claimId with
    | none => exact settles_failed hclaim hpending hpermit _
    | some code =>
      dsimp only
      rcases hconsume : db.consumeClaimCode code.id claimId with ⟨consumed, _ | _⟩
      · exact settles_failed hclaim hpending hpermit _
      · have hconsumed : consumed = { db with claimCodes := consumed.claimCodes } := by
          obtain ⟨codes, hcodes⟩ := consumeClaimCode_fst db code.id claimId
          rw [hconsume] at hcodes
          dsimp only at hcodes
          rw [hcodes]
        have hclaim' : consumed.getClaim claimId = some claim := by rw [hconsumed]; exact hclaim
        have hspot' : consumed.getSpot claim.spotId = some spot := by rw [hconsumed]; exact hspot
        have hnow : consumed.now = db.now := by rw [hconsumed]
        have hroom' : hasRoom consumed spot ↔ hasRoom db spot := by rw [hconsumed]; rfl
        rcases originalPromoter_pending hclaim' hpending hspot' with ⟨hroom, reason, hpromote⟩ | ⟨-, reason, hpromote⟩
        · dsimp only
          rw [hpromote]
          have hdone : (some (claim.withStatus consumed.now .success)).any
              (fun claim : Claim P => claim.status = .success) = true := by simp [Claim.withStatus]
          rw [if_pos hdone, hnow]
          subst hid
          exact ⟨.succeeded hclaim hpending hspot (hroom'.mp hroom) (.inr ⟨hcoded, code, hattempt, hconsume⟩)
            (hpermit .success), .inl ⟨reason, rfl⟩⟩
        · dsimp only
          rw [hpromote]
          have hundone : ¬(some (claim.withStatus consumed.now .failed)).any
              (fun claim : Claim P => claim.status = .success) = true := by simp [Claim.withStatus]
          rw [if_neg hundone, hnow]
          have hreleased : (consumed.setClaimStatusToFailed claimId).releaseCodeFromClaim claimId =
              (db.setClaimStatusToFailed claimId).releaseCodeFromClaim claimId := by
            have hcodes := release_consume db code.id claimId
            rw [hconsume] at hcodes
            rw [hconsumed]
            simp only [Db.releaseCodeFromClaim, Db.setClaimStatusToFailed, Db.modifyClaimStatus,
              Db.updateClaimStatus]
            rw [hcodes]
          rw [hreleased]
          subst hid
          exact ⟨.failedReleasing hclaim hpending (hpermit .failed), .inr ⟨reason, rfl⟩⟩
  · rw [if_pos (by simp [hcoded])]
    rcases originalPromoter_pending hclaim hpending hspot with ⟨hroom, reason, hpromote⟩ | ⟨-, reason, hpromote⟩
    · rw [hpromote]
      subst hid
      exact ⟨.succeeded hclaim hpending hspot hroom (.inl ⟨by simpa using hcoded, rfl⟩) (hpermit .success),
        .inl ⟨reason, rfl⟩⟩
    · rw [hpromote]
      subst hid
      exact ⟨.failed hclaim hpending (hpermit .failed), .inr ⟨reason, rfl⟩⟩

include hclaim hpending hspot in
/-- With a place free and its code unused, the claim succeeds. -/
lemma codePromoter_succeeds (hroom : hasRoom db spot)
    (hcode : spot.usePassword = true → ∃ code ∈ db.claimCodes, db.attemptForClaim claimId = some code ∧
      code.usedBy = none) :
    ∃ reason, (promotePendingClaimToSuccessIfCodeAvailable promotePendingClaimToSuccessIfCapacityAvailable db
      claimId).2 = ⟨some (claim.withStatus db.now .success), some (true, reason)⟩ := by
  unfold promotePendingClaimToSuccessIfCodeAvailable
  simp only [hclaim, hpending, hspot, ne_eq, not_true_eq_false, if_false]
  by_cases hcoded : spot.usePassword = true
  · obtain ⟨code, hmem, hattempt, hunused⟩ := hcode hcoded
    have hconsume : (db.consumeClaimCode code.id claimId).2 = true := by
      change db.claimCodes.any _ = true
      rw [List.any_eq_true]
      exact ⟨code, hmem, by simp [hunused]⟩
    obtain ⟨codes, hcodes⟩ := consumeClaimCode_fst db code.id claimId
    rw [if_neg (by simp [hcoded]), hattempt]
    dsimp only
    rcases hdone : db.consumeClaimCode code.id claimId with ⟨consumed, _ | _⟩
    · rw [hdone] at hconsume
      cases hconsume
    · rw [hdone] at hcodes
      dsimp only at hcodes
      subst hcodes
      have hcoded : ({ db with claimCodes := codes } : Db P).getClaim claimId = some claim := hclaim
      rcases originalPromoter_pending hcoded hpending hspot with ⟨-, reason, hpromote⟩ | ⟨hfull, -⟩
      · dsimp only
        rw [hpromote]
        exact ⟨reason, rfl⟩
      · exact absurd hroom hfull
  · rw [if_pos (by simp [hcoded])]
    rcases originalPromoter_pending hclaim hpending hspot with ⟨-, reason, hpromote⟩ | ⟨hfull, -⟩
    · rw [hpromote]
      exact ⟨reason, rfl⟩
    · exact absurd hroom hfull

/-- Whatever may become of the claim, a success only with room for its wallet. -/
def MaySettle (cfg : Settings P) (permit : WritePermit P) (db : Db P) (claim : Claim P) : Prop :=
  ∀ status, (status = .success → WalletAllowsPromotion cfg db claim) → permit.settle db claim status

include hclaim hpending hspot in
/-- The installed promoter settles a PENDING claim with one write. -/
lemma installedPromoter_settles (cfg : Settings P) (hpermit : MaySettle cfg permit db claim) :
    ClaimWrite permit db (installedPromoter cfg db claimId).1 ∧
    ∃ status, status ≠ .pending ∧
      (installedPromoter cfg db claimId).2.claim = some (claim.withStatus db.now status) := by
  unfold installedPromoter
  rcases promoteClaimWithVerifiedWalletLimit_cases cfg
    (promotePendingClaimToSuccessIfCodeAvailable promotePendingClaimToSuccessIfCapacityAvailable) db claimId with
    ⟨hdelegate, hallows⟩ | ⟨_, _, _, _, promotion, hfailed⟩
  · rw [hdelegate]
    have hsettle : ∀ status, permit.settle db claim status := fun status =>
      hpermit status fun _ => hallows claim hclaim hpending
    obtain ⟨hwrite, ⟨reason, hanswer⟩ | ⟨reason, hanswer⟩⟩ :=
      codePromoter_settles hclaim hpending hspot hsettle
    · exact ⟨hwrite, .success, by simp, by rw [hanswer]⟩
    · exact ⟨hwrite, .failed, by simp, by rw [hanswer]⟩
  · rw [hfailed]
    have hid := getClaim_id hclaim
    subst hid
    refine ⟨.failed hclaim hpending (hpermit .failed (by simp)), .failed, by simp, ?_⟩
    dsimp only
    rw [Db.setClaimStatusToFailed, getClaim_modifyClaimStatus hclaim]

end Writes

/-- The columns of a claim that nothing rewrites. -/
structure SameClaim (c c' : Claim P) : Prop where
  id : c'.id = c.id
  spotId : c'.spotId = c.spotId
  recipient : c'.recipient = c.recipient
  claimedAt : c'.claimedAt = c.claimedAt

lemma SameClaim.refl (c : Claim P) : SameClaim c c := ⟨rfl, rfl, rfl, rfl⟩

lemma SameClaim.then {c c' c'' : Claim P} (h : SameClaim c c') (h' : SameClaim c' c'') : SameClaim c c'' :=
  ⟨h'.id.trans h.id, h'.spotId.trans h.spotId, h'.recipient.trans h.recipient, h'.claimedAt.trans h.claimedAt⟩

lemma sameClaim_withStatus (now : ℕ) (status : ClaimStatus) (c : Claim P) : SameClaim c (c.withStatus now status) :=
  ⟨rfl, rfl, rfl, rfl⟩

/-- Every row is kept under its identity; rows are only added at the end. -/
def ClaimsKept (db db' : Db P) : Prop := Kept SameClaim db.claims db'.claims

lemma ClaimsKept.refl (db : Db P) : ClaimsKept db db := Kept.refl SameClaim.refl _

lemma ClaimsKept.of_claims_eq {db db' : Db P} (h : db'.claims = db.claims) : ClaimsKept db db' := by
  rw [ClaimsKept, h]
  exact Kept.refl SameClaim.refl _

lemma ClaimsKept.then {db db' db'' : Db P} (h : ClaimsKept db db') (h' : ClaimsKept db' db'') :
    ClaimsKept db db'' :=
  Kept.then (fun _ _ _ => SameClaim.then) h h'

lemma claimsKept_update {db db' : Db P} {sel : Claim P → Bool} {f : Claim P → Claim P}
    (h : db'.claims = updateWhere sel f db.claims) (hsame : ∀ c, SameClaim c (f c)) : ClaimsKept db db' := by
  rw [ClaimsKept, h]
  exact kept_updateWhere SameClaim.refl fun c _ _ => hsame c

lemma claimsKept_updateClaimStatus (db : Db P) (sel : Claim P → Bool) (status : ClaimStatus) :
    ClaimsKept db (db.updateClaimStatus sel status) :=
  claimsKept_update rfl (sameClaim_withStatus db.now status)

lemma ClaimsKept.getClaim {db db' : Db P} (h : ClaimsKept db db') {claimId : ℕ} {claim : Claim P}
    (hclaim : db.getClaim claimId = some claim) :
    ∃ claim', db'.getClaim claimId = some claim' ∧ SameClaim claim claim' :=
  Kept.find? (fun _ _ hsame => hsame.id) h hclaim

lemma claimsKept_failPendingStandard (db : Db P) (spotId : ℕ) :
    ClaimsKept db (db.failPendingStandardDurationClaimsIfCapacityFull spotId) := by
  unfold Db.failPendingStandardDurationClaimsIfCapacityFull
  cases db.getSpot spotId with
  | none => exact .refl db
  | some spot =>
    dsimp only
    split_ifs
    · exact .refl db
    · exact .refl db
    · exact .refl db
    · exact claimsKept_updateClaimStatus ..

lemma CodeConsumed.claims {db db' : Db P} {spot : Spot P} {claimId : ℕ} (h : CodeConsumed db spot claimId db') :
    db'.claims = db.claims := by
  rcases h with ⟨-, rfl⟩ | ⟨-, code, -, hconsume⟩
  · rfl
  · unfold Db.consumeClaimCode at hconsume
    obtain ⟨rfl, -⟩ := Prod.mk.injEq .. ▸ hconsume
    rfl

lemma claimsKept_moved (db : Db P) (claimId : ℕ) (position : P) (accuracyScore : ℚ) :
    ClaimsKept db { db with
      claims := updateWhere (fun c => c.id = claimId)
        (fun c => { c with position := position, accuracy := max 0 (min 1 accuracyScore) }) db.claims } :=
  claimsKept_update rfl fun _ => ⟨rfl, rfl, rfl, rfl⟩

lemma ClaimWrite.claimsKept {db db' : Db P} {permit : WritePermit P} (h : ClaimWrite permit db db') :
    ClaimsKept db db' := by
  cases h with
  | guarded => exact .of_claims_eq rfl
  | entered => exact kept_append SameClaim.refl _ _
  | attempted => exact .of_claims_eq rfl
  | failed => exact claimsKept_updateClaimStatus ..
  | failedReleasing =>
    exact (claimsKept_updateClaimStatus ..).then (.of_claims_eq rfl)
  | succeeded _ _ _ _ hcode _ =>
    exact ((ClaimsKept.of_claims_eq hcode.claims).then (claimsKept_updateClaimStatus ..)).then
      (claimsKept_failPendingStandard ..)
  | moved _ _ _ =>
    exact (claimsKept_moved ..).then (claimsKept_updateClaimStatus ..)

lemma ClaimWrites.claimsKept {db db' : Db P} {permit : WritePermit P} (h : ClaimWrites permit db db') :
    ClaimsKept db db' := by
  induction h with
  | refl => exact .refl db
  | tail _ hwrite ih => exact ih.then hwrite.claimsKept

/-- The row a heartbeat leaves PENDING. -/
def Claim.moved (now : ℕ) (position : P) (score : ℚ) (claim : Claim P) : Claim P :=
  { claim with position := position, accuracy := max 0 (min 1 score), status := .pending, updatedAt := now }

section Heartbeat

variable {cfg : Settings P} {db : Db P} {permit : WritePermit P} {claimId userId : ℕ} {position : P}
  {accuracy : Option ℚ}

lemma getClaim_modifyClaimLocationScore {claim : Claim P} (hclaim : db.getClaim claimId = some claim)
    (position : P) (score : ℚ) :
    (db.modifyClaimLocationScore claimId position score .pending).getClaim claimId =
      some (claim.moved db.now position score) := by
  have hid := getClaim_id hclaim
  have hmoved : ({ db with
      claims := updateWhere (fun c => c.id = claimId)
        (fun c => { c with position := position, accuracy := max 0 (min 1 score) }) db.claims } : Db P).getClaim
        claimId = some { claim with position := position, accuracy := max 0 (min 1 score) } := by
    have hkey : ∀ c : Claim P, ({ c with position := position, accuracy := max 0 (min 1 score) } : Claim P).id =
        c.id := fun _ => rfl
    rw [Db.getClaim] at hclaim ⊢
    dsimp only
    rw [find?_updateWhere_key hkey, hclaim]
    simp [hid]
  exact getClaim_modifyClaimStatus hmoved .pending

/-- What a heartbeat may write about its claim, besides what the refresh in front of it may. -/
structure HeartbeatPermitted (permit : WritePermit P) (cfg : Settings P) (db : Db P) (position : P)
    (accuracy : Option ℚ) (claim : Claim P) (spot : Spot P) : Prop where
  immediate : spot.claimDuration = 0 → MaySettle cfg permit db claim
  exhausted : ∀ check, getClaimDistanceCheck cfg db claim.spotId position accuracy = .ok (some check) →
    nextScore claim.accuracy (durationClaimPenalty check.effectiveDistanceMetres check.radiusMetres) ≤ 0 →
    permit.settle db claim .failed
  kept : ∀ check, getClaimDistanceCheck cfg db claim.spotId position accuracy = .ok (some check) →
    0 < nextScore claim.accuracy (durationClaimPenalty check.effectiveDistanceMetres check.radiusMetres) →
    permit.touch db claim
  due : claim.claimedAt + spot.claimDuration ≤ db.now → ∀ score,
    MaySettle cfg permit (db.modifyClaimLocationScore claim.id position score .pending)
      (claim.moved db.now position score)

lemma recordHeartbeat_writes {claim : Claim P} {spot : Spot P} (hclaim : db.getClaim claim.id = some claim)
    (hpending : claim.status = .pending) (hspot : db.getSpot claim.spotId = some spot)
    (hpermit : HeartbeatPermitted permit cfg db position accuracy claim spot) :
    ClaimWrites permit db (recordHeartbeat cfg (installedPromoter cfg) db claim spot position accuracy).1 := by
  unfold recordHeartbeat
  cases hcheck : getClaimDistanceCheck cfg db claim.spotId position accuracy with
  | error e => exact .refl
  | ok found =>
    cases found with
    | none => exact .refl
    | some check =>
      dsimp only
      generalize hscore : nextScore claim.accuracy
        (durationClaimPenalty check.effectiveDistanceMetres check.radiusMetres) = score
      by_cases hpositive : 0 < score
      · have hkept := hpermit.kept check hcheck (hscore ▸ hpositive)
        have hmove : ClaimWrite permit db (db.modifyClaimLocationScore claim.id position score .pending) :=
          .moved hclaim hpending (.inl ⟨rfl, hkept⟩)
        rw [if_neg (not_le.mpr hpositive)]
        by_cases hdue : claim.claimedAt + spot.claimDuration ≤ db.now
        · rw [if_pos ⟨hpositive, hdue⟩]
          have hmoved := getClaim_modifyClaimLocationScore hclaim position score
          have hsettled := installedPromoter_settles hmoved rfl
            (hmove.sameGround.getSpot _ ▸ hspot) cfg (hpermit.due hdue score)
          obtain ⟨hwrite, status, -, hanswer⟩ := hsettled
          rw [hanswer]
          exact (ReflTransGen.single hmove).tail hwrite
        · rw [if_neg (fun h => hdue h.2)]
          have hwrites : ClaimWrites permit db (db.modifyClaimLocationScore claim.id position score .pending) :=
            .single hmove
          dsimp only
          cases (db.modifyClaimLocationScore claim.id position score .pending).getClaim claim.id with
          | none => exact hwrites
          | some found => exact hwrites
      · have hexhausted := hpermit.exhausted check hcheck (hscore ▸ not_lt.mp hpositive)
        have hmove : ClaimWrite permit db (db.modifyClaimLocationScore claim.id position score .failed) :=
          .moved hclaim hpending (.inr ⟨rfl, hexhausted⟩)
        rw [if_neg (fun h => hpositive h.1), if_pos (not_lt.mp hpositive)]
        have hwrites : ClaimWrites permit db (db.modifyClaimLocationScore claim.id position score .failed) :=
          .single hmove
        dsimp only
        cases (db.modifyClaimLocationScore claim.id position score .failed).getClaim claim.id with
        | none => exact hwrites
        | some found => exact hwrites

end Heartbeat

/-- A request that passed every check has inserted its claim, with the candidate code of a coded Spot. -/
structure EntersClaim (cfg : Settings P) (db : Db P) (req : ClaimRequest P) (spot : Spot P) (claim : Claim P)
    (db' : Db P) : Prop where
  found : db.getPublicSpot req.spotId = some spot
  available : spot.isAvailable db.now = true
  capacity : db.spotHasPublicClaimCapacity spot = true
  near : ∃ check, getClaimDistanceCheck cfg db req.spotId req.position req.locationAccuracyMetres = .ok (some check) ∧
    check.withinRadius = true
  allowed : (getClaimLocationDecision cfg db req.userId req.spotId).2.action = .allow
  wallet : WalletAllowsEntry cfg db spot.id req.userId
  inserted : ∃ payoutAddress, claim = db.freshClaim req.spotId req.userId payoutAddress req.position
  attempts : ∃ markers attempts, db' = { db with
      claims := db.claims ++ [claim], claimSeq := db.claimSeq + 1, locationSuspicion := markers,
      claimCodeAttempts := attempts } ∧
    (spot.usePassword = false ∧ attempts = db.claimCodeAttempts ∨
      spot.usePassword = true ∧ ∃ code ∈ db.claimCodes, code.spotId = spot.id ∧ code.usedBy = none ∧
        attempts = db.claimCodeAttempts ++ [⟨claim.id, code.id⟩])

section Entry

variable {cfg : Settings P} {db db' : Db P} {req : ClaimRequest P} {spot : Spot P} {claim : Claim P}
  {permit : WritePermit P}

lemma getClaimLocationDecision_action (cfg : Settings P) (db : Db P) (userId spotId : ℕ) :
    (getClaimLocationDecision cfg db userId spotId).2.action ≠ .newCooldown := by
  unfold getClaimLocationDecision
  cases db.spotAnchor spotId with
  | none => simp
  | some target =>
    dsimp only
    generalize htrusted : trustedTravelDecision cfg db userId target db.now = trusted
    by_cases hban : trusted.action = .ban
    · rw [if_pos hban, hban]
      simp
    · rw [if_neg hban]
      have hlast : ∀ db' : Db P, (if trusted.action = .newCooldown then
          (db'.saveSuspicion userId
            { trustedClaimId := trusted.previousClaimId, suspiciousSpotId := spotId, attemptedAt := db.now,
              retryAt := trusted.retryAt, lastAttemptedSpotId := spotId, lastAttemptedAt := db.now },
            { trusted with action := .cooldown, reason := "new_suspicious_cooldown" })
          else (db', trusted)).2.action ≠ .newCooldown := by
        intro db'
        by_cases hnew : trusted.action = .newCooldown
        · rw [if_pos hnew]
          simp
        · rw [if_neg hnew]
          exact hnew
      cases db.locationSuspicion userId with
      | none => exact hlast db
      | some suspicion =>
        dsimp only
        rcases hactive : activeCooldownDecision cfg db userId target suspicion db.now with ⟨db', _ | decision⟩
        · exact hlast db'
        · have haction : decision.action = .cooldown ∨ decision.action = .ban := by
            unfold activeCooldownDecision at hactive
            split_ifs at hactive
            · simp at hactive
            · simp only [Prod.mk.injEq, Option.some.injEq] at hactive
              rw [← hactive.2]
              exact .inl rfl
            · split at hactive
              · dsimp only at hactive
                split at hactive
                · simp only [Prod.mk.injEq, Option.some.injEq] at hactive
                  rw [← hactive.2]
                  exact .inr rfl
                · simp only [Prod.mk.injEq, Option.some.injEq] at hactive
                  rw [← hactive.2]
                  exact .inl rfl
              · simp at hactive
          dsimp only
          rcases haction with h | h <;> rw [h] <;> simp

/-- What a refusal may leave behind: the guard's marker of the user, and a ban of the user. -/
structure OnlyGuarded (userId : ℕ) (db db' : Db P) : Prop where
  same : db' = { db with users := db'.users, locationSuspicion := db'.locationSuspicion }
  users : db'.users = db.users ∨ db'.users = (db.setUserStatusToBanned userId).users
  markers : ∀ other, other ≠ userId → db'.locationSuspicion other = db.locationSuspicion other

lemma OnlyGuarded.refl (userId : ℕ) (db : Db P) : OnlyGuarded userId db db := ⟨rfl, .inl rfl, fun _ _ => rfl⟩

lemma OnlyGuarded.write {userId : ℕ} {permit : WritePermit P} (h : OnlyGuarded userId db db') :
    ClaimWrite permit db db' := by
  rw [h.same]
  exact .guarded db'.users db'.locationSuspicion

lemma activeCooldownDecision_markers (cfg : Settings P) (db : Db P) (userId : ℕ) (target : SpotAnchor P)
    (suspicion : ClaimLocationSuspicion) (checkedAt : ℕ) {other : ℕ} (hother : other ≠ userId) :
    (activeCooldownDecision cfg db userId target suspicion checkedAt).1.locationSuspicion other =
      db.locationSuspicion other := by
  have hcleared : (db.clearSuspicion userId).locationSuspicion other = db.locationSuspicion other :=
    Function.update_of_ne hother _ _
  have hsaved : ∀ value, (db.saveSuspicion userId value).locationSuspicion other = db.locationSuspicion other :=
    fun value => Function.update_of_ne hother _ _
  unfold activeCooldownDecision
  split_ifs
  · exact hcleared
  · rfl
  · split
    · dsimp only
      split_ifs
      · rfl
      · exact hsaved _
      · exact hsaved _
    · exact hcleared

/-- The decision about one user leaves the markers of the others alone. -/
lemma getClaimLocationDecision_markers (cfg : Settings P) (db : Db P) (userId spotId : ℕ) {other : ℕ}
    (hother : other ≠ userId) :
    (getClaimLocationDecision cfg db userId spotId).1.locationSuspicion other = db.locationSuspicion other := by
  unfold getClaimLocationDecision
  cases db.spotAnchor spotId with
  | none => rfl
  | some target =>
    dsimp only
    by_cases hban : (trustedTravelDecision cfg db userId target db.now).action = .ban
    · rw [if_pos hban]
    · rw [if_neg hban]
      have hlast : ∀ (db' : Db P) value, db'.locationSuspicion other = db.locationSuspicion other →
          (db'.saveSuspicion userId value).locationSuspicion other = db.locationSuspicion other :=
        fun db' value hkept => (Function.update_of_ne hother _ _).trans hkept
      cases db.locationSuspicion userId with
      | none =>
        dsimp only
        split_ifs
        · exact hlast db _ rfl
        · rfl
      | some suspicion =>
        have hkept := activeCooldownDecision_markers cfg db userId target suspicion db.now hother
        dsimp only
        rcases hactive : activeCooldownDecision cfg db userId target suspicion db.now with ⟨db', _ | decision⟩ <;>
          rw [hactive] at hkept
        · dsimp only
          split_ifs
          · exact hlast db' _ hkept
          · exact hkept
        · exact hkept

/-- The guarded creator refuses and writes no claim, or inserts one the guard allowed. -/
lemma guardedCreator_cases (cfg : Settings P) (db : Db P) (spotId userId : ℕ) (position : P)
    (payoutAddress : Option Address) :
    (∃ db' e, createClaimWithImpossibleTravelGuard cfg db spotId userId position 1 payoutAddress = (db', .error e) ∧
      OnlyGuarded userId db db') ∨
    (getClaimLocationDecision cfg db userId spotId).2.action = .allow ∧
    ∃ markers clean, createClaimWithImpossibleTravelGuard cfg db spotId userId position 1 payoutAddress =
      ({ db with
        claims := db.claims ++ [db.freshClaim spotId userId clean position]
        claimSeq := db.claimSeq + 1, locationSuspicion := markers }, .ok (db.claimSeq + 1)) := by
  unfold createClaimWithImpossibleTravelGuard
  cases cfg.cleanOptionalNimiqAddress payoutAddress with
  | error message => exact .inl ⟨db, _, rfl, .refl userId db⟩
  | ok clean =>
    dsimp only
    obtain ⟨markers, hwrites⟩ := getClaimLocationDecision_writes cfg db userId spotId
    have haction := getClaimLocationDecision_action cfg db userId spotId
    have hmarkers := fun (other : ℕ) (hother : other ≠ userId) =>
      getClaimLocationDecision_markers cfg db userId spotId hother
    rcases hdecision : getClaimLocationDecision cfg db userId spotId with ⟨guarded, decision⟩
    rw [hdecision] at hwrites haction
    simp only [hdecision] at hmarkers
    dsimp only at hwrites haction ⊢
    subst hwrites
    cases hact : decision.action with
    | ban =>
      refine .inl ⟨_, _, rfl, rfl, .inr rfl, fun other hother => ?_⟩
      exact (Function.update_of_ne hother _ _).trans (hmarkers other hother)
    | cooldown => exact .inl ⟨_, _, rfl, rfl, .inl rfl, hmarkers⟩
    | newCooldown => exact absurd hact haction
    | allow =>
      dsimp only
      rcases hcreate : createClaim cfg { db with locationSuspicion := markers } spotId userId position 1 clean with
        ⟨created, e | claimId⟩
      · left
        have hsame : created = { db with locationSuspicion := markers } := by
          unfold createClaim at hcreate
          cases hclean : cfg.cleanOptionalNimiqAddress clean with
          | error message =>
            rw [hclean] at hcreate
            exact (Prod.mk.inj hcreate).1.symm
          | ok address =>
            rw [hclean] at hcreate
            exact Db.insertClaim_error hcreate
        exact ⟨_, e, rfl, hsame ▸ ⟨rfl, .inl rfl, hmarkers⟩⟩
      · right
        refine ⟨rfl, ?_⟩
        unfold createClaim at hcreate
        cases hclean : cfg.cleanOptionalNimiqAddress clean with
        | error message => simp [hclean] at hcreate
        | ok address =>
          rw [hclean] at hcreate
          obtain ⟨hid, -, hdb⟩ := Db.insertClaim_ok hcreate
          refine ⟨Function.update markers userId none, address, ?_⟩
          rw [hdb, hid]
          rfl

lemma unusedClaimCode_ok {spotId : ℕ} {cleanCode : Option String} {existing : Option ClaimCode}
    (h : unusedClaimCode db spotId cleanCode = .ok existing) :
    ∃ code, existing = some code ∧ code ∈ db.claimCodes ∧ code.spotId = spotId ∧ code.usedBy = none := by
  unfold unusedClaimCode at h
  cases hfound : cleanCode.bind (db.claimCodeByCode spotId) with
  | none => simp [hfound] at h
  | some code =>
    rw [hfound] at h
    dsimp only at h
    by_cases hused : code.usedBy.isSome = true
    · rw [if_pos hused] at h
      simp at h
    · rw [if_neg hused, Except.ok.injEq] at h
      obtain ⟨text, -, hcode⟩ := Option.bind_eq_some_iff.mp hfound
      have hsel := List.find?_some hcode
      simp only [decide_eq_true_eq] at hsel
      exact ⟨code, h.symm, List.mem_of_find?_eq_some hcode, hsel.1, by simpa using hused⟩

variable (cfg req) in
/-- The outcomes of the installed claim route: nothing is inserted; a duration claim waits; or the
claim is settled in the same transaction. -/
lemma installedCreateClaimAttempt_outcomes (hkeyed : db.Keyed) :
    (∃ db' e, installedCreateClaimAttempt cfg db req = (db', .error e) ∧ OnlyGuarded req.userId db db') ∨
    ∃ spot claim entered, EntersClaim cfg db req spot claim entered ∧
      ((spot.claimDuration ≠ 0 ∧ installedCreateClaimAttempt cfg db req = (entered, .ok claim)) ∨
        spot.claimDuration = 0 ∧
        (installedCreateClaimAttempt cfg db req).1 = (promotePendingClaimToSuccessIfCodeAvailable
          promotePendingClaimToSuccessIfCapacityAvailable entered claim.id).1 ∧
        ((installedCreateClaimAttempt cfg db req).2 = .ok (claim.withStatus db.now .success) ∨
          (∃ reason, (promotePendingClaimToSuccessIfCodeAvailable promotePendingClaimToSuccessIfCapacityAvailable
            entered claim.id).2.capacityPromotion = some (false, reason)) ∧
          ∃ message, (installedCreateClaimAttempt cfg db req).2 = .error (.valueError message))) := by
  rcases installedCreateClaimAttempt_cases cfg db req with ⟨message, hrefused⟩ | ⟨hwallet, address, hcall⟩
  · exact .inl ⟨db, _, hrefused, .refl req.userId db⟩
  · rw [hcall, createClaimAttemptSuccessOnly_eq]
    rcases hentry : entryCheck cfg db { req with payoutAddress := address } with e | ⟨spot, cleanCode, existing⟩
    · exact .inl ⟨db, e, rfl, .refl req.userId db⟩
    · dsimp only
      obtain ⟨hspot, hallowed, hexisting⟩ := entryCheck_ok hentry
      dsimp only at hspot hallowed hexisting
      unfold enterClaimSuccessOnly
      dsimp only
      rcases guardedCreator_cases cfg db req.spotId req.userId req.position address with
        ⟨db', e, hcreate, honly⟩ | ⟨hguard, markers, clean, hcreate⟩
      · rw [hcreate]
        exact .inl ⟨db', _, rfl, honly⟩
      · rw [hcreate]
        right
        obtain ⟨found, hpublic, havailable⟩ := hallowed.current
        have hsame : found = spot := by
          have := getPublicSpot_getSpot hpublic
          rw [hspot, Option.some.injEq] at this
          exact this.symm
        subst hsame
        have hcapacity : db.spotHasPublicClaimCapacity found = true := by
          have := hallowed.capacity
          rwa [Db.isSpotClaimCapacityAvailable, hspot] at this
        -- the candidate code of a coded Spot
        obtain ⟨attempts, hattempts, hrow⟩ : ∃ attempts,
            (found.usePassword = false ∧ attempts = db.claimCodeAttempts ∨
              found.usePassword = true ∧ ∃ code ∈ db.claimCodes, code.spotId = found.id ∧ code.usedBy = none ∧
                attempts = db.claimCodeAttempts ++ [⟨db.claimSeq + 1, code.id⟩]) ∧
            (existing.elim db.claimCodeAttempts fun code =>
              db.claimCodeAttempts ++ [⟨db.claimSeq + 1, code.id⟩]) = attempts := by
          cases hcoded : found.usePassword with
          | false =>
            rw [hcoded] at hexisting
            have hnone : existing = none := (Except.ok.inj hexisting).symm
            exact ⟨db.claimCodeAttempts, .inl ⟨rfl, rfl⟩, by rw [hnone]; rfl⟩
          | true =>
            rw [hcoded, if_pos rfl] at hexisting
            obtain ⟨code, hsome, hmem, hcodeSpot, hunused⟩ := unusedClaimCode_ok hexisting
            rw [hsome]
            exact ⟨_, .inr ⟨rfl, code, hmem, hcodeSpot.trans (getSpot_id hspot).symm, hunused, rfl⟩, rfl⟩
        generalize hclaim : db.freshClaim req.spotId req.userId clean req.position = claim
        have hid : db.claimSeq + 1 = claim.id := by rw [← hclaim]; rfl
        generalize hentered : ({ db with
          claims := db.claims ++ [claim], claimSeq := db.claimSeq + 1, locationSuspicion := markers,
          claimCodeAttempts := attempts } : Db P) = entered
        have hdb : Db.createAttemptIfCoded ({ db with
            claims := db.claims ++ [claim], claimSeq := db.claimSeq + 1, locationSuspicion := markers } : Db P)
            (db.claimSeq + 1) (existing.map ClaimCode.id) = entered := by
          rw [← hentered, ← hrow]
          cases existing <;> rfl
        dsimp only
        rw [hdb, hid]
        have henters : EntersClaim cfg db req found claim entered :=
          { found := hpublic
            available := havailable
            capacity := hcapacity
            near := hallowed.near
            allowed := hguard
            wallet := getSpot_id hspot ▸ hwallet
            inserted := ⟨clean, hclaim.symm⟩
            attempts := ⟨markers, attempts, hentered.symm, hid ▸ hattempts⟩ }
        have hfound : entered.getClaim claim.id = some claim := by
          have hfresh : db.claims.find? (fun c => c.id = claim.id) = none := by
            rw [List.find?_eq_none]
            intro c hc
            have := (hkeyed.claimFresh c hc).2
            simp only [decide_eq_true_eq]
            omega
          rw [← hentered, Db.getClaim]
          dsimp only
          rw [List.find?_append, hfresh]
          simp
        have hpending : claim.status = .pending := by rw [← hclaim]; rfl
        have hclaimSpot : entered.getSpot claim.spotId = some found := by rw [← hclaim, ← hentered]; exact hspot
        refine ⟨found, claim, entered, henters, ?_⟩
        by_cases hzero : found.claimDuration = 0
        · right
          rw [if_pos hzero]
          refine ⟨hzero, ?_⟩
          obtain ⟨-, ⟨reason, hanswer⟩ | ⟨reason, hanswer⟩⟩ :=
            (codePromoter_settles hfound hpending hclaimSpot (fun _ => trivial) : Settles .all entered claim _)
          · have hnow : entered.now = db.now := by rw [← hentered]
            rcases hpromote : promotePendingClaimToSuccessIfCodeAvailable
              promotePendingClaimToSuccessIfCapacityAvailable entered claim.id with ⟨promoted, promotion⟩
            rw [hpromote] at hanswer
            dsimp only at hanswer ⊢
            rw [hanswer, hnow]
            exact ⟨rfl, .inl rfl⟩
          · rcases hpromote : promotePendingClaimToSuccessIfCodeAvailable
              promotePendingClaimToSuccessIfCapacityAvailable entered claim.id with ⟨promoted, promotion⟩
            rw [hpromote] at hanswer
            dsimp only at hanswer ⊢
            rw [hanswer]
            exact ⟨rfl, .inr ⟨⟨reason, rfl⟩, _, rfl⟩⟩
        · left
          rw [if_neg hzero, reloadClaim, hfound]
          exact ⟨hzero, rfl⟩

/-- What a claim request may write. -/
structure EntryPermitted (permit : WritePermit P) (cfg : Settings P) (db : Db P) (req : ClaimRequest P) : Prop where
  enter : ∀ spot claim entered markers, EntersClaim cfg db req spot claim entered →
    permit.enter { db with locationSuspicion := markers } spot req.userId req.position
  settle : ∀ spot claim entered, EntersClaim cfg db req spot claim entered → spot.claimDuration = 0 →
    ∀ status, permit.settle entered claim status

lemma EntersClaim.spot_id {entered : Db P} (h : EntersClaim cfg db req spot claim entered) :
    spot.id = req.spotId :=
  getSpot_id (getPublicSpot_getSpot h.found)

/-- The fresh row is found under its id. -/
lemma EntersClaim.getClaim {entered : Db P} (hkeyed : db.Keyed) (h : EntersClaim cfg db req spot claim entered) :
    entered.getClaim claim.id = some claim := by
  obtain ⟨address, hclaim⟩ := h.inserted
  obtain ⟨markers, attempts, rfl, -⟩ := h.attempts
  have hid : claim.id = db.claimSeq + 1 := by rw [hclaim]; rfl
  have hfresh : db.claims.find? (fun c => c.id = claim.id) = none := by
    rw [List.find?_eq_none]
    intro c hc
    have := (hkeyed.claimFresh c hc).2
    simp only [decide_eq_true_eq]
    omega
  rw [Db.getClaim]
  dsimp only
  rw [List.find?_append, hfresh]
  simp

/-- Entering is inserting the row and, on a coded Spot, its candidate code. -/
lemma EntersClaim.writes {entered : Db P} (hkeyed : db.Keyed) (hpermit : EntryPermitted permit cfg db req)
    (h : EntersClaim cfg db req spot claim entered) : ClaimWrites permit db entered := by
  have hfound := h.getClaim hkeyed
  have hspot := h.spot_id
  obtain ⟨address, hclaim⟩ := h.inserted
  obtain ⟨markers, attempts, hrow, hcoded⟩ := h.attempts
  -- the markers first: the insert starts from them
  have hguarded : ClaimWrite permit db { db with locationSuspicion := markers } := .guarded db.users markers
  have hinsert : ClaimWrite permit { db with locationSuspicion := markers }
      (Db.addClaim { db with locationSuspicion := markers } claim) := by
    rw [hclaim, ← hspot]
    have hpublic : Db.getPublicSpot { db with locationSuspicion := markers } spot.id = some spot :=
      hspot ▸ h.found
    exact .entered hpublic h.capacity (hpermit.enter spot claim entered markers h)
  have hchain := (ReflTransGen.single hguarded).tail hinsert
  have hid : claim.id = db.claimSeq + 1 := by rw [hclaim]; rfl
  rcases hcoded with ⟨-, hsame⟩ | ⟨-, code, hcode, hcodeSpot, -, hattempts⟩
  · have hdb : entered = Db.addClaim { db with locationSuspicion := markers } claim := by
      rw [hrow, hsame, ← hid]
      rfl
    rw [hdb]
    exact hchain
  · have hdb : entered = (Db.addClaim { db with locationSuspicion := markers } claim).createAttempt claim.id code.id := by
      rw [hrow, hattempts, ← hid]
      rfl
    have hclaimFound : (Db.addClaim { db with locationSuspicion := markers } claim).getClaim claim.id = some claim := by
      rw [hdb] at hfound
      exact hfound
    have hclaimSpot : code.spotId = claim.spotId := by rw [hcodeSpot, hspot, hclaim]; rfl
    rw [hdb]
    exact hchain.tail (.attempted hclaimFound (by rw [hclaim]; rfl) hcode hclaimSpot)

/-- The installed claim route writes only what its permit allows. -/
lemma claimRoute_writes (hkeyed : db.Keyed) (hpermit : EntryPermitted permit cfg db req) :
    ClaimWrites permit db (installedCreateClaimAttempt cfg db req).1 := by
  rcases installedCreateClaimAttempt_outcomes cfg req hkeyed with
    ⟨db', e, hrefused, honly⟩ | ⟨spot, claim, entered, henters, ⟨-, hwaits⟩ | ⟨hzero, hsettled, -⟩⟩
  · rw [hrefused]
    exact .single honly.write
  · rw [hwaits]
    exact henters.writes hkeyed hpermit
  · rw [hsettled]
    have hfound := henters.getClaim hkeyed
    obtain ⟨address, hclaim⟩ := henters.inserted
    have hground := (henters.writes hkeyed hpermit).sameGround
    have hspot : entered.getSpot claim.spotId = some spot := by
      rw [hground.getSpot, hclaim]
      exact getPublicSpot_getSpot henters.found
    have hpending : claim.status = .pending := by rw [hclaim]; rfl
    exact (henters.writes hkeyed hpermit).tail
      (codePromoter_settles hfound hpending hspot (hpermit.settle spot claim entered henters hzero)).write

end Entry

/-- Claims and codes rewritten row by row, each under its identity. -/
def ClaimsRewritten (db db' : Db P) : Prop :=
  ∃ (f : Claim P → Claim P) (g : ClaimCode → ClaimCode) (attempts : List ClaimCodeAttempt),
    db' = { db with
      claims := db.claims.map f, claimCodes := db.claimCodes.map g, claimCodeAttempts := attempts } ∧
    (∀ c, SameClaim c (f c)) ∧ ∀ code, (g code).id = code.id

section Rewritten

variable {db db' db'' : Db P}

lemma ClaimsRewritten.refl (db : Db P) : ClaimsRewritten db db :=
  ⟨id, id, db.claimCodeAttempts, by rw [List.map_id, List.map_id], SameClaim.refl, fun _ => rfl⟩

lemma ClaimsRewritten.then (h : ClaimsRewritten db db') (h' : ClaimsRewritten db' db'') : ClaimsRewritten db db'' := by
  obtain ⟨f, g, attempts, rfl, hf, hg⟩ := h
  obtain ⟨f', g', attempts', rfl, hf', hg'⟩ := h'
  refine ⟨f' ∘ f, g' ∘ g, attempts', ?_, fun c => (hf c).then (hf' (f c)), fun code => (hg' (g code)).trans (hg code)⟩
  rw [← List.map_map, ← List.map_map]

lemma claimsRewritten_updateClaimStatus (db : Db P) (sel : Claim P → Bool) (status : ClaimStatus) :
    ClaimsRewritten db (db.updateClaimStatus sel status) := by
  refine ⟨fun c => if sel c then c.withStatus db.now status else c, id,
    (db.updateClaimStatus sel status).claimCodeAttempts, ?_, fun c => ?_, fun _ => rfl⟩
  · rw [List.map_id]
    rfl
  · dsimp only
    split
    · exact sameClaim_withStatus db.now status c
    · exact .refl c

lemma claimsRewritten_codes (db : Db P) (sel : ClaimCode → Bool) (usedBy : Option ℕ) :
    ClaimsRewritten db { db with
      claimCodes := updateWhere sel (fun code => { code with usedBy := usedBy }) db.claimCodes } := by
  refine ⟨id, fun code => if sel code then { code with usedBy := usedBy } else code, db.claimCodeAttempts, ?_,
    SameClaim.refl, fun code => ?_⟩
  · rw [List.map_id]
    rfl
  · dsimp only
    split <;> rfl

lemma claimsRewritten_failPendingStandard (db : Db P) (spotId : ℕ) :
    ClaimsRewritten db (db.failPendingStandardDurationClaimsIfCapacityFull spotId) := by
  unfold Db.failPendingStandardDurationClaimsIfCapacityFull
  cases db.getSpot spotId with
  | none => exact .refl db
  | some spot =>
    dsimp only
    split_ifs
    · exact .refl db
    · exact .refl db
    · exact .refl db
    · exact claimsRewritten_updateClaimStatus db _ _

lemma claimsRewritten_originalPromoter (db : Db P) (claimId : ℕ) :
    ClaimsRewritten db (promotePendingClaimToSuccessIfCapacityAvailable db claimId).1 := by
  have hsuccess : ClaimsRewritten db (db.setClaimStatusToSuccess claimId) := claimsRewritten_updateClaimStatus db _ _
  unfold promotePendingClaimToSuccessIfCapacityAvailable
  cases db.getClaim claimId with
  | none => exact .refl db
  | some claim =>
    dsimp only
    by_cases hpending : claim.status ≠ .pending
    · rw [if_pos hpending]
      exact .refl db
    · rw [if_neg hpending]
      cases db.getSpot claim.spotId with
      | none => exact .refl db
      | some spot =>
        dsimp only
        split_ifs
        · exact hsuccess
        · exact hsuccess
        · exact hsuccess.then (claimsRewritten_failPendingStandard _ _)
        · exact claimsRewritten_updateClaimStatus db _ _

/-- Whatever the promoter decides, it rewrites rows. -/
lemma claimsRewritten_codePromoter (db : Db P) (claimId : ℕ) :
    ClaimsRewritten db (promotePendingClaimToSuccessIfCodeAvailable
      promotePendingClaimToSuccessIfCapacityAvailable db claimId).1 := by
  unfold promotePendingClaimToSuccessIfCodeAvailable
  cases db.getClaim claimId with
  | none => exact .refl db
  | some claim =>
    dsimp only
    by_cases hpending : claim.status ≠ .pending
    · rw [if_pos hpending]
      exact .refl db
    · rw [if_neg hpending]
      cases db.getSpot claim.spotId with
      | none => exact .refl db
      | some spot =>
        dsimp only
        by_cases hcoded : (!spot.usePassword) = true
        · rw [if_pos hcoded]
          exact claimsRewritten_originalPromoter db claimId
        · rw [if_neg hcoded]
          cases db.attemptForClaim claimId with
          | none => exact claimsRewritten_updateClaimStatus db _ _
          | some code =>
            have hconsumed : ClaimsRewritten db (db.consumeClaimCode code.id claimId).1 :=
              claimsRewritten_codes db _ (some claimId)
            dsimp only
            rcases hconsume : db.consumeClaimCode code.id claimId with ⟨consumed, _ | _⟩
            · exact claimsRewritten_updateClaimStatus db _ _
            · rw [hconsume] at hconsumed
              have hpromoted := hconsumed.then (claimsRewritten_originalPromoter consumed claimId)
              dsimp only
              split_ifs
              · exact hpromoted
              · exact hpromoted.then (claimsRewritten_codes _ _ none)

end Rewritten

end NimHunt
