import NimHunt.System
import NimHunt.Proofs.ClaimWrites

/-!
# A rejected claim leaves no claim behind

The claim route commits what a rejection has written.  A request that has inserted its claim cannot be
rejected any more: in the same transaction the place is still free and the code still unused, so the
claim waits or succeeds.
-/

namespace NimHunt

open Lib

variable {P : Type}

/-- The claim tables with their keys: a candidate code names a stored claim. -/
structure ClaimStore (P : Type) extends Store P where
  attempted : ∀ a ∈ toDb.claimCodeAttempts, ∃ c ∈ toDb.claims, c.id = a.claimId

section Entered

variable {cfg : Settings P} {db entered : Db P} {req : ClaimRequest P} {spot : Spot P} {claim : Claim P}

/-- The capacity the entry checked is the room the promoter looks for. -/
lemma hasRoom_of_publicCapacity (h : db.spotHasPublicClaimCapacity spot = true) : hasRoom db spot := by
  unfold Db.spotHasPublicClaimCapacity at h
  unfold hasRoom
  by_cases hprizedraw : spot.prizeCount.isSome = true
  · exact Or.inl hprizedraw
  · by_cases hmax : spot.maxTotalClaims = 0
    · exact Or.inr (Or.inl hmax)
    · have hlimited : 0 < spot.maxTotalClaims := Nat.pos_of_ne_zero hmax
      refine Or.inr (Or.inr ?_)
      by_contra hfull
      have hfull : spot.maxTotalClaims ≤ db.countClaimsByStatusForSpot spot.id .success := Nat.le_of_not_lt hfull
      simp [hprizedraw, hlimited, hfull] at h

lemma EntersClaim.hasRoom (h : EntersClaim cfg db req spot claim entered) :
    hasRoom entered spot := by
  have hroom := hasRoom_of_publicCapacity h.capacity
  obtain ⟨address, hclaim⟩ := h.inserted
  obtain ⟨markers, attempts, hdb, -⟩ := h.attempts
  have hcount : entered.countClaimsByStatusForSpot spot.id .success =
      db.countClaimsByStatusForSpot spot.id .success := by
    have hnot : ¬(claim.spotId = spot.id ∧ claim.status = .success) := by
      rw [hclaim]
      simp [Db.freshClaim]
    rw [hdb]
    unfold Db.countClaimsByStatusForSpot
    rw [List.countP_append, List.countP_singleton]
    simp [hnot]
  unfold NimHunt.hasRoom at hroom ⊢
  rw [hcount]
  exact hroom

/-- The code a fresh claim has on a coded Spot is unused and is found again. -/
lemma EntersClaim.code (hkeyed : db.Keyed) (hattempted : ∀ a ∈ db.claimCodeAttempts, ∃ c ∈ db.claims, c.id = a.claimId)
    (h : EntersClaim cfg db req spot claim entered) (hcoded : spot.usePassword = true) :
    ∃ code ∈ entered.claimCodes, entered.attemptForClaim claim.id = some code ∧ code.usedBy = none := by
  obtain ⟨address, hclaim⟩ := h.inserted
  obtain ⟨markers, attempts, hdb, hattempts⟩ := h.attempts
  rcases hattempts with ⟨hplain, -⟩ | ⟨-, code, hmem, -, hunused, rfl⟩
  · rw [hcoded] at hplain
    cases hplain
  · have hid : claim.id = db.claimSeq + 1 := by rw [hclaim]; rfl
    have hfirst : db.claimCodeAttempts.find? (fun a => a.claimId = claim.id) = none := by
      rw [List.find?_eq_none]
      intro a ha
      obtain ⟨c, hc, hca⟩ := hattempted a ha
      have hold := (hkeyed.claimFresh c hc).2
      simp only [decide_eq_true_eq]
      omega
    have hcode : db.getClaimCode code.id = some code := (find?_key_eq_some hkeyed.codeKeys).mpr ⟨hmem, rfl⟩
    refine ⟨code, ?_, ?_, hunused⟩
    · rw [hdb]
      exact hmem
    · have hfound : (db.claimCodeAttempts ++ [(⟨claim.id, code.id⟩ : ClaimCodeAttempt)]).find? (fun a => a.claimId = claim.id) =
          some ⟨claim.id, code.id⟩ := by
        rw [List.find?_append, hfirst]
        simp
      rw [hdb]
      unfold Db.attemptForClaim
      dsimp only
      rw [hfound]
      exact hcode

/-- What has been inserted is not rejected. -/
lemma EntersClaim.succeeds (hkeyed : db.Keyed)
    (hattempted : ∀ a ∈ db.claimCodeAttempts, ∃ c ∈ db.claims, c.id = a.claimId)
    (h : EntersClaim cfg db req spot claim entered) (reason : String) :
    (promotePendingClaimToSuccessIfCodeAvailable promotePendingClaimToSuccessIfCapacityAvailable entered
      claim.id).2.capacityPromotion ≠ some (false, reason) := by
  have hfound := h.getClaim hkeyed
  have hground : SameGround db entered := by
    have hwrites : ClaimWrites .all db entered := h.writes hkeyed ⟨fun _ _ _ _ _ => trivial, fun _ _ _ _ _ _ => trivial⟩
    exact hwrites.sameGround
  obtain ⟨address, hclaim⟩ := h.inserted
  have hspot : entered.getSpot claim.spotId = some spot := by
    rw [hground.getSpot, hclaim]
    exact getPublicSpot_getSpot h.found
  have hpending : claim.status = .pending := by rw [hclaim]; rfl
  obtain ⟨success, hanswer⟩ :=
    codePromoter_succeeds hfound hpending hspot h.hasRoom (h.code hkeyed hattempted)
  rw [hanswer]
  simp

end Entered

variable (cfg : Settings P) (store : ClaimStore P) (req : ClaimRequest P)

lemma installedCreateClaimAttempt_rejected {e : Raised}
    (h : (installedCreateClaimAttempt cfg store.toDb req).2 = .error e) :
    OnlyGuarded req.userId store.toDb (installedCreateClaimAttempt cfg store.toDb req).1 := by
  rcases installedCreateClaimAttempt_outcomes cfg req store.keyed with
    ⟨db', e', hrefused, honly⟩ | ⟨spot, claim, entered, henters, ⟨-, hwaits⟩ | ⟨-, -, hsuccess | ⟨⟨reason, hfull⟩, -⟩⟩⟩
  · rw [hrefused]
    exact honly
  · rw [hwaits] at h
    cases h
  · rw [hsuccess] at h
    cases h
  · exact absurd hfull (henters.succeeds store.keyed store.attempted reason)

/-- Every rejection the route commits leaves the claim tables and the ledger as they were; it may have
written the guard's marker of the user and banned the user. -/
theorem rejected_claim_leaves_no_claim {e : Raised}
    (h : (installedCreateClaimAttempt cfg store.toDb req).2 = .error e) (hrejected : e.isValueError = true) :
    claimRoute cfg store.toDb req = (installedCreateClaimAttempt cfg store.toDb req).1 ∧
    (claimRoute cfg store.toDb req).claims = store.claims ∧
    (claimRoute cfg store.toDb req).claimCodes = store.claimCodes ∧
    (claimRoute cfg store.toDb req).claimCodeAttempts = store.claimCodeAttempts ∧
    (claimRoute cfg store.toDb req).trans = store.trans ∧
    OnlyGuarded req.userId store.toDb (claimRoute cfg store.toDb req) := by
  have hcommitted : claimRoute cfg store.toDb req = (installedCreateClaimAttempt cfg store.toDb req).1 := by
    unfold claimRoute
    generalize installedCreateClaimAttempt cfg store.toDb req = outcome at h
    obtain ⟨db', _ | _⟩ := outcome
    · cases h
      dsimp only
      rw [if_pos hrejected]
    · cases h
  have honly := installedCreateClaimAttempt_rejected cfg store req h
  rw [← hcommitted] at honly
  have hsame := honly.same
  refine ⟨hcommitted, ?_, ?_, ?_, ?_, honly⟩
  · rw [hsame]
  · rw [hsame]
  · rw [hsame]
  · rw [hsame]

section Witness

/-- A published Spot whose only place is taken. -/
def fullSpot : Db Unit :=
  { (Db.empty : Db Unit) with
    now := 100
    users := [{ id := 1, status := .active }, { id := 2, status := .active }, { id := 3, status := .active }]
    spots := [{
      id := 1, createdBy := 1, depositAddress := "NQ", position := some (), radius := 50, claimDuration := 0
      maxClaimsPerUser := 1, maxTotalClaims := 1, usePassword := false, totalValue := lunaPerNim, creationFee := 0
      startsAt := some 10, endsAt := 1000, status := .published, cancellationStartedAt := none, prizeCount := none }]
    claims := [{
      id := 1, spotId := 1, recipient := 3, payoutAddress := none, position := (), accuracy := 1, status := .success
      claimedAt := 20, updatedAt := 20 }]
    claimSeq := 1
    userBindings := [(2, "NQ02")] }

def fullSpotStore : ClaimStore Unit where
  toDb := fullSpot
  keyed := by constructor <;> decide +kernel
  attempted := by decide +kernel

def lateClaim : ClaimRequest Unit := ⟨1, 2, (), none, none, none⟩

theorem rejected_claim_leaves_no_claim_fullSpot :
    (installedCreateClaimAttempt Settings.onePlace fullSpot lateClaim).2 =
      .error (.valueError "This spot has no remaining claim capacity.") ∧
    OnlyGuarded 2 fullSpot (claimRoute Settings.onePlace fullSpot lateClaim) := by
  have hrejected : (installedCreateClaimAttempt Settings.onePlace fullSpot lateClaim).2 =
      .error (.valueError "This spot has no remaining claim capacity.") := by decide +kernel
  exact ⟨hrejected, (rejected_claim_leaves_no_claim Settings.onePlace fullSpotStore lateClaim hrejected rfl).2.2.2.2.2⟩

end Witness

end NimHunt
