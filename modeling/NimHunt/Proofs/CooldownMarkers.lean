import NimHunt.Proofs.ClaimEntries
import NimHunt.Proofs.MercyRule

/-!
# The cooldown markers

Only the claim route touches the markers of the location guard, and of a user's own attempts only.
-/

namespace NimHunt

open Lib Relation

variable {P : Type} {cfg : Settings P} {db db' : Db P} {s : Sys P} {op : Op P}

lemma ClaimsRewritten.markers (h : ClaimsRewritten db db') : db'.locationSuspicion = db.locationSuspicion := by
  obtain ⟨f, g, attempts, rfl, -, -⟩ := h
  rfl

lemma installedPromoter_markers (db : Db P) (claimId : ℕ) :
    (installedPromoter cfg db claimId).1.locationSuspicion = db.locationSuspicion := by
  unfold installedPromoter
  rcases promoteClaimWithVerifiedWalletLimit_cases cfg (promotePendingClaimToSuccessIfCodeAvailable
    promotePendingClaimToSuccessIfCapacityAvailable) db claimId with ⟨hsame, -⟩ | ⟨claim, -, -, -, promotion, hfailed⟩
  · rw [hsame]
    exact (claimsRewritten_codePromoter db claimId).markers
  · rw [hfailed]
    rfl

lemma refresh_markers (db : Db P) (claimId : ℕ) :
    (refreshClaimStatusFromConditions (installedPromoter cfg) db claimId).1.locationSuspicion =
      db.locationSuspicion := by
  unfold refreshClaimStatusFromConditions
  cases db.getClaim claimId with
  | none => rfl
  | some claim =>
    dsimp only
    by_cases hpending : claim.status = .pending
    · rw [if_neg (not_not_intro hpending)]
      cases db.getSpot claim.spotId with
      | none => rfl
      | some spot =>
        dsimp only
        split_ifs
        · rfl
        · exact installedPromoter_markers db claimId
        · rfl
        · exact installedPromoter_markers db claimId
        · rfl
    · rw [if_pos hpending]

lemma recordHeartbeat_markers (db : Db P) (claim : Claim P) (spot : Spot P) (position : P) (accuracy : Option ℚ) :
    (recordHeartbeat cfg (installedPromoter cfg) db claim spot position accuracy).1.locationSuspicion =
      db.locationSuspicion := by
  unfold recordHeartbeat
  cases getClaimDistanceCheck cfg db claim.spotId position accuracy with
  | error e => rfl
  | ok found =>
    cases found with
    | none => rfl
    | some check =>
      dsimp only
      generalize nextScore claim.accuracy (durationClaimPenalty check.effectiveDistanceMetres check.radiusMetres) = score
      generalize hstatus : (if score ≤ 0 then ClaimStatus.failed else ClaimStatus.pending) = status
      have hpromoted : (installedPromoter cfg (db.modifyClaimLocationScore claim.id position score status)
          claim.id).1.locationSuspicion = db.locationSuspicion := installedPromoter_markers _ _
      by_cases hdue : 0 < score ∧ claim.claimedAt + spot.claimDuration ≤ db.now
      · rw [if_pos hdue]
        dsimp only
        cases (installedPromoter cfg (db.modifyClaimLocationScore claim.id position score status) claim.id).2.claim <;>
          exact hpromoted
      · rw [if_neg hdue]
        dsimp only
        cases (db.modifyClaimLocationScore claim.id position score status).getClaim claim.id <;> rfl

lemma heartbeat_markers (db : Db P) (claimId userId : ℕ) (position : P) (accuracy : Option ℚ) :
    (claimLocationHeartbeatApi cfg db claimId userId position accuracy).locationSuspicion = db.locationSuspicion := by
  have hprocessed : (processDurationClaimLocationHeartbeat cfg (installedPromoter cfg) db claimId userId position
      accuracy).1.locationSuspicion = db.locationSuspicion := by
    have hrefreshed := @refresh_markers _ cfg db claimId
    unfold processDurationClaimLocationHeartbeat
    cases db.getClaim claimId with
    | none => rfl
    | some claim =>
      dsimp only
      split_ifs
      · rfl
      · generalize refreshClaimStatusFromConditions (installedPromoter cfg) db claimId = outcome at hrefreshed
        obtain ⟨refreshed, _ | found⟩ := outcome
        · exact hrefreshed
        · dsimp only at hrefreshed ⊢
          by_cases hdecided : found.status ≠ .pending
          · rw [if_pos hdecided]
            exact hrefreshed
          · rw [if_neg hdecided]
            cases refreshed.getSpot found.spotId with
            | none => exact hrefreshed
            | some spot =>
              dsimp only
              split_ifs
              · have hpromoted := (@installedPromoter_markers _ cfg refreshed claimId).trans hrefreshed
                cases (installedPromoter cfg refreshed claimId).2.claim <;> exact hpromoted
              · exact (recordHeartbeat_markers refreshed found spot position accuracy).trans hrefreshed
  unfold claimLocationHeartbeatApi
  generalize processDurationClaimLocationHeartbeat cfg (installedPromoter cfg) db claimId userId position accuracy =
    outcome at hprocessed
  obtain ⟨made, e | claim⟩ := outcome
  · dsimp only
    split_ifs
    · exact hprocessed
    · rfl
  · exact hprocessed

lemma LedgerOnly.markers (h : LedgerOnly db db') : db'.locationSuspicion = db.locationSuspicion := by
  rw [h.same]

lemma Inserts.markers {p : NewTrans → Prop} {outcome : Outcome P ℕ} (h : Inserts p db outcome) :
    outcome.1.locationSuspicion = db.locationSuspicion := h.ledgerOnly.markers

lemma createSpot_markers (createdBy : ℕ) (depositAddress : Address) (fields : SpotFields P) :
    (createSpot cfg db createdBy depositAddress fields).1.locationSuspicion = db.locationSuspicion := by
  unfold createSpot Db.insertSpot
  split
  · rfl
  · split_ifs <;> rfl

lemma createPrizedraw_markers (createdBy : ℕ) (depositAddress : Address) (fields : SpotFields P)
    (prizeCount : Option ℤ) :
    (createPrizedraw cfg db createdBy depositAddress fields prizeCount).1.locationSuspicion = db.locationSuspicion := by
  unfold createPrizedraw Db.insertSpot
  split
  · rfl
  · split
    · rfl
    · split_ifs <;> rfl

lemma modifyDraftSpot_markers (spotId : ℕ) (edit : DraftEdit P) :
    (modifyDraftSpot db spotId edit).1.locationSuspicion = db.locationSuspicion := by
  unfold modifyDraftSpot
  split
  · rfl
  · split
    · rfl
    · dsimp only
      split_ifs <;> rfl

lemma deleteDraftSpot_markers (userId spotId : ℕ) :
    (deleteDraftSpot db userId spotId).1.locationSuspicion = db.locationSuspicion := by
  unfold deleteDraftSpot
  cases db.getSpot spotId with
  | none => rfl
  | some spot =>
    dsimp only
    split_ifs <;> rfl

lemma publishSpot_markers (spotId : ℕ) (draws : List String) :
    (publishSpot db spotId draws).1.locationSuspicion = db.locationSuspicion := by
  unfold publishSpot
  cases db.getSpot spotId with
  | none => rfl
  | some spot =>
    dsimp only
    split_ifs
    · rfl
    · rcases hcoded : ensureClaimCodesForPublish db spot draws with ⟨coded, e | ⟨⟩⟩
      · rfl
      · obtain ⟨rows, seq, hframe⟩ := ensureClaimCodesForPublish_frame hcoded
        rw [hframe]

lemma bindWallet_markers (userId : ℕ) (signer : Address) :
    (db.bindWallet cfg userId signer).locationSuspicion = db.locationSuspicion := by
  unfold Db.bindWallet
  split_ifs
  · rfl
  · split
    · rfl
    · split_ifs <;> rfl

lemma settlePrizedraw_markers (sample : Sampler P) (spotId : ℕ) :
    (settlePrizedrawSpotIfReady sample db spotId).1.locationSuspicion = db.locationSuspicion := by
  unfold settlePrizedrawSpotIfReady
  cases db.getSpot spotId with
  | none => rfl
  | some spot =>
    dsimp only
    by_cases hpublished : spot.status = .published
    · rw [if_neg (not_not_intro hpublished)]
      cases spot.prizeCount with
      | none => rfl
      | some prizeCount =>
        dsimp only
        cases db.settlementReadyReason spot with
        | none => rfl
        | some reason =>
          dsimp only
          unfold drawPrizedraw
          dsimp only
          split_ifs <;> rfl
    · rw [if_pos hpublished]

lemma payoutPass_markers (spotId : ℕ) :
    (retryPendingPrizedrawPayoutsForSpot db spotId).1.locationSuspicion = db.locationSuspicion := by
  have hpaid : ∀ (winners : List (Claim P)) (db : Db P),
      (winners.foldl recordPaidWinner db).locationSuspicion = db.locationSuspicion := by
    intro winners
    induction winners with
    | nil => exact fun _ => rfl
    | cons winner winners ih =>
      intro db
      rw [List.foldl_cons, ih]
      unfold recordPaidWinner
      split_ifs <;> rfl
  unfold retryPendingPrizedrawPayoutsForSpot
  cases db.getSpot spotId with
  | none => rfl
  | some spot =>
    dsimp only
    split_ifs
    · rfl
    · rfl
    · exact hpaid _ db

lemma acquireCancellationLease_markers (spotId fee : ℕ) (feeAddress : Address) (transactions : List Trans)
    (failureProven : Bool) :
    (acquireCancellationLease cfg db spotId fee feeAddress transactions failureProven).1.locationSuspicion =
      db.locationSuspicion := by
  unfold acquireCancellationLease
  dsimp only
  split
  · rfl
  · split_ifs
    · rfl
    · rfl
    · split
      · rfl
      · split <;> rfl
    · split
      · rfl
      · split <;> rfl

lemma settleRemainder_markers (spotId : ℕ) :
    (settleSpotRemainderIfReady cfg db spotId).1.locationSuspicion = db.locationSuspicion := by
  unfold settleSpotRemainderIfReady
  cases db.getSpot spotId with
  | none => rfl
  | some spot =>
    dsimp only
    split_ifs
    · rfl
    · rfl
    · rfl
    · rfl
    · rfl
    · rfl
    · rfl
    · unfold settleRemainderFromLedger
      dsimp only
      split_ifs
      · rfl
      · rfl
      · rfl
      · rfl
      · split <;> rfl
      · split <;> rfl

lemma banSpot_markers (spotId : ℕ) : (banSpot db spotId).1.locationSuspicion = db.locationSuspicion := by
  unfold banSpot
  cases db.getSpot spotId with
  | none => rfl
  | some spot =>
    dsimp only
    split_ifs <;> rfl

lemma sweep_markers (spotId : ℕ) : (attemptBannedSpotSweep db spotId).1.locationSuspicion = db.locationSuspicion := by
  unfold attemptBannedSpotSweep
  cases db.getSpot spotId with
  | none => rfl
  | some spot =>
    dsimp only
    split_ifs <;> rfl

lemma markTransAsFailed_markers (row : Trans) :
    (markTransAsFailed db row).1.locationSuspicion = db.locationSuspicion := by
  have hledger : LedgerOnly db (db.modifyTransactionStatus row.id .failed).1 := modifyTransactionStatus_ledgerOnly ..
  unfold markTransAsFailed
  generalize db.modifyTransactionStatus row.id .failed = outcome at hledger
  obtain ⟨mid, e | _⟩ := outcome
  · rfl
  · obtain ⟨spots, hfinal⟩ := finalizeCancelledSpotIfReady_frame mid row.spotId
    change (finalizeCancelledSpotIfReady mid row.spotId).locationSuspicion = _
    rw [hfinal]
    exact hledger.markers

lemma markTransAsConfirmed_markers (row : Trans) (transfer : ChainTransfer) (payout : Bool) :
    (markTransAsConfirmed db row transfer payout).1.locationSuspicion = db.locationSuspicion := by
  have hledger : ∀ status, LedgerOnly db
      ((db.updateTransactionChainDetails row.id transfer).modifyTransactionStatus row.id status).1 := fun status =>
    (updateTransactionChainDetails_ledgerOnly row.id transfer).then (modifyTransactionStatus_ledgerOnly row.id status)
  have hrolled : ∀ outcome : Outcome P Unit, outcome.1.locationSuspicion = db.locationSuspicion →
      (outcome.orRollback db).1.locationSuspicion = db.locationSuspicion := by
    rintro ⟨made, e | _⟩ hmade
    · rfl
    · exact hmade
  unfold markTransAsConfirmed
  dsimp only
  apply hrolled
  split_ifs
  · exact (hledger .failed).markers
  · have hconfirmed := (hledger .confirmed).markers
    generalize (db.updateTransactionChainDetails row.id transfer).modifyTransactionStatus row.id .confirmed =
      outcome at hconfirmed
    obtain ⟨mid, e | _⟩ := outcome
    · exact hconfirmed
    · dsimp only
      split
      · next claimId _ =>
        obtain ⟨spots, hfinal⟩ := finalizeCancelledSpotIfReady_frame (mid.setClaimStatusToSuccess claimId) row.spotId
        rw [hfinal]
        exact hconfirmed
      · obtain ⟨spots, hfinal⟩ := finalizeCancelledSpotIfReady_frame mid row.spotId
        rw [hfinal]
        exact hconfirmed

lemma afterRefusedLeg_markers (spotId : ℕ) (e : Raised) :
    (afterRefusedLeg db spotId e).locationSuspicion = db.locationSuspicion := by
  unfold afterRefusedLeg
  split
  · split_ifs <;> rfl
  · rfl

/-- No worker touches a marker. -/
lemma resume_markers (reply : Reply) (k : Continuation) :
    (resume cfg db reply k).1.locationSuspicion = db.locationSuspicion := by
  unfold NimHunt.resume
  cases k with
  | claimReward job => exact (submitClaimRewardTransaction_inserts job reply.txHash).markers
  | creationFee spotId amount => exact (submitSpotCreationFeeTransaction_inserts spotId amount reply.txHash).markers
  | cancellation lease =>
    obtain ⟨⟨spots, hspots⟩, -⟩ := submitSpotCancellationTransactions_writes cfg db lease.spotId lease.policy.feeAmount
    dsimp only
    unfold submitUnderLease
    generalize submitSpotCancellationTransactions cfg db lease.spotId lease.policy.feeAmount = outcome at hspots
    obtain ⟨made, e | result⟩ := outcome
    · dsimp only at hspots ⊢
      rw [hspots]
      split_ifs <;> rfl
    · dsimp only at hspots ⊢
      rw [hspots]
      cases result <;> rfl
  | cancellationFee lease job =>
    dsimp only
    unfold sendCancellationFee
    have hsent : (submitPlatformFeeTransaction cfg db job.spotId job.feeAmount lease.policy.feeAddress
        reply.txHash).1.locationSuspicion = db.locationSuspicion :=
      (submitPlatformFeeTransaction_inserts job.spotId job.feeAmount lease.policy.feeAddress reply.txHash).markers
    by_cases hunknown : 0 < job.refundAmount ∧ reply.refundAddress.isNone = true
    · rw [if_pos hunknown]
      rfl
    rw [if_neg hunknown]
    by_cases hzero : job.feeAmount = 0
    · rw [if_pos hzero]
    rw [if_neg hzero]
    generalize submitPlatformFeeTransaction cfg db job.spotId job.feeAmount lease.policy.feeAddress reply.txHash =
      outcome at hsent
    obtain ⟨made, e | _⟩ := outcome
    · exact (afterRefusedLeg_markers job.spotId e).trans hsent
    · dsimp only
      split_ifs <;> exact hsent
  | cancellationRefund lease job refundAddress =>
    dsimp only
    unfold sendCancellationRefund
    have hsent : (submitSpotRefundTransaction cfg db job.spotId job.refundAmount refundAddress
        reply.txHash).1.locationSuspicion = db.locationSuspicion :=
      (submitSpotRefundTransaction_inserts job.spotId job.refundAmount refundAddress reply.txHash).markers
    by_cases hzero : job.refundAmount = 0
    · rw [if_pos hzero]
      rfl
    rw [if_neg hzero]
    generalize submitSpotRefundTransaction cfg db job.spotId job.refundAmount refundAddress reply.txHash = outcome
      at hsent
    obtain ⟨made, e | _⟩ := outcome
    · exact (afterRefusedLeg_markers job.spotId e).trans hsent
    · dsimp only
      split_ifs <;> exact hsent
  | remainder job =>
    dsimp only
    cases reply.refundAddress with
    | none => rfl
    | some refundAddress =>
      dsimp only
      split_ifs <;> rfl
  | remainderRefund job refundAddress =>
    exact (submitSpotRemainderRefundTransaction_inserts job.spotId job.amount refundAddress reply.txHash).markers
  | banSweep spotId amount => exact (submitBanSweep_inserts spotId amount reply.txHash).markers
  | confirmation row payout =>
    dsimp only
    cases verifiedTransfer cfg row with
    | none => rfl
    | some transfer => exact markTransAsConfirmed_markers row transfer payout

/-- Only a claim attempt touches the markers. -/
lemma step_markers (hop : ∀ req, op ≠ .claim req) :
    (NimHunt.step cfg s op).db.locationSuspicion = s.db.locationSuspicion := by
  unfold NimHunt.step
  cases op with
  | tick seconds => rfl
  | registerUser user =>
    change (s.db.registerUser user).locationSuspicion = _
    unfold Db.registerUser
    split_ifs <;> rfl
  | setUserStatus userId status => rfl
  | bindWallet userId signer => exact bindWallet_markers userId signer
  | createSpot createdBy depositAddress fields => exact createSpot_markers createdBy depositAddress fields
  | createPrizedraw createdBy depositAddress fields prizeCount =>
    exact createPrizedraw_markers createdBy depositAddress fields prizeCount
  | modifyDraft spotId edit => exact modifyDraftSpot_markers spotId edit
  | deleteDraft userId spotId => exact deleteDraftSpot_markers userId spotId
  | publish spotId draws => exact publishSpot_markers spotId draws
  | claim req => exact absurd rfl (hop req)
  | heartbeat claimId userId position accuracy => exact heartbeat_markers s.db claimId userId position accuracy
  | refresh claimId => exact refresh_markers s.db claimId
  | settlePrizedraw spotId sample => exact settlePrizedraw_markers sample spotId
  | retryPrizedrawPayouts spotId => exact payoutPass_markers spotId
  | payoutStandardClaim claimId => rfl
  | recordDeposit userId spotId amount fromAddress txHash =>
    exact recordSpotDepositTransaction_writes.ledgerOnly.markers
  | payCreationFee spotId => rfl
  | cancelSpot spotId cancellationFee feeAddress transactions failureProven =>
    dsimp only
    have hleased := @acquireCancellationLease_markers _ cfg s.db spotId cancellationFee feeAddress transactions
      failureProven
    generalize acquireCancellationLease cfg s.db spotId cancellationFee feeAddress transactions failureProven = outcome
      at hleased
    obtain ⟨made, message | lease⟩ := outcome <;> exact hleased
  | settleRemainder spotId =>
    dsimp only
    have hsettled := @settleRemainder_markers _ cfg s.db spotId
    generalize settleSpotRemainderIfReady cfg s.db spotId = outcome at hsettled
    obtain ⟨made, result⟩ := outcome
    cases result <;> exact hsettled
  | banSpot spotId => exact banSpot_markers spotId
  | sweepBannedSpot spotId =>
    dsimp only
    have hswept := @sweep_markers _ s.db spotId
    generalize attemptBannedSpotSweep s.db spotId = outcome at hswept
    obtain ⟨made, result⟩ := outcome
    cases result <;> exact hswept
  | confirmTrans transId =>
    dsimp only
    cases s.db.getTransaction transId with
    | none => rfl
    | some row =>
      dsimp only
      split_ifs <;> rfl
  | failTrans transId =>
    dsimp only
    cases s.db.getTransaction transId with
    | none => rfl
    | some row => exact markTransAsFailed_markers row
  | resume index reply =>
    dsimp only
    cases s.inFlight[index]? with
    | none => rfl
    | some k => exact resume_markers reply k
  | crash index => rfl

variable {spotId userId other : ℕ} {position : P} {payoutAddress : Option Address} {req : ClaimRequest P}

lemma createClaim_markers {accuracy : ℚ} :
    (createClaim cfg db spotId userId position accuracy payoutAddress).1.locationSuspicion = db.locationSuspicion := by
  unfold createClaim
  cases cfg.cleanOptionalNimiqAddress payoutAddress with
  | error message => rfl
  | ok clean =>
    dsimp only
    unfold Db.insertClaim
    cases db.getSpot spotId with
    | none => rfl
    | some spot =>
      dsimp only
      split_ifs <;> rfl

/-- The guard writes the marker of the user who claims. -/
lemma guardedCreator_markers {accuracy : ℚ} (hother : other ≠ userId) :
    (createClaimWithImpossibleTravelGuard cfg db spotId userId position accuracy
      payoutAddress).1.locationSuspicion other = db.locationSuspicion other := by
  have hdecided := @getClaimLocationDecision_markers _ cfg db userId spotId _ hother
  unfold createClaimWithImpossibleTravelGuard
  cases cfg.cleanOptionalNimiqAddress payoutAddress with
  | error message => rfl
  | ok clean =>
    dsimp only
    generalize getClaimLocationDecision cfg db userId spotId = decided at hdecided
    obtain ⟨made, decision⟩ := decided
    cases haction : decision.action with
    | ban => exact (Function.update_of_ne hother _ _).trans hdecided
    | cooldown => exact hdecided
    | allow | newCooldown =>
      have hcreated := congrFun (@createClaim_markers _ cfg made spotId userId position clean accuracy) other
      dsimp only
      generalize createClaim cfg made spotId userId position accuracy clean = outcome at hcreated
      obtain ⟨entered, e | claimId⟩ := outcome
      · exact hcreated.trans hdecided
      · exact ((Function.update_of_ne hother _ _).trans hcreated).trans hdecided

lemma enterClaimSuccessOnly_markers {spot : Spot P} {claimCodeId : Option ℕ} (hother : other ≠ req.userId) :
    (enterClaimSuccessOnly (createClaimWithImpossibleTravelGuard cfg) promotePendingClaimToSuccessIfCapacityAvailable
      db req spot claimCodeId).1.locationSuspicion other = db.locationSuspicion other := by
  have hcreated := @guardedCreator_markers _ cfg db req.spotId req.userId _ req.position req.payoutAddress 1 hother
  have hreloaded : ∀ (db : Db P) (claimId : ℕ), (reloadClaim db claimId).1 = db := by
    intro db claimId
    unfold reloadClaim
    split <;> rfl
  unfold enterClaimSuccessOnly
  generalize createClaimWithImpossibleTravelGuard cfg db req.spotId req.userId req.position 1 req.payoutAddress =
    outcome at hcreated
  obtain ⟨made, e | claimId⟩ := outcome
  · exact hcreated
  · have hcoded : (made.createAttemptIfCoded claimId claimCodeId).locationSuspicion = made.locationSuspicion := by
      cases claimCodeId <;> rfl
    dsimp only
    generalize made.createAttemptIfCoded claimId claimCodeId = coded at hcoded
    have hpromoted := (claimsRewritten_codePromoter coded claimId).markers
    have hboth := congrFun (hpromoted.trans hcoded) other
    by_cases hzero : spot.claimDuration = 0
    · rw [if_pos hzero]
      generalize promotePendingClaimToSuccessIfCodeAvailable promotePendingClaimToSuccessIfCapacityAvailable coded
        claimId = promoted at hboth
      obtain ⟨after, claim, outcome⟩ := promoted
      rcases outcome with _ | ⟨_ | _, reason⟩
      · cases claim with
        | none =>
          dsimp only
          rw [hreloaded]
          exact hboth.trans hcreated
        | some claim => exact hboth.trans hcreated
      · exact hboth.trans hcreated
      · cases claim with
        | none =>
          dsimp only
          rw [hreloaded]
          exact hboth.trans hcreated
        | some claim => exact hboth.trans hcreated
    · rw [if_neg hzero, hreloaded]
      exact (congrFun hcoded other).trans hcreated

/-- An attempt leaves the markers of everybody else. -/
lemma claimRoute_markers (hother : other ≠ req.userId) :
    (claimRoute cfg db req).locationSuspicion other = db.locationSuspicion other := by
  have hattempted : (installedCreateClaimAttempt cfg db req).1.locationSuspicion other =
      db.locationSuspicion other := by
    rcases installedCreateClaimAttempt_cases cfg db req with ⟨message, hrefused⟩ | ⟨-, address, hcall⟩
    · rw [hrefused]
    · rw [hcall, createClaimAttemptSuccessOnly_eq]
      rcases entryCheck cfg db { req with payoutAddress := address } with e | ⟨spot, cleanCode, existing⟩
      · rfl
      · exact enterClaimSuccessOnly_markers hother
  rcases claimRoute_cases cfg db req with hsame | hmade
  · rw [hsame]
  · rw [hmade]
    exact hattempted

end NimHunt
