import NimHunt.Proofs.BooksSettlement

/-!
# Claims in the books

What the routes of a claim leave, and the payouts that are decided for it: each is the claim's share.
-/

namespace NimHunt

open Lib Relation

variable {P : Type}

section Routes

variable {cfg : Settings P} {db : Db P} {claimId userId : ℕ} {position : P} {accuracy : Option ℚ}

/-- A claim of a standard Spot comes due after the cancellation of the Spot has begun. -/
def PromotesLate (db : Db P) (claimId : ℕ) : Prop :=
  ∃ claim spot, db.getClaim claimId = some claim ∧ claim.status = .pending ∧ db.getSpot claim.spotId = some spot ∧
    spot.prizeCount = none ∧ spot.cancellationStartedAt.isSome = true ∧
    (spot.claimDuration = 0 ∨ claim.claimedAt + spot.claimDuration ≤ db.now)

/-- A winner that has not been paid is settled as if it were still waiting. -/
def SettlesUnpaidWinner (cfg : Settings P) (db : Db P) (claimId userId : ℕ) (position : P) (accuracy : Option ℚ) : Prop :=
  ∃ spotId claim spot, spot.isCompletedPrizedraw = true ∧
    SettlesWinner cfg spotId db claimId userId position accuracy claim spot

/-- A claim enters an open Spot without a marker. -/
lemma entryPermitted_solvency (db : Db P) (req : ClaimRequest P) : EntryPermitted solvencyPermit cfg db req := by
  refine ⟨fun _ _ _ _ _ => trivial, ?_⟩
  intro spot claim entered henters _ status
  obtain ⟨address, hclaim⟩ := henters.inserted
  obtain ⟨markers, attempts, hentered, -⟩ := henters.attempts
  have hspot : db.getSpot req.spotId = some spot := getPublicSpot_getSpot henters.found
  have hpublic := of_decide_eq_true (Option.filter_eq_some_iff.mp henters.found).2
  have hunmarked : db.hasSpotCancellationStarted req.spotId = false := hpublic.2.1
  unfold Db.hasSpotCancellationStarted at hunmarked
  rw [hspot] at hunmarked
  have hmarker : spot.cancellationStartedAt = none := by
    simp only [Bool.or_eq_false_iff] at hunmarked
    simpa using hunmarked.1
  rw [hentered, hclaim]
  constructor
  · intro _ found hfound _
    rw [← Option.some.inj (hspot.symm.trans hfound)]
    exact hmarker
  · intro found hfound hdrawn
    rw [← Option.some.inj (hspot.symm.trans hfound)] at hdrawn
    have hcompleted : spot.status = .completed := (of_decide_eq_true hdrawn).1
    rw [hcompleted] at hpublic
    exact absurd hpublic.1 nofun

lemma proceeds_claimRoute (hbooks : Books db) (req : ClaimRequest P) : Proceeds cfg db (claimRoute cfg db req) := by
  have hwrites : Proceeds cfg db (installedCreateClaimAttempt cfg db req).1 :=
    ClaimWrites.proceeds hbooks (claimRoute_writes hbooks.numbered.keyed (entryPermitted_solvency db req))
  unfold claimRoute
  generalize installedCreateClaimAttempt cfg db req = outcome at hwrites
  obtain ⟨made, e | claim⟩ := outcome
  · dsimp only
    split_ifs
    · exact hwrites
    · exact .refl hbooks
  · exact hwrites

/-- Before the marker a claim that waits may succeed. -/
lemma maySettle_of_not_late {claim : Claim P} {spot : Spot P} (hlate : ¬ PromotesLate db claimId)
    (hclaim : db.getClaim claimId = some claim) (hpending : claim.status = .pending)
    (hspot : db.getSpot claim.spotId = some spot)
    (hdue : spot.claimDuration = 0 ∨ claim.claimedAt + spot.claimDuration ≤ db.now) :
    ∀ found, db.getSpot claim.spotId = some found → found.prizeCount = none → found.cancellationStartedAt = none := by
  intro found hfound hstandard
  have hsame : found = spot := Option.some.inj (hfound.symm.trans hspot)
  by_contra hmarked
  apply hlate
  exact ⟨claim, found, hclaim, hpending, hfound, hstandard, Option.isSome_iff_ne_none.mpr hmarked, hsame ▸ hdue⟩

lemma refreshAdmitted_solvency {claim : Claim P} {spot : Spot P} (hlate : ¬ PromotesLate db claimId)
    (hclaim : db.getClaim claimId = some claim) (hpending : claim.status = .pending)
    (hspot : db.getSpot claim.spotId = some spot) (hopen : spot.isCompletedPrizedraw = false) :
    RefreshAdmitted cfg solvencyPermit db claim spot := by
  have hundrawn : ∀ found, db.getSpot claim.spotId = some found → found.isCompletedPrizedraw = true →
      db.hasConfirmedClaimPayoutTransaction claim.id = true := by
    intro found hfound hdrawn
    rw [Option.some.inj (hfound.symm.trans hspot), hopen] at hdrawn
    cases hdrawn
  refine ⟨⟨nofun, hundrawn⟩, ?_⟩
  intro hdue status _
  exact ⟨fun _ => maySettle_of_not_late hlate hclaim hpending hspot (hdue.imp_right And.left), hundrawn⟩

lemma proceeds_refresh (hbooks : Books db) (hlate : ¬ PromotesLate db claimId) :
    Proceeds cfg db (refreshClaimStatusFromConditions (installedPromoter cfg) db claimId).1 := by
  have hadmitted : ∀ claim spot, db.getClaim claimId = some claim → claim.status = .pending →
      db.getSpot claim.spotId = some spot → spot.isCompletedPrizedraw = false →
      RefreshAdmitted cfg solvencyPermit db claim spot :=
    fun _ _ hclaim hpending hspot hopen => refreshAdmitted_solvency hlate hclaim hpending hspot hopen
  cases refresh_admitted hadmitted with
  | inl hsame =>
    rw [hsame.1]
    exact .refl hbooks
  | inr hwrite => exact hwrite.1.proceeds hbooks

/-- A heartbeat decides a winner only when its position is answered for, or there is nothing to wait for. -/
lemma paid_of_settled (hsafe : ¬ SettlesUnpaidWinner cfg db claimId userId position accuracy) {claim : Claim P}
    {spot : Spot P} (hclaim : db.getClaim claimId = some claim) (howner : claim.recipient = userId)
    (hpending : claim.status = .pending) (hspot : db.getSpot claim.spotId = some spot)
    (hsettles : spot.claimDuration = 0 ∨
      ∃ check, getClaimDistanceCheck cfg db claim.spotId position accuracy = .ok (some check) ∧
        (nextScore claim.accuracy (durationClaimPenalty check.effectiveDistanceMetres check.radiusMetres) ≤ 0 ∨
          claim.claimedAt + spot.claimDuration ≤ db.now)) :
    ∀ found, db.getSpot claim.spotId = some found → found.isCompletedPrizedraw = true →
      db.hasConfirmedClaimPayoutTransaction claim.id = true := by
  intro found hfound hdrawn
  by_contra hunpaid
  have hsame : found = spot := Option.some.inj (hfound.symm.trans hspot)
  rw [hsame] at hdrawn
  rw [getClaim_id hclaim] at hunpaid
  exact hsafe ⟨claim.spotId, claim, spot, hdrawn, hclaim, rfl, howner, hpending, Bool.eq_false_of_not_eq_true hunpaid,
    hspot, hsettles⟩

lemma proceeds_heartbeat (hbooks : Books db) (hsafe : ¬ SettlesUnpaidWinner cfg db claimId userId position accuracy)
    (hlate : ¬ PromotesLate db claimId) :
    Proceeds cfg db (claimLocationHeartbeatApi cfg db claimId userId position accuracy) := by
  have hwrites : Proceeds cfg db (processDurationClaimLocationHeartbeat cfg (installedPromoter cfg) db claimId
      userId position accuracy).1 := by
    by_cases hquiet : ∃ claim spot, db.getClaim claimId = some claim ∧ db.getSpot claim.spotId = some spot ∧
        claim.recipient = userId ∧ claim.status = .pending ∧ spot.isCompletedPrizedraw = true ∧ spot.claimDuration ≠ 0 ∧
        ∀ check, getClaimDistanceCheck cfg db claim.spotId position accuracy ≠ .ok (some check)
    · obtain ⟨claim, spot, hclaim, hspot, howner, hpending, hdrawn, hduration, hnone⟩ := hquiet
      rw [heartbeat_unanswered hclaim howner hpending hspot hdrawn hduration hnone]
      exact .refl hbooks
    · apply ClaimWrites.proceeds hbooks
      apply heartbeat_admitted
      · exact fun _ _ hclaim _ hpending hspot hopen => refreshAdmitted_solvency hlate hclaim hpending hspot hopen
      · intro claim spot hclaim howner hpending hspot _
        have hpaid := @paid_of_settled _ cfg db _ _ _ _ hsafe claim spot hclaim howner hpending hspot
        have hmay := maySettle_of_not_late hlate hclaim hpending hspot
        refine ⟨?_, ?_, fun _ _ _ => trivial, ?_⟩
        · intro hzero _ _
          exact ⟨fun _ => hmay (.inl hzero), hpaid (.inl hzero)⟩
        · intro check hcheck hscore
          exact ⟨nofun, hpaid (.inr ⟨check, hcheck, .inl hscore⟩)⟩
        · intro hdue score status _
          refine ⟨fun _ => hmay (.inr hdue), ?_⟩
          intro found hfound hdrawn
          have hsame : found = spot := Option.some.inj (Eq.trans (Eq.symm hfound) hspot)
          by_cases hzero : spot.claimDuration = 0
          · exact hpaid (.inl hzero) found hfound hdrawn
          · -- without an answer the heartbeat would have written nothing
            obtain ⟨check, hcheck⟩ : ∃ check,
                getClaimDistanceCheck cfg db claim.spotId position accuracy = .ok (some check) := by
              by_contra hnone
              apply hquiet
              exact ⟨claim, spot, hclaim, hspot, howner, hpending, hsame ▸ hdrawn, hzero,
                fun check hcheck => hnone ⟨check, hcheck⟩⟩
            exact hpaid (.inr ⟨check, hcheck, .inr hdue⟩) found hfound hdrawn
  unfold claimLocationHeartbeatApi
  generalize processDurationClaimLocationHeartbeat cfg (installedPromoter cfg) db claimId userId position
    accuracy = outcome at hwrites
  obtain ⟨made, e | claim⟩ := outcome
  · dsimp only
    split_ifs
    · exact hwrites
    · exact .refl hbooks
  · exact hwrites

end Routes

section Jobs

variable {cfg : Settings P} {db : Db P}

/-- A failed payout was of the claim's share. -/
lemma latestFailed_share (hbooks : Books db) {claim : Claim P} {spot : Spot P} (hclaim : claim ∈ db.claims)
    (hspot : db.getSpot claim.spotId = some spot) (hbanned : spot.status ≠ .banned) {amount : ℕ}
    (hlatest : db.latestFailedClaimPayoutAmount claim.id = some amount) :
    amount = (db.account spot).share claim.id := by
  unfold Db.latestFailedClaimPayoutAmount at hlatest
  obtain ⟨t, hhead, hamount⟩ := Option.map_eq_some_iff.mp hlatest
  have hrow := List.mem_filter.mp (page_subset (List.mem_of_head? hhead))
  have hof := of_decide_eq_true hrow.2
  have hid := getSpot_id hspot
  have hplace : t.spotId = some spot.id := hid ▸ hbooks.sameSpot hrow.1 hof.2.1 hclaim hof.1
  have hmem : t ∈ (db.account spot).rows := List.mem_filter.mpr ⟨hrow.1, decide_eq_true hplace⟩
  obtain ⟨found, -, hclaimId, hshare⟩ := (hbooks.sound claim.spotId spot hspot).payouts hbanned t hmem hof.2.1
  rw [hof.1] at hclaimId
  rw [← hamount, hshare, ← Option.some.inj hclaimId]

/-- Whether it is the first payout or a retry, the account keeps enough for it. -/
lemma honours_reward (hbooks : Books db) {claim : Claim P} {spot : Spot P} (hclaim : claim ∈ db.claims)
    (hspot : db.getSpot claim.spotId = some spot) (hpayee : claim.id ∈ (db.account spot).payees) {amount : ℕ}
    (hamount : amount = (db.account spot).share claim.id ∨ db.latestFailedClaimPayoutAmount claim.id = some amount) :
    db.Honours claim.spotId (.reward claim.id amount) := by
  refine ⟨spot, hspot, fun hbanned => ⟨hpayee, ?_⟩⟩
  cases hamount with
  | inl hshare => exact hshare
  | inr hlatest => exact latestFailed_share hbooks hclaim hspot hbanned hlatest

lemma payoutJobOf_amount {amounts : List (ℕ × ℕ)} {claim : Claim P} {job : PayoutJob}
    (hjob : payoutJobOf db amounts claim = some job) :
    job.amount = (amounts.lookup claim.id).getD 0 ∨ db.latestFailedClaimPayoutAmount claim.id = some job.amount := by
  unfold payoutJobOf at hjob
  dsimp only at hjob
  split_ifs at hjob
  rw [← Option.some.inj hjob]
  cases db.latestFailedClaimPayoutAmount claim.id with
  | none => exact .inl rfl
  | some failed =>
    cases failed with
    | zero => exact .inl rfl
    | succ n => exact .inr rfl

/-- A payout pass decides the prizes of the winners. -/
lemma honours_prizeJob (hbooks : Books db) {spotId : ℕ} {job : PayoutJob}
    (hjob : job ∈ (retryPendingPrizedrawPayoutsForSpot db spotId).2) :
    ∃ claim, db.getClaim job.claimId = some claim ∧ db.Honours claim.spotId (.reward job.claimId job.amount) := by
  obtain ⟨spot, claim, hspot, hdrawn, hclaim, hid, hof, hpending⟩ := claim_of_prizeJob hjob
  have hget : db.getClaim job.claimId = some claim :=
    (Db.getClaim_eq_some hbooks.numbered.keyed).mpr ⟨hclaim, hid⟩
  refine ⟨claim, hget, ?_⟩
  have hcompleted : spot.status = .completed ∧ spot.prizeCount.isSome = true := of_decide_eq_true hdrawn
  have hprizedraw : spot.prizeCount ≠ none := Option.isSome_iff_ne_none.mp hcompleted.2
  have hspotId := getSpot_id hspot
  have hwinner : claim.id ∈ db.getPrizedrawWinnerClaimIds spot.id :=
    mem_winnerIds.mpr (.inl ⟨claim, hclaim, rfl, hof.trans hspotId.symm, hpending⟩)
  have hpositive : ∀ id ∈ db.getPrizedrawWinnerClaimIds spot.id, 0 < id := by
    intro id hmem
    rcases mem_winnerIds.mp hmem with ⟨c, hc, hcid, -, -⟩ | ⟨t, ht, hclaimId, -, htype⟩
    · rw [← hcid]
      exact (hbooks.numbered.keyed.claimFresh c hc).1
    · obtain ⟨c, hc, hcid, -⟩ := hbooks.booked t ht htype
      rw [Option.some.inj (hclaimId.symm.trans hcid)]
      exact (hbooks.numbered.keyed.claimFresh c hc).1
  have hdecided : payoutJobOf db (prizeAmountsByClaimId spot.totalValue (db.getPrizedrawWinnerClaimIds spot.id)) claim =
      some job := by
    unfold retryPendingPrizedrawPayoutsForSpot at hjob
    rw [hspot] at hjob
    dsimp only at hjob
    rw [if_neg (not_not_intro hcompleted.1), if_neg (by simpa using hprizedraw)] at hjob
    obtain ⟨found, hfound, hmade⟩ := List.mem_filterMap.mp hjob
    have hpage : found ∈ db.getPendingClaimsForSpot spotId := (List.perm_insertionSort _ _).mem_iff.mp hfound
    have hmem : found ∈ db.claims := (List.mem_filter.mp (page_subset hpage)).1
    have hsame : found = claim :=
      eq_of_key_eq hbooks.numbered.keyed.claimKeys hmem hclaim ((claimId_of_payoutJobOf hmade).trans hid.symm)
    rw [← hsame, hspotId]
    exact hmade
  have hshare : (db.account spot).share claim.id =
      prizeShare spot.totalValue (db.getPrizedrawWinnerClaimIds spot.id) claim.id := by
    unfold Db.account
    simp only [if_neg hprizedraw, if_pos hcompleted.1]
  rw [← hid]
  apply honours_reward hbooks hclaim (hof ▸ hspot)
  · unfold Db.account
    simp only [if_neg hprizedraw, if_pos hcompleted.1, List.mem_toFinset]
    exact hwinner
  · have hamount := payoutJobOf_amount hdecided
    rw [lookup_prizeAmountsByClaimId _ (sorted_winnerIds db spot.id) hpositive hwinner] at hamount
    rw [hshare]
    exact hamount

/-- A successful claim of a standard Spot is paid its part. -/
lemma honours_rewardJob (hbooks : Books db) {claimId : ℕ} {job : PayoutJob}
    (hjob : payoutStandardClaimIfReady db claimId = some job) :
    ∃ claim, db.getClaim job.claimId = some claim ∧ db.Honours claim.spotId (.reward job.claimId job.amount) := by
  obtain ⟨spot, claim, hclaim, hid, hspot, hstandard, hsuccess⟩ := claim_of_rewardJob hjob
  have hfound := getClaim_id hclaim
  have hmem : claim ∈ db.claims := List.mem_of_find?_eq_some hclaim
  have hkind : spot.prizeCount = none := by simpa using hstandard
  refine ⟨claim, by rw [← hid, hfound]; exact hclaim, ?_⟩
  have hshare : (db.account spot).share claim.id = standardClaimPayoutAmount spot := by
    unfold Db.account
    simp only [if_pos hkind]
  have hamount : job.amount = standardClaimPayoutAmount spot ∨
      db.latestFailedClaimPayoutAmount claim.id = some job.amount := by
    unfold payoutStandardClaimIfReady at hjob
    rw [hclaim] at hjob
    dsimp only at hjob
    rw [if_neg (not_not_intro hsuccess), hspot] at hjob
    dsimp only at hjob
    split_ifs at hjob
    rw [← Option.some.inj hjob, hfound]
    cases db.latestFailedClaimPayoutAmount claimId with
    | none => exact .inl rfl
    | some failed =>
      cases failed with
      | zero => exact .inl rfl
      | succ n => exact .inr rfl
  rw [← hid]
  apply honours_reward hbooks hmem hspot
  · unfold Db.account
    simp only [if_pos hkind]
    exact mem_successIds.mpr ⟨claim, hmem, rfl, (getSpot_id hspot).symm, hsuccess⟩
  · rw [hshare]
    exact hamount

/-- The row a confirmation begins with is still read as the chain shows it. -/
lemma stillRead_of_mem {row : Trans} (hrow : row ∈ db.trans) : StillRead cfg db row :=
  ⟨row, hrow, rfl, rfl, fun _ hverified => ⟨(verifiedTransfer_chain hverified).2.1, (verifiedTransfer_chain hverified).2.2⟩⟩

end Jobs

end NimHunt
