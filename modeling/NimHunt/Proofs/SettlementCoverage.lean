import NimHunt.Lib.Polling
import NimHunt.Proofs.PollingCoverage
import NimHunt.SettlementPass

/-!
# Which items the settlement passes reach

A payout only adds a payout row of its own claim, and a remainder refund only touches its own Spot, so
an item that no pass attempts stays where it is in its queue.
-/

namespace NimHunt

open Lib

variable {P : Type}

instance : Std.Total (Claim.Earlier : Claim P → Claim P → Prop) := ⟨fun a b => by unfold Claim.Earlier; omega⟩

instance : IsTrans (Claim P) Claim.Earlier := ⟨fun a b c => by unfold Claim.Earlier; omega⟩

section Attempts

variable {cfg : Settings P} {env : PassEnvironment} {db db' db'' : Db P} {spotIds : List ℕ}

lemma payoutStandardClaimIfReady_claimId {claimId : ℕ} {job : PayoutJob}
    (h : payoutStandardClaimIfReady db claimId = some job) : job.claimId = claimId := by
  unfold payoutStandardClaimIfReady at h
  cases hclaim : db.getClaim claimId with
  | none => simp [hclaim] at h
  | some claim =>
    rw [hclaim] at h
    dsimp only at h
    by_cases hstatus : claim.status ≠ .success
    · simp [hstatus] at h
    · rw [if_neg hstatus] at h
      cases hspot : db.getSpot claim.spotId with
      | none => simp [hspot] at h
      | some spot =>
        rw [hspot] at h
        dsimp only at h
        split_ifs at h
        exact (congrArg PayoutJob.claimId (Option.some.inj h)).symm

lemma attemptStandardPayout_appends (claimId : ℕ) :
    AppendsTrans (fun t => t.type = .claim ∧ t.claimId = some claimId) db
      (attemptStandardPayout cfg env db claimId) := by
  unfold attemptStandardPayout
  cases hready : payoutStandardClaimIfReady db claimId with
  | none => exact .refl _ db
  | some job =>
    dsimp only
    split_ifs
    · exact .refl _ db
    · have hjob : job.claimId = claimId := payoutStandardClaimIfReady_claimId hready
      rw [← hjob]
      exact submitClaimRewardTransaction_appends job _

/-- Remainder refunds of the Spots `spotIds` have been attempted: nothing else has changed. -/
structure RemaindersAttempted (spotIds : List ℕ) (db db' : Db P) : Prop where
  now : db'.now = db.now
  claims : db'.claims = db.claims
  spotKeys : db'.spots.map Spot.id = db.spots.map Spot.id
  spots : ∀ spotId ∉ spotIds, db'.getSpot spotId = db.getSpot spotId
  prizes : ∀ spotId, db'.isPrizedraw spotId = db.isPrizedraw spotId
  settled : ∀ spotId ∉ spotIds, db'.remainderSettled spotId = db.remainderSettled spotId
  trans : ∃ rows, db'.trans = db.trans ++ rows ∧ ∀ t ∈ rows, t.type = .remainderRefund

lemma RemaindersAttempted.refl (spotIds : List ℕ) (db : Db P) : RemaindersAttempted spotIds db db :=
  ⟨rfl, rfl, rfl, fun _ _ => rfl, fun _ => rfl, fun _ _ => rfl, [], by simp⟩

lemma RemaindersAttempted.then (h : RemaindersAttempted spotIds db db') (h' : RemaindersAttempted spotIds db' db'') :
    RemaindersAttempted spotIds db db'' := by
  obtain ⟨rows, htrans, hrows⟩ := h.trans
  obtain ⟨rows', htrans', hrows'⟩ := h'.trans
  refine ⟨h'.now.trans h.now, h'.claims.trans h.claims, h'.spotKeys.trans h.spotKeys,
    fun id hid => (h'.spots id hid).trans (h.spots id hid), fun id => (h'.prizes id).trans (h.prizes id),
    fun id hid => (h'.settled id hid).trans (h.settled id hid), rows ++ rows', ?_, ?_⟩
  · rw [htrans', htrans, List.append_assoc]
  · intro t ht
    rcases List.mem_append.mp ht with ht | ht
    · exact hrows t ht
    · exact hrows' t ht

lemma RemaindersAttempted.of_appends {spotId : ℕ} (h : AppendsTrans (IsLegOf .remainderRefund spotId) db db') :
    RemaindersAttempted spotIds db db' := by
  obtain ⟨rows, seq, rfl, hrows⟩ := h
  exact ⟨rfl, rfl, rfl, fun _ _ => rfl, fun _ => rfl, fun _ _ => rfl, rows, rfl, fun t ht => (hrows t ht).1⟩

lemma getSpot_modifySpotStatus (spotId id : ℕ) (status : SpotStatus) :
    (db.modifySpotStatus spotId status).getSpot id =
      (db.getSpot id).map fun s => if s.id = spotId then { s with status := status } else s := by
  have hkey : ∀ s : Spot P, Spot.id { s with status := status } = Spot.id s := fun _ => rfl
  refine (find?_updateWhere_key hkey id).trans ?_
  simp only [decide_eq_true_eq]
  rfl

lemma modifySpotStatus_attempted {spotId : ℕ} (hspot : spotId ∈ spotIds) (status : SpotStatus) :
    RemaindersAttempted spotIds db (db.modifySpotStatus spotId status) := by
  refine ⟨rfl, rfl, map_updateWhere fun _ => rfl, fun id hid => ?_, fun id => ?_, fun _ _ => rfl, [], by simp [Db.modifySpotStatus], by simp⟩
  · rw [getSpot_modifySpotStatus]
    cases hget : db.getSpot id with
    | none => rfl
    | some s =>
      have hsid := getSpot_id hget
      have hne : s.id ≠ spotId := fun heq => hid (by rwa [← hsid, heq])
      simp [hne]
  · unfold Db.isPrizedraw
    rw [getSpot_modifySpotStatus]
    cases db.getSpot id with
    | none => rfl
    | some s =>
      dsimp only [Option.map_some]
      split_ifs <;> rfl

lemma settleSpotRemainderIfReady_attempted {spotId : ℕ} (hspot : spotId ∈ spotIds) :
    RemaindersAttempted spotIds db (settleSpotRemainderIfReady cfg db spotId).1 := by
  unfold settleSpotRemainderIfReady
  cases hget : db.getSpot spotId with
  | none => exact .refl _ db
  | some spot =>
    have hid := getSpot_id hget
    dsimp only
    generalize db.getTransactionsBySpot spotId maxLimit = transactions
    split_ifs
    · exact .refl _ db
    · exact .refl _ db
    · exact .refl _ db
    · exact .refl _ db
    · exact .refl _ db
    · exact .refl _ db
    · exact .refl _ db
    · unfold settleRemainderFromLedger
      by_cases hblocked : transactions.any Trans.blocksRemainder = true
      · rw [if_pos hblocked]
        exact .refl _ db
      · rw [if_neg hblocked]
        by_cases hfee : total .creationFee .confirmed transactions < spot.creationFee
        · rw [if_pos hfee]
          exact .refl _ db
        · rw [if_neg hfee]
          dsimp only
          have hcompleted : ∀ b : Bool, RemaindersAttempted spotIds db
              (if b then db.modifySpotStatus spot.id .completed else db) := by
            intro b
            cases b with
            | false => exact .refl _ db
            | true => exact modifySpotStatus_attempted (hid ▸ hspot) .completed
          have hdone := hcompleted (spot.status = .published)
          generalize (if decide (spot.status = .published) = true then db.modifySpotStatus spot.id .completed
            else db) = completed at hdone ⊢
          split
          · refine hdone.then ⟨rfl, rfl, rfl, fun _ _ => rfl, fun _ => rfl, fun id hne => ?_, [], by simp, by simp⟩
            have hother : id ≠ spot.id := fun heq => hne (by rwa [heq, hid])
            exact Function.update_of_ne hother _ _
          · split
            · exact hdone
            · exact hdone

lemma attemptRemainderRefund_attempted {spotId : ℕ} (hspot : spotId ∈ spotIds) :
    RemaindersAttempted spotIds db (attemptRemainderRefund cfg env db spotId) := by
  have hsettle : RemaindersAttempted spotIds db (settleSpotRemainderIfReady cfg db spotId).1 :=
    settleSpotRemainderIfReady_attempted hspot
  unfold attemptRemainderRefund
  generalize settleSpotRemainderIfReady cfg db spotId = outcome at hsettle
  obtain ⟨db', result⟩ := outcome
  cases result with
  | refused reason => exact hsettle
  | deferred reason => exact hsettle
  | noRemainder => exact hsettle
  | prepared job =>
    dsimp only at hsettle ⊢
    cases env.refundAddress spotId with
    | none => exact hsettle
    | some refundAddress =>
      dsimp only
      split_ifs
      · exact hsettle.then (.of_appends (submitSpotRemainderRefundTransaction_appends _ _ _ _))
      · exact hsettle

lemma foldl_attemptRemainderRefund {ids : List ℕ} (hids : ∀ id ∈ ids, id ∈ spotIds) :
    RemaindersAttempted spotIds db (ids.foldl (attemptRemainderRefund cfg env) db) := by
  induction ids generalizing db with
  | nil => exact .refl _ db
  | cons id ids ih =>
    have hhead : RemaindersAttempted spotIds db (attemptRemainderRefund cfg env db id) :=
      attemptRemainderRefund_attempted (hids id List.mem_cons_self)
    exact hhead.then (ih fun j hj => hids j (List.mem_cons_of_mem id hj))

variable (cfg env db) in
lemma retryUnpaidStandardClaimPayouts_appends (maxClaims : ℕ) :
    AppendsTrans (fun t => t.type = .claim ∧ ∃ id ∈ db.getUnpaidSuccessfulStandardClaimIds maxClaims, t.claimId = some id)
      db (retryUnpaidStandardClaimPayouts cfg env db maxClaims) := by
  refine AppendsTrans.foldl _ fun id hid db => ?_
  exact (attemptStandardPayout_appends id).mono fun t ht => ⟨ht.1, id, hid, ht.2⟩

end Attempts

section Pass

variable {cfg : Settings P} {env : PassEnvironment} {maxClaims maxSpots : ℕ} {db : Db P}

/-- What one pass does to the tables the queues are read from. -/
structure PassFrame (env : PassEnvironment) (claimIds spotIds : List ℕ) (db db' : Db P) : Prop where
  now : db.now ≤ db'.now
  claims : db'.claims = db.claims
  spotKeys : db'.spots.map Spot.id = db.spots.map Spot.id
  spots : ∀ spotId ∉ spotIds, db'.getSpot spotId = db.getSpot spotId
  prizes : ∀ spotId, db'.isPrizedraw spotId = db.isPrizedraw spotId
  settled : ∀ spotId ∉ spotIds, db'.remainderSettled spotId = db.remainderSettled spotId
  trans : ∃ rows, db'.trans = (db.trans ++ rows).map (Trans.answered env.answer) ∧
    ∀ t ∈ rows, t.type = .claim → ∃ id ∈ claimIds, t.claimId = some id

lemma remainderBatch_retry :
    (retryUnpaidStandardClaimPayouts cfg env db maxClaims).getSpotIdsReadyForRemainderRefund maxSpots =
      db.getSpotIdsReadyForRemainderRefund maxSpots := by
  obtain ⟨rows, seq, hretry, -⟩ := retryUnpaidStandardClaimPayouts_appends cfg env db maxClaims
  rw [hretry]
  rfl

lemma settlementPass_frame :
    PassFrame env (db.getUnpaidSuccessfulStandardClaimIds maxClaims) (db.getSpotIdsReadyForRemainderRefund maxSpots)
      db (settlementPass cfg env maxClaims maxSpots db) := by
  obtain ⟨paid, seq, hretry, hpaid⟩ := retryUnpaidStandardClaimPayouts_appends cfg env db maxClaims
  have hbatch : (retryUnpaidStandardClaimPayouts cfg env db maxClaims).getSpotIdsReadyForRemainderRefund maxSpots =
      db.getSpotIdsReadyForRemainderRefund maxSpots := remainderBatch_retry
  have hsettle : RemaindersAttempted (db.getSpotIdsReadyForRemainderRefund maxSpots)
      (retryUnpaidStandardClaimPayouts cfg env db maxClaims)
      (settleSpotRemainders cfg env (retryUnpaidStandardClaimPayouts cfg env db maxClaims) maxSpots) := by
    rw [settleSpotRemainders, hbatch]
    exact foldl_attemptRemainderRefund fun _ hid => hid
  obtain ⟨refunds, htrans, hrefunds⟩ := hsettle.trans
  rw [hretry] at hsettle htrans
  unfold settlementPass
  rw [hretry]
  refine ⟨?_, hsettle.claims, hsettle.spotKeys, hsettle.spots, hsettle.prizes, hsettle.settled, paid ++ refunds, ?_, ?_⟩
  · have hnow : _ = db.now := hsettle.now
    dsimp only
    rw [hnow]
    exact Nat.le_add_right _ _
  · dsimp only
    rw [htrans, List.append_assoc]
  · intro t ht htype
    rcases List.mem_append.mp ht with ht | ht
    · exact (hpaid t ht).2
    · rw [hrefunds t ht] at htype
      cases htype

end Pass

/-- Consecutive settlement passes over a database with its primary keys, with no new unpaid claims and
no newly ready Spots.  An attempt in pass `k` leaves the claims of `claimStays k` unpaid, whether the
payout is held back or fails, and the Spots of `spotStays k` with their refund deferred. -/
structure SettlementRun (cfg : Settings P) (maxClaims maxSpots : ℕ) (claimStays spotStays : ℕ → ℕ → Bool)
    (env : ℕ → PassEnvironment) (db : ℕ → Db P) : Prop where
  keyed : (db 0).Keyed
  pass : ∀ k, db (k + 1) = settlementPass cfg (env k) maxClaims maxSpots (db k)
  noNewClaims : ∀ k, ∀ id ∈ (db (k + 1)).unpaidClaimQueue, id ∈ (db k).unpaidClaimQueue
  noNewSpots : ∀ k, ∀ id ∈ (db (k + 1)).remainderQueue, id ∈ (db k).remainderQueue
  held : ∀ k id, (env k).held id = true → claimStays k id = true
  claims : ∀ k, ∀ id ∈ (db k).getUnpaidSuccessfulStandardClaimIds maxClaims,
    id ∈ (db (k + 1)).unpaidClaimQueue ↔ claimStays k id = true
  spots : ∀ k, ∀ id ∈ (db k).getSpotIdsReadyForRemainderRefund maxSpots,
    id ∈ (db (k + 1)).remainderQueue ↔ spotStays k id = true

section Run

variable {cfg : Settings P} {maxClaims maxSpots : ℕ} {claimStays spotStays : ℕ → ℕ → Bool}
  {env : ℕ → PassEnvironment} {db : ℕ → Db P}

lemma SettlementRun.frame (hrun : SettlementRun cfg maxClaims maxSpots claimStays spotStays env db) (k : ℕ) :
    PassFrame (env k) ((db k).getUnpaidSuccessfulStandardClaimIds maxClaims)
      ((db k).getSpotIdsReadyForRemainderRefund maxSpots) (db k) (db (k + 1)) := by
  rw [hrun.pass k]
  exact settlementPass_frame

lemma SettlementRun.keys (hrun : SettlementRun cfg maxClaims maxSpots claimStays spotStays env db) (k : ℕ) :
    ((db k).claims.map Claim.id).Nodup ∧ ((db k).spots.map Spot.id).Nodup := by
  induction k with
  | zero => exact ⟨hrun.keyed.claimKeys, hrun.keyed.spotKeys⟩
  | succ k ih =>
    have hframe := hrun.frame k
    rw [hframe.claims, hframe.spotKeys]
    exact ih

end Run

section HeldClaim

end HeldClaim

end NimHunt
