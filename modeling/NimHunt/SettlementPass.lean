import NimHunt.TransUpdater

/-!
# The queues of a settlement pass

`settlement_updater.py`: the recovery of unpaid standard claims and the refund of what finished Spots
have left.  Both read their queue from its head with a limit and attempt every item of the batch.
-/

namespace NimHunt

open Lib

variable {P : Type}

/-- What the rest of the world decides about one pass: which payouts the gates around the submitter
hold back, the hashes sends are recorded under, the addresses refunds resolve to, and what the chain
has answered about each PENDING row when the next pass begins, `elapsed` seconds later. -/
structure PassEnvironment where
  held : ℕ → Bool
  payoutHash : ℕ → String
  refundAddress : ℕ → Option Address
  refundHash : ℕ → String
  answer : ℕ → Option TransStatus
  elapsed : ℕ

namespace Db

/-- SUCCESS claims of standard Spots without an active or confirmed payout, of every Spot. -/
def unpaidSuccessfulStandardClaims (db : Db P) : List (Claim P) :=
  db.claims.filter fun c => c.status = .success ∧ db.isPrizedraw c.spotId = false ∧
    db.hasNonfailedClaimPayoutTransaction c.id = false

def unpaidClaimQueue (db : Db P) : List ℕ :=
  (db.unpaidSuccessfulStandardClaims.insertionSort Claim.Earlier).map Claim.id

/-- `get_unpaid_successful_standard_claim_ids` of every Spot, whose offset no caller gives. -/
def getUnpaidSuccessfulStandardClaimIds (db : Db P) (limit : ℕ) : List ℕ :=
  db.unpaidClaimQueue.take (clampLimit limit)

/-- The `WHERE` clause of the remainder queue. -/
def readyForRemainderRefund (db : Db P) (spot : Spot P) : Bool :=
  spot.cancellationStartedAt = none ∧ db.countClaimsByStatusForSpot spot.id .pending = 0 ∧
    db.remainderSettled spot.id = false ∧
    (spot.status = .completed ∨
      (spot.status = .published ∧ spot.prizeCount = none ∧ db.spotIsTerminal spot = true))

def remainderQueue (db : Db P) : List ℕ :=
  ((db.spots.filter db.readyForRemainderRefund).map Spot.id).insertionSort (· ≤ ·)

/-- `get_spot_ids_ready_for_remainder_refund`. -/
def getSpotIdsReadyForRemainderRefund (db : Db P) (limit : ℕ) : List ℕ :=
  db.remainderQueue.take (clampLimit limit)

end Db

/-- `payout_standard_claim_if_ready` of one claim of the batch. -/
def attemptStandardPayout (cfg : Settings P) (env : PassEnvironment) (db : Db P) (claimId : ℕ) : Db P :=
  match payoutStandardClaimIfReady db claimId with
  | none => db
  | some job =>
    if env.held claimId then db else (submitClaimRewardTransaction cfg db job (env.payoutHash claimId)).1

/-- `retry_unpaid_standard_claim_payouts`. -/
def retryUnpaidStandardClaimPayouts (cfg : Settings P) (env : PassEnvironment) (db : Db P) (maxClaims : ℕ) :
    Db P :=
  (db.getUnpaidSuccessfulStandardClaimIds maxClaims).foldl (attemptStandardPayout cfg env) db

/-- `settle_spot_remainder_if_ready` of one Spot of the batch. -/
def attemptRemainderRefund (cfg : Settings P) (env : PassEnvironment) (db : Db P) (spotId : ℕ) : Db P :=
  match settleSpotRemainderIfReady cfg db spotId with
  | (db, .prepared job) =>
    match env.refundAddress spotId with
    | none => db
    | some refundAddress =>
      if remainderRefundAllowed db spotId then
        (submitSpotRemainderRefundTransaction cfg db spotId job.amount refundAddress (env.refundHash spotId)).1
      else db
  | (db, _) => db

/-- `settle_spot_remainders`. -/
def settleSpotRemainders (cfg : Settings P) (env : PassEnvironment) (db : Db P) (maxSpots : ℕ) : Db P :=
  (db.getSpotIdsReadyForRemainderRefund maxSpots).foldl (attemptRemainderRefund cfg env) db

/-- A PENDING row once the chain has answered. -/
def Trans.answered (answer : ℕ → Option TransStatus) (t : Trans) : Trans :=
  if t.status = .pending then { t with status := (answer t.id).getD .pending } else t

/-- The two recoveries of a settlement pass, and what happens until the next one. -/
def settlementPass (cfg : Settings P) (env : PassEnvironment) (maxClaims maxSpots : ℕ) (db : Db P) : Db P :=
  let db := settleSpotRemainders cfg env (retryUnpaidStandardClaimPayouts cfg env db maxClaims) maxSpots
  { db with now := db.now + env.elapsed, trans := db.trans.map (Trans.answered env.answer) }

end NimHunt
