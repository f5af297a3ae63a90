import NimHunt.DbAccess.ClaimStatus
import NimHunt.DbAccess.Ledger

/-!
# Settlement

`settlement_updater.py`: the Prizedraw draw and its payout jobs, the standard payout, and the refund
of what a finished Spot has left.  A flow that decides in one transaction and sends later is split
there: what it carries over is the returned job.
-/

namespace NimHunt

open Lib

variable {P : Type}

/-- `ORDER BY claimed_at ASC, id ASC`. -/
def Claim.Earlier (a b : Claim P) : Prop :=
  a.claimedAt < b.claimedAt ∨ a.claimedAt = b.claimedAt ∧ a.id ≤ b.id

instance : DecidableRel (Claim.Earlier (P := P)) := fun a b =>
  inferInstanceAs (Decidable (a.claimedAt < b.claimedAt ∨ a.claimedAt = b.claimedAt ∧ a.id ≤ b.id))

def Spot.absoluteEndsAt (spot : Spot P) : Option ℕ := spot.startsAt.map fun startsAt => startsAt + spot.endsAt

namespace Db

def getClaimsByStatusForSpot (db : Db P) (spotId : ℕ) (status : ClaimStatus) (limit : ℕ) : List (Claim P) :=
  page Claim.Earlier (clampLimit limit) (db.claims.filter fun c => c.spotId = spotId ∧ c.status = status)

def getSuccessfulClaimsForSpot (db : Db P) (spotId : ℕ) : List (Claim P) :=
  db.getClaimsByStatusForSpot spotId .success maxLimit

def getPendingClaimsForSpot (db : Db P) (spotId : ℕ) : List (Claim P) :=
  db.getClaimsByStatusForSpot spotId .pending maxLimit

/-- `mark_prizedraw_winners_pending`: how many rows the update changed is its answer. -/
def markPrizedrawWinnersPending (db : Db P) (spotId : ℕ) (winnerClaimIds : List ℕ) : Db P × ℕ :=
  let sel : Claim P → Bool := fun c => c.spotId = spotId ∧ c.status = .success ∧ c.id ∈ winnerClaimIds ∧ 0 < c.id
  (db.updateClaimStatus sel .pending, db.claims.countP sel)

/-- The persisted winners: PENDING claims and claims that ever had a payout row, by id. -/
def getPrizedrawWinnerClaimIds (db : Db P) (spotId : ℕ) : List ℕ :=
  let pending := (db.claims.filter fun c => c.spotId = spotId ∧ c.status = .pending).map Claim.id
  let paid := (db.trans.filter fun t => t.spotId = some spotId ∧ t.type = .claim).filterMap Trans.claimId
  (pending ++ paid).dedup.insertionSort (· ≤ ·)

/-- Why a Prizedraw is ready, if it is. -/
def settlementReadyReason (db : Db P) (spot : Spot P) : Option String :=
  let entries := db.countClaimsByStatusForSpot spot.id .pending + db.countClaimsByStatusForSpot spot.id .success
  if 0 < spot.maxTotalClaims ∧ spot.maxTotalClaims ≤ entries then some "capacity_reached"
  else match spot.absoluteEndsAt with
    | some endsAt => if endsAt ≤ db.now then some "spot_ended" else none
    | none => none

end Db

/-- `random.SystemRandom().sample`, as the draw calls it. -/
abbrev Sampler (P : Type) := List (Claim P) → ℕ → List (Claim P)

structure SettlementResult where
  settled : Bool
  reason : String
  failedPendingCount : ℕ := 0
  eligibleClaimCount : ℕ := 0
  winnerClaimIds : List ℕ := []
  deriving DecidableEq, Repr

/-- The draw of one ready Spot, inside its open transaction. -/
def drawPrizedraw (sample : Sampler P) (db : Db P) (spot : Spot P) (prizeCount : ℕ) (reason : String) :
    Outcome P SettlementResult :=
  let failedPendingCount := db.countClaimsByStatusForSpot spot.id .pending
  let db := db.failPendingClaimsForSpot spot.id
  let successfulClaims := db.getSuccessfulClaimsForSpot spot.id
  let winnerCount := min (max 1 prizeCount) successfulClaims.length
  let winners := if 0 < winnerCount then sample successfulClaims winnerCount else []
  let winnerClaimIds := (winners.map Claim.id).insertionSort (· ≤ ·)
  let persisted := db.markPrizedrawWinnersPending spot.id winnerClaimIds
  if persisted.2 ≠ winnerClaimIds.length then
    (persisted.1, .error (.runtimeError "not all selected Prizedraw winners were persisted"))
  else
    (persisted.1.modifySpotStatus spot.id .completed,
      .ok ⟨true, reason, failedPendingCount, successfulClaims.length, winnerClaimIds⟩)

/-- `settle_prizedraw_spot_if_ready` up to the commit of the draw. -/
def settlePrizedrawSpotIfReady (sample : Sampler P) (db : Db P) (spotId : ℕ) : Outcome P SettlementResult :=
  match db.getSpot spotId with
  | none => (db, .ok ⟨false, "spot_missing", 0, 0, []⟩)
  | some spot =>
    if spot.status ≠ .published then (db, .ok ⟨false, "not_published", 0, 0, []⟩)
    else match spot.prizeCount with
      | none => (db, .ok ⟨false, "not_prizedraw", 0, 0, []⟩)
      | some prizeCount =>
        match db.settlementReadyReason spot with
        | none => (db, .ok ⟨false, "not_ready", 0, 0, []⟩)
        | some reason => (drawPrizedraw sample db spot prizeCount reason).orRollback db

/-- `_prize_amounts`: an equal share, and the indivisible rest to the first. -/
def prizeAmounts (totalValue winnerCount : ℕ) : List ℕ :=
  match winnerCount with
  | 0 => []
  | n + 1 => (totalValue / (n + 1) + totalValue % (n + 1)) :: List.replicate n (totalValue / (n + 1))

def prizeAmountsByClaimId (totalValue : ℕ) (winnerClaimIds : List ℕ) : List (ℕ × ℕ) :=
  let cleanIds := ((winnerClaimIds.filter (0 < ·)).dedup).insertionSort (· ≤ ·)
  cleanIds.zip (prizeAmounts totalValue cleanIds.length)

/-- A payout to submit: the claim and its amount. -/
structure PayoutJob where
  claimId : ℕ
  amount : ℕ
  deriving DecidableEq, Repr

/-- What a payout retry does about one PENDING winner. -/
def payoutJobOf (db : Db P) (amountByClaimId : List (ℕ × ℕ)) (claim : Claim P) : Option PayoutJob :=
  if db.hasConfirmedClaimPayoutTransaction claim.id then none
  else if db.hasNonfailedClaimPayoutTransaction claim.id then none
  else
    let share := (amountByClaimId.lookup claim.id).getD 0
    let amount := match db.latestFailedClaimPayoutAmount claim.id with
      | none | some 0 => share
      | some failed => failed
    if amount = 0 then none else some ⟨claim.id, amount⟩

/-- A winner whose payout confirmed leaves PENDING for SUCCESS. -/
def recordPaidWinner (db : Db P) (claim : Claim P) : Db P :=
  if db.hasConfirmedClaimPayoutTransaction claim.id then db.setClaimStatusToSuccess claim.id else db

/-- `retry_pending_prizedraw_payouts_for_spot` up to its commit. -/
def retryPendingPrizedrawPayoutsForSpot (db : Db P) (spotId : ℕ) : Db P × List PayoutJob :=
  match db.getSpot spotId with
  | none => (db, [])
  | some spot =>
    if spot.status ≠ .completed then (db, [])
    else if spot.prizeCount.isNone then (db, [])
    else
      let pendingWinners := (db.getPendingClaimsForSpot spotId).insertionSort fun a b => a.id ≤ b.id
      let amountByClaimId :=
        prizeAmountsByClaimId spot.totalValue (db.getPrizedrawWinnerClaimIds spotId)
      (pendingWinners.foldl recordPaidWinner db, pendingWinners.filterMap (payoutJobOf db amountByClaimId))

/-- `_standard_claim_payout_amount`. -/
def standardClaimPayoutAmount (spot : Spot P) : ℕ :=
  if spot.maxTotalClaims = 0 then 0 else spot.totalValue / spot.maxTotalClaims

/-- `payout_standard_claim_if_ready` up to the call of the submitter. -/
def payoutStandardClaimIfReady (db : Db P) (claimId : ℕ) : Option PayoutJob :=
  match db.getClaim claimId with
  | none => none
  | some claim =>
    if claim.status ≠ .success then none
    else match db.getSpot claim.spotId with
      | none => none
      | some spot =>
        if spot.prizeCount.isSome then none
        else if db.hasNonfailedClaimPayoutTransaction claimId then none
        else
          let amount := match db.latestFailedClaimPayoutAmount claimId with
            | none | some 0 => standardClaimPayoutAmount spot
            | some failed => failed
          if amount = 0 then none else some ⟨claimId, amount⟩

/-- What a Spot has left after its claims, its creation fee and earlier refunds. -/
def remainderAmount (transactions : List Trans) : ℕ :=
  total .fillSpot .confirmed transactions - total .claim .confirmed transactions -
    total .creationFee .confirmed transactions - total .remainderRefund .confirmed transactions

/-- The rows the remainder refund waits for. -/
def Trans.blocksRemainder (t : Trans) : Bool :=
  t.status = .pending ∧
    (t.type = .fillSpot ∨ t.type = .claim ∨ t.type = .creationFee ∨ t.type = .remainderRefund)

structure RemainderJob where
  spotId : ℕ
  amount : ℕ
  refundAddress : Address
  sourceTxHash : String
  deriving DecidableEq, Repr

inductive RemainderResult
  | refused (reason : String)
  | deferred (reason : String)
  | noRemainder
  | prepared (job : RemainderJob)
  deriving DecidableEq, Repr

/-- A PUBLISHED standard Spot whose period ended or whose last place is taken. -/
def Db.spotIsTerminal (db : Db P) (spot : Spot P) : Bool :=
  (match spot.absoluteEndsAt with
    | some endsAt => decide (endsAt ≤ db.now)
    | none => false) ||
  decide (0 < spot.maxTotalClaims ∧ spot.maxTotalClaims ≤ db.countClaimsByStatusForSpot spot.id .success)

/-- The part of the remainder decision that reads the ledger. -/
def settleRemainderFromLedger (cfg : Settings P) (db : Db P) (spot : Spot P) (shouldComplete : Bool)
    (transactions : List Trans) : Db P × RemainderResult :=
  if transactions.any Trans.blocksRemainder then (db, .deferred "financial_transaction_pending")
  else if total .creationFee .confirmed transactions < spot.creationFee then
    (db, .deferred "creation_fee_unconfirmed")
  else
    let db := if shouldComplete then db.modifySpotStatus spot.id .completed else db
    let amount := remainderAmount transactions
    if amount = 0 then
      ({ db with remainderSettled := Function.update db.remainderSettled spot.id true }, .noRemainder)
    else
      match transactions.find? fun t =>
          t.type = .fillSpot ∧ t.status = .confirmed ∧ cfg.strip t.fromAddress ≠ "" with
      | none => (db, .refused "confirmed_deposit_sender_missing")
      | some source => (db, .prepared ⟨spot.id, amount, cfg.strip source.fromAddress, cfg.strip source.txHash⟩)

/-- `settle_spot_remainder_if_ready` up to its commit. -/
def settleSpotRemainderIfReady (cfg : Settings P) (db : Db P) (spotId : ℕ) : Db P × RemainderResult :=
  match db.getSpot spotId with
  | none => (db, .refused "spot_missing")
  | some spot =>
    if spot.status = .cancelled ∨ spot.status = .banned then (db, .refused "terminal_without_refund")
    else if spot.cancellationStartedAt.isSome then (db, .refused "cancellation_managed_separately")
    else if 0 < db.countClaimsByStatusForSpot spotId .pending then (db, .deferred "pending_claims")
    else if spot.status = .published ∧ spot.prizeCount.isSome = true then
      (db, .deferred "prizedraw_not_settled")
    else if spot.status = .published ∧ db.spotIsTerminal spot = false then (db, .refused "not_terminal")
    else if spot.status = .draft then (db, .refused "not_terminal")
    else if spot.prizeCount.isNone ∧ 0 < db.countSuccessfulStandardClaimsWithoutConfirmedPayout spotId then
      (db, .deferred "claim_payouts_unconfirmed")
    else
      settleRemainderFromLedger cfg db spot (spot.status = .published)
        (db.getTransactionsBySpot spotId maxLimit)

end NimHunt
