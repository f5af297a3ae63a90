import NimHunt.DbAccess.ClaimStatus
import NimHunt.DbAccess.Ledger
import NimHunt.SettlementUpdater

/-!
# Chain transactions

`trans_updater.py`: the outbox insert every server send starts with, confirmation and failure of
pending rows, and the cancellation workflow.  Each function here is one database
transaction; the broadcast between two of them only replaces the hash of the inserted row.
-/

namespace NimHunt

open Lib

variable {P : Type}

def isNimiqTransactionHash (txHash : String) : Bool :=
  txHash.toList.length = 64 ∧ txHash.toList.all fun c =>
    c.isDigit || decide (c ∈ ['a', 'b', 'c', 'd', 'e', 'f', 'A', 'B', 'C', 'D', 'E', 'F'])

/-- SQLite's `LOWER`, which changes ASCII letters only. -/
def sqlLower (text : String) : String := String.ofList (text.toList.map Char.toLower)

/-- The outbox insert of `_submit_recorded_chain_send`, before anything is broadcast. -/
def recordChainSend (cfg : Settings P) (db : Db P) (spot : Spot P) (toAddress : Address) (amount : ℕ)
    (create : Address → Address → Outcome P ℕ) : Outcome P ℕ :=
  if amount = 0 then (db, .error (.valueError "amount must be positive"))
  else match cfg.normaliseNimiqAddress spot.depositAddress, cfg.normaliseNimiqAddress toAddress with
    | .error message, _ | _, .error message => (db, .error (.valueError message))
    | .ok fromAddress, .ok toAddress => (create fromAddress toAddress).orRollback db

/-- The creation fee still owed by a fully funded Spot, if a send is due. -/
def creationFeeDue (db : Db P) (spotId : ℕ) : Option ℕ :=
  match db.getSpot spotId with
  | none => none
  | some spot =>
    if spot.status ≠ .draft ∧ spot.status ≠ .published ∧ spot.status ≠ .completed then none
    else if spot.cancellationStartedAt.isSome then none
    else if spot.creationFee = 0 then none
    else if db.getConfirmedSpotDepositTotal spotId < spot.totalValue + spot.creationFee then none
    else if db.hasNonfailedSpotCreationFeeTransaction spotId then none
    else some spot.creationFee

/-- `create_spot_creation_fee_transaction` as `funding_fee_worker` installs it: every prerequisite is
checked again in the transaction that inserts the row. -/
def createSpotCreationFeeTransaction (cfg : Settings P) (db : Db P) (spotId amount : ℕ)
    (fromAddress toAddress : Address) (txHash : String) : Outcome P ℕ :=
  match db.getSpot spotId with
  | none => (db, .error (.valueError s!"spot id={spotId} does not exist"))
  | some spot =>
    if spot.status ≠ .draft ∧ spot.status ≠ .published ∧ spot.status ≠ .completed then
      (db, .error (.valueError
        "creation fees can only be created for draft, published or completed spots"))
    else if spot.cancellationStartedAt.isSome then
      (db, .error (.valueError "creation fee cannot be created after cancellation has started"))
    else if spot.creationFee = 0 ∨ amount ≠ spot.creationFee then
      (db, .error (.valueError "creation fee amount does not match the Spot snapshot"))
    else match cfg.normaliseNimiqAddress spot.depositAddress, cfg.normaliseNimiqAddress spot.creationFeeAddress with
      | .error message, _ | _, .error message => (db, .error (.valueError message))
      | .ok expectedFrom, .ok expectedTo =>
        if fromAddress ≠ expectedFrom then
          (db, .error (.valueError "creation fee sender does not match the Spot deposit address"))
        else if toAddress ≠ expectedTo then
          (db, .error (.valueError "creation fee recipient does not match the Spot snapshot"))
        else if db.getConfirmedSpotDepositTotal spotId < spot.totalValue + spot.creationFee then
          (db, .error (.valueError "creation fee cannot be created before full funding confirms"))
        else if db.hasNonfailedSpotCreationFeeTransaction spotId then
          (db, .error (.runtimeError s!"Spot id={spotId} already has a non-failed creation fee transaction"))
        else db.createTransaction
          ⟨spot.createdBy, some spotId, none, .creationFee, amount, expectedFrom, expectedTo, txHash⟩

def submitSpotCreationFeeTransaction (cfg : Settings P) (db : Db P) (spotId amount : ℕ) (txHash : String) :
    Outcome P ℕ :=
  match db.getSpot spotId with
  | none => (db, .error (.valueError s!"spot id={spotId} does not exist"))
  | some spot =>
    recordChainSend cfg db spot spot.creationFeeAddress amount fun fromAddress toAddress =>
      createSpotCreationFeeTransaction cfg db spotId amount fromAddress toAddress txHash

/-- A claim's payout must still be possible when its row is inserted: `create_claim_transaction`
with the moderation gate in front of it. -/
def guardedCreateClaimTransaction (db : Db P) (userId claimId amount : ℕ) (fromAddress toAddress : Address)
    (txHash : String) : Outcome P ℕ :=
  match db.getClaim claimId with
  | none => (db, .error (.runtimeError s!"Claim not found id={claimId}"))
  | some claim =>
    match db.getSpot claim.spotId with
    | none => (db, .error (.runtimeError s!"Spot not found for claim id={claimId}"))
    | some spot =>
      if spot.status = .banned then
        (db, .error (.runtimeError "claim payout blocked because the Spot has been banned"))
      else db.createClaimTransaction userId claimId amount fromAddress toAddress txHash

/-- `submit_claim_reward_transaction`; a payout the gates around it hold back is one that is never
submitted. -/
def submitClaimRewardTransaction (cfg : Settings P) (db : Db P) (job : PayoutJob) (txHash : String) :
    Outcome P ℕ :=
  match db.getClaim job.claimId with
  | none => (db, .error (.valueError s!"claim id={job.claimId} does not exist"))
  | some claim =>
    match db.getSpot claim.spotId with
    | none => (db, .error (.valueError s!"spot for claim id={job.claimId} does not exist"))
    | some spot =>
      match claim.payoutAddress.map cfg.strip with
      | none | some "" =>
        (db, .error (.valueError "claim has no payout_address; ask the user to enter through Nimiq Pay again"))
      | some toAddress =>
        recordChainSend cfg db spot toAddress job.amount fun fromAddress toAddress =>
          guardedCreateClaimTransaction db claim.recipient job.claimId job.amount fromAddress toAddress txHash

def submitPlatformFeeTransaction (cfg : Settings P) (db : Db P) (spotId amount : ℕ) (feeAddress : Address)
    (txHash : String) : Outcome P ℕ :=
  match db.getSpot spotId with
  | none => (db, .error (.valueError s!"spot id={spotId} does not exist"))
  | some spot =>
    recordChainSend cfg db spot feeAddress amount fun fromAddress toAddress =>
      db.createTransaction
        ⟨spot.createdBy, some spotId, none, .platFee, amount, fromAddress, toAddress, txHash⟩

def submitSpotRefundTransaction (cfg : Settings P) (db : Db P) (spotId amount : ℕ) (refundAddress : Address)
    (txHash : String) : Outcome P ℕ :=
  match db.getSpot spotId with
  | none => (db, .error (.valueError s!"spot id={spotId} does not exist"))
  | some spot =>
    recordChainSend cfg db spot refundAddress amount fun fromAddress toAddress =>
      db.createTransaction
        ⟨spot.createdBy, some spotId, none, .cancelSpot, amount, fromAddress, toAddress, txHash⟩

/-- The read with which `submit_spot_remainder_refund_transaction` begins. -/
def remainderRefundAllowed (db : Db P) (spotId : ℕ) : Bool :=
  (db.getSpot spotId).any fun spot => spot.status = .completed

/-- Its insert, after that read: only a second active refund is refused here. -/
def submitSpotRemainderRefundTransaction (cfg : Settings P) (db : Db P) (spotId amount : ℕ)
    (refundAddress : Address) (txHash : String) : Outcome P ℕ :=
  match db.getSpot spotId with
  | none => (db, .error (.valueError s!"spot id={spotId} does not exist"))
  | some spot =>
    recordChainSend cfg db spot refundAddress amount fun fromAddress toAddress =>
      if db.hasNonfailedSpotRemainderRefundTransaction spotId then
        (db, .error (.runtimeError s!"Spot id={spotId} already has a non-failed remainder refund transaction"))
      else db.createTransaction
        ⟨spot.createdBy, some spotId, none, .remainderRefund, amount, fromAddress, toAddress, txHash⟩

/-- The cancellation legs. -/
def Trans.isCancellationLeg (t : Trans) : Bool := t.type = .cancelSpot ∨ t.type = .platFee

/-- What a cancellation may spend: deposits less claims and the creation fee. -/
def remainingCancellableTotal (transactions : List Trans) : ℕ :=
  total .fillSpot .confirmed transactions - total .claim .confirmed transactions -
    total .creationFee .confirmed transactions

def confirmedCancellationTotal (transactions : List Trans) : ℕ :=
  total .cancelSpot .confirmed transactions + total .platFee .confirmed transactions

/-- The decision of `_finalize_cancelled_spot_if_ready` on the rows it read. -/
def cancellationIsFinal (transactions : List Trans) : Bool :=
  transactions.any Trans.isCancellationLeg &&
  !transactions.any (fun t => t.isCancellationLeg ∧ t.status = .pending) &&
  decide (remainingCancellableTotal transactions ≤ confirmedCancellationTotal transactions)

/-- `_finalize_cancelled_spot_if_ready`. -/
def finalizeCancelledSpotIfReady (db : Db P) (spotId : Option ℕ) : Db P :=
  match spotId with
  | none => db
  | some spotId =>
    match db.getSpot spotId with
    | none => db
    | some spot =>
      if spot.status ≠ .draft ∧ spot.status ≠ .published then db
      else if spot.status = .published ∧ spot.prizeCount.isSome = true then db
      else if cancellationIsFinal (db.getTransactionsBySpot spotId maxLimit) then
        db.modifySpotStatus spotId .cancelled
      else db

/-- Whether a row pays a winner of a completed Prizedraw; read before the lock is taken. -/
def claimTransactionIsCompletedPrizedrawPayout (db : Db P) (trans : Trans) : Bool :=
  decide (trans.type = .claim) &&
    match trans.claimId.bind db.getClaim with
    | none => false
    | some claim => (db.getSpot claim.spotId).any Spot.isCompletedPrizedraw

/-- `_verify_chain_details_for_record`: the transfer a confirmed row is accepted with.  A deposit may
pay more than was due and takes its sender from the chain; every other row must match exactly. -/
def verifiedTransfer (cfg : Settings P) (trans : Trans) : Option ChainTransfer :=
  match cfg.chainTransfer trans.txHash with
  | none => none
  | some transfer =>
    if transfer.toAddress ≠ trans.toAddress then none
    else if trans.type = .fillSpot then
      if trans.amount ≤ transfer.amount then some transfer else none
    else if transfer.fromAddress = trans.fromAddress ∧ transfer.amount = trans.amount then some transfer
    else none

/-- `mark_trans_as_confirmed` from `BEGIN IMMEDIATE` on.  A deposit from another wallet than the
first confirmed one is kept but marked FAILED. -/
def markTransAsConfirmed (db : Db P) (trans : Trans) (transfer : ChainTransfer)
    (completedPrizedrawPayout : Bool) : Outcome P Unit :=
  let mismatch := trans.type = .fillSpot ∧
    (match trans.spotId.bind db.getConfirmedSpotFundingAddress with
      | none => false
      | some funding => decide (funding ≠ transfer.fromAddress)) = true
  let detailed := db.updateTransactionChainDetails trans.id transfer
  let outcome : Outcome P Unit :=
    if mismatch then detailed.modifyTransactionStatus trans.id .failed
    else match detailed.modifyTransactionStatus trans.id .confirmed with
      | (db, .error e) => (db, .error e)
      | (db, .ok ()) =>
        let db := match completedPrizedrawPayout, trans.claimId with
          | true, some claimId => db.setClaimStatusToSuccess claimId
          | _, _ => db
        (finalizeCancelledSpotIfReady db trans.spotId, .ok ())
  outcome.orRollback db

def markTransAsFailed (db : Db P) (trans : Trans) : Outcome P Unit :=
  (match db.modifyTransactionStatus trans.id .failed with
    | (db, .error e) => (db, .error e)
    | (db, .ok ()) => (finalizeCancelledSpotIfReady db trans.spotId, .ok ()) : Outcome P Unit).orRollback db

/-- `_published_standard_spot_is_complete`. -/
def publishedStandardSpotIsComplete (db : Db P) (spot : Spot P) : Bool :=
  spot.status = .published ∧ 0 < spot.maxTotalClaims ∧ spot.prizeCount = none ∧
    spot.maxTotalClaims ≤ db.countClaimsByStatusForSpot spot.id .success

/-- The two sends a cancellation settles on. -/
structure CancellationAmounts where
  feeAmount : ℕ
  refundAmount : ℕ
  deriving DecidableEq, Repr

def cancellationAmounts (cancellationFee : ℕ) (transactions : List Trans) : CancellationAmounts :=
  let remaining := remainingCancellableTotal transactions
  let desiredFee := min cancellationFee remaining
  ⟨desiredFee - total .platFee .confirmed transactions,
    remaining - desiredFee - total .cancelSpot .confirmed transactions⟩

structure CancellationJob where
  spotId : ℕ
  feeAmount : ℕ
  refundAmount : ℕ
  refundAddress : Option Address
  deriving DecidableEq, Repr

inductive CancellationResult
  | deferred (reason : String)
  | cancelled
  | fixed (job : CancellationJob)
  deriving DecidableEq, Repr

/-- The outgoing rows a cancellation waits for. -/
def Trans.blocksCancellation (t : Trans) : Bool :=
  t.status = .pending ∧ (t.type = .claim ∨ t.type = .cancelSpot ∨ t.type = .platFee ∨ t.type = .creationFee)

/-- The part of the cancellation that reads the ledger; the marker is already set. -/
def cancelFromLedger (cfg : Settings P) (db : Db P) (spot : Spot P) (cancellationFee : ℕ)
    (transactions : List Trans) : Outcome P CancellationResult :=
  if spot.status = .draft ∧ !transactions.any (fun t => t.type = .fillSpot) then
    (db, .error (.valueError "unfunded drafts should be deleted rather than cancelled"))
  else if spot.status = .draft ∧ transactions.any (fun t => t.type = .fillSpot ∧ t.status = .pending) then
    (db, .ok (.deferred "deposit_pending"))
  else if transactions.any Trans.blocksCancellation then
    (db, .ok (.deferred "outgoing_transaction_pending"))
  else if spot.status = .draft ∧ total .fillSpot .confirmed transactions = 0 then
    (db.modifySpotStatus spot.id .cancelled, .ok .cancelled)
  else
    let amounts := cancellationAmounts cancellationFee transactions
    let refundSource := (transactions.insertionSort fun a b => a.createdAt ≤ b.createdAt).find? fun t =>
      t.type = .fillSpot ∧ t.status = .confirmed ∧ cfg.strip t.fromAddress ≠ ""
    if 0 < amounts.refundAmount ∧ refundSource.isNone then
      (db, .error (.valueError
        "cannot refund this spot because no original deposit sender address is recorded"))
    else if amounts.feeAmount + amounts.refundAmount = 0 then
      (db.modifySpotStatus spot.id .cancelled, .ok .cancelled)
    else
      (db, .ok (.fixed ⟨spot.id, amounts.feeAmount, amounts.refundAmount,
        refundSource.map fun t => cfg.strip t.fromAddress⟩))

def markSpotCancellationStarted (db : Db P) (spotId : ℕ) : Db P :=
  { db with
    spots := updateWhere
      (fun s => s.id = spotId ∧ (s.status = .draft ∨ s.status = .published) ∧ s.cancellationStartedAt = none)
      (fun s => { s with cancellationStartedAt := some db.now }) db.spots }

/-- `submit_spot_cancellation_transactions` up to the commit that fixes its amounts. -/
def submitSpotCancellationTransactions (cfg : Settings P) (db : Db P) (spotId cancellationFee : ℕ) :
    Outcome P CancellationResult :=
  match db.getSpot spotId with
  | none => (db, .error (.valueError s!"spot id={spotId} does not exist"))
  | some spot =>
    if spot.status ≠ .draft ∧ spot.status ≠ .published then
      (db, .error (.valueError "only funded drafts or published spots can be cancelled"))
    else if spot.status = .published ∧ spot.prizeCount.isSome = true then
      (db, .error (.valueError
        "Prizedraw spots cannot be cancelled through this standard cancellation flow"))
    else if publishedStandardSpotIsComplete db spot then
      (db, .error (.valueError "completed spots cannot be cancelled"))
    else
      let marked := markSpotCancellationStarted db spotId
      if spot.status = .published ∧ marked.getUnpaidSuccessfulStandardClaims spotId ≠ [] then
        (marked, .ok (.deferred "claim_payouts_pending"))
      else
        (cancelFromLedger cfg marked spot cancellationFee
          (marked.getTransactionsBySpot spotId maxLimit)).orRollback db

end NimHunt
