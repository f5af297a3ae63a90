import NimHunt.AdminModeration
import NimHunt.CancellationSafety
import NimHunt.ClaimSecurityDefenceInDepth
import NimHunt.DbAccess.Drafts
import NimHunt.Lib.Runs
import NimHunt.RefundAddressSafety

/-!
# The running deployment

Every operation is one database transaction, or the short commits with which a cancellation takes its
lease.  A worker that decides in one transaction and writes in a later one leaves a continuation in
flight; anything may happen before it resumes, and a crash drops it.  What the outside decides (a draw,
a hash, the answer of the chain) is part of the operation, and so is the page of the ledger a
cancellation has read before its lease.
-/

namespace NimHunt

open Lib

variable {P : Type}

/-- What a worker carries from one of its transactions to the next. -/
inductive Continuation
  | claimReward (job : PayoutJob)
  | creationFee (spotId amount : ℕ)
  | cancellation (lease : CancellationLease)
  | cancellationFee (lease : CancellationLease) (job : CancellationJob)
  | cancellationRefund (lease : CancellationLease) (job : CancellationJob) (refundAddress : Address)
  | remainder (job : RemainderJob)
  | remainderRefund (job : RemainderJob) (refundAddress : Address)
  | banSweep (spotId amount : ℕ)
  | confirmation (row : Trans) (completedPrizedrawPayout : Bool)
  deriving DecidableEq, Repr

/-- What a resumed worker hears from outside: the hash its send is recorded under, whether the
broadcast answered with one, and the address a refund resolves to. -/
structure Reply where
  txHash : String := ""
  sent : Bool := true
  refundAddress : Option Address := none

/-- What becomes of the lease when a cancellation leg is refused. -/
def afterRefusedLeg (db : Db P) (spotId : ℕ) : Raised → Db P
  | .integrityError message =>
    if message = "UNIQUE constraint failed: trans.spot_id, trans.type" then db.releaseGuard spotId
    else db.blockGuard spotId "cancellation raised after lease acquisition"
  | _ => blockAfterAmbiguousSend db spotId

/-- The fee leg of a cancellation whose amounts are fixed. -/
def sendCancellationFee (cfg : Settings P) (db : Db P) (lease : CancellationLease) (job : CancellationJob)
    (reply : Reply) : Db P × List Continuation :=
  if 0 < job.refundAmount ∧ reply.refundAddress.isNone = true then (db.releaseGuard job.spotId, [])
  else
    let refund : Continuation := .cancellationRefund lease job (reply.refundAddress.getD "")
    if job.feeAmount = 0 then (db, [refund])
    else match submitPlatformFeeTransaction cfg db job.spotId job.feeAmount lease.policy.feeAddress reply.txHash with
      | (db, .error e) => (afterRefusedLeg db job.spotId e, [])
      | (db, .ok _) => if reply.sent then (db, [refund]) else (blockAfterAmbiguousSend db job.spotId, [])

/-- The refund leg, after which the lease is released. -/
def sendCancellationRefund (cfg : Settings P) (db : Db P) (job : CancellationJob) (refundAddress : Address)
    (reply : Reply) : Db P :=
  if job.refundAmount = 0 then db.releaseGuard job.spotId
  else match submitSpotRefundTransaction cfg db job.spotId job.refundAmount refundAddress reply.txHash with
    | (db, .error e) => afterRefusedLeg db job.spotId e
    | (db, .ok _) => if reply.sent then db.releaseGuard job.spotId else blockAfterAmbiguousSend db job.spotId

/-- The next transaction of a worker, and what it carries on from there. -/
def resume (cfg : Settings P) (db : Db P) (reply : Reply) : Continuation → Db P × List Continuation
  | .claimReward job => ((submitClaimRewardTransaction cfg db job reply.txHash).1, [])
  | .creationFee spotId amount => ((submitSpotCreationFeeTransaction cfg db spotId amount reply.txHash).1, [])
  | .cancellation lease =>
    match submitUnderLease cfg db lease with
    | (db, none) => (db, [])
    | (db, some job) => (db, [.cancellationFee lease job])
  | .cancellationFee lease job => sendCancellationFee cfg db lease job reply
  | .cancellationRefund _ job refundAddress => (sendCancellationRefund cfg db job refundAddress reply, [])
  | .remainder job =>
    match reply.refundAddress with
    | none => (db, [])
    | some refundAddress =>
      if remainderRefundAllowed db job.spotId then (db, [.remainderRefund job refundAddress]) else (db, [])
  | .remainderRefund job refundAddress =>
    ((submitSpotRemainderRefundTransaction cfg db job.spotId job.amount refundAddress reply.txHash).1, [])
  | .banSweep spotId amount => ((submitBanSweep cfg db spotId amount reply.txHash).1, [])
  | .confirmation row completedPrizedrawPayout =>
    match verifiedTransfer cfg row with
    | none => (db, [])
    | some transfer => ((markTransAsConfirmed db row transfer completedPrizedrawPayout).1, [])

structure Sys (P : Type) where
  db : Db P
  inFlight : List Continuation

/-- A fresh deployment. -/
def Sys.initial : Sys P := ⟨.empty, []⟩

inductive Op (P : Type)
  | tick (seconds : ℕ)
  | registerUser (user : User)
  | setUserStatus (userId : ℕ) (status : UserStatus)
  | bindWallet (userId : ℕ) (signer : Address)
  | createSpot (createdBy : ℕ) (depositAddress : Address) (fields : SpotFields P)
  | createPrizedraw (createdBy : ℕ) (depositAddress : Address) (fields : SpotFields P) (prizeCount : Option ℤ)
  | modifyDraft (spotId : ℕ) (edit : DraftEdit P)
  | deleteDraft (userId spotId : ℕ)
  | publish (spotId : ℕ) (draws : List String)
  | claim (req : ClaimRequest P)
  | heartbeat (claimId userId : ℕ) (position : P) (locationAccuracyMetres : Option ℚ)
  | refresh (claimId : ℕ)
  | settlePrizedraw (spotId : ℕ) (sample : Sampler P)
  | retryPrizedrawPayouts (spotId : ℕ)
  | payoutStandardClaim (claimId : ℕ)
  | recordDeposit (userId spotId amount : ℕ) (fromAddress : Address) (txHash : String)
  | payCreationFee (spotId : ℕ)
  | cancelSpot (spotId cancellationFee : ℕ) (feeAddress : Address) (transactions : List Trans) (failureProven : Bool)
  | settleRemainder (spotId : ℕ)
  | banSpot (spotId : ℕ)
  | sweepBannedSpot (spotId : ℕ)
  | confirmTrans (transId : ℕ)
  | failTrans (transId : ℕ)
  | resume (index : ℕ) (reply : Reply)
  | crash (index : ℕ)

section Routes

/-- The claim route: what a ValueError leaves in the open transaction is committed. -/
def claimRoute (cfg : Settings P) (db : Db P) (req : ClaimRequest P) : Db P :=
  match installedCreateClaimAttempt cfg db req with
  | (db', .ok _) => db'
  | (db', .error e) => if e.isValueError then db' else db

/-- What the heartbeat route catches inside its open transaction. -/
def Raised.isCaughtByHeartbeat : Raised → Bool
  | .permissionError _ => true
  | e => e.isValueError

/-- The heartbeat route. -/
def claimLocationHeartbeatApi (cfg : Settings P) (db : Db P) (claimId userId : ℕ) (position : P)
    (locationAccuracyMetres : Option ℚ) : Db P :=
  match processDurationClaimLocationHeartbeat cfg (installedPromoter cfg) db claimId userId position
      locationAccuracyMetres with
  | (db', .ok _) => db'
  | (db', .error e) => if e.isCaughtByHeartbeat then db' else db

/-- AUTOINCREMENT hands out ids from 1 on. -/
def Db.registerUser (db : Db P) (user : User) : Db P :=
  if user.id = 0 ∨ (db.getUser user.id).isSome = true then db else { db with users := db.users ++ [user] }

def Db.setUserStatus (db : Db P) (userId : ℕ) (status : UserStatus) : Db P :=
  { db with users := updateWhere (fun u => u.id = userId) (fun u => { u with status := status }) db.users }

/-- The last transaction of `security_verify`; `signer` is the address the signature was made with, which
`verify_wallet_signature` normalises. -/
def Db.bindWallet (cfg : Settings P) (db : Db P) (userId : ℕ) (signer : Address) : Db P :=
  if userId = 0 ∨ (db.getUser userId).isNone = true then db
  else match cfg.normaliseRealNimiqAddress signer with
    | .error _ => db
    | .ok walletAddress =>
      if (boundWallet cfg db userId).any (· ≠ walletAddress) then db
      else { db with userBindings := (userId, walletAddress) :: db.userBindings.filter fun b => b.1 ≠ userId }

end Routes

/-- A read that may leave a worker with something to send. -/
def Sys.start (s : Sys P) (db : Db P) (next : List Continuation) : Sys P := ⟨db, s.inFlight ++ next⟩

def Sys.write (s : Sys P) (db : Db P) : Sys P := { s with db := db }

def step (cfg : Settings P) (s : Sys P) : Op P → Sys P
  | .tick seconds => s.write { s.db with now := s.db.now + seconds }
  | .registerUser user => s.write (s.db.registerUser user)
  | .setUserStatus userId status => s.write (s.db.setUserStatus userId status)
  | .bindWallet userId signer => s.write (s.db.bindWallet cfg userId signer)
  | .createSpot createdBy depositAddress fields => s.write (createSpot cfg s.db createdBy depositAddress fields).1
  | .createPrizedraw createdBy depositAddress fields prizeCount =>
    s.write (createPrizedraw cfg s.db createdBy depositAddress fields prizeCount).1
  | .modifyDraft spotId edit => s.write (modifyDraftSpot s.db spotId edit).1
  | .deleteDraft userId spotId => s.write (deleteDraftSpot s.db userId spotId).1
  | .publish spotId draws => s.write (publishSpot s.db spotId draws).1
  | .claim req => s.write (claimRoute cfg s.db req)
  | .heartbeat claimId userId position accuracy =>
    s.write (claimLocationHeartbeatApi cfg s.db claimId userId position accuracy)
  | .refresh claimId => s.write (refreshClaimStatusFromConditions (installedPromoter cfg) s.db claimId).1
  | .settlePrizedraw spotId sample => s.write (settlePrizedrawSpotIfReady sample s.db spotId).1
  | .retryPrizedrawPayouts spotId =>
    let (db, jobs) := retryPendingPrizedrawPayoutsForSpot s.db spotId
    s.start db (jobs.map .claimReward)
  | .payoutStandardClaim claimId =>
    s.start s.db ((payoutStandardClaimIfReady s.db claimId).toList.map .claimReward)
  | .recordDeposit userId spotId amount fromAddress txHash =>
    s.write (RefundAddressSafety.recordSpotDepositTransaction cfg s.db userId spotId amount fromAddress txHash none).1
  | .payCreationFee spotId =>
    s.start s.db ((creationFeeDue s.db spotId).toList.map fun amount => .creationFee spotId amount)
  | .cancelSpot spotId cancellationFee feeAddress transactions failureProven =>
    match acquireCancellationLease cfg s.db spotId cancellationFee feeAddress transactions failureProven with
    | (db, .error _) => s.write db
    | (db, .ok lease) => s.start db [.cancellation lease]
  | .settleRemainder spotId =>
    match settleSpotRemainderIfReady cfg s.db spotId with
    | (db, .prepared job) => s.start db [.remainder job]
    | (db, _) => s.write db
  | .banSpot spotId => s.write (banSpot s.db spotId).1
  | .sweepBannedSpot spotId =>
    match attemptBannedSpotSweep s.db spotId with
    | (db, .submit amount) => s.start db [.banSweep spotId amount]
    | (db, _) => s.write db
  | .confirmTrans transId =>
    match s.db.getTransaction transId with
    | none => s
    | some row =>
      if row.status ≠ .pending then s
      else s.start s.db [.confirmation row (claimTransactionIsCompletedPrizedrawPayout s.db row)]
  | .failTrans transId =>
    match s.db.getTransaction transId with
    | none => s
    | some row => s.write (markTransAsFailed s.db row).1
  | .resume index reply =>
    match s.inFlight[index]? with
    | none => s
    | some continuation =>
      let (db, next) := resume cfg s.db reply continuation
      ⟨db, s.inFlight.eraseIdx index ++ next⟩
  | .crash index => { s with inFlight := s.inFlight.eraseIdx index }

end NimHunt
