import NimHunt.AdminModeration
import NimHunt.CancellationSafety
import NimHunt.ChainStatus
import NimHunt.Lib.Runs

/-!
# The guarded cancellation, one commit at a time

`guarded_submit_spot_cancellation_transactions` with everything that happens between two of its commits:
the lock of the Spot is held by at most one worker, a crash drops every worker where it stands, and the
chain settles rows and the rest of the application goes on at any moment.
-/

namespace NimHunt

open Lib

variable {P : Type}

/-- `_failed_refund_is_definitively_failed`; what the lookup raises counts as no proof. -/
def failedRefundIsDefinitivelyFailed (cfg : Settings P) (row : Trans) (reply : RpcReply) : Bool :=
  isNimiqTransactionHash (cfg.strip row.txHash) &&
    match getChainTransactionStatus cfg (cfg.strip row.txHash) reply with
    | .ok status => decide (status.status = .failed) && executionResultIsFailure cfg status.raw
    | .error _ => false

structure CancellationRequest where
  cancellationFee : ℕ
  feeAddress : Address

/-- What a worker does next, with its local variables.  `transactions` is the ledger page the guard read. -/
inductive CancellationStage
  | readLedger (req : CancellationRequest)
  | askChain (req : CancellationRequest) (transactions : List Trans)
  | readGuard (req : CancellationRequest) (transactions : List Trans) (failureProven : Bool)
  | checkLegs (req : CancellationRequest) (transactions : List Trans) (failureProven : Bool)
  | fixPolicy (req : CancellationRequest) (transactions : List Trans)
  | acquireGuard (transactions : List Trans) (lease : CancellationLease)
  | submit (transactions : List Trans) (lease : CancellationLease)
  | refused (lease : CancellationLease)
  | deletePolicy
  | sendFee (transactions : List Trans) (lease : CancellationLease) (job : CancellationJob)
  | sendRefund (transactions : List Trans) (lease : CancellationLease) (job : CancellationJob)
      (refundAddress : Address)
  /-- Release the lease, or block it with a reason. -/
  | finish (block : Option String)

/-- What the outside answers a worker: the node about a failed refund, the account a refund resolves to,
the local hash of an intent, and whether the helper reported the broadcast. -/
structure CancellationAnswer where
  chain : RpcReply := .raises .urlError
  refundAddress : Option Address := none
  txHash : String := ""
  sent : Bool := true

/-- What a run has to be judged by: the refunds the chain showed to have failed, the requests the wrapped
submitter accepted, and the legs handed to the helper. -/
inductive CancellationEvent
  | shownFailed (transId : ℕ)
  | accepted (policy : CancellationPolicy)
  | fee (transId amount : ℕ) (feeAddress : Address)
  | refund (transId : ℕ)

def Raised.typeName : Raised → String
  | .valueError _ => "ValueError"
  | .permissionError _ => "PermissionError"
  | .runtimeError _ => "RuntimeError"
  | .integrityError _ => "IntegrityError"
  | .typeError _ => "TypeError"
  | .publicClaimBehaviorRestriction => "PublicClaimBehaviorRestrictionError"
  | .claimLocationCooldown _ _ => "ClaimLocationCooldownError"

def raisedAfterLease (e : Raised) : String := "cancellation raised after lease acquisition: " ++ e.typeName

def ambiguousSendReason : String := "cancellation helper returned an ambiguous send result"

/-- What becomes of the lease when a leg is refused before its broadcast. -/
def blockForRefusedLeg : Raised → Option String
  | .integrityError message =>
    if message = "UNIQUE constraint failed: trans.spot_id, trans.type" then none
    else some (raisedAfterLease (.integrityError message))
  | _ => some ambiguousSendReason

/-- A worker runs to its next commit or answer from outside. -/
def advance (cfg : Settings P) (db : Db P) (spotId : ℕ) (answer : CancellationAnswer) :
    CancellationStage → Db P × Option CancellationStage × List CancellationEvent
  | .readLedger req => (db, some (.askChain req (db.getTransactionsBySpot spotId maxLimit)), [])
  | .askChain req transactions =>
    match singleRetryableFailedRefund transactions with
    | none => (db, some (.readGuard req transactions false), [])
    | some refund =>
      if failedRefundIsDefinitivelyFailed cfg refund answer.chain then
        (db, some (.readGuard req transactions true), [.shownFailed refund.id])
      else (db, some (.readGuard req transactions false), [])
  | .readGuard req transactions failureProven =>
    match db.cancellationGuard spotId with
    | none => (db, some (.checkLegs req transactions failureProven), [])
    | some guard =>
      if guard = .blocked retryableFailedRefundGuardReason ∧ failureProven = true then
        (db.releaseGuard spotId, some (.checkLegs req transactions failureProven), [])
      else (db, none, [])
  | .checkLegs req transactions failureProven =>
    if failedCancellationLegs transactions ≠ [] ∧ failureProven = false then
      (db.blockGuard spotId retryableFailedRefundGuardReason, none, [])
    else (db, some (.fixPolicy req transactions), [])
  | .fixPolicy req transactions =>
    match db.cancellationPolicy spotId with
    | some policy => (db, some (.acquireGuard transactions ⟨spotId, policy, false⟩), [])
    | none =>
      match cfg.normaliseNimiqAddress req.feeAddress with
      | .error _ => (db, none, [])
      | .ok feeAddress =>
        let policy : CancellationPolicy := ⟨req.cancellationFee, feeAddress⟩
        (db.setPolicy spotId (some policy), some (.acquireGuard transactions ⟨spotId, policy, true⟩), [])
  | .acquireGuard transactions lease =>
    match db.cancellationGuard spotId with
    | some _ => (db, none, [])
    | none =>
      (db.setGuard spotId (some (.processing "cancellation send started")), some (.submit transactions lease), [])
  | .submit transactions lease =>
    match submitSpotCancellationTransactions cfg db spotId lease.policy.feeAmount with
    | (db, .error e) => (db, some (if e.isValueError then .refused lease else .finish (some (raisedAfterLease e))), [])
    | (db, .ok (.fixed job)) => (db, some (.sendFee transactions lease job), [.accepted lease.policy])
    | (db, .ok _) => (db, some (.finish none), [.accepted lease.policy])
  | .refused lease => (db.releaseGuard spotId, if lease.policyCreated then some .deletePolicy else none, [])
  | .deletePolicy => (db.setPolicy spotId none, none, [])
  | .sendFee transactions lease job =>
    if 0 < job.refundAmount ∧ answer.refundAddress.isNone = true then (db, some (.finish none), [])
    else
      let next := CancellationStage.sendRefund transactions lease job (answer.refundAddress.getD "")
      if job.feeAmount = 0 then (db, some next, [])
      else match submitPlatformFeeTransaction cfg db spotId job.feeAmount lease.policy.feeAddress answer.txHash with
        | (db, .error e) => (db, some (.finish (blockForRefusedLeg e)), [])
        | (db, .ok transId) =>
          (db, some (if answer.sent then next else .finish (some ambiguousSendReason)),
            [.fee transId job.feeAmount lease.policy.feeAddress])
  | .sendRefund _ _ job refundAddress =>
    if job.refundAmount = 0 then (db, some (.finish none), [])
    else match submitSpotRefundTransaction cfg db spotId job.refundAmount refundAddress answer.txHash with
      | (db, .error e) => (db, some (.finish (blockForRefusedLeg e)), [])
      | (db, .ok transId) =>
        (db, some (.finish (if answer.sent then none else some ambiguousSendReason)), [.refund transId])
  | .finish none => (db.releaseGuard spotId, none, [])
  | .finish (some reason) => (db.blockGuard spotId reason, none, [])

/-- The tables, the holder of each Spot's lock, and what has happened so far. -/
structure CancellationRun (P : Type) where
  db : Db P
  worker : ℕ → Option CancellationStage
  log : List (ℕ × CancellationEvent)

inductive CancellationOp (P : Type)
  | request (spotId : ℕ) (req : CancellationRequest)
  | resume (spotId : ℕ) (answer : CancellationAnswer)
  | crash
  /-- The chain settles a row. -/
  | failTrans (transId : ℕ)
  | confirmTrans (transId : ℕ) (transfer : ChainTransfer) (completedPrizedrawPayout : Bool)
  | sweepBannedSpot (spotId amount : ℕ) (txHash : String)
  /-- Whatever the rest of the application makes of the other tables and the other rows. -/
  | elsewhere (db : Db P)

namespace CancellationRun

def initial (db : Db P) : CancellationRun P := ⟨db, fun _ => none, []⟩

/-- The database after the rest of the application ran: it writes no cancellation leg and none of the
guard's tables. -/
def withElsewhere (db other : Db P) : Db P :=
  { other with
    trans := db.trans.filter Trans.isCancellationLeg ++ other.trans.filter fun t => !t.isCancellationLeg
    cancellationPolicy := db.cancellationPolicy
    cancellationGuard := db.cancellationGuard }

/-- The worker of a Spot has run to `next`, or has returned and released the lock. -/
def moved (s : CancellationRun P) (spotId : ℕ) (db : Db P) (next : Option CancellationStage)
    (events : List CancellationEvent) : CancellationRun P :=
  ⟨db, Function.update s.worker spotId next, s.log ++ events.map fun event => (spotId, event)⟩

def resume (cfg : Settings P) (s : CancellationRun P) (spotId : ℕ) (answer : CancellationAnswer)
    (stage : CancellationStage) : CancellationRun P :=
  let (db, next, events) := advance cfg s.db spotId answer stage
  s.moved spotId db next events

def step (cfg : Settings P) (s : CancellationRun P) : CancellationOp P → CancellationRun P
  | .request spotId req =>
    match s.worker spotId with
    | some _ => s
    | none => { s with worker := Function.update s.worker spotId (some (.readLedger req)) }
  | .resume spotId answer =>
    match s.worker spotId with
    | none => s
    | some stage => resume cfg s spotId answer stage
  | .crash => { s with worker := fun _ => none }
  | .failTrans transId =>
    match s.db.getTransaction transId with
    | none => s
    | some row => { s with db := (markTransAsFailed s.db row).1 }
  | .confirmTrans transId transfer payout =>
    match s.db.getTransaction transId with
    | none => s
    | some row => { s with db := (markTransAsConfirmed s.db row transfer payout).1 }
  | .sweepBannedSpot spotId amount txHash => { s with db := (submitBanSweep cfg s.db spotId amount txHash).1 }
  | .elsewhere db =>
    let db := withElsewhere s.db db
    if (db.trans.map Trans.id).Nodup ∧ ∀ t ∈ db.trans, t.id ≤ db.transSeq then { s with db := db } else s

end CancellationRun

end NimHunt
