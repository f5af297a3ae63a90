import NimHunt.TransUpdater

/-!
# The cancellation send guard

`cancellation_safety.py`: a fee policy fixed once for a Spot, and a lease that is committed before a
cancellation may send and that a crash or an unclear send leaves in place.
-/

namespace NimHunt

variable {P : Type}

def retryableFailedRefundGuardReason : String := "existing failed or ambiguous cancellation transaction"

/-- `_single_retryable_failed_refund`. -/
def singleRetryableFailedRefund (transactions : List Trans) : Option Trans :=
  let refunds := transactions.filter fun t => t.type = .cancelSpot
  if refunds.any (fun t => t.status ≠ .failed) then none
  else if transactions.any (fun t => t.type = .platFee ∧ t.status = .failed) then none
  else match refunds with
    | [refund] => some refund
    | _ => none

def failedCancellationLegs (transactions : List Trans) : List Trans :=
  transactions.filter fun t => t.isCancellationLeg ∧ t.status = .failed

def SendGuard.reason : SendGuard → String
  | .processing reason | .blocked reason => reason

namespace Db

def setGuard (db : Db P) (spotId : ℕ) (guard : Option SendGuard) : Db P :=
  { db with cancellationGuard := Function.update db.cancellationGuard spotId guard }

def releaseGuard (db : Db P) (spotId : ℕ) : Db P := db.setGuard spotId none

def blockGuard (db : Db P) (spotId : ℕ) (reason : String) : Db P := db.setGuard spotId (some (.blocked reason))

def setPolicy (db : Db P) (spotId : ℕ) (policy : Option CancellationPolicy) : Db P :=
  { db with cancellationPolicy := Function.update db.cancellationPolicy spotId policy }

end Db

/-- What a worker holds after `_acquire_guard` succeeded. -/
structure CancellationLease where
  spotId : ℕ
  policy : CancellationPolicy
  policyCreated : Bool
  deriving DecidableEq, Repr

/-- The guarded submitter up to the lease, from the guard row on.  It has read its page of the ledger before, and
`failureProven` is the chain's answer about the refund `singleRetryableFailedRefund` picks there. -/
def acquireCancellationLease (cfg : Settings P) (db : Db P) (spotId cancellationFee : ℕ)
    (feeAddress : Address) (transactions : List Trans) (failureProven : Bool) : Db P × Except String CancellationLease :=
  let refundFailureProven := (singleRetryableFailedRefund transactions).isSome && failureProven
  let recoverable :=
    db.cancellationGuard spotId = some (.blocked retryableFailedRefundGuardReason) ∧ refundFailureProven = true
  match db.cancellationGuard spotId, decide recoverable with
  | some guard, false => (db, .error guard.reason)
  | guard, _ =>
    let db := if guard.isSome then db.releaseGuard spotId else db
    if failedCancellationLegs transactions ≠ [] ∧ refundFailureProven = false then
      (db.blockGuard spotId retryableFailedRefundGuardReason, .error retryableFailedRefundGuardReason)
    else match db.cancellationPolicy spotId with
      | some policy =>
        (db.setGuard spotId (some (.processing "cancellation send started")), .ok ⟨spotId, policy, false⟩)
      | none =>
        match cfg.normaliseNimiqAddress feeAddress, db.getSpot spotId with
        | .error message, _ => (db, .error message)
        | .ok _, none => (db, .error "FOREIGN KEY constraint failed")
        | .ok feeAddress, some _ =>
          let policy : CancellationPolicy := ⟨cancellationFee, feeAddress⟩
          ((db.setPolicy spotId (some policy)).setGuard spotId (some (.processing "cancellation send started")),
            .ok ⟨spotId, policy, true⟩)

/-- The wrapped submitter under the lease, with what the guard does when it raises. -/
def submitUnderLease (cfg : Settings P) (db : Db P) (lease : CancellationLease) : Db P × Option CancellationJob :=
  match submitSpotCancellationTransactions cfg db lease.spotId lease.policy.feeAmount with
  | (db, .error e) =>
    if e.isValueError then
      let db := db.releaseGuard lease.spotId
      (if lease.policyCreated then db.setPolicy lease.spotId none else db, none)
    else (db.blockGuard lease.spotId "cancellation raised after lease acquisition", none)
  | (db, .ok (.fixed job)) => (db, some job)
  | (db, .ok _) => (db.releaseGuard lease.spotId, none)

/-- The guard's answer to a send that did not return cleanly. -/
def blockAfterAmbiguousSend (db : Db P) (spotId : ℕ) : Db P :=
  db.blockGuard spotId "cancellation helper returned an ambiguous send result"

end NimHunt
