import NimHunt.TransUpdater

/-!
# Deposits and the account that receives refunds

`refund_address_safety.py` replaces the recorder of `trans_updater.py`: a top-up belongs to the Spot
when Nimiq Pay names the same account as for the first deposit, whoever the chain reports as sender.
-/

namespace NimHunt.RefundAddressSafety

open Lib

variable {P : Type}

/-- `ORDER BY created_at ASC, source_tx_hash ASC`. -/
def Earlier (a b : NimiqPayReturnAddress) : Prop :=
  a.createdAt < b.createdAt ∨ a.createdAt = b.createdAt ∧ a.sourceTxHash ≤ b.sourceTxHash

instance : DecidableRel Earlier := fun a b =>
  inferInstanceAs (Decidable (a.createdAt < b.createdAt ∨ a.createdAt = b.createdAt ∧ a.sourceTxHash ≤ b.sourceTxHash))

def spotReturnAddress (db : Db P) (spotId : ℕ) : Option Address :=
  (page Earlier 1 (db.returnAddresses.filter fun r => r.spotId = spotId)).head?.map
    NimiqPayReturnAddress.returnAddress

def otherAccount : Raised :=
  .valueError "Additional deposits for this Spot must use its original Nimiq Pay account."

/-- The Spot's recorded account, if there is one, must be `returnAddress`. -/
def requireSameAccount (cfg : Settings P) (db : Db P) (spotId : ℕ) (returnAddress : Address) : Except Raised Unit :=
  match spotReturnAddress db spotId with
  | none => .ok ()
  | some stored =>
    match cfg.normaliseNimiqAddress stored with
    | .error message => .error (.valueError message)
    | .ok stored => if stored ≠ returnAddress then .error otherAccount else .ok ()

/-- `_remember_return_address`. -/
def rememberReturnAddress (cfg : Settings P) (db : Db P) (spotId : ℕ) (sourceTxHash : String)
    (returnAddress : Address) : Outcome P Unit :=
  match requireSameAccount cfg db spotId returnAddress with
  | .error e => (db, .error e)
  | .ok () =>
    match db.returnAddresses.find? fun r => r.sourceTxHash = sourceTxHash with
    | some existing =>
      match cfg.normaliseNimiqAddress existing.returnAddress with
      | .error message => (db, .error (.valueError message))
      | .ok existingAddress =>
        if existing.spotId ≠ spotId ∨ existingAddress ≠ returnAddress then
          (db, .error (.valueError "this transaction hash is already attached to a different return address"))
        else (db, .ok ())
    | none =>
      ({ db with returnAddresses := db.returnAddresses ++ [⟨sourceTxHash, spotId, returnAddress, db.now⟩] }, .ok ())

/-- A deposit whose hash is already recorded. -/
def recordKnownDeposit (cfg : Settings P) (db : Db P) (existing : Trans) (userId spotId : ℕ)
    (returnAddress : Address) (cleanHash : String) : Outcome P ℕ :=
  if ¬ (existing.type = .fillSpot ∧ existing.userId = userId ∧ existing.spotId = some spotId) then
    (db, .error (.valueError "this transaction hash is already attached to a different record"))
  else match spotReturnAddress db spotId with
    | some _ =>
      match requireSameAccount cfg db spotId returnAddress with
      | .error e => (db, .error e)
      | .ok () => (db, .ok existing.id)
    | none =>
      match cfg.normaliseNimiqAddress existing.fromAddress with
      | .error message => (db, .error (.valueError message))
      | .ok storedSender =>
        if existing.status ≠ .pending ∨ storedSender ≠ returnAddress then
          (db, .error (.valueError ("this existing deposit has no safely recorded Nimiq Pay account; " ++
            "manual reconciliation is required")))
        else match rememberReturnAddress cfg db spotId cleanHash returnAddress with
          | (db, .error e) => (db, .error e)
          | (db, .ok ()) => (db, .ok existing.id)

/-- A deposit with a new hash. -/
def recordNewDeposit (cfg : Settings P) (db : Db P) (userId spotId amount : ℕ) (returnAddress : Address)
    (cleanHash : String) (toAddress : Option Address) : Outcome P ℕ :=
  if amount = 0 then (db, .error (.valueError "amount must be positive"))
  else match db.getSpot spotId with
    | none => (db, .error (.valueError s!"spot id={spotId} does not exist"))
    | some spot =>
      if spot.status ≠ .draft then
        (db, .error (.valueError "only draft spots can receive creator deposits"))
      else if spot.cancellationStartedAt.isSome then
        (db, .error (.valueError "this draft is being cancelled and cannot receive another deposit"))
      else match cfg.normaliseNimiqAddress (toAddress.getD spot.depositAddress) with
        | .error message => (db, .error (.valueError message))
        | .ok cleanToAddress =>
          match requireSameAccount cfg db spotId returnAddress with
          | .error e => (db, .error e)
          | .ok () =>
            if (spotReturnAddress db spotId).isNone ∧ (db.getConfirmedSpotFundingAddress spotId).isSome = true then
              (db, .error (.valueError ("this Spot has confirmed legacy funding without a safely recorded " ++
                "Nimiq Pay account; manual reconciliation is required")))
            else if 0 < db.getPendingSpotDepositTotal spotId then
              (db, .error (.valueError "this draft already has a pending deposit"))
            else
              let due := spot.totalValue + spot.creationFee - db.getConfirmedSpotDepositTotal spotId
              if due = 0 then (db, .error (.valueError "this draft is already fully funded"))
              else match db.createTransaction
                  ⟨userId, some spotId, none, .fillSpot, min amount due, returnAddress, cleanToAddress, cleanHash⟩ with
                | (db, .error e) => (db, .error e)
                | (db, .ok transId) =>
                  match rememberReturnAddress cfg db spotId cleanHash returnAddress with
                  | (db, .error e) => (db, .error e)
                  | (db, .ok ()) => (db, .ok transId)

/-- `record_spot_deposit_transaction`, in the transaction of the route that calls it. -/
def recordSpotDepositTransaction (cfg : Settings P) (db : Db P) (userId spotId amount : ℕ) (fromAddress : Address)
    (txHash : String) (toAddress : Option Address) : Outcome P ℕ :=
  match cfg.normaliseNimiqAddress fromAddress with
  | .error message => (db, .error (.valueError message))
  | .ok returnAddress =>
    let cleanHash := cfg.lower (cfg.strip txHash)
    if isNimiqTransactionHash cleanHash = false then
      (db, .error (.valueError "tx_hash must be a 64-character hexadecimal Nimiq transaction hash"))
    else
      match db.trans.find? fun t => sqlLower t.txHash = cleanHash with
      | some existing => recordKnownDeposit cfg db existing userId spotId returnAddress cleanHash
      | none => recordNewDeposit cfg db userId spotId amount returnAddress cleanHash toAddress

end NimHunt.RefundAddressSafety
