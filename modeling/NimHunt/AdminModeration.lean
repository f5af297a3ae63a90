import NimHunt.TransUpdater

/-!
# Moderation bans

`admin_moderation.py`: the ban of a Spot and the sweep of what its deposits have left.
-/

namespace NimHunt

open Lib

variable {P : Type}

/-- `_financial_state`. -/
structure FinancialState where
  pending : List Trans
  confirmedDeposits : ℕ
  confirmedOutgoing : ℕ
  remaining : ℕ
  deriving DecidableEq, Repr

def financialState (transactions : List Trans) : FinancialState :=
  let deposits := total .fillSpot .confirmed transactions
  let outgoing :=
    ((transactions.filter fun t => t.type ≠ .fillSpot ∧ t.status = .confirmed).map Trans.amount).sum
  ⟨transactions.filter fun t => t.status = .pending, deposits, outgoing, deposits - outgoing⟩

/-- `_fail_claims_without_committed_payout`. -/
def failClaimsWithoutCommittedPayout (db : Db P) (spotId : ℕ) : Db P :=
  db.updateClaimStatus
    (fun c => c.spotId = spotId ∧ c.status ≠ .failed ∧ db.hasNonfailedClaimPayoutTransaction c.id = false) .failed

def Db.upsertBanRecord (db : Db P) (spotId : ℕ) (state : BanState) : Db P :=
  { db with banRecords := Function.update db.banRecords spotId (some state) }

/-- The transaction of `ban_spot`. -/
def banSpot (db : Db P) (spotId : ℕ) : Outcome P Unit :=
  match db.getSpot spotId with
  | none => (db, .error (.valueError s!"spot id={spotId} does not exist"))
  | some spot =>
    if spot.status = .cancelled then
      (db, .error (.valueError "cancelled Spots cannot be converted into moderation bans"))
    else if spot.status ≠ .banned ∧ spot.cancellationStartedAt.isSome = true then
      (db, .error (.valueError
        "this Spot is already in creator cancellation; reconcile that flow before banning it"))
    else
      let banned := if spot.status = .banned then db else db.modifySpotStatus spotId .banned
      ((failClaimsWithoutCommittedPayout banned spotId).upsertBanRecord spotId .pendingSweep, .ok ())

inductive SweepResult
  | refused (reason : String)
  | deferred
  | swept
  | blocked
  | submit (amount : ℕ)
  deriving DecidableEq, Repr

/-- `attempt_banned_spot_sweep` up to the send. -/
def attemptBannedSpotSweep (db : Db P) (spotId : ℕ) : Db P × SweepResult :=
  match db.getSpot spotId with
  | none => (db, .refused "spot_missing")
  | some spot =>
    if spot.status ≠ .banned then (db, .refused "spot_not_banned")
    else
      let transactions := db.getTransactionsBySpot spotId maxLimit
      let state := financialState transactions
      if state.pending ≠ [] then (db.upsertBanRecord spotId .pendingSweep, .deferred)
      else if state.remaining = 0 then (db.upsertBanRecord spotId .swept, .swept)
      else if transactions.any fun t => t.type = .platFee ∧ t.status ≠ .failed then
        (db.upsertBanRecord spotId .blocked, .blocked)
      else (db, .submit state.remaining)

/-- `_create_ban_sweep_transaction`: every invariant is checked again in the inserting transaction. -/
def createBanSweepTransaction (cfg : Settings P) (db : Db P) (spotId amount : ℕ)
    (fromAddress toAddress : Address) (txHash : String) : Outcome P ℕ :=
  match db.getSpot spotId with
  | none => (db, .error (.valueError s!"spot id={spotId} does not exist"))
  | some spot =>
    if spot.status ≠ .banned then (db, .error (.valueError "moderation sweep requires a banned Spot"))
    else match cfg.normaliseNimiqAddress spot.depositAddress, cfg.normaliseNimiqAddress cfg.spotFeeAddress with
      | .error message, _ | _, .error message => (db, .error (.valueError message))
      | .ok expectedFrom, .ok expectedTo =>
        if fromAddress ≠ expectedFrom then
          (db, .error (.valueError "moderation sweep sender does not match the Spot deposit address"))
        else if toAddress ≠ expectedTo then
          (db, .error (.valueError "moderation sweep recipient must be the configured cancellation address"))
        else
          let state := financialState (db.getTransactionsBySpot spotId maxLimit)
          if state.pending ≠ [] then
            (db, .error (.runtimeError
              "moderation sweep cannot start while another Spot transaction is pending"))
          else if amount ≠ state.remaining ∨ amount = 0 then
            (db, .error (.valueError
              "moderation sweep amount no longer matches the confirmed unspent balance"))
          else db.createTransaction
            ⟨spot.createdBy, some spotId, none, .platFee, amount, expectedFrom, expectedTo, txHash⟩

def submitBanSweep (cfg : Settings P) (db : Db P) (spotId amount : ℕ) (txHash : String) : Outcome P ℕ :=
  match db.getSpot spotId with
  | none => (db, .error (.valueError s!"spot id={spotId} does not exist"))
  | some spot =>
    recordChainSend cfg db spot cfg.spotFeeAddress amount fun fromAddress toAddress =>
      createBanSweepTransaction cfg db spotId amount fromAddress toAddress txHash

end NimHunt
