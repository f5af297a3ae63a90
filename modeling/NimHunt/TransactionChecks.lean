import NimHunt.ChainStatus

/-!
# One pass over the pending rows

`trans_updater.check_pending_transactions`: the oldest PENDING rows are checked against the chain one
after another, each verdict in a database transaction of its own, and then the creation fees that
became due are submitted.  What escapes the check of one row ends the pass there.
-/

namespace NimHunt

open Lib

variable {P : Type}

/-- `ORDER BY created_at ASC, id ASC`. -/
def Trans.Older (a b : Trans) : Prop :=
  a.createdAt < b.createdAt ∨ a.createdAt = b.createdAt ∧ a.id ≤ b.id

instance : DecidableRel Trans.Older := fun a b =>
  inferInstanceAs (Decidable (a.createdAt < b.createdAt ∨ a.createdAt = b.createdAt ∧ a.id ≤ b.id))

/-- The rows the pending cache lists, oldest first. -/
def Db.pendingTransactions (db : Db P) : List Trans :=
  (db.trans.filter fun t => t.status = .pending).insertionSort Trans.Older

/-- `cache.get_pending_transactions`. -/
def Db.getPendingTransactions (db : Db P) (limit : ℕ) : List Trans :=
  db.pendingTransactions.take (clampLimit limit)

/-- What a pass concludes about one row. -/
inductive Verdict
  | stillPending (reason : String)
  | unknown (reason : String)
  | reject (reason : String)
  | accept (transfer : ChainTransfer)
  deriving DecidableEq, Repr

/-- The answer `status` weighed against the row: details that cannot be proved never fail an outgoing
row, and a deposit only when they are definitely wrong. -/
def weighStatus (cfg : Settings P) (row : Trans) (replies : RowReplies) (status : ChainTransactionStatus) :
    Except PyError Verdict :=
  match status.status with
  | .confirmed =>
    match verifyChainDetailsForRecord cfg row status replies.proof with
    | .error e => .error e
    | .ok (.ok transfer) => .ok (.accept transfer)
    | .ok (.error failure) =>
      if row.isServerInitiated ∨ failure.isUncertain then .ok (.unknown failure.reason)
      else .ok (.reject failure.reason)
  | .failed => .ok (.reject status.reason)
  | .unknown => .ok (.unknown status.reason)
  | .pending => .ok (.stillPending status.reason)

/-- The RPC calls of one row. -/
def assessRow (cfg : Settings P) (now : ℕ) (row : Trans) (replies : RowReplies) :
    Except PyError (ChainTransactionStatus × Verdict) :=
  match checkPendingTransaction cfg now row replies with
  | .error e => .error e
  | .ok status =>
    match weighStatus cfg row replies status with
    | .error e => .error e
    | .ok verdict => .ok (status, verdict)

/-- What can end a pass early. -/
inductive PassError
  | rpc (e : PyError)
  | database (e : Raised)
  deriving DecidableEq, Repr

/-- The bound of a SQLite INTEGER. -/
def sqliteIntegerBound : ℕ := 2 ^ 63

/-- Whether the block and the amount can be stored at all. -/
def unstorable (block : Option ℤ) (transfer : ChainTransfer) : Option PassError :=
  if block.any (· < 0) then some (.database (.valueError "block_number must be non-negative"))
  else if sqliteIntegerBound ≤ transfer.amount ∨ block.any (fun b => (sqliteIntegerBound : ℤ) ≤ b) then
    some (.rpc .overflowError)
  else none

/-- An outcome of the database seen from the pass. -/
def passOutcome {R : Type} (outcome : Outcome P R) : Db P × Except PassError Unit :=
  match outcome with
  | (db, .error e) => (db, .error (.database e))
  | (db, .ok _) => (db, .ok ())

/-- What the pass writes for one row. -/
def settleRow (db : Db P) (row : Trans) (block : Option ℤ) : Verdict → Db P × Except PassError Unit
  | .stillPending _ | .unknown _ => (db, .ok ())
  | .reject _ => passOutcome (markTransAsFailed db row)
  | .accept transfer =>
    match unstorable block transfer with
    | some e => (db, .error e)
    | none =>
      passOutcome (markTransAsConfirmed db row transfer (claimTransactionIsCompletedPrizedrawPayout db row))

/-- An entry of `checked`. -/
structure Checked where
  transId : ℕ
  txHash : String
  verdict : Verdict
  blockNumber : Option ℤ

/-- The loop of the pass. -/
def checkRows (cfg : Settings P) (replies : Trans → RowReplies) (db : Db P) :
    List Trans → Db P × Except PassError (List Checked)
  | [] => (db, .ok [])
  | row :: rows =>
    match assessRow cfg db.now row (replies row) with
    | .error e => (db, .error (.rpc e))
    | .ok (status, verdict) =>
      match settleRow db row status.blockNumber verdict with
      | (db, .error e) => (db, .error e)
      | (db, .ok ()) =>
        match checkRows cfg replies db rows with
        | (db, .error e) => (db, .error e)
        | (db, .ok checked) => (db, .ok (⟨row.id, status.txHash, verdict, status.blockNumber⟩ :: checked))

/-- `get_spot_ids_ready_for_creation_fee`. -/
def Db.getSpotIdsReadyForCreationFee (db : Db P) (limit : ℕ) : List ℕ :=
  ((db.spots.map Spot.id).filter fun spotId => (creationFeeDue db spotId).isSome).take (clampLimit limit)

/-- One Spot of `submit_ready_spot_creation_fees`; whatever its submission raises is recorded only. -/
def submitDueCreationFee (cfg : Settings P) (txHash : ℕ → String) (db : Db P) (spotId : ℕ) : Db P :=
  match creationFeeDue db spotId with
  | none => db
  | some amount => (submitSpotCreationFeeTransaction cfg db spotId amount (txHash spotId)).1

/-- `submit_ready_spot_creation_fees`; each Spot's send is recorded under the hash given for it. -/
def submitReadySpotCreationFees (cfg : Settings P) (txHash : ℕ → String) (db : Db P) : Db P :=
  (db.getSpotIdsReadyForCreationFee 50).foldl (submitDueCreationFee cfg txHash) db

/-- `check_pending_transactions`. -/
def checkPendingTransactions (cfg : Settings P) (replies : Trans → RowReplies) (feeHash : ℕ → String)
    (db : Db P) (maxChecks : ℕ) : Db P × Except PassError (List Checked) :=
  match checkRows cfg replies db (db.getPendingTransactions maxChecks) with
  | (db, .error e) => (db, .error e)
  | (db, .ok checked) => (submitReadySpotCreationFees cfg feeHash db, .ok checked)

end NimHunt
