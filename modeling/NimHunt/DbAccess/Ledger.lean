import NimHunt.Database
import NimHunt.Lib.Paging

/-!
# The transaction ledger

Reads and writes of TRANSACTION: the paged read every money-moving flow decides on, the totals, and
the insert behind the partial unique indexes of `database.py`.
-/

namespace NimHunt

open Lib

variable {P : Type}

def maxLimit : ℕ := 500

def clampLimit (limit : ℕ) : ℕ := max 1 (min limit maxLimit)

/-- `ORDER BY created_at DESC, id DESC`. -/
def Trans.Newer (a b : Trans) : Prop :=
  b.createdAt < a.createdAt ∨ b.createdAt = a.createdAt ∧ b.id ≤ a.id

instance : DecidableRel Trans.Newer := fun a b =>
  inferInstanceAs (Decidable (b.createdAt < a.createdAt ∨ b.createdAt = a.createdAt ∧ b.id ≤ a.id))

/-- The amounts of the rows of one type and status. -/
def total (type : TransType) (status : TransStatus) (rows : List Trans) : ℕ :=
  ((rows.filter fun t => t.type = type ∧ t.status = status).map Trans.amount).sum

lemma total_perm {type : TransType} {status : TransStatus} {xs ys : List Trans} (h : xs.Perm ys) :
    total type status xs = total type status ys :=
  ((h.filter _).map _).sum_eq

namespace Db

/-- Every TRANSACTION row of a Spot. -/
def transOfSpot (db : Db P) (spotId : ℕ) : List Trans := db.trans.filter fun t => t.spotId = some spotId

def getTransactionsBySpot (db : Db P) (spotId : ℕ) (limit : ℕ) : List Trans :=
  page Trans.Newer (clampLimit limit) (db.transOfSpot spotId)

def getTransaction (db : Db P) (transId : ℕ) : Option Trans := db.trans.find? fun t => t.id = transId

def getConfirmedSpotDepositTotal (db : Db P) (spotId : ℕ) : ℕ :=
  total .fillSpot .confirmed (db.transOfSpot spotId)

def getPendingSpotDepositTotal (db : Db P) (spotId : ℕ) : ℕ :=
  total .fillSpot .pending (db.transOfSpot spotId)

def hasSpotNonfailedDepositTransactions (db : Db P) (spotId : ℕ) : Bool :=
  (db.transOfSpot spotId).any fun t => t.type = .fillSpot ∧ t.status ≠ .failed

/-- The first confirmed on-chain sender of the Spot's deposits. -/
def getConfirmedSpotFundingAddress (db : Db P) (spotId : ℕ) : Option Address :=
  ((db.transOfSpot spotId).find? fun t => t.type = .fillSpot ∧ t.status = .confirmed).map Trans.fromAddress

def hasNonfailed (db : Db P) (type : TransType) (spotId : ℕ) : Bool :=
  (db.transOfSpot spotId).any fun t => t.type = type ∧ t.status ≠ .failed

def hasNonfailedSpotCreationFeeTransaction (db : Db P) (spotId : ℕ) : Bool :=
  db.hasNonfailed .creationFee spotId

def hasNonfailedSpotRemainderRefundTransaction (db : Db P) (spotId : ℕ) : Bool :=
  db.hasNonfailed .remainderRefund spotId

def hasNonfailedClaimPayoutTransaction (db : Db P) (claimId : ℕ) : Bool :=
  db.trans.any fun t => t.claimId = some claimId ∧ t.type = .claim ∧ t.status ≠ .failed

def hasConfirmedClaimPayoutTransaction (db : Db P) (claimId : ℕ) : Bool :=
  db.trans.any fun t => t.claimId = some claimId ∧ t.type = .claim ∧ t.status = .confirmed

/-- The most recent failed payout of a claim, whose amount a retry repeats. -/
def latestFailedClaimPayoutAmount (db : Db P) (claimId : ℕ) : Option ℕ :=
  (page Trans.Newer 1
    (db.trans.filter fun t => t.claimId = some claimId ∧ t.type = .claim ∧ t.status = .failed)).head?.map
    Trans.amount

/-- SUCCESS claims of standard Spots without an active or confirmed payout, for one Spot. -/
def getUnpaidSuccessfulStandardClaims (db : Db P) (spotId : ℕ) : List (Claim P) :=
  db.claims.filter fun c => c.spotId = spotId ∧ c.status = .success ∧
    db.isPrizedraw c.spotId = false ∧ db.hasNonfailedClaimPayoutTransaction c.id = false

def countSuccessfulStandardClaimsWithoutConfirmedPayout (db : Db P) (spotId : ℕ) : ℕ :=
  db.claims.countP fun c => c.spotId = spotId ∧ c.status = .success ∧
    db.isPrizedraw c.spotId = false ∧ db.hasConfirmedClaimPayoutTransaction c.id = false

end Db

/-- The values of an `INSERT INTO trans`. -/
structure NewTrans where
  userId : ℕ
  spotId : Option ℕ
  claimId : Option ℕ
  type : TransType
  amount : ℕ
  fromAddress : Address
  toAddress : Address
  txHash : String

/-- The legs of which a Spot may hold one that has not failed. -/
def TransType.oncePerSpot : TransType → Bool
  | .cancelSpot | .platFee | .creationFee | .remainderRefund => true
  | .fillSpot | .claim => false

/-- The partial unique indexes: an active row of the same kind for the same claim or Spot. -/
def NewTrans.activeTwin (row : NewTrans) (old : Trans) : Bool :=
  old.type = row.type ∧ old.status ≠ .failed ∧
    ((row.type = .claim ∧ row.claimId.isSome = true ∧ old.claimId = row.claimId) ∨
      (row.type.oncePerSpot = true ∧ row.spotId.isSome = true ∧ old.spotId = row.spotId))

namespace Db

/-- `_create_transaction`: the row starts PENDING; a unique index refuses a second active leg and a
known hash. -/
def createTransaction (db : Db P) (row : NewTrans) : Outcome P ℕ :=
  if db.trans.any fun old => old.txHash = row.txHash then
    (db, .error (.integrityError "UNIQUE constraint failed: trans.tx_hash"))
  else if db.trans.any row.activeTwin then
    (db, .error (.integrityError
      (if row.type = .claim then "UNIQUE constraint failed: trans.claim_id"
        else "UNIQUE constraint failed: trans.spot_id, trans.type")))
  else
    let transId := db.transSeq + 1
    ({ db with
        trans := db.trans ++ [{
          id := transId, userId := row.userId, spotId := row.spotId, claimId := row.claimId,
          type := row.type, amount := row.amount, fromAddress := row.fromAddress,
          toAddress := row.toAddress, txHash := row.txHash, status := .pending, createdAt := db.now }]
        transSeq := transId }, .ok transId)

def createClaimTransaction (db : Db P) (userId claimId amount : ℕ) (fromAddress toAddress : Address)
    (txHash : String) : Outcome P ℕ :=
  match db.getClaim claimId with
  | none => (db, .error (.runtimeError s!"Claim not found id={claimId}"))
  | some claim =>
    if db.hasNonfailedClaimPayoutTransaction claimId then
      (db, .error (.runtimeError s!"Claim id={claimId} already has a non-failed payout transaction"))
    else db.createTransaction
      ⟨userId, some claim.spotId, some claimId, .claim, amount, fromAddress, toAddress, txHash⟩

/-- `UPDATE trans SET t_status WHERE id AND t_status = PENDING`; repeating the status a row already
has is accepted, any other change of a final row raises. -/
def modifyTransactionStatus (db : Db P) (transId : ℕ) (status : TransStatus) : Outcome P Unit :=
  match db.getTransaction transId with
  | none =>
    (db, .error (.runtimeError s!"Failed to update pending transaction status id={transId}"))
  | some current =>
    if current.status = .pending then
      ({ db with
          trans := updateWhere (fun t => t.id = transId) (fun t => { t with status := status }) db.trans },
        .ok ())
    else if current.status = status then (db, .ok ())
    else (db, .error (.runtimeError s!"Failed to update pending transaction status id={transId}"))

/-- `update_transaction_chain_details` with the sender, recipient and amount the chain shows. -/
def updateTransactionChainDetails (db : Db P) (transId : ℕ) (transfer : ChainTransfer) : Db P :=
  { db with
    trans := updateWhere (fun t => t.id = transId)
      (fun t => { t with
        fromAddress := transfer.fromAddress, toAddress := transfer.toAddress, amount := transfer.amount })
      db.trans }

end Db

/-- An exception rolls the transaction back. -/
def Outcome.orRollback {R : Type} (db : Db P) (outcome : Outcome P R) : Outcome P R :=
  match outcome with
  | (_, .error e) => (db, .error e)
  | (db', .ok r) => (db', .ok r)

@[simp] lemma Outcome.orRollback_snd {R : Type} (db : Db P) (outcome : Outcome P R) :
    (outcome.orRollback db).2 = outcome.2 := by
  rcases outcome with ⟨db', e | r⟩ <;> rfl

lemma Outcome.orRollback_error {R : Type} {db : Db P} {outcome : Outcome P R} {e : Raised}
    (h : outcome.2 = .error e) : (outcome.orRollback db).1 = db := by
  rcases outcome with ⟨db', e' | r⟩
  · rfl
  · simp at h

end NimHunt
