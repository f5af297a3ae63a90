import NimHunt.AdminModeration
import NimHunt.Lib.Runs
import NimHunt.RefundAddressSafety
import NimHunt.TransactionChecks

/-!
# The payout outbox

`trans_updater._submit_recorded_chain_send`: an outgoing payment is a PENDING row with a local intent
hash, committed before the helper is asked to sign and broadcast, and the hash the helper answers with
replaces the intent.  `funding_monitor` looks in the address history for the hash of a creation fee
whose answer was lost.  Other tasks run between any two of these transactions; a crash forgets them all.
-/

namespace NimHunt

open Lib

variable {P : Type}

def makeLocalIntentHash (kind : String) (primaryId : ℕ) (token : String) : String :=
  localTransactionIntentPrefix ++ (kind ++ ":" ++ toString primaryId ++ ":" ++ token)

/-- What the helper says it has sent. -/
structure SubmittedChainTransaction where
  txHash : String
  fromAddress : Address
  toAddress : Address
  amount : ℤ
  deriving DecidableEq, Repr

/-- `_validate_submitted_chain_send`. -/
def validateSubmittedChainSend (cfg : Settings P) (result : SubmittedChainTransaction)
    (expectedFrom expectedTo : Address) (expectedAmount : ℕ) : Except Raised SubmittedChainTransaction :=
  let txHash := cfg.lower (cfg.strip result.txHash)
  match cfg.normaliseNimiqAddress expectedFrom, cfg.normaliseNimiqAddress expectedTo with
  | .error message, _ | _, .error message => .error (.valueError message)
  | .ok expectedFrom, .ok expectedTo =>
    match cfg.normaliseNimiqAddress result.fromAddress, cfg.normaliseNimiqAddress result.toAddress with
    | .error message, _ | _, .error message => .error (.valueError message)
    | .ok actualFrom, .ok actualTo =>
      if actualFrom ≠ expectedFrom then
        .error (.runtimeError "Nimiq helper returned a sender that does not match the intended payment")
      else if actualTo ≠ expectedTo then
        .error (.runtimeError "Nimiq helper returned a recipient that does not match the intended payment")
      else if result.amount ≠ expectedAmount then
        .error (.runtimeError "Nimiq helper returned an amount that does not match the intended payment")
      else if isNimiqTransactionHash txHash = false then
        .error (.runtimeError "Nimiq helper returned an invalid transaction hash")
      else .ok ⟨txHash, actualFrom, actualTo, result.amount⟩

/-- `update_transaction_chain_details` with a hash: `tx_hash` is UNIQUE. -/
def attachChainHash (cfg : Settings P) (db : Db P) (transId : ℕ) (txHash : String) (transfer : ChainTransfer) :
    Outcome P Unit :=
  let cleanHash := cfg.strip txHash
  if cleanHash = "" then (db, .error (.valueError "tx_hash must be non-empty"))
  else if (db.getTransaction transId).isNone then
    (db, .error (.runtimeError s!"Failed to update transaction chain details id={transId}"))
  else if db.trans.any fun t => t.id ≠ transId ∧ t.txHash = cleanHash then
    (db, .error (.integrityError "UNIQUE constraint failed: trans.tx_hash"))
  else
    ({ db with
        trans := updateWhere (fun t => t.id = transId)
          (fun t => { t with
            fromAddress := transfer.fromAddress, toAddress := transfer.toAddress, amount := transfer.amount,
            txHash := cleanHash }) db.trans }, .ok ())

/-- The legs the server pays, each with what its submitter is called with. -/
inductive PaymentLeg
  | claimReward (job : PayoutJob)
  | platformFee (spotId amount : ℕ) (feeAddress : Address)
  | spotRefund (spotId amount : ℕ) (refundAddress : Address)
  | creationFee (spotId amount : ℕ)
  | spotRemainderRefund (spotId amount : ℕ) (refundAddress : Address)
  | moderationSweep (spotId amount : ℕ)

/-- The transaction that reserves a leg. -/
def reserve (cfg : Settings P) (db : Db P) (token : String) : PaymentLeg → Outcome P ℕ
  | .claimReward job =>
    submitClaimRewardTransaction cfg db job (makeLocalIntentHash "claim_reward" job.claimId token)
  | .platformFee spotId amount feeAddress =>
    submitPlatformFeeTransaction cfg db spotId amount feeAddress (makeLocalIntentHash "platform_fee" spotId token)
  | .spotRefund spotId amount refundAddress =>
    submitSpotRefundTransaction cfg db spotId amount refundAddress (makeLocalIntentHash "spot_refund" spotId token)
  | .creationFee spotId amount =>
    submitSpotCreationFeeTransaction cfg db spotId amount (makeLocalIntentHash "creation_fee" spotId token)
  | .spotRemainderRefund spotId amount refundAddress =>
    submitSpotRemainderRefundTransaction cfg db spotId amount refundAddress
      (makeLocalIntentHash "spot_remainder_refund" spotId token)
  | .moderationSweep spotId amount =>
    submitBanSweep cfg db spotId amount (makeLocalIntentHash "moderation_sweep" spotId token)

section Recovery

/-- `is_real_chain_hash`. -/
def isRealChainHash (cfg : Settings P) (txHash : String) : Bool :=
  cfg.strip txHash ≠ "" ∧ isLocalIntentHash (cfg.strip txHash) = false

/-- An entry of the history that pays what the intent was to pay. -/
structure RecoveredHash where
  txHash : String
  block : Option ℤ
  transfer : ChainTransfer

/-- One turn of the loop over the history: a hash another row has is passed over. -/
def weighCandidate (cfg : Settings P) (db : Db P) (row : Trans) (candidate : Json) :
    Except PyError (Option RecoveredHash) :=
  let txHash := cfg.strip ((extractChainHash cfg candidate).getD "")
  if txHash = "" then .ok none
  else if db.trans.any fun t => t.txHash = txHash ∧ t.id ≠ row.id then .ok none
  else match extractBlockNumber cfg candidate with
    | .error e => .error e
    | .ok block =>
      match verifyRawDetails cfg row candidate with
      | .error e => .error e
      | .ok (.error _) => .ok none
      | .ok (.ok transfer) => .ok (some ⟨txHash, block, transfer⟩)

/-- `unique = {item[0].lower(): item for item in matches}`. -/
def uniqueMatches (cfg : Settings P) (found : List RecoveredHash) : List RecoveredHash :=
  found.foldl (fun kept item =>
    if kept.any fun k => cfg.lower k.txHash = cfg.lower item.txHash then
      kept.map fun k => if cfg.lower k.txHash = cfg.lower item.txHash then item else k
    else kept ++ [item]) []

/-- `recover_local_creation_fee_intents` for one intent, up to the only match. -/
def recoverCreationFeeIntent (cfg : Settings P) (db : Db P) (row : Trans) (reply : RpcReply) :
    Except PyError (Option RecoveredHash) :=
  if cfg.strip row.fromAddress = "" then .ok none
  else match jsonRpcPost cfg reply with
    | .error _ => .ok none
    | .ok history =>
      match (iterCandidateTransactions cfg history.size [(unwrapRpcResult history).1]).mapM
          (weighCandidate cfg db row) with
      | .error e => .error e
      | .ok found =>
        match uniqueMatches cfg (found.filterMap id) with
        | [only] => .ok (some only)
        | _ => .ok none

end Recovery

/-- What a task holds between two of its transactions. -/
inductive OutboxTask
  | send (row : Trans)
  | attach (row : Trans) (submitted : SubmittedChainTransaction)
  | check (row : Trans)
  | recover (row : Trans)
  | attachRecovered (row : Trans) (found : RecoveredHash)
  | confirmRecovered (transId : ℕ) (found : RecoveredHash)

/-- What the outside answers a task with; a helper that raises is `none`. -/
structure OutboxAnswer where
  helper : Option SubmittedChainTransaction := none
  replies : RowReplies := ⟨.raises .urlError, .raises .urlError, .raises .urlError, .raises .urlError⟩
  history : RpcReply := .raises .urlError

/-- An answer of the chain about a row, with the time it was asked at. -/
inductive ChainEvidence
  | checked (now : ℕ) (row : Trans) (replies : RowReplies)
  | history (row : Trans) (reply : RpcReply)

/-- The tables and the tasks; `asked` and `evidence` record which rows the helper was asked to send and
what the chain has answered. -/
structure Outbox (P : Type) where
  db : Db P
  tasks : List OutboxTask
  asked : List ℕ
  evidence : List ChainEvidence

def Outbox.initial (db : Db P) : Outbox P := ⟨db, [], [], []⟩

inductive OutboxOp (P : Type)
  /-- Whatever the rest of the application does with the other tables, and the time it takes. -/
  | elsewhere (db : Db P)
  | reserve (leg : PaymentLeg) (token : String)
  | deposit (userId spotId amount : ℕ) (fromAddress : Address) (txHash : String) (toAddress : Option Address)
  | readPending (transId : ℕ)
  | readIntent (transId : ℕ)
  | resume (index : ℕ) (answer : OutboxAnswer)
  | crash

namespace Outbox

/-- The next transaction of a task. -/
def resume (cfg : Settings P) (s : Outbox P) (answer : OutboxAnswer) : OutboxTask → Outbox P
  | .send row =>
    let asked := s.asked ++ [row.id]
    match answer.helper with
    | none => { s with asked := asked }
    | some result =>
      match validateSubmittedChainSend cfg result row.fromAddress row.toAddress row.amount with
      | .error _ => { s with asked := asked }
      | .ok submitted => { s with asked := asked, tasks := s.tasks ++ [.attach row submitted] }
  | .attach row submitted =>
    { s with db := (attachChainHash cfg s.db row.id submitted.txHash
        ⟨submitted.fromAddress, submitted.toAddress, submitted.amount.toNat⟩).1 }
  | .check row =>
    match assessRow cfg s.db.now row answer.replies with
    | .error _ => s
    | .ok (status, verdict) =>
      { s with
        db := (settleRow s.db row status.blockNumber verdict).1
        evidence := s.evidence ++ [.checked s.db.now row answer.replies] }
  | .recover row =>
    match recoverCreationFeeIntent cfg s.db row answer.history with
    | .error _ | .ok none => s
    | .ok (some found) =>
      { s with
        tasks := s.tasks ++ [.attachRecovered row found]
        evidence := s.evidence ++ [.history row answer.history] }
  | .attachRecovered row found =>
    if (unstorable found.block found.transfer).isSome then s
    else match attachChainHash cfg s.db row.id found.txHash found.transfer with
      | (db, .error _) => { s with db := db }
      | (db, .ok ()) => { s with db := db, tasks := s.tasks ++ [.confirmRecovered row.id found] }
  | .confirmRecovered transId found =>
    match s.db.getTransaction transId with
    | none => s
    | some updated => { s with db := (settleRow s.db updated found.block (.accept found.transfer)).1 }

def step (cfg : Settings P) (s : Outbox P) : OutboxOp P → Outbox P
  | .elsewhere db => { s with db := { db with trans := s.db.trans, transSeq := s.db.transSeq } }
  | .reserve leg token =>
    match reserve cfg s.db token leg with
    | (db, .error _) => { s with db := db }
    | (db, .ok transId) =>
      { s with db := db, tasks := s.tasks ++ (db.getTransaction transId).toList.map .send }
  | .deposit userId spotId amount fromAddress txHash toAddress =>
    { s with
      db := (RefundAddressSafety.recordSpotDepositTransaction cfg s.db userId spotId amount fromAddress txHash
        toAddress).1 }
  | .readPending transId =>
    match s.db.getTransaction transId with
    | none => s
    | some row => if row.status = .pending then { s with tasks := s.tasks ++ [.check row] } else s
  | .readIntent transId =>
    match s.db.getTransaction transId with
    | none => s
    | some row =>
      if row.status = .pending ∧ row.type = .creationFee ∧ isRealChainHash cfg row.txHash = false then
        { s with tasks := s.tasks ++ [.recover row] }
      else s
  | .resume index answer =>
    match s.tasks[index]? with
    | none => s
    | some task => resume cfg { s with tasks := s.tasks.eraseIdx index } answer task
  | .crash => { s with tasks := [] }

end Outbox

end NimHunt
