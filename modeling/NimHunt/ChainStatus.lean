import NimHunt.TransUpdater
import Mathlib.Data.List.Infix

/-!
# Asking the chain

`trans_updater.py`: what a JSON-RPC answer says about one transaction hash, and how a pending row is
checked against it.  A call may answer with any JSON value or raise; the exceptions each helper
catches are the ones its `except` clause names.
-/

namespace NimHunt

open Lib

variable {P : Type}

inductive FloatValue
  | finite (value : ℚ)
  | infinite
  | nan
  deriving DecidableEq, Repr

/-- A decoded JSON value; a float also has the text Python prints it as. -/
inductive Json
  | null
  | bool (value : Bool)
  | int (value : ℤ)
  | float (text : String) (value : FloatValue)
  | str (value : String)
  | arr (items : List Json)
  | obj (fields : List (String × Json))

/-- The exceptions that can leave an RPC helper; `RecursionError` is a RuntimeError. -/
inductive PyError
  | timeoutError | urlError | osError | runtimeError
  /-- `json.JSONDecodeError` and `UnicodeDecodeError`, both ValueErrors. -/
  | jsonDecodeError | unicodeDecodeError
  /-- A plain ValueError, as `int` raises it for a text of too many digits. -/
  | valueError
  /-- `http.client.HTTPException`, which is no OSError. -/
  | httpException
  | overflowError
  deriving DecidableEq, Repr

/-- How one RPC call ends; the integers of a body have as many digits as its text. -/
inductive RpcReply
  | raises (e : PyError)
  | notUtf8
  | notJson
  | body (value : Json)

/-- `except (TimeoutError, URLError, OSError, RuntimeError)`. -/
def PyError.isCaught : PyError → Bool
  | .timeoutError | .urlError | .osError | .runtimeError => true
  | _ => false

/-- The same with `json.JSONDecodeError`, as the recovery from an address history has it. -/
def PyError.isCaughtByRecovery : PyError → Bool
  | .jsonDecodeError => true
  | e => e.isCaught

namespace Json

def get (fields : List (String × Json)) (key : String) : Option Json := fields.lookup key

/-- The values one step further down, each with the key it stands under. -/
def children : Json → List (String × Json)
  | .obj fields => fields
  | .arr items => items.zipIdx.map fun (item, i) => (toString i, item)
  | _ => []

def isContainer : Json → Bool
  | .obj _ | .arr _ => true
  | _ => false

mutual
def size : Json → ℕ
  | .obj fields => 1 + sizeFields fields
  | .arr items => 1 + sizeItems items
  | _ => 1

def sizeFields : List (String × Json) → ℕ
  | [] => 0
  | (_, value) :: fields => value.size + sizeFields fields

def sizeItems : List Json → ℕ
  | [] => 0
  | value :: items => value.size + sizeItems items
end

/-- `sys.int_info.default_max_str_digits`. -/
def maxStrDigits : ℕ := 4300

mutual
/-- No integer of the value has more digits than `int` reads from a text. -/
def intsDecode : Json → Bool
  | .int value => decide ((Nat.toDigits 10 value.natAbs).length ≤ maxStrDigits)
  | .obj fields => fieldsDecode fields
  | .arr items => itemsDecode items
  | _ => true

def fieldsDecode : List (String × Json) → Bool
  | [] => true
  | (_, value) :: fields => value.intsDecode && fieldsDecode fields

def itemsDecode : List Json → Bool
  | [] => true
  | value :: items => value.intsDecode && itemsDecode items
end

lemma sizeFields_eq (fields : List (String × Json)) : sizeFields fields = (fields.map fun f => f.2.size).sum := by
  induction fields with
  | nil => simp [sizeFields]
  | cons f fields ih => simp [sizeFields, ih]

lemma sizeItems_eq (items : List Json) : sizeItems items = (items.map size).sum := by
  induction items with
  | nil => simp [sizeItems]
  | cons v items ih => simp [sizeItems, ih]

lemma children_size (value : Json) : (value.children.map fun c => c.2.size).sum < value.size := by
  cases value with
  | obj fields => simp [children, size, sizeFields_eq]
  | arr items =>
    have hitems : (items.zipIdx.map fun p => p.1.size) = items.map size := by
      have hcomp : (fun p : Json × ℕ => p.1.size) = size ∘ Prod.fst := rfl
      rw [hcomp, ← List.map_map, List.zipIdx_map_fst]
    simp only [children, size, sizeItems_eq, List.map_map, Function.comp_def]
    rw [hitems]
    omega
  | null => simp [children, size]
  | bool => simp [children, size]
  | int => simp [children, size]
  | float => simp [children, size]
  | str => simp [children, size]

def nextLevel (level : List (ℕ × String × Json)) : List (ℕ × String × Json) :=
  level.flatMap fun item => item.2.2.children.map fun c => (item.1 + 1, c)

lemma nextLevel_size (level : List (ℕ × String × Json)) (h : level ≠ []) :
    ((nextLevel level).map fun c => c.2.2.size).sum < (level.map fun c => c.2.2.size).sum := by
  unfold nextLevel
  induction level with
  | nil => exact absurd rfl h
  | cons item level ih =>
    have hitem := children_size item.2.2
    simp only [List.flatMap_cons, List.map_append, List.sum_append, List.map_cons, List.sum_cons, List.map_map,
      Function.comp_def]
    by_cases hlevel : level = []
    · subst hlevel
      simpa using hitem
    · have := ih hlevel
      omega

/-- One breadth-first level after another: depth, last key, value. -/
def walkFrom (level : List (ℕ × String × Json)) : List (ℕ × String × Json) :=
  if _h : level = [] then []
  else level ++ walkFrom (nextLevel level)
termination_by (level.map fun c => c.2.2.size).sum
decreasing_by exact nextLevel_size level ‹_›

/-- `_walk_json` without its first pair, the root. -/
def walk (value : Json) : List (ℕ × String × Json) := walkFrom (value.children.map fun c => (1, c))

/-- `str(value or "")` of a scalar. -/
def text : Json → String
  | .null | .bool false | .int 0 | .float _ (.finite 0) => ""
  | .bool true => "True"
  | .int value => toString value
  | .float text _ => text
  | .str value => value
  | .arr _ | .obj _ => ""

mutual
/-- Python's `repr(value)`. -/
def repr (cfg : Settings P) : Json → String
  | .null => "None"
  | .bool value => if value then "True" else "False"
  | .int value => toString value
  | .float text _ => text
  | .str value => cfg.reprText value
  | .arr items => "[" ++ String.intercalate ", " (reprItems cfg items) ++ "]"
  | .obj fields => "\x7b" ++ String.intercalate ", " (reprFields cfg fields) ++ "\x7d"

def reprItems (cfg : Settings P) : List Json → List String
  | [] => []
  | value :: items => repr cfg value :: reprItems cfg items

def reprFields (cfg : Settings P) : List (String × Json) → List String
  | [] => []
  | (key, value) :: fields => (cfg.reprText key ++ ": " ++ repr cfg value) :: reprFields cfg fields
end

/-- `str(value or "")`. -/
def textOrEmpty (cfg : Settings P) : Json → String
  | .arr [] | .obj [] => ""
  | .arr items => repr cfg (.arr items)
  | .obj fields => repr cfg (.obj fields)
  | value => value.text

/-- Python's `int(value)`; a TypeError or ValueError is `none`. -/
def toInt (cfg : Settings P) : Json → Except PyError (Option ℤ)
  | .bool value => .ok (some (if value then 1 else 0))
  | .int value => .ok (some value)
  | .float _ (.finite value) => .ok (some (if 0 ≤ value then value.floor else value.ceil))
  | .float _ .infinite => .error .overflowError
  | .str value => .ok (cfg.parseInt value)
  | _ => .ok none

end Json

/-- `_is_not_found_error`. -/
def isNotFoundError (cfg : Settings P) : Json → Bool
  | .obj fields =>
    let message := (cfg.lower (((Json.get fields "message").getD .null).textOrEmpty cfg)).toList
    ["not found", "unknown transaction", "transaction not found", "could not find"].any fun phrase =>
      decide (phrase.toList <:+: message)
  | _ => false

/-- `_json_rpc_post_sync` once `json.loads` has returned. -/
def rpcResult (cfg : Settings P) : Json → Except PyError Json
  | .obj fields =>
    match (Json.get fields "error").getD .null with
    | .null => .ok ((Json.get fields "result").getD .null)
    | error => if isNotFoundError cfg error then .ok .null else .error .runtimeError
  | _ => .error .runtimeError

/-- `_json_rpc_post_sync` from the moment the body is read. -/
def jsonRpcPost (cfg : Settings P) : RpcReply → Except PyError Json
  | .raises e => .error e
  | .notUtf8 => .error .unicodeDecodeError
  | .notJson => .error .jsonDecodeError
  | .body value => if value.intsDecode = false then .error .valueError else rpcResult cfg value

/-- `_unwrap_rpc_result`. -/
def unwrapRpcResult : Json → Json × Json
  | .obj fields =>
    match Json.get fields "data", Json.get fields "metadata" with
    | some data, some metadata => (data, metadata)
    | _, _ => (.obj fields, .null)
  | result => (result, .null)

/-- The first of the keys whose value converts. -/
def firstIntForKeys (cfg : Settings P) (fields : List (String × Json)) : List String → Except PyError (Option ℤ)
  | [] => .ok none
  | key :: keys =>
    match (Json.get fields key).getD .null with
    | .null => firstIntForKeys cfg fields keys
    | candidate =>
      match candidate.toInt cfg with
      | .error e => .error e
      | .ok (some value) => .ok (some value)
      | .ok none => firstIntForKeys cfg fields keys

def extractBlockNumber (cfg : Settings P) : Json → Except PyError (Option ℤ)
  | .obj fields =>
    firstIntForKeys cfg fields ["blockNumber", "block_number", "blockHeight", "block_height", "block"]
  | _ => .ok none

/-- `_extract_block_number(data) or _extract_block_number(metadata)`. -/
def extractEitherBlockNumber (cfg : Settings P) (data metadata : Json) : Except PyError (Option ℤ) :=
  match extractBlockNumber cfg data with
  | .error e => .error e
  | .ok (some value) => if value = 0 then extractBlockNumber cfg metadata else .ok (some value)
  | .ok none => extractBlockNumber cfg metadata

/-- `_execution_result_is_failure`: some layer says that the execution result is false. -/
def executionResultIsFailure (cfg : Settings P) (value : Json) : Bool :=
  value.walk.any fun (_, key, item) =>
    (cfg.lower (String.ofList (key.toList.filter (· ≠ '_'))) == "executionresult") &&
      (match item with
        | .bool false => true
        | _ => false)

def normaliseAddressForCompare (cfg : Settings P) (value : String) : Option Address :=
  if cfg.strip value = "" then none else (cfg.normaliseNimiqAddress (cfg.strip value)).toOption

/-- The scalars under one of the keys, in the order `_walk_json` meets them. -/
def scalarsForKeys (cfg : Settings P) (keys : List String) (value : Json) : List (ℕ × String × Json) :=
  value.walk.filter fun (_, key, item) => !item.isContainer && decide (cfg.lower key ∈ keys)

def firstAddressForKeys (cfg : Settings P) (keys : List String) (value : Json) : Option Address :=
  (scalarsForKeys cfg keys value).findSome? fun (_, _, item) => normaliseAddressForCompare cfg item.text

def extractChainFromAddress (cfg : Settings P) : Json → Option Address :=
  firstAddressForKeys cfg ["sender", "senderaddress", "sender_address", "from", "fromaddress", "from_address"]

def extractChainToAddress (cfg : Settings P) : Json → Option Address :=
  firstAddressForKeys cfg ["recipient", "recipientaddress", "recipient_address", "to", "toaddress", "to_address"]

/-- What one field under `value` or `amount` says: its rank (the key, then the depth) and the amount. -/
def amountCandidate (cfg : Settings P) (item : ℕ × String × Json) :
    Except PyError (Option ((ℕ × ℕ) × ℕ)) :=
  let parsed : Except PyError (Option ℤ) := match item.2.2 with
    | .str value => .ok (cfg.parseIntAnyBase value)
    | value => value.toInt cfg
  match parsed with
  | .error e => .error e
  | .ok none => .ok none
  | .ok (some amount) =>
    if 0 ≤ amount then .ok (some ((if cfg.lower item.2.1 = "value" then 0 else 1, item.1), amount.toNat))
    else .ok none

/-- `_extract_chain_amount`: the candidate of the least rank, the first of equals. -/
def extractChainAmount (cfg : Settings P) (value : Json) : Except PyError (Option ℕ) :=
  match (scalarsForKeys cfg ["value", "amount"] value).mapM (amountCandidate cfg) with
  | .error e => .error e
  | .ok found =>
    let ranked := (found.filterMap id).insertionSort fun a b =>
      a.1.1 < b.1.1 ∨ a.1.1 = b.1.1 ∧ a.1.2 ≤ b.1.2
    .ok (ranked.head?.map Prod.snd)

def extractChainHash (cfg : Settings P) (value : Json) : Option String :=
  (scalarsForKeys cfg ["hash", "tx_hash", "txhash", "transactionhash", "transaction_hash"] value).findSome?
    fun (_, _, item) => if cfg.strip item.text = "" then none else some (cfg.strip item.text)

def normaliseChainHash (cfg : Settings P) (hash : String) : String := cfg.lower (cfg.strip hash)

/-- The queue of `_iter_candidate_transactions`; every turn takes one value of the answer off it. -/
def iterCandidateTransactions (cfg : Settings P) : ℕ → List Json → List Json
  | 0, _ | _, [] => []
  | turns + 1, item :: queue =>
    match item with
    | .arr items => iterCandidateTransactions cfg turns (queue ++ items)
    | .obj fields =>
      if (extractChainHash cfg item).isSome then item :: iterCandidateTransactions cfg turns queue
      else iterCandidateTransactions cfg turns (queue ++
        (["transactions", "items", "data", "results", "result"].filterMap (Json.get fields)).filter Json.isContainer)
    | _ => iterCandidateTransactions cfg turns queue

def findTransactionByHash (cfg : Settings P) (result : Json) (txHash : String) : Option Json :=
  (iterCandidateTransactions cfg result.size [(unwrapRpcResult result).1]).find? fun candidate =>
    (extractChainHash cfg candidate).any fun hash => normaliseChainHash cfg hash = normaliseChainHash cfg txHash

inductive TransOutcome
  | pending | confirmed | failed | unknown
  deriving DecidableEq, Repr

structure ChainTransactionStatus where
  status : TransOutcome
  txHash : String
  blockNumber : Option ℤ := none
  raw : Json := .null
  reason : String := ""

/-- The replies to the calls one row may need in one pass. -/
structure RowReplies where
  byHash : RpcReply
  recovery : RpcReply
  staleHistory : RpcReply
  proof : RpcReply

def localTransactionIntentPrefix : String := "NIMHUNT_INTENT:"

def isLocalIntentHash (txHash : String) : Bool :=
  localTransactionIntentPrefix.toList.isPrefixOf txHash.toList

def Trans.isServerInitiated (row : Trans) : Bool := row.type ≠ .fillSpot

def verificationAddressForRecord (cfg : Settings P) (row : Trans) : Option Address :=
  if row.type = .fillSpot then normaliseAddressForCompare cfg row.toAddress
  else (normaliseAddressForCompare cfg row.fromAddress).or (normaliseAddressForCompare cfg row.toAddress)

/-- `get_chain_transaction_status`. -/
def getChainTransactionStatus (cfg : Settings P) (txHash : String) (reply : RpcReply) :
    Except PyError ChainTransactionStatus :=
  let txHash := cfg.strip txHash
  if txHash = "" then .ok { status := .failed, txHash := txHash, reason := "empty tx_hash" }
  else match jsonRpcPost cfg reply with
    | .error e => if e.isCaught then .ok { status := .unknown, txHash := txHash } else .error e
    | .ok .null => .ok { status := .pending, txHash := txHash, reason := "hash not found yet" }
    | .ok result =>
      let (data, metadata) := unwrapRpcResult result
      match extractEitherBlockNumber cfg data metadata with
      | .error e => .error e
      | .ok blockNumber =>
        if executionResultIsFailure cfg data then
          .ok ⟨.failed, txHash, blockNumber, result, "executionResult was false"⟩
        else .ok ⟨.confirmed, txHash, blockNumber, result, ""⟩

/-- What an address history says about the hash: the status of its entry, if it has one. -/
def statusFromHistory (cfg : Settings P) (txHash : String) (history : Json) (failure success : String) :
    Except PyError (Option ChainTransactionStatus) :=
  match findTransactionByHash cfg history txHash with
  | none => .ok none
  | some found =>
    match extractBlockNumber cfg found with
    | .error e => .error e
    | .ok blockNumber =>
      if executionResultIsFailure cfg found then .ok (some ⟨.failed, txHash, blockNumber, found, failure⟩)
      else .ok (some ⟨.confirmed, txHash, blockNumber, found, success⟩)

/-- `_recover_server_transaction_from_address_history`. -/
def recoverServerTransactionFromAddressHistory (cfg : Settings P) (row : Trans) (reply : RpcReply) :
    Except PyError (Option ChainTransactionStatus) :=
  if row.isServerInitiated = false then .ok none
  else
    let txHash := cfg.strip row.txHash
    if isNimiqTransactionHash txHash = false then .ok none
    else match verificationAddressForRecord cfg row with
      | none => .ok none
      | some _ =>
        match jsonRpcPost cfg reply with
        | .error e => if e.isCaughtByRecovery then .ok none else .error e
        | .ok history =>
          statusFromHistory cfg txHash history
            "exact hash was found in expected-address history with a failed execution result"
            "exact hash recovered through expected-address transaction history"

def userDepositStaleAfterSeconds : ℕ := 30 * 60
def failAfterSeconds : ℕ := 90 * 60

/-- The last part of the check, for a row the chain does not show. -/
def checkUnseenTransaction (cfg : Settings P) (now : ℕ) (row : Trans) (replies : RowReplies)
    (status : ChainTransactionStatus) : Except PyError ChainTransactionStatus :=
  let txHash := cfg.strip row.txHash
  let age := now - row.createdAt
  if row.type = .fillSpot ∧ userDepositStaleAfterSeconds ≤ age then
    match verificationAddressForRecord cfg row with
    | none =>
      .ok { status := .unknown, txHash := txHash
            reason := "stale deposit cannot be checked because its recipient address is invalid" }
    | some _ =>
      match jsonRpcPost cfg replies.staleHistory with
      | .error e => if e.isCaught then .ok { status := .unknown, txHash := txHash } else .error e
      | .ok history =>
        match statusFromHistory cfg txHash history
            "deposit hash was found in address history with a failed execution result"
            "found through deposit-address history" with
        | .error e => .error e
        | .ok (some found) => .ok found
        | .ok none =>
          .ok { status := .failed, txHash := txHash
                reason := s!"deposit hash was not found by hash or recipient history after {age} seconds; " ++
                  "the Nimiq transaction validity window has elapsed" }
  else if failAfterSeconds ≤ age then
    .ok { status := .unknown, txHash := txHash, raw := status.raw
          reason := s!"hash is still not visible after {failAfterSeconds} seconds; " ++
            "transaction remains pending until failure is proven or an administrator reconciles it" }
  else .ok status

/-- `check_pending_transaction`. -/
def checkPendingTransaction (cfg : Settings P) (now : ℕ) (row : Trans) (replies : RowReplies) :
    Except PyError ChainTransactionStatus :=
  let txHash := cfg.strip row.txHash
  if isLocalIntentHash txHash then
    .ok { status := .pending, txHash := txHash
          reason := "local outbox intent has no chain hash yet; leaving pending to avoid duplicate broadcast" }
  else match getChainTransactionStatus cfg txHash replies.byHash with
    | .error e => .error e
    | .ok status =>
      let recovered : Except PyError (Option ChainTransactionStatus) :=
        if status.status = .pending ∨ status.status = .unknown then
          recoverServerTransactionFromAddressHistory cfg row replies.recovery
        else .ok none
      match recovered with
      | .error e => .error e
      | .ok (some recovered) => .ok recovered
      | .ok none =>
        if status.status ≠ .pending then .ok status
        else checkUnseenTransaction cfg now row replies status

/-- Why confirmed details were not accepted. -/
inductive VerificationFailure
  | executionFailed | noSender | noRecipient | noAmount | storedSenderInvalid | senderMismatch
  | storedRecipientInvalid | recipientMismatch | amountLower | amountMismatch | proofFailed | notInHistory
  deriving DecidableEq, Repr

def VerificationFailure.reason : VerificationFailure → String
  | .executionFailed => "confirmed transaction explicitly reported a failed execution result"
  | .noSender => "confirmed transaction did not expose a sender/from address"
  | .noRecipient => "confirmed transaction did not expose a recipient/to address"
  | .noAmount => "confirmed transaction did not expose an amount/value"
  | .storedSenderInvalid => "stored transaction sender/from address is invalid"
  | .senderMismatch => "confirmed transaction sender does not match stored sender"
  | .storedRecipientInvalid => "stored transaction recipient/to address is invalid"
  | .recipientMismatch => "confirmed transaction recipient does not match expected recipient"
  | .amountLower => "confirmed transaction amount is lower than recorded amount"
  | .amountMismatch => "confirmed outgoing transaction amount does not match recorded amount"
  | .proofFailed => "transaction hash was found, but address-list proof failed"
  | .notInHistory => "transaction hash was not found in expected address transaction history"

/-- The reasons that name missing structure or missing proof rather than a wrong transfer. -/
def VerificationFailure.isUncertain : VerificationFailure → Bool
  | .noSender | .noRecipient | .noAmount | .storedSenderInvalid | .storedRecipientInvalid
  | .proofFailed | .notInHistory => true
  | _ => false

/-- `_verify_chain_details_for_record` on the raw transaction. -/
def verifyRawDetails (cfg : Settings P) (row : Trans) (raw : Json) :
    Except PyError (Except VerificationFailure ChainTransfer) :=
  if executionResultIsFailure cfg raw then .ok (.error .executionFailed)
  else match extractChainAmount cfg raw with
    | .error e => .error e
    | .ok amount =>
      .ok (match extractChainFromAddress cfg raw, extractChainToAddress cfg raw, amount with
        | none, _, _ => .error .noSender
        | _, none, _ => .error .noRecipient
        | _, _, none => .error .noAmount
        | some chainFrom, some chainTo, some chainAmount =>
          let expectedFrom := normaliseAddressForCompare cfg row.fromAddress
          let expectedTo := normaliseAddressForCompare cfg row.toAddress
          if row.type ≠ .fillSpot ∧ expectedFrom = none then .error .storedSenderInvalid
          else if row.type ≠ .fillSpot ∧ expectedFrom ≠ some chainFrom then .error .senderMismatch
          else if expectedTo = none then .error .storedRecipientInvalid
          else if expectedTo ≠ some chainTo then .error .recipientMismatch
          else if row.type = .fillSpot ∧ chainAmount < row.amount then .error .amountLower
          else if row.type ≠ .fillSpot ∧ chainAmount ≠ row.amount then .error .amountMismatch
          else .ok ⟨chainFrom, chainTo, chainAmount⟩)

/-- `verify_chain_details_for_record`, with its fallback to the address history. -/
def verifyChainDetailsForRecord (cfg : Settings P) (row : Trans) (status : ChainTransactionStatus)
    (reply : RpcReply) : Except PyError (Except VerificationFailure ChainTransfer) :=
  match verifyRawDetails cfg row status.raw with
  | .error e => .error e
  | .ok (.ok transfer) => .ok (.ok transfer)
  | .ok (.error direct) =>
    let txHash := cfg.strip (if status.txHash = "" then row.txHash else status.txHash)
    match txHash, verificationAddressForRecord cfg row with
    | "", _ | _, none => .ok (.error direct)
    | _, some _ =>
      match jsonRpcPost cfg reply with
      | .error e => if e.isCaught then .ok (.error .proofFailed) else .error e
      | .ok history =>
        match findTransactionByHash cfg history txHash with
        | none => .ok (.error .notInHistory)
        | some found => verifyRawDetails cfg row found

end NimHunt
