import NimHunt.Proofs.TransactionPass

/-!
# Which answers stop a pass

A helper turns the exceptions its `except` clause names into a verdict; any other exception leaves the
loop and takes the later rows with it.  `Interrupts` lists, call by call, what a row must be answered
for that to happen.
-/

namespace NimHunt

open Lib

variable {P : Type}

section Answers

variable (cfg : Settings P) (now : ℕ) (row : Trans) (replies : RowReplies)

/-- The call ends in an exception that its `except` clause does not name. -/
def RpcReply.Escapes (caught : PyError → Bool) (reply : RpcReply) : Prop :=
  ∃ e, jsonRpcPost cfg reply = .error e ∧ caught e = false

/-- The row has a hash the chain can be asked for. -/
def LookedUp : Prop :=
  isLocalIntentHash (cfg.strip row.txHash) = false ∧ cfg.strip (cfg.strip row.txHash) ≠ ""

/-- An outgoing row whose hash the lookup did not resolve is looked for in the address history. -/
def AsksRecovery : Prop :=
  LookedUp cfg row ∧
  (jsonRpcPost cfg replies.byHash = .ok .null ∨
    ∃ e, jsonRpcPost cfg replies.byHash = .error e ∧ e.isCaught = true) ∧
  row.isServerInitiated = true ∧ isNimiqTransactionHash (cfg.strip row.txHash) = true ∧
  (verificationAddressForRecord cfg row).isSome = true

/-- So is a stale deposit whose hash the chain does not know. -/
def AsksHistory : Prop :=
  LookedUp cfg row ∧ jsonRpcPost cfg replies.byHash = .ok .null ∧ row.type = .fillSpot ∧
  userDepositStaleAfterSeconds ≤ now - row.createdAt ∧ (verificationAddressForRecord cfg row).isSome = true

/-- The entry of a hash in the address history a call answers with. -/
def historyEntry (txHash : String) (reply : RpcReply) : Option Json :=
  match jsonRpcPost cfg reply with
  | .ok history => findTransactionByHash cfg history txHash
  | .error _ => none

/-- An answer shows the transaction on the chain: the hash it was found by, the raw answer, the part
that holds its execution result, and the block it stands in. -/
inductive Shows : String → Json → Json → Except PyError (Option ℤ) → Prop
  | byHash {result : Json} (hasked : LookedUp cfg row) (hanswer : jsonRpcPost cfg replies.byHash = .ok result)
      (hfound : result ≠ .null) :
      Shows (cfg.strip (cfg.strip row.txHash)) result (unwrapRpcResult result).1
        (extractEitherBlockNumber cfg (unwrapRpcResult result).1 (unwrapRpcResult result).2)
  | recovered {found : Json} (hasked : AsksRecovery cfg row replies)
      (hfound : historyEntry cfg (cfg.strip row.txHash) replies.recovery = some found) :
      Shows (cfg.strip row.txHash) found found (extractBlockNumber cfg found)
  | inHistory {found : Json} (hasked : AsksHistory cfg now row replies)
      (hfound : historyEntry cfg (cfg.strip row.txHash) replies.staleHistory = some found) :
      Shows (cfg.strip row.txHash) found found (extractBlockNumber cfg found)

/-- The row is shown as executed, in a readable block. -/
def ShownConfirmed (txHash : String) (raw : Json) (block : Option ℤ) : Prop :=
  ∃ data, Shows cfg now row replies txHash raw data (.ok block) ∧ executionResultIsFailure cfg data = false

/-- The row is shown as failed by the chain itself, in a readable block. -/
def ShownFailed : Prop :=
  ∃ txHash raw data block, Shows cfg now row replies txHash raw data (.ok block) ∧
    executionResultIsFailure cfg data = true

/-- The hash the address-history proof looks for. -/
def proofHash (txHash : String) : String := cfg.strip (if txHash = "" then row.txHash else txHash)

/-- Details that were not accepted are looked for in the address history. -/
def AsksProof (txHash : String) (raw : Json) : Prop :=
  (∃ failure, verifyRawDetails cfg row raw = .ok (.error failure)) ∧ proofHash cfg row txHash ≠ "" ∧
  (verificationAddressForRecord cfg row).isSome = true

/-- The transfer a confirmed row is accepted with. -/
inductive Accepts (txHash : String) (raw : Json) : ChainTransfer → Prop
  | direct {transfer : ChainTransfer} (h : verifyRawDetails cfg row raw = .ok (.ok transfer)) :
      Accepts txHash raw transfer
  | proved {found : Json} {transfer : ChainTransfer} (hasked : AsksProof cfg row txHash raw)
      (hfound : historyEntry cfg (proofHash cfg row txHash) replies.proof = some found)
      (h : verifyRawDetails cfg row found = .ok (.ok transfer)) : Accepts txHash raw transfer

/-- The answers to one row that end the pass there. -/
inductive Interrupts : Prop
  | lookup (hasked : LookedUp cfg row) (hraises : replies.byHash.Escapes cfg PyError.isCaught)
  | recovery (hasked : AsksRecovery cfg row replies)
      (hraises : replies.recovery.Escapes cfg PyError.isCaughtByRecovery)
  | history (hasked : AsksHistory cfg now row replies) (hraises : replies.staleHistory.Escapes cfg PyError.isCaught)
  /-- The block number does not convert. -/
  | block {txHash : String} {raw data : Json} {e : PyError}
      (hshown : Shows cfg now row replies txHash raw data (.error e))
  /-- An amount does not convert. -/
  | details {txHash : String} {raw : Json} {block : Option ℤ} {e : PyError}
      (hshown : ShownConfirmed cfg now row replies txHash raw block) (hraises : verifyRawDetails cfg row raw = .error e)
  | proof {txHash : String} {raw : Json} {block : Option ℤ}
      (hshown : ShownConfirmed cfg now row replies txHash raw block) (hasked : AsksProof cfg row txHash raw)
      (hraises : replies.proof.Escapes cfg PyError.isCaught)
  | proofDetails {txHash : String} {raw found : Json} {block : Option ℤ} {e : PyError}
      (hshown : ShownConfirmed cfg now row replies txHash raw block) (hasked : AsksProof cfg row txHash raw)
      (hfound : historyEntry cfg (proofHash cfg row txHash) replies.proof = some found)
      (hraises : verifyRawDetails cfg row found = .error e)
  /-- SQLite cannot store the block or the amount, or the block is negative. -/
  | storage {txHash : String} {raw : Json} {block : Option ℤ} {transfer : ChainTransfer}
      (hshown : ShownConfirmed cfg now row replies txHash raw block)
      (haccepts : Accepts cfg row replies txHash raw transfer) (hunstorable : unstorable block transfer ≠ none)

end Answers

section Check

variable {cfg : Settings P} {now : ℕ} {row : Trans} {replies : RowReplies}

/-- A body with an integer that `int` does not read escapes every call, the recovery included. -/
lemma RpcReply.escapes_of_longInteger {value : Json} (hlong : value.intsDecode = false) :
    (RpcReply.body value).Escapes cfg PyError.isCaught ∧ (RpcReply.body value).Escapes cfg PyError.isCaughtByRecovery := by
  have hraised : jsonRpcPost cfg (.body value) = .error .valueError := if_pos hlong
  exact ⟨⟨.valueError, hraised, rfl⟩, ⟨.valueError, hraised, rfl⟩⟩

/-- What one lookup by hash comes to. -/
lemma getChainTransactionStatus_eq {txHash : String} {reply : RpcReply} (hne : cfg.strip txHash ≠ "") :
    getChainTransactionStatus cfg txHash reply =
      match jsonRpcPost cfg reply with
      | .error e => if e.isCaught then .ok { status := .unknown, txHash := cfg.strip txHash } else .error e
      | .ok .null => .ok { status := .pending, txHash := cfg.strip txHash, reason := "hash not found yet" }
      | .ok result =>
        match extractEitherBlockNumber cfg (unwrapRpcResult result).1 (unwrapRpcResult result).2 with
        | .error e => .error e
        | .ok blockNumber =>
          if executionResultIsFailure cfg (unwrapRpcResult result).1 then
            .ok ⟨.failed, cfg.strip txHash, blockNumber, result, "executionResult was false"⟩
          else .ok ⟨.confirmed, cfg.strip txHash, blockNumber, result, ""⟩ := by
  unfold getChainTransactionStatus
  exact if_neg hne

/-- The transaction was found by its hash. -/
lemma getChainTransactionStatus_found {txHash : String} {reply : RpcReply} {result : Json}
    (hne : cfg.strip txHash ≠ "") (hanswer : jsonRpcPost cfg reply = .ok result) (hfound : result ≠ .null) :
    getChainTransactionStatus cfg txHash reply =
      match extractEitherBlockNumber cfg (unwrapRpcResult result).1 (unwrapRpcResult result).2 with
      | .error e => .error e
      | .ok blockNumber =>
        if executionResultIsFailure cfg (unwrapRpcResult result).1 then
          .ok ⟨.failed, cfg.strip txHash, blockNumber, result, "executionResult was false"⟩
        else .ok ⟨.confirmed, cfg.strip txHash, blockNumber, result, ""⟩ := by
  rw [getChainTransactionStatus_eq hne, hanswer]
  cases result with
  | null => exact absurd rfl hfound
  | bool => rfl
  | int => rfl
  | float => rfl
  | str => rfl
  | arr => rfl
  | obj => rfl

/-- The result of a check: an exception that the answers account for, no decision, a deposit given up
(or a row without a hash), or an execution result that an answer shows. -/
inductive CheckOutcome (cfg : Settings P) (now : ℕ) (row : Trans) (replies : RowReplies) :
    Except PyError ChainTransactionStatus → Prop
  | raised {e : PyError} (h : Interrupts cfg now row replies) : CheckOutcome cfg now row replies (.error e)
  | undecided {status : ChainTransactionStatus} (h : status.status = .pending ∨ status.status = .unknown) :
      CheckOutcome cfg now row replies (.ok status)
  | givenUp {status : ChainTransactionStatus} (h : status.status = .failed)
      (hrow : row.type = .fillSpot ∨ cfg.strip (cfg.strip row.txHash) = "") :
      CheckOutcome cfg now row replies (.ok status)
  | failed {status : ChainTransactionStatus} (h : status.status = .failed)
      (hshown : ShownFailed cfg now row replies) : CheckOutcome cfg now row replies (.ok status)
  | confirmed {status : ChainTransactionStatus} (h : status.status = .confirmed)
      (hshown : ShownConfirmed cfg now row replies status.txHash status.raw status.blockNumber) :
      CheckOutcome cfg now row replies (.ok status)

lemma historyEntry_of_ok {txHash : String} {reply : RpcReply} {history : Json}
    (hanswer : jsonRpcPost cfg reply = .ok history) :
    historyEntry cfg txHash reply = findTransactionByHash cfg history txHash := by
  rw [historyEntry, hanswer]

/-- An entry of an address history, read as a status. -/
lemma statusFromHistory_eq {txHash failure success : String} {history : Json} :
    statusFromHistory cfg txHash history failure success =
      match findTransactionByHash cfg history txHash with
      | none => .ok none
      | some found =>
        match extractBlockNumber cfg found with
        | .error e => .error e
        | .ok block =>
          .ok (some (if executionResultIsFailure cfg found then ⟨.failed, txHash, block, found, failure⟩
            else ⟨.confirmed, txHash, block, found, success⟩)) := by
  unfold statusFromHistory
  cases findTransactionByHash cfg history txHash with
  | none => rfl
  | some found =>
    dsimp only
    cases extractBlockNumber cfg found with
    | error e => rfl
    | ok block =>
      dsimp only
      split_ifs <;> rfl

/-- An address history that shows the row: an exception, or a status that the entry accounts for. -/
lemma history_outcome {failure success : String} {history found : Json}
    (hfound : findTransactionByHash cfg history (cfg.strip row.txHash) = some found)
    (hshows : Shows cfg now row replies (cfg.strip row.txHash) found found (extractBlockNumber cfg found)) :
    (∃ e, statusFromHistory cfg (cfg.strip row.txHash) history failure success = .error e ∧
        Interrupts cfg now row replies) ∨
    ∃ status, statusFromHistory cfg (cfg.strip row.txHash) history failure success = .ok (some status) ∧
      CheckOutcome cfg now row replies (.ok status) := by
  rw [statusFromHistory_eq, hfound]
  dsimp only
  cases hblock : extractBlockNumber cfg found with
  | error e => exact Or.inl ⟨e, rfl, .block (hblock ▸ hshows)⟩
  | ok block =>
    refine Or.inr ⟨_, rfl, ?_⟩
    by_cases hfail : executionResultIsFailure cfg found = true
    · rw [if_pos hfail]
      exact .failed rfl ⟨_, _, found, block, hblock ▸ hshows, hfail⟩
    · rw [if_neg hfail]
      exact .confirmed rfl ⟨found, hblock ▸ hshows, by simpa using hfail⟩

variable (now) in
lemma recover_outcome (hlooked : LookedUp cfg row)
    (hunresolved : jsonRpcPost cfg replies.byHash = .ok .null ∨
      ∃ e, jsonRpcPost cfg replies.byHash = .error e ∧ e.isCaught = true) :
    recoverServerTransactionFromAddressHistory cfg row replies.recovery = .ok none ∨
    (∃ e, recoverServerTransactionFromAddressHistory cfg row replies.recovery = .error e ∧
      Interrupts cfg now row replies) ∨
    ∃ status, recoverServerTransactionFromAddressHistory cfg row replies.recovery = .ok (some status) ∧
      CheckOutcome cfg now row replies (.ok status) := by
  unfold recoverServerTransactionFromAddressHistory
  by_cases hserver : row.isServerInitiated = false
  · exact Or.inl (if_pos hserver)
  rw [if_neg hserver]
  dsimp only
  by_cases hhash : isNimiqTransactionHash (cfg.strip row.txHash) = false
  · exact Or.inl (if_pos hhash)
  rw [if_neg hhash]
  cases haddress : verificationAddressForRecord cfg row with
  | none => exact Or.inl rfl
  | some address =>
    have hasked : AsksRecovery cfg row replies :=
      ⟨hlooked, hunresolved, by simpa using hserver, by simpa using hhash, by rw [haddress]; rfl⟩
    dsimp only
    cases hanswer : jsonRpcPost cfg replies.recovery with
    | error e =>
      dsimp only
      by_cases hcaught : e.isCaughtByRecovery = true
      · exact Or.inl (if_pos hcaught)
      · rw [if_neg hcaught]
        exact Or.inr (Or.inl ⟨e, rfl, .recovery hasked ⟨e, hanswer, by simpa using hcaught⟩⟩)
    | ok history =>
      dsimp only
      cases hfound : findTransactionByHash cfg history (cfg.strip row.txHash) with
      | none =>
        rw [statusFromHistory_eq, hfound]
        exact Or.inl rfl
      | some found =>
        exact Or.inr (history_outcome hfound (.recovered hasked ((historyEntry_of_ok hanswer).trans hfound)))

lemma unseen_outcome {status : ChainTransactionStatus} (hlooked : LookedUp cfg row)
    (hnull : jsonRpcPost cfg replies.byHash = .ok .null) (hpending : status.status = .pending) :
    CheckOutcome cfg now row replies (checkUnseenTransaction cfg now row replies status) := by
  unfold checkUnseenTransaction
  dsimp only
  by_cases hstale : row.type = .fillSpot ∧ userDepositStaleAfterSeconds ≤ now - row.createdAt
  · rw [if_pos hstale]
    cases haddress : verificationAddressForRecord cfg row with
    | none => exact .undecided (Or.inr rfl)
    | some address =>
      have hasked : AsksHistory cfg now row replies :=
        ⟨hlooked, hnull, hstale.1, hstale.2, by rw [haddress]; rfl⟩
      dsimp only
      cases hanswer : jsonRpcPost cfg replies.staleHistory with
      | error e =>
        dsimp only
        by_cases hcaught : e.isCaught = true
        · rw [if_pos hcaught]
          exact .undecided (Or.inr rfl)
        · rw [if_neg hcaught]
          exact .raised (.history hasked ⟨e, hanswer, by simpa using hcaught⟩)
      | ok history =>
        dsimp only
        cases hfound : findTransactionByHash cfg history (cfg.strip row.txHash) with
        | none =>
          rw [statusFromHistory_eq, hfound]
          exact .givenUp rfl (Or.inl hstale.1)
        | some found =>
          have hshows := Shows.inHistory hasked ((historyEntry_of_ok hanswer).trans hfound)
          rcases history_outcome hfound hshows with ⟨e, heq, hinterrupts⟩ | ⟨found, heq, houtcome⟩
          · rw [heq]
            exact .raised hinterrupts
          · rw [heq]
            exact houtcome
  · rw [if_neg hstale]
    split_ifs
    · exact .undecided (Or.inr rfl)
    · exact .undecided (Or.inl hpending)

/-- Every way a check can end. -/
lemma check_outcome : CheckOutcome cfg now row replies (checkPendingTransaction cfg now row replies) := by
  unfold checkPendingTransaction
  dsimp only
  by_cases hintent : isLocalIntentHash (cfg.strip row.txHash) = true
  · rw [if_pos hintent]
    exact .undecided (Or.inl rfl)
  rw [if_neg hintent]
  by_cases hempty : cfg.strip (cfg.strip row.txHash) = ""
  · rw [getChainTransactionStatus]
    simp only [hempty, if_true]
    exact .givenUp rfl (Or.inr hempty)
  have hlooked : LookedUp cfg row := ⟨by simpa using hintent, hempty⟩
  cases hanswer : jsonRpcPost cfg replies.byHash with
  | error e =>
    rw [getChainTransactionStatus_eq hempty, hanswer]
    dsimp only
    by_cases hcaught : e.isCaught = true
    · rw [if_pos hcaught]
      have hunresolved : jsonRpcPost cfg replies.byHash = .ok .null ∨
          ∃ e, jsonRpcPost cfg replies.byHash = .error e ∧ e.isCaught = true := Or.inr ⟨e, hanswer, hcaught⟩
      simp only [reduceCtorEq, or_true, if_true]
      rcases recover_outcome now hlooked hunresolved with heq | ⟨e', heq, hinterrupts⟩ | ⟨status, heq, houtcome⟩
      · rw [heq]
        exact .undecided (Or.inr rfl)
      · rw [heq]
        exact .raised hinterrupts
      · rw [heq]
        exact houtcome
    · rw [if_neg hcaught]
      exact .raised (.lookup hlooked ⟨e, hanswer, by simpa using hcaught⟩)
  | ok result =>
    by_cases hnull : result = .null
    · subst hnull
      rw [getChainTransactionStatus_eq hempty, hanswer]
      simp only [true_or, if_true]
      rcases recover_outcome now hlooked (Or.inl hanswer) with heq | ⟨e', heq, hinterrupts⟩ | ⟨status, heq, houtcome⟩
      · rw [heq]
        exact unseen_outcome hlooked hanswer rfl
      · rw [heq]
        exact .raised hinterrupts
      · rw [heq]
        exact houtcome
    · have hshows : Shows cfg now row replies _ _ _ _ := .byHash hlooked hanswer hnull
      rw [getChainTransactionStatus_found hempty hanswer hnull]
      cases hblock : extractEitherBlockNumber cfg (unwrapRpcResult result).1 (unwrapRpcResult result).2 with
      | error e => exact .raised (.block (hblock ▸ hshows))
      | ok block =>
        dsimp only
        by_cases hfail : executionResultIsFailure cfg (unwrapRpcResult result).1 = true
        · simp only [hfail, if_true, reduceCtorEq, or_self, if_false, ne_eq, not_false_eq_true]
          exact .failed rfl ⟨_, _, _, block, hblock ▸ hshows, hfail⟩
        · simp only [hfail, if_false, reduceCtorEq, or_self, ne_eq, not_false_eq_true, if_true, Bool.false_eq_true]
          exact .confirmed rfl ⟨_, hblock ▸ hshows, by simpa using hfail⟩

/-- The row gets a verdict that can be stored. -/
def RowFine (cfg : Settings P) (now : ℕ) (row : Trans) (replies : RowReplies) : Prop :=
  ∃ status verdict, assessRow cfg now row replies = .ok (status, verdict) ∧
    ∀ transfer, verdict = .accept transfer → unstorable status.blockNumber transfer = none

/-- An outgoing row with a hash is rejected only when it is shown as failed, and accepted only when it is
shown as executed. -/
lemma assess_server {status : ChainTransactionStatus} {verdict : Verdict} (hserver : row.isServerInitiated = true)
    (hhash : cfg.strip (cfg.strip row.txHash) ≠ "")
    (h : assessRow cfg now row replies = .ok (status, verdict)) :
    (∀ reason, verdict = .reject reason → ShownFailed cfg now row replies) ∧
    ∀ transfer, verdict = .accept transfer →
      ShownConfirmed cfg now row replies status.txHash status.raw status.blockNumber := by
  have houtcome : CheckOutcome cfg now row replies (checkPendingTransaction cfg now row replies) := check_outcome
  have hdeposit : row.type ≠ .fillSpot := by simpa [Trans.isServerInitiated] using hserver
  unfold assessRow at h
  generalize checkPendingTransaction cfg now row replies = result at houtcome h
  cases houtcome with
  | raised _ => simp at h
  | @undecided status' hstatus =>
    dsimp only at h
    rcases hstatus with hstatus | hstatus
    · rw [weighStatus, hstatus] at h
      obtain ⟨-, rfl⟩ := Prod.mk.inj (Except.ok.inj h)
      exact ⟨by simp, by simp⟩
    · rw [weighStatus, hstatus] at h
      obtain ⟨-, rfl⟩ := Prod.mk.inj (Except.ok.inj h)
      exact ⟨by simp, by simp⟩
  | givenUp _ hrow =>
    exact absurd hrow (not_or.mpr ⟨hdeposit, hhash⟩)
  | @failed status' hstatus hshown =>
    dsimp only at h
    rw [weighStatus, hstatus] at h
    obtain ⟨-, rfl⟩ := Prod.mk.inj (Except.ok.inj h)
    exact ⟨fun _ _ => hshown, by simp⟩
  | @confirmed status' hstatus hshown =>
    dsimp only at h
    rw [weighStatus, hstatus] at h
    dsimp only at h
    cases hverify : verifyChainDetailsForRecord cfg row status' replies.proof with
    | error e => simp [hverify] at h
    | ok result =>
      rw [hverify] at h
      cases result with
      | error failure =>
        simp only [hserver, true_or, if_true] at h
        obtain ⟨-, rfl⟩ := Prod.mk.inj (Except.ok.inj h)
        exact ⟨by simp, by simp⟩
      | ok transfer =>
        obtain ⟨rfl, rfl⟩ := Prod.mk.inj (Except.ok.inj h)
        exact ⟨by simp, fun _ _ => hshown⟩

end Check

section Pass

variable {cfg : Settings P} {replies : Trans → RowReplies} {feeHash : ℕ → String} {db db' : Db P} {limit : ℕ}
  {rows : List Trans} {checked : List Checked}

lemma RowFine.decided {row : Trans} (h : RowFine cfg db.now row (replies row)) :
    ∃ final, Decided cfg db.now replies row final := by
  obtain ⟨status, verdict, hassess, hstore⟩ := h
  exact ⟨_, status, verdict, hassess, rfl, hstore⟩

end Pass

section GatewayPage

end GatewayPage

end NimHunt
