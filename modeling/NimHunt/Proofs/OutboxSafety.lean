import NimHunt.Outbox
import NimHunt.Proofs.BadAnswers
import NimHunt.Proofs.LedgerMoves

/-!
# No leg is paid twice

The partial unique indexes keep one active row for each leg, a row leaves PENDING only on an answer of
the chain that shows it, and the helper is asked once for each row.  All of it survives any order of the
tasks' transactions and any crash.  Only a hash the history spells in upper case escapes the UNIQUE column.
-/

namespace NimHunt

open Lib

variable {P : Type}

/-- What Python's `str.strip` and `str.lower` do to the texts that occur here. -/
structure Settings.PythonText (cfg : Settings P) : Prop where
  strip_strip : ∀ text, cfg.strip (cfg.strip text) = cfg.strip text
  strip_hash : ∀ text, isNimiqTransactionHash text = true → cfg.strip text = text
  strip_intent : ∀ rest, cfg.strip (localTransactionIntentPrefix ++ rest) ≠ ""
  lower_lower : ∀ text, sqlLower (cfg.lower text) = cfg.lower text

section Statements

variable (cfg : Settings P)

/-- The chain answered for the row that its execution failed. -/
inductive ChainEvidence.ShowsFailed (transId : ℕ) : ChainEvidence → Prop
  | checked {now : ℕ} {row : Trans} {replies : RowReplies} (hid : row.id = transId)
      (hshown : ShownFailed cfg now row replies) : ShowsFailed transId (.checked now row replies)

/-- The chain answered for the row that it was executed. -/
inductive ChainEvidence.ShowsExecuted (transId : ℕ) : ChainEvidence → Prop
  | checked {now : ℕ} {row : Trans} {replies : RowReplies} {txHash : String} {raw : Json} {block : Option ℤ}
      (hid : row.id = transId) (hshown : ShownConfirmed cfg now row replies txHash raw block) :
      ShowsExecuted transId (.checked now row replies)
  | history {row : Trans} {reply : RpcReply} {history candidate : Json} {transfer : ChainTransfer}
      (hid : row.id = transId) (hanswer : jsonRpcPost cfg reply = .ok history)
      (hentry : candidate ∈ iterCandidateTransactions cfg history.size [(unwrapRpcResult history).1])
      (hverified : verifyRawDetails cfg row candidate = .ok (.ok transfer)) :
      ShowsExecuted transId (.history row reply)

/-- What the outbox promises at any time. -/
structure AtMostOnce (s : Outbox P) : Prop where
  failed_proved : ∀ t ∈ s.db.trans, t.isServerInitiated = true → t.status = .failed →
    ∃ e ∈ s.evidence, e.ShowsFailed cfg t.id
  unknown_pending : ∀ t ∈ s.db.trans, t.isServerInitiated = true →
    (∀ e ∈ s.evidence, ¬ e.ShowsFailed cfg t.id ∧ ¬ e.ShowsExecuted cfg t.id) → t.status = .pending
  one_active : ∀ a ∈ s.db.trans, ∀ b ∈ s.db.trans, a.SameLeg b → a.status ≠ .failed → b.status ≠ .failed → a = b
  hash_backs_one : ∀ a ∈ s.db.trans, ∀ b ∈ s.db.trans, isNimiqTransactionHash a.txHash = true →
    isNimiqTransactionHash b.txHash = true → sqlLower a.txHash = sqlLower b.txHash → a = b
  asked_once : s.asked.Nodup
  asked_rows : ∀ i ∈ s.asked, ∃ t ∈ s.db.trans, t.id = i ∧ t.isServerInitiated = true
  paid_once : ∀ a ∈ s.db.trans, ∀ b ∈ s.db.trans, a.id ∈ s.asked → b.id ∈ s.asked → a.SameLeg b → a ≠ b →
    (∃ e ∈ s.evidence, e.ShowsFailed cfg a.id) ∨ ∃ e ∈ s.evidence, e.ShowsFailed cfg b.id

/-- The address history a lost hash is looked for in spells its hashes in lower case. -/
def SpellsLower (reply : RpcReply) : Prop :=
  ∀ history, jsonRpcPost cfg reply = .ok history →
    ∀ candidate ∈ iterCandidateTransactions cfg history.size [(unwrapRpcResult history).1],
      sqlLower (cfg.strip ((extractChainHash cfg candidate).getD "")) =
        cfg.strip ((extractChainHash cfg candidate).getD "")

/-- The condition on a step: a recovery reads a history in lower case. -/
def HistorySpellsLower (s : Outbox P) : OutboxOp P → Prop
  | .resume index answer => ∀ row, s.tasks[index]? = some (.recover row) → SpellsLower cfg answer.history
  | _ => True

end Statements

section Invariant

variable {cfg : Settings P} {s : Outbox P} {db' : Db P} {evidence' : List ChainEvidence}

/-- What a task relies on. -/
def OutboxTask.Sound (cfg : Settings P) (trans : List Trans) (evidence : List ChainEvidence) : OutboxTask → Prop
  | .send row => ∃ t ∈ trans, t.id = row.id ∧ t.isServerInitiated = true
  | .attach _ submitted => isNimiqTransactionHash submitted.txHash = true
  | .check row =>
    (∃ t ∈ trans, t.id = row.id ∧ t.type = row.type) ∧ (row.isServerInitiated = true → cfg.strip row.txHash ≠ "")
  | .recover _ => True
  | .attachRecovered row _ => ∃ e ∈ evidence, e.ShowsExecuted cfg row.id
  | .confirmRecovered transId _ => ∃ e ∈ evidence, e.ShowsExecuted cfg transId

def OutboxTask.sendId : OutboxTask → Option ℕ
  | .send row => some row.id
  | _ => none

/-- The invariant of the outbox. -/
structure Outbox.Sound (cfg : Settings P) (s : Outbox P) : Prop where
  ledger : LedgerSound s.db
  hashed : ∀ t ∈ s.db.trans, t.isServerInitiated = true → cfg.strip t.txHash ≠ ""
  failed : ∀ t ∈ s.db.trans, t.isServerInitiated = true → t.status = .failed →
    ∃ e ∈ s.evidence, e.ShowsFailed cfg t.id
  confirmed : ∀ t ∈ s.db.trans, t.isServerInitiated = true → t.status = .confirmed →
    ∃ e ∈ s.evidence, e.ShowsExecuted cfg t.id
  tasks : ∀ task ∈ s.tasks, task.Sound cfg s.db.trans s.evidence
  sends : (s.asked ++ s.tasks.filterMap OutboxTask.sendId).Nodup
  asked : ∀ i ∈ s.asked, ∃ t ∈ s.db.trans, t.id = i ∧ t.isServerInitiated = true

/-- Every row is still there, under its id and of its type. -/
def RowsKept (xs ys : List Trans) : Prop := ∀ t ∈ xs, ∃ t' ∈ ys, t'.id = t.id ∧ t'.type = t.type

lemma RowsKept.server {xs ys : List Trans} (h : RowsKept xs ys) {i : ℕ}
    (hi : ∃ t ∈ xs, t.id = i ∧ t.isServerInitiated = true) : ∃ t ∈ ys, t.id = i ∧ t.isServerInitiated = true := by
  obtain ⟨t, ht, hid, hserver⟩ := hi
  obtain ⟨t', ht', hid', htype⟩ := h t ht
  refine ⟨t', ht', hid'.trans hid, ?_⟩
  unfold Trans.isServerInitiated at hserver ⊢
  rw [htype]
  exact hserver

lemma OutboxTask.Sound.mono {task : OutboxTask} {xs ys : List Trans} {es es' : List ChainEvidence}
    (h : task.Sound cfg xs es) (hrows : RowsKept xs ys) (hevidence : ∀ e ∈ es, e ∈ es') : task.Sound cfg ys es' := by
  cases task with
  | send row => exact hrows.server h
  | attach row submitted => exact h
  | check row =>
    obtain ⟨⟨t, ht, hid, htype⟩, hhash⟩ := h
    obtain ⟨t', ht', hid', htype'⟩ := hrows t ht
    exact ⟨⟨t', ht', hid'.trans hid, htype'.trans htype⟩, hhash⟩
  | recover row => trivial
  | attachRecovered row found =>
    obtain ⟨e, he, hshows⟩ := h
    exact ⟨e, hevidence e he, hshows⟩
  | confirmRecovered transId found =>
    obtain ⟨e, he, hshows⟩ := h
    exact ⟨e, hevidence e he, hshows⟩

lemma Outbox.Sound.move (h : s.Sound cfg) (hledger : LedgerSound db') (hrows : RowsKept s.db.trans db'.trans)
    (hevidence : ∀ e ∈ s.evidence, e ∈ evidence')
    (hhashed : ∀ t ∈ db'.trans, t.isServerInitiated = true → cfg.strip t.txHash ≠ "")
    (hfailed : ∀ t ∈ db'.trans, t.isServerInitiated = true → t.status = .failed →
      ∃ e ∈ evidence', e.ShowsFailed cfg t.id)
    (hconfirmed : ∀ t ∈ db'.trans, t.isServerInitiated = true → t.status = .confirmed →
      ∃ e ∈ evidence', e.ShowsExecuted cfg t.id) :
    Outbox.Sound cfg { s with db := db', evidence := evidence' } where
  ledger := hledger
  hashed := hhashed
  failed := hfailed
  confirmed := hconfirmed
  tasks := fun task htask => (h.tasks task htask).mono hrows hevidence
  sends := h.sends
  asked := fun i hi => hrows.server (h.asked i hi)

lemma Outbox.Sound.drop {tasks' : List OutboxTask} (h : s.Sound cfg) (hsub : tasks'.Sublist s.tasks) :
    Outbox.Sound cfg { s with tasks := tasks' } where
  ledger := h.ledger
  hashed := h.hashed
  failed := h.failed
  confirmed := h.confirmed
  tasks := fun task htask => h.tasks task (hsub.subset htask)
  sends := h.sends.sublist ((List.Sublist.refl _).append (hsub.filterMap _))
  asked := h.asked

lemma Outbox.Sound.addTask {task : OutboxTask} (h : s.Sound cfg) (htask : task.Sound cfg s.db.trans s.evidence)
    (hid : task.sendId = none) : Outbox.Sound cfg { s with tasks := s.tasks ++ [task] } where
  ledger := h.ledger
  hashed := h.hashed
  failed := h.failed
  confirmed := h.confirmed
  tasks := by
    intro other hother
    rcases List.mem_append.mp hother with hother | hother
    · exact h.tasks other hother
    · rw [List.mem_singleton] at hother
      subst hother
      exact htask
  sends := by
    have hsends : (s.tasks ++ [task]).filterMap OutboxTask.sendId = s.tasks.filterMap OutboxTask.sendId := by
      simp [hid]
    rw [hsends]
    exact h.sends
  asked := h.asked

/-- Evidence may only be added. -/
lemma Outbox.Sound.addEvidence (h : s.Sound cfg) (e : ChainEvidence) :
    Outbox.Sound cfg { s with evidence := s.evidence ++ [e] } := by
  have hkept : ∀ e' ∈ s.evidence, e' ∈ s.evidence ++ [e] := fun e' he' => List.mem_append_left _ he'
  refine Outbox.Sound.move h h.ledger (fun t ht => ⟨t, ht, rfl, rfl⟩) hkept h.hashed ?_ ?_
  · intro t ht hserver hfailed
    obtain ⟨e', he', hshows⟩ := h.failed t ht hserver hfailed
    exact ⟨e', hkept e' he', hshows⟩
  · intro t ht hserver hconfirmed
    obtain ⟨e', he', hshows⟩ := h.confirmed t ht hserver hconfirmed
    exact ⟨e', hkept e' he', hshows⟩

/-- Nothing has happened to the transaction table. -/
lemma Outbox.Sound.quiet (h : s.Sound cfg) (htrans : db'.trans = s.db.trans) (hseq : db'.transSeq = s.db.transSeq) :
    Outbox.Sound cfg { s with db := db' } := by
  have hledger : LedgerSound db' :=
    ⟨htrans ▸ h.ledger.keys, by rw [htrans, hseq]; exact h.ledger.fresh, htrans ▸ h.ledger.hashes,
      htrans ▸ h.ledger.placed, htrans ▸ h.ledger.active⟩
  refine Outbox.Sound.move h hledger ?_ (fun _ he => he) ?_ ?_ ?_
  · rw [htrans]
    exact fun t ht => ⟨t, ht, rfl, rfl⟩
  · rw [htrans]
    exact h.hashed
  · rw [htrans]
    exact h.failed
  · rw [htrans]
    exact h.confirmed

end Invariant

section Steps

variable {cfg : Settings P} {s : Outbox P} {db db' : Db P} {transId : ℕ}

/-- What a reserved leg is inserted as. -/
def NewTrans.IsIntent (row : NewTrans) : Prop :=
  row.Placed ∧ row.type ≠ .fillSpot ∧ ∃ rest, row.txHash = localTransactionIntentPrefix ++ rest

lemma NewTrans.IsLegOf.isIntent {type : TransType} {spotId primaryId : ℕ} {kind token : String} {row : NewTrans}
    (h : row.IsLegOf type spotId (makeLocalIntentHash kind primaryId token)) (htype : type.oncePerSpot = true) :
    row.IsIntent := by
  obtain ⟨hkind, hspot, -, hhash⟩ := h
  subst hkind
  refine ⟨⟨?_, fun _ => hspot ▸ rfl⟩, ?_, _, hhash⟩
  · intro hclaim
    rw [hclaim] at htype
    cases htype
  · intro hdeposit
    rw [hdeposit] at htype
    cases htype

lemma reserve_inserts (token : String) (leg : PaymentLeg) : Inserts NewTrans.IsIntent db (reserve cfg db token leg) := by
  cases leg with
  | claimReward job =>
    refine (submitClaimRewardTransaction_inserts job _).mono fun row h => ?_
    obtain ⟨htype, hclaim, hhash, -⟩ := h
    refine ⟨⟨fun _ => hclaim ▸ rfl, ?_⟩, ?_, _, hhash⟩
    · intro honce
      rw [htype] at honce
      cases honce
    · rw [htype]
      simp
  | platformFee spotId amount feeAddress =>
    exact (submitPlatformFeeTransaction_inserts spotId amount feeAddress _).mono fun row h => h.isIntent rfl
  | spotRefund spotId amount refundAddress =>
    exact (submitSpotRefundTransaction_inserts spotId amount refundAddress _).mono fun row h => h.isIntent rfl
  | creationFee spotId amount =>
    exact (submitSpotCreationFeeTransaction_inserts spotId amount _).mono fun row h => h.isIntent rfl
  | spotRemainderRefund spotId amount refundAddress =>
    exact (submitSpotRemainderRefundTransaction_inserts spotId amount refundAddress _).mono fun row h =>
      h.isIntent rfl
  | moderationSweep spotId amount =>
    exact (submitBanSweep_inserts spotId amount _).mono fun row h => h.isIntent rfl

/-- A row as it is inserted. -/
def NewTrans.inserted (row : NewTrans) (transId now : ℕ) : Trans where
  id := transId
  userId := row.userId
  spotId := row.spotId
  claimId := row.claimId
  type := row.type
  amount := row.amount
  fromAddress := row.fromAddress
  toAddress := row.toAddress
  txHash := row.txHash
  status := .pending
  createdAt := now

lemma createTransaction_trans {row : NewTrans} (h : db.createTransaction row = (db', .ok transId)) :
    db'.trans = db.trans ++ [row.inserted transId db.now] := by
  obtain ⟨-, rfl, -⟩ := createTransaction_ok h
  rfl

lemma Outbox.Sound.insert {row : NewTrans} (h : s.Sound cfg) (hplaced : row.Placed)
    (hhash : row.type ≠ .fillSpot → cfg.strip row.txHash ≠ "")
    (hmade : s.db.createTransaction row = (db', .ok transId)) : Outbox.Sound cfg { s with db := db' } := by
  have htrans := createTransaction_trans hmade
  have hold : ∀ t ∈ db'.trans, t ∈ s.db.trans ∨ t = row.inserted transId s.db.now := by
    intro t ht
    rw [htrans] at ht
    rcases List.mem_append.mp ht with ht | ht
    · exact Or.inl ht
    · exact Or.inr (List.mem_singleton.mp ht)
  refine Outbox.Sound.move h (h.ledger.insert hplaced hmade) ?_ (fun _ he => he) ?_ ?_ ?_
  · intro t ht
    exact ⟨t, htrans ▸ List.mem_append_left _ ht, rfl, rfl⟩
  · intro t ht hserver
    rcases hold t ht with ht | rfl
    · exact h.hashed t ht hserver
    · exact hhash (of_decide_eq_true hserver)
  · intro t ht hserver hfailed
    rcases hold t ht with ht | rfl
    · exact h.failed t ht hserver hfailed
    · cases hfailed
  · intro t ht hserver hconfirmed
    rcases hold t ht with ht | rfl
    · exact h.confirmed t ht hserver hconfirmed
    · cases hconfirmed

/-- Every id the helper was or will be asked for is that of a row. -/
lemma Outbox.Sound.ids (h : s.Sound cfg) :
    ∀ i ∈ s.asked ++ s.tasks.filterMap OutboxTask.sendId, i ≤ s.db.transSeq := by
  intro i hi
  have hrow : ∃ t ∈ s.db.trans, t.id = i := by
    rcases List.mem_append.mp hi with hi | hi
    · obtain ⟨t, ht, hid, -⟩ := h.asked i hi
      exact ⟨t, ht, hid⟩
    · obtain ⟨task, htask, hid⟩ := List.mem_filterMap.mp hi
      have hsound := h.tasks task htask
      cases task with
      | send row =>
        obtain ⟨t, ht, htid, -⟩ := hsound
        exact ⟨t, ht, htid.trans (Option.some.inj hid)⟩
      | attach => cases hid
      | check => cases hid
      | recover => cases hid
      | attachRecovered => cases hid
      | confirmRecovered => cases hid
  obtain ⟨t, ht, rfl⟩ := hrow
  exact h.ledger.fresh t ht

/-- A new row is sent by a new task. -/
lemma Outbox.Sound.reserve (htext : cfg.PythonText) (h : s.Sound cfg) (leg : PaymentLeg) (token : String) :
    (s.step cfg (.reserve leg token)).Sound cfg := by
  have hinserts : Inserts NewTrans.IsIntent s.db (NimHunt.reserve cfg s.db token leg) := reserve_inserts token leg
  unfold Outbox.step
  dsimp only
  generalize NimHunt.reserve cfg s.db token leg = outcome at hinserts
  cases hinserts with
  | refused e => exact h.quiet rfl rfl
  | @made row db' transId hmade hrow =>
    obtain ⟨hplaced, hserver, rest, hrest⟩ := hrow
    have hinserted : Outbox.Sound cfg { s with db := db' } := by
      apply h.insert hplaced _ hmade
      intro _
      rw [hrest]
      exact htext.strip_intent rest
    have htrans := createTransaction_trans hmade
    have hmem : row.inserted transId s.db.now ∈ db'.trans := by
      rw [htrans]
      exact List.mem_append_right _ (List.mem_singleton_self _)
    have hget : db'.getTransaction transId = some (row.inserted transId s.db.now) :=
      getTransaction_of_mem hinserted.ledger.keys hmem
    dsimp only
    rw [hget]
    refine ⟨hinserted.ledger, hinserted.hashed, hinserted.failed, hinserted.confirmed, ?_, ?_, hinserted.asked⟩
    · intro task htask
      rcases List.mem_append.mp htask with htask | htask
      · exact hinserted.tasks task htask
      · rw [Option.toList_some, List.map_singleton, List.mem_singleton] at htask
        subst htask
        exact ⟨_, hmem, rfl, decide_eq_true hserver⟩
    · have hsends : (s.tasks ++ (some (row.inserted transId s.db.now)).toList.map OutboxTask.send).filterMap
          OutboxTask.sendId = s.tasks.filterMap OutboxTask.sendId ++ [transId] := by
        simp [OutboxTask.sendId, NewTrans.inserted]
      rw [hsends, ← List.append_assoc]
      apply nodup_concat_of_fresh h.sends
      intro i hi
      have hle := h.ids i hi
      obtain ⟨hid, -⟩ := createTransaction_ok hmade
      omega

lemma Outbox.Sound.deposit (h : s.Sound cfg) (userId spotId amount : ℕ) (fromAddress : Address) (txHash : String)
    (toAddress : Option Address) :
    (s.step cfg (.deposit userId spotId amount fromAddress txHash toAddress)).Sound cfg := by
  have hwrites : DepositWrites spotId (cfg.lower (cfg.strip txHash)) s.db
      (RefundAddressSafety.recordSpotDepositTransaction cfg s.db userId spotId amount fromAddress txHash toAddress) :=
    recordSpotDepositTransaction_writes
  unfold Outbox.step
  dsimp only
  generalize RefundAddressSafety.recordSpotDepositTransaction cfg s.db userId spotId amount fromAddress txHash
    toAddress = outcome at hwrites
  cases hwrites with
  | kept hdb _ => exact h.quiet (by rw [hdb]) (by rw [hdb])
  | @made rows row mid db' madeId result hmade hrow hdb _ =>
    have hplaced : row.Placed := by
      unfold NewTrans.Placed
      rw [hrow.1]
      simp [TransType.oncePerSpot]
    have hinserted : Outbox.Sound cfg { s with db := mid } :=
      h.insert hplaced (fun hserver => absurd hrow.1 hserver) hmade
    exact hinserted.quiet (by rw [hdb]) (by rw [hdb])

/-- A row may be rewritten if it keeps a hash and its new status has been shown. -/
lemma Outbox.Sound.rewrite {f : Trans → Trans} (h : s.Sound cfg) (hrewritten : Rewritten s.db transId f db')
    (hhash : ∀ t ∈ s.db.trans, t.id = transId → t.isServerInitiated = true → cfg.strip (f t).txHash ≠ "")
    (hshown : ∀ t ∈ s.db.trans, t.id = transId → t.isServerInitiated = true →
      ((f t).status = .failed → ∃ e ∈ s.evidence, e.ShowsFailed cfg transId) ∧
      ((f t).status = .confirmed → ∃ e ∈ s.evidence, e.ShowsExecuted cfg transId)) :
    Outbox.Sound cfg { s with db := db' } := by
  have hback : ∀ t' ∈ db'.trans, ∃ t ∈ s.db.trans, t'.id = t.id ∧ t'.isServerInitiated = t.isServerInitiated ∧
      (t' = t ∨ t.id = transId ∧ t' = f t) := by
    intro t' ht'
    obtain ⟨t, ht, hkeeps, hcase⟩ := hrewritten.mem ht'
    refine ⟨t, ht, hkeeps.id, ?_, ?_⟩
    · unfold Trans.isServerInitiated
      rw [hkeeps.type]
    · rcases hcase with ⟨-, hsame⟩ | hnew
      · exact Or.inl hsame
      · exact Or.inr hnew
  refine Outbox.Sound.move h (h.ledger.rewrite hrewritten) ?_ (fun _ he => he) ?_ ?_ ?_
  · intro t ht
    have hmem : (if decide (t.id = transId) then f t else t) ∈ db'.trans := by
      rw [hrewritten.trans, mem_updateWhere]
      exact ⟨t, ht, rfl⟩
    refine ⟨_, hmem, ?_⟩
    by_cases hid : t.id = transId
    · have hkeeps := hrewritten.keeps t ht hid
      simp [hid, hkeeps.id, hkeeps.type]
    · simp [hid]
  · intro t' ht' hserver
    obtain ⟨t, ht, -, hkind, rfl | ⟨htarget, rfl⟩⟩ := hback t' ht'
    · exact h.hashed _ ht hserver
    · exact hhash t ht htarget (hkind ▸ hserver)
  · intro t' ht' hserver hfailed
    obtain ⟨t, ht, hid, hkind, rfl | ⟨htarget, rfl⟩⟩ := hback t' ht'
    · exact h.failed _ ht hserver hfailed
    · rw [hid, htarget]
      exact (hshown t ht htarget (hkind ▸ hserver)).1 hfailed
  · intro t' ht' hserver hconfirmed
    obtain ⟨t, ht, hid, hkind, rfl | ⟨htarget, rfl⟩⟩ := hback t' ht'
    · exact h.confirmed _ ht hserver hconfirmed
    · rw [hid, htarget]
      exact (hshown t ht htarget (hkind ▸ hserver)).2 hconfirmed

lemma Outbox.Sound.settle {status : TransStatus} {transfer : Option ChainTransfer} (h : s.Sound cfg)
    (hsettled : SettledTo status transfer transId s.db db')
    (hshown : ∀ t ∈ s.db.trans, t.id = transId → t.isServerInitiated = true →
      (status = .failed → ∃ e ∈ s.evidence, e.ShowsFailed cfg transId) ∧
      (status = .confirmed → ∃ e ∈ s.evidence, e.ShowsExecuted cfg transId)) :
    Outbox.Sound cfg { s with db := db' } := by
  obtain ⟨f, hrewritten, hsettles⟩ := hsettled.rewritten
  refine h.rewrite hrewritten ?_ ?_
  · intro t ht hid hserver
    rw [(hsettles t ht hid).txHash]
    exact h.hashed t ht hserver
  · intro t ht hid hserver
    rcases (hsettles t ht hid).status with hsame | ⟨-, hset⟩
    · rw [hsame, ← hid]
      exact ⟨h.failed t ht hserver, h.confirmed t ht hserver⟩
    · rw [hset]
      exact hshown t ht hid hserver

/-- The row with the hash and what was sent under it. -/
def Trans.attached (cfg : Settings P) (txHash : String) (transfer : ChainTransfer) (t : Trans) : Trans :=
  { t with
    fromAddress := transfer.fromAddress, toAddress := transfer.toAddress, amount := transfer.amount,
    txHash := cfg.strip txHash }

/-- What a hash is attached to and what it may not collide with. -/
lemma attachChainHash_cases (cfg : Settings P) (db : Db P) (transId : ℕ) (txHash : String) (transfer : ChainTransfer) :
    (∃ e, attachChainHash cfg db transId txHash transfer = (db, .error e)) ∨
    ∃ db', attachChainHash cfg db transId txHash transfer = (db', .ok ()) ∧
      Rewritten db transId (Trans.attached cfg txHash transfer) db' ∧ cfg.strip txHash ≠ "" := by
  unfold attachChainHash
  dsimp only
  by_cases hempty : cfg.strip txHash = ""
  · rw [if_pos hempty]
    exact Or.inl ⟨_, rfl⟩
  rw [if_neg hempty]
  by_cases hmissing : (db.getTransaction transId).isNone = true
  · rw [if_pos hmissing]
    exact Or.inl ⟨_, rfl⟩
  rw [if_neg hmissing]
  by_cases hused : (db.trans.any fun t => decide (t.id ≠ transId ∧ t.txHash = cfg.strip txHash)) = true
  · rw [if_pos hused]
    exact Or.inl ⟨_, rfl⟩
  rw [if_neg hused]
  refine Or.inr ⟨_, rfl, ⟨rfl, rfl, ?_, ?_⟩, hempty⟩
  · exact fun t _ _ => ⟨rfl, rfl, rfl, rfl, fun hactive => hactive⟩
  · intro t _ _
    refine Or.inr fun u hu hid hhash => hused ?_
    rw [List.any_eq_true]
    exact ⟨u, hu, by simp [hid, hhash, Trans.attached]⟩

lemma Outbox.Sound.attach (htext : cfg.PythonText) (h : s.Sound cfg) {txHash : String} {transfer : ChainTransfer}
    (hrewritten : Rewritten s.db transId (Trans.attached cfg txHash transfer) db') (hhash : cfg.strip txHash ≠ "") :
    Outbox.Sound cfg { s with db := db' } := by
  refine h.rewrite hrewritten ?_ ?_
  · intro t _ _ _
    change cfg.strip (cfg.strip txHash) ≠ ""
    rw [htext.strip_strip]
    exact hhash
  · intro t ht hid hserver
    rw [← hid]
    exact ⟨h.failed t ht hserver, h.confirmed t ht hserver⟩

/-- The helper is asked for a row no other task sends. -/
lemma Outbox.Sound.send {index : ℕ} {row : Trans} (h : s.Sound cfg) (htask : s.tasks[index]? = some (.send row)) :
    Outbox.Sound cfg { s with tasks := s.tasks.eraseIdx index, asked := s.asked ++ [row.id] } := by
  obtain ⟨hlt, hget⟩ := List.getElem?_eq_some_iff.mp htask
  have hperm : (OutboxTask.send row :: s.tasks.eraseIdx index).Perm s.tasks := by
    have hperm := List.getElem_cons_eraseIdx_perm hlt
    rw [hget] at hperm
    exact hperm
  have hdropped := h.drop (List.eraseIdx_sublist s.tasks index)
  refine ⟨h.ledger, h.hashed, h.failed, h.confirmed, hdropped.tasks, ?_, ?_⟩
  · have hsends := hperm.filterMap OutboxTask.sendId
    rw [List.append_assoc]
    exact (hsends.append_left s.asked).nodup_iff.mpr h.sends
  · intro i hi
    rcases List.mem_append.mp hi with hi | hi
    · exact h.asked i hi
    · rw [List.mem_singleton] at hi
      subst hi
      exact h.tasks _ (List.mem_of_getElem? htask)

/-- A verdict on an outgoing row rests on what the answers show. -/
lemma Outbox.Sound.check (htext : cfg.PythonText) {row : Trans} {replies : RowReplies}
    {status : ChainTransactionStatus} {verdict : Verdict} (h : s.Sound cfg)
    (htask : (OutboxTask.check row).Sound cfg s.db.trans s.evidence)
    (hassess : assessRow cfg s.db.now row replies = .ok (status, verdict)) :
    Outbox.Sound cfg { s with
      db := (settleRow s.db row status.blockNumber verdict).1
      evidence := s.evidence ++ [.checked s.db.now row replies] } := by
  obtain ⟨⟨known, hknown, hknownid, hknowntype⟩, hhash⟩ := htask
  obtain ⟨final, hsettled, hfinal⟩ := settleRow_settled status.blockNumber verdict h.ledger.keys
  have hmem : ChainEvidence.checked s.db.now row replies ∈ s.evidence ++ [.checked s.db.now row replies] :=
    List.mem_append_right _ (List.mem_singleton_self _)
  refine (h.addEvidence (.checked s.db.now row replies)).settle hsettled ?_
  intro t ht hid hserver
  have hsame : t = known := eq_of_key_eq h.ledger.keys ht hknown (hid.trans hknownid.symm)
  have htype : row.type ≠ .fillSpot := by
    rw [← hknowntype, ← hsame]
    exact of_decide_eq_true hserver
  have hrow : row.isServerInitiated = true := decide_eq_true htype
  have hvisible : cfg.strip (cfg.strip row.txHash) ≠ "" := by
    rw [htext.strip_strip]
    exact hhash hrow
  obtain ⟨hreject, haccept⟩ := assess_server hrow hvisible hassess
  constructor
  · intro hfailed
    obtain ⟨reason, hverdict⟩ := (hfinal htype).1 hfailed
    exact ⟨_, hmem, .checked rfl (hreject reason hverdict)⟩
  · intro hconfirmed
    obtain ⟨transfer, hverdict⟩ := (hfinal htype).2 hconfirmed
    exact ⟨_, hmem, .checked rfl (haccept transfer hverdict)⟩

lemma validateSubmittedChainSend_hash {result submitted : SubmittedChainTransaction} {fromAddress toAddress : Address}
    {amount : ℕ} (h : validateSubmittedChainSend cfg result fromAddress toAddress amount = .ok submitted) :
    isNimiqTransactionHash submitted.txHash = true ∧ submitted.txHash = cfg.lower (cfg.strip result.txHash) := by
  unfold validateSubmittedChainSend at h
  dsimp only at h
  split at h
  · cases h
  · cases h
  · split at h
    · cases h
    · cases h
    · split_ifs at h with hfrom hto hamount hhash
      cases h
      exact ⟨by simpa using hhash, rfl⟩

lemma mem_uniqueMatches {found : List RecoveredHash} {item : RecoveredHash} (h : item ∈ uniqueMatches cfg found) :
    item ∈ found := by
  have hfold : ∀ kept : List RecoveredHash, item ∈ found.foldl (fun kept item =>
      if kept.any fun k => cfg.lower k.txHash = cfg.lower item.txHash then
        kept.map fun k => if cfg.lower k.txHash = cfg.lower item.txHash then item else k
      else kept ++ [item]) kept → item ∈ kept ∨ item ∈ found := by
    clear h
    induction found with
    | nil =>
      intro kept hitem
      exact Or.inl hitem
    | cons head rest ih =>
      intro kept hitem
      rw [List.foldl_cons] at hitem
      rcases ih _ hitem with hkept | hrest
      · split_ifs at hkept
        · obtain ⟨k, hk, heq⟩ := List.mem_map.mp hkept
          split_ifs at heq
          · exact Or.inr (heq ▸ List.mem_cons_self)
          · exact Or.inl (heq ▸ hk)
        · rcases List.mem_append.mp hkept with hkept | hhead
          · exact Or.inl hkept
          · exact Or.inr (List.mem_singleton.mp hhead ▸ List.mem_cons_self)
      · exact Or.inr (List.mem_cons_of_mem head hrest)
  rcases hfold [] h with hnil | hfound
  · simp at hnil
  · exact hfound

/-- A recovered hash is that of an entry which pays what the intent was to pay. -/
lemma recoverCreationFeeIntent_some {row : Trans} {reply : RpcReply} {found : RecoveredHash}
    (h : recoverCreationFeeIntent cfg db row reply = .ok (some found)) :
    ∃ history candidate, jsonRpcPost cfg reply = .ok history ∧
      candidate ∈ iterCandidateTransactions cfg history.size [(unwrapRpcResult history).1] ∧
      verifyRawDetails cfg row candidate = .ok (.ok found.transfer) ∧
      found.txHash = cfg.strip ((extractChainHash cfg candidate).getD "") ∧ found.txHash ≠ "" := by
  unfold recoverCreationFeeIntent at h
  by_cases haddress : cfg.strip row.fromAddress = ""
  · simp [haddress] at h
  rw [if_neg haddress] at h
  cases hanswer : jsonRpcPost cfg reply with
  | error e => simp [hanswer] at h
  | ok history =>
    rw [hanswer] at h
    dsimp only at h
    cases hweigh : (iterCandidateTransactions cfg history.size [(unwrapRpcResult history).1]).mapM
        (weighCandidate cfg db row) with
    | error e => simp [hweigh] at h
    | ok weighed =>
      rw [hweigh] at h
      dsimp only at h
      have hmem : found ∈ uniqueMatches cfg (weighed.filterMap id) := by
        split at h
        · next only heq =>
          cases h
          rw [heq]
          exact List.mem_singleton_self _
        · cases h
      have hweighed : some found ∈ weighed := by simpa using mem_uniqueMatches hmem
      obtain ⟨candidate, hcandidate, hfound⟩ := mapM_ok_mem hweigh _ hweighed
      refine ⟨history, candidate, rfl, hcandidate, ?_⟩
      unfold weighCandidate at hfound
      dsimp only at hfound
      by_cases hempty : cfg.strip ((extractChainHash cfg candidate).getD "") = ""
      · simp [hempty] at hfound
      rw [if_neg hempty] at hfound
      split_ifs at hfound
      · cases hfound
      cases hblock : extractBlockNumber cfg candidate with
      | error e => simp [hblock] at hfound
      | ok block =>
        rw [hblock] at hfound
        dsimp only at hfound
        cases hverify : verifyRawDetails cfg row candidate with
        | error e => simp [hverify] at hfound
        | ok result =>
          rw [hverify] at hfound
          cases result with
          | error failure => cases hfound
          | ok transfer =>
            cases hfound
            exact ⟨rfl, rfl, hempty⟩

/-- A task's next transaction keeps the invariant; `s` has the task taken off already. -/
lemma Outbox.Sound.resume (htext : cfg.PythonText) (h : s.Sound cfg) (answer : OutboxAnswer) {task : OutboxTask}
    (htask : task.Sound cfg s.db.trans s.evidence)
    (hsend : ∀ row, task = .send row → Outbox.Sound cfg { s with asked := s.asked ++ [row.id] }) :
    (s.resume cfg answer task).Sound cfg := by
  cases task with
  | send row =>
    have hasked := hsend row rfl
    unfold Outbox.resume
    dsimp only
    cases answer.helper with
    | none => exact hasked
    | some result =>
      dsimp only
      cases hvalid : validateSubmittedChainSend cfg result row.fromAddress row.toAddress row.amount with
      | error e => exact hasked
      | ok submitted => exact hasked.addTask (validateSubmittedChainSend_hash hvalid).1 rfl
  | attach row submitted =>
    unfold Outbox.resume
    dsimp only
    rcases attachChainHash_cases cfg s.db row.id submitted.txHash
      ⟨submitted.fromAddress, submitted.toAddress, submitted.amount.toNat⟩ with
      ⟨e, hrefused⟩ | ⟨db', hattach, hrewritten, hhash⟩
    · rw [hrefused]
      exact h
    · rw [hattach]
      exact h.attach htext hrewritten hhash
  | check row =>
    unfold Outbox.resume
    dsimp only
    cases hassess : assessRow cfg s.db.now row answer.replies with
    | error e => exact h
    | ok assessed =>
      obtain ⟨status, verdict⟩ := assessed
      exact h.check htext htask hassess
  | recover row =>
    unfold Outbox.resume
    dsimp only
    cases hrecover : recoverCreationFeeIntent cfg s.db row answer.history with
    | error e => exact h
    | ok result =>
      cases result with
      | none => exact h
      | some found =>
        obtain ⟨history, candidate, hanswer, hentry, hverified, -, -⟩ := recoverCreationFeeIntent_some hrecover
        refine (h.addEvidence (.history row answer.history)).addTask ?_ rfl
        exact ⟨_, List.mem_append_right _ (List.mem_singleton_self _), .history rfl hanswer hentry hverified⟩
  | attachRecovered row found =>
    unfold Outbox.resume
    dsimp only
    by_cases hunstorable : (unstorable found.block found.transfer).isSome = true
    · rw [if_pos hunstorable]
      exact h
    rw [if_neg hunstorable]
    rcases attachChainHash_cases cfg s.db row.id found.txHash found.transfer with
      ⟨e, hrefused⟩ | ⟨db', hattach, hrewritten, hhash⟩
    · rw [hrefused]
      exact h
    · rw [hattach]
      exact (h.attach htext hrewritten hhash).addTask htask rfl
  | confirmRecovered transId found =>
    unfold Outbox.resume
    dsimp only
    cases hget : s.db.getTransaction transId with
    | none => exact h
    | some updated =>
      obtain ⟨hupdated, hid⟩ := (find?_key_eq_some h.ledger.keys).mp hget
      obtain ⟨final, hsettled, hfinal⟩ := settleRow_settled found.block (.accept found.transfer)
        h.ledger.keys
      refine h.settle hsettled ?_
      intro t ht htid hserver
      have hsame : t = updated := eq_of_key_eq h.ledger.keys ht hupdated htid
      have htype : updated.type ≠ .fillSpot := hsame ▸ of_decide_eq_true hserver
      constructor
      · intro hfailed
        obtain ⟨reason, hverdict⟩ := (hfinal htype).1 hfailed
        cases hverdict
      · intro _
        rw [hid]
        exact htask

/-- The step lemma: nothing the system does breaks the invariant. -/
lemma Outbox.Sound.step (htext : cfg.PythonText) (h : s.Sound cfg) (op : OutboxOp P) : (s.step cfg op).Sound cfg := by
  cases op with
  | elsewhere db => exact h.quiet rfl rfl
  | reserve leg token => exact h.reserve htext leg token
  | deposit userId spotId amount fromAddress txHash toAddress =>
    exact h.deposit userId spotId amount fromAddress txHash toAddress
  | readPending transId =>
    unfold Outbox.step
    dsimp only
    cases hget : s.db.getTransaction transId with
    | none => exact h
    | some row =>
      dsimp only
      by_cases hpending : row.status = .pending
      · rw [if_pos hpending]
        obtain ⟨hrow, -⟩ := (find?_key_eq_some h.ledger.keys).mp hget
        exact h.addTask ⟨⟨row, hrow, rfl, rfl⟩, h.hashed row hrow⟩ rfl
      · rw [if_neg hpending]
        exact h
  | readIntent transId =>
    unfold Outbox.step
    dsimp only
    cases s.db.getTransaction transId with
    | none => exact h
    | some row =>
      dsimp only
      split_ifs
      · exact h.addTask trivial rfl
      · exact h
  | resume index answer =>
    unfold Outbox.step
    dsimp only
    cases htask : s.tasks[index]? with
    | none => exact h
    | some task =>
      have hdropped := h.drop (List.eraseIdx_sublist s.tasks index)
      refine hdropped.resume htext answer (h.tasks task (List.mem_of_getElem? htask)) ?_
      rintro row rfl
      exact h.send htask
  | crash => exact h.drop (List.nil_sublist _)

end Steps

section Spelling

variable {cfg : Settings P} {s : Outbox P} {db' : Db P}

def LowerHash (txHash : String) : Prop := isNimiqTransactionHash txHash = true → sqlLower txHash = txHash

/-- The hashes a task is about to store are in lower case. -/
def OutboxTask.Lower (cfg : Settings P) : OutboxTask → Prop
  | .attach _ submitted => sqlLower submitted.txHash = submitted.txHash ∧ cfg.strip submitted.txHash = submitted.txHash
  | .attachRecovered _ found => sqlLower (cfg.strip found.txHash) = cfg.strip found.txHash
  | _ => True

structure Outbox.Lower (cfg : Settings P) (s : Outbox P) : Prop where
  rows : ∀ t ∈ s.db.trans, LowerHash t.txHash
  tasks : ∀ task ∈ s.tasks, task.Lower cfg

lemma isNimiqTransactionHash_intent (rest : String) :
    isNimiqTransactionHash (localTransactionIntentPrefix ++ rest) = false := by
  have hhead : (localTransactionIntentPrefix ++ rest).toList =
      'N' :: ("IMHUNT_INTENT:".toList ++ rest.toList) := by
    rw [String.toList_append]
    rfl
  unfold isNimiqTransactionHash
  rw [hhead]
  simp

lemma Outbox.Lower.move (h : s.Lower cfg)
    (hrows : ∀ t' ∈ db'.trans, (∃ t ∈ s.db.trans, t'.txHash = t.txHash) ∨ LowerHash t'.txHash) :
    Outbox.Lower cfg { s with db := db' } := by
  refine ⟨fun t' ht' => ?_, h.tasks⟩
  rcases hrows t' ht' with ⟨t, ht, hsame⟩ | hlower
  · rw [hsame]
    exact h.rows t ht
  · exact hlower

lemma Outbox.Lower.quiet (h : s.Lower cfg) (htrans : db'.trans = s.db.trans) :
    Outbox.Lower cfg { s with db := db' } :=
  h.move fun t' ht' => Or.inl ⟨t', htrans ▸ ht', rfl⟩

lemma Outbox.Lower.insert {row : NewTrans} {transId : ℕ} (h : s.Lower cfg) (hlower : LowerHash row.txHash)
    (hmade : s.db.createTransaction row = (db', .ok transId)) : Outbox.Lower cfg { s with db := db' } := by
  refine h.move fun t' ht' => ?_
  rw [createTransaction_trans hmade] at ht'
  rcases List.mem_append.mp ht' with ht' | ht'
  · exact Or.inl ⟨t', ht', rfl⟩
  · rw [List.mem_singleton] at ht'
    subst ht'
    exact Or.inr hlower

lemma Outbox.Lower.settle {status : TransStatus} {transfer : Option ChainTransfer} {transId : ℕ} (h : s.Lower cfg)
    (hsettled : SettledTo status transfer transId s.db db') : Outbox.Lower cfg { s with db := db' } := by
  obtain ⟨f, hrewritten, hsettles⟩ := hsettled.rewritten
  refine h.move fun t' ht' => ?_
  obtain ⟨t, ht, -, ⟨-, rfl⟩ | ⟨hid, rfl⟩⟩ := hrewritten.mem ht'
  · exact Or.inl ⟨_, ht, rfl⟩
  · exact Or.inl ⟨t, ht, (hsettles t ht hid).txHash⟩

lemma Outbox.Lower.attach {transId : ℕ} {txHash : String} {transfer : ChainTransfer} (h : s.Lower cfg)
    (hrewritten : Rewritten s.db transId (Trans.attached cfg txHash transfer) db')
    (hlower : sqlLower (cfg.strip txHash) = cfg.strip txHash) : Outbox.Lower cfg { s with db := db' } := by
  refine h.move fun t' ht' => ?_
  obtain ⟨t, ht, -, ⟨-, rfl⟩ | ⟨hid, rfl⟩⟩ := hrewritten.mem ht'
  · exact Or.inl ⟨_, ht, rfl⟩
  · exact Or.inr fun _ => hlower

lemma Outbox.Lower.drop {tasks' : List OutboxTask} (h : s.Lower cfg) (hsub : tasks'.Sublist s.tasks) :
    Outbox.Lower cfg { s with tasks := tasks' } :=
  ⟨h.rows, fun task htask => h.tasks task (hsub.subset htask)⟩

lemma Outbox.Lower.addTasks (h : s.Lower cfg) (added : List OutboxTask) (hadded : ∀ task ∈ added, task.Lower cfg) :
    Outbox.Lower cfg { s with tasks := s.tasks ++ added } := by
  refine ⟨h.rows, fun task htask => ?_⟩
  rcases List.mem_append.mp htask with htask | htask
  · exact h.tasks task htask
  · exact hadded task htask

lemma Outbox.Lower.addTask (h : s.Lower cfg) (task : OutboxTask) (htask : task.Lower cfg) :
    Outbox.Lower cfg { s with tasks := s.tasks ++ [task] } := by
  apply h.addTasks
  intro other hother
  rw [List.mem_singleton] at hother
  exact hother ▸ htask

lemma Outbox.Lower.resume (htext : cfg.PythonText) (hsound : s.Sound cfg) (h : s.Lower cfg) (answer : OutboxAnswer)
    {task : OutboxTask} (htask : task.Lower cfg) (hspells : ∀ row, task = .recover row → SpellsLower cfg answer.history) :
    (s.resume cfg answer task).Lower cfg := by
  cases task with
  | send row =>
    unfold Outbox.resume
    dsimp only
    cases answer.helper with
    | none => exact ⟨h.rows, h.tasks⟩
    | some result =>
      dsimp only
      cases hvalid : validateSubmittedChainSend cfg result row.fromAddress row.toAddress row.amount with
      | error e => exact ⟨h.rows, h.tasks⟩
      | ok submitted =>
        obtain ⟨hhash, hlower⟩ := validateSubmittedChainSend_hash hvalid
        have hadded := h.addTask (.attach row submitted) ⟨hlower ▸ htext.lower_lower _, htext.strip_hash _ hhash⟩
        exact ⟨hadded.rows, hadded.tasks⟩
  | attach row submitted =>
    unfold Outbox.resume
    dsimp only
    rcases attachChainHash_cases cfg s.db row.id submitted.txHash
      ⟨submitted.fromAddress, submitted.toAddress, submitted.amount.toNat⟩ with
      ⟨e, hrefused⟩ | ⟨db', hattach, hrewritten, -⟩
    · rw [hrefused]
      exact h
    · rw [hattach]
      refine h.attach hrewritten ?_
      rw [htask.2]
      exact htask.1
  | check row =>
    unfold Outbox.resume
    dsimp only
    cases assessRow cfg s.db.now row answer.replies with
    | error e => exact h
    | ok assessed =>
      obtain ⟨status, verdict⟩ := assessed
      obtain ⟨final, hsettled, -⟩ := settleRow_settled status.blockNumber verdict hsound.ledger.keys
      exact ⟨(h.settle hsettled).rows, h.tasks⟩
  | recover row =>
    unfold Outbox.resume
    dsimp only
    cases hrecover : recoverCreationFeeIntent cfg s.db row answer.history with
    | error e => exact h
    | ok result =>
      cases result with
      | none => exact h
      | some found =>
        obtain ⟨history, candidate, hanswer, hentry, -, hhash, hne⟩ := recoverCreationFeeIntent_some hrecover
        have hlower : sqlLower (cfg.strip found.txHash) = cfg.strip found.txHash := by
          rw [hhash, htext.strip_strip]
          exact hspells row rfl history hanswer candidate hentry
        have hadded := h.addTask (.attachRecovered row found) hlower
        exact ⟨hadded.rows, hadded.tasks⟩
  | attachRecovered row found =>
    unfold Outbox.resume
    dsimp only
    by_cases hunstorable : (unstorable found.block found.transfer).isSome = true
    · rw [if_pos hunstorable]
      exact h
    rw [if_neg hunstorable]
    rcases attachChainHash_cases cfg s.db row.id found.txHash found.transfer with
      ⟨e, hrefused⟩ | ⟨db', hattach, hrewritten, -⟩
    · rw [hrefused]
      exact h
    · rw [hattach]
      exact (h.attach hrewritten htask).addTask (.confirmRecovered row.id found) trivial
  | confirmRecovered transId found =>
    unfold Outbox.resume
    dsimp only
    cases s.db.getTransaction transId with
    | none => exact h
    | some updated =>
      obtain ⟨final, hsettled, -⟩ := settleRow_settled found.block (.accept found.transfer) hsound.ledger.keys
      exact h.settle hsettled

/-- The step lemma for the spelling: only a recovery brings hashes the code has not put into lower case. -/
lemma Outbox.Lower.step (htext : cfg.PythonText) (hsound : s.Sound cfg) (h : s.Lower cfg) {op : OutboxOp P}
    (hspells : HistorySpellsLower cfg s op) : (s.step cfg op).Lower cfg := by
  cases op with
  | elsewhere db => exact h.quiet rfl
  | reserve leg token =>
    have hinserts : Inserts NewTrans.IsIntent s.db (NimHunt.reserve cfg s.db token leg) := reserve_inserts token leg
    unfold Outbox.step
    dsimp only
    generalize NimHunt.reserve cfg s.db token leg = outcome at hinserts
    cases hinserts with
    | refused e => exact h.quiet rfl
    | @made row db' transId hmade hrow =>
      obtain ⟨-, -, rest, hrest⟩ := hrow
      have hlower : LowerHash row.txHash := by
        intro hhash
        rw [hrest, isNimiqTransactionHash_intent] at hhash
        cases hhash
      apply (h.insert hlower hmade).addTasks
      intro task htask
      obtain ⟨sent, -, rfl⟩ := List.mem_map.mp htask
      trivial
  | deposit userId spotId amount fromAddress txHash toAddress =>
    have hwrites : DepositWrites spotId (cfg.lower (cfg.strip txHash)) s.db
        (RefundAddressSafety.recordSpotDepositTransaction cfg s.db userId spotId amount fromAddress txHash toAddress) :=
      recordSpotDepositTransaction_writes
    unfold Outbox.step
    dsimp only
    generalize RefundAddressSafety.recordSpotDepositTransaction cfg s.db userId spotId amount fromAddress txHash
      toAddress = outcome at hwrites
    cases hwrites with
    | kept hdb _ => exact h.quiet (by rw [hdb])
    | @made rows row mid db' madeId result hmade hrow hdb _ =>
      have hlower : LowerHash row.txHash := by
        intro _
        rw [hrow.2.2]
        exact htext.lower_lower _
      exact (h.insert hlower hmade).quiet (by rw [hdb])
  | readPending transId =>
    unfold Outbox.step
    dsimp only
    cases s.db.getTransaction transId with
    | none => exact h
    | some row =>
      dsimp only
      split_ifs
      · exact h.addTask (.check row) trivial
      · exact h
  | readIntent transId =>
    unfold Outbox.step
    dsimp only
    cases s.db.getTransaction transId with
    | none => exact h
    | some row =>
      dsimp only
      split_ifs
      · exact h.addTask (.recover row) trivial
      · exact h
  | resume index answer =>
    unfold Outbox.step
    dsimp only
    cases htask : s.tasks[index]? with
    | none => exact h
    | some task =>
      have hsub := List.eraseIdx_sublist s.tasks index
      refine (h.drop hsub).resume htext (hsound.drop hsub) answer (h.tasks task (List.mem_of_getElem? htask)) ?_
      rintro row rfl
      exact hspells row htask
  | crash => exact h.drop (List.nil_sublist _)

end Spelling

section Promise

variable {cfg : Settings P} {s : Outbox P}

lemma Trans.SameLeg.server {a b : Trans} (h : a.SameLeg b) : a.isServerInitiated = true := by
  apply decide_eq_true
  intro hdeposit
  rcases h.2 with ⟨hclaim, -⟩ | ⟨honce, -⟩
  · rw [hdeposit] at hclaim
    cases hclaim
  · rw [hdeposit] at honce
    cases honce

/-- The invariant gives the promise. -/
lemma Outbox.Sound.atMostOnce (h : s.Sound cfg) (hlower : s.Lower cfg) : AtMostOnce cfg s where
  failed_proved := h.failed
  unknown_pending := by
    intro t ht hserver hunknown
    cases hstatus : t.status with
    | pending => rfl
    | failed =>
      obtain ⟨e, he, hshows⟩ := h.failed t ht hserver hstatus
      exact absurd hshows (hunknown e he).1
    | confirmed =>
      obtain ⟨e, he, hshows⟩ := h.confirmed t ht hserver hstatus
      exact absurd hshows (hunknown e he).2
  one_active := by
    intro a ha b hb hleg hactive hactive'
    exact eq_of_key_eq h.ledger.keys ha hb (h.ledger.active a ha b hb hleg hactive hactive')
  hash_backs_one := by
    intro a ha b hb hhash hhash' heq
    have hsame : a.txHash = b.txHash := by
      calc a.txHash = sqlLower a.txHash := (hlower.rows a ha hhash).symm
        _ = sqlLower b.txHash := heq
        _ = b.txHash := hlower.rows b hb hhash'
    exact eq_of_key_eq h.ledger.keys ha hb (h.ledger.hashes a ha b hb hsame)
  asked_once := h.sends.sublist (List.sublist_append_left _ _)
  asked_rows := h.asked
  paid_once := by
    intro a ha b hb _ _ hleg hne
    by_cases hfailed : a.status = .failed
    · exact Or.inl (h.failed a ha hleg.server hfailed)
    · by_cases hfailed' : b.status = .failed
      · exact Or.inr (h.failed b hb hleg.symm.server hfailed')
      · have hid := h.ledger.active a ha b hb hleg hfailed hfailed'
        exact absurd (eq_of_key_eq h.ledger.keys ha hb hid) hne

lemma Outbox.sound_initial {db : Db P} (hempty : db.trans = []) :
    (Outbox.initial db).Sound cfg ∧ (Outbox.initial db).Lower cfg := by
  have hnone : ∀ t, t ∉ (Outbox.initial db).db.trans := by
    intro t ht
    have ht : t ∈ db.trans := ht
    rw [hempty] at ht
    cases ht
  refine ⟨⟨⟨?_, ?_, ?_, ?_, ?_⟩, ?_, ?_, ?_, ?_, ?_, ?_⟩, ⟨?_, ?_⟩⟩
  · have hkeys : ((Outbox.initial db).db.trans.map Trans.id) = [] := by
      change db.trans.map Trans.id = []
      rw [hempty]
      rfl
    rw [hkeys]
    exact List.nodup_nil
  · exact fun t ht => absurd ht (hnone t)
  · exact fun t ht => absurd ht (hnone t)
  · exact fun t ht => absurd ht (hnone t)
  · exact fun t ht => absurd ht (hnone t)
  · exact fun t ht => absurd ht (hnone t)
  · exact fun t ht => absurd ht (hnone t)
  · exact fun t ht => absurd ht (hnone t)
  · exact fun task htask => by cases htask
  · exact List.nodup_nil
  · exact fun i hi => by cases hi
  · exact fun t ht => absurd ht (hnone t)
  · exact fun task htask => by cases htask

/-- In every run from an empty transaction table, whatever the order of the tasks, the answers of the
chain and the crashes, the outbox keeps its promise, if the histories lost hashes are looked for in
spell them in lower case. -/
theorem outbox_pays_at_most_once (htext : cfg.PythonText) {db : Db P} (hempty : db.trans = []) {ops : List (OutboxOp P)}
    (hspells : Admissible (Outbox.step cfg) (HistorySpellsLower cfg) (Outbox.initial db) ops) :
    AtMostOnce cfg (run (Outbox.step cfg) (Outbox.initial db) ops) := by
  have hstep : ∀ (s : Outbox P) op, HistorySpellsLower cfg s op → s.Sound cfg ∧ s.Lower cfg →
      (s.step cfg op).Sound cfg ∧ (s.step cfg op).Lower cfg :=
    fun s op hop hs => ⟨hs.1.step htext op, hs.2.step htext hs.1 hop⟩
  obtain ⟨hsound, hlower⟩ := @run_invariant _ _ (Outbox.step cfg) (HistorySpellsLower cfg)
    (fun s => s.Sound cfg ∧ s.Lower cfg) hstep _ _ hspells (Outbox.sound_initial hempty)
  exact hsound.atMostOnce hlower

end Promise

section Spellings

/-- ASCII lower case is a fixed point. -/
lemma toLower_toLower (c : Char) : c.toLower.toLower = c.toLower := by
  unfold Char.toLower
  by_cases h : c.val ≥ 'A'.val ∧ c.val ≤ 'Z'.val
  · rw [dif_pos h, dif_neg]
    intro h'
    obtain ⟨hlow, hhigh⟩ := h
    have hsum := h'.2
    simp only [ge_iff_le, UInt32.le_iff_toNat_le, UInt32.toNat_add] at hlow hhigh hsum
    have h1 : ('A'.val).toNat = 65 := rfl
    have h2 : ('Z'.val).toNat = 90 := rfl
    have h3 : ('a'.val - 'A'.val).toNat = 32 := rfl
    omega
  · rw [dif_neg h, dif_neg h]

lemma sqlLower_sqlLower (text : String) : sqlLower (sqlLower text) = sqlLower text := by
  unfold sqlLower
  rw [String.toList_ofList, List.map_map]
  congr 1
  apply List.map_congr_left
  intro c _
  exact toLower_toLower c

def asciiText : Settings Unit := { Settings.onePlace with lower := sqlLower }

lemma asciiText_pythonText : asciiText.PythonText where
  strip_strip := fun _ => rfl
  strip_hash := fun _ _ => rfl
  strip_intent := by
    intro rest heq
    have heq : localTransactionIntentPrefix ++ rest = "" := heq
    have hlist := congrArg String.toList heq
    rw [String.toList_append] at hlist
    simp [localTransactionIntentPrefix] at hlist
  lower_lower := sqlLower_sqlLower

def draftOf (spotId createdBy : ℕ) (depositAddress : Address) : Spot Unit where
  id := spotId
  createdBy := createdBy
  depositAddress := depositAddress
  position := some ()
  radius := 10
  claimDuration := 0
  maxClaimsPerUser := 1
  maxTotalClaims := 1
  usePassword := false
  totalValue := 200
  creationFee := 100
  creationFeeAddress := "NQ07 FEE"
  startsAt := none
  endsAt := 1000
  status := .draft
  cancellationStartedAt := none
  prizeCount := none

def feeAndStranger : Db Unit := { (Db.empty : Db Unit) with
  spots := [draftOf 1 1 "NQ03 SPOT", draftOf 2 2 "NQ06 SPOT"]
  spotSeq := 2 }

def transferJson (txHash sender recipient : String) (value : ℤ) : Json :=
  .obj [("hash", .str txHash), ("from", .str sender), ("to", .str recipient), ("value", .int value)]

/-- The creation fee of Spot 1 is broadcast and its answer lost; a stranger names its hash as the deposit of
Spot 2; the recovery reads a history that spells it `feeHash`. -/
def lostAnswer (feeHash : String) : List (OutboxOp Unit) :=
  [ .deposit 1 1 300 "NQ01 USER" "aaaaaaaaaaaaaaaaaaaaaaaaaaaaaaaaaaaaaaaaaaaaaaaaaaaaaaaaaaaaaaaa" none,
    .readPending 1,
    .resume 0 { replies := ⟨.body (.obj [("result", transferJson
      "aaaaaaaaaaaaaaaaaaaaaaaaaaaaaaaaaaaaaaaaaaaaaaaaaaaaaaaaaaaaaaaa" "NQ01 USER" "NQ03 SPOT" 300)]),
      .raises .urlError, .raises .urlError, .raises .urlError⟩ },
    .reserve (.creationFee 1 100) "token",
    .resume 0 {},
    .deposit 2 2 300 "NQ05 USER" "bbbbbbbbbbbbbbbbbbbbbbbbbbbbbbbbbbbbbbbbbbbbbbbbbbbbbbbbbbbbbbbb" none,
    .readIntent 2,
    .resume 0 { history := .body (.obj [("result", .arr [transferJson feeHash "NQ03 SPOT" "NQ07 FEE" 100])]) },
    .resume 0 {} ]

/-- The stranger's deposit and the creation fee stand on one transaction of the chain. -/
theorem upper_case_hash_backs_two_rows :
    ¬ AtMostOnce asciiText (run (Outbox.step asciiText) (Outbox.initial feeAndStranger)
      (lostAnswer "BBBBBBBBBBBBBBBBBBBBBBBBBBBBBBBBBBBBBBBBBBBBBBBBBBBBBBBBBBBBBBBB")) := by
  intro h
  have hrows : ∃ a ∈ (run (Outbox.step asciiText) (Outbox.initial feeAndStranger)
      (lostAnswer "BBBBBBBBBBBBBBBBBBBBBBBBBBBBBBBBBBBBBBBBBBBBBBBBBBBBBBBBBBBBBBBB")).db.trans,
      ∃ b ∈ (run (Outbox.step asciiText) (Outbox.initial feeAndStranger)
        (lostAnswer "BBBBBBBBBBBBBBBBBBBBBBBBBBBBBBBBBBBBBBBBBBBBBBBBBBBBBBBBBBBBBBBB")).db.trans,
        isNimiqTransactionHash a.txHash = true ∧ isNimiqTransactionHash b.txHash = true ∧
          sqlLower a.txHash = sqlLower b.txHash ∧ a ≠ b := by
    decide +kernel
  obtain ⟨a, ha, b, hb, hhash, hhash', heq, hne⟩ := hrows
  exact hne (h.hash_backs_one a ha b hb hhash hhash' heq)

lemma spellsLower_raises (e : PyError) : SpellsLower asciiText (.raises e) := by
  intro history hanswer
  cases hanswer

lemma spellsLower_fee : SpellsLower asciiText (.body (.obj [("result", .arr [transferJson
    "bbbbbbbbbbbbbbbbbbbbbbbbbbbbbbbbbbbbbbbbbbbbbbbbbbbbbbbbbbbbbbbb" "NQ03 SPOT" "NQ07 FEE" 100])])) := by
  intro history hanswer candidate hentry
  cases hanswer
  have hall : (iterCandidateTransactions asciiText (Json.size (.arr [transferJson
      "bbbbbbbbbbbbbbbbbbbbbbbbbbbbbbbbbbbbbbbbbbbbbbbbbbbbbbbbbbbbbbbb" "NQ03 SPOT" "NQ07 FEE" 100]))
      [.arr [transferJson "bbbbbbbbbbbbbbbbbbbbbbbbbbbbbbbbbbbbbbbbbbbbbbbbbbbbbbbbbbbbbbbb" "NQ03 SPOT" "NQ07 FEE" 100]]).all
      (fun candidate => decide (sqlLower ((extractChainHash asciiText candidate).getD "") =
        (extractChainHash asciiText candidate).getD "")) = true := by
    decide +kernel
  exact of_decide_eq_true (List.all_eq_true.mp hall candidate hentry)

theorem outbox_pays_at_most_once_lower_case :
    AtMostOnce asciiText (run (Outbox.step asciiText) (Outbox.initial feeAndStranger)
      (lostAnswer "bbbbbbbbbbbbbbbbbbbbbbbbbbbbbbbbbbbbbbbbbbbbbbbbbbbbbbbbbbbbbbbb")) := by
  apply outbox_pays_at_most_once asciiText_pythonText rfl
  apply admissible_of_forall
  intro op hop s
  simp only [lostAnswer, List.mem_cons, List.not_mem_nil, or_false] at hop
  rcases hop with rfl | rfl | rfl | rfl | rfl | rfl | rfl | rfl | rfl
  · trivial
  · trivial
  · exact fun _ _ => spellsLower_raises _
  · trivial
  · exact fun _ _ => spellsLower_raises _
  · trivial
  · trivial
  · exact fun _ _ => spellsLower_fee
  · exact fun _ _ => spellsLower_raises _

end Spellings

end NimHunt
