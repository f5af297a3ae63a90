import NimHunt.AdminModeration
import NimHunt.TransactionChecks
import NimHunt.Proofs.ClaimWrites

/-!
# What a pass writes

A verdict that is final takes its row out of the PENDING rows and touches no other transaction row;
every other verdict writes nothing.  What a pass does to the queue of PENDING rows follows by
induction over the batch.
-/

namespace NimHunt

open Lib

variable {P : Type}

instance : Std.Total Trans.Older := ⟨fun a b => by unfold Trans.Older; omega⟩

instance : IsTrans Trans Trans.Older := ⟨fun a b c => by unfold Trans.Older; omega⟩

def Verdict.isFinal : Verdict → Bool
  | .reject _ | .accept _ => true
  | _ => false

section Rows

variable {db : Db P} {row : Trans}

lemma finalizeCancelledSpotIfReady_frame (db : Db P) (spotId : Option ℕ) :
    ∃ spots, finalizeCancelledSpotIfReady db spotId = { db with spots := spots } := by
  unfold finalizeCancelledSpotIfReady
  cases spotId with
  | none => exact ⟨_, rfl⟩
  | some spotId =>
    dsimp only
    cases db.getSpot spotId with
    | none => exact ⟨_, rfl⟩
    | some spot =>
      dsimp only
      split_ifs
      · exact ⟨_, rfl⟩
      · exact ⟨_, rfl⟩
      · exact ⟨_, rfl⟩
      · exact ⟨_, rfl⟩

/-- The row has left PENDING and no other row has changed. -/
structure RowSettled (db : Db P) (row : Trans) (db' : Db P) : Prop where
  now : db'.now = db.now
  transSeq : db'.transSeq = db.transSeq
  trans : ∃ f : Trans → Trans, db'.trans = updateWhere (fun t => t.id = row.id) f db.trans ∧
    ∀ t, (f t).id = t.id ∧ (f t).status ≠ .pending

lemma RowSettled.finalize {db' : Db P} (h : RowSettled db row db') (spotId : Option ℕ) :
    RowSettled db row (finalizeCancelledSpotIfReady db' spotId) := by
  obtain ⟨spots, hfinal⟩ := finalizeCancelledSpotIfReady_frame db' spotId
  rw [hfinal]
  exact ⟨h.now, h.transSeq, h.trans⟩

lemma getTransaction_of_mem (hkeys : (db.trans.map Trans.id).Nodup) (hrow : row ∈ db.trans) :
    db.getTransaction row.id = some row :=
  (find?_key_eq_some hkeys).mpr ⟨hrow, rfl⟩

lemma modifyTransactionStatus_of_pending {transId : ℕ} (status : TransStatus)
    (hget : db.getTransaction transId = some row) (hpending : row.status = .pending) :
    db.modifyTransactionStatus transId status =
      ({ db with trans := updateWhere (fun t => t.id = transId) (fun t => { t with status := status }) db.trans },
        .ok ()) := by
  rw [Db.modifyTransactionStatus, hget]
  simp [hpending]

lemma markTransAsFailed_settles (hkeys : (db.trans.map Trans.id).Nodup) (hrow : row ∈ db.trans)
    (hpending : row.status = .pending) :
    ∃ db', markTransAsFailed db row = (db', .ok ()) ∧ RowSettled db row db' := by
  have hget := getTransaction_of_mem hkeys hrow
  rw [markTransAsFailed, modifyTransactionStatus_of_pending .failed hget hpending]
  refine ⟨_, rfl, RowSettled.finalize ?_ row.spotId⟩
  exact ⟨rfl, rfl, _, rfl, fun t => ⟨rfl, by simp⟩⟩

/-- The transfer is stored and then the status, both in the row itself. -/
lemma updateWhere_detail_status (xs : List Trans) (transId : ℕ) (transfer : ChainTransfer) (status : TransStatus) :
    updateWhere (fun t => t.id = transId) (fun t => { t with status := status })
      (updateWhere (fun t => t.id = transId)
        (fun t => { t with
          fromAddress := transfer.fromAddress, toAddress := transfer.toAddress, amount := transfer.amount }) xs) =
    updateWhere (fun t => t.id = transId)
      (fun t => { t with
        fromAddress := transfer.fromAddress, toAddress := transfer.toAddress, amount := transfer.amount,
        status := status }) xs := by
  simp only [updateWhere, List.map_map]
  refine List.map_congr_left fun t _ => ?_
  by_cases ht : t.id = transId <;> simp [ht]

/-- The row as it stands once its transfer is stored. -/
def Trans.withTransfer (row : Trans) (transfer : ChainTransfer) : Trans :=
  { row with fromAddress := transfer.fromAddress, toAddress := transfer.toAddress, amount := transfer.amount }

lemma getTransaction_detailed (transfer : ChainTransfer) (hget : db.getTransaction row.id = some row) :
    (db.updateTransactionChainDetails row.id transfer).getTransaction row.id = some (row.withTransfer transfer) := by
  have hkey : ∀ t : Trans, Trans.id (t.withTransfer transfer) = Trans.id t := fun _ => rfl
  refine (find?_updateWhere_key hkey row.id).trans ?_
  have hfound : db.trans.find? (fun t => decide (t.id = row.id)) = some row := hget
  rw [hfound]
  simp

/-- The deposit's sender is not the first confirmed one. -/
def fundingMismatch (db : Db P) (row : Trans) (transfer : ChainTransfer) : Prop :=
  row.type = .fillSpot ∧
    (match row.spotId.bind db.getConfirmedSpotFundingAddress with
      | none => false
      | some funding => decide (funding ≠ transfer.fromAddress)) = true

instance (db : Db P) (row : Trans) (transfer : ChainTransfer) : Decidable (fundingMismatch db row transfer) :=
  inferInstanceAs (Decidable (_ ∧ _))

/-- How a PENDING row stands after its confirmation. -/
def Trans.confirmedAs (db : Db P) (row : Trans) (transfer : ChainTransfer) (t : Trans) : Trans :=
  { t.withTransfer transfer with status := if fundingMismatch db row transfer then .failed else .confirmed }

lemma markTransAsConfirmed_trans (transfer : ChainTransfer) (payout : Bool)
    (hkeys : (db.trans.map Trans.id).Nodup) (hrow : row ∈ db.trans) (hpending : row.status = .pending) :
    ∃ db', markTransAsConfirmed db row transfer payout = (db', .ok ()) ∧ db'.now = db.now ∧
      db'.transSeq = db.transSeq ∧
      db'.trans = updateWhere (fun t => t.id = row.id) (Trans.confirmedAs db row transfer) db.trans := by
  have hget := getTransaction_detailed transfer (getTransaction_of_mem hkeys hrow)
  have hstill : (row.withTransfer transfer).status = .pending := hpending
  have hmodify := fun status => modifyTransactionStatus_of_pending status hget hstill
  unfold markTransAsConfirmed
  change ∃ db', Outcome.orRollback db (if fundingMismatch db row transfer then _ else _) = (db', .ok ()) ∧ _
  by_cases hmismatch : fundingMismatch db row transfer
  · have hrowed : Trans.confirmedAs db row transfer = fun t => { t.withTransfer transfer with status := .failed } := by
      funext t
      simp only [Trans.confirmedAs, if_pos hmismatch]
    rw [if_pos hmismatch, hmodify, hrowed]
    exact ⟨_, rfl, rfl, rfl, updateWhere_detail_status db.trans row.id transfer .failed⟩
  · have hrowed : Trans.confirmedAs db row transfer = fun t => { t.withTransfer transfer with status := .confirmed } := by
      funext t
      simp only [Trans.confirmedAs, if_neg hmismatch]
    rw [if_neg hmismatch, hmodify, hrowed]
    dsimp only
    have hfinal := fun d : Db P => finalizeCancelledSpotIfReady_frame d row.spotId
    split
    · obtain ⟨spots, hspots⟩ := hfinal _
      exact ⟨_, rfl, hspots ▸ ⟨rfl, rfl, updateWhere_detail_status db.trans row.id transfer .confirmed⟩⟩
    · obtain ⟨spots, hspots⟩ := hfinal _
      exact ⟨_, rfl, hspots ▸ ⟨rfl, rfl, updateWhere_detail_status db.trans row.id transfer .confirmed⟩⟩

lemma markTransAsConfirmed_settles (transfer : ChainTransfer) (payout : Bool)
    (hkeys : (db.trans.map Trans.id).Nodup) (hrow : row ∈ db.trans) (hpending : row.status = .pending) :
    ∃ db', markTransAsConfirmed db row transfer payout = (db', .ok ()) ∧ RowSettled db row db' := by
  obtain ⟨db', hmark, hnow, hseq, htrans⟩ := markTransAsConfirmed_trans transfer payout hkeys hrow hpending
  refine ⟨db', hmark, hnow, hseq, _, htrans, fun t => ⟨rfl, ?_⟩⟩
  unfold Trans.confirmedAs
  split_ifs <;> simp

end Rows

section Appends

/-- Only new transaction rows have been added, all of the kind `p`. -/
def AppendsTrans (p : Trans → Prop) (db db' : Db P) : Prop :=
  ∃ rows seq, db' = { db with trans := db.trans ++ rows, transSeq := seq } ∧ ∀ t ∈ rows, p t

variable {cfg : Settings P} {p q : Trans → Prop} {db db' db'' : Db P}

lemma AppendsTrans.refl (p : Trans → Prop) (db : Db P) : AppendsTrans p db db := ⟨[], db.transSeq, by simp, by simp⟩

lemma AppendsTrans.then (h : AppendsTrans p db db') (h' : AppendsTrans p db' db'') : AppendsTrans p db db'' := by
  obtain ⟨rows, seq, rfl, hrows⟩ := h
  obtain ⟨rows', seq', rfl, hrows'⟩ := h'
  refine ⟨rows ++ rows', seq', by simp, ?_⟩
  intro t ht
  rcases List.mem_append.mp ht with ht | ht
  · exact hrows t ht
  · exact hrows' t ht

lemma AppendsTrans.mono (h : AppendsTrans p db db') (himp : ∀ t, p t → q t) : AppendsTrans q db db' := by
  obtain ⟨rows, seq, hdb, hrows⟩ := h
  exact ⟨rows, seq, hdb, fun t ht => himp t (hrows t ht)⟩

lemma AppendsTrans.foldl {α : Type*} {f : Db P → α → Db P} (xs : List α)
    (hstep : ∀ x ∈ xs, ∀ db, AppendsTrans p db (f db x)) : AppendsTrans p db (xs.foldl f db) := by
  induction xs generalizing db with
  | nil => exact .refl p db
  | cons x xs ih =>
    have hhead := hstep x List.mem_cons_self db
    exact hhead.then (ih fun y hy => hstep y (List.mem_cons_of_mem x hy))

/-- What an insert adds has the kind, Spot and claim it was asked for. -/
def NewTrans.Describes (row : NewTrans) (t : Trans) : Prop :=
  t.type = row.type ∧ t.spotId = row.spotId ∧ t.claimId = row.claimId

variable {transId : ℕ}

/-- A successful insert put the row it was asked for at the end of the table. -/
lemma createTransaction_ok {row : NewTrans} (h : db.createTransaction row = (db', .ok transId)) :
    transId = db.transSeq + 1 ∧ db' = { db with
      trans := db.trans ++ [{
        id := transId, userId := row.userId, spotId := row.spotId, claimId := row.claimId,
        type := row.type, amount := row.amount, fromAddress := row.fromAddress,
        toAddress := row.toAddress, txHash := row.txHash, status := .pending, createdAt := db.now }]
      transSeq := transId } ∧
    (∀ old ∈ db.trans, old.txHash ≠ row.txHash) ∧ ∀ old ∈ db.trans, row.activeTwin old = false := by
  unfold Db.createTransaction at h
  by_cases hhash : (db.trans.any fun old => decide (old.txHash = row.txHash)) = true
  · simp [hhash] at h
  · by_cases htwin : db.trans.any row.activeTwin = true
    · simp [hhash, htwin] at h
    · rw [if_neg hhash, if_neg htwin] at h
      obtain ⟨hdb, hid⟩ := Prod.mk.inj h
      have hid := Except.ok.inj hid
      subst hid
      refine ⟨rfl, hdb.symm, fun old hold heq => hhash ?_, fun old hold => ?_⟩
      · exact List.any_eq_true.mpr ⟨old, hold, by simpa using heq⟩
      · by_contra hactive
        exact htwin (List.any_eq_true.mpr ⟨old, hold, by simpa using hactive⟩)

lemma createTransaction_error {row : NewTrans} {e : Raised} (h : db.createTransaction row = (db', .error e)) :
    db' = db := by
  unfold Db.createTransaction at h
  by_cases hhash : (db.trans.any fun old => decide (old.txHash = row.txHash)) = true
  · rw [if_pos hhash] at h
    exact (Prod.mk.inj h).1.symm
  · rw [if_neg hhash] at h
    by_cases htwin : db.trans.any row.activeTwin = true
    · rw [if_pos htwin] at h
      exact (Prod.mk.inj h).1.symm
    · rw [if_neg htwin] at h
      simp at h

/-- A call that inserts one row of the kind `p` or changes nothing. -/
inductive Inserts (p : NewTrans → Prop) (db : Db P) : Outcome P ℕ → Prop
  | refused (e : Raised) : Inserts p db (db, .error e)
  | made {row : NewTrans} {db' : Db P} {transId : ℕ} (h : db.createTransaction row = (db', .ok transId))
      (hrow : p row) : Inserts p db (db', .ok transId)

variable {r : NewTrans → Prop} {outcome : Outcome P ℕ}

lemma createTransaction_inserts {row : NewTrans} (hrow : r row) : Inserts r db (db.createTransaction row) := by
  rcases h : db.createTransaction row with ⟨made, e | transId⟩
  · have hsame := createTransaction_error h
    subst hsame
    exact .refused e
  · exact .made h hrow

lemma Inserts.mono {p q : NewTrans → Prop} {outcome : Outcome P ℕ} (h : Inserts p db outcome)
    (himp : ∀ row, p row → q row) : Inserts q db outcome := by
  cases h with
  | refused e => exact .refused e
  | made h hrow => exact .made h (himp _ hrow)

lemma Inserts.orRollback (h : Inserts r db outcome) : Inserts r db (outcome.orRollback db) := by
  cases h with
  | refused e => exact .refused e
  | made h hrow => exact .made h hrow

lemma recordChainSend_inserts {spot : Spot P} {toAddress : Address} {amount : ℕ}
    {create : Address → Address → Outcome P ℕ} (hcreate : ∀ a b, Inserts r db (create a b)) :
    Inserts r db (recordChainSend cfg db spot toAddress amount create) := by
  unfold recordChainSend
  split_ifs
  · exact .refused _
  · split
    · exact .refused _
    · exact .refused _
    · exact Inserts.orRollback (hcreate _ _)

lemma Inserts.appends (h : Inserts r db outcome) (himp : ∀ row t, r row → row.Describes t → p t) :
    AppendsTrans p db outcome.1 := by
  cases h with
  | refused e => exact .refl p db
  | @made row db' transId h hrow =>
    obtain ⟨-, rfl, -⟩ := createTransaction_ok h
    refine ⟨_, _, rfl, ?_⟩
    intro t ht
    rw [List.mem_singleton] at ht
    subst ht
    exact himp row _ hrow ⟨rfl, rfl, rfl⟩

/-- The row of a leg a Spot pays once. -/
def IsLegOf (type : TransType) (spotId : ℕ) (t : Trans) : Prop :=
  t.type = type ∧ t.spotId = some spotId ∧ t.claimId = none

/-- What is inserted for such a leg under a given hash. -/
def NewTrans.IsLegOf (type : TransType) (spotId : ℕ) (txHash : String) (row : NewTrans) : Prop :=
  row.type = type ∧ row.spotId = some spotId ∧ row.claimId = none ∧ row.txHash = txHash

lemma NewTrans.IsLegOf.describes {type : TransType} {spotId : ℕ} {txHash : String} {row : NewTrans} {t : Trans}
    (h : row.IsLegOf type spotId txHash) (ht : row.Describes t) : NimHunt.IsLegOf type spotId t :=
  ⟨ht.1.trans h.1, ht.2.1.trans h.2.1, ht.2.2.trans h.2.2.1⟩

lemma submitSpotCreationFeeTransaction_inserts (spotId amount : ℕ) (txHash : String) :
    Inserts (NewTrans.IsLegOf .creationFee spotId txHash) db
      (submitSpotCreationFeeTransaction cfg db spotId amount txHash) := by
  unfold submitSpotCreationFeeTransaction
  cases hspot : db.getSpot spotId with
  | none => exact .refused _
  | some spot =>
    apply recordChainSend_inserts
    intro fromAddress toAddress
    rw [createSpotCreationFeeTransaction, hspot]
    dsimp only
    cases cfg.normaliseNimiqAddress spot.depositAddress with
    | error message =>
      dsimp only
      split_ifs <;> exact .refused _
    | ok expectedFrom =>
      cases cfg.normaliseNimiqAddress spot.creationFeeAddress with
      | error message =>
        dsimp only
        split_ifs <;> exact .refused _
      | ok expectedTo =>
        dsimp only
        split_ifs
        · exact .refused _
        · exact .refused _
        · exact .refused _
        · exact .refused _
        · exact .refused _
        · exact .refused _
        · exact .refused _
        · exact createTransaction_inserts ⟨rfl, rfl, rfl, rfl⟩

/-- A payout row of a claim. -/
def NewTrans.IsPayoutOf (job : PayoutJob) (txHash : String) (row : NewTrans) : Prop :=
  row.type = .claim ∧ row.claimId = some job.claimId ∧ row.txHash = txHash ∧ row.amount = job.amount

/-- The row is booked to the Spot of the claim it pays. -/
lemma submitClaimRewardTransaction_insertsFor (job : PayoutJob) (txHash : String) :
    Inserts (fun row => row.IsPayoutOf job txHash ∧
        ∃ claim, db.getClaim job.claimId = some claim ∧ row.spotId = some claim.spotId) db
      (submitClaimRewardTransaction cfg db job txHash) := by
  unfold submitClaimRewardTransaction
  cases hclaim : db.getClaim job.claimId with
  | none => exact .refused _
  | some claim =>
    dsimp only
    cases hspot : db.getSpot claim.spotId with
    | none => exact .refused _
    | some spot =>
      dsimp only
      split
      · exact .refused _
      · exact .refused _
      · apply recordChainSend_inserts
        intro fromAddress toAddress
        rw [guardedCreateClaimTransaction, hclaim]
        dsimp only
        rw [hspot]
        dsimp only
        split_ifs
        · exact .refused _
        · rw [Db.createClaimTransaction, hclaim]
          dsimp only
          split_ifs
          · exact .refused _
          · exact createTransaction_inserts ⟨⟨rfl, rfl, rfl, rfl⟩, claim, rfl, rfl⟩

lemma submitClaimRewardTransaction_inserts (job : PayoutJob) (txHash : String) :
    Inserts (NewTrans.IsPayoutOf job txHash) db (submitClaimRewardTransaction cfg db job txHash) :=
  (submitClaimRewardTransaction_insertsFor job txHash).mono fun _ h => h.1

lemma submitPlatformFeeTransaction_amount (spotId amount : ℕ) (feeAddress : Address) (txHash : String) :
    Inserts (fun row => row.IsLegOf .platFee spotId txHash ∧ row.amount = amount) db
      (submitPlatformFeeTransaction cfg db spotId amount feeAddress txHash) := by
  unfold submitPlatformFeeTransaction
  cases db.getSpot spotId with
  | none => exact .refused _
  | some spot => exact recordChainSend_inserts fun _ _ => createTransaction_inserts ⟨⟨rfl, rfl, rfl, rfl⟩, rfl⟩

lemma submitPlatformFeeTransaction_inserts (spotId amount : ℕ) (feeAddress : Address) (txHash : String) :
    Inserts (NewTrans.IsLegOf .platFee spotId txHash) db
      (submitPlatformFeeTransaction cfg db spotId amount feeAddress txHash) :=
  (submitPlatformFeeTransaction_amount spotId amount feeAddress txHash).mono fun _ h => h.1

lemma submitSpotRefundTransaction_amount (spotId amount : ℕ) (refundAddress : Address) (txHash : String) :
    Inserts (fun row => row.IsLegOf .cancelSpot spotId txHash ∧ row.amount = amount) db
      (submitSpotRefundTransaction cfg db spotId amount refundAddress txHash) := by
  unfold submitSpotRefundTransaction
  cases db.getSpot spotId with
  | none => exact .refused _
  | some spot => exact recordChainSend_inserts fun _ _ => createTransaction_inserts ⟨⟨rfl, rfl, rfl, rfl⟩, rfl⟩

lemma submitSpotRefundTransaction_inserts (spotId amount : ℕ) (refundAddress : Address) (txHash : String) :
    Inserts (NewTrans.IsLegOf .cancelSpot spotId txHash) db
      (submitSpotRefundTransaction cfg db spotId amount refundAddress txHash) :=
  (submitSpotRefundTransaction_amount spotId amount refundAddress txHash).mono fun _ h => h.1

lemma submitSpotRemainderRefundTransaction_inserts (spotId amount : ℕ) (refundAddress : Address)
    (txHash : String) :
    Inserts (NewTrans.IsLegOf .remainderRefund spotId txHash) db
      (submitSpotRemainderRefundTransaction cfg db spotId amount refundAddress txHash) := by
  unfold submitSpotRemainderRefundTransaction
  cases db.getSpot spotId with
  | none => exact .refused _
  | some spot =>
    apply recordChainSend_inserts
    intro fromAddress toAddress
    split_ifs
    · exact .refused _
    · exact createTransaction_inserts ⟨rfl, rfl, rfl, rfl⟩

lemma submitBanSweep_inserts (spotId amount : ℕ) (txHash : String) :
    Inserts (NewTrans.IsLegOf .platFee spotId txHash) db (submitBanSweep cfg db spotId amount txHash) := by
  unfold submitBanSweep
  cases hspot : db.getSpot spotId with
  | none => exact .refused _
  | some spot =>
    apply recordChainSend_inserts
    intro fromAddress toAddress
    rw [createBanSweepTransaction, hspot]
    dsimp only
    by_cases hbanned : spot.status ≠ .banned
    · rw [if_pos hbanned]
      exact .refused _
    rw [if_neg hbanned]
    cases cfg.normaliseNimiqAddress spot.depositAddress with
    | error message => exact .refused _
    | ok expectedFrom =>
      cases cfg.normaliseNimiqAddress cfg.spotFeeAddress with
      | error message => exact .refused _
      | ok expectedTo =>
        dsimp only
        split_ifs
        · exact .refused _
        · exact .refused _
        · exact .refused _
        · exact .refused _
        · exact createTransaction_inserts ⟨rfl, rfl, rfl, rfl⟩

lemma submitSpotCreationFeeTransaction_appends (spotId amount : ℕ) (txHash : String) :
    AppendsTrans (IsLegOf .creationFee spotId) db (submitSpotCreationFeeTransaction cfg db spotId amount txHash).1 :=
  (submitSpotCreationFeeTransaction_inserts spotId amount txHash).appends fun _ _ h ht => h.describes ht

variable (cfg db) in
lemma submitReadySpotCreationFees_appends (txHash : ℕ → String) :
    AppendsTrans (fun t => t.type = .creationFee) db (submitReadySpotCreationFees cfg txHash db) := by
  refine AppendsTrans.foldl _ fun spotId _ db => ?_
  unfold submitDueCreationFee
  cases creationFeeDue db spotId with
  | none => exact .refl _ db
  | some amount =>
    exact (submitSpotCreationFeeTransaction_appends spotId amount (txHash spotId)).mono fun t ht => ht.1

lemma submitClaimRewardTransaction_appends (job : PayoutJob) (txHash : String) :
    AppendsTrans (fun t => t.type = .claim ∧ t.claimId = some job.claimId) db
      (submitClaimRewardTransaction cfg db job txHash).1 :=
  (submitClaimRewardTransaction_inserts job txHash).appends fun _ _ h ht =>
    ⟨ht.1.trans h.1, ht.2.2.trans h.2.1⟩

lemma submitSpotRemainderRefundTransaction_appends (spotId amount : ℕ) (refundAddress : Address) (txHash : String) :
    AppendsTrans (IsLegOf .remainderRefund spotId) db
      (submitSpotRemainderRefundTransaction cfg db spotId amount refundAddress txHash).1 :=
  (submitSpotRemainderRefundTransaction_inserts spotId amount refundAddress txHash).appends
    fun _ _ h ht => h.describes ht

end Appends

section Queue

variable {cfg : Settings P} {replies : Trans → RowReplies} {db : Db P}

def Db.pendingRows (db : Db P) : List Trans := db.trans.filter fun t => t.status = .pending

lemma Db.mem_pendingRows {row : Trans} : row ∈ db.pendingRows ↔ row ∈ db.trans ∧ row.status = .pending := by
  simp [Db.pendingRows]

lemma pendingRows_antisymm (hkeys : (db.trans.map Trans.id).Nodup) :
    ∀ a ∈ db.pendingRows, ∀ b ∈ db.pendingRows, a.Older b → b.Older a → a = b := by
  intro a ha b hb hab hba
  unfold Trans.Older at hab hba
  exact eq_of_key_eq hkeys (Db.mem_pendingRows.mp ha).1 (Db.mem_pendingRows.mp hb).1 (by omega)

lemma mem_pendingTransactions {row : Trans} : row ∈ db.pendingTransactions ↔ row ∈ db.pendingRows :=
  List.mem_insertionSort Trans.Older

lemma pendingTransactions_nodup (hkeys : (db.trans.map Trans.id).Nodup) : db.pendingTransactions.Nodup := by
  have hrows : db.pendingRows.Nodup := (List.Nodup.of_map _ hkeys).filter _
  exact (List.perm_insertionSort Trans.Older _).nodup_iff.mpr hrows

lemma RowSettled.pendingRows {row : Trans} {db' : Db P} (h : RowSettled db row db') :
    db'.pendingRows = db.pendingRows.filter fun t => t.id ≠ row.id := by
  obtain ⟨f, hf, hstatus⟩ := h.trans
  rw [Db.pendingRows, hf, filter_updateWhere_of_leaving]
  · simp [Db.pendingRows]
  · intro t _ _
    simp [(hstatus t).2]

lemma RowSettled.keys {row : Trans} {db' : Db P} (h : RowSettled db row db') :
    db'.trans.map Trans.id = db.trans.map Trans.id := by
  obtain ⟨f, hf, hid⟩ := h.trans
  rw [hf]
  exact map_updateWhere fun t => (hid t).1

/-- The chain answers for the row with a verdict that can be stored, final or not. -/
def Decided (cfg : Settings P) (now : ℕ) (replies : Trans → RowReplies) (row : Trans) (final : Bool) : Prop :=
  ∃ status verdict, assessRow cfg now row (replies row) = .ok (status, verdict) ∧ verdict.isFinal = final ∧
    ∀ transfer, verdict = .accept transfer → unstorable status.blockNumber transfer = none

lemma settleRow_ok {row : Trans} {block : Option ℤ} {verdict : Verdict} (hkeys : (db.trans.map Trans.id).Nodup)
    (hrow : row ∈ db.pendingRows)
    (hstore : ∀ transfer, verdict = .accept transfer → unstorable block transfer = none) :
    ∃ db', settleRow db row block verdict = (db', .ok ()) ∧
      ((verdict.isFinal = false ∧ db' = db) ∨ (verdict.isFinal = true ∧ RowSettled db row db')) := by
  obtain ⟨hmem, hpending⟩ := Db.mem_pendingRows.mp hrow
  cases verdict with
  | stillPending reason => exact ⟨db, rfl, Or.inl ⟨rfl, rfl⟩⟩
  | unknown reason => exact ⟨db, rfl, Or.inl ⟨rfl, rfl⟩⟩
  | reject reason =>
    obtain ⟨db', hmark, hsettled⟩ := markTransAsFailed_settles hkeys hmem hpending
    refine ⟨db', ?_, Or.inr ⟨rfl, hsettled⟩⟩
    rw [settleRow, hmark]
    rfl
  | accept transfer =>
    obtain ⟨db', hmark, hsettled⟩ := markTransAsConfirmed_settles transfer
      (claimTransactionIsCompletedPrizedrawPayout db row) hkeys hmem hpending
    refine ⟨db', ?_, Or.inr ⟨rfl, hsettled⟩⟩
    rw [settleRow, hstore transfer rfl]
    dsimp only
    rw [hmark]
    rfl

/-- A loop whose rows are all decided takes the finally decided ones out of the PENDING rows. -/
lemma checkRows_decided {stuck : Trans → Bool} {rows : List Trans} (hkeys : (db.trans.map Trans.id).Nodup)
    (hrows : ∀ row ∈ rows, row ∈ db.pendingRows) (hnodup : (rows.map Trans.id).Nodup)
    (hdecided : ∀ row ∈ rows, Decided cfg db.now replies row (!stuck row)) :
    ∃ db' checked, checkRows cfg replies db rows = (db', .ok checked) ∧
      checked.map Checked.transId = rows.map Trans.id ∧ db'.now = db.now ∧
      db'.trans.map Trans.id = db.trans.map Trans.id ∧
      db'.pendingRows = db.pendingRows.filter fun t => !(decide (t ∈ rows) && !stuck t) := by
  induction rows generalizing db with
  | nil =>
    refine ⟨db, [], rfl, rfl, rfl, rfl, ?_⟩
    rw [eq_comm, List.filter_eq_self]
    simp
  | cons row rows ih =>
    obtain ⟨hfresh, hnodup⟩ := List.nodup_cons.mp hnodup
    have hhead := hrows row List.mem_cons_self
    obtain ⟨status, verdict, hassess, hfinal, hstore⟩ := hdecided row List.mem_cons_self
    obtain ⟨mid, hsettle, hmid⟩ := settleRow_ok hkeys hhead hstore
    have hothers : ∀ t ∈ rows, t.id ≠ row.id := by
      intro t ht heq
      exact hfresh (heq ▸ List.mem_map_of_mem ht)
    rcases hmid with ⟨hopen, rfl⟩ | ⟨hclosed, hsettled⟩
    · have hstuck : stuck row = true := by simpa [hopen] using hfinal
      obtain ⟨db', checked, hloop, hids, hnow, htrans, hpending⟩ := ih hkeys
        (fun t ht => hrows t (List.mem_cons_of_mem row ht)) hnodup
        (fun t ht => hdecided t (List.mem_cons_of_mem row ht))
      refine ⟨db', ⟨row.id, status.txHash, verdict, status.blockNumber⟩ :: checked, ?_, ?_, hnow, htrans, ?_⟩
      · simp only [checkRows, hassess, hsettle, hloop]
      · simp [hids]
      · rw [hpending]
        refine List.filter_congr fun t _ => ?_
        by_cases ht : t = row
        · subst ht
          simp [hstuck]
        · simp [ht]
    · have hleaves : stuck row = false := by simpa [hclosed] using hfinal
      have hmidrows : ∀ t ∈ rows, t ∈ mid.pendingRows := by
        intro t ht
        rw [hsettled.pendingRows, List.mem_filter]
        exact ⟨hrows t (List.mem_cons_of_mem row ht), by simpa using hothers t ht⟩
      obtain ⟨db', checked, hloop, hids, hnow, htrans, hpending⟩ := ih (hsettled.keys ▸ hkeys) hmidrows hnodup
        (fun t ht => hsettled.now ▸ hdecided t (List.mem_cons_of_mem row ht))
      refine ⟨db', ⟨row.id, status.txHash, verdict, status.blockNumber⟩ :: checked, ?_, ?_,
        hnow.trans hsettled.now, htrans.trans hsettled.keys, ?_⟩
      · simp only [checkRows, hassess, hsettle, hloop]
      · simp [hids]
      · rw [hpending, hsettled.pendingRows, List.filter_filter]
        refine List.filter_congr fun t ht => ?_
        by_cases heq : t = row
        · subst heq
          simp [hleaves]
        · have hid : t.id ≠ row.id := fun hid =>
            heq (eq_of_key_eq hkeys (Db.mem_pendingRows.mp ht).1 (Db.mem_pendingRows.mp hhead).1 hid)
          simp [heq, hid]

end Queue

end NimHunt
