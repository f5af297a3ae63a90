import Mathlib.Algebra.BigOperators.Group.Finset.Basic
import Mathlib.Algebra.Order.BigOperators.Group.Finset
import NimHunt.Proofs.OutboxSafety
import NimHunt.ThrottledOutbox

/-!
# The throttle bounds what is paid

A claim is charged to a window by its row or by its reservation, and once even if by both.  An admission
adds its claim under the limits, the insert of a row adds nothing new, and everything else only lets go of
claims.
-/

namespace NimHunt

open Lib

variable {P : Type}

section Amounts

variable {cfg : Settings P} {row : Trans} {transfer : ChainTransfer}

lemma verifyRawDetails_amount {raw : Json} (htype : row.type ≠ .fillSpot)
    (h : verifyRawDetails cfg row raw = .ok (.ok transfer)) : transfer.amount = row.amount := by
  unfold verifyRawDetails at h
  by_cases hfailed : executionResultIsFailure cfg raw = true
  · rw [if_pos hfailed] at h
    simp at h
  rw [if_neg hfailed] at h
  cases hamount : extractChainAmount cfg raw with
  | error e => simp [hamount] at h
  | ok amount =>
    rw [hamount] at h
    dsimp only at h
    have h := Except.ok.inj h
    split at h
    · cases h
    · cases h
    · cases h
    · split_ifs at h with hsender hfrom hrecipient hto hlower hexact
      obtain rfl := Except.ok.inj h
      simpa [htype] using hexact

lemma verifyChainDetailsForRecord_amount {status : ChainTransactionStatus} {reply : RpcReply}
    (htype : row.type ≠ .fillSpot) (h : verifyChainDetailsForRecord cfg row status reply = .ok (.ok transfer)) :
    transfer.amount = row.amount := by
  unfold verifyChainDetailsForRecord at h
  cases hdirect : verifyRawDetails cfg row status.raw with
  | error e => simp [hdirect] at h
  | ok result =>
    rw [hdirect] at h
    cases result with
    | ok direct =>
      have hsame := Except.ok.inj (Except.ok.inj h)
      subst hsame
      exact verifyRawDetails_amount htype hdirect
    | error failure =>
      dsimp only at h
      split at h
      · simp at h
      · simp at h
      · cases hanswer : jsonRpcPost cfg reply with
        | error e =>
          rw [hanswer] at h
          dsimp only at h
          split_ifs at h
          simp at h
        | ok history =>
          rw [hanswer] at h
          dsimp only at h
          split at h
          · simp at h
          · exact verifyRawDetails_amount htype h

/-- An outgoing row is accepted only with the amount it stands for. -/
lemma assessRow_amount {now : ℕ} {replies : RowReplies} {status : ChainTransactionStatus} {verdict : Verdict}
    (htype : row.type ≠ .fillSpot) (h : assessRow cfg now row replies = .ok (status, verdict))
    (hverdict : verdict.accepted = some transfer) : transfer.amount = row.amount := by
  unfold assessRow at h
  cases hcheck : checkPendingTransaction cfg now row replies with
  | error e => simp [hcheck] at h
  | ok answered =>
    rw [hcheck] at h
    dsimp only at h
    cases hweigh : weighStatus cfg row replies answered with
    | error e => simp [hweigh] at h
    | ok weighed =>
      rw [hweigh] at h
      obtain ⟨-, rfl⟩ := Prod.mk.inj (Except.ok.inj h)
      unfold weighStatus at hweigh
      split at hweigh
      · cases hverify : verifyChainDetailsForRecord cfg row answered replies.proof with
        | error e => simp [hverify] at hweigh
        | ok result =>
          rw [hverify] at hweigh
          cases result with
          | ok found =>
            have hsame := Except.ok.inj hweigh
            subst hsame
            have hfound := Option.some.inj hverdict
            subst hfound
            exact verifyChainDetailsForRecord_amount htype hverify
          | error failure =>
            dsimp only at hweigh
            split_ifs at hweigh
            · have hsame := Except.ok.inj hweigh
              subst hsame
              cases hverdict
            · have hsame := Except.ok.inj hweigh
              subst hsame
              cases hverdict
      · have hsame := Except.ok.inj hweigh
        subst hsame
        cases hverdict
      · have hsame := Except.ok.inj hweigh
        subst hsame
        cases hverdict
      · have hsame := Except.ok.inj hweigh
        subst hsame
        cases hverdict

lemma validateSubmittedChainSend_amount {result submitted : SubmittedChainTransaction} {fromAddress toAddress : Address}
    {amount : ℕ} (h : validateSubmittedChainSend cfg result fromAddress toAddress amount = .ok submitted) :
    submitted.amount.toNat = amount := by
  unfold validateSubmittedChainSend at h
  dsimp only at h
  split at h
  · cases h
  · cases h
  · split at h
    · cases h
    · cases h
    · split_ifs at h with hfrom hto hamount hhash
      cases h
      have hsame : result.amount = amount := by simpa using hamount
      change result.amount.toNat = amount
      omega

end Amounts

section Rows

variable {cfg : Settings P} {db db' : Db P} {row : Trans} {transId : ℕ}

/-- What is left of a payout row when nothing but its status has changed. -/
structure SamePayout (t t' : Trans) : Prop where
  type : t.type = .claim
  id : t.id = t'.id
  spotId : t.spotId = t'.spotId
  claimId : t.claimId = t'.claimId
  createdAt : t.createdAt = t'.createdAt
  amount : t.amount = t'.amount
  active : t'.status ≠ .failed → t.status ≠ .failed

lemma SamePayout.refl {t : Trans} (htype : t.type = .claim) : SamePayout t t :=
  ⟨htype, rfl, rfl, rfl, rfl, rfl, fun h => h⟩

/-- Every payout row was one before. -/
def PayoutsFrom (db db' : Db P) : Prop :=
  ∀ t' ∈ db'.trans, t'.type = .claim → ∃ t ∈ db.trans, SamePayout t t'

lemma PayoutsFrom.of_trans_eq (htrans : db'.trans = db.trans) : PayoutsFrom db db' :=
  fun t' ht' htype => ⟨t', htrans ▸ ht', .refl htype⟩

/-- Another kind of row has been inserted. -/
lemma PayoutsFrom.insert {inserted : NewTrans} (h : db.createTransaction inserted = (db', .ok transId))
    (htype : inserted.type ≠ .claim) : PayoutsFrom db db' := by
  intro t' ht' hclaim
  rw [createTransaction_trans h] at ht'
  rcases List.mem_append.mp ht' with ht' | ht'
  · exact ⟨t', ht', .refl hclaim⟩
  · rw [List.mem_singleton] at ht'
    subst ht'
    exact absurd hclaim htype

/-- A settled row keeps its amount, or what was shown for it is its amount. -/
lemma PayoutsFrom.settle {status : TransStatus} {shown : Option ChainTransfer}
    (h : SettledTo status shown transId db db')
    (hshown : ∀ t ∈ db.trans, t.id = transId → t.type = .claim → ∀ transfer ∈ shown, transfer.amount = t.amount) :
    PayoutsFrom db db' := by
  obtain ⟨f, hrewritten, hsettles⟩ := h.rewritten
  intro t' ht' htype
  obtain ⟨t, ht, hkeeps, ⟨-, hsame⟩ | ⟨hid, hnew⟩⟩ := hrewritten.mem ht'
  · subst hsame
    exact ⟨_, ht, .refl htype⟩
  · subst hnew
    have hs := hsettles t ht hid
    have hclaim : t.type = .claim := hs.type.symm.trans htype
    refine ⟨t, ht, hclaim, hs.id.symm, hs.spotId.symm, hs.claimId.symm, hs.createdAt.symm, ?_, hkeeps.active⟩
    rcases hs.amount with hamount | ⟨transfer, htransfer, hamount⟩
    · exact hamount.symm
    · rw [hamount]
      exact (hshown t ht hid hclaim transfer htransfer).symm

lemma PayoutsFrom.attach {txHash : String} {transfer : ChainTransfer}
    (h : Rewritten db transId (Trans.attached cfg txHash transfer) db')
    (hsent : ∀ t ∈ db.trans, t.id = transId → t.type = .claim → transfer.amount = t.amount) : PayoutsFrom db db' := by
  intro t' ht' htype
  obtain ⟨t, ht, hkeeps, ⟨-, hsame⟩ | ⟨hid, hnew⟩⟩ := h.mem ht'
  · subst hsame
    exact ⟨_, ht, .refl htype⟩
  · subst hnew
    exact ⟨t, ht, htype, rfl, rfl, rfl, rfl, (hsent t ht hid htype).symm, hkeeps.active⟩

lemma settleRow_now (block : Option ℤ) (verdict : Verdict) : (settleRow db row block verdict).1.now = db.now := by
  have hfinalize : ∀ made : Db P, (finalizeCancelledSpotIfReady made row.spotId).now = made.now := by
    intro made
    obtain ⟨spots, hspots⟩ := finalizeCancelledSpotIfReady_frame made row.spotId
    rw [hspots]
  have hstatus : ∀ (made : Db P) (status : TransStatus), (made.modifyTransactionStatus row.id status).1.now = made.now := by
    intro made status
    unfold Db.modifyTransactionStatus
    cases made.getTransaction row.id with
    | none => rfl
    | some current =>
      dsimp only
      split_ifs <;> rfl
  have hrollback : ∀ outcome : Outcome P Unit, outcome.1.now = db.now → (outcome.orRollback db).1.now = db.now := by
    intro outcome houtcome
    obtain ⟨made, e | _⟩ := outcome
    · rfl
    · exact houtcome
  have hpass : ∀ outcome : Outcome P Unit, (passOutcome outcome).1 = outcome.1 := by
    intro outcome
    obtain ⟨made, e | _⟩ := outcome <;> rfl
  cases verdict with
  | stillPending reason => rfl
  | unknown reason => rfl
  | reject reason =>
    rw [settleRow, hpass, markTransAsFailed]
    apply hrollback
    have hmade := hstatus db .failed
    generalize db.modifyTransactionStatus row.id .failed = outcome at hmade
    obtain ⟨made, e | _⟩ := outcome
    · exact hmade
    · exact (hfinalize made).trans hmade
  | accept transfer =>
    rw [settleRow]
    cases unstorable block transfer with
    | some e => rfl
    | none =>
      dsimp only
      rw [hpass, markTransAsConfirmed]
      apply hrollback
      split_ifs
      · exact hstatus _ _
      · have hmade := hstatus (db.updateTransactionChainDetails row.id transfer) .confirmed
        generalize (db.updateTransactionChainDetails row.id transfer).modifyTransactionStatus row.id .confirmed =
          outcome at hmade
        obtain ⟨made, e | _⟩ := outcome
        · exact hmade
        · dsimp only
          rw [hfinalize]
          split
          · exact hmade
          · exact hmade

variable (cfg db transId) in
lemma attachChainHash_now (txHash : String) (transfer : ChainTransfer) :
    (attachChainHash cfg db transId txHash transfer).1.now = db.now := by
  unfold attachChainHash
  dsimp only
  split_ifs <;> rfl

end Rows

section Tasks

variable {cfg : Settings P} {s : Outbox P} {db db' : Db P} {tasks : List OutboxTask}

def OutboxTask.rowId : OutboxTask → ℕ
  | .send row | .attach row _ | .check row | .recover row | .attachRecovered row _ => row.id
  | .confirmRecovered transId _ => transId

/-- The amount a task may still store in a payout row. -/
def OutboxTask.pays : OutboxTask → Option ℕ
  | .send row => some row.amount
  | .attach _ submitted => some submitted.amount.toNat
  | .check row => if row.type = .claim then some row.amount else none
  | .recover _ | .attachRecovered _ _ | .confirmRecovered _ _ => none

/-- What the tasks know of a payout row is its amount. -/
structure TasksExact (db : Db P) (tasks : List OutboxTask) : Prop where
  ledger : LedgerSound db
  known : ∀ task ∈ tasks, task.rowId ≤ db.transSeq
  exact : ∀ task ∈ tasks, ∀ t ∈ db.trans, t.id = task.rowId → t.type = .claim → task.pays = some t.amount

lemma TasksExact.move (h : TasksExact db tasks) (hledger : LedgerSound db') (hseq : db.transSeq ≤ db'.transSeq)
    (hfrom : ∀ t' ∈ db'.trans, t'.type = .claim → db.transSeq < t'.id ∨ ∃ t ∈ db.trans, SamePayout t t') :
    TasksExact db' tasks := by
  refine ⟨hledger, fun task htask => (h.known task htask).trans hseq, ?_⟩
  intro task htask t' ht' hid htype
  have hknown := h.known task htask
  rcases hfrom t' ht' htype with hnew | ⟨t, ht, hsame⟩
  · omega
  · rw [← hsame.amount]
    exact h.exact task htask t ht (hsame.id.trans hid) hsame.type

lemma TasksExact.drop {tasks' : List OutboxTask} (h : TasksExact db tasks) (hsub : tasks'.Sublist tasks) :
    TasksExact db tasks' :=
  ⟨h.ledger, fun task htask => h.known task (hsub.subset htask), fun task htask => h.exact task (hsub.subset htask)⟩

lemma TasksExact.add (h : TasksExact db tasks) {task : OutboxTask} (hknown : task.rowId ≤ db.transSeq)
    (hexact : ∀ t ∈ db.trans, t.id = task.rowId → t.type = .claim → task.pays = some t.amount) :
    TasksExact db (tasks ++ [task]) := by
  refine ⟨h.ledger, ?_, ?_⟩
  · intro other hother
    rcases List.mem_append.mp hother with hother | hother
    · exact h.known other hother
    · rw [List.mem_singleton] at hother
      exact hother ▸ hknown
  · intro other hother
    rcases List.mem_append.mp hother with hother | hother
    · exact h.exact other hother
    · rw [List.mem_singleton] at hother
      exact hother ▸ hexact

/-- A task about a row it has just read. -/
lemma TasksExact.addOf (h : TasksExact db tasks) {task : OutboxTask} {row : Trans} (hrow : row ∈ db.trans)
    (hid : task.rowId = row.id) (hpays : row.type = .claim → task.pays = some row.amount) :
    TasksExact db (tasks ++ [task]) := by
  apply h.add
  · rw [hid]
    exact h.ledger.fresh row hrow
  · intro t ht htid htype
    have hsame : t = row := eq_of_key_eq h.ledger.keys ht hrow (htid.trans hid)
    subst hsame
    exact hpays htype

variable (s) in
/-- What every step but the insert of a payout does. -/
structure OutboxKept (s' : Outbox P) : Prop where
  tasks : TasksExact s'.db s'.tasks
  payouts : PayoutsFrom s.db s'.db
  clock : s.db.now ≤ s'.db.now

lemma OutboxKept.of_db_eq {s' : Outbox P} (htasks : TasksExact s'.db s'.tasks) (hdb : s'.db = s.db) : OutboxKept s s' :=
  ⟨htasks, .of_trans_eq (by rw [hdb]), le_of_eq (by rw [hdb])⟩

lemma reserve_leg {leg : PaymentLeg} (token : String) (hleg : ∀ job, leg ≠ .claimReward job) :
    Inserts (fun row => row.Placed ∧ row.type ≠ .claim) db (reserve cfg db token leg) := by
  have hplaced : ∀ {type : TransType} {spotId : ℕ} {txHash : String} (row : NewTrans),
      row.IsLegOf type spotId txHash → type ≠ .claim → row.Placed ∧ row.type ≠ .claim := by
    intro type spotId txHash row h htype
    obtain ⟨hkind, hspot, -, -⟩ := h
    rw [← hkind] at htype
    exact ⟨⟨fun hclaim => absurd hclaim htype, fun _ => hspot ▸ rfl⟩, htype⟩
  cases leg with
  | claimReward job => exact absurd rfl (hleg job)
  | platformFee spotId amount feeAddress =>
    exact (submitPlatformFeeTransaction_inserts spotId amount feeAddress _).mono fun row h => hplaced row h (by simp)
  | spotRefund spotId amount refundAddress =>
    exact (submitSpotRefundTransaction_inserts spotId amount refundAddress _).mono fun row h => hplaced row h (by simp)
  | creationFee spotId amount =>
    exact (submitSpotCreationFeeTransaction_inserts spotId amount _).mono fun row h => hplaced row h (by simp)
  | spotRemainderRefund spotId amount refundAddress =>
    exact (submitSpotRemainderRefundTransaction_inserts spotId amount refundAddress _).mono fun row h =>
      hplaced row h (by simp)
  | moderationSweep spotId amount =>
    exact (submitBanSweep_inserts spotId amount _).mono fun row h => hplaced row h (by simp)

/-- A row of another kind leaves the payouts alone, and its task knows it. -/
lemma TasksExact.reserveLeg (h : TasksExact s.db s.tasks) {leg : PaymentLeg} (token : String)
    (hleg : ∀ job, leg ≠ .claimReward job) : OutboxKept s (s.step cfg (.reserve leg token)) := by
  have hinserts : Inserts (fun row => row.Placed ∧ row.type ≠ .claim) s.db (NimHunt.reserve cfg s.db token leg) :=
    reserve_leg token hleg
  unfold Outbox.step
  dsimp only
  generalize NimHunt.reserve cfg s.db token leg = outcome at hinserts
  cases hinserts with
  | refused e => exact .of_db_eq h rfl
  | @made row db' transId hmade hrow =>
    obtain ⟨hplaced, htype⟩ := hrow
    have htrans := createTransaction_trans hmade
    obtain ⟨hid, hdb, -⟩ := createTransaction_ok hmade
    have hledger := h.ledger.insert hplaced hmade
    have hfrom : PayoutsFrom s.db db' := .insert hmade htype
    have hmem : row.inserted transId s.db.now ∈ db'.trans := by
      rw [htrans]
      exact List.mem_append_right _ (List.mem_singleton_self _)
    have hseq : s.db.transSeq ≤ db'.transSeq := by
      rw [hdb]
      change s.db.transSeq ≤ transId
      omega
    have hget : db'.getTransaction transId = some (row.inserted transId s.db.now) :=
      getTransaction_of_mem hledger.keys hmem
    dsimp only
    rw [hget]
    refine ⟨?_, hfrom, le_of_eq (by rw [hdb])⟩
    have hmoved := h.move hledger hseq fun t' ht' hclaim => Or.inr (hfrom t' ht' hclaim)
    exact hmoved.addOf hmem rfl fun _ => rfl

lemma TasksExact.deposit (h : TasksExact s.db s.tasks) (userId spotId amount : ℕ) (fromAddress : Address)
    (txHash : String) (toAddress : Option Address) :
    OutboxKept s (s.step cfg (.deposit userId spotId amount fromAddress txHash toAddress)) := by
  have hwrites : DepositWrites spotId (cfg.lower (cfg.strip txHash)) s.db
      (RefundAddressSafety.recordSpotDepositTransaction cfg s.db userId spotId amount fromAddress txHash toAddress) :=
    recordSpotDepositTransaction_writes
  have hledger : ∀ {made after : Db P}, LedgerSound made → after.trans = made.trans →
      after.transSeq = made.transSeq → LedgerSound after := by
    intro made after hsound htrans hseq
    exact ⟨htrans ▸ hsound.keys, by rw [htrans, hseq]; exact hsound.fresh, htrans ▸ hsound.hashes,
      htrans ▸ hsound.placed, htrans ▸ hsound.active⟩
  unfold Outbox.step
  dsimp only
  generalize RefundAddressSafety.recordSpotDepositTransaction cfg s.db userId spotId amount fromAddress txHash
    toAddress = outcome at hwrites
  cases hwrites with
  | @kept rows db' result hdb _ =>
    have htrans : db'.trans = s.db.trans := by rw [hdb]
    have hseq : db'.transSeq = s.db.transSeq := by rw [hdb]
    have hnow : db'.now = s.db.now := by rw [hdb]
    have hfrom := PayoutsFrom.of_trans_eq htrans
    exact ⟨h.move (hledger h.ledger htrans hseq) (le_of_eq hseq.symm) fun t' ht' hclaim => Or.inr (hfrom t' ht' hclaim),
      hfrom, le_of_eq hnow.symm⟩
  | @made rows row mid db' madeId result hmade hrow hkept _ =>
    have htrans : db'.trans = mid.trans := by rw [hkept]
    have hseq : db'.transSeq = mid.transSeq := by rw [hkept]
    have hnow : db'.now = mid.now := by rw [hkept]
    have hplaced : row.Placed := by
      unfold NewTrans.Placed
      rw [hrow.1]
      simp [TransType.oncePerSpot]
    have hinserted : PayoutsFrom s.db mid := .insert hmade (by simp [hrow.1])
    have hfrom : PayoutsFrom s.db db' := by
      intro t' ht' hclaim
      exact hinserted t' (htrans ▸ ht') hclaim
    obtain ⟨hid, hdb, -⟩ := createTransaction_ok hmade
    have hmid : mid.transSeq = madeId ∧ mid.now = s.db.now := by
      rw [hdb]
      exact ⟨rfl, rfl⟩
    refine ⟨h.move (hledger (h.ledger.insert hplaced hmade) htrans hseq) ?_ ?_, hfrom, ?_⟩
    · change s.db.transSeq ≤ db'.transSeq
      omega
    · exact fun t' ht' hclaim => Or.inr (hfrom t' ht' hclaim)
    · rw [hnow, hmid.2]

/-- The next transaction of a task; `s` has the task taken off already. -/
lemma TasksExact.resume {task : OutboxTask} (h : TasksExact s.db s.tasks)
    (hknown : task.rowId ≤ s.db.transSeq)
    (hexact : ∀ t ∈ s.db.trans, t.id = task.rowId → t.type = .claim → task.pays = some t.amount)
    (answer : OutboxAnswer) : OutboxKept s (s.resume cfg answer task) := by
  have hsettle : ∀ {status : TransStatus} {shown : Option ChainTransfer} {transId : ℕ} {db' : Db P},
      SettledTo status shown transId s.db db' → PayoutsFrom s.db db' → TasksExact db' s.tasks := by
    intro status shown transId db' hsettled hfrom
    obtain ⟨f, hrewritten, -⟩ := hsettled.rewritten
    exact h.move (h.ledger.rewrite hrewritten) (le_of_eq hsettled.1.symm) fun t' ht' hclaim =>
      Or.inr (hfrom t' ht' hclaim)
  have hattach : ∀ {txHash : String} {transfer : ChainTransfer} {transId : ℕ} {db' : Db P},
      Rewritten s.db transId (Trans.attached cfg txHash transfer) db' → PayoutsFrom s.db db' →
      TasksExact db' s.tasks := by
    intro txHash transfer transId db' hrewritten hfrom
    exact h.move (h.ledger.rewrite hrewritten) (le_of_eq hrewritten.transSeq.symm) fun t' ht' hclaim =>
      Or.inr (hfrom t' ht' hclaim)
  cases task with
  | send row =>
    unfold Outbox.resume
    dsimp only
    cases answer.helper with
    | none => exact .of_db_eq h rfl
    | some result =>
      dsimp only
      cases hvalid : validateSubmittedChainSend cfg result row.fromAddress row.toAddress row.amount with
      | error e => exact .of_db_eq h rfl
      | ok submitted =>
        refine .of_db_eq (h.add hknown ?_) rfl
        intro t ht hid hclaim
        rw [OutboxTask.pays, validateSubmittedChainSend_amount hvalid]
        exact hexact t ht hid hclaim
  | attach row submitted =>
    unfold Outbox.resume
    dsimp only
    have hnow := attachChainHash_now cfg s.db row.id submitted.txHash
      ⟨submitted.fromAddress, submitted.toAddress, submitted.amount.toNat⟩
    rcases attachChainHash_cases cfg s.db row.id submitted.txHash
      ⟨submitted.fromAddress, submitted.toAddress, submitted.amount.toNat⟩ with
      ⟨e, hrefused⟩ | ⟨db', hmade, hrewritten, -⟩
    · rw [hrefused]
      exact .of_db_eq h rfl
    · rw [hmade] at hnow ⊢
      have hfrom : PayoutsFrom s.db db' :=
        .attach hrewritten fun t ht hid hclaim => Option.some.inj (hexact t ht hid hclaim)
      exact ⟨hattach hrewritten hfrom, hfrom, le_of_eq hnow.symm⟩
  | check row =>
    unfold Outbox.resume
    dsimp only
    cases hassess : assessRow cfg s.db.now row answer.replies with
    | error e => exact .of_db_eq h rfl
    | ok assessed =>
      obtain ⟨status, verdict⟩ := assessed
      obtain ⟨final, hsettled, -⟩ := settleRow_settled status.blockNumber verdict h.ledger.keys
      have hfrom : PayoutsFrom s.db (settleRow s.db row status.blockNumber verdict).1 := by
        apply PayoutsFrom.settle hsettled
        intro t ht hid hclaim transfer htransfer
        have hpays := hexact t ht hid hclaim
        change (if row.type = .claim then some row.amount else none) = some t.amount at hpays
        split_ifs at hpays with hrow
        rw [← Option.some.inj hpays]
        exact assessRow_amount (by simp [hrow]) hassess htransfer
      exact ⟨hsettle hsettled hfrom, hfrom, le_of_eq (settleRow_now _ _).symm⟩
  | recover row =>
    unfold Outbox.resume
    dsimp only
    cases recoverCreationFeeIntent cfg s.db row answer.history with
    | error e => exact .of_db_eq h rfl
    | ok result =>
      cases result with
      | none => exact .of_db_eq h rfl
      | some found => exact .of_db_eq (h.add hknown hexact) rfl
  | attachRecovered row found =>
    unfold Outbox.resume
    dsimp only
    by_cases hunstorable : (unstorable found.block found.transfer).isSome = true
    · rw [if_pos hunstorable]
      exact .of_db_eq h rfl
    rw [if_neg hunstorable]
    have hnow := attachChainHash_now cfg s.db row.id found.txHash found.transfer
    rcases attachChainHash_cases cfg s.db row.id found.txHash found.transfer with
      ⟨e, hrefused⟩ | ⟨db', hmade, hrewritten, -⟩
    · rw [hrefused]
      exact .of_db_eq h rfl
    · rw [hmade] at hnow ⊢
      have hfrom : PayoutsFrom s.db db' :=
        .attach hrewritten fun t ht hid hclaim => absurd (hexact t ht hid hclaim) (by simp [OutboxTask.pays])
      have hmoved := hattach hrewritten hfrom
      refine ⟨hmoved.add (hknown.trans (le_of_eq hrewritten.transSeq.symm)) ?_, hfrom, le_of_eq hnow.symm⟩
      intro t' ht' hid hclaim
      obtain ⟨t, ht, hsame⟩ := hfrom t' ht' hclaim
      exact absurd (hexact t ht (hsame.id.trans hid) hsame.type) (by simp [OutboxTask.pays])
  | confirmRecovered transId found =>
    unfold Outbox.resume
    dsimp only
    cases hget : s.db.getTransaction transId with
    | none => exact .of_db_eq h rfl
    | some updated =>
      obtain ⟨-, hid⟩ := (find?_key_eq_some h.ledger.keys).mp hget
      obtain ⟨final, hsettled, -⟩ := settleRow_settled found.block (.accept found.transfer) h.ledger.keys
      have hfrom : PayoutsFrom s.db (settleRow s.db updated found.block (.accept found.transfer)).1 := by
        apply PayoutsFrom.settle hsettled
        intro t ht htid hclaim
        exact absurd (hexact t ht (htid.trans hid) hclaim) (by simp [OutboxTask.pays])
      exact ⟨hsettle hsettled hfrom, hfrom, le_of_eq (settleRow_now _ _).symm⟩

/-- Every step of the outbox but the insert of a payout. -/
lemma TasksExact.step (h : TasksExact s.db s.tasks) {op : OutboxOp P}
    (hclock : ∀ db, op = .elsewhere db → s.db.now ≤ db.now)
    (hother : ∀ job token, op ≠ .reserve (.claimReward job) token) : OutboxKept s (s.step cfg op) := by
  cases op with
  | elsewhere db =>
    exact ⟨⟨⟨h.ledger.keys, h.ledger.fresh, h.ledger.hashes, h.ledger.placed, h.ledger.active⟩, h.known, h.exact⟩,
      .of_trans_eq rfl, hclock db rfl⟩
  | reserve leg token =>
    apply h.reserveLeg
    rintro job rfl
    exact hother job token rfl
  | deposit userId spotId amount fromAddress txHash toAddress =>
    exact h.deposit userId spotId amount fromAddress txHash toAddress
  | readPending transId =>
    unfold Outbox.step
    dsimp only
    cases hget : s.db.getTransaction transId with
    | none => exact .of_db_eq h rfl
    | some row =>
      obtain ⟨hrow, -⟩ := (find?_key_eq_some h.ledger.keys).mp hget
      dsimp only
      split_ifs
      · refine .of_db_eq (h.addOf hrow rfl ?_) rfl
        intro hclaim
        simp [OutboxTask.pays, hclaim]
      · exact .of_db_eq h rfl
  | readIntent transId =>
    unfold Outbox.step
    dsimp only
    cases hget : s.db.getTransaction transId with
    | none => exact .of_db_eq h rfl
    | some row =>
      obtain ⟨hrow, -⟩ := (find?_key_eq_some h.ledger.keys).mp hget
      dsimp only
      split_ifs with hintent
      · refine .of_db_eq (h.addOf hrow rfl ?_) rfl
        intro hclaim
        rw [hclaim] at hintent
        cases hintent.2.1
      · exact .of_db_eq h rfl
  | resume index answer =>
    unfold Outbox.step
    dsimp only
    cases htask : s.tasks[index]? with
    | none => exact .of_db_eq h rfl
    | some task =>
      have hmem := List.mem_of_getElem? htask
      have hdropped : TasksExact s.db (s.tasks.eraseIdx index) := h.drop (List.eraseIdx_sublist s.tasks index)
      have hresumed : OutboxKept { s with tasks := s.tasks.eraseIdx index }
          (Outbox.resume cfg { s with tasks := s.tasks.eraseIdx index } answer task) :=
        TasksExact.resume (s := { s with tasks := s.tasks.eraseIdx index }) hdropped (h.known task hmem) (h.exact task hmem) answer
      exact ⟨hresumed.tasks, hresumed.payouts, hresumed.clock⟩
  | crash => exact .of_db_eq (h.drop (List.nil_sublist _)) rfl

/-- The row a submitted payout adds. -/
structure PaysClaim (db : Db P) (job : PayoutJob) (t : Trans) : Prop where
  claimId : t.claimId = some job.claimId
  amount : t.amount = job.amount
  createdAt : t.createdAt = db.now
  booked : ∃ claim, db.getClaim job.claimId = some claim ∧ t.spotId = some claim.spotId

/-- The insert of a payout adds at most its row, and the task that sends it. -/
lemma TasksExact.pay (h : TasksExact s.db s.tasks) (job : PayoutJob) (token : String) :
    TasksExact (s.step cfg (.reserve (.claimReward job) token)).db
      (s.step cfg (.reserve (.claimReward job) token)).tasks ∧
    (s.step cfg (.reserve (.claimReward job) token)).db.now = s.db.now ∧
    ∀ t ∈ (s.step cfg (.reserve (.claimReward job) token)).db.trans, t ∈ s.db.trans ∨ PaysClaim s.db job t := by
  have hinserts : Inserts _ s.db (reserve cfg s.db token (.claimReward job)) :=
    submitClaimRewardTransaction_insertsFor job (makeLocalIntentHash "claim_reward" job.claimId token)
  unfold Outbox.step
  dsimp only
  generalize reserve cfg s.db token (.claimReward job) = outcome at hinserts
  cases hinserts with
  | refused e => exact ⟨h, rfl, fun t ht => Or.inl ht⟩
  | @made row db' transId hmade hrow =>
    obtain ⟨⟨htype, hclaim, -, hamount⟩, hbooked⟩ := hrow
    obtain ⟨hid, hdb, -⟩ := createTransaction_ok hmade
    have htrans := createTransaction_trans hmade
    have hplaced : row.Placed := ⟨fun _ => hclaim ▸ rfl, fun honce => by rw [htype] at honce; cases honce⟩
    have hledger := h.ledger.insert hplaced hmade
    have hseq : db'.transSeq = s.db.transSeq + 1 := by
      rw [hdb]
      exact hid
    have hold : ∀ t ∈ db'.trans, t ∈ s.db.trans ∨ t = row.inserted transId s.db.now := by
      intro t ht
      rw [htrans] at ht
      rcases List.mem_append.mp ht with ht | ht
      · exact Or.inl ht
      · exact Or.inr (List.mem_singleton.mp ht)
    have hmem : row.inserted transId s.db.now ∈ db'.trans := by
      rw [htrans]
      exact List.mem_append_right _ (List.mem_singleton_self _)
    have hget : db'.getTransaction transId = some (row.inserted transId s.db.now) :=
      getTransaction_of_mem hledger.keys hmem
    have hmoved : TasksExact db' s.tasks := by
      apply h.move hledger (by omega)
      intro t' ht' htype'
      rcases hold t' ht' with ht | rfl
      · exact Or.inr ⟨t', ht, .refl htype'⟩
      · refine Or.inl ?_
        change s.db.transSeq < transId
        omega
    dsimp only
    rw [hget]
    refine ⟨hmoved.addOf hmem rfl fun _ => rfl, by rw [hdb], ?_⟩
    intro t ht
    rcases hold t ht with ht | rfl
    · exact Or.inl ht
    · exact Or.inr ⟨hclaim, hamount, rfl, hbooked⟩

end Tasks

section Windows

variable {limits : ThrottleLimits} {reward : ℕ → ℕ} {db db' : Db P} {rs rs' : List Reservation} {w : PayoutWindow}
  {claimId amount : ℕ}

/-- A global window: its length, what it admits, and the time a reservation counts from. -/
structure PayoutWindow where
  seconds : ℕ
  maxCount : ℕ
  maxLuna : ℕ
  stamp : Reservation → ℤ

def ThrottleLimits.short (limits : ThrottleLimits) : PayoutWindow :=
  ⟨limits.windowSeconds, limits.maxPayoutCount, limits.maxPayoutLuna, Reservation.shortReservedAt⟩

def ThrottleLimits.daily (limits : ThrottleLimits) : PayoutWindow :=
  ⟨limits.dailyWindowSeconds, limits.dailyMaxPayoutCount, limits.dailyMaxPayoutLuna, Reservation.dailyReservedAt⟩

namespace PayoutWindow

def IsOf (w : PayoutWindow) (limits : ThrottleLimits) : Prop := w = limits.short ∨ w = limits.daily

def live (w : PayoutWindow) (now : ℕ) (rs : List Reservation) : List Reservation :=
  rs.filter fun r => (now : ℤ) - w.seconds < w.stamp r

def state (w : PayoutWindow) (db : Db P) (rs : List Reservation) : WindowState :=
  combinedWindowState db.now (payoutRowsWithin db w.seconds) (w.live db.now rs) w.stamp

/-- The claims that count in the window, by a row or by a reservation. -/
def charged (w : PayoutWindow) (db : Db P) (rs : List Reservation) : Finset ℕ :=
  ((payoutRowsWithin db w.seconds).filterMap Trans.claimId).toFinset ∪
    ((w.live db.now rs).map Reservation.claimId).toFinset

/-- The claims paid in the window that ends at `t`. -/
def paid (w : PayoutWindow) (db : Db P) (t : ℕ) : Finset ℕ :=
  ((payoutsUntil db w.seconds t).filterMap Trans.claimId).toFinset

def Fits (w : PayoutWindow) (reward : ℕ → ℕ) (claims : Finset ℕ) : Prop :=
  claims.card ≤ w.maxCount ∧ ∑ claimId ∈ claims, reward claimId ≤ w.maxLuna

lemma Fits.mono {xs ys : Finset ℕ} (h : w.Fits reward ys) (hsub : xs ⊆ ys) : w.Fits reward xs :=
  ⟨(Finset.card_le_card hsub).trans h.1, (Finset.sum_le_sum_of_subset hsub).trans h.2⟩

lemma mem_charged {c : ℕ} : c ∈ w.charged db rs ↔
    (∃ t ∈ db.trans, t.type = .claim ∧ t.status ≠ .failed ∧ db.now < t.createdAt + w.seconds ∧ t.claimId = some c) ∨
      ∃ r ∈ rs, (db.now : ℤ) - w.seconds < w.stamp r ∧ r.claimId = c := by
  unfold charged live payoutRowsWithin
  simp only [Finset.mem_union, List.mem_toFinset, List.mem_filterMap, List.mem_map, List.mem_filter,
    decide_eq_true_eq]
  constructor
  · rintro (⟨t, ⟨ht, htype, hstatus, hcreated⟩, hclaim⟩ | ⟨r, ⟨hr, hlive⟩, hclaim⟩)
    · exact Or.inl ⟨t, ht, htype, hstatus, hcreated, hclaim⟩
    · exact Or.inr ⟨r, hr, hlive, hclaim⟩
  · rintro (⟨t, ht, htype, hstatus, hcreated, hclaim⟩ | ⟨r, hr, hlive, hclaim⟩)
    · exact Or.inl ⟨t, ⟨ht, htype, hstatus, hcreated⟩, hclaim⟩
    · exact Or.inr ⟨r, ⟨hr, hlive⟩, hclaim⟩

lemma mem_paid {t c : ℕ} : c ∈ w.paid db t ↔
    ∃ p ∈ db.trans, p.type = .claim ∧ p.status ≠ .failed ∧ p.createdAt ≤ t ∧ t < p.createdAt + w.seconds ∧
      p.claimId = some c := by
  unfold paid payoutsUntil
  simp only [List.mem_toFinset, List.mem_filterMap, List.mem_filter, decide_eq_true_eq]
  constructor
  · rintro ⟨p, ⟨hp, htype, hstatus, hcreated, hwithin⟩, hclaim⟩
    exact ⟨p, hp, htype, hstatus, hcreated, hwithin, hclaim⟩
  · rintro ⟨p, hp, htype, hstatus, hcreated, hwithin, hclaim⟩
    exact ⟨p, ⟨hp, htype, hstatus, hcreated, hwithin⟩, hclaim⟩

lemma sum_toFinset_le (f : ℕ → ℕ) (xs : List ℕ) : ∑ x ∈ xs.toFinset, f x ≤ (xs.map f).sum := by
  induction xs with
  | nil => simp
  | cons x xs ih =>
    rw [List.toFinset_cons, List.map_cons, List.sum_cons]
    by_cases hmem : x ∈ xs.toFinset
    · rw [Finset.insert_eq_of_mem hmem]
      omega
    · rw [Finset.sum_insert hmem]
      omega

lemma sum_claimIds_le {rows : List Trans} (hrows : ∀ t ∈ rows, ∀ c, t.claimId = some c → t.amount = reward c) :
    ((rows.filterMap Trans.claimId).map reward).sum ≤ (rows.map Trans.amount).sum := by
  induction rows with
  | nil => simp
  | cons t rows ih =>
    have hrest := ih fun u hu => hrows u (List.mem_cons_of_mem t hu)
    rw [List.map_cons, List.sum_cons]
    cases hclaim : t.claimId with
    | none =>
      rw [List.filterMap_cons_none hclaim]
      omega
    | some c =>
      rw [List.filterMap_cons_some hclaim, List.map_cons, List.sum_cons]
      have hamount := hrows t List.mem_cons_self c hclaim
      omega

/-- The combined state counts every claim with a row or a reservation. -/
lemma combinedWindowState_counts {now : ℕ} {rows : List Trans} {stamp : Reservation → ℤ}
    (hrows : ∀ t ∈ rows, ∀ c, t.claimId = some c → t.amount = reward c) (hrs : ∀ r ∈ rs, r.amount = reward r.claimId) :
    ((rows.filterMap Trans.claimId).toFinset ∪ (rs.map Reservation.claimId).toFinset).card ≤
        (combinedWindowState now rows rs stamp).payoutCount ∧
      ∑ c ∈ (rows.filterMap Trans.claimId).toFinset ∪ (rs.map Reservation.claimId).toFinset, reward c ≤
        (combinedWindowState now rows rs stamp).payoutAmount := by
  unfold combinedWindowState
  dsimp only
  generalize hpending : rs.filter (fun r => decide (r.claimId ∉ transactionClaimIds rows)) = pending
  have hsub : (rows.filterMap Trans.claimId).toFinset ∪ (rs.map Reservation.claimId).toFinset ⊆
      (rows.filterMap Trans.claimId ++ pending.map Reservation.claimId).toFinset := by
    intro c hc
    rw [List.toFinset_append, Finset.mem_union]
    rcases Finset.mem_union.mp hc with hc | hc
    · exact Or.inl hc
    · by_cases hrow : c ∈ transactionClaimIds rows
      · exact Or.inl (List.mem_toFinset.mpr (List.mem_of_mem_filter hrow))
      · obtain ⟨r, hr, rfl⟩ := List.mem_map.mp (List.mem_toFinset.mp hc)
        refine Or.inr (List.mem_toFinset.mpr (List.mem_map_of_mem ?_))
        rw [← hpending]
        exact List.mem_filter.mpr ⟨hr, by simpa using hrow⟩
  constructor
  · have hlength := List.length_filterMap_le Trans.claimId rows
    have hcard := (Finset.card_le_card hsub).trans (List.toFinset_card_le _)
    rw [List.length_append, List.length_map] at hcard
    omega
  · have hsum := (Finset.sum_le_sum_of_subset (f := reward) hsub).trans (sum_toFinset_le reward _)
    rw [List.map_append, List.sum_append] at hsum
    have hpaid : ((rows.filterMap Trans.claimId).map reward).sum ≤ (rows.map Trans.amount).sum := sum_claimIds_le hrows
    have hreserved : (pending.map Reservation.claimId).map reward = pending.map Reservation.amount := by
      rw [List.map_map]
      refine List.map_congr_left fun r hr => ?_
      rw [← hpending] at hr
      exact (hrs r (List.mem_of_mem_filter hr)).symm
    rw [hreserved] at hsum
    omega

/-- The state of a window counts every claim charged to it. -/
lemma charged_le_state (hrows : ∀ t ∈ db.trans, t.type = .claim → ∀ c, t.claimId = some c → t.amount = reward c)
    (hrs : ∀ r ∈ rs, r.amount = reward r.claimId) :
    (w.charged db rs).card ≤ (w.state db rs).payoutCount ∧
      ∑ c ∈ w.charged db rs, reward c ≤ (w.state db rs).payoutAmount := by
  apply combinedWindowState_counts
  · intro t ht
    obtain ⟨hmem, hkind⟩ := List.mem_filter.mp ht
    exact hrows t hmem (of_decide_eq_true hkind).1
  · intro r hr
    exact hrs r (List.mem_of_mem_filter hr)

/-- Reservations of other claims keep their time. -/
lemma charged_subset_insert
    (h : ∀ r' ∈ rs', r'.claimId = claimId ∨ ∃ r ∈ rs, r.claimId = r'.claimId ∧ w.stamp r = w.stamp r') :
    w.charged db rs' ⊆ insert claimId (w.charged db rs) := by
  intro c hc
  rw [Finset.mem_insert]
  rcases mem_charged.mp hc with hrow | ⟨r', hr', hlive, hclaim⟩
  · exact Or.inr (mem_charged.mpr (Or.inl hrow))
  · rcases h r' hr' with hown | ⟨r, hr, hsame, hstamp⟩
    · exact Or.inl (hclaim.symm.trans hown)
    · refine Or.inr (mem_charged.mpr (Or.inr ⟨r, hr, ?_, hsame.trans hclaim⟩))
      rw [hstamp]
      exact hlive

lemma charged_subset (h : ∀ r' ∈ rs', ∃ r ∈ rs, r.claimId = r'.claimId ∧ w.stamp r = w.stamp r') :
    w.charged db rs' ⊆ w.charged db rs := by
  intro c hc
  rcases mem_charged.mp hc with hrow | ⟨r', hr', hlive, hclaim⟩
  · exact mem_charged.mpr (Or.inl hrow)
  · obtain ⟨r, hr, hsame, hstamp⟩ := h r' hr'
    refine mem_charged.mpr (Or.inr ⟨r, hr, ?_, hsame.trans hclaim⟩)
    rw [hstamp]
    exact hlive

end PayoutWindow

end Windows

section Admission

variable {limits : ThrottleLimits} {reward : ℕ → ℕ} {db : Db P} {md : SecurityMetadata P} {store : ThrottleStore P}
  {rs : List Reservation} {w : PayoutWindow} {claimId amount spotId : ℕ}

/-- The claim, the amount and the global times of a reservation are the same. -/
structure SameSlot (r r' : Reservation) : Prop where
  claimId : r.claimId = r'.claimId
  amount : r.amount = r'.amount
  shortReservedAt : r.shortReservedAt = r'.shortReservedAt
  dailyReservedAt : r.dailyReservedAt = r'.dailyReservedAt

lemma SameSlot.stamp {r r' : Reservation} (h : SameSlot r r') (hw : w.IsOf limits) : w.stamp r = w.stamp r' := by
  rcases hw with rfl | rfl
  · exact h.shortReservedAt
  · exact h.dailyReservedAt

/-- What is read back of a reservation that was written. -/
lemma clean_toRaw {r r' : Reservation} (h : r.toRaw.clean = some r') :
    r.claimId = r'.claimId ∧ r.amount = r'.amount ∧
      (r.shortReservedAt ≠ 0 → r.dailyReservedAt ≠ 0 → SameSlot r r') := by
  unfold RawReservation.clean at h
  dsimp only at h
  split_ifs at h
  all_goals
    obtain rfl := Option.some.inj h
    refine ⟨rfl, rfl, fun hshort hdaily => ⟨rfl, rfl, ?_, ?_⟩⟩
  all_goals simp_all [Reservation.toRaw]

/-- A reservation that was read carries a time for each window. -/
lemma mem_cleanReservations {raw : Option (List (Option RawReservation))} {r : Reservation}
    (h : r ∈ cleanReservations raw) : r.shortReservedAt ≠ 0 ∧ r.dailyReservedAt ≠ 0 := by
  obtain ⟨item, -, hclean⟩ := List.mem_filterMap.mp h
  cases item with
  | none => cases hclean
  | some item =>
    change item.clean = some r at hclean
    unfold RawReservation.clean at hclean
    dsimp only at hclean
    by_cases hbad : item.claimId ≤ 0 ∨ item.amount ≤ 0 ∨ item.reservedAt ≤ 0
    · rw [if_pos hbad] at hclean
      cases hclean
    · rw [if_neg hbad] at hclean
      obtain rfl := Option.some.inj hclean
      dsimp only
      constructor <;> split_ifs <;> omega

lemma mem_liveReservations {r : Reservation} (h : r ∈ liveReservations limits db store) :
    ∃ stored ∈ cleanReservations store.reservations, SameSlot stored r := by
  obtain ⟨hresolved, -⟩ := List.mem_filter.mp h
  obtain ⟨stored, hstored, rfl⟩ := List.mem_map.mp hresolved
  refine ⟨stored, hstored, ?_⟩
  unfold Reservation.resolveSpot
  split_ifs
  · exact ⟨rfl, rfl, rfl, rfl⟩
  · split
    · exact ⟨rfl, rfl, rfl, rfl⟩
    · exact ⟨rfl, rfl, rfl, rfl⟩

/-- The stored list after a call. -/
def writtenBack (rs : List Reservation) : List Reservation := cleanReservations (some (rs.map fun r => some r.toRaw))

lemma mem_writtenBack {r' : Reservation} (h : r' ∈ writtenBack rs) : ∃ r ∈ rs, r.toRaw.clean = some r' := by
  obtain ⟨item, hitem, hclean⟩ := List.mem_filterMap.mp h
  obtain ⟨r, hr, rfl⟩ := List.mem_map.mp hitem
  exact ⟨r, hr, hclean⟩

/-- What an allowing decision found in a window. -/
lemma globalDecision_allow (hw : w.IsOf limits) (h : (globalDecision limits db rs amount).allow = true) :
    (w.state db rs).payoutCount < w.maxCount ∧ (w.state db rs).payoutAmount + amount ≤ w.maxLuna := by
  unfold globalDecision throttleDecision at h
  dsimp only at h
  split_ifs at h with hsingle hdailyCount hdailyLuna hshortCount hshortLuna
  rcases hw with rfl | rfl
  · exact ⟨not_le.mp hshortCount, not_lt.mp hshortLuna⟩
  · exact ⟨not_le.mp hdailyCount, not_lt.mp hdailyLuna⟩

lemma existingReservationDecision_allow
    (h : (existingReservationDecision limits db md rs claimId amount spotId).allow = true) :
    (globalDecision limits db (rs.filter fun r => r.claimId ≠ claimId) amount).allow = true := by
  unfold existingReservationDecision at h
  dsimp only at h
  split_ifs at h with hopen
  · simp only [Bool.and_eq_true] at hopen
    exact hopen.1.1
  · exact h

lemma newReservationDecision_allow
    (h : (newReservationDecision limits db md rs claimId amount spotId).allow = true) :
    (globalDecision limits db rs amount).allow = true := by
  unfold newReservationDecision at h
  dsimp only at h
  cases hspot : db.getSpot spotId with
  | none =>
    rw [hspot] at h
    exact h
  | some spot =>
    rw [hspot] at h
    dsimp only at h
    by_cases hopen : ((globalDecision limits db rs amount).allow && db.isOpenStandard spotId &&
        !explicitlyReleased md claimId) = true
    · simp only [Bool.and_eq_true] at hopen
      exact hopen.1.1
    · rw [if_neg hopen] at h
      exact h

/-- An admission leaves room for its claim. -/
lemma PayoutWindow.fits_insert (hw : w.IsOf limits)
    (hrows : ∀ t ∈ db.trans, t.type = .claim → ∀ c, t.claimId = some c → t.amount = reward c)
    (hrs : ∀ r ∈ rs, r.amount = reward r.claimId) (hallow : (globalDecision limits db rs (reward claimId)).allow = true) :
    w.Fits reward (insert claimId (w.charged db rs)) := by
  obtain ⟨hcount, hluna⟩ := globalDecision_allow hw hallow
  obtain ⟨hcard, hsum⟩ := PayoutWindow.charged_le_state (w := w) hrows hrs
  constructor
  · have hinsert := Finset.card_insert_le claimId (w.charged db rs)
    omega
  · by_cases hmem : claimId ∈ w.charged db rs
    · rw [Finset.insert_eq_of_mem hmem]
      omega
    · rw [Finset.sum_insert hmem]
      omega

/-- What a call does with the reservations: it lets go of some, or admits the claim under the limits. -/
inductive SlotMove (limits : ThrottleLimits) (db : Db P) (reward : ℕ → ℕ) (claimId : ℕ) (old : List Reservation) :
    List Reservation → Prop
  | kept {rs : List Reservation} (h : ∀ r ∈ rs, ∃ r₀ ∈ old, SameSlot r₀ r) : SlotMove limits db reward claimId old rs
  | admitted {rs others : List Reservation} (hothers : ∀ r ∈ others, ∃ r₀ ∈ old, SameSlot r₀ r)
      (hallow : (globalDecision limits db others (reward claimId)).allow = true)
      (h : ∀ r ∈ rs, (r.claimId = claimId ∧ r.amount = reward claimId) ∨ r ∈ others) :
      SlotMove limits db reward claimId old rs

lemma admitExisting_move {old : List Reservation} (hamount : ∀ r ∈ old, r.amount = reward r.claimId)
    (hrs : ∀ r ∈ rs, ∃ r₀ ∈ old, SameSlot r₀ r) :
    SlotMove limits db reward claimId old
      (admitExisting limits db md rs claimId (reward claimId) spotId).reservations := by
  unfold admitExisting
  dsimp only
  by_cases hallow : (existingReservationDecision limits db md rs claimId (reward claimId) spotId).allow = true
  · rw [if_pos hallow]
    have hothers : ∀ r ∈ rs.filter fun r => r.claimId ≠ claimId, ∃ r₀ ∈ old, SameSlot r₀ r :=
      fun r hr => hrs r (List.mem_of_mem_filter hr)
    refine .admitted hothers (existingReservationDecision_allow hallow) ?_
    · intro r hr
      dsimp only at hr
      have hcase : r ∈ rs ∨ ∃ r₀ ∈ rs, r₀.claimId = claimId ∧ r = r₀.renew limits db.now := by
        obtain ⟨i, hi, rfl⟩ := List.mem_iff_getElem.mp hr
        rw [List.getElem_modify]
        split_ifs with hindex
        · have hlt : i < rs.length := by simpa using hi
          refine Or.inr ⟨rs[i], List.getElem_mem hlt, ?_, rfl⟩
          have hfound : decide (rs[rs.findIdx fun r => decide (r.claimId = claimId)].claimId = claimId) = true :=
            List.findIdx_getElem (w := hindex ▸ hlt)
          simp only [hindex] at hfound
          exact of_decide_eq_true hfound
        · exact Or.inl (List.getElem_mem _)
      rcases hcase with hmem | ⟨r₀, hmem, hown, rfl⟩
      · by_cases hown : r.claimId = claimId
        · obtain ⟨stored, hstored, hsame⟩ := hrs r hmem
          refine Or.inl ⟨hown, ?_⟩
          rw [← hsame.amount, hamount stored hstored, hsame.claimId, hown]
        · exact Or.inr (List.mem_filter.mpr ⟨hmem, by simpa using hown⟩)
      · obtain ⟨stored, hstored, hsame⟩ := hrs r₀ hmem
        refine Or.inl ⟨hown, ?_⟩
        change r₀.amount = reward claimId
        rw [← hsame.amount, hamount stored hstored, hsame.claimId, hown]
  · rw [if_neg hallow]
    split_ifs
    · exact .kept hrs
    · exact .kept hrs

lemma admitNew_move {old : List Reservation} (hrs : ∀ r ∈ rs, ∃ r₀ ∈ old, SameSlot r₀ r) :
    SlotMove limits db reward claimId old (admitNew limits db md rs claimId (reward claimId) spotId).reservations := by
  unfold admitNew
  dsimp only
  by_cases hallow : (newReservationDecision limits db md rs claimId (reward claimId) spotId).allow = true
  · rw [if_pos hallow]
    refine .admitted hrs (newReservationDecision_allow hallow) ?_
    intro r hr
    rcases List.mem_append.mp hr with hr | hr
    · exact Or.inr hr
    · rw [List.mem_singleton] at hr
      subst hr
      exact Or.inl ⟨rfl, rfl⟩
  · rw [if_neg hallow]
    exact .kept hrs

/-- One call, seen through the list it stores. -/
lemma reservePayoutSlot_move (hamount : ∀ r ∈ cleanReservations store.reservations, r.amount = reward r.claimId) :
    (reservePayoutSlot limits db store claimId (reward claimId)).1 = store ∨
    ∃ rs, SlotMove limits db reward claimId (cleanReservations store.reservations) rs ∧
      cleanReservations (reservePayoutSlot limits db store claimId (reward claimId)).1.reservations =
        writtenBack rs := by
  have hlive : ∀ r ∈ liveReservations limits db store,
      ∃ r₀ ∈ cleanReservations store.reservations, SameSlot r₀ r := fun r hr => mem_liveReservations hr
  unfold reservePayoutSlot
  by_cases hclaim : claimId = 0
  · rw [if_pos hclaim]
    exact Or.inl rfl
  rw [if_neg hclaim]
  by_cases hzero : reward claimId = 0
  · rw [if_pos hzero]
    exact Or.inl rfl
  rw [if_neg hzero]
  refine Or.inr ⟨_, ?_, rfl⟩
  dsimp only
  split_ifs
  · exact .kept hlive
  · exact admitExisting_move hamount hlive
  · exact admitNew_move hlive

/-- A move keeps what is charged within the limits. -/
lemma SlotMove.fits (hw : w.IsOf limits)
    (hrows : ∀ t ∈ db.trans, t.type = .claim → ∀ c, t.claimId = some c → t.amount = reward c)
    {old : List Reservation} (hold : ∀ r ∈ old, r.shortReservedAt ≠ 0 ∧ r.dailyReservedAt ≠ 0)
    (hamount : ∀ r ∈ old, r.amount = reward r.claimId) (h : SlotMove limits db reward claimId old rs)
    (hfits : w.Fits reward (w.charged db old)) :
    w.Fits reward (w.charged db (writtenBack rs)) ∧ ∀ r ∈ writtenBack rs, r.amount = reward r.claimId := by
  have hback : ∀ {r₀ r r' : Reservation}, r₀ ∈ old → SameSlot r₀ r → r.toRaw.clean = some r' → SameSlot r₀ r' := by
    intro r₀ r r' hr₀ hsame hclean
    obtain ⟨hshort, hdaily⟩ := hold r₀ hr₀
    obtain ⟨-, -, hslot⟩ := clean_toRaw hclean
    have hnext := hslot (hsame.shortReservedAt ▸ hshort) (hsame.dailyReservedAt ▸ hdaily)
    exact ⟨hsame.claimId.trans hnext.claimId, hsame.amount.trans hnext.amount,
      hsame.shortReservedAt.trans hnext.shortReservedAt, hsame.dailyReservedAt.trans hnext.dailyReservedAt⟩
  cases h with
  | kept h =>
    constructor
    · refine hfits.mono (PayoutWindow.charged_subset ?_)
      intro r' hr'
      obtain ⟨r, hr, hclean⟩ := mem_writtenBack hr'
      obtain ⟨r₀, hr₀, hsame⟩ := h r hr
      have hslot := hback hr₀ hsame hclean
      exact ⟨r₀, hr₀, hslot.claimId, hslot.stamp hw⟩
    · intro r' hr'
      obtain ⟨r, hr, hclean⟩ := mem_writtenBack hr'
      obtain ⟨r₀, hr₀, hsame⟩ := h r hr
      have hslot := hback hr₀ hsame hclean
      rw [← hslot.amount, hamount r₀ hr₀, hslot.claimId]
  | @admitted others hothers hallow h =>
    have hexact : ∀ r ∈ others, r.amount = reward r.claimId := by
      intro r hr
      obtain ⟨r₀, hr₀, hsame⟩ := hothers r hr
      rw [← hsame.amount, hamount r₀ hr₀, hsame.claimId]
    constructor
    · refine (PayoutWindow.fits_insert hw hrows hexact hallow).mono (PayoutWindow.charged_subset_insert ?_)
      intro r' hr'
      obtain ⟨r, hr, hclean⟩ := mem_writtenBack hr'
      obtain ⟨hclaim, -, -⟩ := clean_toRaw hclean
      rcases h r hr with ⟨hown, -⟩ | hother
      · exact Or.inl (hclaim.symm.trans hown)
      · obtain ⟨r₀, hr₀, hsame⟩ := hothers r hother
        have hslot := hback hr₀ hsame hclean
        exact Or.inr ⟨r, hother, hclaim, (hsame.stamp hw).symm.trans (hslot.stamp hw)⟩
    · intro r' hr'
      obtain ⟨r, hr, hclean⟩ := mem_writtenBack hr'
      obtain ⟨hclaim, hsame, -⟩ := clean_toRaw hclean
      rw [← hsame, ← hclaim]
      rcases h r hr with ⟨hown, hreserved⟩ | hother
      · rw [hown]
        exact hreserved
      · exact hexact r hother

end Admission

section Bound

variable {cfg : Settings P} {limits : ThrottleLimits} {reward : ℕ → ℕ} {s : ThrottledOutbox P} {db' : Db P}
  {w : PayoutWindow}

/-- In every interval of a window's length the payouts stay within its two limits. -/
structure PayoutsBounded (limits : ThrottleLimits) (db : Db P) : Prop where
  shortCount : ∀ t, (payoutsUntil db limits.windowSeconds t).length ≤ limits.maxPayoutCount
  shortLuna : ∀ t, ((payoutsUntil db limits.windowSeconds t).map Trans.amount).sum ≤ limits.maxPayoutLuna
  dailyCount : ∀ t, (payoutsUntil db limits.dailyWindowSeconds t).length ≤ limits.dailyMaxPayoutCount
  dailyLuna : ∀ t, ((payoutsUntil db limits.dailyWindowSeconds t).map Trans.amount).sum ≤ limits.dailyMaxPayoutLuna

def ThrottledOutbox.stored (s : ThrottledOutbox P) : List Reservation := cleanReservations s.store.reservations

/-- The invariant: what is charged fits now, and what was paid fits at every other time. -/
structure Windowed (limits : ThrottleLimits) (reward : ℕ → ℕ) (s : ThrottledOutbox P) : Prop where
  tasks : TasksExact s.outbox.db s.outbox.tasks
  created : ∀ t ∈ s.outbox.db.trans, t.type = .claim → t.createdAt ≤ s.outbox.db.now
  amounts : ∀ t ∈ s.outbox.db.trans, t.type = .claim → ∀ c, t.claimId = some c → t.amount = reward c
  reserved : ∀ r ∈ s.stored, r.amount = reward r.claimId
  charged : ∀ w : PayoutWindow, w.IsOf limits → w.Fits reward (w.charged s.outbox.db s.stored)
  past : ∀ w : PayoutWindow, w.IsOf limits → ∀ t, w.Fits reward (w.paid s.outbox.db t)

/-- What is paid in a window that ends now or later is charged now. -/
lemma paid_subset_charged {db : Db P} {rs : List Reservation} {t : ℕ}
    (hcreated : ∀ p ∈ db.trans, p.type = .claim → p.createdAt ≤ db.now) (ht : db.now ≤ t) :
    w.paid db t ⊆ w.charged db rs := by
  intro c hc
  obtain ⟨p, hp, htype, hstatus, -, hwithin, hclaim⟩ := PayoutWindow.mem_paid.mp hc
  have hp' := hcreated p hp htype
  exact PayoutWindow.mem_charged.mpr (Or.inl ⟨p, hp, htype, hstatus, by omega, hclaim⟩)

/-- Anything but a new payout, and the time it takes. -/
lemma Windowed.outside {outbox' : Outbox P} (h : Windowed limits reward s) (hkept : OutboxKept s.outbox outbox') :
    Windowed limits reward { s with outbox := outbox' } := by
  have hclock := hkept.clock
  refine ⟨hkept.tasks, ?_, ?_, h.reserved, ?_, ?_⟩
  · intro t' ht' htype
    obtain ⟨t, ht, hsame⟩ := hkept.payouts t' ht' htype
    have hcreated := h.created t ht hsame.type
    rw [← hsame.createdAt]
    exact hcreated.trans hclock
  · intro t' ht' htype c hclaim
    obtain ⟨t, ht, hsame⟩ := hkept.payouts t' ht' htype
    rw [← hsame.amount]
    exact h.amounts t ht hsame.type c (hsame.claimId.trans hclaim)
  · intro w hw
    apply (h.charged w hw).mono
    intro c hc
    rcases PayoutWindow.mem_charged.mp hc with ⟨t', ht', htype, hstatus, hwithin, hclaim⟩ | ⟨r, hr, hlive, hclaim⟩
    · obtain ⟨t, ht, hsame⟩ := hkept.payouts t' ht' htype
      have hcreated := hsame.createdAt
      dsimp only at hwithin
      exact PayoutWindow.mem_charged.mpr (Or.inl ⟨t, ht, hsame.type, hsame.active hstatus, by omega,
        hsame.claimId.trans hclaim⟩)
    · dsimp only at hlive
      exact PayoutWindow.mem_charged.mpr (Or.inr ⟨r, hr, by omega, hclaim⟩)
  · intro w hw t
    apply (h.past w hw t).mono
    intro c hc
    obtain ⟨p', hp', htype, hstatus, hbefore, hwithin, hclaim⟩ := PayoutWindow.mem_paid.mp hc
    obtain ⟨p, hp, hsame⟩ := hkept.payouts p' hp' htype
    have hcreated := hsame.createdAt
    exact PayoutWindow.mem_paid.mpr ⟨p, hp, hsame.type, hsame.active hstatus, by omega, by omega,
      hsame.claimId.trans hclaim⟩

/-- A payout inserted under its reservation was charged before. -/
lemma Windowed.pay (h : Windowed limits reward s) {job : PayoutJob} (token : String)
    (hholds : ThrottledOutbox.HoldsReservation limits s job) :
    Windowed limits reward { s with outbox := s.outbox.step cfg (.reserve (.claimReward job) token) } := by
  obtain ⟨r, hr, hown, hreserved, hshort, hdaily⟩ := hholds
  obtain ⟨htasks, hnow, hrows⟩ := @TasksExact.pay P cfg s.outbox h.tasks job token
  generalize s.outbox.step cfg (.reserve (.claimReward job) token) = outbox' at htasks hnow hrows ⊢
  have hpays : job.amount = reward job.claimId := by
    rw [← hreserved, h.reserved r hr, hown]
  have hcreated : ∀ t ∈ outbox'.db.trans, t.type = .claim → t.createdAt ≤ outbox'.db.now := by
    intro t ht hkind
    rw [hnow]
    rcases hrows t ht with ht | hnew
    · exact h.created t ht hkind
    · exact le_of_eq hnew.createdAt
  have hcharged : ∀ w : PayoutWindow, w.IsOf limits → w.charged outbox'.db s.stored ⊆ w.charged s.outbox.db s.stored := by
    intro w hw c hc
    rcases PayoutWindow.mem_charged.mp hc with ⟨t, ht, hkind, hstatus, hwithin, hpaid⟩ | ⟨r', hr', hlive, hpaid⟩
    · rcases hrows t ht with ht | hnew
      · exact PayoutWindow.mem_charged.mpr (Or.inl ⟨t, ht, hkind, hstatus, hnow ▸ hwithin, hpaid⟩)
      · have hsame : r.claimId = c := hown.trans (Option.some.inj (hnew.claimId.symm.trans hpaid))
        refine PayoutWindow.mem_charged.mpr (Or.inr ⟨r, hr, ?_, hsame⟩)
        rcases hw with rfl | rfl
        · exact hshort
        · exact hdaily
    · exact PayoutWindow.mem_charged.mpr (Or.inr ⟨r', hr', hnow ▸ hlive, hpaid⟩)
  refine ⟨htasks, hcreated, ?_, h.reserved, ?_, ?_⟩
  · intro t ht hkind c hpaid
    rcases hrows t ht with ht | hnew
    · exact h.amounts t ht hkind c hpaid
    · have hsame : job.claimId = c := Option.some.inj (hnew.claimId.symm.trans hpaid)
      rw [← hsame, ← hpays]
      exact hnew.amount
  · exact fun w hw => (h.charged w hw).mono (hcharged w hw)
  · intro w hw t
    by_cases hlater : outbox'.db.now ≤ t
    · exact (h.charged w hw).mono ((paid_subset_charged hcreated hlater).trans (hcharged w hw))
    · apply (h.past w hw t).mono
      intro c hc
      obtain ⟨p, hp, hkind, hstatus, hbefore, hwithin, hpaid⟩ := PayoutWindow.mem_paid.mp hc
      rcases hrows p hp with hp | hnew
      · exact PayoutWindow.mem_paid.mpr ⟨p, hp, hkind, hstatus, hbefore, hwithin, hpaid⟩
      · have hcreatedAt := hnew.createdAt
        omega

lemma Windowed.reserveSlot (h : Windowed limits reward s) (claimId : ℕ) :
    Windowed limits reward { s with
      store := (reservePayoutSlot limits s.outbox.db s.store claimId (reward claimId)).1 } := by
  rcases @reservePayoutSlot_move P limits reward s.outbox.db s.store claimId h.reserved with
    hsame | ⟨rs, hmove, hstored⟩
  · rw [hsame]
    exact h
  · have hstamps : ∀ r ∈ cleanReservations s.store.reservations, r.shortReservedAt ≠ 0 ∧ r.dailyReservedAt ≠ 0 :=
      fun r hr => mem_cleanReservations hr
    have hmoved : ∀ w : PayoutWindow, w.IsOf limits → w.Fits reward (w.charged s.outbox.db (writtenBack rs)) ∧
        ∀ r ∈ writtenBack rs, r.amount = reward r.claimId := fun w hw =>
      hmove.fits hw h.amounts hstamps h.reserved (h.charged w hw)
    refine ⟨h.tasks, h.created, h.amounts, ?_, ?_, h.past⟩
    · unfold ThrottledOutbox.stored
      rw [hstored]
      exact (hmoved limits.short (Or.inl rfl)).2
    · intro w hw
      unfold ThrottledOutbox.stored
      rw [hstored]
      exact (hmoved w hw).1

/-- The step lemma. -/
lemma Windowed.step (op : ThrottledOp P) (hpays : s.PaysAsReserved limits reward op)
    (h : Windowed limits reward s) : Windowed limits reward (s.step cfg limits op) := by
  cases op with
  | reservePayoutSlot claimId amount =>
    have hsame : amount = reward claimId := hpays
    subst hsame
    exact h.reserveSlot claimId
  | records metadata => exact ⟨h.tasks, h.created, h.amounts, h.reserved, h.charged, h.past⟩
  | outbox op =>
    by_cases hpay : ∃ job token, op = .reserve (.claimReward job) token
    · obtain ⟨job, token, rfl⟩ := hpay
      exact h.pay token hpays
    · apply h.outside
      apply h.tasks.step
      · rintro db rfl
        exact hpays
      · rintro job token rfl
        exact hpay ⟨job, token, rfl⟩

/-- Active payouts pay different claims, so their number and amount are those of the claims paid. -/
lemma PayoutWindow.Fits.payouts {db : Db P} {t : ℕ} (hledger : LedgerSound db)
    (hamounts : ∀ t ∈ db.trans, t.type = .claim → ∀ c, t.claimId = some c → t.amount = reward c)
    (h : w.Fits reward (w.paid db t)) :
    (payoutsUntil db w.seconds t).length ≤ w.maxCount ∧
      ((payoutsUntil db w.seconds t).map Trans.amount).sum ≤ w.maxLuna := by
  have hrow : ∀ p ∈ payoutsUntil db w.seconds t, p ∈ db.trans ∧ p.type = .claim ∧ p.status ≠ .failed ∧
      p.claimId = some (p.claimId.getD 0) := by
    intro p hp
    obtain ⟨hmem, hkind⟩ := List.mem_filter.mp hp
    obtain ⟨htype, hstatus, -⟩ := of_decide_eq_true hkind
    obtain ⟨c, hclaim⟩ := Option.isSome_iff_exists.mp ((hledger.placed p hmem).1 htype)
    refine ⟨hmem, htype, hstatus, ?_⟩
    rw [hclaim]
    rfl
  have hnodup : ((payoutsUntil db w.seconds t).map fun p => p.claimId.getD 0).Nodup := by
    have hrows : (payoutsUntil db w.seconds t).Nodup :=
      (List.Nodup.of_map _ hledger.keys).filter _
    apply hrows.map_on
    intro p hp q hq hsame
    obtain ⟨hpmem, hptype, hpstatus, hpclaim⟩ := hrow p hp
    obtain ⟨hqmem, hqtype, hqstatus, hqclaim⟩ := hrow q hq
    have hleg : p.SameLeg q := ⟨hptype.trans hqtype.symm, Or.inl ⟨hptype, by rw [hpclaim, hqclaim, hsame]⟩⟩
    exact eq_of_key_eq hledger.keys hpmem hqmem (hledger.active p hpmem q hqmem hleg hpstatus hqstatus)
  have hsub : ((payoutsUntil db w.seconds t).map fun p => p.claimId.getD 0).toFinset ⊆ w.paid db t := by
    intro c hc
    obtain ⟨p, hp, rfl⟩ := List.mem_map.mp (List.mem_toFinset.mp hc)
    exact List.mem_toFinset.mpr (List.mem_filterMap.mpr ⟨p, hp, (hrow p hp).2.2.2⟩)
  obtain ⟨hcount, hluna⟩ := h.mono hsub
  constructor
  · rw [List.toFinset_card_of_nodup hnodup, List.length_map] at hcount
    exact hcount
  · have hsum : ((payoutsUntil db w.seconds t).map Trans.amount).sum =
        ∑ c ∈ ((payoutsUntil db w.seconds t).map fun p => p.claimId.getD 0).toFinset, reward c := by
      rw [List.sum_toFinset reward hnodup, List.map_map]
      congr 1
      refine List.map_congr_left fun p hp => ?_
      obtain ⟨hmem, htype, -, hclaim⟩ := hrow p hp
      exact hamounts p hmem htype _ hclaim
    omega

lemma Windowed.bounded (h : Windowed limits reward s) : PayoutsBounded limits s.outbox.db where
  shortCount t := ((h.past limits.short (Or.inl rfl) t).payouts h.tasks.ledger h.amounts).1
  shortLuna t := ((h.past limits.short (Or.inl rfl) t).payouts h.tasks.ledger h.amounts).2
  dailyCount t := ((h.past limits.daily (Or.inr rfl) t).payouts h.tasks.ledger h.amounts).1
  dailyLuna t := ((h.past limits.daily (Or.inr rfl) t).payouts h.tasks.ledger h.amounts).2

lemma windowed_initial {db : Db P} {store : ThrottleStore P} (hempty : db.trans = [])
    (hstore : cleanReservations store.reservations = []) :
    Windowed limits reward (ThrottledOutbox.initial db store) := by
  have hnone : ∀ t, t ∉ db.trans := by
    intro t ht
    rw [hempty] at ht
    cases ht
  have hledger : LedgerSound db := by
    refine ⟨?_, fun t ht => absurd ht (hnone t), fun t ht => absurd ht (hnone t), fun t ht => absurd ht (hnone t),
      fun t ht => absurd ht (hnone t)⟩
    rw [hempty]
    exact List.nodup_nil
  have hfits : ∀ (w : PayoutWindow) (claims : Finset ℕ), (∀ c, c ∉ claims) → w.Fits reward claims := by
    intro w claims hno
    rw [Finset.eq_empty_of_forall_notMem hno]
    simp [PayoutWindow.Fits]
  have htasks : TasksExact db [] := ⟨hledger, by simp, by simp⟩
  refine ⟨htasks, fun t ht => absurd ht (hnone t), fun t ht => absurd ht (hnone t), ?_, ?_, ?_⟩
  · intro r hr
    change r ∈ cleanReservations store.reservations at hr
    rw [hstore] at hr
    cases hr
  · intro w _
    apply hfits
    intro c hc
    rcases PayoutWindow.mem_charged.mp hc with ⟨t, ht, -⟩ | ⟨r, hr, -⟩
    · exact hnone t ht
    · change r ∈ cleanReservations store.reservations at hr
      rw [hstore] at hr
      cases hr
  · intro w _ t
    apply hfits
    intro c hc
    obtain ⟨p, hp, -⟩ := PayoutWindow.mem_paid.mp hc
    exact hnone p hp

/-- From an empty ledger and no reservation, whatever the submitters and the rest of the application do:
every interval of a window's length holds payouts within the configured count and amount. -/
theorem throttle_bounds_payouts {db : Db P} {store : ThrottleStore P} {ops : List (ThrottledOp P)}
    (hempty : db.trans = []) (hstore : cleanReservations store.reservations = [])
    (hpays : Admissible (ThrottledOutbox.step cfg limits) (ThrottledOutbox.PaysAsReserved limits reward)
      (ThrottledOutbox.initial db store) ops) :
    PayoutsBounded limits
      (run (ThrottledOutbox.step cfg limits) (ThrottledOutbox.initial db store) ops).outbox.db := by
  have hrun : Windowed limits reward (run (ThrottledOutbox.step cfg limits) (ThrottledOutbox.initial db store) ops) :=
    run_invariant (fun _ op hop h => h.step op hop) hpays (windowed_initial hempty hstore)
  exact hrun.bounded

/-- Two winners of one Spot, with room for one payout every ten minutes. -/
def onePayoutAtATime : ThrottleLimits := { maxPayoutCount := 1 }

def twoWinners : Db Unit := { (Db.empty : Db Unit) with
  now := 1000
  spots := [{ draftOf 1 1 "NQ03 SPOT" with status := .published, maxTotalClaims := 10 }]
  claims := [⟨1, 1, 4, some "NQ04 USER", (), 1, .success, 900, 900⟩, ⟨2, 1, 5, some "NQ05 USER", (), 1, .success, 900, 900⟩]
  spotSeq := 1
  claimSeq := 2 }

/-- The second claim waits until the first payout has left the window. -/
def oneAfterTheOther : List (ThrottledOp Unit) :=
  [ .reservePayoutSlot 1 20,
    .reservePayoutSlot 2 20,
    .outbox (.reserve (.claimReward ⟨1, 20⟩) "token"),
    .reservePayoutSlot 2 20,
    .outbox (.elsewhere { twoWinners with now := 1600 }),
    .reservePayoutSlot 2 20,
    .outbox (.reserve (.claimReward ⟨2, 20⟩) "token") ]

theorem throttle_bounds_payouts_one_after_the_other :
    PayoutsBounded onePayoutAtATime
        (run (ThrottledOutbox.step asciiText onePayoutAtATime) (ThrottledOutbox.initial twoWinners {})
          oneAfterTheOther).outbox.db ∧
      (run (ThrottledOutbox.step asciiText onePayoutAtATime) (ThrottledOutbox.initial twoWinners {})
        oneAfterTheOther).outbox.db.trans.map Trans.claimId = [some 1, some 2] := by
  refine ⟨@throttle_bounds_payouts _ _ _ (fun _ => 20) _ _ _ rfl rfl ?_, by decide +kernel⟩
  refine ⟨rfl, rfl, ?_, rfl, ?_, rfl, ?_, trivial⟩
  · change ThrottledOutbox.HoldsReservation _ _ _
    unfold ThrottledOutbox.HoldsReservation
    decide +kernel
  · change (1000 : ℕ) ≤ 1600
    decide
  · change ThrottledOutbox.HoldsReservation _ _ _
    unfold ThrottledOutbox.HoldsReservation
    decide +kernel

end Bound

end NimHunt
