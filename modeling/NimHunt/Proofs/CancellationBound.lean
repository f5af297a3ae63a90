import NimHunt.CancellationSteps
import NimHunt.Proofs.LedgerMoves

/-!
# How often a cancellation sends

The guard decides on one page of the ledger and the submitter under it reads the ledger again.  As long
as no leg fails unseen in between, the unique index and the guard leave room for one fee and for a second
refund after a proven failure; a leg that fails in between is sent once more.
-/

namespace NimHunt

open Lib

variable {P : Type}

section Statements

def CancellationEvent.feeOf? : CancellationEvent → Option ℕ
  | .fee transId _ _ => some transId
  | _ => none

def CancellationEvent.refundOf? : CancellationEvent → Option ℕ
  | .refund transId => some transId
  | _ => none

namespace CancellationRun

/-- The fees sent for a Spot, oldest first. -/
def feesOf (s : CancellationRun P) (spotId : ℕ) : List ℕ :=
  s.log.filterMap fun entry => if entry.1 = spotId then entry.2.feeOf? else none

def refundsOf (s : CancellationRun P) (spotId : ℕ) : List ℕ :=
  s.log.filterMap fun entry => if entry.1 = spotId then entry.2.refundOf? else none

/-- What the guard promises at any time. -/
structure Bounded (s : CancellationRun P) : Prop where
  one_fee : ∀ spotId, (s.feesOf spotId).length ≤ 1
  two_refunds : ∀ spotId, (s.refundsOf spotId).length ≤ 2
  second_after_failure : ∀ spotId first second, s.refundsOf spotId = [first, second] →
    (spotId, .shownFailed first) ∈ s.log ∧ ∃ t ∈ s.db.trans, t.id = first ∧ t.status = .failed
  first_snapshot : ∀ spotId policy, (spotId, .accepted policy) ∈ s.log →
    s.db.cancellationPolicy spotId = some policy
  fee_as_recorded : ∀ spotId transId amount feeAddress, (spotId, .fee transId amount feeAddress) ∈ s.log →
    ∃ policy, (spotId, .accepted policy) ∈ s.log ∧ amount ≤ policy.feeAmount ∧ feeAddress = policy.feeAddress

/-- The FAILED rows of this kind were FAILED in the page the guard read. -/
def FailedSeen (db : Db P) (spotId : ℕ) (type : TransType) (transactions : List Trans) : Prop :=
  ∀ t ∈ db.trans, t.spotId = some spotId → t.type = type → t.status = .failed →
    ∃ seen ∈ transactions, seen.id = t.id ∧ seen.type = type ∧ seen.status = .failed

/-- A worker that is about to send a leg has seen every failed leg of its kind. -/
def SendsSeen (s : CancellationRun P) : CancellationOp P → Prop
  | .resume spotId _ =>
    match s.worker spotId with
    | some (.sendFee transactions _ _) => FailedSeen s.db spotId .platFee transactions
    | some (.sendRefund transactions _ _ _) => FailedSeen s.db spotId .cancelSpot transactions
    | _ => True
  | _ => True

end CancellationRun

end Statements

section Guard

variable {transactions : List Trans}

lemma mem_failedCancellationLegs {t : Trans} :
    t ∈ failedCancellationLegs transactions ↔
      t ∈ transactions ∧ t.isCancellationLeg = true ∧ t.status = .failed := by
  simp [failedCancellationLegs]

/-- The one refund the guard may let be repeated stands alone, and no fee has failed. -/
lemma singleRetryableFailedRefund_eq_some {refund : Trans}
    (h : singleRetryableFailedRefund transactions = some refund) :
    refund ∈ transactions ∧ refund.type = .cancelSpot ∧ refund.status = .failed ∧
      (∀ t ∈ transactions, t.type = .cancelSpot → t = refund) ∧
      ∀ t ∈ transactions, t.type = .platFee → t.status ≠ .failed := by
  unfold singleRetryableFailedRefund at h
  by_cases hactive : (transactions.filter fun t => t.type = .cancelSpot).any (fun t => t.status ≠ .failed) = true
  · simp only [hactive, if_true] at h
    cases h
  · by_cases hfee : transactions.any (fun t => t.type = .platFee ∧ t.status = .failed) = true
    · simp only [hactive, hfee, if_true] at h
      cases h
    · simp only [hactive, hfee] at h
      have hrefunds : transactions.filter (fun t => t.type = .cancelSpot) = [refund] := by
        revert h
        generalize transactions.filter (fun t => decide (t.type = .cancelSpot)) = refunds
        intro h
        match refunds, h with
        | [_], h =>
          cases h
          rfl
      have hmem : ∀ t, t ∈ transactions ∧ t.type = .cancelSpot ↔ t = refund := by
        intro t
        have hiff : t ∈ transactions.filter (fun t => t.type = .cancelSpot) ↔ t = refund := by
          rw [hrefunds, List.mem_singleton]
        rw [← hiff, List.mem_filter, decide_eq_true_iff]
      obtain ⟨hin, htype⟩ := (hmem refund).mpr rfl
      refine ⟨hin, htype, ?_, fun t ht hkind => (hmem t).mp ⟨ht, hkind⟩, ?_⟩
      · have hall : ∀ t ∈ transactions, t.type = .cancelSpot → t.status = .failed := by simpa using hactive
        exact hall refund hin htype
      · intro t ht hkind hstatus
        apply hfee
        rw [List.any_eq_true]
        exact ⟨t, ht, by simp [hkind, hstatus]⟩

end Guard

section Outside

variable {db db' : Db P} {row : Trans}

/-- A step outside the guarded worker: every leg stays, and a failed one stays failed. -/
structure OutsideStep (db db' : Db P) : Prop where
  keys : (db'.trans.map Trans.id).Nodup
  fresh : ∀ t ∈ db'.trans, t.id ≤ db'.transSeq
  legs : ∀ t ∈ db.trans, t.isCancellationLeg = true → ∃ t' ∈ db'.trans, t'.id = t.id ∧ t'.type = t.type ∧
    t'.spotId = t.spotId ∧ (t.status = .failed → t'.status = .failed)
  policy : db'.cancellationPolicy = db.cancellationPolicy

lemma OutsideStep.refl (hkeys : (db.trans.map Trans.id).Nodup) (hfresh : ∀ t ∈ db.trans, t.id ≤ db.transSeq) :
    OutsideStep db db := ⟨hkeys, hfresh, fun t ht _ => ⟨t, ht, rfl, rfl, rfl, fun h => h⟩, rfl⟩

lemma SettledTo.outsideStep {status : TransStatus} {transfer : Option ChainTransfer} {transId : ℕ}
    (h : SettledTo status transfer transId db db')
    (hkeys : (db.trans.map Trans.id).Nodup) (hfresh : ∀ t ∈ db.trans, t.id ≤ db.transSeq)
    (hpolicy : db'.cancellationPolicy = db.cancellationPolicy) : OutsideStep db db' := by
  have hids := h.keys
  obtain ⟨hseq, f, hf, hsettles⟩ := h
  refine ⟨hids ▸ hkeys, ?_, ?_, hpolicy⟩
  · intro t' ht'
    have hid : t'.id ∈ db.trans.map Trans.id := hids ▸ List.mem_map_of_mem ht'
    obtain ⟨t, ht, heq⟩ := List.mem_map.mp hid
    rw [← heq, hseq]
    exact hfresh t ht
  · intro t ht _
    by_cases hid : t.id = transId
    · have hs := hsettles t ht hid
      refine ⟨f t, ?_, hs.id, hs.type, hs.spotId, ?_⟩
      · rw [hf, mem_updateWhere]
        exact ⟨t, ht, by simp [hid]⟩
      · intro hfailed
        rcases hs.status with hsame | ⟨hpending, -⟩
        · rw [hsame]
          exact hfailed
        · rw [hfailed] at hpending
          cases hpending
    · refine ⟨t, ?_, rfl, rfl, rfl, fun h => h⟩
      rw [hf, mem_updateWhere]
      exact ⟨t, ht, by simp [hid]⟩

lemma finalizeCancelledSpotIfReady_policy (db : Db P) (spotId : Option ℕ) :
    (finalizeCancelledSpotIfReady db spotId).cancellationPolicy = db.cancellationPolicy := by
  obtain ⟨spots, hspots⟩ := finalizeCancelledSpotIfReady_frame db spotId
  rw [hspots]

lemma modifyTransactionStatus_policy (db : Db P) (transId : ℕ) (status : TransStatus) :
    (db.modifyTransactionStatus transId status).1.cancellationPolicy = db.cancellationPolicy := by
  unfold Db.modifyTransactionStatus
  cases db.getTransaction transId with
  | none => rfl
  | some current =>
    dsimp only
    split_ifs <;> rfl

lemma orRollback_policy {R : Type} {outcome : Outcome P R}
    (h : outcome.1.cancellationPolicy = db.cancellationPolicy) :
    (outcome.orRollback db).1.cancellationPolicy = db.cancellationPolicy := by
  obtain ⟨made, e | r⟩ := outcome
  · rfl
  · exact h

lemma markTransAsFailed_policy : (markTransAsFailed db row).1.cancellationPolicy = db.cancellationPolicy := by
  unfold markTransAsFailed
  apply orRollback_policy
  have hmodify := modifyTransactionStatus_policy db row.id .failed
  generalize db.modifyTransactionStatus row.id .failed = outcome at hmodify
  obtain ⟨mid, e | _⟩ := outcome
  · exact hmodify
  · exact (finalizeCancelledSpotIfReady_policy mid row.spotId).trans hmodify

lemma markTransAsConfirmed_policy (transfer : ChainTransfer) (payout : Bool) :
    (markTransAsConfirmed db row transfer payout).1.cancellationPolicy = db.cancellationPolicy := by
  have hmodify : ∀ status, ((db.updateTransactionChainDetails row.id transfer).modifyTransactionStatus
      row.id status).1.cancellationPolicy = db.cancellationPolicy := fun status =>
    modifyTransactionStatus_policy (db.updateTransactionChainDetails row.id transfer) row.id status
  unfold markTransAsConfirmed
  change (Outcome.orRollback db (if fundingMismatch db row transfer then _ else _)).1.cancellationPolicy = _
  by_cases hmismatch : fundingMismatch db row transfer
  · rw [if_pos hmismatch]
    exact orRollback_policy (hmodify .failed)
  · rw [if_neg hmismatch]
    apply orRollback_policy
    have hconfirmed := hmodify .confirmed
    generalize (db.updateTransactionChainDetails row.id transfer).modifyTransactionStatus row.id .confirmed =
      outcome at hconfirmed
    obtain ⟨mid, e | _⟩ := outcome
    · exact hconfirmed
    · dsimp only
      split
      · exact (finalizeCancelledSpotIfReady_policy _ row.spotId).trans hconfirmed
      · exact (finalizeCancelledSpotIfReady_policy mid row.spotId).trans hconfirmed

lemma Inserts.outsideStep {p : NewTrans → Prop} {outcome : Outcome P ℕ} (h : Inserts p db outcome)
    (hkeys : (db.trans.map Trans.id).Nodup) (hfresh : ∀ t ∈ db.trans, t.id ≤ db.transSeq) :
    OutsideStep db outcome.1 := by
  cases h with
  | refused e => exact .refl hkeys hfresh
  | made h hrow =>
    obtain ⟨hid, hdb, -, -⟩ := createTransaction_ok h
    have hbelow : ∀ t ∈ db.trans, t.id < db.transSeq + 1 := fun t ht => Nat.lt_succ_of_le (hfresh t ht)
    subst hdb hid
    refine ⟨?_, ?_, fun t ht _ => ⟨t, List.mem_append_left _ ht, rfl, rfl, rfl, fun h => h⟩, rfl⟩
    · rw [List.map_append]
      apply nodup_concat_of_fresh hkeys
      intro j hj
      obtain ⟨t, ht, rfl⟩ := List.mem_map.mp hj
      exact hbelow t ht
    · intro t ht
      rcases List.mem_append.mp ht with ht | ht
      · exact (hbelow t ht).le
      · rw [List.mem_singleton.mp ht]

lemma withElsewhere_outsideStep {other : Db P}
    (hkeys : ((CancellationRun.withElsewhere db other).trans.map Trans.id).Nodup)
    (hfresh : ∀ t ∈ (CancellationRun.withElsewhere db other).trans,
      t.id ≤ (CancellationRun.withElsewhere db other).transSeq) :
    OutsideStep db (CancellationRun.withElsewhere db other) := by
  refine ⟨hkeys, hfresh, ?_, rfl⟩
  intro t ht hleg
  have hmem : t ∈ (CancellationRun.withElsewhere db other).trans :=
    List.mem_append_left _ (List.mem_filter.mpr ⟨ht, hleg⟩)
  exact ⟨t, hmem, rfl, rfl, rfl, fun h => h⟩

end Outside

section Submitter

variable (cfg : Settings P) (db : Db P)

lemma cancelFromLedger_writes (spot : Spot P) (fee : ℕ) (transactions : List Trans) :
    (∃ spots, (cancelFromLedger cfg db spot fee transactions).1 = { db with spots := spots }) ∧
      ∀ job, (cancelFromLedger cfg db spot fee transactions).2 = .ok (.fixed job) → job.feeAmount ≤ fee := by
  unfold cancelFromLedger
  split_ifs
  · exact ⟨⟨db.spots, rfl⟩, fun job h => by cases h⟩
  · exact ⟨⟨db.spots, rfl⟩, fun job h => by cases h⟩
  · exact ⟨⟨db.spots, rfl⟩, fun job h => by cases h⟩
  · exact ⟨⟨_, rfl⟩, fun job h => by cases h⟩
  · dsimp only
    split_ifs
    · exact ⟨⟨db.spots, rfl⟩, fun job h => by cases h⟩
    · exact ⟨⟨_, rfl⟩, fun job h => by cases h⟩
    · refine ⟨⟨db.spots, rfl⟩, fun job h => ?_⟩
      cases h
      exact (Nat.sub_le _ _).trans (min_le_left _ _)

/-- The submitter fixes its amounts without touching the ledger or the guard's tables. -/
lemma submitSpotCancellationTransactions_writes (spotId fee : ℕ) :
    (∃ spots, (submitSpotCancellationTransactions cfg db spotId fee).1 = { db with spots := spots }) ∧
      ∀ job, (submitSpotCancellationTransactions cfg db spotId fee).2 = .ok (.fixed job) → job.feeAmount ≤ fee := by
  unfold submitSpotCancellationTransactions
  cases db.getSpot spotId with
  | none => exact ⟨⟨db.spots, rfl⟩, fun job h => by cases h⟩
  | some spot =>
    dsimp only
    split_ifs
    · exact ⟨⟨db.spots, rfl⟩, fun job h => by cases h⟩
    · exact ⟨⟨db.spots, rfl⟩, fun job h => by cases h⟩
    · exact ⟨⟨db.spots, rfl⟩, fun job h => by cases h⟩
    · exact ⟨⟨_, rfl⟩, fun job h => by cases h⟩
    · have hledger := cancelFromLedger_writes cfg (markSpotCancellationStarted db spotId) spot fee
        ((markSpotCancellationStarted db spotId).getTransactionsBySpot spotId maxLimit)
      generalize cancelFromLedger cfg (markSpotCancellationStarted db spotId) spot fee
        ((markSpotCancellationStarted db spotId).getTransactionsBySpot spotId maxLimit) = outcome at hledger
      obtain ⟨⟨spots, hspots⟩, hjob⟩ := hledger
      obtain ⟨made, e | result⟩ := outcome
      · exact ⟨⟨db.spots, rfl⟩, fun job h => by cases h⟩
      · refine ⟨⟨spots, ?_⟩, hjob⟩
        rw [Outcome.orRollback]
        exact hspots

end Submitter

namespace CancellationRun

variable {s : CancellationRun P} {spotId : ℕ}

def HasLeg (s : CancellationRun P) (spotId : ℕ) (type : TransType) (transId : ℕ) : Prop :=
  ∃ t ∈ s.db.trans, t.id = transId ∧ t.type = type ∧ t.spotId = some spotId

def NotAccepted (s : CancellationRun P) (spotId : ℕ) : Prop := ∀ policy, (spotId, .accepted policy) ∉ s.log

def FailureShown (s : CancellationRun P) (spotId : ℕ) (transactions : List Trans) : Prop :=
  ∃ refund, singleRetryableFailedRefund transactions = some refund ∧ (spotId, .shownFailed refund.id) ∈ s.log

/-- What the guard has established about the page it read when it lets a worker go on. -/
def GuardPassed (s : CancellationRun P) (spotId : ℕ) (transactions : List Trans) : Prop :=
  failedCancellationLegs transactions = [] ∨ s.FailureShown spotId transactions

def Leased (s : CancellationRun P) (spotId : ℕ) (lease : CancellationLease) : Prop :=
  s.db.cancellationPolicy spotId = some lease.policy ∧ (lease.policyCreated = true → s.NotAccepted spotId)

def Sending (s : CancellationRun P) (spotId : ℕ) (transactions : List Trans) (lease : CancellationLease) : Prop :=
  s.GuardPassed spotId transactions ∧ (spotId, .accepted lease.policy) ∈ s.log

def StageSound (s : CancellationRun P) (spotId : ℕ) : CancellationStage → Prop
  | .readGuard _ transactions failureProven | .checkLegs _ transactions failureProven =>
    failureProven = true → s.FailureShown spotId transactions
  | .fixPolicy _ transactions => s.GuardPassed spotId transactions
  | .acquireGuard transactions lease | .submit transactions lease =>
    s.GuardPassed spotId transactions ∧ s.Leased spotId lease
  | .refused lease => lease.policyCreated = true → s.NotAccepted spotId
  | .deletePolicy => s.NotAccepted spotId
  | .sendFee transactions lease job => s.Sending spotId transactions lease ∧ job.feeAmount ≤ lease.policy.feeAmount
  | .sendRefund transactions lease _ _ => s.Sending spotId transactions lease
  | _ => True

structure Sound (s : CancellationRun P) : Prop where
  keys : (s.db.trans.map Trans.id).Nodup
  fresh : ∀ t ∈ s.db.trans, t.id ≤ s.db.transSeq
  fee_rows : ∀ spotId, ∀ transId ∈ s.feesOf spotId, s.HasLeg spotId .platFee transId
  refund_rows : ∀ spotId, ∀ transId ∈ s.refundsOf spotId, s.HasLeg spotId .cancelSpot transId
  refunds_nodup : ∀ spotId, (s.refundsOf spotId).Nodup
  bounded : s.Bounded
  stages : ∀ spotId stage, s.worker spotId = some stage → s.StageSound spotId stage

section Frame

variable {s' : CancellationRun P}

/-- What another Spot's worker or the outside does keeps a worker's knowledge. -/
lemma StageSound.frame {stage : CancellationStage} (h : s.StageSound spotId stage)
    (hlog : ∀ event, (spotId, event) ∈ s'.log ↔ (spotId, event) ∈ s.log)
    (hpolicy : s'.db.cancellationPolicy spotId = s.db.cancellationPolicy spotId) :
    s'.StageSound spotId stage := by
  have hshown : ∀ {transactions}, s.FailureShown spotId transactions → s'.FailureShown spotId transactions := by
    rintro transactions ⟨refund, hrefund, hmem⟩
    exact ⟨refund, hrefund, (hlog _).mpr hmem⟩
  have hpassed : ∀ {transactions}, s.GuardPassed spotId transactions → s'.GuardPassed spotId transactions :=
    fun hp => hp.imp_right hshown
  have hnot : s.NotAccepted spotId → s'.NotAccepted spotId := fun hn policy hmem => hn policy ((hlog _).mp hmem)
  have hleased : ∀ {lease}, s.Leased spotId lease → s'.Leased spotId lease := fun hl =>
    ⟨hpolicy.trans hl.1, fun hcreated => hnot (hl.2 hcreated)⟩
  have hsending : ∀ {transactions lease}, s.Sending spotId transactions lease →
      s'.Sending spotId transactions lease := fun hs => ⟨hpassed hs.1, (hlog _).mpr hs.2⟩
  cases stage with
  | readLedger req => trivial
  | askChain req transactions => trivial
  | readGuard req transactions failureProven => exact fun hproven => hshown (h hproven)
  | checkLegs req transactions failureProven => exact fun hproven => hshown (h hproven)
  | fixPolicy req transactions => exact hpassed h
  | acquireGuard transactions lease => exact ⟨hpassed h.1, hleased h.2⟩
  | submit transactions lease => exact ⟨hpassed h.1, hleased h.2⟩
  | refused lease => exact fun hcreated => hnot (h hcreated)
  | deletePolicy => exact hnot h
  | sendFee transactions lease job => exact ⟨hsending h.1, h.2⟩
  | sendRefund transactions lease job refundAddress => exact hsending h
  | finish block => trivial

lemma HasLeg.kept {db' : Db P} {type : TransType} {transId : ℕ} (h : s.HasLeg spotId type transId)
    (htype : type = .platFee ∨ type = .cancelSpot) (hout : OutsideStep s.db db') :
    HasLeg { s with db := db' } spotId type transId := by
  obtain ⟨t, ht, hid, hkind, hspot⟩ := h
  have hleg : t.isCancellationLeg = true := by
    rcases htype with rfl | rfl
    · simp [Trans.isCancellationLeg, hkind]
    · simp [Trans.isCancellationLeg, hkind]
  obtain ⟨t', ht', hid', hkind', hspot', -⟩ := hout.legs t ht hleg
  exact ⟨t', ht', hid'.trans hid, hkind'.trans hkind, hspot'.trans hspot⟩

/-- The row that failed first stays failed. -/
lemma failedRow_kept {db' : Db P} {first : ℕ} (hkeys : (s.db.trans.map Trans.id).Nodup)
    (hleg : s.HasLeg spotId .cancelSpot first) (hout : OutsideStep s.db db')
    (h : ∃ t ∈ s.db.trans, t.id = first ∧ t.status = .failed) : ∃ t ∈ db'.trans, t.id = first ∧ t.status = .failed := by
  obtain ⟨t, ht, hid, hstatus⟩ := h
  obtain ⟨u, hu, huid, hukind, -⟩ := hleg
  have hsame : t = u := eq_of_key_eq hkeys ht hu (hid.trans huid.symm)
  have hisleg : t.isCancellationLeg = true := by simp [Trans.isCancellationLeg, hsame, hukind]
  obtain ⟨t', ht', hid', -, -, hfailed⟩ := hout.legs t ht hisleg
  exact ⟨t', ht', hid'.trans hid, hfailed hstatus⟩

lemma Sound.outside {db' : Db P} (h : s.Sound) (hout : OutsideStep s.db db') : Sound { s with db := db' } := by
  refine ⟨hout.keys, hout.fresh, ?_, ?_, h.refunds_nodup, ?_, ?_⟩
  · intro spotId transId hmem
    exact (h.fee_rows spotId transId hmem).kept (Or.inl rfl) hout
  · intro spotId transId hmem
    exact (h.refund_rows spotId transId hmem).kept (Or.inr rfl) hout
  · refine ⟨h.bounded.one_fee, h.bounded.two_refunds, ?_, ?_, h.bounded.fee_as_recorded⟩
    · intro spotId first second hrefunds
      obtain ⟨hshown, hfailed⟩ := h.bounded.second_after_failure spotId first second hrefunds
      have hfirst : first ∈ s.refundsOf spotId := by
        have hrefunds : s.refundsOf spotId = [first, second] := hrefunds
        rw [hrefunds]
        exact List.mem_cons_self
      exact ⟨hshown, failedRow_kept h.keys (h.refund_rows spotId first hfirst) hout hfailed⟩
    · intro spotId policy haccepted
      have hstored := h.bounded.first_snapshot spotId policy haccepted
      rw [← hstored]
      exact congrFun hout.policy spotId
  · intro spotId stage hstage
    exact (h.stages spotId stage hstage).frame (fun _ => Iff.rfl) (congrFun hout.policy spotId)

end Frame

section Moves

variable {db' : Db P} {next : Option CancellationStage} {events : List CancellationEvent}

lemma mem_moved_log {other : ℕ} {event : CancellationEvent} :
    (other, event) ∈ (s.moved spotId db' next events).log ↔
      (other, event) ∈ s.log ∨ other = spotId ∧ event ∈ events := by
  have hmap : (other, event) ∈ events.map (fun event => (spotId, event)) ↔ other = spotId ∧ event ∈ events := by
    rw [List.mem_map]
    constructor
    · rintro ⟨e, he, heq⟩
      cases heq
      exact ⟨rfl, he⟩
    · rintro ⟨rfl, he⟩
      exact ⟨event, he, rfl⟩
  exact List.mem_append.trans (or_congr_right hmap)

lemma feesOf_moved (other : ℕ) :
    (s.moved spotId db' next events).feesOf other =
      s.feesOf other ++ if other = spotId then events.filterMap CancellationEvent.feeOf? else [] := by
  unfold feesOf moved
  rw [List.filterMap_append, List.filterMap_map]
  by_cases hother : other = spotId
  · subst hother
    rw [if_pos rfl]
    congr 1
    apply List.filterMap_congr
    intro event _
    simp
  · rw [if_neg hother]
    congr 1
    apply List.filterMap_eq_nil_iff.mpr
    intro event _
    simp [Ne.symm hother]

lemma refundsOf_moved (other : ℕ) :
    (s.moved spotId db' next events).refundsOf other =
      s.refundsOf other ++ if other = spotId then events.filterMap CancellationEvent.refundOf? else [] := by
  unfold refundsOf moved
  rw [List.filterMap_append, List.filterMap_map]
  by_cases hother : other = spotId
  · subst hother
    rw [if_pos rfl]
    congr 1
    apply List.filterMap_congr
    intro event _
    simp
  · rw [if_neg hother]
    congr 1
    apply List.filterMap_eq_nil_iff.mpr
    intro event _
    simp [Ne.symm hother]

/-- The stages after a worker moved: its own, and those of the other Spots. -/
lemma Sound.moved_stages (h : s.Sound)
    (hpolicy : ∀ other, other ≠ spotId → db'.cancellationPolicy other = s.db.cancellationPolicy other)
    (hstage : ∀ stage, next = some stage → (s.moved spotId db' next events).StageSound spotId stage) :
    ∀ other stage, (s.moved spotId db' next events).worker other = some stage →
      (s.moved spotId db' next events).StageSound other stage := by
  intro other stage hworker
  by_cases hother : other = spotId
  · subst hother
    apply hstage
    have hself : (s.moved other db' next events).worker other = next := Function.update_self _ _ _
    exact hself.symm.trans hworker
  · have hsame : (s.moved spotId db' next events).worker other = s.worker other := Function.update_of_ne hother _ _
    apply (h.stages other stage (hsame.symm.trans hworker)).frame
    · intro event
      rw [mem_moved_log]
      simp [hother]
    · exact hpolicy other hother

/-- A worker moves without writing the ledger; what it logs fits the ledger it leaves. -/
lemma Sound.move (h : s.Sound) (htrans : db'.trans = s.db.trans) (hseq : db'.transSeq = s.db.transSeq)
    (hpolicy : ∀ other, other ≠ spotId → db'.cancellationPolicy other = s.db.cancellationPolicy other)
    (hfees : ∀ transId ∈ events.filterMap CancellationEvent.feeOf?, s.HasLeg spotId .platFee transId)
    (hfee : (s.feesOf spotId ++ events.filterMap CancellationEvent.feeOf?).length ≤ 1)
    (hrefunds : ∀ transId ∈ events.filterMap CancellationEvent.refundOf?, s.HasLeg spotId .cancelSpot transId)
    (hnodup : (s.refundsOf spotId ++ events.filterMap CancellationEvent.refundOf?).Nodup)
    (hrefund : (s.refundsOf spotId ++ events.filterMap CancellationEvent.refundOf?).length ≤ 2)
    (hsecond : ∀ first second,
      s.refundsOf spotId ++ events.filterMap CancellationEvent.refundOf? = [first, second] →
      (spotId, .shownFailed first) ∈ s.log ∧ ∃ t ∈ s.db.trans, t.id = first ∧ t.status = .failed)
    (haccepted : ∀ policy, (spotId, .accepted policy) ∈ (s.moved spotId db' next events).log →
      db'.cancellationPolicy spotId = some policy)
    (hrecorded : ∀ transId amount feeAddress, .fee transId amount feeAddress ∈ events → ∃ policy,
      (spotId, .accepted policy) ∈ s.log ∧ amount ≤ policy.feeAmount ∧ feeAddress = policy.feeAddress)
    (hstage : ∀ stage, next = some stage → (s.moved spotId db' next events).StageSound spotId stage) :
    (s.moved spotId db' next events).Sound := by
  have hleg : ∀ {other type transId}, s.HasLeg other type transId →
      (s.moved spotId db' next events).HasLeg other type transId := by
    rintro other type transId ⟨t, ht, hrow⟩
    exact ⟨t, htrans ▸ ht, hrow⟩
  refine ⟨?_, ?_, ?_, ?_, ?_, ⟨?_, ?_, ?_, ?_, ?_⟩, h.moved_stages hpolicy hstage⟩
  · change (db'.trans.map Trans.id).Nodup
    rw [htrans]
    exact h.keys
  · change ∀ t ∈ db'.trans, t.id ≤ db'.transSeq
    rw [htrans, hseq]
    exact h.fresh
  · intro other transId hmem
    rw [feesOf_moved] at hmem
    apply hleg
    rcases List.mem_append.mp hmem with hold | hnew
    · exact h.fee_rows other transId hold
    · split_ifs at hnew with hother
      · rw [hother]
        exact hfees transId hnew
      · exact absurd hnew List.not_mem_nil
  · intro other transId hmem
    rw [refundsOf_moved] at hmem
    apply hleg
    rcases List.mem_append.mp hmem with hold | hnew
    · exact h.refund_rows other transId hold
    · split_ifs at hnew with hother
      · rw [hother]
        exact hrefunds transId hnew
      · exact absurd hnew List.not_mem_nil
  · intro other
    rw [refundsOf_moved]
    by_cases hother : other = spotId
    · rw [if_pos hother, hother]
      exact hnodup
    · rw [if_neg hother, List.append_nil]
      exact h.refunds_nodup other
  · intro other
    rw [feesOf_moved]
    by_cases hother : other = spotId
    · rw [if_pos hother, hother]
      exact hfee
    · rw [if_neg hother, List.append_nil]
      exact h.bounded.one_fee other
  · intro other
    rw [refundsOf_moved]
    by_cases hother : other = spotId
    · rw [if_pos hother, hother]
      exact hrefund
    · rw [if_neg hother, List.append_nil]
      exact h.bounded.two_refunds other
  · intro other first second heq
    have hfound : (other, .shownFailed first) ∈ s.log ∧ ∃ t ∈ s.db.trans, t.id = first ∧ t.status = .failed := by
      rw [refundsOf_moved] at heq
      by_cases hother : other = spotId
      · rw [if_pos hother, hother] at heq
        rw [hother]
        exact hsecond first second heq
      · rw [if_neg hother, List.append_nil] at heq
        exact h.bounded.second_after_failure other first second heq
    obtain ⟨hshown, t, ht, hfailed⟩ := hfound
    exact ⟨mem_moved_log.mpr (Or.inl hshown), t, htrans ▸ ht, hfailed⟩
  · intro other policy hmem
    by_cases hother : other = spotId
    · rw [hother] at hmem ⊢
      exact haccepted policy hmem
    · have hold : (other, .accepted policy) ∈ s.log := by simpa [hother] using mem_moved_log.mp hmem
      exact (hpolicy other hother).trans (h.bounded.first_snapshot other policy hold)
  · intro other transId amount feeAddress hmem
    have hfound : ∃ policy, (other, .accepted policy) ∈ s.log ∧ amount ≤ policy.feeAmount ∧
        feeAddress = policy.feeAddress := by
      rcases mem_moved_log.mp hmem with hold | ⟨hother, hnew⟩
      · exact h.bounded.fee_as_recorded other transId amount feeAddress hold
      · rw [hother]
        exact hrecorded transId amount feeAddress hnew
    obtain ⟨policy, hpol, hrest⟩ := hfound
    exact ⟨policy, mem_moved_log.mpr (Or.inl hpol), hrest⟩

/-- A worker that sends nothing. -/
lemma Sound.quiet (h : s.Sound) (htrans : db'.trans = s.db.trans) (hseq : db'.transSeq = s.db.transSeq)
    (hpolicy : ∀ other, other ≠ spotId → db'.cancellationPolicy other = s.db.cancellationPolicy other)
    (hquiet : ∀ event ∈ events, event.feeOf? = none ∧ event.refundOf? = none)
    (haccepted : ∀ policy, (spotId, .accepted policy) ∈ (s.moved spotId db' next events).log →
      db'.cancellationPolicy spotId = some policy)
    (hstage : ∀ stage, next = some stage → (s.moved spotId db' next events).StageSound spotId stage) :
    (s.moved spotId db' next events).Sound := by
  have hfees : events.filterMap CancellationEvent.feeOf? = [] :=
    List.filterMap_eq_nil_iff.mpr fun event he => (hquiet event he).1
  have hrefunds : events.filterMap CancellationEvent.refundOf? = [] :=
    List.filterMap_eq_nil_iff.mpr fun event he => (hquiet event he).2
  apply h.move htrans hseq hpolicy _ _ _ _ _ _ haccepted _ hstage
  · rw [hfees]
    exact fun _ hmem => absurd hmem List.not_mem_nil
  · rw [hfees, List.append_nil]
    exact h.bounded.one_fee spotId
  · rw [hrefunds]
    exact fun _ hmem => absurd hmem List.not_mem_nil
  · rw [hrefunds, List.append_nil]
    exact h.refunds_nodup spotId
  · rw [hrefunds, List.append_nil]
    exact h.bounded.two_refunds spotId
  · rw [hrefunds, List.append_nil]
    exact h.bounded.second_after_failure spotId
  · intro transId amount feeAddress hmem
    have hnone := (hquiet _ hmem).1
    simp [CancellationEvent.feeOf?] at hnone

/-- A worker that neither sends nor writes the policy. -/
lemma Sound.idle (h : s.Sound) (htrans : db'.trans = s.db.trans) (hseq : db'.transSeq = s.db.transSeq)
    (hpolicy : db'.cancellationPolicy = s.db.cancellationPolicy)
    (hstage : ∀ stage, next = some stage → (s.moved spotId db' next []).StageSound spotId stage) :
    (s.moved spotId db' next []).Sound := by
  apply h.quiet htrans hseq (fun other _ => congrFun hpolicy other)
  · exact fun event hmem => absurd hmem List.not_mem_nil
  · intro policy hmem
    have hold : (spotId, .accepted policy) ∈ s.log := by simpa using mem_moved_log.mp hmem
    exact (congrFun hpolicy spotId).trans (h.bounded.first_snapshot spotId policy hold)
  · exact hstage

end Moves

section Sends

variable {db' : Db P} {next : Option CancellationStage} {transactions : List Trans} {row : NewTrans} {transId : ℕ}

/-- A leg that goes in behind the unique index meets only failed rows of its kind, and the guard knows those. -/
lemma inserted_among_seen {type : TransType} (honce : type.oncePerSpot = true)
    (hcreate : s.db.createTransaction row = (db', .ok transId)) (htype : row.type = type)
    (hspot : row.spotId = some spotId) (hseen : FailedSeen s.db spotId type transactions) {other : ℕ}
    (hleg : s.HasLeg spotId type other) :
    (∃ seen ∈ transactions, seen.id = other ∧ seen.type = type ∧ seen.status = .failed) ∧
      ∃ t ∈ s.db.trans, t.id = other ∧ t.status = .failed := by
  obtain ⟨-, -, -, htwin⟩ := createTransaction_ok hcreate
  obtain ⟨t, ht, hid, hkind, hof⟩ := hleg
  have hfailed : t.status = .failed := by
    by_contra hactive
    have hblocked : row.activeTwin t = true := by
      simp [NewTrans.activeTwin, hkind, htype, hactive, honce, hspot, hof]
    rw [htwin t ht] at hblocked
    cases hblocked
  obtain ⟨seen, hmem, hseenid, hseentype, hseenstatus⟩ := hseen t ht hof hkind hfailed
  exact ⟨⟨seen, hmem, hseenid.trans hid, hseentype, hseenstatus⟩, t, ht, hid, hfailed⟩

lemma GuardPassed.no_failed_fee (h : s.GuardPassed spotId transactions) :
    ∀ t ∈ transactions, t.type = .platFee → t.status ≠ .failed := by
  rcases h with hnone | ⟨refund, hrefund, -⟩
  · intro t ht htype hstatus
    have hmem : t ∈ failedCancellationLegs transactions :=
      mem_failedCancellationLegs.mpr ⟨ht, by simp [Trans.isCancellationLeg, htype], hstatus⟩
    rw [hnone] at hmem
    exact absurd hmem List.not_mem_nil
  · exact (singleRetryableFailedRefund_eq_some hrefund).2.2.2.2

lemma GuardPassed.failed_refund (h : s.GuardPassed spotId transactions) {t : Trans} (ht : t ∈ transactions)
    (htype : t.type = .cancelSpot) (hstatus : t.status = .failed) :
    singleRetryableFailedRefund transactions = some t ∧ (spotId, .shownFailed t.id) ∈ s.log := by
  rcases h with hnone | ⟨refund, hrefund, hshown⟩
  · have hmem : t ∈ failedCancellationLegs transactions :=
      mem_failedCancellationLegs.mpr ⟨ht, by simp [Trans.isCancellationLeg, htype], hstatus⟩
    rw [hnone] at hmem
    exact absurd hmem List.not_mem_nil
  · have hsame := (singleRetryableFailedRefund_eq_some hrefund).2.2.2.1 t ht htype
    rw [hsame]
    exact ⟨hrefund, hshown⟩

lemma created_leg {type : TransType} (hcreate : s.db.createTransaction row = (db', .ok transId))
    (htype : row.type = type) (hspot : row.spotId = some spotId) :
    HasLeg { s with db := db' } spotId type transId := by
  obtain ⟨hid, hdb, -, -⟩ := createTransaction_ok hcreate
  subst hdb hid
  exact ⟨_, List.mem_append_right _ (List.mem_singleton_self _), rfl, htype, hspot⟩

/-- The fee leg is the Spot's first. -/
lemma Sound.sendFee {lease : CancellationLease} {job : CancellationJob} (h : s.Sound)
    (hsending : s.Sending spotId transactions lease) (hamount : job.feeAmount ≤ lease.policy.feeAmount)
    (hseen : FailedSeen s.db spotId .platFee transactions)
    (hcreate : s.db.createTransaction row = (db', .ok transId)) (htype : row.type = .platFee)
    (hspot : row.spotId = some spotId)
    (hstage : ∀ stage, next = some stage →
      (s.moved spotId db' next [.fee transId job.feeAmount lease.policy.feeAddress]).StageSound spotId stage) :
    (s.moved spotId db' next [.fee transId job.feeAmount lease.policy.feeAddress]).Sound := by
  have hout : OutsideStep s.db db' := (Inserts.made (p := fun _ => True) hcreate trivial).outsideStep h.keys h.fresh
  have hfirst : s.feesOf spotId = [] := by
    apply List.eq_nil_iff_forall_not_mem.mpr
    intro other hother
    obtain ⟨⟨seen, hmem, -, hkind, hfailed⟩, -⟩ :=
      inserted_among_seen rfl hcreate htype hspot hseen (h.fee_rows spotId other hother)
    exact hsending.1.no_failed_fee seen hmem hkind hfailed
  have hsound := h.outside hout
  change (moved { s with db := db' } spotId db' next
    [.fee transId job.feeAmount lease.policy.feeAddress]).Sound
  apply hsound.move rfl rfl (fun _ _ => rfl)
  · intro other hother
    rw [List.mem_singleton.mp hother]
    exact created_leg hcreate htype hspot
  · change (s.feesOf spotId ++ [transId]).length ≤ 1
    rw [hfirst]
    exact le_refl _
  · exact fun _ hmem => absurd hmem List.not_mem_nil
  · change (s.refundsOf spotId ++ []).Nodup
    rw [List.append_nil]
    exact h.refunds_nodup spotId
  · change (s.refundsOf spotId ++ []).length ≤ 2
    rw [List.append_nil]
    exact h.bounded.two_refunds spotId
  · intro first second heq
    exact hsound.bounded.second_after_failure spotId first second ((List.append_nil _).symm.trans heq)
  · intro policy hmem
    have hold : (spotId, .accepted policy) ∈ s.log := by simpa using mem_moved_log.mp hmem
    exact hsound.bounded.first_snapshot spotId policy hold
  · intro other amount feeAddress hmem
    cases List.mem_singleton.mp hmem
    exact ⟨lease.policy, hsending.2, hamount, rfl⟩
  · exact hstage

/-- The refund leg is the Spot's first, or its second after one the chain showed to have failed. -/
lemma Sound.sendRefund {lease : CancellationLease} (h : s.Sound)
    (hsending : s.Sending spotId transactions lease)
    (hseen : FailedSeen s.db spotId .cancelSpot transactions)
    (hcreate : s.db.createTransaction row = (db', .ok transId)) (htype : row.type = .cancelSpot)
    (hspot : row.spotId = some spotId)
    (hstage : ∀ stage, next = some stage →
      (s.moved spotId db' next [.refund transId]).StageSound spotId stage) :
    (s.moved spotId db' next [.refund transId]).Sound := by
  have hout : OutsideStep s.db db' := (Inserts.made (p := fun _ => True) hcreate trivial).outsideStep h.keys h.fresh
  have hbefore : ∀ other ∈ s.refundsOf spotId, ∃ refund,
      singleRetryableFailedRefund transactions = some refund ∧ refund.id = other ∧
        (spotId, .shownFailed other) ∈ s.log ∧ ∃ t ∈ s.db.trans, t.id = other ∧ t.status = .failed := by
    intro other hother
    obtain ⟨⟨seen, hmem, rfl, hkind, hfailed⟩, hrow⟩ :=
      inserted_among_seen rfl hcreate htype hspot hseen (h.refund_rows spotId other hother)
    obtain ⟨hsingle, hshown⟩ := hsending.1.failed_refund hmem hkind hfailed
    exact ⟨seen, hsingle, rfl, hshown, hrow⟩
  have hone : (s.refundsOf spotId).length ≤ 1 := by
    by_contra hmany
    obtain ⟨a, b, rest, hrefunds⟩ : ∃ a b rest, s.refundsOf spotId = a :: b :: rest := by
      match hlist : s.refundsOf spotId with
      | [] => simp [hlist] at hmany
      | [_] => simp [hlist] at hmany
      | a :: b :: rest => exact ⟨a, b, rest, rfl⟩
    have hnodup := h.refunds_nodup spotId
    rw [hrefunds] at hnodup hbefore
    obtain ⟨refund, hsingle, hid, -⟩ := hbefore a (by simp)
    obtain ⟨refund', hsingle', hid', -⟩ := hbefore b (by simp)
    rw [hsingle] at hsingle'
    cases hsingle'
    have hsame : a = b := hid.symm.trans hid'
    simp [hsame] at hnodup
  have hfresh : transId ∉ s.refundsOf spotId := by
    intro hmem
    obtain ⟨t, ht, hid, -⟩ := h.refund_rows spotId transId hmem
    have hle := h.fresh t ht
    obtain ⟨hnew, -⟩ := createTransaction_ok hcreate
    omega
  have hsound := h.outside hout
  change (moved { s with db := db' } spotId db' next [.refund transId]).Sound
  apply hsound.move rfl rfl (fun _ _ => rfl)
  · exact fun _ hmem => absurd hmem List.not_mem_nil
  · change (s.feesOf spotId ++ []).length ≤ 1
    rw [List.append_nil]
    exact h.bounded.one_fee spotId
  · intro other hother
    rw [List.mem_singleton.mp hother]
    exact created_leg hcreate htype hspot
  · change (s.refundsOf spotId ++ [transId]).Nodup
    apply List.nodup_append.mpr
    refine ⟨h.refunds_nodup spotId, List.nodup_singleton _, ?_⟩
    intro a ha b hb heq
    rw [List.mem_singleton.mp hb] at heq
    exact hfresh (heq ▸ ha)
  · change (s.refundsOf spotId ++ [transId]).length ≤ 2
    rw [List.length_append, List.length_singleton]
    omega
  · intro first second heq
    have heq : s.refundsOf spotId ++ [transId] = [first] ++ [second] := heq
    obtain ⟨hrefunds, -⟩ := List.append_inj' heq rfl
    have hmem : first ∈ s.refundsOf spotId := by
      rw [hrefunds]
      exact List.mem_singleton_self _
    obtain ⟨-, -, -, hshown, hfailed⟩ := hbefore first hmem
    exact ⟨hshown, failedRow_kept h.keys (h.refund_rows spotId first hmem) hout hfailed⟩
  · intro policy hmem
    have hold : (spotId, .accepted policy) ∈ s.log := by simpa using mem_moved_log.mp hmem
    exact hsound.bounded.first_snapshot spotId policy hold
  · intro other amount feeAddress hmem
    cases List.mem_singleton.mp hmem
  · exact hstage

end Sends

section Run

variable {cfg : Settings P}

lemma resume_eq {stage : CancellationStage} {answer : CancellationAnswer} {db' : Db P}
    {next : Option CancellationStage} {events : List CancellationEvent}
    (h : advance cfg s.db spotId answer stage = (db', next, events)) :
    resume cfg s spotId answer stage = s.moved spotId db' next events := by
  rw [CancellationRun.resume, h]

/-- What a worker knows survives a step that logs nothing and leaves the policy. -/
lemma StageSound.moved {stage : CancellationStage} {db' : Db P} {next : Option CancellationStage}
    (h : s.StageSound spotId stage) (hpolicy : db'.cancellationPolicy = s.db.cancellationPolicy) :
    (s.moved spotId db' next []).StageSound spotId stage := by
  apply h.frame
  · intro event
    rw [mem_moved_log]
    simp
  · exact congrFun hpolicy spotId

/-- A step to a stage the worker is already entitled to. -/
lemma Sound.goesOn {stage next : CancellationStage} {answer : CancellationAnswer} {db' : Db P} (h : s.Sound)
    (hadv : advance cfg s.db spotId answer stage = (db', some next, [])) (hnext : s.StageSound spotId next)
    (htrans : db'.trans = s.db.trans) (hseq : db'.transSeq = s.db.transSeq)
    (hpolicy : db'.cancellationPolicy = s.db.cancellationPolicy) :
    (resume cfg s spotId answer stage).Sound := by
  rw [resume_eq hadv]
  apply h.idle htrans hseq hpolicy
  intro stage' hstage
  cases hstage
  exact hnext.moved hpolicy

/-- The worker returns and releases the lock. -/
lemma Sound.returns {stage : CancellationStage} {answer : CancellationAnswer} {db' : Db P} (h : s.Sound)
    (hadv : advance cfg s.db spotId answer stage = (db', none, []))
    (htrans : db'.trans = s.db.trans) (hseq : db'.transSeq = s.db.transSeq)
    (hpolicy : db'.cancellationPolicy = s.db.cancellationPolicy) :
    (resume cfg s spotId answer stage).Sound := by
  rw [resume_eq hadv]
  apply h.idle htrans hseq hpolicy
  intro stage' hstage
  cases hstage

lemma GuardPassed.moved {transactions : List Trans} {db' : Db P} {next : Option CancellationStage}
    {events : List CancellationEvent} (h : s.GuardPassed spotId transactions) :
    (s.moved spotId db' next events).GuardPassed spotId transactions := by
  rcases h with hnone | ⟨refund, hrefund, hshown⟩
  · exact Or.inl hnone
  · exact Or.inr ⟨refund, hrefund, mem_moved_log.mpr (Or.inl hshown)⟩

lemma accepted_of_moved {db' : Db P} {next : Option CancellationStage} {policy : CancellationPolicy}
    {events : List CancellationEvent} (hnone : ∀ event ∈ events, ∀ policy, event ≠ .accepted policy)
    (hmem : (spotId, .accepted policy) ∈ (s.moved spotId db' next events).log) :
    (spotId, .accepted policy) ∈ s.log := by
  rcases mem_moved_log.mp hmem with hold | ⟨-, hnew⟩
  · exact hold
  · exact absurd rfl (hnone _ hnew policy)

lemma Sound.askChain (h : s.Sound) (req : CancellationRequest) (transactions : List Trans)
    (answer : CancellationAnswer) : (resume cfg s spotId answer (.askChain req transactions)).Sound := by
  have hunproven : s.StageSound spotId (.readGuard req transactions false) := fun hproven => by cases hproven
  cases hrefund : singleRetryableFailedRefund transactions with
  | none =>
    have hadv : advance cfg s.db spotId answer (.askChain req transactions) =
        (s.db, some (.readGuard req transactions false), []) := by
      simp only [advance, hrefund]
    exact h.goesOn hadv hunproven rfl rfl rfl
  | some refund =>
    by_cases hfailed : failedRefundIsDefinitivelyFailed cfg refund answer.chain = true
    · have hadv : advance cfg s.db spotId answer (.askChain req transactions) =
          (s.db, some (.readGuard req transactions true), [.shownFailed refund.id]) := by
        simp only [advance, hrefund, hfailed, if_true]
      rw [resume_eq hadv]
      apply h.quiet rfl rfl (fun _ _ => rfl)
      · intro event hmem
        rw [List.mem_singleton.mp hmem]
        exact ⟨rfl, rfl⟩
      · intro policy hmem
        apply h.bounded.first_snapshot spotId policy
        exact accepted_of_moved (fun event hevent => by simp [List.mem_singleton.mp hevent]) hmem
      · intro stage hstage
        cases hstage
        exact fun _ => ⟨refund, hrefund, mem_moved_log.mpr (Or.inr ⟨rfl, List.mem_singleton_self _⟩)⟩
    · have hadv : advance cfg s.db spotId answer (.askChain req transactions) =
          (s.db, some (.readGuard req transactions false), []) := by
        simp only [advance, hrefund, hfailed]
        rfl
      exact h.goesOn hadv hunproven rfl rfl rfl

lemma Sound.readGuard {req : CancellationRequest} {transactions : List Trans} {failureProven : Bool} (h : s.Sound)
    (hproven : s.StageSound spotId (.readGuard req transactions failureProven)) (answer : CancellationAnswer) :
    (resume cfg s spotId answer (.readGuard req transactions failureProven)).Sound := by
  have hnext : s.StageSound spotId (.checkLegs req transactions failureProven) := hproven
  cases hguard : s.db.cancellationGuard spotId with
  | none =>
    have hadv : advance cfg s.db spotId answer (.readGuard req transactions failureProven) =
        (s.db, some (.checkLegs req transactions failureProven), []) := by
      simp only [advance, hguard]
    exact h.goesOn hadv hnext rfl rfl rfl
  | some guard =>
    by_cases hrecoverable : guard = .blocked retryableFailedRefundGuardReason ∧ failureProven = true
    · have hadv : advance cfg s.db spotId answer (.readGuard req transactions failureProven) =
          (s.db.releaseGuard spotId, some (.checkLegs req transactions failureProven), []) := by
        simp only [advance, hguard]
        exact if_pos hrecoverable
      exact h.goesOn hadv hnext rfl rfl rfl
    · have hadv : advance cfg s.db spotId answer (.readGuard req transactions failureProven) = (s.db, none, []) := by
        simp only [advance, hguard]
        exact if_neg hrecoverable
      exact h.returns hadv rfl rfl rfl

lemma Sound.checkLegs {req : CancellationRequest} {transactions : List Trans} {failureProven : Bool} (h : s.Sound)
    (hproven : s.StageSound spotId (.checkLegs req transactions failureProven)) (answer : CancellationAnswer) :
    (resume cfg s spotId answer (.checkLegs req transactions failureProven)).Sound := by
  by_cases hblocked : failedCancellationLegs transactions ≠ [] ∧ failureProven = false
  · have hadv : advance cfg s.db spotId answer (.checkLegs req transactions failureProven) =
        (s.db.blockGuard spotId retryableFailedRefundGuardReason, none, []) := by
      simp only [advance]
      exact if_pos hblocked
    exact h.returns hadv rfl rfl rfl
  · have hadv : advance cfg s.db spotId answer (.checkLegs req transactions failureProven) =
        (s.db, some (.fixPolicy req transactions), []) := by
      simp only [advance]
      exact if_neg hblocked
    have hpassed : s.StageSound spotId (.fixPolicy req transactions) := by
      by_cases hlegs : failedCancellationLegs transactions = []
      · exact Or.inl hlegs
      · cases failureProven with
        | false => exact absurd ⟨hlegs, rfl⟩ hblocked
        | true => exact Or.inr (hproven rfl)
    exact h.goesOn hadv hpassed rfl rfl rfl

lemma Sound.fixPolicy {req : CancellationRequest} {transactions : List Trans} (h : s.Sound)
    (hpassed : s.GuardPassed spotId transactions) (answer : CancellationAnswer) :
    (resume cfg s spotId answer (.fixPolicy req transactions)).Sound := by
  cases hpolicy : s.db.cancellationPolicy spotId with
  | some policy =>
    have hadv : advance cfg s.db spotId answer (.fixPolicy req transactions) =
        (s.db, some (.acquireGuard transactions ⟨spotId, policy, false⟩), []) := by
      simp only [advance, hpolicy]
    have hleased : s.Leased spotId ⟨spotId, policy, false⟩ := ⟨hpolicy, fun hcreated => by cases hcreated⟩
    have hnext : s.StageSound spotId (.acquireGuard transactions ⟨spotId, policy, false⟩) := ⟨hpassed, hleased⟩
    exact h.goesOn hadv hnext rfl rfl rfl
  | none =>
    -- no request has been accepted yet: an accepted one has left its policy
    have hnot : s.NotAccepted spotId := by
      intro policy hmem
      have hstored := h.bounded.first_snapshot spotId policy hmem
      rw [hpolicy] at hstored
      cases hstored
    cases haddress : cfg.normaliseNimiqAddress req.feeAddress with
    | error message =>
      have hadv : advance cfg s.db spotId answer (.fixPolicy req transactions) = (s.db, none, []) := by
        simp only [advance, hpolicy, haddress]
      exact h.returns hadv rfl rfl rfl
    | ok feeAddress =>
      have hadv : advance cfg s.db spotId answer (.fixPolicy req transactions) =
          (s.db.setPolicy spotId (some ⟨req.cancellationFee, feeAddress⟩),
            some (.acquireGuard transactions ⟨spotId, ⟨req.cancellationFee, feeAddress⟩, true⟩), []) := by
        simp only [advance, hpolicy, haddress]
      have hold : ∀ {db' : Db P} {next : Option CancellationStage} {policy},
          (spotId, .accepted policy) ∉ (s.moved spotId db' next []).log := fun hmem =>
        hnot _ (accepted_of_moved (fun event hevent => absurd hevent List.not_mem_nil) hmem)
      rw [resume_eq hadv]
      apply Sound.quiet h
      · rfl
      · rfl
      · intro other hother
        exact Function.update_of_ne hother _ _
      · exact fun event hmem => absurd hmem List.not_mem_nil
      · exact fun policy hmem => absurd hmem hold
      · intro stage hstage
        cases hstage
        exact ⟨hpassed.moved, Function.update_self _ _ _, fun _ policy => hold⟩

lemma Sound.acquireGuard {transactions : List Trans} {lease : CancellationLease} (h : s.Sound)
    (hstage : s.StageSound spotId (.acquireGuard transactions lease)) (answer : CancellationAnswer) :
    (resume cfg s spotId answer (.acquireGuard transactions lease)).Sound := by
  have hnext : s.StageSound spotId (.submit transactions lease) := hstage
  cases hguard : s.db.cancellationGuard spotId with
  | some guard =>
    have hadv : advance cfg s.db spotId answer (.acquireGuard transactions lease) = (s.db, none, []) := by
      simp only [advance, hguard]
    exact h.returns hadv rfl rfl rfl
  | none =>
    have hadv : advance cfg s.db spotId answer (.acquireGuard transactions lease) =
        (s.db.setGuard spotId (some (.processing "cancellation send started")),
          some (.submit transactions lease), []) := by
      simp only [advance, hguard]
    exact h.goesOn hadv hnext rfl rfl rfl

/-- The submitter accepts the request under the recorded policy. -/
lemma Sound.accept {next : Option CancellationStage} {lease : CancellationLease} {spots : List (Spot P)}
    (h : s.Sound) (hleased : s.Leased spotId lease)
    (hstage : ∀ stage, next = some stage →
      (s.moved spotId { s.db with spots := spots } next [.accepted lease.policy]).StageSound spotId stage) :
    (s.moved spotId { s.db with spots := spots } next [.accepted lease.policy]).Sound := by
  apply Sound.quiet h _ _ _ _ _ hstage
  · rfl
  · rfl
  · exact fun _ _ => rfl
  · intro event hmem
    rw [List.mem_singleton.mp hmem]
    exact ⟨rfl, rfl⟩
  · intro policy hmem
    rcases mem_moved_log.mp hmem with hold | ⟨-, hnew⟩
    · exact h.bounded.first_snapshot spotId policy hold
    · cases List.mem_singleton.mp hnew
      exact hleased.1

lemma Sound.submit {transactions : List Trans} {lease : CancellationLease} (h : s.Sound)
    (hpassed : s.GuardPassed spotId transactions) (hleased : s.Leased spotId lease) (answer : CancellationAnswer) :
    (resume cfg s spotId answer (.submit transactions lease)).Sound := by
  have hwrites := submitSpotCancellationTransactions_writes cfg s.db spotId lease.policy.feeAmount
  rcases houtcome : submitSpotCancellationTransactions cfg s.db spotId lease.policy.feeAmount with ⟨db', e | result⟩
  · rw [houtcome] at hwrites
    obtain ⟨⟨spots, hspots⟩, -⟩ := hwrites
    have hspots : db' = { s.db with spots := spots } := hspots
    have hadv : advance cfg s.db spotId answer (.submit transactions lease) =
        (db', some (if e.isValueError then .refused lease else .finish (some (raisedAfterLease e))), []) := by
      simp only [advance, houtcome]
    have hnext : s.StageSound spotId
        (if e.isValueError then .refused lease else .finish (some (raisedAfterLease e))) := by
      by_cases hvalue : e.isValueError = true
      · rw [if_pos hvalue]
        exact hleased.2
      · rw [if_neg hvalue]
        trivial
    subst hspots
    exact h.goesOn hadv hnext rfl rfl rfl
  · rw [houtcome] at hwrites
    obtain ⟨⟨spots, hspots⟩, hjob⟩ := hwrites
    have hspots : db' = { s.db with spots := spots } := hspots
    subst hspots
    cases result with
    | deferred reason =>
      have hadv : advance cfg s.db spotId answer (.submit transactions lease) =
          ({ s.db with spots := spots }, some (.finish none), [.accepted lease.policy]) := by
        simp only [advance, houtcome]
      rw [resume_eq hadv]
      apply h.accept hleased
      intro stage hstage
      cases hstage
      trivial
    | cancelled =>
      have hadv : advance cfg s.db spotId answer (.submit transactions lease) =
          ({ s.db with spots := spots }, some (.finish none), [.accepted lease.policy]) := by
        simp only [advance, houtcome]
      rw [resume_eq hadv]
      apply h.accept hleased
      intro stage hstage
      cases hstage
      trivial
    | fixed job =>
      have hadv : advance cfg s.db spotId answer (.submit transactions lease) =
          ({ s.db with spots := spots }, some (.sendFee transactions lease job), [.accepted lease.policy]) := by
        simp only [advance, houtcome]
      rw [resume_eq hadv]
      apply h.accept hleased
      intro stage hstage
      cases hstage
      exact ⟨⟨hpassed.moved, mem_moved_log.mpr (Or.inr ⟨rfl, List.mem_singleton_self _⟩)⟩, hjob job rfl⟩

lemma Sound.feeStage {transactions : List Trans} {lease : CancellationLease} {job : CancellationJob} (h : s.Sound)
    (hstage : s.StageSound spotId (.sendFee transactions lease job))
    (hseen : FailedSeen s.db spotId .platFee transactions) (answer : CancellationAnswer) :
    (resume cfg s spotId answer (.sendFee transactions lease job)).Sound := by
  obtain ⟨hsending, hamount⟩ := hstage
  by_cases hdeferred : 0 < job.refundAmount ∧ answer.refundAddress.isNone = true
  · have hadv : advance cfg s.db spotId answer (.sendFee transactions lease job) =
        (s.db, some (.finish none), []) := by
      simp only [advance]
      exact if_pos hdeferred
    exact h.goesOn hadv trivial rfl rfl rfl
  have hnext : s.StageSound spotId (.sendRefund transactions lease job (answer.refundAddress.getD "")) := hsending
  by_cases hnone : job.feeAmount = 0
  · have hadv : advance cfg s.db spotId answer (.sendFee transactions lease job) =
        (s.db, some (.sendRefund transactions lease job (answer.refundAddress.getD "")), []) := by
      simp only [advance, hnone, if_true]
      exact if_neg hdeferred
    exact h.goesOn hadv hnext rfl rfl rfl
  have hinserts : Inserts (NewTrans.IsLegOf .platFee spotId answer.txHash) s.db
      (submitPlatformFeeTransaction cfg s.db spotId job.feeAmount lease.policy.feeAddress answer.txHash) :=
    submitPlatformFeeTransaction_inserts spotId job.feeAmount lease.policy.feeAddress answer.txHash
  rcases houtcome : submitPlatformFeeTransaction cfg s.db spotId job.feeAmount lease.policy.feeAddress
      answer.txHash with ⟨db', e | transId⟩
  · have hadv : advance cfg s.db spotId answer (.sendFee transactions lease job) =
        (db', some (.finish (blockForRefusedLeg e)), []) := by
      simp only [advance, hnone, houtcome, if_false]
      exact if_neg hdeferred
    rw [houtcome] at hinserts
    cases hinserts
    exact h.goesOn hadv trivial rfl rfl rfl
  · have hadv : advance cfg s.db spotId answer (.sendFee transactions lease job) =
        (db', some (if answer.sent then .sendRefund transactions lease job (answer.refundAddress.getD "")
          else .finish (some ambiguousSendReason)),
          [.fee transId job.feeAmount lease.policy.feeAddress]) := by
      simp only [advance, hnone, houtcome, if_false]
      exact if_neg hdeferred
    rw [houtcome] at hinserts
    cases hinserts with
    | made hcreate hrow =>
      rw [resume_eq hadv]
      apply h.sendFee hsending hamount hseen hcreate hrow.1 hrow.2.1
      intro stage hstage
      cases hstage
      by_cases hsent : answer.sent = true
      · rw [if_pos hsent]
        exact ⟨hsending.1.moved, mem_moved_log.mpr (Or.inl hsending.2)⟩
      · rw [if_neg hsent]
        trivial

lemma Sound.refundStage {transactions : List Trans} {lease : CancellationLease} {job : CancellationJob}
    {refundAddress : Address} (h : s.Sound) (hsending : s.Sending spotId transactions lease)
    (hseen : FailedSeen s.db spotId .cancelSpot transactions) (answer : CancellationAnswer) :
    (resume cfg s spotId answer (.sendRefund transactions lease job refundAddress)).Sound := by
  by_cases hnone : job.refundAmount = 0
  · have hadv : advance cfg s.db spotId answer (.sendRefund transactions lease job refundAddress) =
        (s.db, some (.finish none), []) := by
      simp only [advance]
      exact if_pos hnone
    exact h.goesOn hadv trivial rfl rfl rfl
  have hinserts : Inserts (NewTrans.IsLegOf .cancelSpot spotId answer.txHash) s.db
      (submitSpotRefundTransaction cfg s.db spotId job.refundAmount refundAddress answer.txHash) :=
    submitSpotRefundTransaction_inserts spotId job.refundAmount refundAddress answer.txHash
  rcases houtcome : submitSpotRefundTransaction cfg s.db spotId job.refundAmount refundAddress answer.txHash with
    ⟨db', e | transId⟩
  · have hadv : advance cfg s.db spotId answer (.sendRefund transactions lease job refundAddress) =
        (db', some (.finish (blockForRefusedLeg e)), []) := by
      simp only [advance, houtcome]
      exact if_neg hnone
    rw [houtcome] at hinserts
    cases hinserts
    exact h.goesOn hadv trivial rfl rfl rfl
  · have hadv : advance cfg s.db spotId answer (.sendRefund transactions lease job refundAddress) =
        (db', some (.finish (if answer.sent then none else some ambiguousSendReason)), [.refund transId]) := by
      simp only [advance, houtcome]
      exact if_neg hnone
    rw [houtcome] at hinserts
    cases hinserts with
    | made hcreate hrow =>
      rw [resume_eq hadv]
      apply h.sendRefund hsending hseen hcreate hrow.1 hrow.2.1
      intro stage hstage
      cases hstage
      trivial

lemma Sound.deletePolicy (h : s.Sound) (hnot : s.NotAccepted spotId) (answer : CancellationAnswer) :
    (resume cfg s spotId answer .deletePolicy).Sound := by
  have hadv : advance cfg s.db spotId answer .deletePolicy = (s.db.setPolicy spotId none, none, []) := rfl
  rw [resume_eq hadv]
  apply Sound.quiet h
  · rfl
  · rfl
  · intro other hother
    exact Function.update_of_ne hother _ _
  · exact fun event hmem => absurd hmem List.not_mem_nil
  · intro policy hmem
    exact absurd (accepted_of_moved (fun event hevent => absurd hevent List.not_mem_nil) hmem) (hnot policy)
  · intro stage hstage
    cases hstage

/-- One step of a worker. -/
lemma Sound.resume {stage : CancellationStage} {answer : CancellationAnswer} (h : s.Sound)
    (hworker : s.worker spotId = some stage) (hseen : s.SendsSeen (.resume spotId answer)) :
    (resume cfg s spotId answer stage).Sound := by
  have hstage := h.stages spotId stage hworker
  unfold SendsSeen at hseen
  simp only [hworker] at hseen
  cases stage with
  | readLedger req =>
    have hadv : advance cfg s.db spotId answer (.readLedger req) =
        (s.db, some (.askChain req (s.db.getTransactionsBySpot spotId maxLimit)), []) := rfl
    exact h.goesOn hadv trivial rfl rfl rfl
  | askChain req transactions => exact h.askChain req transactions answer
  | readGuard req transactions failureProven => exact h.readGuard hstage answer
  | checkLegs req transactions failureProven => exact h.checkLegs hstage answer
  | fixPolicy req transactions => exact h.fixPolicy hstage answer
  | acquireGuard transactions lease => exact h.acquireGuard hstage answer
  | submit transactions lease => exact h.submit hstage.1 hstage.2 answer
  | refused lease =>
    by_cases hcreated : lease.policyCreated = true
    · have hadv : advance cfg s.db spotId answer (.refused lease) =
          (s.db.releaseGuard spotId, some .deletePolicy, []) := by
        simp only [advance, hcreated, if_true]
      have hnext : s.StageSound spotId .deletePolicy := hstage hcreated
      exact h.goesOn hadv hnext rfl rfl rfl
    · have hadv : advance cfg s.db spotId answer (.refused lease) = (s.db.releaseGuard spotId, none, []) := by
        simp only [advance, hcreated]
        rfl
      exact h.returns hadv rfl rfl rfl
  | deletePolicy => exact h.deletePolicy hstage answer
  | sendFee transactions lease job => exact h.feeStage hstage hseen answer
  | sendRefund transactions lease job refundAddress => exact h.refundStage hstage hseen answer
  | finish block =>
    cases block with
    | none =>
      have hadv : advance cfg s.db spotId answer (.finish none) = (s.db.releaseGuard spotId, none, []) := rfl
      exact h.returns hadv rfl rfl rfl
    | some reason =>
      have hadv : advance cfg s.db spotId answer (.finish (some reason)) =
          (s.db.blockGuard spotId reason, none, []) := rfl
      exact h.returns hadv rfl rfl rfl

lemma Sound.initial {db : Db P} (hkeys : (db.trans.map Trans.id).Nodup) (hfresh : ∀ t ∈ db.trans, t.id ≤ db.transSeq) :
    (initial db).Sound := by
  refine ⟨hkeys, hfresh, ?_, ?_, fun _ => List.nodup_nil, ⟨?_, ?_, ?_, ?_, ?_⟩, ?_⟩
  · exact fun _ _ hmem => absurd hmem List.not_mem_nil
  · exact fun _ _ hmem => absurd hmem List.not_mem_nil
  · exact fun _ => Nat.zero_le 1
  · exact fun _ => Nat.zero_le 2
  · intro spotId first second heq
    cases heq
  · exact fun _ _ hmem => absurd hmem List.not_mem_nil
  · exact fun _ _ _ _ hmem => absurd hmem List.not_mem_nil
  · intro spotId stage hstage
    cases hstage

/-- Workers that do not hold a Spot's lock any more, or only just took it. -/
lemma Sound.workers {worker : ℕ → Option CancellationStage} (h : s.Sound)
    (hworker : ∀ spotId stage, worker spotId = some stage →
      s.worker spotId = some stage ∨ ∃ req, stage = .readLedger req) : Sound { s with worker := worker } := by
  refine ⟨h.keys, h.fresh, h.fee_rows, h.refund_rows, h.refunds_nodup, ⟨h.bounded.one_fee, h.bounded.two_refunds,
    h.bounded.second_after_failure, h.bounded.first_snapshot, h.bounded.fee_as_recorded⟩, ?_⟩
  intro spotId stage hstage
  rcases hworker spotId stage hstage with hold | ⟨req, rfl⟩
  · exact (h.stages spotId stage hold).frame (fun _ => Iff.rfl) rfl
  · trivial

lemma step_sound (s : CancellationRun P) (op : CancellationOp P) (hseen : s.SendsSeen op) (h : s.Sound) :
    (step cfg s op).Sound := by
  cases op with
  | request spotId req =>
    cases hlock : s.worker spotId with
    | some stage =>
      simp only [step, hlock]
      exact h
    | none =>
      simp only [step, hlock]
      apply h.workers
      intro other stage hstage
      by_cases hother : other = spotId
      · rw [hother, Function.update_self] at hstage
        cases hstage
        exact Or.inr ⟨req, rfl⟩
      · rw [Function.update_of_ne hother] at hstage
        exact Or.inl hstage
  | resume spotId answer =>
    cases hworker : s.worker spotId with
    | none =>
      simp only [step, hworker]
      exact h
    | some stage =>
      simp only [step, hworker]
      exact h.resume hworker hseen
  | crash =>
    apply h.workers
    intro spotId stage hstage
    cases hstage
  | failTrans transId =>
    cases hget : s.db.getTransaction transId with
    | none =>
      simp only [step, hget]
      exact h
    | some row =>
      simp only [step, hget]
      exact h.outside ((markTransAsFailed_settled h.keys).outsideStep h.keys h.fresh markTransAsFailed_policy)
  | confirmTrans transId transfer payout =>
    cases hget : s.db.getTransaction transId with
    | none =>
      simp only [step, hget]
      exact h
    | some row =>
      simp only [step, hget]
      obtain ⟨status, hsettled, -⟩ := markTransAsConfirmed_settled transfer payout h.keys
      exact h.outside (hsettled.outsideStep h.keys h.fresh (markTransAsConfirmed_policy transfer payout))
  | sweepBannedSpot spotId amount txHash =>
    exact h.outside ((submitBanSweep_inserts spotId amount txHash).outsideStep h.keys h.fresh)
  | elsewhere db =>
    simp only [step]
    split_ifs with hconstraints
    · exact h.outside (withElsewhere_outsideStep hconstraints.1 hconstraints.2)
    · exact h

/-- As long as no leg fails between the guard's look at the ledger and the send, at most one fee and two
refunds leave a Spot, under one policy. -/
theorem cancellation_broadcasts_bounded (cfg : Settings P) (db : Db P) (hkeys : (db.trans.map Trans.id).Nodup)
    (hfresh : ∀ t ∈ db.trans, t.id ≤ db.transSeq) (ops : List (CancellationOp P))
    (hrun : Admissible (step cfg) SendsSeen (initial db) ops) : (run (step cfg) (initial db) ops).Bounded := by
  have hsound : (run (step cfg) (initial db) ops).Sound :=
    @run_invariant _ _ (step cfg) SendsSeen Sound step_sound _ _ hrun (.initial hkeys hfresh)
  exact hsound.bounded

end Run

section FailureInBetween

/-- A published Spot with one confirmed deposit. -/
def fundedSpot : Db Unit :=
  { (Db.empty : Db Unit) with
    now := 100
    spots := [{
      id := 1, createdBy := 7, depositAddress := "NQ01 SPOT", position := some (), radius := 50, claimDuration := 0
      maxClaimsPerUser := 1, maxTotalClaims := 10, usePassword := false, totalValue := 1000, creationFee := 0
      startsAt := none, endsAt := 1000, status := .published, cancellationStartedAt := none, prizeCount := none }]
    trans := [{
      id := 1, userId := 7, spotId := some 1, claimId := none, type := .fillSpot, amount := 1000
      fromAddress := "NQ02 OWNER", toAddress := "NQ01 SPOT", txHash := "deposit", status := .confirmed
      createdAt := 10 }]
    transSeq := 1 }

def refundTo (txHash : String) : CancellationAnswer := { refundAddress := some "NQ02 OWNER", txHash := txHash }

/-- One attempt from the request to its first send. -/
def attemptUpToSubmit : List (CancellationOp Unit) :=
  .request 1 ⟨100, "NQ07 FEE"⟩ :: List.replicate 7 (.resume 1 {})

def firstAttempt : List (CancellationOp Unit) :=
  attemptUpToSubmit ++ [.resume 1 (refundTo "fee"), .resume 1 (refundTo "refund"), .resume 1 {}]

/-- A second attempt whose guard reads the ledger while the fee is still PENDING. -/
def secondAttempt : List (CancellationOp Unit) :=
  [.request 1 ⟨100, "NQ07 FEE"⟩, .resume 1 {}, .failTrans 2,
    .confirmTrans 3 ⟨"NQ01 SPOT", "NQ02 OWNER", 900⟩ false] ++
    List.replicate 6 (.resume 1 {}) ++ [.resume 1 (refundTo "fee again")]

/-- A fee that fails after the guard has looked is sent a second time. -/
theorem failed_fee_is_sent_again :
    ¬ ∀ (db : Db Unit) (ops : List (CancellationOp Unit)), (db.trans.map Trans.id).Nodup →
      (∀ t ∈ db.trans, t.id ≤ db.transSeq) → (run (step Settings.onePlace) (initial db) ops).Bounded := by
  intro hall
  have hbounded := hall fundedSpot (firstAttempt ++ secondAttempt) (by decide) (by decide)
  have hfees : (run (step Settings.onePlace) (initial fundedSpot) (firstAttempt ++ secondAttempt)).feesOf 1 =
      [2, 4] := by
    decide +kernel
  have hone := hbounded.one_fee 1
  rw [hfees] at hone
  exact absurd hone (by decide)

theorem cancellation_broadcasts_bounded_first_attempt :
    (run (step Settings.onePlace) (initial fundedSpot) firstAttempt).Bounded := by
  apply cancellation_broadcasts_bounded Settings.onePlace fundedSpot (by decide) (by decide) firstAttempt
  refine ⟨trivial, trivial, trivial, trivial, trivial, trivial, trivial, trivial, ?_, ?_, trivial, trivial⟩
  · change FailedSeen _ _ _ _
    unfold FailedSeen
    decide +kernel
  · change FailedSeen _ _ _ _
    unfold FailedSeen
    decide +kernel

end FailureInBetween

end CancellationRun

end NimHunt
