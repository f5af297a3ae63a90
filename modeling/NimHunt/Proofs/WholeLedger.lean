import NimHunt.AdminModeration

/-!
# Decisions over the whole ledger

The remainder refund, the cancellation, its finaliser and the ban sweep all sum one page of a Spot's
rows.  Here is when what they sum is the whole ledger, and what they do when it is not.
-/

namespace NimHunt

open Lib

variable {P : Type}

/-- Confirmed deposits less the confirmed rows of the types a flow deducts. -/
def unspent (deducted : List TransType) (rows : List Trans) : ℕ :=
  total .fillSpot .confirmed rows -
    ((rows.filter fun t => t.type ∈ deducted ∧ t.status = .confirmed).map Trans.amount).sum

/-- What each of the four flows owes the rows of one Spot. -/
structure SeesWholeLedger (cfg : Settings P) (db : Db P) (spotId : ℕ) : Prop where
  refunds : ∀ job, (settleSpotRemainderIfReady cfg db spotId).2 = .prepared job →
    job.amount = unspent [.claim, .creationFee, .remainderRefund] (db.transOfSpot spotId)
  settles : (settleSpotRemainderIfReady cfg db spotId).2 = .noRemainder →
    unspent [.claim, .creationFee, .remainderRefund] (db.transOfSpot spotId) = 0
  fixes : ∀ fee job, (submitSpotCancellationTransactions cfg db spotId fee).2 = .ok (.fixed job) →
    let cancellable := unspent [.claim, .creationFee] (db.transOfSpot spotId)
    job.feeAmount = min fee cancellable - total .platFee .confirmed (db.transOfSpot spotId) ∧
    job.refundAmount =
      cancellable - min fee cancellable - total .cancelSpot .confirmed (db.transOfSpot spotId)
  cancels : ∀ fee, (submitSpotCancellationTransactions cfg db spotId fee).2 = .ok .cancelled →
    unspent [.claim, .creationFee, .cancelSpot, .platFee] (db.transOfSpot spotId) = 0
  finalises : cancellationIsFinal (db.getTransactionsBySpot spotId maxLimit) = true →
    unspent [.claim, .creationFee, .cancelSpot, .platFee] (db.transOfSpot spotId) = 0
  sweeps : ∀ amount, (attemptBannedSpotSweep db spotId).2 = .submit amount →
    amount = unspent [.claim, .creationFee, .remainderRefund, .cancelSpot, .platFee] (db.transOfSpot spotId)
  swept : (attemptBannedSpotSweep db spotId).2 = .swept →
    unspent [.claim, .creationFee, .remainderRefund, .cancelSpot, .platFee] (db.transOfSpot spotId) = 0

/-- The deducted sum, one type at a time. -/
lemma sum_deducted_cons {type : TransType} {types : List TransType} (hnew : type ∉ types) (rows : List Trans) :
    ((rows.filter fun t => t.type ∈ type :: types ∧ t.status = .confirmed).map Trans.amount).sum =
      total type .confirmed rows +
        ((rows.filter fun t => t.type ∈ types ∧ t.status = .confirmed).map Trans.amount).sum := by
  unfold total
  induction rows with
  | nil => rfl
  | cons t rows ih =>
    by_cases hstatus : t.status = .confirmed
    · by_cases htype : t.type = type
      · subst htype
        simp only [List.filter_cons, hstatus, hnew, List.mem_cons, true_or, and_true, decide_true, if_true,
          decide_false, Bool.false_eq_true, if_false, List.map_cons, List.sum_cons] at ih ⊢
        omega
      · by_cases hmem : t.type ∈ types
        · simp only [List.filter_cons, hstatus, htype, hmem, List.mem_cons, or_true, and_true, decide_true, if_true,
            decide_false, Bool.false_eq_true, if_false, List.map_cons, List.sum_cons] at ih ⊢
          omega
        · simpa [List.filter_cons, hstatus, htype, hmem] using ih
    · simpa [List.filter_cons, hstatus] using ih

lemma sum_deducted_nil (rows : List Trans) :
    ((rows.filter fun t => t.type ∈ ([] : List TransType) ∧ t.status = .confirmed).map Trans.amount).sum = 0 := by
  simp

lemma remainderAmount_eq (rows : List Trans) :
    remainderAmount rows = unspent [.claim, .creationFee, .remainderRefund] rows := by
  unfold remainderAmount unspent
  rw [sum_deducted_cons (by decide), sum_deducted_cons (by decide), sum_deducted_cons (by decide),
    sum_deducted_nil]
  omega

lemma remainingCancellableTotal_eq (rows : List Trans) :
    remainingCancellableTotal rows = unspent [.claim, .creationFee] rows := by
  unfold remainingCancellableTotal unspent
  rw [sum_deducted_cons (by decide), sum_deducted_cons (by decide), sum_deducted_nil]
  omega

/-- What is left once the cancellation legs are deducted as well. -/
lemma unspent_cancelled (rows : List Trans) :
    unspent [.claim, .creationFee, .cancelSpot, .platFee] rows =
      remainingCancellableTotal rows - confirmedCancellationTotal rows := by
  unfold remainingCancellableTotal confirmedCancellationTotal unspent
  rw [sum_deducted_cons (by decide), sum_deducted_cons (by decide), sum_deducted_cons (by decide),
    sum_deducted_cons (by decide), sum_deducted_nil]
  omega

lemma financialState_remaining_eq (rows : List Trans) :
    (financialState rows).remaining =
      unspent [.claim, .creationFee, .remainderRefund, .cancelSpot, .platFee] rows := by
  have hrows : (rows.filter fun t => t.type ≠ .fillSpot ∧ t.status = .confirmed) =
      rows.filter fun t => t.type ∈ ([.claim, .creationFee, .remainderRefund, .cancelSpot, .platFee] :
        List TransType) ∧ t.status = .confirmed := by
    refine List.filter_congr fun t _ => ?_
    cases t.type <;> simp
  simp only [financialState, unspent, hrows]

lemma unspent_perm {deducted : List TransType} {xs ys : List Trans} (h : xs.Perm ys) :
    unspent deducted xs = unspent deducted ys := by
  unfold unspent
  rw [total_perm h, ((h.filter _).map _).sum_eq]

section Flows

variable {cfg : Settings P} {db : Db P} {spotId : ℕ}

/-- The remainder flow refunds or settles by the sum of the rows it read. -/
lemma settleRemainderFromLedger_amount {spot : Spot P} {shouldComplete : Bool} {rows : List Trans} :
    (∀ job, (settleRemainderFromLedger cfg db spot shouldComplete rows).2 = .prepared job →
      job.amount = remainderAmount rows) ∧
    ((settleRemainderFromLedger cfg db spot shouldComplete rows).2 = .noRemainder →
      remainderAmount rows = 0) := by
  unfold settleRemainderFromLedger
  by_cases hpending : rows.any Trans.blocksRemainder = true
  · simp [hpending]
  · by_cases hfee : total .creationFee .confirmed rows < spot.creationFee
    · simp [hpending, hfee]
    · by_cases hamount : remainderAmount rows = 0
      · simp [hpending, hfee, hamount]
      · cases hsource : rows.find? fun t =>
            t.type = .fillSpot ∧ t.status = .confirmed ∧ cfg.strip t.fromAddress ≠ "" with
        | none => simp [hpending, hfee, hamount]
        | some source =>
          simp only [hpending, hfee, hamount, if_false, Bool.false_eq_true, reduceCtorEq,
            RemainderResult.prepared.injEq, false_implies, and_true]
          rintro job rfl
          rfl

lemma settleSpotRemainderIfReady_amount :
    (∀ job, (settleSpotRemainderIfReady cfg db spotId).2 = .prepared job →
      job.amount = remainderAmount (db.getTransactionsBySpot spotId maxLimit)) ∧
    ((settleSpotRemainderIfReady cfg db spotId).2 = .noRemainder →
      remainderAmount (db.getTransactionsBySpot spotId maxLimit) = 0) := by
  unfold settleSpotRemainderIfReady
  cases db.getSpot spotId with
  | none => simp
  | some spot =>
    dsimp only
    split_ifs
    all_goals first
      | exact settleRemainderFromLedger_amount
      | simp

/-- A cancellation fixes its sends, or ends the Spot, by the sums of the rows it read. -/
lemma cancelFromLedger_amounts {spot : Spot P} {fee : ℕ} {rows : List Trans} :
    (∀ job, (cancelFromLedger cfg db spot fee rows).2 = .ok (.fixed job) →
      job.feeAmount = (cancellationAmounts fee rows).feeAmount ∧
      job.refundAmount = (cancellationAmounts fee rows).refundAmount) ∧
    ((cancelFromLedger cfg db spot fee rows).2 = .ok .cancelled →
      remainingCancellableTotal rows ≤ confirmedCancellationTotal rows) := by
  unfold cancelFromLedger
  by_cases hunfunded : spot.status = .draft ∧ (!rows.any fun t => t.type = .fillSpot) = true
  · simp [hunfunded]
  by_cases hdeposit : spot.status = .draft ∧ (rows.any fun t => t.type = .fillSpot ∧ t.status = .pending) = true
  · rw [if_neg hunfunded, if_pos hdeposit]
    simp
  by_cases hpending : rows.any Trans.blocksCancellation = true
  · rw [if_neg hunfunded, if_neg hdeposit, if_pos hpending]
    simp
  by_cases hempty : spot.status = .draft ∧ total .fillSpot .confirmed rows = 0
  · rw [if_neg hunfunded, if_neg hdeposit, if_neg hpending, if_pos hempty]
    simp [remainingCancellableTotal, hempty.2]
  rw [if_neg hunfunded, if_neg hdeposit, if_neg hpending, if_neg hempty]
  dsimp only
  split_ifs with hsource hnothing
  · simp
  · simp only [Except.ok.injEq, reduceCtorEq, false_implies, implies_true, true_and, forall_const]
    simp only [cancellationAmounts] at hnothing
    unfold confirmedCancellationTotal
    omega
  · simp only [Except.ok.injEq, CancellationResult.fixed.injEq, reduceCtorEq, false_implies, and_true]
    rintro job rfl
    exact ⟨rfl, rfl⟩

lemma submitSpotCancellationTransactions_amounts {fee : ℕ} :
    (∀ job, (submitSpotCancellationTransactions cfg db spotId fee).2 = .ok (.fixed job) →
      job.feeAmount = (cancellationAmounts fee (db.getTransactionsBySpot spotId maxLimit)).feeAmount ∧
      job.refundAmount = (cancellationAmounts fee (db.getTransactionsBySpot spotId maxLimit)).refundAmount) ∧
    ((submitSpotCancellationTransactions cfg db spotId fee).2 = .ok .cancelled →
      remainingCancellableTotal (db.getTransactionsBySpot spotId maxLimit) ≤
        confirmedCancellationTotal (db.getTransactionsBySpot spotId maxLimit)) := by
  unfold submitSpotCancellationTransactions
  cases db.getSpot spotId with
  | none => simp
  | some spot =>
    dsimp only
    split_ifs
    · simp
    · simp
    · simp
    · simp
    · rw [Outcome.orRollback_snd]
      exact cancelFromLedger_amounts

/-- The sweep submits, or ends, by the sum of the rows it read. -/
lemma attemptBannedSpotSweep_amount :
    (∀ amount, (attemptBannedSpotSweep db spotId).2 = .submit amount →
      amount = (financialState (db.getTransactionsBySpot spotId maxLimit)).remaining) ∧
    ((attemptBannedSpotSweep db spotId).2 = .swept →
      (financialState (db.getTransactionsBySpot spotId maxLimit)).remaining = 0) := by
  unfold attemptBannedSpotSweep
  cases db.getSpot spotId with
  | none => simp
  | some spot =>
    dsimp only
    split_ifs with hbanned hpending hnothing hfee
    · simp
    · simp
    · simp [hnothing]
    · simp
    · simp only [SweepResult.submit.injEq, false_implies, and_true]
      rintro amount rfl
      rfl

/-- A ledger that fits one page is seen whole. -/
lemma seesWholeLedger_of_fits (hfits : (db.transOfSpot spotId).length ≤ maxLimit) :
    SeesWholeLedger cfg db spotId := by
  have hperm : (db.getTransactionsBySpot spotId maxLimit).Perm (db.transOfSpot spotId) := page_perm hfits
  constructor
  · intro job hjob
    rw [settleSpotRemainderIfReady_amount.1 job hjob, remainderAmount_eq, unspent_perm hperm]
  · intro hsettled
    rw [← unspent_perm hperm, ← remainderAmount_eq]
    exact settleSpotRemainderIfReady_amount.2 hsettled
  · intro fee job hjob
    obtain ⟨hfee, hrefund⟩ := submitSpotCancellationTransactions_amounts.1 job hjob
    simp only [cancellationAmounts, remainingCancellableTotal_eq, unspent_perm hperm, total_perm hperm]
      at hfee hrefund
    exact ⟨hfee, hrefund⟩
  · intro fee hcancelled
    have hle := submitSpotCancellationTransactions_amounts.2 hcancelled
    rw [← unspent_perm hperm, unspent_cancelled]
    omega
  · intro hfinal
    simp only [cancellationIsFinal, Bool.and_eq_true, decide_eq_true_eq] at hfinal
    rw [← unspent_perm hperm, unspent_cancelled]
    omega
  · intro amount hamount
    rw [attemptBannedSpotSweep_amount.1 amount hamount, financialState_remaining_eq, unspent_perm hperm]
  · intro hswept
    rw [← unspent_perm hperm, ← financialState_remaining_eq]
    exact attemptBannedSpotSweep_amount.2 hswept

end Flows

/-- A banned Spot whose one deposit is followed by `n` sweeps that failed on the chain. -/
def failedSweeps (P : Type) (n : ℕ) : Db P where
  now := 5000
  users := [{ id := 1, status := .active }]
  spots := [bannedSpot P]
  claims := []
  claimCodes := []
  claimCodeAttempts := []
  trans := deposit :: (List.range n).map failedSweep
  claimSeq := 0
  claimCodeSeq := 0
  transSeq := n + 1
  userBindings := []
  locationBehavior := fun _ => none
  locationSuspicion := fun _ => none
where
  bannedSpot (P : Type) : Spot P :=
    { id := 1, createdBy := 1, depositAddress := "NQ07 DEPOSIT", position := none, radius := 100,
      claimDuration := 0, maxClaimsPerUser := 1, maxTotalClaims := 1, usePassword := false,
      totalValue := 50000000, creationFee := 0, startsAt := some 1000, endsAt := 3600,
      status := .banned, cancellationStartedAt := none, prizeCount := none }
  deposit : Trans :=
    { id := 1, userId := 1, spotId := some 1, claimId := none, type := .fillSpot, amount := 50000000,
      fromAddress := "NQ07 OWNER", toAddress := "NQ07 DEPOSIT", txHash := "deposit", status := .confirmed,
      createdAt := 1000 }
  failedSweep (i : ℕ) : Trans :=
    { id := i + 2, userId := 1, spotId := some 1, claimId := none, type := .platFee, amount := 50000000,
      fromAddress := "NQ07 DEPOSIT", toAddress := "NQ07 FEE", txHash := s!"sweep {i}", status := .failed,
      createdAt := 2000 + i }

lemma failedSweeps_trans (n : ℕ) :
    (failedSweeps P n).transOfSpot 1 = failedSweeps.deposit :: (List.range n).map failedSweeps.failedSweep := by
  refine List.filter_eq_self.mpr fun t ht => ?_
  rcases List.mem_cons.mp ht with rfl | ht
  · rfl
  · obtain ⟨i, -, rfl⟩ := List.mem_map.mp ht
    rfl

/-- Once the failed rows fill the page, the deposit is not on it. -/
lemma failedSweeps_page {n : ℕ} (hfull : maxLimit ≤ n) :
    ∀ t ∈ (failedSweeps P n).getTransactionsBySpot 1 maxLimit, t.status = .failed := by
  have hordered : ((failedSweeps P n).transOfSpot 1).Pairwise fun a b => ¬ Trans.Newer a b := by
    rw [failedSweeps_trans, List.pairwise_cons, List.pairwise_map]
    refine ⟨?_, List.pairwise_lt_range.imp ?_⟩
    · intro t ht
      obtain ⟨i, -, rfl⟩ := List.mem_map.mp ht
      simp only [Trans.Newer, failedSweeps.deposit, failedSweeps.failedSweep]
      omega
    · intro i j hlt
      simp only [Trans.Newer, failedSweeps.failedSweep]
      omega
  intro t ht
  rw [Db.getTransactionsBySpot, page_eq_reverse_drop hordered, List.mem_reverse, failedSweeps_trans] at ht
  have hdrop : (failedSweeps.deposit :: (List.range n).map failedSweeps.failedSweep).length -
      clampLimit maxLimit = (n - maxLimit) + 1 := by
    simp only [List.length_cons, List.length_map, List.length_range, clampLimit, maxLimit] at hfull ⊢
    omega
  rw [hdrop, List.drop_succ_cons] at ht
  obtain ⟨i, -, rfl⟩ := List.mem_map.mp (List.mem_of_mem_drop ht)
  rfl

/-- The sweep then reports the Spot swept while the whole deposit is still there. -/
lemma failedSweeps_not_seen (cfg : Settings P) {n : ℕ} (hfull : maxLimit ≤ n) :
    ¬ SeesWholeLedger cfg (failedSweeps P n) 1 := by
  have hfailed := failedSweeps_page (P := P) hfull
  have hnone : ∀ p : Trans → Bool, (∀ t, t.status = .failed → p t = false) →
      ((failedSweeps P n).getTransactionsBySpot 1 maxLimit).filter p = [] := by
    intro p hp
    exact List.filter_eq_nil_iff.mpr fun t ht => by simp [hp t (hfailed t ht)]
  have hstate : financialState ((failedSweeps P n).getTransactionsBySpot 1 maxLimit) = ⟨[], 0, 0, 0⟩ := by
    simp only [financialState, total]
    rw [hnone _ (by simp +contextual), hnone _ (by simp +contextual), hnone _ (by simp +contextual)]
    rfl
  have hspot : (failedSweeps P n).getSpot 1 = some (failedSweeps.bannedSpot P) := rfl
  have hswept : (attemptBannedSpotSweep (failedSweeps P n) 1).2 = .swept := by
    simp [attemptBannedSpotSweep, hspot, failedSweeps.bannedSpot, hstate]
  have hleft : unspent [.claim, .creationFee, .remainderRefund, .cancelSpot, .platFee]
      ((failedSweeps P n).transOfSpot 1) = 50000000 := by
    rw [failedSweeps_trans, unspent, total]
    have hrest : ∀ p : Trans → Bool, (∀ i, p (failedSweeps.failedSweep i) = false) →
        ((List.range n).map failedSweeps.failedSweep).filter p = [] := by
      intro p hp
      refine List.filter_eq_nil_iff.mpr fun t ht => ?_
      obtain ⟨i, -, rfl⟩ := List.mem_map.mp ht
      simp [hp i]
    rw [List.filter_cons, List.filter_cons, hrest _ fun i => rfl, hrest _ fun i => rfl]
    rfl
  intro hsees
  have hzero := hsees.swept hswept
  rw [hleft] at hzero
  omega

/-- For Spots with `n` ledger rows, all four flows decide on the whole ledger exactly when `n` rows
fit the page they read. -/
theorem seesWholeLedger_iff_fits (cfg : Settings P) (n : ℕ) :
    (∀ db spotId, (db.transOfSpot spotId).length = n → SeesWholeLedger cfg db spotId) ↔ n ≤ maxLimit := by
  constructor
  · intro hall
    by_contra hover
    have hlen : ((failedSweeps P (n - 1)).transOfSpot 1).length = n := by
      rw [failedSweeps_trans]
      simp only [List.length_cons, List.length_map, List.length_range]
      omega
    exact failedSweeps_not_seen cfg (by omega) (hall (failedSweeps P (n - 1)) 1 hlen)
  · intro hfits db spotId hlen
    exact seesWholeLedger_of_fits (by omega)

/-- One deposit and 500 failed sweeps. -/
theorem failedSweeps_500_unseen : ¬ SeesWholeLedger Settings.onePlace (failedSweeps Unit 500) 1 :=
  failedSweeps_not_seen Settings.onePlace le_rfl

end NimHunt
