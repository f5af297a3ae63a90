import NimHunt.Proofs.BooksFlows

/-!
# What the flows send

The row each sender inserts, with everything its own transaction checks again, against what was promised when it was
decided.
-/

namespace NimHunt

open Lib Relation

variable {P : Type}

section Promises

variable {cfg : Settings P} {db db' : Db P} {spotId : ℕ}

/-- The account of the Spot keeps enough for the promise. -/
def Db.Honours (db : Db P) (spotId : ℕ) (p : Promise) : Prop :=
  ∃ spot, db.getSpot spotId = some spot ∧ (db.account spot).Honours p

lemma Db.Honours.spot {p : Promise} (h : db.Honours spotId p) : (db.getSpot spotId).isSome = true := by
  obtain ⟨spot, hspot, -⟩ := h
  rw [hspot]
  rfl

/-- Whatever is written, what was promised stays promised. -/
lemma Advances.honours (h : Advances cfg db db') (hbooks : Books db) {p : Promise} (hkept : db.Honours spotId p) :
    db'.Honours spotId p := by
  obtain ⟨spot, hspot, hkept⟩ := hkept
  obtain ⟨spot', hspot', hsteps⟩ := h.accounts.stays spotId spot hspot
  exact ⟨spot', hspot', hsteps.honours (hbooks.sound spotId spot hspot) hkept⟩

end Promises

section Deposits

variable {cfg : Settings P} {db : Db P}

/-- A deposit comes in as PENDING. -/
lemma proceeds_deposit (hbooks : Books db) (userId spotId amount : ℕ) (fromAddress : Address) (txHash : String) :
    Proceeds cfg db
      (RefundAddressSafety.recordSpotDepositTransaction cfg db userId spotId amount fromAddress txHash none).1 := by
  cases hspot : db.getSpot spotId with
  | none =>
    have hsame : (RefundAddressSafety.recordSpotDepositTransaction cfg db userId spotId amount fromAddress txHash
        none).1 = db := by
      unfold RefundAddressSafety.recordSpotDepositTransaction
      cases cfg.normaliseNimiqAddress fromAddress with
      | error message => rfl
      | ok returnAddress =>
        dsimp only
        split_ifs
        · rfl
        · cases hknown : db.trans.find? fun t => sqlLower t.txHash = cfg.lower (cfg.strip txHash) with
          | some existing =>
            dsimp only
            unfold RefundAddressSafety.recordKnownDeposit
            have hother : ¬ (existing.type = .fillSpot ∧ existing.userId = userId ∧ existing.spotId = some spotId) := by
              rintro ⟨-, -, hof⟩
              have hplaced := hbooks.placed existing (List.mem_of_find?_eq_some hknown) spotId hof
              rw [hspot] at hplaced
              cases hplaced
            rw [if_pos hother]
          | none =>
            dsimp only
            unfold RefundAddressSafety.recordNewDeposit
            rw [hspot]
            split_ifs <;> rfl
    rw [hsame]
    exact .refl hbooks
  | some spot =>
    have hid := getSpot_id hspot
    subst hid
    have hwrites : DepositWrites spot.id (cfg.lower (cfg.strip txHash)) db
        (RefundAddressSafety.recordSpotDepositTransaction cfg db userId spot.id amount fromAddress txHash none) :=
      recordSpotDepositTransaction_writes
    have hnumbered := (hwrites.ledgerOnly.write cfg .all).numbered hbooks.numbered
    generalize RefundAddressSafety.recordSpotDepositTransaction cfg db userId spot.id amount fromAddress txHash none =
      outcome at hwrites hnumbered
    cases hwrites with
    | kept hdb _ =>
      rw [hdb] at hnumbered ⊢
      exact .of_frame hbooks hnumbered rfl rfl le_rfl rfl rfl rfl
    | @made rows row mid _ madeId _ hmade hrow hdb _ =>
      have hother : row.type ≠ .claim := by
        rw [hrow.1]
        nofun
      have hinserted : Proceeds cfg db mid := by
        refine proceeds_inserted hbooks hmade hspot hrow.2.1 (fun h => absurd h hother) ?_
        intro t hpending htype _ _
        have hsound := hbooks.sound spot.id spot hspot
        exact ⟨.pushed (hsound.mayPush_deposit hpending (htype.trans hrow.1)), fun h => h⟩
      rw [hdb] at hnumbered ⊢
      exact hinserted.then (.of_frame hinserted.books hnumbered rfl rfl le_rfl rfl rfl rfl)

end Deposits

section Sends

variable {cfg : Settings P} {db : Db P}

/-- What is inserted by a payout, after the gates of its own transaction. -/
structure NewTrans.IsReward (row : NewTrans) (db : Db P) (job : PayoutJob) : Prop where
  type : row.type = .claim
  claimId : row.claimId = some job.claimId
  amount : row.amount = job.amount
  place : ∃ claim spot, db.getClaim job.claimId = some claim ∧ db.getSpot claim.spotId = some spot ∧
    spot.status ≠ .banned ∧ row.spotId = some claim.spotId

lemma submitClaimRewardTransaction_checked (job : PayoutJob) (txHash : String) :
    Inserts (fun row => row.IsReward db job) db (submitClaimRewardTransaction cfg db job txHash) := by
  unfold submitClaimRewardTransaction
  cases hclaim : db.getClaim job.claimId with
  | none => exact .refused _
  | some claim =>
    dsimp only
    cases hspot : db.getSpot claim.spotId with
    | none => exact .refused _
    | some spot =>
      dsimp only
      split
      · exact .refused _
      · exact .refused _
      · apply recordChainSend_inserts
        intro fromAddress toAddress
        rw [guardedCreateClaimTransaction, hclaim]
        dsimp only
        rw [hspot]
        dsimp only
        split_ifs with hbanned
        · exact .refused _
        · rw [Db.createClaimTransaction, hclaim]
          dsimp only
          split_ifs
          · exact .refused _
          · exact createTransaction_inserts ⟨rfl, rfl, rfl, claim, spot, hclaim, hspot, hbanned, rfl⟩

/-- A payout takes its claim's share. -/
lemma proceeds_claimReward (hbooks : Books db) {job : PayoutJob} (hkept : ∀ claim, db.getClaim job.claimId = some claim →
    db.Honours claim.spotId (.reward job.claimId job.amount)) (txHash : String) :
    Proceeds cfg db (submitClaimRewardTransaction cfg db job txHash).1 := by
  have hinserts : Inserts (fun row => row.IsReward db job) db (submitClaimRewardTransaction cfg db job txHash) :=
    submitClaimRewardTransaction_checked job txHash
  generalize submitClaimRewardTransaction cfg db job txHash = outcome at hinserts
  cases hinserts with
  | refused e => exact .refl hbooks
  | made hmade hrow =>
    obtain ⟨claim, spot, hclaim, hspot, hbanned, hof⟩ := hrow.place
    have hid := getSpot_id hspot
    obtain ⟨found, hfound, hhonours⟩ := hkept claim hclaim
    obtain rfl := Option.some.inj (hfound.symm.trans hspot)
    have hpayee := (hhonours hbanned).1
    obtain ⟨hmem, hclaimId⟩ := (Db.getClaim_eq_some hbooks.numbered.keyed).mp hclaim
    refine proceeds_inserted hbooks hmade (hid.symm ▸ hspot) (hid.symm ▸ hof) ?_ ?_
    · intro _
      refine ⟨claim, hmem, hclaimId.symm ▸ hrow.claimId, hid.symm, ?_⟩
      intro hdrawn
      obtain ⟨hcompleted, hprizedraw⟩ : found.status = .completed ∧ found.prizeCount.isSome = true :=
        of_decide_eq_true hdrawn
      have hkind : found.prizeCount ≠ none := Option.isSome_iff_ne_none.mp hprizedraw
      unfold Db.account at hpayee
      simp only [if_neg hkind, if_pos hcompleted] at hpayee
      rw [hclaimId]
      exact List.mem_toFinset.mp hpayee
    · intro t hpending htype hpays hamount
      have hsound := hbooks.sound claim.spotId found hspot
      have hunpaid : ∀ row ∈ (db.account found).rows, row.payee ≠ some job.claimId :=
        unpaid_of_made hmade hrow.type hrow.claimId
      have hmay : (db.account found).MayPush t :=
        hsound.mayPush_payout hpending (htype.trans hrow.type) (hpays.trans hrow.claimId) hbanned
          (hamount.trans hrow.amount ▸ hhonours) hunpaid
      exact ⟨.pushed hmay, fun h => h⟩

/-- What is inserted by a creation fee, after everything is checked again. -/
structure NewTrans.IsCreationFee (row : NewTrans) (db : Db P) (spotId : ℕ) : Prop where
  type : row.type = .creationFee
  ofSpot : row.spotId = some spotId
  due : ∃ spot, db.getSpot spotId = some spot ∧
    (spot.status = .draft ∨ spot.status = .published ∨ spot.status = .completed) ∧
    spot.cancellationStartedAt = none ∧ spot.creationFee ≠ 0 ∧ row.amount = spot.creationFee ∧
    spot.totalValue + spot.creationFee ≤ db.getConfirmedSpotDepositTotal spotId

lemma submitSpotCreationFeeTransaction_checked (spotId amount : ℕ) (txHash : String) :
    Inserts (fun row => row.IsCreationFee db spotId) db
      (submitSpotCreationFeeTransaction cfg db spotId amount txHash) := by
  unfold submitSpotCreationFeeTransaction
  cases hspot : db.getSpot spotId with
  | none => exact .refused _
  | some spot =>
    apply recordChainSend_inserts
    intro fromAddress toAddress
    rw [createSpotCreationFeeTransaction, hspot]
    dsimp only
    by_cases hstatus : spot.status ≠ .draft ∧ spot.status ≠ .published ∧ spot.status ≠ .completed
    · rw [if_pos hstatus]
      exact .refused _
    rw [if_neg hstatus]
    by_cases hmarker : spot.cancellationStartedAt.isSome = true
    · rw [if_pos hmarker]
      exact .refused _
    rw [if_neg hmarker]
    by_cases hamount : spot.creationFee = 0 ∨ amount ≠ spot.creationFee
    · rw [if_pos hamount]
      exact .refused _
    rw [if_neg hamount]
    have hopen : spot.status = .draft ∨ spot.status = .published ∨ spot.status = .completed := by
      by_contra hother
      push Not at hother
      exact hstatus hother
    push Not at hamount
    cases cfg.normaliseNimiqAddress spot.depositAddress with
    | error message => exact .refused _
    | ok expectedFrom =>
      cases cfg.normaliseNimiqAddress spot.creationFeeAddress with
      | error message => exact .refused _
      | ok expectedTo =>
        dsimp only
        split_ifs with hfrom hto hfunded hpaid
        · exact .refused _
        · exact .refused _
        · exact .refused _
        · exact .refused _
        · exact createTransaction_inserts ⟨rfl, rfl, spot, hspot, hopen, by simpa using hmarker, hamount.1, hamount.2,
            not_lt.mp hfunded⟩

/-- The creation fee finds the Spot funded when it is inserted. -/
lemma proceeds_creationFee (hbooks : Books db) (spotId amount : ℕ) (txHash : String) :
    Proceeds cfg db (submitSpotCreationFeeTransaction cfg db spotId amount txHash).1 := by
  have hinserts : Inserts (fun row => row.IsCreationFee db spotId) db
      (submitSpotCreationFeeTransaction cfg db spotId amount txHash) :=
    submitSpotCreationFeeTransaction_checked spotId amount txHash
  generalize submitSpotCreationFeeTransaction cfg db spotId amount txHash = outcome at hinserts
  cases hinserts with
  | refused e => exact .refl hbooks
  | @made row _ _ hmade hrow =>
    obtain ⟨spot, hspot, hstatus, hmarker, hfee, hamount, hfunded⟩ := hrow.due
    have hid := getSpot_id hspot
    subst hid
    have hother : row.type ≠ .claim := by
      rw [hrow.type]
      nofun
    refine proceeds_inserted hbooks hmade hspot hrow.ofSpot (fun h => absurd h hother) ?_
    intro t hpending htype _ hpaid
    have hclear : (db.account spot).Clear .creationFee := by
      have hleg := clear_of_made hmade hrow.ofSpot (by rw [hrow.type]; rfl)
      rw [hrow.type] at hleg
      exact hleg
    refine ⟨.feePaid hpending (htype.trans hrow.type) (hpaid.trans hamount) hfee hstatus (marked_account hmarker) ?_
      hclear, fun h => h⟩
    rw [income_account]
    exact hfunded

/-- A leg goes on the account once. -/
lemma proceeds_leg (hbooks : Books db) {type : TransType} {spot : Spot P} {amount : ℕ} {txHash : String}
    {outcome : Outcome P ℕ} (hinserts : Inserts (fun row => row.IsLegOf type spot.id txHash ∧ row.amount = amount) db outcome)
    (hspot : db.getSpot spot.id = some spot) (honce : type.oncePerSpot = true)
    (hpush : ∀ t : Trans, t.status = .pending → t.type = type → t.amount = amount → (db.account spot).Clear type →
      (db.account spot).MayPush t) : Proceeds cfg db outcome.1 := by
  cases hinserts with
  | refused e => exact .refl hbooks
  | made hmade hrow =>
    obtain ⟨⟨htype, hof, -, -⟩, hamount⟩ := hrow
    have hother : type ≠ .claim := by
      rintro rfl
      cases honce
    refine proceeds_inserted hbooks hmade hspot hof (fun h => absurd (htype.symm.trans h) hother) ?_
    intro t hpending htype' _ hpaid
    have hclear := clear_of_made hmade hof (htype.symm ▸ honce)
    rw [htype] at hclear
    exact ⟨.pushed (hpush t hpending (htype'.trans htype) (hpaid.trans hamount) hclear), fun h => h⟩

lemma proceeds_legFee (hbooks : Books db) {spotId amount refund : ℕ} (hkept : db.Honours spotId (.split amount refund))
    (feeAddress : Address) (txHash : String) :
    Proceeds cfg db (submitPlatformFeeTransaction cfg db spotId amount feeAddress txHash).1 := by
  obtain ⟨spot, hspot, hhonours⟩ := hkept
  have hid := getSpot_id hspot
  subst hid
  refine proceeds_leg hbooks (submitPlatformFeeTransaction_amount spot.id amount feeAddress txHash) hspot rfl ?_
  intro t hpending htype hamount hclear
  exact (hbooks.sound spot.id spot hspot).mayPush_legFee hpending htype (hamount ▸ hhonours) hclear

lemma proceeds_legRefund (hbooks : Books db) {spotId amount fee : ℕ} (hkept : db.Honours spotId (.split fee amount))
    (refundAddress : Address) (txHash : String) :
    Proceeds cfg db (submitSpotRefundTransaction cfg db spotId amount refundAddress txHash).1 := by
  obtain ⟨spot, hspot, hhonours⟩ := hkept
  have hid := getSpot_id hspot
  subst hid
  refine proceeds_leg hbooks (submitSpotRefundTransaction_amount spot.id amount refundAddress txHash) hspot rfl ?_
  intro t hpending htype hamount hclear
  exact (hbooks.sound spot.id spot hspot).mayPush_refund hpending htype (hamount ▸ hhonours) hclear

lemma submitSpotRemainderRefundTransaction_amount (spotId amount : ℕ) (refundAddress : Address) (txHash : String) :
    Inserts (fun row => row.IsLegOf .remainderRefund spotId txHash ∧ row.amount = amount) db
      (submitSpotRemainderRefundTransaction cfg db spotId amount refundAddress txHash) := by
  unfold submitSpotRemainderRefundTransaction
  cases db.getSpot spotId with
  | none => exact .refused _
  | some spot =>
    apply recordChainSend_inserts
    intro fromAddress toAddress
    split_ifs
    · exact .refused _
    · exact createTransaction_inserts ⟨⟨rfl, rfl, rfl, rfl⟩, rfl⟩

/-- A banned Spot whose balance is being swept. -/
def Db.IsSwept (db : Db P) (spotId : ℕ) : Prop :=
  ∃ spot, db.getSpot spotId = some spot ∧ spot.status = .banned ∧
    ∃ t ∈ db.transOfSpot spotId, t.type = .platFee ∧ t.status ≠ .failed

/-- A remainder is refunded unless a ban has swept it in the meantime. -/
lemma proceeds_remainder (hbooks : Books db) {spotId amount : ℕ} (hkept : db.Honours spotId (.remainder amount))
    (hswept : ¬ db.IsSwept spotId) (refundAddress : Address) (txHash : String) :
    Proceeds cfg db (submitSpotRemainderRefundTransaction cfg db spotId amount refundAddress txHash).1 := by
  obtain ⟨spot, hspot, hhonours⟩ := hkept
  have hid := getSpot_id hspot
  subst hid
  refine proceeds_leg hbooks (submitSpotRemainderRefundTransaction_amount spot.id amount refundAddress txHash) hspot rfl ?_
  intro t hpending htype hamount hclear
  refine (hbooks.sound spot.id spot hspot).mayPush_remainder hpending htype (hamount ▸ hhonours) hclear ?_
  intro hbanned row hrow
  by_contra hactive
  obtain ⟨hleg, hstatus⟩ := Account.isActive_iff.mp (Bool.eq_true_of_not_eq_false hactive)
  exact hswept ⟨spot, hspot, hbanned, row, hrow, hleg, hstatus⟩

/-- What is inserted by a sweep, after everything is checked again. -/
structure NewTrans.IsSweep (row : NewTrans) (db : Db P) (spotId : ℕ) (txHash : String) : Prop where
  leg : row.IsLegOf .platFee spotId txHash
  banned : ∃ spot, db.getSpot spotId = some spot ∧ spot.status = .banned
  clear : (financialState (db.getTransactionsBySpot spotId maxLimit)).pending = []
  amount : row.amount = (financialState (db.getTransactionsBySpot spotId maxLimit)).remaining

lemma submitBanSweep_checked (spotId amount : ℕ) (txHash : String) :
    Inserts (fun row => row.IsSweep db spotId txHash) db (submitBanSweep cfg db spotId amount txHash) := by
  unfold submitBanSweep
  cases hspot : db.getSpot spotId with
  | none => exact .refused _
  | some spot =>
    apply recordChainSend_inserts
    intro fromAddress toAddress
    rw [createBanSweepTransaction, hspot]
    dsimp only
    by_cases hbanned : spot.status ≠ .banned
    · rw [if_pos hbanned]
      exact .refused _
    rw [if_neg hbanned]
    cases cfg.normaliseNimiqAddress spot.depositAddress with
    | error message => exact .refused _
    | ok expectedFrom =>
      cases cfg.normaliseNimiqAddress cfg.spotFeeAddress with
      | error message => exact .refused _
      | ok expectedTo =>
        dsimp only
        split_ifs with hfrom hto hpending hamount
        · exact .refused _
        · exact .refused _
        · exact .refused _
        · exact .refused _
        · push Not at hamount
          exact createTransaction_inserts
            ⟨⟨rfl, rfl, rfl, rfl⟩, ⟨spot, hspot, not_not.mp hbanned⟩, not_not.mp hpending, hamount.1⟩

/-- A sweep takes what has not been spent. -/
lemma proceeds_banSweep (hbooks : Books db) (spotId amount : ℕ) (txHash : String) :
    Proceeds cfg db (submitBanSweep cfg db spotId amount txHash).1 := by
  have hinserts : Inserts (fun row => row.IsSweep db spotId txHash) db (submitBanSweep cfg db spotId amount txHash) :=
    submitBanSweep_checked spotId amount txHash
  generalize submitBanSweep cfg db spotId amount txHash = outcome at hinserts
  cases hinserts with
  | refused e => exact .refl hbooks
  | made hmade hrow =>
    obtain ⟨spot, hspot, hbanned⟩ := hrow.banned
    have hid := getSpot_id hspot
    subst hid
    refine proceeds_leg hbooks (.made hmade ⟨hrow.leg, hrow.amount⟩) hspot rfl ?_
    intro t hpending htype hamount hclear
    refine Account.mayPush_sweep hpending htype hbanned ?_ hclear
    rw [hamount]
    exact spent_add_remaining_le hbooks hspot hrow.clear

end Sends

end NimHunt
