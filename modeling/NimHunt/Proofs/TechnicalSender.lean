import NimHunt.RefundAddressSafety
import NimHunt.Proofs.TransactionPass

/-!
# Accepted deposits and their technical sender

Acceptance asks for the account Nimiq Pay names, confirmation for the sender the chain reports.  An
accepted deposit is counted exactly when no earlier deposit of the Spot came from another sender.
-/

namespace NimHunt

open Lib

variable {P : Type}

section Accepted

open RefundAddressSafety

variable {cfg : Settings P} {db db' : Db P} {userId spotId amount transId : ℕ}

/-- The row a recorder answers with, as a later read finds it. -/
def RecordedDeposit (db : Db P) (spotId transId : ℕ) : Prop :=
  ∃ row ∈ db.trans, row.id = transId ∧ row.type = .fillSpot ∧ row.spotId = some spotId

variable (cfg) in
lemma rememberReturnAddress_frame (db : Db P) (spotId : ℕ) (sourceTxHash : String) (returnAddress : Address) :
    ∃ rows, (rememberReturnAddress cfg db spotId sourceTxHash returnAddress).1 = { db with returnAddresses := rows } := by
  unfold rememberReturnAddress
  cases requireSameAccount cfg db spotId returnAddress with
  | error e => exact ⟨_, rfl⟩
  | ok _ =>
    dsimp only
    split
    · split
      · exact ⟨_, rfl⟩
      · split_ifs
        · exact ⟨_, rfl⟩
        · exact ⟨_, rfl⟩
    · exact ⟨_, rfl⟩

/-- What a recorder does to the transactions: nothing, or the insert of one deposit of the Spot. -/
inductive DepositWrites (spotId : ℕ) (cleanHash : String) (db : Db P) : Outcome P ℕ → Prop
  | kept {rows : List NimiqPayReturnAddress} {db' : Db P} {result : Except Raised ℕ}
      (hdb : db' = { db with returnAddresses := rows }) (hknown : ∀ transId, result = .ok transId → RecordedDeposit db' spotId transId) :
      DepositWrites spotId cleanHash db (db', result)
  | made {rows : List NimiqPayReturnAddress} {row : NewTrans} {mid db' : Db P} {madeId : ℕ} {result : Except Raised ℕ}
      (h : db.createTransaction row = (mid, .ok madeId))
      (hrow : row.type = .fillSpot ∧ row.spotId = some spotId ∧ row.txHash = cleanHash)
      (hdb : db' = { mid with returnAddresses := rows })
      (hknown : ∀ transId, result = .ok transId → transId = madeId) :
      DepositWrites spotId cleanHash db (db', result)

lemma DepositWrites.refused {cleanHash : String} (e : Raised) : DepositWrites spotId cleanHash db (db, .error e) :=
  .kept rfl (by simp)

lemma DepositWrites.recorded {cleanHash : String} (h : DepositWrites spotId cleanHash db (db', .ok transId)) :
    RecordedDeposit db' spotId transId := by
  cases h with
  | kept hdb hknown => exact hknown transId rfl
  | @made rows row mid _ madeId _ h hrow hdb hknown =>
    obtain ⟨-, rfl, -⟩ := createTransaction_ok h
    rw [RecordedDeposit, hdb, hknown transId rfl]
    exact ⟨_, List.mem_append_right _ (List.mem_singleton_self _), rfl, hrow.1, hrow.2.1⟩

lemma recordKnownDeposit_writes {existing : Trans} {returnAddress : Address} {cleanHash : String}
    (hexisting : existing ∈ db.trans) :
    DepositWrites spotId cleanHash db (recordKnownDeposit cfg db existing userId spotId returnAddress cleanHash) := by
  unfold recordKnownDeposit
  by_cases hsame : existing.type = .fillSpot ∧ existing.userId = userId ∧ existing.spotId = some spotId
  · rw [if_neg (not_not.mpr hsame)]
    have hrecorded : RecordedDeposit db spotId existing.id := ⟨existing, hexisting, rfl, hsame.1, hsame.2.2⟩
    cases hreturn : spotReturnAddress db spotId with
    | some stored =>
      dsimp only
      cases hrequire : requireSameAccount cfg db spotId returnAddress with
      | error e => exact .refused e
      | ok _ => exact .kept rfl fun transId hid => Except.ok.inj hid ▸ hrecorded
    | none =>
      dsimp only
      cases hsender : cfg.normaliseNimiqAddress existing.fromAddress with
      | error message => exact .refused _
      | ok storedSender =>
        dsimp only
        by_cases hopen : existing.status ≠ .pending ∨ storedSender ≠ returnAddress
        · rw [if_pos hopen]
          exact .refused _
        rw [if_neg hopen]
        obtain ⟨rows, hkept⟩ := rememberReturnAddress_frame cfg db spotId cleanHash returnAddress
        generalize rememberReturnAddress cfg db spotId cleanHash returnAddress = outcome at hkept
        obtain ⟨mid, e | _⟩ := outcome
        · obtain rfl : mid = _ := hkept
          exact .kept rfl (by simp)
        · obtain rfl : mid = _ := hkept
          exact .kept rfl fun transId hid => Except.ok.inj hid ▸ hrecorded
  · rw [if_pos hsame]
    exact .refused _

lemma recordNewDeposit_writes {returnAddress : Address} {cleanHash : String} {toAddress : Option Address} :
    DepositWrites spotId cleanHash db
      (recordNewDeposit cfg db userId spotId amount returnAddress cleanHash toAddress) := by
  unfold recordNewDeposit
  by_cases hamount : amount = 0
  · rw [if_pos hamount]
    exact .refused _
  rw [if_neg hamount]
  cases db.getSpot spotId with
  | none => exact .refused _
  | some spot =>
    dsimp only
    by_cases hdraft : spot.status ≠ .draft
    · rw [if_pos hdraft]
      exact .refused _
    rw [if_neg hdraft]
    by_cases hmarker : spot.cancellationStartedAt.isSome = true
    · rw [if_pos hmarker]
      exact .refused _
    rw [if_neg hmarker]
    cases cfg.normaliseNimiqAddress (toAddress.getD spot.depositAddress) with
    | error message => exact .refused _
    | ok cleanToAddress =>
      dsimp only
      cases requireSameAccount cfg db spotId returnAddress with
      | error e => exact .refused e
      | ok _ =>
        dsimp only
        generalize min amount (spot.totalValue + spot.creationFee - db.getConfirmedSpotDepositTotal spotId) = clamped
        split_ifs
        · exact .refused _
        · exact .refused _
        · exact .refused _
        rcases hmade : db.createTransaction ⟨userId, some spotId, none, .fillSpot,
          clamped, returnAddress, cleanToAddress, cleanHash⟩ with ⟨made, e | madeId⟩
        · have hsame := createTransaction_error hmade
          subst hsame
          exact .refused e
        · dsimp only
          obtain ⟨rows, hkept⟩ := rememberReturnAddress_frame cfg made spotId cleanHash returnAddress
          generalize rememberReturnAddress cfg made spotId cleanHash returnAddress = outcome at hkept
          obtain ⟨mid, e | _⟩ := outcome
          · obtain rfl : mid = _ := hkept
            exact .made hmade ⟨rfl, rfl, rfl⟩ rfl (by simp)
          · obtain rfl : mid = _ := hkept
            exact .made hmade ⟨rfl, rfl, rfl⟩ rfl fun transId hid => (Except.ok.inj hid).symm

lemma recordSpotDepositTransaction_writes {fromAddress : Address} {txHash : String} {toAddress : Option Address} :
    DepositWrites spotId (cfg.lower (cfg.strip txHash)) db
      (RefundAddressSafety.recordSpotDepositTransaction cfg db userId spotId amount fromAddress txHash toAddress) := by
  unfold RefundAddressSafety.recordSpotDepositTransaction
  cases cfg.normaliseNimiqAddress fromAddress with
  | error message => exact .refused _
  | ok returnAddress =>
    dsimp only
    by_cases hhex : isNimiqTransactionHash (cfg.lower (cfg.strip txHash)) = false
    · rw [if_pos hhex]
      exact .refused _
    rw [if_neg hhex]
    cases hknown : db.trans.find? fun t => sqlLower t.txHash = cfg.lower (cfg.strip txHash) with
    | some existing => exact recordKnownDeposit_writes (List.mem_of_find?_eq_some hknown)
    | none => exact recordNewDeposit_writes

/-- Whatever the recorder accepts is a deposit row of the Spot. -/
lemma recordSpotDepositTransaction_ok {fromAddress : Address} {txHash : String} {toAddress : Option Address}
    (h : RefundAddressSafety.recordSpotDepositTransaction cfg db userId spotId amount fromAddress txHash toAddress =
      (db', .ok transId)) :
    RecordedDeposit db' spotId transId := by
  have hwrites : DepositWrites spotId (cfg.lower (cfg.strip txHash)) db
      (RefundAddressSafety.recordSpotDepositTransaction cfg db userId spotId amount fromAddress txHash toAddress) :=
    recordSpotDepositTransaction_writes
  rw [h] at hwrites
  exact hwrites.recorded

end Accepted

section Confirmation

variable {db : Db P} {row : Trans} {spotId : ℕ} {transfer : ChainTransfer}

/-- What a row adds to the confirmed deposits of a Spot. -/
def depositWeight (spotId : ℕ) (t : Trans) : ℕ :=
  if t.spotId = some spotId ∧ t.type = .fillSpot ∧ t.status = .confirmed then t.amount else 0

lemma getConfirmedSpotDepositTotal_eq_sum (db : Db P) (spotId : ℕ) :
    db.getConfirmedSpotDepositTotal spotId = (db.trans.map (depositWeight spotId)).sum := by
  unfold Db.getConfirmedSpotDepositTotal Db.transOfSpot total
  induction db.trans with
  | nil => rfl
  | cons t ts ih =>
    rw [List.map_cons, List.sum_cons, ← ih, List.filter_cons]
    by_cases hspot : t.spotId = some spotId
    · by_cases hkind : t.type = .fillSpot ∧ t.status = .confirmed
      · simp [depositWeight, hspot, hkind]
      · simp [depositWeight, hspot, hkind]
    · simp [depositWeight, hspot]

lemma fundingMismatch_iff (hspot : row.spotId = some spotId) (hdeposit : row.type = .fillSpot) :
    fundingMismatch db row transfer ↔
      ∃ funding, db.getConfirmedSpotFundingAddress spotId = some funding ∧ funding ≠ transfer.fromAddress := by
  unfold fundingMismatch
  rw [hspot, Option.bind_some]
  cases db.getConfirmedSpotFundingAddress spotId with
  | none => simp [hdeposit]
  | some funding => simp [hdeposit]

/-- The confirmation of a PENDING deposit makes it CONFIRMED and adds it to the balance, or makes it
FAILED and leaves the balance alone. -/
lemma confirm_deposit (payout : Bool) (hkeys : (db.trans.map Trans.id).Nodup) (hrow : row ∈ db.trans)
    (hpending : row.status = .pending) (hspot : row.spotId = some spotId) (hdeposit : row.type = .fillSpot) :
    ∃ db', markTransAsConfirmed db row transfer payout = (db', .ok ()) ∧
      (db'.getTransaction row.id).map Trans.status =
        some (if fundingMismatch db row transfer then .failed else .confirmed) ∧
      db'.getConfirmedSpotDepositTotal spotId = db.getConfirmedSpotDepositTotal spotId +
        if fundingMismatch db row transfer then 0 else transfer.amount := by
  obtain ⟨db', hmark, -, -, htrans⟩ := markTransAsConfirmed_trans transfer payout hkeys hrow hpending
  refine ⟨db', hmark, ?_, ?_⟩
  · have hkey : ∀ t : Trans, Trans.id (Trans.confirmedAs db row transfer t) = Trans.id t := fun _ => rfl
    have hfound : db.trans.find? (fun t => decide (t.id = row.id)) = some row := getTransaction_of_mem hkeys hrow
    rw [Db.getTransaction, htrans, find?_updateWhere_key hkey, hfound]
    simp [Trans.confirmedAs]
  · have hsum := sum_updateWhere_key (f := Trans.confirmedAs db row transfer) hkeys hrow (depositWeight spotId)
    have hbefore : depositWeight spotId row = 0 := by simp [depositWeight, hpending]
    have hafter : depositWeight spotId (Trans.confirmedAs db row transfer row) =
        if fundingMismatch db row transfer then 0 else transfer.amount := by
      by_cases hmismatch : fundingMismatch db row transfer <;>
        simp [depositWeight, Trans.confirmedAs, Trans.withTransfer, hspot, hdeposit, hmismatch]
    rw [getConfirmedSpotDepositTotal_eq_sum, getConfirmedSpotDepositTotal_eq_sum, htrans]
    rw [hbefore, hafter] at hsum
    exact hsum

end Confirmation

section Deposits

variable {cfg : Settings P} {before accepted db : Db P} {userId spotId amount transId : ℕ} {fromAddress : Address}
  {txHash : String} {toAddress : Option Address} {row : Trans}

/-- However the sender of an accepted deposit appears on the chain, confirming it makes it CONFIRMED and
counts its amount exactly when the Spot has no confirmed deposit yet or the first one has that sender. -/
theorem accepted_deposit_counts_iff
    (haccept : RefundAddressSafety.recordSpotDepositTransaction cfg before userId spotId amount fromAddress txHash
      toAddress = (accepted, .ok transId))
    (haccepted : accepted.Keyed) (hrecorded : row ∈ accepted.trans) (hid : row.id = transId)
    (hkeyed : db.Keyed) (hrow : row ∈ db.trans) (hpending : row.status = .pending) (transfer : ChainTransfer) :
    (∃ db', markTransAsConfirmed db row transfer (claimTransactionIsCompletedPrizedrawPayout db row) = (db', .ok ()) ∧
      (db'.getTransaction row.id).map Trans.status = some .confirmed ∧
      db'.getConfirmedSpotDepositTotal spotId = db.getConfirmedSpotDepositTotal spotId + transfer.amount) ↔
    ∀ funding, db.getConfirmedSpotFundingAddress spotId = some funding → funding = transfer.fromAddress := by
  obtain ⟨known, hknown, hknownid, hdeposit, hspot⟩ := recordSpotDepositTransaction_ok haccept
  have hsame : known = row := eq_of_key_eq haccepted.transKeys hknown hrecorded (hknownid.trans hid.symm)
  subst hsame
  obtain ⟨db', hmark, hstatus, htotal⟩ := confirm_deposit
    (claimTransactionIsCompletedPrizedrawPayout db known) hkeyed.transKeys hrow hpending hspot hdeposit
  have hmismatch : fundingMismatch db known transfer ↔ _ := fundingMismatch_iff hspot hdeposit
  constructor
  · rintro ⟨_, hmark', hstatus', -⟩ funding hfunding
    rw [hmark] at hmark'
    obtain ⟨rfl, -⟩ := Prod.mk.inj hmark'
    by_contra hother
    rw [hstatus, if_pos (hmismatch.mpr ⟨funding, hfunding, hother⟩)] at hstatus'
    cases hstatus'
  · intro hall
    have hfine : ¬ fundingMismatch db known transfer := by
      rw [hmismatch]
      rintro ⟨funding, hfunding, hother⟩
      exact hother (hall funding hfunding)
    rw [if_neg hfine] at hstatus htotal
    exact ⟨db', hmark, hstatus, htotal⟩

/-- A draft that one deposit does not fund. -/
def halfFundedDraft : Db Unit := { (Db.empty : Db Unit) with
  spots := [
    { id := 1, createdBy := 1, depositAddress := "NQ03 SPOT", position := some (), radius := 10, claimDuration := 0
      maxClaimsPerUser := 1, maxTotalClaims := 1, usePassword := false, totalValue := 200, creationFee := 0
      creationFeeAddress := "", startsAt := none, endsAt := 1000, status := .draft
      cancellationStartedAt := none, prizeCount := none }]
  spotSeq := 1 }

def recordFromWallet (db : Db Unit) (amount : ℕ) (txHash : String) : Outcome Unit ℕ :=
  RefundAddressSafety.recordSpotDepositTransaction Settings.onePlace db 1 1 amount "NQ01 WALLET" txHash none

def confirmFrom (db : Db Unit) (transId : ℕ) (sender : Address) : Db Unit :=
  match db.getTransaction transId with
  | none => db
  | some row => (markTransAsConfirmed db row ⟨sender, row.toAddress, row.amount⟩ false).1

/-- The first deposit of the wallet confirmed from one swap account, the top-up recorded. -/
def toppedUp : Db Unit :=
  (recordFromWallet (confirmFrom (recordFromWallet halfFundedDraft 50
    "aaaaaaaaaaaaaaaaaaaaaaaaaaaaaaaaaaaaaaaaaaaaaaaaaaaaaaaaaaaaaaaa").1 1 "NQ11 SWAP")
    150 "bbbbbbbbbbbbbbbbbbbbbbbbbbbbbbbbbbbbbbbbbbbbbbbbbbbbbbbbbbbbbbbb").1

/-- The first deposit, still PENDING. -/
def firstDeposit : Db Unit := (recordFromWallet halfFundedDraft 50
  "aaaaaaaaaaaaaaaaaaaaaaaaaaaaaaaaaaaaaaaaaaaaaaaaaaaaaaaaaaaaaaaa").1

def firstDepositRow : Trans where
  id := 1
  userId := 1
  spotId := some 1
  claimId := none
  type := .fillSpot
  amount := 50
  fromAddress := "NQ01 WALLET"
  toAddress := "NQ03 SPOT"
  txHash := "aaaaaaaaaaaaaaaaaaaaaaaaaaaaaaaaaaaaaaaaaaaaaaaaaaaaaaaaaaaaaaaa"
  status := .pending
  createdAt := 0

lemma firstDeposit_accepted :
    RefundAddressSafety.recordSpotDepositTransaction Settings.onePlace halfFundedDraft 1 1 50 "NQ01 WALLET"
      "aaaaaaaaaaaaaaaaaaaaaaaaaaaaaaaaaaaaaaaaaaaaaaaaaaaaaaaaaaaaaaaa" none = (firstDeposit, .ok 1) :=
  Prod.ext rfl (by decide +kernel)

lemma firstDepositRow_recorded : firstDepositRow ∈ firstDeposit.trans := by decide +kernel

lemma firstDeposit_keyed : firstDeposit.Keyed := by constructor <;> decide +kernel

lemma topUp_accepted :
    RefundAddressSafety.recordSpotDepositTransaction Settings.onePlace (confirmFrom firstDeposit 1 "NQ11 SWAP") 1 1 150
      "NQ01 WALLET" "bbbbbbbbbbbbbbbbbbbbbbbbbbbbbbbbbbbbbbbbbbbbbbbbbbbbbbbbbbbbbbbb" none = (toppedUp, .ok 2) :=
  Prod.ext rfl (by decide +kernel)

def topUpRow : Trans :=
  { firstDepositRow with
    id := 2, amount := 150, txHash := "bbbbbbbbbbbbbbbbbbbbbbbbbbbbbbbbbbbbbbbbbbbbbbbbbbbbbbbbbbbbbbbb" }

/-- A first deposit, and a top-up that comes from the same account on the chain and counts. -/
theorem accepted_deposit_counts_iff_first :
    ((∃ db', markTransAsConfirmed firstDeposit firstDepositRow ⟨"NQ11 SWAP", "NQ03 SPOT", 50⟩
        (claimTransactionIsCompletedPrizedrawPayout firstDeposit firstDepositRow) = (db', .ok ()) ∧
      (db'.getTransaction 1).map Trans.status = some .confirmed ∧
      db'.getConfirmedSpotDepositTotal 1 = firstDeposit.getConfirmedSpotDepositTotal 1 + 50) ↔
    ∀ funding, firstDeposit.getConfirmedSpotFundingAddress 1 = some funding → funding = "NQ11 SWAP") ∧
    ∃ db', markTransAsConfirmed toppedUp topUpRow ⟨"NQ11 SWAP", "NQ03 SPOT", 150⟩
        (claimTransactionIsCompletedPrizedrawPayout toppedUp topUpRow) = (db', .ok ()) ∧
      (db'.getTransaction 2).map Trans.status = some .confirmed ∧
      db'.getConfirmedSpotDepositTotal 1 = toppedUp.getConfirmedSpotDepositTotal 1 + 150 := by
  have hkeyed : toppedUp.Keyed := by constructor <;> decide +kernel
  have hrow : topUpRow ∈ toppedUp.trans := by decide +kernel
  have hfunding : toppedUp.getConfirmedSpotFundingAddress 1 = some "NQ11 SWAP" := by decide +kernel
  constructor
  · exact accepted_deposit_counts_iff firstDeposit_accepted firstDeposit_keyed firstDepositRow_recorded rfl
      firstDeposit_keyed firstDepositRow_recorded rfl ⟨"NQ11 SWAP", "NQ03 SPOT", 50⟩
  · apply (accepted_deposit_counts_iff topUp_accepted hkeyed hrow rfl hkeyed hrow rfl
      ⟨"NQ11 SWAP", "NQ03 SPOT", 150⟩).mpr
    intro funding hfound
    rw [hfunding] at hfound
    exact (Option.some.inj hfound).symm

/-- Both deposits were accepted for the same account; the top-up comes from another swap account and is
FAILED, so that its 150 are not counted. -/
theorem top_up_from_second_swap_fails :
    (recordFromWallet (confirmFrom (recordFromWallet halfFundedDraft 50
      "aaaaaaaaaaaaaaaaaaaaaaaaaaaaaaaaaaaaaaaaaaaaaaaaaaaaaaaaaaaaaaaa").1 1 "NQ11 SWAP")
      150 "bbbbbbbbbbbbbbbbbbbbbbbbbbbbbbbbbbbbbbbbbbbbbbbbbbbbbbbbbbbbbbbb").2 = .ok 2 ∧
    (toppedUp.getTransaction 2).map (fun row => (row.status, row.amount)) = some (.pending, 150) ∧
    ((confirmFrom toppedUp 2 "NQ12 SWAP").getTransaction 2).map Trans.status = some .failed ∧
    (confirmFrom toppedUp 2 "NQ12 SWAP").getConfirmedSpotDepositTotal 1 = 50 := by
  decide +kernel

end Deposits

end NimHunt
