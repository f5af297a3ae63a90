import NimHunt.Lib.Polling
import NimHunt.Proofs.TransactionPass

/-!
# Which pending rows the passes reach

The batch of a pass is the head of the queue, and only a final verdict takes a row out of it.  A run
of passes therefore reaches as far as the rows that stay leave it room, pass by pass.
-/

namespace NimHunt

open Lib

variable {P : Type}

/-- How many passes over `n` items the limit suggests. -/
def passesFor (n limit : ℕ) : ℕ := (n + limit - 1) / limit

/-- Consecutive passes at the times `now`, with no new rows, in which the chain never gives the rows of
`stuck` an outcome and gives every other row one as soon as it is asked. -/
structure PollingRun (cfg : Settings P) (limit : ℕ) (stuck : Trans → Bool) (replies : ℕ → Trans → RowReplies)
    (feeHash : ℕ → ℕ → String) (now : ℕ → ℕ) (db : ℕ → Db P) : Prop where
  keys : ((db 0).trans.map Trans.id).Nodup
  pass : ∀ k, db (k + 1) =
    { (checkPendingTransactions cfg (replies k) (feeHash k) (db k) limit).1 with now := now k }
  noNewRows : ∀ k, (db (k + 1)).trans.length = (db k).trans.length
  decided : ∀ k, ∀ row ∈ (db k).getPendingTransactions limit,
    Decided cfg (db k).now (replies k) row (!stuck row)

section Coverage

variable {cfg : Settings P} {limit : ℕ} {stuck : Trans → Bool} {replies : ℕ → Trans → RowReplies}
  {feeHash : ℕ → ℕ → String} {now : ℕ → ℕ} {db : ℕ → Db P}

/-- One pass over a decided batch polls the queue. -/
lemma checkPendingTransactions_polls {replies : Trans → RowReplies} {feeHash : ℕ → String} {db : Db P}
    (hkeys : (db.trans.map Trans.id).Nodup)
    (hsame : (checkPendingTransactions cfg replies feeHash db limit).1.trans.length = db.trans.length)
    (hdecided : ∀ row ∈ db.getPendingTransactions limit, Decided cfg db.now replies row (!stuck row)) :
    (checkPendingTransactions cfg replies feeHash db limit).1.trans.map Trans.id = db.trans.map Trans.id ∧
    (checkPendingTransactions cfg replies feeHash db limit).1.pendingTransactions =
      pollPass (clampLimit limit) stuck db.pendingTransactions := by
  have hrows : ∀ row ∈ db.getPendingTransactions limit, row ∈ db.pendingRows := fun row hrow =>
    mem_pendingTransactions.mp (List.mem_of_mem_take hrow)
  have hqueue := pendingTransactions_nodup hkeys
  have hids : ((db.getPendingTransactions limit).map Trans.id).Nodup := by
    refine List.Nodup.map_on (fun a ha b hb hab => ?_) (hqueue.sublist (List.take_sublist _ _))
    exact eq_of_key_eq hkeys (Db.mem_pendingRows.mp (hrows a ha)).1 (Db.mem_pendingRows.mp (hrows b hb)).1 hab
  obtain ⟨db', checked, hloop, -, -, htrans, hpending⟩ := checkRows_decided hkeys hrows hids hdecided
  have hresult : checkPendingTransactions cfg replies feeHash db limit =
      (submitReadySpotCreationFees cfg feeHash db', .ok checked) := by
    rw [checkPendingTransactions, hloop]
  rw [hresult] at hsame ⊢
  dsimp only at hsame ⊢
  obtain ⟨fresh, seq, hfees, -⟩ := submitReadySpotCreationFees_appends cfg db' feeHash
  have hnone : fresh = [] := by
    have hlen := congrArg List.length htrans
    rw [hfees] at hsame
    simp only [List.length_map] at hlen
    simp only [List.length_append] at hsame
    exact List.length_eq_zero_iff.mp (by omega)
  rw [hnone, List.append_nil] at hfees
  rw [hfees]
  refine ⟨htrans, ?_⟩
  rw [← filter_eq_pollPass hqueue stuck]
  have hsorted := insertionSort_filter (fun t => !(decide (t ∈ db.getPendingTransactions limit) && !stuck t))
    (pendingRows_antisymm hkeys)
  rw [← hpending] at hsorted
  exact hsorted

lemma PollingRun.queue (hrun : PollingRun cfg limit stuck replies feeHash now db) (k : ℕ) :
    ((db k).trans.map Trans.id).Nodup ∧
    (db k).pendingTransactions = pollPasses (clampLimit limit) (fun _ => stuck) k (db 0).pendingTransactions := by
  induction k with
  | zero => exact ⟨hrun.keys, rfl⟩
  | succ k ih =>
    obtain ⟨hkeys, hqueue⟩ := ih
    have hlength := hrun.noNewRows k
    rw [hrun.pass k] at hlength ⊢
    obtain ⟨hids, hpolls⟩ := checkPendingTransactions_polls hkeys hlength (hrun.decided k)
    refine ⟨?_, ?_⟩
    · exact hids ▸ hkeys
    · rw [pollPasses, ← hqueue]
      exact hpolls

/-- Every PENDING row is checked within as many passes as the limit suggests exactly when the passes
reach the end of the queue: each has room for the (clamped) limit less the stuck rows met before. -/
theorem every_pending_row_checked_iff (hrun : PollingRun cfg limit stuck replies feeHash now db) :
    (∀ row ∈ (db 0).pendingTransactions,
      ∃ k < passesFor (db 0).pendingTransactions.length limit, row ∈ (db k).getPendingTransactions limit) ↔
    (db 0).pendingTransactions.length ≤
      steadyReach (clampLimit limit) stuck (db 0).pendingTransactions
        (passesFor (db 0).pendingTransactions.length limit) := by
  rw [← reached_steady, ← all_polledWithin_iff (pendingTransactions_nodup hrun.keys)]
  refine forall₂_congr fun row _ => exists_congr fun k => and_congr_right fun _ => ?_
  rw [Db.getPendingTransactions, (hrun.queue k).2]

end Coverage

section StuckIntent

/-- A creation fee whose send stopped before its hash was stored, and a deposit behind it. -/
def intentBeforeDeposit : Db Unit := { Db.empty with
  trans := [
    { id := 1, userId := 1, spotId := some 1, claimId := none, type := .creationFee, amount := 100
      fromAddress := "NQ01 SPOT", toAddress := "NQ07 FEE", txHash := "NIMHUNT_INTENT:creation_fee:1"
      status := .pending, createdAt := 10 },
    { id := 2, userId := 1, spotId := some 2, claimId := none, type := .fillSpot, amount := 500
      fromAddress := "NQ02 USER", toAddress := "NQ03 SPOT", txHash := "AB", status := .pending, createdAt := 20 }]
  transSeq := 2
  now := 30 }

def isIntent (row : Trans) : Bool := isLocalIntentHash row.txHash

def silentReplies : RowReplies := ⟨.raises .urlError, .raises .urlError, .raises .urlError, .raises .urlError⟩

lemma intentBeforeDeposit_pass :
    checkPendingTransactions Settings.onePlace (fun _ => silentReplies) (fun _ => "") intentBeforeDeposit 1 =
      (intentBeforeDeposit, .ok [⟨1, "NIMHUNT_INTENT:creation_fee:1",
        .stillPending "local outbox intent has no chain hash yet; leaving pending to avoid duplicate broadcast",
        none⟩]) := rfl

lemma intentBeforeDeposit_batch :
    intentBeforeDeposit.getPendingTransactions 1 = intentBeforeDeposit.trans.take 1 := by decide +kernel

lemma intentBeforeDeposit_run :
    PollingRun Settings.onePlace 1 isIntent (fun _ _ => silentReplies) (fun _ _ => "") (fun _ => 30)
      (fun _ => intentBeforeDeposit) where
  keys := by decide
  pass := fun _ => by rw [intentBeforeDeposit_pass]; rfl
  noNewRows := fun _ => rfl
  decided := by
    intro _ row hrow
    rw [intentBeforeDeposit_batch] at hrow
    have hintent : row = intentBeforeDeposit.trans.head (by decide) := by simpa [intentBeforeDeposit] using hrow
    subst hintent
    exact ⟨_, _, rfl, rfl, by simp⟩

/-- With one check a pass, two passes over two rows check the intent twice and the deposit never. -/
theorem intent_starves_deposit :
    PollingRun Settings.onePlace 1 isIntent (fun _ _ => silentReplies) (fun _ _ => "") (fun _ => 30)
      (fun _ => intentBeforeDeposit) ∧
    ¬ ∀ row ∈ intentBeforeDeposit.pendingTransactions,
      ∃ k < passesFor intentBeforeDeposit.pendingTransactions.length 1,
        row ∈ ((fun _ => intentBeforeDeposit : ℕ → Db Unit) k).getPendingTransactions 1 := by
  refine ⟨intentBeforeDeposit_run, ?_⟩
  decide +kernel

lemma intentBeforeDeposit_silent :
    (checkPendingTransactions Settings.onePlace (fun _ => silentReplies) (fun _ => "") intentBeforeDeposit 2).1 =
      intentBeforeDeposit := rfl

lemma intentBeforeDeposit_wholeBatch :
    intentBeforeDeposit.getPendingTransactions 2 = intentBeforeDeposit.trans := by decide +kernel

/-- Two checks a pass, and the chain shows neither row. -/
lemma intentBeforeDeposit_silentRun :
    PollingRun Settings.onePlace 2 (fun _ => true) (fun _ _ => silentReplies) (fun _ _ => "") (fun _ => 30)
      (fun _ => intentBeforeDeposit) where
  keys := by decide
  pass := fun _ => by rw [intentBeforeDeposit_silent]; rfl
  noNewRows := fun _ => rfl
  decided := by
    intro _ row hrow
    rw [intentBeforeDeposit_wholeBatch] at hrow
    have hrows : row = intentBeforeDeposit.trans[0] ∨ row = intentBeforeDeposit.trans[1] := by
      simpa [intentBeforeDeposit] using hrow
    rcases hrows with rfl | rfl
    · exact ⟨_, _, rfl, rfl, by simp⟩
    · exact ⟨_, _, rfl, rfl, by simp⟩

/-- With two checks a pass the same queue is covered, though neither row ever gets an outcome. -/
theorem every_pending_row_checked_iff_intent :
    ((∀ row ∈ intentBeforeDeposit.pendingTransactions,
      ∃ k < passesFor intentBeforeDeposit.pendingTransactions.length 1,
        row ∈ intentBeforeDeposit.getPendingTransactions 1) ↔
    intentBeforeDeposit.pendingTransactions.length ≤
      steadyReach (clampLimit 1) isIntent intentBeforeDeposit.pendingTransactions
        (passesFor intentBeforeDeposit.pendingTransactions.length 1)) ∧
    ∀ row ∈ intentBeforeDeposit.pendingTransactions,
      ∃ k < passesFor intentBeforeDeposit.pendingTransactions.length 2,
        row ∈ intentBeforeDeposit.getPendingTransactions 2 :=
  ⟨every_pending_row_checked_iff intentBeforeDeposit_run,
    (every_pending_row_checked_iff intentBeforeDeposit_silentRun).mpr (by decide +kernel)⟩

end StuckIntent

end NimHunt
