import NimHunt.Schema

/-!
# Statements on the claim tables

Reads and writes of SPOT, CLAIM, CLAIM_CODE and CLAIM_CODE_ATTEMPT, each with the effect of the
triggers of `database.py` that fire on it.
-/

namespace NimHunt

open Lib

variable {P : Type}

namespace Db

def getUser (db : Db P) (userId : ℕ) : Option User := db.users.find? fun u => u.id = userId

def getSpot (db : Db P) (spotId : ℕ) : Option (Spot P) := db.spots.find? fun s => s.id = spotId

def getClaim (db : Db P) (claimId : ℕ) : Option (Claim P) := db.claims.find? fun c => c.id = claimId

def isPrizedraw (db : Db P) (spotId : ℕ) : Bool :=
  match db.getSpot spotId with
  | some spot => spot.prizeCount.isSome
  | none => false

def countClaimsByStatusForSpot (db : Db P) (spotId : ℕ) (status : ClaimStatus) : ℕ :=
  db.claims.countP fun c => c.spotId = spotId ∧ c.status = status

end Db

/-- The row after a status write; the stamp trigger sets `updated_at` as well. -/
def Claim.withStatus (now : ℕ) (status : ClaimStatus) (claim : Claim P) : Claim P :=
  { claim with status := status, updatedAt := now }

namespace Db

/-- `UPDATE claim SET c_status = …, updated_at = unixepoch() WHERE sel`.  A claim that becomes
terminal loses its candidate code (`trg_claim_code_attempt_cleanup`). -/
def updateClaimStatus (db : Db P) (sel : Claim P → Bool) (status : ClaimStatus) : Db P :=
  { db with
    claims := updateWhere sel (Claim.withStatus db.now status) db.claims
    claimCodeAttempts :=
      if status = .pending then db.claimCodeAttempts
      else db.claimCodeAttempts.filter fun a => !db.claims.any fun c => sel c && c.id == a.claimId }

section UpdateClaimStatus

variable (db : Db P) (sel : Claim P → Bool) (status : ClaimStatus)

@[simp] lemma updateClaimStatus_claims :
    (db.updateClaimStatus sel status).claims = updateWhere sel (Claim.withStatus db.now status) db.claims := rfl

@[simp] lemma updateClaimStatus_now : (db.updateClaimStatus sel status).now = db.now := rfl

@[simp] lemma updateClaimStatus_users : (db.updateClaimStatus sel status).users = db.users := rfl

@[simp] lemma updateClaimStatus_spots : (db.updateClaimStatus sel status).spots = db.spots := rfl

@[simp] lemma updateClaimStatus_trans : (db.updateClaimStatus sel status).trans = db.trans := rfl

@[simp] lemma updateClaimStatus_claimCodes : (db.updateClaimStatus sel status).claimCodes = db.claimCodes := rfl

@[simp] lemma updateClaimStatus_getSpot (spotId : ℕ) :
    (db.updateClaimStatus sel status).getSpot spotId = db.getSpot spotId := rfl

end UpdateClaimStatus

def modifyClaimStatus (db : Db P) (claimId : ℕ) (status : ClaimStatus) : Db P :=
  db.updateClaimStatus (fun c => c.id = claimId) status

def setClaimStatusToSuccess (db : Db P) (claimId : ℕ) : Db P := db.modifyClaimStatus claimId .success

def setClaimStatusToFailed (db : Db P) (claimId : ℕ) : Db P := db.modifyClaimStatus claimId .failed

def modifyClaimLocationScore (db : Db P) (claimId : ℕ) (position : P) (accuracyScore : ℚ)
    (status : ClaimStatus) : Db P :=
  let moved : Db P := { db with
    claims := updateWhere (fun c => c.id = claimId)
      (fun c => { c with position := position, accuracy := max 0 (min 1 accuracyScore) }) db.claims }
  moved.modifyClaimStatus claimId status

/-- `INSERT INTO claim`: the row starts PENDING; the trigger refuses a Spot whose cancellation
has started, and the foreign keys refuse a missing Spot or user. -/
def insertClaim (db : Db P) (spotId userId : ℕ) (payoutAddress : Option Address) (position : P)
    (accuracy : ℚ) : Outcome P ℕ :=
  match db.getSpot spotId with
  | none => (db, .error (.integrityError "FOREIGN KEY constraint failed"))
  | some spot =>
    if spot.cancellationStartedAt.isSome then
      (db, .error (.integrityError "spot cancellation has started"))
    else if (db.getUser userId).isNone then
      (db, .error (.integrityError "FOREIGN KEY constraint failed"))
    else
      let claimId := db.claimSeq + 1
      ({ db with
          claims := db.claims ++ [{
            id := claimId, spotId := spotId, recipient := userId, payoutAddress := payoutAddress,
            position := position, accuracy := accuracy, status := .pending,
            claimedAt := db.now, updatedAt := db.now }]
          claimSeq := claimId }, .ok claimId)

def getClaimCode (db : Db P) (codeId : ℕ) : Option ClaimCode :=
  db.claimCodes.find? fun cc => cc.id = codeId

def claimCodeByCode (db : Db P) (spotId : ℕ) (code : String) : Option ClaimCode :=
  db.claimCodes.find? fun cc => cc.spotId = spotId ∧ cc.code = code

/-- `UPDATE claim_code SET used_by = claim WHERE id = code AND (used_by IS NULL OR used_by = claim)
RETURNING id`: whether a row was updated is the answer. -/
def consumeClaimCode (db : Db P) (codeId claimId : ℕ) : Db P × Bool :=
  let sel : ClaimCode → Bool := fun cc => cc.id = codeId ∧ (cc.usedBy = none ∨ cc.usedBy = some claimId)
  ({ db with claimCodes := updateWhere sel (fun cc => { cc with usedBy := some claimId }) db.claimCodes },
    db.claimCodes.any sel)

def releaseCodeFromClaim (db : Db P) (claimId : ℕ) : Db P :=
  { db with
    claimCodes := updateWhere (fun cc => cc.usedBy = some claimId)
      (fun cc => { cc with usedBy := none }) db.claimCodes }

def createAttempt (db : Db P) (claimId codeId : ℕ) : Db P :=
  { db with claimCodeAttempts := db.claimCodeAttempts ++ [⟨claimId, codeId⟩] }

/-- The attempt of a claim joined with its code. -/
def attemptForClaim (db : Db P) (claimId : ℕ) : Option ClaimCode :=
  (db.claimCodeAttempts.find? fun a => a.claimId = claimId).bind fun a => db.getClaimCode a.claimCodeId

def modifySpotStatus (db : Db P) (spotId : ℕ) (status : SpotStatus) : Db P :=
  { db with spots := updateWhere (fun s => s.id = spotId) (fun s => { s with status := status }) db.spots }

def setUserStatusToBanned (db : Db P) (userId : ℕ) : Db P :=
  { db with users := updateWhere (fun u => u.id = userId) (fun u => { u with status := .banned }) db.users }

/-- What a successful insert did. -/
lemma insertClaim_ok {db db' : Db P} {spotId userId claimId : ℕ} {payoutAddress : Option Address}
    {position : P} {accuracy : ℚ}
    (h : db.insertClaim spotId userId payoutAddress position accuracy = (db', .ok claimId)) :
    claimId = db.claimSeq + 1 ∧
    (∃ spot, db.getSpot spotId = some spot ∧ spot.cancellationStartedAt = none) ∧
    db' = { db with
      claims := db.claims ++ [{
        id := claimId, spotId := spotId, recipient := userId, payoutAddress := payoutAddress,
        position := position, accuracy := accuracy, status := .pending,
        claimedAt := db.now, updatedAt := db.now }]
      claimSeq := claimId } := by
  unfold insertClaim at h
  cases hspot : db.getSpot spotId with
  | none => simp [hspot] at h
  | some spot =>
    simp only [hspot] at h
    by_cases hcancel : spot.cancellationStartedAt.isSome = true
    · simp [hcancel] at h
    · by_cases huser : (db.getUser userId).isNone = true
      · simp [hcancel, huser] at h
      · simp only [hcancel, huser, Bool.false_eq_true, if_false, Prod.mk.injEq, Except.ok.injEq] at h
        obtain ⟨hdb, rfl⟩ := h
        exact ⟨rfl, ⟨spot, rfl, by simpa using hcancel⟩, hdb.symm⟩

lemma insertClaim_error {db db' : Db P} {spotId userId : ℕ} {payoutAddress : Option Address} {position : P}
    {accuracy : ℚ} {e : Raised}
    (h : db.insertClaim spotId userId payoutAddress position accuracy = (db', .error e)) : db' = db := by
  unfold insertClaim at h
  cases hspot : db.getSpot spotId with
  | none =>
    rw [hspot] at h
    exact (Prod.mk.inj h).1.symm
  | some spot =>
    simp only [hspot] at h
    split_ifs at h
    · exact (Prod.mk.inj h).1.symm
    · exact (Prod.mk.inj h).1.symm
    · simp at h

/-- The primary keys, and the AUTOINCREMENT counters ahead of them. -/
structure Keyed (db : Db P) : Prop where
  spotKeys : (db.spots.map Spot.id).Nodup
  claimKeys : (db.claims.map Claim.id).Nodup
  claimFresh : ∀ c ∈ db.claims, 0 < c.id ∧ c.id ≤ db.claimSeq
  codeKeys : (db.claimCodes.map ClaimCode.id).Nodup
  codeFresh : ∀ cc ∈ db.claimCodes, cc.id ≤ db.claimCodeSeq
  transKeys : (db.trans.map Trans.id).Nodup
  transFresh : ∀ t ∈ db.trans, t.id ≤ db.transSeq

lemma getClaim_eq_some {db : Db P} (hkeyed : db.Keyed) {claimId : ℕ} {claim : Claim P} :
    db.getClaim claimId = some claim ↔ claim ∈ db.claims ∧ claim.id = claimId :=
  find?_key_eq_some hkeyed.claimKeys

lemma getSpot_eq_some {db : Db P} (hkeyed : db.Keyed) {spotId : ℕ} {spot : Spot P} :
    db.getSpot spotId = some spot ↔ spot ∈ db.spots ∧ spot.id = spotId :=
  find?_key_eq_some hkeyed.spotKeys

/-- The row a successful insert added is the one its id finds. -/
lemma getClaim_insertClaim {db db' : Db P} (hkeyed : db.Keyed) {spotId userId claimId : ℕ}
    {payoutAddress : Option Address} {position : P} {accuracy : ℚ}
    (h : db.insertClaim spotId userId payoutAddress position accuracy = (db', .ok claimId)) :
    db'.getClaim claimId = some {
      id := claimId, spotId := spotId, recipient := userId, payoutAddress := payoutAddress,
      position := position, accuracy := accuracy, status := .pending,
      claimedAt := db.now, updatedAt := db.now } := by
  obtain ⟨hid, -, rfl⟩ := insertClaim_ok h
  have hfresh : db.claims.find? (fun c => c.id = claimId) = none := by
    rw [List.find?_eq_none]
    intro c hc
    have := (hkeyed.claimFresh c hc).2
    simp only [decide_eq_true_eq]
    omega
  simp [getClaim, List.find?_append, hfresh]

end Db

/-- A database whose tables satisfy their primary keys. -/
structure Store (P : Type) extends Db P where
  keyed : toDb.Keyed

end NimHunt
