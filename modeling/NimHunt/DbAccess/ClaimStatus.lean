import NimHunt.DbAccess.ClaimRules
import NimHunt.Lib.Binary64

/-!
# Promotion, condition refresh and location heartbeats

`refresh_claim_status_from_conditions` and the heartbeat call the promoter through the module
attribute of `db_access`, which start-up replaces; here it is the argument `promote`.
-/

namespace NimHunt

open Lib

variable {P : Type}

/-- The row a promoter returns with its `capacity_promotion` entry (`ok`, `reason`). -/
structure Promotion (P : Type) where
  claim : Option (Claim P)
  capacityPromotion : Option (Bool × String)

/-- A promoter: the value bound to `promote_pending_claim_to_success_if_capacity_available`. -/
abbrev Promoter (P : Type) := Db P → ℕ → Db P × Promotion P

namespace Db

def failPendingClaimsForSpot (db : Db P) (spotId : ℕ) : Db P :=
  db.updateClaimStatus (fun c => c.spotId = spotId ∧ c.status = .pending) .failed

def failPendingStandardDurationClaimsIfCapacityFull (db : Db P) (spotId : ℕ) : Db P :=
  match db.getSpot spotId with
  | none => db
  | some spot =>
    if spot.prizeCount.isSome then db
    else if spot.claimDuration = 0 ∨ spot.maxTotalClaims = 0 then db
    else if db.countClaimsByStatusForSpot spotId .success < spot.maxTotalClaims then db
    else db.failPendingClaimsForSpot spotId

end Db

/-- The promoter as `db_access` defines it. -/
def promotePendingClaimToSuccessIfCapacityAvailable : Promoter P := fun db claimId =>
  match db.getClaim claimId with
  | none => (db, ⟨none, none⟩)
  | some claim =>
    if claim.status ≠ .pending then (db, ⟨some claim, none⟩)
    else match db.getSpot claim.spotId with
      | none => (db, ⟨some claim, none⟩)
      | some spot =>
        if spot.prizeCount.isSome then
          let db' := db.setClaimStatusToSuccess claimId
          (db', ⟨db'.getClaim claimId, some (true, "prizedraw_entry_promoted")⟩)
        else if spot.maxTotalClaims = 0 then
          let db' := db.setClaimStatusToSuccess claimId
          (db', ⟨db'.getClaim claimId, some (true, "unlimited_standard_spot")⟩)
        else if db.countClaimsByStatusForSpot claim.spotId .success < spot.maxTotalClaims then
          -- the conditional UPDATE found the row pending and a place free
          let db' := db.setClaimStatusToSuccess claimId
          (db'.failPendingStandardDurationClaimsIfCapacityFull claim.spotId,
            ⟨db'.getClaim claimId, some (true, "promoted_with_capacity")⟩)
        else
          let db' := db.setClaimStatusToFailed claimId
          (db', ⟨db'.getClaim claimId, some (false, "capacity_full_claim_failed")⟩)

/-- Once a Prizedraw is completed its PENDING claims are the selected winners. -/
def Spot.isCompletedPrizedraw (spot : Spot P) : Bool :=
  spot.status = .completed ∧ spot.prizeCount.isSome = true

def refreshClaimStatusFromConditions (promote : Promoter P) (db : Db P) (claimId : ℕ) :
    Db P × Option (Claim P) :=
  match db.getClaim claimId with
  | none => (db, none)
  | some claim =>
    if claim.status ≠ .pending then (db, some claim)
    else match db.getSpot claim.spotId with
      | none => (db, some claim)
      | some spot =>
        if spot.isCompletedPrizedraw then (db, some claim)
        else if spot.claimDuration = 0 then
          let promoted := promote db claimId
          (promoted.1, promoted.2.claim)
        else if claimLocationStaleAfterSeconds < db.now - claim.updatedAt then
          let db' := db.setClaimStatusToFailed claimId
          (db', db'.getClaim claimId)
        else if claim.claimedAt + spot.claimDuration ≤ db.now then
          let promoted := promote db claimId
          (promoted.1, promoted.2.claim)
        else (db, some claim)

/-- The score left after one heartbeat: the penalty as a binary64 number, and its difference as one. -/
def nextScore (score penalty : ℚ) : ℚ :=
  max 0 (binary64 roundHalfEven (max 0 (min 1 score) - binary64 roundHalfEven penalty))

/-- The part of a heartbeat after the refresh left the claim PENDING. -/
def recordHeartbeat (cfg : Settings P) (promote : Promoter P) (db : Db P) (claim : Claim P)
    (spot : Spot P) (position : P) (locationAccuracyMetres : Option ℚ) : Outcome P (Claim P) :=
  match getClaimDistanceCheck cfg db claim.spotId position locationAccuracyMetres with
  | .error e => (db, .error e)
  | .ok none => (db, .ok claim)
  | .ok (some check) =>
    let penalty := durationClaimPenalty check.effectiveDistanceMetres check.radiusMetres
    let score := nextScore claim.accuracy penalty
    let shouldPromote := 0 < score ∧ claim.claimedAt + spot.claimDuration ≤ db.now
    let nextStatus : ClaimStatus := if score ≤ 0 then .failed else .pending
    let db' := db.modifyClaimLocationScore claim.id position score nextStatus
    let after := if shouldPromote then
        let promoted := promote db' claim.id
        (promoted.1, promoted.2.claim)
      else (db', db'.getClaim claim.id)
    match after.2 with
    | none => (after.1, .error (.runtimeError "Claim disappeared during heartbeat"))
    | some claim => (after.1, .ok claim)

def processDurationClaimLocationHeartbeat (cfg : Settings P) (promote : Promoter P) (db : Db P)
    (claimId userId : ℕ) (position : P) (locationAccuracyMetres : Option ℚ) : Outcome P (Claim P) :=
  match db.getClaim claimId with
  | none => (db, .error (.valueError "Claim not found."))
  | some claim =>
    if claim.recipient ≠ userId then
      (db, .error (.permissionError "This claim does not belong to this device account."))
    else
      let refreshed := refreshClaimStatusFromConditions promote db claimId
      match refreshed.2 with
      | none => (refreshed.1, .error (.valueError "Claim not found."))
      | some claim =>
        if claim.status ≠ .pending then (refreshed.1, .ok claim)
        else match refreshed.1.getSpot claim.spotId with
          | none => (refreshed.1, .ok claim)
          | some spot =>
            if spot.claimDuration = 0 then
              let promoted := promote refreshed.1 claimId
              match promoted.2.claim with
              | none => (promoted.1, .error (.runtimeError "Claim disappeared during heartbeat"))
              | some claim => (promoted.1, .ok claim)
            else recordHeartbeat cfg promote refreshed.1 claim spot position locationAccuracyMetres

end NimHunt
