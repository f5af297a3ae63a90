import NimHunt.DbAccess.ClaimRules

/-!
# The location behaviour guard

`location_behavior_guard.py`: bounded evidence about exact positioning at public Spots, and the
temporary restriction that matured evidence starts.
-/

namespace NimHunt

variable {P : Type}

def nearExactCentreMetres : ℚ := 3 / 2
def centreDistinctLocationsRequired : ℕ := 3
def insideStreakLocationsRequired : ℕ := 4
def sameRewardLocationMetres : ℚ := 25
def signedRetryWindowSeconds : ℕ := 30 * 60
def temporaryRestrictionSeconds : ℕ := 24 * 60 * 60
def maxDiagnosticCount : ℕ := 255
def behaviorStateVersion : ℕ := 2

def saturated (value increment : ℕ) : ℕ := min maxDiagnosticCount (value + increment)

namespace LocationBehaviorState

def empty : LocationBehaviorState where
  version := behaviorStateVersion
  meaningfulObservations := 0
  signedInsideObservations := 0
  browserOutsideObservations := 0
  centreLocationSpotIds := []
  insideStreakSpotIds := []
  outsideSinceLastInside := true
  restrictedUntil := 0
  lastSigned := none
  lastOutsideObservedAt := 0

/-- Older versions keep their counters and an issued restriction, but no evidence. -/
def migrate : Option LocationBehaviorState → LocationBehaviorState
  | none => empty
  | some state =>
    let counted := { state with
      meaningfulObservations := saturated state.meaningfulObservations 0
      signedInsideObservations := saturated state.signedInsideObservations 0
      browserOutsideObservations := saturated state.browserOutsideObservations 0 }
    if state.version ≠ behaviorStateVersion then
      { empty with
        meaningfulObservations := counted.meaningfulObservations
        signedInsideObservations := counted.signedInsideObservations
        browserOutsideObservations := counted.browserOutsideObservations
        restrictedUntil := state.restrictedUntil }
    else { counted with
      centreLocationSpotIds := state.centreLocationSpotIds.take centreDistinctLocationsRequired
      insideStreakSpotIds := state.insideStreakSpotIds.take insideStreakLocationsRequired }

@[simp] lemma saturated_saturated (value : ℕ) :
    saturated (saturated value 0) 0 = saturated value 0 := by
  simp [saturated]

lemma migrate_version (stored : Option LocationBehaviorState) :
    (migrate stored).version = behaviorStateVersion := by
  cases stored with
  | none => rfl
  | some state =>
    by_cases h : state.version = behaviorStateVersion
    · simp [migrate, h]
    · simp [migrate, h, empty]

/-- What is read back is what was saved. -/
theorem migrate_migrate (stored : Option LocationBehaviorState) :
    migrate (some (migrate stored)) = migrate stored := by
  cases stored with
  | none => rfl
  | some state =>
    by_cases h : state.version = behaviorStateVersion
    · simp [migrate, h]
    · simp [migrate, h, empty, saturated]

def currentlyRestricted (state : LocationBehaviorState) (now : ℕ) : Bool := now < state.restrictedUntil

def newEvidenceMatured (state : LocationBehaviorState) : Bool :=
  centreDistinctLocationsRequired ≤ state.centreLocationSpotIds.length ∧
    insideStreakLocationsRequired ≤ state.insideStreakSpotIds.length

def consumeEpisode (state : LocationBehaviorState) (now : ℕ) : LocationBehaviorState :=
  { state with
    restrictedUntil := now + temporaryRestrictionSeconds
    centreLocationSpotIds := []
    insideStreakSpotIds := []
    outsideSinceLastInside := true
    lastSigned := none }

/-- A second signed request for the same Spot inside the retry window is the same event. -/
def isRetry (state : LocationBehaviorState) (spotId checkedAt : ℕ) : Bool :=
  match state.lastSigned with
  | none => false
  | some (lastSpotId, observedAt) =>
    lastSpotId = spotId ∧ checkedAt - observedAt < signedRetryWindowSeconds

end LocationBehaviorState

open LocationBehaviorState

/-- `get_state`: the stored evidence of one user, migrated. -/
def Db.behaviorState (db : Db P) (userId : ℕ) : LocationBehaviorState := migrate (db.locationBehavior userId)

def Db.saveBehaviorState (db : Db P) (userId : ℕ) (state : LocationBehaviorState) : Db P :=
  { db with locationBehavior := Function.update db.locationBehavior userId (some (migrate (some state))) }

lemma Db.behaviorState_saveBehaviorState (db : Db P) (userId : ℕ) (state : LocationBehaviorState) :
    (db.saveBehaviorState userId state).behaviorState userId = migrate (some state) := by
  simp [behaviorState, saveBehaviorState, migrate_migrate]

/-- Whether a canonical centre lies within 25 m of one already in the list. -/
def sameRewardLocation (cfg : Settings P) (db : Db P) (spot : Spot P) (centre : P) (priorSpotIds : List ℕ) :
    Bool :=
  priorSpotIds.any fun priorId =>
    priorId == spot.id ||
    match (db.getSpot priorId).bind Spot.position with
    | none => false
    | some prior => cfg.distanceMetres centre prior ≤ sameRewardLocationMetres

/-- The evidence after one signed inside event. -/
def recordSignedInside (cfg : Settings P) (db : Db P) (state : LocationBehaviorState) (spot : Spot P)
    (centre : P) (distance : ℚ) (checkedAt : ℕ) : LocationBehaviorState :=
  { state with
    insideStreakSpotIds :=
      if sameRewardLocation cfg db spot centre state.insideStreakSpotIds then state.insideStreakSpotIds
      else (state.insideStreakSpotIds ++ [spot.id]).take insideStreakLocationsRequired
    centreLocationSpotIds :=
      if distance ≤ nearExactCentreMetres ∧
          sameRewardLocation cfg db spot centre state.centreLocationSpotIds = false then
        (state.centreLocationSpotIds ++ [spot.id]).take centreDistinctLocationsRequired
      else state.centreLocationSpotIds
    outsideSinceLastInside := false
    meaningfulObservations := saturated state.meaningfulObservations 1
    signedInsideObservations := saturated state.signedInsideObservations 1
    lastSigned := some (spot.id, checkedAt) }

/-- Evidence after the optional record and the maturity check of one signed claim. -/
def signedClaimEvidence (cfg : Settings P) (db : Db P) (state : LocationBehaviorState) (spot : Spot P)
    (centre position : P) (checkedAt : ℕ) : LocationBehaviorState :=
  let distance := cfg.distanceMetres position centre
  let recorded :=
    if !state.isRetry spot.id checkedAt && decide (distance ≤ spot.radius) then
      recordSignedInside cfg db state spot centre distance checkedAt
    else state
  if recorded.newEvidenceMatured then recorded.consumeEpisode checkedAt else recorded

/-- `observe_signed_claim`: whether the claim is refused, and the evidence it leaves. -/
def observeSignedClaim (cfg : Settings P) (db : Db P) (userId : ℕ) (spot : Spot P) (position : P)
    (now : ℕ) : Outcome P Bool :=
  if spot.createdBy = userId then (db, .ok false)
  else if spot.usePassword then (db, .ok false)
  else if !db.isSpotCurrentlyClaimable spot.id then (db, .ok false)
  else
    let state := db.behaviorState userId
    if state.currentlyRestricted now then (db, .ok true)
    else match spot.position with
      | none =>
        (db, .error (.typeError "float() argument must be a string or a real number, not 'NoneType'"))
      | some centre =>
        let evidence := signedClaimEvidence cfg db state spot centre position now
        (db.saveBehaviorState userId evidence, .ok (evidence.currentlyRestricted now))

def outsidePollWindowSeconds : ℕ := 6 * 60 * 60

/-- `_claimable_public_spots`: the eligible Spots, the user's own left out. -/
def Db.claimablePublicSpots (db : Db P) (userId : ℕ) : List (Spot P) :=
  db.spots.filter fun spot =>
    db.isSpotCurrentlyClaimable spot.id && !spot.usePassword && decide (spot.createdBy ≠ userId)

def insideAny (cfg : Settings P) (spots : List (Spot P)) (position : P) : Bool :=
  spots.any fun spot => spot.position.any fun centre => cfg.distanceMetres position centre ≤ max 0 (spot.radius : ℚ)

/-- The evidence after an outside poll; a poll that repeats a recent one leaves none. -/
def outsideEvidence (state : LocationBehaviorState) (checkedAt : ℕ) : Option LocationBehaviorState :=
  let transition := !state.outsideSinceLastInside
  let recentlyOutside := decide (checkedAt - state.lastOutsideObservedAt < outsidePollWindowSeconds)
  if !transition && recentlyOutside then none
  else some { state with
    meaningfulObservations := saturated state.meaningfulObservations 1
    browserOutsideObservations := saturated state.browserOutsideObservations 1
    outsideSinceLastInside := true
    insideStreakSpotIds := []
    lastSigned := if transition then none else state.lastSigned
    lastOutsideObservedAt := checkedAt }

/-- The transaction of `observe_find_location`, which only a browser outside every Spot gets to. -/
def Db.recordOutside (db : Db P) (userId checkedAt : ℕ) : Db P :=
  match outsideEvidence (db.behaviorState userId) checkedAt with
  | none => db
  | some evidence => db.saveBehaviorState userId evidence

end NimHunt
