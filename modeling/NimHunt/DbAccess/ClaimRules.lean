import NimHunt.Database

/-!
# Claim rules

The public list view, capacity, per-user limits, distance, and `get_claim_rule_check`.
-/

namespace NimHunt

variable {P : Type}

def claimLocationMaxAccuracyMarginMetres : ℚ := 50
def claimLocationSoftOutsideMarginMetres : ℚ := 25
def claimLocationSoftPenalty : ℚ := 1 / 10
def claimLocationHardPenalty : ℚ := 35 / 100
def claimLocationStaleAfterSeconds : ℕ := 3 * 60

def locationAccuracyMarginMetres (reading : Option ℚ) : ℚ :=
  match reading with
  | none => 0
  | some reading => min (max 0 reading) claimLocationMaxAccuracyMarginMetres

def durationClaimPenalty (effectiveDistance : ℚ) (radiusMetres : ℕ) : ℚ :=
  let outsideBy := max 0 (effectiveDistance - radiusMetres)
  if outsideBy ≤ 0 then 0
  else if outsideBy ≤ claimLocationSoftOutsideMarginMetres then claimLocationSoftPenalty
  else claimLocationHardPenalty

structure DistanceCheck where
  distanceMetres : ℚ
  radiusMetres : ℕ
  effectiveDistanceMetres : ℚ
  withinRadius : Bool
  deriving DecidableEq, Repr

structure ClaimRuleCheck where
  allowed : Bool
  reason : Option String
  message : Option String
  deriving DecidableEq, Repr

/-- The active window has no end before publishing stamps its start. -/
def Spot.windowOpen (now : ℕ) (spot : Spot P) : Bool :=
  match spot.startsAt with
  | none => true
  | some startsAt => now < startsAt + spot.endsAt

/-- `availability_rank = 0`: the Spot has started. -/
def Spot.isAvailable (now : ℕ) (spot : Spot P) : Bool :=
  match spot.startsAt with
  | none => true
  | some startsAt => startsAt ≤ now

/-- The first blocker that holds names the refusal. -/
def ruleOfBlockers (blockers : List (Bool × String × String)) : ClaimRuleCheck :=
  match blockers.find? fun blocker => blocker.1 with
  | some (_, reason, message) => ⟨false, some reason, some message⟩
  | none => ⟨true, none, none⟩

lemma ruleOfBlockers_allowed {blockers : List (Bool × String × String)} :
    (ruleOfBlockers blockers).allowed = true ↔ ∀ blocker ∈ blockers, blocker.1 = false := by
  unfold ruleOfBlockers
  cases h : blockers.find? fun blocker => blocker.1 with
  | none => simpa using h
  | some blocker =>
    have hmem := List.mem_of_find?_eq_some h
    have htrue : blocker.1 = true := List.find?_some h
    simp only [Bool.false_eq_true, false_iff, not_forall]
    exact ⟨blocker, hmem, by simp [htrue]⟩

namespace Db

/-- A durable marker on the Spot, or any cancellation leg in the ledger. -/
def hasSpotCancellationStarted (db : Db P) (spotId : ℕ) : Bool :=
  (match db.getSpot spotId with
    | some spot => spot.cancellationStartedAt.isSome
    | none => false) ||
  db.trans.any fun t => t.spotId = some spotId ∧ (t.type = .cancelSpot ∨ t.type = .platFee)

/-- One row of `view_public_spot_list`. -/
def getPublicSpot (db : Db P) (spotId : ℕ) : Option (Spot P) :=
  (db.getSpot spotId).filter fun spot =>
    spot.status = .published ∧ db.hasSpotCancellationStarted spotId = false ∧
      spot.position.isSome = true ∧ spot.windowOpen db.now = true

def spotHasPublicClaimCapacity (db : Db P) (spot : Spot P) : Bool :=
  let success := db.countClaimsByStatusForSpot spot.id .success
  let counted :=
    if spot.prizeCount.isSome then success + db.countClaimsByStatusForSpot spot.id .pending else success
  let codes := db.claimCodes.countP fun cc => cc.spotId = spot.id
  let unused := db.claimCodes.countP fun cc => cc.spotId = spot.id ∧ cc.usedBy = none
  if 0 < spot.maxTotalClaims ∧ spot.maxTotalClaims ≤ counted then false
  else !(0 < codes && unused == 0)

def isSpotClaimCapacityAvailable (db : Db P) (spotId : ℕ) : Bool :=
  match db.getSpot spotId with
  | none => false
  | some spot => db.spotHasPublicClaimCapacity spot

def isSpotCurrentlyClaimable (db : Db P) (spotId : ℕ) : Bool :=
  match db.getPublicSpot spotId with
  | none => false
  | some spot => spot.isAvailable db.now && db.isSpotClaimCapacityAvailable spotId

def canUserClaim (db : Db P) (userId : ℕ) : Bool :=
  match db.getUser userId with
  | none => false
  | some user => user.status = .active ∨ user.status = .limited

/-- Claims that count against a user's limit: SUCCESS, and on a Prizedraw PENDING entries too. -/
def countsAgainstLimit (db : Db P) (spotId : ℕ) (claim : Claim P) : Bool :=
  claim.spotId = spotId ∧
    (claim.status = .success ∨ db.isPrizedraw spotId = true ∧ claim.status = .pending)

def countActiveClaimsForUserSpot (db : Db P) (spotId userId : ℕ) : ℕ :=
  db.claims.countP fun c => db.countsAgainstLimit spotId c ∧ c.recipient = userId

def hasUserReachedClaimLimit (db : Db P) (spotId userId : ℕ) : Bool :=
  match db.getSpot spotId with
  | none => true
  | some spot =>
    if spot.maxClaimsPerUser = 0 then false
    else spot.maxClaimsPerUser ≤ db.countActiveClaimsForUserSpot spotId userId

end Db

/-- `get_claim_distance_check`; a Spot without coordinates makes the float conversion raise. -/
def getClaimDistanceCheck (cfg : Settings P) (db : Db P) (spotId : ℕ) (position : P)
    (locationAccuracyMetres : Option ℚ) : Except Raised (Option DistanceCheck) :=
  match db.getSpot spotId with
  | none => .ok none
  | some spot =>
    match spot.position with
    | none => .error (.typeError "float() argument must be a string or a real number, not 'NoneType'")
    | some centre =>
      let distance := cfg.distanceMetres position centre
      let effective := max 0 (distance - locationAccuracyMarginMetres locationAccuracyMetres)
      .ok (some ⟨distance, spot.radius, effective, effective ≤ spot.radius⟩)

/-- The ordered claim rules; the first that fails names the rejection. -/
def getClaimRuleCheck (cfg : Settings P) (db : Db P) (spotId userId : ℕ) (position : Option P)
    (locationAccuracyMetres : Option ℚ) : Except Raised ClaimRuleCheck := do
  let ownSpot := match db.getSpot spotId with
    | some spot => decide (spot.createdBy = userId)
    | none => false
  let spotCurrent := match db.getPublicSpot spotId with
    | some spot => spot.isAvailable db.now
    | none => false
  let distance ← match position with
    | some position => getClaimDistanceCheck cfg db spotId position locationAccuracyMetres
    | none => .ok none
  let withinRadius := match distance with
    | some check => check.withinRadius
    | none => false
  return ruleOfBlockers [
    (!db.canUserClaim userId, "user_not_allowed", "This device account cannot claim spots."),
    (ownSpot, "own_spot", "You cannot claim your own spot."),
    (db.hasSpotCancellationStarted spotId, "cancellation_pending",
      "This spot is being cancelled and can no longer be claimed."),
    (!spotCurrent, "not_active", "This spot is not active right now."),
    (!db.isSpotClaimCapacityAvailable spotId, "capacity_full",
      "This spot has no remaining claim capacity."),
    (db.hasUserReachedClaimLimit spotId userId, "user_limit_reached",
      "You have already reached your claim limit for this spot."),
    (position.isNone, "location_unknown", "Your location is unknown."),
    (!withinRadius, "outside_radius", "Move inside the spot radius to claim.")]

/-- What an allowed claim has been checked for. -/
structure ClaimAllowed (cfg : Settings P) (db : Db P) (spotId userId : ℕ) (position : P)
    (locationAccuracyMetres : Option ℚ) : Prop where
  userOk : db.canUserClaim userId = true
  notOwn : ∀ spot, db.getSpot spotId = some spot → spot.createdBy ≠ userId
  notCancelling : db.hasSpotCancellationStarted spotId = false
  current : ∃ spot, db.getPublicSpot spotId = some spot ∧ spot.isAvailable db.now = true
  capacity : db.isSpotClaimCapacityAvailable spotId = true
  userLimit : db.hasUserReachedClaimLimit spotId userId = false
  near : ∃ check, getClaimDistanceCheck cfg db spotId position locationAccuracyMetres = .ok (some check) ∧
    check.withinRadius = true

lemma claimAllowed_of_rule {cfg : Settings P} {db : Db P} {spotId userId : ℕ} {position : P}
    {accuracy : Option ℚ} {rule : ClaimRuleCheck}
    (h : getClaimRuleCheck cfg db spotId userId (some position) accuracy = .ok rule)
    (hallowed : rule.allowed = true) : ClaimAllowed cfg db spotId userId position accuracy := by
  simp only [getClaimRuleCheck, bind, Except.bind, pure, Except.pure] at h
  cases hd : getClaimDistanceCheck cfg db spotId position accuracy with
  | error e => simp [hd] at h
  | ok distance =>
    simp only [hd, Except.ok.injEq] at h
    rw [← h, ruleOfBlockers_allowed] at hallowed
    simp only [List.mem_cons, List.not_mem_nil, or_false, forall_eq_or_imp, forall_eq,
      Bool.not_eq_false'] at hallowed
    obtain ⟨huser, hown, hcancel, hcurrent, hcapacity, hlimit, -, hnear⟩ := hallowed
    refine ⟨huser, ?_, hcancel, ?_, hcapacity, hlimit, ?_⟩
    · intro spot hspot
      simpa [hspot] using hown
    · cases hp : db.getPublicSpot spotId with
      | none => simp [hp] at hcurrent
      | some spot => exact ⟨spot, rfl, by simpa [hp] using hcurrent⟩
    · cases distance with
      | none => simp at hnear
      | some check => exact ⟨check, hd, hnear⟩

end NimHunt
