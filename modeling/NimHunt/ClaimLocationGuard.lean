import NimHunt.DbAccess.ClaimRules
import Mathlib.Data.Rat.Floor
import Mathlib.Data.List.Sort

/-!
# The claim location guard

`claim_location_guard.py`: travel between the Spots of a user's claims, timed by the claim rows,
with a first cooldown, a mercy rule and an automatic ban.
-/

namespace NimHunt

variable {P : Type}

def recentClaimLimit : ℕ := 5
def hardBanMinDistanceMetres : ℚ := 3000
def hardBanMaxSpeedMetresPerSecond : ℚ := 500
def softCooldownMinDistanceMetres : ℚ := 1000
def softCooldownMaxSpeedMetresPerSecond : ℚ := 75

/-- A place the guard trusts: the centre and radius of a Spot. -/
structure SpotAnchor (P : Type) where
  spotId : ℕ
  centre : P
  radius : ℕ

/-- A claim of the user at an anchor, with the time its row is taken to prove. -/
structure ClaimAnchor (P : Type) extends SpotAnchor P where
  claimId : ℕ
  observedAt : ℕ

structure TravelMetrics where
  minimumTravelDistanceMetres : ℚ
  impliedSpeedMetresPerSecond : ℚ
  hardViolation : Bool
  softViolation : Bool
  retryAt : ℕ
  deriving DecidableEq, Repr

inductive LocationAction
  | allow | newCooldown | cooldown | ban
  deriving DecidableEq, Repr

structure LocationDecision where
  action : LocationAction
  reason : String
  retryAt : ℕ
  previousClaimId : ℕ
  deriving DecidableEq, Repr

/-- `_claim_observed_at`: a PENDING duration claim is dated by its last update. -/
def claimObservedAt (claim : Claim P) (claimDuration : ℕ) : ℕ :=
  if claim.status = .pending ∧ 0 < claimDuration then max claim.claimedAt claim.updatedAt
  else claim.claimedAt

def Db.spotAnchor (db : Db P) (spotId : ℕ) : Option (SpotAnchor P) :=
  (db.getSpot spotId).bind fun spot =>
    spot.position.map fun centre => ⟨spotId, centre, spot.radius⟩

def Db.claimAnchorOf (db : Db P) (claim : Claim P) : Option (ClaimAnchor P) :=
  (db.getSpot claim.spotId).bind fun spot =>
    spot.position.map fun centre =>
      { spotId := claim.spotId, centre := centre, radius := spot.radius, claimId := claim.id,
        observedAt := claimObservedAt claim spot.claimDuration }

/-- `ORDER BY claimed_at DESC, id DESC LIMIT 5` over the user's claims at located Spots. -/
def Db.recentClaimAnchors (db : Db P) (userId : ℕ) : List (ClaimAnchor P) :=
  let located := (db.claims.filter fun c => c.recipient = userId ∧ (db.claimAnchorOf c).isSome = true)
  let newest := located.insertionSort fun a b =>
    b.claimedAt < a.claimedAt ∨ b.claimedAt = a.claimedAt ∧ b.id ≤ a.id
  (newest.take recentClaimLimit).filterMap db.claimAnchorOf

def Db.claimAnchor (db : Db P) (userId claimId : ℕ) : Option (ClaimAnchor P) :=
  ((db.getClaim claimId).filter fun c => c.recipient = userId).bind db.claimAnchorOf

def travelMetrics (cfg : Settings P) (previous target : SpotAnchor P) (observedAt checkedAt : ℕ) :
    TravelMetrics :=
  let centreDistance := cfg.distanceMetres previous.centre target.centre
  let minimumDistance := max 0 (centreDistance - previous.radius - target.radius)
  if checkedAt < observedAt then
    -- a backwards server clock is not evidence against the user
    ⟨minimumDistance, 0, false, false, checkedAt⟩
  else
    let speed := minimumDistance / ((max 1 (checkedAt - observedAt) : ℕ) : ℚ)
    { minimumTravelDistanceMetres := minimumDistance
      impliedSpeedMetresPerSecond := speed
      hardViolation := hardBanMinDistanceMetres ≤ minimumDistance ∧ hardBanMaxSpeedMetresPerSecond < speed
      softViolation :=
        softCooldownMinDistanceMetres ≤ minimumDistance ∧ softCooldownMaxSpeedMetresPerSecond < speed
      retryAt := observedAt + max 1 (⌈minimumDistance / softCooldownMaxSpeedMetresPerSecond⌉₊ + 1) }

/-- The first row that no later row beats. -/
def pickBest {α : Type} (better : α → α → Bool) : Option α → List α → Option α
  | best, [] => best
  | none, x :: xs => pickBest better (some x) xs
  | some best, x :: xs => pickBest better (some (if better x best then x else best)) xs

/-- `_trusted_travel_decision`: the fastest hard jump, else the longest soft wait. -/
def trustedTravelDecision (cfg : Settings P) (db : Db P) (userId : ℕ) (target : SpotAnchor P)
    (checkedAt : ℕ) : LocationDecision :=
  let candidates := (db.recentClaimAnchors userId).map fun anchor =>
    (anchor, travelMetrics cfg anchor.toSpotAnchor target anchor.observedAt checkedAt)
  let hard := pickBest (fun x y => y.2.impliedSpeedMetresPerSecond < x.2.impliedSpeedMetresPerSecond) none
    (candidates.filter fun c => c.2.hardViolation)
  let soft := pickBest (fun x y => y.2.retryAt < x.2.retryAt) none
    (candidates.filter fun c => c.2.softViolation)
  match hard, soft with
  | some (anchor, metrics), _ => ⟨.ban, "hard_trusted_jump", metrics.retryAt, anchor.claimId⟩
  | none, some (anchor, metrics) => ⟨.newCooldown, "soft_trusted_jump", metrics.retryAt, anchor.claimId⟩
  | none, none => ⟨.allow, "", checkedAt, 0⟩

namespace Db

def saveSuspicion (db : Db P) (userId : ℕ) (value : ClaimLocationSuspicion) : Db P :=
  { db with locationSuspicion := Function.update db.locationSuspicion userId (some value) }

def clearSuspicion (db : Db P) (userId : ℕ) : Db P :=
  { db with locationSuspicion := Function.update db.locationSuspicion userId none }

end Db

/-- `_active_cooldown_decision`: `none` when the marker has ended or lost an anchor. -/
def activeCooldownDecision (cfg : Settings P) (db : Db P) (userId : ℕ) (target : SpotAnchor P)
    (suspicion : ClaimLocationSuspicion) (checkedAt : ℕ) : Db P × Option LocationDecision :=
  if suspicion.retryAt ≤ checkedAt then (db.clearSuspicion userId, none)
  else if target.spotId = suspicion.lastAttemptedSpotId then
    (db, some ⟨.cooldown, "consecutive_duplicate", suspicion.retryAt, suspicion.trustedClaimId⟩)
  else match db.claimAnchor userId suspicion.trustedClaimId,
      db.spotAnchor suspicion.suspiciousSpotId, db.spotAnchor suspicion.lastAttemptedSpotId with
    | some trusted, some original, some previous =>
      let previousMetrics := travelMetrics cfg previous target suspicion.lastAttemptedAt checkedAt
      let trustedMetrics := travelMetrics cfg trusted.toSpotAnchor target trusted.observedAt checkedAt
      let originalMetrics := travelMetrics cfg original target suspicion.attemptedAt checkedAt
      if previousMetrics.softViolation && trustedMetrics.softViolation && originalMetrics.softViolation then
        (db, some ⟨.ban, "second_suspicious_jump", previousMetrics.retryAt, suspicion.trustedClaimId⟩)
      else
        (db.saveSuspicion userId
            { suspicion with lastAttemptedSpotId := target.spotId, lastAttemptedAt := checkedAt },
          some ⟨.cooldown,
            if previousMetrics.softViolation then "mercy_rule" else "plausible_cooldown_movement",
            suspicion.retryAt, suspicion.trustedClaimId⟩)
    | _, _, _ => (db.clearSuspicion userId, none)

def getClaimLocationDecision (cfg : Settings P) (db : Db P) (userId targetSpotId : ℕ) :
    Db P × LocationDecision :=
  match db.spotAnchor targetSpotId with
  | none => (db, ⟨.allow, "", db.now, 0⟩)
  | some target =>
    let trusted := trustedTravelDecision cfg db userId target db.now
    if trusted.action = .ban then (db, trusted)
    else
      let active := match db.locationSuspicion userId with
        | none => (db, none)
        | some suspicion => activeCooldownDecision cfg db userId target suspicion db.now
      match active with
      | (db', some decision) => (db', decision)
      | (db', none) =>
        if trusted.action = .newCooldown then
          (db'.saveSuspicion userId
              { trustedClaimId := trusted.previousClaimId, suspiciousSpotId := targetSpotId,
                attemptedAt := db.now, retryAt := trusted.retryAt,
                lastAttemptedSpotId := targetSpotId, lastAttemptedAt := db.now },
            { trusted with action := .cooldown, reason := "new_suspicious_cooldown" })
        else (db', trusted)

lemma activeCooldownDecision_writes (cfg : Settings P) (db : Db P) (userId : ℕ) (target : SpotAnchor P)
    (suspicion : ClaimLocationSuspicion) (checkedAt : ℕ) :
    ∃ markers, (activeCooldownDecision cfg db userId target suspicion checkedAt).1 =
      { db with locationSuspicion := markers } := by
  simp only [activeCooldownDecision]
  split_ifs
  · exact ⟨_, rfl⟩
  · exact ⟨_, rfl⟩
  · split
    · split_ifs <;> exact ⟨_, rfl⟩
    · exact ⟨_, rfl⟩

/-- The decision writes nothing but cooldown markers. -/
lemma getClaimLocationDecision_writes (cfg : Settings P) (db : Db P) (userId targetSpotId : ℕ) :
    ∃ markers, (getClaimLocationDecision cfg db userId targetSpotId).1 =
      { db with locationSuspicion := markers } := by
  simp only [getClaimLocationDecision]
  cases db.spotAnchor targetSpotId with
  | none => exact ⟨_, rfl⟩
  | some target =>
    dsimp only
    by_cases hban : (trustedTravelDecision cfg db userId target db.now).action = .ban
    · simp only [hban, if_true]
      exact ⟨_, rfl⟩
    · simp only [hban, if_false]
      cases db.locationSuspicion userId with
      | none =>
        dsimp only
        by_cases hnew : (trustedTravelDecision cfg db userId target db.now).action = .newCooldown
        · simp only [hnew, if_true]
          exact ⟨_, rfl⟩
        · simp only [hnew, if_false]
          exact ⟨_, rfl⟩
      | some suspicion =>
        dsimp only
        obtain ⟨markers, hactive⟩ := activeCooldownDecision_writes cfg db userId target suspicion db.now
        rcases hdecision : activeCooldownDecision cfg db userId target suspicion db.now with
          ⟨db', _ | decision⟩ <;> rw [hdecision] at hactive
        · dsimp only at hactive ⊢
          subst hactive
          by_cases hnew : (trustedTravelDecision cfg db userId target db.now).action = .newCooldown
          · simp only [hnew, if_true]
            exact ⟨_, rfl⟩
          · simp only [hnew, if_false]
            exact ⟨_, rfl⟩
        · exact ⟨markers, hactive⟩

/-- A claim creator: the value bound to `db_access.create_claim`. -/
abbrev ClaimCreator (P : Type) :=
  Db P → (spotId userId : ℕ) → P → (accuracy : ℚ) → Option Address → Outcome P ℕ

/-- `db_access.create_claim`. -/
def createClaim (cfg : Settings P) : ClaimCreator P :=
  fun db spotId userId position accuracy payoutAddress =>
    match cfg.cleanOptionalNimiqAddress payoutAddress with
    | .error message => (db, .error (.valueError message))
    | .ok clean => db.insertClaim spotId userId clean position accuracy

/-- The guarded creator that start-up binds in its place. -/
def createClaimWithImpossibleTravelGuard (cfg : Settings P) : ClaimCreator P :=
  fun db spotId userId position accuracy payoutAddress =>
    match cfg.cleanOptionalNimiqAddress payoutAddress with
    | .error message => (db, .error (.valueError message))
    | .ok clean =>
      let (db', decision) := getClaimLocationDecision cfg db userId spotId
      match decision.action with
      | .ban =>
        ((db'.setUserStatusToBanned userId).clearSuspicion userId,
          .error (.valueError ("This device account has been banned because recent claim locations " ++
            "could not have been reached in the time available.")))
      | .cooldown =>
        (db', .error (.claimLocationCooldown decision.retryAt db.now))
      | _ =>
        match createClaim cfg db' spotId userId position accuracy clean with
        | (db'', .error e) => (db'', .error e)
        | (db'', .ok claimId) => (db''.clearSuspicion userId, .ok claimId)

/-- What the guarded creator can do: refuse without touching a claim, or insert as `create_claim`. -/
lemma createClaimWithImpossibleTravelGuard_cases (cfg : Settings P) (db : Db P) (spotId userId : ℕ)
    (position : P) (accuracy : ℚ) (payoutAddress : Option Address) :
    (∃ users markers e, createClaimWithImpossibleTravelGuard cfg db spotId userId position accuracy payoutAddress =
      ({ db with users := users, locationSuspicion := markers }, .error e) ∧
        e ≠ .publicClaimBehaviorRestriction) ∨
    ∃ markers clean, createClaimWithImpossibleTravelGuard cfg db spotId userId position accuracy payoutAddress =
      match createClaim cfg { db with locationSuspicion := markers } spotId userId position accuracy clean with
      | (db', .error e) => (db', .error e)
      | (db', .ok claimId) => (db'.clearSuspicion userId, .ok claimId) := by
  simp only [createClaimWithImpossibleTravelGuard]
  cases cfg.cleanOptionalNimiqAddress payoutAddress with
  | error message => exact .inl ⟨db.users, db.locationSuspicion, _, rfl, by simp⟩
  | ok clean =>
    dsimp only
    obtain ⟨markers, hwrites⟩ := getClaimLocationDecision_writes cfg db userId spotId
    rcases hdecision : getClaimLocationDecision cfg db userId spotId with ⟨db', decision⟩
    rw [hdecision] at hwrites
    dsimp only at hwrites ⊢
    subst hwrites
    cases decision.action with
    | ban => exact .inl ⟨_, _, _, rfl, by simp⟩
    | cooldown => exact .inl ⟨_, _, _, rfl, by simp⟩
    | allow => exact .inr ⟨markers, clean, rfl⟩
    | newCooldown => exact .inr ⟨markers, clean, rfl⟩

end NimHunt
