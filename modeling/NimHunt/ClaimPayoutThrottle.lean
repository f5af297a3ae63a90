import NimHunt.ClaimSecurity

/-!
# The claim-payout throttle

`claim_payout_throttle.py`: rolling global windows, the open-Spot budgets, and the durable
reservations behind them.  A refusal that needs a person also writes a manual-review hold into the
claim's security record.
-/

namespace NimHunt

variable {P : Type}

structure ThrottleLimits where
  windowSeconds : ℕ := 10 * 60
  maxPayoutCount : ℕ := 8
  maxPayoutLuna : ℕ := 10000 * lunaPerNim
  dailyWindowSeconds : ℕ := 24 * 60 * 60
  dailyMaxPayoutCount : ℕ := 100
  dailyMaxPayoutLuna : ℕ := 50000 * lunaPerNim
  maxAutomaticPayoutLuna : ℕ := 10000 * lunaPerNim
  spotWindowSeconds : ℕ := 24 * 60 * 60
  spotMaxPayoutCount : ℕ := 10
  spotMaxPayoutLuna : ℕ := 5000 * lunaPerNim
  spotLifetimeAutomaticPercent : ℕ := 50

/-- One stored reservation as decoded; a missing number reads as 0. -/
structure RawReservation where
  claimId : ℤ := 0
  amount : ℤ := 0
  reservedAt : ℤ := 0
  shortReservedAt : ℤ := 0
  dailyReservedAt : ℤ := 0
  spotReservedAt : ℤ := 0
  spotId : ℤ := 0
  deriving DecidableEq, Repr

structure Reservation where
  claimId : ℕ
  amount : ℕ
  reservedAt : ℤ
  shortReservedAt : ℤ
  dailyReservedAt : ℤ
  spotReservedAt : ℤ
  spotId : ℤ
  deriving DecidableEq, Repr

/-- The security records and the stored reservations: `none` where the JSON value is no list, or an
item no object of numbers. -/
structure ThrottleStore (P : Type) where
  metadata : SecurityMetadata P := {}
  reservations : Option (List (Option RawReservation)) := some []

structure WindowState where
  now : ℕ
  payoutCount : ℕ
  payoutAmount : ℕ
  oldestCreatedAt : Option ℤ
  deriving DecidableEq, Repr

structure ThrottleDecision where
  allow : Bool
  reason : String
  manualReview : Bool := false
  retryAt : Option ℤ := none
  details : List (String × ℤ) := []
  reservationReused : Bool := false
  reservationCreated : Bool := false
  deriving DecidableEq, Repr

/-- `throttle_decision`. -/
def throttleDecision (limits : ThrottleLimits) (state dailyState : WindowState) (amount : ℕ) : ThrottleDecision :=
  let retryAt : ℤ := match state.oldestCreatedAt with
    | some oldest => oldest + limits.windowSeconds + 1
    | none => state.now + limits.windowSeconds
  let dailyRetry : ℤ := match dailyState.oldestCreatedAt with
    | some oldest => oldest + limits.dailyWindowSeconds + 1
    | none => dailyState.now + limits.dailyWindowSeconds
  let window : List (String × ℤ) :=
    [("window_payout_count", state.payoutCount), ("window_payout_amount", state.payoutAmount)]
  let daily : List (String × ℤ) :=
    [("daily_payout_count", dailyState.payoutCount), ("daily_payout_amount", dailyState.payoutAmount)]
  if limits.maxAutomaticPayoutLuna < amount then
    { allow := false, reason := "individual_automatic_payout_limit", manualReview := true, details := window }
  else if limits.dailyMaxPayoutCount ≤ dailyState.payoutCount then
    { allow := false, reason := "daily_payout_count_limit", retryAt := some dailyRetry, details := daily }
  else if limits.dailyMaxPayoutLuna < dailyState.payoutAmount + amount then
    { allow := false, reason := "daily_payout_amount_limit", retryAt := some dailyRetry, details := daily }
  else if limits.maxPayoutCount ≤ state.payoutCount then
    { allow := false, reason := "global_payout_count_limit", retryAt := some retryAt, details := window }
  else if limits.maxPayoutLuna < state.payoutAmount + amount then
    { allow := false, reason := "global_payout_amount_limit", retryAt := some retryAt, details := window }
  else
    { allow := true, reason := "within_global_payout_limits", details := window }

/-- `_clean_reservations`: one stored item, if it is well formed. -/
def RawReservation.clean (item : RawReservation) : Option Reservation :=
  let orReservedAt (stamp : ℤ) : ℤ := if stamp = 0 then item.reservedAt else stamp
  if item.claimId ≤ 0 ∨ item.amount ≤ 0 ∨ item.reservedAt ≤ 0 then none
  else some {
    claimId := item.claimId.toNat, amount := item.amount.toNat, reservedAt := item.reservedAt,
    shortReservedAt := orReservedAt item.shortReservedAt,
    dailyReservedAt := orReservedAt item.dailyReservedAt,
    spotReservedAt := orReservedAt item.spotReservedAt, spotId := item.spotId }

def cleanReservations (raw : Option (List (Option RawReservation))) : List Reservation :=
  (raw.getD []).filterMap fun item => item.bind RawReservation.clean

def Reservation.toRaw (r : Reservation) : RawReservation :=
  ⟨r.claimId, r.amount, r.reservedAt, r.shortReservedAt, r.dailyReservedAt, r.spotReservedAt, r.spotId⟩

/-- Reservations of the preceding release carry no Spot id. -/
def Reservation.resolveSpot (db : Db P) (r : Reservation) : Reservation :=
  if 0 < r.spotId then r
  else match db.getClaim r.claimId with
    | some claim => { r with spotId := claim.spotId }
    | none => r

/-- A standard Spot without a creator-controlled admission secret. -/
def Db.isOpenStandard (db : Db P) (spotId : ℕ) : Bool :=
  (db.getSpot spotId).any fun spot => !spot.usePassword && spot.prizeCount.isNone

/-- `_prune_reservations`: whether one reservation is still needed. -/
def Reservation.isLive (limits : ThrottleLimits) (db : Db P) (r : Reservation) : Bool :=
  let windowLive := decide ((db.now : ℤ) - limits.windowSeconds < r.shortReservedAt ∨
    (db.now : ℤ) - limits.dailyWindowSeconds < r.dailyReservedAt)
  match db.getClaim r.claimId with
  | none => windowLive
  | some claim =>
    if (db.getSpot claim.spotId).isSome && db.hasNonfailedClaimPayoutTransaction claim.id then false
    else db.isOpenStandard claim.spotId || windowLive

/-- The reservations a call works on: cleaned, resolved and pruned. -/
def liveReservations (limits : ThrottleLimits) (db : Db P) (store : ThrottleStore P) : List Reservation :=
  ((cleanReservations store.reservations).map (Reservation.resolveSpot db)).filter (Reservation.isLive limits db)

/-- Non-failed claim payouts created less than `window` seconds ago. -/
def payoutRowsWithin (db : Db P) (window : ℕ) : List Trans :=
  db.trans.filter fun t => t.type = .claim ∧ t.status ≠ .failed ∧ db.now < t.createdAt + window

def lifetimeSpotPayoutRows (db : Db P) (spotId : ℕ) : List Trans :=
  db.trans.filter fun t => t.type = .claim ∧ t.status ≠ .failed ∧ t.spotId = some spotId

/-- The claims that already have a row. -/
def transactionClaimIds (rows : List Trans) : List ℕ := (rows.filterMap Trans.claimId).filter (0 < ·)

/-- `_combined_window_state`: rows, and reservations not yet in TRANSACTION; `stamp` is the time a
reservation is counted from. -/
def combinedWindowState (now : ℕ) (rows : List Trans) (reservations : List Reservation)
    (stamp : Reservation → ℤ) : WindowState :=
  let pending := reservations.filter fun r => r.claimId ∉ transactionClaimIds rows
  { now := now
    payoutCount := rows.length + pending.length
    payoutAmount := (rows.map Trans.amount).sum + (pending.map Reservation.amount).sum
    oldestCreatedAt := (rows.map (fun t => (t.createdAt : ℤ)) ++ pending.map stamp).min? }

/-- `_spot_window_decision`. -/
def spotWindowDecision (limits : ThrottleLimits) (state : WindowState) (amount spotId : ℕ) : ThrottleDecision :=
  let decision : ThrottleDecision := {
    allow := true, reason := "within_open_spot_payout_limits", manualReview := true
    details := [
      ("spot_id", spotId), ("spot_window_seconds", limits.spotWindowSeconds),
      ("spot_payout_count", state.payoutCount), ("spot_payout_amount", state.payoutAmount),
      ("spot_max_payout_count", limits.spotMaxPayoutCount),
      ("spot_max_payout_amount", limits.spotMaxPayoutLuna)] }
  if limits.spotMaxPayoutCount ≤ state.payoutCount then
    { decision with allow := false, reason := "open_spot_payout_count_limit" }
  else if limits.spotMaxPayoutLuna < state.payoutAmount + amount then
    { decision with allow := false, reason := "open_spot_payout_amount_limit" }
  else decision

/-- `_spot_lifetime_decision`. -/
def spotLifetimeDecision (limits : ThrottleLimits) (state : WindowState) (amount : ℕ) (spot : Spot P) :
    ThrottleDecision :=
  let maxCount := max 1 spot.maxTotalClaims * limits.spotLifetimeAutomaticPercent / 100
  let maxAmount := spot.totalValue * limits.spotLifetimeAutomaticPercent / 100
  let decision : ThrottleDecision := {
    allow := true, reason := "within_open_spot_lifetime_limits", manualReview := true
    details := [
      ("spot_id", spot.id), ("spot_lifetime_automatic_percent", limits.spotLifetimeAutomaticPercent),
      ("spot_lifetime_payout_count", state.payoutCount),
      ("spot_lifetime_payout_amount", state.payoutAmount),
      ("spot_lifetime_max_payout_count", maxCount), ("spot_lifetime_max_payout_amount", maxAmount)] }
  if maxCount ≤ state.payoutCount then
    { decision with allow := false, reason := "open_spot_lifetime_count_limit" }
  else if maxAmount < state.payoutAmount + amount then
    { decision with allow := false, reason := "open_spot_lifetime_amount_limit" }
  else decision

/-- The keys of a decision that a hold keeps. -/
def manualReviewDetailKeys : List String :=
  ["spot_id", "spot_window_seconds", "spot_payout_count", "spot_payout_amount", "spot_max_payout_count",
    "spot_max_payout_amount", "spot_lifetime_automatic_percent", "spot_lifetime_payout_count",
    "spot_lifetime_payout_amount", "spot_lifetime_max_payout_count", "spot_lifetime_max_payout_amount"]

/-- An operator has released the claim from a hold. -/
def explicitlyReleased (md : SecurityMetadata P) (claimId : ℕ) : Bool :=
  (md.claimRecords claimId).any fun record => record.manualReviewReleasedAt.any (· ≠ 0)

/-- The state of the rolling window of one Spot. -/
def spotWindowState (limits : ThrottleLimits) (db : Db P) (reservations : List Reservation) (spotId : ℕ) :
    WindowState :=
  combinedWindowState db.now
    ((payoutRowsWithin db limits.spotWindowSeconds).filter fun t => t.spotId = some spotId)
    (reservations.filter fun r =>
      r.spotId = spotId ∧ (db.now : ℤ) - limits.spotWindowSeconds < r.spotReservedAt)
    Reservation.spotReservedAt

/-- The global windows with the given reservations counted. -/
def globalDecision (limits : ThrottleLimits) (db : Db P) (reservations : List Reservation) (amount : ℕ) :
    ThrottleDecision :=
  throttleDecision limits
    (combinedWindowState db.now (payoutRowsWithin db limits.windowSeconds)
      (reservations.filter fun r => (db.now : ℤ) - limits.windowSeconds < r.shortReservedAt)
      Reservation.shortReservedAt)
    (combinedWindowState db.now (payoutRowsWithin db limits.dailyWindowSeconds)
      (reservations.filter fun r => (db.now : ℤ) - limits.dailyWindowSeconds < r.dailyReservedAt)
      Reservation.dailyReservedAt)
    amount

/-- The decision about a claim that still holds a reservation, its own left out of the counts. -/
def existingReservationDecision (limits : ThrottleLimits) (db : Db P) (md : SecurityMetadata P)
    (reservations : List Reservation) (claimId amount spotId : ℕ) : ThrottleDecision :=
  let others := reservations.filter fun r => r.claimId ≠ claimId
  let decision := globalDecision limits db others amount
  if decision.allow && db.isOpenStandard spotId && !explicitlyReleased md claimId then
    spotWindowDecision limits (spotWindowState limits db others spotId) amount spotId
  else decision

/-- The decision about a claim without a reservation: the global limits, then for an open Spot its
lifetime budget and its rolling window. -/
def newReservationDecision (limits : ThrottleLimits) (db : Db P) (md : SecurityMetadata P)
    (reservations : List Reservation) (claimId amount spotId : ℕ) : ThrottleDecision :=
  let decision := globalDecision limits db reservations amount
  match db.getSpot spotId with
  | none => decision
  | some spot =>
    if decision.allow && db.isOpenStandard spotId && !explicitlyReleased md claimId then
      let lifetime := spotLifetimeDecision limits
        (combinedWindowState db.now (lifetimeSpotPayoutRows db spotId)
          (reservations.filter fun r => r.spotId = spotId) Reservation.reservedAt)
        amount spot
      if lifetime.allow then
        spotWindowDecision limits (spotWindowState limits db reservations spotId) amount spotId
      else lifetime
    else decision

/-- The hold the throttle writes into a security record, if there is one. -/
def holdForReview (md : SecurityMetadata P) (claimId : ℕ) (reason : String) (now : ℕ)
    (details : Option ManualReviewDetails) : SecurityMetadata P :=
  match md.claimRecords claimId with
  | none => md
  | some record => md.setRecord claimId { record with
      manualReview := true, manualReviewReason := some reason, manualReviewMarkedAt := some now,
      manualReviewDetails := details.or record.manualReviewDetails }

/-- An admitted retry renews what has lapsed of its reservation. -/
def Reservation.renew (limits : ThrottleLimits) (now : ℕ) (r : Reservation) : Reservation :=
  { r with
    shortReservedAt := if (now : ℤ) - limits.windowSeconds < r.shortReservedAt then r.shortReservedAt else now
    dailyReservedAt :=
      if (now : ℤ) - limits.dailyWindowSeconds < r.dailyReservedAt then r.dailyReservedAt else now
    spotReservedAt := if r.spotReservedAt ≤ (now : ℤ) - limits.spotWindowSeconds then now else r.spotReservedAt }

/-- What one call does to the records and the reservations. -/
structure ThrottleEffect (P : Type) where
  metadata : SecurityMetadata P
  reservations : List Reservation
  decision : ThrottleDecision

def admitExisting (limits : ThrottleLimits) (db : Db P) (md : SecurityMetadata P)
    (reservations : List Reservation) (claimId amount spotId : ℕ) : ThrottleEffect P :=
  let decision := existingReservationDecision limits db md reservations claimId amount spotId
  if decision.allow then
    { metadata := md
      reservations := reservations.modify (reservations.findIdx fun r => r.claimId = claimId)
        (Reservation.renew limits db.now)
      decision := { decision with reason := "existing_payout_reservation", reservationReused := true } }
  else if decision.manualReview then
    ⟨holdForReview md claimId decision.reason db.now none, reservations, decision⟩
  else ⟨md, reservations, decision⟩

def admitNew (limits : ThrottleLimits) (db : Db P) (md : SecurityMetadata P)
    (reservations : List Reservation) (claimId amount spotId : ℕ) : ThrottleEffect P :=
  let decision := newReservationDecision limits db md reservations claimId amount spotId
  -- the source tests the flag here without asking whether the decision allowed the payout
  let md := if decision.manualReview then
      holdForReview md claimId decision.reason db.now
        (some (.limits (decision.details.filter fun entry => entry.1 ∈ manualReviewDetailKeys)))
    else md
  if decision.allow then
    { metadata := md
      reservations := reservations ++ [⟨claimId, amount, db.now, db.now, db.now, db.now, spotId⟩]
      decision := { decision with reservationCreated := true } }
  else ⟨md, reservations, decision⟩

/-- The claim has a non-failed payout row in the short or the daily window. -/
def payoutMaterialised (limits : ThrottleLimits) (db : Db P) (claimId : ℕ) : Bool :=
  claimId ∈ transactionClaimIds (payoutRowsWithin db limits.windowSeconds) ∨
    claimId ∈ transactionClaimIds (payoutRowsWithin db limits.dailyWindowSeconds)

/-- `reserve_payout_slot`. -/
def reservePayoutSlot (limits : ThrottleLimits) (db : Db P) (store : ThrottleStore P) (claimId amount : ℕ) :
    ThrottleStore P × Except Raised ThrottleDecision :=
  if claimId = 0 then (store, .error (.valueError "claim_id must be positive"))
  else if amount = 0 then (store, .error (.valueError "amount must be positive"))
  else
    let reservations := liveReservations limits db store
    let spotId := ((db.getClaim claimId).map Claim.spotId).getD 0
    let effect : ThrottleEffect P :=
      if payoutMaterialised limits db claimId then
        let state := combinedWindowState db.now (payoutRowsWithin db limits.windowSeconds)
          (reservations.filter fun r => (db.now : ℤ) - limits.windowSeconds < r.shortReservedAt)
          Reservation.shortReservedAt
        { metadata := store.metadata
          reservations := reservations
          decision := {
            allow := true, reason := "claim_payout_already_materialised", reservationReused := true
            details := [("window_payout_count", state.payoutCount),
              ("window_payout_amount", state.payoutAmount)] } }
      else if reservations.any fun r => r.claimId = claimId then
        admitExisting limits db store.metadata reservations claimId amount spotId
      else admitNew limits db store.metadata reservations claimId amount spotId
    (⟨effect.metadata, some (effect.reservations.map fun r => some r.toRaw)⟩, .ok effect.decision)

end NimHunt
