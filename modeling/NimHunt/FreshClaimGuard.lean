import NimHunt.MapSearch

/-!
# The fresh claim guard

`fresh_claim_guard.py`: the GPS anchor of one user with its weak evidence, and the check of a fresh user's
first location against the location of the IP address.  The lookup of an address runs between two
transactions, so calls of the second kind overlap.
-/

namespace NimHunt

open Lib

variable {P : Type}

def claimSameIpGpsMinDistanceMetres : ℚ := 100000
def claimSameIpGpsMaxSpeedMetresPerSecond : ℚ := 75
def claimBehaviouralRestrictionSeconds : ℕ := 24 * 60 * 60
def claimGpsAnchorRefreshSeconds : ℕ := 60 * 60
def claimGpsAnchorMinMovementMetres : ℚ := 1000
def claimFirstLocationMismatchMetres : ℚ := 1500000
def claimFirstLocationCooldownSeconds : ℕ := 24 * 60 * 60
def claimFirstLocationSecondCooldownSeconds : ℕ := 7 * 24 * 60 * 60
def claimFirstLocationUnknownRetrySeconds : ℕ := 15 * 60

/-- What the guard takes from the libraries. -/
structure FreshGuardSettings (P : Type) extends Settings P where
  sha256 : String → String
  /-- Both coordinates at three decimals. -/
  rounded : P → P
  /-- A latitude within ±90 and a longitude within ±180. -/
  onEarth : P → Bool
  /-- `_country` of a text: case folded, with single blanks. -/
  country : String → String

def FreshGuardSettings.ipHash (cfg : FreshGuardSettings P) (ip : Option String) : Option String :=
  (ip.filter fun ip => ip ≠ "").map cfg.sha256

/-- A row of `SECURITY_EVENT` with a temporary restriction. -/
structure TemporaryRestriction where
  userId : ℕ
  code : String
  createdAt : ℕ
  expiresAt : ℕ
  deriving DecidableEq, Repr

section Gps

/-- One remembered observation. -/
structure GpsFix (P : Type) where
  observedAt : ℕ
  position : P
  ipHash : Option String
  deriving DecidableEq

/-- The record of one user: `last` is the stable anchor. -/
structure GpsRecord (P : Type) where
  firstObservedAt : Option ℕ := none
  firstInsidePublicSpot : Bool := false
  ordinaryPresenceBeforeReward : Bool := false
  last : Option (GpsFix P) := none
  pendingSuspicious : Option (GpsFix P) := none
  sameIpContradictionCount : ℕ := 0
  lastContradictionAt : Option ℕ := none
  restrictedUntil : ℕ := 0

/-- `_inside_active_public_spot`. -/
def insideActivePublicSpot (cfg : Settings P) (db : Db P) (userId : ℕ) (position : P) : Bool :=
  db.spots.any fun spot =>
    spot.createdBy ≠ userId && !spot.usePassword && db.isSpotCurrentlyClaimable spot.id &&
      spot.position.any fun centre => cfg.distanceMetres position centre ≤ spot.radius

/-- Too far from the fix for the time since. -/
def GpsFix.contradicts (cfg : Settings P) (fix : GpsFix P) (position : P) (now : ℕ) : Bool :=
  let distance := cfg.distanceMetres fix.position position
  claimSameIpGpsMinDistanceMetres ≤ distance ∧
    claimSameIpGpsMaxSpeedMetresPerSecond < distance / ((max 1 (now - fix.observedAt) : ℕ) : ℚ)

/-- An observation as it reaches the transaction. -/
structure GpsObservation (P : Type) where
  ip : Option String
  position : P
  now : ℕ

def GpsObservation.ipHash (cfg : FreshGuardSettings P) (o : GpsObservation P) : Option String := cfg.ipHash o.ip

def GpsObservation.fix (cfg : FreshGuardSettings P) (o : GpsObservation P) : GpsFix P :=
  ⟨o.now, cfg.rounded o.position, o.ipHash cfg⟩

/-- What an observation says against the anchor of its own IP address. -/
inductive GpsEvidence
  | nothing | returned | continuation | contradiction
  deriving DecidableEq, Repr

namespace GpsRecord

/-- The classification that the first observation freezes. -/
def classified (r : GpsRecord P) (inside : Bool) (now : ℕ) : GpsRecord P :=
  if r.firstObservedAt.isSome then r
  else { r with
    firstObservedAt := some now
    firstInsidePublicSpot := inside
    ordinaryPresenceBeforeReward := !inside }

/-- The anchor, where its time is set. -/
def anchor (r : GpsRecord P) : Option (GpsFix P) := r.last.filter fun fix => fix.observedAt ≠ 0

def suspicious (r : GpsRecord P) : Option (GpsFix P) := r.pendingSuspicious.filter fun fix => fix.observedAt ≠ 0

/-- The evidence calls for a restriction. -/
def restricts (r : GpsRecord P) : Bool :=
  2 ≤ r.sameIpContradictionCount ∨ r.firstInsidePublicSpot = true ∧ r.ordinaryPresenceBeforeReward = false

def dropSuspicious (r : GpsRecord P) : GpsRecord P := { r with pendingSuspicious := none }

variable (cfg : FreshGuardSettings P)

/-- The suspicious point belongs to another IP address. -/
def changesIp (r : GpsRecord P) (o : GpsObservation P) : Bool :=
  r.suspicious.any fun fix => fix.ipHash ≠ o.ipHash cfg

/-- The suspicious point of another address is dropped before anything else is looked at. -/
def forAddress (r : GpsRecord P) (o : GpsObservation P) : GpsRecord P :=
  if r.changesIp cfg o then r.dropSuspicious else r

def evidence (r : GpsRecord P) (o : GpsObservation P) : GpsEvidence :=
  match r.anchor with
  | none => .nothing
  | some fix =>
    if (o.ipHash cfg).isSome ∧ fix.ipHash = o.ipHash cfg ∧ fix.observedAt ≤ o.now then
      match r.suspicious with
      | some suspect =>
        if fix.contradicts cfg.toSettings o.position o.now = false then .returned
        else if suspect.contradicts cfg.toSettings o.position o.now then .contradiction
        else .continuation
      | none => if fix.contradicts cfg.toSettings o.position o.now then .contradiction else .nothing
    else .nothing

/-- One more contradiction: a first one becomes the suspicious point and leaves the anchor, a second distinct
point becomes the anchor. -/
def contradicted (r : GpsRecord P) (o : GpsObservation P) : GpsRecord P :=
  let counted := { r with
    sameIpContradictionCount := r.sameIpContradictionCount + 1
    lastContradictionAt := some o.now
    pendingSuspicious := if r.suspicious.isSome then none else some (o.fix cfg)
    last := if r.suspicious.isSome then some (o.fix cfg) else r.last }
  if counted.restricts then
    { counted with restrictedUntil := max counted.restrictedUntil (o.now + claimBehaviouralRestrictionSeconds) }
  else counted

/-- Whether an observation without evidence is due to become the anchor. -/
def shouldRefresh (r : GpsRecord P) (o : GpsObservation P) : Bool :=
  match r.anchor with
  | none => true
  | some fix =>
    fix.ipHash ≠ o.ipHash cfg ∨
      claimGpsAnchorMinMovementMetres ≤ cfg.distanceMetres fix.position o.position ∨
      claimGpsAnchorRefreshSeconds ≤ o.now - fix.observedAt

/-- The anchor moves to an observation that is not older. -/
def reanchored (r : GpsRecord P) (o : GpsObservation P) : GpsRecord P :=
  if r.anchor.any fun fix => o.now < fix.observedAt then r else { r with last := some (o.fix cfg) }

end GpsRecord

/-- What one observation leaves: the stored record, the answer, and a new restriction. -/
structure GpsOutcome (P : Type) where
  record : GpsRecord P
  contradiction : Bool := false
  restriction : Option TemporaryRestriction := none

open GpsRecord in
def recordGpsObservation (cfg : FreshGuardSettings P) (db : Db P) (userId : ℕ) (stored : Option (GpsRecord P))
    (o : GpsObservation P) : GpsOutcome P :=
  let known := (stored.getD {}).classified (insideActivePublicSpot cfg.toSettings db userId o.position) o.now
  let state := known.forAddress cfg o
  match state.evidence cfg o with
  | .contradiction =>
    let record := state.contradicted cfg o
    { record := record
      contradiction := true
      restriction :=
        if record.restricts ∧ state.restrictedUntil ≤ o.now then
          some ⟨userId, "fresh_account_location_anomaly", o.now, record.restrictedUntil⟩
        else none }
  | .returned => { record := state.dropSuspicious.reanchored cfg o }
  -- A point near the suspicious one is not stored at all.
  | .continuation => { record := stored.getD state }
  | .nothing =>
    if known.changesIp cfg o = true ∨ state.shouldRefresh cfg o = true then { record := state.reanchored cfg o }
    else { record := stored.getD state }

end Gps

section FirstLocation

/-- The answer of a lookup, where it can be read. -/
structure IpLocation (P : Type) where
  position : P
  country : Option String
  accuracyRadiusKm : ℚ

structure FirstLocationCall (P : Type) where
  user : User
  ip : Option String
  gps : P
  gpsCountry : Option String
  now : ℕ
  /-- `now` is a reading of `unixepoch()`. -/
  nowPos : 0 < now

structure LocationObservation (P : Type) where
  mismatch : Bool
  ipHash : String
  provider : P
  ipCountry : String
  gpsCountry : String
  distanceKm : ℤ
  deriving DecidableEq

/-- The stored record of one user. -/
structure LocationRecord (P : Type) where
  mismatchCount : ℕ := 0
  mismatchIpHash : Option String := none
  lastMismatchAt : Option ℕ := none
  decisionAt : ℕ := 0
  lastResult : Option String := none
  retryAt : Option ℕ := none
  restrictionReason : Option String := none
  verifiedAt : Option ℕ := none
  providerIpHash : Option String := none
  provider : Option P := none
  providerUnreliableAt : Option ℕ := none
  unreliableIpHashes : List String := []
  unreliableIpHash : Option String := none
  ipCountry : Option String := none
  gpsCountry : Option String := none
  distanceKm : Option ℤ := none
  deriving DecidableEq

structure FirstLocationDecision where
  allowed : Bool
  reason : String
  deriving DecidableEq, Repr

/-- `value or default` of an optional text. -/
def textOr (value : Option String) (otherwise : String) : String := (value.filter fun text => text ≠ "").getD otherwise

/-- `_location_state_decision`. -/
def locationStateDecision (state : Option (LocationRecord P)) (now : ℕ) : Option FirstLocationDecision :=
  state.bind fun r =>
    if now < r.retryAt.getD 0 then
      some ⟨false, textOr r.restrictionReason "first_location_mismatch_restriction"⟩
    else if r.verifiedAt.getD 0 ≠ 0 then some ⟨true, "first_location_verified"⟩
    else none

/-- The IP addresses found unreliable, with the single field of older records. -/
def unreliableHashes (state : Option (LocationRecord P)) : List String :=
  match state with
  | none => []
  | some r => r.unreliableIpHashes ++ (r.unreliableIpHash.filter fun hash => hash ≠ "").toList

variable (cfg : FreshGuardSettings P)

/-- What a call makes of its lookup; `none` is unknown. -/
def lookupOutcome (call : FirstLocationCall P) (answer : Option (IpLocation P)) : Option (LocationObservation P) :=
  match call.ip, answer with
  | some ip, some location =>
    if cfg.onEarth location.position then
      let ipCountry := cfg.country (location.country.getD "")
      let gpsCountry := cfg.country (call.gpsCountry.getD "")
      let distance := cfg.distanceMetres location.position call.gps
      let sameCountry := ipCountry ≠ "" ∧ gpsCountry = ipCountry
      some {
        mismatch := ¬sameCountry ∧
          claimFirstLocationMismatchMetres ≤ distance - max 0 location.accuracyRadiusKm * 1000
        ipHash := cfg.sha256 ip
        provider := cfg.rounded location.position
        ipCountry := ipCountry
        gpsCountry := gpsCountry
        distanceKm := roundHalfEven (distance / 1000) }
    else none
  | _, _ => none

namespace LocationRecord

variable (r : LocationRecord P) (call : FirstLocationCall P)

/-- The provider moved the same address too far since its last answer. -/
def providerShifted (o : LocationObservation P) : Bool :=
  r.providerIpHash = some o.ipHash ∧
    r.provider.any fun provider => claimFirstLocationMismatchMetres ≤ cfg.distanceMetres provider o.provider

def markUnreliable (o : LocationObservation P) : LocationRecord P :=
  let known := if o.ipHash ∈ r.unreliableIpHashes then r.unreliableIpHashes else r.unreliableIpHashes ++ [o.ipHash]
  let sameMismatch := r.mismatchIpHash = some o.ipHash
  { r with
    decisionAt := call.now
    lastResult := some "provider_unreliable"
    providerUnreliableAt := some call.now
    unreliableIpHashes := known.drop (known.length - 2)
    unreliableIpHash := none
    mismatchCount := if sameMismatch then 0 else r.mismatchCount
    mismatchIpHash := if sameMismatch then none else r.mismatchIpHash
    lastMismatchAt := if sameMismatch then none else r.lastMismatchAt
    retryAt := none
    restrictionReason := none }

def located (o : LocationObservation P) : LocationRecord P :=
  { r with providerIpHash := some o.ipHash, provider := some o.provider }

def verified (o : LocationObservation P) : LocationRecord P :=
  { r with
    verifiedAt := some call.now
    decisionAt := call.now
    lastResult := some "match"
    ipCountry := some o.ipCountry
    gpsCountry := some o.gpsCountry
    retryAt := none
    restrictionReason := none }

def unavailable : LocationRecord P :=
  { r with
    decisionAt := call.now
    lastResult := some "unknown"
    retryAt := some (call.now + claimFirstLocationUnknownRetrySeconds)
    restrictionReason := some "first_location_provider_unavailable" }

def mismatched (o : LocationObservation P) : LocationRecord P :=
  let strikes := if r.mismatchIpHash = some o.ipHash then r.mismatchCount + 1 else 1
  let cooldown :=
    if strikes = 1 then claimFirstLocationCooldownSeconds else claimFirstLocationSecondCooldownSeconds
  { r with
    mismatchCount := strikes
    decisionAt := call.now
    lastResult := some "blatant_mismatch"
    lastMismatchAt := some call.now
    retryAt := some (call.now + cooldown)
    restrictionReason := some "first_location_mismatch_restriction"
    mismatchIpHash := some o.ipHash
    ipCountry := some o.ipCountry
    gpsCountry := some o.gpsCountry
    distanceKm := some o.distanceKm }

end LocationRecord

/-- What a transaction writes and answers. -/
structure FirstLocationOutcome (P : Type) where
  stored : Option (LocationRecord P)
  decision : FirstLocationDecision
  restriction : Option TemporaryRestriction := none

/-- The transaction after the lookup: it reads the record again before it believes what it was told. -/
def concludeLookup (userRow : Option User) (current : Option (LocationRecord P)) (call : FirstLocationCall P)
    (outcome : Option (LocationObservation P)) : FirstLocationOutcome P :=
  if (userRow.all fun user => user.status = .banned) then ⟨current, ⟨false, "user_not_allowed"⟩, none⟩
  else match locationStateDecision current call.now with
  | some decision => ⟨current, decision, none⟩
  | none =>
    if outcome.any fun o => o.ipHash ∈ unreliableHashes current then
      ⟨current, ⟨true, "ip_geolocation_unreliable"⟩, none⟩
    -- A lookup that started no later has been concluded in the meantime.
    else if current.any fun r => call.now ≤ r.decisionAt then
      ⟨current, ⟨false, textOr (current.bind LocationRecord.restrictionReason) "first_location_provider_unavailable"⟩, none⟩
    else
      let state := current.getD {}
      match outcome with
      | none => ⟨some (state.unavailable call), ⟨false, "first_location_provider_unavailable"⟩, none⟩
      | some o =>
        if state.providerShifted cfg o then
          ⟨some (state.markUnreliable call o), ⟨true, "ip_geolocation_unreliable"⟩, none⟩
        else if o.mismatch = false then
          ⟨some ((state.located o).verified call o), ⟨true, "first_location_verified"⟩, none⟩
        else
          let restricted := (state.located o).mismatched call o
          ⟨some restricted, ⟨false, "first_location_mismatch_restriction"⟩,
            some ⟨call.user.id, "fresh_account_location_anomaly", call.now, restricted.retryAt.getD 0⟩⟩

/-- The deployment marker; an early deployment stored the time alone. -/
inductive RolloutMarker
  | scalar (activatedAt : ℕ)
  | marker (activatedAt legacyMaxUserId : ℕ)
  deriving DecidableEq, Repr

namespace RolloutMarker

def activatedAt (now : ℕ) : RolloutMarker → ℕ
  | .scalar activatedAt => if activatedAt = 0 then now else activatedAt
  | .marker activatedAt _ => activatedAt

def legacyMaxUserId : RolloutMarker → ℕ
  | .scalar _ => 0
  | .marker _ legacyMaxUserId => legacyMaxUserId

end RolloutMarker

/-- Calls of `first_location_decision` under way: `opened` have passed the rollout check, `lookups` wait for the
provider. -/
structure FirstLocationCalls (P : Type) where
  db : Db P
  rollout : Option RolloutMarker
  locations : ℕ → Option (LocationRecord P)
  opened : List (FirstLocationCall P)
  lookups : List (FirstLocationCall P)
  decided : List (ℕ × FirstLocationDecision)
  restrictions : List TemporaryRestriction

inductive FirstLocationOp (P : Type)
  | tick (seconds : ℕ)
  | enter (call : FirstLocationCall P)
  | consult (index : ℕ)
  | conclude (index : ℕ) (answer : Option (IpLocation P))

namespace FirstLocationCalls

def start (db : Db P) (rollout : Option RolloutMarker) : FirstLocationCalls P where
  db := db
  rollout := rollout
  locations := fun _ => none
  opened := []
  lookups := []
  decided := []
  restrictions := []

def answered (s : FirstLocationCalls P) (call : FirstLocationCall P) (decision : FirstLocationDecision) :
    FirstLocationCalls P :=
  { s with decided := s.decided ++ [(call.user.id, decision)] }

/-- The rollout check; `INSERT OR IGNORE` keeps a marker that exists. -/
def enter (s : FirstLocationCalls P) (call : FirstLocationCall P) : FirstLocationCalls P :=
  let rollout := s.rollout.getD (.marker s.db.now ((s.db.users.map User.id).foldr max 0))
  let marked := { s with rollout := some rollout }
  if call.user.id ≤ rollout.legacyMaxUserId ∨ call.user.createdAt < rollout.activatedAt s.db.now then
    marked.answered call ⟨true, "legacy_account"⟩
  else { marked with opened := s.opened ++ [call] }

/-- The first read of the record: an answer without a lookup, or the lookup starts. -/
def consult (s : FirstLocationCalls P) (call : FirstLocationCall P) : FirstLocationCalls P :=
  let state := s.locations call.user.id
  match locationStateDecision state call.now with
  | some existing => s.answered call existing
  | none =>
    if (cfg.ipHash call.ip).any fun hash => hash ∈ unreliableHashes state then
      s.answered call ⟨true, "ip_geolocation_unreliable"⟩
    else { s with lookups := s.lookups ++ [call] }

def conclude (s : FirstLocationCalls P) (call : FirstLocationCall P) (answer : Option (IpLocation P)) :
    FirstLocationCalls P :=
  let outcome := concludeLookup cfg (s.db.getUser call.user.id) (s.locations call.user.id) call
    (lookupOutcome cfg call answer)
  let written := { s with
    locations := Function.update s.locations call.user.id outcome.stored
    restrictions := s.restrictions ++ outcome.restriction.toList }
  written.answered call outcome.decision

def step (s : FirstLocationCalls P) : FirstLocationOp P → FirstLocationCalls P
  | .tick seconds => { s with db := { s.db with now := s.db.now + seconds } }
  | .enter call => s.enter call
  | .consult index =>
    match s.opened[index]? with
    | none => s
    | some call => consult cfg { s with opened := s.opened.eraseIdx index } call
  | .conclude index answer =>
    match s.lookups[index]? with
    | none => s
    | some call => conclude cfg { s with lookups := s.lookups.eraseIdx index } call answer

end FirstLocationCalls

end FirstLocation

end NimHunt
