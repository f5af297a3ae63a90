import NimHunt.ClaimSecurityGuard
import NimHunt.System

/-!
# The hourly limit of a verified wallet

`claim_wallet_hourly_limit.py`: the preclaim decision, which first reads the recent events and then the
claims, and the check inside the claim transaction.  `_preclaim_risk` of `claim_security.py` is read as
`claim_security_defence_in_depth.py` leaves it.
-/

namespace NimHunt

variable {P : Type}

/-- The environment settings of the preclaim rules. -/
structure PreclaimSettings (P : Type) extends SecuritySettings P where
  sessionTtlSeconds : ℕ := 30 * 24 * 60 * 60
  strongTravelMinMetres : ℚ := 1000
  strongTravelMaxMps : ℚ := 75
  ipTravelMinMetres : ℚ := 20000
  ipTravelMaxMps : ℚ := 200

/-- The claim the preclaim rules are asked about. -/
structure PreclaimTarget (P : Type) where
  deviceIdHash : String
  verifiedWallet : Option Address
  payoutAddress : Option Address
  ipHash : String
  claimedAt : ℕ
  spotPosition : P
  spotRadius : ℕ

structure PreclaimDecision where
  blocked : Bool
  reason : String
  signal : Option String := none
  retryAt : Option ℕ := none
  previousClaimId : Option ℕ := none
  deriving DecidableEq, Repr

section Risk

variable (cfg : Settings P) (pre : PreclaimSettings P)

def eventDistance (previous : ClaimEvent P) (target : PreclaimTarget P) : ℚ :=
  max 0 (cfg.distanceMetres previous.spotPosition target.spotPosition - previous.spotRadius - target.spotRadius)

/-- `_travel_violation`: the retry time of a jump that is too far and too fast. -/
def travelViolation (previous : ClaimEvent P) (target : PreclaimTarget P) (maxMps minMetres : ℚ) : Option ℕ :=
  let distance := eventDistance cfg previous target
  let speed := distance / ((max 1 (target.claimedAt - previous.claimedAt) : ℕ) : ℚ)
  if distance < minMetres ∨ speed ≤ maxMps then none
  else some (previous.claimedAt + ⌈distance / maxMps⌉₊ + 1)

/-- `str(value or "").strip().upper()`. -/
def signalText (value : Option String) : String := cfg.upper (cfg.strip (value.getD ""))

def sharedStrongSignal (previous : ClaimEvent P) (target : PreclaimTarget P) : Option String :=
  let pairs := [
    (previous.verifiedWallet, target.verifiedWallet, "verified wallet"),
    (some previous.deviceIdHash, some target.deviceIdHash, "device"),
    (previous.payoutAddress, target.payoutAddress, "payout address")]
  (pairs.find? fun pair => signalText cfg pair.1 ≠ "" ∧ signalText cfg pair.1 = signalText cfg pair.2.1).map
    fun pair => pair.2.2

/-- Events of the target's wallet in the last hour. -/
def walletEvents (events : List (ClaimEvent P)) (target : PreclaimTarget P) : List (ClaimEvent P) :=
  events.filter fun event => signalText cfg event.verifiedWallet = signalText cfg target.verifiedWallet ∧
    target.claimedAt < event.claimedAt + 60 * 60

/-- `_preclaim_risk`. -/
def preclaimRisk (events : List (ClaimEvent P)) (target : PreclaimTarget P) : PreclaimDecision :=
  let jumps := events.filterMap fun previous =>
    (sharedStrongSignal cfg previous target).bind fun signal =>
      (travelViolation cfg previous target pre.strongTravelMaxMps pre.strongTravelMinMetres).map fun retryAt =>
        (⟨true, "impossible_travel", some signal, some retryAt, some previous.claimId⟩ : PreclaimDecision)
  match pickBest (fun x y => decide (y.retryAt.getD 0 < x.retryAt.getD 0)) none jumps with
  | some strongest => strongest
  | none =>
    let wallet := walletEvents cfg events target
    if signalText cfg target.verifiedWallet ≠ "" ∧ cfg.walletHourlyClaimLimit ≤ wallet.length then
      ⟨true, "wallet_rate_limit", some "verified wallet",
        (wallet.map ClaimEvent.claimedAt).min?.map fun oldest => oldest + 60 * 60 + 1, none⟩
    else
      let network := events.filterMap fun previous =>
        if target.ipHash ≠ "" ∧ previous.ipHash = target.ipHash then
          (travelViolation cfg previous target pre.ipTravelMaxMps pre.ipTravelMinMetres).map fun retryAt =>
            (⟨true, "source_network_impossible_travel", some "source network", some retryAt,
              some previous.claimId⟩ : PreclaimDecision)
        else none
      network.head?.getD ⟨false, "allow", none, none, none⟩

/-- `_preclaim_risk_without_ip_only_block`. -/
def preclaimRiskWithoutIpOnlyBlock (events : List (ClaimEvent P)) (target : PreclaimTarget P) : PreclaimDecision :=
  let decision := preclaimRisk cfg pre events target
  if decision.reason = "source_network_impossible_travel" then ⟨false, "allow", none, none, none⟩ else decision

/-- `_preclaim_decision`. -/
def preclaimDecision (rt : Runtime P) (spotId : ℕ) (session : ClaimSession) (ipFingerprint : String) :
    PreclaimDecision :=
  match rt.db.spotAnchor spotId with
  | none => ⟨false, "spot_unavailable_for_security_check", none, none, none⟩
  | some spot =>
    preclaimRiskWithoutIpOnlyBlock cfg pre (rt.metadata.loadRecentEvents pre.toSecuritySettings rt.db.now)
      { deviceIdHash := session.deviceIdHash, verifiedWallet := some session.walletAddress
        payoutAddress := canonicalOptionalAddress cfg (some session.walletAddress)
        ipHash := ipFingerprint, claimedAt := rt.db.now, spotPosition := spot.centre, spotRadius := spot.radius }

end Risk

/-- The times of the claims `_wallet_recent_claim_window` counts. -/
def walletRecentClaimTimes (cfg : Settings P) (db : Db P) (walletAddress : Address) : List ℕ :=
  let userIds := verifiedWalletUserIds cfg db walletAddress
  (db.claims.filter fun c => c.recipient ∈ userIds ∧ db.now < c.claimedAt + 60 * 60).map Claim.claimedAt

/-- `_durable_wallet_rate_decision`: the retry time of a blocked wallet. -/
def durableWalletRateDecision (cfg : Settings P) (db : Db P) (walletAddress : Address) : Option ℕ :=
  let times := walletRecentClaimTimes cfg db walletAddress
  if times.length < max 1 cfg.walletHourlyClaimLimit then none
  else some (times.min?.getD db.now + 60 * 60 + 1)

/-- `_preclaim_decision_with_durable_wallet_limit`: the claims are read in a later transaction than the events. -/
def preclaimDecisionWithDurableWalletLimit (cfg : Settings P) (pre : PreclaimSettings P) (rt later : Runtime P)
    (spotId : ℕ) (session : ClaimSession) (ipFingerprint : String) : PreclaimDecision :=
  let decision := preclaimDecision cfg pre rt spotId session ipFingerprint
  if decision.blocked then decision
  else match canonicalOptionalAddress cfg (some session.walletAddress) with
    | none => decision
    | some wallet =>
      match durableWalletRateDecision cfg later.db wallet with
      | none => decision
      | some retryAt => ⟨true, "wallet_rate_limit", some "verified wallet", some retryAt, none⟩

/-- Seconds pass before the rest of a claim transaction. -/
def ClaimAttempter.after (seconds : ℕ) (delegate : ClaimAttempter P) : ClaimAttempter P :=
  fun db req => delegate { db with now := db.now + seconds } req

/-- What the hourly check is installed in front of. -/
def claimAttemptDelegate (cfg : Settings P) : ClaimAttempter P :=
  createClaimAttemptBoundToVerifiedWallet cfg
    (createClaimAttemptSuccessOnly cfg (createClaimWithImpossibleTravelGuard cfg)
      promotePendingClaimToSuccessIfCapacityAvailable)

/-- The claim transaction of a running deployment, with the seconds that pass after its hourly check. -/
def claimTransaction (cfg : Settings P) (seconds : ℕ) : ClaimAttempter P :=
  createClaimAttemptWithDurableWalletLimit cfg (ClaimAttempter.after seconds (claimAttemptDelegate cfg))

/-- Claim requests on their way: sessions that passed the guard, and claims whose event is not recorded yet. -/
structure HourlyRun (P : Type) where
  rt : Runtime P
  admitted : List ClaimSession
  recording : List (ℕ × ClaimSession)

/-- A fresh deployment. -/
def HourlyRun.initial : HourlyRun P := ⟨⟨.empty, {}⟩, [], []⟩

inductive HourlyOp (P : Type)
  | wait (seconds : ℕ)
  | verify (token : String) (userId : ℕ) (deviceIdHash : String) (signer : Address)
  | pass (token : String) (deviceIdHash : String)
  | claim (index seconds spotId : ℕ) (position : P) (accuracy : Option ℚ) (claimCode : Option String)
      (payoutAddress : Option Address)
  | record (index : ℕ) (body : ClaimBody P) (ipFingerprint : String) (authorization : Option ClaimAuthorization)
  | abandon (index : ℕ)
  | rotate (keep : ClaimEvent P → Bool)
  | elsewhere (db : Db P)

/-- The last transaction of `security_verify`: the session and the binding. -/
def Runtime.verifyWallet (cfg : Settings P) (pre : PreclaimSettings P) (rt : Runtime P) (token : String)
    (userId : ℕ) (deviceIdHash : String) (signer : Address) : Runtime P :=
  if userId = 0 ∨ (rt.db.getUser userId).isNone = true then rt
  else match cfg.normaliseRealNimiqAddress signer with
    | .error _ => rt
    | .ok walletAddress =>
      if (boundWallet cfg rt.db userId).any (· ≠ walletAddress) then rt
      else
        let session : ClaimSession :=
          ⟨userId, deviceIdHash, walletAddress, rt.db.now, rt.db.now + pre.sessionTtlSeconds⟩
        { rt with
          db := rt.db.bindWallet cfg userId signer
          metadata.sessions := Function.update rt.metadata.sessions token (some session) }

namespace HourlyRun

/-- Commits what a ValueError has written, and nothing of another exception. -/
def commitClaim (s : HourlyRun P) (seconds index : ℕ) (session : ClaimSession) : Outcome P (Claim P) → HourlyRun P
  | (db, .ok claim) =>
    { rt := { s.rt with db := db }, admitted := s.admitted.eraseIdx index
      recording := s.recording ++ [(claim.id, session)] }
  | (db, .error e) =>
    { s with
      rt := { s.rt with db := if e.isValueError then db else { s.rt.db with now := s.rt.db.now + seconds } }
      admitted := s.admitted.eraseIdx index }

def step (cfg : Settings P) (pre : PreclaimSettings P) (s : HourlyRun P) : HourlyOp P → HourlyRun P
  | .wait seconds => { s with rt := s.rt.elapse seconds }
  | .verify token userId deviceIdHash signer => { s with rt := s.rt.verifyWallet cfg pre token userId deviceIdHash signer }
  | .pass token deviceIdHash =>
    let loaded := authenticatedSession cfg s.rt (some token) deviceIdHash
    { s with rt := loaded.1, admitted := s.admitted ++ loaded.2.toList }
  | .claim index seconds spotId position accuracy claimCode payoutAddress =>
    match s.admitted[index]? with
    | none => s
    | some session =>
      -- the route finds the user by the device the session is for
      s.commitClaim seconds index session (claimTransaction cfg seconds s.rt.db
        ⟨spotId, session.userId, position, accuracy, claimCode, payoutAddress⟩)
  | .record index body ipFingerprint authorization =>
    match s.recording[index]? with
    | none => s
    | some (claimId, session) =>
      { s with
        rt := (recordClaimEventBody cfg pre.toSecuritySettings s.rt
          ⟨claimId, session, body, ipFingerprint, authorization⟩).1
        recording := s.recording.eraseIdx index }
  | .abandon index => { s with recording := s.recording.eraseIdx index }
  | .rotate keep =>
    { s with rt := { s.rt with
      metadata := { s.rt.metadata with recentEvents := s.rt.metadata.recentEvents.filter keep } } }
  | .elsewhere db => { s with rt := { s.rt with db := db } }

end HourlyRun

end NimHunt
