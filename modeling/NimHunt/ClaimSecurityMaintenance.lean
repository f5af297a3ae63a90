import NimHunt.ClaimSecurityGuard
import NimHunt.SecurityMetadata

/-!
# Cleaning up the ephemeral security rows

`claim_security_maintenance.py`, and the requests of `claim_security.py` and `claim_auth_abuse_guard.py`
that read the rows it removes.  A request is one step here: the passes run before it or after it.
-/

namespace NimHunt

open Lib

variable {P : Type}

/-- How a request is turned away; a raised exception rolls its transaction back. -/
inductive Refusal
  | raised
  | refused (code : String)
  | rateLimited (code : String) (retryAt : ℤ)
  deriving DecidableEq, Repr

structure SecurityHost where
  sha256Text : String → String
  /-- The signer of a stored message, or the code of the answer. -/
  verifySignature : Json → String → String → Except String Address
  claimEnvironment : String
  claimNetwork : String
  challengeTtlSeconds : ℕ := 5 * 60
  claimAuthorizationTtlSeconds : ℕ := 90
  claimAuthorizationVerifyGraceSeconds : ℕ := 5 * 60
  claimAuthorizationCleanupBatch : ℕ := 64
  claimAuthorizationRateWindowSeconds : ℕ := 10 * 60
  claimAuthorizationRatePerDevice : ℕ := 8
  claimAuthorizationRatePerWallet : ℕ := 16
  sessionTtlSeconds : ℕ := 30 * 24 * 60 * 60
  authRateWindowSeconds : ℕ := 10 * 60
  authRateLimitPerIp : ℕ := 64
  authRateLimitPerDevice : ℕ := 5
  verifyRateLimitPerIp : ℕ := 64
  verifyRateLimitPerDevice : ℕ := 8

namespace AppMetadata

section Sessions

structure Session where
  userId : ℤ
  walletAddress : Address
  deriving DecidableEq, Repr

/-- `_load_session` once the row is known to be live. -/
def readSession (cfg : Settings P) (fields : List (String × Json)) (deviceIdHash : String) :
    Except Refusal (Option Session) :=
  if Json.textOf fields "device_id_hash" ≠ deviceIdHash then .ok none
  else match canonicalOptionalAddress cfg ((Json.get fields "wallet_address").map Json.text) with
    | none => .ok none
    | some walletAddress =>
      match Json.get fields "user_id" with
      | none => .ok none
      | some userId =>
        match userId.toInt cfg with
        | .error _ => .error .raised
        | .ok none => .ok none
        | .ok (some userId) => .ok (some ⟨userId, walletAddress⟩)

def loadSession (cfg : Settings P) (host : SecurityHost) (md : AppMetadata) (token : Option String)
    (deviceIdHash : String) (now : ℕ) : Except Refusal (AppMetadata × Option Session) :=
  match token.filter (· ≠ "") with
  | none => .ok (md, none)
  | some token =>
    let key := .session (host.sha256Text token)
    match md.getJson key with
    | .error _ => .error .raised
    | .ok (md, some (.obj fields)) =>
      match Json.intOrZero cfg fields "expires_at" with
      | .error _ | .ok none => .error .raised
      | .ok (some expiresAt) =>
        if expiresAt ≤ now then .ok (md.pop key, none)
        else match readSession cfg fields deviceIdHash with
          | .error e => .error e
          | .ok session => .ok (md, session)
    | .ok (md, _) => .ok (md, none)

end Sessions

section Challenges

structure ChallengeRequest where
  deviceIdHash : String
  ipHash : String
  /-- Drawn by the server. -/
  challengeId : String
  nonce : String

/-- `security_challenge`. -/
def createChallenge (cfg : Settings P) (host : SecurityHost) (md : AppMetadata) (now : ℕ) (req : ChallengeRequest) :
    AppMetadata × Except Refusal Unit :=
  match admitBoth cfg md now host.authRateWindowSeconds ("challenge:ip:" ++ req.ipHash, host.authRateLimitPerIp)
      ("challenge:device:" ++ req.deviceIdHash, host.authRateLimitPerDevice) with
  | .error _ => (md, .error .raised)
  | .ok (md, admission) =>
    if admission.allowed = false then (md, .error (.rateLimited "auth_rate_limited" admission.retryAt))
    else
      let message := "NimHunt claim authentication\nDevice: " ++ req.deviceIdHash ++ "\nNonce: " ++ req.nonce ++
        "\nIssued: " ++ toString now
      (md.setJson (.challenge req.challengeId) (.obj [
        ("device_id_hash", .str req.deviceIdHash), ("message", .str message), ("created_at", .int now),
        ("expires_at", .int (now + host.challengeTtlSeconds)), ("ip_hash", .str req.ipHash)]), .ok ())

structure VerifyRequest where
  /-- `none` where the body has no valid device. -/
  deviceIdHash : Option String
  ipHash : String
  challengeId : String
  publicKey : String
  signature : String
  /-- How long the verifier takes. -/
  verificationSeconds : ℕ
  /-- The user of the device, or when the registration may be tried again. -/
  registration : Except ℤ ℤ
  token : String

/-- The transaction of `security_verify` after the signature has been verified. -/
def completeVerification (cfg : Settings P) (host : SecurityHost) (md : AppMetadata) (now : ℕ) (deviceIdHash : String)
    (walletAddress : Address) (req : VerifyRequest) : AppMetadata × Except Refusal Unit :=
  match md.getJson (.challenge req.challengeId) with
  | .error _ => (md, .error .raised)
  | .ok (made, some (.obj fields)) =>
    match Json.intOrZero cfg fields "expires_at" with
    | .error _ | .ok none => (md, .error .raised)
    | .ok (some expiresAt) =>
      if expiresAt ≤ now then (made, .error (.refused "challenge_used"))
      else if Json.textOf fields "device_id_hash" ≠ deviceIdHash then (made, .error (.refused "challenge_mismatch"))
      else match req.registration with
        | .error retryAt => (made, .error (.rateLimited "registration_rate_limited" retryAt))
        | .ok userId =>
          match made.getJson (.user userId) with
          | .error _ => (md, .error .raised)
          | .ok (made, binding) =>
            let previousWallet := match binding with
              | some (.obj fields) => canonicalOptionalAddress cfg ((Json.get fields "wallet_address").map Json.text)
              | _ => none
            if previousWallet.any (· ≠ walletAddress) then (made, .error (.refused "device_wallet_mismatch"))
            else
              let session : Json := .obj [
                ("user_id", .int userId), ("device_id_hash", .str deviceIdHash), ("wallet_address", .str walletAddress),
                ("public_key_hash", .str (host.sha256Text (cfg.lower req.publicKey))), ("created_at", .int now),
                ("expires_at", .int (now + host.sessionTtlSeconds)), ("ip_hash", .str req.ipHash)]
              let bound : Json := .obj [
                ("user_id", .int userId), ("device_id_hash", .str deviceIdHash), ("wallet_address", .str walletAddress),
                ("verified_at", .int now)]
              (((made.setJson (.session (host.sha256Text req.token)) session).setJson (.user userId) bound).pop
                (.challenge req.challengeId), .ok ())
  | .ok (made, _) => (made, .error (.refused "challenge_used"))

def securityVerify (cfg : Settings P) (host : SecurityHost) (md : AppMetadata) (now : ℕ) (deviceIdHash : String)
    (req : VerifyRequest) : AppMetadata × Except Refusal Unit :=
  match md.object? (.challenge req.challengeId) with
  | .error _ => (md, .error .raised)
  | .ok none => (md, .error (.refused "challenge_missing"))
  | .ok (some fields) =>
    if Json.textOf fields "device_id_hash" ≠ deviceIdHash then (md, .error (.refused "challenge_mismatch"))
    else match Json.intOrZero cfg fields "expires_at" with
      | .error _ | .ok none => (md, .error .raised)
      | .ok (some expiresAt) =>
        if expiresAt ≤ now then (md.pop (.challenge req.challengeId), .error (.refused "challenge_expired"))
        else match Json.get fields "message" with
          | none => (md, .error .raised)
          | some message =>
            match host.verifySignature message req.publicKey req.signature with
            | .error code => (md, .error (.refused code))
            | .ok walletAddress =>
              completeVerification cfg host md (now + req.verificationSeconds) deviceIdHash walletAddress req

/-- The buckets `claim_auth_abuse_guard` counts an attempt in. -/
def admitVerification (cfg : Settings P) (host : SecurityHost) (md : AppMetadata) (now : ℕ) (req : VerifyRequest) :
    Except PyError (AppMetadata × Admission) :=
  let byIp := ("verify:ip:" ++ req.ipHash, max 1 host.verifyRateLimitPerIp)
  match req.deviceIdHash with
  | none => admitTimestamp cfg md byIp.1 now host.authRateWindowSeconds byIp.2
  | some deviceIdHash =>
    admitBoth cfg md now host.authRateWindowSeconds byIp
      ("verify:device:" ++ deviceIdHash, max 1 host.verifyRateLimitPerDevice)

def verify (cfg : Settings P) (host : SecurityHost) (md : AppMetadata) (now : ℕ) (req : VerifyRequest) :
    AppMetadata × Except Refusal Unit :=
  match admitVerification cfg host md now req with
  | .error _ => (md, .error .raised)
  | .ok (md, admission) =>
    if admission.allowed = false then (md, .error (.rateLimited "auth_verify_rate_limited" admission.retryAt))
    else match req.deviceIdHash with
      | none => (md, .error (.refused "invalid_device"))
      | some deviceIdHash => securityVerify cfg host md now deviceIdHash req

end Challenges

section Authorizations

/-- The rows with keys like the given ones that come after the cursor, in the order of their keys. -/
def page (md : AppMetadata) (like : MetadataKey → Bool) (cursor : String) (limit : ℕ) : List MetadataRow :=
  ((md.rows.filter fun row => like row.1 && decide (cursor < row.1.text)).insertionSort
    fun row row' => row.1.text ≤ row'.1.text).take limit

/-- Whether one row of the sweep is `removable`; `int` is not guarded here. -/
def isRemovable (cfg : Settings P) (host : SecurityHost) (now : ℕ) : StoredJson → Except Refusal Bool
  | .malformed => .ok true
  | .tooDeep => .error .raised
  | .value (.obj fields) =>
    match Json.intOrZero cfg fields "expires_at" with
    | .error _ | .ok none => .error .raised
    | .ok (some expiresAt) =>
      let state := Json.textOf fields "status"
      .ok (decide (state = "issued" ∧ expiresAt ≤ now ∨
        state ∈ ["verifying", "processing", "failed"] ∧ expiresAt ≤ now - host.claimAuthorizationVerifyGraceSeconds ∨
        state = "consumed"))
  | .value _ => .ok false

/-- `_cleanup_claim_authorizations`: the oldest rows, of which the spent ones go. -/
def cleanupClaimAuthorizations (cfg : Settings P) (host : SecurityHost) (md : AppMetadata) (now : ℕ) :
    Except Refusal AppMetadata :=
  match (md.page MetadataKey.isClaimAuthorization "" host.claimAuthorizationCleanupBatch).mapM fun row =>
      (isRemovable cfg host now row.2).map fun removable => (row.1, removable) with
  | .error e => .error e
  | .ok rows => .ok ((rows.filter Prod.snd).foldl (fun md row => md.pop row.1) md)

structure PrepareRequest where
  sessionToken : Option String
  deviceIdHash : String
  spotId : ℕ
  spotExists : Bool
  location : FixedLocation
  /-- Drawn by the server. -/
  suffix : String
  nonce : String

/-- `build_message`. -/
def buildMessage (host : SecurityHost) (now expiresAt : ℕ) (walletAddress : Address) (req : PrepareRequest) : String :=
  "NimHunt Claim Authorization\nVersion: 2\nEnvironment: " ++ host.claimEnvironment ++
    "\nNetwork: " ++ host.claimNetwork ++ "\nAction: claim\nSpotId: " ++ toString req.spotId ++
    "\nReceivingWallet: " ++ walletAddress ++ "\nDevice: " ++ req.deviceIdHash ++
    "\nLatitudeE6: " ++ toString req.location.latitudeE6 ++ "\nLongitudeE6: " ++ toString req.location.longitudeE6 ++
    "\nAccuracyCm: " ++ toString req.location.accuracyCm ++ "\nNonce: " ++ req.nonce ++
    "\nIssuedAt: " ++ toString now ++ "\nExpiresAt: " ++ toString expiresAt ++ "\n"

/-- `f"{now + ttl:012d}.{suffix}"`. -/
def authorizationId (expiresAt : ℕ) (suffix : String) : String :=
  "".pushn '0' (12 - (toString expiresAt).length) ++ toString expiresAt ++ "." ++ suffix

/-- `prepare_claim_authorization` after its sweep. -/
def issueAuthorization (cfg : Settings P) (host : SecurityHost) (md : AppMetadata) (now : ℕ) (req : PrepareRequest) :
    AppMetadata × Except Refusal Unit :=
  match loadSession cfg host md req.sessionToken req.deviceIdHash now with
  | .error e => (md, .error e)
  | .ok (md, none) => (md, .error (.refused "wallet_auth_required"))
  | .ok (md, some session) =>
    if req.spotExists = false then (md, .error (.refused "spot_missing"))
    else match canonicalOptionalAddress cfg (some session.walletAddress) with
      | none => (md, .error (.refused "wallet_auth_required"))
      | some walletAddress =>
        match admitBoth cfg md now host.claimAuthorizationRateWindowSeconds
            ("claim_authorization:device:" ++ req.deviceIdHash, host.claimAuthorizationRatePerDevice)
            ("claim_authorization:wallet:" ++ host.sha256Text walletAddress, host.claimAuthorizationRatePerWallet) with
        | .error _ => (md, .error .raised)
        | .ok (md, admission) =>
          if admission.allowed = false then
            (md, .error (.rateLimited "claim_authorization_rate_limited" admission.retryAt))
          else
            let expiresAt := now + host.claimAuthorizationTtlSeconds
            let message := buildMessage host now expiresAt walletAddress req
            (md.setJson (.claimAuthorization (authorizationId expiresAt req.suffix)) (.obj [
              ("version", .int 2), ("status", .str "issued"), ("message", .str message),
              ("message_hash", .str (host.sha256Text message)), ("nonce_hash", .str (host.sha256Text req.nonce)),
              ("spot_id", .int req.spotId), ("action", .str "claim"), ("device_id_hash", .str req.deviceIdHash),
              ("receiving_wallet", .str walletAddress), ("latitude_e6", .int req.location.latitudeE6),
              ("longitude_e6", .int req.location.longitudeE6), ("accuracy_cm", .int req.location.accuracyCm),
              ("environment", .str host.claimEnvironment), ("network", .str host.claimNetwork),
              ("issued_at", .int now), ("expires_at", .int expiresAt)]), .ok ())

/-- `prepare_claim_authorization`. -/
def prepare (cfg : Settings P) (host : SecurityHost) (md : AppMetadata) (now : ℕ) (req : PrepareRequest) :
    AppMetadata × Except Refusal Unit :=
  match cleanupClaimAuthorizations cfg host md now with
  | .error e => (md, .error e)
  | .ok swept =>
    match issueAuthorization cfg host swept now req with
    | (_, .error .raised) => (md, .error .raised)
    | answered => answered

end Authorizations

section Consumption

/-- A claim request, with what the rest of the application answers about it. -/
structure ConsumeRequest where
  sessionToken : Option String
  deviceIdHash : String
  /-- The user of the session exists and has this device. -/
  userMatches : Bool
  spotId : ℤ
  proof : Option ClaimProof
  location : Except String FixedLocation
  freshAllowed : Bool
  /-- The time the processing of the attempt starts at. -/
  processingAt : ℕ
  preclaimRetryAt : Option ℤ
  claimCreated : Bool
  /-- The security record of the new claim was written. -/
  recorded : Bool

/-- The pattern of `_claim_authorization_key`. -/
def isClaimAuthorizationId (challengeId : String) : Bool :=
  let cs := challengeId.toList
  let suffix := cs.drop 13
  (cs.take 12).length = 12 && (cs.take 12).all Char.isDigit && cs[12]? == some '.' &&
    decide (20 ≤ suffix.length ∧ suffix.length ≤ 64) && suffix.all fun c => c.isAlphanum || c == '_' || c == '-'

def hasStatus (fields : List (String × Json)) (state : String) : Bool :=
  match Json.get fields "status" with
  | some (.str found) => found == state
  | _ => false

/-- Whether an authorization is issued and not expired. -/
def isOpen (cfg : Settings P) (fields : List (String × Json)) (now : ℕ) : Except Refusal Bool :=
  if hasStatus fields "issued" = false then .ok false
  else match Json.intOrZero cfg fields "expires_at" with
    | .error _ | .ok none => .error .raised
    | .ok (some expiresAt) => .ok (decide ((now : ℤ) < expiresAt))

/-- `int(fields[name])`. -/
def intAt (cfg : Settings P) (fields : List (String × Json)) (name : String) : Except Refusal ℤ :=
  match (Json.get fields name).map (Json.toInt cfg) with
  | some (.ok (some value)) => .ok value
  | _ => .error .raised

/-- `fields_match`, up to the first comparison that fails. -/
def fieldsMatch (cfg : Settings P) (host : SecurityHost) (fields : List (String × Json)) (req : ConsumeRequest)
    (fixed : FixedLocation) : Except Refusal Bool :=
  match Json.intOrZero cfg fields "spot_id" with
  | .error _ | .ok none => .error .raised
  | .ok (some spotId) =>
    if spotId ≠ req.spotId ∨ Json.textOf fields "device_id_hash" ≠ req.deviceIdHash then .ok false
    else do
      let latitudeE6 ← intAt cfg fields "latitude_e6"
      let longitudeE6 ← intAt cfg fields "longitude_e6"
      let accuracyCm ← intAt cfg fields "accuracy_cm"
      return decide (fixed = ⟨latitudeE6, longitudeE6, accuracyCm⟩ ∧ Json.textOf fields "action" = "claim" ∧
        Json.textOf fields "environment" = host.claimEnvironment ∧ Json.textOf fields "network" = host.claimNetwork)

/-- `_retire_claim_authorization`, and the answer that goes with it. -/
def retire (md : AppMetadata) (key : MetadataKey) (refusal : Refusal) : AppMetadata × Except Refusal Unit :=
  (md.pop key, .error refusal)

/-- From `verifying` on: what the attempt comes to. -/
def finishAttempt (md : AppMetadata) (key : MetadataKey) (req : ConsumeRequest) : AppMetadata × Except Refusal Unit :=
  if req.freshAllowed = false then retire md key (.refused "public_claim_temporarily_unavailable")
  else match md.getJson key with
    | .error _ => (md, .error .raised)
    | .ok (md, some (.obj fields)) =>
      if hasStatus fields "verifying" = false then (md, .error (.refused "claim_authorization_used"))
      else
        let processing := Json.put (Json.put fields "status" (.str "processing")) "processing_at" (.int req.processingAt)
        let md := md.setJson key (.obj processing)
        match req.preclaimRetryAt with
        | some retryAt => retire md key (.rateLimited "claim_security_cooldown" retryAt)
        | none =>
          if req.claimCreated = false then retire md key (.refused "claim_refused")
          else (if req.recorded then md.pop key else md, .ok ())
    | .ok (md, _) => (md, .error (.refused "claim_authorization_used"))

/-- An open authorization whose fields match: the one attempt it is good for. -/
def attempt (cfg : Settings P) (host : SecurityHost) (md : AppMetadata) (now : ℕ) (req : ConsumeRequest)
    (session : Session) (proof : ClaimProof) (authorization : List (String × Json)) : AppMetadata × Except Refusal Unit :=
  let key := .claimAuthorization proof.challengeId
  let verifying := Json.put (Json.put (Json.put authorization "status" (.str "verifying")) "verifying_at" (.int now))
    "proof_hash" (.str (host.sha256Text (proof.publicKey ++ ":" ++ proof.signature)))
  let md := md.setJson key (.obj verifying)
  match Json.get authorization "message" with
  | none => (md, .error .raised)
  | some message =>
    match host.verifySignature message proof.publicKey proof.signature with
    | .error _ => retire md key (.refused "claim_signature_invalid")
    | .ok signer =>
      if canonicalOptionalAddress cfg ((Json.get authorization "receiving_wallet").map Json.text) ≠ some signer ∨
          signer ≠ session.walletAddress then
        retire md key (.refused "claim_wallet_mismatch")
      else finishAttempt md key req

/-- `guard_http_request` for a claim. -/
def consume (cfg : Settings P) (host : SecurityHost) (md : AppMetadata) (now : ℕ) (req : ConsumeRequest) :
    AppMetadata × Except Refusal Unit :=
  match loadSession cfg host md req.sessionToken req.deviceIdHash now with
  | .error e => (md, .error e)
  | .ok (_, loaded) =>
    match loaded.filter fun _ => req.userMatches with
    | none => (md, .error (.refused "wallet_auth_required"))
    | some session =>
      match req.proof with
      | none => (md, .error (.refused "claim_authorization_required"))
      | some proof =>
        if isClaimAuthorizationId proof.challengeId = false then (md, .error (.refused "claim_authorization_missing"))
        else match md.object? (.claimAuthorization proof.challengeId) with
          | .error _ => (md, .error .raised)
          | .ok none => (md, .error (.refused "claim_authorization_missing"))
          | .ok (some authorization) =>
            match isOpen cfg authorization now with
            | .error e => (md, .error e)
            | .ok false => (md, .error (.refused "claim_authorization_used"))
            | .ok true =>
              match req.location with
              | .error _ => (md, .error (.refused "claim_authorization_mismatch"))
              | .ok fixed =>
                match fieldsMatch cfg host authorization req fixed with
                | .error e => (md, .error e)
                | .ok false => (md, .error (.refused "claim_authorization_mismatch"))
                | .ok true => attempt cfg host md now req session proof authorization

end Consumption

section Maintenance

inductive Pruned
  | keep
  | update (stamps : List ℤ)
  | delete
  deriving DecidableEq

/-- Python's `==` between an integer and a decoded value. -/
def equalsInt (stamp : ℤ) : Json → Bool
  | .int value => value == stamp
  | .bool value => (if value then 1 else 0) == stamp
  | .float _ (.finite value) => value == stamp
  | _ => false

/-- An authorization that is neither issued nor under way cannot be used. -/
def pruneAuthorization (cfg : Settings P) (host : SecurityHost) (now : ℕ) (fields : List (String × Json)) :
    Except PyError Pruned :=
  match Json.intOrZero cfg fields "expires_at" with
  | .error e => .error e
  | .ok none => .ok .delete
  | .ok (some expiresAt) =>
    let state := Json.textOf fields "status"
    if state = "issued" then .ok (if expiresAt ≤ now then .delete else .keep)
    else if state ∈ ["verifying", "processing", "failed"] then
      .ok (if expiresAt + host.claimAuthorizationVerifyGraceSeconds ≤ now then .delete else .keep)
    else .ok .delete

/-- A challenge or a session. -/
def pruneExpiring (cfg : Settings P) (now : ℕ) (fields : List (String × Json)) : Except PyError Pruned :=
  match Json.intOrZero cfg fields "expires_at" with
  | .error e => .error e
  | .ok none => .ok .delete
  | .ok (some expiresAt) => .ok (if expiresAt ≤ now then .delete else .keep)

def pruneBucket (cfg : Settings P) (host : SecurityHost) (now : ℕ) (items : List Json) : Except PyError Pruned :=
  match items.mapM (Json.toInt cfg) with
  | .error e => .error e
  | .ok stamps =>
    let window := max host.authRateWindowSeconds host.claimAuthorizationRateWindowSeconds
    let kept := (stamps.filterMap id).filter fun stamp => (now : ℤ) - window < stamp
    if kept = [] then .ok .delete
    else if kept.length = items.length ∧ (kept.zip items).all (fun pair => equalsInt pair.1 pair.2) = true then .ok .keep
    else .ok (.update kept)

/-- `_prune_value`; a float beyond every integer still raises, and so does a text nested too deep. -/
def pruneValue (cfg : Settings P) (host : SecurityHost) (now : ℕ) : MetadataRow → Except PyError Pruned
  | (_, .tooDeep) => .error .runtimeError
  | (_, .malformed) => .ok .delete
  | (.user _, .value _) | (.cleanupCursor, .value _) => .ok .keep
  | (.claimAuthorization _, .value (.obj fields)) => pruneAuthorization cfg host now fields
  | (.challenge _, .value (.obj fields)) | (.session _, .value (.obj fields)) => pruneExpiring cfg now fields
  | (.rate _, .value (.arr items)) => pruneBucket cfg host now items
  | (_, .value _) => .ok .delete

/-- One turn of the loop of the pass. -/
def pruneRow (cfg : Settings P) (host : SecurityHost) (now : ℕ) (md : AppMetadata) (row : MetadataRow) :
    Except PyError AppMetadata :=
  match pruneValue cfg host now row with
  | .error e => .error e
  | .ok .keep => .ok md
  | .ok (.update stamps) => .ok (md.setJson row.1 (.arr (stamps.map .int)))
  | .ok .delete => .ok (md.pop row.1)

def cursorOf : Option Json → String
  | some (.str cursor) => cursor
  | _ => ""

/-- The ephemeral rows after the cursor, or the first ones when there are none. -/
def nextPage (md : AppMetadata) (cursor : String) (limit : ℕ) : List MetadataRow :=
  let rows := md.page MetadataKey.isEphemeral cursor limit
  if rows = [] ∧ cursor ≠ "" then md.page MetadataKey.isEphemeral "" limit else rows

/-- The transaction of `cleanup_expired_claim_security_metadata`. -/
def cleanupPage (cfg : Settings P) (host : SecurityHost) (md : AppMetadata) (now limit : ℕ) :
    Except PyError AppMetadata :=
  match md.getJson .cleanupCursor with
  | .error e => .error e
  | .ok (md, value) =>
    let rows := md.nextPage (cursorOf value) (max 1 limit)
    match rows.foldlM (pruneRow cfg host now) md with
    | .error e => .error e
    | .ok md =>
      match rows.getLast? with
      | some row => .ok (md.setJson .cleanupCursor (.str row.1.text))
      | none => .ok (md.pop .cleanupCursor)

/-- A pass that raises leaves the rows as they were. -/
def cleanup (cfg : Settings P) (host : SecurityHost) (md : AppMetadata) (now limit : ℕ) : AppMetadata :=
  match cleanupPage cfg host md now limit with
  | .error _ => md
  | .ok md => md

end Maintenance

end AppMetadata

open AppMetadata in
inductive MetadataOp
  | tick (seconds : ℕ)
  | cleanup (limit : ℕ)
  | loadSession (token : Option String) (deviceIdHash : String)
  | createChallenge (req : ChallengeRequest)
  | verify (req : VerifyRequest)
  | prepare (req : PrepareRequest)
  | consume (req : ConsumeRequest)

/-- The rows, the clock, and whether each request so far was accepted. -/
structure MetadataRun where
  md : AppMetadata
  now : ℕ
  answers : List Bool

namespace MetadataRun

def answer (s : MetadataRun) (answered : AppMetadata × Except Refusal Unit) : MetadataRun :=
  { s with md := answered.1, answers := s.answers ++ [answered.2.isOk] }

def step (cfg : Settings P) (host : SecurityHost) (s : MetadataRun) : MetadataOp → MetadataRun
  | .tick seconds => { s with now := s.now + seconds }
  | .cleanup limit => { s with md := s.md.cleanup cfg host s.now limit }
  | .loadSession token deviceIdHash =>
    -- a status request reads outside a transaction, so what it deletes is not committed
    match s.md.loadSession cfg host token deviceIdHash s.now with
    | .ok (_, some _) => { s with answers := s.answers ++ [true] }
    | _ => { s with answers := s.answers ++ [false] }
  | .createChallenge req => s.answer (s.md.createChallenge cfg host s.now req)
  | .verify req => { s.answer (s.md.verify cfg host s.now req) with now := s.now + req.verificationSeconds }
  | .prepare req => s.answer (s.md.prepare cfg host s.now req)
  | .consume req => s.answer (s.md.consume cfg host s.now req)

end MetadataRun

end NimHunt
