import NimHunt.ClaimSecurity

/-!
# The guarded claim route

`guard_http_request` of `claim_security.py` around the claim route of `public_html.py`, and the call
with which it records a committed claim.  Python binds that call's keywords when it is made, so the
recorder is modelled with its parameter list.
-/

namespace NimHunt

variable {P : Type}

/-- The database and the security keys of one deployment. -/
structure Runtime (P : Type) where
  db : Db P
  metadata : SecurityMetadata P

/-- The wallet's proof in a claim request. -/
structure ClaimProof where
  challengeId : String
  publicKey : String
  signature : String

/-- The JSON body of a claim request. -/
structure ClaimBody (P : Type) where
  deviceIdHash : Option String
  walletAvailable : Bool
  position : Option P
  accuracy : Option ℚ
  payoutAddress : Option Address
  claimCode : Option String
  captcha : Option (ℕ × ℕ × ℕ)
  claimAuthorization : Option ClaimProof

/-- One POST to a claim route, with what the deployment computes about it elsewhere: the verified
signer, the answers of the fresh-account and the preclaim guards, and the seconds the signature
check takes. -/
structure ClaimPost (P : Type) where
  spotId : ℕ
  sessionToken : Option String
  ipFingerprint : String
  body : ClaimBody P
  signer : Except String Address
  freshAllowed : Bool
  freshBanned : Bool
  preclaimBlocked : Bool
  preclaimRetryAt : ℕ
  preclaimReason : String
  verificationSeconds : ℕ

/-- What the guard reads of its environment. -/
structure GuardSettings (P : Type) extends SecuritySettings P where
  claimEnvironment : String
  claimNetwork : String
  canonicalLocation : Option P → Option ℚ → Except String FixedLocation
  sha256Text : String → String

inductive Keyword (P : Type)
  | claimId (value : ℕ)
  | session (value : ClaimSession)
  | requestBody (value : ClaimBody P)
  | ipFingerprint (value : String)
  | authorization (value : Option ClaimAuthorization)

def Keyword.name : Keyword P → String
  | .claimId _ => "claim_id"
  | .session _ => "session"
  | .requestBody _ => "request_body"
  | .ipFingerprint _ => "ip_fingerprint"
  | .authorization _ => "authorization"

/-- The bound arguments of a recorder. -/
structure RecordArguments (P : Type) where
  claimId : ℕ
  session : ClaimSession
  requestBody : ClaimBody P
  ipFingerprint : String
  authorization : Option ClaimAuthorization

/-- The values of the four required keywords, and of `authorization` if it is given. -/
def RecordArguments.bind (keywords : List (Keyword P)) : Option (RecordArguments P) := do
  let claimId ← keywords.findSome? fun | .claimId value => some value | _ => none
  let session ← keywords.findSome? fun | .session value => some value | _ => none
  let requestBody ← keywords.findSome? fun | .requestBody value => some value | _ => none
  let ipFingerprint ← keywords.findSome? fun | .ipFingerprint value => some value | _ => none
  let authorization := (keywords.findSome? fun | .authorization value => some value | _ => none).getD none
  return ⟨claimId, session, requestBody, ipFingerprint, authorization⟩

/-- A recorder as Python sees it: a name, its keyword-only parameters, and its body. -/
structure Recorder (P : Type) where
  name : String
  parameters : List String
  body : Runtime P → RecordArguments P → Runtime P × Except Raised Unit

/-- A call with keywords: one the function does not take, or a required one that is not given, raises
before the body runs. -/
def Recorder.call (f : Recorder P) (rt : Runtime P) (keywords : List (Keyword P)) :
    Runtime P × Except Raised Unit :=
  match keywords.find? fun keyword => keyword.name ∉ f.parameters with
  | some keyword =>
    (rt, .error (.typeError s!"{f.name}() got an unexpected keyword argument '{keyword.name}'"))
  | none =>
    match RecordArguments.bind keywords with
    | none => (rt, .error (.typeError s!"{f.name}() missing required keyword-only arguments"))
    | some arguments => f.body rt arguments

def ClaimAuthorization.audit (authorization : ClaimAuthorization) (now : ℕ) : AuthorizationAudit where
  version := authorization.version
  messageHash := authorization.messageHash
  nonceHash := authorization.nonceHash
  receivingWallet := authorization.receivingWallet
  spotId := authorization.spotId
  location := authorization.location
  issuedAt := authorization.issuedAt
  expiresAt := authorization.expiresAt
  claimedAt := now

/-- The body of `_record_claim_event`: one transaction, which an exception leaves without effect. -/
def recordClaimEventBody (cfg : Settings P) (sec : SecuritySettings P) (rt : Runtime P)
    (arguments : RecordArguments P) : Runtime P × Except Raised Unit :=
  let now := rt.db.now
  match rt.db.getClaim arguments.claimId with
  | none =>
    (rt, .error (.runtimeError s!"claim id={arguments.claimId} disappeared before security recording"))
  | some claim =>
    match rt.db.getSpot claim.spotId with
    | none =>
      (rt, .error (.runtimeError
        s!"spot for claim id={arguments.claimId} disappeared before security recording"))
    | some spot =>
      match rt.db.getUser claim.recipient with
      | none =>
        (rt, .error (.runtimeError
          s!"user for claim id={arguments.claimId} disappeared before security recording"))
      | some user =>
        match spot.position with
        | none =>
          (rt, .error (.typeError "float() argument must be a string or a real number, not 'NoneType'"))
        | some centre =>
          let reported := arguments.requestBody.position.getD claim.position
          let event : ClaimEvent P := {
            claimId := arguments.claimId, spotId := claim.spotId, userId := claim.recipient
            deviceIdHash := arguments.session.deviceIdHash
            verifiedWallet := some arguments.session.walletAddress
            payoutAddress := canonicalOptionalAddress cfg claim.payoutAddress
            ipHash := arguments.ipFingerprint
            claimedAt := claim.claimedAt, recordedAt := now
            sessionCreatedAt := arguments.session.createdAt, userCreatedAt := user.createdAt
            spotPosition := centre, spotRadius := spot.radius, reportedPosition := reported
            centreOffsetMetres := cfg.distanceMetres reported centre
            manualReview := false
            claimAuthorization := arguments.authorization.map fun a => a.audit now }
          let md := rt.metadata.setRecord arguments.claimId event
          let events := (md.loadRecentEvents sec now).filter (fun e => e.claimId ≠ arguments.claimId) ++ [event]
          let events := events.drop (events.length - sec.maxRecentEvents)
          let md := { md with recentEvents := events }
          let md := md.markManualReview (sec.coordinatedBurstClaimIds events now)
            "coordinated_new_identity_exact_location_burst" now
          ({ rt with metadata := md }, .ok ())

/-- `_record_claim_event`. -/
def recordClaimEvent (cfg : Settings P) (sec : SecuritySettings P) : Recorder P where
  name := "_record_claim_event"
  parameters := ["claim_id", "session", "request_body", "ip_fingerprint", "authorization"]
  body := recordClaimEventBody cfg sec

/-- `_record_claim_event_with_broad_burst`, which start-up binds in its place. -/
def recordClaimEventWithBroadBurst (cfg : Settings P) (sec : SecuritySettings P) : Recorder P where
  name := "_record_claim_event_with_broad_burst"
  parameters := ["claim_id", "session", "request_body", "ip_fingerprint"]
  body := fun rt arguments =>
    match (recordClaimEvent cfg sec).call rt [.claimId arguments.claimId, .session arguments.session,
        .requestBody arguments.requestBody, .ipFingerprint arguments.ipFingerprint] with
    | (rt, .error e) => (rt, .error e)
    | (rt, .ok ()) =>
      let events := rt.metadata.loadRecentEvents sec rt.db.now
      let md := rt.metadata.markManualReview (sec.broadNewIdentityBurstClaimIds events rt.db.now)
        "coordinated_new_identity_geographic_burst" rt.db.now
      ({ rt with metadata := md }, .ok ())

/-- A JSON response with the fields the guard looks at. -/
structure HttpResponse where
  status : ℕ
  ok : Bool
  code : String
  message : String
  claimId : Option ℕ := none
  retryAt : Option ℕ := none
  reason : Option String := none
  deriving DecidableEq, Repr

def lowerCase (text : String) : String := String.ofList (text.toList.map Char.toLower)

/-- `_clean_device_id`: 64 hexadecimal digits. -/
def cleanDeviceIdentifier (cfg : Settings P) (value : Option String) : Except String String :=
  let clean := (cfg.strip (value.getD "")).toList.map Char.toLower
  if clean.length = 64 ∧ clean.all (fun c : Char => c.isDigit ∨ 'a' ≤ c ∧ c ≤ 'f') then .ok (String.ofList clean)
  else .error "A valid Nimiq Pay device identifier is required."

/-- `_claim_authorization_key`: twelve digits, a dot, and 20 to 64 characters of a token. -/
def claimAuthorizationKey (challengeId : String) : Except String String :=
  let chars := challengeId.toList
  let token := chars.drop 13
  if (chars.take 12).length = 12 ∧ (chars.take 12).all Char.isDigit ∧ chars[12]? = some '.' ∧
      20 ≤ token.length ∧ token.length ≤ 64 ∧
      token.all (fun c : Char => c.toNat < 128 ∧ c.isAlphanum ∨ c = '_' ∨ c = '-') then
    .ok ("claim_security:claim_authorization:" ++ challengeId)
  else .error "Invalid claim authorization identifier"

/-- `_load_session`. -/
def loadSession (cfg : Settings P) (rt : Runtime P) (token : Option String) (deviceIdHash : String) :
    Runtime P × Option ClaimSession :=
  match token with
  | none | some "" => (rt, none)
  | some token =>
    match rt.metadata.sessions token with
    | none => (rt, none)
    | some session =>
      if session.expiresAt ≤ rt.db.now then
        ({ rt with metadata.sessions := Function.update rt.metadata.sessions token none }, none)
      else if session.deviceIdHash ≠ deviceIdHash then (rt, none)
      else match canonicalOptionalAddress cfg (some session.walletAddress) with
        | none => (rt, none)
        | some wallet => (rt, some { session with walletAddress := wallet })

/-- The session, if its user still has the device it was made for. -/
def authenticatedSession (cfg : Settings P) (rt : Runtime P) (token : Option String) (deviceIdHash : String) :
    Runtime P × Option ClaimSession :=
  let loaded := loadSession cfg rt token deviceIdHash
  (loaded.1, loaded.2.filter fun session =>
    (rt.db.getUser session.userId).any fun user => lowerCase user.deviceIdHash = deviceIdHash)

namespace Runtime

def setAuthorization (rt : Runtime P) (key : String) (value : Option ClaimAuthorization) : Runtime P :=
  { rt with metadata.authorizations := Function.update rt.metadata.authorizations key value }

/-- Seconds pass between two transactions. -/
def elapse (rt : Runtime P) (seconds : ℕ) : Runtime P :=
  { rt with db.now := rt.db.now + seconds }

end Runtime

def issuedAndLive (authorization : ClaimAuthorization) (now : ℕ) : Bool :=
  authorization.status = .issued ∧ now < authorization.expiresAt

/-- The signed fields describe this very request. -/
def ClaimAuthorization.matchesRequest (gs : GuardSettings P) (authorization : ClaimAuthorization) (spotId : ℕ)
    (deviceId : String) (fixed : FixedLocation) : Bool :=
  authorization.spotId = spotId ∧ authorization.deviceIdHash = deviceId ∧ authorization.location = fixed ∧
    authorization.action = "claim" ∧ authorization.environment = gs.claimEnvironment ∧
    authorization.network = gs.claimNetwork

def claimAuthorizationUsed : HttpResponse :=
  ⟨409, false, "claim_authorization_used", "This claim approval expired or has already been used.", none, none, none⟩

/-- What a request has proved when the guard lets it through. -/
structure Admitted (P : Type) where
  runtime : Runtime P
  session : ClaimSession
  authorization : ClaimAuthorization
  authKey : String

/-- `guard_http_request` up to the call of the application. -/
def admitClaimPost (cfg : Settings P) (gs : GuardSettings P) (rt : Runtime P) (post : ClaimPost P) :
    Except (Runtime P × HttpResponse) (Admitted P) :=
  match cleanDeviceIdentifier cfg post.body.deviceIdHash with
  | .error message => .error (rt, ⟨401, false, "wallet_auth_required", message, none, none, none⟩)
  | .ok deviceId =>
    match authenticatedSession cfg rt post.sessionToken deviceId with
    | (rt, none) =>
      .error (rt, ⟨401, false, "wallet_auth_required",
        "Approve the Nimiq wallet verification before claiming.", none, none, none⟩)
    | (rt, some session) =>
      match post.body.claimAuthorization with
      | none =>
        .error (rt, ⟨401, false, "claim_authorization_required", "Approve this exact claim in Nimiq Pay.",
          none, none, none⟩)
      | some proof =>
        match claimAuthorizationKey proof.challengeId with
        | .error message => .error (rt, ⟨409, false, "claim_authorization_missing", message, none, none, none⟩)
        | .ok authKey =>
          match rt.metadata.authorizations authKey with
          | none =>
            .error (rt, ⟨409, false, "claim_authorization_missing", "This claim approval is no longer valid.",
              none, none, none⟩)
          | some authorization =>
            if !issuedAndLive authorization rt.db.now then .error (rt, claimAuthorizationUsed)
            else match gs.canonicalLocation post.body.position post.body.accuracy with
              | .error message =>
                .error (rt, ⟨409, false, "claim_authorization_mismatch", message, none, none, none⟩)
              | .ok fixed =>
                if !authorization.matchesRequest gs post.spotId deviceId fixed then
                  .error (rt, ⟨409, false, "claim_authorization_mismatch",
                    "The claim details changed after approval. Prepare and approve the claim again.",
                    none, none, none⟩)
                else
                  let verifying := { authorization with
                    status := .verifying, verifyingAt := some rt.db.now
                    proofHash := some (gs.sha256Text (proof.publicKey ++ ":" ++ proof.signature)) }
                  let rt := (rt.setAuthorization authKey (some verifying)).elapse post.verificationSeconds
                  let retired := rt.setAuthorization authKey none
                  match post.signer with
                  | .error message =>
                    .error (retired, ⟨401, false, "claim_signature_invalid", message, none, none, none⟩)
                  | .ok signer =>
                    if canonicalOptionalAddress cfg (some authorization.receivingWallet) ≠ some signer ∨
                        signer ≠ session.walletAddress then
                      .error (retired, ⟨409, false, "claim_wallet_mismatch",
                        "The wallet approving this claim differs from your verified claim wallet. " ++
                        "Reauthenticate the intended wallet and try again.", none, none, none⟩)
                    else if !((rt.db.getSpot post.spotId).isSome && post.freshAllowed) then
                      .error (retired, ⟨if (rt.db.getSpot post.spotId).isSome && post.freshBanned then 403 else 429,
                        false, "public_claim_temporarily_unavailable",
                        "Public Spots are temporarily unavailable for this account. Please try again later.",
                        none, none, none⟩)
                    else
                      let processing := { verifying with
                        status := .processing, processingAt := some rt.db.now }
                      let rt := rt.setAuthorization authKey (some processing)
                      if post.preclaimBlocked then
                        .error (rt.setAuthorization authKey none, ⟨429, false, "claim_security_cooldown",
                          "This claim has been postponed because recent claim activity associated " ++
                          "with this identity could not have reached this Spot safely yet.", none,
                          if post.preclaimRetryAt = 0 then none else some post.preclaimRetryAt,
                          some post.preclaimReason⟩)
                      else .ok ⟨rt, session, authorization, authKey⟩

/-- The claim route of `public_html.py`; an exception other than a ValueError reaches the server. -/
def claimSpotApi (attempt : ClaimAttempter P) (cfg : Settings P) (db : Db P) (post : ClaimPost P) :
    Outcome P HttpResponse :=
  match cleanDeviceIdentifier cfg post.body.deviceIdHash with
  | .error _ => (db, .ok ⟨200, false, "wallet_unavailable", "", none, none, none⟩)
  | .ok deviceId =>
    if !post.body.walletAvailable then (db, .ok ⟨200, false, "wallet_unavailable", "", none, none, none⟩)
    else match db.users.find? fun user => user.deviceIdHash = deviceId with
      | none => (db, .ok ⟨500, false, "user_missing", "User could not be loaded after creation.", none, none, none⟩)
      | some user =>
        match post.body.position with
        | none =>
          (db, .ok ⟨400, false, "location_missing", "Your location is required before claiming.", none, none, none⟩)
        | some position =>
          match db.getSpot post.spotId with
          | none => (db, .ok ⟨404, false, "spot_missing", "Spot not found.", none, none, none⟩)
          | some spot =>
            if spot.usePassword ∧ post.body.captcha = none then
              (db, .ok ⟨400, false, "captcha_required", "Complete the captcha before claiming.", none, none, none⟩)
            else if spot.usePassword ∧ (post.body.captcha.any fun c => c.1 + c.2.1 ≠ c.2.2) = true then
              (db, .ok ⟨400, false, "captcha_failed", "The captcha answer was incorrect.", none, none, none⟩)
            else match attempt db ⟨post.spotId, user.id, position, post.body.accuracy, post.body.claimCode,
                post.body.payoutAddress⟩ with
              | (db', .ok claim) => (db', .ok ⟨200, true, "ok", "", some claim.id, none, none⟩)
              | (db', .error e) =>
                if e.isValueError then (db', .ok ⟨409, false, "claim_failed", e.message, none, none, none⟩)
                else (db, .error e)

/-- `guard_http_request` for a claim request: `recorder` is what `_record_claim_event` is bound to. -/
def guardHttpRequest (recorder : Recorder P) (cfg : Settings P) (gs : GuardSettings P) (rt : Runtime P)
    (post : ClaimPost P) : Runtime P × Except Raised HttpResponse :=
  match admitClaimPost cfg gs rt post with
  | .error (rt, response) => (rt, .ok response)
  | .ok admitted =>
    let rt := admitted.runtime
    match claimSpotApi (installedCreateClaimAttempt cfg) cfg rt.db post with
    | (db, .error e) => ({ rt with db := db }, .error e)
    | (db, .ok response) =>
      let rt := { rt with db := db }
      if 200 ≤ response.status ∧ response.status < 300 ∧ response.ok then
        match response.claimId with
        | none => (rt, .ok response)
        | some claimId =>
          match recorder.call rt [.claimId claimId, .session admitted.session, .requestBody post.body,
              .ipFingerprint post.ipFingerprint, .authorization (some admitted.authorization)] with
          | (rt, .ok ()) => (rt.setAuthorization admitted.authKey none, .ok response)
          -- the exception is logged and swallowed
          | (rt, .error _) => (rt, .ok response)
      else (rt.setAuthorization admitted.authKey none, .ok response)

/-- The guard of a running public deployment. -/
def installedGuardHttpRequest (cfg : Settings P) (gs : GuardSettings P) (rt : Runtime P) (post : ClaimPost P) :
    Runtime P × Except Raised HttpResponse :=
  guardHttpRequest (recordClaimEventWithBroadBurst cfg gs.toSecuritySettings) cfg gs rt post

end NimHunt
