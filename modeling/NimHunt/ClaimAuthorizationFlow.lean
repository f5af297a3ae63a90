import NimHunt.ClaimSecurityMaintenance
import NimHunt.ClaimSecurityGuard

/-!
# Claim requests between their transactions

`guard_http_request` of `claim_security.py`, cut at its transactions and awaits: between two stages of one
request other requests, the preparation of new authorizations, the cleanup and the rest of the deployment run.
-/

namespace NimHunt

variable {P : Type}

/-- The guard's environment, with the signature check. -/
structure FlowSettings (P : Type) extends GuardSettings P where
  verifySignature : (message publicKey signature : String) → Except String Address
  claimAuthorizationTtlSeconds : ℕ := 90
  claimAuthorizationVerifyGraceSeconds : ℕ := 5 * 60

/-- A request whose signed fields were compared, with the record it was compared to. -/
structure BoundPost (P : Type) where
  post : ClaimPost P
  deviceId : String
  session : ClaimSession
  proof : ClaimProof
  authKey : String
  authorization : ClaimAuthorization

/-- A claim request, by the statement it stands before. -/
inductive GuardStage (P : Type)
  /-- the session is loaded -/
  | received (post : ClaimPost P)
  /-- the authorization is read and compared -/
  | authenticated (post : ClaimPost P) (deviceId : String) (session : ClaimSession)
  /-- the one verification is taken -/
  | compared (bound : BoundPost P)
  /-- the signature is checked -/
  | verifying (bound : BoundPost P)
  /-- the fresh-account checks are run -/
  | signed (bound : BoundPost P)
  /-- the one attempt is taken -/
  | approved (bound : BoundPost P)
  /-- the preclaim decision is made -/
  | processing (bound : BoundPost P)
  /-- the application is called -/
  | dispatching (bound : BoundPost P)
  /-- the claim is recorded -/
  | answered (bound : BoundPost P) (response : HttpResponse)
  /-- the authorization is deleted -/
  | retiring (authKey : String)

namespace FlowSettings

/-- The message of an authorization. -/
def message (gs : FlowSettings P) (issuedAt expiresAt : ℕ) (walletAddress : Address) (req : AppMetadata.PrepareRequest) :
    String :=
  AppMetadata.buildMessage
    { sha256Text := gs.sha256Text, verifySignature := fun _ _ _ => .error ""
      claimEnvironment := gs.claimEnvironment, claimNetwork := gs.claimNetwork } issuedAt expiresAt walletAddress req

/-- Whether a row of the sweep is `removable`. -/
def isRemovable (gs : FlowSettings P) (now : ℕ) (authorization : ClaimAuthorization) : Bool :=
  match authorization.status with
  | .issued => authorization.expiresAt ≤ now
  | .verifying | .processing | .failed => authorization.expiresAt + gs.claimAuthorizationVerifyGraceSeconds ≤ now
  | .consumed => true

end FlowSettings

namespace Runtime

/-- `_cleanup_claim_authorizations` on the rows it reads. -/
def cleanupClaimAuthorizations (gs : FlowSettings P) (rt : Runtime P) (rows : List String) : Runtime P :=
  rows.foldl (fun rt authKey =>
    if (rt.metadata.authorizations authKey).any (gs.isRemovable rt.db.now) then rt.setAuthorization authKey none
    else rt) rt

/-- `prepare_claim_authorization` after its sweep. -/
def issueAuthorization (cfg : Settings P) (gs : FlowSettings P) (rt : Runtime P) (req : AppMetadata.PrepareRequest)
    (rateAllowed : Bool) : Runtime P × Option (String × ClaimAuthorization) :=
  match loadSession cfg rt req.sessionToken req.deviceIdHash with
  | (rt, none) => (rt, none)
  | (rt, some session) =>
    if (rt.db.getSpot req.spotId).isNone then (rt, none)
    else match canonicalOptionalAddress cfg (some session.walletAddress) with
      | none => (rt, none)
      | some walletAddress =>
        if rateAllowed = false then (rt, none)
        else
          let expiresAt := rt.db.now + gs.claimAuthorizationTtlSeconds
          let message := gs.message rt.db.now expiresAt walletAddress req
          let authKey := "claim_security:claim_authorization:" ++ AppMetadata.authorizationId expiresAt req.suffix
          let authorization : ClaimAuthorization := {
            version := 2, status := .issued, message := message, messageHash := gs.sha256Text message
            nonceHash := gs.sha256Text req.nonce, spotId := req.spotId, action := "claim"
            deviceIdHash := req.deviceIdHash, receivingWallet := walletAddress, location := req.location
            environment := gs.claimEnvironment, network := gs.claimNetwork
            issuedAt := rt.db.now, expiresAt := expiresAt }
          (rt.setAuthorization authKey (some authorization), some (authKey, authorization))

end Runtime

namespace GuardStage

/-- The stage after this one, or none when the request is answered. -/
def next (cfg : Settings P) (gs : FlowSettings P) (rt : Runtime P) : GuardStage P → Runtime P × Option (GuardStage P)
  | received post =>
    match cleanDeviceIdentifier cfg post.body.deviceIdHash with
    | .error _ => (rt, none)
    | .ok deviceId =>
      match authenticatedSession cfg rt post.sessionToken deviceId with
      | (rt, none) => (rt, none)
      | (rt, some session) => (rt, some (authenticated post deviceId session))
  | authenticated post deviceId session =>
    match post.body.claimAuthorization with
    | none => (rt, none)
    | some proof =>
      match claimAuthorizationKey proof.challengeId with
      | .error _ => (rt, none)
      | .ok authKey =>
        match rt.metadata.authorizations authKey with
        | none => (rt, none)
        | some authorization =>
          if !issuedAndLive authorization rt.db.now then (rt, none)
          else match gs.canonicalLocation post.body.position post.body.accuracy with
            | .error _ => (rt, none)
            | .ok fixed =>
              if !authorization.matchesRequest gs.toGuardSettings post.spotId deviceId fixed then (rt, none)
              else (rt, some (compared ⟨post, deviceId, session, proof, authKey, authorization⟩))
  | compared bound =>
    match rt.metadata.authorizations bound.authKey with
    | none => (rt, none)
    | some fresh =>
      if !issuedAndLive fresh rt.db.now then (rt, none)
      else
        (rt.setAuthorization bound.authKey (some { fresh with
          status := .verifying, verifyingAt := some rt.db.now
          proofHash := some (gs.sha256Text (bound.proof.publicKey ++ ":" ++ bound.proof.signature)) }),
          some (verifying bound))
  | verifying bound =>
    match gs.verifySignature bound.authorization.message bound.proof.publicKey bound.proof.signature with
    | .error _ => (rt, some (retiring bound.authKey))
    | .ok signer =>
      if canonicalOptionalAddress cfg (some bound.authorization.receivingWallet) ≠ some signer ∨
          signer ≠ bound.session.walletAddress then (rt, some (retiring bound.authKey))
      else (rt, some (signed bound))
  | signed bound =>
    if !((rt.db.getSpot bound.post.spotId).isSome && bound.post.freshAllowed) then (rt, some (retiring bound.authKey))
    else (rt, some (approved bound))
  | approved bound =>
    match rt.metadata.authorizations bound.authKey with
    | none => (rt, none)
    | some fresh =>
      if fresh.status ≠ .verifying then (rt, none)
      else
        (rt.setAuthorization bound.authKey (some { fresh with status := .processing, processingAt := some rt.db.now }),
          some (processing bound))
  | processing bound =>
    (rt, some (if bound.post.preclaimBlocked then retiring bound.authKey else dispatching bound))
  | dispatching bound =>
    match claimSpotApi (installedCreateClaimAttempt cfg) cfg rt.db bound.post with
    | (db, .error _) => ({ rt with db := db }, none)
    | (db, .ok response) => ({ rt with db := db }, some (answered bound response))
  | answered bound response =>
    if 200 ≤ response.status ∧ response.status < 300 ∧ response.ok then
      match response.claimId with
      | none => (rt, none)
      | some claimId =>
        match (recordClaimEventWithBroadBurst cfg gs.toSecuritySettings).call rt [.claimId claimId,
            .session bound.session, .requestBody bound.post.body, .ipFingerprint bound.post.ipFingerprint,
            .authorization (some bound.authorization)] with
        | (rt, .ok ()) => (rt, some (retiring bound.authKey))
        | (rt, .error _) => (rt, none)
    else (rt, some (retiring bound.authKey))
  | retiring authKey => (rt.setAuthorization authKey none, none)

/-- The authorization whose signature check the request is about to run. -/
def verifyKey : GuardStage P → Option String
  | verifying bound => some bound.authKey
  | _ => none

/-- The request that is about to reach the application. -/
def dispatch : GuardStage P → Option (BoundPost P)
  | dispatching bound => some bound
  | _ => none

end GuardStage

inductive FlowOp (P : Type)
  | wait (seconds : ℕ)
  /-- the rest of the deployment -/
  | elsewhere (db : Db P) (sessions : String → Option ClaimSession)
  | cleanup (rows : List String)
  | prepare (req : AppMetadata.PrepareRequest) (rateAllowed : Bool) (rows : List String)
  | submit (post : ClaimPost P)
  | advance (index : ℕ)
  | crash (index : ℕ)

/-- The deployment, the requests inside the guard, and what happened so far: the authorizations prepared, the
signature checks run, and the requests given to the application. -/
structure GuardFlow (P : Type) where
  rt : Runtime P
  requests : List (GuardStage P)
  prepared : List (String × ClaimAuthorization)
  verifications : List String
  dispatches : List (BoundPost P)

namespace GuardFlow

/-- A fresh deployment. -/
def initial : GuardFlow P := ⟨⟨.empty, {}⟩, [], [], [], []⟩

/-- One request goes on to its next stage. -/
def advance (cfg : Settings P) (gs : FlowSettings P) (s : GuardFlow P) (index : ℕ) (stage : GuardStage P) :
    GuardFlow P :=
  let reached := stage.next cfg gs s.rt
  { s with
    rt := reached.1
    requests := reached.2.toList ++ s.requests.eraseIdx index
    verifications := stage.verifyKey.toList ++ s.verifications
    dispatches := stage.dispatch.toList ++ s.dispatches }

def step (cfg : Settings P) (gs : FlowSettings P) (s : GuardFlow P) : FlowOp P → GuardFlow P
  | .wait seconds => { s with rt := s.rt.elapse seconds }
  | .elsewhere db sessions => { s with rt := ⟨db, { s.rt.metadata with sessions := sessions }⟩ }
  | .cleanup rows => { s with rt := s.rt.cleanupClaimAuthorizations gs rows }
  | .prepare req rateAllowed rows =>
    let issued := (s.rt.cleanupClaimAuthorizations gs rows).issueAuthorization cfg gs req rateAllowed
    { s with rt := issued.1, prepared := issued.2.toList ++ s.prepared }
  | .submit post => { s with requests := .received post :: s.requests }
  | .advance index =>
    match s.requests[index]? with
    | none => s
    | some stage => s.advance cfg gs index stage
  | .crash index => { s with requests := s.requests.eraseIdx index }

end GuardFlow

end NimHunt
