import NimHunt.ClaimSecurityGuard
import NimHunt.Proofs.ClaimWrites

/-!
# The security record of a protected claim

The guard names five keywords when it records a committed claim.  The recorder start-up binds takes
four of them, so the call raises before its body runs; the recorder it replaced would have run.
-/

namespace NimHunt

open Lib

variable {P : Type}

/-- The call the guard makes after a claim committed. -/
def recordCall (post : ClaimPost P) (admitted : Admitted P) (claimId : ℕ) : List (Keyword P) :=
  [.claimId claimId, .session admitted.session, .requestBody post.body, .ipFingerprint post.ipFingerprint,
    .authorization (some admitted.authorization)]

/-- A protected request whose authorization verified and whose route answered success with a claim. -/
structure CommitsClaim (cfg : Settings P) (gs : GuardSettings P) (rt : Runtime P) (post : ClaimPost P)
    (admitted : Admitted P) (db : Db P) (claimId : ℕ) : Prop where
  admits : admitClaimPost cfg gs rt post = .ok admitted
  commits : ∃ response, claimSpotApi (installedCreateClaimAttempt cfg) cfg admitted.runtime.db post = (db, .ok response) ∧
    200 ≤ response.status ∧ response.status < 300 ∧ response.ok = true ∧ response.claimId = some claimId

/-- Records exist only under ids the CLAIM table has given out. -/
def RecordsOfClaims (rt : Runtime P) : Prop :=
  ∀ claimId, rt.db.claimSeq < claimId → rt.metadata.claimRecords claimId = none

/-- The call that records a committed claim completes, and the claim has its record. -/
structure Recorded (recorder : Recorder P) (cfg : Settings P) (gs : GuardSettings P) (rt : Runtime P)
    (post : ClaimPost P) (admitted : Admitted P) (db : Db P) (claimId : ℕ) : Prop where
  completes : (recorder.call { admitted.runtime with db := db } (recordCall post admitted claimId)).2 = .ok ()
  recorded : ((guardHttpRequest recorder cfg gs rt post).1.metadata.claimRecords claimId).isSome = true

section Guard

variable {recorder : Recorder P} {cfg : Settings P} {gs : GuardSettings P} {rt : Runtime P} {post : ClaimPost P}
  {admitted : Admitted P} {db : Db P} {claimId : ℕ}

variable (cfg rt) in
lemma loadSession_frame (token : Option String) (deviceId : String) :
    (loadSession cfg rt token deviceId).1.db = rt.db ∧
      (loadSession cfg rt token deviceId).1.metadata.claimRecords = rt.metadata.claimRecords := by
  unfold loadSession
  split
  · exact ⟨rfl, rfl⟩
  · exact ⟨rfl, rfl⟩
  · split
    · exact ⟨rfl, rfl⟩
    · dsimp only
      split_ifs
      · exact ⟨rfl, rfl⟩
      · exact ⟨rfl, rfl⟩
      · split <;> exact ⟨rfl, rfl⟩

/-- The guard changes no table and no claim record before it calls the application; only time passes. -/
lemma admitClaimPost_frame (h : admitClaimPost cfg gs rt post = .ok admitted) :
    admitted.runtime.db = { rt.db with now := rt.db.now + post.verificationSeconds } ∧
      admitted.runtime.metadata.claimRecords = rt.metadata.claimRecords := by
  unfold admitClaimPost at h
  cases hdevice : cleanDeviceIdentifier cfg post.body.deviceIdHash with
  | error message => simp [hdevice] at h
  | ok deviceId =>
    rw [hdevice] at h
    have hframe := loadSession_frame cfg rt post.sessionToken deviceId
    rcases hsession : authenticatedSession cfg rt post.sessionToken deviceId with ⟨loaded, _ | session⟩
    · simp [hsession] at h
    · have hloaded : loaded = (loadSession cfg rt post.sessionToken deviceId).1 := by
        have := congrArg Prod.fst hsession
        exact this.symm
      rw [← hloaded] at hframe
      simp only [hsession] at h
      cases hproof : post.body.claimAuthorization with
      | none => simp [hproof] at h
      | some proof =>
        simp only [hproof] at h
        cases hkey : claimAuthorizationKey proof.challengeId with
        | error message => simp [hkey] at h
        | ok authKey =>
          simp only [hkey] at h
          cases hauth : loaded.metadata.authorizations authKey with
          | none => simp [hauth] at h
          | some authorization =>
            simp only [hauth] at h
            by_cases hlive : (!issuedAndLive authorization loaded.db.now) = true
            · simp [hlive] at h
            · rw [if_neg hlive] at h
              cases hfixed : gs.canonicalLocation post.body.position post.body.accuracy with
              | error message => simp [hfixed] at h
              | ok fixed =>
                simp only [hfixed] at h
                by_cases hmatch : (!authorization.matchesRequest gs post.spotId deviceId fixed) = true
                · simp [hmatch] at h
                · rw [if_neg hmatch] at h
                  cases hsigner : post.signer with
                  | error message => simp [hsigner] at h
                  | ok signer =>
                    simp only [hsigner] at h
                    split_ifs at h
                    · rw [Except.ok.injEq] at h
                      rw [← h]
                      refine ⟨?_, hframe.2⟩
                      simp only [Runtime.setAuthorization, Runtime.elapse, hframe.1]

/-- A successful claim request inserted a row, under the next id. -/
lemma installedCreateClaimAttempt_ok {db db' : Db P} {req : ClaimRequest P} {claim : Claim P} (hkeyed : db.Keyed)
    (h : installedCreateClaimAttempt cfg db req = (db', .ok claim)) :
    claim.id = db.claimSeq + 1 ∧ ∃ stored, db'.getClaim claim.id = some stored := by
  rcases installedCreateClaimAttempt_outcomes cfg req hkeyed with
    ⟨_, e, hrefused, -⟩ | ⟨spot, entry, entered, henters, ⟨-, hwaits⟩ | ⟨-, hdb, hsuccess | ⟨-, message, hfailed⟩⟩⟩
  · rw [hrefused] at h
    simp at h
  · have hfound := henters.getClaim hkeyed
    obtain ⟨address, hentry⟩ := henters.inserted
    rw [hwaits, Prod.mk.injEq, Except.ok.injEq] at h
    rw [← h.1, ← h.2]
    exact ⟨by rw [hentry]; rfl, entry, hfound⟩
  · have hfound := henters.getClaim hkeyed
    have hwrites : ClaimWrites .all db (installedCreateClaimAttempt cfg db req).1 :=
      claimRoute_writes hkeyed ⟨fun _ _ _ _ _ => trivial, fun _ _ _ _ _ _ => trivial⟩
    obtain ⟨address, hentry⟩ := henters.inserted
    have hclaim : claim = entry.withStatus db.now .success := by
      rw [h] at hsuccess
      exact Except.ok.inj hsuccess
    have hid : claim.id = entry.id := by rw [hclaim]; rfl
    have hspot : entered.getSpot entry.spotId = some spot := by
      have hentered : ClaimWrites .all db entered :=
        henters.writes hkeyed ⟨fun _ _ _ _ _ => trivial, fun _ _ _ _ _ _ => trivial⟩
      have hground := hentered.sameGround
      rw [hground.getSpot, hentry]
      exact getPublicSpot_getSpot henters.found
    have hsettled : ClaimWrite .all entered (promotePendingClaimToSuccessIfCodeAvailable
        promotePendingClaimToSuccessIfCapacityAvailable entered entry.id).1 :=
      (codePromoter_settles hfound (by rw [hentry]; rfl) hspot (fun _ => trivial)).write
    obtain ⟨stored, hstored, -⟩ := hsettled.claimsKept.getClaim hfound
    rw [← hdb, h] at hstored
    rw [hid]
    exact ⟨by rw [hentry]; rfl, stored, hstored⟩
  · rw [h] at hfailed
    simp at hfailed

lemma claimSpotApi_ok {db db' : Db P} {response : HttpResponse} {claimId : ℕ} (hkeyed : db.Keyed)
    (h : claimSpotApi (installedCreateClaimAttempt cfg) cfg db post = (db', .ok response))
    (hclaim : response.claimId = some claimId) :
    claimId = db.claimSeq + 1 ∧ ∃ stored, db'.getClaim claimId = some stored := by
  unfold claimSpotApi at h
  cases hdevice : cleanDeviceIdentifier cfg post.body.deviceIdHash with
  | error message =>
    rw [hdevice, Prod.mk.injEq, Except.ok.injEq] at h
    rw [← h.2] at hclaim
    simp at hclaim
  | ok deviceId =>
    rw [hdevice] at h
    dsimp only at h
    by_cases hwallet : (!post.body.walletAvailable) = true
    · rw [if_pos hwallet, Prod.mk.injEq, Except.ok.injEq] at h
      rw [← h.2] at hclaim
      simp at hclaim
    · rw [if_neg hwallet] at h
      cases huser : db.users.find? fun user => user.deviceIdHash = deviceId with
      | none =>
        rw [huser, Prod.mk.injEq, Except.ok.injEq] at h
        rw [← h.2] at hclaim
        simp at hclaim
      | some user =>
        cases hposition : post.body.position with
        | none =>
          simp only [huser, hposition, Prod.mk.injEq, Except.ok.injEq] at h
          rw [← h.2] at hclaim
          simp at hclaim
        | some position =>
          cases hspot : db.getSpot post.spotId with
          | none =>
            simp only [huser, hposition, hspot, Prod.mk.injEq, Except.ok.injEq] at h
            rw [← h.2] at hclaim
            simp at hclaim
          | some spot =>
            simp only [huser, hposition, hspot] at h
            split_ifs at h
            · rw [Prod.mk.injEq, Except.ok.injEq] at h
              rw [← h.2] at hclaim
              simp at hclaim
            · rw [Prod.mk.injEq, Except.ok.injEq] at h
              rw [← h.2] at hclaim
              simp at hclaim
            · rcases hattempt : installedCreateClaimAttempt cfg db ⟨post.spotId, user.id, position,
                post.body.accuracy, post.body.claimCode, post.body.payoutAddress⟩ with ⟨after, e | claim⟩
              · simp only [hattempt] at h
                split_ifs at h
                · rw [Prod.mk.injEq, Except.ok.injEq] at h
                  rw [← h.2] at hclaim
                  simp at hclaim
                · simp at h
              · simp only [hattempt, Prod.mk.injEq, Except.ok.injEq] at h
                rw [← h.2, Option.some.injEq] at hclaim
                rw [← h.1, ← hclaim]
                exact installedCreateClaimAttempt_ok hkeyed hattempt

lemma guardHttpRequest_recorded {after : Runtime P} (h : CommitsClaim cfg gs rt post admitted db claimId)
    (hcall : recorder.call { admitted.runtime with db := db } (recordCall post admitted claimId) = (after, .ok ())) :
    (guardHttpRequest recorder cfg gs rt post).1 = after.setAuthorization admitted.authKey none := by
  obtain ⟨response, hroute, hlow, hhigh, hok, hid⟩ := h.commits
  unfold recordCall at hcall
  unfold guardHttpRequest
  simp only [h.admits, hroute, hlow, hhigh, hok, hid, and_self, if_true, hcall]

lemma guardHttpRequest_unrecorded {after : Runtime P} {e : Raised}
    (h : CommitsClaim cfg gs rt post admitted db claimId)
    (hcall : recorder.call { admitted.runtime with db := db } (recordCall post admitted claimId) =
      (after, .error e)) :
    (guardHttpRequest recorder cfg gs rt post).1 = after := by
  obtain ⟨response, hroute, hlow, hhigh, hok, hid⟩ := h.commits
  unfold recordCall at hcall
  unfold guardHttpRequest
  simp only [h.admits, hroute, hlow, hhigh, hok, hid, and_self, if_true, hcall]

variable (cfg rt post admitted claimId) in
/-- The installed recorder does not know the keyword `authorization`. -/
lemma installedRecorder_call (sec : SecuritySettings P) :
    ∃ message, (recordClaimEventWithBroadBurst cfg sec).call rt (recordCall post admitted claimId) =
      (rt, .error (.typeError message)) := by
  simp [Recorder.call, recordCall, recordClaimEventWithBroadBurst, Keyword.name]

variable (rt post admitted) in
/-- The recorder it replaces writes the record. -/
lemma replacedRecorder_records (sec : SecuritySettings P) {stored : Claim P} {spot : Spot P} {user : User}
    {centre : P} (hclaim : rt.db.getClaim claimId = some stored) (hspot : rt.db.getSpot stored.spotId = some spot)
    (huser : rt.db.getUser stored.recipient = some user) (hcentre : spot.position = some centre) :
    ((recordClaimEvent cfg sec).call rt (recordCall post admitted claimId)).2 = .ok () ∧
      (((recordClaimEvent cfg sec).call rt (recordCall post admitted claimId)).1.metadata.claimRecords
        claimId).isSome = true := by
  have hbody : (recordClaimEvent cfg sec).call rt (recordCall post admitted claimId) =
      recordClaimEventBody cfg sec rt ⟨claimId, admitted.session, post.body, post.ipFingerprint,
        some admitted.authorization⟩ := by
    simp [Recorder.call, recordCall, recordClaimEvent, Keyword.name, RecordArguments.bind]
  rw [hbody]
  unfold recordClaimEventBody
  simp only [hclaim, hspot, huser, hcentre]
  refine ⟨trivial, ?_⟩
  rw [Option.isSome_iff_ne_none, ne_eq, SecurityMetadata.markManualReview_eq_none]
  simp

/-- With the recorder of `claim_security` itself bound, every such claim is recorded. -/
theorem committedClaim_recorded_by_replacedRecorder {stored : Claim P} {spot : Spot P} {user : User} {centre : P}
    (h : CommitsClaim cfg gs rt post admitted db claimId) (hclaim : db.getClaim claimId = some stored)
    (hspot : db.getSpot stored.spotId = some spot) (huser : db.getUser stored.recipient = some user)
    (hcentre : spot.position = some centre) :
    Recorded (recordClaimEvent cfg gs.toSecuritySettings) cfg gs rt post admitted db claimId := by
  obtain ⟨hok, hrecord⟩ := replacedRecorder_records { admitted.runtime with db := db } post admitted
    gs.toSecuritySettings hclaim hspot huser hcentre
  rcases hcall : (recordClaimEvent cfg gs.toSecuritySettings).call { admitted.runtime with db := db }
    (recordCall post admitted claimId) with ⟨after, e | ⟨⟩⟩
  · rw [hcall] at hok
    simp at hok
  · rw [hcall] at hrecord
    refine ⟨by rw [hcall], ?_⟩
    rw [guardHttpRequest_recorded h hcall]
    exact hrecord

end Guard

/-- No claim that the protected route commits is recorded: the recording call raises, its record does
not exist, and the payout gate answers that it is missing. -/
theorem committedClaim_never_recorded {cfg : Settings P} {gs : GuardSettings P} {rt : Runtime P}
    {post : ClaimPost P} {admitted : Admitted P} {db : Db P} {claimId : ℕ}
    (hpublic : cfg.publicDeployment = true) (hkeyed : rt.db.Keyed) (hrecords : RecordsOfClaims rt)
    (h : CommitsClaim cfg gs rt post admitted db claimId) :
    (∃ message, ((recordClaimEventWithBroadBurst cfg gs.toSecuritySettings).call
      { admitted.runtime with db := db } (recordCall post admitted claimId)).2 = .error (.typeError message)) ∧
    (installedGuardHttpRequest cfg gs rt post).1.metadata.claimRecords claimId = none ∧
    (payoutSecurityDecision cfg gs.toSecuritySettings (installedGuardHttpRequest cfg gs rt post).1.db
      (installedGuardHttpRequest cfg gs rt post).1.metadata claimId).2 =
      ⟨false, "security_record_missing", true, none⟩ := by
  obtain ⟨message, hcall⟩ := installedRecorder_call cfg { admitted.runtime with db := db } post admitted claimId
    gs.toSecuritySettings
  have hguard : (installedGuardHttpRequest cfg gs rt post).1 = { admitted.runtime with db := db } :=
    guardHttpRequest_unrecorded h hcall
  obtain ⟨hdb, hmetadata⟩ := admitClaimPost_frame h.admits
  have hadmitted : admitted.runtime.db.Keyed := by
    rw [hdb]
    exact ⟨hkeyed.spotKeys, hkeyed.claimKeys, hkeyed.claimFresh, hkeyed.codeKeys, hkeyed.codeFresh,
      hkeyed.transKeys, hkeyed.transFresh⟩
  obtain ⟨response, hroute, -, -, -, hid⟩ := h.commits
  obtain ⟨hfresh, stored, hstored⟩ := claimSpotApi_ok hadmitted hroute hid
  have hmissing : admitted.runtime.metadata.claimRecords claimId = none := by
    rw [hmetadata]
    refine hrecords claimId ?_
    rw [hfresh, hdb]
    exact Nat.lt_succ_self _
  refine ⟨⟨message, by rw [hcall]⟩, ?_, ?_⟩
  · rw [hguard]
    exact hmissing
  · rw [hguard]
    unfold payoutSecurityDecision
    simp only [hstored, hmissing, hpublic, if_true]

/-- A public deployment with one open Spot, and a claimant with a session and an issued authorization. -/
def plazaRuntime : Runtime Unit where
  db := {
    now := 5000
    users := [{ id := 1, status := .active }, { id := 2, status := .active, deviceIdHash := claimantDevice }]
    spots := [{
      id := 1, createdBy := 1, depositAddress := "NQ07 SPOT", position := some (), radius := 50,
      claimDuration := 0, maxClaimsPerUser := 1, maxTotalClaims := 5, usePassword := false,
      totalValue := 50000000, creationFee := 0, startsAt := some 1000, endsAt := 86400,
      status := .published, cancellationStartedAt := none, prizeCount := none }]
    claims := []
    claimCodes := []
    claimCodeAttempts := []
    trans := []
    claimSeq := 0
    claimCodeSeq := 0
    transSeq := 0
    userBindings := [(2, "NQ07 CLAIMANT")]
    locationBehavior := fun _ => none
    locationSuspicion := fun _ => none }
  metadata := {
    sessions := fun token => if token = "session" then
        some ⟨2, claimantDevice, "NQ07 CLAIMANT", 4000, 90000⟩
      else none
    authorizations := fun key => if key = "claim_security:claim_authorization:000000005090.aaaaaaaaaaaaaaaaaaaaaaaa" then
        some {
          version := 2, status := .issued, message := "message", messageHash := "hash", nonceHash := "nonce"
          spotId := 1, action := "claim", deviceIdHash := claimantDevice, receivingWallet := "NQ07 CLAIMANT"
          location := ⟨0, 0, -1⟩, environment := "production", network := "mainnet"
          issuedAt := 4990, expiresAt := 5090 }
      else none }
where
  claimantDevice : String := "aaaaaaaaaaaaaaaabbbbbbbbbbbbbbbbccccccccccccccccdddddddddddddddd"

def plazaGuard : GuardSettings Unit where
  claimEnvironment := "production"
  claimNetwork := "mainnet"
  canonicalLocation := fun _ _ => .ok ⟨0, 0, -1⟩
  sha256Text := id

def plazaPost : ClaimPost Unit where
  spotId := 1
  sessionToken := some "session"
  ipFingerprint := "ip"
  body := {
    deviceIdHash := some plazaRuntime.claimantDevice, walletAvailable := true, position := some (),
    accuracy := none, payoutAddress := none, claimCode := none, captcha := none,
    claimAuthorization := some ⟨"000000005090.aaaaaaaaaaaaaaaaaaaaaaaa", "key", "signature"⟩ }
  signer := .ok "NQ07 CLAIMANT"
  freshAllowed := true
  freshBanned := false
  preclaimBlocked := false
  preclaimRetryAt := 0
  preclaimReason := ""
  verificationSeconds := 1

/-- The claim is accepted and paid for, and its record is missing. -/
theorem plazaPost_unrecorded :
    (installedGuardHttpRequest Settings.onePlace plazaGuard plazaRuntime plazaPost).2.toOption.map HttpResponse.claimId =
      some (some 1) ∧
    ((installedGuardHttpRequest Settings.onePlace plazaGuard plazaRuntime plazaPost).1.metadata.claimRecords 1).isSome =
      false ∧
    (payoutSecurityDecision Settings.onePlace plazaGuard.toSecuritySettings
      (installedGuardHttpRequest Settings.onePlace plazaGuard plazaRuntime plazaPost).1.db
      (installedGuardHttpRequest Settings.onePlace plazaGuard plazaRuntime plazaPost).1.metadata 1).2.reason =
      "security_record_missing" := by
  decide +kernel

theorem committedClaim_never_recorded_plaza :
    (installedGuardHttpRequest Settings.onePlace plazaGuard plazaRuntime plazaPost).1.metadata.claimRecords 1 =
      none := by
  have hcommits : (match admitClaimPost Settings.onePlace plazaGuard plazaRuntime plazaPost with
      | .error _ => false
      | .ok admitted =>
        match (claimSpotApi (installedCreateClaimAttempt Settings.onePlace) Settings.onePlace admitted.runtime.db
          plazaPost).2 with
        | .error _ => false
        | .ok response =>
          decide (200 ≤ response.status ∧ response.status < 300 ∧ response.ok = true ∧
            response.claimId = some 1)) = true := by decide +kernel
  rcases hanswer : admitClaimPost Settings.onePlace plazaGuard plazaRuntime plazaPost with refused | admitted
  · rw [hanswer] at hcommits
    simp at hcommits
  · rw [hanswer] at hcommits
    rcases hroute : claimSpotApi (installedCreateClaimAttempt Settings.onePlace) Settings.onePlace
      admitted.runtime.db plazaPost with ⟨db, e | response⟩
    · simp [hroute] at hcommits
    · simp only [hroute, decide_eq_true_eq] at hcommits
      have hkeyed : plazaRuntime.db.Keyed := by constructor <;> decide
      exact (committedClaim_never_recorded rfl hkeyed (fun _ _ => rfl) ⟨hanswer, response, hroute, hcommits⟩).2.1

end NimHunt
