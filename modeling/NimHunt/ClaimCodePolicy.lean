import NimHunt.DbAccess.ClaimStatus
import NimHunt.LocationBehaviorGuard
import NimHunt.ClaimLocationGuard

/-!
# Claim creation, plain and with the success-only code policy

`db_access.create_claim_attempt` and the two functions `claim_code_policy.install` binds over it
and over the promoter.
-/

namespace NimHunt

variable {P : Type}

structure ClaimRequest (P : Type) where
  spotId : ℕ
  userId : ℕ
  position : P
  locationAccuracyMetres : Option ℚ
  claimCode : Option String
  payoutAddress : Option Address

/-- A claim route body: the value bound to `db_access.create_claim_attempt`. -/
abbrev ClaimAttempter (P : Type) := Db P → ClaimRequest P → Outcome P (Claim P)

def normaliseClaimCode (cfg : Settings P) (value : Option String) (required : Bool) :
    Except Raised (Option String) :=
  match value.map cfg.strip with
  | none | some "" =>
    if required then .error (.valueError "A claim code is required for this spot.") else .ok none
  | some stripped =>
    let cleaned : String := cfg.upper stripped
    if cleaned ≠ "" ∧ cleaned.all (fun c : Char => c.toNat < 128 ∧ c.isAlphanum) then .ok (some cleaned)
    else .error (.valueError "Claim codes contain uppercase letters and numbers only.")

/-- The entry check of a code: it belongs to the Spot and nobody has used it. -/
def unusedClaimCode (db : Db P) (spotId : ℕ) (code : Option String) : Except Raised (Option ClaimCode) :=
  match code.bind (db.claimCodeByCode spotId) with
  | none => .error (.valueError "That claim code is not valid for this spot.")
  | some existing =>
    if existing.usedBy.isSome then .error (.valueError "This code has already been used.")
    else .ok (some existing)

/-- `claim_code_for_claim`: mark an unused code as used by the claim. -/
def claimCodeForClaim (db : Db P) (spotId : ℕ) (code : String) (claimId : ℕ) : Outcome P Unit :=
  match db.claimCodeByCode spotId code with
  | none => (db, .error (.valueError "That claim code is not valid for this spot."))
  | some existing =>
    if existing.usedBy.isSome then (db, .error (.valueError "This code has already been used."))
    else ((db.consumeClaimCode existing.id claimId).1, .ok ())

/-- Both claim paths turn the trigger's refusal into a friendly rejection. -/
def friendlyInsertError (raised : Raised) : Raised :=
  if raised = .integrityError "spot cancellation has started" then
    .valueError "This spot is being cancelled and can no longer be claimed."
  else raised

/-- The last read of both claim paths. -/
def reloadClaim (db : Db P) (claimId : ℕ) : Outcome P (Claim P) :=
  match db.getClaim claimId with
  | none => (db, .error (.runtimeError "Claim was created but could not be reloaded"))
  | some claim => (db, .ok claim)

/-- `db_access.create_claim_attempt` from the insert on. -/
def enterClaim (create : ClaimCreator P) (promote : Promoter P) (db : Db P) (req : ClaimRequest P)
    (spot : Spot P) (cleanCode : Option String) : Outcome P (Claim P) :=
  match create db req.spotId req.userId req.position 1 req.payoutAddress with
  | (db, .error e) => (db, .error (friendlyInsertError e))
  | (db, .ok claimId) =>
    let coded : Outcome P Unit := match spot.usePassword, cleanCode with
      | true, some code => claimCodeForClaim db req.spotId code claimId
      | _, _ => (db, .ok ())
    match coded with
    | (db, .error e) => (db, .error e)
    | (db, .ok ()) =>
      if spot.claimDuration = 0 then
        match promote db claimId with
        | (db, ⟨_, some (false, _)⟩) => (db, .error (.valueError "This spot has run out of rewards."))
        | (db, ⟨some claim, _⟩) => (db, .ok claim)
        | (db, ⟨none, _⟩) => reloadClaim db claimId
      else reloadClaim db claimId

/-- `db_access.create_claim_attempt`. -/
def createClaimAttempt (cfg : Settings P) (create : ClaimCreator P) (promote : Promoter P) :
    ClaimAttempter P := fun db req =>
  match db.getSpot req.spotId with
  | none => (db, .error (.valueError "This spot could not be found."))
  | some spot =>
    match getClaimRuleCheck cfg db req.spotId req.userId (some req.position) req.locationAccuracyMetres with
    | .error e => (db, .error e)
    | .ok rule =>
      if !rule.allowed then
        (db, .error (.valueError (rule.message.getD "This spot cannot be claimed right now.")))
      else match normaliseClaimCode cfg req.claimCode spot.usePassword with
        | .error e => (db, .error e)
        | .ok cleanCode =>
          match if spot.usePassword then unusedClaimCode db req.spotId cleanCode else .ok none with
          | .error e => (db, .error e)
          | .ok _ =>
            if db.hasSpotCancellationStarted req.spotId then
              (db, .error (.valueError "This spot is being cancelled and can no longer be claimed."))
            else
              let observed : Outcome P Bool :=
                if spot.usePassword then (db, .ok false)
                else observeSignedClaim cfg db req.userId spot req.position db.now
              match observed with
              | (db, .error e) => (db, .error e)
              | (db, .ok true) => (db, .error .publicClaimBehaviorRestriction)
              | (db, .ok false) => enterClaim create promote db req spot cleanCode

/-- `promote_pending_claim_to_success_if_code_available`: the code is consumed before the delegate
promotes, and released again when the claim did not reach SUCCESS. -/
def promotePendingClaimToSuccessIfCodeAvailable (original : Promoter P) : Promoter P := fun db claimId =>
  match db.getClaim claimId with
  | none => (db, ⟨none, none⟩)
  | some claim =>
    if claim.status ≠ .pending then (db, ⟨some claim, none⟩)
    else match db.getSpot claim.spotId with
      | none => (db, ⟨some claim, none⟩)
      | some spot =>
        if !spot.usePassword then original db claimId
        else match db.attemptForClaim claimId with
          | none =>
            let db' := db.setClaimStatusToFailed claimId
            (db', ⟨db'.getClaim claimId, some (false, "claim_code_attempt_missing")⟩)
          | some code =>
            match db.consumeClaimCode code.id claimId with
            | (_, false) =>
              let db' := db.setClaimStatusToFailed claimId
              (db', ⟨db'.getClaim claimId, some (false, "claim_code_already_used")⟩)
            | (db, true) =>
              let (db', result) := original db claimId
              let succeeded := result.claim.any fun claim => claim.status = .success
              (if succeeded then db' else db'.releaseCodeFromClaim claimId, result)

/-- The rejection a failed promotion of a fresh claim is reported with. -/
def promotionRejection (reason : String) : String :=
  if reason = "claim_code_already_used" then "This code has already been used."
  else if reason = "claim_code_attempt_missing" then "This claim no longer has a valid code attempt."
  else "This spot has run out of rewards."

/-- The candidate code of a fresh claim, if its Spot has codes. -/
def Db.createAttemptIfCoded (db : Db P) (claimId : ℕ) (claimCodeId : Option ℕ) : Db P :=
  match claimCodeId with
  | some codeId => db.createAttempt claimId codeId
  | none => db

/-- `create_claim_attempt_success_only` from the insert on. -/
def enterClaimSuccessOnly (create : ClaimCreator P) (original : Promoter P) (db : Db P)
    (req : ClaimRequest P) (spot : Spot P) (claimCodeId : Option ℕ) : Outcome P (Claim P) :=
  match create db req.spotId req.userId req.position 1 req.payoutAddress with
  | (db, .error e) => (db, .error (friendlyInsertError e))
  | (db, .ok claimId) =>
    let db := db.createAttemptIfCoded claimId claimCodeId
    if spot.claimDuration = 0 then
      match promotePendingClaimToSuccessIfCodeAvailable original db claimId with
      | (db, ⟨_, some (false, reason)⟩) => (db, .error (.valueError (promotionRejection reason)))
      | (db, ⟨some claim, _⟩) => (db, .ok claim)
      | (db, ⟨none, _⟩) => reloadClaim db claimId
    else reloadClaim db claimId

/-- `create_claim_attempt_success_only`. -/
def createClaimAttemptSuccessOnly (cfg : Settings P) (create : ClaimCreator P) (original : Promoter P) :
    ClaimAttempter P := fun db req =>
  match db.getSpot req.spotId with
  | none => (db, .error (.valueError "This spot could not be found."))
  | some spot =>
    match getClaimRuleCheck cfg db req.spotId req.userId (some req.position) req.locationAccuracyMetres with
    | .error e => (db, .error e)
    | .ok rule =>
      if !rule.allowed then
        (db, .error (.valueError (rule.message.getD "This spot cannot be claimed right now.")))
      else match normaliseClaimCode cfg req.claimCode spot.usePassword with
        | .error e => (db, .error e)
        | .ok cleanCode =>
          match if spot.usePassword then unusedClaimCode db req.spotId cleanCode else .ok none with
          | .error e => (db, .error e)
          | .ok existing =>
            if db.hasSpotCancellationStarted req.spotId then
              (db, .error (.valueError "This spot is being cancelled and can no longer be claimed."))
            else enterClaimSuccessOnly create original db req spot (existing.map ClaimCode.id)

/-- The checks both copies make before anything is written. -/
def entryCheck (cfg : Settings P) (db : Db P) (req : ClaimRequest P) :
    Except Raised (Spot P × Option String × Option ClaimCode) :=
  match db.getSpot req.spotId with
  | none => .error (.valueError "This spot could not be found.")
  | some spot =>
    match getClaimRuleCheck cfg db req.spotId req.userId (some req.position) req.locationAccuracyMetres with
    | .error e => .error e
    | .ok rule =>
      if !rule.allowed then
        .error (.valueError (rule.message.getD "This spot cannot be claimed right now."))
      else match normaliseClaimCode cfg req.claimCode spot.usePassword with
        | .error e => .error e
        | .ok cleanCode =>
          match if spot.usePassword then unusedClaimCode db req.spotId cleanCode else .ok none with
          | .error e => .error e
          | .ok existing =>
            if db.hasSpotCancellationStarted req.spotId then
              .error (.valueError "This spot is being cancelled and can no longer be claimed.")
            else .ok (spot, cleanCode, existing)

lemma createClaimAttempt_eq (cfg : Settings P) (create : ClaimCreator P) (promote : Promoter P) (db : Db P)
    (req : ClaimRequest P) :
    createClaimAttempt cfg create promote db req =
      match entryCheck cfg db req with
      | .error e => (db, .error e)
      | .ok (spot, cleanCode, _) =>
        match if spot.usePassword then (db, .ok false)
            else observeSignedClaim cfg db req.userId spot req.position db.now with
        | (db, .error e) => (db, .error e)
        | (db, .ok true) => (db, .error .publicClaimBehaviorRestriction)
        | (db, .ok false) => enterClaim create promote db req spot cleanCode := by
  simp only [createClaimAttempt, entryCheck]
  cases db.getSpot req.spotId with
  | none => rfl
  | some spot =>
    dsimp only
    cases getClaimRuleCheck cfg db req.spotId req.userId (some req.position) req.locationAccuracyMetres with
    | error e => rfl
    | ok rule =>
      dsimp only
      cases rule.allowed
      · rfl
      · cases normaliseClaimCode cfg req.claimCode spot.usePassword with
        | error e => rfl
        | ok cleanCode =>
          dsimp only
          cases (if spot.usePassword = true then unusedClaimCode db req.spotId cleanCode else .ok none) with
          | error e => rfl
          | ok existing =>
            cases db.hasSpotCancellationStarted req.spotId <;> rfl

lemma createClaimAttemptSuccessOnly_eq (cfg : Settings P) (create : ClaimCreator P) (original : Promoter P)
    (db : Db P) (req : ClaimRequest P) :
    createClaimAttemptSuccessOnly cfg create original db req =
      match entryCheck cfg db req with
      | .error e => (db, .error e)
      | .ok (spot, _, existing) =>
        enterClaimSuccessOnly create original db req spot (existing.map ClaimCode.id) := by
  simp only [createClaimAttemptSuccessOnly, entryCheck]
  cases db.getSpot req.spotId with
  | none => rfl
  | some spot =>
    dsimp only
    cases getClaimRuleCheck cfg db req.spotId req.userId (some req.position) req.locationAccuracyMetres with
    | error e => rfl
    | ok rule =>
      dsimp only
      cases rule.allowed
      · rfl
      · cases normaliseClaimCode cfg req.claimCode spot.usePassword with
        | error e => rfl
        | ok cleanCode =>
          dsimp only
          cases (if spot.usePassword = true then unusedClaimCode db req.spotId cleanCode else .ok none) with
          | error e => rfl
          | ok existing =>
            cases db.hasSpotCancellationStarted req.spotId <;> rfl

/-- What a request that passed the entry checks has been checked for. -/
lemma entryCheck_ok {cfg : Settings P} {db : Db P} {req : ClaimRequest P} {spot : Spot P}
    {cleanCode : Option String} {existing : Option ClaimCode}
    (h : entryCheck cfg db req = .ok (spot, cleanCode, existing)) :
    db.getSpot req.spotId = some spot ∧
    ClaimAllowed cfg db req.spotId req.userId req.position req.locationAccuracyMetres ∧
    (if spot.usePassword then unusedClaimCode db req.spotId cleanCode else .ok none) = .ok existing := by
  simp only [entryCheck] at h
  cases hspot : db.getSpot req.spotId with
  | none => simp [hspot] at h
  | some found =>
    simp only [hspot] at h
    cases hrule : getClaimRuleCheck cfg db req.spotId req.userId (some req.position)
        req.locationAccuracyMetres with
    | error e => simp [hrule] at h
    | ok rule =>
      simp only [hrule] at h
      cases hallowed : rule.allowed
      · simp [hallowed] at h
      · simp only [hallowed, Bool.not_true, Bool.false_eq_true, if_false] at h
        cases hcode : normaliseClaimCode cfg req.claimCode found.usePassword with
        | error e => simp [hcode] at h
        | ok code =>
          simp only [hcode] at h
          cases hexisting : (if found.usePassword = true then unusedClaimCode db req.spotId code
              else .ok none) with
          | error e => simp [hexisting] at h
          | ok row =>
            simp only [hexisting] at h
            split_ifs at h
            simp only [Except.ok.injEq, Prod.mk.injEq] at h
            obtain ⟨rfl, rfl, rfl⟩ := h
            exact ⟨rfl, claimAllowed_of_rule hrule hallowed, hexisting⟩

end NimHunt
