import NimHunt.ClaimCodePolicy

/-!
# Claim limits by verified wallet

`claim_security_defence_in_depth.py` and `claim_wallet_hourly_limit.py`: the wrappers start-up puts
around claim creation and promotion, and the functions a running deployment calls in the end.
-/

namespace NimHunt

variable {P : Type}

def canonicalOptionalAddress (cfg : Settings P) (value : Option Address) : Option Address :=
  match value.map cfg.strip with
  | none | some "" => none
  | some raw => (cfg.normaliseRealNimiqAddress raw).toOption

/-- The wallet durably bound to one user, in canonical form. -/
def boundWallet (cfg : Settings P) (db : Db P) (userId : ℕ) : Option Address :=
  canonicalOptionalAddress cfg (db.userBindings.lookup userId)

/-- Every user durably bound to one verified wallet. -/
def verifiedWalletUserIds (cfg : Settings P) (db : Db P) (walletAddress : Address) : List ℕ :=
  match canonicalOptionalAddress cfg (some walletAddress) with
  | none => []
  | some canonical =>
    (db.userBindings.filter fun b =>
      0 < b.1 ∧ canonicalOptionalAddress cfg (some b.2) = some canonical).map Prod.fst

/-- Spot claims that consume the per-user allowance of one wallet. -/
def walletActiveClaimCount (cfg : Settings P) (db : Db P) (spotId : ℕ) (walletAddress : Address) : ℕ :=
  let userIds := verifiedWalletUserIds cfg db walletAddress
  db.claims.countP fun c => db.countsAgainstLimit spotId c ∧ c.recipient ∈ userIds

def walletHasReachedSpotLimit (cfg : Settings P) (db : Db P) (spotId : ℕ) (walletAddress : Address) : Bool :=
  match db.getSpot spotId with
  | none => true
  | some spot =>
    if spot.maxClaimsPerUser = 0 then false
    else spot.maxClaimsPerUser ≤ walletActiveClaimCount cfg db spotId walletAddress

def verifiedWalletOwnsSpot (cfg : Settings P) (db : Db P) (spotId : ℕ) (walletAddress : Address) : Bool :=
  match db.getSpot spotId with
  | none => false
  | some spot =>
    if spot.createdBy = 0 then false
    else match boundWallet cfg db spot.createdBy, canonicalOptionalAddress cfg (some walletAddress) with
      | some owner, some canonical => owner = canonical
      | _, _ => false

/-- `_create_claim_attempt_bound_to_verified_wallet`. -/
def createClaimAttemptBoundToVerifiedWallet (cfg : Settings P) (delegate : ClaimAttempter P) :
    ClaimAttempter P := fun db req =>
  if !cfg.publicDeployment then delegate db req
  else match db.userBindings.lookup req.userId with
    | none => (db, .error (.valueError "A verified Nimiq wallet is required before claiming."))
    | some binding =>
      match canonicalOptionalAddress cfg (some binding) with
      | none => (db, .error (.valueError "The verified Nimiq wallet for this claim is invalid."))
      | some verifiedWallet =>
        if verifiedWalletOwnsSpot cfg db req.spotId verifiedWallet then
          (db, .error (.valueError "You cannot claim your own spot."))
        else if walletHasReachedSpotLimit cfg db req.spotId verifiedWallet then
          (db, .error (.valueError "You have already reached your claim limit for this spot."))
        else delegate db { req with payoutAddress := some verifiedWallet }

/-- Claims of a wallet in the last hour. -/
def walletRecentClaimCount (cfg : Settings P) (db : Db P) (walletAddress : Address) : ℕ :=
  let userIds := verifiedWalletUserIds cfg db walletAddress
  db.claims.countP fun c => c.recipient ∈ userIds ∧ db.now < c.claimedAt + 60 * 60

/-- `_create_claim_attempt_with_durable_wallet_limit`. -/
def createClaimAttemptWithDurableWalletLimit (cfg : Settings P) (delegate : ClaimAttempter P) :
    ClaimAttempter P := fun db req =>
  let blocked := match boundWallet cfg db req.userId with
    | none => false
    | some wallet => decide (max 1 cfg.walletHourlyClaimLimit ≤ walletRecentClaimCount cfg db wallet)
  if cfg.publicDeployment && blocked then
    (db, .error (.valueError "Verified wallet hourly claim limit reached."))
  else delegate db req

/-- `_promote_claim_with_verified_wallet_limit`. -/
def promoteClaimWithVerifiedWalletLimit (cfg : Settings P) (delegate : Promoter P) : Promoter P :=
  fun db claimId =>
    if !cfg.publicDeployment then delegate db claimId
    else match db.getClaim claimId with
      | none => delegate db claimId
      | some claim =>
        if claim.status ≠ .pending then delegate db claimId
        else if db.isPrizedraw claim.spotId then delegate db claimId
        else match boundWallet cfg db claim.recipient with
          | none =>
            let db' := db.setClaimStatusToFailed claimId
            (db', ⟨db'.getClaim claimId, none⟩)
          | some verifiedWallet =>
            if walletHasReachedSpotLimit cfg db claim.spotId verifiedWallet then
              let db' := db.setClaimStatusToFailed claimId
              (db', ⟨db'.getClaim claimId, some (false, "verified_wallet_claim_limit_reached")⟩)
            else delegate db claimId

/-- The promoter of a running deployment. -/
def installedPromoter (cfg : Settings P) : Promoter P :=
  promoteClaimWithVerifiedWalletLimit cfg
    (promotePendingClaimToSuccessIfCodeAvailable promotePendingClaimToSuccessIfCapacityAvailable)

/-- The claim creation of a running deployment. -/
def installedCreateClaimAttempt (cfg : Settings P) : ClaimAttempter P :=
  createClaimAttemptWithDurableWalletLimit cfg
    (createClaimAttemptBoundToVerifiedWallet cfg
      (createClaimAttemptSuccessOnly cfg (createClaimWithImpossibleTravelGuard cfg)
        promotePendingClaimToSuccessIfCapacityAvailable))

/-- The user's wallet has room for one more claim on the Spot. -/
def WalletHasRoom (cfg : Settings P) (db : Db P) (spotId userId : ℕ) : Prop :=
  ∃ wallet, boundWallet cfg db userId = some wallet ∧ walletHasReachedSpotLimit cfg db spotId wallet = false

/-- What a public deployment has checked when it enters a claim. -/
def WalletAllowsEntry (cfg : Settings P) (db : Db P) (spotId userId : ℕ) : Prop :=
  cfg.publicDeployment = true → WalletHasRoom cfg db spotId userId

/-- What a public deployment has checked when it promotes a claim; Prizedraw entries are not checked again. -/
def WalletAllowsPromotion (cfg : Settings P) (db : Db P) (claim : Claim P) : Prop :=
  cfg.publicDeployment = true → db.isPrizedraw claim.spotId = false →
    WalletHasRoom cfg db claim.spotId claim.recipient

section Wrappers

variable {cfg : Settings P} {db : Db P} {req : ClaimRequest P}

/-- A wrapped attempt refuses and writes nothing, or is the delegate's with another payout address. -/
lemma createClaimAttemptBoundToVerifiedWallet_cases (cfg : Settings P) (delegate : ClaimAttempter P)
    (db : Db P) (req : ClaimRequest P) :
    (∃ message, createClaimAttemptBoundToVerifiedWallet cfg delegate db req = (db, .error (.valueError message))) ∨
    WalletAllowsEntry cfg db req.spotId req.userId ∧
    ∃ address, createClaimAttemptBoundToVerifiedWallet cfg delegate db req =
      delegate db { req with payoutAddress := address } := by
  unfold createClaimAttemptBoundToVerifiedWallet
  by_cases hpublic : cfg.publicDeployment = true
  · rw [if_neg (by simp [hpublic])]
    cases hbinding : db.userBindings.lookup req.userId with
    | none => exact .inl ⟨_, rfl⟩
    | some binding =>
      dsimp only
      cases hwallet : canonicalOptionalAddress cfg (some binding) with
      | none => exact .inl ⟨_, rfl⟩
      | some wallet =>
        dsimp only
        by_cases howner : verifiedWalletOwnsSpot cfg db req.spotId wallet = true
        · rw [if_pos howner]
          exact .inl ⟨_, rfl⟩
        rw [if_neg howner]
        by_cases hlimit : walletHasReachedSpotLimit cfg db req.spotId wallet = true
        · rw [if_pos hlimit]
          exact .inl ⟨_, rfl⟩
        rw [if_neg hlimit]
        have hbound : boundWallet cfg db req.userId = some wallet := by
          rw [boundWallet, hbinding, hwallet]
        exact .inr ⟨fun _ => ⟨wallet, hbound, by simpa using hlimit⟩, _, rfl⟩
  · rw [if_pos (by simp [hpublic])]
    exact .inr ⟨fun h => absurd h hpublic, req.payoutAddress, rfl⟩

lemma installedCreateClaimAttempt_cases (cfg : Settings P) (db : Db P) (req : ClaimRequest P) :
    (∃ message, installedCreateClaimAttempt cfg db req = (db, .error (.valueError message))) ∨
    WalletAllowsEntry cfg db req.spotId req.userId ∧
    ∃ address, installedCreateClaimAttempt cfg db req =
      createClaimAttemptSuccessOnly cfg (createClaimWithImpossibleTravelGuard cfg)
        promotePendingClaimToSuccessIfCapacityAvailable db { req with payoutAddress := address } := by
  unfold installedCreateClaimAttempt
  generalize hblocked : (cfg.publicDeployment && match boundWallet cfg db req.userId with
    | none => false
    | some wallet => decide (max 1 cfg.walletHourlyClaimLimit ≤ walletRecentClaimCount cfg db wallet)) = blocked
  cases blocked with
  | true =>
    left
    exact ⟨_, by rw [createClaimAttemptWithDurableWalletLimit, if_pos hblocked]⟩
  | false =>
    rw [createClaimAttemptWithDurableWalletLimit, if_neg (by rw [hblocked]; exact Bool.false_ne_true)]
    exact createClaimAttemptBoundToVerifiedWallet_cases ..

/-- The wallet limit lets the delegate promote, or fails the claim while it is PENDING. -/
lemma promoteClaimWithVerifiedWalletLimit_cases (cfg : Settings P) (delegate : Promoter P) (db : Db P)
    (claimId : ℕ) :
    (promoteClaimWithVerifiedWalletLimit cfg delegate db claimId = delegate db claimId ∧
      ∀ claim, db.getClaim claimId = some claim → claim.status = .pending → WalletAllowsPromotion cfg db claim) ∨
    ∃ claim, db.getClaim claimId = some claim ∧ claim.status = .pending ∧
      db.isPrizedraw claim.spotId = false ∧
      ∃ promotion, promoteClaimWithVerifiedWalletLimit cfg delegate db claimId =
        (db.setClaimStatusToFailed claimId, ⟨(db.setClaimStatusToFailed claimId).getClaim claimId, promotion⟩) := by
  unfold promoteClaimWithVerifiedWalletLimit
  by_cases hpublic : cfg.publicDeployment = true
  · rw [if_neg (by simp [hpublic])]
    cases hclaim : db.getClaim claimId with
    | none => exact .inl ⟨rfl, by simp⟩
    | some claim =>
      by_cases hpending : claim.status = .pending
      · cases hprizedraw : db.isPrizedraw claim.spotId with
        | true =>
          refine .inl ⟨by simp [hpending, hprizedraw], fun found hfound _ _ hstandard => ?_⟩
          obtain rfl := Option.some.inj hfound
          rw [hprizedraw] at hstandard
          cases hstandard
        | false =>
          cases hwallet : boundWallet cfg db claim.recipient with
          | none => exact .inr ⟨claim, rfl, hpending, hprizedraw, none, by simp [hpending, hprizedraw, hwallet]⟩
          | some wallet =>
            cases hlimit : walletHasReachedSpotLimit cfg db claim.spotId wallet with
            | true =>
              exact .inr ⟨claim, rfl, hpending, hprizedraw, some (false, "verified_wallet_claim_limit_reached"),
                by simp [hpending, hprizedraw, hwallet, hlimit]⟩
            | false =>
              refine .inl ⟨by simp [hpending, hprizedraw, hwallet, hlimit], fun found hfound _ _ _ => ?_⟩
              obtain rfl := Option.some.inj hfound
              exact ⟨wallet, hwallet, hlimit⟩
      · refine .inl ⟨by simp [hpending], fun found hfound hopen => ?_⟩
        obtain rfl := Option.some.inj hfound
        exact absurd hopen hpending
  · exact .inl ⟨by simp [hpublic], fun _ _ _ h => absurd h hpublic⟩

end Wrappers

end NimHunt
