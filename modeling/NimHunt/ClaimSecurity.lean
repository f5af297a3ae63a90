import NimHunt.ClaimSecurityDefenceInDepth
import NimHunt.DbAccess.Ledger

/-!
# Claim security records and the payout gate

`claim_security.py` keeps JSON values in `app_metadata`: one durable record for each claim, a capped
list of recent events, and the holds for manual review.  A record is what the payout gate decides on.
-/

namespace NimHunt

variable {P : Type}

/-- The location a wallet approves, in integers. -/
structure FixedLocation where
  latitudeE6 : ℤ
  longitudeE6 : ℤ
  accuracyCm : ℤ
  deriving DecidableEq, Repr

inductive AuthorizationStatus
  | issued | verifying | processing | failed | consumed
  deriving DecidableEq, Repr

/-- One issued claim authorization. -/
structure ClaimAuthorization where
  version : ℕ
  status : AuthorizationStatus
  message : String
  messageHash : String
  nonceHash : String
  spotId : ℕ
  action : String
  deviceIdHash : String
  receivingWallet : Address
  location : FixedLocation
  environment : String
  network : String
  issuedAt : ℕ
  expiresAt : ℕ
  verifyingAt : Option ℕ := none
  proofHash : Option String := none
  processingAt : Option ℕ := none
  deriving DecidableEq, Repr

structure ClaimSession where
  userId : ℕ
  deviceIdHash : String
  walletAddress : Address
  createdAt : ℕ
  expiresAt : ℕ
  deriving DecidableEq, Repr

/-- What a security record keeps of the authorization it was made under. -/
structure AuthorizationAudit where
  version : ℕ
  messageHash : String
  nonceHash : String
  receivingWallet : Address
  spotId : ℕ
  location : FixedLocation
  issuedAt : ℕ
  expiresAt : ℕ
  claimedAt : ℕ
  deriving DecidableEq, Repr

/-- `manual_review_details`: limits from the throttle, or addresses from the gate. -/
inductive ManualReviewDetails
  | limits (entries : List (String × ℤ))
  | identities (claimPayoutAddress verifiedWallet securityRecordPayoutAddress : Option Address)
  deriving DecidableEq, Repr

/-- The durable security record of a claim, which is also its recent event. -/
structure ClaimEvent (P : Type) where
  claimId : ℕ
  spotId : ℕ
  userId : ℕ
  deviceIdHash : String
  verifiedWallet : Option Address
  payoutAddress : Option Address
  ipHash : String
  claimedAt : ℕ
  recordedAt : ℕ
  sessionCreatedAt : ℕ
  userCreatedAt : ℕ
  spotPosition : P
  spotRadius : ℕ
  reportedPosition : P
  centreOffsetMetres : ℚ
  manualReview : Bool
  manualReviewReason : Option String := none
  manualReviewMarkedAt : Option ℕ := none
  manualReviewDetails : Option ManualReviewDetails := none
  manualReviewReleasedAt : Option ℕ := none
  claimAuthorization : Option AuthorizationAudit := none
  deriving DecidableEq, Repr

structure Incident where
  reason : String
  claimIds : List ℕ
  detectedAt : ℕ
  deriving DecidableEq, Repr

/-- The `claim_security:` keys of `app_metadata`. -/
structure SecurityMetadata (P : Type) where
  sessions : String → Option ClaimSession := fun _ => none
  authorizations : String → Option ClaimAuthorization := fun _ => none
  claimRecords : ℕ → Option (ClaimEvent P) := fun _ => none
  recentEvents : List (ClaimEvent P) := []
  latestIncident : Option Incident := none

/-- The security environment settings, with the defaults of a public deployment, and the two burst
detectors. -/
structure SecuritySettings (P : Type) where
  payoutHoldSeconds : ℕ := 20 * 60
  eventRetentionSeconds : ℕ := 24 * 60 * 60
  maxRecentEvents : ℕ := 200
  coordinatedBurstClaimIds : List (ClaimEvent P) → (now : ℕ) → List ℕ := fun _ _ => []
  broadNewIdentityBurstClaimIds : List (ClaimEvent P) → (now : ℕ) → List ℕ := fun _ _ => []

namespace SecurityMetadata

/-- `_metadata_set` on one claim record. -/
def setRecord (md : SecurityMetadata P) (claimId : ℕ) (record : ClaimEvent P) : SecurityMetadata P :=
  { md with claimRecords := Function.update md.claimRecords claimId (some record) }

@[simp] lemma setRecord_claimRecords (md : SecurityMetadata P) (claimId : ℕ) (record : ClaimEvent P) :
    (md.setRecord claimId record).claimRecords = Function.update md.claimRecords claimId (some record) := rfl

/-- `_mark_manual_review` on one claim: a claim without a record stays without. -/
def markRecord (reason : String) (now : ℕ) (md : SecurityMetadata P) (claimId : ℕ) : SecurityMetadata P :=
  match md.claimRecords claimId with
  | none => md
  | some record => md.setRecord claimId
      { record with manualReview := true, manualReviewReason := some reason, manualReviewMarkedAt := some now }

def markManualReview (md : SecurityMetadata P) (claimIds : List ℕ) (reason : String) (now : ℕ) :
    SecurityMetadata P :=
  if claimIds = [] then md
  else
    let clean := ((claimIds.filter (0 < ·)).dedup).insertionSort (· ≤ ·)
    { clean.foldl (markRecord reason now) md with latestIncident := some ⟨reason, clean, now⟩ }

/-- `release_claim_manual_review`. -/
def releaseClaimManualReview (md : SecurityMetadata P) (claimId now : ℕ) : SecurityMetadata P × Bool :=
  match md.claimRecords claimId with
  | none => (md, false)
  | some record =>
    (md.setRecord claimId { record with
      manualReview := false, manualReviewReason := none, manualReviewMarkedAt := none,
      manualReviewDetails := none, manualReviewReleasedAt := some now }, true)

/-- `_load_recent_events`. -/
def loadRecentEvents (sec : SecuritySettings P) (md : SecurityMetadata P) (now : ℕ) : List (ClaimEvent P) :=
  let fresh := md.recentEvents.filter fun event => now ≤ event.claimedAt + sec.eventRetentionSeconds
  fresh.drop (fresh.length - sec.maxRecentEvents)

lemma markRecord_eq_none {reason : String} {now : ℕ} {md : SecurityMetadata P} {claimId marked : ℕ} :
    (markRecord reason now md marked).claimRecords claimId = none ↔ md.claimRecords claimId = none := by
  unfold markRecord
  cases hrecord : md.claimRecords marked with
  | none => rfl
  | some record =>
    by_cases h : claimId = marked
    · simp [h, hrecord]
    · simp [Function.update_of_ne h]

/-- Marking creates no record. -/
lemma markManualReview_eq_none {md : SecurityMetadata P} {claimIds : List ℕ} {reason : String}
    {now claimId : ℕ} :
    (md.markManualReview claimIds reason now).claimRecords claimId = none ↔ md.claimRecords claimId = none := by
  unfold markManualReview
  by_cases hempty : claimIds = []
  · rw [if_pos hempty]
  · rw [if_neg hempty]
    generalize ((claimIds.filter (0 < ·)).dedup).insertionSort (· ≤ ·) = clean
    dsimp only
    induction clean generalizing md with
    | nil => rfl
    | cons marked rest ih => rw [List.foldl_cons, ih, markRecord_eq_none]

end SecurityMetadata

/-- What the gate answers about one payout. -/
structure PayoutSecurityDecision where
  allow : Bool
  reason : String
  manualReview : Bool := false
  retryAt : Option ℕ := none
  deriving DecidableEq, Repr

/-- `_payout_security_decision`. -/
def payoutSecurityDecision (cfg : Settings P) (sec : SecuritySettings P) (db : Db P) (md : SecurityMetadata P)
    (claimId : ℕ) : SecurityMetadata P × PayoutSecurityDecision :=
  match db.getClaim claimId with
  | none => (md, ⟨false, "claim_missing", false, none⟩)
  | some claim =>
    match md.claimRecords claimId with
    | none =>
      (md, if cfg.publicDeployment then ⟨false, "security_record_missing", true, none⟩
        else ⟨true, "development_without_security_record", false, none⟩)
    | some record =>
      if record.manualReview then
        (md, ⟨false, match record.manualReviewReason with
          | none | some "" => "manual_review"
          | some reason => reason, true, none⟩)
      else
        let claimPayout := canonicalOptionalAddress cfg claim.payoutAddress
        let verifiedWallet := canonicalOptionalAddress cfg record.verifiedWallet
        let recordedPayout := canonicalOptionalAddress cfg record.payoutAddress
        if verifiedWallet = none then
          let reason := "claim_verified_wallet_missing_or_invalid"
          (md.setRecord claimId { record with
              manualReview := true, manualReviewReason := some reason, manualReviewMarkedAt := some db.now },
            ⟨false, reason, true, none⟩)
        else if claimPayout ≠ verifiedWallet ∨ recordedPayout ≠ none ∧ recordedPayout ≠ claimPayout then
          let reason := "legacy_claim_payout_identity_mismatch"
          (md.setRecord claimId { record with
              manualReview := true, manualReviewReason := some reason, manualReviewMarkedAt := some db.now,
              manualReviewDetails := some (.identities claimPayout verifiedWallet recordedPayout) },
            ⟨false, reason, true, none⟩)
        else if db.now < claim.claimedAt + sec.payoutHoldSeconds then
          (md, ⟨false, "security_hold", false, some (claim.claimedAt + sec.payoutHoldSeconds)⟩)
        else (md, ⟨true, "security_checks_passed", false, none⟩)

end NimHunt
