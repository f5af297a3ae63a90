import NimHunt.DbAccess.ClaimRules
import NimHunt.DbAccess.Ledger

/-!
# Drafts and publishing

A Spot is created and edited as a DRAFT, and published once it is complete and funded; its claim
codes are made in the transaction that publishes it.
-/

namespace NimHunt

open Lib

variable {P : Type}

def minSpotRadiusMetres : ℕ := 25
def maxSpotRadiusMetres : ℕ := 1000
def maxSpotClaimDurationSeconds : ℕ := 12 * 60 * 60
def minSpotEndsAfterSeconds : ℕ := 60 * 60
def maxSpotEndsAfterSeconds : ℕ := 4 * 7 * 24 * 60 * 60
def defaultDraftSpotEndsAfterSeconds : ℤ := 24 * 60 * 60
def maxSpotMaxClaimsPerUser : ℕ := 10
def minSpotMaxTotalClaims : ℕ := 1
def minFinitePrizedrawTotalParticipants : ℕ := 2
def maxSpotMaxTotalClaims : ℕ := 1000
def maxPrizedrawPrizeCount : ℕ := 100
def prizedrawPrizeCountOptions : List ℕ := [1, 2, 3, 4, 5, 6, 7, 8, 9, 10, 11, 12, 15, 20, 25, 50, 100]
def minSpotTotalValue : ℕ := 500 * lunaPerNim
def minStandardClaimPayout : ℕ := 100 * lunaPerNim
def minPrizedrawPrizePayout : ℕ := 1000 * lunaPerNim

/-- A field of a form: what is not given keeps its default, or the value the draft has. -/
structure SpotFields (P : Type) where
  position : Option P := none
  radius : Option ℤ := none
  claimDuration : Option ℤ := none
  maxClaimsPerUser : Option ℤ := none
  maxTotalClaims : Option ℤ := none
  totalValue : Option ℤ := none
  startsAt : Option ℤ := none
  endsAt : Option ℤ := none
  usePassword : Option Bool := none

/-- An edit also names the prize count, may clear the position and the start, and says whether one of
the texts changes. -/
structure DraftEdit (P : Type) where
  position : Option (Option P) := none
  radius : Option ℤ := none
  claimDuration : Option ℤ := none
  maxClaimsPerUser : Option ℤ := none
  maxTotalClaims : Option ℤ := none
  totalValue : Option ℤ := none
  startsAt : Option (Option ℤ) := none
  endsAt : Option (Option ℤ) := none
  usePassword : Option Bool := none
  prizeCount : Option ℤ := none
  texts : Bool := false

section Validators

lemma bind_eq_ok {ε α β : Type} {x : Except ε α} {f : α → Except ε β} {b : β} :
    (x >>= f) = .ok b ↔ ∃ a, x = .ok a ∧ f a = .ok b := by
  cases x <;> simp [bind, Except.bind]

/-- `if refused: raise ValueError(message)`. -/
def raiseIf (refused : Prop) [Decidable refused] (message : String) : Except Raised Unit :=
  if refused then .error (.valueError message) else .ok ()

lemma raiseIf_ok {refused : Prop} [Decidable refused] {message : String} {u : Unit} :
    raiseIf refused message = .ok u ↔ ¬ refused := by
  unfold raiseIf
  by_cases h : refused <;> simp [h]

def validateIntRange (fieldName : String) (minValue : ℕ) (maxValue : Option ℕ) (value : ℤ) : Except Raised ℕ :=
  if value < minValue then .error (.valueError s!"{fieldName} must be at least {minValue}")
  else match maxValue with
    | none => .ok value.toNat
    | some maxValue =>
      if maxValue < value then .error (.valueError s!"{fieldName} must be no more than {maxValue}")
      else .ok value.toNat

def validateSpotRadius (radius : ℤ) : Except Raised ℕ :=
  if minSpotRadiusMetres ≤ radius ∧ radius ≤ maxSpotRadiusMetres then .ok radius.toNat
  else .error (.valueError
    s!"radius must be between {minSpotRadiusMetres} and {maxSpotRadiusMetres} metres")

def validateSpotClaimDuration : ℤ → Except Raised ℕ :=
  validateIntRange "claim_duration" 0 (some maxSpotClaimDurationSeconds)

def validateSpotMaxClaimsPerUser : ℤ → Except Raised ℕ :=
  validateIntRange "max_claims_per_user" 0 (some maxSpotMaxClaimsPerUser)

def validateSpotTotalValue : ℤ → Except Raised ℕ := validateIntRange "total_value" minSpotTotalValue none

def validateSpotMaxTotalClaims (isPrizedraw : Bool) (maxTotalClaims : ℤ) : Except Raised ℕ := do
  let maxTotalClaims ← validateIntRange "max_total_claims" 0 (some maxSpotMaxTotalClaims) maxTotalClaims
  raiseIf (maxTotalClaims = 0 ∧ isPrizedraw = false)
    "max_total_claims can only be 0/unlimited for Prizedraw spots"
  raiseIf (maxTotalClaims < minSpotMaxTotalClaims ∧ isPrizedraw = false)
    s!"max_total_claims must be at least {minSpotMaxTotalClaims}"
  raiseIf (isPrizedraw = true ∧ 0 < maxTotalClaims ∧ maxTotalClaims < minFinitePrizedrawTotalParticipants)
    s!"finite Prizedraw max_total_claims must be at least {minFinitePrizedrawTotalParticipants}"
  return maxTotalClaims

lemma validateSpotMaxTotalClaims_ok {isPrizedraw : Bool} {value : ℤ} {n : ℕ}
    (h : validateSpotMaxTotalClaims isPrizedraw value = .ok n) (hstandard : isPrizedraw = false) : 1 ≤ n := by
  simp only [validateSpotMaxTotalClaims, bind_eq_ok, raiseIf_ok] at h
  obtain ⟨checked, -, -, hzero, -, -, -, -, h⟩ := h
  have hn : checked = n := Except.ok.inj h
  have : checked ≠ 0 := fun h0 => hzero ⟨h0, hstandard⟩
  omega

def validatePrizedrawPrizeCount (prizeCount : ℤ) : Except Raised ℕ := do
  let prizeCount ← validateIntRange "prize_count" 1 (some maxPrizedrawPrizeCount) prizeCount
  raiseIf (prizeCount ∉ prizedrawPrizeCountOptions)
    "prize_count must be one of the allowed Prizedraw prize-count values"
  return prizeCount

def validatePrizedrawParticipantLimits (maxClaimsPerUser maxTotalClaims prizeCount : ℕ) : Except Raised Unit :=
  if maxTotalClaims = 0 then .ok ()
  else if maxTotalClaims < minFinitePrizedrawTotalParticipants then
    .error (.valueError
      s!"finite Prizedraw max_total_claims must be at least {minFinitePrizedrawTotalParticipants}")
  else if 0 < maxClaimsPerUser ∧ maxTotalClaims ≤ maxClaimsPerUser then
    .error (.valueError "max_claims_per_user must be less than max_total_claims for a finite Prizedraw")
  else if maxTotalClaims ≤ prizeCount then
    .error (.valueError "prize_count must be less than max_total_claims for a finite Prizedraw")
  else .ok ()

def validateSpotTimeWindow (startsAt endsAt : Option ℤ) : Except Raised (Option ℕ × ℕ) := do
  let startsAt ← match startsAt with
    | none => .ok none
    | some startsAt =>
      if startsAt ≤ 0 then .error (.valueError "starts_at must be a positive Unix timestamp")
      else .ok (some startsAt.toNat)
  let endsAt ← validateIntRange "ends_at" minSpotEndsAfterSeconds (some maxSpotEndsAfterSeconds)
    (endsAt.getD defaultDraftSpotEndsAfterSeconds)
  return (startsAt, endsAt)

end Validators

def Settings.configuredSpotCreationFee (cfg : Settings P) (isPrizedraw : Bool) : ℕ :=
  if isPrizedraw then cfg.prizedrawSpotCreationFee else cfg.standardSpotCreationFee

def platformFeeAddress (cfg : Settings P) : Except Raised Address :=
  if cfg.strip cfg.spotFeeAddress = "" then
    .error (.valueError "platform fee address must be configured before creating spots")
  else match cfg.normaliseNimiqAddress (cfg.strip cfg.spotFeeAddress) with
    | .error message => .error (.valueError message)
    | .ok address => .ok address

/-- What the validators guarantee of every Spot row. -/
structure SpotChecked (spot : Spot P) : Prop where
  finite : spot.prizeCount = none → 1 ≤ spot.maxTotalClaims
  uncoded : spot.usePassword = true → spot.prizeCount = none

/-- The checked row of a new draft. -/
def newDraft (cfg : Settings P) (spotId createdBy : ℕ) (depositAddress : Address) (fields : SpotFields P)
    (prizeCount : Option ℕ) : Except Raised (Spot P) := do
  let radius ← validateSpotRadius (fields.radius.getD 200)
  let claimDuration ← validateSpotClaimDuration (fields.claimDuration.getD 0)
  let maxClaimsPerUser ← validateSpotMaxClaimsPerUser (fields.maxClaimsPerUser.getD 1)
  let maxTotalClaims ← validateSpotMaxTotalClaims prizeCount.isSome (fields.maxTotalClaims.getD 1)
  let usePassword := fields.usePassword.getD false
  raiseIf (prizeCount.isSome = true ∧ usePassword = true) "Prizedraw spots do not use passwords"
  raiseIf (usePassword = true ∧ maxTotalClaims = 0) "use_password requires a finite total participant count"
  let totalValue ← validateSpotTotalValue (fields.totalValue.getD minSpotTotalValue)
  let window ← validateSpotTimeWindow fields.startsAt fields.endsAt
  let creationFeeAddress ← platformFeeAddress cfg
  return {
    id := spotId, createdBy := createdBy, depositAddress := depositAddress, position := fields.position,
    radius := radius, claimDuration := claimDuration, maxClaimsPerUser := maxClaimsPerUser,
    maxTotalClaims := maxTotalClaims, usePassword := usePassword, totalValue := totalValue,
    creationFee := cfg.configuredSpotCreationFee prizeCount.isSome, creationFeeAddress := creationFeeAddress,
    startsAt := window.1, endsAt := window.2, status := .draft, cancellationStartedAt := none,
    prizeCount := prizeCount }

lemma newDraft_ok {cfg : Settings P} {spotId createdBy : ℕ} {depositAddress : Address} {fields : SpotFields P}
    {prizeCount : Option ℕ} {spot : Spot P}
    (h : newDraft cfg spotId createdBy depositAddress fields prizeCount = .ok spot) :
    spot.id = spotId ∧ spot.status = .draft ∧ spot.cancellationStartedAt = none ∧
      spot.prizeCount = prizeCount ∧ SpotChecked spot := by
  simp only [newDraft, bind_eq_ok, raiseIf_ok] at h
  obtain ⟨radius, -, duration, -, perUser, -, total, htotal, -, hcoded, -, -, value, -, window, -, address, -, h⟩ := h
  have hspot := Except.ok.inj h
  rw [← hspot]
  refine ⟨rfl, rfl, rfl, rfl, ⟨fun hstandard => ?_, fun hpassword => ?_⟩⟩
  · dsimp only at hstandard ⊢
    exact validateSpotMaxTotalClaims_ok htotal (by rw [hstandard]; rfl)
  · dsimp only at hpassword ⊢
    cases prizeCount with
    | none => rfl
    | some count => exact absurd ⟨rfl, hpassword⟩ hcoded

/-- `INSERT INTO spot`, and into PRIZEDRAW for a draw. -/
def Db.insertSpot (db : Db P) (spot : Spot P) : Outcome P ℕ :=
  if (db.getUser spot.createdBy).isNone then
    (db, .error (.integrityError "FOREIGN KEY constraint failed"))
  else ({ db with spots := db.spots ++ [spot], spotSeq := spot.id }, .ok spot.id)

def createSpot (cfg : Settings P) (db : Db P) (createdBy : ℕ) (depositAddress : Address)
    (fields : SpotFields P) : Outcome P ℕ :=
  match newDraft cfg (db.spotSeq + 1) createdBy depositAddress fields none with
  | .error e => (db, .error e)
  | .ok spot => db.insertSpot spot

/-- The limits `create_prizedraw` checks in front of `create_spot`. -/
def checkNewPrizedraw (fields : SpotFields P) (prizeCount : Option ℤ) : Except Raised ℕ := do
  let maxTotalClaims ← validateSpotMaxTotalClaims true (fields.maxTotalClaims.getD 0)
  let prizeCount ← validatePrizedrawPrizeCount (prizeCount.getD 1)
  let maxClaimsPerUser ← validateSpotMaxClaimsPerUser (fields.maxClaimsPerUser.getD 1)
  validatePrizedrawParticipantLimits maxClaimsPerUser maxTotalClaims prizeCount
  raiseIf (fields.usePassword = some true) "Prizedraw spots do not use passwords"
  return prizeCount

def createPrizedraw (cfg : Settings P) (db : Db P) (createdBy : ℕ) (depositAddress : Address)
    (fields : SpotFields P) (prizeCount : Option ℤ) : Outcome P ℕ :=
  match checkNewPrizedraw fields prizeCount with
  | .error e => (db, .error e)
  | .ok prizeCount =>
    match newDraft cfg (db.spotSeq + 1) createdBy depositAddress
        { fields with maxTotalClaims := some (fields.maxTotalClaims.getD 0), usePassword := none }
        (some prizeCount) with
    | .error e => (db, .error e)
    | .ok spot => db.insertSpot spot

/-- `_require_draft_spot`. -/
def requireDraftSpot (db : Db P) (spotId : ℕ) : Except Raised (Spot P) :=
  match db.getSpot spotId with
  | none => .error (.valueError s!"spot id={spotId} does not exist")
  | some spot =>
    if spot.status ≠ .draft then
      .error (.valueError "spot fields can only be edited while the spot is a draft")
    else if spot.cancellationStartedAt.isSome then
      .error (.valueError "spot fields cannot be edited after cancellation has started")
    else .ok spot

/-- A given value is validated; otherwise the draft keeps its own. -/
def editedField (validate : ℤ → Except Raised ℕ) (given : Option ℤ) (current : ℕ) : Except Raised ℕ :=
  match given with
  | none => .ok current
  | some value => validate value

/-- The prize count after an edit, with the limits of a Prizedraw. -/
def editedPrizeCount (spot : Spot P) (given : Option ℤ) (maxClaimsPerUser maxTotalClaims : ℕ)
    (usePassword : Bool) : Except Raised (Option ℕ) :=
  match spot.prizeCount with
  | none =>
    if given.isSome then .error (.valueError "spot is not a Prizedraw") else .ok none
  | some current => do
    let prizeCount ← editedField validatePrizedrawPrizeCount given current
    validatePrizedrawParticipantLimits maxClaimsPerUser maxTotalClaims prizeCount
    raiseIf (usePassword = true) "Prizedraw spots do not use passwords"
    return some prizeCount

/-- The funding target is fixed once a deposit is on its way. -/
def editedTotalValue (db : Db P) (spot : Spot P) (given : Option ℤ) : Except Raised ℕ :=
  match given with
  | none => .ok spot.totalValue
  | some value => do
    let totalValue ← validateSpotTotalValue value
    raiseIf (totalValue ≠ spot.totalValue ∧ db.hasSpotNonfailedDepositTransactions spot.id = true)
      "total_value cannot be changed after a pending or confirmed deposit has been submitted"
    return totalValue

def editedTimeWindow (spot : Spot P) (startsAt endsAt : Option (Option ℤ)) : Except Raised (Option ℕ × ℕ) :=
  if startsAt.isNone ∧ endsAt.isNone then .ok (spot.startsAt, spot.endsAt)
  else validateSpotTimeWindow (startsAt.getD (spot.startsAt.map (↑)))
    (endsAt.getD (some (spot.endsAt : ℤ)))

/-- The draft as an edit leaves it. -/
def editedDraft (db : Db P) (spot : Spot P) (edit : DraftEdit P) : Except Raised (Spot P) := do
  let radius ← editedField validateSpotRadius edit.radius spot.radius
  let claimDuration ← editedField validateSpotClaimDuration edit.claimDuration spot.claimDuration
  let maxClaimsPerUser ← editedField validateSpotMaxClaimsPerUser edit.maxClaimsPerUser spot.maxClaimsPerUser
  let maxTotalClaims ← editedField (validateSpotMaxTotalClaims spot.prizeCount.isSome) edit.maxTotalClaims
    spot.maxTotalClaims
  let usePassword := edit.usePassword.getD spot.usePassword
  let prizeCount ← editedPrizeCount spot edit.prizeCount maxClaimsPerUser maxTotalClaims usePassword
  raiseIf (usePassword = true ∧ maxTotalClaims = 0) "use_password requires a finite total participant count"
  let totalValue ← editedTotalValue db spot edit.totalValue
  let window ← editedTimeWindow spot edit.startsAt edit.endsAt
  return { spot with
    position := edit.position.getD spot.position
    radius := radius
    claimDuration := claimDuration
    maxClaimsPerUser := maxClaimsPerUser
    maxTotalClaims := maxTotalClaims
    usePassword := usePassword
    totalValue := totalValue
    startsAt := window.1
    endsAt := window.2
    prizeCount := prizeCount }

/-- The columns of a Spot that an edit of its draft leaves alone. -/
structure SameDraft (s s' : Spot P) : Prop where
  id : s'.id = s.id
  createdBy : s'.createdBy = s.createdBy
  depositAddress : s'.depositAddress = s.depositAddress
  creationFee : s'.creationFee = s.creationFee
  status : s'.status = s.status
  cancellationStartedAt : s'.cancellationStartedAt = s.cancellationStartedAt
  prizedraw : s'.prizeCount.isSome = s.prizeCount.isSome

lemma editedPrizeCount_ok {spot : Spot P} {given : Option ℤ} {maxClaimsPerUser maxTotalClaims : ℕ}
    {usePassword : Bool} {prizeCount : Option ℕ}
    (h : editedPrizeCount spot given maxClaimsPerUser maxTotalClaims usePassword = .ok prizeCount) :
    prizeCount.isSome = spot.prizeCount.isSome ∧ (usePassword = true → prizeCount = none) := by
  unfold editedPrizeCount at h
  cases hcount : spot.prizeCount with
  | none =>
    rw [hcount] at h
    dsimp only at h
    split_ifs at h
    have hnone := Except.ok.inj h
    exact ⟨by rw [← hnone], fun _ => hnone.symm⟩
  | some current =>
    simp only [hcount, bind_eq_ok, raiseIf_ok] at h
    obtain ⟨count, -, -, -, -, hcoded, h⟩ := h
    have hsome := Except.ok.inj h
    exact ⟨by rw [← hsome]; rfl, fun hpassword => absurd hpassword hcoded⟩

lemma editedDraft_ok {db : Db P} {spot next : Spot P} {edit : DraftEdit P} (h : editedDraft db spot edit = .ok next) :
    SameDraft spot next ∧ (SpotChecked spot → SpotChecked next) := by
  simp only [editedDraft, bind_eq_ok, raiseIf_ok] at h
  obtain ⟨radius, -, duration, -, perUser, -, total, htotal, count, hcount, -, -, value, -, window, -, h⟩ := h
  have hnext := Except.ok.inj h
  obtain ⟨hsome, hcoded⟩ := editedPrizeCount_ok hcount
  rw [← hnext]
  refine ⟨⟨rfl, rfl, rfl, rfl, rfl, rfl, hsome⟩, fun hchecked => ⟨fun hstandard => ?_, hcoded⟩⟩
  have hnone : spot.prizeCount = none := by
    dsimp only at hstandard
    rw [hstandard] at hsome
    simpa using hsome.symm
  unfold editedField at htotal
  cases hgiven : edit.maxTotalClaims with
  | none =>
    rw [hgiven] at htotal
    have hkept : spot.maxTotalClaims = total := Except.ok.inj htotal
    dsimp only
    rw [← hkept]
    exact hchecked.finite hnone
  | some given =>
    rw [hgiven] at htotal
    exact validateSpotMaxTotalClaims_ok htotal (by rw [hnone]; rfl)

/-- Whether an edit writes anything: a column is given, or the prize count changes. -/
def DraftEdit.writes (edit : DraftEdit P) (spot next : Spot P) : Bool :=
  edit.texts || edit.position.isSome || edit.radius.isSome || edit.claimDuration.isSome ||
    edit.maxClaimsPerUser.isSome || edit.maxTotalClaims.isSome || edit.totalValue.isSome ||
    edit.startsAt.isSome || edit.endsAt.isSome || edit.usePassword.isSome ||
    decide (next.prizeCount ≠ spot.prizeCount)

def Db.deleteUnusedClaimCodesForSpot (db : Db P) (spotId : ℕ) : Db P :=
  { db with claimCodes := db.claimCodes.filter fun cc => !decide (cc.spotId = spotId ∧ cc.usedBy = none) }

/-- `trg_spot_max_total_claims_prizedraw_update`, which reads the prize count the draft still has. -/
def DraftEdit.lowersCapBelowPrizes (edit : DraftEdit P) (spot next : Spot P) : Bool :=
  edit.maxTotalClaims.isSome && decide (0 < next.maxTotalClaims) &&
    spot.prizeCount.any fun prizeCount => next.maxTotalClaims < prizeCount

/-- `trg_prizedraw_prize_count_update`, once the Spot has its new cap. -/
def raisesPrizesAboveCap (spot next : Spot P) : Bool :=
  decide (next.prizeCount ≠ spot.prizeCount) && decide (0 < next.maxTotalClaims) &&
    next.prizeCount.any fun prizeCount => next.maxTotalClaims < prizeCount

/-- SPOT is updated before PRIZEDRAW; an abort of either rolls the transaction back. -/
def modifyDraftSpot (db : Db P) (spotId : ℕ) (edit : DraftEdit P) : Outcome P Unit :=
  match requireDraftSpot db spotId with
  | .error e => (db, .error e)
  | .ok spot =>
    match editedDraft db spot edit with
    | .error e => (db, .error e)
    | .ok next =>
      if edit.writes spot next = false then (db, .ok ())
      else if edit.lowersCapBelowPrizes spot next then
        (db, .error (.integrityError
          "spot.max_total_claims cannot be lower than prizedraw.prize_count unless it is 0/unlimited"))
      else if raisesPrizesAboveCap spot next then
        (db, .error (.integrityError
          "prizedraw.prize_count cannot exceed spot.max_total_claims unless max_total_claims is 0/unlimited"))
      else
        let edited : Db P := { db with spots := updateWhere (fun s => s.id = spotId) (fun _ => next) db.spots }
        (edited.deleteUnusedClaimCodesForSpot spotId, .ok ())

namespace Db

/-- SQL's `UPPER(REPLACE(…, ' ', ''))`. -/
def addressKey (address : Address) : List Char := (address.toList.filter (· ≠ ' ')).map Char.toUpper

/-- `has_confirmed_spot_creation_fee_transaction`. -/
def hasConfirmedSpotCreationFeeTransaction (db : Db P) (spot : Spot P) : Bool :=
  spot.creationFee = 0 ||
  (db.transOfSpot spot.id).any fun t =>
    t.type = .creationFee ∧ t.status = .confirmed ∧ t.userId = spot.createdBy ∧
      t.amount = spot.creationFee ∧ addressKey t.fromAddress = addressKey spot.depositAddress ∧
      addressKey t.toAddress = addressKey spot.creationFeeAddress

end Db

/-- `spot_meets_minimum_payout`. -/
def spotMeetsMinimumPayout (spot : Spot P) : Bool :=
  let (minimum, divisor) := match spot.prizeCount with
    | some prizeCount => (minPrizedrawPrizePayout, prizeCount)
    | none => (minStandardClaimPayout, spot.maxTotalClaims)
  0 < divisor && minimum * max 1 divisor ≤ spot.totalValue

def canUserCreateSpot (db : Db P) (userId : ℕ) : Bool :=
  (db.getUser userId).any fun user => user.status = .active

/-- The participant limits a Spot is published with. -/
def participantLimitsOk (spot : Spot P) : Bool :=
  match spot.prizeCount with
  | none => minSpotMaxTotalClaims ≤ spot.maxTotalClaims
  | some prizeCount =>
    (validatePrizedrawParticipantLimits spot.maxClaimsPerUser spot.maxTotalClaims prizeCount).toOption.isSome

/-- `can_publish_spot` with the confirmed creation fee `funding_status` adds. -/
def canPublishSpot (db : Db P) (spot : Spot P) : Bool :=
  decide (spot.status = .draft) && spot.cancellationStartedAt.isNone && canUserCreateSpot db spot.createdBy &&
  spot.position.isSome && decide (0 < spot.totalValue) && participantLimitsOk spot &&
  spotMeetsMinimumPayout spot && decide (minSpotEndsAfterSeconds ≤ spot.endsAt) && spot.windowOpen db.now &&
  !(spot.usePassword && (decide (spot.maxTotalClaims = 0) || spot.prizeCount.isSome)) &&
  decide (spot.totalValue + spot.creationFee ≤ db.getConfirmedSpotDepositTotal spot.id) &&
  db.hasConfirmedSpotCreationFeeTransaction spot

/-- The loop of `_generate_unique_claim_codes_for_spot` over random draws; it has no result before
enough of them were fresh. -/
def generateUniqueClaimCodesForSpot (db : Db P) (spotId count : ℕ) :
    (seen codes draws : List String) → Option (List String)
  | _, codes, [] => if count ≤ codes.length then some codes else none
  | seen, codes, code :: draws =>
    if count ≤ codes.length then some codes
    else if code ∈ seen then generateUniqueClaimCodesForSpot db spotId count seen codes draws
    else if (db.claimCodeByCode spotId code).isNone then
      generateUniqueClaimCodesForSpot db spotId count (code :: seen) (codes ++ [code]) draws
    else generateUniqueClaimCodesForSpot db spotId count (code :: seen) codes draws

namespace Db

def createClaimCode (db : Db P) (spotId : ℕ) (code : String) : Db P :=
  { db with
    claimCodes := db.claimCodes ++ [⟨db.claimCodeSeq + 1, spotId, code, none⟩]
    claimCodeSeq := db.claimCodeSeq + 1 }

def createClaimCodes (db : Db P) (spotId : ℕ) (codes : List String) : Db P :=
  codes.foldl (fun db code => db.createClaimCode spotId code) db

def getClaimCodes (db : Db P) (spotId : ℕ) : List ClaimCode := db.claimCodes.filter fun cc => cc.spotId = spotId

def getAvailableClaimCodes (db : Db P) (spotId : ℕ) : List ClaimCode :=
  (db.getClaimCodes spotId).filter fun cc => cc.usedBy = none

def deleteClaimCodes (db : Db P) (surplus : List ClaimCode) : Db P :=
  { db with claimCodes := db.claimCodes.filter fun cc => !decide (cc ∈ surplus) }

end Db

/-- `ensure_claim_codes_for_publish`; `draws` are the random codes it gets to see. -/
def ensureClaimCodesForPublish (db : Db P) (spot : Spot P) (draws : List String) : Outcome P Unit :=
  if spot.usePassword = false then (db, .ok ())
  else if spot.prizeCount.isSome then (db, .error (.valueError "Prizedraw spots do not use claim codes"))
  else if spot.maxTotalClaims = 0 then
    (db, .error (.valueError "use_password requires a finite total participant count"))
  else if spot.maxTotalClaims < (db.getClaimCodes spot.id).length - (db.getAvailableClaimCodes spot.id).length then
    (db, .error (.valueError "existing used claim codes exceed total participant count"))
  else
    let surplus := (db.getAvailableClaimCodes spot.id).take
      ((db.getClaimCodes spot.id).length - spot.maxTotalClaims)
    match generateUniqueClaimCodesForSpot db spot.id (spot.maxTotalClaims - (db.getClaimCodes spot.id).length)
        [] [] draws with
    | none => (db, .error (.runtimeError "claim code generation has not finished"))
    | some codes => ((db.deleteClaimCodes surplus).createClaimCodes spot.id codes, .ok ())

def publishSpot (db : Db P) (spotId : ℕ) (draws : List String) : Outcome P Unit :=
  match db.getSpot spotId with
  | none => (db, .error (.valueError "spot is not complete and fully funded enough to publish"))
  | some spot =>
    if canPublishSpot db spot = false then
      (db, .error (.valueError "spot is not complete and fully funded enough to publish"))
    else match ensureClaimCodesForPublish db spot draws with
      | (_, .error e) => (db, .error e)
      | (coded, .ok ()) =>
        ({ coded with
          spots := updateWhere
            (fun s => s.id = spotId ∧ s.status = .draft ∧ s.cancellationStartedAt = none)
            (fun s => { s with startsAt := some (s.startsAt.getD db.now), status := .published })
            coded.spots }, .ok ())

/-- What the schema does with the rows of a deleted Spot: claims, codes, the cancellation policy and the
return addresses go with it, and ledger rows stay without what they were booked to. -/
def Db.deleteSpot (db : Db P) (spotId : ℕ) : Db P :=
  let claimGone := fun claimId => db.claims.any fun c => c.id = claimId ∧ c.spotId = spotId
  { db with
    spots := db.spots.filter fun s => s.id ≠ spotId
    claims := db.claims.filter fun c => c.spotId ≠ spotId
    claimCodes := db.claimCodes.filter fun cc => cc.spotId ≠ spotId
    claimCodeAttempts := db.claimCodeAttempts.filter fun a =>
      !claimGone a.claimId && !db.claimCodes.any fun cc => cc.id = a.claimCodeId ∧ cc.spotId = spotId
    trans := db.trans.map fun t => { t with
      spotId := t.spotId.filter (· ≠ spotId), claimId := t.claimId.filter fun claimId => !claimGone claimId }
    cancellationPolicy := fun id => if id = spotId then none else db.cancellationPolicy id
    returnAddresses := db.returnAddresses.filter fun row => row.spotId ≠ spotId }

/-- `delete_draft_spot` behind the owner check of its route. -/
def deleteDraftSpot (db : Db P) (userId spotId : ℕ) : Outcome P Unit :=
  match db.getSpot spotId with
  | none => (db, .error (.valueError s!"spot id={spotId} does not exist"))
  | some spot =>
    if spot.createdBy ≠ userId then
      (db, .error (.permissionError "This spot was not created by this device account."))
    else if spot.status ≠ .draft then (db, .error (.valueError "only draft spots can be deleted"))
    else if (db.transOfSpot spotId).any fun t => t.type = .fillSpot then
      (db, .error (.valueError ("drafts with deposit history cannot be deleted; cancel the draft from My Spots " ++
        "so transaction records and any recoverable NIM are preserved")))
    else (db.deleteSpot spotId, .ok ())

end NimHunt
