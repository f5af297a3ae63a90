import NimHunt.Lib.Tables
import Mathlib.Data.Rat.Defs
import Mathlib.Algebra.Order.Ring.Unbundled.Rat

/-!
# The database schema

The rows of `database.py` and the status codes of `constants.py`.  `P` is the type of a
coordinate pair; a PRIZEDRAW row is the `prizeCount` of its SPOT; amounts are Luna, times are
unix seconds, and `now` is what `unixepoch()` returns inside the current transaction.
-/

namespace NimHunt

abbrev Address := String

def lunaPerNim : ℕ := 100000

inductive UserStatus
  | active | limited | banned
  deriving DecidableEq, Repr

inductive SpotStatus
  | draft | published | completed | cancelled | banned
  deriving DecidableEq, Repr

inductive ClaimStatus
  | pending | success | failed
  deriving DecidableEq, Repr

inductive TransType
  | fillSpot | cancelSpot | remainderRefund | claim | platFee | creationFee
  deriving DecidableEq, Repr

inductive TransStatus
  | pending | confirmed | failed
  deriving DecidableEq, Repr

structure User where
  id : ℕ
  status : UserStatus
  deviceIdHash : String := ""
  createdAt : ℕ := 0
  deriving DecidableEq, Repr

structure Spot (P : Type) where
  id : ℕ
  createdBy : ℕ
  depositAddress : Address
  position : Option P
  radius : ℕ
  claimDuration : ℕ
  maxClaimsPerUser : ℕ
  maxTotalClaims : ℕ
  usePassword : Bool
  totalValue : ℕ
  creationFee : ℕ
  creationFeeAddress : Address := ""
  startsAt : Option ℕ
  endsAt : ℕ
  status : SpotStatus
  cancellationStartedAt : Option ℕ
  prizeCount : Option ℕ
  deriving DecidableEq, Repr

structure Claim (P : Type) where
  id : ℕ
  spotId : ℕ
  recipient : ℕ
  payoutAddress : Option Address
  position : P
  accuracy : ℚ
  status : ClaimStatus
  claimedAt : ℕ
  updatedAt : ℕ
  deriving DecidableEq, Repr

structure ClaimCode where
  id : ℕ
  spotId : ℕ
  code : String
  usedBy : Option ℕ
  deriving DecidableEq, Repr

structure ClaimCodeAttempt where
  claimId : ℕ
  claimCodeId : ℕ
  deriving DecidableEq, Repr

structure Trans where
  id : ℕ
  userId : ℕ
  spotId : Option ℕ
  claimId : Option ℕ
  type : TransType
  amount : ℕ
  fromAddress : Address
  toAddress : Address
  txHash : String
  status : TransStatus
  createdAt : ℕ
  deriving DecidableEq, Repr

/-- The behaviour evidence `location_behavior_guard` stores for one user. -/
structure LocationBehaviorState where
  version : ℕ
  meaningfulObservations : ℕ
  signedInsideObservations : ℕ
  browserOutsideObservations : ℕ
  centreLocationSpotIds : List ℕ
  insideStreakSpotIds : List ℕ
  outsideSinceLastInside : Bool
  restrictedUntil : ℕ
  lastSigned : Option (ℕ × ℕ)
  lastOutsideObservedAt : ℕ
  deriving DecidableEq, Repr

/-- The cooldown marker `claim_location_guard` stores for one user. -/
structure ClaimLocationSuspicion where
  trustedClaimId : ℕ
  suspiciousSpotId : ℕ
  attemptedAt : ℕ
  retryAt : ℕ
  lastAttemptedSpotId : ℕ
  lastAttemptedAt : ℕ
  deriving DecidableEq, Repr

/-- The cancellation fee and recipient fixed for one Spot. -/
structure CancellationPolicy where
  feeAmount : ℕ
  feeAddress : Address
  deriving DecidableEq, Repr

/-- A row of the cancellation send guard, with its reason. -/
inductive SendGuard
  | processing (reason : String)
  | blocked (reason : String)
  deriving DecidableEq, Repr

inductive BanState
  | pendingSweep | swept | blocked
  deriving DecidableEq, Repr

/-- The account Nimiq Pay named for one deposit. -/
structure NimiqPayReturnAddress where
  sourceTxHash : String
  spotId : ℕ
  returnAddress : Address
  createdAt : ℕ
  deriving DecidableEq, Repr

structure Db (P : Type) where
  now : ℕ
  users : List User
  spots : List (Spot P)
  claims : List (Claim P)
  claimCodes : List ClaimCode
  claimCodeAttempts : List ClaimCodeAttempt
  trans : List Trans
  claimSeq : ℕ
  claimCodeSeq : ℕ
  transSeq : ℕ
  userBindings : List (ℕ × Address)
  locationBehavior : ℕ → Option LocationBehaviorState
  locationSuspicion : ℕ → Option ClaimLocationSuspicion
  spotSeq : ℕ := 0
  remainderSettled : ℕ → Bool := fun _ => false
  cancellationPolicy : ℕ → Option CancellationPolicy := fun _ => none
  cancellationGuard : ℕ → Option SendGuard := fun _ => none
  banRecords : ℕ → Option BanState := fun _ => none
  returnAddresses : List NimiqPayReturnAddress := []

/-- The tables of a fresh deployment. -/
def Db.empty : Db P where
  now := 0
  users := []
  spots := []
  claims := []
  claimCodes := []
  claimCodeAttempts := []
  trans := []
  claimSeq := 0
  claimCodeSeq := 0
  transSeq := 0
  userBindings := []
  locationBehavior := fun _ => none
  locationSuspicion := fun _ => none

/-- What the chain says about one transaction hash. -/
structure ChainTransfer where
  fromAddress : Address
  toAddress : Address
  amount : ℕ
  deriving DecidableEq, Repr

/-- What the deployment, the chain and the Python runtime supply: the distance between two
coordinate pairs, the environment settings, the address normalisers of `wallet.py` (an error is its
message), what Python does with text, and the transfer a hash stands for, which a chain
never changes. -/
structure Settings (P : Type) where
  distanceMetres : P → P → ℚ
  publicDeployment : Bool
  walletHourlyClaimLimit : ℕ
  cleanOptionalNimiqAddress : Option Address → Except String (Option Address)
  strip : String → String
  upper : String → String
  lower : String → String := id
  /-- Python's `int(text)` and `int(text, 0)`. -/
  parseInt : String → Option ℤ := String.toInt?
  parseIntAnyBase : String → Option ℤ := String.toInt?
  /-- Python's `repr(text)`. -/
  reprText : String → String := fun text => "'" ++ text ++ "'"
  normaliseNimiqAddress : Address → Except String Address := .ok
  /-- The same without development placeholders. -/
  normaliseRealNimiqAddress : Address → Except String Address := .ok
  spotFeeAddress : Address := ""
  standardSpotCreationFee : ℕ := 0
  prizedrawSpotCreationFee : ℕ := 0
  chainTransfer : String → Option ChainTransfer := fun _ => none

/-- A public deployment on a map of one place. -/
def Settings.onePlace : Settings Unit where
  distanceMetres := fun _ _ => 0
  publicDeployment := true
  walletHourlyClaimLimit := 20
  cleanOptionalNimiqAddress := .ok
  strip := id
  upper := id
  spotFeeAddress := "NQ07 FEE"

/-- The exceptions the modelled code raises. -/
inductive Raised
  | valueError (message : String)
  | permissionError (message : String)
  | runtimeError (message : String)
  | integrityError (message : String)
  | typeError (message : String)
  /-- `location_behavior_guard.PublicClaimBehaviorRestrictionError`, a ValueError. -/
  | publicClaimBehaviorRestriction
  /-- `claim_location_guard.ClaimLocationCooldownError`, a ValueError. -/
  | claimLocationCooldown (retryAt checkedAt : ℕ)
  deriving DecidableEq, Repr

def formatWait (seconds : ℕ) : String :=
  let seconds := max 1 seconds
  let minutes := seconds / 60
  let remaining := seconds % 60
  let secondText := if remaining = 1 then s!"{remaining} second" else s!"{remaining} seconds"
  let minuteText := if minutes = 1 then s!"{minutes} minute" else s!"{minutes} minutes"
  if minutes = 0 then secondText
  else if remaining = 0 then minuteText
  else s!"{minuteText} {secondText}"

/-- The text of an exception. -/
def Raised.message : Raised → String
  | .valueError message | .permissionError message | .runtimeError message
  | .integrityError message | .typeError message => message
  | .publicClaimBehaviorRestriction =>
    "Public Spots are temporarily unavailable for this account. Please try again later."
  | .claimLocationCooldown retryAt checkedAt =>
    "This claim has been postponed because this Spot is too far from " ++
    "your recent claim location to verify yet. You cannot claim any " ++
    s!"Spot for another {formatWait (max 1 (retryAt - checkedAt))}."

/-- What a route's `except ValueError` catches inside its open transaction. -/
def Raised.isValueError : Raised → Bool
  | .valueError _ | .publicClaimBehaviorRestriction | .claimLocationCooldown _ _ => true
  | _ => false

/-- A Python call that writes to the open transaction and returns or raises. -/
abbrev Outcome (P R : Type) := Db P × Except Raised R

end NimHunt
