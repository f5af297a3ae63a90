import NimHunt.ClaimAuthorizationFlow
import NimHunt.Lib.Binary64

/-!
# The signed envelope of a claim

`claim_authorization.py` as it computes: submitted numbers become binary64 numbers, and the message is one text of
labelled lines.
-/

namespace NimHunt.SignedClaim

open Lib

/-- What `float(value)` makes of a submitted value; the sign of a zero does not matter. -/
inductive Submitted
  /-- a `TypeError` or `ValueError` -/
  | notNumber
  /-- an `OverflowError` -/
  | tooLarge
  | nan
  | infinite (negative : Bool)
  | finite (number : ℚ)
  deriving DecidableEq, Repr

/-- `number * scale`. -/
def scaled (number : ℚ) (scale : ℕ) : ℚ := binary64 roundHalfEven (number * scale)

/-- `_fixed`. -/
def fixed (value : Submitted) (scale : ℕ) (name : String) (minimum maximum : ℤ) : Except String ℤ :=
  match value with
  | .notNumber => .error (name ++ " must be a number")
  | .tooLarge => .error "int too large to convert to float"
  | .nan | .infinite _ => .error (name ++ " is outside its valid range")
  | .finite number =>
    if number < minimum ∨ maximum < number then .error (name ++ " is outside its valid range")
    else .ok (roundHalfEven (scaled number scale))

def absentAccuracyCm : ℤ := -1

/-- `canonical_location`. -/
def canonicalLocation (lat long : Submitted) (accuracy : Option Submitted) : Except String FixedLocation := do
  let latitudeE6 ← fixed lat 1000000 "latitude" (-90) 90
  let longitudeE6 ← fixed long 1000000 "longitude" (-180) 180
  match accuracy with
  | none => return ⟨latitudeE6, longitudeE6, absentAccuracyCm⟩
  | some accuracy => do
    let accuracyCm ← fixed accuracy 100 "accuracy" 0 10000000
    return ⟨latitudeE6, longitudeE6, accuracyCm⟩

/-- The fields of `build_message`. -/
structure Fields where
  environment : String
  network : String
  spotId : ℤ
  receivingWallet : String
  device : String
  location : FixedLocation
  nonce : String
  issuedAt : ℤ
  expiresAt : ℤ
  deriving DecidableEq, Repr

/-- `build_message`. -/
def buildMessage (fields : Fields) (action : String) : Except String String :=
  if action ≠ "claim" then .error "unsupported claim action"
  else if fields.spotId ≤ 0 then .error "Spot ID must be a canonical positive decimal integer"
  else .ok ("NimHunt Claim Authorization\nVersion: 2\nEnvironment: " ++ fields.environment ++
    "\nNetwork: " ++ fields.network ++ "\nAction: claim\nSpotId: " ++ toString fields.spotId ++
    "\nReceivingWallet: " ++ fields.receivingWallet ++ "\nDevice: " ++ fields.device ++
    "\nLatitudeE6: " ++ toString fields.location.latitudeE6 ++ "\nLongitudeE6: " ++ toString fields.location.longitudeE6 ++
    "\nAccuracyCm: " ++ toString fields.location.accuracyCm ++ "\nNonce: " ++ fields.nonce ++
    "\nIssuedAt: " ++ toString fields.issuedAt ++ "\nExpiresAt: " ++ toString fields.expiresAt ++ "\n")

end NimHunt.SignedClaim
