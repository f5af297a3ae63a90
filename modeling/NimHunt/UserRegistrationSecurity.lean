import NimHunt.Lib.Quotas
import NimHunt.Schema

/-!
# Public registrations

`user_registration_security.py`, the only way a request comes to a USER row: a known device is answered at once, a new
one takes a place in three rolling quotas of its source and in one of the whole deployment.  The caller's transaction
makes a call one step.
-/

namespace NimHunt

open Lib

/-- The environment of the module, and `str.strip` and `str.lower`. -/
structure RegistrationSettings where
  strip : String → String
  lower : String → String
  sourceBurstWindowSeconds : ℤ := 10 * 60
  sourceBurstLimit : ℤ := 40
  sourceHourlyLimit : ℤ := 120
  sourceDailyLimit : ℤ := 300
  globalHourlyLimit : ℤ := 500

/-- `max(1, n)`. -/
def atLeastOne (n : ℤ) : ℕ := (max 1 n).toNat

inductive RegistrationError
  | rateLimited (retryAt : ℕ)
  /-- `device_id_hash must be non-empty`. -/
  | noDevice
  deriving DecidableEq, Repr

/-- What a registration reads and writes; a source without a row has no timestamps. -/
structure Registry where
  now : ℕ := 0
  lastUserId : ℕ := 0
  users : List User := []
  sourceStamps : String → List ℕ := fun _ => []
  globalStamps : List ℕ := []

section Registrations

variable (cfg : RegistrationSettings)

/-- `str(source_network_hash or "unknown").strip().lower()`. -/
def registrationSource (source : Option String) : String :=
  cfg.lower (cfg.strip ((source.filter (· ≠ "")).getD "unknown"))

namespace Registry

/-- `db_access.get_user`. -/
def getUser (reg : Registry) (device : String) : Option User :=
  reg.users.find? fun user => user.deviceIdHash = cfg.strip device

/-- `min(stamps) + window + 1`. -/
def retryAt (stamps : List ℕ) (window : ℕ) : ℕ := stamps.min?.getD 0 + window + 1

/-- `db_access.get_or_create_user` for a device without a user. -/
def createUser (reg : Registry) (device : String) : Registry :=
  { reg with
    lastUserId := reg.lastUserId + 1
    users := reg.users ++
      [{ id := reg.lastUserId + 1, status := .active, deviceIdHash := cfg.strip device, createdAt := reg.now }] }

def getOrCreatePublicUser (reg : Registry) (device : String) (sourceNetworkHash : Option String) :
    Registry × Except RegistrationError (ℕ × Bool) :=
  match reg.getUser cfg device with
  | some existing => (reg, .ok (existing.id, false))
  | none =>
    let source := registrationSource cfg sourceNetworkHash
    let sourceStamps := recentTimes (24 * 60 * 60) reg.now (reg.sourceStamps source)
    let globalStamps := recentTimes (60 * 60) reg.now reg.globalStamps
    let hourly := recentTimes (60 * 60) reg.now sourceStamps
    let burstWindow := atLeastOne cfg.sourceBurstWindowSeconds
    let burst := recentTimes burstWindow reg.now sourceStamps
    if atLeastOne cfg.sourceBurstLimit ≤ burst.length then (reg, .error (.rateLimited (retryAt burst burstWindow)))
    else if atLeastOne cfg.sourceHourlyLimit ≤ hourly.length then
      (reg, .error (.rateLimited (retryAt hourly (60 * 60))))
    else if atLeastOne cfg.sourceDailyLimit ≤ sourceStamps.length then
      (reg, .error (.rateLimited (retryAt sourceStamps (24 * 60 * 60))))
    else if atLeastOne cfg.globalHourlyLimit ≤ globalStamps.length then
      (reg, .error (.rateLimited (retryAt globalStamps (60 * 60))))
    else if cfg.strip device = "" then (reg, .error .noDevice)
    else
      ({ reg.createUser cfg device with
          sourceStamps := Function.update reg.sourceStamps source (sourceStamps ++ [reg.now])
          globalStamps := globalStamps ++ [reg.now] }, .ok (reg.lastUserId + 1, true))

end Registry

inductive RegistrationOp
  | elapse (seconds : ℕ)
  | request (device : String) (sourceNetworkHash : Option String)
  deriving DecidableEq, Repr

/-- A registry, and the registrations so far by source and time. -/
structure RegistrationRun where
  registry : Registry := {}
  created : List (String × ℕ) := []

def RegistrationRun.step (s : RegistrationRun) : RegistrationOp → RegistrationRun
  | .elapse seconds => { s with registry.now := s.registry.now + seconds }
  | .request device sourceNetworkHash =>
    match s.registry.getOrCreatePublicUser cfg device sourceNetworkHash with
    | (registry, .ok (_, true)) =>
      ⟨registry, s.created ++ [(registrationSource cfg sourceNetworkHash, s.registry.now)]⟩
    | (registry, _) => { s with registry := registry }

end Registrations

end NimHunt
