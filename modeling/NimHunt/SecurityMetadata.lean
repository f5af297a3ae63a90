import NimHunt.ChainStatus
import NimHunt.Lib.Dict

/-!
# The ephemeral security rows

`security_metadata.py` and the rows of `claim_security.py` that live for a bounded time: challenges,
claim authorizations, sessions and rate buckets, as JSON values in `app_metadata`.
-/

namespace NimHunt

open Lib

variable {P : Type}

namespace Json

/-- What `value or default` keeps. -/
def truthy : Json → Bool
  | .null | .bool false | .int 0 | .float _ (.finite 0) | .str "" | .arr [] | .obj [] => false
  | _ => true

/-- `int(fields.get(name) or 0)`. -/
def intOrZero (cfg : Settings P) (fields : List (String × Json)) (name : String) : Except PyError (Option ℤ) :=
  match get fields name with
  | none => .ok (some 0)
  | some value => if value.truthy then value.toInt cfg else .ok (some 0)

/-- `str(fields.get(name) or "")`. -/
def textOf (fields : List (String × Json)) (name : String) : String := ((get fields name).map text).getD ""

/-- `fields[name] = value`. -/
def put (fields : List (String × Json)) (name : String) (value : Json) : List (String × Json) :=
  (fields.filter fun field => field.1 ≠ name) ++ [(name, value)]

end Json

inductive MetadataKey
  | challenge (challengeId : String)
  | claimAuthorization (challengeId : String)
  | session (digest : String)
  | rate (bucket : String)
  | user (userId : ℤ)
  | cleanupCursor
  deriving DecidableEq

namespace MetadataKey

def metadataPrefix : String := "claim_security:"

def text : MetadataKey → String
  | .challenge challengeId => metadataPrefix ++ "challenge:" ++ challengeId
  | .claimAuthorization challengeId => metadataPrefix ++ "claim_authorization:" ++ challengeId
  | .session digest => metadataPrefix ++ "session:" ++ digest
  | .rate bucket => metadataPrefix ++ "rate:" ++ bucket
  | .user userId => metadataPrefix ++ "user:" ++ toString userId
  | .cleanupCursor => metadataPrefix ++ "cleanup_cursor"

/-- `_is_ephemeral_key`. -/
def isEphemeral : MetadataKey → Bool
  | .challenge _ | .claimAuthorization _ | .session _ | .rate _ => true
  | .user _ | .cleanupCursor => false

def isClaimAuthorization : MetadataKey → Bool
  | .claimAuthorization _ => true
  | _ => false

end MetadataKey

/-- What `json.loads` makes of a stored text. -/
inductive StoredJson
  /-- A ValueError: the text is no JSON, or has an integer of too many digits. -/
  | malformed
  /-- A RecursionError, which is no ValueError: the brackets are nested beyond the recursion limit. -/
  | tooDeep
  | value (value : Json)

abbrev MetadataRow := MetadataKey × StoredJson

abbrev AppMetadata := Dict (Prod.fst : MetadataRow → MetadataKey)

namespace AppMetadata

def value? (md : AppMetadata) (key : MetadataKey) : Option StoredJson := (md.get? key).map Prod.snd

/-- `get_json`: the value, and the rows without a malformed one. -/
def getJson (md : AppMetadata) (key : MetadataKey) : Except PyError (AppMetadata × Option Json) :=
  match md.value? key with
  | none => .ok (md, none)
  | some .malformed => .ok (md.pop key, none)
  | some .tooDeep => .error .runtimeError
  | some (.value value) => .ok (md, some value)

def setJson (md : AppMetadata) (key : MetadataKey) (value : Json) : AppMetadata := md.set (key, .value value)

/-- The fields of the object under a key. -/
def object? (md : AppMetadata) (key : MetadataKey) : Except PyError (Option (List (String × Json))) :=
  match md.value? key with
  | some (.value (.obj fields)) => .ok (some fields)
  | some .tooDeep => .error .runtimeError
  | _ => .ok none

/-- The timestamps of a bucket that `int` can read; what no list holds reads as an empty bucket. -/
def stamps (cfg : Settings P) : Option StoredJson → Except PyError (List ℤ)
  | some (.value (.arr items)) => (items.mapM (Json.toInt cfg)).map (List.filterMap id)
  | some .tooDeep => .error .runtimeError
  | _ => .ok []

/-- How an admission ends: whether it is let in, and when to come again. -/
structure Admission where
  allowed : Bool
  retryAt : ℤ
  deriving DecidableEq, Repr

/-- `timestamps[-limit:]` as stored. -/
def bucketOf (limit : ℕ) (timestamps : List ℤ) : Json :=
  .arr ((timestamps.drop (timestamps.length - limit)).map .int)

/-- `admit_timestamp`. -/
def admitTimestamp (cfg : Settings P) (md : AppMetadata) (bucket : String) (now windowSeconds limit : ℕ) :
    Except PyError (AppMetadata × Admission) :=
  match stamps cfg (md.value? (.rate bucket)) with
  | .error e => .error e
  | .ok found =>
    let timestamps := found.filter fun stamp => (now : ℤ) - windowSeconds < stamp
    if limit ≤ timestamps.length then
      .ok (md.setJson (.rate bucket) (bucketOf limit timestamps),
        ⟨false, (timestamps.min?.getD now) + windowSeconds + 1⟩)
    else .ok (md.setJson (.rate bucket) (bucketOf limit (timestamps ++ [(now : ℤ)])), ⟨true, now⟩)

/-- Two admissions of one request, both of which count. -/
def admitBoth (cfg : Settings P) (md : AppMetadata) (now windowSeconds : ℕ) (first second : String × ℕ) :
    Except PyError (AppMetadata × Admission) :=
  match admitTimestamp cfg md first.1 now windowSeconds first.2 with
  | .error e => .error e
  | .ok (md, one) =>
    match admitTimestamp cfg md second.1 now windowSeconds second.2 with
    | .error e => .error e
    | .ok (md, two) => .ok (md, ⟨one.allowed && two.allowed, max one.retryAt two.retryAt⟩)

end AppMetadata

end NimHunt
