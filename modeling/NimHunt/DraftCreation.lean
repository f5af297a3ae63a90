import NimHunt.DbAccess.Drafts
import NimHunt.Lib.Runs

/-!
# Draft creation

A draft is admitted in one transaction, which reserves the key of its deposit address; the address is
derived outside the writer, and the Spot is inserted in a third.  `draft_creation.py`, the draft and
duplicate routes, and the parts of `db_access.py` and `funding_fee_worker.py` they call.
-/

namespace NimHunt

open Lib

variable {P : Type}

def draftCreationWindowSeconds : ℕ := 60 * 60
def draftReservationStaleSeconds : ℕ := 5 * 60
def draftCreationLimitPerUser : ℕ := 10
def draftCreationGlobalLimit : ℕ := 200
def maxDraftSpotsPerUser : ℕ := 3

structure DerivedSpotAddress where
  address : Address
  keyIndex : ℕ
  deriving DecidableEq, Repr

/-- What the derivation command prints; it may leave the index out. -/
structure DeriveAnswer where
  address : Address
  keyIndex : Option ℕ
  deriving DecidableEq, Repr

/-- The configured command; an error is its message. -/
abbrev DeriveCommand := ℕ → Except String DeriveAnswer

def deriveSpotDepositAddress (cfg : Settings P) (command : DeriveCommand) (keyIndex : ℕ) :
    Except Raised DerivedSpotAddress :=
  match command keyIndex with
  | .error message => .error (.runtimeError message)
  | .ok answer =>
    match cfg.normaliseNimiqAddress answer.address with
    | .error message => .error (.valueError message)
    | .ok address => .ok ⟨address, answer.keyIndex.getD keyIndex⟩

inductive AdmissionStatus
  | pending | consumed
  deriving DecidableEq, Repr

structure DraftCreationAdmission where
  id : ℕ
  userId : ℕ
  depositKeyIndex : ℕ
  status : AdmissionStatus
  createdAt : ℕ
  deriving DecidableEq, Repr

/-- The tables draft creation writes: beside `db` the column `deposit_key_index` of SPOT, by Spot id,
the `next_spot_deposit_key_index` row of APP_METADATA, and DRAFT_CREATION_ADMISSION. -/
structure DraftStore (P : Type) where
  db : Db P
  depositKeyIndex : ℕ → Option ℕ := fun _ => none
  nextSpotDepositKeyIndex : Option ℕ := none
  admissions : List DraftCreationAdmission := []
  admissionSeq : ℕ := 0

structure DraftReservation where
  id : ℕ
  userId : ℕ
  depositKeyIndex : ℕ
  deriving DecidableEq, Repr

namespace DraftStore

/-- The key indexes in SPOT. -/
def keyIndexes (st : DraftStore P) : List ℕ := st.db.spots.filterMap fun s => st.depositKeyIndex s.id

/-- `COALESCE(MAX(deposit_key_index), -1) + 1`. -/
def aboveKeyIndexes (st : DraftStore P) : ℕ := st.keyIndexes.foldr (fun i bound => max (i + 1) bound) 0

/-- `_next_spot_deposit_key_index`. -/
def allocateKeyIndex (st : DraftStore P) : DraftStore P × ℕ :=
  let keyIndex := st.nextSpotDepositKeyIndex.getD st.aboveKeyIndexes
  ({ st with nextSpotDepositKeyIndex := some (keyIndex + 1) }, keyIndex)

/-- The `DELETE` in front of every reservation. -/
def pruneAdmissions (st : DraftStore P) : DraftStore P :=
  { st with
    admissions := st.admissions.filter fun a =>
      !(decide (a.status = .pending ∧ a.createdAt + draftReservationStaleSeconds ≤ st.db.now) ||
        decide (a.status = .consumed ∧ a.createdAt + draftCreationWindowSeconds ≤ st.db.now)) }

/-- `db_access.reserve_draft_creation`. -/
def reserveWithinLimits (st : DraftStore P) (userId : ℕ) : DraftStore P × Except Raised (Option DraftReservation) :=
  let st := st.pruneAdmissions
  if draftCreationGlobalLimit ≤ st.admissions.length ∨
      draftCreationLimitPerUser ≤ st.admissions.countP fun a => a.userId = userId then
    (st, .ok none)
  else
    let (st, keyIndex) := st.allocateKeyIndex
    if st.admissions.any fun a => a.depositKeyIndex = keyIndex then
      (st, .error (.integrityError "UNIQUE constraint failed: draft_creation_admission.deposit_key_index"))
    else
      let admission : DraftCreationAdmission :=
        { id := st.admissionSeq + 1, userId := userId, depositKeyIndex := keyIndex, status := .pending
          createdAt := st.db.now }
      ({ st with admissions := st.admissions ++ [admission], admissionSeq := admission.id },
        .ok (some ⟨admission.id, userId, keyIndex⟩))

/-- Whether the Spot with this key has its whole deposit confirmed. -/
def keyIsFullyFunded (st : DraftStore P) (keyIndex : ℕ) : Bool :=
  st.db.spots.any fun s => decide (st.depositKeyIndex s.id = some keyIndex) &&
    decide (s.totalValue + s.creationFee ≤ st.db.getConfirmedSpotDepositTotal s.id)

def releaseFullyFundedDraftAdmissions (st : DraftStore P) : DraftStore P :=
  { st with
    admissions := st.admissions.filter fun a =>
      !(decide (a.status = .consumed) && st.keyIsFullyFunded a.depositKeyIndex) }

/-- The installed `reserve_draft_creation` of `funding_fee_worker.py`. -/
def reserveDraftCreation (st : DraftStore P) (userId : ℕ) : DraftStore P × Except Raised (Option DraftReservation) :=
  st.releaseFullyFundedDraftAdmissions.reserveWithinLimits userId

def consumeDraftCreation (st : DraftStore P) (reservationId userId : ℕ) : DraftStore P × Except Raised Unit :=
  let sel : DraftCreationAdmission → Bool := fun a =>
    a.id = reservationId ∧ a.userId = userId ∧ a.status = .pending
  if st.admissions.countP sel ≠ 1 then
    (st, .error (.runtimeError "Draft-creation reservation is no longer pending"))
  else ({ st with admissions := updateWhere sel (fun a => { a with status := .consumed }) st.admissions }, .ok ())

/-- Whether SPOT holds this address or this key. -/
def holdsDeposit (st : DraftStore P) (record : DerivedSpotAddress) : Bool :=
  st.db.spots.any fun s => decide (s.depositAddress = record.address ∨ st.depositKeyIndex s.id = some record.keyIndex)

/-- The loop of `_generate_unique_spot_deposit_record` over its offsets. -/
def firstFreeRecord (cfg : Settings P) (command : DeriveCommand) (st : DraftStore P) (keyIndex : ℕ) :
    List ℕ → Except Raised DerivedSpotAddress
  | [] => .error (.runtimeError "Failed to generate a unique spot deposit address")
  | offset :: offsets =>
    match deriveSpotDepositAddress cfg command (keyIndex + offset) with
    | .error e => .error e
    | .ok record => if st.holdsDeposit record then firstFreeRecord cfg command st keyIndex offsets else .ok record

/-- `_generate_unique_spot_deposit_record`. -/
def generateUniqueSpotDepositRecord (cfg : Settings P) (command : DeriveCommand) (st : DraftStore P) :
    DraftStore P × Except Raised DerivedSpotAddress :=
  let (allocated, keyIndex) := st.allocateKeyIndex
  (allocated, firstFreeRecord cfg command allocated keyIndex (List.range 30))

end DraftStore

/-- The form of a new draft. -/
inductive DraftForm (P : Type)
  | spot (fields : SpotFields P)
  | prizedraw (fields : SpotFields P) (prizeCount : Option ℤ)

def DraftForm.create (cfg : Settings P) (db : Db P) (createdBy : ℕ) (depositAddress : Address) :
    DraftForm P → Outcome P ℕ
  | .spot fields => createSpot cfg db createdBy depositAddress fields
  | .prizedraw fields prizeCount => createPrizedraw cfg db createdBy depositAddress fields prizeCount

/-- `create_spot` or `create_prizedraw` with a deposit record.  The two columns of SPOT are UNIQUE. -/
def DraftStore.createDraft (cfg : Settings P) (st : DraftStore P) (createdBy : ℕ) (record : DerivedSpotAddress)
    (form : DraftForm P) : DraftStore P × Except Raised ℕ :=
  match form.create cfg st.db createdBy record.address with
  | (_, .error e) => (st, .error e)
  | (db, .ok spotId) =>
    if st.holdsDeposit record then
      (st, .error (.integrityError "UNIQUE constraint failed: spot.deposit_address or spot.deposit_key_index"))
    else
      ({ st with
          db := db
          depositKeyIndex := fun id => if id = spotId then some record.keyIndex else st.depositKeyIndex id },
        .ok spotId)

/-- `count_draft_spots_by_user`. -/
def countDraftSpotsByUser (db : Db P) (userId : ℕ) : ℕ :=
  db.spots.countP fun s => s.createdBy = userId ∧ s.status = .draft

/-- `duplicate_spot_configuration`: a start in the past is dropped. -/
def duplicateSpotConfiguration (source : Spot P) (now : ℕ) : DraftForm P :=
  let fields : SpotFields P := {
    position := source.position
    radius := some source.radius
    claimDuration := some source.claimDuration
    maxClaimsPerUser := some source.maxClaimsPerUser
    maxTotalClaims := some source.maxTotalClaims
    totalValue := some source.totalValue
    startsAt := (source.startsAt.filter (now < ·)).map (↑)
    endsAt := some source.endsAt
    usePassword := some (source.prizeCount.isNone && source.usePassword) }
  match source.prizeCount with
  | none => .spot fields
  | some prizeCount => .prizedraw fields (some prizeCount)

/-- What a request asks for: a new draft, or a copy of the creator's own Spot. -/
inductive DraftKind
  | title (isPrizedraw : Bool)
  | duplicate (spotId : ℕ)
  deriving DecidableEq, Repr

/-- Why a route answers without a draft. -/
inductive DraftRefusal
  | spotMissing | notOwner | draftLimitReached | rateLimited
  | raised (e : Raised)
  deriving DecidableEq, Repr

/-- What both transactions of a duplication check first. -/
def ownedSource (db : Db P) (userId spotId : ℕ) : Except DraftRefusal (Spot P) :=
  match db.getSpot spotId with
  | none => .error .spotMissing
  | some source => if source.createdBy ≠ userId then .error .notOwner else .ok source

/-- What a route checks before it counts the drafts. -/
def checkSource (db : Db P) (userId : ℕ) : DraftKind → Except DraftRefusal Unit
  | .title _ => .ok ()
  | .duplicate spotId => (ownedSource db userId spotId).map fun _ => ()

/-- The form a route fills in; `now` is when a duplication was admitted. -/
def draftForm (db : Db P) (userId now : ℕ) : DraftKind → Except DraftRefusal (DraftForm P)
  | .title isPrizedraw => .ok (if isPrizedraw then .prizedraw {} none else .spot {})
  | .duplicate spotId => (ownedSource db userId spotId).map fun source => duplicateSpotConfiguration source now

namespace DraftStore

/-- The first transaction of a route, which ends with the reservation.  The draft route answers a full
allowance from inside its transaction; the duplicate route raises, and its transaction is rolled
back. -/
def admitDraft (st : DraftStore P) (userId : ℕ) (kind : DraftKind) :
    DraftStore P × Except DraftRefusal DraftReservation :=
  match checkSource st.db userId kind with
  | .error refusal => (st, .error refusal)
  | .ok () =>
    if maxDraftSpotsPerUser ≤ countDraftSpotsByUser st.db userId then (st, .error .draftLimitReached)
    else match st.reserveDraftCreation userId with
      | (_, .error e) => (st, .error (.raised e))
      | (reserved, .ok (some reservation)) => (reserved, .ok reservation)
      | (pruned, .ok none) =>
        match kind with
        | .title _ => (pruned, .error .rateLimited)
        | .duplicate _ => (st, .error .rateLimited)

/-- The last transaction of a route. -/
def insertDraft (cfg : Settings P) (st : DraftStore P) (userId : ℕ) (kind : DraftKind) (now : ℕ)
    (record : DerivedSpotAddress) : DraftStore P × Except DraftRefusal ℕ :=
  match draftForm st.db userId now kind with
  | .error refusal => (st, .error refusal)
  | .ok form =>
    if maxDraftSpotsPerUser ≤ countDraftSpotsByUser st.db userId then (st, .error .draftLimitReached)
    else match st.createDraft cfg userId record form with
      | (st', .error e) => (st', .error (.raised e))
      | (st', .ok spotId) => (st', .ok spotId)

/-- `create_spot` without a deposit record, as the seed data calls it, in a transaction of its own. -/
def seedDraft (cfg : Settings P) (command : DeriveCommand) (st : DraftStore P) (createdBy : ℕ)
    (form : DraftForm P) : DraftStore P × Except Raised (ℕ × DerivedSpotAddress) :=
  match st.generateUniqueSpotDepositRecord cfg command with
  | (_, .error e) => (st, .error e)
  | (allocated, .ok record) =>
    match allocated.createDraft cfg createdBy record form with
    | (_, .error e) => (st, .error e)
    | (created, .ok spotId) => (created, .ok (spotId, record))

/-- The deletion route. -/
def deleteDraftSpot (st : DraftStore P) (userId spotId : ℕ) : DraftStore P × Except Raised Unit :=
  let (db, answer) := NimHunt.deleteDraftSpot st.db userId spotId
  ({ st with db := db }, answer)

end DraftStore

/-- How far a request has come. -/
inductive DraftProgress
  | reserved
  | derived (record : DerivedSpotAddress)
  | admitted (record : DerivedSpotAddress)
  deriving DecidableEq, Repr

structure DraftRequest where
  kind : DraftKind
  admittedAt : ℕ
  reservation : DraftReservation
  progress : DraftProgress
  deriving DecidableEq, Repr

/-- A Spot as it was created. -/
structure CreatedSpot where
  spotId : ℕ
  keyIndex : ℕ
  address : Address
  deriving DecidableEq, Repr

/-- The store with the requests in flight, every key index handed out and every Spot ever created. -/
structure DraftRun (P : Type) where
  store : DraftStore P
  requests : List DraftRequest := []
  allocated : List ℕ := []
  created : List CreatedSpot := []

def DraftRun.initial : DraftRun P where
  store := { db := .empty }

inductive DraftOp (P : Type)
  | tick (seconds : ℕ)
  | registerUser (user : User)
  | request (userId : ℕ) (kind : DraftKind)
  | derive (index : ℕ) (command : DeriveCommand)
  | consume (index : ℕ)
  | insert (index : ℕ)
  | abandon (index : ℕ)
  | seed (createdBy : ℕ) (form : DraftForm P) (command : DeriveCommand)
  | delete (userId spotId : ℕ)
  | edit (spotId : ℕ) (edit : DraftEdit P)
  | publish (spotId : ℕ) (draws : List String)
  /-- Publishing apart, a Spot changes its status when it fills up, ends, is cancelled or banned. -/
  | setSpotStatus (spotId : ℕ) (status : SpotStatus)
  /-- The ledger becomes whatever the deposits and payouts make of it. -/
  | ledger (trans : List Trans)

namespace DraftRun

def writeDb (s : DraftRun P) (db : Db P) : DraftRun P := { s with store := { s.store with db := db } }

def setProgress (s : DraftRun P) (index : ℕ) (request : DraftRequest) (progress : DraftProgress) : DraftRun P :=
  { s with requests := s.requests.set index { request with progress := progress } }

def drop (s : DraftRun P) (index : ℕ) : DraftRun P := { s with requests := s.requests.eraseIdx index }

/-- A route admits a request. -/
def request (s : DraftRun P) (userId : ℕ) (kind : DraftKind) : DraftRun P :=
  match s.store.admitDraft userId kind with
  | (store, .error _) => { s with store := store }
  | (store, .ok reservation) =>
    { s with
      store := store
      requests := s.requests ++ [⟨kind, s.store.db.now, reservation, .reserved⟩]
      allocated := s.allocated ++ [reservation.depositKeyIndex] }

/-- The next step of a request; an exception ends it. -/
def advance (cfg : Settings P) (s : DraftRun P) (index : ℕ) (request : DraftRequest) : DraftOp P → DraftRun P
  | .derive _ command =>
    match request.progress with
    | .reserved =>
      match deriveSpotDepositAddress cfg command request.reservation.depositKeyIndex with
      | .error _ => s.drop index
      | .ok record => s.setProgress index request (.derived record)
    | _ => s
  | .consume _ =>
    match request.progress with
    | .derived record =>
      match s.store.consumeDraftCreation request.reservation.id request.reservation.userId with
      | (_, .error _) => s.drop index
      | (store, .ok ()) => ({ s with store := store } : DraftRun P).setProgress index request (.admitted record)
    | _ => s
  | .insert _ =>
    match request.progress with
    | .admitted record =>
      match s.store.insertDraft cfg request.reservation.userId request.kind request.admittedAt record with
      | (store, .error _) => ({ s with store := store } : DraftRun P).drop index
      | (store, .ok spotId) =>
        ({ s with store := store, created := s.created ++ [⟨spotId, record.keyIndex, record.address⟩] } :
          DraftRun P).drop index
    | _ => s
  | _ => s

/-- A Spot of the seed data. -/
def seed (cfg : Settings P) (s : DraftRun P) (createdBy : ℕ) (form : DraftForm P) (command : DeriveCommand) :
    DraftRun P :=
  match s.store.seedDraft cfg command createdBy form with
  | (store, .error _) => { s with store := store }
  | (store, .ok (spotId, record)) =>
    { s with
      store := store
      allocated := s.allocated ++ [s.store.allocateKeyIndex.2]
      created := s.created ++ [⟨spotId, record.keyIndex, record.address⟩] }

def step (cfg : Settings P) (s : DraftRun P) (op : DraftOp P) : DraftRun P :=
  match op with
  | .tick seconds => s.writeDb { s.store.db with now := s.store.db.now + seconds }
  | .registerUser user => s.writeDb { s.store.db with users := s.store.db.users ++ [user] }
  | .request userId kind => s.request userId kind
  | .derive index _ | .consume index | .insert index =>
    match s.requests[index]? with
    | none => s
    | some request => s.advance cfg index request op
  | .abandon index => s.drop index
  | .seed createdBy form command => s.seed cfg createdBy form command
  | .delete userId spotId => { s with store := (s.store.deleteDraftSpot userId spotId).1 }
  | .edit spotId edit => s.writeDb (modifyDraftSpot s.store.db spotId edit).1
  | .publish spotId draws => s.writeDb (publishSpot s.store.db spotId draws).1
  | .setSpotStatus spotId status => s.writeDb (s.store.db.modifySpotStatus spotId status)
  | .ledger rows => s.writeDb { s.store.db with trans := rows }

end DraftRun

end NimHunt
