import Mathlib.Data.List.Sort
import NimHunt.DbAccess.ClaimRules
import NimHunt.Lib.Dict
import NimHunt.Lib.Runs

/-!
# The public Spot cache

The Spot part of `cache.py`: the views it reads, its snapshot of the public Spots, and the calls that patch
or reload it.  Titles, links, cities and geohashes of a Spot are left out of its rows.
-/

namespace NimHunt

open Lib

variable {P : Type}

inductive ReportStatus
  | pending | approved | dismissed
  deriving DecidableEq, Repr

structure Report where
  id : ℕ
  spotId : ℕ
  status : ReportStatus
  deriving DecidableEq, Repr

/-- The tables the cache reads. -/
structure SpotTables (P : Type) where
  db : Db P
  displayName : ℕ → Option String
  reports : List Report

/-- The counts both Spot views join. -/
structure SpotCounts where
  claimCount : ℕ
  pendingClaimCount : ℕ
  successClaimCount : ℕ
  failedClaimCount : ℕ
  claimCodeCount : ℕ
  unusedCodeCount : ℕ
  usedCodeCount : ℕ
  deriving DecidableEq, Repr

/-- A row of `view_public_spot_list` with its creator. -/
structure PublicSpotRow (P : Type) where
  spot : Spot P
  counts : SpotCounts
  availabilityRank : ℕ
  soonSort : ℕ
  creatorDisplayName : Option String
  creatorStatus : UserStatus
  deriving DecidableEq

/-- A row of `view_spot_owner_summary`. -/
structure OwnerSummary (P : Type) where
  spot : Spot P
  creatorDisplayName : Option String
  counts : SpotCounts
  reportCount : ℕ
  pendingReportCount : ℕ
  approvedReportCount : ℕ
  dismissedReportCount : ℕ
  transCount : ℕ
  transTotalAmount : ℕ
  deriving DecidableEq

/-- A row of `view_claim_detail`. -/
structure ClaimDetail (P : Type) where
  claim : Claim P
  spotOwnerId : ℕ
  recipientDisplayName : Option String
  claimCode : Option ClaimCode
  deriving DecidableEq

/-- A row of `view_claim_code_detail`. -/
structure ClaimCodeDetail (P : Type) where
  claimCode : ClaimCode
  spotOwnerId : ℕ
  usedBy : Option (Claim P)
  recipientDisplayName : Option String
  deriving DecidableEq

/-- A row of `view_trans_detail`. -/
structure TransDetail (P : Type) where
  trans : Trans
  transUserDisplayName : Option String
  spotOwnerId : Option ℕ
  claim : Option (Claim P)
  claimRecipientDisplayName : Option String
  deriving DecidableEq

structure SpotCreator where
  userId : ℕ
  displayName : Option String
  status : UserStatus
  deriving DecidableEq, Repr

structure SpotCacheRecord (P : Type) where
  spotId : ℕ
  spot : PublicSpotRow P
  creator : SpotCreator
  prizedraw : Option (ℕ × ℕ)
  ownerSummary : Option (OwnerSummary P)
  claims : List (ClaimDetail P)
  claimCodes : List (ClaimCodeDetail P)
  transactions : List (TransDetail P)
  deriving DecidableEq

namespace SpotTables

variable (t : SpotTables P)

def now : ℕ := t.db.now

/-- The tables as the database reads them at another time. -/
def readAt (now : ℕ) : SpotTables P := { t with db := { t.db with now := now } }

def countsOf (spotId : ℕ) : SpotCounts :=
  let claims := t.db.claims.filter fun c => c.spotId = spotId
  let codes := t.db.claimCodes.filter fun cc => cc.spotId = spotId
  { claimCount := claims.length
    pendingClaimCount := claims.countP fun c => c.status = .pending
    successClaimCount := claims.countP fun c => c.status = .success
    failedClaimCount := claims.countP fun c => c.status = .failed
    claimCodeCount := codes.length
    unusedCodeCount := codes.countP fun cc => cc.usedBy = none
    usedCodeCount := codes.countP fun cc => cc.usedBy.isSome }

/-- A Spot whose window has not started sorts by its start, an open one by its end. -/
def soonSortOf (spot : Spot P) : ℕ :=
  match spot.startsAt with
  | none => 9223372036854775807
  | some startsAt => if startsAt ≤ t.now then startsAt + spot.endsAt else startsAt

/-- `_fetch_one_public_spot_row`. -/
def fetchOnePublicSpotRow (spotId : ℕ) : Option (PublicSpotRow P) :=
  (t.db.getPublicSpot spotId).bind fun spot =>
    (t.db.getUser spot.createdBy).map fun user =>
      { spot := spot, counts := t.countsOf spotId
        availabilityRank := if spot.isAvailable t.now then 0 else 1
        soonSort := t.soonSortOf spot
        creatorDisplayName := t.displayName user.id, creatorStatus := user.status }

/-- `_fetch_public_spot_rows`, in the order of the table. -/
def fetchPublicSpotRows : List (PublicSpotRow P) :=
  (t.db.spots.map Spot.id).filterMap t.fetchOnePublicSpotRow

/-- `_fetch_owner_summaries_by_spot_id` for one Spot. -/
def fetchOwnerSummary (spotId : ℕ) : Option (OwnerSummary P) :=
  (t.db.getSpot spotId).bind fun spot =>
    (t.db.getUser spot.createdBy).map fun user =>
      let reports := t.reports.filter fun r => r.spotId = spotId
      let trans := t.db.trans.filter fun row => row.spotId = some spotId
      { spot := spot, creatorDisplayName := t.displayName user.id, counts := t.countsOf spotId
        reportCount := reports.length
        pendingReportCount := reports.countP fun r => r.status = .pending
        approvedReportCount := reports.countP fun r => r.status = .approved
        dismissedReportCount := reports.countP fun r => r.status = .dismissed
        transCount := trans.length
        transTotalAmount := (trans.map Trans.amount).sum }

/-- `_fetch_claims_by_spot_id` for one Spot: the newest claim first. -/
def fetchClaims (spotId : ℕ) : List (ClaimDetail P) :=
  match t.db.getSpot spotId with
  | none => []
  | some spot =>
    let claims := (t.db.claims.filter fun c => c.spotId = spotId).insertionSort fun a b =>
      b.claimedAt < a.claimedAt ∨ a.claimedAt = b.claimedAt ∧ b.id ≤ a.id
    claims.flatMap fun c =>
      match t.db.getUser c.recipient with
      | none => []
      | some user =>
        match t.db.claimCodes.filter fun cc => cc.usedBy = some c.id with
        | [] => [⟨c, spot.createdBy, t.displayName user.id, none⟩]
        | codes => codes.map fun cc => ⟨c, spot.createdBy, t.displayName user.id, some cc⟩

/-- `_fetch_claim_codes_by_spot_id` for one Spot: unused codes first. -/
def fetchClaimCodes (spotId : ℕ) : List (ClaimCodeDetail P) :=
  match t.db.getSpot spotId with
  | none => []
  | some spot =>
    let codes := (t.db.claimCodes.filter fun cc => cc.spotId = spotId).insertionSort fun a b =>
      (a.usedBy = none ∧ b.usedBy ≠ none) ∨ ((a.usedBy = none ↔ b.usedBy = none) ∧ a.id ≤ b.id)
    codes.map fun cc =>
      let claim := cc.usedBy.bind t.db.getClaim
      ⟨cc, spot.createdBy, claim, (claim.bind fun c => t.db.getUser c.recipient).bind fun user =>
        t.displayName user.id⟩

/-- `_fetch_transactions_by_spot_id` for one Spot: the newest row first. -/
def fetchTransactions (spotId : ℕ) : List (TransDetail P) :=
  let rows := (t.db.trans.filter fun row => row.spotId = some spotId).insertionSort fun a b =>
    b.createdAt < a.createdAt ∨ a.createdAt = b.createdAt ∧ b.id ≤ a.id
  rows.filterMap fun row => (t.db.getUser row.userId).map fun user =>
    let claim := row.claimId.bind t.db.getClaim
    { trans := row, transUserDisplayName := t.displayName user.id
      spotOwnerId := (t.db.getSpot spotId).map Spot.createdBy, claim := claim
      claimRecipientDisplayName := (claim.bind fun c => t.db.getUser c.recipient).bind fun user =>
        t.displayName user.id }

/-- `_build_spot_record_from_public_row`. -/
def buildSpotRecordFromPublicRow (row : PublicSpotRow P) : SpotCacheRecord P where
  spotId := row.spot.id
  spot := row
  creator := ⟨row.spot.createdBy, row.creatorDisplayName, row.creatorStatus⟩
  prizedraw := row.spot.prizeCount.map fun prizeCount => (row.spot.id, if prizeCount = 0 then 1 else prizeCount)
  ownerSummary := t.fetchOwnerSummary row.spot.id
  claims := t.fetchClaims row.spot.id
  claimCodes := t.fetchClaimCodes row.spot.id
  transactions := t.fetchTransactions row.spot.id

end SpotTables

namespace SpotCacheRecord

/-- `_spot_start_sort_value`. -/
def startSortValue (r : SpotCacheRecord P) : ℕ := r.spot.spot.startsAt.getD 0

/-- The order of `spot_ids_by_start`. -/
def Earlier (a b : SpotCacheRecord P) : Prop :=
  a.startSortValue < b.startSortValue ∨ a.startSortValue = b.startSortValue ∧ a.spotId ≤ b.spotId

instance : DecidableRel (Earlier : SpotCacheRecord P → SpotCacheRecord P → Prop) := fun _ _ =>
  inferInstanceAs (Decidable (_ ∨ _ ∧ _))

/-- The times at which the record's Spot starts and ends. -/
def transitions (r : SpotCacheRecord P) : List ℕ :=
  match r.spot.spot.startsAt with
  | none => []
  | some startsAt => [startsAt, startsAt + r.spot.spot.endsAt]

end SpotCacheRecord

structure SpotCacheSnapshot (P : Type) where
  loadedAt : ℕ
  nowAtLoad : ℕ
  nextTransitionAt : Option ℕ
  spotsById : Dict (@SpotCacheRecord.spotId P)
  spotIdsByStart : List ℕ
  currentSpotIdsByStart : List ℕ
  upcomingSpotIdsByStart : List ℕ

/-- `_rebuild_spot_indexes`. -/
def rebuildSpotIndexes (loadedAt now : ℕ) (spotsById : Dict (@SpotCacheRecord.spotId P)) :
    SpotCacheSnapshot P :=
  let byStart := spotsById.rows.insertionSort SpotCacheRecord.Earlier
  { loadedAt := loadedAt
    nowAtLoad := now
    nextTransitionAt := ((byStart.flatMap SpotCacheRecord.transitions).filter (now < ·)).min?
    spotsById := spotsById
    spotIdsByStart := byStart.map SpotCacheRecord.spotId
    currentSpotIdsByStart := (byStart.filter fun r => r.spot.spot.isAvailable now).map SpotCacheRecord.spotId
    upcomingSpotIdsByStart := (byStart.filter fun r => !r.spot.spot.isAvailable now).map SpotCacheRecord.spotId }

/-- `build_spot_cache_snapshot`. -/
def buildSpotCacheSnapshot (t : SpotTables P) : SpotCacheSnapshot P :=
  rebuildSpotIndexes t.now t.now (Dict.ofList (t.fetchPublicSpotRows.map t.buildSpotRecordFromPublicRow))

/-- The module variables of the Spot cache, beside the tables. -/
structure SpotCache (P : Type) where
  tables : SpotTables P
  cache : Option (SpotCacheSnapshot P)
  dirty : Bool

/-- A write and the call that follows it, or a read. -/
inductive SpotCacheOp (P : Type)
  | wait (seconds : ℕ)
  | spotChanged (tables : SpotTables P) (spotId : ℕ)
  | claimChanged (tables : SpotTables P) (spotId : ℕ)
  | userChanged (users : List User) (displayName : ℕ → Option String)
  | ensure

namespace SpotCache

def initial (tables : SpotTables P) : SpotCache P := ⟨tables, none, true⟩

/-- `refresh_spot_cache`. -/
def refreshSpotCache (s : SpotCache P) : SpotCache P :=
  { s with cache := some (buildSpotCacheSnapshot s.tables), dirty := false }

/-- `refresh_cached_spot`. -/
def refreshCachedSpot (s : SpotCache P) (spotId : ℕ) : SpotCache P :=
  match s.cache with
  | none => s.refreshSpotCache
  | some snapshot =>
    let newSpots := match s.tables.fetchOnePublicSpotRow spotId with
      | none => snapshot.spotsById.pop spotId
      | some row => snapshot.spotsById.set (s.tables.buildSpotRecordFromPublicRow row)
    { s with cache := some (rebuildSpotIndexes snapshot.loadedAt s.tables.now newSpots), dirty := false }

/-- `ensure_spot_cache` has to reload. -/
def NeedsRefresh (s : SpotCache P) (snapshot : SpotCacheSnapshot P) : Prop :=
  s.dirty = true ∨ snapshot.nextTransitionAt.any (· ≤ s.tables.now) = true

instance (s : SpotCache P) (snapshot : SpotCacheSnapshot P) : Decidable (s.NeedsRefresh snapshot) :=
  inferInstanceAs (Decidable (_ ∨ _))

/-- The snapshot `ensure_spot_cache` returns. -/
def ensureSpotCache (s : SpotCache P) : SpotCacheSnapshot P :=
  match s.cache with
  | none => buildSpotCacheSnapshot s.tables
  | some snapshot => if s.NeedsRefresh snapshot then buildSpotCacheSnapshot s.tables else snapshot

def step (s : SpotCache P) : SpotCacheOp P → SpotCache P
  | .wait seconds => { s with tables := s.tables.readAt (s.tables.now + seconds) }
  | .spotChanged tables spotId => { s with tables := tables }.refreshCachedSpot spotId
  | .claimChanged tables spotId => { s with tables := tables }.refreshCachedSpot spotId
  | .userChanged users displayName =>
    { s with
      tables := { s.tables with db := { s.tables.db with users := users }, displayName := displayName }
      dirty := true }
  | .ensure =>
    match s.cache with
    | none => s.refreshSpotCache
    | some snapshot => if s.NeedsRefresh snapshot then s.refreshSpotCache else s

end SpotCache

end NimHunt
