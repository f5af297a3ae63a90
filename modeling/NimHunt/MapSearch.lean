import NimHunt.SpotCache
import NimHunt.Lib.Binary64
import NimHunt.Lib.Paging
import Mathlib.Data.Int.ConditionallyCompleteOrder
import Mathlib.Data.Prod.Lex
import Mathlib.Data.Rat.Floor

/-!
# The map search

`public_html.py` and the readers of `cache.py` behind the Find Spots map: the cache hands out a slice of the
public Spots in the order of their starts, the route filters it and sorts what is left by distance.
-/

namespace NimHunt

open Lib

variable {P : Type}

/-- A latitude and a longitude. -/
abbrev Coordinates := ℚ × ℚ

def maxMapInitSpots : ℕ := 10
def SpotCache.maxLimit : ℕ := 500

structure MapBounds where
  minLat : ℚ
  maxLat : ℚ
  minLong : ℚ
  maxLong : ℚ
  deriving DecidableEq, Repr

structure MapFilters where
  includeActive : Bool := true
  includeUpcoming : Bool := true
  includePrizedraws : Bool := true
  deriving DecidableEq, Repr

section Cache

def SpotCache.clampLimit (limit : ℕ) : ℕ := max 1 (min limit maxLimit)

/-- `_slice` from the first id on. -/
def slice (ids : List ℕ) (limit : ℕ) : List ℕ := ids.take (SpotCache.clampLimit limit)

/-- Reversed bounds are swapped. -/
def MapBounds.ordered (bounds : MapBounds) : MapBounds where
  minLat := if bounds.maxLat < bounds.minLat then bounds.maxLat else bounds.minLat
  maxLat := if bounds.maxLat < bounds.minLat then bounds.minLat else bounds.maxLat
  minLong := if bounds.maxLong < bounds.minLong then bounds.maxLong else bounds.minLong
  maxLong := if bounds.maxLong < bounds.minLong then bounds.minLong else bounds.maxLong

/-- `_is_in_bounds`; a public Spot has a position. -/
def isInBounds (bounds : MapBounds) (r : SpotCacheRecord Coordinates) : Bool :=
  r.spot.spot.position.any fun (lat, long) =>
    decide (bounds.minLat ≤ lat ∧ lat ≤ bounds.maxLat ∧ bounds.minLong ≤ long ∧ long ≤ bounds.maxLong)

def getAllPublicSpots (snapshot : SpotCacheSnapshot P) (limit : ℕ) : List (SpotCacheRecord P) :=
  (slice snapshot.spotIdsByStart limit).filterMap snapshot.spotsById.get?

def getSpotsInBounds (snapshot : SpotCacheSnapshot Coordinates) (bounds : MapBounds) (currentOnly upcomingOnly : Bool)
    (limit : ℕ) : Except Raised (List (SpotCacheRecord Coordinates)) :=
  if currentOnly && upcomingOnly then .error (.valueError "current_only and upcoming_only cannot both be true")
  else
    let sourceIds := if currentOnly then snapshot.currentSpotIdsByStart
      else if upcomingOnly then snapshot.upcomingSpotIdsByStart
      else snapshot.spotIdsByStart
    let matching := sourceIds.filter fun id => (snapshot.spotsById.get? id).any (isInBounds bounds.ordered)
    .ok ((slice matching limit).filterMap snapshot.spotsById.get?)

end Cache

section Filters

def spotHasPrizedraw (r : SpotCacheRecord P) : Bool := r.prizedraw.isSome || r.spot.spot.prizeCount.isSome

/-- `_spot_has_public_claim_capacity`, with `spot_summary_has_public_claim_capacity` on the counts of the row. -/
def spotRecordHasPublicClaimCapacity (r : SpotCacheRecord P) : Bool :=
  let counts := r.spot.counts
  let countedClaims :=
    if spotHasPrizedraw r then counts.successClaimCount + counts.pendingClaimCount else counts.successClaimCount
  if 0 < r.spot.spot.maxTotalClaims ∧ r.spot.spot.maxTotalClaims ≤ countedClaims then false
  else !decide (0 < counts.claimCodeCount ∧ counts.unusedCodeCount = 0)

def isSpotUpcoming (now : ℕ) (spot : Spot P) : Bool := spot.startsAt.any fun startsAt => now < startsAt

def spotMatchesFilters (now : ℕ) (filters : MapFilters) (r : SpotCacheRecord P) : Bool :=
  if spotHasPrizedraw r && !filters.includePrizedraws then false
  else if spotRecordHasPublicClaimCapacity r = false then false
  else if r.spot.spot.cancellationStartedAt.isSome then false
  else r.spot.spot.isAvailable now && filters.includeActive || isSpotUpcoming now r.spot.spot && filters.includeUpcoming

end Filters

section Sorting

/-- A Spot as the map gets it: the record's public fields, its status and its distance. -/
structure MapSpot (P : Type) where
  record : SpotCacheRecord P
  active : Bool
  distanceM : Option ℤ
  deriving DecidableEq

/-- `_serialise_spot_for_map`. -/
def serialiseSpotForMap (cfg : Settings P) (now : ℕ) (distanceFrom : Option P) (r : SpotCacheRecord P) : MapSpot P where
  record := r
  active := !isSpotUpcoming now r.spot.spot
  distanceM := distanceFrom.bind fun point =>
    r.spot.spot.position.map fun position => roundHalfEven (cfg.distanceMetres point position)

/-- Distance first, then active before upcoming, then soonest. -/
def MapSpot.sortKey (item : MapSpot P) : WithTop ℤ ×ₗ ℕ ×ₗ ℕ ×ₗ ℕ :=
  toLex (match item.distanceM with | some distance => (distance : WithTop ℤ) | none => ⊤,
    toLex (if item.active then 0 else 1, toLex (item.record.startSortValue, item.record.spotId)))

def sortSpotsForMap (items : List (MapSpot P)) : List (MapSpot P) :=
  items.insertionSort fun a b => a.sortKey ≤ b.sortKey

end Sorting

section Routes

variable (cfg : Settings Coordinates) (s : SpotCache Coordinates)

def initialSpotsForMap (distanceFrom : Option Coordinates) (filters : MapFilters) : List (MapSpot Coordinates) :=
  if !filters.includeActive && !filters.includeUpcoming then []
  else
    let rawItems := getAllPublicSpots s.ensureSpotCache 500
    let items := (rawItems.filter (spotMatchesFilters s.tables.now filters)).map
      (serialiseSpotForMap cfg s.tables.now distanceFrom)
    (sortSpotsForMap items).take maxMapInitSpots

def searchSpotsForMap (bounds : MapBounds) (distanceFrom : Option Coordinates) (filters : MapFilters) (limit : ℕ) :
    Except Raised (List (MapSpot Coordinates)) :=
  if !filters.includeActive && !filters.includeUpcoming then .ok []
  else do
    let rawItems ← getSpotsInBounds s.ensureSpotCache bounds (filters.includeActive && !filters.includeUpcoming)
      (filters.includeUpcoming && !filters.includeActive) limit
    return sortSpotsForMap ((rawItems.filter (spotMatchesFilters s.tables.now filters)).map
      (serialiseSpotForMap cfg s.tables.now distanceFrom))

end Routes

end NimHunt
