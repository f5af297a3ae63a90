import NimHunt.MapSearch
import NimHunt.Proofs.SpotCacheAgreement

/-!
# What the map search leaves out

The limit is taken from the cache before the filters look at the Spots, so a slice that holds Spots the filters
drop hides matching ones behind it.
-/

namespace NimHunt

open Lib

variable {P : Type}

namespace SpotCache

variable {s : SpotCache P}

/-- The snapshot was indexed at a time that has passed. -/
def Indexed (s : SpotCache P) : Prop :=
  ∀ snapshot, s.cache = some snapshot →
    snapshot = rebuildSpotIndexes snapshot.loadedAt snapshot.nowAtLoad snapshot.spotsById ∧
      snapshot.nowAtLoad ≤ s.tables.now

lemma refreshSpotCache_indexed (s : SpotCache P) : s.refreshSpotCache.Indexed := by
  intro snapshot hcache
  rw [← Option.some.inj hcache]
  exact ⟨rfl, le_rfl⟩

lemma refreshCachedSpot_indexed (s : SpotCache P) (spotId : ℕ) : (s.refreshCachedSpot spotId).Indexed := by
  unfold refreshCachedSpot
  cases s.cache with
  | none => exact s.refreshSpotCache_indexed
  | some snapshot =>
    intro patched hcache
    rw [← Option.some.inj hcache]
    exact ⟨rfl, le_rfl⟩

lemma step_indexed (h : s.Indexed) (op : SpotCacheOp P) : (s.step op).Indexed := by
  cases op with
  | wait seconds =>
    intro snapshot hcache
    obtain ⟨hrebuilt, hpast⟩ := h snapshot hcache
    exact ⟨hrebuilt, hpast.trans (Nat.le_add_right _ _)⟩
  | spotChanged tables spotId => exact refreshCachedSpot_indexed _ spotId
  | claimChanged tables spotId => exact refreshCachedSpot_indexed _ spotId
  | userChanged users displayName => exact h
  | ensure =>
    unfold step
    dsimp only
    cases hcache : s.cache with
    | none => exact s.refreshSpotCache_indexed
    | some snapshot =>
      dsimp only
      split_ifs
      · exact s.refreshSpotCache_indexed
      · exact h

lemma run_indexed (tables : SpotTables P) (ops : List (SpotCacheOp P)) : (run step (initial tables) ops).Indexed := by
  have hinit : (initial tables).Indexed := by
    intro snapshot hcache
    cases hcache
  have hpreserved : ∀ (s : SpotCache P) op, True → s.Indexed → (s.step op).Indexed := fun _ op _ h => step_indexed h op
  exact run_invariant hpreserved (admissible_true _ _) hinit

/-- The public Spots the cache knows, in the order of their starts. -/
def cachedSpots (s : SpotCache P) : List (SpotCacheRecord P) :=
  s.ensureSpotCache.spotsById.rows.insertionSort SpotCacheRecord.Earlier

/-- The indexes of the snapshot are right for the time it is read at. -/
lemma Indexed.ensure (h : s.Indexed) :
    s.ensureSpotCache.spotIdsByStart = s.cachedSpots.map SpotCacheRecord.spotId ∧
      s.ensureSpotCache.currentSpotIdsByStart =
        (s.cachedSpots.filter fun r => r.spot.spot.isAvailable s.tables.now).map SpotCacheRecord.spotId ∧
      s.ensureSpotCache.upcomingSpotIdsByStart =
        (s.cachedSpots.filter fun r => !r.spot.spot.isAvailable s.tables.now).map SpotCacheRecord.spotId := by
  unfold cachedSpots ensureSpotCache
  cases hcache : s.cache with
  | none => exact ⟨rfl, rfl, rfl⟩
  | some snapshot =>
    dsimp only
    by_cases hneeds : s.NeedsRefresh snapshot
    · rw [if_pos hneeds]
      exact ⟨rfl, rfl, rfl⟩
    · rw [if_neg hneeds]
      unfold NeedsRefresh at hneeds
      rw [not_or] at hneeds
      obtain ⟨hrebuilt, hpast⟩ := h snapshot hcache
      have havailable : ∀ r ∈ snapshot.spotsById.rows.insertionSort SpotCacheRecord.Earlier,
          r.spot.spot.isAvailable snapshot.nowAtLoad = r.spot.spot.isAvailable s.tables.now := by
        intro r hr
        have hmem : r ∈ snapshot.spotsById := (List.mem_insertionSort _).mp hr
        exact (SpotCacheSnapshot.still hrebuilt hneeds.2 hmem).isAvailable hpast
      refine ⟨congrArg SpotCacheSnapshot.spotIdsByStart hrebuilt, ?_, ?_⟩
      · rw [← List.filter_congr havailable]
        exact congrArg SpotCacheSnapshot.currentSpotIdsByStart hrebuilt
      · have hupcoming : ∀ r ∈ snapshot.spotsById.rows.insertionSort SpotCacheRecord.Earlier,
            (!r.spot.spot.isAvailable snapshot.nowAtLoad) = !r.spot.spot.isAvailable s.tables.now :=
          fun r hr => congrArg not (havailable r hr)
        rw [← List.filter_congr hupcoming]
        exact congrArg SpotCacheSnapshot.upcomingSpotIdsByStart hrebuilt

end SpotCache

section Records

variable {d : Dict (@SpotCacheRecord.spotId P)} {rs : List (SpotCacheRecord P)}

lemma get?_spotId {r : SpotCacheRecord P} (h : r ∈ d) : d.get? r.spotId = some r := Dict.get?_eq_some.mpr ⟨h, rfl⟩

/-- The records behind a list of ids. -/
lemma filterMap_get? (h : ∀ r ∈ rs, r ∈ d) : (rs.map SpotCacheRecord.spotId).filterMap d.get? = rs := by
  rw [List.filterMap_map]
  induction rs with
  | nil => rfl
  | cons r rs ih =>
    have hhead : (d.get? ∘ SpotCacheRecord.spotId) r = some r := get?_spotId (h r List.mem_cons_self)
    rw [List.filterMap_cons_some hhead, ih fun r' hr' => h r' (List.mem_cons_of_mem r hr')]

lemma filter_get? {p : SpotCacheRecord P → Bool} (h : ∀ r ∈ rs, r ∈ d) :
    ((rs.map SpotCacheRecord.spotId).filter fun id => (d.get? id).any p) =
      (rs.filter p).map SpotCacheRecord.spotId := by
  rw [List.filter_map]
  congr 1
  apply List.filter_congr
  intro r hr
  rw [Function.comp_apply, get?_spotId (h r hr)]
  rfl

end Records

namespace SpotCache

variable {cfg : Settings Coordinates} {s : SpotCache Coordinates} {bounds : MapBounds} {filters : MapFilters}
  {distanceFrom : Option Coordinates} {limit : ℕ}

/-- The Spots of the viewport in the order the cache cuts its slice from. -/
def visibleSpots (s : SpotCache Coordinates) (bounds : MapBounds) (filters : MapFilters) :
    List (SpotCacheRecord Coordinates) :=
  (s.cachedSpots.filter fun r =>
    if filters.includeUpcoming = false then r.spot.spot.isAvailable s.tables.now
    else if filters.includeActive = false then !r.spot.spot.isAvailable s.tables.now
    else true).filter (isInBounds bounds.ordered)

/-- The cached Spots of the viewport that match the filters. -/
def matchingSpots (s : SpotCache Coordinates) (bounds : MapBounds) (filters : MapFilters) :
    List (SpotCacheRecord Coordinates) :=
  s.cachedSpots.filter fun r => isInBounds bounds.ordered r && spotMatchesFilters s.tables.now filters r

/-- A search finds as many of the matching Spots as its limit allows, and nothing else. -/
def SearchComplete (cfg : Settings Coordinates) (s : SpotCache Coordinates) (bounds : MapBounds)
    (distanceFrom : Option Coordinates) (filters : MapFilters) (limit : ℕ) : Prop :=
  ∃ found, searchSpotsForMap cfg s bounds distanceFrom filters limit = .ok found ∧
    (found.map fun item => item.record.spotId).Nodup ∧
    (∀ item ∈ found, ∃ r ∈ s.matchingSpots bounds filters,
      item = serialiseSpotForMap cfg s.tables.now distanceFrom r) ∧
    found.length = min limit (s.matchingSpots bounds filters).length

/-- The first view shows the first of all matching Spots in the order of the map. -/
def InitialComplete (cfg : Settings Coordinates) (s : SpotCache Coordinates) (distanceFrom : Option Coordinates)
    (filters : MapFilters) : Prop :=
  initialSpotsForMap cfg s distanceFrom filters =
    (sortSpotsForMap ((s.cachedSpots.filter (spotMatchesFilters s.tables.now filters)).map
      (serialiseSpotForMap cfg s.tables.now distanceFrom))).take maxMapInitSpots

lemma mem_cachedSpots {r : SpotCacheRecord Coordinates} (h : r ∈ s.cachedSpots) : r ∈ s.ensureSpotCache.spotsById :=
  (List.mem_insertionSort _).mp h

lemma cachedSpots_nodup (s : SpotCache Coordinates) : (s.cachedSpots.map SpotCacheRecord.spotId).Nodup :=
  ((List.perm_insertionSort _ _).map SpotCacheRecord.spotId).nodup_iff.mpr s.ensureSpotCache.spotsById.keys

lemma isSpotUpcoming_eq (now : ℕ) (spot : Spot P) : isSpotUpcoming now spot = !spot.isAvailable now := by
  unfold isSpotUpcoming Spot.isAvailable
  cases spot.startsAt with
  | none => rfl
  | some startsAt =>
    by_cases hstarted : startsAt ≤ now
    · simp [hstarted]
    · simp [hstarted, not_le.mp hstarted]

lemma getSpotsInBounds_eq (h : s.Indexed) (hsome : ¬ (!filters.includeActive && !filters.includeUpcoming) = true) :
    getSpotsInBounds s.ensureSpotCache bounds (filters.includeActive && !filters.includeUpcoming)
      (filters.includeUpcoming && !filters.includeActive) limit =
        .ok ((s.visibleSpots bounds filters).take (clampLimit limit)) := by
  obtain ⟨hall, hcurrent, hupcoming⟩ := h.ensure
  have hsource : (if (filters.includeActive && !filters.includeUpcoming) = true then
        s.ensureSpotCache.currentSpotIdsByStart
      else if (filters.includeUpcoming && !filters.includeActive) = true then s.ensureSpotCache.upcomingSpotIdsByStart
      else s.ensureSpotCache.spotIdsByStart) =
      (s.cachedSpots.filter fun r =>
        if filters.includeUpcoming = false then r.spot.spot.isAvailable s.tables.now
        else if filters.includeActive = false then !r.spot.spot.isAvailable s.tables.now
        else true).map SpotCacheRecord.spotId := by
    rw [hall, hcurrent, hupcoming]
    obtain ⟨active, upcoming, prizedraws⟩ := filters
    cases active <;> cases upcoming <;> simp at hsome ⊢
  have hboth : ((filters.includeActive && !filters.includeUpcoming) &&
      (filters.includeUpcoming && !filters.includeActive)) = false := by
    cases filters.includeActive <;> cases filters.includeUpcoming <;> rfl
  unfold getSpotsInBounds slice visibleSpots
  rw [hboth, if_neg Bool.false_ne_true]
  dsimp only
  rw [hsource]
  generalize hsourceSpots : s.cachedSpots.filter _ = source
  have hmem : ∀ r ∈ source, r ∈ s.ensureSpotCache.spotsById := by
    intro r hr
    rw [← hsourceSpots] at hr
    exact mem_cachedSpots (List.mem_of_mem_filter hr)
  rw [filter_get? hmem, ← List.map_take, filterMap_get?]
  intro r hr
  exact hmem r (List.mem_of_mem_filter (List.mem_of_mem_take hr))

/-- The Spots the cache leaves out for one of the two kinds would not match. -/
lemma matchingSpots_eq : s.matchingSpots bounds filters =
    (s.visibleSpots bounds filters).filter (spotMatchesFilters s.tables.now filters) := by
  unfold matchingSpots visibleSpots
  rw [List.filter_filter, List.filter_filter]
  apply List.filter_congr
  intro r _
  unfold spotMatchesFilters
  rw [isSpotUpcoming_eq]
  obtain ⟨active, upcoming, prizedraws⟩ := filters
  cases isInBounds bounds.ordered r <;> cases active <;> cases upcoming <;>
    cases r.spot.spot.isAvailable s.tables.now <;> simp

/-- Spots under different ids stay apart when they are sorted and shown. -/
lemma serialised_nodup {rs : List (SpotCacheRecord Coordinates)} (h : (rs.map SpotCacheRecord.spotId).Nodup) :
    ((rs.map (serialiseSpotForMap cfg s.tables.now distanceFrom)).map MapSpot.sortKey).Nodup := by
  have hids : (((rs.map (serialiseSpotForMap cfg s.tables.now distanceFrom)).map MapSpot.sortKey).map
      fun key => (ofLex (ofLex (ofLex key).2).2).2) = rs.map SpotCacheRecord.spotId := by
    rw [List.map_map, List.map_map]
    rfl
  rw [← hids] at h
  exact h.of_map

lemma sortSpotsForMap_perm (items : List (MapSpot P)) : (sortSpotsForMap items).Perm items :=
  List.perm_insertionSort _ _

lemma spotMatchesFilters_neither (hneither : (!filters.includeActive && !filters.includeUpcoming) = true) (now : ℕ)
    (r : SpotCacheRecord Coordinates) : spotMatchesFilters now filters r = false := by
  rw [Bool.and_eq_true, Bool.not_eq_true', Bool.not_eq_true'] at hneither
  unfold spotMatchesFilters
  rw [hneither.1, hneither.2]
  simp

lemma searchComplete_iff (h : s.Indexed) (hlow : 1 ≤ limit) (hhigh : limit ≤ maxLimit) :
    s.SearchComplete cfg bounds distanceFrom filters limit ↔
      (∀ r ∈ (s.visibleSpots bounds filters).take limit, spotMatchesFilters s.tables.now filters r = true) ∨
        ∀ r ∈ (s.visibleSpots bounds filters).drop limit, spotMatchesFilters s.tables.now filters r = false := by
  have hclamp : clampLimit limit = limit := by
    unfold clampLimit
    omega
  unfold SearchComplete
  rw [matchingSpots_eq, ← length_filter_take_eq_iff]
  by_cases hneither : (!filters.includeActive && !filters.includeUpcoming) = true
  · have hnone : ∀ rs : List (SpotCacheRecord Coordinates),
        rs.filter (spotMatchesFilters s.tables.now filters) = [] := by
      intro rs
      rw [List.filter_eq_nil_iff]
      intro r _
      rw [spotMatchesFilters_neither hneither]
      exact Bool.false_ne_true
    have hsearch : searchSpotsForMap cfg s bounds distanceFrom filters limit = .ok [] := if_pos hneither
    rw [hnone, hnone]
    exact ⟨fun _ => (Nat.min_zero _).symm, fun _ => ⟨[], hsearch, List.nodup_nil, fun _ hitem => absurd hitem List.not_mem_nil,
      (Nat.min_zero _).symm⟩⟩
  · have hsearch : searchSpotsForMap cfg s bounds distanceFrom filters limit = .ok (sortSpotsForMap
        ((((s.visibleSpots bounds filters).take limit).filter (spotMatchesFilters s.tables.now filters)).map
          (serialiseSpotForMap cfg s.tables.now distanceFrom))) := by
      unfold searchSpotsForMap
      rw [if_neg hneither, getSpotsInBounds_eq h hneither, hclamp]
      rfl
    generalize hpage : ((s.visibleSpots bounds filters).take limit).filter (spotMatchesFilters s.tables.now filters) = page
      at hsearch ⊢
    have hperm := sortSpotsForMap_perm (page.map (serialiseSpotForMap cfg s.tables.now distanceFrom))
    have hlength := hperm.length_eq
    rw [List.length_map] at hlength
    constructor
    · rintro ⟨found, hfound, -, -, hcount⟩
      rw [hsearch] at hfound
      rw [← Except.ok.inj hfound, hlength] at hcount
      exact hcount
    · intro hcount
      refine ⟨_, hsearch, ?_, ?_, ?_⟩
      · have hids : (page.map SpotCacheRecord.spotId).Nodup := by
          rw [← hpage]
          exact s.cachedSpots_nodup.sublist ((List.filter_sublist.trans ((List.take_sublist _ _).trans
            (List.filter_sublist.trans List.filter_sublist))).map _)
        have hmapped := hperm.map fun item => item.record.spotId
        rw [List.map_map] at hmapped
        exact hmapped.nodup_iff.mpr hids
      · intro item hitem
        obtain ⟨r, hr, rfl⟩ := List.mem_map.mp (hperm.subset hitem)
        rw [← hpage] at hr
        obtain ⟨htaken, hmatches⟩ := List.mem_filter.mp hr
        exact ⟨r, List.mem_filter.mpr ⟨List.mem_of_mem_take htaken, hmatches⟩, rfl⟩
      · rw [hlength]
        exact hcount

/-- How many matching Spots come before this one in the order of the map. -/
def nearerCount (cfg : Settings Coordinates) (s : SpotCache Coordinates) (distanceFrom : Option Coordinates)
    (filters : MapFilters) (r : SpotCacheRecord Coordinates) : ℕ :=
  (s.cachedSpots.filter (spotMatchesFilters s.tables.now filters)).countP fun r' =>
    (serialiseSpotForMap cfg s.tables.now distanceFrom r').sortKey <
      (serialiseSpotForMap cfg s.tables.now distanceFrom r).sortKey

lemma initialComplete_iff (h : s.Indexed) : s.InitialComplete cfg distanceFrom filters ↔
    ∀ r ∈ s.cachedSpots.drop maxLimit, spotMatchesFilters s.tables.now filters r = true →
      maxMapInitSpots ≤ s.nearerCount cfg distanceFrom filters r := by
  unfold InitialComplete
  by_cases hneither : (!filters.includeActive && !filters.includeUpcoming) = true
  · have hnone : s.cachedSpots.filter (spotMatchesFilters s.tables.now filters) = [] := by
      rw [List.filter_eq_nil_iff]
      intro r _
      rw [spotMatchesFilters_neither hneither]
      exact Bool.false_ne_true
    have hinitial : initialSpotsForMap cfg s distanceFrom filters = [] := if_pos hneither
    rw [hinitial, hnone]
    refine ⟨fun _ r _ hmatches => ?_, fun _ => rfl⟩
    rw [spotMatchesFilters_neither hneither] at hmatches
    cases hmatches
  · have hslice : getAllPublicSpots s.ensureSpotCache 500 = s.cachedSpots.take maxLimit := by
      unfold getAllPublicSpots slice
      rw [h.ensure.1, ← List.map_take, filterMap_get?]
      · rfl
      · intro r hr
        exact mem_cachedSpots (List.mem_of_mem_take hr)
    have hinitial : initialSpotsForMap cfg s distanceFrom filters = (sortSpotsForMap
        (((s.cachedSpots.take maxLimit).filter (spotMatchesFilters s.tables.now filters)).map
          (serialiseSpotForMap cfg s.tables.now distanceFrom))).take maxMapInitSpots := by
      unfold initialSpotsForMap
      rw [if_neg hneither, hslice]
    have hsplit : (s.cachedSpots.filter (spotMatchesFilters s.tables.now filters)).map
        (serialiseSpotForMap cfg s.tables.now distanceFrom) =
        ((s.cachedSpots.take maxLimit).filter (spotMatchesFilters s.tables.now filters)).map
          (serialiseSpotForMap cfg s.tables.now distanceFrom) ++
        ((s.cachedSpots.drop maxLimit).filter (spotMatchesFilters s.tables.now filters)).map
          (serialiseSpotForMap cfg s.tables.now distanceFrom) := by
      rw [← List.map_append, ← List.filter_append, List.take_append_drop]
    have hkeys : (((s.cachedSpots.filter (spotMatchesFilters s.tables.now filters)).map
        (serialiseSpotForMap cfg s.tables.now distanceFrom)).map MapSpot.sortKey).Nodup :=
      serialised_nodup (s.cachedSpots_nodup.sublist (List.filter_sublist.map _))
    rw [hinitial, hsplit]
    rw [hsplit] at hkeys
    refine (page_append_eq_iff hkeys).trans ?_
    rw [← hsplit]
    constructor
    · intro hrank r hr hmatches
      have hle := hrank _ (List.mem_map_of_mem (List.mem_filter.mpr ⟨hr, hmatches⟩))
      rw [List.countP_map] at hle
      exact hle
    · intro hrank item hitem
      obtain ⟨r, hr, rfl⟩ := List.mem_map.mp hitem
      obtain ⟨hdropped, hmatches⟩ := List.mem_filter.mp hr
      rw [List.countP_map]
      exact hrank r hdropped hmatches

/-- A search is complete if and only if the slice of the viewport holds matching Spots only or all of them, and
the first view if and only if each matching Spot behind the slice has enough nearer ones. -/
theorem map_search_complete_iff (cfg : Settings Coordinates) (tables : SpotTables Coordinates)
    (ops : List (SpotCacheOp Coordinates)) (bounds : MapBounds) (distanceFrom : Option Coordinates)
    (filters : MapFilters) {limit : ℕ} (hlow : 1 ≤ limit) (hhigh : limit ≤ maxLimit) :
    ((run step (initial tables) ops).SearchComplete cfg bounds distanceFrom filters limit ↔
      (∀ r ∈ ((run step (initial tables) ops).visibleSpots bounds filters).take limit,
        spotMatchesFilters (run step (initial tables) ops).tables.now filters r = true) ∨
      ∀ r ∈ ((run step (initial tables) ops).visibleSpots bounds filters).drop limit,
        spotMatchesFilters (run step (initial tables) ops).tables.now filters r = false) ∧
    ((run step (initial tables) ops).InitialComplete cfg distanceFrom filters ↔
      ∀ r ∈ (run step (initial tables) ops).cachedSpots.drop maxLimit,
        spotMatchesFilters (run step (initial tables) ops).tables.now filters r = true →
          maxMapInitSpots ≤ (run step (initial tables) ops).nearerCount cfg distanceFrom filters r) := by
  have hindexed := run_indexed tables ops
  exact ⟨searchComplete_iff hindexed hlow hhigh, initialComplete_iff hindexed⟩

end SpotCache

section Defect

/-- A full Spot in front of an open one. -/
def fullSpotFirst : SpotTables Coordinates where
  db :=
    { (Db.empty : Db Coordinates) with
      now := 50
      users := [⟨1, .active, "", 0⟩]
      spots := [1, 2].map fun id =>
        { id := id, createdBy := 1, depositAddress := "", position := some (10, 20), radius := 100, claimDuration := 0
          maxClaimsPerUser := 1, maxTotalClaims := id, usePassword := false, totalValue := 1000, creationFee := 0
          startsAt := some (10 * id), endsAt := 100, status := .published, cancellationStartedAt := none
          prizeCount := none }
      claims := [
        { id := 1, spotId := 1, recipient := 1, payoutAddress := none, position := (10, 20), accuracy := 1
          status := .success, claimedAt := 20, updatedAt := 20 }] }
  displayName := fun _ => none
  reports := []

def wholeWorld : MapBounds := ⟨-90, 90, -180, 180⟩

def Settings.flatMap : Settings Coordinates where
  distanceMetres := fun _ _ => 0
  publicDeployment := true
  walletHourlyClaimLimit := 20
  cleanOptionalNimiqAddress := .ok
  strip := id
  upper := id

/-- A search for one Spot finds none, though one matches. -/
theorem limit_hides_the_open_spot :
    searchSpotsForMap Settings.flatMap (run SpotCache.step (.initial fullSpotFirst) [.ensure]) wholeWorld none {} 1 =
        .ok [] ∧
      ((run SpotCache.step (.initial fullSpotFirst) [.ensure]).matchingSpots wholeWorld {}).map
        SpotCacheRecord.spotId = [2] := by
  decide +kernel

/-- A search for two Spots is complete, and so is the initial list. -/
theorem map_search_complete_iff_two :
    (run SpotCache.step (.initial fullSpotFirst) [.ensure]).SearchComplete Settings.flatMap wholeWorld none {} 2 ∧
      (run SpotCache.step (.initial fullSpotFirst) [.ensure]).InitialComplete Settings.flatMap none {} := by
  obtain ⟨hsearch, hinitial⟩ := @SpotCache.map_search_complete_iff Settings.flatMap fullSpotFirst [.ensure] wholeWorld
    none {} 2 (by decide) (by decide)
  refine ⟨hsearch.mpr (.inr ?_), hinitial.mpr ?_⟩ <;> decide +kernel

end Defect

end NimHunt
