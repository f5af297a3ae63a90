import NimHunt.Lib.Paging
import NimHunt.SpotCache

/-!
# When the Spot cache agrees with the database

The snapshot is a set of records read at one moment.  A record stays what the database would give until its
Spot starts or ends, so a snapshot may be patched as long as nothing but the patched Spot has moved since.
-/

namespace NimHunt

open Lib

variable {P : Type}

/-- Nothing of the record's Spot starts or ends after the first moment and until the second. -/
def SpotCacheRecord.Still (r : SpotCacheRecord P) (earlier later : ℕ) : Prop :=
  ∀ moment ∈ r.transitions, ¬ (earlier < moment ∧ moment ≤ later)

/-- What a write of one Spot and of its rows leaves alone: every other Spot and its rows. -/
structure OnlySpot (x : ℕ) (a b : SpotTables P) : Prop where
  spotKeys : (b.db.spots.map Spot.id).Nodup
  now : b.db.now = a.db.now
  users : b.db.users = a.db.users
  displayName : b.displayName = a.displayName
  spots : ∀ id, id ≠ x → b.db.getSpot id = a.db.getSpot id
  claims : ∀ id, id ≠ x → (b.db.claims.filter fun c => c.spotId = id) = a.db.claims.filter fun c => c.spotId = id
  codes : ∀ id, id ≠ x →
    (b.db.claimCodes.filter fun cc => cc.spotId = id) = a.db.claimCodes.filter fun cc => cc.spotId = id
  transactions : ∀ id, id ≠ x →
    (b.db.trans.filter fun row => row.spotId = some id) = a.db.trans.filter fun row => row.spotId = some id
  reports : ∀ id, id ≠ x → (b.reports.filter fun r => r.spotId = id) = a.reports.filter fun r => r.spotId = id
  codesOfClaims : ∀ c ∈ a.db.claims, c.spotId ≠ x →
    (b.db.claimCodes.filter fun cc => cc.usedBy = some c.id) = a.db.claimCodes.filter fun cc => cc.usedBy = some c.id
  claimOfCode : ∀ cc ∈ a.db.claimCodes, cc.spotId ≠ x →
    cc.usedBy.bind b.db.getClaim = cc.usedBy.bind a.db.getClaim
  claimOfTrans : ∀ row ∈ a.db.trans, row.spotId ≠ some x →
    row.claimId.bind b.db.getClaim = row.claimId.bind a.db.getClaim

namespace SpotTables

variable {t a b : SpotTables P} {spotId x : ℕ}

/-- The record the database gives of one Spot, if it is public. -/
def spotRecord (t : SpotTables P) (spotId : ℕ) : Option (SpotCacheRecord P) :=
  (t.fetchOnePublicSpotRow spotId).map t.buildSpotRecordFromPublicRow

lemma fetchOnePublicSpotRow_id {row : PublicSpotRow P} (h : t.fetchOnePublicSpotRow spotId = some row) :
    row.spot.id = spotId := by
  unfold fetchOnePublicSpotRow at h
  rw [Option.bind_eq_some_iff] at h
  obtain ⟨spot, hspot, hrow⟩ := h
  rw [Option.map_eq_some_iff] at hrow
  obtain ⟨user, -, rfl⟩ := hrow
  unfold Db.getPublicSpot at hspot
  rw [Option.filter_eq_some_iff] at hspot
  have hfound := List.find?_some hspot.1
  exact of_decide_eq_true hfound

section Time

/-- A row of the public list stays until its Spot starts or ends; and no Spot joins the list by time alone. -/
lemma fetchOnePublicSpotRow_later (t : SpotTables P) {earlier later : ℕ} (hle : earlier ≤ later)
    (hstill : ∀ r, (t.readAt earlier).spotRecord spotId = some r → r.Still earlier later) :
    (t.readAt later).fetchOnePublicSpotRow spotId = (t.readAt earlier).fetchOnePublicSpotRow spotId := by
  unfold spotRecord fetchOnePublicSpotRow Db.getPublicSpot at hstill
  unfold fetchOnePublicSpotRow Db.getPublicSpot
  have hspot : ∀ now, (t.readAt now).db.getSpot spotId = t.db.getSpot spotId := fun now => rfl
  have hstarted : ∀ now, (t.readAt now).db.hasSpotCancellationStarted spotId = t.db.hasSpotCancellationStarted spotId :=
    fun now => rfl
  have huser : ∀ now userId, (t.readAt now).db.getUser userId = t.db.getUser userId := fun now userId => rfl
  have hclock : ∀ now, (t.readAt now).db.now = now := fun now => rfl
  simp only [hspot, hstarted, huser, hclock] at hstill ⊢
  cases hfound : t.db.getSpot spotId with
  | none => rfl
  | some spot =>
    rw [hfound] at hstill
    by_cases hlisted : spot.status = .published ∧ t.db.hasSpotCancellationStarted spotId = false ∧
        spot.position.isSome = true
    · cases hopen : spot.windowOpen earlier with
      | false =>
        have hclosed : spot.windowOpen later = false := by
          unfold Spot.windowOpen at hopen ⊢
          cases hstarts : spot.startsAt with
          | none =>
            rw [hstarts] at hopen
            cases hopen
          | some startsAt =>
            rw [hstarts] at hopen
            simp only [decide_eq_false_iff_not, not_lt] at hopen ⊢
            exact hopen.trans hle
        simp [Option.filter_some, hopen, hclosed]
      | true =>
        cases hcreator : t.db.getUser spot.createdBy with
        | none =>
          cases hlater : spot.windowOpen later <;> simp [Option.filter_some, hopen, hlater, hlisted, hcreator]
        | some user =>
          simp only [Option.filter_some, hlisted, hopen, and_self, decide_true, if_true, Option.bind_some, hcreator,
            Option.map_some, Option.some.injEq, forall_eq'] at hstill
          unfold SpotCacheRecord.Still SpotCacheRecord.transitions buildSpotRecordFromPublicRow at hstill
          dsimp only at hstill
          unfold Spot.windowOpen at hopen
          have hwindow : spot.windowOpen later = true := by
            unfold Spot.windowOpen
            cases hstarts : spot.startsAt with
            | none => rfl
            | some startsAt =>
              rw [hstarts] at hstill hopen
              have hend := hstill (startsAt + spot.endsAt) (by simp)
              simp only [decide_eq_true_eq] at hopen ⊢
              omega
          have havailable : spot.isAvailable later = spot.isAvailable earlier := by
            unfold Spot.isAvailable
            cases hstarts : spot.startsAt with
            | none => rfl
            | some startsAt =>
              rw [hstarts] at hstill
              have hstart := hstill startsAt (by simp)
              simp only [decide_eq_decide]
              omega
          have hsort : (t.readAt later).soonSortOf spot = (t.readAt earlier).soonSortOf spot := by
            unfold soonSortOf
            cases hstarts : spot.startsAt with
            | none => rfl
            | some startsAt =>
              rw [hstarts] at hstill
              have hstart := hstill startsAt (by simp)
              have hsame : startsAt ≤ later ↔ startsAt ≤ earlier := by omega
              change (if startsAt ≤ later then _ else _) = if startsAt ≤ earlier then _ else _
              simp only [hsame]
          have hopen' : spot.windowOpen earlier = true := hopen
          have havailable' : spot.isAvailable (t.readAt later).now = spot.isAvailable (t.readAt earlier).now :=
            havailable
          simp only [Option.filter_some, hlisted, hopen', hwindow, and_self, decide_true, if_true, Option.bind_some,
            hcreator, Option.map_some, hsort, havailable']
          rfl
    · have hunlisted : ∀ now, ¬ (spot.status = .published ∧ t.db.hasSpotCancellationStarted spotId = false ∧
          spot.position.isSome = true ∧ spot.windowOpen now = true) :=
        fun now h => hlisted ⟨h.1, h.2.1, h.2.2.1⟩
      simp only [Option.filter_some, hunlisted, decide_false]
      rfl

lemma spotRecord_later (t : SpotTables P) {earlier later : ℕ} (hle : earlier ≤ later)
    (hstill : ∀ r, (t.readAt earlier).spotRecord spotId = some r → r.Still earlier later) :
    (t.readAt later).spotRecord spotId = (t.readAt earlier).spotRecord spotId := by
  unfold spotRecord
  rw [fetchOnePublicSpotRow_later t hle hstill]
  rfl

end Time

section Frame

/-- A write of one Spot leaves the records of the others. -/
lemma spotRecord_onlySpot (h : OnlySpot x a b) (hne : spotId ≠ x) : b.spotRecord spotId = a.spotRecord spotId := by
  have hspot := h.spots spotId hne
  have huser : ∀ userId, b.db.getUser userId = a.db.getUser userId := by
    intro userId
    unfold Db.getUser
    rw [h.users]
  have hnow : b.now = a.now := h.now
  have hcancelled : b.db.hasSpotCancellationStarted spotId = a.db.hasSpotCancellationStarted spotId := by
    have hany : ∀ t : SpotTables P, (t.db.trans.any fun row => row.spotId = some spotId ∧
        (row.type = .cancelSpot ∨ row.type = .platFee)) =
        ((t.db.trans.filter fun row => row.spotId = some spotId).any fun row =>
          row.type = .cancelSpot ∨ row.type = .platFee) := by
      intro t
      rw [List.any_filter]
      simp only [Bool.decide_and]
    unfold Db.hasSpotCancellationStarted
    rw [hspot, hany b, hany a, h.transactions spotId hne]
  have hcounts : b.countsOf spotId = a.countsOf spotId := by
    unfold countsOf
    rw [h.claims spotId hne, h.codes spotId hne]
  have hsort : ∀ spot, b.soonSortOf spot = a.soonSortOf spot := by
    intro spot
    unfold soonSortOf
    rw [hnow]
  have hrow : b.fetchOnePublicSpotRow spotId = a.fetchOnePublicSpotRow spotId := by
    unfold fetchOnePublicSpotRow Db.getPublicSpot
    rw [hspot, hcancelled, hcounts, h.displayName, hnow, h.now]
    simp only [huser, hsort]
  have hsummary : b.fetchOwnerSummary spotId = a.fetchOwnerSummary spotId := by
    unfold fetchOwnerSummary
    rw [hspot, hcounts, h.displayName, h.reports spotId hne, h.transactions spotId hne]
    simp only [huser]
  have hclaims : b.fetchClaims spotId = a.fetchClaims spotId := by
    unfold fetchClaims
    rw [hspot, h.claims spotId hne, h.displayName]
    cases a.db.getSpot spotId with
    | none => rfl
    | some spot =>
      apply List.flatMap_congr
      intro c hc
      rw [List.mem_insertionSort, List.mem_filter, decide_eq_true_eq] at hc
      have hother : c.spotId ≠ x := by
        rw [hc.2]
        exact hne
      rw [huser, h.codesOfClaims c hc.1 hother]
  have hcodes : b.fetchClaimCodes spotId = a.fetchClaimCodes spotId := by
    unfold fetchClaimCodes
    rw [hspot, h.codes spotId hne, h.displayName]
    cases a.db.getSpot spotId with
    | none => rfl
    | some spot =>
      apply List.map_congr_left
      intro cc hcc
      rw [List.mem_insertionSort, List.mem_filter, decide_eq_true_eq] at hcc
      have hother : cc.spotId ≠ x := by
        rw [hcc.2]
        exact hne
      simp only [h.claimOfCode cc hcc.1 hother, huser]
  have htransactions : b.fetchTransactions spotId = a.fetchTransactions spotId := by
    unfold fetchTransactions
    rw [h.transactions spotId hne, h.displayName, hspot]
    apply List.filterMap_congr
    intro row hrow
    rw [List.mem_insertionSort, List.mem_filter, decide_eq_true_eq] at hrow
    have hother : row.spotId ≠ some x := by
      rw [hrow.2]
      exact fun hsame => hne (Option.some.inj hsame)
    simp only [h.claimOfTrans row hrow.1 hother, huser]
  unfold spotRecord
  rw [hrow]
  cases hfetched : a.fetchOnePublicSpotRow spotId with
  | none => rfl
  | some row =>
    rw [Option.map_some, Option.map_some]
    unfold buildSpotRecordFromPublicRow
    rw [fetchOnePublicSpotRow_id hfetched, hsummary, hclaims, hcodes, htransactions]

end Frame

end SpotTables

section Snapshots

variable {t a b : SpotTables P} {x : ℕ} {snapshot : SpotCacheSnapshot P}

instance : Std.Total (SpotCacheRecord.Earlier : SpotCacheRecord P → SpotCacheRecord P → Prop) :=
  ⟨fun a b => by unfold SpotCacheRecord.Earlier; omega⟩

instance : IsTrans (SpotCacheRecord P) SpotCacheRecord.Earlier :=
  ⟨fun a b c => by unfold SpotCacheRecord.Earlier; omega⟩

/-- The same Spots, records and lists. -/
structure SpotCacheSnapshot.Agrees (x y : SpotCacheSnapshot P) : Prop where
  records : ∀ id, x.spotsById.get? id = y.spotsById.get? id
  byStart : x.spotIdsByStart = y.spotIdsByStart
  current : x.currentSpotIdsByStart = y.currentSpotIdsByStart
  upcoming : x.upcomingSpotIdsByStart = y.upcomingSpotIdsByStart

lemma SpotCacheSnapshot.Agrees.refl (x : SpotCacheSnapshot P) : x.Agrees x := ⟨fun _ => rfl, rfl, rfl, rfl⟩

/-- Dictionaries with the same entries sort alike. -/
lemma sorted_of_get? {d d' : Dict (@SpotCacheRecord.spotId P)} (h : ∀ id, d.get? id = d'.get? id) :
    d.rows.insertionSort SpotCacheRecord.Earlier = d'.rows.insertionSort SpotCacheRecord.Earlier := by
  have hmem : ∀ r, r ∈ d.rows ↔ r ∈ d'.rows := by
    intro r
    have hhere := @Dict.get?_eq_some _ _ _ _ d r.spotId r
    have hthere := @Dict.get?_eq_some _ _ _ _ d' r.spotId r
    rw [h r.spotId] at hhere
    constructor
    · exact fun hr => (hthere.mp (hhere.mpr ⟨hr, rfl⟩)).1
    · exact fun hr => (hhere.mp (hthere.mpr ⟨hr, rfl⟩)).1
  have hperm : d.rows.Perm d'.rows :=
    (List.perm_ext_iff_of_nodup d.keys.of_map d'.keys.of_map).mpr hmem
  apply insertionSort_eq_of_perm hperm
  intro r hr r' hr' hle hge
  have hsame : r.spotId = r'.spotId := by
    unfold SpotCacheRecord.Earlier at hle hge
    omega
  exact eq_of_key_eq d'.keys hr hr' hsame

/-- The snapshot is what a rebuild makes of the records the database gave at its moment. -/
structure Fresh (snapshot : SpotCacheSnapshot P) (t : SpotTables P) : Prop where
  rebuilt : snapshot = rebuildSpotIndexes snapshot.loadedAt snapshot.nowAtLoad snapshot.spotsById
  past : snapshot.nowAtLoad ≤ t.now
  records : ∀ id, snapshot.spotsById.get? id = (t.readAt snapshot.nowAtLoad).spotRecord id

lemma get?_build (hkeys : (t.db.spots.map Spot.id).Nodup) (id : ℕ) :
    (buildSpotCacheSnapshot t).spotsById.get? id = t.spotRecord id := by
  have hnodup : ((t.fetchPublicSpotRows.map t.buildSpotRecordFromPublicRow).map SpotCacheRecord.spotId).Nodup := by
    have hids : (t.fetchPublicSpotRows.map t.buildSpotRecordFromPublicRow).map SpotCacheRecord.spotId =
        t.fetchPublicSpotRows.map fun row => row.spot.id := by
      rw [List.map_map]
      rfl
    rw [hids]
    unfold SpotTables.fetchPublicSpotRows
    rw [List.map_filterMap]
    apply hkeys.filterMap
    intro i j k hi hj
    rw [Option.mem_def, Option.map_eq_some_iff] at hi hj
    obtain ⟨row, hrow, rfl⟩ := hi
    obtain ⟨row', hrow', hsame⟩ := hj
    rw [SpotTables.fetchOnePublicSpotRow_id hrow, SpotTables.fetchOnePublicSpotRow_id hrow'] at hsame
    exact hsame.symm
  apply Option.ext
  intro r
  change (Dict.ofList _).get? id = some r ↔ _
  rw [Dict.get?_eq_some, Dict.mem_ofList hnodup]
  unfold SpotTables.fetchPublicSpotRows SpotTables.spotRecord
  rw [Option.map_eq_some_iff, List.mem_map]
  constructor
  · rintro ⟨⟨row, hrow, rfl⟩, hid⟩
    obtain ⟨i, -, hi⟩ := List.mem_filterMap.mp hrow
    have hsame : i = id := (SpotTables.fetchOnePublicSpotRow_id hi).symm.trans hid
    exact ⟨row, hsame ▸ hi, rfl⟩
  · rintro ⟨row, hrow, rfl⟩
    refine ⟨⟨row, List.mem_filterMap.mpr ⟨id, ?_, hrow⟩, rfl⟩, SpotTables.fetchOnePublicSpotRow_id hrow⟩
    unfold SpotTables.fetchOnePublicSpotRow at hrow
    rw [Option.bind_eq_some_iff] at hrow
    obtain ⟨spot, hspot, -⟩ := hrow
    unfold Db.getPublicSpot at hspot
    rw [Option.filter_eq_some_iff] at hspot
    have hfound := hspot.1
    have hid := List.find?_some hfound
    rw [← of_decide_eq_true hid]
    exact List.mem_map_of_mem (List.mem_of_find?_eq_some hfound)

lemma fresh_build (hkeys : (t.db.spots.map Spot.id).Nodup) : Fresh (buildSpotCacheSnapshot t) t where
  rebuilt := rfl
  past := le_rfl
  records := get?_build hkeys

/-- What the database would give of a Spot now, as long as no record but that of `x` has moved. -/
lemma Fresh.get?_now (h : Fresh snapshot t) {id : ℕ}
    (hstill : ∀ r ∈ snapshot.spotsById, r.spotId = id → r.Still snapshot.nowAtLoad t.now) :
    snapshot.spotsById.get? id = t.spotRecord id := by
  rw [h.records id]
  apply Eq.symm
  apply SpotTables.spotRecord_later t h.past
  intro r hr
  have hget := Dict.get?_eq_some.mp ((h.records id).trans hr)
  exact hstill r hget.1 hget.2

/-- No transition is due: nothing has moved. -/
lemma SpotCacheSnapshot.still {now : ℕ}
    (hrebuilt : snapshot = rebuildSpotIndexes snapshot.loadedAt snapshot.nowAtLoad snapshot.spotsById)
    (hdue : ¬ snapshot.nextTransitionAt.any (· ≤ now) = true) {r : SpotCacheRecord P} (hr : r ∈ snapshot.spotsById) :
    r.Still snapshot.nowAtLoad now := by
  intro moment hmoment hpassed
  have hmem : moment ∈ ((snapshot.spotsById.rows.insertionSort SpotCacheRecord.Earlier).flatMap
      SpotCacheRecord.transitions).filter (snapshot.nowAtLoad < ·) := by
    rw [List.mem_filter, decide_eq_true_eq, List.mem_flatMap]
    exact ⟨⟨r, (List.mem_insertionSort _).mpr hr, hmoment⟩, hpassed.1⟩
  have hnext := congrArg SpotCacheSnapshot.nextTransitionAt hrebuilt
  unfold rebuildSpotIndexes at hnext
  dsimp only at hnext
  cases hmin : snapshot.nextTransitionAt with
  | none =>
    rw [hmin] at hnext
    rw [List.min?_eq_none_iff.mp hnext.symm] at hmem
    cases hmem
  | some next =>
    rw [hmin] at hnext hdue
    have hle := (List.min?_eq_some_iff.mp hnext.symm).2 moment hmem
    apply hdue
    rw [Option.any_some, decide_eq_true_eq]
    exact hle.trans hpassed.2

lemma SpotCacheRecord.Still.isAvailable {r : SpotCacheRecord P} {earlier later : ℕ} (hle : earlier ≤ later)
    (hstill : r.Still earlier later) : r.spot.spot.isAvailable earlier = r.spot.spot.isAvailable later := by
  unfold SpotCacheRecord.Still SpotCacheRecord.transitions at hstill
  unfold Spot.isAvailable
  cases hstarts : r.spot.spot.startsAt with
  | none => rfl
  | some startsAt =>
    rw [hstarts] at hstill
    have hstart := hstill startsAt (by simp)
    simp only [decide_eq_decide]
    omega

/-- While no transition is due the snapshot agrees with a new one. -/
lemma Fresh.agrees (h : Fresh snapshot t) (hkeys : (t.db.spots.map Spot.id).Nodup)
    (hdue : ¬ snapshot.nextTransitionAt.any (· ≤ t.now) = true) : snapshot.Agrees (buildSpotCacheSnapshot t) := by
  have hrecords : ∀ id, snapshot.spotsById.get? id = (buildSpotCacheSnapshot t).spotsById.get? id := by
    intro id
    rw [get?_build hkeys, h.get?_now fun r hr _ => SpotCacheSnapshot.still h.rebuilt hdue hr]
  have hsorted := sorted_of_get? hrecords
  have havailable : ∀ r ∈ snapshot.spotsById.rows.insertionSort SpotCacheRecord.Earlier,
      r.spot.spot.isAvailable snapshot.nowAtLoad = r.spot.spot.isAvailable t.now := by
    intro r hr
    have hmem : r ∈ snapshot.spotsById := (List.mem_insertionSort _).mp hr
    exact (SpotCacheSnapshot.still h.rebuilt hdue hmem).isAvailable h.past
  have hbuilt : buildSpotCacheSnapshot t =
      rebuildSpotIndexes t.now t.now (buildSpotCacheSnapshot t).spotsById := rfl
  constructor
  · exact hrecords
  · rw [h.rebuilt, hbuilt]
    unfold rebuildSpotIndexes
    dsimp only
    rw [hsorted]
  · rw [h.rebuilt, hbuilt]
    unfold rebuildSpotIndexes
    dsimp only
    rw [← hsorted, List.filter_congr havailable]
  · rw [h.rebuilt, hbuilt]
    unfold rebuildSpotIndexes
    dsimp only
    rw [← hsorted, List.filter_congr fun r hr => by rw [havailable r hr]]

end Snapshots

namespace SpotCache

variable {s : SpotCache P}

/-- A write and the call that reports it. -/
def Reported (s : SpotCache P) : SpotCacheOp P → Prop
  | .spotChanged tables spotId | .claimChanged tables spotId => OnlySpot spotId s.tables tables
  | _ => True

/-- The patched snapshot was good: no user changed since it was loaded, and no other Spot of it has started or
ended. -/
def PatchesGoodSnapshot (s : SpotCache P) : SpotCacheOp P → Prop
  | .spotChanged _ spotId | .claimChanged _ spotId => ∀ snapshot, s.cache = some snapshot →
      s.dirty = false ∧ ∀ r ∈ snapshot.spotsById, r.spotId ≠ spotId → r.Still snapshot.nowAtLoad s.tables.now
  | _ => True

structure Sound (s : SpotCache P) : Prop where
  spotKeys : (s.tables.db.spots.map Spot.id).Nodup
  fresh : ∀ snapshot, s.cache = some snapshot → s.dirty = false → Fresh snapshot s.tables

lemma Sound.refresh (hkeys : (s.tables.db.spots.map Spot.id).Nodup) : s.refreshSpotCache.Sound where
  spotKeys := hkeys
  fresh := by
    intro snapshot hcache _
    rw [← Option.some.inj hcache]
    exact fresh_build hkeys

/-- A patch of a good snapshot is good. -/
lemma Sound.patch (h : s.Sound) {tables : SpotTables P} {spotId : ℕ} (honly : OnlySpot spotId s.tables tables)
    (hgood : ∀ snapshot, s.cache = some snapshot → s.dirty = false ∧
      ∀ r ∈ snapshot.spotsById, r.spotId ≠ spotId → r.Still snapshot.nowAtLoad s.tables.now) :
    ({ s with tables := tables }.refreshCachedSpot spotId).Sound := by
  unfold refreshCachedSpot
  dsimp only
  cases hcache : s.cache with
  | none => exact Sound.refresh honly.spotKeys
  | some snapshot =>
    obtain ⟨hclean, hothers⟩ := hgood snapshot hcache
    have hfresh := h.fresh snapshot hcache hclean
    have hrest : ∀ id, id ≠ spotId → snapshot.spotsById.get? id = tables.spotRecord id := by
      intro id hne
      rw [SpotTables.spotRecord_onlySpot honly hne]
      apply hfresh.get?_now
      intro r hr hid
      exact hothers r hr (by rw [hid]; exact hne)
    constructor
    · exact honly.spotKeys
    · intro patched hpatched _
      rw [← Option.some.inj hpatched]
      refine ⟨rfl, le_rfl, ?_⟩
      intro id
      change _ = tables.spotRecord id
      unfold rebuildSpotIndexes
      dsimp only
      cases hrow : tables.fetchOnePublicSpotRow spotId with
      | none =>
        dsimp only
        rw [Dict.get?_pop]
        by_cases hsame : spotId = id
        · rw [if_pos hsame, ← hsame]
          unfold SpotTables.spotRecord
          rw [hrow]
          rfl
        · rw [if_neg hsame]
          exact hrest id fun h => hsame h.symm
      | some row =>
        dsimp only
        have hkey : (tables.buildSpotRecordFromPublicRow row).spotId = spotId :=
          SpotTables.fetchOnePublicSpotRow_id hrow
        rw [Dict.get?_set, hkey]
        by_cases hsame : spotId = id
        · rw [if_pos hsame, ← hsame]
          unfold SpotTables.spotRecord
          rw [hrow]
          rfl
        · rw [if_neg hsame]
          exact hrest id fun h => hsame h.symm

lemma step_spotSound (h : s.Sound) {op : SpotCacheOp P} (hreported : Reported s op) (hgood : PatchesGoodSnapshot s op) :
    (s.step op).Sound := by
  cases op with
  | wait seconds =>
    constructor
    · exact h.spotKeys
    · intro snapshot hcache hclean
      have hfresh := h.fresh snapshot hcache hclean
      exact ⟨hfresh.rebuilt, hfresh.past.trans (Nat.le_add_right _ _), hfresh.records⟩
  | spotChanged tables spotId => exact h.patch hreported hgood
  | claimChanged tables spotId => exact h.patch hreported hgood
  | userChanged users displayName => exact ⟨h.spotKeys, fun snapshot _ hclean => by cases hclean⟩
  | ensure =>
    unfold step
    dsimp only
    cases hcache : s.cache with
    | none => exact Sound.refresh h.spotKeys
    | some snapshot =>
      dsimp only
      by_cases hneeds : s.NeedsRefresh snapshot
      · rw [if_pos hneeds]
        exact Sound.refresh h.spotKeys
      · rw [if_neg hneeds]
        exact h

lemma Sound.agrees (h : s.Sound) : s.ensureSpotCache.Agrees (buildSpotCacheSnapshot s.tables) := by
  unfold ensureSpotCache
  cases hcache : s.cache with
  | none => exact SpotCacheSnapshot.Agrees.refl _
  | some snapshot =>
    dsimp only
    by_cases hneeds : s.NeedsRefresh snapshot
    · rw [if_pos hneeds]
      exact SpotCacheSnapshot.Agrees.refl _
    · rw [if_neg hneeds]
      unfold NeedsRefresh at hneeds
      rw [not_or, Bool.not_eq_true] at hneeds
      exact (h.fresh snapshot hcache hneeds.1).agrees h.spotKeys hneeds.2

/-- In every run whose patches meet a good snapshot, `ensure_spot_cache` returns what a new snapshot would be. -/
theorem spotCache_agrees_of_good_patches {tables : SpotTables P} (hkeys : (tables.db.spots.map Spot.id).Nodup)
    {ops : List (SpotCacheOp P)}
    (hops : Admissible step (fun s op => Reported s op ∧ PatchesGoodSnapshot s op) (initial tables) ops) :
    (run step (initial tables) ops).ensureSpotCache.Agrees
      (buildSpotCacheSnapshot (run step (initial tables) ops).tables) := by
  have hpreserved : ∀ (s : SpotCache P) op, Reported s op ∧ PatchesGoodSnapshot s op → s.Sound → (s.step op).Sound := by
    intro s op hop h
    exact step_spotSound h hop.1 hop.2
  have hinitial : (initial tables).Sound := ⟨hkeys, fun snapshot hcache => by cases hcache⟩
  exact (run_invariant hpreserved hops hinitial).agrees

end SpotCache

section Renaming

/-- Two public Spots of one creator. -/
def twoSpots : SpotTables Unit where
  db :=
    { Db.empty with
      users := [⟨1, .active, "", 0⟩]
      spots := [1, 2].map fun id =>
        { id := id, createdBy := 1, depositAddress := "", position := some (), radius := 100, claimDuration := 0
          maxClaimsPerUser := 1, maxTotalClaims := 10, usePassword := false, totalValue := 1000, creationFee := 0
          startsAt := none, endsAt := 100, status := .published, cancellationStartedAt := none, prizeCount := none } }
  displayName := fun _ => some "Ann"
  reports := []

/-- The tables after the creator was renamed. -/
def renamedSpots : SpotTables Unit := { twoSpots with displayName := fun _ => some "Eve" }

/-- The cache is loaded, the creator renamed, and a claim written under the second Spot. -/
def renamingRun : List (SpotCacheOp Unit) :=
  [.ensure, .userChanged twoSpots.db.users renamedSpots.displayName, .claimChanged renamedSpots 2]

lemma onlySpot_self (x : ℕ) (t : SpotTables Unit) (h : (t.db.spots.map Spot.id).Nodup) : OnlySpot x t t :=
  ⟨h, rfl, rfl, rfl, fun _ _ => rfl, fun _ _ => rfl, fun _ _ => rfl, fun _ _ => rfl, fun _ _ => rfl,
    fun _ _ _ => rfl, fun _ _ _ => rfl, fun _ _ _ => rfl⟩

/-- The patch of the second Spot hides that the creator's name is stale on the first. -/
theorem patch_forgets_the_renaming :
    ¬ ∀ (tables : SpotTables Unit) ops, (tables.db.spots.map Spot.id).Nodup →
      Admissible SpotCache.step SpotCache.Reported (.initial tables) ops →
      (run SpotCache.step (.initial tables) ops).ensureSpotCache.Agrees
        (buildSpotCacheSnapshot (run SpotCache.step (.initial tables) ops).tables) := by
  intro hagrees
  have hops : Admissible SpotCache.step SpotCache.Reported (.initial twoSpots) renamingRun :=
    ⟨trivial, trivial, onlySpot_self 2 renamedSpots (by decide), trivial⟩
  have hrecords := (hagrees twoSpots renamingRun (by decide) hops).records 1
  have hnames := congrArg (Option.map fun r => r.creator.displayName) hrecords
  exact absurd hnames (by decide +kernel)

/-- The second Spot is patched five seconds after the load. -/
theorem spotCache_agrees_of_good_patches_twoSpots :
    (run SpotCache.step (.initial twoSpots) [.ensure, .wait 5, .spotChanged (twoSpots.readAt 5) 2]).ensureSpotCache.Agrees
      (buildSpotCacheSnapshot
        (run SpotCache.step (.initial twoSpots) [.ensure, .wait 5, .spotChanged (twoSpots.readAt 5) 2]).tables) := by
  apply SpotCache.spotCache_agrees_of_good_patches (by decide)
  refine ⟨⟨trivial, trivial⟩, ⟨trivial, trivial⟩, ⟨onlySpot_self 2 (twoSpots.readAt 5) (by decide), ?_⟩, trivial⟩
  intro snapshot hcache
  refine ⟨rfl, ?_⟩
  intro r hr hother moment hmoment
  have hloaded : buildSpotCacheSnapshot twoSpots = snapshot := Option.some.inj hcache
  have hopen : ∀ r ∈ (buildSpotCacheSnapshot twoSpots).spotsById.rows, r.transitions = [] := by decide +kernel
  rw [hloaded] at hopen
  rw [hopen r hr] at hmoment
  cases hmoment

end Renaming

end NimHunt
