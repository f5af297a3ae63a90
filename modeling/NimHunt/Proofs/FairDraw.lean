import NimHunt.SettlementUpdater

/-!
# The draw and its entrants

When one draw is fair over every SUCCESS entry of its Prizedraw: any set of winners of the right
size can come out, exactly the winners turn PENDING, and nothing is left half done.
-/

namespace NimHunt

open Lib

variable {P : Type}

/-- What `SystemRandom.sample` promises of a population and a size no larger than it. -/
structure IsSampler (sample : Sampler P) : Prop where
  length : ∀ xs k, k ≤ xs.length → (sample xs k).length = k
  nodup : ∀ xs k, xs.Nodup → k ≤ xs.length → (sample xs k).Nodup
  subset : ∀ xs k, k ≤ xs.length → sample xs k ⊆ xs

/-- The SUCCESS entries of a Spot. -/
def entries (db : Db P) (spotId : ℕ) : List (Claim P) :=
  db.claims.filter fun c => c.spotId = spotId ∧ c.status = .success

/-- A claim after the draw that chose `winners`. -/
def Claim.drawn (now spotId : ℕ) (winners : List ℕ) (c : Claim P) : Claim P :=
  if c.spotId = spotId then
    match c.status with
    | .pending => c.withStatus now .failed
    | .success => if c.id ∈ winners then c.withStatus now .pending else c
    | .failed => c
  else c

structure IsWinnerSet (db : Db P) (spotId k : ℕ) (winners : List ℕ) : Prop where
  nodup : winners.Nodup
  length : winners.length = k
  entered : ∀ i ∈ winners, ∃ c ∈ entries db spotId, c.id = i

/-- The draw committed with these winners. -/
structure SettledWith (db : Db P) (spot : Spot P) (winners : List ℕ) (outcome : Outcome P SettlementResult) :
    Prop where
  result : ∃ result, outcome.2 = .ok result ∧ result.settled = true ∧ result.winnerClaimIds.Perm winners
  claims : outcome.1.claims = db.claims.map (Claim.drawn db.now spot.id winners)
  spots : outcome.1.spots =
    updateWhere (fun s => s.id = spot.id) (fun s => { s with status := .completed }) db.spots

/-- The draw law for one Prizedraw and its configured number of prizes. -/
structure FairDraw (db : Db P) (spot : Spot P) (prizeCount : ℕ) : Prop where
  everyDraw : ∀ sample, IsSampler sample → ∃ winners,
    IsWinnerSet db spot.id (min (max 1 prizeCount) (entries db spot.id).length) winners ∧
      SettledWith db spot winners (settlePrizedrawSpotIfReady sample db spot.id)
  everyEntrant : ∀ winners,
    IsWinnerSet db spot.id (min (max 1 prizeCount) (entries db spot.id).length) winners →
      ∃ sample, IsSampler sample ∧ SettledWith db spot winners (settlePrizedrawSpotIfReady sample db spot.id)
  allOrNothing : ∀ sample e, (settlePrizedrawSpotIfReady sample db spot.id).2 = .error e →
    (settlePrizedrawSpotIfReady sample db spot.id).1 = db

/-- A PUBLISHED Prizedraw whose draw is due. -/
structure DrawDue (db : Db P) (spot : Spot P) (prizeCount : ℕ) : Prop where
  found : db.getSpot spot.id = some spot
  published : spot.status = .published
  prizedraw : spot.prizeCount = some prizeCount
  ready : ∃ reason, db.settlementReadyReason spot = some reason

variable {db : Db P} {spot : Spot P} {prizeCount : ℕ} {sample : Sampler P}

lemma settle_of_due (hdue : DrawDue db spot prizeCount) (sample : Sampler P) :
    ∃ reason, settlePrizedrawSpotIfReady sample db spot.id =
      (drawPrizedraw sample db spot prizeCount reason).orRollback db := by
  obtain ⟨reason, hready⟩ := hdue.ready
  refine ⟨reason, ?_⟩
  simp [settlePrizedrawSpotIfReady, hdue.found, hdue.published, hdue.prizedraw, hready]

lemma settle_rolls_back (hdue : DrawDue db spot prizeCount) (e : Raised)
    (he : (settlePrizedrawSpotIfReady sample db spot.id).2 = .error e) :
    (settlePrizedrawSpotIfReady sample db spot.id).1 = db := by
  obtain ⟨reason, hsettle⟩ := settle_of_due hdue sample
  rw [hsettle, Outcome.orRollback_snd] at he
  rw [hsettle, Outcome.orRollback_error he]

/-- Failing the PENDING entries first does not change who is drawn from. -/
lemma getSuccessfulClaimsForSpot_failPending (db : Db P) (spotId : ℕ) :
    (db.failPendingClaimsForSpot spotId).getSuccessfulClaimsForSpot spotId =
      db.getSuccessfulClaimsForSpot spotId := by
  simp only [Db.getSuccessfulClaimsForSpot, Db.getClaimsByStatusForSpot, Db.failPendingClaimsForSpot,
    Db.updateClaimStatus]
  rw [filter_updateWhere_of_outside]
  intro c _ hsel
  simp only [decide_eq_true_eq] at hsel
  simp [Claim.withStatus, hsel.2]

lemma getSuccessfulClaimsForSpot_subset (db : Db P) (spotId : ℕ) :
    db.getSuccessfulClaimsForSpot spotId ⊆ entries db spotId :=
  page_subset

lemma getSuccessfulClaimsForSpot_nodup (hkeyed : db.Keyed) (spotId : ℕ) :
    (db.getSuccessfulClaimsForSpot spotId).Nodup :=
  page_nodup ((List.Nodup.of_map _ hkeyed.claimKeys).filter _)

lemma length_getSuccessfulClaimsForSpot (db : Db P) (spotId : ℕ) :
    (db.getSuccessfulClaimsForSpot spotId).length = min maxLimit (entries db spotId).length :=
  length_page

/-- The two updates of a draw, row by row. -/
lemma drawn_updates (now spotId : ℕ) (winners : List ℕ) (claims : List (Claim P))
    (hpositive : ∀ c ∈ claims, 0 < c.id) :
    updateWhere (fun c => c.spotId = spotId ∧ c.status = .success ∧ c.id ∈ winners ∧ 0 < c.id)
        (Claim.withStatus now .pending)
        (updateWhere (fun c => c.spotId = spotId ∧ c.status = .pending) (Claim.withStatus now .failed) claims) =
      claims.map (Claim.drawn now spotId winners) := by
  simp only [updateWhere, List.map_map]
  refine List.map_congr_left fun c hc => ?_
  have hid := hpositive c hc
  by_cases hspot : c.spotId = spotId
  · cases hstatus : c.status with
    | pending => simp [Claim.drawn, Claim.withStatus, hspot, hstatus]
    | success => simp [Claim.drawn, Claim.withStatus, hspot, hstatus, hid]
    | failed => simp [Claim.drawn, Claim.withStatus, hspot, hstatus]
  · simp [Claim.drawn, hspot]

/-- Rows drawn from the entries are the rows their ids select. -/
lemma countP_winners (hkeyed : db.Keyed) {spotId : ℕ} {winners : List (Claim P)} (hnodup : winners.Nodup)
    (hsubset : winners ⊆ entries db spotId) :
    (db.failPendingClaimsForSpot spotId).claims.countP
        (fun c => c.spotId = spotId ∧ c.status = .success ∧ c.id ∈ winners.map Claim.id ∧ 0 < c.id) =
      winners.length := by
  have hkeys : ((db.failPendingClaimsForSpot spotId).claims.map Claim.id).Nodup := by
    rw [Db.failPendingClaimsForSpot, Db.updateClaimStatus_claims,
      map_updateWhere (f := Claim.withStatus db.now .failed) fun _ => rfl]
    exact hkeyed.claimKeys
  have hstays : ∀ c ∈ entries db spotId, c ∈ (db.failPendingClaimsForSpot spotId).claims := by
    intro c hc
    simp only [entries, List.mem_filter, decide_eq_true_eq] at hc
    rw [Db.failPendingClaimsForSpot, Db.updateClaimStatus_claims, mem_updateWhere]
    exact ⟨c, hc.1, by simp [hc.2.2]⟩
  rw [List.countP_eq_length_filter]
  refine List.Perm.length_eq ((List.perm_ext_iff_of_nodup
    ((List.Nodup.of_map _ hkeys).filter _) hnodup).mpr fun c => ?_)
  simp only [List.mem_filter, decide_eq_true_eq]
  constructor
  · rintro ⟨hc, -, -, hid, -⟩
    obtain ⟨w, hw, hwid⟩ := List.mem_map.mp hid
    rwa [← eq_of_key_eq hkeys (hstays w (hsubset hw)) hc hwid]
  · intro hc
    have hentry := hsubset hc
    have hrow := hentry
    simp only [entries, List.mem_filter, decide_eq_true_eq] at hrow
    exact ⟨hstays c hentry, hrow.2.1, hrow.2.2, List.mem_map_of_mem hc, (hkeyed.claimFresh c hrow.1).1⟩

/-- A draw with an honest sampler commits, with the winners the sampler took from the page. -/
lemma settle_page (hkeyed : db.Keyed) (hdue : DrawDue db spot prizeCount) (hsample : IsSampler sample) :
    SettledWith db spot
      ((sample (db.getSuccessfulClaimsForSpot spot.id)
        (min (max 1 prizeCount) (db.getSuccessfulClaimsForSpot spot.id).length)).map Claim.id)
      (settlePrizedrawSpotIfReady sample db spot.id) := by
  obtain ⟨reason, hsettle⟩ := settle_of_due hdue sample
  set page := db.getSuccessfulClaimsForSpot spot.id with hpage
  set k := min (max 1 prizeCount) page.length with hk
  have hle : k ≤ page.length := min_le_right _ _
  have hwinners : (if 0 < k then sample page k else []) = sample page k := by
    by_cases hpos : 0 < k
    · simp [hpos]
    · have hzero : k = 0 := by omega
      have hlen := hsample.length page k hle
      rw [if_neg hpos, List.length_eq_zero_iff.mp (hlen.trans hzero)]
  set ids := ((sample page k).map Claim.id).insertionSort (· ≤ ·) with hids
  have hperm : ids.Perm ((sample page k).map Claim.id) := List.perm_insertionSort _ _
  have hcount := countP_winners hkeyed
    (hsample.nodup page k (getSuccessfulClaimsForSpot_nodup hkeyed spot.id) hle)
    (fun c hc => getSuccessfulClaimsForSpot_subset db spot.id (hsample.subset page k hle hc))
  have hsel : ∀ c : Claim P, (c.spotId = spot.id ∧ c.status = .success ∧ c.id ∈ ids ∧ 0 < c.id) ↔
      (c.spotId = spot.id ∧ c.status = .success ∧ c.id ∈ (sample page k).map Claim.id ∧ 0 < c.id) := by
    intro c
    rw [hperm.mem_iff]
  have hpersisted : ((db.failPendingClaimsForSpot spot.id).markPrizedrawWinnersPending spot.id ids).2 =
      ids.length := by
    simp only [Db.markPrizedrawWinnersPending, hsel, hcount, hperm.length_eq, List.length_map]
  have hdraw : drawPrizedraw sample db spot prizeCount reason =
      ((((db.failPendingClaimsForSpot spot.id).markPrizedrawWinnersPending spot.id ids).1).modifySpotStatus
          spot.id .completed,
        .ok ⟨true, reason, db.countClaimsByStatusForSpot spot.id .pending, page.length, ids⟩) := by
    simp only [drawPrizedraw, getSuccessfulClaimsForSpot_failPending, ← hpage, ← hk, hwinners, ← hids,
      hpersisted, ne_eq, not_true_eq_false, if_false]
  rw [hsettle, hdraw]
  refine ⟨⟨_, rfl, rfl, hperm⟩, ?_, rfl⟩
  have hclaims := drawn_updates db.now spot.id ((sample page k).map Claim.id) db.claims
    fun c hc => (hkeyed.claimFresh c hc).1
  rw [← hclaims]
  simp only [Outcome.orRollback, Db.modifySpotStatus, Db.markPrizedrawWinnersPending, Db.updateClaimStatus,
    Db.failPendingClaimsForSpot, hsel]

/-- What an honest sampler takes from the page is a winner set. -/
lemma isWinnerSet_page (hkeyed : db.Keyed) (hsample : IsSampler sample) {spotId k : ℕ}
    (hle : k ≤ (db.getSuccessfulClaimsForSpot spotId).length) :
    IsWinnerSet db spotId k ((sample (db.getSuccessfulClaimsForSpot spotId) k).map Claim.id) := by
  have hentry : ∀ c ∈ sample (db.getSuccessfulClaimsForSpot spotId) k, c ∈ entries db spotId :=
    fun c hc => getSuccessfulClaimsForSpot_subset db spotId (hsample.subset _ _ hle hc)
  refine ⟨?_, ?_, ?_⟩
  · refine List.Nodup.map_on (fun a ha b hb hab => ?_)
      (hsample.nodup _ _ (getSuccessfulClaimsForSpot_nodup hkeyed spotId) hle)
    exact eq_of_key_eq hkeyed.claimKeys (List.mem_of_mem_filter (hentry a ha))
      (List.mem_of_mem_filter (hentry b hb)) hab
  · rw [List.length_map, hsample.length _ _ hle]
  · intro i hi
    obtain ⟨c, hc, rfl⟩ := List.mem_map.mp hi
    exact ⟨c, hentry c hc, rfl⟩

/-- The sampler that returns the rows of a given set of ids whenever they are a sample. -/
def chooseIds (winners : List ℕ) : Sampler P := fun xs k =>
  let chosen := xs.filter fun c => c.id ∈ winners
  if chosen.length = k then chosen else xs.take k

lemma chooseIds_isSampler (winners : List ℕ) : IsSampler (chooseIds winners : Sampler P) where
  length xs k hk := by
    by_cases h : (xs.filter fun c => c.id ∈ winners).length = k
    · simp [chooseIds, h]
    · simp [chooseIds, h, hk]
  nodup xs k hnodup _ := by
    by_cases h : (xs.filter fun c => c.id ∈ winners).length = k
    · simpa [chooseIds, h] using hnodup.filter _
    · simpa [chooseIds, h] using hnodup.sublist (List.take_sublist _ _)
  subset xs k _ := by
    by_cases h : (xs.filter fun c => c.id ∈ winners).length = k
    · simp [chooseIds, h]
    · simp [chooseIds, h, List.take_subset]

lemma SettledWith.congr {winners winners' : List ℕ} {outcome : Outcome P SettlementResult}
    (h : SettledWith db spot winners outcome) (hperm : winners.Perm winners') :
    SettledWith db spot winners' outcome := by
  obtain ⟨⟨result, hok, hsettled, hids⟩, hclaims, hspots⟩ := h
  refine ⟨⟨result, hok, hsettled, hids.trans hperm⟩, ?_, hspots⟩
  rw [hclaims]
  refine List.map_congr_left fun c _ => ?_
  simp only [Claim.drawn, hperm.mem_iff]

lemma entries_keys_nodup (hkeyed : db.Keyed) (spotId : ℕ) : ((entries db spotId).map Claim.id).Nodup :=
  hkeyed.claimKeys.sublist (List.filter_sublist.map _)

/-- A page that holds every entry holds the rows of every winner set. -/
lemma chooseIds_page_perm (hkeyed : db.Keyed) {spotId k : ℕ} {winners : List ℕ}
    (hfits : (entries db spotId).length ≤ maxLimit) (hwinners : IsWinnerSet db spotId k winners) :
    ((chooseIds winners (db.getSuccessfulClaimsForSpot spotId) k).map Claim.id).Perm winners := by
  set drawn := db.getSuccessfulClaimsForSpot spotId
  have hperm : drawn.Perm (entries db spotId) := page_perm hfits
  have hdrawnKeys : (drawn.map Claim.id).Nodup := (hperm.map _).nodup_iff.mpr (entries_keys_nodup hkeyed spotId)
  have hchosen : ((drawn.filter fun c => c.id ∈ winners).map Claim.id).Perm winners := by
    refine (List.perm_ext_iff_of_nodup (hdrawnKeys.sublist (List.filter_sublist.map _)) hwinners.nodup).mpr
      fun i => ?_
    simp only [List.mem_map, List.mem_filter, decide_eq_true_eq]
    constructor
    · rintro ⟨c, ⟨-, hc⟩, rfl⟩
      exact hc
    · intro hi
      obtain ⟨c, hc, rfl⟩ := hwinners.entered i hi
      exact ⟨c, ⟨hperm.symm.subset hc, hi⟩, rfl⟩
  have hlength : (drawn.filter fun c => c.id ∈ winners).length = k := by
    rw [← hwinners.length, ← hchosen.length_eq, List.length_map]
  simp only [chooseIds, hlength, if_true]
  exact hchosen

/-- Past one page some entry cannot be drawn at all. -/
lemma exists_entry_outside_page (hkeyed : db.Keyed) (spotId : ℕ)
    (h : maxLimit < (entries db spotId).length) :
    ∃ c ∈ entries db spotId, c ∉ db.getSuccessfulClaimsForSpot spotId := by
  by_contra hall
  push Not at hall
  have hnodup : (entries db spotId).Nodup := List.Nodup.of_map _ (entries_keys_nodup hkeyed spotId)
  have hle := (List.subperm_of_subset hnodup hall).length_le
  rw [length_getSuccessfulClaimsForSpot] at hle
  omega

/-- Every entry is in some winner set. -/
lemma exists_winnerSet_of_entry (hkeyed : db.Keyed) {spotId k : ℕ} {c : Claim P} (hc : c ∈ entries db spotId)
    (hpos : 0 < k) (hle : k ≤ (entries db spotId).length) :
    ∃ winners, IsWinnerSet db spotId k winners ∧ c.id ∈ winners := by
  obtain ⟨before, after, hsplit⟩ := List.append_of_mem hc
  have hperm : (entries db spotId).Perm (c :: (before ++ after)) := by
    rw [hsplit]
    exact List.perm_middle
  have hlen : (before ++ after).length + 1 = (entries db spotId).length := by
    rw [hperm.length_eq, List.length_cons]
  set chosen := c :: (before ++ after).take (k - 1) with hchosen
  have hsub : chosen.Sublist (c :: (before ++ after)) := (List.take_sublist _ _).cons_cons c
  refine ⟨chosen.map Claim.id, ⟨?_, ?_, ?_⟩, by simp [hchosen]⟩
  · exact ((hperm.map Claim.id).nodup_iff.mp (entries_keys_nodup hkeyed spotId)).sublist (hsub.map _)
  · simp only [hchosen, List.length_map, List.length_cons, List.length_take]
    omega
  · intro i hi
    obtain ⟨row, hrow, rfl⟩ := List.mem_map.mp hi
    exact ⟨row, hperm.symm.subset (hsub.subset hrow), rfl⟩

/-- Two outcomes of one draw over the same claims have the same winners among the entries. -/
lemma mem_winners_iff {winners winners' : List ℕ} {outcome outcome' : Outcome P SettlementResult}
    (h : SettledWith db spot winners outcome) (h' : SettledWith db spot winners' outcome')
    (hsame : outcome.1.claims = outcome'.1.claims) {c : Claim P} (hc : c ∈ entries db spot.id) :
    c.id ∈ winners ↔ c.id ∈ winners' := by
  simp only [entries, List.mem_filter, decide_eq_true_eq] at hc
  obtain ⟨hmem, hspot, hsuccess⟩ := hc
  have hdrawn := List.map_inj_left.mp ((h.claims.symm.trans hsame).trans h'.claims) c hmem
  have hstatus := congrArg Claim.status hdrawn
  by_cases hw : c.id ∈ winners <;> by_cases hw' : c.id ∈ winners' <;>
    simp [Claim.drawn, Claim.withStatus, hspot, hsuccess, hw, hw'] at hstatus ⊢

lemma not_fairDraw_of_overflow (hkeyed : db.Keyed) (hdue : DrawDue db spot prizeCount)
    (hoverflow : maxLimit < (entries db spot.id).length) : ¬ FairDraw db spot prizeCount := by
  intro hfair
  obtain ⟨c, hc, houtside⟩ := exists_entry_outside_page hkeyed spot.id hoverflow
  obtain ⟨winners, hwinners, hwon⟩ := exists_winnerSet_of_entry hkeyed hc
    (k := min (max 1 prizeCount) (entries db spot.id).length) (by omega) (min_le_right _ _)
  obtain ⟨sample, hsample, hsettled⟩ := hfair.everyEntrant winners hwinners
  have hpage := settle_page hkeyed hdue hsample
  have hdrawn := (mem_winners_iff hsettled hpage rfl hc).mp hwon
  obtain ⟨row, hrow, hid⟩ := List.mem_map.mp hdrawn
  have hrowPage := hsample.subset _ _ (min_le_right _ _) hrow
  have hrowEntry := getSuccessfulClaimsForSpot_subset db spot.id hrowPage
  simp only [entries, List.mem_filter] at hrowEntry hc
  rw [eq_of_key_eq hkeyed.claimKeys hrowEntry.1 hc.1 hid] at hrowPage
  exact houtside hrowPage

/-- A due draw is fair over all its entrants exactly when they fit the page it is drawn from. -/
theorem fairDraw_iff_entries_fit_page (hkeyed : db.Keyed) (hdue : DrawDue db spot prizeCount) :
    FairDraw db spot prizeCount ↔ (entries db spot.id).length ≤ maxLimit := by
  constructor
  · intro hfair
    by_contra hoverflow
    exact not_fairDraw_of_overflow hkeyed hdue (by omega) hfair
  · intro hfits
    have hlength : (db.getSuccessfulClaimsForSpot spot.id).length = (entries db spot.id).length := by
      rw [length_getSuccessfulClaimsForSpot]
      omega
    refine ⟨fun sample hsample => ?_, fun winners hwinners => ?_, fun sample e he => ?_⟩
    · have hpage := settle_page hkeyed hdue hsample
      rw [hlength] at hpage
      exact ⟨_, isWinnerSet_page hkeyed hsample (hlength ▸ min_le_right _ _), hpage⟩
    · refine ⟨chooseIds winners, chooseIds_isSampler winners, ?_⟩
      have hpage := settle_page hkeyed hdue (chooseIds_isSampler winners)
      rw [hlength] at hpage
      exact hpage.congr (chooseIds_page_perm hkeyed hfits hwinners)
    · exact settle_rolls_back hdue e he

/-- An ended Prizedraw with `n` entries and one prize. -/
def raffle (n : ℕ) : Db Unit where
  now := 10000
  users := (List.range (n + 1)).map fun i => { id := i + 1, status := .active }
  spots := [raffleSpot]
  claims := (List.range n).map raffleEntry
  claimCodes := []
  claimCodeAttempts := []
  trans := []
  claimSeq := n
  claimCodeSeq := 0
  transSeq := 0
  userBindings := []
  locationBehavior := fun _ => none
  locationSuspicion := fun _ => none
where
  raffleSpot : Spot Unit :=
    { id := 1, createdBy := 1, depositAddress := "NQ07 DEPOSIT", position := some (), radius := 100,
      claimDuration := 0, maxClaimsPerUser := 1, maxTotalClaims := 0, usePassword := false,
      totalValue := 100000000, creationFee := 0, startsAt := some 1000, endsAt := 3600,
      status := .published, cancellationStartedAt := none, prizeCount := some 1 }
  raffleEntry (i : ℕ) : Claim Unit :=
    { id := i + 1, spotId := 1, recipient := i + 2, payoutAddress := some "NQ07 PAYOUT", position := (),
      accuracy := 1, status := .success, claimedAt := 2000, updatedAt := 2000 }

lemma raffle_keyed (n : ℕ) : (raffle n).Keyed where
  spotKeys := by simp [raffle]
  claimKeys := by
    simp only [raffle, List.map_map]
    exact List.nodup_range.map fun a b h => by simpa [raffle.raffleEntry] using h
  claimFresh := by
    intro c hc
    simp only [raffle, List.mem_map, List.mem_range] at hc
    obtain ⟨i, hi, rfl⟩ := hc
    exact ⟨Nat.succ_pos i, hi⟩
  codeKeys := by simp [raffle]
  codeFresh := by simp [raffle]
  transKeys := by simp [raffle]
  transFresh := by simp [raffle]

lemma raffle_drawDue (n : ℕ) : DrawDue (raffle n) raffle.raffleSpot 1 where
  found := rfl
  published := rfl
  prizedraw := rfl
  ready := ⟨"spot_ended", rfl⟩

lemma raffle_entries_length (n : ℕ) : (entries (raffle n) raffle.raffleSpot.id).length = n := by
  have hall : entries (raffle n) raffle.raffleSpot.id = (raffle n).claims := by
    refine List.filter_eq_self.mpr fun c hc => ?_
    simp only [raffle, List.mem_map] at hc
    obtain ⟨i, -, rfl⟩ := hc
    rfl
  rw [hall]
  simp [raffle]

theorem fairDraw_iff_entries_fit_page_raffle :
    FairDraw (raffle 3) raffle.raffleSpot 1 ↔ (entries (raffle 3) raffle.raffleSpot.id).length ≤ maxLimit :=
  fairDraw_iff_entries_fit_page (raffle_keyed 3) (raffle_drawDue 3)

/-- With 501 entries the last one cannot win. -/
theorem raffle_of_501_unfair : ¬ FairDraw (raffle 501) raffle.raffleSpot 1 := by
  refine not_fairDraw_of_overflow (raffle_keyed 501) (raffle_drawDue 501) ?_
  rw [raffle_entries_length]
  decide

end NimHunt
