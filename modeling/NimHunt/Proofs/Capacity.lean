import NimHunt.Proofs.RecoveryFlow

/-!
# Capacity

A standard Spot has at most as many SUCCESS claims as places, and nobody waits on it once it is full; a Prizedraw with
a limit has at most as many entries before its draw.  A claim on a Spot without a duration is PENDING only inside the
transaction that decides it, so the invariant leaves out one claim at a time.
-/

namespace NimHunt

open Lib Relation

variable {P : Type}

section Counts

/-- Claims that take part in a draw, or still may. -/
def Db.entryCount (db : Db P) (spotId : ℕ) : ℕ :=
  db.claims.countP fun c => c.spotId = spotId ∧ (c.status = .success ∨ c.status = .pending)

variable {db db' : Db P} {spotId : ℕ}

lemma entryCount_eq (db : Db P) (spotId : ℕ) : db.entryCount spotId =
    db.countClaimsByStatusForSpot spotId .pending + db.countClaimsByStatusForSpot spotId .success := by
  unfold Db.entryCount Db.countClaimsByStatusForSpot
  induction db.claims with
  | nil => rfl
  | cons c claims ih =>
    rw [List.countP_cons, List.countP_cons, List.countP_cons, ih]
    by_cases hof : c.spotId = spotId
    · cases hstatus : c.status <;> simp [hof] <;> omega
    · simp [hof]

/-- The capacity of every Spot, but for the claims a transaction is still deciding. -/
structure Capped (undecided : ℕ → Prop) (db : Db P) : Prop where
  placed : ∀ c ∈ db.claims, ∃ spot, db.getSpot c.spotId = some spot ∧ spot.status ≠ .draft
  checked : ∀ id spot, db.getSpot id = some spot → SpotChecked spot
  instant : ∀ c ∈ db.claims, c.status = .pending → ∀ spot, db.getSpot c.spotId = some spot → spot.prizeCount = none →
    spot.claimDuration ≠ 0 ∨ undecided c.id
  success : ∀ id spot, db.getSpot id = some spot → spot.prizeCount = none →
    db.countClaimsByStatusForSpot id .success ≤ spot.maxTotalClaims
  full : ∀ id spot, db.getSpot id = some spot → spot.prizeCount = none →
    db.countClaimsByStatusForSpot id .success = spot.maxTotalClaims →
    ∀ c ∈ db.claims, c.spotId = id → c.status = .pending → undecided c.id
  entries : ∀ id spot, db.getSpot id = some spot → spot.prizeCount.isSome = true → 0 < spot.maxTotalClaims →
    spot.status = .published → db.entryCount id ≤ spot.maxTotalClaims

variable {undecided undecided' : ℕ → Prop}

/-- No claim of a standard Spot turns SUCCESS or PENDING, and no draw that is to come gets entries. -/
lemma Capped.shrinks (h : Capped undecided db) (hspots : db'.spots = db.spots)
    (hkept : ∀ c' ∈ db'.claims, ∃ c ∈ db.claims, c'.spotId = c.spotId ∧
      (c'.status = .pending → (∃ spot, db.getSpot c.spotId = some spot ∧ spot.prizeCount.isSome = true) ∨
        c.status = .pending ∧ (undecided c.id → undecided' c'.id)))
    (hsuccess : ∀ id spot, db.getSpot id = some spot → spot.prizeCount = none →
      db'.countClaimsByStatusForSpot id .success ≤ db.countClaimsByStatusForSpot id .success)
    (hentries : ∀ id spot, db.getSpot id = some spot → spot.prizeCount.isSome = true → spot.status = .published →
      db'.entryCount id ≤ db.entryCount id) : Capped undecided' db' := by
  have hget := @getSpot_of_spots _ db db' hspots
  have hwaited : ∀ c' ∈ db'.claims, c'.status = .pending → ∀ spot, db.getSpot c'.spotId = some spot →
      spot.prizeCount = none → ∃ c ∈ db.claims, c'.spotId = c.spotId ∧ c.status = .pending ∧
        (undecided c.id → undecided' c'.id) := by
    intro c' hc' hpending spot hspot hstandard
    obtain ⟨c, hc, hof, hrow⟩ := hkept c' hc'
    cases hrow hpending with
    | inr hwaits => exact ⟨c, hc, hof, hwaits⟩
    | inl hdraw =>
      obtain ⟨found, hfound, hprize⟩ := hdraw
      rw [hof, hfound] at hspot
      rw [Option.some.inj hspot, hstandard] at hprize
      cases hprize
  refine ⟨?_, ?_, ?_, ?_, ?_, ?_⟩
  · intro c' hc'
    obtain ⟨c, hc, hof, -⟩ := hkept c' hc'
    rw [hof, hget]
    exact h.placed c hc
  · intro id spot hspot
    exact h.checked id spot (hget id ▸ hspot)
  · intro c' hc' hpending spot hspot hstandard
    rw [hget] at hspot
    obtain ⟨c, hc, hof, hbefore, hundecided⟩ := hwaited c' hc' hpending spot hspot hstandard
    exact (h.instant c hc hbefore spot (hof ▸ hspot) hstandard).imp_right hundecided
  · intro id spot hspot hstandard
    rw [hget] at hspot
    exact (hsuccess id spot hspot hstandard).trans (h.success id spot hspot hstandard)
  · intro id spot hspot hstandard hfull c' hc' hid hpending
    rw [hget] at hspot
    obtain ⟨c, hc, hof, hbefore, hundecided⟩ := hwaited c' hc' hpending spot (hid ▸ hspot) hstandard
    have hle := h.success id spot hspot hstandard
    have hless := hsuccess id spot hspot hstandard
    exact hundecided (h.full id spot hspot hstandard (by omega) c hc (hof ▸ hid) hbefore)
  · intro id spot hspot hprizedraw hlimited hpublished
    rw [hget] at hspot
    exact (hentries id spot hspot hprizedraw hpublished).trans (h.entries id spot hspot hprizedraw hlimited hpublished)

/-- Statuses but SUCCESS and PENDING fill no place. -/
lemma entryCount_updateClaimStatus_le (db : Db P) (sel : Claim P → Bool) {status : ClaimStatus}
    (hsuccess : status ≠ .success) (hpending : status ≠ .pending) (id : ℕ) :
    (db.updateClaimStatus sel status).entryCount id ≤ db.entryCount id := by
  unfold Db.entryCount
  apply countP_updateWhere_le
  intro c _ _ hcounted
  cases (of_decide_eq_true hcounted).2 with
  | inl h => exact absurd h hsuccess
  | inr h => exact absurd h hpending

lemma Capped.failedRows (h : Capped undecided db) (sel : Claim P → Bool)
    (hleft : ∀ c ∈ db.claims, sel c = false → undecided c.id → undecided' c.id) :
    Capped undecided' (db.updateClaimStatus sel .failed) := by
  have hfailed : ClaimStatus.failed ≠ .success := nofun
  have hnone : ClaimStatus.failed ≠ .pending := nofun
  refine h.shrinks rfl ?_ (fun id _ _ _ => success_updateClaimStatus_le db sel hfailed id)
    fun id _ _ _ _ => entryCount_updateClaimStatus_le db sel hfailed hnone id
  intro c' hc'
  obtain ⟨c, hc, hrow⟩ := mem_updateWhere.mp hc'
  by_cases hsel : sel c = true
  · rw [if_pos hsel] at hrow
    rw [← hrow]
    exact ⟨c, hc, rfl, nofun⟩
  · rw [if_neg hsel] at hrow
    rw [← hrow]
    exact ⟨c, hc, rfl, fun hpending => .inr ⟨hpending, hleft c hc (Bool.not_eq_true _ ▸ hsel)⟩⟩

/-- The claims stay as they are. -/
lemma Capped.sameClaims (h : Capped undecided db) (hspots : db'.spots = db.spots) (hclaims : db'.claims = db.claims) :
    Capped undecided db' := by
  apply h.shrinks hspots
  · intro c hc
    exact ⟨c, hclaims ▸ hc, rfl, fun hpending => .inr ⟨hpending, id⟩⟩
  · intro id _ _ _
    unfold Db.countClaimsByStatusForSpot
    rw [hclaims]
  · intro id _ _ _ _
    unfold Db.entryCount
    rw [hclaims]

/-- A full Spot with a duration has no claim that waits any more. -/
lemma failPendingStandard_pending {spot : Spot P} (hspot : db.getSpot spotId = some spot)
    (hstandard : spot.prizeCount = none) (hlong : spot.claimDuration ≠ 0) (hlimited : 0 < spot.maxTotalClaims)
    (hfull : spot.maxTotalClaims ≤ db.countClaimsByStatusForSpot spotId .success) :
    ∀ c ∈ (db.failPendingStandardDurationClaimsIfCapacityFull spotId).claims, c.spotId = spotId → c.status ≠ .pending := by
  unfold Db.failPendingStandardDurationClaimsIfCapacityFull
  rw [hspot]
  dsimp only
  rw [if_neg (by rw [hstandard]; nofun), if_neg (by omega), if_neg (by omega)]
  intro c' hc' hof hpending
  obtain ⟨c, hc, hrow⟩ := mem_updateWhere.mp hc'
  by_cases hsel : decide (c.spotId = spotId ∧ c.status = .pending) = true
  · rw [if_pos hsel] at hrow
    rw [← hrow] at hpending
    cases hpending
  · rw [if_neg hsel] at hrow
    rw [← hrow] at hof hpending
    exact hsel (decide_eq_true ⟨hof, hpending⟩)

lemma Capped.failPendingStandard (h : Capped undecided db) (id : ℕ) :
    Capped undecided (db.failPendingStandardDurationClaimsIfCapacityFull id) := by
  unfold Db.failPendingStandardDurationClaimsIfCapacityFull
  cases db.getSpot id with
  | none => exact h
  | some spot =>
    dsimp only
    split_ifs
    · exact h
    · exact h
    · exact h
    · exact h.failedRows _ fun _ _ _ hundecided => hundecided

lemma entryCount_failPendingStandard_le (db : Db P) (id other : ℕ) :
    (db.failPendingStandardDurationClaimsIfCapacityFull id).entryCount other ≤ db.entryCount other := by
  have hfailed : ClaimStatus.failed ≠ .success := nofun
  have hnone : ClaimStatus.failed ≠ .pending := nofun
  unfold Db.failPendingStandardDurationClaimsIfCapacityFull
  cases db.getSpot id with
  | none => exact le_refl _
  | some spot =>
    dsimp only
    split_ifs
    · exact le_refl _
    · exact le_refl _
    · exact le_refl _
    · exact entryCount_updateClaimStatus_le db _ hfailed hnone other

/-- A claim that waits turns SUCCESS, with room on its Spot. -/
lemma Capped.succeeded {claim : Claim P} {spot : Spot P} {coded : Db P} (h : Capped undecided db)
    (hkeys : (db.claims.map Claim.id).Nodup) (hclaim : db.getClaim claim.id = some claim)
    (hpending : claim.status = .pending) (hspot : db.getSpot claim.spotId = some spot) (hroom : hasRoom db spot)
    (hcoded : coded.claims = db.claims) (hspots : coded.spots = db.spots) :
    Capped (fun id => undecided id ∧ id ≠ claim.id) ((coded.setClaimStatusToSuccess
      claim.id).failPendingStandardDurationClaimsIfCapacityFull claim.spotId) := by
  have honly : ∀ c ∈ db.claims, c.id = claim.id → c = claim := by
    intro c hc hid
    have hfound := (find?_key_eq_some hkeys).mpr ⟨hc, hid⟩
    exact Option.some.inj (hfound.symm.trans hclaim)
  have hget : ∀ id, ((coded.setClaimStatusToSuccess
      claim.id).failPendingStandardDurationClaimsIfCapacityFull claim.spotId).getSpot id = db.getSpot id := by
    intro id
    rw [(sameGround_failPendingStandard _ _).getSpot]
    exact getSpot_of_spots hspots id
  have hrows : ∀ c' ∈ ((coded.setClaimStatusToSuccess
      claim.id).failPendingStandardDurationClaimsIfCapacityFull claim.spotId).claims, ∃ c ∈ db.claims,
        c'.spotId = c.spotId ∧ (c'.status = .pending → c' = c ∧ c.id ≠ claim.id) := by
    have hmid : ∀ c' ∈ (coded.setClaimStatusToSuccess claim.id).claims, ∃ c ∈ db.claims,
        c'.spotId = c.spotId ∧ (c'.status = .pending → c' = c ∧ c.id ≠ claim.id) := by
      intro c' hc'
      obtain ⟨c, hc, hrow⟩ := mem_updateWhere.mp hc'
      rw [hcoded] at hc
      by_cases hid : c.id = claim.id
      · rw [if_pos (decide_eq_true hid)] at hrow
        rw [← hrow]
        exact ⟨c, hc, rfl, nofun⟩
      · rw [if_neg fun hsel => hid (of_decide_eq_true hsel)] at hrow
        rw [← hrow]
        exact ⟨c, hc, rfl, fun _ => ⟨rfl, hid⟩⟩
    unfold Db.failPendingStandardDurationClaimsIfCapacityFull
    cases (coded.setClaimStatusToSuccess claim.id).getSpot claim.spotId with
    | none => exact hmid
    | some found =>
      dsimp only
      split_ifs
      · exact hmid
      · exact hmid
      · exact hmid
      · intro c'' hc''
        obtain ⟨c', hc', hrow⟩ := mem_updateWhere.mp hc''
        obtain ⟨c, hc, hof, hkept⟩ := hmid c' hc'
        split_ifs at hrow
        · rw [← hrow]
          exact ⟨c, hc, hof, nofun⟩
        · rw [← hrow]
          exact ⟨c, hc, hof, hkept⟩
  have hclaim' : coded.getClaim claim.id = some claim := by
    unfold Db.getClaim at hclaim ⊢
    rw [hcoded]
    exact hclaim
  have hmid : ∀ id, (coded.setClaimStatusToSuccess claim.id).countClaimsByStatusForSpot id .success ≤
      db.countClaimsByStatusForSpot id .success + if claim.spotId = id then 1 else 0 := by
    intro id
    have hone := success_setClaimStatusToSuccess_le (hcoded ▸ hkeys) hclaim' id
    unfold Db.countClaimsByStatusForSpot at hone ⊢
    rw [hcoded] at hone
    exact hone
  have hafter : ∀ id, ((coded.setClaimStatusToSuccess claim.id).failPendingStandardDurationClaimsIfCapacityFull
      claim.spotId).countClaimsByStatusForSpot id .success ≤
        (coded.setClaimStatusToSuccess claim.id).countClaimsByStatusForSpot id .success := fun id =>
    success_failPendingStandard_le _ claim.spotId id
  have hsame : ∀ id other, db.getSpot id = some other → claim.spotId = id → spot = other := by
    intro id other hother hof
    rw [← hof] at hother
    exact Option.some.inj (hspot.symm.trans hother)
  have hfree : spot.prizeCount = none → db.countClaimsByStatusForSpot claim.spotId .success < spot.maxTotalClaims := by
    intro hstandard
    have hlimited : 1 ≤ spot.maxTotalClaims := (h.checked _ spot hspot).finite hstandard
    obtain hprize | hunlimited | hfree := hroom
    · rw [hstandard] at hprize
      cases hprize
    · omega
    · rw [getSpot_id hspot] at hfree
      exact hfree
  refine ⟨?_, ?_, ?_, ?_, ?_, ?_⟩
  · intro c' hc'
    obtain ⟨c, hc, hof, -⟩ := hrows c' hc'
    rw [hof, hget]
    exact h.placed c hc
  · intro id other hother
    exact h.checked id other (hget id ▸ hother)
  · intro c' hc' hwaits other hother hstandard
    obtain ⟨c, hc, -, hkept⟩ := hrows c' hc'
    obtain ⟨heq, hne⟩ := hkept hwaits
    rw [hget, heq] at hother
    rw [heq]
    exact (h.instant c hc (heq ▸ hwaits) other hother hstandard).imp_right fun hundecided => ⟨hundecided, hne⟩
  · intro id other hother hstandard
    rw [hget] at hother
    have hless := hafter id
    have hone := hmid id
    have hle := h.success id other hother hstandard
    by_cases hof : claim.spotId = id
    · rw [if_pos hof] at hone
      have hthis := hsame id other hother hof
      have hroom := hfree (hthis ▸ hstandard)
      rw [hof, hthis] at hroom
      omega
    · rw [if_neg hof] at hone
      omega
  · intro id other hother hstandard hfull c' hc' hid hwaits
    rw [hget] at hother
    obtain ⟨c, hc, hof', hkept⟩ := hrows c' hc'
    obtain ⟨heq, hne⟩ := hkept hwaits
    rw [heq] at hid hwaits ⊢
    by_cases hof : claim.spotId = id
    · have hthis := hsame id other hother hof
      by_cases hlong : spot.claimDuration = 0
      · have hinstant := h.instant c hc hwaits spot (by rw [hid, ← hof]; exact hspot) (hthis ▸ hstandard)
        exact ⟨hinstant.resolve_left (not_not_intro hlong), hne⟩
      · have hroom := hfree (hthis ▸ hstandard)
        have hspot' : (coded.setClaimStatusToSuccess claim.id).getSpot claim.spotId = some spot :=
          (getSpot_of_spots hspots claim.spotId).trans hspot
        have hle := hafter id
        have hnone := failPendingStandard_pending hspot' (hthis ▸ hstandard) hlong (by omega)
          (by rw [hof, hthis, ← hfull]; exact hle) c' hc' (by rw [heq, hid, hof])
        rw [heq] at hnone
        exact absurd hwaits hnone
    · have hless := hafter id
      have hone := hmid id
      rw [if_neg hof] at hone
      have hle := h.success id other hother hstandard
      exact ⟨h.full id other hother hstandard (by omega) c hc hid hwaits, hne⟩
  · intro id other hother hprizedraw hlimited hpublished
    rw [hget] at hother
    refine le_trans ?_ (h.entries id other hother hprizedraw hlimited hpublished)
    refine (entryCount_failPendingStandard_le _ claim.spotId id).trans ?_
    unfold Db.entryCount
    rw [← hcoded]
    apply countP_updateWhere_le
    intro c hc hsel hcounted
    have hthis := honly c (hcoded ▸ hc) (of_decide_eq_true hsel)
    have hid : c.spotId = id := (of_decide_eq_true hcounted).1
    rw [hthis] at hid ⊢
    exact decide_eq_true ⟨hid, .inr hpending⟩

/-- A row of a Spot that has room is inserted. -/
lemma Capped.entered {spot : Spot P} {userId : ℕ} {payoutAddress : Option Address} {position : P}
    (h : Capped undecided db) (hpublic : db.getPublicSpot spot.id = some spot)
    (hcapacity : db.spotHasPublicClaimCapacity spot = true) (hless : ∀ id, undecided id → undecided' id)
    (hwaits : spot.prizeCount = none → spot.claimDuration ≠ 0 ∨ undecided' (db.claimSeq + 1)) :
    Capped undecided' (db.addClaim (db.freshClaim spot.id userId payoutAddress position)) := by
  have hspot : db.getSpot spot.id = some spot := getPublicSpot_getSpot hpublic
  have hpublished : spot.status = .published := (of_decide_eq_true (Option.filter_eq_some_iff.mp hpublic).2).1
  have hroom : ¬ (0 < spot.maxTotalClaims ∧ spot.maxTotalClaims ≤
      if spot.prizeCount.isSome then db.countClaimsByStatusForSpot spot.id .success +
        db.countClaimsByStatusForSpot spot.id .pending else db.countClaimsByStatusForSpot spot.id .success) := by
    intro hfull
    unfold Db.spotHasPublicClaimCapacity at hcapacity
    dsimp only at hcapacity
    rw [if_pos hfull] at hcapacity
    cases hcapacity
  have hsuccess : ∀ id, (db.addClaim (db.freshClaim spot.id userId payoutAddress position)).countClaimsByStatusForSpot
      id .success = db.countClaimsByStatusForSpot id .success := by
    intro id
    unfold Db.countClaimsByStatusForSpot Db.addClaim Db.freshClaim
    rw [List.countP_append]
    simp
  have hentries : ∀ id, (db.addClaim (db.freshClaim spot.id userId payoutAddress position)).entryCount id =
      db.entryCount id + if spot.id = id then 1 else 0 := by
    intro id
    unfold Db.entryCount Db.addClaim Db.freshClaim
    rw [List.countP_append]
    by_cases hid : spot.id = id
    · simp [hid]
    · simp [hid]
  have hrow : ∀ c' ∈ (db.addClaim (db.freshClaim spot.id userId payoutAddress position)).claims,
      c' ∈ db.claims ∨ c' = db.freshClaim spot.id userId payoutAddress position := fun c' hc' =>
    (List.mem_append.mp hc').imp_right fun hnew => List.mem_singleton.mp hnew
  refine ⟨?_, h.checked, ?_, ?_, ?_, ?_⟩
  · intro c' hc'
    cases hrow c' hc' with
    | inl hold => exact h.placed c' hold
    | inr hnew =>
      rw [hnew]
      refine ⟨spot, hspot, ?_⟩
      rw [hpublished]
      nofun
  · intro c' hc' hpending other hother hstandard
    cases hrow c' hc' with
    | inl hold => exact (h.instant c' hold hpending other hother hstandard).imp_right (hless c'.id)
    | inr hnew =>
      rw [hnew] at hother ⊢
      have hthis : spot = other := Option.some.inj (hspot.symm.trans hother)
      rw [← hthis] at hstandard ⊢
      exact hwaits hstandard
  · intro id other hother hstandard
    rw [hsuccess]
    exact h.success id other hother hstandard
  · intro id other hother hstandard hfull c' hc' hid hpending
    rw [hsuccess] at hfull
    cases hrow c' hc' with
    | inl hold => exact hless c'.id (h.full id other hother hstandard hfull c' hold hid hpending)
    | inr hnew =>
      -- The Spot had room, so it is not full.
      rw [hnew] at hid
      have hthis : spot = other := by
        have hof : spot.id = id := hid
        rw [← hof] at hother
        exact Option.some.inj (hspot.symm.trans hother)
      rw [hthis, if_neg (by rw [hstandard]; nofun)] at hroom
      have hlimited : 1 ≤ other.maxTotalClaims := (h.checked id other hother).finite hstandard
      rw [getSpot_id hother, hfull] at hroom
      exact absurd ⟨hlimited, le_refl _⟩ hroom
  · intro id other hother hprizedraw hlimited hopen
    rw [hentries]
    by_cases hid : spot.id = id
    · rw [if_pos hid]
      have hthis : spot = other := Option.some.inj (hspot.symm.trans (hid.symm ▸ hother))
      rw [hthis, if_pos hprizedraw, getSpot_id hother] at hroom
      have heq := entryCount_eq db id
      omega
    · rw [if_neg hid]
      exact h.entries id other hother hprizedraw hlimited hopen

/-- A heartbeat moves a claim that waits. -/
lemma Capped.moved {claim : Claim P} {position : P} {score : ℚ} {status : ClaimStatus} (h : Capped undecided db)
    (hkeys : (db.claims.map Claim.id).Nodup) (hclaim : db.getClaim claim.id = some claim)
    (hpending : claim.status = .pending) (hstatus : status ≠ .success) :
    Capped undecided (db.modifyClaimLocationScore claim.id position score status) := by
  have hclaims := modifyClaimLocationScore_claims db claim.id position score status
  have honly : ∀ c ∈ db.claims, c.id = claim.id → c = claim := by
    intro c hc hid
    have hfound := (find?_key_eq_some hkeys).mpr ⟨hc, hid⟩
    exact Option.some.inj (hfound.symm.trans hclaim)
  refine h.shrinks rfl ?_ ?_ ?_
  · intro c' hc'
    rw [hclaims] at hc'
    obtain ⟨c, hc, hrow⟩ := mem_updateWhere.mp hc'
    by_cases hid : c.id = claim.id
    · rw [if_pos (decide_eq_true hid)] at hrow
      rw [← hrow]
      exact ⟨c, hc, rfl, fun _ => .inr ⟨honly c hc hid ▸ hpending, id⟩⟩
    · rw [if_neg fun hsel => hid (of_decide_eq_true hsel)] at hrow
      rw [← hrow]
      exact ⟨c, hc, rfl, fun hwaits => .inr ⟨hwaits, fun hundecided => hundecided⟩⟩
  · intro id _ _ _
    unfold Db.countClaimsByStatusForSpot
    rw [hclaims]
    apply countP_updateWhere_le
    intro c _ _ hcounted
    exact absurd (of_decide_eq_true hcounted).2 hstatus
  · intro id _ _ _ _
    unfold Db.entryCount
    rw [hclaims]
    apply countP_updateWhere_le
    intro c hc hsel hcounted
    have hid : c.spotId = id := (of_decide_eq_true hcounted).1
    rw [honly c hc (of_decide_eq_true hsel)] at hid ⊢
    exact decide_eq_true ⟨hid, .inr hpending⟩

end Counts

section Writes

variable {cfg : Settings P} {db db' : Db P} {undecided undecided' : ℕ → Prop}

/-- Nobody's claim is undecided between two transactions. -/
abbrev Db.Capped (db : Db P) : Prop := NimHunt.Capped (fun _ => False) db

/-- A claim that enters a standard Spot waits there, or is undecided. -/
def capacityPermit (undecided : ℕ → Prop) : Permit P where
  enter db spot _ _ := spot.prizeCount = none → spot.claimDuration ≠ 0 ∨ undecided (db.claimSeq + 1)
  settle _ _ _ := True
  touch _ _ := True
  draw _ _ _ := True
  ban _ _ := True

lemma Capped.mono (h : Capped undecided db) (hless : ∀ id, undecided id → undecided' id) : Capped undecided' db := by
  refine h.shrinks rfl ?_ (fun _ _ _ _ => le_refl _) fun _ _ _ _ _ => le_refl _
  exact fun c hc => ⟨c, hc, rfl, fun hpending => .inr ⟨hpending, hless c.id⟩⟩

/-- No claim of this id waits. -/
def Db.Decided (db : Db P) (claimId : ℕ) : Prop :=
  ∀ c ∈ db.claims, c.id = claimId → c.status ≠ .pending

/-- The transaction ends with its claim decided. -/
lemma Capped.decided {claimId : ℕ} (h : Capped (· = claimId) db) (hdone : db.Decided claimId) : db.Capped := by
  refine h.shrinks rfl ?_ (fun _ _ _ _ => le_refl _) fun _ _ _ _ _ => le_refl _
  exact fun c hc => ⟨c, hc, rfl, fun hpending => .inr ⟨hpending, fun hid => hdone c hc hid hpending⟩⟩

lemma Capped.claimWrite (h : Capped undecided db) (hkeys : (db.claims.map Claim.id).Nodup)
    (hwrite : ClaimWrite (capacityPermit undecided).toWritePermit db db') : Capped undecided db' := by
  cases hwrite with
  | guarded => exact h.sameClaims rfl rfl
  | attempted => exact h.sameClaims rfl rfl
  | entered hpublic hcapacity hpermit => exact h.entered hpublic hcapacity (fun _ hundecided => hundecided) hpermit
  | failed => exact h.failedRows _ fun _ _ _ hundecided => hundecided
  | failedReleasing => exact (h.failedRows _ fun _ _ _ hundecided => hundecided).sameClaims rfl rfl
  | succeeded hclaim hpending hspot hroom hcode _ =>
    exact (h.succeeded hkeys hclaim hpending hspot hroom hcode.claims hcode.sameGround.spots).mono
      fun _ hundecided => hundecided.1
  | moved hclaim hpending hpermit =>
    apply h.moved hkeys hclaim hpending
    intro hsuccess
    rw [hsuccess] at hpermit
    exact hpermit.elim (fun hkept => nomatch hkept.1) fun hfailed => nomatch hfailed.1

lemma Capped.claimWrites (h : Capped undecided db) (hnumbered : Numbered db)
    (hwrites : ClaimWrites (capacityPermit undecided).toWritePermit db db') : Capped undecided db' := by
  induction hwrites with
  | refl => exact h
  | tail hbefore hwrite ih => exact ih.claimWrite (ClaimWrites.numbered hbefore hnumbered).keyed.claimKeys hwrite

/-- A Spot keeps its terms and does not open for a draw, or nobody has claimed it yet. -/
lemma Capped.spots (h : db.Capped) (hclaims : db'.claims = db.claims) (hheld : SpotsHeld db db')
    (hrow : ∀ id spot', db'.getSpot id = some spot' → SpotChecked spot' ∧
      ((∃ spot, db.getSpot id = some spot ∧ spot'.prizeCount = spot.prizeCount ∧
          spot'.maxTotalClaims = spot.maxTotalClaims ∧ spot'.claimDuration = spot.claimDuration ∧
          (spot'.status = .published → spot.status = .published)) ∨
        ∀ spot, db.getSpot id = some spot → spot.status = .draft)) : db'.Capped := by
  have hunclaimed : ∀ id, (∀ spot, db.getSpot id = some spot → spot.status = .draft) → ∀ c ∈ db.claims, c.spotId ≠ id := by
    intro id hdraft c hc hof
    obtain ⟨spot, hspot, hplaced⟩ := h.placed c hc
    rw [hof] at hspot
    exact hplaced (hdraft spot hspot)
  have hnone : ∀ id (p : Claim P → Prop) [DecidablePred p], (∀ c ∈ db.claims, c.spotId ≠ id) →
      (db.claims.countP fun c => c.spotId = id ∧ p c) = 0 := by
    intro id p _ hother
    rw [List.countP_eq_zero]
    intro c hc hcounted
    exact hother c hc (of_decide_eq_true hcounted).1
  have hsuccess : ∀ id, db'.countClaimsByStatusForSpot id .success = db.countClaimsByStatusForSpot id .success := by
    intro id
    unfold Db.countClaimsByStatusForSpot
    rw [hclaims]
  have hentries : ∀ id, db'.entryCount id = db.entryCount id := by
    intro id
    unfold Db.entryCount
    rw [hclaims]
  refine ⟨?_, fun id spot' hspot' => (hrow id spot' hspot').1, ?_, ?_, ?_, ?_⟩
  · intro c hc
    obtain ⟨spot, hspot, hplaced⟩ := h.placed c (hclaims ▸ hc)
    obtain ⟨spot', hspot', hplaced', -⟩ := hheld.held c.spotId spot hspot hplaced
    exact ⟨spot', hspot', hplaced'⟩
  · intro c hc hpending spot' hspot' hstandard
    rw [hclaims] at hc
    obtain ⟨-, ⟨spot, hspot, hprize, -, hduration, -⟩ | hdraft⟩ := hrow c.spotId spot' hspot'
    · rw [hduration]
      exact h.instant c hc hpending spot hspot (hprize ▸ hstandard)
    · exact absurd rfl (hunclaimed c.spotId hdraft c hc)
  · intro id spot' hspot' hstandard
    rw [hsuccess]
    obtain ⟨-, ⟨spot, hspot, hprize, hmax, -, -⟩ | hdraft⟩ := hrow id spot' hspot'
    · rw [hmax]
      exact h.success id spot hspot (hprize ▸ hstandard)
    · exact (hnone id _ (hunclaimed id hdraft)).le.trans (Nat.zero_le _)
  · intro id spot' hspot' hstandard hfull c hc hid
    rw [hclaims] at hc
    rw [hsuccess] at hfull
    obtain ⟨-, ⟨spot, hspot, hprize, hmax, -, -⟩ | hdraft⟩ := hrow id spot' hspot'
    · exact h.full id spot hspot (hprize ▸ hstandard) (hfull.trans hmax) c hc hid
    · exact absurd hid (hunclaimed id hdraft c hc)
  · intro id spot' hspot' hprizedraw hlimited hpublished
    rw [hentries]
    obtain ⟨-, ⟨spot, hspot, hprize, hmax, -, hopen⟩ | hdraft⟩ := hrow id spot' hspot'
    · rw [hmax] at hlimited ⊢
      exact h.entries id spot hspot (hprize ▸ hprizedraw) hlimited (hopen hpublished)
    · exact (hnone id _ (hunclaimed id hdraft)).le.trans (Nat.zero_le _)

/-- Spots are rewritten, and the rows that are keep their terms. -/
lemma Capped.updatedSpots (h : db.Capped) {sel : Spot P → Bool} {f : Spot P → Spot P} (hclaims : db'.claims = db.claims)
    (hspots : db'.spots = updateWhere sel f db.spots) (hid : ∀ s, (f s).id = s.id) (hheld : SpotsHeld db db')
    (hrow : ∀ s, db.getSpot s.id = some s → sel s = true → SpotChecked (f s) ∧
      (((f s).prizeCount = s.prizeCount ∧ (f s).maxTotalClaims = s.maxTotalClaims ∧
        (f s).claimDuration = s.claimDuration ∧ ((f s).status = .published → s.status = .published)) ∨
      s.status = .draft)) : db'.Capped := by
  apply h.spots hclaims hheld
  intro id spot' hspot'
  unfold Db.getSpot at hspot'
  rw [hspots, find?_updateWhere_key hid, Option.map_eq_some_iff] at hspot'
  obtain ⟨s, hs, hnext⟩ := hspot'
  have hfound : db.getSpot s.id = some s := (getSpot_id hs).symm ▸ hs
  have honly : ∀ spot, db.getSpot id = some spot → s = spot := fun spot hspot => Option.some.inj (hs.symm.trans hspot)
  by_cases hsel : sel s = true
  · rw [if_pos hsel] at hnext
    rw [← hnext]
    obtain ⟨hchecked, ⟨hprize, hmax, hduration, hopen⟩ | hdraft⟩ := hrow s hfound hsel
    · exact ⟨hchecked, .inl ⟨s, hs, hprize, hmax, hduration, hopen⟩⟩
    · exact ⟨hchecked, .inr fun spot hspot => honly spot hspot ▸ hdraft⟩
  · rw [if_neg hsel] at hnext
    rw [← hnext]
    exact ⟨h.checked id s hs, .inl ⟨s, hs, rfl, rfl, rfl, fun hopen => hopen⟩⟩

/-- The winners of a draw wait again, and everybody else who still waits fails. -/
lemma Capped.redrawn {spot : Spot P} {winners : List ℕ} (h : db.Capped) (hspot : db.getSpot spot.id = some spot)
    (hprizedraw : spot.prizeCount.isSome = true) :
    ((db.failPendingClaimsForSpot spot.id).markPrizedrawWinnersPending spot.id winners).1.Capped := by
  have hfailed : db.failPendingClaimsForSpot spot.id |>.Capped := h.failedRows _ fun _ _ _ hundecided => hundecided
  have hpending : ClaimStatus.pending ≠ .success := nofun
  refine hfailed.shrinks rfl ?_ (fun id _ _ _ => success_updateClaimStatus_le _ _ hpending id) ?_
  · intro c' hc'
    obtain ⟨c, hc, hrow⟩ := mem_updateWhere.mp hc'
    by_cases hsel : (decide (c.spotId = spot.id ∧ c.status = .success ∧ c.id ∈ winners ∧ 0 < c.id)) = true
    · rw [if_pos hsel] at hrow
      rw [← hrow]
      exact ⟨c, hc, rfl, fun _ => .inl ⟨spot, (of_decide_eq_true hsel).1 ▸ hspot, hprizedraw⟩⟩
    · rw [if_neg hsel] at hrow
      rw [← hrow]
      exact ⟨c, hc, rfl, fun hwaits => .inr ⟨hwaits, fun hundecided => hundecided⟩⟩
  · intro id other _ _ _
    unfold Db.entryCount
    apply countP_updateWhere_le
    intro c _ hsel hcounted
    exact decide_eq_true ⟨(of_decide_eq_true hcounted).1, .inl (of_decide_eq_true hsel).2.1⟩

/-- A payout makes a winner of a draw that is over SUCCESS. -/
lemma Capped.paid {claim : Claim P} (h : db.Capped) (hkeys : (db.claims.map Claim.id).Nodup)
    (hclaim : db.getClaim claim.id = some claim) (hdrawn : db.PrizedrawIsDrawn claim.spotId) :
    (db.setClaimStatusToSuccess claim.id).Capped := by
  obtain ⟨drawn, hspot, hprizedraw, -, hover⟩ := hdrawn
  have honly : ∀ id other, db.getSpot id = some other → claim.spotId = id → drawn = other := by
    intro id other hother hof
    rw [← hof] at hother
    exact Option.some.inj (hspot.symm.trans hother)
  refine h.shrinks rfl ?_ ?_ ?_
  · intro c' hc'
    obtain ⟨c, hc, hrow⟩ := mem_updateWhere.mp hc'
    by_cases hid : c.id = claim.id
    · rw [if_pos (decide_eq_true hid)] at hrow
      rw [← hrow]
      exact ⟨c, hc, rfl, nofun⟩
    · rw [if_neg fun hsel => hid (of_decide_eq_true hsel)] at hrow
      rw [← hrow]
      exact ⟨c, hc, rfl, fun hwaits => .inr ⟨hwaits, fun hundecided => hundecided⟩⟩
  · intro id other hother hstandard
    have hone := success_setClaimStatusToSuccess_le hkeys hclaim id
    by_cases hof : claim.spotId = id
    · rw [honly id other hother hof, hstandard] at hprizedraw
      cases hprizedraw
    · rw [if_neg hof] at hone
      exact hone
  · intro id other hother _ hpublished
    unfold Db.entryCount
    apply countP_updateWhere_le
    intro c hc hsel hcounted
    have hfound := (find?_key_eq_some hkeys).mpr ⟨hc, of_decide_eq_true hsel⟩
    have hsame : c = claim := Option.some.inj (hfound.symm.trans hclaim)
    have hof : c.spotId = id := (of_decide_eq_true hcounted).1
    rw [hsame] at hof
    rw [honly id other hother hof] at hover
    exact absurd hpublished hover

lemma Capped.dbWrite (h : db.Capped) (hnumbered : Numbered db)
    (hwrite : DbWrite cfg (capacityPermit fun _ => False) db db') : db'.Capped := by
  have hheld : SpotsHeld db db' := hwrite.spotsHeld
  have hkeys : (db.claims.map Claim.id).Nodup := hnumbered.keyed.claimKeys
  have hkept : ∀ s, db.getSpot s.id = some s → ∀ s' : Spot P, s'.prizeCount = s.prizeCount →
      s'.maxTotalClaims = s.maxTotalClaims → s'.usePassword = s.usePassword → SpotChecked s' := by
    intro s hs s' hprize hmax hcoded
    have hchecked := h.checked s.id s hs
    exact ⟨by rw [hprize, hmax]; exact hchecked.finite, by rw [hcoded, hprize]; exact hchecked.uncoded⟩
  cases hwrite with
  | claim hwrite => exact h.claimWrite hkeys hwrite
  | @drafted spot hid hdraft _ hchecked =>
    refine h.spots rfl hheld ?_
    intro id spot' hspot'
    unfold Db.getSpot at hspot' ⊢
    dsimp only at hspot'
    rw [List.find?_append] at hspot'
    cases hold : db.spots.find? fun s => s.id = id with
    | some s =>
      rw [hold] at hspot'
      have hsame : s = spot' := Option.some.inj hspot'
      exact ⟨hsame ▸ h.checked id s hold, .inl ⟨s, rfl, by rw [hsame], by rw [hsame], by rw [hsame], hsame ▸ fun ho => ho⟩⟩
    | none =>
      rw [hold, Option.none_or] at hspot'
      have hnew : spot' = spot := List.mem_singleton.mp (List.mem_of_find?_eq_some hspot')
      exact ⟨hnew ▸ hchecked, .inr nofun⟩
  | @edited spot next hspot hdraft hsame hchecked =>
    refine h.updatedSpots rfl (edited_spots hsame.id db.spots) (fun _ => rfl) hheld ?_
    intro s hs hsel
    have hthis : s = spot := by
      rw [of_decide_eq_true hsel] at hs
      exact Option.some.inj (hs.symm.trans hspot)
    have hnext := hchecked (h.checked spot.id spot hspot)
    exact ⟨⟨hnext.finite, hnext.uncoded⟩, .inr (hthis ▸ hdraft)⟩
  | undrafted _ _ _ hunclaimed =>
    refine h.spots (deleteSpot_claims hunclaimed) hheld ?_
    intro id spot' hspot'
    obtain ⟨-, hspot⟩ := getSpot_of_deleteSpot hspot'
    exact ⟨h.checked id spot' hspot, .inl ⟨spot', hspot, rfl, rfl, rfl, fun hopen => hopen⟩⟩
  | published =>
    refine h.updatedSpots rfl rfl (fun _ => rfl) hheld ?_
    intro s hs hsel
    exact ⟨hkept s hs _ rfl rfl rfl, .inr (of_decide_eq_true hsel).2.1⟩
  | marked =>
    refine h.updatedSpots rfl rfl (fun _ => rfl) hheld ?_
    exact fun s hs _ => ⟨hkept s hs _ rfl rfl rfl, .inl ⟨rfl, rfl, rfl, fun hopen => hopen⟩⟩
  | closed _ hcloses _ =>
    refine h.updatedSpots rfl rfl (fun _ => rfl) hheld ?_
    exact fun s hs _ => ⟨hkept s hs _ rfl rfl rfl, .inl ⟨rfl, rfl, rfl, fun hopen => absurd hopen hcloses.final.2⟩⟩
  | @drawn spot winners hspot _ hprizedraw _ _ =>
    refine (h.redrawn hspot hprizedraw).updatedSpots rfl rfl (fun _ => rfl)
      (.modifySpotStatus _ spot.id (by decide) (by decide)) ?_
    exact fun s hs _ => ⟨hkept s hs _ rfl rfl rfl, .inl ⟨rfl, rfl, rfl, nofun⟩⟩
  | paid hclaim hdrawn => exact h.paid hkeys hclaim hdrawn
  | banned => exact h.failedRows _ fun _ _ _ hundecided => hundecided
  | clock => exact h.sameClaims rfl rfl
  | users => exact h.sameClaims rfl rfl
  | bound => exact h.sameClaims rfl rfl
  | bookkept => exact h.sameClaims rfl rfl
  | ledger => exact h.sameClaims rfl rfl
  | codesDropped => exact h.sameClaims rfl rfl
  | codeCreated => exact h.sameClaims rfl rfl

lemma Capped.dbWrites (h : db.Capped) (hnumbered : Numbered db)
    (hwrites : DbWrites cfg (capacityPermit fun _ => False) db db') : db'.Capped := by
  induction hwrites with
  | refl => exact h
  | tail hbefore hwrite ih => exact ih.dbWrite (DbWrites.numbered hbefore hnumbered) hwrite

end Writes

section Route

variable {cfg : Settings P} {db : Db P} {claim : Claim P} {spot : Spot P} {claimId : ℕ} {req : ClaimRequest P}

lemma decided_modifyClaimStatus (db : Db P) (claimId : ℕ) {status : ClaimStatus} (hstatus : status ≠ .pending) :
    (db.modifyClaimStatus claimId status).Decided claimId := by
  intro c' hc' hid
  obtain ⟨c, -, hrow⟩ := mem_updateWhere.mp hc'
  by_cases hsel : decide (c.id = claimId) = true
  · rw [if_pos hsel] at hrow
    rw [← hrow]
    exact hstatus
  · rw [if_neg hsel] at hrow
    rw [← hrow] at hid
    exact absurd (decide_eq_true hid) hsel

lemma Db.Decided.failPendingStandard (h : db.Decided claimId) (spotId : ℕ) :
    (db.failPendingStandardDurationClaimsIfCapacityFull spotId).Decided claimId := by
  unfold Db.failPendingStandardDurationClaimsIfCapacityFull
  cases db.getSpot spotId with
  | none => exact h
  | some spot =>
    dsimp only
    split_ifs
    · exact h
    · exact h
    · exact h
    · intro c' hc' hid
      obtain ⟨c, hc, hrow⟩ := mem_updateWhere.mp hc'
      split_ifs at hrow
      · rw [← hrow]
        nofun
      · rw [← hrow] at hid ⊢
        exact h c hc hid

lemma originalPromoter_decides (hclaim : db.getClaim claimId = some claim) (hpending : claim.status = .pending)
    (hspot : db.getSpot claim.spotId = some spot) :
    (promotePendingClaimToSuccessIfCapacityAvailable db claimId).1.Decided claimId := by
  have hsuccess : ClaimStatus.success ≠ .pending := nofun
  have hfailed : ClaimStatus.failed ≠ .pending := nofun
  rcases originalPromoter_pending hclaim hpending hspot with ⟨-, reason, hpromote⟩ | ⟨-, reason, hpromote⟩
  · rw [hpromote]
    exact (decided_modifyClaimStatus db claimId hsuccess).failPendingStandard claim.spotId
  · rw [hpromote]
    exact decided_modifyClaimStatus db claimId hfailed

/-- The success-only code policy leaves no claim it looks at PENDING. -/
lemma codePromoter_decides (hclaim : db.getClaim claimId = some claim) (hpending : claim.status = .pending)
    (hspot : db.getSpot claim.spotId = some spot) : (promotePendingClaimToSuccessIfCodeAvailable
      promotePendingClaimToSuccessIfCapacityAvailable db claimId).1.Decided claimId := by
  have hfailed : (db.setClaimStatusToFailed claimId).Decided claimId := decided_modifyClaimStatus db claimId nofun
  unfold promotePendingClaimToSuccessIfCodeAvailable
  rw [hclaim]
  dsimp only
  rw [if_neg (not_not_intro hpending), hspot]
  dsimp only
  by_cases hplain : (!spot.usePassword) = true
  · rw [if_pos hplain]
    exact originalPromoter_decides hclaim hpending hspot
  rw [if_neg hplain]
  cases db.attemptForClaim claimId with
  | none => exact hfailed
  | some code =>
    dsimp only
    rcases hconsume : db.consumeClaimCode code.id claimId with ⟨consumed, _ | _⟩
    · exact hfailed
    · obtain ⟨codes, hcodes⟩ := consumeClaimCode_fst db code.id claimId
      rw [hconsume] at hcodes
      dsimp only at hcodes ⊢
      have hclaim' : consumed.getClaim claimId = some claim := by rw [hcodes]; exact hclaim
      have hspot' : consumed.getSpot claim.spotId = some spot := by rw [hcodes]; exact hspot
      have hdecided := originalPromoter_decides hclaim' hpending hspot'
      split_ifs
      · exact hdecided
      · exact hdecided

/-- The claim route enters a claim that may wait, or decides it in the same transaction. -/
lemma Capped.createClaimAttempt (h : db.Capped) (hnumbered : Numbered db) :
    (installedCreateClaimAttempt cfg db req).1.Capped := by
  rcases installedCreateClaimAttempt_outcomes cfg req hnumbered.keyed with
    ⟨db', e, hrefused, honly⟩ | ⟨spot, claim, entered, henters, ⟨hlong, hwaits⟩ | ⟨-, hsettled, -⟩⟩
  · rw [hrefused, honly.same]
    exact h.sameClaims rfl rfl
  · have hpermit : EntryPermitted (capacityPermit fun _ => False).toWritePermit cfg db req := by
      refine ⟨?_, fun _ _ _ _ _ _ => trivial⟩
      intro other claim' entered' markers hother _
      have hsame : other = spot := Option.some.inj (hother.found.symm.trans henters.found)
      exact .inl (hsame ▸ hlong)
    rw [hwaits]
    exact h.claimWrites hnumbered (henters.writes hnumbered.keyed hpermit)
  · have hpermit : EntryPermitted (capacityPermit (· = db.claimSeq + 1)).toWritePermit cfg db req :=
      ⟨fun _ _ _ _ _ _ => .inr rfl, fun _ _ _ _ _ _ => trivial⟩
    have hundecided : NimHunt.Capped (· = db.claimSeq + 1) db := h.mono nofun
    have hafter := hundecided.claimWrites hnumbered (claimRoute_writes hnumbered.keyed hpermit)
    obtain ⟨address, hclaim⟩ := henters.inserted
    have hid : claim.id = db.claimSeq + 1 := by rw [hclaim]; rfl
    have hpending : claim.status = .pending := by rw [hclaim]; rfl
    have hspot : entered.getSpot claim.spotId = some spot := by
      rw [(henters.writes hnumbered.keyed hpermit).sameGround.getSpot, hclaim]
      exact getPublicSpot_getSpot henters.found
    apply hafter.decided
    rw [hsettled, ← hid]
    exact codePromoter_decides (henters.getClaim hnumbered.keyed) hpending hspot

lemma Capped.claimRoute (h : db.Capped) (hnumbered : Numbered db) : (NimHunt.claimRoute cfg db req).Capped := by
  have hcreated : (installedCreateClaimAttempt cfg db req).1.Capped := h.createClaimAttempt hnumbered
  unfold NimHunt.claimRoute
  generalize installedCreateClaimAttempt cfg db req = outcome at hcreated
  obtain ⟨made, e | claim⟩ := outcome
  · dsimp only
    split_ifs
    · exact hcreated
    · exact h
  · exact hcreated

end Route

section Runs

variable {cfg : Settings P} {s : Sys P} {db : Db P} {undecided : ℕ → Prop}

/-- The places of every Spot, where `limited` says which Prizedraws have a limit. -/
structure WithinCapacity (limited : Spot P → Prop) (db : Db P) : Prop where
  success : ∀ spotId spot, db.getSpot spotId = some spot → spot.prizeCount = none →
    db.countClaimsByStatusForSpot spotId .success ≤ spot.maxTotalClaims
  full : ∀ spotId spot, db.getSpot spotId = some spot → spot.prizeCount = none →
    db.countClaimsByStatusForSpot spotId .success = spot.maxTotalClaims →
    db.countClaimsByStatusForSpot spotId .pending = 0
  entries : ∀ spotId spot, db.getSpot spotId = some spot → spot.prizeCount.isSome = true → limited spot →
    spot.status = .draft ∨ spot.status = .published →
    db.countClaimsByStatusForSpot spotId .pending + db.countClaimsByStatusForSpot spotId .success ≤ spot.maxTotalClaims

lemma Capped.withinCapacity (h : db.Capped) : WithinCapacity (fun spot => 0 < spot.maxTotalClaims) db := by
  refine ⟨h.success, ?_, ?_⟩
  · intro spotId spot hspot hstandard hfull
    unfold Db.countClaimsByStatusForSpot
    rw [List.countP_eq_zero]
    intro c hc hcounted
    obtain ⟨hof, hpending⟩ := of_decide_eq_true hcounted
    exact h.full spotId spot hspot hstandard hfull c hc hof hpending
  · intro spotId spot hspot hprizedraw hlimited hopen
    rw [← entryCount_eq]
    cases hopen with
    | inl hdraft =>
      have hnone : db.entryCount spotId = 0 := by
        unfold Db.entryCount
        rw [List.countP_eq_zero]
        intro c hc hcounted
        obtain ⟨found, hfound, hplaced⟩ := h.placed c hc
        rw [(of_decide_eq_true hcounted).1, hspot] at hfound
        exact hplaced (Option.some.inj hfound ▸ hdraft)
      rw [hnone]
      exact Nat.zero_le _
    | inr hpublished => exact h.entries spotId spot hspot hprizedraw hlimited hpublished

lemma admitted_capacity (op : Op P)
    (hentry : ∀ req, op = .claim req → EntryPermitted (capacityPermit undecided).toWritePermit cfg db req) :
    op.Admitted cfg (capacityPermit undecided) db := by
  cases op with
  | claim req => exact hentry req rfl
  | refresh claimId => exact fun _ _ _ _ _ _ => ⟨trivial, fun _ _ _ => trivial⟩
  | heartbeat claimId userId position accuracy =>
    intro claim spot _ _ _ _
    refine ⟨fun _ => ⟨trivial, fun _ _ _ => trivial⟩, ?_⟩
    exact fun _ => ⟨fun _ _ _ => trivial, fun _ _ _ => trivial, fun _ _ _ => trivial, fun _ _ _ _ => trivial⟩
  | settlePrizedraw spotId sample => exact fun _ _ _ => trivial
  | banSpot spotId => exact ⟨trivial, trivial⟩
  | _ => trivial

lemma step_capped (hkept : s.Kept) (h : s.db.Capped) (op : Op P) :
    (step cfg s op).Kept ∧ (step cfg s op).db.Capped := by
  by_cases hclaim : ∃ req, op = .claim req
  · obtain ⟨req, rfl⟩ := hclaim
    exact ⟨(step_writes hkept (admitted_all _)).2, h.claimRoute hkept.numbered⟩
  · have hadmitted : op.Admitted cfg (capacityPermit fun _ => False) s.db :=
      admitted_capacity op fun req hop => absurd ⟨req, hop⟩ hclaim
    obtain ⟨hwrites, hafter⟩ := step_writes hkept hadmitted
    exact ⟨hafter, h.dbWrites hkept.numbered hwrites⟩

/-- No Spot takes more claims than it has places, whatever the run. -/
theorem within_capacity (cfg : Settings P) (ops : List (Op P)) :
    WithinCapacity (fun spot => 0 < spot.maxTotalClaims) (run (step cfg) Sys.initial ops).db := by
  have hpreserved : ∀ (s : Sys P) (op : Op P), True → s.Kept ∧ s.db.Capped →
      (step cfg s op).Kept ∧ (step cfg s op).db.Capped := fun _ op _ h => step_capped h.1 h.2 op
  have hinitial : (Sys.initial : Sys P).db.Capped := ⟨nofun, nofun, nofun, nofun, nofun, nofun⟩
  have hrun := run_invariant hpreserved (admissible_true Sys.initial ops) ⟨kept_initial, hinitial⟩
  exact hrun.2.withinCapacity

/-- A Prizedraw without a limit, and one entry. -/
def unlimitedDraw : List (Op Unit) :=
  [.tick 1000, .registerUser { id := 1, status := .active }, .registerUser { id := 2, status := .active },
    .bindWallet 2 "NQ07 FIRST",
    .createPrizedraw 1 "NQ01 SPOT" {
      position := some (), maxTotalClaims := some 0, totalValue := some 100000000, endsAt := some 100000 } (some 1),
    .recordDeposit 1 1 100000000 "NQ02 OWNER" depositHash, .confirmTrans 1, .resume 0 {}, .publish 1 [],
    .claim ⟨1, 2, (), some 5, none, none⟩]

/-- A limit of zero is no limit. -/
theorem unlimited_draw_has_entries : ¬ ∀ ops : List (Op Unit),
    WithinCapacity (fun _ => True) (run (step Settings.depositShown) Sys.initial ops).db := by
  intro hall
  have hstate : ((run (step Settings.depositShown) Sys.initial unlimitedDraw).db.getSpot 1).any (fun spot =>
      spot.prizeCount.isSome = true ∧ spot.status = .published ∧ spot.maxTotalClaims = 0) = true := by
    decide +kernel
  have hentered : (run (step Settings.depositShown) Sys.initial unlimitedDraw).db.countClaimsByStatusForSpot 1 .success =
      1 := by decide +kernel
  cases hspot : (run (step Settings.depositShown) Sys.initial unlimitedDraw).db.getSpot 1 with
  | none =>
    rw [hspot] at hstate
    cases hstate
  | some spot =>
    rw [hspot] at hstate
    obtain ⟨hprizedraw, hpublished, hunlimited⟩ := of_decide_eq_true hstate
    have hbound := (hall unlimitedDraw).entries 1 spot hspot hprizedraw trivial (.inr hpublished)
    omega

end Runs

end NimHunt
