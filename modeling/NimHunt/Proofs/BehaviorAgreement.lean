import NimHunt.ClaimCodePolicy

/-!
# The success-only claim path and the behaviour guard

`createClaimAttemptSuccessOnly` is a second copy of `createClaimAttempt` that does not call
`observeSignedClaim`.  On Spots without a password the two copies agree exactly on the requests
that are refused before that call, or for which the call would have nothing to record or refuse.
-/

namespace NimHunt

open LocationBehaviorState

variable {P : Type}

abbrev Evidence := ℕ → Option LocationBehaviorState

/-- The same database with other behaviour evidence. -/
def Db.withEvidence (db : Db P) (evidence : Evidence) : Db P := { db with locationBehavior := evidence }

def withEvidence {R : Type} (out : Outcome P R) (evidence : Evidence) : Outcome P R :=
  (out.1.withEvidence evidence, out.2)

@[simp] lemma withEvidence_self (db : Db P) : db.withEvidence db.locationBehavior = db := rfl

/-- What the claim paths rely on in the claim creator they are bound to. -/
structure SoundCreator (create : ClaimCreator P) : Prop where
  blind : ∀ db evidence spotId userId position accuracy payoutAddress,
    create (Db.withEvidence db evidence) spotId userId position accuracy payoutAddress =
      withEvidence (create db spotId userId position accuracy payoutAddress) evidence
  silent : ∀ db spotId userId position accuracy payoutAddress,
    (create db spotId userId position accuracy payoutAddress).2 ≠ .error .publicClaimBehaviorRestriction
  inserts : ∀ db spotId userId position accuracy payoutAddress db' claimId, Db.Keyed db →
    create db spotId userId position accuracy payoutAddress = (db', .ok claimId) →
      db'.spots = db.spots ∧ ∀ claim, db'.getClaim claimId = some claim → claim.spotId = spotId

lemma insertClaim_withEvidence (db : Db P) (evidence : Evidence) (spotId userId : ℕ)
    (payoutAddress : Option Address) (position : P) (accuracy : ℚ) :
    (db.withEvidence evidence).insertClaim spotId userId payoutAddress position accuracy =
      withEvidence (db.insertClaim spotId userId payoutAddress position accuracy) evidence := by
  have hspots : (db.withEvidence evidence).getSpot spotId = db.getSpot spotId := rfl
  unfold Db.insertClaim
  rw [hspots]
  cases db.getSpot spotId with
  | none => rfl
  | some spot =>
    by_cases hcancel : spot.cancellationStartedAt.isSome = true
    · simp only [hcancel, if_true]
      rfl
    · simp only [hcancel, Bool.false_eq_true, if_false]
      by_cases huser : (db.getUser userId).isNone = true
      · have huser' : ((db.withEvidence evidence).getUser userId).isNone = true := huser
        simp only [huser, huser', if_true]
        rfl
      · have huser' : ((db.withEvidence evidence).getUser userId).isNone ≠ true := huser
        simp only [huser, huser', Bool.false_eq_true, if_false]
        rfl

lemma insertClaim_silent (db : Db P) (spotId userId : ℕ) (payoutAddress : Option Address) (position : P)
    (accuracy : ℚ) :
    (db.insertClaim spotId userId payoutAddress position accuracy).2 ≠
      .error .publicClaimBehaviorRestriction := by
  unfold Db.insertClaim
  split
  · simp
  · split_ifs <;> simp

lemma createClaim_sound (cfg : Settings P) : SoundCreator (createClaim cfg) where
  blind db evidence spotId userId position accuracy payoutAddress := by
    unfold createClaim
    cases cfg.cleanOptionalNimiqAddress payoutAddress with
    | error message => rfl
    | ok clean => exact insertClaim_withEvidence db evidence spotId userId clean position accuracy
  silent db spotId userId position accuracy payoutAddress := by
    unfold createClaim
    cases cfg.cleanOptionalNimiqAddress payoutAddress with
    | error message => simp
    | ok clean => exact insertClaim_silent db spotId userId clean position accuracy
  inserts db spotId userId position accuracy payoutAddress db' claimId hkeyed h := by
    unfold createClaim at h
    cases hclean : cfg.cleanOptionalNimiqAddress payoutAddress with
    | error message => simp [hclean] at h
    | ok clean =>
      simp only [hclean] at h
      have hget := Db.getClaim_insertClaim hkeyed h
      obtain ⟨-, -, rfl⟩ := Db.insertClaim_ok h
      refine ⟨rfl, fun claim hclaim => ?_⟩
      rw [hget, Option.some.injEq] at hclaim
      rw [← hclaim]

section Blindness

variable (cfg : Settings P) (db : Db P) (evidence : Evidence)

@[simp] lemma getSpot_withEvidence : (db.withEvidence evidence).getSpot = db.getSpot := rfl

@[simp] lemma getClaim_withEvidence : (db.withEvidence evidence).getClaim = db.getClaim := rfl

@[simp] lemma spotAnchor_withEvidence : (db.withEvidence evidence).spotAnchor = db.spotAnchor := rfl

@[simp] lemma claimAnchor_withEvidence : (db.withEvidence evidence).claimAnchor = db.claimAnchor := rfl

lemma activeCooldownDecision_withEvidence (userId : ℕ) (target : SpotAnchor P)
    (suspicion : ClaimLocationSuspicion) (checkedAt : ℕ) :
    activeCooldownDecision cfg (db.withEvidence evidence) userId target suspicion checkedAt =
      ((activeCooldownDecision cfg db userId target suspicion checkedAt).1.withEvidence evidence,
        (activeCooldownDecision cfg db userId target suspicion checkedAt).2) := by
  simp only [activeCooldownDecision, claimAnchor_withEvidence, spotAnchor_withEvidence]
  split_ifs with hended hduplicate
  · rfl
  · rfl
  · cases db.claimAnchor userId suspicion.trustedClaimId with
    | none => rfl
    | some trusted =>
      cases db.spotAnchor suspicion.suspiciousSpotId with
      | none => rfl
      | some original =>
        cases db.spotAnchor suspicion.lastAttemptedSpotId with
        | none => rfl
        | some previous =>
          dsimp only
          split_ifs <;> rfl

lemma getClaimLocationDecision_withEvidence (userId targetSpotId : ℕ) :
    getClaimLocationDecision cfg (db.withEvidence evidence) userId targetSpotId =
      ((getClaimLocationDecision cfg db userId targetSpotId).1.withEvidence evidence,
        (getClaimLocationDecision cfg db userId targetSpotId).2) := by
  have htrusted : ∀ target checkedAt,
      trustedTravelDecision cfg (db.withEvidence evidence) userId target checkedAt =
        trustedTravelDecision cfg db userId target checkedAt := fun _ _ => rfl
  have hnow : (db.withEvidence evidence).now = db.now := rfl
  have hsuspicion : (db.withEvidence evidence).locationSuspicion = db.locationSuspicion := rfl
  simp only [getClaimLocationDecision, spotAnchor_withEvidence, htrusted, hnow, hsuspicion,
    activeCooldownDecision_withEvidence]
  cases db.spotAnchor targetSpotId with
  | none => rfl
  | some target =>
    dsimp only
    by_cases hban : (trustedTravelDecision cfg db userId target db.now).action = .ban
    · simp only [hban, if_true]
    · simp only [hban, if_false]
      cases db.locationSuspicion userId with
      | none =>
        dsimp only
        split_ifs <;> rfl
      | some suspicion =>
        dsimp only
        rcases activeCooldownDecision cfg db userId target suspicion db.now with ⟨db', _ | decision⟩
        · dsimp only
          split_ifs <;> rfl
        · rfl

lemma failPendingIfCapacityFull_withEvidence (spotId : ℕ) :
    (db.withEvidence evidence).failPendingStandardDurationClaimsIfCapacityFull spotId =
      (db.failPendingStandardDurationClaimsIfCapacityFull spotId).withEvidence evidence := by
  have hcount : (db.withEvidence evidence).countClaimsByStatusForSpot = db.countClaimsByStatusForSpot := rfl
  simp only [Db.failPendingStandardDurationClaimsIfCapacityFull, getSpot_withEvidence, hcount]
  cases db.getSpot spotId with
  | none => rfl
  | some spot =>
    dsimp only
    split_ifs <;> rfl

lemma promote_withEvidence (claimId : ℕ) :
    promotePendingClaimToSuccessIfCapacityAvailable (db.withEvidence evidence) claimId =
      ((promotePendingClaimToSuccessIfCapacityAvailable db claimId).1.withEvidence evidence,
        (promotePendingClaimToSuccessIfCapacityAvailable db claimId).2) := by
  have hcount : (db.withEvidence evidence).countClaimsByStatusForSpot = db.countClaimsByStatusForSpot := rfl
  have hsuccess : (db.withEvidence evidence).setClaimStatusToSuccess claimId =
      (db.setClaimStatusToSuccess claimId).withEvidence evidence := rfl
  have hfailed : (db.withEvidence evidence).setClaimStatusToFailed claimId =
      (db.setClaimStatusToFailed claimId).withEvidence evidence := rfl
  simp only [promotePendingClaimToSuccessIfCapacityAvailable, getClaim_withEvidence,
    getSpot_withEvidence, hcount, hsuccess, hfailed, failPendingIfCapacityFull_withEvidence]
  cases db.getClaim claimId with
  | none => rfl
  | some claim =>
    dsimp only
    split_ifs with hpending
    · rfl
    · cases db.getSpot claim.spotId with
      | none => rfl
      | some spot =>
        dsimp only
        split_ifs <;> rfl

end Blindness

/-- Writes that leave the evidence alone do so whatever it is. -/
lemma locationBehavior_of_blind {R : Type} {f : Db P → Db P × R}
    (hblind : ∀ db evidence, f (Db.withEvidence db evidence) = ((f db).1.withEvidence evidence, (f db).2))
    (db : Db P) : (f db).1.locationBehavior = db.locationBehavior := by
  have h := hblind db db.locationBehavior
  rw [withEvidence_self] at h
  rw [congrArg Prod.fst h]
  rfl

lemma createClaimWithImpossibleTravelGuard_sound (cfg : Settings P) :
    SoundCreator (createClaimWithImpossibleTravelGuard cfg) where
  blind db evidence spotId userId position accuracy payoutAddress := by
    simp only [createClaimWithImpossibleTravelGuard, getClaimLocationDecision_withEvidence,
      (createClaim_sound cfg).blind]
    cases cfg.cleanOptionalNimiqAddress payoutAddress with
    | error message => rfl
    | ok clean =>
      dsimp only
      rcases getClaimLocationDecision cfg db userId spotId with ⟨db', decision⟩
      dsimp only
      cases decision.action <;>
        first
        | rfl
        | (rcases createClaim cfg db' spotId userId position accuracy clean with ⟨db'', e | claimId⟩ <;> rfl)
  silent db spotId userId position accuracy payoutAddress := by
    obtain ⟨users, markers, e, h, he⟩ | ⟨markers, clean, h⟩ :=
      createClaimWithImpossibleTravelGuard_cases cfg db spotId userId position accuracy payoutAddress
    · rw [h]
      simpa using he
    · rw [h]
      have hsilent := (createClaim_sound cfg).silent { db with locationSuspicion := markers } spotId userId
        position accuracy clean
      rcases hcreate : createClaim cfg { db with locationSuspicion := markers } spotId userId position
        accuracy clean with ⟨db', e | claimId⟩
      · rwa [hcreate] at hsilent
      · simp
  inserts db spotId userId position accuracy payoutAddress db' claimId hkeyed h := by
    obtain ⟨users, markers, e, hcase, -⟩ | ⟨markers, clean, hcase⟩ :=
      createClaimWithImpossibleTravelGuard_cases cfg db spotId userId position accuracy payoutAddress
    · simp [hcase] at h
    · rw [hcase] at h
      have hkeyed' : Db.Keyed { db with locationSuspicion := markers } := ⟨hkeyed.spotKeys, hkeyed.claimKeys,
        hkeyed.claimFresh, hkeyed.codeKeys, hkeyed.codeFresh, hkeyed.transKeys, hkeyed.transFresh⟩
      have hinserts := (createClaim_sound cfg).inserts { db with locationSuspicion := markers } spotId userId
        position accuracy clean
      rcases hcreate : createClaim cfg { db with locationSuspicion := markers } spotId userId position
        accuracy clean with ⟨db'', e | id⟩ <;> rw [hcreate] at h
      · simp at h
      · simp only [Prod.mk.injEq, Except.ok.injEq] at h
        obtain ⟨rfl, rfl⟩ := h
        exact hinserts db'' id hkeyed' hcreate

/-- The only refusal the original promoter reports. -/
lemma promote_refusal {db : Db P} {claimId : ℕ} {reason : String}
    (h : (promotePendingClaimToSuccessIfCapacityAvailable db claimId).2.capacityPromotion =
      some (false, reason)) : reason = "capacity_full_claim_failed" := by
  unfold promotePendingClaimToSuccessIfCapacityAvailable at h
  cases hclaim : db.getClaim claimId with
  | none => simp [hclaim] at h
  | some claim =>
    by_cases hpending : claim.status = .pending
    · cases hspot : db.getSpot claim.spotId with
      | none => simp [hclaim, hpending, hspot] at h
      | some spot =>
        simp only [hclaim, hpending, hspot, ne_eq, not_true_eq_false, if_false] at h
        split_ifs at h <;> simp_all
    · simp [hclaim, hpending] at h

/-- On a Spot without a password the code policy promotes as `db_access` does. -/
lemma promoteIfCodeAvailable_open {db : Db P} {claimId : ℕ}
    (hopen : ∀ claim spot, db.getClaim claimId = some claim → db.getSpot claim.spotId = some spot →
      spot.usePassword = false) :
    promotePendingClaimToSuccessIfCodeAvailable promotePendingClaimToSuccessIfCapacityAvailable db claimId =
      promotePendingClaimToSuccessIfCapacityAvailable db claimId := by
  unfold promotePendingClaimToSuccessIfCodeAvailable
  cases hclaim : db.getClaim claimId with
  | none => simp [promotePendingClaimToSuccessIfCapacityAvailable, hclaim]
  | some claim =>
    by_cases hpending : claim.status = .pending
    · cases hspot : db.getSpot claim.spotId with
      | none => simp [promotePendingClaimToSuccessIfCapacityAvailable, hclaim, hpending, hspot]
      | some spot => simp [hpending, hspot, hopen claim spot hclaim hspot]
    · simp [promotePendingClaimToSuccessIfCapacityAvailable, hclaim, hpending]

section EntersOpenSpot

variable {create : ClaimCreator P} (hcreate : SoundCreator create) {db : Db P} {req : ClaimRequest P}
  {spot : Spot P}

include hcreate

/-- From the insert on, the two copies do the same on a Spot without a password. -/
lemma enterClaimSuccessOnly_open (hkeyed : db.Keyed) (hspot : db.getSpot req.spotId = some spot)
    (hopen : spot.usePassword = false) (cleanCode : Option String) :
    enterClaimSuccessOnly create promotePendingClaimToSuccessIfCapacityAvailable db req spot none =
      enterClaim create promotePendingClaimToSuccessIfCapacityAvailable db req spot cleanCode := by
  simp only [enterClaimSuccessOnly, enterClaim, hopen, Db.createAttemptIfCoded]
  rcases hinsert : create db req.spotId req.userId req.position 1 req.payoutAddress with ⟨db', e | claimId⟩
  · rfl
  · obtain ⟨hspots, hclaim⟩ := hcreate.inserts db req.spotId req.userId req.position 1 req.payoutAddress
      db' claimId hkeyed hinsert
    have hopen' : ∀ claim found, db'.getClaim claimId = some claim →
        db'.getSpot claim.spotId = some found → found.usePassword = false := by
      intro claim found hc hs
      have hfound : db.getSpot req.spotId = some found := by
        rw [← hclaim claim hc, Db.getSpot, ← hspots]
        exact hs
      rw [hspot, Option.some.injEq] at hfound
      rw [← hfound, hopen]
    have hpromote := promoteIfCodeAvailable_open hopen'
    by_cases hduration : spot.claimDuration = 0
    · simp only [hduration, if_true, hpromote]
      rcases hresult : promotePendingClaimToSuccessIfCapacityAvailable db' claimId with
        ⟨db'', claim, _ | ⟨_ | _, reason⟩⟩
      · cases claim <;> rfl
      · have hrefused : (promotePendingClaimToSuccessIfCapacityAvailable db' claimId).2.capacityPromotion =
            some (false, reason) := by rw [hresult]
        have hreason := promote_refusal hrefused
        subst hreason
        rfl
      · cases claim <;> rfl
    · simp only [hduration, if_false]

lemma enterClaim_withEvidence (hopen : spot.usePassword = false) (evidence : Evidence)
    (cleanCode : Option String) :
    enterClaim create promotePendingClaimToSuccessIfCapacityAvailable (db.withEvidence evidence) req spot
        cleanCode =
      withEvidence
        (enterClaim create promotePendingClaimToSuccessIfCapacityAvailable db req spot cleanCode) evidence := by
  simp only [enterClaim, hopen, hcreate.blind]
  rcases create db req.spotId req.userId req.position 1 req.payoutAddress with ⟨db', e | claimId⟩
  · rfl
  · simp only [withEvidence]
    by_cases hduration : spot.claimDuration = 0
    · simp only [hduration, if_true, promote_withEvidence]
      rcases promotePendingClaimToSuccessIfCapacityAvailable db' claimId with
        ⟨db'', claim, _ | ⟨_ | _, reason⟩⟩
      · cases claim with
        | none =>
          simp only [reloadClaim, getClaim_withEvidence]
          cases db''.getClaim claimId <;> rfl
        | some claim => rfl
      · rfl
      · cases claim with
        | none =>
          simp only [reloadClaim, getClaim_withEvidence]
          cases db''.getClaim claimId <;> rfl
        | some claim => rfl
    · simp only [hduration, if_false, reloadClaim, getClaim_withEvidence]
      cases db'.getClaim claimId <;> rfl

/-- Entering the claim never raises the behaviour restriction. -/
lemma enterClaim_silent (hopen : spot.usePassword = false) (cleanCode : Option String) :
    (enterClaim create promotePendingClaimToSuccessIfCapacityAvailable db req spot cleanCode).2 ≠
      .error .publicClaimBehaviorRestriction := by
  have hinsert := hcreate.silent db req.spotId req.userId req.position 1 req.payoutAddress
  simp only [enterClaim, hopen]
  rcases hresult : create db req.spotId req.userId req.position 1 req.payoutAddress with
    ⟨db', e | claimId⟩ <;> rw [hresult] at hinsert
  · simp only [ne_eq, Except.error.injEq] at hinsert ⊢
    unfold friendlyInsertError
    split_ifs
    · simp
    · exact hinsert
  · have hreload : ∀ db'' : Db P, (reloadClaim db'' claimId).2 ≠ .error .publicClaimBehaviorRestriction := by
      intro db''
      unfold reloadClaim
      cases db''.getClaim claimId <;> simp
    by_cases hduration : spot.claimDuration = 0
    · simp only [hduration, if_true]
      rcases promotePendingClaimToSuccessIfCapacityAvailable db' claimId with
        ⟨db'', _ | claim, _ | ⟨_ | _, reason⟩⟩
      · exact hreload db''
      · simp
      · exact hreload db''
      · simp
      · simp
      · simp
    · simpa only [hduration, if_false] using hreload db'

end EntersOpenSpot

/-- The guard would neither refuse the request nor record anything for it: the request is refused
before the guard is reached, or the user is not restricted, has no matured evidence, and repeats a
recent signed request for this Spot or stands outside its radius. -/
def BehaviorGuardIdle (cfg : Settings P) (db : Db P) (req : ClaimRequest P) : Prop :=
  match entryCheck cfg db req with
  | .error _ => True
  | .ok (spot, _, _) =>
    (db.behaviorState req.userId).currentlyRestricted db.now = false ∧
    (db.behaviorState req.userId).newEvidenceMatured = false ∧
    ((db.behaviorState req.userId).isRetry spot.id db.now = true ∨
      ∀ centre, spot.position = some centre → (spot.radius : ℚ) < cfg.distanceMetres req.position centre)

/-- Acceptance, rejection, resulting row and recorded evidence are the same. -/
structure Agrees (plain installed : Outcome P (Claim P)) : Prop where
  result : plain.2 = installed.2
  evidence : ∀ userId, plain.1.behaviorState userId = installed.1.behaviorState userId

/-- The state the record step of a signed claim leaves for the maturity check. -/
def recordedEvidence (cfg : Settings P) (db : Db P) (state : LocationBehaviorState) (spot : Spot P)
    (centre position : P) (checkedAt : ℕ) : LocationBehaviorState :=
  if !state.isRetry spot.id checkedAt && decide (cfg.distanceMetres position centre ≤ spot.radius) then
    recordSignedInside cfg db state spot centre (cfg.distanceMetres position centre) checkedAt
  else state

lemma signedClaimEvidence_eq (cfg : Settings P) (db : Db P) (state : LocationBehaviorState) (spot : Spot P)
    (centre position : P) (checkedAt : ℕ) :
    signedClaimEvidence cfg db state spot centre position checkedAt =
      if (recordedEvidence cfg db state spot centre position checkedAt).newEvidenceMatured then
        (recordedEvidence cfg db state spot centre position checkedAt).consumeEpisode checkedAt
      else recordedEvidence cfg db state spot centre position checkedAt := rfl

/-- A request that passed the entry checks of an open Spot reaches the stored evidence. -/
lemma observeSignedClaim_of_entry {cfg : Settings P} {db : Db P} {req : ClaimRequest P} {spot : Spot P}
    {cleanCode : Option String} {existing : Option ClaimCode} (hkeyed : db.Keyed)
    (hentry : entryCheck cfg db req = .ok (spot, cleanCode, existing)) (hopen : spot.usePassword = false) :
    ∃ centre, spot.position = some centre ∧
      observeSignedClaim cfg db req.userId spot req.position db.now =
        if (db.behaviorState req.userId).currentlyRestricted db.now then (db, .ok true)
        else
          (db.saveBehaviorState req.userId
              (signedClaimEvidence cfg db (db.behaviorState req.userId) spot centre req.position db.now),
            .ok ((signedClaimEvidence cfg db (db.behaviorState req.userId) spot centre req.position
              db.now).currentlyRestricted db.now)) := by
  obtain ⟨hspot, hallowed, -⟩ := entryCheck_ok hentry
  have hid : spot.id = req.spotId := ((Db.getSpot_eq_some hkeyed).mp hspot).2
  obtain ⟨found, hpublic, havailable⟩ := hallowed.current
  have hfound : found = spot := by
    rw [Db.getPublicSpot, Option.filter_eq_some_iff] at hpublic
    have hboth := hpublic.1
    rw [hspot, Option.some.injEq] at hboth
    exact hboth.symm
  subst hfound
  have hclaimable : db.isSpotCurrentlyClaimable found.id = true := by
    rw [hid]
    simp [Db.isSpotCurrentlyClaimable, hpublic, havailable, hallowed.capacity]
  have hposition : found.position.isSome = true := by
    rw [Db.getPublicSpot, Option.filter_eq_some_iff] at hpublic
    have := hpublic.2
    simp only [decide_eq_true_eq] at this
    exact this.2.2.1
  obtain ⟨centre, hcentre⟩ := Option.isSome_iff_exists.mp hposition
  refine ⟨centre, hcentre, ?_⟩
  simp [observeSignedClaim, hallowed.notOwn found hspot, hopen, hclaimable, hcentre]

section OpenEntry

variable {cfg : Settings P} {create : ClaimCreator P} {db : Db P} {req : ClaimRequest P} {spot : Spot P}
  {cleanCode : Option String} {existing : Option ClaimCode}

/-- The installed copy on an open Spot, in terms of the plain entry. -/
lemma createClaimAttemptSuccessOnly_open (hcreate : SoundCreator create) (hkeyed : db.Keyed)
    (hentry : entryCheck cfg db req = .ok (spot, cleanCode, existing)) (hopen : spot.usePassword = false) :
    createClaimAttemptSuccessOnly cfg create promotePendingClaimToSuccessIfCapacityAvailable db req =
      enterClaim create promotePendingClaimToSuccessIfCapacityAvailable db req spot cleanCode := by
  obtain ⟨hspot, -, hexisting⟩ := entryCheck_ok hentry
  have hnone : existing = none := by
    simp only [hopen, Bool.false_eq_true, if_false, Except.ok.injEq] at hexisting
    exact hexisting.symm
  rw [createClaimAttemptSuccessOnly_eq, hentry, hnone]
  exact enterClaimSuccessOnly_open hcreate hkeyed hspot hopen cleanCode

/-- When the guard refuses, the copies disagree: the installed one never gives that answer. -/
lemma not_agrees_of_refused (hcreate : SoundCreator create) (hkeyed : db.Keyed)
    (hentry : entryCheck cfg db req = .ok (spot, cleanCode, existing)) (hopen : spot.usePassword = false)
    (hrefused : (observeSignedClaim cfg db req.userId spot req.position db.now).2 = .ok true) :
    ¬Agrees
      (createClaimAttempt cfg create promotePendingClaimToSuccessIfCapacityAvailable db req)
      (createClaimAttemptSuccessOnly cfg create promotePendingClaimToSuccessIfCapacityAvailable db req) := by
  intro hagrees
  have hresult := hagrees.result
  rw [createClaimAttemptSuccessOnly_open hcreate hkeyed hentry hopen, createClaimAttempt_eq, hentry] at hresult
  rcases hobserve : observeSignedClaim cfg db req.userId spot req.position db.now with ⟨db', answer⟩
  rw [hobserve] at hrefused
  dsimp only at hrefused
  subst hrefused
  simp only [hopen, Bool.false_eq_true, if_false, hobserve] at hresult
  exact enterClaim_silent hcreate hopen cleanCode hresult.symm

/-- When the guard lets the claim pass, the copies differ at most in the evidence it saved. -/
lemma agrees_of_passed_iff (hcreate : SoundCreator create) (hkeyed : db.Keyed)
    (hentry : entryCheck cfg db req = .ok (spot, cleanCode, existing)) (hopen : spot.usePassword = false)
    {evidence : LocationBehaviorState}
    (hpassed : observeSignedClaim cfg db req.userId spot req.position db.now =
      (db.saveBehaviorState req.userId evidence, .ok false)) :
    Agrees
      (createClaimAttempt cfg create promotePendingClaimToSuccessIfCapacityAvailable db req)
      (createClaimAttemptSuccessOnly cfg create promotePendingClaimToSuccessIfCapacityAvailable db req) ↔
    migrate (some evidence) = db.behaviorState req.userId := by
  rw [createClaimAttemptSuccessOnly_open hcreate hkeyed hentry hopen, createClaimAttempt_eq, hentry]
  simp only [hopen, Bool.false_eq_true, if_false, hpassed]
  have hsave : db.saveBehaviorState req.userId evidence =
      db.withEvidence (db.saveBehaviorState req.userId evidence).locationBehavior := rfl
  rw [hsave, enterClaim_withEvidence hcreate hopen]
  have hkept : (enterClaim create promotePendingClaimToSuccessIfCapacityAvailable db req spot
      cleanCode).1.locationBehavior = db.locationBehavior :=
    locationBehavior_of_blind
      (f := fun db => enterClaim create promotePendingClaimToSuccessIfCapacityAvailable db req spot cleanCode)
      (fun db evidence => enterClaim_withEvidence hcreate hopen evidence cleanCode) db
  constructor
  · intro hagrees
    have huser := hagrees.evidence req.userId
    have hsaved : migrate ((db.saveBehaviorState req.userId evidence).locationBehavior req.userId) =
        migrate (some evidence) := Db.behaviorState_saveBehaviorState db req.userId evidence
    rw [← hsaved]
    exact huser.trans (by rw [Db.behaviorState, hkept, Db.behaviorState])
  · intro hsame
    refine ⟨rfl, fun userId => ?_⟩
    change migrate ((db.saveBehaviorState req.userId evidence).locationBehavior userId) = migrate _
    rw [hkept]
    by_cases huser : userId = req.userId
    · subst huser
      exact (Db.behaviorState_saveBehaviorState db req.userId evidence).trans hsame
    · simp [Db.saveBehaviorState, Function.update_of_ne huser]

end OpenEntry

lemma recordedEvidence_version {cfg : Settings P} {db : Db P} {state : LocationBehaviorState} {spot : Spot P}
    {centre position : P} {checkedAt : ℕ} (hversion : state.version = behaviorStateVersion) :
    (recordedEvidence cfg db state spot centre position checkedAt).version = behaviorStateVersion := by
  unfold recordedEvidence
  split_ifs
  · exact hversion
  · exact hversion

lemma recordedEvidence_restrictedUntil {cfg : Settings P} {db : Db P} {state : LocationBehaviorState}
    {spot : Spot P} {centre position : P} {checkedAt : ℕ} :
    (recordedEvidence cfg db state spot centre position checkedAt).restrictedUntil = state.restrictedUntil := by
  unfold recordedEvidence
  split_ifs <;> rfl

/-- Saving keeps the last signed event. -/
lemma migrate_lastSigned {state : LocationBehaviorState} (hversion : state.version = behaviorStateVersion) :
    (migrate (some state)).lastSigned = state.lastSigned := by
  simp [migrate, hversion]

lemma migrate_behaviorState (db : Db P) (userId : ℕ) :
    migrate (some (db.behaviorState userId)) = db.behaviorState userId :=
  migrate_migrate _

lemma agrees_iff_idle {cfg : Settings P} {create : ClaimCreator P} (hcreate : SoundCreator create)
    {db : Db P} (hkeyed : db.Keyed) {req : ClaimRequest P}
    (hopen : ∀ spot, db.getSpot req.spotId = some spot → spot.usePassword = false) :
    Agrees
      (createClaimAttempt cfg create promotePendingClaimToSuccessIfCapacityAvailable db req)
      (createClaimAttemptSuccessOnly cfg create promotePendingClaimToSuccessIfCapacityAvailable db req) ↔
    BehaviorGuardIdle cfg db req := by
  rcases hentry : entryCheck cfg db req with e | ⟨spot, cleanCode, existing⟩
  · rw [createClaimAttempt_eq, createClaimAttemptSuccessOnly_eq, BehaviorGuardIdle, hentry]
    exact iff_of_true ⟨rfl, fun _ => rfl⟩ trivial
  have hopenSpot := hopen spot (entryCheck_ok hentry).1
  obtain ⟨centre, hcentre, hobserve⟩ := observeSignedClaim_of_entry hkeyed hentry hopenSpot
  simp only [BehaviorGuardIdle, hentry]
  generalize hstate : db.behaviorState req.userId = state at hobserve ⊢
  have hversion : state.version = behaviorStateVersion := by
    rw [← hstate]
    exact migrate_version _
  by_cases hrestricted : state.currentlyRestricted db.now = true
  · -- an active restriction: refused by the guard, and not idle
    rw [hrestricted, if_pos rfl] at hobserve
    refine iff_of_false (not_agrees_of_refused hcreate hkeyed hentry hopenSpot (by rw [hobserve])) ?_
    rintro ⟨hnot, -⟩
    simp [hrestricted] at hnot
  rw [if_neg hrestricted, signedClaimEvidence_eq] at hobserve
  simp only [Bool.not_eq_true] at hrestricted
  by_cases hmatured : (recordedEvidence cfg db state spot centre req.position db.now).newEvidenceMatured = true
  · -- this request matures the evidence: refused by the guard, and not idle
    rw [if_pos hmatured] at hobserve
    have hnow : ((recordedEvidence cfg db state spot centre req.position db.now).consumeEpisode
        db.now).currentlyRestricted db.now = true := by
      simp [currentlyRestricted, consumeEpisode, temporaryRestrictionSeconds]
    rw [hnow] at hobserve
    refine iff_of_false (not_agrees_of_refused hcreate hkeyed hentry hopenSpot (by rw [hobserve])) ?_
    rintro ⟨-, hnotMatured, hquiet⟩
    have hsame : recordedEvidence cfg db state spot centre req.position db.now = state := by
      unfold recordedEvidence
      rcases hquiet with hretry | hfar
      · simp [hretry]
      · simp [not_le.mpr (hfar centre hcentre)]
    rw [hsame, hnotMatured] at hmatured
    simp at hmatured
  -- the claim passes: the copies agree if and only if nothing was recorded
  rw [if_neg hmatured] at hobserve
  have hpassed : (recordedEvidence cfg db state spot centre req.position db.now).currentlyRestricted
      db.now = false := by
    rw [currentlyRestricted, recordedEvidence_restrictedUntil]
    exact hrestricted
  rw [hpassed] at hobserve
  rw [agrees_of_passed_iff hcreate hkeyed hentry hopenSpot hobserve, hstate]
  by_cases hquiet : state.isRetry spot.id db.now = true ∨ (spot.radius : ℚ) < cfg.distanceMetres req.position centre
  · have hsame : recordedEvidence cfg db state spot centre req.position db.now = state := by
      unfold recordedEvidence
      rcases hquiet with hretry | hfar
      · simp [hretry]
      · simp [not_le.mpr hfar]
    rw [hsame] at hmatured ⊢
    refine iff_of_true (by rw [← hstate]; exact migrate_behaviorState db req.userId) ⟨hrestricted, by simpa using hmatured, ?_⟩
    rcases hquiet with hretry | hfar
    · exact .inl hretry
    · refine .inr fun found hfound => ?_
      rw [hcentre, Option.some.injEq] at hfound
      exact hfound ▸ hfar
  · -- a fresh inside event is stamped with this request, and the old state was not a retry
    rw [not_or, not_lt, Bool.not_eq_true] at hquiet
    refine iff_of_false ?_ ?_
    · intro hsame
      have hrecordedVersion : (recordedEvidence cfg db state spot centre req.position db.now).version =
          behaviorStateVersion := recordedEvidence_version hversion
      have hstamp := migrate_lastSigned hrecordedVersion
      rw [hsame] at hstamp
      have hrecorded : (recordedEvidence cfg db state spot centre req.position db.now).lastSigned =
          some (spot.id, db.now) := by
        simp [recordedEvidence, hquiet.1, hquiet.2, recordSignedInside]
      have hretry : state.isRetry spot.id db.now = true := by
        simp [isRetry, hstamp, hrecorded, signedRetryWindowSeconds]
      simp [hquiet.1] at hretry
    · rintro ⟨-, -, hretry | hfar⟩
      · simp [hquiet.1] at hretry
      · exact absurd (hfar centre hcentre) (not_lt.mpr hquiet.2)

/-- On a Spot without a password the installed claim path agrees with the plain one exactly on the
requests for which the behaviour guard is idle; both are bound to the same claim creator. -/
theorem successOnly_agrees_iff_behaviorGuardIdle (cfg : Settings P) (store : Store P) (req : ClaimRequest P)
    (create : ClaimCreator P)
    (hbound : create = createClaim cfg ∨ create = createClaimWithImpossibleTravelGuard cfg)
    (hopen : ∀ spot, store.getSpot req.spotId = some spot → spot.usePassword = false) :
    Agrees
      (createClaimAttempt cfg create promotePendingClaimToSuccessIfCapacityAvailable store.toDb req)
      (createClaimAttemptSuccessOnly cfg create promotePendingClaimToSuccessIfCapacityAvailable
        store.toDb req) ↔
    BehaviorGuardIdle cfg store.toDb req := by
  rcases hbound with rfl | rfl
  · exact agrees_iff_idle (createClaim_sound cfg) store.keyed hopen
  · exact agrees_iff_idle (createClaimWithImpossibleTravelGuard_sound cfg) store.keyed hopen

section RestrictedClaimant

def plazaSpot : Spot Unit where
  id := 1
  createdBy := 1
  depositAddress := "plaza"
  position := some ()
  radius := 50
  claimDuration := 0
  maxClaimsPerUser := 1
  maxTotalClaims := 5
  usePassword := false
  totalValue := 500
  creationFee := 0
  startsAt := some 100
  endsAt := 3600
  status := .published
  cancellationStartedAt := none
  prizeCount := none

/-- One open Spot, its owner, and a user whose public claims are restricted until 5000. -/
def plazaDb : Db Unit where
  now := 1000
  users := [{ id := 1, status := .active }, { id := 2, status := .active }]
  spots := [plazaSpot]
  claims := []
  claimCodes := []
  claimCodeAttempts := []
  trans := []
  claimSeq := 0
  claimCodeSeq := 0
  transSeq := 0
  userBindings := []
  locationBehavior := fun userId =>
    if userId = 2 then some { LocationBehaviorState.empty with restrictedUntil := 5000 } else none
  locationSuspicion := fun _ => none

def plazaStore : Store Unit where
  toDb := plazaDb
  keyed := by constructor <;> simp [plazaDb]

def plazaRequest : ClaimRequest Unit := ⟨1, 2, (), none, none, none⟩

/-- The plain path refuses the restricted user; the installed path pays the claim. -/
theorem plazaRequest_diverges :
    (createClaimAttempt Settings.onePlace (createClaimWithImpossibleTravelGuard Settings.onePlace)
      promotePendingClaimToSuccessIfCapacityAvailable plazaDb plazaRequest).2 =
        .error .publicClaimBehaviorRestriction ∧
    (createClaimAttemptSuccessOnly Settings.onePlace (createClaimWithImpossibleTravelGuard Settings.onePlace)
      promotePendingClaimToSuccessIfCapacityAvailable plazaDb plazaRequest).2 =
        .ok ⟨1, 1, 2, none, (), 1, .success, 1000, 1000⟩ := by
  decide +kernel

/-- The equivalence at the restricted user's request. -/
theorem successOnly_agrees_iff_behaviorGuardIdle_plaza :
    Agrees
      (createClaimAttempt Settings.onePlace (createClaimWithImpossibleTravelGuard Settings.onePlace)
        promotePendingClaimToSuccessIfCapacityAvailable plazaStore.toDb plazaRequest)
      (createClaimAttemptSuccessOnly Settings.onePlace (createClaimWithImpossibleTravelGuard Settings.onePlace)
        promotePendingClaimToSuccessIfCapacityAvailable plazaStore.toDb plazaRequest) ↔
    BehaviorGuardIdle Settings.onePlace plazaStore.toDb plazaRequest :=
  successOnly_agrees_iff_behaviorGuardIdle Settings.onePlace plazaStore plazaRequest _ (.inr rfl)
    (by
      intro spot hspot
      have hplaza : plazaStore.getSpot plazaRequest.spotId = some plazaSpot := rfl
      rw [hplaza, Option.some.injEq] at hspot
      rw [← hspot]
      rfl)

end RestrictedClaimant

end NimHunt
