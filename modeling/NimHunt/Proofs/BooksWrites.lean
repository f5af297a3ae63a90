import NimHunt.Proofs.SpotBooks

/-!
# The writes of the books

Each write the operations make of the claims, the Spots and the ledger, with the checks that were made in front of it,
moves the account of every Spot soundly and leaves the books in order.
-/

namespace NimHunt

open Lib Relation

variable {P : Type}

section Claims

variable {cfg : Settings P} {db db' db'' : Db P} {spotId : ℕ}

/-- No claim succeeds, and none comes back. -/
structure NoneSucceeds (db db' : Db P) : Prop where
  back : ∀ c' ∈ db'.claims, ∃ c ∈ db.claims, c.id = c'.id ∧ c.spotId = c'.spotId ∧
    (c'.status = .pending → c.status = .pending) ∧ (c'.status = .success → c.status = .success)
  forth : ∀ c ∈ db.claims, c.status = .success →
    ∃ c' ∈ db'.claims, c'.id = c.id ∧ c'.spotId = c.spotId ∧ c'.status = .success

lemma NoneSucceeds.of_eq (hclaims : db'.claims = db.claims) : NoneSucceeds db db' := by
  constructor
  · rw [hclaims]
    exact fun c hc => ⟨c, hc, rfl, rfl, fun h => h, fun h => h⟩
  · rw [hclaims]
    exact fun c hc hsuccess => ⟨c, hc, rfl, rfl, hsuccess⟩

lemma NoneSucceeds.then (h : NoneSucceeds db db') (h' : NoneSucceeds db' db'') : NoneSucceeds db db'' := by
  constructor
  · intro c'' hc''
    obtain ⟨c', hc', hid', hspot', hwaits', hdone'⟩ := h'.back c'' hc''
    obtain ⟨c, hc, hid, hspot, hwaits, hdone⟩ := h.back c' hc'
    exact ⟨c, hc, hid.trans hid', hspot.trans hspot', fun h => hwaits (hwaits' h), fun h => hdone (hdone' h)⟩
  · intro c hc hsuccess
    obtain ⟨c', hc', hid, hspot, hsuccess'⟩ := h.forth c hc hsuccess
    obtain ⟨c'', hc'', hid', hspot', hsuccess''⟩ := h'.forth c' hc' hsuccess'
    exact ⟨c'', hc'', hid'.trans hid, hspot'.trans hspot, hsuccess''⟩

/-- Claims that are not SUCCESS are rewritten, and none of them to SUCCESS. -/
lemma NoneSucceeds.of_update {sel : Claim P → Bool} {f : Claim P → Claim P}
    (hclaims : db'.claims = updateWhere sel f db.claims) (hsame : ∀ c, (f c).id = c.id ∧ (f c).spotId = c.spotId)
    (hrow : ∀ c ∈ db.claims, sel c = true → c.status ≠ .success ∧ (f c).status ≠ .success ∧
      ((f c).status = .pending → c.status = .pending)) : NoneSucceeds db db' := by
  constructor
  · intro c' hc'
    rw [hclaims] at hc'
    obtain ⟨c, hc, hrow'⟩ := mem_updateWhere.mp hc'
    by_cases hsel : sel c = true
    · rw [if_pos hsel] at hrow'
      obtain ⟨-, hdone, hwaits⟩ := hrow c hc hsel
      rw [← hrow']
      exact ⟨c, hc, (hsame c).1.symm, (hsame c).2.symm, hwaits, fun h => absurd h hdone⟩
    · rw [if_neg hsel] at hrow'
      rw [← hrow']
      exact ⟨c, hc, rfl, rfl, fun h => h, fun h => h⟩
  · intro c hc hsuccess
    rw [hclaims]
    have hsel : ¬ sel c = true := fun hsel => (hrow c hc hsel).1 hsuccess
    exact ⟨c, mem_updateWhere.mpr ⟨c, hc, if_neg hsel⟩, rfl, rfl, hsuccess⟩

lemma NoneSucceeds.successIds (h : NoneSucceeds db db') (spotId : ℕ) : db'.successIds spotId = db.successIds spotId := by
  ext id
  rw [mem_successIds, mem_successIds]
  constructor
  · rintro ⟨c', hc', hid, hspot, hdone⟩
    obtain ⟨c, hc, hid', hspot', -, hdone'⟩ := h.back c' hc'
    exact ⟨c, hc, hid'.trans hid, hspot'.trans hspot, hdone' hdone⟩
  · rintro ⟨c, hc, hid, hspot, hdone⟩
    obtain ⟨c', hc', hid', hspot', hdone'⟩ := h.forth c hc hdone
    exact ⟨c', hc', hid'.trans hid, hspot'.trans hspot, hdone'⟩

lemma noneSucceeds_failPendingStandard (db : Db P) (spotId : ℕ) :
    NoneSucceeds db (db.failPendingStandardDurationClaimsIfCapacityFull spotId) := by
  unfold Db.failPendingStandardDurationClaimsIfCapacityFull
  cases db.getSpot spotId with
  | none => exact .of_eq rfl
  | some spot =>
    dsimp only
    split_ifs
    · exact .of_eq rfl
    · exact .of_eq rfl
    · exact .of_eq rfl
    · refine .of_update rfl (fun _ => ⟨rfl, rfl⟩) ?_
      intro c _ hsel
      obtain ⟨-, hwaits⟩ : c.spotId = spotId ∧ c.status = .pending := of_decide_eq_true hsel
      rw [hwaits]
      exact ⟨nofun, nofun, fun _ => rfl⟩

/-- A claim found under its id is the only one an update by id reaches. -/
lemma eq_of_getClaim (hbooks : Books db) {claim c : Claim P} (hclaim : db.getClaim claim.id = some claim)
    (hc : c ∈ db.claims) (hid : c.id = claim.id) : c = claim := by
  have hfound : db.getClaim claim.id = some c := (Db.getClaim_eq_some hbooks.numbered.keyed).mpr ⟨hc, hid⟩
  exact Option.some.inj (hfound.symm.trans hclaim)

lemma noneSucceeds_failed (hbooks : Books db) {claim : Claim P} (hclaim : db.getClaim claim.id = some claim)
    (hpending : claim.status = .pending) : NoneSucceeds db (db.setClaimStatusToFailed claim.id) := by
  refine .of_update rfl (fun _ => ⟨rfl, rfl⟩) ?_
  intro c hc hsel
  rw [eq_of_getClaim hbooks hclaim hc (of_decide_eq_true hsel), hpending]
  exact ⟨nofun, nofun, fun _ => rfl⟩

/-- One more claim of its Spot has succeeded. -/
lemma mem_successIds_succeeded (hkeys : (db.claims.map Claim.id).Nodup) {claim : Claim P} (hmem : claim ∈ db.claims)
    {id : ℕ} : id ∈ (db.setClaimStatusToSuccess claim.id).successIds spotId ↔
      id ∈ db.successIds spotId ∨ id = claim.id ∧ spotId = claim.spotId := by
  rw [mem_successIds, mem_successIds]
  constructor
  · rintro ⟨c', hc', hid, hspot, hdone⟩
    obtain ⟨c, hc, hrow⟩ := mem_updateWhere.mp hc'
    by_cases hsel : c.id = claim.id
    · have hsame : c = claim := eq_of_key_eq hkeys hc hmem hsel
      rw [if_pos (decide_eq_true hsel), hsame] at hrow
      rw [← hrow] at hid hspot
      exact .inr ⟨hid.symm, hspot.symm⟩
    · rw [if_neg (by simpa using hsel)] at hrow
      rw [← hrow] at hid hspot hdone
      exact .inl ⟨c, hc, hid, hspot, hdone⟩
  · rintro (⟨c, hc, hid, hspot, hdone⟩ | ⟨hid, hspot⟩)
    · refine ⟨if decide (c.id = claim.id) = true then c.withStatus db.now .success else c,
        mem_updateWhere.mpr ⟨c, hc, rfl⟩, ?_⟩
      split_ifs
      · exact ⟨hid, hspot, rfl⟩
      · exact ⟨hid, hspot, hdone⟩
    · refine ⟨claim.withStatus db.now .success, mem_updateWhere.mpr ⟨claim, hmem, ?_⟩, hid.symm, hspot.symm, rfl⟩
      rw [if_pos (decide_eq_true rfl)]

lemma card_successIds_le (db : Db P) (spotId : ℕ) :
    (db.successIds spotId).card ≤ db.countClaimsByStatusForSpot spotId .success := by
  unfold Db.successIds Db.countClaimsByStatusForSpot
  refine (List.toFinset_card_le _).trans ?_
  rw [List.length_map, List.countP_eq_length_filter]

/-- The parts of as many claims as there are places. -/
lemma card_mul_payout_le (spot : Spot P) {n : ℕ} (hplaces : spot.maxTotalClaims = 0 ∨ n ≤ spot.maxTotalClaims) :
    n * standardClaimPayoutAmount spot ≤ spot.totalValue := by
  unfold standardClaimPayoutAmount
  split_ifs with hunlimited
  · simp
  · have hn : n ≤ spot.maxTotalClaims := hplaces.resolve_left hunlimited
    calc n * (spot.totalValue / spot.maxTotalClaims)
        ≤ spot.maxTotalClaims * (spot.totalValue / spot.maxTotalClaims) := Nat.mul_le_mul_right _ hn
      _ ≤ spot.totalValue := Nat.mul_div_le _ _

lemma account_standard {spot : Spot P} (hstandard : spot.prizeCount = none)
    (hrows : db'.transOfSpot spot.id = db.transOfSpot spot.id)
    (hpolicy : db'.cancellationPolicy spot.id = db.cancellationPolicy spot.id) :
    db'.account spot = { db.account spot with payees := db'.successIds spot.id } := by
  unfold Db.account
  simp only [if_pos hstandard, hrows, hpolicy]

/-- More claims succeed on a standard Spot: it is open, or banned and owes nobody. -/
lemma account_succeeded (hbooks : Books db) {spot : Spot P} (hspot : db.getSpot spot.id = some spot)
    (hstandard : spot.prizeCount = none) (hmarker : spot.cancellationStartedAt = none)
    (hopen : spot.status ≠ .draft) (hquiet : spot.status ≠ .completed)
    (hrows : db'.transOfSpot spot.id = db.transOfSpot spot.id)
    (hpolicy : db'.cancellationPolicy spot.id = db.cancellationPolicy spot.id)
    (hmore : db.successIds spot.id ⊆ db'.successIds spot.id)
    (hplaces : spot.maxTotalClaims = 0 ∨ (db'.successIds spot.id).card ≤ spot.maxTotalClaims) :
    (db.account spot).Steps (db'.account spot) := by
  have hunmarked : (db.account spot).marked = false := by
    change spot.cancellationStartedAt.isSome = false
    rw [hmarker]
    rfl
  have hshare : (db.account spot).share = fun _ => standardClaimPayoutAmount spot := if_pos hstandard
  have hpayees : (db.account spot).payees = db.successIds spot.id := if_pos hstandard
  have haccount := account_standard hstandard hrows hpolicy
  have hpolicies : (db'.account spot).policyFee = none → (db.account spot).policyFee = none := by
    rw [haccount]
    exact fun h => h
  cases hstatus : spot.status with
  | draft => exact absurd hstatus hopen
  | completed => exact absurd hstatus hquiet
  | cancelled =>
    have hmarked := (hbooks.sound spot.id spot hspot).cancelled hstatus
    rw [hunmarked] at hmarked
    cases hmarked
  | published =>
    refine .single ⟨?_, hpolicies⟩
    rw [haccount]
    refine .entered _ hstatus hunmarked (hpayees ▸ hmore) ?_
    rw [hshare, Finset.sum_const_nat fun _ _ => rfl]
    exact card_mul_payout_le spot hplaces
  | banned =>
    refine .single ⟨?_, hpolicies⟩
    have hbanned : db'.account spot =
        { db.account spot with status := .banned, payees := db'.successIds spot.id, share := (db.account spot).share } := by
      rw [haccount, ← hstatus]
      rfl
    rw [hbanned]
    exact .banned _ _ hunmarked

/-- A success on a standard Spot waits for no cancellation, and a drawn winner has been paid first. -/
def solvencyPermit : WritePermit P where
  enter _ _ _ _ := True
  settle db claim status :=
    (status = .success → ∀ spot, db.getSpot claim.spotId = some spot → spot.prizeCount = none →
      spot.cancellationStartedAt = none) ∧
    ∀ spot, db.getSpot claim.spotId = some spot → spot.isCompletedPrizedraw = true →
      db.hasConfirmedClaimPayoutTransaction claim.id = true
  touch _ _ := True

/-- The other Spots of a written claim are left alone. -/
lemma ClaimWrite.winnersKept_solvent (hbooks : Books db)
    (hdrawn : ∃ spot, db.getSpot spotId = some spot ∧ spot.isCompletedPrizedraw = true)
    (hwrite : ClaimWrite solvencyPermit db db') : WinnersKept spotId db db' := by
  have hkeys := hbooks.numbered.keyed.claimKeys
  have hpermitted : ∀ {claim : Claim P} {status : ClaimStatus}, solvencyPermit.settle db claim status →
      claim.spotId = spotId → db.hasConfirmedClaimPayoutTransaction claim.id = true := by
    intro claim status hpermit hof
    obtain ⟨spot, hspot, hdone⟩ := hdrawn
    exact hpermit.2 spot (hof ▸ hspot) hdone
  have hkept : ∀ {later : Db P}, ClaimWrite (winnersPermit spotId) db later → WinnersKept spotId db later :=
    fun hwrite => hwrite.winnersKept hkeys hdrawn
  cases hwrite with
  | guarded users markers => exact hkept (.guarded users markers)
  | @entered spot userId payoutAddress position hpublic =>
    obtain ⟨found, hfound, hdone⟩ := hdrawn
    obtain ⟨hspot, hlisted⟩ := Option.filter_eq_some_iff.mp hpublic
    constructor
    · intro c hc hof hwaits
      rcases List.mem_append.mp hc with hold | hnew
      · exact ⟨c, hold, rfl, hof, hwaits⟩
      · rw [List.mem_singleton.mp hnew] at hof
        have hsame : spot.id = spotId := hof
        rw [hsame] at hspot
        rw [← Option.some.inj (hspot.symm.trans hfound)] at hdone
        have hcompleted := (of_decide_eq_true hdone : spot.status = .completed ∧ spot.prizeCount.isSome = true).1
        rw [(of_decide_eq_true hlisted).1] at hcompleted
        cases hcompleted
    · exact fun c hc hof => ⟨c, List.mem_append_left _ hc, rfl, hof, fun hwaits => .inl hwaits⟩
  | attempted hclaim hpending hcode hspot => exact hkept (.attempted hclaim hpending hcode hspot)
  | failed hclaim hpending hpermit => exact hkept (.failed hclaim hpending (hpermitted hpermit))
  | failedReleasing hclaim hpending hpermit => exact hkept (.failedReleasing hclaim hpending (hpermitted hpermit))
  | succeeded hclaim hpending hspot hroom hcode hpermit =>
    exact hkept (.succeeded hclaim hpending hspot hroom hcode (hpermitted hpermit))
  | moved hclaim hpending hpermit =>
    refine hkept (.moved hclaim hpending ?_)
    exact hpermit.imp (fun h => ⟨h.1, trivial⟩) fun h => ⟨h.1, hpermitted h.2⟩

lemma ClaimWrite.sameLeases {permit : WritePermit P} (hwrite : ClaimWrite permit db db') :
    db'.cancellationGuard = db.cancellationGuard ∧ db'.cancellationPolicy = db.cancellationPolicy := by
  cases hwrite with
  | @succeeded claim spot mid _ _ _ _ hcode _ =>
    have hmid : mid.cancellationGuard = db.cancellationGuard ∧ mid.cancellationPolicy = db.cancellationPolicy := by
      rcases hcode with ⟨-, rfl⟩ | ⟨-, code, -, hconsume⟩
      · exact ⟨rfl, rfl⟩
      · unfold Db.consumeClaimCode at hconsume
        obtain ⟨rfl, -⟩ := Prod.mk.injEq .. ▸ hconsume
        exact ⟨rfl, rfl⟩
    unfold Db.failPendingStandardDurationClaimsIfCapacityFull
    cases (mid.setClaimStatusToSuccess claim.id).getSpot claim.spotId with
    | none => exact hmid
    | some spot =>
      dsimp only
      split_ifs <;> exact hmid
  | _ => exact ⟨rfl, rfl⟩

/-- What a claim write leaves of the claims of each Spot. -/
structure ClaimsAdvance (db db' : Db P) : Prop where
  back : ∀ c ∈ db'.claims,
    (∃ old ∈ db.claims, old.spotId = c.spotId ∧ (c.status = .pending → old.status = .pending)) ∨
      ∃ spot, db.getSpot c.spotId = some spot ∧ spot.status = .published
  steps : ∀ spot, db.getSpot spot.id = some spot → spot.prizeCount = none →
    db'.successIds spot.id = db.successIds spot.id ∨ (db.account spot).Steps (db'.account spot)

lemma NoneSucceeds.advance (h : NoneSucceeds db db') : ClaimsAdvance db db' := by
  constructor
  · intro c' hc'
    obtain ⟨c, hc, -, hspot, hwaits, -⟩ := h.back c' hc'
    exact .inl ⟨c, hc, hspot, hwaits⟩
  · exact fun spot _ _ => .inl (h.successIds spot.id)

/-- A new claim waits. -/
lemma claimsAdvance_entered {spot : Spot P} (hpublic : db.getPublicSpot spot.id = some spot) (userId : ℕ)
    (payoutAddress : Option Address) (position : P) :
    ClaimsAdvance db (db.addClaim (db.freshClaim spot.id userId payoutAddress position)) := by
  obtain ⟨hspot, hlisted⟩ := Option.filter_eq_some_iff.mp hpublic
  constructor
  · intro c hc
    rcases List.mem_append.mp hc with hold | hnew
    · exact .inl ⟨c, hold, rfl, fun h => h⟩
    · rw [List.mem_singleton.mp hnew]
      exact .inr ⟨spot, hspot, (of_decide_eq_true hlisted).1⟩
  · intro other _ _
    left
    have hwaits : (db.freshClaim spot.id userId payoutAddress position).status ≠ .success := nofun
    unfold Db.successIds Db.addClaim
    rw [List.filter_append, List.filter_cons_of_neg (by simp [hwaits]), List.filter_nil, List.append_nil]

/-- A claim that finds room succeeds, and a full house fails the others. -/
lemma claimsAdvance_succeeded (hbooks : Books db) {claim : Claim P} {spot : Spot P} {mid : Db P}
    (hclaim : db.getClaim claim.id = some claim) (hpending : claim.status = .pending)
    (hspot : db.getSpot claim.spotId = some spot) (hroom : hasRoom db spot) (hcode : CodeConsumed db spot claim.id mid)
    (hmarker : spot.prizeCount = none → spot.cancellationStartedAt = none)
    (hrows : ∀ spotId, db'.transOfSpot spotId = db.transOfSpot spotId)
    (hpolicy : db'.cancellationPolicy = db.cancellationPolicy)
    (hdb : db' = (mid.setClaimStatusToSuccess claim.id).failPendingStandardDurationClaimsIfCapacityFull claim.spotId) :
    ClaimsAdvance db db' := by
  have hid := getSpot_id hspot
  have hsame : mid.claims = db.claims := hcode.claims
  have hmem : claim ∈ db.claims := ((Db.getClaim_eq_some hbooks.numbered.keyed).mp hclaim).1
  have hcalm : NoneSucceeds (mid.setClaimStatusToSuccess claim.id) db' :=
    hdb ▸ noneSucceeds_failPendingStandard _ claim.spotId
  have hmid : ∀ spotId, mid.successIds spotId = db.successIds spotId := by
    intro spotId
    unfold Db.successIds
    rw [hsame]
  have hids : ∀ spotId id, id ∈ db'.successIds spotId ↔
      id ∈ db.successIds spotId ∨ id = claim.id ∧ spotId = claim.spotId := by
    intro spotId id
    rw [hcalm.successIds, mem_successIds_succeeded (hsame ▸ hbooks.numbered.keyed.claimKeys) (hsame ▸ hmem), hmid]
  constructor
  · intro c' hc'
    obtain ⟨mid', hmid', -, hspot', hwaits, -⟩ := hcalm.back c' hc'
    obtain ⟨c, hc, hrow⟩ := mem_updateWhere.mp hmid'
    rw [hsame] at hc
    refine .inl ⟨c, hc, ?_⟩
    by_cases hsel : c.id = claim.id
    · rw [if_pos (decide_eq_true hsel)] at hrow
      rw [← hrow] at hspot'
      refine ⟨hspot', fun _ => ?_⟩
      rw [eq_of_getClaim hbooks hclaim hc hsel]
      exact hpending
    · rw [if_neg (by simpa using hsel)] at hrow
      rw [← hrow] at hspot' hwaits
      exact ⟨hspot', hwaits⟩
  · intro other hother hstandard
    by_cases hof : other.id = claim.spotId
    · right
      obtain rfl : other = spot := Option.some.inj (hother.symm.trans (hof ▸ hspot))
      have hmore : db.successIds other.id ⊆ db'.successIds other.id := fun id h => (hids other.id id).mpr (.inl h)
      obtain ⟨found, hfound, hdraft⟩ := hbooks.entered claim hmem
      obtain rfl := Option.some.inj (hfound.symm.trans hspot)
      refine account_succeeded hbooks hother hstandard (hmarker hstandard) hdraft ?_ (hrows _) (by rw [hpolicy]) hmore ?_
      · intro hcompleted
        have hprizedraw := hbooks.quiet claim hmem hpending found hspot hcompleted
        rw [hstandard] at hprizedraw
        cases hprizedraw
      · rcases hroom with hprizedraw | hunlimited | hplace
        · rw [hstandard] at hprizedraw
          cases hprizedraw
        · exact .inl hunlimited
        · right
          have hinsert : db'.successIds found.id ⊆ insert claim.id (db.successIds found.id) := by
            intro id hmem'
            rcases (hids found.id id).mp hmem' with hold | ⟨hnew, -⟩
            · exact Finset.mem_insert_of_mem hold
            · rw [hnew]
              exact Finset.mem_insert_self _ _
          have hcard := (Finset.card_le_card hinsert).trans (Finset.card_insert_le _ _)
          have hcount := card_successIds_le db found.id
          omega
    · left
      ext id
      rw [hids]
      exact ⟨fun h => h.resolve_right fun hnew => hof hnew.2, .inl⟩

/-- A claim write under the permit leaves the books in order. -/
lemma ClaimWrite.proceeds (hbooks : Books db) (hwrite : ClaimWrite solvencyPermit db db') : Proceeds cfg db db' := by
  have hground := hwrite.sameGround
  obtain ⟨hguard, hpolicy⟩ := hwrite.sameLeases
  have hclaims : ClaimsAdvance db db' := by
    cases hwrite with
    | guarded => exact NoneSucceeds.advance (.of_eq rfl)
    | entered hpublic => exact claimsAdvance_entered hpublic ..
    | attempted => exact NoneSucceeds.advance (.of_eq rfl)
    | failed hclaim hpending => exact (noneSucceeds_failed hbooks hclaim hpending).advance
    | @failedReleasing claim hclaim hpending =>
      have hreleased : NoneSucceeds (db.setClaimStatusToFailed claim.id)
          ((db.setClaimStatusToFailed claim.id).releaseCodeFromClaim claim.id) := .of_eq rfl
      exact ((noneSucceeds_failed hbooks hclaim hpending).then hreleased).advance
    | @moved claim position score status hclaim hpending hpermit =>
      refine NoneSucceeds.advance (.of_update (modifyClaimLocationScore_claims db claim.id position score status)
        (fun _ => ⟨rfl, rfl⟩) ?_)
      intro c hc hsel
      rw [eq_of_getClaim hbooks hclaim hc (of_decide_eq_true hsel), hpending]
      refine ⟨nofun, ?_, fun _ => rfl⟩
      rcases hpermit with ⟨rfl, -⟩ | ⟨rfl, -⟩
      · nofun
      · nofun
    | @succeeded claim spot mid hclaim hpending hspot hroom hcode hpermit =>
      have hrows : ∀ spotId, Db.transOfSpot ((mid.setClaimStatusToSuccess claim.id).failPendingStandardDurationClaimsIfCapacityFull
          claim.spotId) spotId = db.transOfSpot spotId := by
        intro spotId
        unfold Db.transOfSpot
        rw [hground.trans]
      exact claimsAdvance_succeeded hbooks hclaim hpending hspot hroom hcode (hpermit.1 rfl spot hspot) hrows hpolicy rfl
  refine .of_claims hbooks (hwrite.numbered hbooks.numbered) hground.spots hground.trans hground.now.ge hguard hpolicy
    hwrite.claimsKept ?_ ?_ (fun _ hdrawn => hwrite.winnersKept_solvent hbooks hdrawn) hclaims.steps
  · intro c hc
    exact (hclaims.back c hc).imp_left fun ⟨old, hold, hspot, _⟩ => ⟨old, hold, hspot⟩
  · intro c hc hwaits
    exact (hclaims.back c hc).imp_left fun ⟨old, hold, hspot, hstill⟩ => ⟨old, hold, hspot, hstill hwaits⟩

lemma ClaimWrites.proceeds (hbooks : Books db) (hwrites : ClaimWrites solvencyPermit db db') : Proceeds cfg db db' := by
  induction hwrites with
  | refl => exact .refl hbooks
  | tail _ hwrite ih => exact ih.then (hwrite.proceeds ih.books)

end Claims

section Spots

variable {cfg : Settings P} {db db' : Db P}

/-- Only claims of the Spots `ids` are rewritten. -/
structure ClaimsElsewhere (ids : ℕ → Prop) (db db' : Db P) : Prop where
  back : ∀ c' ∈ db'.claims, ∃ c ∈ db.claims, c.id = c'.id ∧ c.spotId = c'.spotId ∧
    (¬ ids c.spotId → c'.status = c.status)
  forth : ∀ c ∈ db.claims, ∃ c' ∈ db'.claims, c'.id = c.id ∧ c'.spotId = c.spotId ∧
    (¬ ids c.spotId → c'.status = c.status)

lemma ClaimsElsewhere.of_eq {ids : ℕ → Prop} (hclaims : db'.claims = db.claims) : ClaimsElsewhere ids db db' := by
  constructor
  · rw [hclaims]
    exact fun c hc => ⟨c, hc, rfl, rfl, fun _ => rfl⟩
  · rw [hclaims]
    exact fun c hc => ⟨c, hc, rfl, rfl, fun _ => rfl⟩

lemma ClaimsElsewhere.of_update {ids : ℕ → Prop} {sel : Claim P → Bool} {status : ClaimStatus}
    (hclaims : db'.claims = updateWhere sel (Claim.withStatus db.now status) db.claims)
    (hsel : ∀ c ∈ db.claims, sel c = true → ids c.spotId) : ClaimsElsewhere ids db db' := by
  constructor
  · intro c' hc'
    rw [hclaims] at hc'
    obtain ⟨c, hc, hrow⟩ := mem_updateWhere.mp hc'
    by_cases hs : sel c = true
    · rw [if_pos hs] at hrow
      rw [← hrow]
      exact ⟨c, hc, rfl, rfl, fun hother => absurd (hsel c hc hs) hother⟩
    · rw [if_neg hs] at hrow
      rw [← hrow]
      exact ⟨c, hc, rfl, rfl, fun _ => rfl⟩
  · intro c hc
    rw [hclaims]
    refine ⟨_, mem_updateWhere.mpr ⟨c, hc, rfl⟩, ?_⟩
    by_cases hs : sel c = true
    · rw [if_pos hs]
      exact ⟨rfl, rfl, fun hother => absurd (hsel c hc hs) hother⟩
    · rw [if_neg hs]
      exact ⟨rfl, rfl, fun _ => rfl⟩

lemma ClaimsElsewhere.then {ids : ℕ → Prop} {db'' : Db P} (h : ClaimsElsewhere ids db db')
    (h' : ClaimsElsewhere ids db' db'') : ClaimsElsewhere ids db db'' := by
  constructor
  · intro c'' hc''
    obtain ⟨c', hc', hid', hspot', hsame'⟩ := h'.back c'' hc''
    obtain ⟨c, hc, hid, hspot, hsame⟩ := h.back c' hc'
    exact ⟨c, hc, hid.trans hid', hspot.trans hspot', fun hother => (hsame' (hspot ▸ hother)).trans (hsame hother)⟩
  · intro c hc
    obtain ⟨c', hc', hid, hspot, hsame⟩ := h.forth c hc
    obtain ⟨c'', hc'', hid', hspot', hsame'⟩ := h'.forth c' hc'
    exact ⟨c'', hc'', hid'.trans hid, hspot'.trans hspot, fun hother =>
      (hsame' (hspot.symm ▸ hother)).trans (hsame hother)⟩

lemma ClaimsElsewhere.successIds {ids : ℕ → Prop} (h : ClaimsElsewhere ids db db') {spotId : ℕ} (hother : ¬ ids spotId) :
    db'.successIds spotId = db.successIds spotId := by
  ext id
  rw [mem_successIds, mem_successIds]
  constructor
  · rintro ⟨c', hc', hid, hspot, hdone⟩
    obtain ⟨c, hc, hid', hspot', hsame⟩ := h.back c' hc'
    have hof : c.spotId = spotId := hspot'.trans hspot
    exact ⟨c, hc, hid'.trans hid, hof, (hsame (hof ▸ hother)).symm.trans hdone⟩
  · rintro ⟨c, hc, hid, hspot, hdone⟩
    obtain ⟨c', hc', hid', hspot', hsame⟩ := h.forth c hc
    exact ⟨c', hc', hid'.trans hid, hspot'.trans hspot, (hsame (hspot ▸ hother)).trans hdone⟩

lemma ClaimsElsewhere.winnerIds {ids : ℕ → Prop} (h : ClaimsElsewhere ids db db') (htrans : db'.trans = db.trans)
    {spotId : ℕ} (hother : ¬ ids spotId) :
    db'.getPrizedrawWinnerClaimIds spotId = db.getPrizedrawWinnerClaimIds spotId := by
  apply winnerIds_congr
  intro id
  rw [mem_winnerIds, mem_winnerIds, htrans]
  refine or_congr_left ?_
  constructor
  · rintro ⟨c', hc', hid, hspot, hwaits⟩
    obtain ⟨c, hc, hid', hspot', hsame⟩ := h.back c' hc'
    have hof : c.spotId = spotId := hspot'.trans hspot
    exact ⟨c, hc, hid'.trans hid, hof, (hsame (hof ▸ hother)).symm.trans hwaits⟩
  · rintro ⟨c, hc, hid, hspot, hwaits⟩
    obtain ⟨c', hc', hid', hspot', hsame⟩ := h.forth c hc
    exact ⟨c', hc', hid'.trans hid, hspot'.trans hspot, (hsame (hspot ▸ hother)).trans hwaits⟩

/-- What becomes of one Spot, and of its claims with it. -/
structure SpotAdvances (db db' : Db P) (spot spot' : Spot P) : Prop where
  steps : (db.account spot).Steps (db'.account spot')
  placed : spot.status ≠ .draft → spot'.status ≠ .draft
  quiet : spot'.status = .completed → spot'.prizeCount = none →
    ∀ c ∈ db'.claims, c.spotId = spot.id → c.status ≠ .pending
  undrawn : spot'.isCompletedPrizedraw = true → ∀ t ∈ db.trans, t.spotId = some spot.id → t.type ≠ .claim
  drawable : spot'.prizeCount.isSome = true → spot'.status = .published → spot'.cancellationStartedAt = none

/-- The row of one Spot is rewritten, and perhaps its claims. -/
lemma Advances.of_spot (hbooks : Books db) (hnumbered : Numbered db') {sel : Spot P → Bool} {f : Spot P → Spot P}
    (hspots : db'.spots = updateWhere sel f db.spots) (hid : ∀ s, (f s).id = s.id) (htrans : db'.trans = db.trans)
    (hnow : db.now ≤ db'.now) (hpolicy : db'.cancellationPolicy = db.cancellationPolicy)
    (hclaims : ClaimsElsewhere (fun id => ∃ s, db.getSpot id = some s ∧ sel s = true) db db')
    (hrow : ∀ s, db.getSpot s.id = some s → sel s = true → SpotAdvances db db' s (f s)) : Advances cfg db db' := by
  have hrows : ∀ spotId, db'.transOfSpot spotId = db.transOfSpot spotId := by
    intro spotId
    unfold Db.transOfSpot
    rw [htrans]
  have hget : ∀ spotId, db'.getSpot spotId = (db.getSpot spotId).map fun s => if sel s then f s else s := by
    intro spotId
    unfold Db.getSpot
    rw [hspots]
    exact find?_updateWhere_key hid spotId
  have hcases : ∀ {spotId : ℕ} {spot' : Spot P}, db'.getSpot spotId = some spot' → ∃ s, db.getSpot spotId = some s ∧
      s.id = spotId ∧ (sel s = true ∧ spot' = f s ∧ SpotAdvances db db' s (f s) ∨
        spot' = s ∧ ¬ ∃ found, db.getSpot spotId = some found ∧ sel found = true) := by
    intro spotId spot' hspot'
    rw [hget] at hspot'
    obtain ⟨s, hs, hrow'⟩ := Option.map_eq_some_iff.mp hspot'
    have hself : db.getSpot s.id = some s := (getSpot_id hs).symm ▸ hs
    refine ⟨s, hs, getSpot_id hs, ?_⟩
    by_cases hsel : sel s = true
    · rw [if_pos hsel] at hrow'
      exact .inl ⟨hsel, hrow'.symm, hrow s hself hsel⟩
    · rw [if_neg hsel] at hrow'
      refine .inr ⟨hrow'.symm, ?_⟩
      rintro ⟨found, hfound, hsel'⟩
      exact hsel (Option.some.inj (hs.symm.trans hfound) ▸ hsel')
  have haccounts : AccountsMove db db' := by
    refine .of_update hspots hid (fun s hs hsel => (hrow s hs hsel).steps) ?_
    intro s hs hsel
    have hother : ¬ ∃ found, db.getSpot s.id = some found ∧ sel found = true := by
      rintro ⟨found, hfound, hsel'⟩
      rw [Option.some.inj (hs.symm.trans hfound), hsel'] at hsel
      cases hsel
    rw [account_congr s (hrows s.id) (fun _ => hclaims.successIds hother) (fun _ => hclaims.winnerIds htrans hother)
      (by rw [hpolicy])]
  refine ⟨haccounts, ?_, fun row => stillRead_congr htrans⟩
  constructor
  · exact hnumbered
  · intro spotId spot' hspot'
    obtain ⟨spot, hspot, -, -⟩ := hcases hspot'
    obtain ⟨found, hfound, hsteps⟩ := haccounts.stays spotId spot hspot
    obtain rfl := Option.some.inj (hspot'.symm.trans hfound)
    exact hsteps.sound (hbooks.sound spotId spot hspot)
  · rw [htrans]
    exact hbooks.ordered
  · rw [htrans]
    exact fun t ht => (hbooks.dated t ht).trans hnow
  · rw [htrans]
    intro t ht spotId hspotId
    rw [hget, Option.isSome_map]
    exact hbooks.placed t ht spotId hspotId
  · intro c' hc'
    obtain ⟨c, hc, -, hspotId, -⟩ := hclaims.back c' hc'
    obtain ⟨spot, hspot, hdraft⟩ := hbooks.entered c hc
    rw [← hspotId]
    obtain ⟨spot', hspot', -⟩ := haccounts.stays c.spotId spot hspot
    obtain ⟨s, hs, -, ⟨-, hnew, hadvances⟩ | ⟨hsame, -⟩⟩ := hcases hspot'
    · obtain rfl := Option.some.inj (hspot.symm.trans hs)
      exact ⟨spot', hspot', hnew ▸ hadvances.placed hdraft⟩
    · obtain rfl := Option.some.inj (hspot.symm.trans hs)
      exact ⟨spot', hspot', hsame ▸ hdraft⟩
  · rw [htrans]
    intro t ht htype
    obtain ⟨claim, hclaim, hclaimId, hspotId⟩ := hbooks.booked t ht htype
    obtain ⟨claim', hclaim', hid', hspot', -⟩ := hclaims.forth claim hclaim
    exact ⟨claim', hclaim', by rw [hid']; exact hclaimId, by rw [hspot']; exact hspotId⟩
  · intro c' hc' hwaits spot' hspot' hcompleted
    obtain ⟨c, hc, -, hspotId, hsame⟩ := hclaims.back c' hc'
    obtain ⟨s, hs, hof, ⟨-, rfl, hadvances⟩ | ⟨rfl, hother⟩⟩ := hcases hspot'
    · by_contra hstandard
      exact hadvances.quiet hcompleted (by simpa using hstandard) c' hc' hof.symm hwaits
    · rw [← hspotId] at hother hs
      exact hbooks.quiet c hc ((hsame hother).symm.trans hwaits) spot' hs hcompleted
  · rw [htrans]
    intro t ht htype spotId spot' hspotId hspot' hdrawn id hclaimId
    obtain ⟨s, hs, hof, ⟨-, rfl, hadvances⟩ | ⟨rfl, hother⟩⟩ := hcases hspot'
    · exact absurd htype (hadvances.undrawn hdrawn t ht (hof.symm ▸ hspotId))
    · have hsame : db'.hasConfirmedClaimPayoutTransaction id = db.hasConfirmedClaimPayoutTransaction id := by
        unfold Db.hasConfirmedClaimPayoutTransaction
        rw [htrans]
      rcases hbooks.paidOut t ht htype spotId spot' hspotId hs hdrawn id hclaimId with ⟨c, hc, hcid, hwaits⟩ | hpaid
      · have hofRow : t.spotId = some c.spotId := hbooks.sameSpot ht htype hc (hcid ▸ hclaimId)
        obtain ⟨c', hc', hid', -, hkept⟩ := hclaims.forth c hc
        rw [Option.some.inj (hofRow.symm.trans hspotId)] at hkept
        exact .inl ⟨c', hc', hid'.trans hcid, (hkept hother).trans hwaits⟩
      · exact .inr (hsame ▸ hpaid)
  · intro spotId spot' hspot' hprizedraw hpublished
    obtain ⟨s, hs, -, ⟨-, rfl, hadvances⟩ | ⟨rfl, -⟩⟩ := hcases hspot'
    · exact hadvances.drawable hprizedraw hpublished
    · exact hbooks.drawable spotId spot' hs hprizedraw hpublished

end Spots

end NimHunt
