import NimHunt.Proofs.CooldownMarkers

/-!
# The truthful traveller

The location guard pairs the place of a claim with the time its row is dated by.  Where every such date is a moment
the user spent inside the Spot, a user who reports true positions is refused nothing.
-/

namespace NimHunt

open Lib Relation

variable {P : Type}

section Dates

variable {cfg : Settings P} {db db' db'' : Db P}

/-- Claims are decided or stay as they are: a claim that waits keeps its last update. -/
def DatesKept (db db' : Db P) : Prop :=
  ∀ c' ∈ db'.claims, ∃ c ∈ db.claims, SameClaim c c' ∧
    (c'.status = .pending → c.status = .pending ∧ c'.updatedAt = c.updatedAt)

lemma DatesKept.of_eq (hclaims : db'.claims = db.claims) : DatesKept db db' :=
  fun c hc => ⟨c, hclaims ▸ hc, .refl c, fun hpending => ⟨hpending, rfl⟩⟩

lemma DatesKept.then (h : DatesKept db db') (h' : DatesKept db' db'') : DatesKept db db'' := by
  intro c'' hc''
  obtain ⟨c', hc', hsame', hdate'⟩ := h' c'' hc''
  obtain ⟨c, hc, hsame, hdate⟩ := h c' hc'
  refine ⟨c, hc, hsame.then hsame', ?_⟩
  intro hpending
  obtain ⟨hbefore, hupdated'⟩ := hdate' hpending
  obtain ⟨hfirst, hupdated⟩ := hdate hbefore
  exact ⟨hfirst, hupdated'.trans hupdated⟩

lemma datesKept_of_update {sel : Claim P → Bool} {f : Claim P → Claim P}
    (hclaims : db'.claims = updateWhere sel f db.claims) (hsame : ∀ c, SameClaim c (f c))
    (hdecided : ∀ c, (f c).status ≠ .pending) : DatesKept db db' := by
  intro c' hc'
  rw [hclaims] at hc'
  obtain ⟨c, hc, heq⟩ := mem_updateWhere.mp hc'
  by_cases hsel : sel c = true
  · rw [if_pos hsel] at heq
    rw [← heq]
    exact ⟨c, hc, hsame c, fun hpending => absurd hpending (hdecided c)⟩
  · rw [if_neg hsel] at heq
    rw [← heq]
    exact ⟨c, hc, .refl c, fun hpending => ⟨hpending, rfl⟩⟩

lemma datesKept_decided (db : Db P) (sel : Claim P → Bool) {status : ClaimStatus} (hne : status ≠ .pending) :
    DatesKept db (db.updateClaimStatus sel status) :=
  datesKept_of_update rfl (sameClaim_withStatus db.now status) fun _ => hne

lemma datesKept_failPendingStandard (db : Db P) (spotId : ℕ) :
    DatesKept db (db.failPendingStandardDurationClaimsIfCapacityFull spotId) := by
  unfold Db.failPendingStandardDurationClaimsIfCapacityFull
  cases db.getSpot spotId with
  | none => exact .of_eq rfl
  | some spot =>
    dsimp only
    split_ifs
    · exact .of_eq rfl
    · exact .of_eq rfl
    · exact .of_eq rfl
    · exact datesKept_decided db _ nofun

end Dates

section Sightings

variable {cfg : Settings P} {path : ℕ → P} {userId : ℕ} {db db' : Db P}

/-- The position lies inside the Spot. -/
def Inside (cfg : Settings P) (db : Db P) (spotId : ℕ) (position : P) : Prop :=
  ∀ spot centre, db.getSpot spotId = some spot → spot.position = some centre →
    cfg.distanceMetres position centre ≤ spot.radius

/-- The last update of a claim that is dated by it was made inside its Spot. -/
def LastSeenThere (cfg : Settings P) (path : ℕ → P) (userId : ℕ) (db : Db P) : Prop :=
  ∀ c ∈ db.claims, c.recipient = userId → c.status = .pending → ∀ spot, db.getSpot c.spotId = some spot →
    0 < spot.claimDuration → Inside cfg db c.spotId (path c.updatedAt)

/-- The user was inside the Spot at every moment a claim may be dated by. -/
structure Sightings (cfg : Settings P) (path : ℕ → P) (userId : ℕ) (db : Db P) : Prop where
  placed : db.Placed
  claimed : WasThere cfg path userId db
  updated : LastSeenThere cfg path userId db

/-- Where a claim of the user comes from, as far as its dates go. -/
inductive SeenRow (cfg : Settings P) (path : ℕ → P) (db : Db P) (c' : Claim P) : Prop
  | kept {c : Claim P} (hc : c ∈ db.claims) (hsame : SameClaim c c')
      (hdate : c'.status = .pending → c.status = .pending ∧ c'.updatedAt = c.updatedAt)
  | redated {c : Claim P} (hc : c ∈ db.claims) (hsame : SameClaim c c')
      (hinside : ∀ spot, db.getSpot c.spotId = some spot → 0 < spot.claimDuration →
        Inside cfg db c.spotId (path c'.updatedAt))
  | entered {spot : Spot P} (hspot : db.getSpot c'.spotId = some spot) (hdraft : spot.status ≠ .draft)
      (hinside : Inside cfg db c'.spotId (path c'.claimedAt)) (hupdated : c'.updatedAt = c'.claimedAt)

lemma DatesKept.seenRow (h : DatesKept db db') {c' : Claim P} (hc' : c' ∈ db'.claims) : SeenRow cfg path db c' := by
  obtain ⟨c, hc, hsame, hdate⟩ := h c' hc'
  exact .kept hc hsame hdate

/-- A Spot that takes claims keeps its place. -/
lemma Inside.kept {spotId : ℕ} {position : P} (h : Inside cfg db spotId position) (hterms : TermsKept db db')
    (hplaced : ∃ spot, db.getSpot spotId = some spot ∧ spot.status ≠ .draft) : Inside cfg db' spotId position := by
  intro spot' centre hspot' hcentre
  obtain ⟨spot, hspot, hdraft⟩ := hplaced
  obtain ⟨status, marker, -, -, hnext⟩ := hterms spotId spot hspot hdraft
  obtain rfl := Option.some.inj (hnext.symm.trans hspot')
  exact h spot centre hspot hcentre

lemma TermsKept.duration {spotId : ℕ} (hterms : TermsKept db db')
    (hplaced : ∃ spot, db.getSpot spotId = some spot ∧ spot.status ≠ .draft) {spot' : Spot P}
    (hspot' : db'.getSpot spotId = some spot') :
    ∃ spot, db.getSpot spotId = some spot ∧ spot'.claimDuration = spot.claimDuration := by
  obtain ⟨spot, hspot, hdraft⟩ := hplaced
  obtain ⟨status, marker, -, -, hnext⟩ := hterms spotId spot hspot hdraft
  obtain rfl := Option.some.inj (hnext.symm.trans hspot')
  exact ⟨spot, hspot, rfl⟩

lemma Sightings.rows (h : Sightings cfg path userId db) (hterms : TermsKept db db') (hplaced : db'.Placed)
    (hrows : ∀ c' ∈ db'.claims, c'.recipient = userId → SeenRow cfg path db c') :
    Sightings cfg path userId db' := by
  refine ⟨hplaced, ?_, ?_⟩
  · intro c' hc' howner
    cases hrows c' hc' howner with
    | @kept c hc hsame _ =>
      have hwas : Inside cfg db c.spotId (path c.claimedAt) := h.claimed c hc (hsame.recipient.symm.trans howner)
      rw [hsame.spotId, hsame.claimedAt]
      exact hwas.kept hterms (h.placed c hc)
    | @redated c hc hsame _ =>
      have hwas : Inside cfg db c.spotId (path c.claimedAt) := h.claimed c hc (hsame.recipient.symm.trans howner)
      rw [hsame.spotId, hsame.claimedAt]
      exact hwas.kept hterms (h.placed c hc)
    | entered hspot hdraft hinside _ => exact hinside.kept hterms ⟨_, hspot, hdraft⟩
  · intro c' hc' howner hpending spot' hspot' hduration
    cases hrows c' hc' howner with
    | @kept c hc hsame hdate =>
      obtain ⟨hwaits, hupdated⟩ := hdate hpending
      rw [hsame.spotId] at hspot' ⊢
      obtain ⟨spot, hspot, hsameDuration⟩ := hterms.duration (h.placed c hc) hspot'
      rw [hsameDuration] at hduration
      rw [hupdated]
      exact (h.updated c hc (hsame.recipient.symm.trans howner) hwaits spot hspot hduration).kept hterms (h.placed c hc)
    | @redated c hc hsame hinside =>
      rw [hsame.spotId] at hspot' ⊢
      obtain ⟨spot, hspot, hsameDuration⟩ := hterms.duration (h.placed c hc) hspot'
      rw [hsameDuration] at hduration
      exact (hinside spot hspot hduration).kept hterms (h.placed c hc)
    | entered hspot hdraft hinside hupdated =>
      rw [hupdated]
      exact hinside.kept hterms ⟨_, hspot, hdraft⟩

/-- Every anchor of the guard is where the user was at its date. -/
lemma Sightings.claimAnchorOf (h : Sightings cfg path userId db) {c : Claim P} (hc : c ∈ db.claims)
    (howner : c.recipient = userId) {anchor : ClaimAnchor P} (hanchor : db.claimAnchorOf c = some anchor) :
    cfg.distanceMetres (path anchor.observedAt) anchor.centre ≤ anchor.radius := by
  unfold Db.claimAnchorOf at hanchor
  obtain ⟨spot, hspot, hplace⟩ := Option.bind_eq_some_iff.mp hanchor
  obtain ⟨centre, hcentre, rfl⟩ := Option.map_eq_some_iff.mp hplace
  dsimp only
  have hclaimed := h.claimed c hc howner spot centre hspot hcentre
  unfold claimObservedAt
  split_ifs with hwaits
  · rcases max_choice c.claimedAt c.updatedAt with hlatest | hlatest
    · rw [hlatest]
      exact hclaimed
    · rw [hlatest]
      exact h.updated c hc howner hwaits.1 spot hspot hwaits.2 spot centre hspot hcentre
  · exact hclaimed

/-- The user's claims are entered and kept waiting inside their Spots only; draws are another matter. -/
def insidePermit (cfg : Settings P) (path : ℕ → P) (userId : ℕ) : Permit P where
  enter db spot recipient _ := recipient = userId → Inside cfg db spot.id (path db.now)
  settle _ _ _ := True
  touch db c := c.recipient = userId → ∀ spot, db.getSpot c.spotId = some spot → 0 < spot.claimDuration →
    Inside cfg db c.spotId (path db.now)
  draw _ _ _ := False
  ban _ _ := True

lemma ClaimWrite.seenRow (hwrite : ClaimWrite (insidePermit cfg path userId).toWritePermit db db')
    (hkeys : (db.claims.map Claim.id).Nodup) :
    ∀ c' ∈ db'.claims, c'.recipient = userId → SeenRow cfg path db c' := by
  have hkept : DatesKept db db' → ∀ c' ∈ db'.claims, c'.recipient = userId → SeenRow cfg path db c' :=
    fun h c' hc' _ => h.seenRow hc'
  cases hwrite with
  | guarded => exact hkept (.of_eq rfl)
  | attempted => exact hkept (.of_eq rfl)
  | @entered spot recipient payoutAddress position hpublic _ hpermit =>
    intro c' hc' howner
    cases List.mem_append.mp hc' with
    | inl hold => exact .kept hold (.refl c') fun hpending => ⟨hpending, rfl⟩
    | inr hnew =>
      have hfresh := List.mem_singleton.mp hnew
      have hpublished : spot.status = .published := (of_decide_eq_true (Option.filter_eq_some_iff.mp hpublic).2).1
      rw [hfresh] at howner ⊢
      exact .entered (getPublicSpot_getSpot hpublic) (by rw [hpublished]; nofun) (hpermit howner) rfl
  | failed => exact hkept (datesKept_decided db _ nofun)
  | @failedReleasing claim _ _ _ =>
    have hfailed : DatesKept db (db.setClaimStatusToFailed claim.id) := datesKept_decided db _ nofun
    exact hkept (hfailed.then (.of_eq rfl))
  | @succeeded claim spot coded _ _ _ _ hcode _ =>
    have hcoded : DatesKept db coded := .of_eq hcode.claims
    have hset : DatesKept coded (coded.setClaimStatusToSuccess claim.id) := datesKept_decided coded _ nofun
    exact hkept ((hcoded.then hset).then (datesKept_failPendingStandard _ _))
  | @moved claim position score status hclaim _ hpermit =>
    have hclaims := modifyClaimLocationScore_claims db claim.id position score status
    rcases hpermit with ⟨hstatus, htouch⟩ | ⟨hstatus, -⟩
    · intro c' hc' howner
      rw [hclaims] at hc'
      obtain ⟨c, hc, hrow⟩ := mem_updateWhere.mp hc'
      by_cases hid : c.id = claim.id
      · have hthis : c = claim := Option.some.inj (((find?_key_eq_some hkeys).mpr ⟨hc, hid⟩).symm.trans hclaim)
        rw [if_pos (decide_eq_true hid)] at hrow
        rw [← hrow] at howner ⊢
        refine .redated hc ⟨rfl, rfl, rfl, rfl⟩ ?_
        rw [hthis] at howner ⊢
        exact htouch howner
      · rw [if_neg (fun hsel => hid (of_decide_eq_true hsel))] at hrow
        rw [← hrow]
        exact .kept hc (.refl c) fun hpending => ⟨hpending, rfl⟩
    · refine hkept (datesKept_of_update hclaims (fun _ => ⟨rfl, rfl, rfl, rfl⟩) fun _ => ?_)
      rw [hstatus]
      nofun

lemma DbWrite.seenRow (hwrite : DbWrite cfg (insidePermit cfg path userId) db db')
    (hkeys : (db.claims.map Claim.id).Nodup) :
    ∀ c' ∈ db'.claims, c'.recipient = userId → SeenRow cfg path db c' := by
  have hkept : DatesKept db db' → ∀ c' ∈ db'.claims, c'.recipient = userId → SeenRow cfg path db c' :=
    fun h c' hc' _ => h.seenRow hc'
  cases hwrite with
  | claim hwrite => exact hwrite.seenRow hkeys
  | drawn _ _ _ _ hpermit => exact hpermit.elim
  | paid => exact hkept (datesKept_decided db _ nofun)
  | banned => exact hkept (datesKept_decided db _ nofun)
  | undrafted _ _ _ hunclaimed => exact hkept (.of_eq (deleteSpot_claims hunclaimed))
  | _ => exact hkept (.of_eq rfl)

lemma DbWrites.sightings (hwrites : DbWrites cfg (insidePermit cfg path userId) db db') (hnumbered : Numbered db)
    (h : Sightings cfg path userId db) : Sightings cfg path userId db' := by
  induction hwrites with
  | refl => exact h
  | tail hbefore hwrite ih =>
    have hmid := DbWrites.numbered hbefore hnumbered
    exact ih.rows hwrite.termsKept (hwrite.placed hmid ih.placed) (hwrite.seenRow hmid.keyed.claimKeys)

end Sightings

section Reports

/-- What the user reports is where the user is. -/
def ReportsTruly (path : ℕ → P) (userId : ℕ) (s : Sys P) : Op P → Prop
  | .claim req => req.userId = userId → req.position = path s.db.now
  | .heartbeat _ reporter position _ => reporter = userId → position = path s.db.now
  | _ => True

/-- No attempt of the user is admitted by the margin of the GPS accuracy alone. -/
def ClaimsWithoutMargin (cfg : Settings P) (userId : ℕ) (s : Sys P) : Op P → Prop
  | .claim req => req.userId = userId → ∀ check,
    getClaimDistanceCheck cfg s.db req.spotId req.position req.locationAccuracyMetres = .ok (some check) →
    check.withinRadius = true → check.distanceMetres ≤ check.radiusMetres
  | _ => True

/-- A heartbeat that is recorded and leaves some of the score: the claim is dated anew. -/
structure DatesAnew (cfg : Settings P) (db : Db P) (claim : Claim P) (spot : Spot P) (position : P)
    (accuracy : Option ℚ) : Prop where
  duration : 0 < spot.claimDuration
  refreshed : spot.isCompletedPrizedraw = false → StillWaits db claim spot
  scored : ∃ check, getClaimDistanceCheck cfg db claim.spotId position accuracy = .ok (some check) ∧
    0 < nextScore claim.accuracy (durationClaimPenalty check.effectiveDistanceMetres check.radiusMetres)

/-- A heartbeat dates a claim of the user anew inside its Spot only. -/
def WaitsInside (cfg : Settings P) (userId : ℕ) (s : Sys P) : Op P → Prop
  | .heartbeat claimId reporter position accuracy => reporter = userId → ∀ claim spot,
    s.db.getClaim claimId = some claim → claim.recipient = userId → claim.status = .pending →
    s.db.getSpot claim.spotId = some spot → DatesAnew cfg s.db claim spot position accuracy →
    Inside cfg s.db claim.spotId position
  | _ => True

/-- A draw picks a claim of the user on a Spot with a duration only while the user is inside. -/
def DrawnInside (cfg : Settings P) (path : ℕ → P) (userId : ℕ) (s : Sys P) : Op P → Prop
  | .settlePrizedraw spotId sample => ∀ spot result, s.db.getSpot spotId = some spot → 0 < spot.claimDuration →
    (settlePrizedrawSpotIfReady sample s.db spotId).2 = .ok result →
    ∀ c ∈ s.db.claims, c.recipient = userId → c.id ∈ result.winnerClaimIds →
      Inside cfg s.db spotId (path s.db.now)
  | _ => True

variable {cfg : Settings P} {path : ℕ → P} {userId : ℕ} {s : Sys P} {op : Op P}

/-- Every operation but a draw enters and dates the user's claims inside their Spots. -/
lemma admitted_inside (htrue : ReportsTruly path userId s op) (hmargin : ClaimsWithoutMargin cfg userId s op)
    (hwaits : WaitsInside cfg userId s op) (hdraw : ∀ spotId sample, op ≠ .settlePrizedraw spotId sample) :
    op.Admitted cfg (insidePermit cfg path userId) s.db := by
  cases op with
  | claim req =>
    refine ⟨?_, fun _ _ _ _ _ _ => trivial⟩
    intro spot claim entered markers henters howner found centre hfound hcentre
    have htruthful : TruthfulAttempt cfg path s.db req := ⟨htrue howner, hmargin howner⟩
    rw [henters.spot_id] at hfound
    exact htruthful.inside henters.near hfound hcentre
  | heartbeat claimId reporter position accuracy =>
    intro claim spot hclaim howner hpending hspot
    refine ⟨fun _ => ⟨trivial, fun _ _ _ => trivial⟩, ?_⟩
    intro hrefreshed
    refine ⟨fun _ _ _ => trivial, fun _ _ _ => trivial, ?_, fun _ _ _ _ => trivial⟩
    intro check hcheck hscore hmine found hfound hduration
    have hreporter : reporter = userId := howner.symm.trans hmine
    rw [← Option.some.inj (hspot.symm.trans hfound)] at hduration
    have hinside := hwaits hreporter claim spot hclaim hmine hpending hspot
      ⟨hduration, hrefreshed, check, hcheck, hscore⟩
    rw [htrue hreporter] at hinside
    exact hinside
  | refresh claimId => exact fun _ _ _ _ _ _ => ⟨trivial, fun _ _ _ => trivial⟩
  | settlePrizedraw spotId sample => exact absurd rfl (hdraw spotId sample)
  | banSpot spotId => exact ⟨trivial, trivial⟩
  | _ => trivial

/-- A draw picks the claims it answers with, or leaves the claims alone. -/
lemma settlePrizedraw_claims (sample : Sampler P) (db : Db P) (spotId : ℕ) :
    (settlePrizedrawSpotIfReady sample db spotId).1.claims = db.claims ∨
    ∃ spot result, db.getSpot spotId = some spot ∧ (settlePrizedrawSpotIfReady sample db spotId).2 = .ok result ∧
      (settlePrizedrawSpotIfReady sample db spotId).1.claims =
        ((db.failPendingClaimsForSpot spot.id).markPrizedrawWinnersPending spot.id result.winnerClaimIds).1.claims := by
  unfold settlePrizedrawSpotIfReady
  cases db.getSpot spotId with
  | none => exact .inl rfl
  | some spot =>
    dsimp only
    by_cases hpublished : spot.status = .published
    · rw [if_neg (not_not_intro hpublished)]
      cases spot.prizeCount with
      | none => exact .inl rfl
      | some prizeCount =>
        dsimp only
        cases db.settlementReadyReason spot with
        | none => exact .inl rfl
        | some reason =>
          dsimp only
          unfold drawPrizedraw
          dsimp only
          generalize List.insertionSort (fun a b : ℕ => a ≤ b) (List.map Claim.id _) = winners
          split_ifs
          · exact .inl rfl
          · exact .inr ⟨spot, _, rfl, rfl, rfl⟩
    · rw [if_pos hpublished]
      exact .inl rfl

/-- The draw dates its winners anew, and decides what still waits. -/
lemma settlePrizedraw_seenRow {sample : Sampler P} {spotId : ℕ}
    (hdrawn : DrawnInside cfg path userId s (.settlePrizedraw spotId sample)) :
    ∀ c' ∈ (settlePrizedrawSpotIfReady sample s.db spotId).1.claims, c'.recipient = userId →
      SeenRow cfg path s.db c' := by
  intro c'' hc'' howner
  rcases settlePrizedraw_claims sample s.db spotId with hsame | ⟨spot, result, hspot, hresult, hclaims⟩
  · exact .kept (hsame ▸ hc'') (.refl c'') fun hpending => ⟨hpending, rfl⟩
  · have hid := getSpot_id hspot
    have hfailed : DatesKept s.db (s.db.failPendingClaimsForSpot spot.id) := datesKept_decided s.db _ nofun
    rw [hclaims] at hc''
    obtain ⟨c', hc', hrow⟩ := mem_updateWhere.mp hc''
    obtain ⟨c, hc, hkept, hdate⟩ := hfailed c' hc'
    split_ifs at hrow with hsel
    · obtain ⟨hof, -, hwins, -⟩ := of_decide_eq_true hsel
      rw [← hrow] at howner ⊢
      refine .redated hc ⟨hkept.id, hkept.spotId, hkept.recipient, hkept.claimedAt⟩ ?_
      intro found hfound hduration
      have hplace : c.spotId = spotId := hkept.spotId.symm.trans (hof.trans hid)
      rw [hplace] at hfound ⊢
      exact hdrawn found result hfound hduration hresult c hc (hkept.recipient.symm.trans howner) (hkept.id ▸ hwins)
    · rw [← hrow]
      exact .kept hc hkept hdate

end Reports

section Travels

variable {cfg : Settings P} {path : ℕ → P} {userId : ℕ} {db : Db P} {s : Sys P} {op : Op P}

/-- The attempts that pass the claim rules, and so reach the guard. -/
def AllowsAttempts (cfg : Settings P) (userId : ℕ) (s : Sys P) : Op P → Prop
  | .claim req => req.userId = userId →
    ClaimAllowed cfg s.db req.spotId userId req.position req.locationAccuracyMetres →
    (getClaimLocationDecision cfg s.db userId req.spotId).2.action = .allow
  | _ => True

lemma Sightings.recentClaimAnchors (h : Sightings cfg path userId db) {anchor : ClaimAnchor P}
    (hanchor : anchor ∈ db.recentClaimAnchors userId) :
    cfg.distanceMetres (path anchor.observedAt) anchor.centre ≤ anchor.radius := by
  unfold Db.recentClaimAnchors at hanchor
  obtain ⟨c, hc, hof⟩ := List.mem_filterMap.mp hanchor
  have hsorted := List.mem_of_mem_take hc
  rw [List.mem_insertionSort, List.mem_filter] at hsorted
  exact h.claimAnchorOf hsorted.1 (of_decide_eq_true hsorted.2).1 hof

variable (hdistance : IsDistance cfg.distanceMetres)
  (hpath : NoFasterThan cfg.distanceMetres softCooldownMaxSpeedMetresPerSecond path)

include hdistance hpath

/-- Inside a Spot, with no marker left, the guard has nothing to say. -/
lemma Sightings.decision (h : Sightings cfg path userId db) (hmarker : db.locationSuspicion userId = none) {spotId : ℕ}
    (hinside : Inside cfg db spotId (path db.now)) :
    getClaimLocationDecision cfg db userId spotId = (db, ⟨.allow, "", db.now, 0⟩) := by
  unfold getClaimLocationDecision
  cases htarget : db.spotAnchor spotId with
  | none => rfl
  | some target =>
    have hthere : cfg.distanceMetres (path db.now) target.centre ≤ target.radius := by
      unfold Db.spotAnchor at htarget
      obtain ⟨spot, hspot, hplace⟩ := Option.bind_eq_some_iff.mp htarget
      obtain ⟨centre, hcentre, rfl⟩ := Option.map_eq_some_iff.mp hplace
      exact hinside spot centre hspot hcentre
    have hallow : trustedTravelDecision cfg db userId target db.now = ⟨.allow, "", db.now, 0⟩ := by
      apply trustedTravelDecision_allow
      intro anchor hanchor
      exact travelMetrics_of_path hdistance hpath (h.recentClaimAnchors hanchor) hthere
    dsimp only
    rw [hallow, hmarker, if_neg (by nofun)]
    dsimp only
    rw [if_neg (by nofun)]

/-- An attempt from inside leaves the user without a marker. -/
lemma Sightings.claimRoute_unmarked (h : Sightings cfg path userId db) (hmarker : db.locationSuspicion userId = none)
    {req : ClaimRequest P} (howner : req.userId = userId)
    (hinside : (∃ check, getClaimDistanceCheck cfg db req.spotId req.position req.locationAccuracyMetres =
      .ok (some check) ∧ check.withinRadius = true) → Inside cfg db req.spotId (path db.now)) :
    (claimRoute cfg db req).locationSuspicion userId = none := by
  have hattempted : (installedCreateClaimAttempt cfg db req).1.locationSuspicion userId = none := by
    rcases installedCreateClaimAttempt_ends cfg db req with ⟨e, -, hrefused⟩ | ⟨hnear, hends⟩
    · rw [hrefused]
      exact hmarker
    · have hdecision := h.decision hdistance hpath hmarker (hinside hnear)
      rw [howner] at hends
      generalize installedCreateClaimAttempt cfg db req = outcome at hends
      cases hends with
      | refused => exact hmarker
      | banned _ hban =>
        rw [hdecision] at hban
        cases hban
      | postponed hcooldown =>
        rw [hdecision] at hcooldown
        cases hcooldown
      | failed =>
        rw [hdecision]
        exact hmarker
      | entered _ _ hsame =>
        rw [hsame.marker]
        exact Function.update_self _ _ _
  rcases claimRoute_cases cfg db req with hsame | hmade
  · rw [hsame]
    exact hmarker
  · rw [hmade]
    exact hattempted

omit hdistance hpath

/-- The user has only been dated inside, and no marker is left. -/
structure Sys.Unsuspected (cfg : Settings P) (path : ℕ → P) (userId : ℕ) (s : Sys P) : Prop where
  kept : s.Kept
  seen : Sightings cfg path userId s.db
  unmarked : s.db.locationSuspicion userId = none

lemma unsuspected_initial : (Sys.initial : Sys P).Unsuspected cfg path userId :=
  ⟨kept_initial, ⟨nofun, nofun, nofun⟩, rfl⟩

lemma Sightings.step (h : Sightings cfg path userId s.db) (hkept : s.Kept) (htrue : ReportsTruly path userId s op)
    (hmargin : ClaimsWithoutMargin cfg userId s op) (hwaits : WaitsInside cfg userId s op)
    (hdrawn : DrawnInside cfg path userId s op) : Sightings cfg path userId (NimHunt.step cfg s op).db := by
  by_cases hdraw : ∃ spotId sample, op = .settlePrizedraw spotId sample
  · obtain ⟨spotId, sample, rfl⟩ := hdraw
    have hwrites : DbWrites cfg .all s.db (NimHunt.step cfg s (.settlePrizedraw spotId sample)).db :=
      (step_writes hkept (admitted_all _)).1
    exact h.rows hwrites.termsKept (hwrites.placed hkept.numbered h.placed) (settlePrizedraw_seenRow hdrawn)
  · have hother : ∀ spotId sample, op ≠ .settlePrizedraw spotId sample :=
      fun spotId sample heq => hdraw ⟨spotId, sample, heq⟩
    exact (step_writes hkept (admitted_inside htrue hmargin hwaits hother)).1.sightings hkept.numbered h

include hdistance hpath

/-- One operation: an attempt of the user is allowed, and the user stays above suspicion. -/
lemma Sys.Unsuspected.step (h : s.Unsuspected cfg path userId) (htrue : ReportsTruly path userId s op)
    (hmargin : ClaimsWithoutMargin cfg userId s op) (hwaits : WaitsInside cfg userId s op)
    (hdrawn : DrawnInside cfg path userId s op) :
    AllowsAttempts cfg userId s op ∧ (NimHunt.step cfg s op).Unsuspected cfg path userId := by
  have hkept : (NimHunt.step cfg s op).Kept := (@step_writes _ cfg .all s op h.kept (admitted_all op)).2
  have hseen := h.seen.step h.kept htrue hmargin hwaits hdrawn
  by_cases hclaim : ∃ req, op = .claim req
  · obtain ⟨req, rfl⟩ := hclaim
    have hinside : req.userId = userId →
        (∃ check, getClaimDistanceCheck cfg s.db req.spotId req.position req.locationAccuracyMetres =
          .ok (some check) ∧ check.withinRadius = true) → Inside cfg s.db req.spotId (path s.db.now) := by
      intro howner hnear spot centre hspot hcentre
      have htruthful : TruthfulAttempt cfg path s.db req := ⟨htrue howner, hmargin howner⟩
      exact htruthful.inside hnear hspot hcentre
    constructor
    · intro howner hallowed
      rw [h.seen.decision hdistance hpath h.unmarked (hinside howner hallowed.near)]
    · refine ⟨hkept, hseen, ?_⟩
      by_cases howner : req.userId = userId
      · exact h.seen.claimRoute_unmarked hdistance hpath h.unmarked howner (hinside howner)
      · exact (claimRoute_markers (Ne.symm howner)).trans h.unmarked
  · have hother : ∀ req, op ≠ .claim req := fun req heq => hclaim ⟨req, heq⟩
    refine ⟨?_, hkept, hseen, ?_⟩
    · cases op with
      | claim req => exact absurd rfl (hother req)
      | _ => trivial
    · rw [step_markers hother]
      exact h.unmarked

/-- A user who reports true positions, claims and waits inside the Spots, and is inside where a draw dates the claim
anew, is allowed at every attempt. -/
theorem truthful_traveller_allowed {ops : List (Op P)}
    (htrue : Admissible (step cfg) (ReportsTruly path userId) Sys.initial ops)
    (hmargin : Admissible (step cfg) (ClaimsWithoutMargin cfg userId) Sys.initial ops)
    (hwaits : Admissible (step cfg) (WaitsInside cfg userId) Sys.initial ops)
    (hdrawn : Admissible (step cfg) (DrawnInside cfg path userId) Sys.initial ops) :
    Admissible (step cfg) (AllowsAttempts cfg userId) Sys.initial ops := by
  have hpreserved : ∀ (s : Sys P) (op : Op P), (ReportsTruly path userId s op ∧ ClaimsWithoutMargin cfg userId s op) ∧
      WaitsInside cfg userId s op ∧ DrawnInside cfg path userId s op → s.Unsuspected cfg path userId →
      AllowsAttempts cfg userId s op ∧ (NimHunt.step cfg s op).Unsuspected cfg path userId :=
    fun s op hadmitted h => h.step hdistance hpath hadmitted.1.1 hadmitted.1.2 hadmitted.2.1 hadmitted.2.2
  exact admissible_of_invariant hpreserved ((htrue.and hmargin).and (hwaits.and hdrawn)) unsuspected_initial

end Travels

section Motorway

variable {cfg : Settings P} {path : ℕ → P} {userId spotId : ℕ} {db : Db P} {position : P} {s : Sys P}

lemma inside_of_all (h : ((db.getSpot spotId).all fun spot => spot.position.all fun centre =>
    decide (cfg.distanceMetres position centre ≤ spot.radius)) = true) : Inside cfg db spotId position := by
  intro spot centre hspot hcentre
  rw [hspot] at h
  dsimp only [Option.all] at h
  rw [hcentre] at h
  exact of_decide_eq_true h

lemma withoutMargin_of_inside {req : ClaimRequest P} (h : Inside cfg s.db req.spotId req.position) :
    ClaimsWithoutMargin cfg userId s (.claim req) := by
  intro _ check hcheck _
  cases hspot : s.db.getSpot req.spotId with
  | none =>
    unfold getClaimDistanceCheck at hcheck
    rw [hspot] at hcheck
    cases hcheck
  | some spot =>
    cases hcentre : spot.position with
    | none =>
      unfold getClaimDistanceCheck at hcheck
      rw [hspot] at hcheck
      dsimp only at hcheck
      rw [hcentre] at hcheck
      cases hcheck
    | some centre =>
      obtain ⟨hmeasured, hradius⟩ := getClaimDistanceCheck_anchor hcheck hspot hcentre
      rw [hmeasured, hradius]
      exact h spot centre hspot hcentre

def startHash : String := "aaaaaaaaaaaaaaaaaaaaaaaaaaaaaaaaaaaaaaaaaaaaaaaaaaaaaaaaaaaaaaaa"

def endHash : String := "bbbbbbbbbbbbbbbbbbbbbbbbbbbbbbbbbbbbbbbbbbbbbbbbbbbbbbbbbbbbbbbb"

/-- A straight motorway, by the metres from its start; one deposit has come for a Spot at each end. -/
def Settings.motorway : Settings ℕ where
  distanceMetres := fun x y => ((x - y + (y - x) : ℕ) : ℚ)
  publicDeployment := true
  walletHourlyClaimLimit := 20
  cleanOptionalNimiqAddress := .ok
  strip := id
  upper := id
  spotFeeAddress := "NQ07 FEE"
  chainTransfer := fun txHash =>
    if txHash = startHash then some ⟨"NQ02 OWNER", "NQ01 START", 100000000⟩
    else if txHash = endHash then some ⟨"NQ02 OWNER", "NQ01 END", 100000000⟩ else none

lemma motorway_isDistance : IsDistance Settings.motorway.distanceMetres where
  symm := by
    intro x y
    change ((x - y + (y - x) : ℕ) : ℚ) = ((y - x + (x - y) : ℕ) : ℚ)
    rw [Nat.add_comm]
  triangle := by
    intro x y z
    change ((x - z + (z - x) : ℕ) : ℚ) ≤ ((x - y + (y - x) : ℕ) : ℚ) + ((y - z + (z - y) : ℕ) : ℚ)
    rw [← Nat.cast_add, Nat.cast_le]
    omega

/-- A car that stands at `start` up to `departure` and then drives on at full speed to `arrival`. -/
def drivesOn (start arrival departure now : ℕ) : ℕ := min arrival (start + 75 * (now - departure))

lemma drivesOn_noFasterThan (start arrival departure : ℕ) :
    NoFasterThan Settings.motorway.distanceMetres softCooldownMaxSpeedMetresPerSecond
      (drivesOn start arrival departure) := by
  intro earlier later horder
  have hdriven : drivesOn start arrival departure earlier - drivesOn start arrival departure later +
      (drivesOn start arrival departure later - drivesOn start arrival departure earlier) ≤ 75 * (later - earlier) := by
    unfold drivesOn
    omega
  have hcast : ((drivesOn start arrival departure earlier - drivesOn start arrival departure later +
      (drivesOn start arrival departure later - drivesOn start arrival departure earlier) : ℕ) : ℚ) ≤
      ((75 * (later - earlier) : ℕ) : ℚ) := Nat.cast_le.mpr hdriven
  rw [Nat.cast_mul] at hcast
  exact hcast

/-- A Prizedraw at the start, to be waited for, and a standard Spot six kilometres on. -/
def motorwayOps : List (Op ℕ) :=
  [.tick 1000, .registerUser { id := 1, status := .active }, .registerUser { id := 2, status := .active },
    .bindWallet 2 "NQ07 FIRST",
    .createPrizedraw 1 "NQ01 START" {
      position := some 0, claimDuration := some 60, maxTotalClaims := some 2, totalValue := some 100000000
      endsAt := some 100000 } (some 1),
    .createSpot 1 "NQ01 END" {
      position := some 6000, maxTotalClaims := some 1, totalValue := some 50000000, endsAt := some 200000 },
    .recordDeposit 1 1 100000000 "NQ02 OWNER" startHash, .confirmTrans 1, .resume 0 {},
    .publish 1 [],
    .recordDeposit 1 2 100000000 "NQ02 OWNER" endHash, .confirmTrans 2, .resume 0 {},
    .publish 2 []]

def motorway : Sys ℕ := run (step Settings.motorway) Sys.initial motorwayOps

/-- Nothing of a user is reported or drawn. -/
def Op.IsSilent : Op P → Prop
  | .claim _ | .heartbeat _ _ _ _ | .settlePrizedraw _ _ => False
  | _ => True

lemma Op.IsSilent.reportsTruly {path : ℕ → P} {op : Op P} (h : op.IsSilent) : ReportsTruly path userId s op := by
  cases op with
  | claim => exact h.elim
  | heartbeat => exact h.elim
  | _ => exact trivial

lemma Op.IsSilent.claimsWithoutMargin {op : Op P} (h : op.IsSilent) : ClaimsWithoutMargin cfg userId s op := by
  cases op with
  | claim => exact h.elim
  | _ => exact trivial

lemma Op.IsSilent.waitsInside {op : Op P} (h : op.IsSilent) : WaitsInside cfg userId s op := by
  cases op with
  | heartbeat => exact h.elim
  | _ => exact trivial

lemma Op.IsSilent.drawnInside {path : ℕ → P} {op : Op P} (h : op.IsSilent) : DrawnInside cfg path userId s op := by
  cases op with
  | settlePrizedraw => exact h.elim
  | _ => exact trivial

lemma motorwayOps_silent : ∀ op ∈ motorwayOps, op.IsSilent := by
  intro op hop
  simp only [motorwayOps, List.mem_cons, List.not_mem_nil, or_false] at hop
  rcases hop with rfl | rfl | rfl | rfl | rfl | rfl | rfl | rfl | rfl | rfl | rfl | rfl | rfl | rfl <;> exact trivial

/-- What is asked of a run is asked of what follows the preparations. -/
lemma admissible_motorway {guard : Sys ℕ → Op ℕ → Prop} {ops : List (Op ℕ)}
    (hsilent : ∀ (s : Sys ℕ) (op : Op ℕ), op.IsSilent → guard s op)
    (h : Admissible (step Settings.motorway) guard motorway ops) :
    Admissible (step Settings.motorway) guard Sys.initial (motorwayOps ++ ops) := by
  have hprepared : Admissible (step Settings.motorway) guard Sys.initial motorwayOps :=
    admissible_of_forall (fun op hop s => hsilent s op (motorwayOps_silent op hop)) Sys.initial
  exact admissible_append.mpr (And.intro hprepared h)

/-- The user attempts a claim. -/
def attempt (spotId position : ℕ) (accuracy : ℚ) : Op ℕ := .claim ⟨spotId, 2, position, some accuracy, none, none⟩

/-- An attempt at the end of a run that passes the rules is decided. -/
lemma decision_at_end {ops : List (Op ℕ)} {spotId position : ℕ} {accuracy : ℚ}
    (h : Admissible (step Settings.motorway) (AllowsAttempts Settings.motorway 2) Sys.initial
      (motorwayOps ++ (ops ++ [attempt spotId position accuracy])))
    (hrule : ((getClaimRuleCheck Settings.motorway (run (step Settings.motorway) motorway ops).db spotId 2
      (some position) (some accuracy)).toOption.any fun rule => rule.allowed) = true) :
    (getClaimLocationDecision Settings.motorway (run (step Settings.motorway) motorway ops).db 2
      spotId).2.action = .allow := by
  refine (admissible_append.mp (admissible_append.mp h).2).2.1 rfl ?_
  obtain ⟨rule, hfound, hallowed⟩ := (Option.any_eq_true _ _).mp hrule
  cases hcheck : getClaimRuleCheck Settings.motorway (run (step Settings.motorway) motorway ops).db spotId 2
      (some position) (some accuracy) with
  | error e =>
    rw [hcheck] at hfound
    cases hfound
  | ok found =>
    rw [hcheck] at hfound
    obtain rfl := Option.some.inj hfound
    exact claimAllowed_of_rule hcheck hallowed

/-- The entry waits its minute and is drawn a day later, while the car still stands there. -/
def drawnInTime : List (Op ℕ) :=
  [attempt 1 0 5, .tick 60, .refresh 1, .tick 100000, .settlePrizedraw 1 fun claims _ => claims, .tick 80]

/-- The winner drives six kilometres in eighty seconds and is allowed to claim there. -/
theorem truthful_traveller_allowed_motorway :
    (getClaimLocationDecision Settings.motorway (run (step Settings.motorway) motorway drawnInTime).db 2
      2).2.action = .allow := by
  have htrue : Admissible (step Settings.motorway) (ReportsTruly (drivesOn 0 6000 101060) 2) motorway
      (drawnInTime ++ [attempt 2 6000 5]) :=
    ⟨fun _ => by decide +kernel, trivial, trivial, trivial, trivial, trivial, fun _ => by decide +kernel, trivial⟩
  have hmargin : Admissible (step Settings.motorway) (ClaimsWithoutMargin Settings.motorway 2) motorway
      (drawnInTime ++ [attempt 2 6000 5]) :=
    ⟨withoutMargin_of_inside (inside_of_all (by decide +kernel)), trivial, trivial, trivial, trivial, trivial,
      withoutMargin_of_inside (inside_of_all (by decide +kernel)), trivial⟩
  have hwaits : Admissible (step Settings.motorway) (WaitsInside Settings.motorway 2) motorway
      (drawnInTime ++ [attempt 2 6000 5]) :=
    ⟨trivial, trivial, trivial, trivial, trivial, trivial, trivial, trivial⟩
  have hdrawn : Admissible (step Settings.motorway) (DrawnInside Settings.motorway (drivesOn 0 6000 101060) 2) motorway
      (drawnInTime ++ [attempt 2 6000 5]) :=
    ⟨trivial, trivial, trivial, trivial,
      fun _ _ _ _ _ _ _ _ _ => inside_of_all (by decide +kernel), trivial, trivial, trivial⟩
  have hallowed := truthful_traveller_allowed motorway_isDistance (drivesOn_noFasterThan 0 6000 101060)
    (admissible_motorway (fun _ _ => Op.IsSilent.reportsTruly) htrue)
    (admissible_motorway (fun _ _ => Op.IsSilent.claimsWithoutMargin) hmargin)
    (admissible_motorway (fun _ _ => Op.IsSilent.waitsInside) hwaits)
    (admissible_motorway (fun _ _ => Op.IsSilent.drawnInside) hdrawn)
  exact decision_at_end hallowed (by decide +kernel)

/-- The entry waits its minute, and is drawn a day later. -/
def drawnLater : List (Op ℕ) :=
  [attempt 1 0 5, .tick 60, .refresh 1, .tick 100000, .settlePrizedraw 1 fun claims _ => claims]

/-- One heartbeat is sent on the way. -/
def onTheWay : List (Op ℕ) := [attempt 1 0 5, .tick 50, .heartbeat 1 2 3750 none, .tick 30]

/-- Both attempts are made fifty metres from the circles. -/
def outsideTheCircles : List (Op ℕ) := [attempt 1 250 50, .tick 74]

/-- Three truthful users drive at 75 metres per second between two Spots and are refused at the second: one is drawn at
the first Spot while standing at the second, one has sent a heartbeat on the way, and one is admitted at both by the
GPS margin. -/
theorem truthful_travellers_refused : IsDistance Settings.motorway.distanceMetres ∧
    (¬ ∀ (path : ℕ → ℕ) (ops : List (Op ℕ)),
      NoFasterThan Settings.motorway.distanceMetres softCooldownMaxSpeedMetresPerSecond path →
      Admissible (step Settings.motorway) (ReportsTruly path 2) Sys.initial ops →
      Admissible (step Settings.motorway) (ClaimsWithoutMargin Settings.motorway 2) Sys.initial ops →
      Admissible (step Settings.motorway) (WaitsInside Settings.motorway 2) Sys.initial ops →
      Admissible (step Settings.motorway) (AllowsAttempts Settings.motorway 2) Sys.initial ops) ∧
    (¬ ∀ (path : ℕ → ℕ) (ops : List (Op ℕ)),
      NoFasterThan Settings.motorway.distanceMetres softCooldownMaxSpeedMetresPerSecond path →
      Admissible (step Settings.motorway) (ReportsTruly path 2) Sys.initial ops →
      Admissible (step Settings.motorway) (ClaimsWithoutMargin Settings.motorway 2) Sys.initial ops →
      Admissible (step Settings.motorway) (DrawnInside Settings.motorway path 2) Sys.initial ops →
      Admissible (step Settings.motorway) (AllowsAttempts Settings.motorway 2) Sys.initial ops) ∧
    ¬ ∀ (path : ℕ → ℕ) (ops : List (Op ℕ)),
      NoFasterThan Settings.motorway.distanceMetres softCooldownMaxSpeedMetresPerSecond path →
      Admissible (step Settings.motorway) (ReportsTruly path 2) Sys.initial ops →
      Admissible (step Settings.motorway) (WaitsInside Settings.motorway 2) Sys.initial ops →
      Admissible (step Settings.motorway) (DrawnInside Settings.motorway path 2) Sys.initial ops →
      Admissible (step Settings.motorway) (AllowsAttempts Settings.motorway 2) Sys.initial ops := by
  refine ⟨motorway_isDistance, ?_, ?_, ?_⟩
  · intro hall
    have hallowed := hall (drivesOn 0 6000 50000) (motorwayOps ++ (drawnLater ++ [attempt 2 6000 5]))
      (drivesOn_noFasterThan _ _ _)
      (admissible_motorway (fun _ _ => Op.IsSilent.reportsTruly)
        ⟨fun _ => by decide +kernel, trivial, trivial, trivial, trivial, fun _ => by decide +kernel, trivial⟩)
      (admissible_motorway (fun _ _ => Op.IsSilent.claimsWithoutMargin)
        ⟨withoutMargin_of_inside (inside_of_all (by decide +kernel)), trivial, trivial, trivial, trivial,
          withoutMargin_of_inside (inside_of_all (by decide +kernel)), trivial⟩)
      (admissible_motorway (fun _ _ => Op.IsSilent.waitsInside)
        ⟨trivial, trivial, trivial, trivial, trivial, trivial, trivial⟩)
    have haction := decision_at_end hallowed (by decide +kernel)
    have hban : (getClaimLocationDecision Settings.motorway (run (step Settings.motorway) motorway drawnLater).db 2
      2).2.action = .ban := by decide +kernel
    cases hban.symm.trans haction
  · intro hall
    have hallowed := hall (drivesOn 0 6000 1000) (motorwayOps ++ (onTheWay ++ [attempt 2 6000 5]))
      (drivesOn_noFasterThan _ _ _)
      (admissible_motorway (fun _ _ => Op.IsSilent.reportsTruly)
        ⟨fun _ => by decide +kernel, trivial, fun _ => by decide +kernel, trivial, fun _ => by decide +kernel, trivial⟩)
      (admissible_motorway (fun _ _ => Op.IsSilent.claimsWithoutMargin)
        ⟨withoutMargin_of_inside (inside_of_all (by decide +kernel)), trivial, trivial, trivial,
          withoutMargin_of_inside (inside_of_all (by decide +kernel)), trivial⟩)
      (admissible_motorway (fun _ _ => Op.IsSilent.drawnInside) ⟨trivial, trivial, trivial, trivial, trivial, trivial⟩)
    have haction := decision_at_end hallowed (by decide +kernel)
    have hcooldown : (getClaimLocationDecision Settings.motorway (run (step Settings.motorway) motorway onTheWay).db 2
      2).2.action = .cooldown := by decide +kernel
    cases hcooldown.symm.trans haction
  · intro hall
    have hallowed := hall (drivesOn 250 5750 1000) (motorwayOps ++ (outsideTheCircles ++ [attempt 2 5750 50]))
      (drivesOn_noFasterThan _ _ _)
      (admissible_motorway (fun _ _ => Op.IsSilent.reportsTruly)
        ⟨fun _ => by decide +kernel, trivial, fun _ => by decide +kernel, trivial⟩)
      (admissible_motorway (fun _ _ => Op.IsSilent.waitsInside) ⟨trivial, trivial, trivial, trivial⟩)
      (admissible_motorway (fun _ _ => Op.IsSilent.drawnInside) ⟨trivial, trivial, trivial, trivial⟩)
    have haction := decision_at_end hallowed (by decide +kernel)
    have hcooldown : (getClaimLocationDecision Settings.motorway
      (run (step Settings.motorway) motorway outsideTheCircles).db 2 2).2.action = .cooldown := by decide +kernel
    cases hcooldown.symm.trans haction

end Motorway

end NimHunt
