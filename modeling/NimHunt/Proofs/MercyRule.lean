import NimHunt.System
import NimHunt.Proofs.ClaimWrites

/-!
# The mercy rule of the location guard

One false position that starts a cooldown never costs a user the account, as long as everything else the
user reports is true and within what a person can travel.  The guard trusts claims only, and every claim of
the user is where the user was: against those, no true position is a violation.
-/

namespace NimHunt

open Lib

variable {P : Type}

section Travel

/-- What the distance of the map is used for. -/
structure IsDistance (distance : P → P → ℚ) : Prop where
  symm : ∀ x y, distance x y = distance y x
  triangle : ∀ x y z, distance x z ≤ distance x y + distance y z

/-- A path by the seconds of the clock, never faster than `speed`. -/
def NoFasterThan (distance : P → P → ℚ) (speed : ℚ) (path : ℕ → P) : Prop :=
  ∀ start finish : ℕ, start ≤ finish →
    distance (path start) (path finish) ≤ speed * ((finish - start : ℕ) : ℚ)

variable {distance : P → P → ℚ} {speed : ℚ} {path : ℕ → P} {centre centre' : P} {radius radius' : ℚ}
  {start finish : ℕ}

/-- Two discs that the path visits are no farther apart than the path travelled in between. -/
lemma IsDistance.between_discs (hdistance : IsDistance distance) (hpath : NoFasterThan distance speed path)
    (horder : start ≤ finish) (hstart : distance (path start) centre ≤ radius)
    (hfinish : distance (path finish) centre' ≤ radius') :
    distance centre centre' - radius - radius' ≤ speed * ((finish - start : ℕ) : ℚ) := by
  have htravel := hpath start finish horder
  have hfirst := hdistance.triangle centre (path start) centre'
  have hsecond := hdistance.triangle (path start) (path finish) centre'
  have hback := hdistance.symm centre (path start)
  linarith

end Travel

section Metrics

variable {cfg : Settings P} {path : ℕ → P} {previous target : SpotAnchor P} {observedAt checkedAt : ℕ}

/-- No violation between two places the path was at. -/
lemma travelMetrics_of_path (hdistance : IsDistance cfg.distanceMetres)
    (hpath : NoFasterThan cfg.distanceMetres softCooldownMaxSpeedMetresPerSecond path)
    (hprevious : cfg.distanceMetres (path observedAt) previous.centre ≤ previous.radius)
    (htarget : cfg.distanceMetres (path checkedAt) target.centre ≤ target.radius) :
    (travelMetrics cfg previous target observedAt checkedAt).hardViolation = false ∧
    (travelMetrics cfg previous target observedAt checkedAt).softViolation = false := by
  unfold travelMetrics
  by_cases hclock : checkedAt < observedAt
  · dsimp only
    rw [if_pos hclock]
    exact ⟨rfl, rfl⟩
  · dsimp only
    rw [if_neg hclock]
    have horder : observedAt ≤ checkedAt := Nat.le_of_not_lt hclock
    have hgap := hdistance.between_discs hpath horder hprevious htarget
    generalize cfg.distanceMetres previous.centre target.centre = centreDistance at hgap
    have helapsed : ((checkedAt - observedAt : ℕ) : ℚ) ≤ ((max 1 (checkedAt - observedAt) : ℕ) : ℚ) := by
      exact_mod_cast le_max_right 1 (checkedAt - observedAt)
    have hpositive : (0 : ℚ) < ((max 1 (checkedAt - observedAt) : ℕ) : ℚ) := by
      exact_mod_cast Nat.lt_of_lt_of_le Nat.zero_lt_one (le_max_left 1 (checkedAt - observedAt))
    have hspeed : max 0 (centreDistance - previous.radius - target.radius) /
        ((max 1 (checkedAt - observedAt) : ℕ) : ℚ) ≤ softCooldownMaxSpeedMetresPerSecond := by
      rw [div_le_iff₀ hpositive]
      unfold softCooldownMaxSpeedMetresPerSecond at hgap ⊢
      apply max_le
      · linarith
      · linarith
    have hhard : ¬ hardBanMaxSpeedMetresPerSecond < max 0 (centreDistance - previous.radius - target.radius) /
        ((max 1 (checkedAt - observedAt) : ℕ) : ℚ) := by
      apply not_lt_of_ge
      apply hspeed.trans
      norm_num [softCooldownMaxSpeedMetresPerSecond, hardBanMaxSpeedMetresPerSecond]
    constructor
    · exact decide_eq_false fun h => hhard h.2
    · exact decide_eq_false fun h => not_lt_of_ge hspeed h.2

end Metrics

/-- The columns of a Spot the guard reads. -/
def Spot.geometry (spot : Spot P) : Option P × ℕ × ℕ := (spot.position, spot.radius, spot.claimDuration)

/-- What everybody else leaves as it is: the user's standing, the identity of the user's claims and the place
of their Spots, and the guard's marker. -/
structure SameRecord (userId : ℕ) (db db' : Db P) : Prop where
  standing : (db'.getUser userId).map User.status = (db.getUser userId).map User.status
  claims : ∀ c' ∈ db'.claims, c'.recipient = userId → ∃ c ∈ db.claims, SameClaim c c'
  spots : ∀ c' ∈ db'.claims, c'.recipient = userId →
    (db'.getSpot c'.spotId).map Spot.geometry = (db.getSpot c'.spotId).map Spot.geometry
  marker : db'.locationSuspicion userId = db.locationSuspicion userId

lemma SameRecord.refl (userId : ℕ) (db : Db P) : SameRecord userId db db :=
  ⟨rfl, fun c' hc' _ => ⟨c', hc', .refl c'⟩, fun _ _ _ => rfl, rfl⟩

section Record

variable {cfg : Settings P} {path : ℕ → P} {userId : ℕ} {retryAt : Option ℕ} {db db' : Db P}

/-- The user's claims are on Spots without duration. -/
def AtSpotsWithoutDuration (userId : ℕ) (db : Db P) : Prop :=
  ∀ c ∈ db.claims, c.recipient = userId → ∀ spot, db.getSpot c.spotId = some spot → spot.claimDuration = 0

/-- Every claim of the user was made inside its Spot. -/
def WasThere (cfg : Settings P) (path : ℕ → P) (userId : ℕ) (db : Db P) : Prop :=
  ∀ c ∈ db.claims, c.recipient = userId → ∀ spot centre, db.getSpot c.spotId = some spot →
    spot.position = some centre → cfg.distanceMetres (path c.claimedAt) centre ≤ spot.radius

/-- The user is not banned, has made true claims only, and waits for nothing but `retryAt`. -/
structure Trustworthy (cfg : Settings P) (path : ℕ → P) (userId : ℕ) (retryAt : Option ℕ) (db : Db P) : Prop where
  standing : (db.getUser userId).map User.status ≠ some .banned
  durations : AtSpotsWithoutDuration userId db
  claims : WasThere cfg path userId db
  waits : ∀ marker, db.locationSuspicion userId = some marker → retryAt = some marker.retryAt

/-- A claim found later is an earlier one at the same place. -/
lemma SameRecord.claim (hsame : SameRecord userId db db') {c' : Claim P} (hc' : c' ∈ db'.claims)
    (howner : c'.recipient = userId) {spot' : Spot P} (hspot' : db'.getSpot c'.spotId = some spot') :
    ∃ c ∈ db.claims, ∃ spot, SameClaim c c' ∧ db.getSpot c.spotId = some spot ∧
      spot'.geometry = spot.geometry := by
  obtain ⟨c, hc, hid⟩ := hsame.claims c' hc' howner
  have hplace := hsame.spots c' hc' howner
  rw [hspot', hid.spotId] at hplace
  cases hspot : db.getSpot c.spotId with
  | none =>
    rw [hspot] at hplace
    cases hplace
  | some spot =>
    rw [hspot] at hplace
    exact ⟨c, hc, spot, hid, hspot, Option.some.inj hplace⟩

lemma AtSpotsWithoutDuration.same (h : AtSpotsWithoutDuration userId db) (hsame : SameRecord userId db db') :
    AtSpotsWithoutDuration userId db' := by
  intro c' hc' howner spot' hspot'
  obtain ⟨c, hc, spot, hid, hspot, hgeometry⟩ := hsame.claim hc' howner hspot'
  have hduration : spot'.claimDuration = spot.claimDuration := congrArg (fun g => g.2.2) hgeometry
  rw [hduration]
  exact h c hc (hid.recipient.symm.trans howner) spot hspot

lemma WasThere.same (h : WasThere cfg path userId db) (hsame : SameRecord userId db db') :
    WasThere cfg path userId db' := by
  intro c' hc' howner spot' centre hspot' hcentre
  obtain ⟨c, hc, spot, hid, hspot, hgeometry⟩ := hsame.claim hc' howner hspot'
  have hposition : spot'.position = spot.position := congrArg Prod.fst hgeometry
  have hradius : spot'.radius = spot.radius := congrArg (fun g => g.2.1) hgeometry
  rw [hradius, hid.claimedAt]
  exact h c hc (hid.recipient.symm.trans howner) spot centre hspot (hposition.symm.trans hcentre)

lemma Trustworthy.same (h : Trustworthy cfg path userId retryAt db) (hsame : SameRecord userId db db') :
    Trustworthy cfg path userId retryAt db' where
  standing := by
    rw [hsame.standing]
    exact h.standing
  durations := h.durations.same hsame
  claims := h.claims.same hsame
  waits := by
    rw [hsame.marker]
    exact h.waits

/-- Every claim the guard may compare with is where the user was at the time it is dated. -/
lemma Trustworthy.claimAnchorOf (h : Trustworthy cfg path userId retryAt db) {c : Claim P} (hc : c ∈ db.claims)
    (howner : c.recipient = userId) {anchor : ClaimAnchor P} (hanchor : db.claimAnchorOf c = some anchor) :
    cfg.distanceMetres (path anchor.observedAt) anchor.centre ≤ anchor.radius := by
  unfold Db.claimAnchorOf at hanchor
  obtain ⟨spot, hspot, hplace⟩ := Option.bind_eq_some_iff.mp hanchor
  obtain ⟨centre, hcentre, rfl⟩ := Option.map_eq_some_iff.mp hplace
  have hdated : claimObservedAt c spot.claimDuration = c.claimedAt := by
    unfold claimObservedAt
    rw [h.durations c hc howner spot hspot]
    simp
  dsimp only
  rw [hdated]
  exact h.claims c hc howner spot centre hspot hcentre

lemma Trustworthy.recentClaimAnchors (h : Trustworthy cfg path userId retryAt db) {anchor : ClaimAnchor P}
    (hanchor : anchor ∈ db.recentClaimAnchors userId) :
    cfg.distanceMetres (path anchor.observedAt) anchor.centre ≤ anchor.radius := by
  unfold Db.recentClaimAnchors at hanchor
  obtain ⟨c, hc, hof⟩ := List.mem_filterMap.mp hanchor
  have hsorted := List.mem_of_mem_take hc
  rw [List.mem_insertionSort, List.mem_filter] at hsorted
  have howner : c.recipient = userId := by
    have := hsorted.2
    simp only [decide_eq_true_eq] at this
    exact this.1
  exact h.claimAnchorOf hsorted.1 howner hof

lemma Trustworthy.claimAnchor (h : Trustworthy cfg path userId retryAt db) {claimId : ℕ} {anchor : ClaimAnchor P}
    (hanchor : db.claimAnchor userId claimId = some anchor) :
    cfg.distanceMetres (path anchor.observedAt) anchor.centre ≤ anchor.radius := by
  unfold Db.claimAnchor at hanchor
  obtain ⟨c, hfound, hof⟩ := Option.bind_eq_some_iff.mp hanchor
  obtain ⟨hclaim, howner⟩ := Option.filter_eq_some_iff.mp hfound
  exact h.claimAnchorOf (List.mem_of_find?_eq_some hclaim) (by simpa using howner) hof

end Record

section Decisions

variable {cfg : Settings P} {path : ℕ → P} {userId spotId : ℕ} {retryAt : Option ℕ} {db : Db P}

lemma trustedTravelDecision_allow {target : SpotAnchor P} {checkedAt : ℕ}
    (h : ∀ anchor ∈ db.recentClaimAnchors userId,
      (travelMetrics cfg anchor.toSpotAnchor target anchor.observedAt checkedAt).hardViolation = false ∧
      (travelMetrics cfg anchor.toSpotAnchor target anchor.observedAt checkedAt).softViolation = false) :
    trustedTravelDecision cfg db userId target checkedAt = ⟨.allow, "", checkedAt, 0⟩ := by
  unfold trustedTravelDecision
  dsimp only
  generalize hcandidates : (db.recentClaimAnchors userId).map (fun anchor =>
    (anchor, travelMetrics cfg anchor.toSpotAnchor target anchor.observedAt checkedAt)) = candidates
  have hclean : ∀ c ∈ candidates, c.2.hardViolation = false ∧ c.2.softViolation = false := by
    intro c hc
    rw [← hcandidates, List.mem_map] at hc
    obtain ⟨anchor, hanchor, rfl⟩ := hc
    exact h anchor hanchor
  have hhard : candidates.filter (fun c => c.2.hardViolation) = [] := by
    rw [List.filter_eq_nil_iff]
    intro c hc
    simp [(hclean c hc).1]
  have hsoft : candidates.filter (fun c => c.2.softViolation) = [] := by
    rw [List.filter_eq_nil_iff]
    intro c hc
    simp [(hclean c hc).2]
  rw [hhard, hsoft]
  rfl

lemma trustedTravelDecision_action (cfg : Settings P) (db : Db P) (userId : ℕ) (target : SpotAnchor P)
    (checkedAt : ℕ) : (trustedTravelDecision cfg db userId target checkedAt).action ≠ .cooldown := by
  unfold trustedTravelDecision
  dsimp only
  split
  · simp
  · simp
  · simp

/-- While the marker lasts, a jump that fits the trusted claim keeps the retry time. -/
lemma activeCooldownDecision_trusted {target : SpotAnchor P} {suspicion : ClaimLocationSuspicion} {checkedAt : ℕ}
    (hmarker : db.locationSuspicion userId = some suspicion)
    (h : ∀ trusted, db.claimAnchor userId suspicion.trustedClaimId = some trusted →
      (travelMetrics cfg trusted.toSpotAnchor target trusted.observedAt checkedAt).softViolation = false) :
    activeCooldownDecision cfg db userId target suspicion checkedAt = (db.clearSuspicion userId, none) ∨
    ∃ value reason, value.retryAt = suspicion.retryAt ∧
      activeCooldownDecision cfg db userId target suspicion checkedAt =
        (db.saveSuspicion userId value,
          some ⟨.cooldown, reason, suspicion.retryAt, suspicion.trustedClaimId⟩) := by
  unfold activeCooldownDecision
  by_cases hended : suspicion.retryAt ≤ checkedAt
  · rw [if_pos hended]
    exact .inl rfl
  · rw [if_neg hended]
    by_cases hduplicate : target.spotId = suspicion.lastAttemptedSpotId
    · rw [if_pos hduplicate]
      have hsaved : db.saveSuspicion userId suspicion = db := by
        unfold Db.saveSuspicion
        rw [← hmarker, Function.update_eq_self]
      exact .inr ⟨suspicion, _, rfl, by rw [hsaved]⟩
    · rw [if_neg hduplicate]
      cases htrusted : db.claimAnchor userId suspicion.trustedClaimId with
      | none => exact .inl rfl
      | some trusted =>
        cases db.spotAnchor suspicion.suspiciousSpotId with
        | none => exact .inl rfl
        | some original =>
          cases db.spotAnchor suspicion.lastAttemptedSpotId with
          | none => exact .inl rfl
          | some previous =>
            dsimp only
            rw [h trusted htrusted, Bool.and_false, Bool.false_and, if_neg Bool.false_ne_true]
            right
            exact ⟨{ suspicion with lastAttemptedSpotId := target.spotId, lastAttemptedAt := checkedAt }, _, rfl, rfl⟩

/-- What the guard makes of a true position. -/
structure DecidesMildly (userId : ℕ) (retryAt : Option ℕ) (db : Db P) (decided : Db P × LocationDecision) : Prop where
  noBan : decided.2.action ≠ .ban
  postponed : decided.2.action = .cooldown → retryAt = some decided.2.retryAt
  record : ∃ marker, decided.1 = { db with locationSuspicion := Function.update db.locationSuspicion userId marker } ∧
    ∀ value, marker = some value → retryAt = some value.retryAt

lemma getClaimLocationDecision_mild (hdistance : IsDistance cfg.distanceMetres)
    (hpath : NoFasterThan cfg.distanceMetres softCooldownMaxSpeedMetresPerSecond path)
    (h : Trustworthy cfg path userId retryAt db)
    (hinside : ∀ target, db.spotAnchor spotId = some target →
      cfg.distanceMetres (path db.now) target.centre ≤ target.radius) :
    DecidesMildly userId retryAt db (getClaimLocationDecision cfg db userId spotId) := by
  have hself : db = { db with
      locationSuspicion := Function.update db.locationSuspicion userId (db.locationSuspicion userId) } := by
    rw [Function.update_eq_self]
  unfold getClaimLocationDecision
  cases htarget : db.spotAnchor spotId with
  | none => exact ⟨by simp, by simp, db.locationSuspicion userId, hself, h.waits⟩
  | some target =>
    have hthere := hinside target htarget
    have hallow : trustedTravelDecision cfg db userId target db.now = ⟨.allow, "", db.now, 0⟩ := by
      apply trustedTravelDecision_allow
      intro anchor hanchor
      exact travelMetrics_of_path hdistance hpath (h.recentClaimAnchors hanchor) hthere
    dsimp only
    rw [hallow, if_neg (by simp)]
    cases hmarker : db.locationSuspicion userId with
    | none =>
      dsimp only
      rw [if_neg (by simp)]
      exact ⟨by simp, by simp, db.locationSuspicion userId, hself, h.waits⟩
    | some suspicion =>
      have hretry := h.waits suspicion hmarker
      have hactive := @activeCooldownDecision_trusted P cfg userId db target suspicion db.now hmarker
        fun trusted htrusted =>
          (travelMetrics_of_path hdistance hpath (h.claimAnchor htrusted) hthere).2
      dsimp only
      rcases hactive with hcleared | ⟨value, reason, hkept, hpostponed⟩
      · rw [hcleared]
        dsimp only
        rw [if_neg (by simp)]
        exact ⟨by simp, by simp, none, rfl, by simp⟩
      · rw [hpostponed]
        refine ⟨by simp, fun _ => hretry, some value, rfl, fun found hfound => ?_⟩
        rw [← Option.some.inj hfound, hkept]
        exact hretry

end Decisions

section Attempts

variable {cfg : Settings P} {path : ℕ → P} {userId : ℕ} {db db' : Db P} {R : Type}

/-- Not the guard's postponement. -/
def Raised.NotPostponed (e : Raised) : Prop := ∀ retryAt checkedAt, e ≠ .claimLocationCooldown retryAt checkedAt

/-- How a claim attempt can end, by the decision of the guard. -/
inductive GuardedEnd (cfg : Settings P) (db : Db P) (spotId userId : ℕ) (position : P) : Outcome P R → Prop
  | refused {e : Raised} (hother : e.NotPostponed) : GuardedEnd cfg db spotId userId position (db, .error e)
  | banned {e : Raised} (hother : e.NotPostponed)
      (hban : (getClaimLocationDecision cfg db userId spotId).2.action = .ban) :
      GuardedEnd cfg db spotId userId position
        (((getClaimLocationDecision cfg db userId spotId).1.setUserStatusToBanned userId).clearSuspicion userId,
          .error e)
  | postponed (hcooldown : (getClaimLocationDecision cfg db userId spotId).2.action = .cooldown) :
      GuardedEnd cfg db spotId userId position ((getClaimLocationDecision cfg db userId spotId).1,
        .error (.claimLocationCooldown (getClaimLocationDecision cfg db userId spotId).2.retryAt db.now))
  | failed {e : Raised} (hother : e.NotPostponed)
      (hallow : (getClaimLocationDecision cfg db userId spotId).2.action = .allow) :
      GuardedEnd cfg db spotId userId position ((getClaimLocationDecision cfg db userId spotId).1, .error e)
  | entered {db' : Db P} {answer : Except Raised R} (payoutAddress : Option Address)
      (hother : ∀ e, answer = .error e → e.NotPostponed)
      (hsame : SameRecord userId ((db.addClaim (db.freshClaim spotId userId payoutAddress position)).clearSuspicion
        userId) db') :
      GuardedEnd cfg db spotId userId position (db', answer)


lemma notPostponed_valueError (message : String) : (Raised.valueError message).NotPostponed := by
  intro retryAt checkedAt h
  cases h

lemma createClaim_failed {spotId : ℕ} {position : P} {accuracy : ℚ} {payoutAddress : Option Address} {e : Raised}
    (h : createClaim cfg db spotId userId position accuracy payoutAddress = (db', .error e)) :
    db' = db ∧ e.NotPostponed := by
  unfold createClaim at h
  cases hclean : cfg.cleanOptionalNimiqAddress payoutAddress with
  | error message =>
    rw [hclean] at h
    obtain ⟨rfl, herror⟩ := Prod.mk.inj h
    rw [← Except.error.inj herror]
    exact ⟨rfl, notPostponed_valueError message⟩
  | ok clean =>
    rw [hclean] at h
    refine ⟨Db.insertClaim_error h, ?_⟩
    dsimp only at h
    unfold Db.insertClaim at h
    intro retryAt checkedAt hpostponed
    subst hpostponed
    cases hspot : db.getSpot spotId with
    | none => simp [hspot] at h
    | some spot =>
      simp only [hspot] at h
      split_ifs at h <;> simp at h

lemma createClaimWithImpossibleTravelGuard_ends (cfg : Settings P) (db : Db P) (spotId userId : ℕ) (position : P)
    (payoutAddress : Option Address) :
    GuardedEnd cfg db spotId userId position
      (createClaimWithImpossibleTravelGuard cfg db spotId userId position 1 payoutAddress) := by
  unfold createClaimWithImpossibleTravelGuard
  cases cfg.cleanOptionalNimiqAddress payoutAddress with
  | error message => exact .refused (notPostponed_valueError message)
  | ok clean =>
    have haction := getClaimLocationDecision_action cfg db userId spotId
    obtain ⟨markers, hwrites⟩ := getClaimLocationDecision_writes cfg db userId spotId
    dsimp only
    cases hact : (getClaimLocationDecision cfg db userId spotId).2.action with
    | ban => exact .banned (notPostponed_valueError _) hact
    | cooldown => exact .postponed hact
    | newCooldown => exact absurd hact haction
    | allow =>
      dsimp only
      rcases hcreate : createClaim cfg (getClaimLocationDecision cfg db userId spotId).1 spotId userId position 1
        clean with ⟨created, e | claimId⟩
      · obtain ⟨hsame, hother⟩ := createClaim_failed hcreate
        rw [hsame]
        exact .failed hother hact
      · unfold createClaim at hcreate
        cases hclean : cfg.cleanOptionalNimiqAddress clean with
        | error message => simp [hclean] at hcreate
        | ok address =>
          rw [hclean, hwrites] at hcreate
          obtain ⟨hid, -, hcreated⟩ := Db.insertClaim_ok hcreate
          refine .entered address (by simp) ?_
          rw [hcreated, hid]
          refine ⟨rfl, fun c hc _ => ⟨c, hc, .refl c⟩, fun _ _ _ => rfl, ?_⟩
          unfold Db.clearSuspicion
          dsimp only
          rw [Function.update_self, Function.update_self]

/-! What follows the insert leaves the record alone. -/

lemma SameRecord.then {db'' : Db P} (h : SameRecord userId db db') (h' : SameRecord userId db' db'') :
    SameRecord userId db db'' where
  standing := h'.standing.trans h.standing
  claims := by
    intro c'' hc'' howner
    obtain ⟨c', hc', hlater⟩ := h'.claims c'' hc'' howner
    obtain ⟨c, hc, hearlier⟩ := h.claims c' hc' (hlater.recipient.symm.trans howner)
    exact ⟨c, hc, hearlier.then hlater⟩
  spots := by
    intro c'' hc'' howner
    obtain ⟨c', hc', hlater⟩ := h'.claims c'' hc'' howner
    have hplace := h.spots c' hc' (hlater.recipient.symm.trans howner)
    rw [← hlater.spotId] at hplace
    exact (h'.spots c'' hc'' howner).trans hplace
  marker := h'.marker.trans h.marker

/-- Rows rewritten under their identities leave the record alone. -/
lemma ClaimsRewritten.sameRecord (userId : ℕ) (h : ClaimsRewritten db db') : SameRecord userId db db' := by
  obtain ⟨f, g, attempts, rfl, hf, -⟩ := h
  refine ⟨rfl, fun c' hc' _ => ?_, fun _ _ _ => rfl, rfl⟩
  obtain ⟨c, hc, rfl⟩ := List.mem_map.mp hc'
  exact ⟨c, hc, hf c⟩

lemma friendlyInsertError_notPostponed {e : Raised} (h : e.NotPostponed) : (friendlyInsertError e).NotPostponed := by
  unfold friendlyInsertError
  split_ifs
  · exact notPostponed_valueError _
  · exact h

lemma GuardedEnd.reloaded {cfg : Settings P} {spotId claimId : ℕ} {position : P} (payoutAddress : Option Address)
    (hsame : SameRecord userId ((db.addClaim (db.freshClaim spotId userId payoutAddress position)).clearSuspicion
      userId) db') : GuardedEnd cfg db spotId userId position (reloadClaim db' claimId) := by
  unfold reloadClaim
  cases db'.getClaim claimId with
  | none =>
    refine .entered payoutAddress (fun e he retryAt checkedAt hpostponed => ?_) hsame
    rw [← Except.error.inj he] at hpostponed
    cases hpostponed
  | some claim => exact .entered payoutAddress (by simp) hsame

lemma enterClaimSuccessOnly_ends (cfg : Settings P) (db : Db P) (req : ClaimRequest P) (spot : Spot P)
    (claimCodeId : Option ℕ) :
    GuardedEnd cfg db req.spotId req.userId req.position
      (enterClaimSuccessOnly (createClaimWithImpossibleTravelGuard cfg)
        promotePendingClaimToSuccessIfCapacityAvailable db req spot claimCodeId) := by
  have hcreated := createClaimWithImpossibleTravelGuard_ends cfg db req.spotId req.userId req.position
    req.payoutAddress
  unfold enterClaimSuccessOnly
  generalize createClaimWithImpossibleTravelGuard cfg db req.spotId req.userId req.position 1 req.payoutAddress =
    outcome at hcreated
  cases hcreated with
  | refused hother => exact .refused (friendlyInsertError_notPostponed hother)
  | banned hother hban => exact .banned (friendlyInsertError_notPostponed hother) hban
  | postponed hcooldown => exact .postponed hcooldown
  | failed hother hallow => exact .failed (friendlyInsertError_notPostponed hother) hallow
  | @entered db' answer payoutAddress hother hsame =>
    cases answer with
    | error e =>
      refine .entered payoutAddress (fun e' he' => ?_) hsame
      rw [← Except.error.inj he']
      exact friendlyInsertError_notPostponed (hother e rfl)
    | ok claimId =>
      have hcoded : SameRecord req.userId db' (db'.createAttemptIfCoded claimId claimCodeId) := by
        cases claimCodeId with
        | none => exact .refl req.userId db'
        | some codeId => exact ⟨rfl, fun c hc _ => ⟨c, hc, .refl c⟩, fun _ _ _ => rfl, rfl⟩
      have hattempted := hsame.then hcoded
      dsimp only
      generalize db'.createAttemptIfCoded claimId claimCodeId = attempted at hattempted
      by_cases hzero : spot.claimDuration = 0
      · rw [if_pos hzero]
        have hpromoted := hattempted.then ((claimsRewritten_codePromoter attempted claimId).sameRecord req.userId)
        rcases hpromote : promotePendingClaimToSuccessIfCodeAvailable promotePendingClaimToSuccessIfCapacityAvailable
          attempted claimId with ⟨promoted, claim, outcome⟩
        rw [hpromote] at hpromoted
        rcases outcome with _ | ⟨_ | _, reason⟩
        · cases claim with
          | none => exact .reloaded payoutAddress hpromoted
          | some claim => exact .entered payoutAddress (by simp) hpromoted
        · refine .entered payoutAddress (fun e he => ?_) hpromoted
          rw [← Except.error.inj he]
          exact notPostponed_valueError _
        · cases claim with
          | none => exact .reloaded payoutAddress hpromoted
          | some claim => exact .entered payoutAddress (by simp) hpromoted
      · rw [if_neg hzero]
        exact .reloaded payoutAddress hattempted

lemma getClaimRuleCheck_notPostponed {spotId : ℕ} {position : Option P} {accuracy : Option ℚ} {e : Raised}
    (h : getClaimRuleCheck cfg db spotId userId position accuracy = .error e) : e.NotPostponed := by
  intro retryAt checkedAt hpostponed
  subst hpostponed
  simp only [getClaimRuleCheck, bind, Except.bind, pure, Except.pure] at h
  cases position with
  | none => cases h
  | some position =>
    dsimp only at h
    unfold getClaimDistanceCheck at h
    cases hspot : db.getSpot spotId with
    | none => simp [hspot] at h
    | some spot => cases hposition : spot.position <;> simp [hspot, hposition] at h

lemma normaliseClaimCode_notPostponed {value : Option String} {required : Bool} {e : Raised}
    (h : normaliseClaimCode cfg value required = .error e) : e.NotPostponed := by
  intro retryAt checkedAt hpostponed
  subst hpostponed
  unfold normaliseClaimCode at h
  split at h
  · split_ifs at h
    simp at h
  · split_ifs at h
    simp at h
  · dsimp only at h
    split_ifs at h
    simp at h

lemma unusedClaimCode_notPostponed {spotId : ℕ} {code : Option String} {e : Raised}
    (h : unusedClaimCode db spotId code = .error e) : e.NotPostponed := by
  intro retryAt checkedAt hpostponed
  subst hpostponed
  unfold unusedClaimCode at h
  split at h
  · simp at h
  · split_ifs at h
    simp at h

lemma entryCheck_notPostponed {req : ClaimRequest P} {e : Raised} (h : entryCheck cfg db req = .error e) :
    e.NotPostponed := by
  unfold entryCheck at h
  cases hspot : db.getSpot req.spotId with
  | none =>
    rw [hspot] at h
    rw [← Except.error.inj h]
    exact notPostponed_valueError _
  | some spot =>
    rw [hspot] at h
    dsimp only at h
    cases hrule : getClaimRuleCheck cfg db req.spotId req.userId (some req.position) req.locationAccuracyMetres with
    | error raised =>
      rw [hrule] at h
      rw [← Except.error.inj h]
      exact getClaimRuleCheck_notPostponed hrule
    | ok rule =>
      rw [hrule] at h
      dsimp only at h
      by_cases hallowed : (!rule.allowed) = true
      · rw [if_pos hallowed] at h
        rw [← Except.error.inj h]
        exact notPostponed_valueError _
      · rw [if_neg hallowed] at h
        cases hclean : normaliseClaimCode cfg req.claimCode spot.usePassword with
        | error raised =>
          rw [hclean] at h
          rw [← Except.error.inj h]
          exact normaliseClaimCode_notPostponed hclean
        | ok cleanCode =>
          rw [hclean] at h
          dsimp only at h
          by_cases hcoded : spot.usePassword = true
          · rw [if_pos hcoded] at h
            cases hexisting : unusedClaimCode db req.spotId cleanCode with
            | error raised =>
              rw [hexisting] at h
              rw [← Except.error.inj h]
              exact unusedClaimCode_notPostponed hexisting
            | ok existing =>
              rw [hexisting] at h
              dsimp only at h
              split_ifs at h
              rw [← Except.error.inj h]
              exact notPostponed_valueError _
          · rw [if_neg hcoded] at h
            dsimp only at h
            split_ifs at h
            rw [← Except.error.inj h]
            exact notPostponed_valueError _

/-- An attempt is refused before the guard is asked, or the position passed the radius check and the guard
decides how it ends. -/
lemma installedCreateClaimAttempt_ends (cfg : Settings P) (db : Db P) (req : ClaimRequest P) :
    (∃ e : Raised, e.NotPostponed ∧ installedCreateClaimAttempt cfg db req = (db, .error e)) ∨
    (∃ check, getClaimDistanceCheck cfg db req.spotId req.position req.locationAccuracyMetres = .ok (some check) ∧
      check.withinRadius = true) ∧
    GuardedEnd cfg db req.spotId req.userId req.position (installedCreateClaimAttempt cfg db req) := by
  rcases installedCreateClaimAttempt_cases cfg db req with ⟨message, hrefused⟩ | ⟨-, address, hcall⟩
  · exact .inl ⟨_, notPostponed_valueError message, hrefused⟩
  · rw [hcall, createClaimAttemptSuccessOnly_eq]
    rcases hentry : entryCheck cfg db { req with payoutAddress := address } with e | ⟨spot, cleanCode, existing⟩
    · exact .inl ⟨e, entryCheck_notPostponed hentry, rfl⟩
    · right
      obtain ⟨-, hallowed, -⟩ := entryCheck_ok hentry
      exact ⟨hallowed.near, enterClaimSuccessOnly_ends cfg db { req with payoutAddress := address } spot _⟩

end Attempts

/-- A true report: the user is where the request says, and inside the Spot without the help of the GPS margin. -/
structure TruthfulAttempt (cfg : Settings P) (path : ℕ → P) (db : Db P) (req : ClaimRequest P) : Prop where
  position : req.position = path db.now
  withoutMargin : ∀ check,
    getClaimDistanceCheck cfg db req.spotId req.position req.locationAccuracyMetres = .ok (some check) →
    check.withinRadius = true → check.distanceMetres ≤ check.radiusMetres

/-- An attempt of the user, time, or a change elsewhere: other accounts and the rest of the deployment. -/
inductive TravelEvent (P : Type)
  | attempt (req : ClaimRequest P)
  | wait (seconds : ℕ)
  | elsewhere (db : Db P)

def travelStep (cfg : Settings P) (db : Db P) : TravelEvent P → Db P
  | .attempt req => claimRoute cfg db req
  | .wait seconds => { db with now := db.now + seconds }
  | .elsewhere db' => db'

def TruthfulEvent (cfg : Settings P) (path : ℕ → P) (userId : ℕ) (db : Db P) : TravelEvent P → Prop
  | .attempt req => req.userId = userId ∧ TruthfulAttempt cfg path db req ∧
    AtSpotsWithoutDuration userId (claimRoute cfg db req)
  | .wait _ => True
  | .elsewhere db' => SameRecord userId db db'

section Mercy

variable {cfg : Settings P} {path : ℕ → P} {userId : ℕ} {retryAt : Option ℕ} {db db' : Db P}
  {req : ClaimRequest P}

/-- The distance check and the guard look at the same place. -/
lemma getClaimDistanceCheck_anchor {spotId : ℕ} {position : P} {accuracy : Option ℚ} {check : DistanceCheck}
    (h : getClaimDistanceCheck cfg db spotId position accuracy = .ok (some check)) {spot : Spot P} {centre : P}
    (hspot : db.getSpot spotId = some spot) (hcentre : spot.position = some centre) :
    check.distanceMetres = cfg.distanceMetres position centre ∧ check.radiusMetres = spot.radius := by
  unfold getClaimDistanceCheck at h
  rw [hspot] at h
  dsimp only at h
  rw [hcentre] at h
  dsimp only at h
  rw [← Option.some.inj (Except.ok.inj h)]
  exact ⟨rfl, rfl⟩

/-- Where the truthful user is admitted, the user is inside. -/
lemma TruthfulAttempt.inside (h : TruthfulAttempt cfg path db req)
    (hnear : ∃ check, getClaimDistanceCheck cfg db req.spotId req.position req.locationAccuracyMetres =
      .ok (some check) ∧ check.withinRadius = true) {spot : Spot P} {centre : P}
    (hspot : db.getSpot req.spotId = some spot) (hcentre : spot.position = some centre) :
    cfg.distanceMetres (path db.now) centre ≤ spot.radius := by
  obtain ⟨check, hcheck, hwithin⟩ := hnear
  obtain ⟨hmeasured, hradius⟩ := getClaimDistanceCheck_anchor hcheck hspot hcentre
  have hinside := h.withoutMargin check hcheck hwithin
  rw [hmeasured, hradius, h.position] at hinside
  exact hinside

lemma DecidesMildly.trustworthy {decided : Db P × LocationDecision} (hmild : DecidesMildly userId retryAt db decided)
    (h : Trustworthy cfg path userId retryAt db) : Trustworthy cfg path userId retryAt decided.1 := by
  obtain ⟨marker, hrecord, hmarker⟩ := hmild.record
  rw [hrecord]
  refine ⟨h.standing, h.durations, h.claims, fun value hvalue => ?_⟩
  dsimp only at hvalue
  rw [Function.update_self] at hvalue
  exact hmarker value hvalue

/-- The claim a truthful attempt enters is one more claim where the user was. -/
lemma WasThere.enter {spotId : ℕ} {position : P} {payoutAddress : Option Address} (h : WasThere cfg path userId db)
    (hinside : ∀ spot centre, db.getSpot spotId = some spot → spot.position = some centre →
      cfg.distanceMetres (path db.now) centre ≤ spot.radius) :
    WasThere cfg path userId
      ((db.addClaim (db.freshClaim spotId userId payoutAddress position)).clearSuspicion userId) := by
  intro c hc howner spot centre hspot hcentre
  have hc : c ∈ db.claims ++ [db.freshClaim spotId userId payoutAddress position] := hc
  rw [List.mem_append, List.mem_singleton] at hc
  cases hc with
  | inl hold => exact h c hold howner spot centre hspot hcentre
  | inr hfresh =>
    subst hfresh
    exact hinside spot centre hspot hcentre

/-- What an attempt leaves of the record, committed or rolled back. -/
lemma claimRoute_cases (cfg : Settings P) (db : Db P) (req : ClaimRequest P) :
    claimRoute cfg db req = db ∨ claimRoute cfg db req = (installedCreateClaimAttempt cfg db req).1 := by
  unfold claimRoute
  rcases installedCreateClaimAttempt cfg db req with ⟨after, e | claim⟩
  · dsimp only
    split_ifs
    · exact .inr rfl
    · exact .inl rfl
  · exact .inr rfl

variable (hdistance : IsDistance cfg.distanceMetres)
  (hpath : NoFasterThan cfg.distanceMetres softCooldownMaxSpeedMetresPerSecond path)

include hdistance hpath

lemma TruthfulAttempt.decision (htrue : TruthfulAttempt cfg path db req) (howner : req.userId = userId)
    (h : Trustworthy cfg path userId retryAt db)
    (hnear : ∃ check, getClaimDistanceCheck cfg db req.spotId req.position req.locationAccuracyMetres =
      .ok (some check) ∧ check.withinRadius = true) :
    DecidesMildly userId retryAt db (getClaimLocationDecision cfg db req.userId req.spotId) := by
  rw [howner]
  apply getClaimLocationDecision_mild hdistance hpath h
  intro target htarget
  unfold Db.spotAnchor at htarget
  obtain ⟨spot, hspot, hplace⟩ := Option.bind_eq_some_iff.mp htarget
  obtain ⟨centre, hcentre, rfl⟩ := Option.map_eq_some_iff.mp hplace
  exact htrue.inside hnear hspot hcentre

/-- A truthful attempt keeps the user trustworthy, and postpones the claim to the retry time that is set. -/
lemma TruthfulAttempt.ends (htrue : TruthfulAttempt cfg path db req) (howner : req.userId = userId)
    (hzero : AtSpotsWithoutDuration userId (claimRoute cfg db req))
    (h : Trustworthy cfg path userId retryAt db) :
    Trustworthy cfg path userId retryAt (claimRoute cfg db req) ∧
    ∀ later checkedAt, (installedCreateClaimAttempt cfg db req).2 = .error (.claimLocationCooldown later checkedAt) →
      retryAt = some later := by
  have hroute := claimRoute_cases cfg db req
  rcases installedCreateClaimAttempt_ends cfg db req with ⟨e, hother, hrefused⟩ | ⟨hnear, hends⟩
  · constructor
    · rw [hrefused] at hroute
      rw [or_self_iff.mp hroute]
      exact h
    · intro later checkedAt hpostponed
      rw [hrefused] at hpostponed
      exact absurd (Except.error.inj hpostponed) (hother later checkedAt)
  · have hmild := htrue.decision hdistance hpath howner h hnear
    have hkept := hmild.trustworthy h
    rw [howner] at hends hmild hkept
    generalize installedCreateClaimAttempt cfg db req = outcome at hends hroute ⊢
    generalize claimRoute cfg db req = after at hroute hzero ⊢
    cases hends with
    | refused hother =>
      rw [or_self_iff.mp hroute]
      exact ⟨h, fun later checkedAt hpostponed => absurd (Except.error.inj hpostponed) (hother later checkedAt)⟩
    | banned hother hban => exact absurd hban hmild.noBan
    | postponed hcooldown =>
      have hretry := hmild.postponed hcooldown
      constructor
      · rcases hroute with rfl | rfl
        · exact h
        · exact hkept
      · intro later checkedAt hpostponed
        have hsame := Except.error.inj hpostponed
        simp only [Raised.claimLocationCooldown.injEq] at hsame
        rw [hretry, hsame.1]
    | failed hother hallow =>
      constructor
      · rcases hroute with rfl | rfl
        · exact h
        · exact hkept
      · intro later checkedAt hpostponed
        exact absurd (Except.error.inj hpostponed) (hother later checkedAt)
    | @entered db' answer payoutAddress hother hsame =>
      constructor
      · rcases hroute with rfl | rfl
        · exact h
        · have hinside : ∀ spot centre, db.getSpot req.spotId = some spot → spot.position = some centre →
              cfg.distanceMetres (path db.now) centre ≤ spot.radius := fun spot centre hspot hcentre =>
            htrue.inside hnear hspot hcentre
          have hentered : WasThere cfg path userId
              ((db.addClaim (db.freshClaim req.spotId userId payoutAddress req.position)).clearSuspicion userId) :=
            h.claims.enter fun spot centre hspot hcentre => htrue.inside hnear hspot hcentre
          refine ⟨?_, hzero, hentered.same hsame, ?_⟩
          · rw [hsame.standing]
            exact h.standing
          · intro marker hmarker
            rw [hsame.marker] at hmarker
            unfold Db.clearSuspicion at hmarker
            dsimp only at hmarker
            rw [Function.update_self] at hmarker
            cases hmarker
      · intro later checkedAt hpostponed
        exact absurd rfl (hother _ hpostponed later checkedAt)

lemma travelStep_trustworthy {event : TravelEvent P} (hevent : TruthfulEvent cfg path userId db event)
    (h : Trustworthy cfg path userId retryAt db) :
    Trustworthy cfg path userId retryAt (travelStep cfg db event) := by
  cases event with
  | attempt req =>
    obtain ⟨howner, htrue, hzero⟩ := hevent
    exact (htrue.ends hdistance hpath howner hzero h).1
  | wait seconds => exact ⟨h.standing, h.durations, h.claims, h.waits⟩
  | elsewhere db' => exact h.same hevent

omit hdistance hpath in
/-- Without a marker, only a new cooldown postpones: its retry time is the one the user is told. -/
lemma getClaimLocationDecision_fresh {spotId : ℕ} (hmarker : db.locationSuspicion userId = none)
    (hcooldown : (getClaimLocationDecision cfg db userId spotId).2.action = .cooldown) :
    ∃ marker, (getClaimLocationDecision cfg db userId spotId).1 = db.saveSuspicion userId marker ∧
      marker.retryAt = (getClaimLocationDecision cfg db userId spotId).2.retryAt := by
  unfold getClaimLocationDecision at hcooldown ⊢
  cases htarget : db.spotAnchor spotId with
  | none =>
    rw [htarget] at hcooldown
    cases hcooldown
  | some target =>
    rw [htarget] at hcooldown
    dsimp only at hcooldown ⊢
    rw [hmarker] at hcooldown ⊢
    generalize htrusted : trustedTravelDecision cfg db userId target db.now = trusted at hcooldown
    by_cases hban : trusted.action = .ban
    · rw [if_pos hban, hban] at hcooldown
      cases hcooldown
    · rw [if_neg hban] at hcooldown ⊢
      dsimp only at hcooldown ⊢
      by_cases hnew : trusted.action = .newCooldown
      · rw [if_pos hnew]
        exact ⟨_, rfl, rfl⟩
      · rw [if_neg hnew] at hcooldown
        rw [← htrusted] at hcooldown
        exact absurd hcooldown (trustedTravelDecision_action cfg db userId target db.now)

omit hdistance hpath in
/-- The false position leaves a trustworthy user with one marker. -/
lemma Trustworthy.postponed {later checkedAt : ℕ} (howner : req.userId = userId)
    (h : Trustworthy cfg path userId none db)
    (hpostponed : (installedCreateClaimAttempt cfg db req).2 = .error (.claimLocationCooldown later checkedAt)) :
    Trustworthy cfg path userId (some later) (claimRoute cfg db req) := by
  have hmarker : db.locationSuspicion userId = none := by
    cases hsome : db.locationSuspicion userId with
    | none => rfl
    | some marker => cases h.waits marker hsome
  have hwaiting : Trustworthy cfg path userId (some later) db :=
    ⟨h.standing, h.durations, h.claims, fun marker hsome => by rw [hmarker] at hsome; cases hsome⟩
  have hroute := claimRoute_cases cfg db req
  rcases installedCreateClaimAttempt_ends cfg db req with ⟨e, hother, hrefused⟩ | ⟨-, hends⟩
  · rw [hrefused] at hpostponed
    exact absurd (Except.error.inj hpostponed) (hother later checkedAt)
  · rw [howner] at hends
    generalize installedCreateClaimAttempt cfg db req = outcome at hends hroute hpostponed
    cases hends with
    | refused hother => exact absurd (Except.error.inj hpostponed) (hother later checkedAt)
    | banned hother _ => exact absurd (Except.error.inj hpostponed) (hother later checkedAt)
    | failed hother _ => exact absurd (Except.error.inj hpostponed) (hother later checkedAt)
    | entered payoutAddress hother hsame => exact absurd rfl (hother _ hpostponed later checkedAt)
    | postponed hcooldown =>
      have hretry := Except.error.inj hpostponed
      simp only [Raised.claimLocationCooldown.injEq] at hretry
      obtain ⟨marker, hsaved, hmarked⟩ := getClaimLocationDecision_fresh hmarker hcooldown
      rcases hroute with hdb | hdb
      · rw [hdb]
        exact hwaiting
      · rw [hdb]
        dsimp only
        rw [hsaved]
        refine ⟨h.standing, h.durations, h.claims, fun value hvalue => ?_⟩
        unfold Db.saveSuspicion at hvalue
        dsimp only at hvalue
        rw [Function.update_self] at hvalue
        rw [← Option.some.inj hvalue, hmarked, hretry.1]

omit hdistance hpath in
lemma Trustworthy.notBanned (h : Trustworthy cfg path userId retryAt db) {user : User}
    (hfound : db.getUser userId = some user) : user.status ≠ .banned := by
  have hstanding := h.standing
  rw [hfound] at hstanding
  intro hbanned
  exact hstanding (congrArg some hbanned)

variable {before after : List (TravelEvent P)} {lie : ClaimRequest P} {later checkedAt : ℕ}

/-- One false position, postponed by the guard, among true ones: the user is never banned, and whatever is
tried later is postponed to the retry time the false one was answered with, or not at all. -/
theorem one_false_position_is_forgiven (hstart : Trustworthy cfg path userId none db)
    (hbefore : Admissible (travelStep cfg) (TruthfulEvent cfg path userId) db before)
    (hlie : lie.userId = userId)
    (hpostponed : (installedCreateClaimAttempt cfg (run (travelStep cfg) db before) lie).2 =
      .error (.claimLocationCooldown later checkedAt))
    (hafter : Admissible (travelStep cfg) (TruthfulEvent cfg path userId)
      (run (travelStep cfg) db (before ++ [.attempt lie])) after) :
    (∀ user, (run (travelStep cfg) db before).getUser userId = some user → user.status ≠ .banned) ∧
    (∀ user, (run (travelStep cfg) db (before ++ [.attempt lie] ++ after)).getUser userId = some user →
      user.status ≠ .banned) ∧
    (∀ marker, (run (travelStep cfg) db (before ++ [.attempt lie] ++ after)).locationSuspicion userId =
      some marker → marker.retryAt = later) ∧
    ∀ req, TruthfulEvent cfg path userId (run (travelStep cfg) db (before ++ [.attempt lie] ++ after))
        (.attempt req) →
      ∀ retryAt checkedAt, (installedCreateClaimAttempt cfg
        (run (travelStep cfg) db (before ++ [.attempt lie] ++ after)) req).2 =
          .error (.claimLocationCooldown retryAt checkedAt) → retryAt = later := by
  have hkeeps : ∀ retryAt (s : Db P) event, TruthfulEvent cfg path userId s event →
      Trustworthy cfg path userId retryAt s → Trustworthy cfg path userId retryAt (travelStep cfg s event) :=
    fun _ _ _ hevent h => travelStep_trustworthy hdistance hpath hevent h
  have htrusted := run_invariant (hkeeps none) hbefore hstart
  have hmarked : Trustworthy cfg path userId (some later) (run (travelStep cfg) db (before ++ [.attempt lie])) := by
    rw [run_append]
    exact htrusted.postponed hlie hpostponed
  have hfinal := run_invariant (hkeeps (some later)) hafter hmarked
  rw [← run_append] at hfinal
  refine ⟨fun user => htrusted.notBanned, fun user => hfinal.notBanned, ?_, ?_⟩
  · intro marker hmarker
    exact (Option.some.inj (hfinal.waits marker hmarker)).symm
  · rintro req ⟨howner, htrue, hzero⟩ retryAt checkedAt' hagain
    have hretry := (htrue.ends hdistance hpath howner hzero hfinal).2 retryAt checkedAt' hagain
    exact (Option.some.inj hretry).symm

end Mercy

section Witness

/-- A straight road, in metres. -/
def Settings.road : Settings ℤ where
  distanceMetres := fun x y => (|x - y| : ℤ)
  publicDeployment := true
  walletHourlyClaimLimit := 20
  cleanOptionalNimiqAddress := .ok
  strip := id
  upper := id

def roadSpot (id : ℕ) (centre : ℤ) : Spot ℤ where
  id := id
  createdBy := 1
  depositAddress := "NQ"
  position := some centre
  radius := 100
  claimDuration := 0
  maxClaimsPerUser := 0
  maxTotalClaims := 10
  usePassword := false
  totalValue := 10 * lunaPerNim
  creationFee := 0
  startsAt := some 10
  endsAt := 100000
  status := .published
  cancellationStartedAt := none
  prizeCount := none

/-- Three Spots along the road, and a user who has claimed nothing yet. -/
def road (trusted far next : ℤ) : Db ℤ :=
  { (Db.empty : Db ℤ) with
    now := 100
    users := [{ id := 1, status := .active }, { id := 2, status := .active }]
    spots := [roadSpot 1 trusted, roadSpot 2 far, roadSpot 3 next]
    userBindings := [(2, "NQ02")] }

def reportAt (spotId : ℕ) (position : ℤ) (accuracy : ℚ) : ClaimRequest ℤ :=
  ⟨spotId, 2, position, some accuracy, none, none⟩

lemma road_isDistance : IsDistance Settings.road.distanceMetres where
  symm := by
    intro x y
    unfold Settings.road
    dsimp only
    rw [abs_sub_comm]
  triangle := by
    intro x y z
    unfold Settings.road
    dsimp only
    exact_mod_cast abs_sub_le x y z

/-- Along the road at 75 metres a second. -/
def drive (second : ℕ) : ℤ := 150 + 75 * ((second : ℤ) - 100)

lemma drive_noFasterThan : NoFasterThan Settings.road.distanceMetres softCooldownMaxSpeedMetresPerSecond drive := by
  intro start finish horder
  have hgap : drive start - drive finish = -(75 * ((finish - start : ℕ) : ℤ)) := by
    unfold drive
    omega
  have hlength : |drive start - drive finish| = 75 * ((finish - start : ℕ) : ℤ) := by
    rw [hgap, abs_neg, abs_of_nonneg]
    omega
  unfold Settings.road softCooldownMaxSpeedMetresPerSecond
  dsimp only
  rw [hlength]
  push_cast
  exact le_refl _

/-- Both claims along the drive are accepted as near their Spots by 50 metres of GPS margin each. -/
def driveAttempts : List (TravelEvent ℤ) :=
  [.attempt (reportAt 1 150 50), .wait 10, .attempt (reportAt 2 (-3000) 5), .wait 4, .attempt (reportAt 3 1200 50)]

/-- The guard measures from Spot to Spot, 100 metres more than was driven between the two true positions:
the drive is banned. -/
theorem gps_margin_turns_mercy_into_a_ban :
    IsDistance Settings.road.distanceMetres ∧
    NoFasterThan Settings.road.distanceMetres softCooldownMaxSpeedMetresPerSecond drive ∧
    (reportAt 1 150 50).position = drive 100 ∧ (reportAt 3 1200 50).position = drive 114 ∧
    (installedCreateClaimAttempt Settings.road
      (run (travelStep Settings.road) (road 0 (-3000) 1350) (driveAttempts.take 2)) (reportAt 2 (-3000) 5)).2 =
        .error (.claimLocationCooldown 139 110) ∧
    (run (travelStep Settings.road) (road 0 (-3000) 1350) (driveAttempts.take 4)).now = 114 ∧
    ((run (travelStep Settings.road) (road 0 (-3000) 1350) driveAttempts).getUser 2).map User.status =
      some .banned :=
  ⟨road_isDistance, drive_noFasterThan, by decide +kernel, by decide +kernel, by decide +kernel, by decide +kernel,
    by decide +kernel⟩

/-- Nobody moves on a road where every Spot is within reach. -/
def stay : ℕ → ℤ := fun _ => 0

lemma stay_noFasterThan : NoFasterThan Settings.road.distanceMetres softCooldownMaxSpeedMetresPerSecond stay := by
  intro start finish _
  unfold stay Settings.road softCooldownMaxSpeedMetresPerSecond
  dsimp only
  rw [sub_self, abs_zero, Int.cast_zero]
  positivity

lemma atSpotsWithoutDuration_of_spots {db : Db ℤ} (userId : ℕ) (h : ∀ s ∈ db.spots, s.claimDuration = 0) :
    AtSpotsWithoutDuration userId db :=
  fun _ _ _ spot hspot => h spot (List.mem_of_find?_eq_some hspot)

lemma truthfulAttempt_stay {db : Db ℤ} {spotId : ℕ} {check : DistanceCheck}
    (hcheck : getClaimDistanceCheck Settings.road db spotId 0 (some 5) = .ok (some check))
    (hinside : check.distanceMetres ≤ check.radiusMetres) :
    TruthfulAttempt Settings.road stay db (reportAt spotId 0 5) where
  position := rfl
  withoutMargin := by
    intro found hfound _
    have hsame : found = check := by
      change getClaimDistanceCheck Settings.road db spotId 0 (some 5) = _ at hfound
      rw [hcheck] at hfound
      exact (Option.some.inj (Except.ok.inj hfound)).symm
    rw [hsame]
    exact hinside

def stayBefore : List (TravelEvent ℤ) := [.attempt (reportAt 1 0 5), .wait 10]

def stayAfter : List (TravelEvent ℤ) := [.wait 4, .attempt (reportAt 3 0 5)]

/-- Home at 0, a false report 3000 metres away, and a true one next door. -/
theorem one_false_position_is_forgiven_stay :
    (∀ user, (run (travelStep Settings.road) (road 0 (-3000) 50) stayBefore).getUser 2 = some user →
      user.status ≠ .banned) ∧
    (∀ user, (run (travelStep Settings.road) (road 0 (-3000) 50)
      (stayBefore ++ [.attempt (reportAt 2 (-3000) 5)] ++ stayAfter)).getUser 2 = some user →
        user.status ≠ .banned) ∧
    (∀ marker, (run (travelStep Settings.road) (road 0 (-3000) 50)
      (stayBefore ++ [.attempt (reportAt 2 (-3000) 5)] ++ stayAfter)).locationSuspicion 2 = some marker →
        marker.retryAt = 139) := by
  have hstart : Trustworthy Settings.road stay 2 none (road 0 (-3000) 50) :=
    { standing := by decide +kernel
      durations := atSpotsWithoutDuration_of_spots 2 (by decide +kernel)
      claims := fun c hc => by cases hc
      waits := fun marker hmarker => by cases hmarker }
  have hbefore : Admissible (travelStep Settings.road) (TruthfulEvent Settings.road stay 2) (road 0 (-3000) 50)
      stayBefore := by
    refine ⟨⟨rfl, ?_, atSpotsWithoutDuration_of_spots 2 (by decide +kernel)⟩, trivial, trivial⟩
    have hcheck : getClaimDistanceCheck Settings.road (road 0 (-3000) 50) 1 0 (some 5) =
        .ok (some ⟨0, 100, 0, true⟩) := by decide +kernel
    exact truthfulAttempt_stay hcheck (by decide +kernel)
  have hafter : Admissible (travelStep Settings.road) (TruthfulEvent Settings.road stay 2)
      (run (travelStep Settings.road) (road 0 (-3000) 50) (stayBefore ++ [.attempt (reportAt 2 (-3000) 5)]))
      stayAfter := by
    refine ⟨trivial, ⟨rfl, ?_, atSpotsWithoutDuration_of_spots 2 (by decide +kernel)⟩, trivial⟩
    have hcheck : getClaimDistanceCheck Settings.road (run (travelStep Settings.road) (road 0 (-3000) 50)
        (stayBefore ++ [.attempt (reportAt 2 (-3000) 5), .wait 4])) 3 0 (some 5) =
          .ok (some ⟨50, 100, 45, true⟩) := by decide +kernel
    exact truthfulAttempt_stay hcheck (by decide +kernel)
  have hpostponed : (installedCreateClaimAttempt Settings.road (run (travelStep Settings.road)
      (road 0 (-3000) 50) stayBefore) (reportAt 2 (-3000) 5)).2 = .error (.claimLocationCooldown 139 110) := by
    decide +kernel
  have hforgiven := one_false_position_is_forgiven road_isDistance stay_noFasterThan hstart hbefore rfl hpostponed
    hafter
  exact ⟨hforgiven.1, hforgiven.2.1, hforgiven.2.2.1⟩

end Witness

end NimHunt
