import NimHunt.Proofs.SystemRuns

/-!
# One recovery flow

A cancellation marker hands a standard Spot to the cancellation flow, and the remainder worker leaves it there.  The
flow turns a Spot away once its last place is taken, so a pending claim that takes this place after the marker leaves
the Spot to nobody.
-/

namespace NimHunt

open Lib Relation

variable {P : Type}

section Flow

/-- How the cancellation flow turns a Spot away for good. -/
def statusRefusals : List String :=
  ["only funded drafts or published spots can be cancelled",
    "Prizedraw spots cannot be cancelled through this standard cancellation flow", "completed spots cannot be cancelled"]

/-- The cancellation flow takes the Spot, and the remainder worker leaves it there. -/
structure Recovered (cfg : Settings P) (db : Db P) (spotId : ℕ) : Prop where
  taken : ∀ fee, ∀ reason ∈ statusRefusals,
    (submitSpotCancellationTransactions cfg db spotId fee).2 ≠ .error (.valueError reason)
  left : (settleSpotRemainderIfReady cfg db spotId).2 = .refused "cancellation_managed_separately"

/-- Every standard Spot with a marker that is not finalised has its flow. -/
def OneRecoveryFlow (cfg : Settings P) (db : Db P) : Prop :=
  ∀ spotId spot, db.getSpot spotId = some spot → spot.prizeCount = none → spot.cancellationStartedAt.isSome = true →
    spot.status ≠ .cancelled → Recovered cfg db spotId

/-- A Spot that a cancellation can still begin on. -/
def Spot.MayCancel (db : Db P) (spot : Spot P) : Prop :=
  spot.status = .cancelled ∨ spot.status = .draft ∨
    spot.status = .published ∧ publishedStandardSpotIsComplete db spot = false

def MarkedOpen (db : Db P) : Prop :=
  ∀ spotId spot, db.getSpot spotId = some spot → spot.prizeCount = none → spot.cancellationStartedAt.isSome = true →
    spot.MayCancel db

variable {cfg : Settings P} {db db' : Db P} {spot : Spot P} {spotId : ℕ}

/-- The ledger part refuses for other reasons. -/
lemma cancelFromLedger_error (fee : ℕ) (rows : List Trans) {reason : String} (hreason : reason ∈ statusRefusals) :
    (cancelFromLedger cfg db spot fee rows).2 ≠ .error (.valueError reason) := by
  have hunfunded : "unfunded drafts should be deleted rather than cancelled" ∉ statusRefusals := by decide
  have hsource : "cannot refund this spot because no original deposit sender address is recorded" ∉ statusRefusals := by
    decide
  intro herror
  unfold cancelFromLedger at herror
  dsimp only at herror
  split_ifs at herror
  · injection herror with hraised
    injection hraised with hsame
    exact hunfunded (hsame ▸ hreason)
  · injection herror with hraised
    injection hraised with hsame
    exact hsource (hsame ▸ hreason)

lemma MarkedOpen.oneRecoveryFlow (h : MarkedOpen db) : OneRecoveryFlow cfg db := by
  intro spotId spot hspot hstandard hmarked hopen
  have hmay : spot.status = .draft ∨ spot.status = .published ∧ publishedStandardSpotIsComplete db spot = false :=
    (h spotId spot hspot hstandard hmarked).resolve_left hopen
  have hdraft : ¬ (spot.status ≠ .draft ∧ spot.status ≠ .published) := fun hother =>
    hmay.elim hother.1 fun hpublished => hother.2 hpublished.1
  have hprizedraw : ¬ (spot.status = .published ∧ spot.prizeCount.isSome = true) := by
    rw [hstandard]
    exact fun hboth => nomatch hboth.2
  have hcomplete : ¬ publishedStandardSpotIsComplete db spot = true := by
    intro hfull
    cases hmay with
    | inl hstatus =>
      have hpublished := (of_decide_eq_true hfull).1
      rw [hstatus] at hpublished
      cases hpublished
    | inr hincomplete =>
      rw [hincomplete.2] at hfull
      cases hfull
  constructor
  · intro fee reason hreason herror
    unfold submitSpotCancellationTransactions at herror
    rw [hspot] at herror
    dsimp only at herror
    rw [if_neg hdraft, if_neg hprizedraw, if_neg hcomplete] at herror
    split_ifs at herror
    · have hledger := @cancelFromLedger_error _ cfg (markSpotCancellationStarted db spotId) spot fee
        ((markSpotCancellationStarted db spotId).getTransactionsBySpot spotId maxLimit) reason hreason
      generalize cancelFromLedger cfg (markSpotCancellationStarted db spotId) spot fee
        ((markSpotCancellationStarted db spotId).getTransactionsBySpot spotId maxLimit) = outcome at herror hledger
      obtain ⟨made, e | result⟩ := outcome
      · exact hledger herror
      · cases herror
  · have hfinal : ¬ (spot.status = .cancelled ∨ spot.status = .banned) := by
      intro hended
      cases hended with
      | inl hcancelled => exact hopen hcancelled
      | inr hbanned =>
        rw [hbanned] at hmay
        exact hmay.elim nofun fun hpublished => nomatch hpublished.1
    unfold settleSpotRemainderIfReady
    rw [hspot]
    dsimp only
    rw [if_neg hfinal, if_pos hmarked]

end Flow

section Writes

variable {cfg : Settings P} {db db' : Db P}

/-- A pending claim on the last place of a published standard Spot that carries a marker. -/
def TakesLastPlace (db : Db P) (claim : Claim P) : Prop :=
  ∃ spot, db.getSpot claim.spotId = some spot ∧ spot.status = .published ∧ spot.prizeCount = none ∧
    spot.cancellationStartedAt.isSome = true ∧
    db.countClaimsByStatusForSpot spot.id .success + 1 = spot.maxTotalClaims ∧
    ∃ coded, CodeConsumed db spot claim.id coded

/-- No claim takes the last place of a marked Spot. -/
def recoveryPermit : Permit P where
  enter _ _ _ _ := True
  settle db claim status := status = .success → ¬ TakesLastPlace db claim
  touch _ _ := True
  draw _ _ _ := True
  ban _ _ := True

lemma incomplete_mono {spot : Spot P} (h : publishedStandardSpotIsComplete db spot = false)
    (hcount : db'.countClaimsByStatusForSpot spot.id .success ≤ db.countClaimsByStatusForSpot spot.id .success) :
    publishedStandardSpotIsComplete db' spot = false := by
  unfold publishedStandardSpotIsComplete at h ⊢
  have hopen := of_decide_eq_false h
  apply decide_eq_false
  rintro ⟨hpublished, hlimited, hstandard, hfull⟩
  exact hopen ⟨hpublished, hlimited, hstandard, hfull.trans hcount⟩

/-- The Spots stay, and no marked Spot with a place left fills up. -/
lemma MarkedOpen.claims (h : MarkedOpen db) (hspots : db'.spots = db.spots)
    (hcount : ∀ spotId spot, db.getSpot spotId = some spot → spot.status = .published → spot.prizeCount = none →
      spot.cancellationStartedAt.isSome = true → publishedStandardSpotIsComplete db spot = false →
      publishedStandardSpotIsComplete db' spot = false) : MarkedOpen db' := by
  intro spotId spot hspot hstandard hmarked
  have hold : db.getSpot spotId = some spot := by
    unfold Db.getSpot at hspot ⊢
    rw [← hspots]
    exact hspot
  obtain hcancelled | hdraft | ⟨hpublished, hopen⟩ := h spotId spot hold hstandard hmarked
  · exact .inl hcancelled
  · exact .inr (.inl hdraft)
  · exact .inr (.inr ⟨hpublished, hcount spotId spot hold hpublished hstandard hmarked hopen⟩)

lemma MarkedOpen.fewer (h : MarkedOpen db) (hspots : db'.spots = db.spots)
    (hcount : ∀ spotId, db'.countClaimsByStatusForSpot spotId .success ≤ db.countClaimsByStatusForSpot spotId .success) :
    MarkedOpen db' :=
  h.claims hspots fun _ spot _ _ _ _ hopen => incomplete_mono hopen (hcount spot.id)

/-- The claims stay, and a marked Spot is one that was marked, or may be cancelled anyway. -/
lemma MarkedOpen.spots (h : MarkedOpen db) (hclaims : db'.claims = db.claims)
    (hrow : ∀ spotId spot, db'.getSpot spotId = some spot → spot.prizeCount = none →
      spot.cancellationStartedAt.isSome = true → db.getSpot spotId = some spot ∨ spot.MayCancel db) : MarkedOpen db' := by
  intro spotId spot hspot hstandard hmarked
  have hmay : spot.MayCancel db := by
    cases hrow spotId spot hspot hstandard hmarked with
    | inl hold => exact h spotId spot hold hstandard hmarked
    | inr hmay => exact hmay
  obtain hcancelled | hdraft | ⟨hpublished, hopen⟩ := hmay
  · exact .inl hcancelled
  · exact .inr (.inl hdraft)
  · refine .inr (.inr ⟨hpublished, incomplete_mono hopen ?_⟩)
    unfold Db.countClaimsByStatusForSpot
    rw [hclaims]

/-- Claims that do not turn SUCCESS fill no place. -/
lemma success_updateClaimStatus_le (db : Db P) (sel : Claim P → Bool) {status : ClaimStatus} (hstatus : status ≠ .success)
    (spotId : ℕ) : (db.updateClaimStatus sel status).countClaimsByStatusForSpot spotId .success ≤
      db.countClaimsByStatusForSpot spotId .success := by
  unfold Db.countClaimsByStatusForSpot
  apply countP_updateWhere_le
  intro c _ _ hcounted
  exact absurd (of_decide_eq_true hcounted).2 hstatus

lemma success_failPendingStandard_le (db : Db P) (id spotId : ℕ) :
    (db.failPendingStandardDurationClaimsIfCapacityFull id).countClaimsByStatusForSpot spotId .success ≤
      db.countClaimsByStatusForSpot spotId .success := by
  have hfailed : ClaimStatus.failed ≠ .success := nofun
  unfold Db.failPendingStandardDurationClaimsIfCapacityFull
  cases db.getSpot id with
  | none => exact le_refl _
  | some spot =>
    dsimp only
    split_ifs
    · exact le_refl _
    · exact le_refl _
    · exact le_refl _
    · exact success_updateClaimStatus_le db _ hfailed spotId

/-- A claim that turns SUCCESS fills one place of its Spot. -/
lemma success_setClaimStatusToSuccess_le {claim : Claim P} (hkeys : (db.claims.map Claim.id).Nodup)
    (hclaim : db.getClaim claim.id = some claim) (spotId : ℕ) :
    (db.setClaimStatusToSuccess claim.id).countClaimsByStatusForSpot spotId .success ≤
      db.countClaimsByStatusForSpot spotId .success + if claim.spotId = spotId then 1 else 0 := by
  unfold Db.countClaimsByStatusForSpot
  by_cases hof : claim.spotId = spotId
  · rw [if_pos hof]
    have hadds : ((db.setClaimStatusToSuccess claim.id).claims.countP fun c => c.spotId = spotId ∧ c.status = .success) ≤
        (db.claims.countP fun c => c.spotId = spotId ∧ c.status = .success) +
          db.claims.countP fun c => c.id = claim.id := countP_updateWhere_le_add _
    have hone := countP_key_le_one hkeys claim.id
    omega
  · rw [if_neg hof, Nat.add_zero]
    apply countP_updateWhere_le
    intro c hc hsel hcounted
    have hsame : c = claim := by
      have hfound := (find?_key_eq_some hkeys).mpr ⟨hc, of_decide_eq_true hsel⟩
      exact Option.some.inj (hfound.symm.trans hclaim)
    have hspot : c.spotId = spotId := (of_decide_eq_true hcounted).1
    exact absurd (hsame ▸ hspot) hof

/-- Spots are rewritten, and no row that is rewritten is a marked Spot nobody takes. -/
lemma MarkedOpen.update (h : MarkedOpen db) {sel : Spot P → Bool} {f : Spot P → Spot P}
    (hclaims : db'.claims = db.claims) (hspots : db'.spots = updateWhere sel f db.spots) (hid : ∀ s, (f s).id = s.id)
    (hrow : ∀ s, db.getSpot s.id = some s → sel s = true → (f s).prizeCount = none →
      (f s).cancellationStartedAt.isSome = true → (f s).MayCancel db) : MarkedOpen db' := by
  apply h.spots hclaims
  intro spotId spot hspot hstandard hmarked
  unfold Db.getSpot at hspot
  rw [hspots, find?_updateWhere_key hid, Option.map_eq_some_iff] at hspot
  obtain ⟨s, hs, hnext⟩ := hspot
  have hfound : db.getSpot s.id = some s := (getSpot_id hs).symm ▸ hs
  by_cases hsel : sel s = true
  · rw [if_pos hsel] at hnext
    rw [← hnext] at hstandard hmarked ⊢
    exact .inr (hrow s hfound hsel hstandard hmarked)
  · rw [if_neg hsel] at hnext
    rw [← hnext]
    exact .inl hs

lemma MarkedOpen.claimWrite (h : MarkedOpen db) (hkeys : (db.claims.map Claim.id).Nodup)
    (hwrite : ClaimWrite recoveryPermit.toWritePermit db db') : MarkedOpen db' := by
  have hspots : db'.spots = db.spots := hwrite.sameGround.spots
  cases hwrite with
  | guarded => exact h.fewer rfl fun _ => le_refl _
  | attempted => exact h.fewer rfl fun _ => le_refl _
  | failed => exact h.fewer rfl (success_updateClaimStatus_le db _ nofun)
  | failedReleasing => exact h.fewer rfl (success_updateClaimStatus_le db _ nofun)
  | entered =>
    refine h.fewer rfl ?_
    intro spotId
    unfold Db.countClaimsByStatusForSpot Db.addClaim Db.freshClaim
    rw [List.countP_append]
    simp
  | @moved claim position score status _ _ hpermit =>
    refine h.fewer hspots ?_
    intro spotId
    have hstatus : status ≠ .success := by
      intro hsuccess
      rw [hsuccess] at hpermit
      exact hpermit.elim (fun hkept => nomatch hkept.1) fun hfailed => nomatch hfailed.1
    unfold Db.countClaimsByStatusForSpot
    rw [modifyClaimLocationScore_claims]
    apply countP_updateWhere_le
    intro c _ _ hcounted
    exact absurd (of_decide_eq_true hcounted).2 hstatus
  | @succeeded claim spot coded hclaim hpending hspot hroom hcode hpermit =>
    apply h.claims hspots
    intro spotId other hother hpublished hstandard hmarked hopen
    have hcoded : coded.claims = db.claims := hcode.claims
    have hclaim' : coded.getClaim claim.id = some claim := by
      unfold Db.getClaim at hclaim ⊢
      rw [hcoded]
      exact hclaim
    have hcount : ((coded.setClaimStatusToSuccess claim.id).failPendingStandardDurationClaimsIfCapacityFull
        claim.spotId).countClaimsByStatusForSpot other.id .success ≤
          db.countClaimsByStatusForSpot other.id .success + if claim.spotId = other.id then 1 else 0 := by
      have hone := success_setClaimStatusToSuccess_le (hcoded ▸ hkeys) hclaim' other.id
      have hsame : coded.countClaimsByStatusForSpot other.id .success =
          db.countClaimsByStatusForSpot other.id .success := by
        unfold Db.countClaimsByStatusForSpot
        rw [hcoded]
      rw [hsame] at hone
      exact (success_failPendingStandard_le _ claim.spotId other.id).trans hone
    by_cases hof : claim.spotId = other.id
    · rw [if_pos hof] at hcount
      have hthis : spot = other := by
        have hfound : db.getSpot claim.spotId = some other := by
          rw [hof, getSpot_id hother]
          exact hother
        exact Option.some.inj (hspot.symm.trans hfound)
      subst hthis
      unfold publishedStandardSpotIsComplete
      apply decide_eq_false
      rintro ⟨-, hlimited, -, hfull⟩
      have hfree : db.countClaimsByStatusForSpot spot.id .success < spot.maxTotalClaims := by
        obtain hprize | hunlimited | hfree := hroom
        · rw [hstandard] at hprize
          cases hprize
        · omega
        · exact hfree
      have hlast : db.countClaimsByStatusForSpot spot.id .success + 1 = spot.maxTotalClaims := by omega
      exact hpermit rfl ⟨spot, hspot, hpublished, hstandard, hmarked, hlast, coded, hcode⟩
    · rw [if_neg hof] at hcount
      exact incomplete_mono hopen hcount

lemma MarkedOpen.dbWrite (h : MarkedOpen db) (hnumbered : Numbered db) (hwrite : DbWrite cfg recoveryPermit db db') :
    MarkedOpen db' := by
  have honly : ∀ {spot s : Spot P}, db.getSpot spot.id = some spot → db.getSpot s.id = some s → s.id = spot.id →
      s = spot := by
    intro spot s hspot hs hid
    rw [hid] at hs
    exact Option.some.inj (hs.symm.trans hspot)
  cases hwrite with
  | claim hwrite => exact h.claimWrite hnumbered.keyed.claimKeys hwrite
  | @drafted spot hid hdraft hmarker _ =>
    refine h.spots rfl ?_
    intro spotId found hfound hstandard hmarked
    unfold Db.getSpot at hfound ⊢
    dsimp only at hfound
    rw [List.find?_append] at hfound
    cases hold : db.spots.find? fun s => s.id = spotId with
    | some s =>
      rw [hold] at hfound
      exact .inl hfound
    | none =>
      rw [hold, Option.none_or] at hfound
      have hnew : found ∈ [spot] := List.mem_of_find?_eq_some hfound
      rw [List.mem_singleton.mp hnew, hmarker] at hmarked
      cases hmarked
  | @edited spot next hspot hdraft hsame _ =>
    refine h.update rfl (edited_spots hsame.id db.spots) (fun _ => rfl) ?_
    intro s _ _ _ _
    exact .inr (.inl (hsame.status.trans hdraft))
  | undrafted _ _ _ hunclaimed =>
    refine h.spots (deleteSpot_claims hunclaimed) ?_
    intro spotId found hfound _ _
    exact .inl (getSpot_of_deleteSpot hfound).2
  | published =>
    refine h.update rfl rfl (fun _ => rfl) ?_
    intro s _ hsel _ hmarked
    have hnone : s.cancellationStartedAt = none := (of_decide_eq_true hsel).2.2
    have hsome : s.cancellationStartedAt.isSome = true := hmarked
    rw [hnone] at hsome
    cases hsome
  | @marked spot hspot hopen =>
    refine h.update rfl rfl (fun _ => rfl) ?_
    intro s hs hsel _ _
    obtain ⟨hid, hstatus, -⟩ := of_decide_eq_true hsel
    rw [honly hspot hs hid] at hstatus ⊢
    cases hstatus with
    | inl hdraft => exact .inr (.inl hdraft)
    | inr hpublished => exact .inr (.inr ⟨hpublished, hopen⟩)
  | @closed spot status hspot hcloses _ =>
    refine h.update rfl rfl (fun _ => rfl) ?_
    intro s hs hsel hstandard hmarked
    have hsame : s = spot := honly hspot hs (of_decide_eq_true hsel)
    rw [hsame] at hstandard hmarked ⊢
    cases hcloses with
    | completed _ _ hmarker _ =>
      have hsome : spot.cancellationStartedAt.isSome = true := hmarked
      rw [hmarker] at hsome
      cases hsome
    | cancelled => exact .inl rfl
    | banned hopen _ =>
      have hsome : spot.cancellationStartedAt.isSome = true := hmarked
      by_cases hbanned : spot.status = .banned
      · obtain hstatus | hstatus | ⟨hstatus, -⟩ := h spot.id spot hspot hstandard hmarked
        all_goals
          rw [hbanned] at hstatus
          cases hstatus
      · rw [hopen hbanned] at hsome
        cases hsome
  | @drawn spot winners hspot _ hprizedraw _ _ =>
    have hclaims : MarkedOpen ((db.failPendingClaimsForSpot spot.id).markPrizedrawWinnersPending spot.id winners).1 := by
      refine h.fewer rfl ?_
      intro spotId
      have hfailed : ClaimStatus.failed ≠ .success := nofun
      have hpending : ClaimStatus.pending ≠ .success := nofun
      exact (success_updateClaimStatus_le _ _ hpending spotId).trans (success_updateClaimStatus_le db _ hfailed spotId)
    refine hclaims.update rfl rfl (fun _ => rfl) ?_
    intro s hs hsel hstandard _
    rw [← honly hspot hs (of_decide_eq_true hsel)] at hprizedraw
    have hnone : s.prizeCount = none := hstandard
    rw [hnone] at hprizedraw
    cases hprizedraw
  | @paid claim hclaim hdrawn =>
    refine h.claims rfl ?_
    intro spotId other hother _ hstandard _ hopen
    have hcount := success_setClaimStatusToSuccess_le hnumbered.keyed.claimKeys hclaim other.id
    by_cases hof : claim.spotId = other.id
    · obtain ⟨found, hfound, hprize, -⟩ := hdrawn
      rw [hof, getSpot_id hother, hother] at hfound
      rw [← Option.some.inj hfound, hstandard] at hprize
      cases hprize
    · rw [if_neg hof] at hcount
      exact incomplete_mono hopen hcount
  | banned => exact h.fewer rfl (success_updateClaimStatus_le db _ nofun)
  | clock => exact h.fewer rfl fun _ => le_refl _
  | users => exact h.fewer rfl fun _ => le_refl _
  | bound => exact h.fewer rfl fun _ => le_refl _
  | bookkept => exact h.fewer rfl fun _ => le_refl _
  | ledger => exact h.fewer rfl fun _ => le_refl _
  | codesDropped => exact h.fewer rfl fun _ => le_refl _
  | codeCreated => exact h.fewer rfl fun _ => le_refl _

lemma MarkedOpen.dbWrites (h : MarkedOpen db) (hnumbered : Numbered db)
    (hwrites : DbWrites cfg recoveryPermit db db') : MarkedOpen db' := by
  induction hwrites with
  | refl => exact h
  | tail hbefore hwrite ih => exact ih.dbWrite (DbWrites.numbered hbefore hnumbered) hwrite

end Writes

section Runs

variable {cfg : Settings P} {s : Sys P} {db : Db P} {claim : Claim P} {op : Op P}

/-- A promotion that is due takes the last place of a marked Spot. -/
structure PromotesIntoLastPlace (cfg : Settings P) (db : Db P) (claim : Claim P) : Prop where
  pending : claim.status = .pending
  due : ∀ spot, db.getSpot claim.spotId = some spot → spot.claimDuration = 0 ∨ DueAndFresh db claim spot
  wallet : WalletAllowsPromotion cfg db claim
  last : TakesLastPlace db claim

/-- No refresh and no heartbeat meets such a claim. -/
def LeavesLastPlace (cfg : Settings P) (s : Sys P) : Op P → Prop
  | .heartbeat claimId userId _ _ =>
    ∀ claim, s.db.getClaim claimId = some claim → claim.recipient = userId → ¬ PromotesIntoLastPlace cfg s.db claim
  | .refresh claimId => ∀ claim, s.db.getClaim claimId = some claim → ¬ PromotesIntoLastPlace cfg s.db claim
  | _ => True

lemma refreshAdmitted_of_leaves {spot : Spot P} (hpending : claim.status = .pending)
    (hspot : db.getSpot claim.spotId = some spot) (h : ¬ PromotesIntoLastPlace cfg db claim) :
    RefreshAdmitted cfg recoveryPermit.toWritePermit db claim spot := by
  refine ⟨nofun, ?_⟩
  intro hdue status hwallet hsuccess hlast
  apply h
  refine ⟨hpending, ?_, hwallet hsuccess, hlast⟩
  intro found hfound
  rw [← Option.some.inj (hspot.symm.trans hfound)]
  exact hdue

/-- A claim enters no marked Spot. -/
lemma entryPermitted_recovery (db : Db P) (req : ClaimRequest P) :
    EntryPermitted recoveryPermit.toWritePermit cfg db req := by
  refine ⟨fun _ _ _ _ _ => trivial, ?_⟩
  rintro spot claim entered henters - status - ⟨found, hfound, -, -, hmarked, -⟩
  obtain ⟨address, hclaim⟩ := henters.inserted
  obtain ⟨markers, attempts, hentered, -⟩ := henters.attempts
  have hspot : db.getSpot req.spotId = some spot := getPublicSpot_getSpot henters.found
  rw [hentered, hclaim] at hfound
  have hsame : found = spot := Option.some.inj (hfound.symm.trans hspot)
  have hpublic := (Option.filter_eq_some_iff.mp henters.found).2
  have hunmarked : db.hasSpotCancellationStarted req.spotId = false := (of_decide_eq_true hpublic).2.1
  unfold Db.hasSpotCancellationStarted at hunmarked
  rw [hspot, ← hsame] at hunmarked
  dsimp only [Option.any] at hunmarked
  rw [hmarked] at hunmarked
  cases hunmarked

lemma LeavesLastPlace.admitted (h : LeavesLastPlace cfg s op) : op.Admitted cfg recoveryPermit s.db := by
  cases op with
  | claim req => exact entryPermitted_recovery s.db req
  | refresh claimId =>
    intro claim spot hclaim hpending hspot _
    exact refreshAdmitted_of_leaves hpending hspot (h claim hclaim)
  | heartbeat claimId userId position accuracy =>
    intro claim spot hclaim howner hpending hspot
    have hadmitted : RefreshAdmitted cfg recoveryPermit.toWritePermit s.db claim spot :=
      refreshAdmitted_of_leaves hpending hspot (h claim hclaim howner)
    refine ⟨fun _ => hadmitted, ?_⟩
    intro hwaits
    refine ⟨fun hzero => hadmitted.due (.inl hzero), fun _ _ _ => nofun, fun _ _ _ => trivial, ?_⟩
    rintro hdue score status - - ⟨found, hfound, -, hstandard, -⟩
    -- A standard Spot whose claim the refresh has left is not due.
    have hsame : found = spot := Option.some.inj (hfound.symm.trans hspot)
    have hopen : spot.isCompletedPrizedraw = false := by
      unfold Spot.isCompletedPrizedraw
      rw [← hsame, hstandard]
      exact decide_eq_false fun hboth => nomatch hboth.2
    exact (hwaits hopen).2.2 hdue
  | settlePrizedraw spotId sample => exact fun _ _ _ => trivial
  | banSpot spotId => exact ⟨trivial, trivial⟩
  | _ => trivial

/-- As long as no promotion takes the last place of a marked Spot, every marked Spot has its recovery flow. -/
theorem one_recovery_flow (cfg : Settings P) {ops : List (Op P)}
    (hrun : Admissible (step cfg) (LeavesLastPlace cfg) Sys.initial ops) :
    OneRecoveryFlow cfg (run (step cfg) Sys.initial ops).db := by
  have hpreserved : ∀ (s : Sys P) (op : Op P), LeavesLastPlace cfg s op → s.Kept ∧ MarkedOpen s.db →
      (step cfg s op).Kept ∧ MarkedOpen (step cfg s op).db := by
    rintro s op hop ⟨hkept, hopen⟩
    obtain ⟨hwrites, hafter⟩ := step_writes hkept hop.admitted
    exact ⟨hafter, hopen.dbWrites hkept.numbered hwrites⟩
  have hinitial : MarkedOpen (Sys.initial : Sys P).db := fun _ _ hspot => nomatch hspot
  exact (run_invariant hpreserved hrun ⟨kept_initial, hinitial⟩).2.oneRecoveryFlow

end Runs

section LastPlace

def depositHash : String := "aaaaaaaaaaaaaaaaaaaaaaaaaaaaaaaaaaaaaaaaaaaaaaaaaaaaaaaaaaaaaaaa"

/-- The chain shows a deposit of twice the value. -/
def Settings.depositShown : Settings Unit :=
  { Settings.onePlace with
    chainTransfer := fun txHash =>
      if txHash = depositHash then some ⟨"NQ02 OWNER", "NQ01 SPOT", 100000000⟩ else none }

/-- A Spot of two places: one claim succeeds, one still waits, and a cancellation sets its marker. -/
def untilMarked : List (Op Unit) :=
  [.tick 1000, .registerUser { id := 1, status := .active }, .registerUser { id := 2, status := .active },
    .registerUser { id := 3, status := .active }, .bindWallet 2 "NQ07 FIRST", .bindWallet 3 "NQ07 SECOND",
    .createSpot 1 "NQ01 SPOT" {
      position := some (), claimDuration := some 60, maxTotalClaims := some 2, totalValue := some 50000000
      endsAt := some 100000 },
    .recordDeposit 1 1 100000000 "NQ02 OWNER" depositHash, .confirmTrans 1, .resume 0 {}, .publish 1 [],
    .claim ⟨1, 2, (), some 5, none, none⟩, .tick 10, .claim ⟨1, 3, (), some 5, none, none⟩, .tick 50, .refresh 1,
    .cancelSpot 1 100 "NQ07 FEE" [] false, .resume 0 {}]

/-- The first promotion meets no marker. -/
theorem one_recovery_flow_marked :
    Recovered Settings.depositShown (run (step Settings.depositShown) Sys.initial untilMarked).db 1 := by
  have hrefresh : ∀ claim, (run (step Settings.depositShown) Sys.initial (untilMarked.take 15)).db.getClaim 1 =
      some claim → ¬ PromotesIntoLastPlace Settings.depositShown
        (run (step Settings.depositShown) Sys.initial (untilMarked.take 15)).db claim := by
    intro claim _ hpromotes
    obtain ⟨spot, hspot, -, -, hmarked, -⟩ := hpromotes.last
    have hnone : ∀ spot ∈ (run (step Settings.depositShown) Sys.initial (untilMarked.take 15)).db.spots,
        spot.cancellationStartedAt = none := by decide +kernel
    rw [hnone spot (List.mem_of_find?_eq_some hspot)] at hmarked
    cases hmarked
  have hrun : Admissible (step Settings.depositShown) (LeavesLastPlace Settings.depositShown) Sys.initial untilMarked :=
    ⟨trivial, trivial, trivial, trivial, trivial, trivial, trivial, trivial, trivial, trivial, trivial, trivial, trivial,
      trivial, trivial, hrefresh, trivial, trivial, trivial⟩
  have hstate : ((run (step Settings.depositShown) Sys.initial untilMarked).db.getSpot 1).any (fun spot =>
      spot.prizeCount = none ∧ spot.cancellationStartedAt.isSome = true ∧ spot.status ≠ .cancelled) = true := by
    decide +kernel
  cases hspot : (run (step Settings.depositShown) Sys.initial untilMarked).db.getSpot 1 with
  | none =>
    rw [hspot] at hstate
    cases hstate
  | some spot =>
    rw [hspot] at hstate
    obtain ⟨hstandard, hmarked, hopen⟩ := of_decide_eq_true hstate
    exact one_recovery_flow Settings.depositShown hrun 1 spot hspot hstandard hmarked hopen

/-- The claim that still waits takes the last place after the marker, and nobody takes the Spot. -/
theorem last_place_ends_recovery :
    ¬ ∀ ops : List (Op Unit), OneRecoveryFlow Settings.depositShown (run (step Settings.depositShown) Sys.initial ops).db := by
  intro hall
  have hstate : ((run (step Settings.depositShown) Sys.initial (untilMarked ++ [.tick 10, .refresh 2])).db.getSpot 1).any
      (fun spot => spot.prizeCount = none ∧ spot.cancellationStartedAt.isSome = true ∧ spot.status ≠ .cancelled) =
        true := by decide +kernel
  have hrefused : (submitSpotCancellationTransactions Settings.depositShown
      (run (step Settings.depositShown) Sys.initial (untilMarked ++ [.tick 10, .refresh 2])).db 1 100).2 =
        .error (.valueError "completed spots cannot be cancelled") := by decide +kernel
  cases hspot : (run (step Settings.depositShown) Sys.initial (untilMarked ++ [.tick 10, .refresh 2])).db.getSpot 1 with
  | none =>
    rw [hspot] at hstate
    cases hstate
  | some spot =>
    rw [hspot] at hstate
    obtain ⟨hstandard, hmarked, hopen⟩ := of_decide_eq_true hstate
    have hrecovered := hall (untilMarked ++ [.tick 10, .refresh 2]) 1 spot hspot hstandard hmarked hopen
    exact hrecovered.taken 100 _ (by decide) hrefused

end LastPlace

end NimHunt
