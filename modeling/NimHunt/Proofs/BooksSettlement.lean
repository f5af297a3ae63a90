import NimHunt.Proofs.BooksSends

/-!
# Remainders, sweeps and cancellations in the books

What the three settling flows decide: each leaves the books in order, and the job it hands on is a promise the account
keeps.
-/

namespace NimHunt

open Lib Relation

variable {P : Type}

section Remainders

variable {cfg : Settings P} {db : Db P}

/-- Every claim a completed Spot owes has a payout, once none waits and none is without a confirmed one. -/
lemma payees_paid (hbooks : Books db) {spot : Spot P} (hspot : db.getSpot spot.id = some spot)
    (hcompleted : spot.status = .completed) (hpending : db.countClaimsByStatusForSpot spot.id .pending = 0)
    (hpaid : spot.prizeCount = none → db.countSuccessfulStandardClaimsWithoutConfirmedPayout spot.id = 0) :
    ∀ id ∈ (db.account spot).payees, ∃ t ∈ (db.account spot).rows, t.payee = some id := by
  have hnone : ∀ c ∈ db.claims, c.spotId = spot.id → c.status ≠ .pending := fun c hc hof hwaits =>
    List.countP_eq_zero.mp hpending c hc (decide_eq_true ⟨hof, hwaits⟩)
  intro id hid
  by_cases hstandard : spot.prizeCount = none
  · unfold Db.account at hid
    simp only [if_pos hstandard] at hid
    obtain ⟨c, hc, hcid, hof, hdone⟩ := mem_successIds.mp hid
    have hkind : db.isPrizedraw c.spotId = false := by
      unfold Db.isPrizedraw
      rw [hof, hspot]
      simp [hstandard]
    have hconfirmed : db.hasConfirmedClaimPayoutTransaction c.id = true := by
      by_contra hunpaid
      refine List.countP_eq_zero.mp (hpaid hstandard) c hc (decide_eq_true ⟨hof, hdone, hkind, ?_⟩)
      exact Bool.eq_false_of_not_eq_true hunpaid
    rw [← hcid]
    exact payee_of_nonfailed hbooks hc hof (nonfailed_of_confirmed hconfirmed)
  · have hdrawn : spot.isCompletedPrizedraw = true :=
      decide_eq_true ⟨hcompleted, Option.isSome_iff_ne_none.mpr hstandard⟩
    unfold Db.account at hid
    simp only [if_neg hstandard, if_pos hcompleted, List.mem_toFinset] at hid
    rcases mem_winnerIds.mp hid with ⟨c, hc, -, hof, hwaits⟩ | ⟨t, ht, hclaimId, hspotId, htype⟩
    · exact absurd hwaits (hnone c hc hof)
    · obtain ⟨claim, hclaim, hid', hof'⟩ := hbooks.booked t ht htype
      have hof : claim.spotId = spot.id := Option.some.inj (hof'.symm.trans hspotId)
      have hsame : claim.id = id := Option.some.inj (hid'.symm.trans hclaimId)
      rcases hbooks.paidOut t ht htype spot.id spot hspotId hspot hdrawn id hclaimId with ⟨c, hc, hcid, hwaits⟩ | hpaid
      · have hone : c = claim := eq_of_key_eq hbooks.numbered.keyed.claimKeys hc hclaim (hcid.trans hsame.symm)
        exact absurd (hone ▸ hwaits) (hnone claim hclaim hof)
      · rw [← hsame] at hpaid ⊢
        exact payee_of_nonfailed hbooks hclaim hof (nonfailed_of_confirmed hpaid)

/-- A remainder that is found settled, refused or prepared leaves the books in order; what is prepared is free. -/
lemma proceeds_settleFromLedger (hbooks : Books db) {spot : Spot P} (hspot : db.getSpot spot.id = some spot)
    {shouldComplete : Bool} (hcloses : shouldComplete = true → Closes db spot .completed)
    (hdone : shouldComplete = false → spot.status = .completed)
    (hpending : db.countClaimsByStatusForSpot spot.id .pending = 0)
    (hpaid : spot.prizeCount = none → db.countSuccessfulStandardClaimsWithoutConfirmedPayout spot.id = 0) :
    Proceeds cfg db (settleRemainderFromLedger cfg db spot shouldComplete (db.getTransactionsBySpot spot.id maxLimit)).1 ∧
      ∀ job, (settleRemainderFromLedger cfg db spot shouldComplete (db.getTransactionsBySpot spot.id maxLimit)).2 =
          .prepared job → job.spotId = spot.id ∧
        Db.Honours (settleRemainderFromLedger cfg db spot shouldComplete (db.getTransactionsBySpot spot.id maxLimit)).1
          spot.id (.remainder job.amount) := by
  have hmid : ∃ mid, mid = (if shouldComplete = true then db.modifySpotStatus spot.id .completed else db) ∧
      Proceeds cfg db mid ∧ mid.trans = db.trans ∧ mid.claims = db.claims ∧
      ∃ done : Spot P, mid.getSpot spot.id = some done ∧ done.id = spot.id ∧ done.status = .completed ∧
        done.prizeCount = spot.prizeCount := by
    refine ⟨_, rfl, ?_⟩
    cases hcomplete : shouldComplete with
    | false => exact ⟨.refl hbooks, rfl, rfl, spot, hspot, rfl, hdone hcomplete, rfl⟩
    | true =>
      have hkey : ∀ s : Spot P, ({ s with status := .completed } : Spot P).id = s.id := fun _ => rfl
      refine ⟨proceeds_closed hbooks hspot (hcloses hcomplete) nofun nofun, rfl, rfl,
        { spot with status := .completed }, ?_, rfl, rfl, rfl⟩
      rw [if_pos rfl, Db.getSpot, Db.modifySpotStatus]
      dsimp only
      unfold Db.getSpot at hspot
      rw [find?_updateWhere_key hkey, hspot]
      simp
  obtain ⟨mid, hdef, hproceeds, htrans, hclaims, done, hfound, hid, hcompleted, hkind⟩ := hmid
  have hbooks' := hproceeds.books
  have hpage : mid.getTransactionsBySpot spot.id maxLimit = db.getTransactionsBySpot spot.id maxLimit := by
    unfold Db.getTransactionsBySpot Db.transOfSpot
    rw [htrans]
  unfold settleRemainderFromLedger
  dsimp only
  rw [← hdef]
  split_ifs with hblocked hfee hnothing
  · exact ⟨.refl hbooks, fun _ hjob => by cases hjob⟩
  · exact ⟨.refl hbooks, fun _ hjob => by cases hjob⟩
  · have hnumbered : Numbered { mid with remainderSettled := Function.update mid.remainderSettled spot.id true } := by
      have hwrite : DbWrite cfg .all mid
          { mid with remainderSettled := Function.update mid.remainderSettled spot.id true } := .bookkept _ _ _ _
      exact hwrite.numbered hbooks'.numbered
    exact ⟨hproceeds.then (.of_frame hbooks' hnumbered rfl rfl le_rfl rfl rfl rfl), fun _ hjob => by cases hjob⟩
  · cases hsource : (db.getTransactionsBySpot spot.id maxLimit).find? fun t =>
        t.type = .fillSpot ∧ t.status = .confirmed ∧ cfg.strip t.fromAddress ≠ "" with
    | none => exact ⟨hproceeds, fun _ hjob => by cases hjob⟩
    | some source =>
      refine ⟨hproceeds, ?_⟩
      intro job hjob
      have hsame := RemainderResult.prepared.inj hjob
      rw [← hsame]
      refine ⟨rfl, done, hfound, .inl hcompleted, ?_, ?_⟩
      · exact ((hbooks'.sound spot.id done hfound).funded (.inr hcompleted)).1
      · have hbanned : done.status ≠ .banned := by
          rw [hcompleted]
          nofun
        have hsum : ∀ id ∈ (mid.account done).payees, ∃ t ∈ (mid.account done).rows, t.payee = some id := by
          refine payees_paid hbooks' (hid.symm ▸ hfound) hcompleted ?_ ?_
          · unfold Db.countClaimsByStatusForSpot at hpending ⊢
            rw [hclaims, hid]
            exact hpending
          · intro hstandard
            have hcount := hpaid (hkind ▸ hstandard)
            have hstandard' : ∀ other : Db P, other.getSpot spot.id = some spot ∨ other.getSpot spot.id = some done →
                other.isPrizedraw spot.id = false := by
              intro other hother
              unfold Db.isPrizedraw
              rcases hother with h | h
              · rw [h]
                simp [← hkind, hstandard]
              · rw [h]
                simp [hstandard]
            unfold Db.countSuccessfulStandardClaimsWithoutConfirmedPayout at hcount ⊢
            rw [hclaims, hid]
            rw [List.countP_eq_zero] at hcount ⊢
            intro c hc hrow
            obtain ⟨hof, hstatus, -, hunpaid⟩ := of_decide_eq_true hrow
            refine hcount c hc (decide_eq_true ⟨hof, hstatus, ?_, ?_⟩)
            · rw [hof]
              exact hstandard' db (.inl hspot)
            · unfold Db.hasConfirmedClaimPayoutTransaction at hunpaid ⊢
              rw [htrans] at hunpaid
              exact hunpaid
        have hbound := remainderAmount_le_free hbooks' (hid.symm ▸ hfound) hbanned
          (by rw [hid, hpage]; exact Bool.eq_false_of_not_eq_true hblocked) hsum
        rw [hid, hpage] at hbound
        exact hbound

lemma proceeds_settleRemainder (hbooks : Books db) (spotId : ℕ) :
    Proceeds cfg db (settleSpotRemainderIfReady cfg db spotId).1 ∧
      ∀ job, (settleSpotRemainderIfReady cfg db spotId).2 = .prepared job →
        Db.Honours (settleSpotRemainderIfReady cfg db spotId).1 job.spotId (.remainder job.amount) := by
  unfold settleSpotRemainderIfReady
  cases hspot : db.getSpot spotId with
  | none => exact ⟨.refl hbooks, nofun⟩
  | some spot =>
    have hid := getSpot_id hspot
    subst hid
    dsimp only
    split_ifs with hfinal hmarker hpending hprizedraw hterminal hdraft hpaid
    · exact ⟨.refl hbooks, nofun⟩
    · exact ⟨.refl hbooks, nofun⟩
    · exact ⟨.refl hbooks, nofun⟩
    · exact ⟨.refl hbooks, nofun⟩
    · exact ⟨.refl hbooks, nofun⟩
    · exact ⟨.refl hbooks, nofun⟩
    · exact ⟨.refl hbooks, nofun⟩
    · have hquiet : db.countClaimsByStatusForSpot spot.id .pending = 0 := by omega
      have hcloses : decide (spot.status = .published) = true → Closes db spot .completed := by
        intro hpublished
        have hpublished := of_decide_eq_true hpublished
        refine .completed hpublished ?_ ?_ hquiet
        · rw [← Option.not_isSome_iff_eq_none]
          exact fun hdraw => hprizedraw ⟨hpublished, hdraw⟩
        · rw [← Option.not_isSome_iff_eq_none]
          exact hmarker
      have hdone : decide (spot.status = .published) = false → spot.status = .completed := by
        intro hopen
        have hother := of_decide_eq_false hopen
        cases hstatus : spot.status with
        | draft => exact absurd hstatus hdraft
        | published => exact absurd hstatus hother
        | completed => rfl
        | cancelled => exact absurd (.inl hstatus) hfinal
        | banned => exact absurd (.inr hstatus) hfinal
      have hconfirmed : spot.prizeCount = none →
          db.countSuccessfulStandardClaimsWithoutConfirmedPayout spot.id = 0 := by
        intro hstandard
        by_contra hsome
        exact hpaid ⟨by rw [hstandard]; rfl, Nat.pos_of_ne_zero hsome⟩
      obtain ⟨hproceeds, hjob⟩ := @proceeds_settleFromLedger _ cfg db hbooks spot hspot _ hcloses hdone hquiet hconfirmed
      refine ⟨hproceeds, ?_⟩
      intro job hprepared
      obtain ⟨hof, hkept⟩ := hjob job hprepared
      exact hof.symm ▸ hkept

/-- A sweep that sends nothing only keeps its own record. -/
lemma proceeds_sweep (hbooks : Books db) (spotId : ℕ) : Proceeds cfg db (attemptBannedSpotSweep db spotId).1 := by
  have hrecord : ∀ state, Proceeds cfg db (db.upsertBanRecord spotId state) := by
    intro state
    have hwrite : DbWrite cfg .all db (db.upsertBanRecord spotId state) := .bookkept _ _ _ _
    exact .of_frame hbooks (hwrite.numbered hbooks.numbered) rfl rfl le_rfl rfl rfl rfl
  unfold attemptBannedSpotSweep
  cases hspot : db.getSpot spotId with
  | none => exact .refl hbooks
  | some spot =>
    dsimp only
    split_ifs
    · exact .refl hbooks
    · exact hrecord _
    · exact hrecord _
    · exact hrecord _
    · exact .refl hbooks

end Remainders

section Cancellations

variable {cfg : Settings P} {db : Db P} {spotId fee : ℕ}

/-- What one attempt to cancel a Spot leaves, and what it promises when it fixes its sends. -/
structure Attempts (cfg : Settings P) (spotId : ℕ) (db : Db P) (outcome : Outcome P CancellationResult) : Prop where
  advances : Advances cfg db outcome.1
  guard : outcome.1.cancellationGuard = db.cancellationGuard
  policy : outcome.1.cancellationPolicy = db.cancellationPolicy
  markers : ∀ id spot', outcome.1.getSpot id = some spot' → spot'.cancellationStartedAt.isSome = true →
    id = spotId ∨ ∃ spot, db.getSpot id = some spot ∧ spot.cancellationStartedAt.isSome = true
  rolledBack : ∀ e, outcome.2 = .error e → outcome.1 = db
  promised : ∀ job, outcome.2 = .ok (.fixed job) →
    job.spotId = spotId ∧ outcome.1.Honours spotId (.split job.feeAmount job.refundAmount)

lemma Attempts.refused (hbooks : Books db) (e : Raised) : Attempts cfg spotId db (db, .error e) where
  advances := .refl hbooks
  guard := rfl
  policy := rfl
  markers _ spot hspot hmarked := .inr ⟨spot, hspot, hmarked⟩
  rolledBack _ _ := rfl
  promised _ h := nomatch h

/-- The Spot as its cancellation begins. -/
lemma getSpot_marked {spot : Spot P} (hspot : db.getSpot spot.id = some spot)
    (hopen : spot.status = .draft ∨ spot.status = .published) :
    ∃ marked : Spot P, (markSpotCancellationStarted db spot.id).getSpot spot.id = some marked ∧ marked.id = spot.id ∧
      marked.status = spot.status ∧ marked.prizeCount = spot.prizeCount ∧
      marked.cancellationStartedAt.isSome = true := by
  unfold Db.getSpot at hspot ⊢
  unfold markSpotCancellationStarted
  have hkey : ∀ s : Spot P, ({ s with cancellationStartedAt := some db.now } : Spot P).id = s.id := fun _ => rfl
  dsimp only
  rw [find?_updateWhere_key hkey, hspot]
  by_cases hnone : spot.cancellationStartedAt = none
  · refine ⟨_, rfl, ?_⟩
    simp [hopen, hnone]
  · refine ⟨_, rfl, ?_⟩
    have hsome : spot.cancellationStartedAt.isSome = true := Option.isSome_iff_ne_none.mpr hnone
    simp [hnone, hsome]

lemma markers_marked {id : ℕ} {spot' : Spot P} (hspot' : (markSpotCancellationStarted db spotId).getSpot id = some spot')
    (hmarked : spot'.cancellationStartedAt.isSome = true) :
    id = spotId ∨ ∃ spot, db.getSpot id = some spot ∧ spot.cancellationStartedAt.isSome = true := by
  have hkey : ∀ s : Spot P, ({ s with cancellationStartedAt := some db.now } : Spot P).id = s.id := fun _ => rfl
  by_cases hsame : id = spotId
  · exact .inl hsame
  · right
    unfold Db.getSpot at hspot'
    unfold markSpotCancellationStarted at hspot'
    dsimp only at hspot'
    rw [find?_updateWhere_key hkey] at hspot'
    obtain ⟨s, hs, hrow⟩ := Option.map_eq_some_iff.mp hspot'
    have hid : s.id = id := getSpot_id hs
    rw [if_neg (by simp [hid, hsame])] at hrow
    exact ⟨s, hs, hrow ▸ hmarked⟩

/-- Once no claim of a cancelled Spot waits for its payout, every claim it owes has one. -/
lemma payees_paid_of_no_unpaid (hbooks : Books db) {spot : Spot P} (hspot : db.getSpot spot.id = some spot)
    (hkind : spot.status = .draft ∨ spot.status = .published ∧ spot.prizeCount = none)
    (hunpaid : spot.status = .published → db.getUnpaidSuccessfulStandardClaims spot.id = []) :
    ∀ id ∈ (db.account spot).payees, ∃ t ∈ (db.account spot).rows, t.payee = some id := by
  intro id hid
  rcases hkind with hdraft | ⟨hpublished, hstandard⟩
  · rw [(hbooks.sound spot.id spot hspot).draft hdraft] at hid
    cases hid
  · unfold Db.account at hid
    simp only [if_pos hstandard] at hid
    obtain ⟨c, hc, hcid, hof, hdone⟩ := mem_successIds.mp hid
    have hkind : db.isPrizedraw c.spotId = false := by
      unfold Db.isPrizedraw
      rw [hof, hspot]
      simp [hstandard]
    have hpaid : db.hasNonfailedClaimPayoutTransaction c.id = true := by
      by_contra hopen
      have hmem : c ∈ db.getUnpaidSuccessfulStandardClaims spot.id :=
        List.mem_filter.mpr ⟨hc, decide_eq_true ⟨hof, hdone, hkind, Bool.eq_false_of_not_eq_true hopen⟩⟩
      rw [hunpaid hpublished] at hmem
      cases hmem
    rw [← hcid]
    exact payee_of_nonfailed hbooks hc hof hpaid

/-- An attempt under a fixed policy. -/
lemma attempts_submit (hbooks : Books db)
    (hpolicy : (db.cancellationPolicy spotId).map CancellationPolicy.feeAmount = some fee) :
    Attempts cfg spotId db (submitSpotCancellationTransactions cfg db spotId fee) := by
  unfold submitSpotCancellationTransactions
  cases hspot : db.getSpot spotId with
  | none => exact .refused hbooks _
  | some spot =>
    have hid := getSpot_id hspot
    subst hid
    dsimp only
    by_cases hfinal : spot.status ≠ .draft ∧ spot.status ≠ .published
    · rw [if_pos hfinal]
      exact .refused hbooks _
    rw [if_neg hfinal]
    by_cases hprizedraw : spot.status = .published ∧ spot.prizeCount.isSome = true
    · rw [if_pos hprizedraw]
      exact .refused hbooks _
    rw [if_neg hprizedraw]
    by_cases hcomplete : publishedStandardSpotIsComplete db spot = true
    · rw [if_pos hcomplete]
      exact .refused hbooks _
    rw [if_neg hcomplete]
    have hkind := isCancellable hfinal hprizedraw
    have hopen : spot.status = .draft ∨ spot.status = .published := hkind.imp_right And.left
    have hadvances : Advances cfg db (markSpotCancellationStarted db spot.id) :=
      advances_marked hbooks hspot hkind (Bool.not_eq_true _ ▸ hcomplete)
    have hdeferred : ∀ reason, Attempts cfg spot.id db
        (markSpotCancellationStarted db spot.id, .ok (CancellationResult.deferred reason)) := fun reason => {
      advances := hadvances, guard := rfl, policy := rfl
      markers := fun _ _ => markers_marked
      rolledBack := fun _ h => nomatch h
      promised := fun _ h => nomatch h }
    by_cases hunpaid : spot.status = .published ∧
        (markSpotCancellationStarted db spot.id).getUnpaidSuccessfulStandardClaims spot.id ≠ []
    · rw [if_pos hunpaid]
      exact hdeferred _
    rw [if_neg hunpaid]
    obtain ⟨marked, hfound, hid, hstatus, hcount, hmarker⟩ := getSpot_marked hspot hopen
    have hbooks' := hadvances.books
    have hkind' : marked.status = .draft ∨ marked.status = .published ∧ marked.prizeCount = none := by
      rw [hstatus, hcount]
      exact hkind
    have hcases := cancelFromLedger_cases cfg (markSpotCancellationStarted db spot.id) spot fee
      ((markSpotCancellationStarted db spot.id).getTransactionsBySpot spot.id maxLimit)
    generalize cancelFromLedger cfg (markSpotCancellationStarted db spot.id) spot fee
      ((markSpotCancellationStarted db spot.id).getTransactionsBySpot spot.id maxLimit) = outcome at hcases
    cases hcases with
    | refused e => exact .refused hbooks e
    | deferred reason => exact hdeferred reason
    | cancelled hreturned =>
      have hclosed : Proceeds cfg (markSpotCancellationStarted db spot.id)
          ((markSpotCancellationStarted db spot.id).modifySpotStatus marked.id .cancelled) :=
        proceeds_closed hbooks' (hid.symm ▸ hfound) (.cancelled hkind') nofun fun _ => hmarker
      rw [hid] at hclosed
      exact {
        advances := hadvances.then hclosed.toAdvances, guard := rfl, policy := rfl
        markers := fun id spot' hspot' hmarked => by
          obtain ⟨before, hbefore, hmarked'⟩ := hclosed.markers id spot' hspot' hmarked
          exact markers_marked hbefore hmarked'
        rolledBack := fun _ h => nomatch h
        promised := fun _ h => nomatch h }
    | @fixed job hof hclear hfee hrefund hsome =>
      refine {
        advances := hadvances, guard := rfl, policy := rfl, markers := fun _ _ => markers_marked
        rolledBack := fun _ h => nomatch h
        promised := ?_ }
      intro found hjob
      have heq : job = found := by
        injection hjob with hresult
        injection hresult
      rw [← heq]
      have hbanned : marked.status ≠ .banned := by
        rcases hkind' with h | ⟨h, -⟩ <;> rw [h] <;> nofun
      have hpaid := payees_paid_of_no_unpaid hbooks' (hid.symm ▸ hfound) hkind' fun hpublished => by
        by_contra hsome
        exact hunpaid ⟨hstatus.symm.trans hpublished, hid ▸ hsome⟩
      have hfree := remainingCancellable_le_free hbooks' (hid.symm ▸ hfound) hbanned (by rw [hid]; exact hclear) hpaid
      rw [hid] at hfree
      obtain ⟨hfeeShare, hrefundShare⟩ := share_mono hfree fee
      refine ⟨hof, marked, hfound, hmarker, fee, ?_, ?_, ?_, Nat.pos_of_ne_zero hsome⟩
      · change ((markSpotCancellationStarted db spot.id).cancellationPolicy marked.id).map _ = _
        rw [hid]
        exact hpolicy
      · rw [hfee]
        exact (Nat.sub_le _ _).trans hfeeShare
      · rw [hrefund]
        exact (Nat.sub_le _ _).trans hrefundShare

end Cancellations

end NimHunt
