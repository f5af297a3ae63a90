import NimHunt.Proofs.ChosenWinners

/-!
# Where claims come from

A claim is entered on a Spot that is open, and one that has FAILED comes back only by being paid.
-/

namespace NimHunt

open Lib Relation

variable {P : Type}

section Terms

variable {cfg : Settings P} {permit : Permit P} {db db' db'' : Db P}

/-- A Spot that takes claims changes in its status and its cancellation marker only, and stays banned. -/
def TermsKept (db db' : Db P) : Prop :=
  ∀ id spot, db.getSpot id = some spot → spot.status ≠ .draft →
    ∃ status marker, status ≠ .draft ∧ (spot.status = .banned → status = .banned) ∧
      db'.getSpot id = some { spot with status := status, cancellationStartedAt := marker }

lemma TermsKept.of_eq (hspots : db'.spots = db.spots) : TermsKept db db' :=
  fun id spot hspot hdraft =>
    ⟨spot.status, spot.cancellationStartedAt, hdraft, fun hbanned => hbanned,
      (getSpot_of_spots hspots id).trans hspot⟩

lemma TermsKept.then (h : TermsKept db db') (h' : TermsKept db' db'') : TermsKept db db'' := by
  intro id spot hspot hdraft
  obtain ⟨status, marker, hstatus, hbanned, hspot'⟩ := h id spot hspot hdraft
  obtain ⟨status', marker', hstatus', hbanned', hspot''⟩ := h' id _ hspot' hstatus
  exact ⟨status', marker', hstatus', fun hban => hbanned' (hbanned hban), hspot''⟩

lemma TermsKept.of_update {sel : Spot P → Bool} {f : Spot P → Spot P}
    (hspots : db'.spots = updateWhere sel f db.spots) (hid : ∀ s, (f s).id = s.id)
    (hrow : ∀ s, db.getSpot s.id = some s → s.status ≠ .draft → sel s = true →
      ∃ status marker, status ≠ .draft ∧ (s.status = .banned → status = .banned) ∧
        f s = { s with status := status, cancellationStartedAt := marker }) :
    TermsKept db db' := by
  intro id s hs hdraft
  have hget : db'.getSpot id = some (if sel s then f s else s) := by
    unfold Db.getSpot at hs ⊢
    rw [hspots, find?_updateWhere_key hid, hs]
    rfl
  rw [hget]
  by_cases hsel : sel s = true
  · rw [if_pos hsel]
    obtain ⟨status, marker, hstatus, hbanned, hnext⟩ := hrow s ((getSpot_id hs).symm ▸ hs) hdraft hsel
    exact ⟨status, marker, hstatus, hbanned, congrArg some hnext⟩
  · rw [if_neg hsel]
    exact ⟨s.status, s.cancellationStartedAt, hdraft, fun hbanned => hbanned, rfl⟩

lemma DbWrite.termsKept (hwrite : DbWrite cfg permit db db') : TermsKept db db' := by
  cases hwrite with
  | claim hwrite => exact .of_eq hwrite.sameGround.spots
  | @drafted spot hid hdraft _ _ =>
    intro id s hs hplaced
    refine ⟨s.status, s.cancellationStartedAt, hplaced, fun hbanned => hbanned, ?_⟩
    unfold Db.getSpot at hs ⊢
    dsimp only
    rw [List.find?_append, hs]
    rfl
  | @edited spot next hspot hdraft hsame _ =>
    refine TermsKept.of_update (edited_spots hsame.id db.spots) (fun _ => rfl) ?_
    intro s hs hplaced hsel
    rw [of_decide_eq_true hsel] at hs
    rw [Option.some.inj (hs.symm.trans hspot)] at hplaced
    exact absurd hdraft hplaced
  | undrafted hspot hdraft =>
    intro id s hs hplaced
    have hstays := getSpot_deleteSpot_of_placed hspot hdraft hs hplaced
    exact ⟨s.status, s.cancellationStartedAt, hplaced, fun hbanned => hbanned, hstays⟩
  | published =>
    refine TermsKept.of_update rfl (fun _ => rfl) ?_
    intro s _ hplaced hsel
    exact absurd (of_decide_eq_true hsel).2.1 hplaced
  | marked =>
    exact .of_update rfl (fun _ => rfl) fun s _ hplaced _ =>
      ⟨s.status, some db.now, hplaced, fun hbanned => hbanned, rfl⟩
  | @closed spot status hspot hcloses _ =>
    refine TermsKept.of_update rfl (fun _ => rfl) ?_
    intro s hs _ hsel
    refine ⟨status, s.cancellationStartedAt, hcloses.final.1, ?_, rfl⟩
    rw [of_decide_eq_true hsel] at hs
    rw [Option.some.inj (hs.symm.trans hspot)]
    intro hbanned
    cases hcloses with
    | completed hpublished => cases hbanned.symm.trans hpublished
    | cancelled hopen =>
      rw [hbanned] at hopen
      cases hopen with
      | inl hdraft => cases hdraft
      | inr hpublished => cases hpublished.1
    | banned => rfl
  | @drawn spot _ hspot hpublished _ _ _ =>
    refine TermsKept.of_update rfl (fun _ => rfl) ?_
    intro s hs _ hsel
    refine ⟨.completed, s.cancellationStartedAt, nofun, ?_, rfl⟩
    rw [of_decide_eq_true hsel] at hs
    rw [Option.some.inj (hs.symm.trans hspot), hpublished]
    nofun
  | _ => exact .of_eq rfl

lemma DbWrites.termsKept (hwrites : DbWrites cfg permit db db') : TermsKept db db' := by
  induction hwrites with
  | refl => exact .of_eq rfl
  | tail _ hwrite ih => exact ih.then hwrite.termsKept

/-- Every Spot has passed the checks of its draft. -/
def Db.Checked (db : Db P) : Prop := ∀ id spot, db.getSpot id = some spot → SpotChecked spot

lemma Db.Checked.of_update {sel : Spot P → Bool} {f : Spot P → Spot P} (h : db.Checked)
    (hspots : db'.spots = updateWhere sel f db.spots) (hid : ∀ s, (f s).id = s.id)
    (hrow : ∀ s, db.getSpot s.id = some s → sel s = true → SpotChecked (f s)) : db'.Checked := by
  intro id spot' hspot'
  unfold Db.getSpot at hspot'
  rw [hspots, find?_updateWhere_key hid, Option.map_eq_some_iff] at hspot'
  obtain ⟨s, hs, hnext⟩ := hspot'
  rw [← hnext]
  by_cases hsel : sel s = true
  · rw [if_pos hsel]
    exact hrow s ((getSpot_id hs).symm ▸ hs) hsel
  · rw [if_neg hsel]
    exact h id s hs

lemma DbWrite.checked (hwrite : DbWrite cfg permit db db') (h : db.Checked) : db'.Checked := by
  have hsame : ∀ s s' : Spot P, db.getSpot s.id = some s → s'.prizeCount = s.prizeCount →
      s'.maxTotalClaims = s.maxTotalClaims → s'.usePassword = s.usePassword → SpotChecked s' := by
    intro s s' hs hprize hmax hcoded
    have hchecked := h s.id s hs
    exact ⟨by rw [hprize, hmax]; exact hchecked.finite, by rw [hcoded, hprize]; exact hchecked.uncoded⟩
  cases hwrite with
  | claim hwrite => exact fun id spot hspot => h id spot ((getSpot_of_spots hwrite.sameGround.spots id).symm.trans hspot)
  | @drafted spot hid hdraft _ hchecked =>
    intro id s hs
    unfold Db.getSpot at hs
    dsimp only at hs
    rw [List.find?_append] at hs
    cases hold : db.spots.find? fun s => s.id = id with
    | some found =>
      rw [hold] at hs
      exact Option.some.inj hs ▸ h id found hold
    | none =>
      rw [hold, Option.none_or] at hs
      have hnew : s = spot := List.mem_singleton.mp (List.mem_of_find?_eq_some hs)
      exact hnew ▸ hchecked
  | @edited spot next hspot _ hsame hchecked =>
    refine h.of_update (edited_spots hsame.id db.spots) (fun _ => rfl) ?_
    intro s hs hsel
    have hnext := hchecked (h spot.id spot hspot)
    exact ⟨hnext.finite, hnext.uncoded⟩
  | undrafted => exact fun id s hs => h id s (getSpot_of_deleteSpot hs).2
  | published => exact h.of_update rfl (fun _ => rfl) fun s hs _ => hsame s _ hs rfl rfl rfl
  | marked => exact h.of_update rfl (fun _ => rfl) fun s hs _ => hsame s _ hs rfl rfl rfl
  | closed => exact h.of_update rfl (fun _ => rfl) fun s hs _ => hsame s _ hs rfl rfl rfl
  | drawn => exact h.of_update rfl (fun _ => rfl) fun s hs _ => hsame s _ hs rfl rfl rfl
  | _ => exact h

end Terms

section Steps

variable {cfg : Settings P} {s : Sys P} {db : Db P} {paid : ℕ → Prop} {entry : Prop}

/-- The ledger has a payout row of the claim. -/
def Db.HasPayoutRow (db : Db P) (claimId : ℕ) : Prop :=
  ∃ t ∈ db.trans, t.type = .claim ∧ t.claimId = some claimId

lemma entriesFrom_recordPaidWinners (winners : List (Claim P)) (db : Db P) :
    EntriesFrom db.HasPayoutRow entry db (winners.foldl recordPaidWinner db) := by
  induction winners generalizing db with
  | nil => exact .of_eq rfl
  | cons winner winners ih =>
    rw [List.foldl_cons]
    unfold recordPaidWinner
    by_cases hpaid : db.hasConfirmedClaimPayoutTransaction winner.id = true
    · rw [if_pos hpaid]
      have hone : EntriesFrom db.HasPayoutRow entry db (db.setClaimStatusToSuccess winner.id) := by
        refine .of_update rfl (fun _ => ⟨rfl, rfl⟩) ?_
        intro c _ hsel _
        obtain ⟨t, ht, hrow⟩ := List.any_eq_true.mp hpaid
        obtain ⟨hclaimId, htype, -⟩ := of_decide_eq_true hrow
        exact .inr ⟨t, ht, htype, by rw [hclaimId, of_decide_eq_true hsel]⟩
      exact hone.then rfl (ih _)
    · rw [if_neg hpaid]
      exact ih db

lemma entriesFrom_payoutPass (db : Db P) (spotId : ℕ) :
    EntriesFrom db.HasPayoutRow entry db (retryPendingPrizedrawPayoutsForSpot db spotId).1 := by
  unfold retryPendingPrizedrawPayoutsForSpot
  cases db.getSpot spotId with
  | none => exact .of_eq rfl
  | some spot =>
    dsimp only
    split_ifs
    · exact .of_eq rfl
    · exact .of_eq rfl
    · exact entriesFrom_recordPaidWinners _ db

lemma entriesFrom_settlePrizedraw (sample : Sampler P) (db : Db P) (spotId : ℕ) :
    EntriesFrom paid entry db (settlePrizedrawSpotIfReady sample db spotId).1 := by
  unfold settlePrizedrawSpotIfReady
  cases db.getSpot spotId with
  | none => exact .of_eq rfl
  | some spot =>
    dsimp only
    by_cases hpublished : spot.status = .published
    · rw [if_neg (not_not_intro hpublished)]
      cases spot.prizeCount with
      | none => exact .of_eq rfl
      | some prizeCount =>
        dsimp only
        cases db.settlementReadyReason spot with
        | none => exact .of_eq rfl
        | some reason =>
          dsimp only
          unfold drawPrizedraw
          dsimp only
          generalize List.insertionSort (fun a b : ℕ => a ≤ b) (List.map Claim.id _) = winners
          split_ifs
          · exact .of_eq rfl
          · exact (entriesFrom_drawn db spot.id winners).then rfl (.of_eq rfl)
    · rw [if_pos hpublished]
      exact .of_eq rfl

lemma entriesFrom_banSpot (db : Db P) (spotId : ℕ) : EntriesFrom paid entry db (banSpot db spotId).1 := by
  unfold banSpot
  cases db.getSpot spotId with
  | none => exact .of_eq rfl
  | some spot =>
    dsimp only
    split_ifs
    · exact .of_eq rfl
    · exact .of_eq rfl
    · exact (entriesFrom_failed db _).then rfl (.of_eq rfl)
    · exact fun c hc => entriesFrom_failed db _ c hc

lemma EntriesFrom.orRollback {R : Type} {outcome : Outcome P R} (h : EntriesFrom paid entry db outcome.1) :
    EntriesFrom paid entry db (outcome.orRollback db).1 := by
  obtain ⟨made, e | r⟩ := outcome
  · exact .of_eq rfl
  · exact h

lemma EntriesFrom.finalize {db' : Db P} (h : EntriesFrom paid entry db db') (hspots : db'.spots = db.spots)
    (ofRow : Option ℕ) : EntriesFrom paid entry db (finalizeCancelledSpotIfReady db' ofRow) := by
  obtain ⟨spots, hfinal⟩ := finalizeCancelledSpotIfReady_frame db' ofRow
  rw [hfinal]
  exact h.then hspots (.of_eq rfl)

lemma LedgerOnly.entriesFrom {db' : Db P} (h : LedgerOnly db db') : EntriesFrom paid entry db db' :=
  .of_eq (by rw [h.same])

lemma entriesFrom_markFailed (row : Trans) : EntriesFrom paid entry db (markTransAsFailed db row).1 := by
  have hledger : LedgerOnly db (db.modifyTransactionStatus row.id .failed).1 := modifyTransactionStatus_ledgerOnly ..
  unfold markTransAsFailed
  apply EntriesFrom.orRollback
  generalize db.modifyTransactionStatus row.id .failed = outcome at hledger
  obtain ⟨mid, e | _⟩ := outcome
  · exact hledger.entriesFrom
  · exact hledger.entriesFrom.finalize (by rw [hledger.same]) row.spotId

/-- Only a payout that is told so takes its claim out of FAILED. -/
lemma entriesFrom_confirmed {row : Trans} (transfer : ChainTransfer) (payout : Bool)
    (hpaid : payout = true → ∀ claimId, row.claimId = some claimId → paid claimId) :
    EntriesFrom paid entry db (markTransAsConfirmed db row transfer payout).1 := by
  have hledger : ∀ status, LedgerOnly db
      ((db.updateTransactionChainDetails row.id transfer).modifyTransactionStatus row.id status).1 := fun status =>
    (updateTransactionChainDetails_ledgerOnly row.id transfer).then (modifyTransactionStatus_ledgerOnly row.id status)
  unfold markTransAsConfirmed
  dsimp only
  apply EntriesFrom.orRollback
  split_ifs
  · exact (hledger .failed).entriesFrom
  · have hconfirmed : LedgerOnly db _ := hledger .confirmed
    generalize (db.updateTransactionChainDetails row.id transfer).modifyTransactionStatus row.id .confirmed =
      outcome at hconfirmed
    obtain ⟨mid, e | _⟩ := outcome
    · exact hconfirmed.entriesFrom
    · have hspots : mid.spots = db.spots := (congrArg Db.spots hconfirmed.same :)
      dsimp only
      split
      · next claimId hclaimId =>
        have hset : EntriesFrom paid entry mid (mid.setClaimStatusToSuccess claimId) := by
          refine .of_update rfl (fun _ => ⟨rfl, rfl⟩) ?_
          intro c _ hsel _
          exact .inr (of_decide_eq_true hsel ▸ hpaid rfl claimId hclaimId)
        exact (hconfirmed.entriesFrom.then hspots hset).finalize hspots row.spotId
      · exact hconfirmed.entriesFrom.finalize hspots row.spotId

lemma entriesFrom_claimRoute (hnumbered : Numbered db) (req : ClaimRequest P) :
    EntriesFrom paid ((claimRoute cfg db req).spots = db.spots) db (claimRoute cfg db req) := by
  have hpermit : EntryPermitted WritePermit.all cfg db req := ⟨fun _ _ _ _ _ => trivial, fun _ _ _ _ _ _ => trivial⟩
  have hwrites := claimRoute_writes hnumbered.keyed hpermit
  have hentries : EntriesFrom paid ((installedCreateClaimAttempt cfg db req).1.spots = db.spots) db
      (installedCreateClaimAttempt cfg db req).1 :=
    (hwrites.entriesFrom hnumbered).mono fun _ => hwrites.sameGround.spots
  unfold claimRoute
  generalize installedCreateClaimAttempt cfg db req = outcome at hentries
  obtain ⟨made, e | claim⟩ := outcome
  · dsimp only
    split_ifs
    · exact hentries
    · exact .of_eq rfl
  · exact hentries

lemma entriesFrom_heartbeat (hnumbered : Numbered db) (claimId userId : ℕ) (position : P) (accuracy : Option ℚ) :
    EntriesFrom paid ((claimLocationHeartbeatApi cfg db claimId userId position accuracy).spots = db.spots) db
      (claimLocationHeartbeatApi cfg db claimId userId position accuracy) := by
  have hadmitted : Op.Admitted cfg .all db (.heartbeat claimId userId position accuracy) := admitted_all _
  have hwrites : ClaimWrites WritePermit.all db (processDurationClaimLocationHeartbeat cfg (installedPromoter cfg) db
      claimId userId position accuracy).1 := by
    apply heartbeat_admitted
    · exact fun claim spot hclaim howner hpending hspot => (hadmitted claim spot hclaim howner hpending hspot).1
    · exact fun claim spot hclaim howner hpending hspot => (hadmitted claim spot hclaim howner hpending hspot).2
  have hentries := (@ClaimWrites.entriesFrom _ _ _ paid _ hwrites hnumbered).mono fun _ => hwrites.sameGround.spots
  unfold claimLocationHeartbeatApi
  generalize processDurationClaimLocationHeartbeat cfg (installedPromoter cfg) db claimId userId position
    accuracy = outcome at hentries
  obtain ⟨made, e | claim⟩ := outcome
  · dsimp only
    split_ifs
    · exact hentries
    · exact .of_eq rfl
  · exact hentries

lemma entriesFrom_refresh (hnumbered : Numbered db) (claimId : ℕ) :
    EntriesFrom paid ((refreshClaimStatusFromConditions (installedPromoter cfg) db claimId).1.spots = db.spots) db
      (refreshClaimStatusFromConditions (installedPromoter cfg) db claimId).1 := by
  have hadmitted : Op.Admitted cfg .all db (.refresh claimId) := admitted_all _
  cases refresh_admitted hadmitted with
  | inl hsame => exact .of_eq (by rw [hsame.1])
  | inr hwrite =>
    exact (hwrite.1.entriesFrom hnumbered.keyed.claimKeys).mono fun _ => hwrite.1.sameGround.spots

/-- What one operation does to the claims. -/
lemma Sys.Settling.entriesFrom (h : s.Settling) (op : Op P) :
    EntriesFrom s.db.HasPayoutRow ((NimHunt.step cfg s op).db.spots = s.db.spots) s.db (NimHunt.step cfg s op).db := by
  have hnumbered := h.kept.numbered
  unfold NimHunt.step
  cases op with
  | tick seconds => exact .of_eq rfl
  | registerUser user => exact .of_eq (registerUser_sameRows user).claims
  | setUserStatus userId status => exact .of_eq rfl
  | bindWallet userId signer => exact .of_eq (bindWallet_sameRows userId signer).claims
  | createSpot createdBy depositAddress fields =>
    exact .of_eq (createSpot_sameRows createdBy depositAddress fields).claims
  | createPrizedraw createdBy depositAddress fields prizeCount =>
    exact .of_eq (createPrizedraw_sameRows createdBy depositAddress fields prizeCount).claims
  | modifyDraft spotId edit => exact .of_eq (modifyDraftSpot_sameRows spotId edit).claims
  | deleteDraft userId spotId => exact .of_eq (deleteDraftSpot_claims h.kept.placed userId spotId)
  | publish spotId draws => exact .of_eq (publishSpot_sameRows spotId draws).claims
  | claim req => exact entriesFrom_claimRoute hnumbered req
  | heartbeat claimId userId position accuracy => exact entriesFrom_heartbeat hnumbered claimId userId position accuracy
  | refresh claimId => exact entriesFrom_refresh hnumbered claimId
  | settlePrizedraw spotId sample => exact entriesFrom_settlePrizedraw sample s.db spotId
  | retryPrizedrawPayouts spotId => exact entriesFrom_payoutPass s.db spotId
  | payoutStandardClaim claimId => exact .of_eq rfl
  | recordDeposit userId spotId amount fromAddress txHash =>
    exact recordSpotDepositTransaction_writes.ledgerOnly.entriesFrom
  | payCreationFee spotId => exact .of_eq rfl
  | cancelSpot spotId cancellationFee feeAddress transactions failureProven =>
    dsimp only
    have hclaims :=
      (@acquireCancellationLease_sameRows _ cfg s.db spotId cancellationFee feeAddress transactions failureProven).claims
    generalize acquireCancellationLease cfg s.db spotId cancellationFee feeAddress transactions failureProven = outcome
      at hclaims
    obtain ⟨made, message | lease⟩ := outcome
    · exact .of_eq hclaims
    · exact .of_eq hclaims
  | settleRemainder spotId =>
    dsimp only
    have hclaims := (@settleSpotRemainderIfReady_sameRows _ cfg s.db spotId).claims
    generalize settleSpotRemainderIfReady cfg s.db spotId = outcome at hclaims
    obtain ⟨made, result⟩ := outcome
    cases result <;> exact .of_eq hclaims
  | banSpot spotId => exact entriesFrom_banSpot s.db spotId
  | sweepBannedSpot spotId =>
    dsimp only
    have hclaims := (@attemptBannedSpotSweep_sameRows _ s.db spotId).claims
    generalize attemptBannedSpotSweep s.db spotId = outcome at hclaims
    obtain ⟨made, result⟩ := outcome
    cases result <;> exact .of_eq hclaims
  | confirmTrans transId =>
    dsimp only
    cases s.db.getTransaction transId with
    | none => exact .of_eq rfl
    | some row =>
      dsimp only
      split_ifs <;> exact .of_eq rfl
  | failTrans transId =>
    dsimp only
    cases s.db.getTransaction transId with
    | none => exact .of_eq rfl
    | some row => exact entriesFrom_markFailed row
  | resume index reply =>
    dsimp only
    cases htask : s.inFlight[index]? with
    | none => exact .of_eq rfl
    | some k =>
      have hmem := List.mem_of_getElem? htask
      have hquiet : ∀ k : Continuation, k.IsQuiet → (resume cfg s.db reply k).1.claims = s.db.claims := fun k hk =>
        (@resume_payoutRows _ cfg (fun _ => False) s.db reply k hk).2.1
      cases k with
      | claimReward job =>
        have hledger : LedgerOnly s.db (submitClaimRewardTransaction cfg s.db job reply.txHash).1 :=
          (submitClaimRewardTransaction_inserts job reply.txHash).ledgerOnly
        exact hledger.entriesFrom
      | confirmation row payout =>
        obtain ⟨⟨t, ht, hread⟩, hclaim⟩ := h.pays.read row payout hmem
        dsimp only
        unfold NimHunt.resume
        dsimp only
        cases verifiedTransfer cfg row with
        | none => exact .of_eq rfl
        | some transfer =>
          refine entriesFrom_confirmed transfer payout ?_
          intro hpayout claimId hclaimId
          exact ⟨t, ht, hread.type.trans (hclaim hpayout), hread.claimId.trans hclaimId⟩
      | _ =>
        refine .of_eq (hquiet _ ?_)
        trivial
  | crash index => exact .of_eq rfl

end Steps

end NimHunt
