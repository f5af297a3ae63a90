import NimHunt.Proofs.CancellationSplit
import NimHunt.Proofs.PrizeDivision
import NimHunt.Proofs.SystemRuns

/-!
# The payout rows

A payout row comes from a payout job and from nothing else.  What it pays never changes, and once it is
CONFIRMED it stays so.
-/

namespace NimHunt

open Lib

variable {P : Type}

section Rows

/-- A row as long as the table lasts: what it pays, and that it is confirmed. -/
structure PayoutKept (t t' : Trans) : Prop where
  id : t'.id = t.id
  type : t'.type = t.type
  spotId : t.type = .claim → t'.spotId = t.spotId
  claimId : t'.claimId = t.claimId
  confirmed : t.status = .confirmed → t'.status = .confirmed

/-- The rows stay, and no payout row comes but a `new` one. -/
structure PayoutRows (new : Trans → Prop) (db db' : Db P) : Prop where
  stay : ∀ t ∈ db.trans, ∃ t' ∈ db'.trans, PayoutKept t t'
  come : ∀ t' ∈ db'.trans, t'.type = .claim → (∃ t ∈ db.trans, PayoutKept t t') ∨ new t'

variable {cfg : Settings P} {new : Trans → Prop} {db db' db'' : Db P}

lemma PayoutKept.refl (t : Trans) : PayoutKept t t := ⟨rfl, rfl, fun _ => rfl, rfl, fun h => h⟩

lemma PayoutKept.then {t t' t'' : Trans} (h : PayoutKept t t') (h' : PayoutKept t' t'') : PayoutKept t t'' :=
  ⟨h'.id.trans h.id, h'.type.trans h.type, fun hclaim => (h'.spotId (h.type.trans hclaim)).trans (h.spotId hclaim),
    h'.claimId.trans h.claimId,
    fun hconfirmed => h'.confirmed (h.confirmed hconfirmed)⟩

lemma PayoutRows.of_eq (htrans : db'.trans = db.trans) : PayoutRows new db db' :=
  ⟨fun t ht => ⟨t, htrans ▸ ht, .refl t⟩, fun t ht _ => .inl ⟨t, htrans ▸ ht, .refl t⟩⟩

lemma PayoutRows.congr (h : PayoutRows new db db') (htrans : db''.trans = db'.trans) : PayoutRows new db db'' :=
  ⟨htrans ▸ h.stay, htrans ▸ h.come⟩

lemma PayoutRows.hasConfirmed (h : PayoutRows new db db') {claimId : ℕ}
    (hpaid : db.hasConfirmedClaimPayoutTransaction claimId = true) :
    db'.hasConfirmedClaimPayoutTransaction claimId = true := by
  obtain ⟨t, ht, hrow⟩ := List.any_eq_true.mp hpaid
  obtain ⟨hclaimId, htype, hstatus⟩ := of_decide_eq_true hrow
  obtain ⟨t', ht', hsame⟩ := h.stay t ht
  exact List.any_eq_true.mpr ⟨t', ht', decide_eq_true ⟨hsame.claimId.trans hclaimId, hsame.type.trans htype,
    hsame.confirmed hstatus⟩⟩

lemma SettledTo.payoutRows {status : TransStatus} {transfer : Option ChainTransfer} {transId : ℕ}
    (h : SettledTo status transfer transId db db') : PayoutRows new db db' := by
  obtain ⟨f, hrewritten, hsettles⟩ := h.rewritten
  have hsame : ∀ t ∈ db.trans, t.id = transId → PayoutKept t (f t) := by
    intro t ht hid
    have hto := hsettles t ht hid
    refine ⟨hto.id, hto.type, fun _ => hto.spotId, hto.claimId, ?_⟩
    intro hconfirmed
    cases hto.status with
    | inl hkept => exact hkept.trans hconfirmed
    | inr hopen =>
      rw [hconfirmed] at hopen
      cases hopen.1
  constructor
  · intro t ht
    rw [hrewritten.trans]
    by_cases hid : t.id = transId
    · exact ⟨f t, mem_updateWhere.mpr ⟨t, ht, if_pos (decide_eq_true hid)⟩, hsame t ht hid⟩
    · exact ⟨t, mem_updateWhere.mpr ⟨t, ht, if_neg fun htrue => hid (of_decide_eq_true htrue)⟩, .refl t⟩
  · intro t' ht' _
    left
    obtain ⟨t, ht, -, hcase⟩ := hrewritten.mem ht'
    cases hcase with
    | inl hother => exact ⟨t, ht, hother.2 ▸ .refl t⟩
    | inr hthis => exact ⟨t, ht, hthis.2 ▸ hsame t ht hthis.1⟩

lemma payoutRows_insert {row : NewTrans} {transId : ℕ} (hmade : db.createTransaction row = (db', .ok transId))
    (hnew : row.type = .claim → ∀ t : Trans, row.Describes t → new t) : PayoutRows new db db' := by
  obtain ⟨-, hdb, -, -⟩ := createTransaction_ok hmade
  rw [hdb]
  constructor
  · intro t ht
    exact ⟨t, List.mem_append_left _ ht, .refl t⟩
  · intro t' ht' htype
    cases List.mem_append.mp ht' with
    | inl hold => exact .inl ⟨t', hold, .refl t'⟩
    | inr hlast =>
      have heq := List.mem_singleton.mp hlast
      refine .inr (hnew ?_ t' ?_)
      · rw [heq] at htype
        exact htype
      · rw [heq]
        exact ⟨rfl, rfl, rfl⟩

lemma Inserts.payoutRows {p : NewTrans → Prop} {outcome : Outcome P ℕ} (h : Inserts p db outcome)
    (hother : ∀ row, p row → row.type = .claim → ∀ t : Trans, row.Describes t → new t) :
    PayoutRows new db outcome.1 := by
  cases h with
  | refused e => exact .of_eq rfl
  | made hmade hrow => exact payoutRows_insert hmade (hother _ hrow)

/-- A leg of a Spot is no payout of a claim. -/
lemma Inserts.legRows {type : TransType} {spotId : ℕ} {txHash : String} {outcome : Outcome P ℕ}
    (h : Inserts (NewTrans.IsLegOf type spotId txHash) db outcome) (htype : type ≠ .claim) :
    PayoutRows new db outcome.1 :=
  h.payoutRows fun _ hrow hclaim => absurd (hrow.1.symm.trans hclaim) htype

lemma DepositWrites.payoutRows {spotId : ℕ} {cleanHash : String} {outcome : Outcome P ℕ}
    (h : DepositWrites spotId cleanHash db outcome) : PayoutRows new db outcome.1 := by
  cases h with
  | kept hdb hknown => exact .of_eq (by rw [hdb])
  | made hmade hrow hdb hknown =>
    refine (payoutRows_insert hmade ?_).congr (by rw [hdb])
    intro hclaim
    rw [hrow.1] at hclaim
    cases hclaim

lemma deleteDraftSpot_claims (hplaced : db.Placed) (userId spotId : ℕ) :
    (deleteDraftSpot db userId spotId).1.claims = db.claims := by
  unfold deleteDraftSpot
  cases hspot : db.getSpot spotId with
  | none => rfl
  | some spot =>
    have hid := getSpot_id hspot
    subst hid
    dsimp only
    split_ifs with howner hdraft hfunded
    · rfl
    · rfl
    · rfl
    · exact deleteSpot_claims (hplaced.unclaimed hspot (not_not.mp hdraft))

/-- A deleted draft has no claims, so no payout is booked to it. -/
lemma deleteDraftSpot_payoutRows (hplaced : db.Placed)
    (hbooked : ∀ t ∈ db.trans, t.type = .claim → ∃ claim ∈ db.claims, t.spotId = some claim.spotId)
    (userId spotId : ℕ) : PayoutRows new db (deleteDraftSpot db userId spotId).1 := by
  unfold deleteDraftSpot
  cases hspot : db.getSpot spotId with
  | none => exact .of_eq rfl
  | some spot =>
    have hid := getSpot_id hspot
    subst hid
    dsimp only
    split_ifs with howner hdraft hfunded
    · exact .of_eq rfl
    · exact .of_eq rfl
    · exact .of_eq rfl
    · have hunclaimed := hplaced.unclaimed hspot (not_not.mp hdraft)
      have hrow : ∀ t ∈ db.trans, PayoutKept t (t.unbooked spot.id) := by
        intro t ht
        refine ⟨rfl, rfl, ?_, rfl, fun hconfirmed => hconfirmed⟩
        intro htype
        obtain ⟨claim, hclaim, hof⟩ := hbooked t ht htype
        rw [unbooked_eq_self]
        rw [hof]
        exact fun hsame => hunclaimed claim hclaim (Option.some.inj hsame)
      have htrans := deleteSpot_trans hunclaimed
      constructor
      · exact fun t ht => ⟨_, htrans ▸ List.mem_map_of_mem ht, hrow t ht⟩
      · intro t' ht' _
        obtain ⟨t, ht, heq⟩ := List.mem_map.mp (htrans ▸ ht')
        exact .inl ⟨t, ht, heq ▸ hrow t ht⟩

end Rows

section Frames

variable {cfg : Settings P} {db : Db P}

/-- Neither the ledger nor a claim changes. -/
structure SameRows (db db' : Db P) : Prop where
  trans : db'.trans = db.trans
  claims : db'.claims = db.claims

lemma insertSpot_sameRows (db : Db P) (spot : Spot P) : SameRows db (db.insertSpot spot).1 := by
  unfold Db.insertSpot
  split_ifs <;> exact ⟨rfl, rfl⟩

lemma createSpot_sameRows (createdBy : ℕ) (depositAddress : Address) (fields : SpotFields P) :
    SameRows db (createSpot cfg db createdBy depositAddress fields).1 := by
  unfold createSpot
  cases newDraft cfg (db.spotSeq + 1) createdBy depositAddress fields none with
  | error e => exact ⟨rfl, rfl⟩
  | ok spot => exact insertSpot_sameRows db spot

lemma createPrizedraw_sameRows (createdBy : ℕ) (depositAddress : Address) (fields : SpotFields P)
    (prizeCount : Option ℤ) : SameRows db (createPrizedraw cfg db createdBy depositAddress fields prizeCount).1 := by
  unfold createPrizedraw
  cases checkNewPrizedraw fields prizeCount with
  | error e => exact ⟨rfl, rfl⟩
  | ok count =>
    dsimp only
    split
    · exact ⟨rfl, rfl⟩
    · exact insertSpot_sameRows db _

lemma modifyDraftSpot_sameRows (spotId : ℕ) (edit : DraftEdit P) :
    SameRows db (modifyDraftSpot db spotId edit).1 := by
  unfold modifyDraftSpot
  cases requireDraftSpot db spotId with
  | error e => exact ⟨rfl, rfl⟩
  | ok spot =>
    dsimp only
    cases editedDraft db spot edit with
    | error e => exact ⟨rfl, rfl⟩
    | ok next =>
      dsimp only
      split_ifs <;> exact ⟨rfl, rfl⟩

lemma publishSpot_sameRows (spotId : ℕ) (draws : List String) : SameRows db (publishSpot db spotId draws).1 := by
  unfold publishSpot
  cases db.getSpot spotId with
  | none => exact ⟨rfl, rfl⟩
  | some spot =>
    dsimp only
    split_ifs
    · exact ⟨rfl, rfl⟩
    · rcases hcoded : ensureClaimCodesForPublish db spot draws with ⟨coded, e | ⟨⟩⟩
      · exact ⟨rfl, rfl⟩
      · obtain ⟨rows, seq, hframe⟩ := ensureClaimCodesForPublish_frame hcoded
        rw [hframe]
        exact ⟨rfl, rfl⟩

lemma claimRoute_trans (hnumbered : Numbered db) (req : ClaimRequest P) :
    (claimRoute cfg db req).trans = db.trans := by
  have hpermit : EntryPermitted WritePermit.all cfg db req := ⟨fun _ _ _ _ _ => trivial, fun _ _ _ _ _ _ => trivial⟩
  have hsame := (claimRoute_writes hnumbered.keyed hpermit).sameGround.trans
  unfold claimRoute
  generalize installedCreateClaimAttempt cfg db req = outcome at hsame
  obtain ⟨made, e | claim⟩ := outcome
  · dsimp only
    split_ifs
    · exact hsame
    · rfl
  · exact hsame

lemma claimLocationHeartbeatApi_trans (claimId userId : ℕ) (position : P) (accuracy : Option ℚ) :
    (claimLocationHeartbeatApi cfg db claimId userId position accuracy).trans = db.trans := by
  have hadmitted : Op.Admitted cfg .all db (.heartbeat claimId userId position accuracy) := admitted_all _
  have hwrites : ClaimWrites WritePermit.all db (processDurationClaimLocationHeartbeat cfg (installedPromoter cfg) db
      claimId userId position accuracy).1 := by
    apply heartbeat_admitted
    · exact fun claim spot hclaim howner hpending hspot => (hadmitted claim spot hclaim howner hpending hspot).1
    · exact fun claim spot hclaim howner hpending hspot => (hadmitted claim spot hclaim howner hpending hspot).2
  have hsame := hwrites.sameGround.trans
  unfold claimLocationHeartbeatApi
  generalize processDurationClaimLocationHeartbeat cfg (installedPromoter cfg) db claimId userId position
    accuracy = outcome at hsame
  obtain ⟨made, e | claim⟩ := outcome
  · dsimp only
    split_ifs
    · exact hsame
    · rfl
  · exact hsame

lemma refresh_trans (claimId : ℕ) :
    (refreshClaimStatusFromConditions (installedPromoter cfg) db claimId).1.trans = db.trans := by
  have hadmitted : Op.Admitted cfg .all db (.refresh claimId) := admitted_all _
  cases refresh_admitted hadmitted with
  | inl hsame => rw [hsame.1]
  | inr hwrite => exact hwrite.1.sameGround.trans

lemma recordPaidWinners_trans (winners : List (Claim P)) (db : Db P) :
    (winners.foldl recordPaidWinner db).trans = db.trans := by
  induction winners generalizing db with
  | nil => rfl
  | cons winner winners ih =>
    rw [List.foldl_cons, ih]
    unfold recordPaidWinner
    split_ifs <;> rfl

lemma retryPendingPrizedrawPayoutsForSpot_trans (db : Db P) (spotId : ℕ) :
    (retryPendingPrizedrawPayoutsForSpot db spotId).1.trans = db.trans := by
  unfold retryPendingPrizedrawPayoutsForSpot
  cases db.getSpot spotId with
  | none => rfl
  | some spot =>
    dsimp only
    split_ifs
    · rfl
    · rfl
    · exact recordPaidWinners_trans _ db

lemma acquireCancellationLease_sameRows (spotId fee : ℕ) (feeAddress : Address) (transactions : List Trans)
    (failureProven : Bool) :
    SameRows db (acquireCancellationLease cfg db spotId fee feeAddress transactions failureProven).1 := by
  unfold acquireCancellationLease
  dsimp only
  split
  · exact ⟨rfl, rfl⟩
  · split_ifs
    · exact ⟨rfl, rfl⟩
    · exact ⟨rfl, rfl⟩
    · split
      · exact ⟨rfl, rfl⟩
      · split <;> exact ⟨rfl, rfl⟩
    · split
      · exact ⟨rfl, rfl⟩
      · split <;> exact ⟨rfl, rfl⟩

lemma settleSpotRemainderIfReady_sameRows (spotId : ℕ) :
    SameRows db (settleSpotRemainderIfReady cfg db spotId).1 := by
  unfold settleSpotRemainderIfReady
  cases db.getSpot spotId with
  | none => exact ⟨rfl, rfl⟩
  | some spot =>
    dsimp only
    split_ifs
    · exact ⟨rfl, rfl⟩
    · exact ⟨rfl, rfl⟩
    · exact ⟨rfl, rfl⟩
    · exact ⟨rfl, rfl⟩
    · exact ⟨rfl, rfl⟩
    · exact ⟨rfl, rfl⟩
    · exact ⟨rfl, rfl⟩
    · unfold settleRemainderFromLedger
      dsimp only
      split_ifs
      · exact ⟨rfl, rfl⟩
      · exact ⟨rfl, rfl⟩
      · exact ⟨rfl, rfl⟩
      · exact ⟨rfl, rfl⟩
      · split <;> exact ⟨rfl, rfl⟩
      · split <;> exact ⟨rfl, rfl⟩

lemma banSpot_trans (spotId : ℕ) : (banSpot db spotId).1.trans = db.trans := by
  unfold banSpot
  cases db.getSpot spotId with
  | none => rfl
  | some spot =>
    dsimp only
    split_ifs <;> rfl

lemma attemptBannedSpotSweep_sameRows (spotId : ℕ) : SameRows db (attemptBannedSpotSweep db spotId).1 := by
  unfold attemptBannedSpotSweep
  cases db.getSpot spotId with
  | none => exact ⟨rfl, rfl⟩
  | some spot =>
    dsimp only
    split_ifs <;> exact ⟨rfl, rfl⟩

lemma bindWallet_sameRows (userId : ℕ) (signer : Address) : SameRows db (db.bindWallet cfg userId signer) := by
  unfold Db.bindWallet
  split_ifs
  · exact ⟨rfl, rfl⟩
  · split
    · exact ⟨rfl, rfl⟩
    · split_ifs <;> exact ⟨rfl, rfl⟩

lemma registerUser_sameRows (user : User) : SameRows db (db.registerUser user) := by
  unfold Db.registerUser
  split_ifs <;> exact ⟨rfl, rfl⟩

lemma submitUnderLease_sameRows (lease : CancellationLease) : SameRows db (submitUnderLease cfg db lease).1 := by
  obtain ⟨⟨spots, hspots⟩, -⟩ := submitSpotCancellationTransactions_writes cfg db lease.spotId lease.policy.feeAmount
  unfold submitUnderLease
  generalize submitSpotCancellationTransactions cfg db lease.spotId lease.policy.feeAmount = outcome at hspots
  obtain ⟨made, e | result⟩ := outcome
  · dsimp only at hspots ⊢
    rw [hspots]
    split_ifs <;> exact ⟨rfl, rfl⟩
  · dsimp only at hspots ⊢
    rw [hspots]
    cases result <;> exact ⟨rfl, rfl⟩

end Frames

section Steps

variable {cfg : Settings P} {s : Sys P} {op : Op P}

/-- A row a job in flight would insert. -/
def Sys.PaysJob (s : Sys P) (t : Trans) : Prop :=
  ∃ job claim, .claimReward job ∈ s.inFlight ∧ s.db.getClaim job.claimId = some claim ∧
    t.claimId = some job.claimId ∧ t.spotId = some claim.spotId

/-- A worker that neither pays a claim nor confirms a row. -/
def Continuation.IsQuiet : Continuation → Prop
  | .claimReward _ | .confirmation _ _ => False
  | _ => True

lemma isQuiet_singleton {k : Continuation} (hk : k.IsQuiet) : ∀ k' ∈ [k], k'.IsQuiet := by
  intro k' hk'
  rw [List.mem_singleton.mp hk']
  exact hk

lemma not_claimReward_of_isQuiet {next : List Continuation} (h : ∀ k ∈ next, k.IsQuiet) (job : PayoutJob) :
    .claimReward job ∉ next := fun hmem => h _ hmem

lemma not_confirmation_of_isQuiet {next : List Continuation} (h : ∀ k ∈ next, k.IsQuiet) (row : Trans)
    (payout : Bool) : .confirmation row payout ∉ next := fun hmem => h _ hmem

lemma afterRefusedLeg_claims (db : Db P) (spotId : ℕ) (e : Raised) :
    (afterRefusedLeg db spotId e).claims = db.claims := by
  unfold afterRefusedLeg
  split
  · split_ifs <;> rfl
  · rfl

/-- Such a worker leaves claims and payout rows alone. -/
lemma resume_payoutRows {new : Trans → Prop} {db : Db P} (reply : Reply) {k : Continuation} (hquiet : k.IsQuiet) :
    PayoutRows new db (resume cfg db reply k).1 ∧ (resume cfg db reply k).1.claims = db.claims ∧
      ∀ k' ∈ (resume cfg db reply k).2, k'.IsQuiet := by
  have hinserts : ∀ {type : TransType} {spotId : ℕ} {txHash : String} {outcome : Outcome P ℕ},
      Inserts (NewTrans.IsLegOf type spotId txHash) db outcome → type ≠ .claim →
      PayoutRows new db outcome.1 ∧ outcome.1.claims = db.claims := by
    intro type spotId txHash outcome h htype
    exact ⟨h.legRows htype, by rw [h.ledgerOnly.same]⟩
  unfold NimHunt.resume
  cases k with
  | claimReward job => exact hquiet.elim
  | confirmation row payout => exact hquiet.elim
  | creationFee spotId amount =>
    obtain ⟨hrows, hclaims⟩ := hinserts (submitSpotCreationFeeTransaction_inserts spotId amount reply.txHash) nofun
    exact ⟨hrows, hclaims, nofun⟩
  | cancellation lease =>
    obtain ⟨htrans, hclaims⟩ := @submitUnderLease_sameRows _ cfg db lease
    dsimp only
    generalize submitUnderLease cfg db lease = outcome at htrans hclaims
    obtain ⟨made, _ | job⟩ := outcome
    · exact ⟨.of_eq htrans, hclaims, nofun⟩
    · exact ⟨.of_eq htrans, hclaims, isQuiet_singleton trivial⟩
  | cancellationFee lease job =>
    dsimp only
    unfold sendCancellationFee
    obtain ⟨hrows, hclaims⟩ := hinserts
      (submitPlatformFeeTransaction_inserts job.spotId job.feeAmount lease.policy.feeAddress reply.txHash) nofun
    by_cases hunknown : 0 < job.refundAmount ∧ reply.refundAddress.isNone = true
    · rw [if_pos hunknown]
      exact ⟨.of_eq rfl, rfl, nofun⟩
    rw [if_neg hunknown]
    by_cases hzero : job.feeAmount = 0
    · rw [if_pos hzero]
      exact ⟨.of_eq rfl, rfl, isQuiet_singleton trivial⟩
    rw [if_neg hzero]
    generalize submitPlatformFeeTransaction cfg db job.spotId job.feeAmount lease.policy.feeAddress reply.txHash =
      outcome at hrows hclaims
    obtain ⟨made, e | _⟩ := outcome
    · exact ⟨hrows.congr (afterRefusedLeg_guard made job.spotId e).1,
        (afterRefusedLeg_claims made job.spotId e).trans hclaims, nofun⟩
    · dsimp only
      split_ifs
      · exact ⟨hrows, hclaims, isQuiet_singleton trivial⟩
      · exact ⟨hrows.congr rfl, hclaims, nofun⟩
  | cancellationRefund lease job refundAddress =>
    dsimp only
    unfold sendCancellationRefund
    obtain ⟨hrows, hclaims⟩ := hinserts
      (submitSpotRefundTransaction_inserts job.spotId job.refundAmount refundAddress reply.txHash) nofun
    by_cases hzero : job.refundAmount = 0
    · rw [if_pos hzero]
      exact ⟨.of_eq rfl, rfl, nofun⟩
    rw [if_neg hzero]
    generalize submitSpotRefundTransaction cfg db job.spotId job.refundAmount refundAddress reply.txHash = outcome
      at hrows hclaims
    obtain ⟨made, e | _⟩ := outcome
    · exact ⟨hrows.congr (afterRefusedLeg_guard made job.spotId e).1,
        (afterRefusedLeg_claims made job.spotId e).trans hclaims, nofun⟩
    · dsimp only
      split_ifs <;> exact ⟨hrows.congr rfl, hclaims, nofun⟩
  | remainder job =>
    dsimp only
    cases reply.refundAddress with
    | none => exact ⟨.of_eq rfl, rfl, nofun⟩
    | some refundAddress =>
      dsimp only
      split_ifs
      · exact ⟨.of_eq rfl, rfl, isQuiet_singleton trivial⟩
      · exact ⟨.of_eq rfl, rfl, nofun⟩
  | remainderRefund job refundAddress =>
    obtain ⟨hrows, hclaims⟩ := hinserts
      (submitSpotRemainderRefundTransaction_inserts job.spotId job.amount refundAddress reply.txHash) nofun
    exact ⟨hrows, hclaims, nofun⟩
  | banSweep spotId amount =>
    obtain ⟨hrows, hclaims⟩ := hinserts (submitBanSweep_inserts spotId amount reply.txHash) nofun
    exact ⟨hrows, hclaims, nofun⟩

/-- Where a new payout job comes from. -/
inductive Sys.Decides (s : Sys P) : Op P → PayoutJob → Prop
  | prize {spotId : ℕ} {job : PayoutJob} (hjob : job ∈ (retryPendingPrizedrawPayoutsForSpot s.db spotId).2) :
      s.Decides (.retryPrizedrawPayouts spotId) job
  | reward {claimId : ℕ} {job : PayoutJob} (hjob : payoutStandardClaimIfReady s.db claimId = some job) :
      s.Decides (.payoutStandardClaim claimId) job

/-- What one operation does to payouts. -/
structure Sys.PaysOnly (s : Sys P) (op : Op P) (s' : Sys P) : Prop where
  rows : PayoutRows s.PaysJob s.db s'.db
  jobs : ∀ job, .claimReward job ∈ s'.inFlight → .claimReward job ∈ s.inFlight ∨ s.Decides op job
  confirmations : ∀ row payout, .confirmation row payout ∈ s'.inFlight → .confirmation row payout ∈ s.inFlight ∨
    row ∈ s'.db.trans ∧ (payout = true → row.type = .claim)

lemma step_paysOnly (h : s.Kept) (hbooked : ∀ t ∈ s.db.trans, t.type = .claim →
      ∃ claim ∈ s.db.claims, t.spotId = some claim.spotId) : s.PaysOnly op (step cfg s op) := by
  have hwrites : ∀ db : Db P, PayoutRows s.PaysJob s.db db → s.PaysOnly op (s.write db) := fun db hrows =>
    ⟨hrows, fun _ hjob => .inl hjob, fun _ _ hrow => .inl hrow⟩
  have hstarts : ∀ (db : Db P) (next : List Continuation), db.trans = s.db.trans →
      (∀ job, .claimReward job ∈ next → s.Decides op job) → (∀ row payout, .confirmation row payout ∉ next) →
      s.PaysOnly op (s.start db next) := by
    intro db next htrans hjobs hrows
    refine ⟨.of_eq htrans, ?_, ?_⟩
    · exact fun job hjob => (List.mem_append.mp hjob).imp_right (hjobs job)
    · exact fun row payout hrow => (List.mem_append.mp hrow).imp_right fun hmem => absurd hmem (hrows row payout)
  have hquiet : ∀ (db : Db P) (next : List Continuation), db.trans = s.db.trans → (∀ k ∈ next, k.IsQuiet) →
      s.PaysOnly op (s.start db next) := by
    intro db next htrans hnext
    apply hstarts db next htrans
    · exact fun job hmem => absurd hmem (not_claimReward_of_isQuiet hnext job)
    · exact not_confirmation_of_isQuiet hnext
  have hsame : s.PaysOnly op s := ⟨.of_eq rfl, fun _ hjob => .inl hjob, fun _ _ hrow => .inl hrow⟩
  unfold NimHunt.step
  cases op with
  | tick seconds => exact hwrites _ (.of_eq rfl)
  | registerUser user =>
    exact hwrites _ (.of_eq (registerUser_sameRows user).trans)
  | setUserStatus userId status => exact hwrites _ (.of_eq rfl)
  | bindWallet userId signer => exact hwrites _ (.of_eq (bindWallet_sameRows userId signer).trans)
  | createSpot createdBy depositAddress fields =>
    exact hwrites _ (.of_eq (createSpot_sameRows createdBy depositAddress fields).trans)
  | createPrizedraw createdBy depositAddress fields prizeCount =>
    exact hwrites _ (.of_eq (createPrizedraw_sameRows createdBy depositAddress fields prizeCount).trans)
  | modifyDraft spotId edit => exact hwrites _ (.of_eq (modifyDraftSpot_sameRows spotId edit).trans)
  | deleteDraft userId spotId =>
    refine hwrites _ (deleteDraftSpot_payoutRows h.placed ?_ userId spotId)
    exact fun t ht htype => hbooked t ht htype
  | publish spotId draws => exact hwrites _ (.of_eq (publishSpot_sameRows spotId draws).trans)
  | claim req => exact hwrites _ (.of_eq (claimRoute_trans h.numbered req))
  | heartbeat claimId userId position accuracy =>
    exact hwrites _ (.of_eq (claimLocationHeartbeatApi_trans claimId userId position accuracy))
  | refresh claimId => exact hwrites _ (.of_eq (refresh_trans claimId))
  | settlePrizedraw spotId sample => exact hwrites _ (.of_eq (settlePrizedrawSpotIfReady_trans sample s.db spotId).1)
  | retryPrizedrawPayouts spotId =>
    apply hstarts _ _ (retryPendingPrizedrawPayoutsForSpot_trans s.db spotId)
    · intro job hmem
      obtain ⟨found, hfound, heq⟩ := List.mem_map.mp hmem
      injection heq with hsame
      exact .prize (hsame ▸ hfound)
    · intro row payout hmem
      obtain ⟨job, -, heq⟩ := List.mem_map.mp hmem
      cases heq
  | payoutStandardClaim claimId =>
    apply hstarts _ _ rfl
    · intro job hmem
      obtain ⟨found, hfound, heq⟩ := List.mem_map.mp hmem
      injection heq with hsame
      exact .reward (hsame ▸ Option.mem_toList.mp hfound)
    · intro row payout hmem
      obtain ⟨job, -, heq⟩ := List.mem_map.mp hmem
      cases heq
  | recordDeposit userId spotId amount fromAddress txHash =>
    have hdeposit : DepositWrites spotId (cfg.lower (cfg.strip txHash)) s.db
        (RefundAddressSafety.recordSpotDepositTransaction cfg s.db userId spotId amount fromAddress txHash none) :=
      recordSpotDepositTransaction_writes
    exact hwrites _ hdeposit.payoutRows
  | payCreationFee spotId =>
    apply hquiet _ _ rfl
    intro k hk
    obtain ⟨amount, -, heq⟩ := List.mem_map.mp hk
    rw [← heq]
    trivial
  | cancelSpot spotId cancellationFee feeAddress transactions failureProven =>
    dsimp only
    have htrans := (@acquireCancellationLease_sameRows _ cfg s.db spotId cancellationFee feeAddress transactions
      failureProven).trans
    generalize acquireCancellationLease cfg s.db spotId cancellationFee feeAddress transactions failureProven = outcome
      at htrans
    obtain ⟨made, message | lease⟩ := outcome
    · exact hwrites made (.of_eq htrans)
    · exact hquiet made _ htrans (isQuiet_singleton trivial)
  | settleRemainder spotId =>
    dsimp only
    have htrans := (@settleSpotRemainderIfReady_sameRows _ cfg s.db spotId).trans
    generalize settleSpotRemainderIfReady cfg s.db spotId = outcome at htrans
    obtain ⟨made, result⟩ := outcome
    cases result with
    | prepared job => exact hquiet made _ htrans (isQuiet_singleton trivial)
    | _ => exact hwrites made (.of_eq htrans)
  | banSpot spotId => exact hwrites _ (.of_eq (banSpot_trans spotId))
  | sweepBannedSpot spotId =>
    dsimp only
    have htrans := (@attemptBannedSpotSweep_sameRows _ s.db spotId).trans
    generalize attemptBannedSpotSweep s.db spotId = outcome at htrans
    obtain ⟨made, result⟩ := outcome
    cases result with
    | submit amount => exact hquiet made _ htrans (isQuiet_singleton trivial)
    | _ => exact hwrites made (.of_eq htrans)
  | confirmTrans transId =>
    dsimp only
    cases hrow : s.db.getTransaction transId with
    | none => exact hsame
    | some row =>
      dsimp only
      split_ifs
      · exact hsame
      · refine ⟨.of_eq rfl, ?_, ?_⟩
        · intro job hjob
          apply (List.mem_append.mp hjob).imp_right
          intro hmem
          cases List.mem_singleton.mp hmem
        · intro other payout hother
          apply (List.mem_append.mp hother).imp_right
          intro hmem
          injection List.mem_singleton.mp hmem with hread htold
          rw [hread, htold]
          refine ⟨List.mem_of_find?_eq_some hrow, ?_⟩
          intro hpayout
          unfold claimTransactionIsCompletedPrizedrawPayout at hpayout
          exact of_decide_eq_true (Bool.and_eq_true_iff.mp hpayout).1
  | failTrans transId =>
    dsimp only
    cases s.db.getTransaction transId with
    | none => exact hsame
    | some row => exact hwrites _ (markTransAsFailed_settled h.numbered.trans.1).payoutRows
  | resume index reply =>
    dsimp only
    cases htask : s.inFlight[index]? with
    | none => exact hsame
    | some k =>
      have hmem := List.mem_of_getElem? htask
      have hresumed : ∀ k : Continuation, k.IsQuiet → PayoutRows s.PaysJob s.db (resume cfg s.db reply k).1 ∧
          (resume cfg s.db reply k).1.claims = s.db.claims ∧ ∀ k' ∈ (resume cfg s.db reply k).2, k'.IsQuiet :=
        fun k hk => resume_payoutRows reply hk
      have hdone : ∀ db next, PayoutRows s.PaysJob s.db db → (∀ k ∈ next, k.IsQuiet) →
          s.PaysOnly (.resume index reply) ⟨db, s.inFlight.eraseIdx index ++ next⟩ := by
        intro db next hrows hnext
        refine ⟨hrows, ?_, ?_⟩
        · intro job hjob
          cases List.mem_append.mp hjob with
          | inl hold => exact .inl (List.eraseIdx_subset hold)
          | inr hnew => exact absurd hnew (not_claimReward_of_isQuiet hnext job)
        · intro row payout hrow
          cases List.mem_append.mp hrow with
          | inl hold => exact .inl (List.eraseIdx_subset hold)
          | inr hnew => exact absurd hnew (not_confirmation_of_isQuiet hnext row payout)
      cases k with
      | claimReward job =>
        have hinserts : Inserts _ s.db (submitClaimRewardTransaction cfg s.db job reply.txHash) :=
          submitClaimRewardTransaction_insertsFor job reply.txHash
        refine hdone _ [] (hinserts.payoutRows ?_) nofun
        intro row hrow _ t hdescribes
        obtain ⟨⟨-, hclaimId, -, -⟩, claim, hclaim, hspot⟩ := hrow
        exact ⟨job, claim, hmem, hclaim, hdescribes.2.2.trans hclaimId, hdescribes.2.1.trans hspot⟩
      | confirmation row payout =>
        dsimp only
        unfold NimHunt.resume
        dsimp only
        cases verifiedTransfer cfg row with
        | none => exact hdone s.db [] (.of_eq rfl) nofun
        | some transfer =>
          obtain ⟨status, hsettled, -⟩ := @markTransAsConfirmed_settled _ s.db row transfer payout h.numbered.trans.1
          exact hdone _ [] hsettled.payoutRows nofun
      | _ =>
        refine hdone _ _ (hresumed _ ?_).1 (hresumed _ ?_).2.2
        · trivial
        · trivial
  | crash index =>
    exact ⟨.of_eq rfl, fun _ hjob => .inl (List.eraseIdx_subset hjob), fun _ _ hrow => .inl (List.eraseIdx_subset hrow)⟩

end Steps

end NimHunt
