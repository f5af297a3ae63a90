import NimHunt.Proofs.PayoutWindows
import NimHunt.Proofs.SystemWrites

/-!
# The lifetime budget of an open Spot

A claim holds a part of its Spot's budget by a reservation or by a payout that has not failed, and once
even if by both.  A pruned reservation leaves its row, a failed row leaves nothing, and a claim that comes
back is weighed again.
-/

namespace NimHunt

open Lib

variable {P : Type}

section Terms

variable {cfg : Settings P} {db db' db'' : Db P}

def Db.spotOf (db : Db P) (claimId : ℕ) : Option ℕ := (db.getClaim claimId).map Claim.spotId

/-- The fields of a Spot its lifetime budget is computed from. -/
structure SameTerms (spot spot' : Spot P) : Prop where
  usePassword : spot.usePassword = spot'.usePassword
  prizeCount : spot.prizeCount = spot'.prizeCount
  maxTotalClaims : spot.maxTotalClaims = spot'.maxTotalClaims
  totalValue : spot.totalValue = spot'.totalValue

lemma SameTerms.refl (spot : Spot P) : SameTerms spot spot := ⟨rfl, rfl, rfl, rfl⟩

/-- Claims stay, each on its Spot, and the terms of a Spot with claims do not change. -/
structure KeepsTerms (db db' : Db P) : Prop where
  claims : ∀ claimId spotId, db.spotOf claimId = some spotId → db'.spotOf claimId = some spotId
  spots : ∀ claimId spotId spot', db.spotOf claimId = some spotId → db'.getSpot spotId = some spot' →
    ∃ spot, db.getSpot spotId = some spot ∧ SameTerms spot spot'

lemma KeepsTerms.then (h : KeepsTerms db db') (h' : KeepsTerms db' db'') : KeepsTerms db db'' := by
  constructor
  · intro claimId spotId hclaim
    exact h'.claims claimId spotId (h.claims claimId spotId hclaim)
  · intro claimId spotId spot'' hclaim hspot''
    obtain ⟨spot', hspot', hsame'⟩ := h'.spots claimId spotId spot'' (h.claims claimId spotId hclaim) hspot''
    obtain ⟨spot, hspot, hsame⟩ := h.spots claimId spotId spot' hclaim hspot'
    exact ⟨spot, hspot, hsame.1.trans hsame'.1, hsame.2.trans hsame'.2, hsame.3.trans hsame'.3, hsame.4.trans hsame'.4⟩

lemma KeepsTerms.of_eq (hclaims : db'.claims = db.claims) (hspots : db'.spots = db.spots) : KeepsTerms db db' := by
  have hspotOf : ∀ claimId, db'.spotOf claimId = db.spotOf claimId := by
    intro claimId
    unfold Db.spotOf Db.getClaim
    rw [hclaims]
  have hgetSpot : ∀ spotId, db'.getSpot spotId = db.getSpot spotId := by
    intro spotId
    unfold Db.getSpot
    rw [hspots]
  constructor
  · intro claimId spotId hclaim
    exact (hspotOf claimId).trans hclaim
  · intro claimId spotId spot' _ hspot'
    rw [hgetSpot] at hspot'
    exact ⟨spot', hspot', .refl spot'⟩

lemma KeepsTerms.refl (db : Db P) : KeepsTerms db db := .of_eq rfl rfl

lemma LedgerOnly.keepsTerms (h : LedgerOnly db db') : KeepsTerms db db' := by
  apply KeepsTerms.of_eq
  · rw [h.same]
  · rw [h.same]

lemma spotOf_modifyClaimStatus (paid claimId : ℕ) (status : ClaimStatus) :
    (db.modifyClaimStatus paid status).spotOf claimId = db.spotOf claimId := by
  have hkey : ∀ c : Claim P, (Claim.withStatus db.now status c).id = c.id := fun _ => rfl
  unfold Db.spotOf
  rw [Db.getClaim, Db.modifyClaimStatus, Db.updateClaimStatus_claims, find?_updateWhere_key hkey, Option.map_map]
  unfold Db.getClaim
  congr 1
  funext c
  dsimp only [Function.comp]
  split_ifs <;> rfl

lemma modifyClaimStatus_keepsTerms (claimId : ℕ) (status : ClaimStatus) :
    KeepsTerms db (db.modifyClaimStatus claimId status) := by
  constructor
  · intro other spotId hother
    exact (spotOf_modifyClaimStatus claimId other status).trans hother
  · intro other spotId spot' _ hspot'
    exact ⟨spot', hspot', .refl spot'⟩

lemma modifySpotStatus_keepsTerms (spotId : ℕ) (status : SpotStatus) :
    KeepsTerms db (db.modifySpotStatus spotId status) := by
  have hkey : ∀ s : Spot P, Spot.id { s with status := status } = Spot.id s := fun _ => rfl
  constructor
  · intro claimId other hclaim
    exact hclaim
  · intro claimId other spot' _ hspot'
    rw [Db.getSpot, Db.modifySpotStatus, find?_updateWhere_key hkey] at hspot'
    obtain ⟨spot, hspot, rfl⟩ := Option.map_eq_some_iff.mp hspot'
    refine ⟨spot, hspot, ?_⟩
    split_ifs <;> exact ⟨rfl, rfl, rfl, rfl⟩

lemma finalizeCancelledSpotIfReady_keepsTerms (spotId : Option ℕ) :
    KeepsTerms db (finalizeCancelledSpotIfReady db spotId) := by
  unfold finalizeCancelledSpotIfReady
  cases spotId with
  | none => exact .refl db
  | some spotId =>
    dsimp only
    cases db.getSpot spotId with
    | none => exact .refl db
    | some spot =>
      dsimp only
      split_ifs
      · exact .refl db
      · exact .refl db
      · exact modifySpotStatus_keepsTerms spotId .cancelled
      · exact .refl db

lemma KeepsTerms.orRollback {R : Type} {outcome : Outcome P R} (h : KeepsTerms db outcome.1) :
    KeepsTerms db (outcome.orRollback db).1 := by
  obtain ⟨made, e | r⟩ := outcome
  · exact .refl db
  · exact h

lemma markTransAsFailed_keepsTerms (row : Trans) : KeepsTerms db (markTransAsFailed db row).1 := by
  unfold markTransAsFailed
  apply KeepsTerms.orRollback
  have hledger : LedgerOnly db (db.modifyTransactionStatus row.id .failed).1 := modifyTransactionStatus_ledgerOnly ..
  generalize db.modifyTransactionStatus row.id .failed = outcome at hledger
  obtain ⟨mid, e | _⟩ := outcome
  · exact hledger.keepsTerms
  · exact hledger.keepsTerms.then (finalizeCancelledSpotIfReady_keepsTerms row.spotId)

lemma markTransAsConfirmed_keepsTerms (row : Trans) (transfer : ChainTransfer) (payout : Bool) :
    KeepsTerms db (markTransAsConfirmed db row transfer payout).1 := by
  have hledger : ∀ status, LedgerOnly db
      ((db.updateTransactionChainDetails row.id transfer).modifyTransactionStatus row.id status).1 := fun status =>
    (updateTransactionChainDetails_ledgerOnly row.id transfer).then (modifyTransactionStatus_ledgerOnly row.id status)
  unfold markTransAsConfirmed
  change KeepsTerms db (Outcome.orRollback db (if fundingMismatch db row transfer then _ else _)).1
  apply KeepsTerms.orRollback
  by_cases hmismatch : fundingMismatch db row transfer
  · rw [if_pos hmismatch]
    exact (hledger .failed).keepsTerms
  rw [if_neg hmismatch]
  have hconfirmed := (hledger .confirmed).keepsTerms
  generalize (db.updateTransactionChainDetails row.id transfer).modifyTransactionStatus row.id .confirmed =
    outcome at hconfirmed
  obtain ⟨mid, e | _⟩ := outcome
  · exact hconfirmed
  dsimp only
  refine KeepsTerms.then ?_ (finalizeCancelledSpotIfReady_keepsTerms row.spotId)
  split
  · exact hconfirmed.then (modifyClaimStatus_keepsTerms _ .success)
  · exact hconfirmed

lemma settleRow_keepsTerms (row : Trans) (block : Option ℤ) (verdict : Verdict) :
    KeepsTerms db (settleRow db row block verdict).1 := by
  have hpass : ∀ outcome : Outcome P Unit, KeepsTerms db outcome.1 → KeepsTerms db (passOutcome outcome).1 := by
    intro outcome houtcome
    obtain ⟨made, e | _⟩ := outcome <;> exact houtcome
  cases verdict with
  | stillPending reason => exact .refl db
  | unknown reason => exact .refl db
  | reject reason => exact hpass _ (markTransAsFailed_keepsTerms row)
  | accept transfer =>
    rw [settleRow]
    cases unstorable block transfer with
    | some e => exact .refl db
    | none => exact hpass _ (markTransAsConfirmed_keepsTerms row transfer _)

variable (cfg db) in
lemma attachChainHash_keepsTerms (transId : ℕ) (txHash : String) (transfer : ChainTransfer) :
    KeepsTerms db (attachChainHash cfg db transId txHash transfer).1 := by
  unfold attachChainHash
  dsimp only
  split_ifs <;> exact .of_eq rfl rfl

variable (cfg db) in
lemma reserve_keepsTerms (leg : PaymentLeg) (token : String) : KeepsTerms db (reserve cfg db token leg).1 := by
  cases leg with
  | claimReward job => exact (submitClaimRewardTransaction_inserts job _).ledgerOnly.keepsTerms
  | platformFee spotId amount feeAddress =>
    exact (submitPlatformFeeTransaction_inserts spotId amount feeAddress _).ledgerOnly.keepsTerms
  | spotRefund spotId amount refundAddress =>
    exact (submitSpotRefundTransaction_inserts spotId amount refundAddress _).ledgerOnly.keepsTerms
  | creationFee spotId amount => exact (submitSpotCreationFeeTransaction_inserts spotId amount _).ledgerOnly.keepsTerms
  | spotRemainderRefund spotId amount refundAddress =>
    exact (submitSpotRemainderRefundTransaction_inserts spotId amount refundAddress _).ledgerOnly.keepsTerms
  | moderationSweep spotId amount => exact (submitBanSweep_inserts spotId amount _).ledgerOnly.keepsTerms

lemma resume_keepsTerms (s : Outbox P) (answer : OutboxAnswer) (task : OutboxTask) :
    KeepsTerms s.db (s.resume cfg answer task).db := by
  unfold Outbox.resume
  cases task with
  | send row =>
    dsimp only
    cases answer.helper with
    | none => exact .refl s.db
    | some result =>
      dsimp only
      cases validateSubmittedChainSend cfg result row.fromAddress row.toAddress row.amount with
      | error e => exact .refl s.db
      | ok submitted => exact .refl s.db
  | attach row submitted => exact attachChainHash_keepsTerms ..
  | check row =>
    dsimp only
    cases assessRow cfg s.db.now row answer.replies with
    | error e => exact .refl s.db
    | ok assessed => exact settleRow_keepsTerms ..
  | recover row =>
    dsimp only
    cases recoverCreationFeeIntent cfg s.db row answer.history with
    | error e => exact .refl s.db
    | ok result =>
      cases result with
      | none => exact .refl s.db
      | some found => exact .refl s.db
  | attachRecovered row found =>
    dsimp only
    by_cases hunstorable : (unstorable found.block found.transfer).isSome = true
    · rw [if_pos hunstorable]
      exact .refl s.db
    rw [if_neg hunstorable]
    have hattached := attachChainHash_keepsTerms cfg s.db row.id found.txHash found.transfer
    generalize attachChainHash cfg s.db row.id found.txHash found.transfer = outcome at hattached
    obtain ⟨made, e | _⟩ := outcome
    · exact hattached
    · exact hattached
  | confirmRecovered transId found =>
    dsimp only
    cases s.db.getTransaction transId with
    | none => exact .refl s.db
    | some updated => exact settleRow_keepsTerms ..

/-- The outbox itself never touches the terms of a Spot or the Spot of a claim. -/
lemma outbox_keepsTerms (s : Outbox P) {op : OutboxOp P} (hop : ∀ db, op ≠ .elsewhere db) :
    KeepsTerms s.db (s.step cfg op).db := by
  unfold Outbox.step
  cases op with
  | elsewhere db => exact absurd rfl (hop db)
  | reserve leg token =>
    have hreserved := reserve_keepsTerms cfg s.db leg token
    dsimp only
    generalize reserve cfg s.db token leg = outcome at hreserved
    obtain ⟨made, e | transId⟩ := outcome
    · exact hreserved
    · exact hreserved
  | deposit userId spotId amount fromAddress txHash toAddress =>
    have hwrites : DepositWrites spotId (cfg.lower (cfg.strip txHash)) s.db
        (RefundAddressSafety.recordSpotDepositTransaction cfg s.db userId spotId amount fromAddress txHash toAddress) :=
      recordSpotDepositTransaction_writes
    exact hwrites.ledgerOnly.keepsTerms
  | readPending transId =>
    dsimp only
    cases s.db.getTransaction transId with
    | none => exact .refl s.db
    | some row =>
      dsimp only
      split_ifs <;> exact .refl s.db
  | readIntent transId =>
    dsimp only
    cases s.db.getTransaction transId with
    | none => exact .refl s.db
    | some row =>
      dsimp only
      split_ifs <;> exact .refl s.db
  | resume index answer =>
    dsimp only
    cases s.tasks[index]? with
    | none => exact .refl s.db
    | some task => exact resume_keepsTerms { s with tasks := s.tasks.eraseIdx index } answer task
  | crash => exact .refl s.db

end Terms

section Holders

variable {limits : ThrottleLimits} {reward : ℕ → ℕ} {released : Finset ℕ} {db db' : Db P} {rs rs' : List Reservation}
  {claimId spotId : ℕ}

/-- The claims of a Spot that count against its lifetime budget: a reservation or a payout that has not
failed, and no release by an operator. -/
def heldOn (db : Db P) (rs : List Reservation) (released : Finset ℕ) (spotId : ℕ) : Finset ℕ :=
  (((db.trans.filter fun t => t.type = .claim ∧ t.status ≠ .failed).filterMap Trans.claimId) ++
    rs.map Reservation.claimId).toFinset.filter fun c => c ∉ released ∧ db.spotOf c = some spotId

/-- A claim with a payout that has not failed, or with a reservation. -/
def HoldsSlot (db : Db P) (rs : List Reservation) (claimId : ℕ) : Prop :=
  (∃ t ∈ db.trans, t.type = .claim ∧ t.status ≠ .failed ∧ t.claimId = some claimId) ∨ ∃ r ∈ rs, r.claimId = claimId

lemma mem_heldOn {c : ℕ} : c ∈ heldOn db rs released spotId ↔
    HoldsSlot db rs c ∧ c ∉ released ∧ db.spotOf c = some spotId := by
  unfold heldOn HoldsSlot
  simp only [Finset.mem_filter, List.mem_toFinset, List.mem_append, List.mem_filterMap, List.mem_map, List.mem_filter,
    decide_eq_true_eq]
  apply and_congr_left'
  apply or_congr_left
  constructor
  · intro ⟨t, ⟨ht, htype, hstatus⟩, hclaim⟩
    exact ⟨t, ht, htype, hstatus, hclaim⟩
  · intro ⟨t, ht, htype, hstatus, hclaim⟩
    exact ⟨t, ⟨ht, htype, hstatus⟩, hclaim⟩

/-- The percentage of the capacity and of the pool of a Spot that is paid without a person. -/
def FitsLifetime (limits : ThrottleLimits) (reward : ℕ → ℕ) (spot : Spot P) (claims : Finset ℕ) : Prop :=
  claims.card ≤ max 1 spot.maxTotalClaims * limits.spotLifetimeAutomaticPercent / 100 ∧
    ∑ claimId ∈ claims, reward claimId ≤ spot.totalValue * limits.spotLifetimeAutomaticPercent / 100

lemma FitsLifetime.mono {spot : Spot P} {xs ys : Finset ℕ} (h : FitsLifetime limits reward spot ys) (hsub : xs ⊆ ys) :
    FitsLifetime limits reward spot xs :=
  ⟨(Finset.card_le_card hsub).trans h.1, (Finset.sum_le_sum_of_subset hsub).trans h.2⟩

lemma FitsLifetime.empty (limits : ThrottleLimits) (reward : ℕ → ℕ) (spot : Spot P) :
    FitsLifetime limits reward spot ∅ := by
  simp [FitsLifetime]

lemma FitsLifetime.congr {spot spot' : Spot P} {claims : Finset ℕ} (hsame : SameTerms spot spot')
    (h : FitsLifetime limits reward spot claims) : FitsLifetime limits reward spot' claims := by
  unfold FitsLifetime at h ⊢
  rw [← hsame.maxTotalClaims, ← hsame.totalValue]
  exact h

/-- Every open Spot is within its lifetime budget. -/
def LifetimeFits (limits : ThrottleLimits) (reward : ℕ → ℕ) (released : Finset ℕ) (db : Db P) (rs : List Reservation) :
    Prop :=
  ∀ spotId spot, db.getSpot spotId = some spot → spot.usePassword = false → spot.prizeCount = none →
    FitsLifetime limits reward spot (heldOn db rs released spotId)

/-- What the rows and the reservations say of their claims. -/
structure SlotsExact (reward : ℕ → ℕ) (db : Db P) (rs : List Reservation) : Prop where
  rows : ∀ t ∈ db.trans, t.type = .claim → ∀ c, t.claimId = some c →
    t.amount = reward c ∧ ∃ spotId, db.spotOf c = some spotId ∧ t.spotId = some spotId
  slots : ∀ r ∈ rs, r.amount = reward r.claimId ∧
    ∃ spotId, db.spotOf r.claimId = some spotId ∧ (0 < r.spotId → r.spotId = spotId)

lemma SlotsExact.placed (h : SlotsExact reward db rs) {c : ℕ} (hholds : HoldsSlot db rs c) :
    ∃ spotId, db.spotOf c = some spotId := by
  rcases hholds with ⟨t, ht, htype, -, hclaim⟩ | ⟨r, hr, rfl⟩
  · obtain ⟨-, spotId, hspot, -⟩ := h.rows t ht htype c hclaim
    exact ⟨spotId, hspot⟩
  · obtain ⟨-, spotId, hspot, -⟩ := h.slots r hr
    exact ⟨spotId, hspot⟩

/-- No new holder, and the terms stay. -/
lemma LifetimeFits.move (h : LifetimeFits limits reward released db rs) (hexact : SlotsExact reward db rs)
    (hkeeps : KeepsTerms db db') (hholds : ∀ c, HoldsSlot db' rs' c → HoldsSlot db rs c) :
    LifetimeFits limits reward released db' rs' := by
  have hback : ∀ {c spotId}, c ∈ heldOn db' rs' released spotId → c ∈ heldOn db rs released spotId := by
    intro c spotId hc
    obtain ⟨hheld, hfree, hspot⟩ := mem_heldOn.mp hc
    have hbefore := hholds c hheld
    obtain ⟨was, hwas⟩ := hexact.placed hbefore
    have hsame : was = spotId := Option.some.inj ((hkeeps.claims c was hwas).symm.trans hspot)
    exact mem_heldOn.mpr ⟨hbefore, hfree, hsame ▸ hwas⟩
  intro spotId spot' hspot' hopen hstandard
  by_cases hempty : heldOn db' rs' released spotId = ∅
  · rw [hempty]
    exact .empty limits reward spot'
  · obtain ⟨c, hc⟩ := Finset.nonempty_iff_ne_empty.mpr hempty
    obtain ⟨-, -, hplaced⟩ := mem_heldOn.mp (hback hc)
    obtain ⟨spot, hspot, hsame⟩ := hkeeps.spots c spotId spot' hplaced hspot'
    have hbefore := h spotId spot hspot (hsame.usePassword.trans hopen) (hsame.prizeCount.trans hstandard)
    exact (hbefore.mono fun c hc => hback hc).congr hsame

lemma SlotsExact.move (h : SlotsExact reward db rs) (hkeeps : KeepsTerms db db')
    (hrows : ∀ t' ∈ db'.trans, t'.type = .claim → ∀ c, t'.claimId = some c →
      (∃ t ∈ db.trans, SamePayout t t') ∨ t'.amount = reward c ∧ ∃ spotId, db.spotOf c = some spotId ∧ t'.spotId = some spotId) :
    SlotsExact reward db' rs := by
  constructor
  · intro t' ht' htype c hclaim
    rcases hrows t' ht' htype c hclaim with ⟨t, ht, hsame⟩ | ⟨hamount, spotId, hspot, hbooked⟩
    · obtain ⟨hamount, spotId, hspot, hbooked⟩ := h.rows t ht hsame.type c (hsame.claimId.trans hclaim)
      exact ⟨hsame.amount.symm.trans hamount, spotId, hkeeps.claims c spotId hspot, hsame.spotId.symm.trans hbooked⟩
    · exact ⟨hamount, spotId, hkeeps.claims c spotId hspot, hbooked⟩
  · intro r hr
    obtain ⟨hamount, spotId, hspot, hown⟩ := h.slots r hr
    exact ⟨hamount, spotId, hkeeps.claims r.claimId spotId hspot, hown⟩

end Holders

section Admission

variable {limits : ThrottleLimits} {reward : ℕ → ℕ} {released : Finset ℕ} {db : Db P} {md : SecurityMetadata P}
  {store : ThrottleStore P} {rs live : List Reservation} {claimId amount spotId : ℕ} {spot : Spot P}

/-- The claim, the amount and the Spot of a reservation are the same. -/
structure SameBooking (r r' : Reservation) : Prop where
  claimId : r.claimId = r'.claimId
  amount : r.amount = r'.amount
  spotId : r.spotId = r'.spotId

lemma SameBooking.refl (r : Reservation) : SameBooking r r := ⟨rfl, rfl, rfl⟩

/-- Every reservation in use is booked to the Spot of its claim. -/
def Booked (reward : ℕ → ℕ) (db : Db P) (rs : List Reservation) : Prop :=
  ∀ r ∈ rs, r.amount = reward r.claimId ∧ ∃ spotId : ℕ, db.spotOf r.claimId = some spotId ∧ r.spotId = spotId

lemma SlotsExact.booked (h : SlotsExact reward db (cleanReservations store.reservations)) :
    Booked reward db (liveReservations limits db store) := by
  intro r hr
  obtain ⟨hresolved, -⟩ := List.mem_filter.mp hr
  obtain ⟨stored, hstored, rfl⟩ := List.mem_map.mp hresolved
  obtain ⟨hamount, spotId, hspot, hown⟩ := h.slots stored hstored
  unfold Reservation.resolveSpot
  by_cases hbooked : 0 < stored.spotId
  · rw [if_pos hbooked]
    exact ⟨hamount, spotId, hspot, hown hbooked⟩
  · rw [if_neg hbooked]
    unfold Db.spotOf at hspot ⊢
    cases hclaim : db.getClaim stored.claimId with
    | none =>
      rw [hclaim] at hspot
      cases hspot
    | some claim =>
      dsimp only
      refine ⟨hamount, claim.spotId, ?_, rfl⟩
      rw [hclaim]
      rfl

lemma clean_toRaw_booking {r r' : Reservation} (h : r.toRaw.clean = some r') : SameBooking r r' := by
  obtain ⟨hclaim, hamount, -⟩ := clean_toRaw h
  refine ⟨hclaim, hamount, ?_⟩
  unfold RawReservation.clean at h
  dsimp only at h
  split_ifs at h
  all_goals
    obtain rfl := Option.some.inj h
    rfl

/-- The state the lifetime budget is weighed against. -/
def lifetimeState (db : Db P) (rs : List Reservation) (spotId : ℕ) : WindowState :=
  combinedWindowState db.now (lifetimeSpotPayoutRows db spotId) (rs.filter fun r => r.spotId = spotId)
    Reservation.reservedAt

lemma heldOn_le_lifetimeState
    (hrows : ∀ t ∈ db.trans, t.type = .claim → ∀ c, t.claimId = some c →
      t.amount = reward c ∧ ∃ spotId, db.spotOf c = some spotId ∧ t.spotId = some spotId)
    (hbooked : Booked reward db rs) :
    (heldOn db rs released spotId).card ≤ (lifetimeState db rs spotId).payoutCount ∧
      ∑ c ∈ heldOn db rs released spotId, reward c ≤ (lifetimeState db rs spotId).payoutAmount := by
  have hsub : heldOn db rs released spotId ⊆ ((lifetimeSpotPayoutRows db spotId).filterMap Trans.claimId).toFinset ∪
      ((rs.filter fun r => decide (r.spotId = (spotId : ℤ))).map Reservation.claimId).toFinset := by
    intro c hc
    obtain ⟨hholds, -, hspot⟩ := mem_heldOn.mp hc
    rw [Finset.mem_union, List.mem_toFinset, List.mem_toFinset]
    rcases hholds with ⟨t, ht, htype, hstatus, hclaim⟩ | ⟨r, hr, rfl⟩
    · obtain ⟨-, booked, hown, hrow⟩ := hrows t ht htype c hclaim
      have hsame : booked = spotId := Option.some.inj (hown.symm.trans hspot)
      subst hsame
      refine Or.inl (List.mem_filterMap.mpr ⟨t, List.mem_filter.mpr ⟨ht, ?_⟩, hclaim⟩)
      exact decide_eq_true ⟨htype, hstatus, hrow⟩
    · obtain ⟨-, booked, hown, hslot⟩ := hbooked r hr
      have hsame : booked = spotId := Option.some.inj (hown.symm.trans hspot)
      subst hsame
      exact Or.inr (List.mem_map_of_mem (List.mem_filter.mpr ⟨hr, decide_eq_true hslot⟩))
  obtain ⟨hcount, hsum⟩ := @PayoutWindow.combinedWindowState_counts reward
    (rs.filter fun r => decide (r.spotId = (spotId : ℤ))) db.now (lifetimeSpotPayoutRows db spotId) Reservation.reservedAt
    (fun t ht c hclaim => (hrows t (List.mem_of_mem_filter ht) (of_decide_eq_true (List.mem_filter.mp ht).2).1 c hclaim).1)
    (fun r hr => (hbooked r (List.mem_of_mem_filter hr)).1)
  exact ⟨(Finset.card_le_card hsub).trans hcount, (Finset.sum_le_sum_of_subset hsub).trans hsum⟩

lemma spotLifetimeDecision_allow {state : WindowState} (h : (spotLifetimeDecision limits state amount spot).allow = true) :
    state.payoutCount < max 1 spot.maxTotalClaims * limits.spotLifetimeAutomaticPercent / 100 ∧
      state.payoutAmount + amount ≤ spot.totalValue * limits.spotLifetimeAutomaticPercent / 100 := by
  unfold spotLifetimeDecision at h
  dsimp only at h
  split_ifs at h with hcount hamount
  omega

/-- An open Spot weighs a claim without a reservation against its lifetime budget. -/
lemma newReservationDecision_lifetime (hspot : db.getSpot spotId = some spot) (hopen : spot.usePassword = false)
    (hstandard : spot.prizeCount = none) (hfree : explicitlyReleased md claimId = false)
    (h : (newReservationDecision limits db md rs claimId amount spotId).allow = true) :
    (spotLifetimeDecision limits (lifetimeState db rs spotId) amount spot).allow = true := by
  have hisOpen : db.isOpenStandard spotId = true := by
    unfold Db.isOpenStandard
    rw [hspot]
    simp [hopen, hstandard]
  unfold newReservationDecision at h
  rw [hspot, hisOpen, hfree] at h
  dsimp only at h
  by_cases hglobal : (globalDecision limits db rs amount).allow = true
  · rw [if_pos (by simp [hglobal])] at h
    change (if (spotLifetimeDecision limits (lifetimeState db rs spotId) amount spot).allow = true then _ else _ :
      ThrottleDecision).allow = true at h
    by_cases hlifetime : (spotLifetimeDecision limits (lifetimeState db rs spotId) amount spot).allow = true
    · exact hlifetime
    · rw [if_neg hlifetime] at h
      exact absurd h hlifetime
  · rw [if_neg (by simp [hglobal])] at h
    exact absurd h hglobal

/-- What one call stores: reservations in use, and its own once the decision about it allows. -/
lemma reservePayoutSlot_books (claimId amount : ℕ) :
    (reservePayoutSlot limits db store claimId amount).1 = store ∨
    ∃ rs, cleanReservations (reservePayoutSlot limits db store claimId amount).1.reservations = writtenBack rs ∧
      ∀ r ∈ rs, (∃ l ∈ liveReservations limits db store, SameBooking l r) ∨
        (r.claimId = claimId ∧ r.amount = amount ∧ r.spotId = ((db.spotOf claimId).getD 0 : ℕ) ∧
          (newReservationDecision limits db store.metadata (liveReservations limits db store) claimId amount
            ((db.spotOf claimId).getD 0)).allow = true) := by
  unfold reservePayoutSlot
  by_cases hclaim : claimId = 0
  · rw [if_pos hclaim]
    exact Or.inl rfl
  rw [if_neg hclaim]
  by_cases hzero : amount = 0
  · rw [if_pos hzero]
    exact Or.inl rfl
  rw [if_neg hzero]
  refine Or.inr ⟨_, rfl, ?_⟩
  intro r hr
  dsimp only at hr
  split_ifs at hr
  · exact Or.inl ⟨r, hr, .refl r⟩
  · unfold admitExisting at hr
    dsimp only at hr
    split_ifs at hr
    · obtain ⟨i, hi, rfl⟩ := List.mem_iff_getElem.mp hr
      rw [List.length_modify] at hi
      refine Or.inl ⟨_, List.getElem_mem hi, ?_⟩
      rw [List.getElem_modify]
      split_ifs
      · exact ⟨rfl, rfl, rfl⟩
      · exact .refl _
    · exact Or.inl ⟨r, hr, .refl r⟩
    · exact Or.inl ⟨r, hr, .refl r⟩
  · unfold admitNew at hr
    dsimp only at hr
    by_cases hallow : (newReservationDecision limits db store.metadata (liveReservations limits db store) claimId amount
        (((db.getClaim claimId).map Claim.spotId).getD 0)).allow = true
    · rw [if_pos hallow] at hr
      rcases List.mem_append.mp hr with hr | hr
      · exact Or.inl ⟨r, hr, .refl r⟩
      · rw [List.mem_singleton] at hr
        subst hr
        exact Or.inr ⟨rfl, rfl, rfl, hallow⟩
    · rw [if_neg hallow] at hr
      exact Or.inl ⟨r, hr, .refl r⟩

/-- One call of the throttle keeps every open Spot within its lifetime budget. -/
lemma reservePayoutSlot_lifetime (hexact : SlotsExact reward db (cleanReservations store.reservations))
    (hfits : LifetimeFits limits reward released db (cleanReservations store.reservations))
    (hplaced : (db.getClaim claimId).isSome) (hreleased : explicitlyReleased store.metadata claimId = true → claimId ∈ released) :
    SlotsExact reward db (cleanReservations (reservePayoutSlot limits db store claimId (reward claimId)).1.reservations) ∧
      LifetimeFits limits reward released db
        (cleanReservations (reservePayoutSlot limits db store claimId (reward claimId)).1.reservations) := by
  obtain ⟨claim, hclaim⟩ := Option.isSome_iff_exists.mp hplaced
  have hspotOf : db.spotOf claimId = some claim.spotId := by
    unfold Db.spotOf
    rw [hclaim]
    rfl
  have hbooked : Booked reward db (liveReservations limits db store) := hexact.booked
  rcases @reservePayoutSlot_books P limits db store claimId (reward claimId) with hsame | ⟨rs, hstored, hrs⟩
  · rw [hsame]
    exact ⟨hexact, hfits⟩
  rw [hstored]
  rw [hspotOf] at hrs
  change ∀ r ∈ rs, _ ∨ (_ ∧ _ ∧ r.spotId = (claim.spotId : ℕ) ∧ (newReservationDecision limits db store.metadata
    (liveReservations limits db store) claimId (reward claimId) claim.spotId).allow = true) at hrs
  have hslots : ∀ r' ∈ writtenBack rs, r'.amount = reward r'.claimId ∧
      ∃ spotId : ℕ, db.spotOf r'.claimId = some spotId ∧ (0 < r'.spotId → r'.spotId = spotId) := by
    intro r' hr'
    obtain ⟨r, hr, hclean⟩ := mem_writtenBack hr'
    have hsame := clean_toRaw_booking hclean
    rw [← hsame.amount, ← hsame.claimId, ← hsame.spotId]
    rcases hrs r hr with ⟨l, hl, hkept⟩ | ⟨hown, hamount, hspot, -⟩
    · rw [← hkept.amount, ← hkept.claimId, ← hkept.spotId]
      obtain ⟨hamount, spotId, hplaced, hspot⟩ := hbooked l hl
      exact ⟨hamount, spotId, hplaced, fun _ => hspot⟩
    · rw [hamount, hown]
      exact ⟨rfl, claim.spotId, hspotOf, fun _ => hspot⟩
  refine ⟨⟨hexact.rows, hslots⟩, ?_⟩
  have hlive : ∀ {c spotId}, c ∈ heldOn db (liveReservations limits db store) released spotId →
      c ∈ heldOn db (cleanReservations store.reservations) released spotId := by
    intro c spotId hc
    obtain ⟨hholds, hfree, hspot⟩ := mem_heldOn.mp hc
    refine mem_heldOn.mpr ⟨?_, hfree, hspot⟩
    rcases hholds with hrow | ⟨l, hl, hown⟩
    · exact Or.inl hrow
    · obtain ⟨stored, hmem, hsame⟩ := mem_liveReservations hl
      exact Or.inr ⟨stored, hmem, hsame.claimId.trans hown⟩
  have hheld : ∀ {c spotId}, c ∈ heldOn db (writtenBack rs) released spotId →
      c ∈ heldOn db (liveReservations limits db store) released spotId ∨
        (c = claimId ∧ (newReservationDecision limits db store.metadata (liveReservations limits db store) claimId
          (reward claimId) claim.spotId).allow = true) := by
    intro c spotId hc
    obtain ⟨hholds, hfree, hspot⟩ := mem_heldOn.mp hc
    rcases hholds with hrow | ⟨r', hr', hown⟩
    · exact Or.inl (mem_heldOn.mpr ⟨Or.inl hrow, hfree, hspot⟩)
    · obtain ⟨r, hr, hclean⟩ := mem_writtenBack hr'
      have hsame := (clean_toRaw_booking hclean).claimId
      rcases hrs r hr with ⟨l, hl, hkept⟩ | ⟨hnew, -, -, hallow⟩
      · exact Or.inl (mem_heldOn.mpr ⟨Or.inr ⟨l, hl, hkept.claimId.trans (hsame.trans hown)⟩, hfree, hspot⟩)
      · exact Or.inr ⟨hown.symm.trans (hsame.symm.trans hnew), hallow⟩
  intro spotId spot hspot hopen hstandard
  by_cases hnew : claimId ∈ heldOn db (writtenBack rs) released spotId ∧
      claimId ∉ heldOn db (liveReservations limits db store) released spotId
  · obtain ⟨hnow, hbefore⟩ := hnew
    obtain ⟨-, hfree, hown⟩ := mem_heldOn.mp hnow
    obtain rfl : claim.spotId = spotId := Option.some.inj (hspotOf.symm.trans hown)
    have hallow := (hheld hnow).resolve_left hbefore
    have hunreleased : explicitlyReleased store.metadata claimId = false := by
      rw [Bool.eq_false_iff]
      exact fun hyes => hfree (hreleased hyes)
    obtain ⟨hcount, hluna⟩ := spotLifetimeDecision_allow
      (newReservationDecision_lifetime hspot hopen hstandard hunreleased hallow.2)
    obtain ⟨hcard, hsum⟩ := @heldOn_le_lifetimeState P reward released db (liveReservations limits db store)
      claim.spotId hexact.rows hbooked
    have hsub : heldOn db (writtenBack rs) released claim.spotId ⊆
        insert claimId (heldOn db (liveReservations limits db store) released claim.spotId) := by
      intro c hc
      rw [Finset.mem_insert]
      rcases hheld hc with hold | ⟨hsame, -⟩
      · exact Or.inr hold
      · exact Or.inl hsame
    apply FitsLifetime.mono _ hsub
    constructor
    · rw [Finset.card_insert_of_notMem hbefore]
      omega
    · rw [Finset.sum_insert hbefore]
      omega
  · apply (hfits spotId spot hspot hopen hstandard).mono
    intro c hc
    apply hlive
    rcases hheld hc with hold | ⟨rfl, -⟩
    · exact hold
    · by_contra hbefore
      exact hnew ⟨hc, hbefore⟩

end Admission

section Cap

variable {cfg : Settings P} {limits : ThrottleLimits} {reward : ℕ → ℕ} {released : Finset ℕ} {s : ThrottledOutbox P}

/-- A claim on record is submitted with the amount `reward` has for it, and its row is inserted while its
reservation is stored.  `released` has every claim an operator has released when it comes to the throttle. -/
def ThrottledOutbox.PaysWhileReserved (reward : ℕ → ℕ) (released : Finset ℕ) (s : ThrottledOutbox P) :
    ThrottledOp P → Prop
  | .reservePayoutSlot claimId amount => amount = reward claimId ∧ (s.outbox.db.getClaim claimId).isSome ∧
      (explicitlyReleased s.store.metadata claimId = true → claimId ∈ released)
  | .outbox (.elsewhere db) => KeepsTerms s.outbox.db db
  | .outbox (.reserve (.claimReward job) _) => job.amount = reward job.claimId ∧
      ∃ r ∈ cleanReservations s.store.reservations, r.claimId = job.claimId
  | .outbox _ | .records _ => True

/-- The claims of an open Spot that hold a slot, without those released, are within the percentage of its
capacity, and what they are owed is within the percentage of its pool. -/
structure LifetimeCapped (limits : ThrottleLimits) (reward : ℕ → ℕ) (released : Finset ℕ) (s : ThrottledOutbox P) :
    Prop where
  count : ∀ spotId spot, s.outbox.db.getSpot spotId = some spot → spot.usePassword = false → spot.prizeCount = none →
    (heldOn s.outbox.db s.stored released spotId).card ≤
      max 1 spot.maxTotalClaims * limits.spotLifetimeAutomaticPercent / 100
  amount : ∀ spotId spot, s.outbox.db.getSpot spotId = some spot → spot.usePassword = false → spot.prizeCount = none →
    ∑ claimId ∈ heldOn s.outbox.db s.stored released spotId, reward claimId ≤
      spot.totalValue * limits.spotLifetimeAutomaticPercent / 100
  paid : ∀ t ∈ s.outbox.db.trans, t.type = .claim → ∀ claimId, t.claimId = some claimId → t.amount = reward claimId
  reserved : ∀ r ∈ s.stored, r.amount = reward r.claimId

structure LifetimeSound (limits : ThrottleLimits) (reward : ℕ → ℕ) (released : Finset ℕ) (s : ThrottledOutbox P) :
    Prop where
  tasks : TasksExact s.outbox.db s.outbox.tasks
  exact : SlotsExact reward s.outbox.db s.stored
  fits : LifetimeFits limits reward released s.outbox.db s.stored

/-- Anything but a new payout. -/
lemma LifetimeSound.outside {outbox' : Outbox P} (h : LifetimeSound limits reward released s)
    (htasks : TasksExact outbox'.db outbox'.tasks) (hpayouts : PayoutsFrom s.outbox.db outbox'.db)
    (hkeeps : KeepsTerms s.outbox.db outbox'.db) : LifetimeSound limits reward released { s with outbox := outbox' } := by
  refine ⟨htasks, h.exact.move hkeeps ?_, h.fits.move h.exact hkeeps ?_⟩
  · intro t' ht' htype c _
    exact Or.inl (hpayouts t' ht' htype)
  · intro c hholds
    rcases hholds with ⟨t', ht', htype, hstatus, hclaim⟩ | hreserved
    · obtain ⟨t, ht, hsame⟩ := hpayouts t' ht' htype
      exact Or.inl ⟨t, ht, hsame.type, hsame.active hstatus, hsame.claimId.trans hclaim⟩
    · exact Or.inr hreserved

/-- A payout inserted while its reservation is stored adds no holder. -/
lemma LifetimeSound.pay (h : LifetimeSound limits reward released s) {job : PayoutJob} (token : String)
    (hamount : job.amount = reward job.claimId) (hreserved : ∃ r ∈ s.stored, r.claimId = job.claimId) :
    LifetimeSound limits reward released
      { s with outbox := s.outbox.step cfg (.reserve (.claimReward job) token) } := by
  obtain ⟨htasks, -, hrows⟩ := @TasksExact.pay P cfg s.outbox h.tasks job token
  have hkeeps : KeepsTerms s.outbox.db (s.outbox.step cfg (.reserve (.claimReward job) token)).db :=
    outbox_keepsTerms s.outbox (by simp)
  generalize s.outbox.step cfg (.reserve (.claimReward job) token) = outbox' at htasks hrows hkeeps ⊢
  refine ⟨htasks, h.exact.move hkeeps ?_, h.fits.move h.exact hkeeps ?_⟩
  · intro t ht htype c hclaim
    rcases hrows t ht with hold | hnew
    · exact Or.inl ⟨t, hold, .refl htype⟩
    · obtain ⟨claim, hfound, hbooked⟩ := hnew.booked
      have hsame : job.claimId = c := Option.some.inj (hnew.claimId.symm.trans hclaim)
      subst hsame
      refine Or.inr ⟨hnew.amount.trans hamount, claim.spotId, ?_, hbooked⟩
      unfold Db.spotOf
      rw [hfound]
      rfl
  · intro c hholds
    rcases hholds with ⟨t, ht, htype, hstatus, hclaim⟩ | hslot
    · rcases hrows t ht with hold | hnew
      · exact Or.inl ⟨t, hold, htype, hstatus, hclaim⟩
      · obtain ⟨r, hr, hown⟩ := hreserved
        have hsame : job.claimId = c := Option.some.inj (hnew.claimId.symm.trans hclaim)
        exact Or.inr ⟨r, hr, hown.trans hsame⟩
    · exact Or.inr hslot

lemma LifetimeSound.step (op : ThrottledOp P) (hop : s.PaysWhileReserved reward released op)
    (h : LifetimeSound limits reward released s) : LifetimeSound limits reward released (s.step cfg limits op) := by
  cases op with
  | reservePayoutSlot claimId amount =>
    obtain ⟨rfl, hplaced, hreleased⟩ := hop
    obtain ⟨hexact, hfits⟩ := reservePayoutSlot_lifetime h.exact h.fits hplaced hreleased
    exact ⟨h.tasks, hexact, hfits⟩
  | records metadata => exact ⟨h.tasks, h.exact, h.fits⟩
  | outbox op =>
    cases op with
    | elsewhere db =>
      have hledger := h.tasks.ledger
      have hkeeps : KeepsTerms s.outbox.db { db with trans := s.outbox.db.trans, transSeq := s.outbox.db.transSeq } :=
        KeepsTerms.then hop (.of_eq rfl rfl)
      exact h.outside ⟨⟨hledger.keys, hledger.fresh, hledger.hashes, hledger.placed, hledger.active⟩, h.tasks.known,
        h.tasks.exact⟩ (.of_trans_eq rfl) hkeeps
    | reserve leg token =>
      by_cases hpay : ∃ job, leg = .claimReward job
      · obtain ⟨job, rfl⟩ := hpay
        exact h.pay token hop.1 hop.2
      · have hkept : OutboxKept s.outbox (s.outbox.step cfg (.reserve leg token)) :=
          h.tasks.reserveLeg token fun job hleg => hpay ⟨job, hleg⟩
        exact h.outside hkept.tasks hkept.payouts (outbox_keepsTerms s.outbox (by simp))
    | deposit userId spotId amount fromAddress txHash toAddress =>
      have hkept : OutboxKept s.outbox (s.outbox.step cfg (.deposit userId spotId amount fromAddress txHash toAddress)) :=
        h.tasks.step (by simp) (by simp)
      exact h.outside hkept.tasks hkept.payouts (outbox_keepsTerms s.outbox (by simp))
    | readPending transId =>
      have hkept : OutboxKept s.outbox (s.outbox.step cfg (.readPending transId)) := h.tasks.step (by simp) (by simp)
      exact h.outside hkept.tasks hkept.payouts (outbox_keepsTerms s.outbox (by simp))
    | readIntent transId =>
      have hkept : OutboxKept s.outbox (s.outbox.step cfg (.readIntent transId)) := h.tasks.step (by simp) (by simp)
      exact h.outside hkept.tasks hkept.payouts (outbox_keepsTerms s.outbox (by simp))
    | resume index answer =>
      have hkept : OutboxKept s.outbox (s.outbox.step cfg (.resume index answer)) := h.tasks.step (by simp) (by simp)
      exact h.outside hkept.tasks hkept.payouts (outbox_keepsTerms s.outbox (by simp))
    | crash =>
      have hkept : OutboxKept s.outbox (s.outbox.step cfg .crash) := h.tasks.step (by simp) (by simp)
      exact h.outside hkept.tasks hkept.payouts (outbox_keepsTerms s.outbox (by simp))

lemma lifetimeSound_initial {db : Db P} {store : ThrottleStore P} (hempty : db.trans = [])
    (hstore : cleanReservations store.reservations = []) :
    LifetimeSound limits reward released (ThrottledOutbox.initial db store) := by
  have hwindowed : Windowed limits reward (ThrottledOutbox.initial db store) := windowed_initial hempty hstore
  have hstored : (ThrottledOutbox.initial db store).stored = [] := hstore
  have htrans : (ThrottledOutbox.initial db store).outbox.db.trans = [] := hempty
  refine ⟨hwindowed.tasks, ⟨?_, ?_⟩, ?_⟩
  · intro t ht
    rw [htrans] at ht
    cases ht
  · intro r hr
    rw [hstored] at hr
    cases hr
  · intro spotId spot _ _ _
    have hnone : heldOn (ThrottledOutbox.initial db store).outbox.db (ThrottledOutbox.initial db store).stored released
        spotId = ∅ := by
      unfold heldOn
      rw [hstored, htrans]
      rfl
    rw [hnone]
    exact .empty limits reward spot

/-- From an empty ledger and no reservation, over every order of reservations, payouts, failures, retries and
restarts in which a payout is inserted while its claim is reserved. -/
theorem open_spot_lifetime_budget {db : Db P} {store : ThrottleStore P} {ops : List (ThrottledOp P)}
    (hempty : db.trans = []) (hstore : cleanReservations store.reservations = [])
    (hpays : Admissible (ThrottledOutbox.step cfg limits) (ThrottledOutbox.PaysWhileReserved reward released)
      (ThrottledOutbox.initial db store) ops) :
    LifetimeCapped limits reward released
      (run (ThrottledOutbox.step cfg limits) (ThrottledOutbox.initial db store) ops) := by
  have hrun : LifetimeSound limits reward released
      (run (ThrottledOutbox.step cfg limits) (ThrottledOutbox.initial db store) ops) :=
    run_invariant (fun _ op hop h => h.step op hop) hpays (lifetimeSound_initial hempty hstore)
  refine ⟨?_, ?_, fun t ht htype c hclaim => (hrun.exact.rows t ht htype c hclaim).1, fun r hr => (hrun.exact.slots r hr).1⟩
  · intro spotId spot hspot hopen hstandard
    exact (hrun.fits spotId spot hspot hopen hstandard).1
  · intro spotId spot hspot hopen hstandard
    exact (hrun.fits spotId spot hspot hopen hstandard).2

/-- Two winners of one Spot for two, of which half is paid without a person. -/
def twoPlaces : Db Unit := { twoWinners with
  spots := [{ draftOf 1 1 "NQ03 SPOT" with status := .published, maxTotalClaims := 2 }] }

/-- The second claim is refused two days later too. -/
def firstOfTwo : List (ThrottledOp Unit) :=
  [ .reservePayoutSlot 1 20,
    .outbox (.reserve (.claimReward ⟨1, 20⟩) "token"),
    .outbox (.elsewhere { twoPlaces with now := 200000 }),
    .reservePayoutSlot 2 20 ]

theorem open_spot_lifetime_budget_firstOfTwo :
    LifetimeCapped {} (fun _ => 20) ∅
        (run (ThrottledOutbox.step asciiText {}) (ThrottledOutbox.initial twoPlaces {}) firstOfTwo) ∧
      (heldOn (run (ThrottledOutbox.step asciiText {}) (ThrottledOutbox.initial twoPlaces {}) firstOfTwo).outbox.db
        (run (ThrottledOutbox.step asciiText {}) (ThrottledOutbox.initial twoPlaces {}) firstOfTwo).stored ∅ 1).card = 1 := by
  refine ⟨@open_spot_lifetime_budget _ _ _ (fun _ => 20) ∅ _ _ _ rfl rfl ?_, by decide +kernel⟩
  refine ⟨⟨rfl, rfl, ?_⟩, ⟨rfl, ?_⟩, ?_, ⟨rfl, rfl, ?_⟩, trivial⟩
  · decide +kernel
  · decide +kernel
  · exact .of_eq rfl rfl
  · decide +kernel

end Cap

end NimHunt
