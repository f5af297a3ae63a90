import NimHunt.ClaimPayoutThrottle
import NimHunt.Lib.Runs

/-!
# What an admitted payout meets at the gate

The throttle and the gate talk through one security record.  When an admission leaves the record
free of a hold the throttle wrote, for one call and along a run of every writer of the records.
-/

namespace NimHunt

open Lib

variable {P : Type}

/-- The reasons under which the throttle puts a claim on hold. -/
def throttleHoldReasons : List String :=
  ["individual_automatic_payout_limit", "open_spot_payout_count_limit", "open_spot_payout_amount_limit",
    "within_open_spot_payout_limits", "open_spot_lifetime_count_limit", "open_spot_lifetime_amount_limit"]

/-- The record is on a hold the throttle wrote. -/
def onThrottleHold (md : SecurityMetadata P) (claimId : ℕ) : Bool :=
  (md.claimRecords claimId).any fun record =>
    record.manualReview && record.manualReviewReason.any (· ∈ throttleHoldReasons)

/-- A manual-review answer of the gate under one of the throttle's reasons. -/
def PayoutSecurityDecision.isThrottleHold (decision : PayoutSecurityDecision) : Bool :=
  !decision.allow && decision.manualReview && decide (decision.reason ∈ throttleHoldReasons)

/-- The gate holds the claim because of what the throttle wrote. -/
def gateHoldsForThrottle (cfg : Settings P) (sec : SecuritySettings P) (db : Db P) (md : SecurityMetadata P)
    (claimId : ℕ) : Bool :=
  (payoutSecurityDecision cfg sec db md claimId).2.isThrottleHold

/-- A first reservation for a recorded claim of an open standard Spot that no operator released. -/
def takesFirstOpenSpotSlot (limits : ThrottleLimits) (db : Db P) (store : ThrottleStore P) (claimId : ℕ) : Bool :=
  (store.metadata.claimRecords claimId).isSome &&
  !payoutMaterialised limits db claimId &&
  !(liveReservations limits db store).any (fun r => r.claimId = claimId) &&
  db.isOpenStandard (((db.getClaim claimId).map Claim.spotId).getD 0) &&
  !explicitlyReleased store.metadata claimId

/-- The states in which an admission is an admission. -/
def AdmissionIsClean (limits : ThrottleLimits) (db : Db P) (store : ThrottleStore P) (claimId : ℕ) : Prop :=
  onThrottleHold store.metadata claimId = false ∧ takesFirstOpenSpotSlot limits db store claimId = false

section Gate

variable {cfg : Settings P} {sec : SecuritySettings P} {db : Db P} {md : SecurityMetadata P} {claimId : ℕ}

lemma gateHoldsForThrottle_eq {claim : Claim P} (hclaim : db.getClaim claimId = some claim) :
    gateHoldsForThrottle cfg sec db md claimId = onThrottleHold md claimId := by
  unfold gateHoldsForThrottle payoutSecurityDecision onThrottleHold
  rw [hclaim]
  cases hrecord : md.claimRecords claimId with
  | none => cases cfg.publicDeployment <;> rfl
  | some record =>
    rw [Option.any_some]
    cases hreview : record.manualReview with
    | true =>
      rcases hreason : record.manualReviewReason with _ | reason
      · simp [PayoutSecurityDecision.isThrottleHold, throttleHoldReasons, hreview, hreason]
      · by_cases hempty : reason = ""
        · simp [PayoutSecurityDecision.isThrottleHold, throttleHoldReasons, hreview, hreason, hempty]
        · simp [PayoutSecurityDecision.isThrottleHold, hreview, hreason]
    | false =>
      simp only [hreview, Bool.false_eq_true, if_false, Bool.false_and]
      split_ifs <;> rfl

lemma onThrottleHold_setRecord {record : ClaimEvent P} {marked : ℕ} (hne : claimId ≠ marked) :
    onThrottleHold (md.setRecord marked record) claimId = onThrottleHold md claimId := by
  simp [onThrottleHold, Function.update_of_ne hne]

lemma onThrottleHold_setRecord_self {record : ClaimEvent P} :
    onThrottleHold (md.setRecord claimId record) claimId =
      (record.manualReview && record.manualReviewReason.any (· ∈ throttleHoldReasons)) := by
  simp [onThrottleHold]

end Gate

section Reserve

variable {limits : ThrottleLimits} {db : Db P} {md : SecurityMetadata P} {store store' : ThrottleStore P}
  {reservations : List Reservation} {claimId amount spotId : ℕ} {decision : ThrottleDecision}

/-- A hold touches no record but the claim's own. -/
lemma onThrottleHold_holdForReview_of_ne {other : ℕ} {reason : String} {now : ℕ}
    {details : Option ManualReviewDetails} (hne : other ≠ claimId) :
    onThrottleHold (holdForReview md claimId reason now details) other = onThrottleHold md other := by
  unfold holdForReview
  cases md.claimRecords claimId with
  | none => rfl
  | some record => exact onThrottleHold_setRecord hne

lemma onThrottleHold_holdForReview {reason : String} {now : ℕ} {details : Option ManualReviewDetails}
    (hreason : reason ∈ throttleHoldReasons) :
    onThrottleHold (holdForReview md claimId reason now details) claimId =
      (md.claimRecords claimId).isSome := by
  unfold holdForReview
  cases hrecord : md.claimRecords claimId with
  | none => simp [onThrottleHold, hrecord]
  | some record =>
    dsimp only
    rw [onThrottleHold_setRecord_self]
    simp [hreason]

/-- The global limits ask for review only when they refuse. -/
lemma globalDecision_manualReview (hallow : (globalDecision limits db reservations amount).allow = true) :
    (globalDecision limits db reservations amount).manualReview = false := by
  unfold globalDecision throttleDecision at hallow ⊢
  dsimp only at hallow ⊢
  split_ifs at hallow ⊢
  rfl

lemma globalDecision_reason (hreview : (globalDecision limits db reservations amount).manualReview = true) :
    (globalDecision limits db reservations amount).reason ∈ throttleHoldReasons := by
  unfold globalDecision throttleDecision at hreview ⊢
  dsimp only at hreview ⊢
  split_ifs at hreview ⊢
  simp [throttleHoldReasons]

/-- The open-Spot window asks for review whatever it decides. -/
lemma spotWindowDecision_manualReview {state : WindowState} :
    (spotWindowDecision limits state amount spotId).manualReview = true := by
  unfold spotWindowDecision
  dsimp only
  split_ifs <;> rfl

lemma spotWindowDecision_reason {state : WindowState} :
    (spotWindowDecision limits state amount spotId).reason ∈ throttleHoldReasons := by
  unfold spotWindowDecision
  dsimp only
  split_ifs <;> simp [throttleHoldReasons]

lemma spotLifetimeDecision_reason {state : WindowState} {spot : Spot P}
    (hrefused : (spotLifetimeDecision limits state amount spot).allow = false) :
    (spotLifetimeDecision limits state amount spot).reason ∈ throttleHoldReasons := by
  unfold spotLifetimeDecision at hrefused ⊢
  dsimp only at hrefused ⊢
  split_ifs at hrefused ⊢ <;> simp [throttleHoldReasons]

/-- Every hold the throttle writes has one of its reasons. -/
lemma newReservationDecision_reason
    (hreview : (newReservationDecision limits db md reservations claimId amount spotId).manualReview = true) :
    (newReservationDecision limits db md reservations claimId amount spotId).reason ∈ throttleHoldReasons := by
  unfold newReservationDecision at hreview ⊢
  cases hspot : db.getSpot spotId with
  | none =>
    rw [hspot] at hreview
    exact globalDecision_reason hreview
  | some spot =>
    rw [hspot] at hreview
    dsimp only at hreview ⊢
    split_ifs at hreview ⊢ with hopen hlifetime
    · exact spotWindowDecision_reason
    · exact spotLifetimeDecision_reason (by simpa using hlifetime)
    · exact globalDecision_reason hreview

/-- An admitted first reservation asks for review exactly where the open-Spot budgets apply. -/
lemma newReservationDecision_manualReview
    (hallow : (newReservationDecision limits db md reservations claimId amount spotId).allow = true) :
    (newReservationDecision limits db md reservations claimId amount spotId).manualReview =
      (db.isOpenStandard spotId && !explicitlyReleased md claimId) := by
  unfold newReservationDecision at hallow ⊢
  cases hspot : db.getSpot spotId with
  | none =>
    rw [hspot] at hallow
    have hclosed : db.isOpenStandard spotId = false := by simp [Db.isOpenStandard, hspot]
    rw [hclosed]
    exact globalDecision_manualReview hallow
  | some spot =>
    rw [hspot] at hallow
    dsimp only at hallow ⊢
    by_cases hglobal : (globalDecision limits db reservations amount).allow = true
    · by_cases hbudget : (db.isOpenStandard spotId && !explicitlyReleased md claimId) = true
      · have hopen : ((globalDecision limits db reservations amount).allow && db.isOpenStandard spotId &&
            !explicitlyReleased md claimId) = true := by
          rw [hglobal, Bool.true_and]
          exact hbudget
        rw [if_pos hopen] at hallow ⊢
        split_ifs at hallow ⊢ with hlifetime
        · rw [hbudget]
          exact spotWindowDecision_manualReview
        · exact absurd hallow hlifetime
      · have hclosed : ¬((globalDecision limits db reservations amount).allow && db.isOpenStandard spotId &&
            !explicitlyReleased md claimId) = true := by
          rw [hglobal, Bool.true_and]
          exact hbudget
        rw [if_neg hclosed]
        rw [Bool.not_eq_true] at hbudget
        rw [hbudget]
        exact globalDecision_manualReview hglobal
    · simp only [Bool.not_eq_true] at hglobal
      simp [hglobal] at hallow

/-- The three branches of one answered call. -/
lemma reservePayoutSlot_cases (h : reservePayoutSlot limits db store claimId amount = (store', .ok decision)) :
    let reservations := liveReservations limits db store
    let spotId := ((db.getClaim claimId).map Claim.spotId).getD 0
    (payoutMaterialised limits db claimId = true ∧ store'.metadata = store.metadata ∧ decision.allow = true) ∨
    (payoutMaterialised limits db claimId = false ∧ (reservations.any fun r => r.claimId = claimId) = true ∧
      store'.metadata = (admitExisting limits db store.metadata reservations claimId amount spotId).metadata ∧
      decision = (admitExisting limits db store.metadata reservations claimId amount spotId).decision) ∨
    (payoutMaterialised limits db claimId = false ∧ (reservations.any fun r => r.claimId = claimId) = false ∧
      store'.metadata = (admitNew limits db store.metadata reservations claimId amount spotId).metadata ∧
      decision = (admitNew limits db store.metadata reservations claimId amount spotId).decision) := by
  unfold reservePayoutSlot at h
  by_cases hid : claimId = 0
  · simp [hid] at h
  by_cases hamount : amount = 0
  · simp [hid, hamount] at h
  rw [if_neg hid, if_neg hamount] at h
  obtain ⟨hstore, hdecision⟩ := Prod.mk.injEq .. ▸ h
  subst hstore
  rw [Except.ok.injEq] at hdecision
  subst hdecision
  dsimp only
  by_cases hmaterialised : payoutMaterialised limits db claimId = true
  · left
    rw [if_pos hmaterialised]
    exact ⟨hmaterialised, rfl, rfl⟩
  · right
    rw [if_neg hmaterialised]
    rw [Bool.not_eq_true] at hmaterialised
    by_cases hexisting : ((liveReservations limits db store).any fun r => r.claimId = claimId) = true
    · left
      rw [if_pos hexisting]
      exact ⟨hmaterialised, hexisting, rfl, rfl⟩
    · right
      rw [if_neg hexisting]
      rw [Bool.not_eq_true] at hexisting
      exact ⟨hmaterialised, hexisting, rfl, rfl⟩

/-- What an admission leaves of the throttle's hold on the claim. -/
lemma onThrottleHold_of_admitted (h : reservePayoutSlot limits db store claimId amount = (store', .ok decision))
    (hallow : decision.allow = true) :
    onThrottleHold store'.metadata claimId =
      (onThrottleHold store.metadata claimId || takesFirstOpenSpotSlot limits db store claimId) := by
  rcases reservePayoutSlot_cases h with ⟨hmat, hmd, -⟩ | ⟨hmat, hex, hmd, hd⟩ | ⟨hmat, hex, hmd, hd⟩
  · simp [hmd, takesFirstOpenSpotSlot, hmat]
  · rw [hmd]
    rw [hd] at hallow
    have hkept : (admitExisting limits db store.metadata (liveReservations limits db store) claimId amount
        (((db.getClaim claimId).map Claim.spotId).getD 0)).metadata = store.metadata := by
      unfold admitExisting at hallow ⊢
      dsimp only at hallow ⊢
      split_ifs at hallow ⊢ with hadmitted hreview
      · rfl
      · exact absurd hallow hadmitted
      · rfl
    rw [hkept]
    simp [takesFirstOpenSpotSlot, hex]
  · rw [hmd]
    rw [hd] at hallow
    have hadmitted : (newReservationDecision limits db store.metadata (liveReservations limits db store) claimId
        amount (((db.getClaim claimId).map Claim.spotId).getD 0)).allow = true := by
      unfold admitNew at hallow
      dsimp only at hallow
      split_ifs at hallow with hadmitted <;> first | exact hadmitted | exact absurd hallow hadmitted
    have hreview := newReservationDecision_manualReview hadmitted
    unfold admitNew
    dsimp only
    rw [if_pos hadmitted]
    dsimp only
    rw [hreview]
    by_cases hbudget : (db.isOpenStandard (((db.getClaim claimId).map Claim.spotId).getD 0) &&
        !explicitlyReleased store.metadata claimId) = true
    · rw [if_pos hbudget, onThrottleHold_holdForReview (newReservationDecision_reason (hreview.trans hbudget))]
      have hslot : takesFirstOpenSpotSlot limits db store claimId =
          (store.metadata.claimRecords claimId).isSome := by
        unfold takesFirstOpenSpotSlot
        rw [hmat, hex, Bool.and_assoc _ (db.isOpenStandard _), hbudget]
        simp
      rw [hslot]
      cases hrecord : store.metadata.claimRecords claimId with
      | none => simp [onThrottleHold, hrecord]
      | some record => simp
    · rw [if_neg hbudget]
      have hslot : takesFirstOpenSpotSlot limits db store claimId = false := by
        rw [Bool.not_eq_true] at hbudget
        unfold takesFirstOpenSpotSlot
        rw [Bool.and_assoc _ (db.isOpenStandard _), hbudget]
        simp
      rw [hslot, Bool.or_false]

lemma admitExisting_frame {other : ℕ} (hne : other ≠ claimId) :
    onThrottleHold (admitExisting limits db md reservations claimId amount spotId).metadata other =
      onThrottleHold md other := by
  unfold admitExisting
  dsimp only
  by_cases hallow : (existingReservationDecision limits db md reservations claimId amount spotId).allow = true
  · rw [if_pos hallow]
  · rw [if_neg hallow]
    split_ifs
    · exact onThrottleHold_holdForReview_of_ne hne
    · rfl

lemma admitNew_frame {other : ℕ} (hne : other ≠ claimId) :
    onThrottleHold (admitNew limits db md reservations claimId amount spotId).metadata other =
      onThrottleHold md other := by
  unfold admitNew
  generalize newReservationDecision limits db md reservations claimId amount spotId = decision
  dsimp only
  cases decision.allow <;> cases decision.manualReview
  · rfl
  · exact onThrottleHold_holdForReview_of_ne hne
  · rfl
  · exact onThrottleHold_holdForReview_of_ne hne

lemma reservePayoutSlot_error {e : Raised}
    (h : reservePayoutSlot limits db store claimId amount = (store', .error e)) : store' = store := by
  unfold reservePayoutSlot at h
  by_cases hid : claimId = 0
  · rw [if_pos hid, Prod.mk.injEq] at h
    exact h.1.symm
  · by_cases hamount : amount = 0
    · rw [if_neg hid, if_pos hamount, Prod.mk.injEq] at h
      exact h.1.symm
    · rw [if_neg hid, if_neg hamount] at h
      simp at h

variable (limits db store amount) in
/-- A call changes no other claim's hold. -/
lemma onThrottleHold_reserve_of_ne {other : ℕ} (hne : other ≠ claimId) :
    onThrottleHold (reservePayoutSlot limits db store claimId amount).1.metadata other =
      onThrottleHold store.metadata other := by
  rcases h : reservePayoutSlot limits db store claimId amount with ⟨store', e | decision⟩
  · rw [reservePayoutSlot_error h]
  · rcases reservePayoutSlot_cases h with ⟨-, hmd, -⟩ | ⟨-, -, hmd, -⟩ | ⟨-, -, hmd, -⟩
    · rw [hmd]
    · rw [hmd]
      exact admitExisting_frame hne
    · rw [hmd]
      exact admitNew_frame hne

end Reserve

/-- Why a burst detector marks claims. -/
inductive BurstReason
  | coordinatedNewIdentityExactLocation | coordinatedNewIdentityGeographic
  deriving DecidableEq, Repr

def BurstReason.text : BurstReason → String
  | .coordinatedNewIdentityExactLocation => "coordinated_new_identity_exact_location_burst"
  | .coordinatedNewIdentityGeographic => "coordinated_new_identity_geographic_burst"

/-- What writes security records: the throttle, the gate, the recorder of a claim, the burst
detectors and an operator, each on the database of its moment. -/
inductive RecordWrite (P : Type)
  | reserve (db : Db P) (claimId amount : ℕ)
  | gate (db : Db P) (claimId : ℕ)
  | record (event : ClaimEvent P)
  | burst (claimIds : List ℕ) (reason : BurstReason) (now : ℕ)
  | release (claimId now : ℕ)

/-- The store, and whether the latest throttle decision about a claim was a refusal. -/
structure ThrottleHistory (P : Type) where
  store : ThrottleStore P
  latestRefused : ℕ → Option Bool

def ThrottleHistory.step (cfg : Settings P) (sec : SecuritySettings P) (limits : ThrottleLimits)
    (h : ThrottleHistory P) : RecordWrite P → ThrottleHistory P
  | .reserve db claimId amount =>
    match reservePayoutSlot limits db h.store claimId amount with
    | (store, .ok decision) => ⟨store, Function.update h.latestRefused claimId (some (!decision.allow))⟩
    | (store, .error _) => { h with store := store }
  | .gate db claimId =>
    { h with store.metadata := (payoutSecurityDecision cfg sec db h.store.metadata claimId).1 }
  | .record event =>
    { h with store.metadata := h.store.metadata.setRecord event.claimId { event with manualReview := false } }
  | .burst claimIds reason now =>
    { h with store.metadata := h.store.metadata.markManualReview claimIds reason.text now }
  | .release claimId now =>
    { h with store.metadata := (h.store.metadata.releaseClaimManualReview claimId now).1 }

/-- Every reservation that is admitted is admitted in a clean state. -/
def admitsCleanly (limits : ThrottleLimits) (h : ThrottleHistory P) : RecordWrite P → Prop
  | .reserve db claimId amount =>
    ∀ store decision, reservePayoutSlot limits db h.store claimId amount = (store, .ok decision) →
      decision.allow = true → AdmissionIsClean limits db h.store claimId
  | _ => True

/-- On hold by the throttle only after a refusal. -/
def HeldOnlyAfterRefusal (h : ThrottleHistory P) : Prop :=
  ∀ claimId, onThrottleHold h.store.metadata claimId = true → h.latestRefused claimId = some true

section History

variable {cfg : Settings P} {sec : SecuritySettings P} {limits : ThrottleLimits} {md : SecurityMetadata P}
  {claimId : ℕ}

/-- The gate's own holds are not the throttle's. -/
lemma onThrottleHold_gate {db : Db P} {asked : ℕ}
    (h : onThrottleHold (payoutSecurityDecision cfg sec db md asked).1 claimId = true) :
    onThrottleHold md claimId = true := by
  unfold payoutSecurityDecision at h
  cases hclaim : db.getClaim asked with
  | none => simpa [hclaim] using h
  | some claim =>
    cases hrecord : md.claimRecords asked with
    | none => simpa [hclaim, hrecord] using h
    | some record =>
      simp only [hclaim, hrecord] at h
      by_cases hsame : claimId = asked
      · subst hsame
        split_ifs at h
        · exact h
        · simp [onThrottleHold_setRecord_self, throttleHoldReasons] at h
        · simp [onThrottleHold_setRecord_self, throttleHoldReasons] at h
        · exact h
        · exact h
      · split_ifs at h
        · exact h
        · rwa [onThrottleHold_setRecord hsame] at h
        · rwa [onThrottleHold_setRecord hsame] at h
        · exact h
        · exact h

lemma onThrottleHold_markRecord {reason : BurstReason} {now marked : ℕ}
    (h : onThrottleHold (SecurityMetadata.markRecord reason.text now md marked) claimId = true) :
    onThrottleHold md claimId = true := by
  unfold SecurityMetadata.markRecord at h
  cases hrecord : md.claimRecords marked with
  | none => simpa [hrecord] using h
  | some record =>
    rw [hrecord] at h
    by_cases hsame : claimId = marked
    · subst hsame
      cases reason <;> simp [onThrottleHold_setRecord_self, throttleHoldReasons, BurstReason.text] at h
    · rwa [onThrottleHold_setRecord hsame] at h

lemma onThrottleHold_mark {reason : BurstReason} {claimIds : List ℕ} {now : ℕ}
    (h : onThrottleHold (md.markManualReview claimIds reason.text now) claimId = true) :
    onThrottleHold md claimId = true := by
  unfold SecurityMetadata.markManualReview at h
  by_cases hempty : claimIds = []
  · rwa [if_pos hempty] at h
  · rw [if_neg hempty] at h
    generalize ((claimIds.filter (0 < ·)).dedup).insertionSort (· ≤ ·) = clean at h
    change onThrottleHold (clean.foldl (SecurityMetadata.markRecord reason.text now) md) claimId = true at h
    induction clean generalizing md with
    | nil => exact h
    | cons marked rest ih => exact onThrottleHold_markRecord (ih h)

lemma onThrottleHold_release {released now : ℕ}
    (h : onThrottleHold (md.releaseClaimManualReview released now).1 claimId = true) :
    onThrottleHold md claimId = true := by
  unfold SecurityMetadata.releaseClaimManualReview at h
  cases hrecord : md.claimRecords released with
  | none => simpa [hrecord] using h
  | some record =>
    rw [hrecord] at h
    by_cases hsame : claimId = released
    · subst hsame
      simp [onThrottleHold_setRecord_self] at h
    · rwa [onThrottleHold_setRecord hsame] at h

/-- One write keeps a throttle hold tied to a refusal, unless it admits in an unclean state. -/
lemma heldOnlyAfterRefusal_step (h : ThrottleHistory P) (write : RecordWrite P)
    (hclean : admitsCleanly limits h write) (hheld : HeldOnlyAfterRefusal h) :
    HeldOnlyAfterRefusal (h.step cfg sec limits write) := by
  intro claimId hhold
  cases write with
  | reserve db asked amount =>
    rcases hreserve : reservePayoutSlot limits db h.store asked amount with ⟨store, e | decision⟩
    · simp only [ThrottleHistory.step, hreserve] at hhold ⊢
      rw [reservePayoutSlot_error hreserve] at hhold
      exact hheld claimId hhold
    · simp only [ThrottleHistory.step, hreserve] at hhold ⊢
      by_cases hsame : claimId = asked
      · subst hsame
        rw [Function.update_self]
        cases hallow : decision.allow with
        | false => rfl
        | true =>
          obtain ⟨hfree, hslot⟩ := hclean store decision hreserve hallow
          rw [onThrottleHold_of_admitted hreserve hallow, hfree, hslot] at hhold
          simp at hhold
      · rw [Function.update_of_ne hsame]
        have hframe := onThrottleHold_reserve_of_ne limits db h.store amount hsame
        rw [hreserve] at hframe
        exact hheld claimId (hframe ▸ hhold)
  | gate db asked => exact hheld claimId (onThrottleHold_gate hhold)
  | record event =>
    by_cases hsame : claimId = event.claimId
    · subst hsame
      simp [ThrottleHistory.step, onThrottleHold_setRecord_self] at hhold
    · exact hheld claimId (onThrottleHold_setRecord hsame ▸ hhold)
  | burst claimIds reason now => exact hheld claimId (onThrottleHold_mark hhold)
  | release released now => exact hheld claimId (onThrottleHold_release hhold)

end History

/-- An admitted payout passes the gate as far as the throttle is concerned exactly when the claim is
not on a throttle hold already and does not take the first slot of an open Spot; and along a run of
such admissions a claim is on a throttle hold only after a refusal. -/
theorem admitted_passes_iff_admissionIsClean (cfg : Settings P) (sec : SecuritySettings P)
    (limits : ThrottleLimits) :
    (∀ (db later : Db P) (store store' : ThrottleStore P) (claim : Claim P) (claimId amount : ℕ)
        (decision : ThrottleDecision), later.getClaim claimId = some claim →
      reservePayoutSlot limits db store claimId amount = (store', .ok decision) → decision.allow = true →
      (gateHoldsForThrottle cfg sec later store'.metadata claimId = false ↔
        AdmissionIsClean limits db store claimId)) ∧
    ∀ (h : ThrottleHistory P) (writes : List (RecordWrite P)), HeldOnlyAfterRefusal h →
      Admissible (ThrottleHistory.step cfg sec limits) (admitsCleanly limits) h writes →
      HeldOnlyAfterRefusal (run (ThrottleHistory.step cfg sec limits) h writes) := by
  refine ⟨?_, ?_⟩
  · intro db later store store' claim claimId amount decision hclaim hreserve hallow
    rw [gateHoldsForThrottle_eq hclaim, onThrottleHold_of_admitted hreserve hallow, Bool.or_eq_false_iff]
    rfl
  · intro h writes hheld hadmissible
    exact run_invariant (fun s write hclean => heldOnlyAfterRefusal_step s write hclean) hadmissible hheld

/-- An open standard Spot of 20 places and 2000 NIM with one SUCCESS claim, a day after it. -/
def openSpotLedger : Db Unit where
  now := 186400
  users := [{ id := 1, status := .active }, { id := 2, status := .active }]
  spots := [{
    id := 1, createdBy := 1, depositAddress := "NQ07 SPOT", position := some (), radius := 50,
    claimDuration := 0, maxClaimsPerUser := 1, maxTotalClaims := 20, usePassword := false,
    totalValue := 200000000, creationFee := 0, startsAt := some 100000, endsAt := 604800,
    status := .published, cancellationStartedAt := none, prizeCount := none }]
  claims := [{
    id := 1, spotId := 1, recipient := 2, payoutAddress := some "NQ07 CLAIMANT", position := (), accuracy := 1,
    status := .success, claimedAt := 100000, updatedAt := 100000 }]
  claimCodes := []
  claimCodeAttempts := []
  trans := []
  claimSeq := 1
  claimCodeSeq := 0
  transSeq := 0
  userBindings := [(2, "NQ07 CLAIMANT")]
  locationBehavior := fun _ => none
  locationSuspicion := fun _ => none

/-- Its security record, free of any hold. -/
def openSpotRecord : ClaimEvent Unit where
  claimId := 1
  spotId := 1
  userId := 2
  deviceIdHash := "d2"
  verifiedWallet := some "NQ07 CLAIMANT"
  payoutAddress := some "NQ07 CLAIMANT"
  ipHash := "ip"
  claimedAt := 100000
  recordedAt := 100000
  sessionCreatedAt := 99000
  userCreatedAt := 1000
  spotPosition := ()
  spotRadius := 50
  reportedPosition := ()
  centreOffsetMetres := 0
  manualReview := false

def openSpotStore : ThrottleStore Unit where
  metadata := ({} : SecurityMetadata Unit).setRecord 1 openSpotRecord

/-- The gate allows the claim's payout of 100 NIM, the throttle admits it, and the gate run after it
holds the claim. -/
theorem openSpotPayout_admitted_then_held :
    (payoutSecurityDecision Settings.onePlace {} openSpotLedger openSpotStore.metadata 1).2.allow = true ∧
    (reservePayoutSlot {} openSpotLedger openSpotStore 1 10000000).2.toOption.map ThrottleDecision.allow =
      some true ∧
    gateHoldsForThrottle Settings.onePlace {} openSpotLedger
      (reservePayoutSlot {} openSpotLedger openSpotStore 1 10000000).1.metadata 1 = true := by
  decide +kernel

/-- Released by an operator, the same claim is admitted and passes. -/
theorem admitted_passes_iff_admissionIsClean_released :
    gateHoldsForThrottle Settings.onePlace {} openSpotLedger
      (reservePayoutSlot {} openSpotLedger
        ⟨(openSpotStore.metadata.releaseClaimManualReview 1 186400).1, some []⟩ 1 10000000).1.metadata 1 = false := by
  obtain ⟨hcall, -⟩ := admitted_passes_iff_admissionIsClean (P := Unit) Settings.onePlace {} {}
  rcases hreserve : reservePayoutSlot {} openSpotLedger
    ⟨(openSpotStore.metadata.releaseClaimManualReview 1 186400).1, some []⟩ 1 10000000 with ⟨store', e | decision⟩
  · have hraised : (reservePayoutSlot {} openSpotLedger
        ⟨(openSpotStore.metadata.releaseClaimManualReview 1 186400).1, some []⟩ 1 10000000).2.toOption.isSome =
        false := by rw [hreserve]; rfl
    exact absurd hraised (by decide +kernel)
  · have hallow : (reservePayoutSlot {} openSpotLedger
        ⟨(openSpotStore.metadata.releaseClaimManualReview 1 186400).1, some []⟩ 1 10000000).2.toOption.any
        ThrottleDecision.allow = true := by decide +kernel
    rw [hreserve] at hallow
    exact (hcall openSpotLedger openSpotLedger _ store' _ 1 10000000 decision rfl hreserve hallow).mpr
      ⟨by decide +kernel, by decide +kernel⟩

end NimHunt
