import NimHunt.Proofs.ChosenWinners
import NimHunt.Proofs.CancellationSplit
import NimHunt.Proofs.SpotAccounts
import NimHunt.Proofs.SpotLives

/-!
# The books

The account of a Spot as the tables show it.  Every write of the deployment is a chain of moves on the account of each
Spot, and leaves the tables in the order the accounts are read in.
-/

namespace NimHunt

open Lib Relation

variable {P : Type}

section Books

/-- The claims a standard Spot owes its payout. -/
def Db.successIds (db : Db P) (spotId : ℕ) : Finset ℕ :=
  ((db.claims.filter fun c => c.spotId = spotId ∧ c.status = .success).map Claim.id).toFinset

/-- What a Spot owes whom: a standard Spot every successful claim its part, a drawn Prizedraw its winners their
shares. -/
def Db.account (db : Db P) (spot : Spot P) : Account where
  status := spot.status
  marked := spot.cancellationStartedAt.isSome
  totalValue := spot.totalValue
  creationFee := spot.creationFee
  rows := db.transOfSpot spot.id
  payees :=
    if spot.prizeCount = none then db.successIds spot.id
    else if spot.status = .completed then (db.getPrizedrawWinnerClaimIds spot.id).toFinset else ∅
  share :=
    if spot.prizeCount = none then fun _ => standardClaimPayoutAmount spot
    else if spot.status = .completed then prizeShare spot.totalValue (db.getPrizedrawWinnerClaimIds spot.id)
    else fun _ => 0
  policyFee := (db.cancellationPolicy spot.id).map CancellationPolicy.feeAmount

/-- A move that drops no policy. -/
def Account.Step (a a' : Account) : Prop := a.Move a' ∧ (a'.policyFee = none → a.policyFee = none)

abbrev Account.Steps : Account → Account → Prop := ReflTransGen Account.Step

lemma Account.Steps.sound {a a' : Account} (h : a.Steps a') (hsound : a.Sound) : a'.Sound := by
  induction h with
  | refl => exact hsound
  | tail _ hstep ih => exact hstep.1.sound ih

lemma Account.Steps.honours {a a' : Account} (h : a.Steps a') (hsound : a.Sound) {p : Promise} (hkept : a.Honours p) :
    a'.Honours p := by
  induction h with
  | refl => exact hkept
  | tail hsteps hstep ih => exact hstep.1.honours (Account.Steps.sound hsteps hsound) ih hstep.2

/-- Every Spot goes on from its account, and a new one has a sound one. -/
structure AccountsMove (db db' : Db P) : Prop where
  stays : ∀ spotId spot, db.getSpot spotId = some spot →
    ∃ spot', db'.getSpot spotId = some spot' ∧ (db.account spot).Steps (db'.account spot')
  comes : ∀ spotId spot', db'.getSpot spotId = some spot' → db.getSpot spotId = none → (db'.account spot').Sound

variable {db db' db'' : Db P}

lemma AccountsMove.then (h : AccountsMove db db') (h' : AccountsMove db' db'') : AccountsMove db db'' := by
  constructor
  · intro spotId spot hspot
    obtain ⟨spot', hspot', hsteps⟩ := h.stays spotId spot hspot
    obtain ⟨spot'', hspot'', hsteps'⟩ := h'.stays spotId spot' hspot'
    exact ⟨spot'', hspot'', hsteps.trans hsteps'⟩
  · intro spotId spot'' hspot'' hnone
    cases hspot' : db'.getSpot spotId with
    | none => exact h'.comes spotId spot'' hspot'' hspot'
    | some spot' =>
      obtain ⟨found, hfound, hsteps⟩ := h'.stays spotId spot' hspot'
      obtain rfl := Option.some.inj (hspot''.symm.trans hfound)
      exact hsteps.sound (h.comes spotId spot' hspot' hnone)

/-- The Spots stay, and each account goes on by itself. -/
lemma AccountsMove.of_spots (hspots : db'.spots = db.spots)
    (hsteps : ∀ spot, db.getSpot spot.id = some spot → (db.account spot).Steps (db'.account spot)) :
    AccountsMove db db' := by
  have hget : ∀ spotId, db'.getSpot spotId = db.getSpot spotId := by
    intro spotId
    unfold Db.getSpot
    rw [hspots]
  constructor
  · intro spotId spot hspot
    exact ⟨spot, (hget spotId).trans hspot, hsteps spot ((getSpot_id hspot).symm ▸ hspot)⟩
  · intro spotId spot' hspot' hnone
    rw [hget, hnone] at hspot'
    cases hspot'

/-- Rows of Spots are rewritten one by one. -/
lemma AccountsMove.of_update {sel : Spot P → Bool} {f : Spot P → Spot P}
    (hspots : db'.spots = updateWhere sel f db.spots) (hid : ∀ s, (f s).id = s.id)
    (hrow : ∀ s, db.getSpot s.id = some s → sel s = true → (db.account s).Steps (db'.account (f s)))
    (hother : ∀ s, db.getSpot s.id = some s → sel s = false → (db.account s).Steps (db'.account s)) :
    AccountsMove db db' := by
  have hget : ∀ spotId, db'.getSpot spotId = (db.getSpot spotId).map fun s => if sel s then f s else s := by
    intro spotId
    unfold Db.getSpot
    rw [hspots]
    exact find?_updateWhere_key hid spotId
  constructor
  · intro spotId spot hspot
    have hself : db.getSpot spot.id = some spot := (getSpot_id hspot).symm ▸ hspot
    refine ⟨if sel spot then f spot else spot, by rw [hget, hspot]; rfl, ?_⟩
    by_cases hsel : sel spot = true
    · rw [if_pos hsel]
      exact hrow spot hself hsel
    · rw [if_neg hsel]
      exact hother spot hself (by simpa using hsel)
  · intro spotId spot' hspot' hnone
    rw [hget, hnone] at hspot'
    cases hspot'

/-- The account is read off the rows and the claims of the Spot, and its policy. -/
lemma account_congr (spot : Spot P) (hrows : db'.transOfSpot spot.id = db.transOfSpot spot.id)
    (hsuccess : spot.prizeCount = none → db'.successIds spot.id = db.successIds spot.id)
    (hwinners : spot.isCompletedPrizedraw = true →
      db'.getPrizedrawWinnerClaimIds spot.id = db.getPrizedrawWinnerClaimIds spot.id)
    (hpolicy : db'.cancellationPolicy spot.id = db.cancellationPolicy spot.id) :
    db'.account spot = db.account spot := by
  unfold Db.account
  rw [hrows, hpolicy]
  by_cases hstandard : spot.prizeCount = none
  · simp only [if_pos hstandard, hsuccess hstandard]
  · simp only [if_neg hstandard]
    by_cases hcompleted : spot.status = .completed
    · have hdrawn : spot.isCompletedPrizedraw = true :=
        decide_eq_true ⟨hcompleted, Option.isSome_iff_ne_none.mpr hstandard⟩
      simp only [if_pos hcompleted, hwinners hdrawn]
    · simp only [if_neg hcompleted]

lemma mem_successIds {spotId id : ℕ} :
    id ∈ db.successIds spotId ↔ ∃ c ∈ db.claims, c.id = id ∧ c.spotId = spotId ∧ c.status = .success := by
  unfold Db.successIds
  simp only [List.mem_toFinset, List.mem_map, List.mem_filter, decide_eq_true_eq]
  constructor
  · rintro ⟨c, ⟨hc, hspot, hstatus⟩, hid⟩
    exact ⟨c, hc, hid, hspot, hstatus⟩
  · rintro ⟨c, hc, hid, hspot, hstatus⟩
    exact ⟨c, ⟨hc, hspot, hstatus⟩, hid⟩

/-- A winner still waits, or has a payout row. -/
lemma mem_winnerIds {spotId id : ℕ} : id ∈ db.getPrizedrawWinnerClaimIds spotId ↔
    (∃ c ∈ db.claims, c.id = id ∧ c.spotId = spotId ∧ c.status = .pending) ∨
      ∃ t ∈ db.trans, t.claimId = some id ∧ t.spotId = some spotId ∧ t.type = .claim := by
  unfold Db.getPrizedrawWinnerClaimIds
  simp only [List.mem_insertionSort, List.mem_dedup, List.mem_append, List.mem_map, List.mem_filterMap,
    List.mem_filter, decide_eq_true_eq]
  constructor
  · rintro (⟨c, ⟨hc, hspot, hstatus⟩, hid⟩ | ⟨t, ⟨ht, hspot, htype⟩, hid⟩)
    · exact .inl ⟨c, hc, hid, hspot, hstatus⟩
    · exact .inr ⟨t, ht, hid, hspot, htype⟩
  · rintro (⟨c, hc, hid, hspot, hstatus⟩ | ⟨t, ht, hid, hspot, htype⟩)
    · exact .inl ⟨c, ⟨hc, hspot, hstatus⟩, hid⟩
    · exact .inr ⟨t, ⟨ht, hspot, htype⟩, hid⟩

lemma sorted_winnerIds (db : Db P) (spotId : ℕ) : (db.getPrizedrawWinnerClaimIds spotId).Pairwise (· < ·) := by
  have hnodup : (db.getPrizedrawWinnerClaimIds spotId).Nodup := by
    unfold Db.getPrizedrawWinnerClaimIds
    exact (List.perm_insertionSort _ _).nodup_iff.mpr (List.nodup_dedup _)
  have hsorted : (db.getPrizedrawWinnerClaimIds spotId).Pairwise (· ≤ ·) := by
    unfold Db.getPrizedrawWinnerClaimIds
    exact List.pairwise_insertionSort _ _
  exact (hsorted.and hnodup).imp fun h => lt_of_le_of_ne h.1 h.2

/-- The same winners are the same list. -/
lemma winnerIds_congr {spotId : ℕ} (h : ∀ id, id ∈ db'.getPrizedrawWinnerClaimIds spotId ↔
    id ∈ db.getPrizedrawWinnerClaimIds spotId) :
    db'.getPrizedrawWinnerClaimIds spotId = db.getPrizedrawWinnerClaimIds spotId :=
  getPrizedrawWinnerClaimIds_eq_of (sorted_winnerIds db spotId) fun id => (h id).symm.trans mem_winnerIds

/-- The winners' shares come to no more than the prize. -/
lemma sum_winnerShares_le (spot : Spot P) {winners : List ℕ} (hsorted : winners.Pairwise (· < ·)) :
    ∑ id ∈ winners.toFinset, prizeShare spot.totalValue winners id ≤ spot.totalValue := by
  have hnodup : winners.Nodup := hsorted.imp fun hlt => hlt.ne
  rw [List.sum_toFinset _ hnodup]
  by_cases hnone : winners = []
  · subst hnone
    exact Nat.zero_le _
  · exact (sum_prizeShare spot.totalValue hsorted hnone).le

/-- What holds of the tables in front of every operation. -/
structure Books (db : Db P) : Prop where
  numbered : Numbered db
  sound : ∀ spotId spot, db.getSpot spotId = some spot → (db.account spot).Sound
  ordered : db.trans.Pairwise fun a b => a.createdAt ≤ b.createdAt ∧ a.id < b.id
  dated : ∀ t ∈ db.trans, t.createdAt ≤ db.now
  placed : ∀ t ∈ db.trans, ∀ spotId, t.spotId = some spotId → (db.getSpot spotId).isSome = true
  entered : ∀ c ∈ db.claims, ∃ spot, db.getSpot c.spotId = some spot ∧ spot.status ≠ .draft
  booked : ∀ t ∈ db.trans, t.type = .claim →
    ∃ claim ∈ db.claims, t.claimId = some claim.id ∧ t.spotId = some claim.spotId
  quiet : ∀ c ∈ db.claims, c.status = .pending → ∀ spot, db.getSpot c.spotId = some spot → spot.status = .completed →
    spot.prizeCount.isSome = true
  paidOut : ∀ t ∈ db.trans, t.type = .claim → ∀ spotId spot, t.spotId = some spotId → db.getSpot spotId = some spot →
    spot.isCompletedPrizedraw = true → ∀ id, t.claimId = some id →
      (∃ c ∈ db.claims, c.id = id ∧ c.status = .pending) ∨ db.hasConfirmedClaimPayoutTransaction id = true
  drawable : ∀ spotId spot, db.getSpot spotId = some spot → spot.prizeCount.isSome = true →
    spot.status = .published → spot.cancellationStartedAt = none

/-- What a write leaves of the books. -/
structure Advances (cfg : Settings P) (db db' : Db P) : Prop where
  accounts : AccountsMove db db'
  books : Books db'
  reads : ∀ row, StillRead cfg db row → StillRead cfg db' row

/-- No cancellation is begun or given up. -/
structure SameLeases (db db' : Db P) : Prop where
  guard : db'.cancellationGuard = db.cancellationGuard
  policy : db'.cancellationPolicy = db.cancellationPolicy
  markers : ∀ spotId spot', db'.getSpot spotId = some spot' → spot'.cancellationStartedAt.isSome = true →
    ∃ spot, db.getSpot spotId = some spot ∧ spot.cancellationStartedAt.isSome = true

/-- Such a write outside the cancellations. -/
structure Proceeds (cfg : Settings P) (db db' : Db P) : Prop extends Advances cfg db db', SameLeases db db'

variable {cfg : Settings P}

lemma Advances.then (h : Advances cfg db db') (h' : Advances cfg db' db'') : Advances cfg db db'' :=
  ⟨h.accounts.then h'.accounts, h'.books, fun row hread => h'.reads row (h.reads row hread)⟩

lemma SameLeases.then (h : SameLeases db db') (h' : SameLeases db' db'') : SameLeases db db'' := by
  refine ⟨h'.guard.trans h.guard, h'.policy.trans h.policy, ?_⟩
  intro spotId spot'' hspot'' hmarked
  obtain ⟨spot', hspot', hmarked'⟩ := h'.markers spotId spot'' hspot'' hmarked
  exact h.markers spotId spot' hspot' hmarked'

lemma Proceeds.then (h : Proceeds cfg db db') (h' : Proceeds cfg db' db'') : Proceeds cfg db db'' :=
  ⟨h.toAdvances.then h'.toAdvances, h.toSameLeases.then h'.toSameLeases⟩

lemma SameLeases.of_spots (hspots : db'.spots = db.spots) (hguard : db'.cancellationGuard = db.cancellationGuard)
    (hpolicy : db'.cancellationPolicy = db.cancellationPolicy) : SameLeases db db' := by
  refine ⟨hguard, hpolicy, ?_⟩
  intro spotId spot hspot hmarked
  unfold Db.getSpot at hspot ⊢
  rw [hspots] at hspot
  exact ⟨spot, hspot, hmarked⟩

lemma stillRead_congr (htrans : db'.trans = db.trans) {row : Trans} (h : StillRead cfg db row) :
    StillRead cfg db' row := by
  unfold StillRead
  rw [htrans]
  exact h

lemma Advances.refl (h : Books db) : Advances cfg db db :=
  ⟨.of_spots rfl fun _ _ => .refl, h, fun _ hread => hread⟩

lemma Proceeds.refl (h : Books db) : Proceeds cfg db db := ⟨.refl h, .of_spots rfl rfl rfl⟩

lemma Books.sameSpot (h : Books db) {t : Trans} (ht : t ∈ db.trans) (htype : t.type = .claim) {c : Claim P}
    (hc : c ∈ db.claims) (hid : t.claimId = some c.id) : t.spotId = some c.spotId := by
  obtain ⟨claim, hclaim, hclaimId, hspotId⟩ := h.booked t ht htype
  have hsame : claim = c :=
    eq_of_key_eq h.numbered.keyed.claimKeys hclaim hc (Option.some.inj (hclaimId.symm.trans hid))
  exact hsame ▸ hspotId

lemma hasConfirmed_iff {id : ℕ} : db.hasConfirmedClaimPayoutTransaction id = true ↔
    ∃ t ∈ db.trans, t.claimId = some id ∧ t.type = .claim ∧ t.status = .confirmed := by
  simp [Db.hasConfirmedClaimPayoutTransaction]

/-- The winners of a draw are still found once their claims have left PENDING with a payout. -/
lemma winnerIds_kept (hbooks : Books db) {spotId : ℕ} (hkept : WinnersKept spotId db db')
    (htrans : db'.trans = db.trans) :
    db'.getPrizedrawWinnerClaimIds spotId = db.getPrizedrawWinnerClaimIds spotId := by
  apply winnerIds_congr
  intro id
  rw [mem_winnerIds, mem_winnerIds, htrans]
  constructor
  · rintro (⟨c', hc', hid, hspot, hwaits⟩ | hrow)
    · obtain ⟨c, hc, hid', hspot', hwaits'⟩ := hkept.pending c' hc' hspot hwaits
      exact .inl ⟨c, hc, hid'.trans hid, hspot', hwaits'⟩
    · exact .inr hrow
  · rintro (⟨c, hc, hid, hspot, hwaits⟩ | hrow)
    · obtain ⟨c', hc', hid', hspot', hleft⟩ := hkept.paid c hc hspot
      cases hleft hwaits with
      | inl hwaits' => exact .inl ⟨c', hc', hid'.trans hid, hspot', hwaits'⟩
      | inr hpaid =>
        obtain ⟨t, ht, hclaimId, htype, -⟩ := hasConfirmed_iff.mp hpaid
        rw [htrans] at ht
        have hof : t.spotId = some c.spotId := hbooks.sameSpot ht htype hc hclaimId
        exact .inr ⟨t, ht, hid ▸ hclaimId, hspot ▸ hof, htype⟩
    · exact .inr hrow

/-- The claims of the Spots are rewritten under the same rows. -/
lemma Proceeds.of_claims (hbooks : Books db) (hnumbered : Numbered db') (hspots : db'.spots = db.spots)
    (htrans : db'.trans = db.trans) (hnow : db.now ≤ db'.now)
    (hguard : db'.cancellationGuard = db.cancellationGuard) (hpolicy : db'.cancellationPolicy = db.cancellationPolicy)
    (hkept : ClaimsKept db db')
    (hentered : ∀ c ∈ db'.claims, (∃ old ∈ db.claims, old.spotId = c.spotId) ∨
      ∃ spot, db.getSpot c.spotId = some spot ∧ spot.status = .published)
    (hpending : ∀ c ∈ db'.claims, c.status = .pending → (∃ old ∈ db.claims, old.spotId = c.spotId ∧ old.status = .pending) ∨
      ∃ spot, db.getSpot c.spotId = some spot ∧ spot.status = .published)
    (hwinners : ∀ spotId, (∃ spot, db.getSpot spotId = some spot ∧ spot.isCompletedPrizedraw = true) →
      WinnersKept spotId db db')
    (hsuccess : ∀ spot, db.getSpot spot.id = some spot → spot.prizeCount = none →
      db'.successIds spot.id = db.successIds spot.id ∨ (db.account spot).Steps (db'.account spot)) :
    Proceeds cfg db db' := by
  have hget : ∀ spotId, db'.getSpot spotId = db.getSpot spotId := by
    intro spotId
    unfold Db.getSpot
    rw [hspots]
  have haccounts : AccountsMove db db' := by
    refine .of_spots hspots ?_
    intro spot hspot
    have hrows : db'.transOfSpot spot.id = db.transOfSpot spot.id := by
      unfold Db.transOfSpot
      rw [htrans]
    have hpolicy' : db'.cancellationPolicy spot.id = db.cancellationPolicy spot.id := by rw [hpolicy]
    have hdrawn : spot.isCompletedPrizedraw = true →
        db'.getPrizedrawWinnerClaimIds spot.id = db.getPrizedrawWinnerClaimIds spot.id :=
      fun hdone => winnerIds_kept hbooks (hwinners spot.id ⟨spot, hspot, hdone⟩) htrans
    by_cases hstandard : spot.prizeCount = none
    · cases hsuccess spot hspot hstandard with
      | inl hsame => rw [account_congr spot hrows (fun _ => hsame) hdrawn hpolicy']
      | inr hsteps => exact hsteps
    · rw [account_congr spot hrows (fun h => absurd h hstandard) hdrawn hpolicy']
  refine ⟨⟨haccounts, ?_, fun row => stillRead_congr htrans⟩, .of_spots hspots hguard hpolicy⟩
  constructor
  · exact hnumbered
  · intro spotId spot hspot
    obtain ⟨spot', hspot', hsteps⟩ := haccounts.stays spotId spot (hget spotId ▸ hspot)
    obtain rfl := Option.some.inj (hspot.symm.trans hspot')
    exact hsteps.sound (hbooks.sound spotId spot (hget spotId ▸ hspot))
  · rw [htrans]
    exact hbooks.ordered
  · rw [htrans]
    exact fun t ht => (hbooks.dated t ht).trans hnow
  · simp only [htrans, hget]
    exact hbooks.placed
  · intro c hc
    rw [hget]
    rcases hentered c hc with ⟨old, hold, hspot⟩ | ⟨spot, hspot, hpublished⟩
    · rw [← hspot]
      exact hbooks.entered old hold
    · refine ⟨spot, hspot, ?_⟩
      rw [hpublished]
      nofun
  · rw [htrans]
    intro t ht htype
    obtain ⟨claim, hclaim, hclaimId, hspotId⟩ := hbooks.booked t ht htype
    obtain ⟨claim', hclaim', hsame⟩ := Kept.mem hkept hclaim
    exact ⟨claim', hclaim', by rw [hsame.id]; exact hclaimId, by rw [hsame.spotId]; exact hspotId⟩
  · intro c hc hwaits spot hspot hcompleted
    rw [hget] at hspot
    rcases hpending c hc hwaits with ⟨old, hold, hof, hwaits'⟩ | ⟨found, hfound, hpublished⟩
    · exact hbooks.quiet old hold hwaits' spot (hof ▸ hspot) hcompleted
    · rw [Option.some.inj (hspot.symm.trans hfound), hpublished] at hcompleted
      cases hcompleted
  · rw [htrans]
    intro t ht htype spotId spot hspotId hspot hdrawn id hid
    rw [hget] at hspot
    have hsame : db'.hasConfirmedClaimPayoutTransaction id = db.hasConfirmedClaimPayoutTransaction id := by
      unfold Db.hasConfirmedClaimPayoutTransaction
      rw [htrans]
    rcases hbooks.paidOut t ht htype spotId spot hspotId hspot hdrawn id hid with ⟨c, hc, hcid, hwaits⟩ | hpaid
    · have hof : t.spotId = some c.spotId := hbooks.sameSpot ht htype hc (hcid ▸ hid)
      have hofSpot : c.spotId = spotId := Option.some.inj (hof.symm.trans hspotId)
      obtain ⟨c', hc', hid', -, hleft⟩ := (hwinners spotId ⟨spot, hspot, hdrawn⟩).paid c hc hofSpot
      cases hleft hwaits with
      | inl hwaits' => exact .inl ⟨c', hc', hid'.trans hcid, hwaits'⟩
      | inr hpaid => exact .inr (hcid ▸ hpaid)
    · exact .inr (hsame ▸ hpaid)
  · intro spotId spot hspot
    rw [hget] at hspot
    exact hbooks.drawable spotId spot hspot

/-- Neither the ledger nor the claims nor a Spot is touched. -/
lemma Proceeds.of_frame (hbooks : Books db) (hnumbered : Numbered db') (hspots : db'.spots = db.spots)
    (htrans : db'.trans = db.trans) (hnow : db.now ≤ db'.now) (hclaims : db'.claims = db.claims)
    (hguard : db'.cancellationGuard = db.cancellationGuard)
    (hpolicy : db'.cancellationPolicy = db.cancellationPolicy) : Proceeds cfg db db' := by
  refine .of_claims hbooks hnumbered hspots htrans hnow hguard hpolicy (.of_claims_eq hclaims) ?_ ?_ ?_ ?_
  · rw [hclaims]
    exact fun c hc => .inl ⟨c, hc, rfl⟩
  · rw [hclaims]
    exact fun c hc hwaits => .inl ⟨c, hc, rfl, hwaits⟩
  · exact fun _ _ => .of_eq hclaims
  · intro spot _ _
    left
    unfold Db.successIds
    rw [hclaims]

end Books

end NimHunt
