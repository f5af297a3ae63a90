import Mathlib.Data.List.Dedup
import NimHunt.Proofs.FairDraw
import NimHunt.Proofs.SystemWrites

/-!
# The division of a prize

Once a Prizedraw is drawn its winners are fixed: a winner leaves PENDING only with a payout row, and every payout
decided for it, whenever that is, has the amount its place among the winners gives it.  The confirmed payouts then
add up to the value of the Spot.
-/

namespace NimHunt

open Lib

variable {P : Type}

section Shares

/-- The winner with the lowest id takes the indivisible rest. -/
def prizeShare (totalValue : ℕ) (winners : List ℕ) (claimId : ℕ) : ℕ :=
  if ∀ w ∈ winners, claimId ≤ w then totalValue / winners.length + totalValue % winners.length
  else totalValue / winners.length

variable {totalValue : ℕ} {winners : List ℕ}

lemma prizeShare_first {first : ℕ} {rest : List ℕ} (hsorted : (first :: rest).Pairwise (· < ·)) :
    prizeShare totalValue (first :: rest) first =
      totalValue / (rest.length + 1) + totalValue % (rest.length + 1) := by
  have hlowest : ∀ w ∈ first :: rest, first ≤ w := by
    intro w hw
    cases List.mem_cons.mp hw with
    | inl heq => exact heq.ge
    | inr hrest => exact ((List.pairwise_cons.mp hsorted).1 w hrest).le
  unfold prizeShare
  rw [if_pos hlowest, List.length_cons]

lemma prizeShare_rest {first claimId : ℕ} {rest : List ℕ} (hsorted : (first :: rest).Pairwise (· < ·))
    (hmem : claimId ∈ rest) :
    prizeShare totalValue (first :: rest) claimId = totalValue / (rest.length + 1) := by
  have habove : ¬ ∀ w ∈ first :: rest, claimId ≤ w := by
    intro hlowest
    have hle := hlowest first List.mem_cons_self
    have hlt := (List.pairwise_cons.mp hsorted).1 claimId hmem
    omega
  unfold prizeShare
  rw [if_neg habove, List.length_cons]

/-- The shares of the winners are the amounts by position. -/
lemma map_prizeShare (totalValue : ℕ) (hsorted : winners.Pairwise (· < ·)) :
    winners.map (prizeShare totalValue winners) = prizeAmounts totalValue winners.length := by
  cases winners with
  | nil => rfl
  | cons first rest =>
    have hrest : rest.map (prizeShare totalValue (first :: rest)) =
        List.replicate rest.length (totalValue / (rest.length + 1)) := by
      rw [List.eq_replicate_iff]
      refine ⟨List.length_map _, ?_⟩
      intro amount hamount
      obtain ⟨claimId, hmem, hshare⟩ := List.mem_map.mp hamount
      rw [← hshare]
      exact prizeShare_rest hsorted hmem
    rw [List.map_cons, hrest, prizeShare_first hsorted]
    rfl

/-- Together the shares are the whole prize. -/
lemma sum_prizeShare (totalValue : ℕ) (hsorted : winners.Pairwise (· < ·)) (hsome : winners ≠ []) :
    (winners.map (prizeShare totalValue winners)).sum = totalValue := by
  rw [map_prizeShare totalValue hsorted]
  cases winners with
  | nil => exact absurd rfl hsome
  | cons first rest =>
    change ((totalValue / (rest.length + 1) + totalValue % (rest.length + 1)) ::
      List.replicate rest.length (totalValue / (rest.length + 1))).sum = totalValue
    rw [List.sum_cons, List.sum_replicate_nat]
    have hdivision := Nat.div_add_mod totalValue (rest.length + 1)
    rw [add_mul, one_mul] at hdivision
    omega

lemma lookup_zip_map (share : ℕ → ℕ) {ids : List ℕ} {claimId : ℕ} (hmem : claimId ∈ ids) :
    (ids.zip (ids.map share)).lookup claimId = some (share claimId) := by
  induction ids with
  | nil => cases hmem
  | cons id ids ih =>
    rw [List.map_cons, List.zip_cons_cons, List.lookup_cons]
    by_cases heq : claimId = id
    · rw [heq, beq_self_eq_true]
    · rw [beq_false_of_ne heq]
      exact ih ((List.mem_cons.mp hmem).resolve_left heq)

/-- A list of positive ids in order is not changed by the cleaning. -/
lemma cleanIds_eq (hsorted : winners.Pairwise (· < ·)) (hpositive : ∀ id ∈ winners, 0 < id) :
    ((winners.filter (0 < ·)).dedup).insertionSort (· ≤ ·) = winners := by
  have hfilter : winners.filter (0 < ·) = winners := by
    rw [List.filter_eq_self]
    exact fun id hid => decide_eq_true (hpositive id hid)
  have hnodup : winners.Nodup := hsorted.imp fun h => h.ne
  rw [hfilter, List.dedup_eq_self.mpr hnodup]
  exact (hsorted.imp fun h => h.le).insertionSort_eq

/-- What the payout pass looks up for a winner. -/
lemma lookup_prizeAmountsByClaimId (totalValue : ℕ) (hsorted : winners.Pairwise (· < ·))
    (hpositive : ∀ id ∈ winners, 0 < id) {claimId : ℕ} (hmem : claimId ∈ winners) :
    (prizeAmountsByClaimId totalValue winners).lookup claimId = some (prizeShare totalValue winners claimId) := by
  unfold prizeAmountsByClaimId
  rw [cleanIds_eq hsorted hpositive]
  dsimp only
  rw [← map_prizeShare totalValue hsorted]
  exact lookup_zip_map _ hmem

end Shares

section Winners

/-- A payout of a winner, with the winner's share. -/
def Trans.PaysShare (spotId totalValue : ℕ) (winners : List ℕ) (t : Trans) : Prop :=
  t.spotId = some spotId ∧ ∃ id ∈ winners, t.claimId = some id ∧ t.amount = prizeShare totalValue winners id

/-- A drawn Prizedraw, wherever its payouts stand. -/
structure PrizeDrawn (spotId totalValue : ℕ) (winners : List ℕ) (db : Db P) : Prop where
  claimKeys : (db.claims.map Claim.id).Nodup
  ledger : LedgerSound db
  spot : ∃ spot, db.getSpot spotId = some spot ∧ spot.isCompletedPrizedraw = true ∧ spot.totalValue = totalValue
  pending : ∀ c ∈ db.claims, c.spotId = spotId → c.status = .pending → c.id ∈ winners
  winner : ∀ id ∈ winners, ∃ c ∈ db.claims, c.id = id ∧ c.spotId = spotId ∧
    (c.status = .pending ∨ ∃ t ∈ db.trans, t.type = .claim ∧ t.claimId = some id)
  rows : ∀ t ∈ db.trans, t.type = .claim → (t.spotId = some spotId ∨ ∃ id ∈ winners, t.claimId = some id) →
    t.PaysShare spotId totalValue winners

variable {cfg : Settings P} {db db' : Db P} {spotId totalValue : ℕ} {winners : List ℕ}

/-- The winners are those a PENDING claim or a payout row of the Spot names. -/
lemma getPrizedrawWinnerClaimIds_eq_of (hsorted : winners.Pairwise (· < ·)) (hnamed : ∀ id, id ∈ winners ↔
      (∃ c ∈ db.claims, c.id = id ∧ c.spotId = spotId ∧ c.status = .pending) ∨
        ∃ t ∈ db.trans, t.claimId = some id ∧ t.spotId = some spotId ∧ t.type = .claim) :
    db.getPrizedrawWinnerClaimIds spotId = winners := by
  have hnodup : winners.Nodup := hsorted.imp fun hlt => hlt.ne
  have hordered : winners.Pairwise (· ≤ ·) := hsorted.imp fun hlt => hlt.le
  unfold Db.getPrizedrawWinnerClaimIds
  dsimp only
  have hperm : (((db.claims.filter fun c => c.spotId = spotId ∧ c.status = .pending).map Claim.id) ++
      ((db.trans.filter fun t => t.spotId = some spotId ∧ t.type = .claim).filterMap Trans.claimId)).dedup.Perm
        winners := by
    apply (List.perm_ext_iff_of_nodup (List.nodup_dedup _) hnodup).mpr
    intro id
    rw [List.mem_dedup, List.mem_append, hnamed]
    constructor
    · intro hfound
      cases hfound with
      | inl hpending =>
        obtain ⟨c, hc, hid⟩ := List.mem_map.mp hpending
        exact .inl ⟨c, (List.mem_filter.mp hc).1, hid, of_decide_eq_true (List.mem_filter.mp hc).2⟩
      | inr hpaid =>
        obtain ⟨t, ht, hid⟩ := List.mem_filterMap.mp hpaid
        exact .inr ⟨t, (List.mem_filter.mp ht).1, hid, of_decide_eq_true (List.mem_filter.mp ht).2⟩
    · intro hwinner
      cases hwinner with
      | inl hpending =>
        obtain ⟨c, hc, hid, hof⟩ := hpending
        exact .inl (List.mem_map.mpr ⟨c, List.mem_filter.mpr ⟨hc, decide_eq_true hof⟩, hid⟩)
      | inr hpaid =>
        obtain ⟨t, ht, hid, hof⟩ := hpaid
        exact .inr (List.mem_filterMap.mpr ⟨t, List.mem_filter.mpr ⟨ht, decide_eq_true hof⟩, hid⟩)
  rw [insertionSort_eq_of_perm hperm fun _ _ _ _ hle hge => le_antisymm hle hge]
  exact hordered.insertionSort_eq

/-- The winners are found again, whatever became of their payouts. -/
lemma PrizeDrawn.getPrizedrawWinnerClaimIds_eq (h : PrizeDrawn spotId totalValue winners db)
    (hsorted : winners.Pairwise (· < ·)) : db.getPrizedrawWinnerClaimIds spotId = winners := by
  apply getPrizedrawWinnerClaimIds_eq_of hsorted
  intro id
  constructor
  · intro hwinner
    obtain ⟨c, hc, hid, hspot, hstands⟩ := h.winner id hwinner
    cases hstands with
    | inl hpending => exact .inl ⟨c, hc, hid, hspot, hpending⟩
    | inr hpaid =>
      obtain ⟨t, ht, htype, hclaimId⟩ := hpaid
      have hpays := h.rows t ht htype (.inr ⟨id, hwinner, hclaimId⟩)
      exact .inr ⟨t, ht, hclaimId, hpays.1, htype⟩
  · intro hnamed
    cases hnamed with
    | inl hpending =>
      obtain ⟨c, hc, hid, hspot, hwaits⟩ := hpending
      rw [← hid]
      exact h.pending c hc hspot hwaits
    | inr hpaid =>
      obtain ⟨t, ht, hid, hspot, htype⟩ := hpaid
      obtain ⟨-, winner, hwinner, hclaimId, -⟩ := h.rows t ht htype (.inl hspot)
      rw [hclaimId] at hid
      rw [← Option.some.inj hid]
      exact hwinner

/-- A failed payout, if there is one, was of the winner's share. -/
lemma PrizeDrawn.latestFailed (h : PrizeDrawn spotId totalValue winners db) {id amount : ℕ} (hwinner : id ∈ winners)
    (hlatest : db.latestFailedClaimPayoutAmount id = some amount) : amount = prizeShare totalValue winners id := by
  unfold Db.latestFailedClaimPayoutAmount at hlatest
  obtain ⟨t, hhead, hamount⟩ := Option.map_eq_some_iff.mp hlatest
  have hrow := List.mem_filter.mp (page_subset (List.mem_of_head? hhead))
  have hof := of_decide_eq_true hrow.2
  obtain ⟨-, found, -, hclaimId, hshare⟩ := h.rows t hrow.1 hof.2.1 (.inr ⟨id, hwinner, hof.1⟩)
  rw [hof.1] at hclaimId
  rw [← hamount, hshare, ← Option.some.inj hclaimId]

/-- What the payout pass decides for a winner is its share. -/
lemma PrizeDrawn.payoutJobOf (h : PrizeDrawn spotId totalValue winners db) (hsorted : winners.Pairwise (· < ·))
    (hpositive : ∀ id ∈ winners, 0 < id) {claim : Claim P} (hwinner : claim.id ∈ winners) {job : PayoutJob}
    (hjob : NimHunt.payoutJobOf db (prizeAmountsByClaimId totalValue winners) claim = some job) :
    job.claimId = claim.id ∧ job.amount = prizeShare totalValue winners claim.id := by
  unfold NimHunt.payoutJobOf at hjob
  rw [lookup_prizeAmountsByClaimId totalValue hsorted hpositive hwinner] at hjob
  dsimp only [Option.getD_some] at hjob
  have hfinish : ∀ amount, amount = prizeShare totalValue winners claim.id →
      (if db.hasConfirmedClaimPayoutTransaction claim.id then none
        else if db.hasNonfailedClaimPayoutTransaction claim.id then none
        else if amount = 0 then none else some ⟨claim.id, amount⟩ : Option PayoutJob) = some job →
      job.claimId = claim.id ∧ job.amount = prizeShare totalValue winners claim.id := by
    intro amount hamount hdecided
    split_ifs at hdecided
    rw [← Option.some.inj hdecided]
    exact ⟨rfl, hamount⟩
  cases hlatest : db.latestFailedClaimPayoutAmount claim.id with
  | none =>
    rw [hlatest] at hjob
    exact hfinish _ rfl hjob
  | some failed =>
    rw [hlatest] at hjob
    cases failed with
    | zero => exact hfinish _ rfl hjob
    | succ n => exact hfinish _ (h.latestFailed hwinner hlatest) hjob

/-- A claim that turns SUCCESS stays among the winners by its payout row. -/
lemma PrizeDrawn.success (h : PrizeDrawn spotId totalValue winners db) {claimId : ℕ}
    (hpaid : claimId ∈ winners → ∃ t ∈ db.trans, t.type = .claim ∧ t.claimId = some claimId) :
    PrizeDrawn spotId totalValue winners (db.setClaimStatusToSuccess claimId) := by
  have hids : (db.setClaimStatusToSuccess claimId).claims.map Claim.id = db.claims.map Claim.id :=
    map_updateWhere fun _ => rfl
  refine ⟨by rw [hids]; exact h.claimKeys, ⟨h.ledger.keys, h.ledger.fresh, h.ledger.hashes, h.ledger.placed,
    h.ledger.active⟩, h.spot, ?_, ?_, h.rows⟩
  · intro c' hc' hspot hpending
    obtain ⟨c, hc, hrow⟩ := mem_updateWhere.mp hc'
    by_cases hsel : c.id = claimId
    · rw [if_pos (decide_eq_true hsel)] at hrow
      rw [← hrow] at hpending
      cases hpending
    · rw [if_neg (fun htrue => hsel (of_decide_eq_true htrue))] at hrow
      rw [← hrow] at hspot hpending ⊢
      exact h.pending c hc hspot hpending
  · intro id hwinner
    obtain ⟨c, hc, hid, hspot, hstands⟩ := h.winner id hwinner
    by_cases hsel : c.id = claimId
    · have hmem : c.withStatus db.now .success ∈ (db.setClaimStatusToSuccess claimId).claims :=
        mem_updateWhere.mpr ⟨c, hc, if_pos (decide_eq_true hsel)⟩
      have hclaim : claimId = id := hsel.symm.trans hid
      exact ⟨_, hmem, hid, hspot, .inr (hclaim ▸ hpaid (hclaim ▸ hwinner))⟩
    · have hmem : c ∈ (db.setClaimStatusToSuccess claimId).claims :=
        mem_updateWhere.mpr ⟨c, hc, if_neg fun htrue => hsel (of_decide_eq_true htrue)⟩
      exact ⟨c, hmem, hid, hspot, hstands⟩

lemma PrizeDrawn.recordPaidWinners {claims : List (Claim P)} (h : PrizeDrawn spotId totalValue winners db) :
    PrizeDrawn spotId totalValue winners (claims.foldl recordPaidWinner db) ∧
      (claims.foldl recordPaidWinner db).trans = db.trans := by
  induction claims generalizing db with
  | nil => exact ⟨h, rfl⟩
  | cons claim claims ih =>
    rw [List.foldl_cons]
    unfold recordPaidWinner
    by_cases hconfirmed : db.hasConfirmedClaimPayoutTransaction claim.id = true
    · rw [if_pos hconfirmed]
      apply ih
      apply h.success
      intro _
      obtain ⟨t, ht, hrow⟩ := List.any_eq_true.mp hconfirmed
      have hof := of_decide_eq_true hrow
      exact ⟨t, ht, hof.2.1, hof.1⟩
    · rw [if_neg hconfirmed]
      exact ih h

/-- A pass over the winners decides shares, and nothing else. -/
lemma PrizeDrawn.payoutPass (h : PrizeDrawn spotId totalValue winners db) (hsorted : winners.Pairwise (· < ·))
    (hpositive : ∀ id ∈ winners, 0 < id) :
    PrizeDrawn spotId totalValue winners (retryPendingPrizedrawPayoutsForSpot db spotId).1 ∧
      (retryPendingPrizedrawPayoutsForSpot db spotId).1.trans = db.trans ∧
      ∀ job ∈ (retryPendingPrizedrawPayoutsForSpot db spotId).2,
        job.claimId ∈ winners ∧ job.amount = prizeShare totalValue winners job.claimId := by
  obtain ⟨spot, hspot, hcompleted, htotal⟩ := h.spot
  have hboth : spot.status = .completed ∧ spot.prizeCount.isSome = true := of_decide_eq_true hcompleted
  have hnone : ¬ spot.prizeCount.isNone = true := by
    rw [Option.isNone_eq_false_iff.mpr hboth.2]
    exact Bool.false_ne_true
  unfold retryPendingPrizedrawPayoutsForSpot
  rw [hspot]
  dsimp only
  rw [if_neg (not_not_intro hboth.1), if_neg hnone, h.getPrizedrawWinnerClaimIds_eq hsorted, htotal]
  refine ⟨h.recordPaidWinners.1, h.recordPaidWinners.2, ?_⟩
  intro job hjob
  obtain ⟨claim, hclaim, hdecided⟩ := List.mem_filterMap.mp hjob
  have hpage : claim ∈ db.getPendingClaimsForSpot spotId := (List.perm_insertionSort _ _).mem_iff.mp hclaim
  have hrow := List.mem_filter.mp (page_subset hpage)
  have hof := of_decide_eq_true hrow.2
  have hwinner := h.pending claim hrow.1 hof.1 hof.2
  obtain ⟨hid, hamount⟩ := h.payoutJobOf hsorted hpositive hwinner hdecided
  rw [hid]
  exact ⟨hwinner, hamount⟩

end Winners

section Ledger

/-- A row as long as the table lasts: what it pays, and unless it is a deposit how much. -/
structure SameRow (t t' : Trans) : Prop where
  id : t'.id = t.id
  type : t'.type = t.type
  spotId : t'.spotId = t.spotId
  claimId : t'.claimId = t.claimId
  amount : t.type ≠ .fillSpot → t'.amount = t.amount

def RowsStay (db db' : Db P) : Prop := ∀ t ∈ db.trans, ∃ t' ∈ db'.trans, SameRow t t'

variable {cfg : Settings P} {db db' : Db P} {spotId totalValue : ℕ} {winners : List ℕ} {row : Trans}

lemma SameRow.refl (t : Trans) : SameRow t t := ⟨rfl, rfl, rfl, rfl, fun _ => rfl⟩

lemma RowsStay.of_eq (htrans : db'.trans = db.trans) : RowsStay db db' := fun t ht => ⟨t, htrans ▸ ht, .refl t⟩

/-- Another ledger under the same claims and Spots. -/
lemma PrizeDrawn.ledgerOnly (h : PrizeDrawn spotId totalValue winners db) (hframe : LedgerOnly db db')
    (hledger : LedgerSound db') (hstay : RowsStay db db')
    (hrows : ∀ t ∈ db'.trans, t.type = .claim → (t.spotId = some spotId ∨ ∃ id ∈ winners, t.claimId = some id) →
      t.PaysShare spotId totalValue winners) :
    PrizeDrawn spotId totalValue winners db' := by
  have hclaims : db'.claims = db.claims := by rw [hframe.same]
  refine ⟨by rw [hclaims]; exact h.claimKeys, hledger, by rw [hframe.getSpot]; exact h.spot, ?_, ?_, hrows⟩
  · rw [hclaims]
    exact h.pending
  · intro id hwinner
    obtain ⟨c, hc, hid, hspot, hstands⟩ := h.winner id hwinner
    refine ⟨c, hclaims ▸ hc, hid, hspot, hstands.imp_right ?_⟩
    rintro ⟨t, ht, htype, hclaimId⟩
    obtain ⟨t', ht', hsame⟩ := hstay t ht
    exact ⟨t', ht', hsame.type.trans htype, hsame.claimId.trans hclaimId⟩

lemma PrizeDrawn.insert {new : NewTrans} {transId : ℕ} (h : PrizeDrawn spotId totalValue winners db)
    (hplaced : new.Placed)
    (hnew : new.type = .claim → new.spotId = some spotId ∧
      ∃ id ∈ winners, new.claimId = some id ∧ new.amount = prizeShare totalValue winners id)
    (hmade : db.createTransaction new = (db', .ok transId)) :
    PrizeDrawn spotId totalValue winners db' ∧ RowsStay db db' := by
  obtain ⟨-, hdb, -, -⟩ := createTransaction_ok hmade
  have hstay : RowsStay db db' := by
    intro t ht
    refine ⟨t, ?_, .refl t⟩
    rw [hdb]
    exact List.mem_append_left _ ht
  refine ⟨h.ledgerOnly (createTransaction_ledgerOnly hmade) (h.ledger.insert hplaced hmade) hstay ?_, hstay⟩
  intro t ht htype hconcerns
  rw [hdb] at ht
  cases List.mem_append.mp ht with
  | inl hold => exact h.rows t hold htype hconcerns
  | inr hlast =>
    rw [List.mem_singleton.mp hlast] at htype ⊢
    exact hnew htype

/-- A row is settled; what the chain shows of it is what it says. -/
lemma PrizeDrawn.settled {status : TransStatus} {transfer : Option ChainTransfer} {transId : ℕ}
    (h : PrizeDrawn spotId totalValue winners db) (hframe : LedgerOnly db db')
    (hsettled : SettledTo status transfer transId db db')
    (hshown : ∀ t ∈ db.trans, t.id = transId → t.type ≠ .fillSpot → ∀ shown ∈ transfer, shown.amount = t.amount) :
    PrizeDrawn spotId totalValue winners db' ∧ RowsStay db db' := by
  obtain ⟨f, hrewritten, hsettles⟩ := hsettled.rewritten
  have hsame : ∀ t ∈ db.trans, t.id = transId → SameRow t (f t) := by
    intro t ht hid
    have hto := hsettles t ht hid
    refine ⟨hto.id, hto.type, hto.spotId, hto.claimId, ?_⟩
    intro htype
    cases hto.amount with
    | inl hkept => exact hkept
    | inr hchain =>
      obtain ⟨shown, hmem, hamount⟩ := hchain
      rw [hamount]
      exact hshown t ht hid htype shown hmem
  have hstay : RowsStay db db' := by
    intro t ht
    rw [hrewritten.trans]
    by_cases hid : t.id = transId
    · exact ⟨f t, mem_updateWhere.mpr ⟨t, ht, if_pos (decide_eq_true hid)⟩, hsame t ht hid⟩
    · exact ⟨t, mem_updateWhere.mpr ⟨t, ht, if_neg fun htrue => hid (of_decide_eq_true htrue)⟩, .refl t⟩
  refine ⟨h.ledgerOnly hframe (h.ledger.rewrite hrewritten) hstay ?_, hstay⟩
  intro t' ht' htype hconcerns
  have hfrom : ∃ t ∈ db.trans, SameRow t t' := by
    obtain ⟨t, ht, -, hcase⟩ := hrewritten.mem ht'
    cases hcase with
    | inl hother => exact ⟨t, ht, hother.2 ▸ .refl t⟩
    | inr hthis => exact ⟨t, ht, hthis.2 ▸ hsame t ht hthis.1⟩
  obtain ⟨t, ht, hrow⟩ := hfrom
  have hclaim : t.type = .claim := hrow.type.symm.trans htype
  rw [hrow.spotId, hrow.claimId] at hconcerns
  obtain ⟨hspot, id, hwinner, hclaimId, hamount⟩ := h.rows t ht hclaim hconcerns
  have hkept : t'.amount = t.amount := hrow.amount (by rw [hclaim]; nofun)
  exact ⟨hrow.spotId.trans hspot, id, hwinner, hrow.claimId.trans hclaimId, hkept.trans hamount⟩

/-- The cancellation of another Spot, if it is final now. -/
lemma PrizeDrawn.finalize (h : PrizeDrawn spotId totalValue winners db) (ofRow : Option ℕ) :
    PrizeDrawn spotId totalValue winners (finalizeCancelledSpotIfReady db ofRow) ∧
      (finalizeCancelledSpotIfReady db ofRow).trans = db.trans := by
  unfold finalizeCancelledSpotIfReady
  cases ofRow with
  | none => exact ⟨h, rfl⟩
  | some other =>
    dsimp only
    cases hother : db.getSpot other with
    | none => exact ⟨h, rfl⟩
    | some found =>
      dsimp only
      split_ifs with hfinal hprizedraw hready
      · exact ⟨h, rfl⟩
      · exact ⟨h, rfl⟩
      · refine ⟨⟨h.claimKeys, ⟨h.ledger.keys, h.ledger.fresh, h.ledger.hashes, h.ledger.placed, h.ledger.active⟩, ?_,
          h.pending, h.winner, h.rows⟩, rfl⟩
        obtain ⟨spot, hspot, hcompleted, htotal⟩ := h.spot
        have hstatus : spot.status = .completed := (of_decide_eq_true hcompleted).1
        have hne : spotId ≠ other := by
          intro heq
          rw [heq, hother] at hspot
          rw [Option.some.inj hspot] at hfinal
          exact hfinal ⟨by rw [hstatus]; nofun, by rw [hstatus]; nofun⟩
        have hid := getSpot_id hspot
        refine ⟨spot, ?_, hcompleted, htotal⟩
        unfold Db.getSpot at hspot ⊢
        unfold Db.modifySpotStatus
        have hkey : ∀ s : Spot P, ({ s with status := .cancelled } : Spot P).id = s.id := fun _ => rfl
        dsimp only
        rw [find?_updateWhere_key hkey, hspot]
        simp [hid, hne]
      · exact ⟨h, rfl⟩

lemma PrizeDrawn.orRollback {R : Type} {outcome : Outcome P R} (h : PrizeDrawn spotId totalValue winners db)
    (hmade : PrizeDrawn spotId totalValue winners outcome.1 ∧ RowsStay db outcome.1) :
    PrizeDrawn spotId totalValue winners (outcome.orRollback db).1 ∧ RowsStay db (outcome.orRollback db).1 := by
  obtain ⟨made, e | r⟩ := outcome
  · exact ⟨h, .of_eq rfl⟩
  · exact hmade

lemma PrizeDrawn.failed (h : PrizeDrawn spotId totalValue winners db) (row : Trans) :
    PrizeDrawn spotId totalValue winners (markTransAsFailed db row).1 ∧ RowsStay db (markTransAsFailed db row).1 := by
  have hnone : ∀ t ∈ db.trans, t.id = row.id → t.type ≠ .fillSpot →
      ∀ shown ∈ (none : Option ChainTransfer), shown.amount = t.amount := fun _ _ _ _ _ hshown => nomatch hshown
  have hfailed := h.settled (modifyTransactionStatus_ledgerOnly row.id .failed)
    (modifyTransactionStatus_settled h.ledger.keys) hnone
  unfold markTransAsFailed
  apply h.orRollback
  generalize db.modifyTransactionStatus row.id .failed = outcome at hfailed
  obtain ⟨mid, e | _⟩ := outcome
  · exact hfailed
  · obtain ⟨hfinal, htrans⟩ := hfailed.1.finalize row.spotId
    refine ⟨hfinal, ?_⟩
    unfold RowsStay
    dsimp only
    rw [htrans]
    exact hfailed.2

/-- What a confirmation has read of a row still holds of it. -/
structure RowRead (db : Db P) (row : Trans) (payout : Bool) : Prop where
  kept : ∃ t ∈ db.trans, SameRow row t
  claims : payout = true → row.type = .claim

lemma RowRead.stay {payout : Bool} (h : RowRead db row payout) (hstay : RowsStay db db') : RowRead db' row payout := by
  obtain ⟨t, ht, hsame⟩ := h.kept
  obtain ⟨t', ht', hsame'⟩ := hstay t ht
  refine ⟨⟨t', ht', ⟨hsame'.id.trans hsame.id, hsame'.type.trans hsame.type, hsame'.spotId.trans hsame.spotId,
    hsame'.claimId.trans hsame.claimId, ?_⟩⟩, h.claims⟩
  intro htype
  exact (hsame'.amount (hsame.type ▸ htype)).trans (hsame.amount htype)

lemma PrizeDrawn.confirmed (h : PrizeDrawn spotId totalValue winners db) {payout : Bool} (hread : RowRead db row payout)
    {transfer : ChainTransfer} (hverified : verifiedTransfer cfg row = some transfer) :
    PrizeDrawn spotId totalValue winners (markTransAsConfirmed db row transfer payout).1 ∧
      RowsStay db (markTransAsConfirmed db row transfer payout).1 := by
  obtain ⟨read, hmem, hsame⟩ := hread.kept
  have hshown : ∀ t ∈ db.trans, t.id = row.id → t.type ≠ .fillSpot → ∀ shown ∈ some transfer,
      shown.amount = t.amount := by
    intro t ht hid htype shown hin
    have heq : t = read := eq_of_key_eq h.ledger.keys ht hmem (hid.trans hsame.id.symm)
    rw [heq, hsame.type] at htype
    rw [heq, hsame.amount htype, ← Option.some.inj hin]
    exact (verifiedTransfer_chain hverified).2.2 htype
  have hmarked : ∀ status, PrizeDrawn spotId totalValue winners
        ((db.updateTransactionChainDetails row.id transfer).modifyTransactionStatus row.id status).1 ∧
      RowsStay db ((db.updateTransactionChainDetails row.id transfer).modifyTransactionStatus row.id status).1 := by
    intro status
    have hdetailed : SettledTo status (some transfer) row.id db (db.updateTransactionChainDetails row.id transfer) :=
      updateTransactionChainDetails_settled transfer
    have hkeys : ((db.updateTransactionChainDetails row.id transfer).trans.map Trans.id).Nodup :=
      hdetailed.keys ▸ h.ledger.keys
    exact h.settled
      ((updateTransactionChainDetails_ledgerOnly row.id transfer).then (modifyTransactionStatus_ledgerOnly row.id status))
      (hdetailed.then (modifyTransactionStatus_settled hkeys)) hshown
  unfold markTransAsConfirmed
  change PrizeDrawn spotId totalValue winners
      (Outcome.orRollback db (if fundingMismatch db row transfer then _ else _)).1 ∧
    RowsStay db (Outcome.orRollback db (if fundingMismatch db row transfer then _ else _)).1
  apply h.orRollback
  by_cases hmismatch : fundingMismatch db row transfer
  · rw [if_pos hmismatch]
    exact hmarked .failed
  · rw [if_neg hmismatch]
    have hconfirmed := hmarked .confirmed
    generalize (db.updateTransactionChainDetails row.id transfer).modifyTransactionStatus row.id .confirmed =
      outcome at hconfirmed
    obtain ⟨mid, e | _⟩ := outcome
    · exact hconfirmed
    · have hfinal : ∀ made : Db P, PrizeDrawn spotId totalValue winners made → made.trans = mid.trans →
          PrizeDrawn spotId totalValue winners (finalizeCancelledSpotIfReady made row.spotId) ∧
            RowsStay db (finalizeCancelledSpotIfReady made row.spotId) := by
        intro made hmade htrans
        obtain ⟨hfinal, hsametrans⟩ := hmade.finalize row.spotId
        refine ⟨hfinal, ?_⟩
        unfold RowsStay
        rw [hsametrans, htrans]
        exact hconfirmed.2
      dsimp only
      split
      · next claimId hclaimId =>
        refine hfinal (mid.setClaimStatusToSuccess claimId) (hconfirmed.1.success ?_) rfl
        intro _
        obtain ⟨t, ht, hstays⟩ := (hread.stay hconfirmed.2).kept
        exact ⟨t, ht, hstays.type.trans (hread.claims rfl), hstays.claimId.trans hclaimId⟩
      · exact hfinal mid hconfirmed.1 rfl

end Ledger

section Runs

/-- Nothing has been paid for the entries of a Spot: a payout pass looks at Prizedraws that are drawn only. -/
structure Unpaid (db : Db P) (spotId : ℕ) : Prop where
  spot : ∀ t ∈ db.trans, t.type = .claim → t.spotId ≠ some spotId
  claims : ∀ t ∈ db.trans, t.type = .claim → ∀ c ∈ db.claims, c.spotId = spotId → t.claimId ≠ some c.id

/-- The operations on one drawn Prizedraw: payout passes, and whatever becomes of their payouts. -/
def PaysPrize (spotId : ℕ) : Op P → Prop
  | .tick _ => True
  | .retryPrizedrawPayouts id => id = spotId
  | .confirmTrans _ => True
  | .failTrans _ => True
  | .resume _ _ => True
  | .crash _ => True
  | _ => False

/-- What is in flight: payouts of shares, and rows whose confirmation has begun. -/
def Continuation.CarriesShare (db : Db P) (totalValue : ℕ) (winners : List ℕ) : Continuation → Prop
  | .claimReward job => job.claimId ∈ winners ∧ job.amount = prizeShare totalValue winners job.claimId
  | .confirmation row payout => RowRead db row payout
  | _ => False

structure Sys.SharesOnly (spotId totalValue : ℕ) (winners : List ℕ) (s : Sys P) : Prop where
  drawn : PrizeDrawn spotId totalValue winners s.db
  carried : ∀ k ∈ s.inFlight, k.CarriesShare s.db totalValue winners

variable {cfg : Settings P} {db db' : Db P} {s : Sys P} {spotId totalValue : ℕ} {winners : List ℕ}

/-- The draw leaves the ledger alone. -/
lemma settlePrizedrawSpotIfReady_trans (sample : Sampler P) (db : Db P) (spotId : ℕ) :
    (settlePrizedrawSpotIfReady sample db spotId).1.trans = db.trans ∧
      (settlePrizedrawSpotIfReady sample db spotId).1.transSeq = db.transSeq := by
  unfold settlePrizedrawSpotIfReady
  cases db.getSpot spotId with
  | none => exact ⟨rfl, rfl⟩
  | some spot =>
    dsimp only
    by_cases hpublished : spot.status = .published
    · rw [if_neg (not_not_intro hpublished)]
      cases spot.prizeCount with
      | none => exact ⟨rfl, rfl⟩
      | some prizeCount =>
        dsimp only
        cases db.settlementReadyReason spot with
        | none => exact ⟨rfl, rfl⟩
        | some reason =>
          dsimp only
          unfold drawPrizedraw
          dsimp only
          split_ifs <;> exact ⟨rfl, rfl⟩
    · rw [if_pos hpublished]
      exact ⟨rfl, rfl⟩

lemma Claim.drawn_same (now spotId : ℕ) (winners : List ℕ) (c : Claim P) :
    (c.drawn now spotId winners).id = c.id ∧ (c.drawn now spotId winners).spotId = c.spotId := by
  unfold Claim.drawn
  by_cases hof : c.spotId = spotId
  · rw [if_pos hof]
    cases c.status with
    | pending => exact ⟨rfl, rfl⟩
    | success =>
      dsimp only
      split_ifs <;> exact ⟨rfl, rfl⟩
    | failed => exact ⟨rfl, rfl⟩
  · rw [if_neg hof]
    exact ⟨rfl, rfl⟩

lemma SettledWith.completed {spot : Spot P} {prizeCount : ℕ} {outcome : Outcome P SettlementResult}
    (h : SettledWith db spot winners outcome) (hdue : DrawDue db spot prizeCount) :
    ∃ spot', outcome.1.getSpot spot.id = some spot' ∧ spot'.isCompletedPrizedraw = true ∧
      spot'.totalValue = spot.totalValue := by
  refine ⟨{ spot with status := .completed }, ?_, ?_, rfl⟩
  · have hspot := hdue.found
    unfold Db.getSpot at hspot ⊢
    have hkey : ∀ s : Spot P, ({ s with status := .completed } : Spot P).id = s.id := fun _ => rfl
    rw [h.spots, find?_updateWhere_key hkey, hspot]
    simp
  · unfold Spot.isCompletedPrizedraw
    simp [hdue.prizedraw]

/-- After the draw the PENDING claims of the Spot are winners. -/
lemma SettledWith.pending {spot : Spot P} {outcome : Outcome P SettlementResult}
    (h : SettledWith db spot winners outcome) {c' : Claim P} (hc' : c' ∈ outcome.1.claims) (hspot : c'.spotId = spot.id)
    (hpending : c'.status = .pending) : c'.id ∈ winners := by
  rw [h.claims] at hc'
  obtain ⟨c, hc, hrow⟩ := List.mem_map.mp hc'
  rw [← hrow] at hspot hpending ⊢
  rw [(c.drawn_same db.now spot.id winners).2] at hspot
  rw [(c.drawn_same db.now spot.id winners).1]
  unfold Claim.drawn at hpending
  rw [if_pos hspot] at hpending
  cases hstatus : c.status with
  | pending =>
    rw [hstatus] at hpending
    cases hpending
  | failed =>
    rw [hstatus] at hpending
    exact absurd (hstatus.symm.trans hpending) (by decide)
  | success =>
    rw [hstatus] at hpending
    dsimp only at hpending
    by_cases hwon : c.id ∈ winners
    · exact hwon
    · rw [if_neg hwon, hstatus] at hpending
      cases hpending

/-- After the draw the winners are PENDING. -/
lemma SettledWith.winner {spot : Spot P} {outcome : Outcome P SettlementResult}
    (h : SettledWith db spot winners outcome) {id : ℕ} (hwinner : id ∈ winners)
    (hentered : ∃ c ∈ entries db spot.id, c.id = id) :
    ∃ c ∈ outcome.1.claims, c.id = id ∧ c.spotId = spot.id ∧ c.status = .pending := by
  obtain ⟨c, hc, hcid⟩ := hentered
  have hrow := List.mem_filter.mp hc
  have hof := of_decide_eq_true hrow.2
  have hmem : c.drawn db.now spot.id winners ∈ outcome.1.claims := by
    rw [h.claims]
    exact List.mem_map_of_mem hrow.1
  have hsame := c.drawn_same db.now spot.id winners
  refine ⟨_, hmem, hsame.1.trans hcid, hsame.2.trans hof.1, ?_⟩
  unfold Claim.drawn
  rw [if_pos hof.1, hof.2]
  dsimp only
  rw [if_pos (hcid ▸ hwinner)]
  rfl

/-- The draw fixes the winners. -/
lemma prizeDrawn_of_settled {spot : Spot P} {prizeCount : ℕ} {sample : Sampler P} (hkeyed : db.Keyed)
    (hledger : LedgerSound db) (hdue : DrawDue db spot prizeCount) (hunpaid : Unpaid db spot.id)
    (hentered : ∀ id ∈ winners, ∃ c ∈ entries db spot.id, c.id = id)
    (hsettled : SettledWith db spot winners (settlePrizedrawSpotIfReady sample db spot.id)) :
    PrizeDrawn spot.id spot.totalValue winners (settlePrizedrawSpotIfReady sample db spot.id).1 := by
  obtain ⟨htrans, hseq⟩ := settlePrizedrawSpotIfReady_trans sample db spot.id
  generalize settlePrizedrawSpotIfReady sample db spot.id = outcome at hsettled htrans hseq ⊢
  refine ⟨?_, ?_, hsettled.completed hdue, fun c hc => hsettled.pending hc, ?_, ?_⟩
  · rw [hsettled.claims, List.map_map]
    have hkeys : Claim.id ∘ Claim.drawn db.now spot.id winners = (Claim.id : Claim P → ℕ) := by
      funext c
      exact (c.drawn_same db.now spot.id winners).1
    rw [hkeys]
    exact hkeyed.claimKeys
  · exact ⟨htrans ▸ hledger.keys, by rw [htrans, hseq]; exact hledger.fresh, htrans ▸ hledger.hashes,
      htrans ▸ hledger.placed, htrans ▸ hledger.active⟩
  · intro id hwinner
    obtain ⟨c, hc, hid, hof, hpending⟩ := hsettled.winner hwinner (hentered id hwinner)
    exact ⟨c, hc, hid, hof, .inl hpending⟩
  · intro t ht htype hconcerns
    rw [htrans] at ht
    cases hconcerns with
    | inl hspot => exact absurd hspot (hunpaid.spot t ht htype)
    | inr hclaim =>
      obtain ⟨id, hwinner, hclaimId⟩ := hclaim
      obtain ⟨c, hc, hcid⟩ := hentered id hwinner
      have hrow := List.mem_filter.mp hc
      exact absurd (hclaimId.trans (by rw [hcid])) (hunpaid.claims t ht htype c hrow.1 (of_decide_eq_true hrow.2).1)

lemma Continuation.CarriesShare.stay {k : Continuation} (h : k.CarriesShare db totalValue winners)
    (hstay : RowsStay db db') : k.CarriesShare db' totalValue winners := by
  cases k with
  | claimReward job => exact h
  | confirmation row payout => exact RowRead.stay h hstay
  | _ => exact h.elim

lemma Sys.SharesOnly.move (h : s.SharesOnly spotId totalValue winners) {tasks : List Continuation}
    (hdrawn : PrizeDrawn spotId totalValue winners db) (hstay : RowsStay s.db db) (hsub : tasks ⊆ s.inFlight) :
    Sys.SharesOnly spotId totalValue winners ⟨db, tasks⟩ :=
  ⟨hdrawn, fun k hk => (h.carried k (hsub hk)).stay hstay⟩

/-- A payout that is sent is recorded with its share, or not at all. -/
lemma PrizeDrawn.submit (h : PrizeDrawn spotId totalValue winners db) {job : PayoutJob}
    (hwinner : job.claimId ∈ winners) (hamount : job.amount = prizeShare totalValue winners job.claimId)
    (txHash : String) :
    PrizeDrawn spotId totalValue winners (submitClaimRewardTransaction cfg db job txHash).1 ∧
      RowsStay db (submitClaimRewardTransaction cfg db job txHash).1 := by
  have hinserts : Inserts _ db (submitClaimRewardTransaction cfg db job txHash) :=
    submitClaimRewardTransaction_insertsFor job txHash
  generalize submitClaimRewardTransaction cfg db job txHash = outcome at hinserts
  cases hinserts with
  | refused e => exact ⟨h, .of_eq rfl⟩
  | made hmade hrow =>
    obtain ⟨⟨htype, hclaimId, -, hpaid⟩, claim, hclaim, hspot⟩ := hrow
    have hof : claim.spotId = spotId := by
      obtain ⟨c, hc, hid, hcspot, -⟩ := h.winner job.claimId hwinner
      have hfound := (find?_key_eq_some h.claimKeys).mpr ⟨hc, hid⟩
      rw [← Option.some.inj (hfound.symm.trans hclaim)]
      exact hcspot
    apply h.insert _ _ hmade
    · refine ⟨fun _ => by rw [hclaimId]; rfl, ?_⟩
      intro honce
      rw [htype] at honce
      cases honce
    · intro _
      exact ⟨hspot.trans (by rw [hof]), job.claimId, hwinner, hclaimId, hpaid.trans hamount⟩

lemma Sys.SharesOnly.step (h : s.SharesOnly spotId totalValue winners) (hsorted : winners.Pairwise (· < ·))
    (hpositive : ∀ id ∈ winners, 0 < id) {op : Op P} (hop : PaysPrize spotId op) :
    (step cfg s op).SharesOnly spotId totalValue winners := by
  cases op with
  | tick seconds =>
    have hlater : PrizeDrawn spotId totalValue winners { s.db with now := s.db.now + seconds } :=
      ⟨h.drawn.claimKeys, ⟨h.drawn.ledger.keys, h.drawn.ledger.fresh, h.drawn.ledger.hashes, h.drawn.ledger.placed,
        h.drawn.ledger.active⟩, h.drawn.spot, h.drawn.pending, h.drawn.winner, h.drawn.rows⟩
    exact h.move hlater (.of_eq rfl) (List.Subset.refl _)
  | retryPrizedrawPayouts id =>
    have hid : id = spotId := hop
    rw [hid]
    obtain ⟨hdrawn, htrans, hjobs⟩ := h.drawn.payoutPass hsorted hpositive
    have hmoved := h.move hdrawn (.of_eq htrans) (List.Subset.refl _)
    refine ⟨hdrawn, ?_⟩
    intro k hk
    cases List.mem_append.mp hk with
    | inl hold => exact hmoved.carried k hold
    | inr hnew =>
      obtain ⟨job, hjob, heq⟩ := List.mem_map.mp hnew
      rw [← heq]
      exact hjobs job hjob
  | confirmTrans transId =>
    unfold NimHunt.step
    dsimp only
    cases hrow : s.db.getTransaction transId with
    | none => exact h
    | some row =>
      dsimp only
      split_ifs
      · exact h
      · refine ⟨h.drawn, ?_⟩
        intro k hk
        cases List.mem_append.mp hk with
        | inl hold => exact h.carried k hold
        | inr hnew =>
          rw [List.mem_singleton.mp hnew]
          refine ⟨⟨row, List.mem_of_find?_eq_some hrow, .refl row⟩, ?_⟩
          intro hpayout
          unfold claimTransactionIsCompletedPrizedrawPayout at hpayout
          exact of_decide_eq_true (Bool.and_eq_true_iff.mp hpayout).1
  | failTrans transId =>
    unfold NimHunt.step
    dsimp only
    cases s.db.getTransaction transId with
    | none => exact h
    | some row =>
      obtain ⟨hdrawn, hstay⟩ := h.drawn.failed row
      exact h.move hdrawn hstay (List.Subset.refl _)
  | resume index reply =>
    unfold NimHunt.step
    dsimp only
    cases htask : s.inFlight[index]? with
    | none => exact h
    | some k =>
      have hsub : s.inFlight.eraseIdx index ⊆ s.inFlight := (List.eraseIdx_sublist _ _).subset
      have hcarried := h.carried k (List.mem_of_getElem? htask)
      have hdone : ∀ db, PrizeDrawn spotId totalValue winners db → RowsStay s.db db →
          Sys.SharesOnly spotId totalValue winners ⟨db, s.inFlight.eraseIdx index ++ []⟩ := by
        intro db hdrawn hstay
        rw [List.append_nil]
        exact h.move hdrawn hstay hsub
      cases k with
      | claimReward job =>
        obtain ⟨hdrawn, hstay⟩ := h.drawn.submit hcarried.1 hcarried.2 reply.txHash
        exact hdone _ hdrawn hstay
      | confirmation row payout =>
        dsimp only
        unfold NimHunt.resume
        dsimp only
        cases hverified : verifiedTransfer cfg row with
        | none => exact hdone _ h.drawn (.of_eq rfl)
        | some transfer =>
          obtain ⟨hdrawn, hstay⟩ := h.drawn.confirmed hcarried hverified
          exact hdone _ hdrawn hstay
      | _ => exact hcarried.elim
  | crash index => exact h.move h.drawn (.of_eq rfl) (List.eraseIdx_sublist _ _).subset
  | _ => exact hop.elim

/-- With a confirmed payout for every winner the confirmed payouts are the whole prize. -/
lemma PrizeDrawn.total (h : PrizeDrawn spotId totalValue winners db) (hsorted : winners.Pairwise (· < ·))
    (hsome : winners ≠ []) (hall : ∀ id ∈ winners, db.hasConfirmedClaimPayoutTransaction id = true) :
    NimHunt.total .claim .confirmed (db.transOfSpot spotId) = totalValue := by
  have hnodup : winners.Nodup := hsorted.imp fun hlt => hlt.ne
  have hrow : ∀ t ∈ (db.transOfSpot spotId).filter fun t => t.type = .claim ∧ t.status = .confirmed,
      t ∈ db.trans ∧ t.type = .claim ∧ t.status = .confirmed ∧
        ∃ id ∈ winners, t.claimId = some id ∧ t.amount = prizeShare totalValue winners id := by
    intro t ht
    have hof := of_decide_eq_true (List.mem_filter.mp ht).2
    have hmem := List.mem_filter.mp (List.mem_filter.mp ht).1
    exact ⟨hmem.1, hof.1, hof.2, (h.rows t hmem.1 hof.1 (.inl (of_decide_eq_true hmem.2))).2⟩
  unfold NimHunt.total
  generalize hrows : (db.transOfSpot spotId).filter (fun t => t.type = .claim ∧ t.status = .confirmed) = rows at hrow
  have hamounts : rows.map Trans.amount = (rows.map fun t => t.claimId.getD 0).map (prizeShare totalValue winners) := by
    rw [List.map_map]
    apply List.map_congr_left
    intro t ht
    obtain ⟨-, -, -, id, -, hclaimId, hamount⟩ := hrow t ht
    rw [hamount, Function.comp_apply, hclaimId]
    rfl
  -- One confirmed row a winner, by the unique index on active payouts.
  have hids : (rows.map fun t => t.claimId.getD 0).Nodup := by
    have hnodupRows : rows.Nodup := by
      rw [← hrows]
      exact ((List.Nodup.of_map _ h.ledger.keys).filter _).filter _
    refine List.Nodup.map_on ?_ hnodupRows
    intro t ht u hu heq
    obtain ⟨hmem, htype, hstatus, id, -, hclaimId, -⟩ := hrow t ht
    obtain ⟨hmem', htype', hstatus', id', -, hclaimId', -⟩ := hrow u hu
    rw [hclaimId, hclaimId'] at heq
    have hsame : id = id' := heq
    have hleg : t.SameLeg u := ⟨htype.trans htype'.symm, .inl ⟨htype, by rw [hclaimId, hclaimId', hsame]⟩⟩
    have hactive := h.ledger.active t hmem u hmem' hleg (by rw [hstatus]; nofun) (by rw [hstatus']; nofun)
    exact eq_of_key_eq h.ledger.keys hmem hmem' hactive
  have hperm : (rows.map fun t => t.claimId.getD 0).Perm winners := by
    apply (List.perm_ext_iff_of_nodup hids hnodup).mpr
    intro id
    constructor
    · intro hid
      obtain ⟨t, ht, heq⟩ := List.mem_map.mp hid
      obtain ⟨-, -, -, winner, hwinner, hclaimId, -⟩ := hrow t ht
      rw [hclaimId] at heq
      rw [← heq]
      exact hwinner
    · intro hwinner
      obtain ⟨t, ht, hconfirmed⟩ := List.any_eq_true.mp (hall id hwinner)
      have hof := of_decide_eq_true hconfirmed
      have hpays := h.rows t ht hof.2.1 (.inr ⟨id, hwinner, hof.1⟩)
      refine List.mem_map.mpr ⟨t, ?_, by rw [hof.1]; rfl⟩
      rw [← hrows]
      exact List.mem_filter.mpr ⟨List.mem_filter.mpr ⟨ht, decide_eq_true hpays.1⟩, decide_eq_true hof.2⟩
  rw [hamounts, (hperm.map _).sum_eq]
  exact sum_prizeShare totalValue hsorted hsome

/-- The draw commits, and its winners are entries, in the order of their ids. -/
lemma exists_winners {spot : Spot P} {prizeCount : ℕ} {sample : Sampler P} (hkeyed : db.Keyed)
    (hdue : DrawDue db spot prizeCount) (hsample : IsSampler sample) :
    ∃ winners : List ℕ, winners.Pairwise (· < ·) ∧ (∀ id ∈ winners, ∃ c ∈ entries db spot.id, c.id = id) ∧
      SettledWith db spot winners (settlePrizedrawSpotIfReady sample db spot.id) := by
  have hsettled := settle_page hkeyed hdue hsample
  have hwinners := isWinnerSet_page hkeyed hsample
    (min_le_right (max 1 prizeCount) (db.getSuccessfulClaimsForSpot spot.id).length)
  generalize (sample (db.getSuccessfulClaimsForSpot spot.id) _).map Claim.id = drawn at hsettled hwinners
  have hperm : drawn.Perm (drawn.insertionSort (· ≤ ·)) := (List.perm_insertionSort _ _).symm
  refine ⟨drawn.insertionSort (· ≤ ·), ?_, ?_, hsettled.congr hperm⟩
  · have hle := List.pairwise_insertionSort (· ≤ ·) drawn
    have hne : (drawn.insertionSort (· ≤ ·)).Nodup := hperm.nodup_iff.mp hwinners.nodup
    exact (hle.and hne).imp fun hboth => lt_of_le_of_ne hboth.1 hboth.2
  · exact fun id hid => hwinners.entered id (hperm.mem_iff.mpr hid)

/-- From the draw on every payout of a winner is of its share, and the confirmed ones add up to the prize. -/
theorem prize_division {spot : Spot P} {prizeCount : ℕ} {sample : Sampler P} (hkeyed : db.Keyed)
    (hledger : LedgerSound db) (hsample : IsSampler sample) (hdue : DrawDue db spot prizeCount)
    (hunpaid : Unpaid db spot.id) {ops : List (Op P)} (hops : ∀ op ∈ ops, PaysPrize spot.id op) :
    ∃ winners : List ℕ, winners.Pairwise (· < ·) ∧
      SettledWith db spot winners (settlePrizedrawSpotIfReady sample db spot.id) ∧
      let s := run (step cfg) ⟨(settlePrizedrawSpotIfReady sample db spot.id).1, []⟩ ops
      (∀ t ∈ s.db.trans, t.type = .claim → t.spotId = some spot.id →
        ∃ id ∈ winners, t.claimId = some id ∧ t.amount = prizeShare spot.totalValue winners id) ∧
      (∀ job, .claimReward job ∈ s.inFlight →
        job.claimId ∈ winners ∧ job.amount = prizeShare spot.totalValue winners job.claimId) ∧
      (winners ≠ [] → (∀ id ∈ winners, s.db.hasConfirmedClaimPayoutTransaction id = true) →
        NimHunt.total .claim .confirmed (s.db.transOfSpot spot.id) = spot.totalValue) := by
  obtain ⟨winners, hsorted, hentered, hcommitted⟩ := exists_winners hkeyed hdue hsample
  have hpositive : ∀ id ∈ winners, 0 < id := by
    intro id hid
    obtain ⟨c, hc, hcid⟩ := hentered id hid
    rw [← hcid]
    exact (hkeyed.claimFresh c (List.mem_filter.mp hc).1).1
  refine ⟨winners, hsorted, hcommitted, ?_⟩
  have hpreserved : ∀ (s : Sys P) (op : Op P), PaysPrize spot.id op →
      s.SharesOnly spot.id spot.totalValue winners →
      (step cfg s op).SharesOnly spot.id spot.totalValue winners :=
    fun _ _ hop h => h.step hsorted hpositive hop
  have hinitial : Sys.SharesOnly spot.id spot.totalValue winners
      ⟨(settlePrizedrawSpotIfReady sample db spot.id).1, []⟩ :=
    ⟨prizeDrawn_of_settled hkeyed hledger hdue hunpaid hentered hcommitted, fun k hk => nomatch hk⟩
  have hrun : Admissible (step cfg) (fun _ op => PaysPrize spot.id op)
      ⟨(settlePrizedrawSpotIfReady sample db spot.id).1, []⟩ ops :=
    admissible_of_forall (fun op hmem _ => hops op hmem) _
  have hsound := run_invariant hpreserved hrun hinitial
  refine ⟨?_, fun job hjob => hsound.carried _ hjob, fun hsome hall => hsound.drawn.total hsorted hsome hall⟩
  intro t ht htype hspot
  exact (hsound.drawn.rows t ht htype (.inl hspot)).2

end Runs

section Witness

/-- Three entries for two prizes out of five Luna. -/
def fiveLuna : Db Unit :=
  { raffle 3 with spots := [{ raffle.raffleSpot with totalValue := 5, prizeCount := some 2 }] }

/-- The chain shows the second payout and the first one as it was sent again. -/
def Settings.twoPayouts : Settings Unit :=
  { Settings.onePlace with
    chainTransfer := fun txHash =>
      if txHash = "second" then some ⟨"NQ07 DEPOSIT", "NQ07 PAYOUT", 2⟩
      else if txHash = "again" then some ⟨"NQ07 DEPOSIT", "NQ07 PAYOUT", 3⟩
      else none }

/-- Both prizes are sent, the first payout fails, the second is confirmed, and the first is sent again. -/
def paidInTwoPasses : List (Op Unit) :=
  [.retryPrizedrawPayouts 1, .resume 0 { txHash := "first" }, .resume 0 { txHash := "second" }, .failTrans 1,
    .confirmTrans 2, .resume 0 {}, .retryPrizedrawPayouts 1, .resume 0 { txHash := "again" }, .confirmTrans 3,
    .resume 0 {}]

lemma isSampler_take : IsSampler (fun claims k => claims.take k : Sampler P) where
  length _ _ hk := by rw [List.length_take, min_eq_left hk]
  nodup _ _ hnodup _ := hnodup.sublist (List.take_sublist _ _)
  subset _ _ _ := List.take_subset _ _

theorem prize_division_five :
    total .claim .confirmed ((run (step Settings.twoPayouts)
      ⟨(settlePrizedrawSpotIfReady (fun claims k => claims.take k) fiveLuna 1).1, []⟩
      paidInTwoPasses).db.transOfSpot 1) = 5 := by
  have hkeyed : fiveLuna.Keyed :=
    { raffle_keyed 3 with spotKeys := List.nodup_singleton _ }
  have hledger : LedgerSound fiveLuna := ⟨List.nodup_nil, nofun, nofun, nofun, nofun⟩
  have hdue : DrawDue fiveLuna { raffle.raffleSpot with totalValue := 5, prizeCount := some 2 } 2 :=
    ⟨rfl, rfl, rfl, "spot_ended", rfl⟩
  have hdrawn : (settlePrizedrawSpotIfReady (fun claims k => claims.take k) fiveLuna 1).2 =
      .ok ⟨true, "spot_ended", 0, 3, [1, 2]⟩ := by decide +kernel
  have hops : ∀ op ∈ paidInTwoPasses, PaysPrize 1 op := by
    intro op hop
    simp only [paidInTwoPasses, List.mem_cons, List.not_mem_nil, or_false] at hop
    obtain rfl | rfl | rfl | rfl | rfl | rfl | rfl | rfl | rfl | rfl := hop <;> trivial
  obtain ⟨winners, hsorted, hsettled, -, -, htotal⟩ :=
    @prize_division _ Settings.twoPayouts _ _ _ _ hkeyed hledger isSampler_take hdue ⟨nofun, nofun⟩ _ hops
  obtain ⟨result, hok, -, hids⟩ := hsettled.result
  have hresult := Except.ok.inj (hok.symm.trans hdrawn)
  have hperm : [1, 2].Perm winners := by
    rw [hresult] at hids
    exact hids
  apply htotal
  · intro hnone
    rw [hnone] at hperm
    exact absurd hperm.length_eq (by decide)
  · intro id hid
    have hconfirmed : ∀ id ∈ [1, 2], (run (step Settings.twoPayouts)
        ⟨(settlePrizedrawSpotIfReady (fun claims k => claims.take k) fiveLuna 1).1, []⟩
        paidInTwoPasses).db.hasConfirmedClaimPayoutTransaction id = true := by decide +kernel
    exact hconfirmed id (hperm.mem_iff.mpr hid)

end Witness

end NimHunt
