import NimHunt.Proofs.BooksLedger

/-!
# The flows that move money

Each flow decides on the newest page of a Spot's rows.  The account covers every earlier payment by itself, so the page
never shows more than there is; what a flow decides to spend is then within what is free.
-/

namespace NimHunt

open Lib Relation

variable {P : Type}

section Settling

variable {cfg : Settings P} {db : Db P}

lemma Proceeds.orRollback {R : Type} {outcome : Outcome P R} (hbooks : Books db) (h : Proceeds cfg db outcome.1) :
    Proceeds cfg db (outcome.orRollback db).1 := by
  obtain ⟨made, e | r⟩ := outcome
  · exact .refl hbooks
  · exact h

lemma proceeds_markTransAsFailed (hbooks : Books db) (row : Trans) : Proceeds cfg db (markTransAsFailed db row).1 := by
  have hledger : LedgerOnly db (db.modifyTransactionStatus row.id .failed).1 := modifyTransactionStatus_ledgerOnly ..
  have hsettled : SettledTo .failed none row.id db (db.modifyTransactionStatus row.id .failed).1 :=
    modifyTransactionStatus_settled hbooks.numbered.keyed.transKeys
  have hfailed : Proceeds cfg db (db.modifyTransactionStatus row.id .failed).1 :=
    proceeds_settled hbooks hsettled hledger fun _ _ _ _ hshown => nomatch hshown
  unfold markTransAsFailed
  apply Proceeds.orRollback hbooks
  generalize db.modifyTransactionStatus row.id .failed = outcome at hfailed
  obtain ⟨mid, e | _⟩ := outcome
  · exact hfailed
  · exact hfailed.then (proceeds_finalize hfailed.books row.spotId)

/-- A row is confirmed with the transfer the chain shows; a winner paid by it leaves PENDING. -/
lemma proceeds_markTransAsConfirmed (hbooks : Books db) {row t : Trans} (hread : StillRead cfg db row)
    {transfer : ChainTransfer} (hverified : verifiedTransfer cfg row = some transfer) {payout : Bool}
    (hpays : payout = true → db.PaysDrawnClaim row) (ht : t ∈ db.trans) (hsameRow : PayoutKept row t)
    (hclaim : payout = true → row.type = .claim) :
    Proceeds cfg db (markTransAsConfirmed db row transfer payout).1 := by
  have hkeys := hbooks.numbered.keyed.transKeys
  have hchain : ∀ u ∈ db.trans, u.id = row.id → ∀ shown ∈ some transfer,
      cfg.chainTransfer u.txHash = some shown ∧ u.Agrees shown := by
    intro u hu hid shown hshown
    obtain ⟨v, hv, hvid, hhash, hagrees⟩ := hread
    have hsame : u = v := eq_of_key_eq hkeys hu hv (hid.trans hvid.symm)
    rw [← Option.some.inj hshown, hsame, hhash]
    exact ⟨(verifiedTransfer_chain hverified).1, hagrees transfer hverified⟩
  have hdetailed : ∀ status, SettledTo status (some transfer) row.id db (db.updateTransactionChainDetails row.id transfer) :=
    fun _ => updateTransactionChainDetails_settled transfer
  have hdone : ∀ status, Proceeds cfg db
      ((db.updateTransactionChainDetails row.id transfer).modifyTransactionStatus row.id status).1 := by
    intro status
    have hset : SettledTo status (some transfer) row.id (db.updateTransactionChainDetails row.id transfer)
        ((db.updateTransactionChainDetails row.id transfer).modifyTransactionStatus row.id status).1 :=
      modifyTransactionStatus_settled ((hdetailed status).keys ▸ hkeys)
    exact proceeds_settled hbooks ((hdetailed status).then hset) ((updateTransactionChainDetails_ledgerOnly ..).then
      (modifyTransactionStatus_ledgerOnly ..)) hchain
  have hledger : LedgerOnly db
      ((db.updateTransactionChainDetails row.id transfer).modifyTransactionStatus row.id .confirmed).1 :=
    (updateTransactionChainDetails_ledgerOnly ..).then (modifyTransactionStatus_ledgerOnly ..)
  have hrows : PayoutRows (fun _ => False) db (db.updateTransactionChainDetails row.id transfer) :=
    (hdetailed .confirmed).payoutRows
  obtain ⟨shown, hshown, hsame⟩ := hrows.stay t ht
  have hmarked : ∀ mid, (db.updateTransactionChainDetails row.id transfer).modifyTransactionStatus row.id .confirmed =
      (mid, .ok ()) → ∃ t' ∈ mid.trans, t'.type = shown.type ∧ t'.claimId = shown.claimId ∧ t'.status = .confirmed :=
    fun mid hmade => modifyTransactionStatus_ok ((hdetailed .confirmed).keys ▸ hkeys) hmade hshown
      (hsame.id.trans hsameRow.id)
  unfold markTransAsConfirmed
  change Proceeds cfg db (Outcome.orRollback db (if fundingMismatch db row transfer then _ else _)).1
  apply Proceeds.orRollback hbooks
  by_cases hmismatch : fundingMismatch db row transfer
  · rw [if_pos hmismatch]
    exact hdone .failed
  · rw [if_neg hmismatch]
    have hconfirmed := hdone .confirmed
    generalize (db.updateTransactionChainDetails row.id transfer).modifyTransactionStatus row.id .confirmed =
      outcome at hconfirmed hledger hmarked
    obtain ⟨mid, e | _⟩ := outcome
    · exact hconfirmed
    · dsimp only
      split
      · next claimId hclaimId =>
        obtain ⟨claim, hfound, hdrawn⟩ := hpays rfl claimId hclaimId
        have hid := getClaim_id hfound
        subst hid
        obtain ⟨t', ht', htype, hpaysClaim, hstatus⟩ := hmarked mid rfl
        have hpaid : mid.hasConfirmedClaimPayoutTransaction claim.id = true := by
          refine hasConfirmed_iff.mpr ⟨t', ht', ?_, ?_, hstatus⟩
          · exact hpaysClaim.trans (hsame.claimId.trans (hsameRow.claimId.trans hclaimId))
          · exact htype.trans (hsame.type.trans (hsameRow.type.trans (hclaim rfl)))
        have hlater : mid.getClaim claim.id = some claim := (hledger.getClaim claim.id).trans hfound
        have hrecorded : Proceeds cfg mid (mid.setClaimStatusToSuccess claim.id) :=
          proceeds_paid hconfirmed.books hlater (hledger.prizedrawIsDrawn hdrawn) hpaid
        have hboth := hconfirmed.then hrecorded
        exact hboth.then (proceeds_finalize hboth.books row.spotId)
      · exact hconfirmed.then (proceeds_finalize hconfirmed.books row.spotId)

end Settling

section Pages

variable {db : Db P} {spot : Spot P}

/-- What of the totals has not failed is confirmed where nothing is pending. -/
lemma total_eq_spent {type : TransType} {rows : List Trans}
    (hnone : ∀ t ∈ rows, t.type = type → t.status ≠ .pending) :
    total type .confirmed rows = sumBy (Trans.spent type) rows := by
  rw [total_eq_sumBy]
  apply sumBy_congr
  intro t ht
  unfold Trans.spent
  by_cases htype : t.type = type
  · have hopen := hnone t ht htype
    cases hstatus : t.status with
    | pending => exact absurd hstatus hopen
    | confirmed => simp [htype]
    | failed => simp
  · simp [htype]

lemma Books.newestFirst (hbooks : Books db) (spotId : ℕ) : (db.transOfSpot spotId).Pairwise fun x y => ¬ x.Newer y := by
  refine (hbooks.ordered.filter _).imp ?_
  intro x y h hnewer
  unfold Trans.Newer at hnewer
  omega

/-- The page shows no more of the balance than there is, whichever payments it counts. -/
lemma page_balance_le (hbooks : Books db) (hspot : db.getSpot spot.id = some spot) {debit : Trans → ℕ}
    (hdebit : ∀ t, debit t ≤ t.outgoing) :
    total .fillSpot .confirmed (db.getTransactionsBySpot spot.id maxLimit) -
        sumBy debit (db.getTransactionsBySpot spot.id maxLimit) ≤
      (db.account spot).income - sumBy debit (db.account spot).rows := by
  have hcovered := (hbooks.sound spot.id spot hspot).covered.mono fun t _ => hdebit t
  have hpage := hcovered.page_le (hbooks.newestFirst spot.id) (clampLimit maxLimit)
  rw [total_eq_sumBy]
  exact hpage

/-- Once each payee has a payout that has not failed, nothing more than these payouts is owed. -/
lemma owed_le_active {a : Account} (h : a.Sound) (hbanned : a.status ≠ .banned)
    (hpaid : ∀ id ∈ a.payees, ∃ t ∈ a.rows, t.payee = some id) : a.promised ≤ a.active .claim := by
  have hshares : ∀ id ∈ a.payees, ∃ t ∈ a.rows, t.payee = some id ∧ a.share id ≤ t.spent .claim := by
    intro id hid
    obtain ⟨t, ht, hpayee⟩ := hpaid id hid
    obtain ⟨hactive, hclaimId⟩ := Account.payee_eq_some.mp hpayee
    obtain ⟨id', -, hid', hamount⟩ := h.payouts hbanned t ht (Account.isActive_iff.mp hactive).1
    refine ⟨t, ht, hpayee, ?_⟩
    rw [Account.spent_of_isActive hactive, hamount, ← Option.some.inj (hclaimId.symm.trans hid')]
  unfold Account.promised
  rw [if_neg hbanned]
  exact shares_le_sumBy hshares

/-- An active payout of a claim is among the rows of its Spot. -/
lemma payee_of_nonfailed (hbooks : Books db) {c : Claim P} (hc : c ∈ db.claims) (hof : c.spotId = spot.id)
    (hpaid : db.hasNonfailedClaimPayoutTransaction c.id = true) :
    ∃ t ∈ (db.account spot).rows, t.payee = some c.id := by
  obtain ⟨t, ht, hrow⟩ := List.any_eq_true.mp hpaid
  obtain ⟨hclaimId, htype, hstatus⟩ := of_decide_eq_true hrow
  have hspotId := hbooks.sameSpot ht htype hc hclaimId
  refine ⟨t, List.mem_filter.mpr ⟨ht, decide_eq_true (hof ▸ hspotId)⟩, ?_⟩
  exact Account.payee_eq_some.mpr ⟨Account.isActive_iff.mpr ⟨htype, hstatus⟩, hclaimId⟩

lemma nonfailed_of_confirmed {id : ℕ} (h : db.hasConfirmedClaimPayoutTransaction id = true) :
    db.hasNonfailedClaimPayoutTransaction id = true := by
  obtain ⟨t, ht, hclaimId, htype, hstatus⟩ := hasConfirmed_iff.mp h
  refine List.any_eq_true.mpr ⟨t, ht, decide_eq_true ⟨hclaimId, htype, ?_⟩⟩
  rw [hstatus]
  nofun

lemma claims_and_fee_le (t : Trans) : t.spent .claim + t.spent .creationFee ≤ t.outgoing := by
  rw [Account.outgoing_eq]
  omega

/-- What a cancellation finds on the page is free. -/
lemma remainingCancellable_le_free (hbooks : Books db) (hspot : db.getSpot spot.id = some spot)
    (hbanned : spot.status ≠ .banned)
    (hclear : (db.getTransactionsBySpot spot.id maxLimit).any Trans.blocksCancellation = false)
    (hpaid : ∀ id ∈ (db.account spot).payees, ∃ t ∈ (db.account spot).rows, t.payee = some id) :
    remainingCancellableTotal (db.getTransactionsBySpot spot.id maxLimit) ≤ (db.account spot).free := by
  have hopen : ∀ t ∈ db.getTransactionsBySpot spot.id maxLimit, t.type = .claim ∨ t.type = .creationFee →
      t.status ≠ .pending := by
    intro t ht htype hpending
    have hfree : t.blocksCancellation = false := by simpa using List.any_eq_false.mp hclear t ht
    refine of_decide_eq_false hfree ⟨hpending, ?_⟩
    exact htype.imp_right fun h => .inr (.inr h)
  have hbalance := page_balance_le hbooks hspot claims_and_fee_le
  have howed := owed_le_active (hbooks.sound spot.id spot hspot) hbanned hpaid
  rw [sumBy_add, sumBy_add] at hbalance
  unfold remainingCancellableTotal
  rw [total_eq_spent fun t ht htype => hopen t ht (.inl htype), total_eq_spent fun t ht htype => hopen t ht (.inr htype)]
  unfold Account.free Account.active at *
  omega

lemma remainder_debit_le (t : Trans) :
    t.spent .claim + t.spent .creationFee + t.spent .remainderRefund ≤ t.outgoing := by
  rw [Account.outgoing_eq]
  omega

/-- So is the remainder of a finished Spot. -/
lemma remainderAmount_le_free (hbooks : Books db) (hspot : db.getSpot spot.id = some spot)
    (hbanned : spot.status ≠ .banned)
    (hclear : (db.getTransactionsBySpot spot.id maxLimit).any Trans.blocksRemainder = false)
    (hpaid : ∀ id ∈ (db.account spot).payees, ∃ t ∈ (db.account spot).rows, t.payee = some id) :
    remainderAmount (db.getTransactionsBySpot spot.id maxLimit) ≤ (db.account spot).free := by
  have hopen : ∀ t ∈ db.getTransactionsBySpot spot.id maxLimit,
      t.type = .claim ∨ t.type = .creationFee ∨ t.type = .remainderRefund → t.status ≠ .pending := by
    intro t ht htype hpending
    have hfree : t.blocksRemainder = false := by simpa using List.any_eq_false.mp hclear t ht
    exact of_decide_eq_false hfree ⟨hpending, .inr htype⟩
  have hbalance := page_balance_le hbooks hspot remainder_debit_le
  have howed := owed_le_active (hbooks.sound spot.id spot hspot) hbanned hpaid
  rw [sumBy_add, sumBy_add, sumBy_add, sumBy_add] at hbalance
  unfold remainderAmount
  rw [total_eq_spent fun t ht htype => hopen t ht (.inl htype),
    total_eq_spent fun t ht htype => hopen t ht (.inr (.inl htype)),
    total_eq_spent fun t ht htype => hopen t ht (.inr (.inr htype))]
  unfold Account.free Account.active at *
  omega

/-- What a sweep finds on the page has not been spent. -/
lemma spent_add_remaining_le (hbooks : Books db) (hspot : db.getSpot spot.id = some spot)
    (hclear : (financialState (db.getTransactionsBySpot spot.id maxLimit)).pending = []) :
    (db.account spot).spent + (financialState (db.getTransactionsBySpot spot.id maxLimit)).remaining ≤
      (db.account spot).income := by
  have hopen : ∀ t ∈ db.getTransactionsBySpot spot.id maxLimit, t.status ≠ .pending := by
    intro t ht hpending
    have hmem : t ∈ (financialState (db.getTransactionsBySpot spot.id maxLimit)).pending :=
      List.mem_filter.mpr ⟨ht, decide_eq_true hpending⟩
    rw [hclear] at hmem
    cases hmem
  have hbalance := page_balance_le hbooks hspot fun t => le_refl t.outgoing
  have hsolvent := (hbooks.sound spot.id spot hspot).spent_le_income
  have hspent : (((db.getTransactionsBySpot spot.id maxLimit).filter fun t =>
      t.type ≠ .fillSpot ∧ t.status = .confirmed).map Trans.amount).sum =
      sumBy Trans.outgoing (db.getTransactionsBySpot spot.id maxLimit) := by
    have hfiltered := sumBy_filter (fun t : Trans => decide (t.type ≠ .fillSpot ∧ t.status = .confirmed)) Trans.amount
      (db.getTransactionsBySpot spot.id maxLimit)
    refine hfiltered.trans (sumBy_congr ?_)
    intro t ht
    unfold Trans.outgoing
    cases hstatus : t.status with
    | pending => exact absurd hstatus (hopen t ht)
    | confirmed => simp
    | failed => simp
  unfold financialState
  dsimp only
  rw [hspent]
  unfold Account.spent at *
  omega

end Pages

end NimHunt
