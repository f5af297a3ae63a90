import NimHunt.Proofs.BooksSpots

/-!
# The ledger in the books

A row is inserted when the account of its Spot may be pushed, and settled as the chain shows it; each flow's own checks
in the inserting transaction, with what was promised before, are what the account asks for.
-/

namespace NimHunt

open Lib Relation

variable {P : Type}

section Inserted

variable {cfg : Settings P} {db db' : Db P} {row : NewTrans} {transId : ℕ} {spot : Spot P}

/-- The unique index leaves no active row of the leg. -/
lemma clear_of_made (hmade : db.createTransaction row = (db', .ok transId)) (hof : row.spotId = some spot.id)
    (honce : row.type.oncePerSpot = true) : (db.account spot).Clear row.type := by
  obtain ⟨-, -, -, htwins⟩ := createTransaction_ok hmade
  intro t ht
  obtain ⟨hmem, hspotId⟩ := List.mem_filter.mp ht
  have hnone := htwins t hmem
  unfold NewTrans.activeTwin at hnone
  by_contra hactive
  obtain ⟨htype, hstatus⟩ := Account.isActive_iff.mp (Bool.eq_true_of_not_eq_false hactive)
  have hleg : row.spotId.isSome = true := by rw [hof]; rfl
  have hsame : t.spotId = row.spotId := (of_decide_eq_true hspotId).trans hof.symm
  exact of_decide_eq_false hnone ⟨htype, hstatus, .inr ⟨honce, hleg, hsame⟩⟩

/-- Nor of the payout of the claim. -/
lemma unpaid_of_made (hmade : db.createTransaction row = (db', .ok transId)) (htype : row.type = .claim) {claimId : ℕ}
    (hclaimId : row.claimId = some claimId) : ∀ t ∈ (db.account spot).rows, t.payee ≠ some claimId := by
  obtain ⟨-, -, -, htwins⟩ := createTransaction_ok hmade
  intro t ht hpaid
  have hnone := htwins t (List.mem_filter.mp ht).1
  obtain ⟨hactive, hid⟩ := Account.payee_eq_some.mp hpaid
  obtain ⟨htype', hstatus⟩ := Account.isActive_iff.mp hactive
  have hsome : row.claimId.isSome = true := by rw [hclaimId]; rfl
  unfold NewTrans.activeTwin at hnone
  exact of_decide_eq_false hnone
    ⟨htype'.trans htype.symm, hstatus, .inl ⟨htype, hsome, hid.trans hclaimId.symm⟩⟩

/-- A payout is booked to its claim, and on a drawn Prizedraw to a winner. -/
def PaysOutClaim (db : Db P) (spot : Spot P) (row : NewTrans) : Prop :=
  row.type = .claim → ∃ claim ∈ db.claims, row.claimId = some claim.id ∧ claim.spotId = spot.id ∧
    (spot.isCompletedPrizedraw = true → claim.id ∈ db.getPrizedrawWinnerClaimIds spot.id)

/-- A new row goes on one account. -/
lemma proceeds_inserted (hbooks : Books db) (hmade : db.createTransaction row = (db', .ok transId))
    (hspot : db.getSpot spot.id = some spot) (hof : row.spotId = some spot.id) (hpays : PaysOutClaim db spot row)
    (hstep : ∀ t : Trans, t.status = .pending → t.type = row.type → t.claimId = row.claimId → t.amount = row.amount →
      (db.account spot).Step ((db.account spot).push t)) : Proceeds cfg db db' := by
  have hnumbered : Numbered db' :=
    ((createTransaction_ledgerOnly hmade).write cfg .all).numbered hbooks.numbered
  have hconfirmed : ∀ id, db.hasConfirmedClaimPayoutTransaction id = true →
      db'.hasConfirmedClaimPayoutTransaction id = true := by
    intro id
    have hkept : PayoutRows (fun _ => True) db db' := payoutRows_insert hmade fun _ _ _ => trivial
    exact hkept.hasConfirmed
  obtain ⟨hid, hdb, -, -⟩ := createTransaction_ok hmade
  set t : Trans := {
    id := transId, userId := row.userId, spotId := row.spotId, claimId := row.claimId, type := row.type,
    amount := row.amount, fromAddress := row.fromAddress, toAddress := row.toAddress, txHash := row.txHash,
    status := .pending, createdAt := db.now } with ht
  have htrans : db'.trans = db.trans ++ [t] := by rw [hdb]
  have hspots : db'.spots = db.spots := by rw [hdb]
  have hclaims : db'.claims = db.claims := by rw [hdb]
  have hget : ∀ spotId, db'.getSpot spotId = db.getSpot spotId := by
    intro spotId
    unfold Db.getSpot
    rw [hspots]
  have hsuccess : ∀ spotId, db'.successIds spotId = db.successIds spotId := by
    intro spotId
    unfold Db.successIds
    rw [hclaims]
  have hrows : ∀ spotId, db'.transOfSpot spotId = if spotId = spot.id then db.transOfSpot spotId ++ [t]
      else db.transOfSpot spotId := by
    intro spotId
    unfold Db.transOfSpot
    rw [htrans, List.filter_append]
    split_ifs with hsame
    · rw [List.filter_cons_of_pos (by simp [ht, hof, hsame]), List.filter_nil]
    · rw [List.filter_cons_of_neg (by simp [ht, hof, Ne.symm hsame]), List.filter_nil, List.append_nil]
  have hwinners : ∀ s : Spot P, db.getSpot s.id = some s → s.isCompletedPrizedraw = true →
      db'.getPrizedrawWinnerClaimIds s.id = db.getPrizedrawWinnerClaimIds s.id := by
    intro s hs hdrawn
    apply winnerIds_congr
    intro id
    rw [@mem_winnerIds _ db', htrans, hclaims]
    constructor
    · rintro (hwaits | ⟨u, hu, hclaimId, hspotId, htype⟩)
      · exact mem_winnerIds.mpr (.inl hwaits)
      · rcases List.mem_append.mp hu with hold | hnew
        · exact mem_winnerIds.mpr (.inr ⟨u, hold, hclaimId, hspotId, htype⟩)
        · rw [List.mem_singleton.mp hnew] at hclaimId hspotId htype
          obtain ⟨claim, -, hid', -, hwinner⟩ := hpays htype
          have hsame : spot.id = s.id := Option.some.inj (hof.symm.trans hspotId)
          rw [hsame, hs] at hspot
          obtain rfl := Option.some.inj hspot
          rw [← Option.some.inj (hid'.symm.trans hclaimId)]
          exact hwinner hdrawn
    · intro hmem
      rcases mem_winnerIds.mp hmem with hwaits | ⟨u, hu, hrest⟩
      · exact .inl hwaits
      · exact .inr ⟨u, List.mem_append_left _ hu, hrest⟩
  have haccounts : AccountsMove db db' := by
    refine .of_spots hspots ?_
    intro s hs
    have hpolicy : db'.cancellationPolicy s.id = db.cancellationPolicy s.id := by rw [hdb]
    by_cases hsame : s.id = spot.id
    · obtain rfl : s = spot := by
        rw [hsame] at hs
        exact Option.some.inj (hs.symm.trans hspot)
      have haccount : db'.account s = (db.account s).push t := by
        unfold Db.account Account.push
        simp only [hrows, hsuccess, hpolicy, if_pos]
        by_cases hstandard : s.prizeCount = none
        · simp only [if_pos hstandard]
        · by_cases hcompleted : s.status = .completed
          · have hdrawn : s.isCompletedPrizedraw = true :=
              decide_eq_true ⟨hcompleted, Option.isSome_iff_ne_none.mpr hstandard⟩
            simp only [if_pos hcompleted, hwinners s hs hdrawn]
          · simp only [if_neg hcompleted]
      rw [haccount]
      exact .single (hstep t rfl rfl rfl rfl)
    · have hother : db'.transOfSpot s.id = db.transOfSpot s.id := by rw [hrows, if_neg hsame]
      rw [account_congr s hother (fun _ => hsuccess s.id) (hwinners s hs) hpolicy]
  refine ⟨⟨haccounts, ?_, ?_⟩, .of_spots hspots (by rw [hdb]) (by rw [hdb])⟩
  · constructor
    · exact hnumbered
    · intro spotId s hs
      obtain ⟨found, hfound, hsteps⟩ := haccounts.stays spotId s (hget spotId ▸ hs)
      obtain rfl := Option.some.inj (hs.symm.trans hfound)
      exact hsteps.sound (hbooks.sound spotId s (hget spotId ▸ hs))
    · rw [htrans, List.pairwise_append]
      refine ⟨hbooks.ordered, List.pairwise_singleton _ _, ?_⟩
      intro old hold new hnew
      rw [List.mem_singleton.mp hnew]
      have hfresh := hbooks.numbered.keyed.transFresh old hold
      exact ⟨hbooks.dated old hold, by change old.id < transId; omega⟩
    · have hnow : db'.now = db.now := by rw [hdb]
      rw [htrans, hnow]
      intro u hu
      rcases List.mem_append.mp hu with hold | hnew
      · exact hbooks.dated u hold
      · rw [List.mem_singleton.mp hnew]
    · rw [htrans]
      intro u hu spotId hspotId
      rw [hget]
      rcases List.mem_append.mp hu with hold | hnew
      · exact hbooks.placed u hold spotId hspotId
      · rw [List.mem_singleton.mp hnew] at hspotId
        rw [← Option.some.inj (hof.symm.trans hspotId), hspot]
        rfl
    · rw [hclaims]
      simp only [hget]
      exact hbooks.entered
    · rw [htrans, hclaims]
      intro u hu htype
      rcases List.mem_append.mp hu with hold | hnew
      · exact hbooks.booked u hold htype
      · rw [List.mem_singleton.mp hnew] at htype ⊢
        obtain ⟨claim, hclaim, hclaimId, hspotId, -⟩ := hpays htype
        exact ⟨claim, hclaim, hclaimId, hspotId ▸ hof⟩
    · rw [hclaims]
      simp only [hget]
      exact hbooks.quiet
    · rw [htrans, hclaims]
      intro u hu htype spotId s hspotId hs hdrawn id hclaimId
      rw [hget] at hs
      have hold : ∀ v ∈ db.trans, v.type = .claim → v.spotId = some spotId → v.claimId = some id →
          (∃ c ∈ db.claims, c.id = id ∧ c.status = .pending) ∨ db'.hasConfirmedClaimPayoutTransaction id = true := by
        intro v hv hvtype hvspot hvclaim
        exact (hbooks.paidOut v hv hvtype spotId s hvspot hs hdrawn id hvclaim).imp_right (hconfirmed id)
      rcases List.mem_append.mp hu with hmem | hnew
      · exact hold u hmem htype hspotId hclaimId
      · rw [List.mem_singleton.mp hnew] at htype hspotId hclaimId
        obtain ⟨claim, -, hid', -, hwinner⟩ := hpays htype
        have hsame : spot.id = spotId := Option.some.inj (hof.symm.trans hspotId)
        rw [← hsame, hspot] at hs
        obtain rfl := Option.some.inj hs
        rw [Option.some.inj (hid'.symm.trans hclaimId)] at hwinner
        rcases mem_winnerIds.mp (hwinner hdrawn) with ⟨c, hc, hcid, -, hwaits⟩ | ⟨v, hv, hvclaim, hvspot, hvtype⟩
        · exact .inl ⟨c, hc, hcid, hwaits⟩
        · exact hold v hv hvtype (hsame ▸ hvspot) hvclaim
    · simp only [hget]
      exact hbooks.drawable
  · rintro read ⟨u, hu, hrest⟩
    exact ⟨u, htrans ▸ List.mem_append_left _ hu, hrest⟩

end Inserted

section Settled

variable {cfg : Settings P} {db db' : Db P} {status : TransStatus} {transfer : Option ChainTransfer} {transId : ℕ}

/-- What the chain shows of a row settles its entry on the account. -/
lemma settles_of_settlesTo {t t' : Trans} (h : SettlesTo status transfer t t') (hchain : ∀ shown ∈ transfer, t.Agrees shown) :
    Account.Settles t t' := by
  constructor
  · exact h.type
  · exact h.claimId
  · intro hactive
    rcases h.status with hsame | ⟨hpending, -⟩
    · exact hsame ▸ hactive
    · rw [hpending]
      nofun
  · intro hconfirmed
    rcases h.status with hsame | ⟨hpending, -⟩
    · exact hsame.trans hconfirmed
    · rw [hpending] at hconfirmed
      cases hconfirmed
  · intro htype
    rcases h.amount with hsame | ⟨shown, hshown, hamount⟩
    · exact hsame
    · exact hamount.trans ((hchain shown hshown).outgoing htype)
  · intro htype _
    rcases h.amount with hsame | ⟨shown, hshown, hamount⟩
    · exact hsame.ge
    · rw [hamount]
      exact (hchain shown hshown).deposit htype

/-- A row is settled as the chain shows it. -/
lemma proceeds_settled (hbooks : Books db) (hsettled : SettledTo status transfer transId db db')
    (hledger : LedgerOnly db db') (hchain : ∀ t ∈ db.trans, t.id = transId → ∀ shown ∈ transfer,
      cfg.chainTransfer t.txHash = some shown ∧ t.Agrees shown) : Proceeds cfg db db' := by
  have hnumbered : Numbered db' := (hledger.write cfg .all).numbered hbooks.numbered
  have hconfirmed : ∀ id, db.hasConfirmedClaimPayoutTransaction id = true →
      db'.hasConfirmedClaimPayoutTransaction id = true := by
    intro id
    have hkept : PayoutRows (fun _ => True) db db' := hsettled.payoutRows
    exact hkept.hasConfirmed
  obtain ⟨-, f, htrans, hrow⟩ := hsettled
  obtain ⟨g, hg⟩ : ∃ g : Trans → Trans, g = fun t => if t.id = transId then f t else t := ⟨_, rfl⟩
  have hmap : db'.trans = db.trans.map g := by
    rw [htrans, hg]
    unfold updateWhere
    simp only [decide_eq_true_eq]
  have hgrow : ∀ t ∈ db.trans, SettlesTo status transfer t (g t) := by
    intro t ht
    rw [hg]
    dsimp only
    split_ifs with hsame
    · exact hrow t ht hsame
    · exact .refl status transfer t
  have hback : ∀ t' ∈ db'.trans, ∃ t ∈ db.trans, SettlesTo status transfer t t' := by
    intro t' ht'
    rw [hmap] at ht'
    obtain ⟨t, ht, rfl⟩ := List.mem_map.mp ht'
    exact ⟨t, ht, hgrow t ht⟩
  have hget : ∀ spotId, db'.getSpot spotId = db.getSpot spotId := hledger.getSpot
  have hclaims : db'.claims = db.claims := by rw [hledger.same]
  have hspots : db'.spots = db.spots := by rw [hledger.same]
  have hpolicies : db'.cancellationPolicy = db.cancellationPolicy := by rw [hledger.same]
  have hrows : ∀ spotId, db'.transOfSpot spotId = (db.transOfSpot spotId).map g := by
    intro spotId
    unfold Db.transOfSpot
    rw [hmap, List.filter_map]
    congr 1
    apply List.filter_congr
    intro t ht
    simp only [Function.comp, (hgrow t ht).spotId]
  have hsuccess : ∀ spotId, db'.successIds spotId = db.successIds spotId := by
    intro spotId
    unfold Db.successIds
    rw [hclaims]
  have hwinners : ∀ spotId, db'.getPrizedrawWinnerClaimIds spotId = db.getPrizedrawWinnerClaimIds spotId := by
    intro spotId
    apply winnerIds_congr
    intro id
    rw [mem_winnerIds, mem_winnerIds, hclaims]
    refine or_congr_right ?_
    constructor
    · rintro ⟨t', ht', hclaimId, hspotId, htype⟩
      obtain ⟨t, ht, hsame⟩ := hback t' ht'
      exact ⟨t, ht, hsame.claimId ▸ hclaimId, hsame.spotId ▸ hspotId, hsame.type ▸ htype⟩
    · rintro ⟨t, ht, hclaimId, hspotId, htype⟩
      have hsame := hgrow t ht
      exact ⟨g t, hmap ▸ List.mem_map_of_mem ht, hsame.claimId.trans hclaimId, hsame.spotId.trans hspotId,
        hsame.type.trans htype⟩
  have haccounts : AccountsMove db db' := by
    refine .of_spots hspots ?_
    intro s hs
    have haccount : db'.account s = { db.account s with rows := (db.account s).rows.map g } := by
      unfold Db.account
      simp only [hrows, hsuccess, hwinners, hpolicies]
    rw [haccount]
    refine .single ⟨.settled g ?_, fun h => h⟩
    intro t ht
    have hmem : t ∈ db.trans := (List.mem_filter.mp ht).1
    by_cases hsame : t.id = transId
    · exact settles_of_settlesTo (hgrow t hmem) fun shown hshown => (hchain t hmem hsame shown hshown).2
    · have hg' : g t = t := by rw [hg]; exact if_neg hsame
      rw [hg']
      exact ⟨rfl, rfl, fun h => h, fun h => h, fun _ => rfl, fun _ _ => le_rfl⟩
  refine ⟨⟨haccounts, ?_, ?_⟩, .of_spots hspots (by rw [hledger.same]) hpolicies⟩
  · constructor
    · exact hnumbered
    · intro spotId s hs
      obtain ⟨found, hfound, hsteps⟩ := haccounts.stays spotId s (hget spotId ▸ hs)
      obtain rfl := Option.some.inj (hs.symm.trans hfound)
      exact hsteps.sound (hbooks.sound spotId s (hget spotId ▸ hs))
    · rw [hmap, List.pairwise_map]
      refine hbooks.ordered.imp_of_mem ?_
      intro a b ha hb hab
      rw [(hgrow a ha).createdAt, (hgrow b hb).createdAt, (hgrow a ha).id, (hgrow b hb).id]
      exact hab
    · have hnow : db'.now = db.now := by rw [hledger.same]
      rw [hnow]
      intro t' ht'
      obtain ⟨t, ht, hsame⟩ := hback t' ht'
      rw [hsame.createdAt]
      exact hbooks.dated t ht
    · intro t' ht' spotId hspotId
      obtain ⟨t, ht, hsame⟩ := hback t' ht'
      rw [hget]
      exact hbooks.placed t ht spotId (hsame.spotId ▸ hspotId)
    · rw [hclaims]
      simp only [hget]
      exact hbooks.entered
    · rw [hclaims]
      intro t' ht' htype
      obtain ⟨t, ht, hsame⟩ := hback t' ht'
      rw [hsame.claimId, hsame.spotId]
      exact hbooks.booked t ht (hsame.type ▸ htype)
    · rw [hclaims]
      simp only [hget]
      exact hbooks.quiet
    · rw [hclaims]
      intro t' ht' htype spotId s hspotId hs hdrawn id hclaimId
      obtain ⟨t, ht, hsame⟩ := hback t' ht'
      rw [hget] at hs
      exact (hbooks.paidOut t ht (hsame.type ▸ htype) spotId s (hsame.spotId ▸ hspotId) hs hdrawn id
        (hsame.claimId ▸ hclaimId)).imp_right (hconfirmed id)
    · simp only [hget]
      exact hbooks.drawable
  · rintro row ⟨t, ht, hid, hhash, hagrees⟩
    have hsame := hgrow t ht
    refine ⟨g t, hmap ▸ List.mem_map_of_mem ht, hsame.id.trans hid, hsame.txHash.trans hhash, ?_⟩
    intro seen hverified
    have hbefore := hagrees seen hverified
    rcases hsame.amount with hkept | ⟨shown, hshown, hamount⟩
    · exact ⟨fun htype => hkept ▸ hbefore.deposit (hsame.type ▸ htype), fun htype =>
        (hbefore.outgoing (hsame.type ▸ htype)).trans hkept.symm⟩
    · by_cases hof : t.id = transId
      · have hsaw := (verifiedTransfer_chain hverified).1
        rw [← hhash, (hchain t ht hof shown hshown).1] at hsaw
        rw [Option.some.inj hsaw] at hamount
        exact ⟨fun _ => hamount.le, fun _ => hamount.symm⟩
      · have hg' : g t = t := by rw [hg]; exact if_neg hof
        rw [hg']
        exact hbefore

end Settled

end NimHunt
