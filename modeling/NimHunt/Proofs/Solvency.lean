import NimHunt.Proofs.BooksLeases
import NimHunt.Proofs.SpotLives

/-!
# Solvency

No run spends more for a Spot than was paid in for it, and outside a ban what its claimants are owed is never spent on
anything else.  Three things would break this, and the runs here leave them out: a winner that a heartbeat settles
before it is paid, a claim that comes due under a cancellation, and a remainder that is sent after a sweep.
-/

namespace NimHunt

open Lib

variable {P : Type}

section Deletion

variable {cfg : Settings P} {db : Db P} {spot : Spot P} {spotId : ℕ}

lemma booked_of_unbooked {t : Trans} {id : ℕ} (h : (t.unbooked spotId).spotId = some id) :
    t.spotId = some id ∧ id ≠ spotId := by
  simpa [Trans.unbooked, Option.filter_eq_some_iff] using h

lemma transOfSpot_deleteSpot (hunclaimed : ∀ c ∈ db.claims, c.spotId ≠ spotId) {id : ℕ} (hother : id ≠ spotId) :
    (db.deleteSpot spotId).transOfSpot id = db.transOfSpot id := by
  have hpred : (fun t : Trans => decide (t.spotId = some id)) ∘ Trans.unbooked spotId =
      fun t => decide (t.spotId = some id) := by
    funext t
    by_cases hof : t.spotId = some spotId
    · simp [Trans.unbooked, hof, hother.symm]
    · rw [Function.comp_apply, unbooked_eq_self hof]
  unfold Db.transOfSpot
  rw [deleteSpot_trans hunclaimed, List.filter_map, hpred, List.map_congr_left, List.map_id]
  intro t ht
  have hof : t.spotId = some id := of_decide_eq_true (List.mem_filter.mp ht).2
  exact unbooked_eq_self fun hdeleted => hother (Option.some.inj (hof.symm.trans hdeleted))

/-- The accounts of the other Spots stay as they are. -/
lemma account_deleteSpot (hunclaimed : ∀ c ∈ db.claims, c.spotId ≠ spotId) {other : Spot P} (hother : other.id ≠ spotId) :
    (db.deleteSpot spotId).account other = db.account other := by
  have hrows := transOfSpot_deleteSpot hunclaimed hother
  have hclaims := deleteSpot_claims hunclaimed
  apply account_congr other hrows
  · intro _
    unfold Db.successIds
    rw [hclaims]
  · intro _
    apply winnerIds_congr
    intro id
    have hpaid : ∀ made : Db P, (∃ t ∈ made.trans, t.claimId = some id ∧ t.spotId = some other.id ∧ t.type = .claim) ↔
        ∃ t ∈ made.transOfSpot other.id, t.claimId = some id ∧ t.type = .claim := by
      intro made
      simp only [Db.transOfSpot, List.mem_filter, decide_eq_true_eq]
      constructor
      · rintro ⟨t, ht, hid, hof, htype⟩
        exact ⟨t, ⟨ht, hof⟩, hid, htype⟩
      · rintro ⟨t, ⟨ht, hof⟩, hid, htype⟩
        exact ⟨t, ht, hid, hof, htype⟩
    rw [mem_winnerIds, mem_winnerIds, hpaid, hpaid, hrows, hclaims]
  · exact if_neg hother

lemma hasConfirmedClaimPayoutTransaction_deleteSpot (hunclaimed : ∀ c ∈ db.claims, c.spotId ≠ spotId) (claimId : ℕ) :
    (db.deleteSpot spotId).hasConfirmedClaimPayoutTransaction claimId =
      db.hasConfirmedClaimPayoutTransaction claimId := by
  unfold Db.hasConfirmedClaimPayoutTransaction
  rw [deleteSpot_trans hunclaimed, List.any_map]
  rfl

/-- The books without a draft that nothing was paid into. -/
lemma books_deleteSpot (hbooks : Books db) (hspot : db.getSpot spot.id = some spot) (hdraft : spot.status = .draft)
    (hnumbered : Numbered (db.deleteSpot spot.id)) : Books (db.deleteSpot spot.id) := by
  have hunclaimed : ∀ c ∈ db.claims, c.spotId ≠ spot.id := Db.Placed.unclaimed hbooks.entered hspot hdraft
  have hclaims := deleteSpot_claims hunclaimed
  have htrans := deleteSpot_trans hunclaimed
  refine {
    numbered := hnumbered
    sound := ?_, ordered := ?_, dated := ?_, placed := ?_, entered := ?_, booked := ?_, quiet := ?_, paidOut := ?_
    drawable := ?_ }
  · intro id other hother
    obtain ⟨hid, hother⟩ := getSpot_of_deleteSpot hother
    rw [account_deleteSpot hunclaimed (by rw [getSpot_id hother]; exact hid)]
    exact hbooks.sound id other hother
  · rw [htrans]
    exact List.pairwise_map.mpr hbooks.ordered
  · intro t ht
    rw [htrans] at ht
    obtain ⟨row, hrow, rfl⟩ := List.mem_map.mp ht
    exact hbooks.dated row hrow
  · intro t ht id hof
    rw [htrans] at ht
    obtain ⟨row, hrow, rfl⟩ := List.mem_map.mp ht
    obtain ⟨hof, hid⟩ := booked_of_unbooked hof
    rw [getSpot_deleteSpot, if_neg hid]
    exact hbooks.placed row hrow id hof
  · intro c hc
    rw [hclaims] at hc
    obtain ⟨found, hfound, hplaced⟩ := hbooks.entered c hc
    exact ⟨found, getSpot_deleteSpot_of_placed hspot hdraft hfound hplaced, hplaced⟩
  · intro t ht htype
    rw [htrans] at ht
    obtain ⟨row, hrow, rfl⟩ := List.mem_map.mp ht
    obtain ⟨claim, hclaim, hclaimId, hof⟩ := hbooks.booked row hrow htype
    refine ⟨claim, hclaims.symm ▸ hclaim, hclaimId, ?_⟩
    rw [unbooked_eq_self]
    · exact hof
    · exact fun hdeleted => hunclaimed claim hclaim (Option.some.inj (hof.symm.trans hdeleted))
  · intro c hc hpending found hfound
    rw [hclaims] at hc
    exact hbooks.quiet c hc hpending found (getSpot_of_deleteSpot hfound).2
  · intro t ht htype id found hof hfound hcompleted claimId hclaimId
    rw [htrans] at ht
    obtain ⟨row, hrow, rfl⟩ := List.mem_map.mp ht
    rw [hclaims, hasConfirmedClaimPayoutTransaction_deleteSpot hunclaimed]
    exact hbooks.paidOut row hrow htype id found (booked_of_unbooked hof).1 (getSpot_of_deleteSpot hfound).2 hcompleted
      claimId hclaimId
  · intro id found hfound
    exact hbooks.drawable id found (getSpot_of_deleteSpot hfound).2

lemma honours_deleteSpot (hunclaimed : ∀ c ∈ db.claims, c.spotId ≠ spotId) {id : ℕ} (hother : id ≠ spotId) {p : Promise}
    (hkept : db.Honours id p) : (db.deleteSpot spotId).Honours id p := by
  obtain ⟨found, hfound, hkept⟩ := hkept
  refine ⟨found, by rw [getSpot_deleteSpot, if_neg hother]; exact hfound, ?_⟩
  rw [account_deleteSpot hunclaimed (by rw [getSpot_id hfound]; exact hother)]
  exact hkept

/-- A draft that nothing was paid into promises no sends. -/
lemma not_honours_unfunded (hspot : db.getSpot spot.id = some spot) (hdraft : spot.status = .draft)
    (hunfunded : ∀ t ∈ db.transOfSpot spot.id, t.type ≠ .fillSpot) {p : Promise} (hkept : db.Honours spot.id p) :
    ∃ claimId amount, p = .reward claimId amount := by
  obtain ⟨found, hfound, hkept⟩ := hkept
  obtain rfl := Option.some.inj (hspot.symm.trans hfound)
  cases p with
  | reward claimId amount => exact ⟨claimId, amount, rfl⟩
  | split fee refund =>
    have hempty : (db.account spot).income = 0 := by
      apply sumBy_eq_zero
      intro t ht
      exact if_neg fun hfill => hunfunded t ht hfill.1
    have hfree : (db.account spot).free ≤ (db.account spot).income := Nat.sub_le _ _
    obtain ⟨-, policy, -, hfee, hrefund, hsome⟩ := hkept
    omega
  | remainder amount =>
    have hstatus : spot.status = .completed ∨ spot.status = .banned := hkept.1
    rw [hdraft] at hstatus
    cases hstatus <;> contradiction

/-- No worker has anything to send for the draft. -/
lemma honoured_deleteSpot (hbooks : Books db) (hspot : db.getSpot spot.id = some spot) (hdraft : spot.status = .draft)
    (hunfunded : ∀ t ∈ db.transOfSpot spot.id, t.type ≠ .fillSpot) {k : Continuation} (hkept : k.Honoured cfg db) :
    k.Honoured cfg (db.deleteSpot spot.id) := by
  have hunclaimed : ∀ c ∈ db.claims, c.spotId ≠ spot.id := Db.Placed.unclaimed hbooks.entered hspot hdraft
  have hclaims := deleteSpot_claims hunclaimed
  have hpromised : ∀ id p, (∀ claimId amount, p ≠ .reward claimId amount) → db.Honours id p →
      (db.deleteSpot spot.id).Honours id p := by
    intro id p hreward hkept
    refine honours_deleteSpot hunclaimed ?_ hkept
    rintro rfl
    obtain ⟨claimId, amount, hp⟩ := not_honours_unfunded hspot hdraft hunfunded hkept
    exact hreward claimId amount hp
  cases k with
  | claimReward job =>
    obtain ⟨claim, hclaim, hkept⟩ := hkept
    refine ⟨claim, ?_, honours_deleteSpot hunclaimed (hunclaimed claim (List.mem_of_find?_eq_some hclaim)) hkept⟩
    unfold Db.getClaim
    rw [hclaims]
    exact hclaim
  | cancellationFee lease job => exact ⟨hkept.1, hpromised _ _ nofun hkept.2⟩
  | cancellationRefund lease job refundAddress => exact ⟨hkept.1, hpromised _ _ nofun hkept.2⟩
  | remainder job => exact hpromised _ _ nofun hkept
  | remainderRefund job refundAddress => exact hpromised _ _ nofun hkept
  | confirmation row payout =>
    obtain ⟨t, ht, hid, hhash, hagrees⟩ := hkept
    refine ⟨t.unbooked spot.id, ?_, hid, hhash, fun transfer hverified => ?_⟩
    swap
    · exact ⟨(hagrees transfer hverified).deposit, (hagrees transfer hverified).outgoing⟩
    rw [deleteSpot_trans hunclaimed]
    exact List.mem_map_of_mem ht
  | _ => trivial

end Deletion

section Steps

variable {cfg : Settings P} {s s' : Sys P} {op : Op P} {rest next : List Continuation}

/-- A running deployment whose books are in order and whose workers can rely on what they were promised. -/
structure Sys.Solvent (cfg : Settings P) (s : Sys P) : Prop where
  settling : s.Settling
  books : Books s.db
  honoured : ∀ k ∈ s.inFlight, k.Honoured cfg s.db
  leased : s.Leased

/-- No heartbeat settles an unpaid winner, no claim comes due under a cancellation, and no remainder is sent once a
sweep is on its way. -/
def KeepsSolvent (cfg : Settings P) (s : Sys P) : Op P → Prop
  | .heartbeat claimId userId position accuracy =>
    ¬ SettlesUnpaidWinner cfg s.db claimId userId position accuracy ∧ ¬ PromotesLate s.db claimId
  | .refresh claimId => ¬ PromotesLate s.db claimId
  | .resume index _ => ∀ job refundAddress, s.inFlight[index]? = some (.remainderRefund job refundAddress) →
    ¬ s.db.IsSwept job.spotId
  | _ => True

/-- The Spot of a lease that is not there any more does not come back. -/
lemma Sys.Leased.found (h : s.Leased) (hlive : SpotsLive s.db s'.db) {k : Continuation} (hk : k ∈ s.inFlight)
    {lease : CancellationLease} (hlease : k.lease = some lease)
    (hspot : (s'.db.getSpot lease.spotId).isSome = true) : (s.db.getSpot lease.spotId).isSome = true := by
  by_contra hnone
  rw [hlive.gone _ (h.known k hk lease hlease) (Option.not_isSome_iff_eq_none.mp hnone)] at hspot
  cases hspot

/-- Workers outside the cancellations leave the leases alone. -/
lemma Sys.Leased.proceeds (h : s.Leased) (hlive : SpotsLive s.db s'.db) (hproceeds : Proceeds cfg s.db s'.db)
    (hflight : s'.inFlight = rest ++ next) (hrest : rest.Sublist s.inFlight) (hnext : ∀ k ∈ next, k.lease = none) :
    s'.Leased := by
  have hsame := hproceeds.toSameLeases
  have hold : ∀ k ∈ s'.inFlight, ∀ lease, k.lease = some lease → k ∈ s.inFlight := by
    intro k hk lease hlease
    rw [hflight] at hk
    cases List.mem_append.mp hk with
    | inl hin => exact hrest.subset hin
    | inr hin =>
      rw [hnext k hin] at hlease
      cases hlease
  constructor
  · intro k hk lease hlease
    have hin := hold k hk lease hlease
    have hheld := h.held k hin lease hlease
    refine ⟨hsame.guard.symm ▸ hheld.guard, fun hspot => ?_⟩
    rw [hsame.policy]
    exact hheld.policy (h.found hlive hin hlease hspot)
  · intro k hk lease hlease
    exact (h.known k (hold k hk lease hlease) lease hlease).trans hlive.spotSeq
  · have hnone : next.filterMap Continuation.leaseSpot = [] := by
      rw [List.filterMap_eq_nil_iff]
      intro k hk
      unfold Continuation.leaseSpot
      rw [hnext k hk]
      rfl
    rw [hflight, List.filterMap_append, hnone, List.append_nil]
    exact h.single.sublist (hrest.filterMap _)
  · intro lease hlease hcreated spot' hspot'
    by_contra hmarked
    obtain ⟨spot, hspot, hbefore⟩ := hsame.markers _ spot' hspot' (Option.isSome_iff_ne_none.mpr hmarked)
    rw [h.fresh lease (hold _ hlease lease rfl) hcreated spot hspot] at hbefore
    cases hbefore
  · intro spotId
    constructor
    · intro spot' hspot' hmarked
      obtain ⟨spot, hspot, hbefore⟩ := hsame.markers spotId spot' hspot' hmarked
      rw [hsame.policy]
      exact (h.fixed spotId).marked spot hspot hbefore
    · intro hpolicy
      rw [hsame.policy] at hpolicy
      exact hproceeds.toAdvances.stays ((h.fixed spotId).placed hpolicy)

/-- An operation outside the cancellations, and what it leaves in flight. -/
lemma Sys.Solvent.goes (h : s.Solvent cfg) (hsettling : s'.Settling) (hclaims : ClaimsKept s.db s'.db)
    (hlive : SpotsLive s.db s'.db) (hproceeds : Proceeds cfg s.db s'.db) (hflight : s'.inFlight = rest ++ next)
    (hrest : rest.Sublist s.inFlight) (hnext : ∀ k ∈ next, k.Honoured cfg s'.db ∧ k.lease = none) : s'.Solvent cfg := by
  refine ⟨hsettling, hproceeds.books, ?_, ?_⟩
  · intro k hk
    rw [hflight] at hk
    cases List.mem_append.mp hk with
    | inl hin => exact (h.honoured k (hrest.subset hin)).advances hclaims h.books hproceeds.toAdvances
    | inr hin => exact (hnext k hin).1
  · exact h.leased.proceeds hlive hproceeds hflight hrest fun k hk => (hnext k hk).2

/-- The lease of one Spot changes hands, or is worked under; the others stand. -/
lemma Sys.Leased.moved (h : s.Leased) (hlive : SpotsLive s.db s'.db) {spotId : ℕ}
    (hmove : LeaseMove cfg spotId s.db s'.db next) (hknown : next ≠ [] → spotId ≤ s.db.spotSeq)
    (hflight : s'.inFlight = rest ++ next) (hrest : rest.Sublist s.inFlight)
    (hothers : ∀ k ∈ rest, k.leaseSpot ≠ some spotId) : s'.Leased := by
  have hother : ∀ k ∈ rest, ∀ lease, k.lease = some lease → lease.spotId ≠ spotId := by
    intro k hk lease hlease hof
    apply hothers k hk
    unfold Continuation.leaseSpot
    rw [hlease, Option.map_some, hof]
  constructor
  · intro k hk lease hlease
    rw [hflight] at hk
    cases List.mem_append.mp hk with
    | inl hin =>
      have hheld := h.held k (hrest.subset hin) lease hlease
      have hne := hother k hin lease hlease
      refine ⟨by rw [hmove.guard _ hne]; exact hheld.guard, fun hspot => ?_⟩
      rw [hmove.policy _ hne]
      exact hheld.policy (h.found hlive (hrest.subset hin) hlease hspot)
    | inr hin =>
      obtain ⟨-, found, hfound, -, hholds⟩ := hmove.carried k hin
      rw [← Option.some.inj (hfound.symm.trans hlease)]
      exact hholds
  · intro k hk lease hlease
    rw [hflight] at hk
    refine le_trans ?_ hlive.spotSeq
    cases List.mem_append.mp hk with
    | inl hin => exact h.known k (hrest.subset hin) lease hlease
    | inr hin =>
      obtain ⟨-, found, hfound, hof, -⟩ := hmove.carried k hin
      rw [← Option.some.inj (hfound.symm.trans hlease), hof]
      exact hknown (List.ne_nil_of_mem hin)
  · rw [hflight, List.filterMap_append]
    refine List.Nodup.append (h.single.sublist (hrest.filterMap _)) ?_ ?_
    · have hshort : (next.filterMap Continuation.leaseSpot).length ≤ 1 :=
        (List.length_filterMap_le _ _).trans hmove.single
      exact List.nodup_iff_count_le_one.mpr fun a => List.count_le_length.trans hshort
    · intro id hold hnew
      obtain ⟨k, hk, hid⟩ := List.mem_filterMap.mp hold
      obtain ⟨k', hk', hid'⟩ := List.mem_filterMap.mp hnew
      obtain ⟨-, lease, hlease, hof, -⟩ := hmove.carried k' hk'
      unfold Continuation.leaseSpot at hid'
      rw [hlease, Option.map_some, hof] at hid'
      exact hothers k hk (hid.trans hid'.symm)
  · intro lease hlease hcreated spot' hspot'
    rw [hflight] at hlease
    cases List.mem_append.mp hlease with
    | inl hin =>
      by_contra hmarked
      have hne := hother _ hin lease rfl
      obtain ⟨spot, hspot, hbefore⟩ := hmove.markers _ spot' hne hspot' (Option.isSome_iff_ne_none.mpr hmarked)
      rw [h.fresh lease (hrest.subset hin) hcreated spot hspot] at hbefore
      cases hbefore
    | inr hin =>
      obtain ⟨-, found, hfound, hof, -⟩ := hmove.carried _ hin
      have hsame : lease = found := Option.some.inj hfound
      exact hmove.fresh lease hin hcreated spot' (hof ▸ hsame ▸ hspot')
  · intro id
    by_cases hof : id = spotId
    · rw [hof]
      exact hmove.fixed
    constructor
    · intro spot' hspot' hmarked
      obtain ⟨spot, hspot, hbefore⟩ := hmove.markers id spot' hof hspot' hmarked
      rw [hmove.policy id hof]
      exact (h.fixed id).marked spot hspot hbefore
    · intro hpolicy
      rw [hmove.policy id hof] at hpolicy
      exact hmove.stays id ((h.fixed id).placed hpolicy)

lemma Sys.Solvent.moved (h : s.Solvent cfg) (hsettling : s'.Settling) (hclaims : ClaimsKept s.db s'.db)
    (hlive : SpotsLive s.db s'.db) {spotId : ℕ} (hmove : LeaseMove cfg spotId s.db s'.db next)
    (hknown : next ≠ [] → spotId ≤ s.db.spotSeq) (hflight : s'.inFlight = rest ++ next)
    (hrest : rest.Sublist s.inFlight) (hothers : ∀ k ∈ rest, k.leaseSpot ≠ some spotId) : s'.Solvent cfg := by
  refine ⟨hsettling, hmove.books, ?_, h.leased.moved hlive hmove hknown hflight hrest hothers⟩
  intro k hk
  rw [hflight] at hk
  cases List.mem_append.mp hk with
  | inl hin =>
    refine (h.honoured k (hrest.subset hin)).kept hclaims hmove.reads ?_
    intro id p hdivision hkept
    exact hmove.honours id p (fun hof => hdivision (hof ▸ hothers k hin)) hkept
  | inr hin => exact (hmove.carried k hin).1

/-- The other workers hold other leases. -/
lemma Sys.Leased.others (h : s.Leased) {index : ℕ} {k : Continuation} (hk : s.inFlight[index]? = some k) {spotId : ℕ}
    (hof : k.leaseSpot = some spotId) : ∀ other ∈ s.inFlight.eraseIdx index, other.leaseSpot ≠ some spotId := by
  intro other hother hsame
  obtain ⟨hindex, hget⟩ := List.getElem?_eq_some_iff.mp hk
  have hsplit : s.inFlight = s.inFlight.take index ++ k :: s.inFlight.drop (index + 1) := by
    rw [← hget, List.cons_getElem_drop_succ, List.take_append_drop]
  have hsingle := h.single
  rw [hsplit, List.filterMap_append, List.filterMap_cons, hof] at hsingle
  rw [List.eraseIdx_eq_take_drop_succ] at hother
  have hmem : spotId ∈ (s.inFlight.take index).filterMap Continuation.leaseSpot ++
      (s.inFlight.drop (index + 1)).filterMap Continuation.leaseSpot := by
    rw [← List.filterMap_append]
    exact List.mem_filterMap.mpr ⟨other, hother, hsame⟩
  exact (List.nodup_cons.mp (List.nodup_middle.mp hsingle)).1 hmem

lemma proceeds_bindWallet {db : Db P} (hbooks : Books db) (userId : ℕ) (signer : Address) :
    Proceeds cfg db (db.bindWallet cfg userId signer) := by
  have hnumbered : Numbered (db.bindWallet cfg userId signer) :=
    DbWrites.numbered (bindWallet_writes : DbWrites cfg .all db _) hbooks.numbered
  unfold Db.bindWallet at hnumbered ⊢
  by_cases huser : userId = 0 ∨ (db.getUser userId).isNone = true
  · rw [if_pos huser]
    exact .refl hbooks
  rw [if_neg huser] at hnumbered ⊢
  cases hsigner : cfg.normaliseRealNimiqAddress signer with
  | error message => exact .refl hbooks
  | ok walletAddress =>
    rw [hsigner] at hnumbered
    dsimp only at hnumbered ⊢
    split_ifs at hnumbered ⊢
    · exact .refl hbooks
    · exact .of_frame hbooks hnumbered rfl rfl le_rfl rfl rfl rfl

/-- A worker outside the cancellations resumes. -/
lemma Sys.Solvent.resumed (h : s.Solvent cfg) {k : Continuation} (hk : k ∈ s.inFlight) (hlease : k.lease = none)
    (hswept : ∀ job refundAddress, k = .remainderRefund job refundAddress → ¬ s.db.IsSwept job.spotId) (reply : Reply) :
    Proceeds cfg s.db (resume cfg s.db reply k).1 ∧
      ∀ k' ∈ (resume cfg s.db reply k).2, k'.Honoured cfg (resume cfg s.db reply k).1 ∧ k'.lease = none := by
  have hkept := h.honoured k hk
  cases k with
  | claimReward job =>
    obtain ⟨claim, hclaim, hpromised⟩ := hkept
    refine ⟨proceeds_claimReward h.books ?_ reply.txHash, nofun⟩
    intro found hfound
    rw [Option.some.inj (hfound.symm.trans hclaim)]
    exact hpromised
  | creationFee spotId amount => exact ⟨proceeds_creationFee h.books spotId amount reply.txHash, nofun⟩
  | remainder job =>
    unfold NimHunt.resume
    dsimp only
    cases reply.refundAddress with
    | none => exact ⟨.refl h.books, nofun⟩
    | some refundAddress =>
      dsimp only
      split_ifs
      · refine ⟨.refl h.books, ?_⟩
        intro k' hk'
        rw [List.mem_singleton.mp hk']
        exact ⟨hkept, rfl⟩
      · exact ⟨.refl h.books, nofun⟩
  | remainderRefund job refundAddress =>
    exact ⟨proceeds_remainder h.books hkept (hswept job refundAddress rfl) refundAddress reply.txHash, nofun⟩
  | banSweep spotId amount => exact ⟨proceeds_banSweep h.books spotId amount reply.txHash, nofun⟩
  | confirmation row payout =>
    unfold NimHunt.resume
    dsimp only
    cases hverified : verifiedTransfer cfg row with
    | none => exact ⟨.refl h.books, nofun⟩
    | some transfer =>
      obtain ⟨⟨t, ht, hsameRow⟩, hclaim⟩ := h.settling.pays.read row payout hk
      refine ⟨proceeds_markTransAsConfirmed h.books hkept hverified ?_ ht hsameRow hclaim, nofun⟩
      intro hpayout
      exact h.settling.kept.told row (hpayout ▸ hk)
  | _ => cases hlease

/-- A worker goes on with its cancellation. -/
lemma Sys.Solvent.cancelled (h : s.Solvent cfg) {k : Continuation} (hk : k ∈ s.inFlight) {lease : CancellationLease}
    (hlease : k.lease = some lease) (reply : Reply) :
    LeaseMove cfg lease.spotId s.db (resume cfg s.db reply k).1 (resume cfg s.db reply k).2 := by
  have hheld := h.leased.held k hk lease hlease
  have hkept := h.honoured k hk
  cases k with
  | cancellation held =>
    obtain rfl := Option.some.inj hlease
    exact submit_move h.books hheld (h.leased.fixed _) (h.leased.fresh held hk) reply
  | cancellationFee held job =>
    obtain rfl := Option.some.inj hlease
    exact sendFee_move h.books hheld hkept reply
  | cancellationRefund held job refundAddress =>
    obtain rfl := Option.some.inj hlease
    exact sendRefund_move h.books hheld hkept reply
  | _ => cases hlease

/-- The lease of a deleted draft has no policy any more. -/
lemma Sys.Leased.undrafted (h : s.Leased) (spotId : ℕ) : (s.write (s.db.deleteSpot spotId)).Leased := by
  have hpolicy : ∀ id, (s.db.deleteSpot spotId).cancellationPolicy id =
      if id = spotId then none else s.db.cancellationPolicy id := fun _ => rfl
  refine ⟨?_, h.known, h.single, ?_, fun id => ⟨?_, ?_⟩⟩
  · intro k hk lease hlease
    have hheld := h.held k hk lease hlease
    refine ⟨hheld.guard, fun hfound => ?_⟩
    obtain ⟨found, hfound⟩ := Option.isSome_iff_exists.mp hfound
    obtain ⟨hother, hfound⟩ := getSpot_of_deleteSpot hfound
    change (s.db.deleteSpot spotId).cancellationPolicy lease.spotId = _
    rw [hpolicy, if_neg hother]
    exact hheld.policy (by rw [hfound]; rfl)
  · intro lease hlease hcreated found hfound
    exact h.fresh lease hlease hcreated found (getSpot_of_deleteSpot hfound).2
  · intro found hfound hmarked
    obtain ⟨hother, hfound⟩ := getSpot_of_deleteSpot hfound
    change ((s.db.deleteSpot spotId).cancellationPolicy id).isSome = true
    rw [hpolicy, if_neg hother]
    exact (h.fixed id).marked found hfound hmarked
  · intro hset
    change ((s.db.deleteSpot spotId).cancellationPolicy id).isSome = true at hset
    change ((s.db.deleteSpot spotId).getSpot id).isSome = true
    by_cases hother : id = spotId
    · rw [hpolicy, if_pos hother] at hset
      cases hset
    · rw [hpolicy, if_neg hother] at hset
      rw [getSpot_deleteSpot, if_neg hother]
      exact (h.fixed id).placed hset

/-- A draft goes only while nothing was paid into it. -/
lemma Sys.Solvent.undrafted (h : s.Solvent cfg) (userId spotId : ℕ)
    (hsettling : (NimHunt.step cfg s (.deleteDraft userId spotId)).Settling) :
    (NimHunt.step cfg s (.deleteDraft userId spotId)).Solvent cfg := by
  change (s.write (deleteDraftSpot s.db userId spotId).1).Settling at hsettling
  change (s.write (deleteDraftSpot s.db userId spotId).1).Solvent cfg
  unfold deleteDraftSpot at hsettling ⊢
  cases hspot : s.db.getSpot spotId with
  | none => exact h
  | some spot =>
    have hid := getSpot_id hspot
    subst hid
    rw [hspot] at hsettling
    dsimp only at hsettling ⊢
    split_ifs at hsettling ⊢ with howner hstatus hfunded
    · exact h
    · exact h
    · exact h
    · have hdraft : spot.status = .draft := not_not.mp hstatus
      have hunfunded : ∀ t ∈ s.db.transOfSpot spot.id, t.type ≠ .fillSpot := fun t ht hfill =>
        hfunded (List.any_eq_true.mpr ⟨t, ht, decide_eq_true hfill⟩)
      exact ⟨hsettling, books_deleteSpot h.books hspot hdraft hsettling.kept.numbered,
        fun k hk => honoured_deleteSpot h.books hspot hdraft hunfunded (h.honoured k hk), h.leased.undrafted spot.id⟩

/-- Every operation keeps the deployment solvent. -/
theorem Sys.Solvent.step (h : s.Solvent cfg) (hop : KeepsSolvent cfg s op) : (step cfg s op).Solvent cfg := by
  have hsettling : (NimHunt.step cfg s op).Settling := h.settling.step op
  have hclaims : ClaimsKept s.db (NimHunt.step cfg s op).db :=
    (step_writes h.settling.kept (@admitted_all _ cfg s.db op)).1.claimsKept
  have hlive : SpotsLive s.db (NimHunt.step cfg s op).db :=
    (step_writes h.settling.kept (@admitted_all _ cfg s.db op)).1.spotsLive h.settling.kept.numbered
  have hquiet : ∀ db : Db P, NimHunt.step cfg s op = s.write db → Proceeds cfg s.db db →
      (NimHunt.step cfg s op).Solvent cfg := by
    intro db hstep hproceeds
    rw [hstep] at hsettling hclaims hlive ⊢
    exact h.goes hsettling hclaims hlive hproceeds (List.append_nil _).symm (List.Sublist.refl _) nofun
  have hstarts : ∀ (db : Db P) (next : List Continuation), NimHunt.step cfg s op = s.start db next →
      Proceeds cfg s.db db → (∀ k ∈ next, k.Honoured cfg db ∧ k.lease = none) →
      (NimHunt.step cfg s op).Solvent cfg := by
    intro db next hstep hproceeds hnext
    rw [hstep] at hsettling hclaims hlive ⊢
    exact h.goes hsettling hclaims hlive hproceeds rfl (List.Sublist.refl _) hnext
  have hbooks := h.books
  cases op with
  | tick seconds =>
    exact hquiet _ rfl (.of_frame hbooks hsettling.kept.numbered rfl rfl (Nat.le_add_right _ _) rfl rfl rfl)
  | registerUser user =>
    refine hquiet _ rfl ?_
    have hnumbered : Numbered (s.db.registerUser user) := hsettling.kept.numbered
    unfold Db.registerUser at hnumbered ⊢
    split_ifs at hnumbered ⊢
    · exact .refl hbooks
    · exact .of_frame hbooks hnumbered rfl rfl le_rfl rfl rfl rfl
  | setUserStatus userId status =>
    exact hquiet _ rfl (.of_frame hbooks hsettling.kept.numbered rfl rfl le_rfl rfl rfl rfl)
  | bindWallet userId signer => exact hquiet _ rfl (proceeds_bindWallet hbooks userId signer)
  | createSpot createdBy depositAddress fields =>
    exact hquiet _ rfl (proceeds_createSpot hbooks createdBy depositAddress fields)
  | createPrizedraw createdBy depositAddress fields prizeCount =>
    exact hquiet _ rfl (proceeds_createPrizedraw hbooks createdBy depositAddress fields prizeCount)
  | modifyDraft spotId edit => exact hquiet _ rfl (proceeds_modifyDraftSpot hbooks spotId edit)
  | deleteDraft userId spotId => exact h.undrafted userId spotId hsettling
  | publish spotId draws => exact hquiet _ rfl (proceeds_publishSpot hbooks spotId draws)
  | claim req => exact hquiet _ rfl (proceeds_claimRoute hbooks req)
  | heartbeat claimId userId position accuracy => exact hquiet _ rfl (proceeds_heartbeat hbooks hop.1 hop.2)
  | refresh claimId => exact hquiet _ rfl (proceeds_refresh hbooks hop)
  | settlePrizedraw spotId sample => exact hquiet _ rfl (proceeds_settlePrizedraw hbooks sample spotId)
  | retryPrizedrawPayouts spotId =>
    have hpass : Proceeds cfg s.db (retryPendingPrizedrawPayoutsForSpot s.db spotId).1 :=
      proceeds_payoutPass hbooks spotId
    refine hstarts _ _ rfl hpass ?_
    intro k hk
    obtain ⟨job, hjob, rfl⟩ := List.mem_map.mp hk
    have hdecided : (Continuation.claimReward job).Honoured cfg s.db := honours_prizeJob hbooks hjob
    exact ⟨hdecided.advances hclaims hbooks hpass.toAdvances, rfl⟩
  | payoutStandardClaim claimId =>
    refine hstarts _ _ rfl (.refl hbooks) ?_
    intro k hk
    obtain ⟨job, hjob, rfl⟩ := List.mem_map.mp hk
    exact ⟨honours_rewardJob hbooks (by simpa using hjob), rfl⟩
  | recordDeposit userId spotId amount fromAddress txHash =>
    exact hquiet _ rfl (proceeds_deposit hbooks userId spotId amount fromAddress txHash)
  | payCreationFee spotId =>
    refine hstarts _ _ rfl (.refl hbooks) ?_
    intro k hk
    obtain ⟨amount, -, rfl⟩ := List.mem_map.mp hk
    exact ⟨trivial, rfl⟩
  | cancelSpot spotId cancellationFee feeAddress transactions failureProven =>
    have hmove := @acquire_move _ cfg s.db spotId cancellationFee feeAddress transactions failureProven hbooks
      (h.leased.fixed spotId)
    cases hacquired : acquireCancellationLease cfg s.db spotId cancellationFee feeAddress transactions failureProven with
    | mk db answer =>
      rw [hacquired] at hmove
      -- no other worker is in the cancellation of the Spot
      have hnone : (∀ reason, s.db.cancellationGuard spotId ≠ some (.processing reason)) →
          ∀ k ∈ s.inFlight, k.leaseSpot ≠ some spotId := by
        intro hfree k hk hof
        obtain ⟨lease, hlease, hid⟩ := Option.map_eq_some_iff.mp hof
        obtain ⟨reason, hguard⟩ := (h.leased.held k hk lease hlease).guard
        exact hfree reason (hid ▸ hguard)
      cases answer with
      | error message =>
        have hstep : NimHunt.step cfg s (.cancelSpot spotId cancellationFee feeAddress transactions failureProven) =
            s.write db := by
          unfold NimHunt.step
          dsimp only
          rw [hacquired]
        rcases hmove with ⟨hsame, -⟩ | ⟨hfree, hended, -⟩
        · have hdb : db = s.db := hsame
          refine hquiet db hstep ?_
          rw [hdb]
          exact .refl hbooks
        · rw [hstep] at hsettling hclaims hlive ⊢
          exact h.moved hsettling hclaims hlive (hended message rfl) (absurd rfl) (List.append_nil _).symm
            (List.Sublist.refl _) (hnone hfree)
      | ok lease =>
        have hstep : NimHunt.step cfg s (.cancelSpot spotId cancellationFee feeAddress transactions failureProven) =
            s.start db [.cancellation lease] := by
          unfold NimHunt.step
          dsimp only
          rw [hacquired]
        rcases hmove with ⟨-, message, hrefused⟩ | ⟨hfree, -, hgoesOn⟩
        · cases hrefused
        · rw [hstep] at hsettling hclaims hlive ⊢
          obtain ⟨hspot, hcarried⟩ := hgoesOn lease rfl
          obtain ⟨spot, hspot⟩ := Option.isSome_iff_exists.mp hspot
          have hknown : spotId ≤ s.db.spotSeq :=
            getSpot_id hspot ▸ hbooks.numbered.spotFresh spot (List.mem_of_find?_eq_some hspot)
          exact h.moved hsettling hclaims hlive hcarried (fun _ => hknown) rfl (List.Sublist.refl _) (hnone hfree)
  | settleRemainder spotId =>
    obtain ⟨hproceeds, hpromised⟩ := @proceeds_settleRemainder _ cfg s.db hbooks spotId
    cases hsettled : settleSpotRemainderIfReady cfg s.db spotId with
    | mk db result =>
      rw [hsettled] at hproceeds hpromised
      cases result with
      | prepared job =>
        refine hstarts db [.remainder job] ?_ hproceeds ?_
        · unfold NimHunt.step
          dsimp only
          rw [hsettled]
        · intro k hk
          rw [List.mem_singleton.mp hk]
          exact ⟨hpromised job rfl, rfl⟩
      | _ =>
        refine hquiet db ?_ hproceeds
        unfold NimHunt.step
        dsimp only
        rw [hsettled]
  | banSpot spotId => exact hquiet _ rfl (proceeds_banSpot hbooks spotId)
  | sweepBannedSpot spotId =>
    have hproceeds := @proceeds_sweep _ cfg s.db hbooks spotId
    cases hswept : attemptBannedSpotSweep s.db spotId with
    | mk db result =>
      rw [hswept] at hproceeds
      cases result with
      | submit amount =>
        refine hstarts db [.banSweep spotId amount] ?_ hproceeds ?_
        · unfold NimHunt.step
          dsimp only
          rw [hswept]
        · intro k hk
          rw [List.mem_singleton.mp hk]
          exact ⟨trivial, rfl⟩
      | _ =>
        refine hquiet db ?_ hproceeds
        unfold NimHunt.step
        dsimp only
        rw [hswept]
  | confirmTrans transId =>
    unfold NimHunt.step at hstarts ⊢
    dsimp only at hstarts ⊢
    cases hrow : s.db.getTransaction transId with
    | none => exact h
    | some row =>
      rw [hrow] at hstarts
      dsimp only at hstarts ⊢
      split_ifs at hstarts ⊢
      · exact h
      · refine hstarts _ _ rfl (.refl hbooks) ?_
        intro k hk
        rw [List.mem_singleton.mp hk]
        exact ⟨stillRead_of_mem (List.mem_of_find?_eq_some hrow), rfl⟩
  | failTrans transId =>
    unfold NimHunt.step at hquiet ⊢
    dsimp only at hquiet ⊢
    cases hrow : s.db.getTransaction transId with
    | none => exact h
    | some row =>
      rw [hrow] at hquiet
      exact hquiet _ rfl (proceeds_markTransAsFailed hbooks row)
  | resume index reply =>
    cases hk : s.inFlight[index]? with
    | none =>
      have hstep : NimHunt.step cfg s (.resume index reply) = s := by
        unfold NimHunt.step
        dsimp only
        rw [hk]
      rw [hstep]
      exact h
    | some k =>
      have hmem : k ∈ s.inFlight := List.mem_of_getElem? hk
      have hrest : (s.inFlight.eraseIdx index).Sublist s.inFlight := List.eraseIdx_sublist _ _
      have hstep : NimHunt.step cfg s (.resume index reply) =
          ⟨(resume cfg s.db reply k).1, s.inFlight.eraseIdx index ++ (resume cfg s.db reply k).2⟩ := by
        unfold NimHunt.step
        dsimp only
        rw [hk]
      rw [hstep] at hsettling hclaims hlive ⊢
      cases hlease : k.lease with
      | none =>
        obtain ⟨hproceeds, hnext⟩ := h.resumed hmem hlease (fun job address hjob => hop job address (hjob ▸ hk)) reply
        exact h.goes hsettling hclaims hlive hproceeds rfl hrest hnext
      | some lease =>
        have hof : k.leaseSpot = some lease.spotId := by
          unfold Continuation.leaseSpot
          rw [hlease]
          rfl
        exact h.moved hsettling hclaims hlive (h.cancelled hmem hlease reply)
          (fun _ => h.leased.known k hmem lease hlease) rfl hrest (h.leased.others hk hof)
  | crash index =>
    exact h.goes hsettling hclaims hlive (.refl hbooks) (List.append_nil _).symm (List.eraseIdx_sublist _ _) nofun

/-- A fresh deployment owes nobody. -/
lemma solvent_initial : (Sys.initial : Sys P).Solvent cfg where
  settling := settling_initial
  books := {
    numbered := kept_initial.numbered
    sound := nofun
    ordered := List.Pairwise.nil
    dated := nofun
    placed := nofun
    entered := nofun
    booked := nofun
    quiet := nofun
    paidOut := nofun
    drawable := nofun }
  honoured := nofun
  leased := ⟨nofun, nofun, List.nodup_nil, nofun, fun _ => ⟨nofun, nofun⟩⟩

end Steps

section Runs

/-- What a row spends besides paying a claimant. -/
def Trans.overhead (t : Trans) : ℕ := if t.type = .claim then 0 else t.outgoing

lemma outgoing_eq_overhead (t : Trans) : t.outgoing = t.spent .claim + t.overhead := by
  unfold Trans.overhead Trans.outgoing Trans.spent
  by_cases hclaim : t.type = .claim
  · simp [hclaim]
  · simp [hclaim]

/-- Outside a ban everybody who is owed a share can still be paid it. -/
lemma Account.Sound.owed_add_overhead_le {a : Account} (h : a.Sound) (hbanned : a.status ≠ .banned) :
    a.owed + sumBy Trans.overhead a.rows ≤ a.income := by
  have hpromised : a.promised = a.owed := by
    unfold promised
    rw [if_neg hbanned]
  have hsplit : a.spent = a.active .claim + sumBy Trans.overhead a.rows := by
    unfold spent active
    rw [← sumBy_add]
    congr 1
    funext t
    exact outgoing_eq_overhead t
  have hrows := a.spent_eq_active
  have hlegs := h.legs_le hbanned
  have hmade := h.reserved_add_free
  rw [hpromised] at hmade
  omega

variable {cfg : Settings P} {ops : List (Op P)}

def Continuation.sendsRemainder : Continuation → Bool
  | .remainderRefund _ _ => true
  | _ => false

lemma keepsSolvent_resume {s : Sys P} {index : ℕ} {reply : Reply}
    (hnone : (s.inFlight[index]?).any Continuation.sendsRemainder = false) :
    KeepsSolvent cfg s (.resume index reply) := by
  intro job refundAddress hk
  rw [hk] at hnone
  cases hnone

lemma solvent_run (hops : Admissible (step cfg) (KeepsSolvent cfg) Sys.initial ops) :
    (run (step cfg) Sys.initial ops).Solvent cfg :=
  run_invariant (fun _ _ hop h => h.step hop) hops solvent_initial

/-- The chain shows a deposit and a payout. -/
def Settings.payoutShown : Settings Unit :=
  { Settings.onePlace with
    chainTransfer := fun txHash =>
      if txHash = depositHash then some ⟨"NQ02 OWNER", "NQ01 SPOT", 50000000⟩
      else if txHash = "payout" then some ⟨"NQ01 SPOT", "NQ07 FIRST", 25000000⟩
      else none }

/-- A Spot of two places: one claim is paid, and a cancellation sends its fee and the rest. -/
def paidAndCancelled : List (Op Unit) :=
  [.tick 1000, .registerUser { id := 1, status := .active }, .registerUser { id := 2, status := .active },
    .bindWallet 2 "NQ07 FIRST",
    .createSpot 1 "NQ01 SPOT" {
      position := some (), maxTotalClaims := some 2, totalValue := some 50000000, endsAt := some 100000 },
    .recordDeposit 1 1 50000000 "NQ02 OWNER" depositHash, .confirmTrans 1, .resume 0 {}, .publish 1 [],
    .claim ⟨1, 2, (), some 5, none, none⟩, .payoutStandardClaim 1, .resume 0 { txHash := "payout" },
    .confirmTrans 2, .resume 0 {}, .cancelSpot 1 100 "NQ07 FEE" [] false, .resume 0 {},
    .resume 0 { txHash := "fee", refundAddress := some "NQ02 OWNER" }, .resume 0 { txHash := "refund" }]

lemma admissible_paidAndCancelled :
    Admissible (step Settings.payoutShown) (KeepsSolvent Settings.payoutShown) Sys.initial paidAndCancelled := by
  refine ⟨trivial, trivial, trivial, trivial, trivial, trivial, trivial, keepsSolvent_resume ?_, trivial, trivial, trivial,
    keepsSolvent_resume ?_, trivial, keepsSolvent_resume ?_, trivial, keepsSolvent_resume ?_, keepsSolvent_resume ?_,
    keepsSolvent_resume ?_, trivial⟩
  all_goals decide +kernel

/-- No more goes out for a Spot than was paid in for it. -/
theorem spots_stay_solvent (hops : Admissible (step cfg) (KeepsSolvent cfg) Sys.initial ops) (spotId : ℕ) :
    sumBy Trans.outgoing ((run (step cfg) Sys.initial ops).db.transOfSpot spotId) ≤
      (run (step cfg) Sys.initial ops).db.getConfirmedSpotDepositTotal spotId := by
  have hbooks := (solvent_run hops).books
  generalize (run (step cfg) Sys.initial ops).db = db at hbooks
  cases hspot : db.getSpot spotId with
  | none =>
    have hrows : db.transOfSpot spotId = [] := by
      rw [Db.transOfSpot, List.filter_eq_nil_iff]
      intro t ht hof
      have hplaced := hbooks.placed t ht spotId (of_decide_eq_true hof)
      rw [hspot] at hplaced
      cases hplaced
    rw [hrows]
    exact Nat.zero_le _
  | some spot =>
    have hid := getSpot_id hspot
    have hsolvent := (hbooks.sound spotId spot hspot).spent_le_income
    rw [income_account, hid] at hsolvent
    unfold Account.spent Db.account at hsolvent
    rw [← hid] at hsolvent ⊢
    exact hsolvent

/-- The deposit is spent to the last. -/
theorem spots_stay_solvent_spent :
    50000000 ≤ (run (step Settings.payoutShown) Sys.initial paidAndCancelled).db.getConfirmedSpotDepositTotal 1 := by
  have hspent : sumBy Trans.outgoing
      ((run (step Settings.payoutShown) Sys.initial paidAndCancelled).db.transOfSpot 1) = 50000000 := by decide +kernel
  rw [← hspent]
  exact spots_stay_solvent admissible_paidAndCancelled 1

lemma marked_paidAndCancelled :
    ∃ spot, (run (step Settings.payoutShown) Sys.initial paidAndCancelled).db.getSpot spot.id = some spot ∧
      spot.status = .published ∧ spot.cancellationStartedAt.isSome = true := by
  have hmarked : ((run (step Settings.payoutShown) Sys.initial paidAndCancelled).db.getSpot 1).map
      (fun s => (s.status, s.cancellationStartedAt.isSome)) = some (.published, true) := by decide +kernel
  obtain ⟨spot, hspot, hterms⟩ := Option.map_eq_some_iff.mp hmarked
  obtain ⟨hstatus, hmarker⟩ := Prod.mk.inj hterms
  exact ⟨spot, by rw [getSpot_id hspot]; exact hspot, hstatus, hmarker⟩

/-- Outside a ban the shares of all claimants, paid or not, are there beside what fees and refunds take, and an open or
completed Spot holds its whole value. -/
theorem claimants_stay_covered (hops : Admissible (step cfg) (KeepsSolvent cfg) Sys.initial ops) {spot : Spot P}
    (hspot : (run (step cfg) Sys.initial ops).db.getSpot spot.id = some spot) (hbanned : spot.status ≠ .banned) :
    let db := (run (step cfg) Sys.initial ops).db
    (db.account spot).owed + sumBy Trans.overhead (db.transOfSpot spot.id) ≤ db.getConfirmedSpotDepositTotal spot.id ∧
      (spot.status = .published ∨ spot.status = .completed →
        spot.totalValue + spot.creationFee ≤ db.getConfirmedSpotDepositTotal spot.id) := by
  have hsound := (solvent_run hops).books.sound spot.id spot hspot
  refine ⟨?_, fun hstatus => ?_⟩
  · rw [← income_account]
    exact hsound.owed_add_overhead_le hbanned
  · rw [← income_account]
    exact (hsound.funded hstatus).2

/-- The share that was paid is still counted. -/
theorem claimants_stay_covered_cancelling : ∃ spot,
    (run (step Settings.payoutShown) Sys.initial paidAndCancelled).db.getSpot spot.id = some spot ∧
      spot.totalValue + spot.creationFee ≤
        (run (step Settings.payoutShown) Sys.initial paidAndCancelled).db.getConfirmedSpotDepositTotal spot.id := by
  obtain ⟨spot, hspot, hstatus, -⟩ := marked_paidAndCancelled
  have hbanned : spot.status ≠ .banned := by
    rw [hstatus]
    nofun
  exact ⟨spot, hspot, (claimants_stay_covered admissible_paidAndCancelled hspot hbanned).2 (.inl hstatus)⟩

/-- What a claim is owed by its Spot. -/
def Db.OwesClaim (db : Db P) (spot : Spot P) (claim : Claim P) (amount : ℕ) : Prop :=
  (spot.prizeCount = none → claim.status = .success ∧ amount = standardClaimPayoutAmount spot) ∧
  (spot.prizeCount.isSome = true → spot.status = .completed ∧ claim.id ∈ db.getPrizedrawWinnerClaimIds spot.id ∧
    amount = prizeShare spot.totalValue (db.getPrizedrawWinnerClaimIds spot.id) claim.id)

lemma owesClaim_of_payee {db : Db P} (hkeys : (db.claims.map Claim.id).Nodup) {spot : Spot P} {claim : Claim P}
    (hclaim : claim ∈ db.claims) (hpayee : claim.id ∈ (db.account spot).payees) {amount : ℕ}
    (hamount : amount = (db.account spot).share claim.id) : db.OwesClaim spot claim amount := by
  unfold Db.account at hpayee hamount
  dsimp only at hpayee hamount
  constructor
  · intro hstandard
    rw [if_pos hstandard] at hpayee hamount
    obtain ⟨c, hc, hid, -, hdone⟩ := mem_successIds.mp hpayee
    have hsame : c = claim := eq_of_key_eq hkeys hc hclaim hid
    exact ⟨hsame ▸ hdone, hamount⟩
  · intro hprizedraw
    rw [if_neg (Option.isSome_iff_ne_none.mp hprizedraw)] at hpayee hamount
    by_cases hcompleted : spot.status = .completed
    · rw [if_pos hcompleted] at hpayee hamount
      exact ⟨hcompleted, List.mem_toFinset.mp hpayee, hamount⟩
    · rw [if_neg hcompleted] at hpayee
      cases hpayee

/-- Every payout, whatever became of it, is of a claim of its Spot and, outside a ban, of exactly what the claim is
owed; and of the payouts of one claim at most one has not failed. -/
theorem payouts_are_shares (hops : Admissible (step cfg) (KeepsSolvent cfg) Sys.initial ops) {t : Trans}
    (ht : t ∈ (run (step cfg) Sys.initial ops).db.trans) (htype : t.type = .claim) :
    let db := (run (step cfg) Sys.initial ops).db
    ∃ claim ∈ db.claims, ∃ spot, t.claimId = some claim.id ∧ t.spotId = some spot.id ∧ claim.spotId = spot.id ∧
      db.getSpot spot.id = some spot ∧ (spot.status ≠ .banned → db.OwesClaim spot claim t.amount) ∧
      db.trans.countP (fun u => u.type = .claim ∧ u.claimId = some claim.id ∧ u.status ≠ .failed) ≤ 1 := by
  have hbooks := (solvent_run hops).books
  generalize (run (step cfg) Sys.initial ops).db = db at hbooks ht
  obtain ⟨claim, hclaim, hclaimId, hspotId⟩ := hbooks.booked t ht htype
  obtain ⟨spot, hspot, -⟩ := hbooks.entered claim hclaim
  have hid := getSpot_id hspot
  have hsound := hbooks.sound claim.spotId spot hspot
  refine ⟨claim, hclaim, spot, hclaimId, by rw [hid]; exact hspotId, hid.symm, by rw [hid]; exact hspot, ?_, ?_⟩
  · intro hbanned
    have hmem : t ∈ (db.account spot).rows := List.mem_filter.mpr ⟨ht, decide_eq_true (by rw [hid]; exact hspotId)⟩
    obtain ⟨found, hpayee, hfound, hshare⟩ := hsound.payouts hbanned t hmem htype
    rw [Option.some.inj (hfound.symm.trans hclaimId)] at hpayee hshare
    exact owesClaim_of_payee hbooks.numbered.keyed.claimKeys hclaim hpayee hshare
  · -- every payout of the claim is among the rows of its Spot
    have hrows : db.trans.countP (fun u => u.type = .claim ∧ u.claimId = some claim.id ∧ u.status ≠ .failed) =
        (db.account spot).rows.countP fun u => u.payee = some claim.id := by
      change _ = (db.transOfSpot spot.id).countP _
      rw [Db.transOfSpot, List.countP_filter]
      apply List.countP_congr
      intro u hu
      simp only [decide_eq_true_eq, Bool.and_eq_true, Account.payee_eq_some, Account.isActive_iff]
      constructor
      · rintro ⟨hutype, huclaim, hactive⟩
        refine ⟨⟨⟨hutype, hactive⟩, huclaim⟩, ?_⟩
        rw [hid]
        exact hbooks.sameSpot hu hutype hclaim huclaim
      · rintro ⟨⟨⟨hutype, hactive⟩, huclaim⟩, -⟩
        exact ⟨hutype, huclaim, hactive⟩
    rw [hrows]
    exact hsound.oncePaid claim.id

/-- The one payout of the run. -/
theorem payouts_are_shares_paid :
    (run (step Settings.payoutShown) Sys.initial paidAndCancelled).db.trans.countP
      (fun u => u.type = .claim ∧ u.claimId = some 1 ∧ u.status ≠ .failed) ≤ 1 := by
  have hpaid : ((run (step Settings.payoutShown) Sys.initial paidAndCancelled).db.trans.find? fun t => t.type = .claim).map
      Trans.claimId = some (some 1) := by decide +kernel
  obtain ⟨t, hfound, hclaimId⟩ := Option.map_eq_some_iff.mp hpaid
  have hpays := List.find?_some hfound
  have htype : t.type = .claim := of_decide_eq_true hpays
  obtain ⟨claim, -, spot, hof, -, -, -, -, honce⟩ :=
    payouts_are_shares admissible_paidAndCancelled (List.mem_of_find?_eq_some hfound) htype
  rw [← hclaimId, hof]
  exact honce

/-- Whatever else happens meanwhile, the legs of a cancellation divide what is left once everybody is provided for: the
fee takes no more than the policy of the Spot, the refund no more than the rest. -/
theorem cancellations_divide_the_rest (hops : Admissible (step cfg) (KeepsSolvent cfg) Sys.initial ops) {spot : Spot P}
    (hspot : (run (step cfg) Sys.initial ops).db.getSpot spot.id = some spot)
    (hmarked : spot.cancellationStartedAt.isSome = true) :
    let account := (run (step cfg) Sys.initial ops).db.account spot
    ∃ policy, account.policyFee = some policy ∧ account.active .platFee ≤ min policy account.free ∧
      account.active .cancelSpot ≤ account.free - min policy account.free := by
  have hsolvent := solvent_run hops
  have hsound := hsolvent.books.sound spot.id spot hspot
  have hfixed := (hsolvent.leased.fixed spot.id).marked spot hspot hmarked
  obtain ⟨policy, hpolicy⟩ := Option.isSome_iff_exists.mp hfixed
  have hfee : ((run (step cfg) Sys.initial ops).db.account spot).policyFee = some policy.feeAmount :=
    Option.map_eq_some_iff.mpr ⟨policy, hpolicy, rfl⟩
  have hbanned : ((run (step cfg) Sys.initial ops).db.account spot).status ≠ .banned := (hsound.marked_ne hmarked).2
  obtain ⟨hfeeLeg, hrefundLeg⟩ := hsound.split_le hfee hbanned
  exact ⟨policy.feeAmount, hfee, hfeeLeg, hrefundLeg⟩

/-- Both legs are out. -/
theorem cancellations_divide_the_rest_sent : ∃ spot policy,
    (run (step Settings.payoutShown) Sys.initial paidAndCancelled).db.getSpot spot.id = some spot ∧
      ((run (step Settings.payoutShown) Sys.initial paidAndCancelled).db.account spot).policyFee = some policy ∧
      ((run (step Settings.payoutShown) Sys.initial paidAndCancelled).db.account spot).active .platFee ≤ policy := by
  obtain ⟨spot, hspot, -, hmarker⟩ := marked_paidAndCancelled
  obtain ⟨policy, hpolicy, hfee, -⟩ := cancellations_divide_the_rest admissible_paidAndCancelled hspot hmarker
  exact ⟨spot, policy, hspot, hpolicy, hfee.trans (Nat.min_le_left _ _)⟩

/-- No two workers cancel one Spot at a time; the one that does finds its guard, the policy of a Spot that is still there
and the amounts it has worked out as it left them, however long it was away. -/
theorem cancellations_are_exclusive (hops : Admissible (step cfg) (KeepsSolvent cfg) Sys.initial ops) :
    let s := run (step cfg) Sys.initial ops
    (s.inFlight.filterMap Continuation.leaseSpot).Nodup ∧
      ∀ k ∈ s.inFlight, ∀ lease, k.lease = some lease → s.db.Holds lease ∧ k.Honoured cfg s.db := by
  have hsolvent := solvent_run hops
  refine ⟨hsolvent.leased.single, ?_⟩
  intro k hk lease hlease
  exact ⟨hsolvent.leased.held k hk lease hlease, hsolvent.honoured k hk⟩

/-- A draft is deleted under the lease of its cancellation. -/
def deletedUnderLease : List (Op Unit) :=
  [.tick 1000, .registerUser { id := 1, status := .active }, draftCreated, .cancelSpot 1 100 "NQ07 FEE" [] false,
    .deleteDraft 1 1]

/-- One worker is about to send the fee; another holds the lease of a draft that is gone with its policy. -/
theorem cancellations_are_exclusive_sending :
    (∃ lease, (run (step Settings.payoutShown) Sys.initial (paidAndCancelled.take 16)).db.Holds lease) ∧
    ∃ lease, (run (step Settings.payoutShown) Sys.initial deletedUnderLease).db.Holds lease ∧
      (run (step Settings.payoutShown) Sys.initial deletedUnderLease).db.getSpot lease.spotId = none ∧
      (run (step Settings.payoutShown) Sys.initial deletedUnderLease).db.cancellationPolicy lease.spotId = none := by
  constructor
  · have hsplit : paidAndCancelled = paidAndCancelled.take 16 ++ paidAndCancelled.drop 16 :=
      (List.take_append_drop 16 paidAndCancelled).symm
    have hops : Admissible (step Settings.payoutShown) (KeepsSolvent Settings.payoutShown) Sys.initial
        (paidAndCancelled.take 16 ++ paidAndCancelled.drop 16) := hsplit ▸ admissible_paidAndCancelled
    have hflight : ((run (step Settings.payoutShown) Sys.initial (paidAndCancelled.take 16)).inFlight.head?.bind
        Continuation.lease).isSome = true := by decide +kernel
    obtain ⟨lease, hlease⟩ := Option.isSome_iff_exists.mp hflight
    obtain ⟨k, hk, hheld⟩ := Option.bind_eq_some_iff.mp hlease
    obtain ⟨-, hworkers⟩ := cancellations_are_exclusive (admissible_append.mp hops).1
    exact ⟨lease, (hworkers k (List.mem_of_mem_head? hk) lease hheld).1⟩
  · have hops : Admissible (step Settings.payoutShown) (KeepsSolvent Settings.payoutShown) Sys.initial
        deletedUnderLease := ⟨trivial, trivial, trivial, trivial, trivial, trivial⟩
    have hflight : (run (step Settings.payoutShown) Sys.initial deletedUnderLease).inFlight =
        [.cancellation ⟨1, ⟨100, "NQ07 FEE"⟩, true⟩] := by decide +kernel
    obtain ⟨-, hworkers⟩ := cancellations_are_exclusive hops
    refine ⟨⟨1, ⟨100, "NQ07 FEE"⟩, true⟩, (hworkers (.cancellation _) ?_ _ rfl).1,
      Option.isNone_iff_eq_none.mp (by decide +kernel), by decide +kernel⟩
    rw [hflight]
    exact List.mem_singleton_self _

end Runs

end NimHunt
