import NimHunt.Proofs.Capacity
import NimHunt.Proofs.PayoutRows

/-!
# The chosen winners

A winner of a drawn Prizedraw is known by its claim being PENDING, and later by its payout row.  Refreshes, payout
passes, confirmations and failures keep both; a heartbeat of the winner is the one operation that does not ask
whether the draw is over.
-/

namespace NimHunt

open Lib Relation

variable {P : Type}

section Prizes

/-- A Spot that takes claims keeps its prizes, and neither opens again nor, without a ban, stops being completed. -/
def PrizesHeld (unbanned : Prop) (db db' : Db P) : Prop :=
  ∀ id spot, db.getSpot id = some spot → spot.status ≠ .draft →
    ∃ spot', db'.getSpot id = some spot' ∧ spot'.status ≠ .draft ∧ spot'.prizeCount = spot.prizeCount ∧
      (spot.status ≠ .published → spot'.status ≠ .published) ∧
      (unbanned → spot.status = .completed → spot'.status = .completed)

variable {cfg : Settings P} {permit : Permit P} {unbanned : Prop} {db db' db'' : Db P}

lemma PrizesHeld.then (h : PrizesHeld unbanned db db') (h' : PrizesHeld unbanned db' db'') :
    PrizesHeld unbanned db db'' := by
  intro id spot hspot hdraft
  obtain ⟨spot', hspot', hdraft', hprize', hopen', hcompleted'⟩ := h id spot hspot hdraft
  obtain ⟨spot'', hspot'', hdraft'', hprize'', hopen'', hcompleted''⟩ := h' id spot' hspot' hdraft'
  exact ⟨spot'', hspot'', hdraft'', hprize''.trans hprize', fun hpublished => hopen'' (hopen' hpublished),
    fun hnone hdone => hcompleted'' hnone (hcompleted' hnone hdone)⟩

lemma PrizesHeld.of_eq (hspots : db'.spots = db.spots) : PrizesHeld unbanned db db' :=
  fun id spot hspot hdraft =>
    ⟨spot, (getSpot_of_spots hspots id).trans hspot, hdraft, rfl, fun hopen => hopen, fun _ hdone => hdone⟩

lemma PrizesHeld.of_update {sel : Spot P → Bool} {f : Spot P → Spot P}
    (hspots : db'.spots = updateWhere sel f db.spots) (hid : ∀ s, (f s).id = s.id)
    (hkept : ∀ s, db.getSpot s.id = some s → s.status ≠ .draft → sel s = true →
      (f s).status ≠ .draft ∧ (f s).prizeCount = s.prizeCount ∧ (s.status ≠ .published → (f s).status ≠ .published) ∧
        (unbanned → s.status = .completed → (f s).status = .completed)) : PrizesHeld unbanned db db' := by
  intro id s hs hdraft
  have hget : db'.getSpot id = some (if sel s then f s else s) := by
    unfold Db.getSpot at hs ⊢
    rw [hspots, find?_updateWhere_key hid, hs]
    rfl
  refine ⟨_, hget, ?_⟩
  by_cases hsel : sel s = true
  · rw [if_pos hsel]
    exact hkept s ((getSpot_id hs).symm ▸ hs) hdraft hsel
  · rw [if_neg hsel]
    exact ⟨hdraft, rfl, fun hopen => hopen, fun _ hdone => hdone⟩

lemma DbWrite.prizesHeld (hwrite : DbWrite cfg permit db db') : PrizesHeld (∀ db id, ¬ permit.ban db id) db db' := by
  cases hwrite with
  | claim hwrite => exact .of_eq hwrite.sameGround.spots
  | @drafted spot hid hdraft _ _ =>
    intro id s hs hplaced
    have hget : ({ db with spots := db.spots ++ [spot], spotSeq := spot.id } : Db P).getSpot id = some s := by
      unfold Db.getSpot at hs ⊢
      dsimp only
      rw [List.find?_append, hs]
      rfl
    exact ⟨s, hget, hplaced, rfl, fun hopen => hopen, fun _ hdone => hdone⟩
  | @edited spot next hspot hdraft hsame _ =>
    refine PrizesHeld.of_update (edited_spots hsame.id db.spots) (fun _ => rfl) ?_
    intro s hs hplaced hsel
    rw [of_decide_eq_true hsel] at hs
    rw [Option.some.inj (hs.symm.trans hspot)] at hplaced
    exact absurd hdraft hplaced
  | undrafted hspot hdraft =>
    intro id s hs hplaced
    exact ⟨s, getSpot_deleteSpot_of_placed hspot hdraft hs hplaced, hplaced, rfl, fun hopen => hopen, fun _ hdone => hdone⟩
  | published =>
    refine PrizesHeld.of_update rfl (fun _ => rfl) ?_
    intro s _ hplaced hsel
    exact absurd (of_decide_eq_true hsel).2.1 hplaced
  | marked =>
    exact .of_update rfl (fun _ => rfl) fun _ _ hplaced _ => ⟨hplaced, rfl, fun hopen => hopen, fun _ hdone => hdone⟩
  | @closed spot status hspot hcloses hpermit =>
    refine PrizesHeld.of_update rfl (fun _ => rfl) ?_
    intro s hs _ hsel
    refine ⟨hcloses.final.1, rfl, fun _ => hcloses.final.2, ?_⟩
    intro hunbanned hdone
    rw [of_decide_eq_true hsel] at hs
    rw [Option.some.inj (hs.symm.trans hspot)] at hdone
    cases hcloses with
    | completed => rfl
    | cancelled hopen =>
      rw [hdone] at hopen
      cases hopen with
      | inl hdraft => cases hdraft
      | inr hpublished => cases hpublished.1
    | banned => exact absurd (hpermit rfl) (hunbanned db spot.id)
  | drawn => exact .of_update rfl (fun _ => rfl) fun _ _ _ _ => ⟨nofun, rfl, fun _ => nofun, fun _ _ => rfl⟩
  | _ => exact .of_eq rfl

lemma DbWrites.prizesHeld (hwrites : DbWrites cfg permit db db') :
    PrizesHeld (∀ db id, ¬ permit.ban db id) db db' := by
  induction hwrites with
  | refl => exact .of_eq rfl
  | tail _ hwrite ih => exact ih.then hwrite.prizesHeld

lemma DbWrites.claimsKept (hwrites : DbWrites cfg permit db db') : ClaimsKept db db' := by
  induction hwrites with
  | refl => exact .refl db
  | tail _ hwrite ih => exact ih.then hwrite.claimsKept

end Prizes

section Payouts

/-- Every payout row is booked to a claim, and it and every payout job is for a claim that `good` holds of. -/
structure Sys.PaysGood (good : (claimId spotId : ℕ) → Prop) (s : Sys P) : Prop where
  rows : ∀ t ∈ s.db.trans, t.type = .claim →
    ∃ claim ∈ s.db.claims, t.claimId = some claim.id ∧ t.spotId = some claim.spotId ∧ good claim.id claim.spotId
  jobs : ∀ job, .claimReward job ∈ s.inFlight → ∃ claim ∈ s.db.claims, claim.id = job.claimId ∧ good claim.id claim.spotId
  read : ∀ row payout, .confirmation row payout ∈ s.inFlight →
    (∃ t ∈ s.db.trans, PayoutKept row t) ∧ (payout = true → row.type = .claim)

variable {cfg : Settings P} {s s' : Sys P} {op : Op P} {good good' : ℕ → ℕ → Prop}

lemma Sys.PaysGood.booked (h : s.PaysGood good) :
    ∀ t ∈ s.db.trans, t.type = .claim → ∃ claim ∈ s.db.claims, t.spotId = some claim.spotId := by
  intro t ht htype
  obtain ⟨claim, hclaim, -, hof, -⟩ := h.rows t ht htype
  exact ⟨claim, hclaim, hof⟩

lemma Sys.PaysGood.move (h : s.PaysGood good) (hkept : s.Kept) (hpays : s.PaysOnly op s')
    (hclaims : ClaimsKept s.db s'.db) (hgood : ∀ claimId spotId, good claimId spotId → good' claimId spotId)
    (hdecides : ∀ job, s.Decides op job → ∃ claim ∈ s.db.claims, claim.id = job.claimId ∧ good claim.id claim.spotId) :
    s'.PaysGood good' := by
  have hstays : ∀ claim ∈ s.db.claims, good claim.id claim.spotId →
      ∃ claim' ∈ s'.db.claims, claim'.id = claim.id ∧ claim'.spotId = claim.spotId ∧ good' claim'.id claim'.spotId := by
    intro claim hclaim hof
    obtain ⟨claim', hclaim', hsame⟩ := hclaims.mem hclaim
    exact ⟨claim', hclaim', hsame.id, hsame.spotId, by rw [hsame.id, hsame.spotId]; exact hgood _ _ hof⟩
  refine ⟨?_, ?_, ?_⟩
  · intro t' ht' htype
    have hbooked : ∃ claim ∈ s.db.claims, t'.claimId = some claim.id ∧ t'.spotId = some claim.spotId ∧
        good claim.id claim.spotId := by
      cases hpays.rows.come t' ht' htype with
      | inl hold =>
        obtain ⟨t, ht, hsame⟩ := hold
        obtain ⟨claim, hclaim, hid, hspot, hof⟩ := h.rows t ht (hsame.type.symm.trans htype)
        have hclaimed : t.type = .claim := hsame.type.symm.trans htype
        exact ⟨claim, hclaim, hsame.claimId.trans hid, (hsame.spotId hclaimed).trans hspot, hof⟩
      | inr hnew =>
        obtain ⟨job, claim, hjob, hclaim, hid, hspot⟩ := hnew
        obtain ⟨found, hfound, hfoundid, hof⟩ := h.jobs job hjob
        have hget : s.db.getClaim job.claimId = some found :=
          (Db.getClaim_eq_some hkept.numbered.keyed).mpr ⟨hfound, hfoundid⟩
        rw [← Option.some.inj (hget.symm.trans hclaim)] at hspot
        exact ⟨found, hfound, hid.trans (congrArg some hfoundid.symm), hspot, hof⟩
    obtain ⟨claim, hclaim, hid, hspot, hof⟩ := hbooked
    obtain ⟨claim', hclaim', hid', hspot', hof'⟩ := hstays claim hclaim hof
    exact ⟨claim', hclaim', hid.trans (congrArg some hid'.symm), hspot.trans (congrArg some hspot'.symm), hof'⟩
  · intro job hjob
    have hentitled : ∃ claim ∈ s.db.claims, claim.id = job.claimId ∧ good claim.id claim.spotId := by
      cases hpays.jobs job hjob with
      | inl hold => exact h.jobs job hold
      | inr hnew => exact hdecides job hnew
    obtain ⟨claim, hclaim, hid, hof⟩ := hentitled
    obtain ⟨claim', hclaim', hid', -, hof'⟩ := hstays claim hclaim hof
    exact ⟨claim', hclaim', hid'.trans hid, hof'⟩
  · intro row payout hrow
    cases hpays.confirmations row payout hrow with
    | inl hold =>
      obtain ⟨⟨t, ht, hsame⟩, hclaim⟩ := h.read row payout hold
      obtain ⟨t', ht', hsame'⟩ := hpays.rows.stay t ht
      exact ⟨⟨t', ht', hsame.then hsame'⟩, hclaim⟩
    | inr hnew => exact ⟨⟨row, hnew.1, .refl row⟩, hnew.2⟩

/-- The claims of the Spot may be paid: no draw is still to come. -/
def Db.Entitled (db : Db P) (spotId : ℕ) : Prop :=
  ∃ spot, db.getSpot spotId = some spot ∧ spot.status ≠ .draft ∧ (spot.prizeCount.isSome = true → spot.status ≠ .published)

lemma Db.Entitled.held {unbanned : Prop} {db db' : Db P} {spotId : ℕ} (h : db.Entitled spotId)
    (hheld : PrizesHeld unbanned db db') : db'.Entitled spotId := by
  obtain ⟨spot, hspot, hdraft, hover⟩ := h
  obtain ⟨spot', hspot', hdraft', hprize, hopen, -⟩ := hheld spotId spot hspot hdraft
  exact ⟨spot', hspot', hdraft', fun hprizedraw => hopen (hover (hprize ▸ hprizedraw))⟩

lemma claimId_of_payoutJobOf {db : Db P} {amounts : List (ℕ × ℕ)} {claim : Claim P} {job : PayoutJob}
    (hjob : payoutJobOf db amounts claim = some job) : claim.id = job.claimId := by
  unfold payoutJobOf at hjob
  dsimp only at hjob
  split_ifs at hjob
  rw [← Option.some.inj hjob]

/-- A claim for which a payout pass decides a job. -/
lemma claim_of_prizeJob {db : Db P} {spotId : ℕ} {job : PayoutJob}
    (hjob : job ∈ (retryPendingPrizedrawPayoutsForSpot db spotId).2) :
    ∃ spot claim, db.getSpot spotId = some spot ∧ spot.isCompletedPrizedraw = true ∧ claim ∈ db.claims ∧
      claim.id = job.claimId ∧ claim.spotId = spotId ∧ claim.status = .pending := by
  unfold retryPendingPrizedrawPayoutsForSpot at hjob
  cases hspot : db.getSpot spotId with
  | none =>
    rw [hspot] at hjob
    cases hjob
  | some spot =>
    rw [hspot] at hjob
    dsimp only at hjob
    split_ifs at hjob with hcompleted hprizedraw
    · cases hjob
    · cases hjob
    · obtain ⟨claim, hclaim, hdecided⟩ := List.mem_filterMap.mp hjob
      have hpage : claim ∈ db.getPendingClaimsForSpot spotId := (List.perm_insertionSort _ _).mem_iff.mp hclaim
      have hrow := List.mem_filter.mp (page_subset hpage)
      have hof := of_decide_eq_true hrow.2
      have hdrawn : spot.isCompletedPrizedraw = true :=
        decide_eq_true ⟨not_not.mp hcompleted, by simpa [Option.isSome_iff_ne_none] using hprizedraw⟩
      exact ⟨spot, claim, rfl, hdrawn, hrow.1, claimId_of_payoutJobOf hdecided, hof.1, hof.2⟩

lemma claim_of_rewardJob {db : Db P} {claimId : ℕ} {job : PayoutJob}
    (hjob : payoutStandardClaimIfReady db claimId = some job) :
    ∃ spot claim, db.getClaim claimId = some claim ∧ claim.id = job.claimId ∧ db.getSpot claim.spotId = some spot ∧
      spot.prizeCount.isSome = false ∧ claim.status = .success := by
  unfold payoutStandardClaimIfReady at hjob
  cases hclaim : db.getClaim claimId with
  | none =>
    rw [hclaim] at hjob
    cases hjob
  | some claim =>
    rw [hclaim] at hjob
    dsimp only at hjob
    by_cases hopen : claim.status ≠ .success
    · rw [if_pos hopen] at hjob
      cases hjob
    rw [if_neg hopen] at hjob
    cases hspot : db.getSpot claim.spotId with
    | none =>
      rw [hspot] at hjob
      cases hjob
    | some spot =>
      rw [hspot] at hjob
      dsimp only at hjob
      by_cases hprizedraw : spot.prizeCount.isSome = true
      · rw [if_pos hprizedraw] at hjob
        cases hjob
      rw [if_neg hprizedraw] at hjob
      refine ⟨spot, claim, rfl, ?_, hspot, Bool.eq_false_of_not_eq_true hprizedraw, not_not.mp hopen⟩
      split_ifs at hjob
      rw [← Option.some.inj hjob]
      exact getClaim_id hclaim

/-- In every reachable state payouts are for claims whose draw, if there is one, is over. -/
structure Sys.Settling (s : Sys P) : Prop where
  kept : s.Kept
  capped : s.db.Capped
  pays : s.PaysGood fun _ spotId => s.db.Entitled spotId

lemma settling_initial : (Sys.initial : Sys P).Settling :=
  ⟨kept_initial, ⟨nofun, nofun, nofun, nofun, nofun, nofun⟩, ⟨nofun, nofun, nofun⟩⟩

lemma Sys.Settling.step (h : s.Settling) (op : Op P) : (step cfg s op).Settling := by
  obtain ⟨hkept, hcapped⟩ := @step_capped _ cfg _ h.kept h.capped op
  have hwrites : DbWrites cfg .all s.db (NimHunt.step cfg s op).db := (step_writes h.kept (admitted_all op)).1
  refine ⟨hkept, hcapped, h.pays.move h.kept (step_paysOnly h.kept h.pays.booked) hwrites.claimsKept ?_ ?_⟩
  · exact fun _ _ hentitled => hentitled.held hwrites.prizesHeld
  · intro job hdecides
    cases hdecides with
    | prize hjob =>
      obtain ⟨spot, claim, hspot, hdrawn, hclaim, hid, hof, -⟩ := claim_of_prizeJob hjob
      have hcompleted : spot.status = .completed := (of_decide_eq_true hdrawn).1
      refine ⟨claim, hclaim, hid, spot, hof ▸ hspot, ?_, fun _ => ?_⟩
      · rw [hcompleted]
        nofun
      · rw [hcompleted]
        nofun
    | reward hjob =>
      obtain ⟨spot, claim, hclaim, hid, hspot, hstandard, -⟩ := claim_of_rewardJob hjob
      have hmem : claim ∈ s.db.claims := List.mem_of_find?_eq_some hclaim
      obtain ⟨found, hfound, hdraft⟩ := h.capped.placed claim hmem
      rw [Option.some.inj (hfound.symm.trans hspot)] at hdraft
      refine ⟨claim, hmem, hid, spot, hspot, hdraft, ?_⟩
      intro hprizedraw
      rw [hstandard] at hprizedraw
      cases hprizedraw

end Payouts

section Winners

/-- The winners of a draw that is over: each waits as PENDING, or has been paid. -/
structure WinnersChosen (spotId : ℕ) (winners : List ℕ) (db : Db P) : Prop where
  drawn : ∃ spot, db.getSpot spotId = some spot ∧ spot.isCompletedPrizedraw = true
  pending : ∀ c ∈ db.claims, c.spotId = spotId → c.status = .pending → c.id ∈ winners
  winner : ∀ id ∈ winners, ∃ c ∈ db.claims, c.id = id ∧ c.spotId = spotId ∧
    (c.status = .pending ∨ db.hasConfirmedClaimPayoutTransaction id = true)

/-- Claims of the Spot only leave PENDING, and only when they have been paid. -/
structure WinnersKept (spotId : ℕ) (db db' : Db P) : Prop where
  pending : ∀ c' ∈ db'.claims, c'.spotId = spotId → c'.status = .pending →
    ∃ c ∈ db.claims, c.id = c'.id ∧ c.spotId = spotId ∧ c.status = .pending
  paid : ∀ c ∈ db.claims, c.spotId = spotId → ∃ c' ∈ db'.claims, c'.id = c.id ∧ c'.spotId = spotId ∧
    (c.status = .pending → c'.status = .pending ∨ db'.hasConfirmedClaimPayoutTransaction c.id = true)

variable {cfg : Settings P} {permit : WritePermit P} {db db' db'' : Db P} {s : Sys P} {spotId : ℕ} {winners : List ℕ}

lemma WinnersKept.of_eq (hclaims : db'.claims = db.claims) : WinnersKept spotId db db' :=
  ⟨fun c hc hof hpending => ⟨c, hclaims ▸ hc, rfl, hof, hpending⟩,
    fun c hc hof => ⟨c, hclaims ▸ hc, rfl, hof, fun hpending => .inl hpending⟩⟩

/-- A row update that turns no other claim PENDING, and of PENDING ones of the Spot only those that have been paid. -/
lemma WinnersKept.of_update {sel : Claim P → Bool} {f : Claim P → Claim P}
    (hclaims : db'.claims = updateWhere sel f db.claims) (hsame : ∀ c, (f c).id = c.id ∧ (f c).spotId = c.spotId)
    (hpending : ∀ c ∈ db.claims, c.spotId = spotId → sel c = true → (f c).status = .pending → c.status = .pending)
    (hpaid : ∀ c ∈ db.claims, c.spotId = spotId → sel c = true → c.status = .pending → (f c).status ≠ .pending →
      db'.hasConfirmedClaimPayoutTransaction c.id = true) : WinnersKept spotId db db' := by
  constructor
  · intro c' hc' hof hwaits
    rw [hclaims] at hc'
    obtain ⟨c, hc, hrow⟩ := mem_updateWhere.mp hc'
    by_cases hsel : sel c = true
    · rw [if_pos hsel] at hrow
      rw [← hrow] at hof hwaits ⊢
      rw [(hsame c).2] at hof
      exact ⟨c, hc, (hsame c).1.symm, hof, hpending c hc hof hsel hwaits⟩
    · rw [if_neg hsel] at hrow
      exact ⟨c, hc, by rw [hrow], by rw [hrow]; exact hof, by rw [hrow]; exact hwaits⟩
  · intro c hc hof
    rw [hclaims]
    by_cases hsel : sel c = true
    · refine ⟨f c, mem_updateWhere.mpr ⟨c, hc, if_pos hsel⟩, (hsame c).1, (hsame c).2.trans hof, ?_⟩
      intro hwaits
      by_cases hstill : (f c).status = .pending
      · exact .inl hstill
      · exact .inr (hpaid c hc hof hsel hwaits hstill)
    · exact ⟨c, mem_updateWhere.mpr ⟨c, hc, if_neg hsel⟩, rfl, hof, fun hwaits => .inl hwaits⟩

lemma WinnersKept.then (h : WinnersKept spotId db db') (hpaid : ∀ claimId,
      db'.hasConfirmedClaimPayoutTransaction claimId = true → db''.hasConfirmedClaimPayoutTransaction claimId = true)
    (h' : WinnersKept spotId db' db'') : WinnersKept spotId db db'' := by
  constructor
  · intro c'' hc'' hof hwaits
    obtain ⟨c', hc', hid', hof', hwaits'⟩ := h'.pending c'' hc'' hof hwaits
    obtain ⟨c, hc, hid, hrest⟩ := h.pending c' hc' hof' hwaits'
    exact ⟨c, hc, hid.trans hid', hrest⟩
  · intro c hc hof
    obtain ⟨c', hc', hid', hof', hleft'⟩ := h.paid c hc hof
    obtain ⟨c'', hc'', hid'', hof'', hleft''⟩ := h'.paid c' hc' hof'
    refine ⟨c'', hc'', hid''.trans hid', hof'', ?_⟩
    intro hwaits
    cases hleft' hwaits with
    | inr hconfirmed => exact .inr (hpaid _ hconfirmed)
    | inl hwaits' =>
      apply (hleft'' hwaits').imp_right
      exact fun hconfirmed => hid' ▸ hconfirmed

lemma WinnersChosen.move {new : Trans → Prop} {unbanned : Prop} (h : WinnersChosen spotId winners db)
    (hkept : WinnersKept spotId db db') (hrows : PayoutRows new db db') (hheld : PrizesHeld unbanned db db')
    (hunbanned : unbanned) : WinnersChosen spotId winners db' := by
  refine ⟨?_, ?_, ?_⟩
  · obtain ⟨spot, hspot, hdrawn⟩ := h.drawn
    obtain ⟨hcompleted, hprize⟩ : spot.status = .completed ∧ spot.prizeCount.isSome = true := of_decide_eq_true hdrawn
    have hdraft : spot.status ≠ .draft := by
      rw [hcompleted]
      nofun
    obtain ⟨spot', hspot', -, hprize', -, hdone⟩ := hheld spotId spot hspot hdraft
    exact ⟨spot', hspot', decide_eq_true ⟨hdone hunbanned hcompleted, hprize' ▸ hprize⟩⟩
  · intro c' hc' hof hwaits
    obtain ⟨c, hc, hid, hof', hwaits'⟩ := hkept.pending c' hc' hof hwaits
    exact hid ▸ h.pending c hc hof' hwaits'
  · intro id hid
    obtain ⟨c, hc, hcid, hof, hstands⟩ := h.winner id hid
    obtain ⟨c', hc', hcid', hof', hleft⟩ := hkept.paid c hc hof
    refine ⟨c', hc', hcid'.trans hcid, hof', ?_⟩
    cases hstands with
    | inr hpaid => exact .inr (hrows.hasConfirmed hpaid)
    | inl hwaits =>
      apply (hleft hwaits).imp_right
      exact fun hpaid => hcid ▸ hpaid

lemma SameGround.hasConfirmed {claimId : ℕ} (h : SameGround db db') :
    db'.hasConfirmedClaimPayoutTransaction claimId = db.hasConfirmedClaimPayoutTransaction claimId := by
  unfold Db.hasConfirmedClaimPayoutTransaction
  rw [h.trans]

/-- A status write that leaves PENDING aside: what it takes out of the Spot's PENDING claims has been paid. -/
lemma WinnersKept.decided {sel : Claim P → Bool} {status : ClaimStatus} (hstatus : status ≠ .pending)
    (hpaid : ∀ c ∈ db.claims, c.spotId = spotId → sel c = true → c.status = .pending →
      db.hasConfirmedClaimPayoutTransaction c.id = true) :
    WinnersKept spotId db (db.updateClaimStatus sel status) := by
  refine .of_update rfl (fun _ => ⟨rfl, rfl⟩) ?_ ?_
  · exact fun _ _ _ _ hpending => absurd hpending hstatus
  · exact fun c hc hof hsel hwaits _ => hpaid c hc hof hsel hwaits

/-- No claim of the Spot is entered, and one is decided only when it has been paid. -/
def winnersPermit (spotId : ℕ) : WritePermit P where
  enter _ _ _ _ := False
  settle db claim _ := claim.spotId = spotId → db.hasConfirmedClaimPayoutTransaction claim.id = true
  touch _ _ := True

lemma winnersKept_modifyClaimStatus {claim : Claim P} (hkeys : (db.claims.map Claim.id).Nodup)
    (hclaim : db.getClaim claim.id = some claim)
    (hpaid : claim.spotId = spotId → db.hasConfirmedClaimPayoutTransaction claim.id = true) {status : ClaimStatus}
    (hstatus : status ≠ .pending) : WinnersKept spotId db (db.modifyClaimStatus claim.id status) := by
  apply WinnersKept.decided hstatus
  intro c hc hof hsel _
  have hsame : c = claim := by
    have hfound : db.getClaim claim.id = some c := (find?_key_eq_some hkeys).mpr ⟨hc, of_decide_eq_true hsel⟩
    exact Option.some.inj (hfound.symm.trans hclaim)
  rw [hsame] at hof ⊢
  exact hpaid hof

/-- A drawn Prizedraw is no standard Spot whose waiting claims a full house fails. -/
lemma winnersKept_failPendingStandard (hdrawn : ∃ spot, db.getSpot spotId = some spot ∧ spot.isCompletedPrizedraw = true)
    (id : ℕ) : WinnersKept spotId db (db.failPendingStandardDurationClaimsIfCapacityFull id) := by
  unfold Db.failPendingStandardDurationClaimsIfCapacityFull
  cases hspot : db.getSpot id with
  | none => exact .of_eq rfl
  | some spot =>
    dsimp only
    by_cases hprizedraw : spot.prizeCount.isSome = true
    · rw [if_pos hprizedraw]
      exact .of_eq rfl
    · have hother : id ≠ spotId := by
        intro heq
        obtain ⟨found, hfound, hdone⟩ := hdrawn
        rw [heq] at hspot
        rw [Option.some.inj (hspot.symm.trans hfound)] at hprizedraw
        exact hprizedraw (of_decide_eq_true hdone : found.status = .completed ∧ found.prizeCount.isSome = true).2
      rw [if_neg hprizedraw]
      split_ifs
      · exact .of_eq rfl
      · exact .of_eq rfl
      · have hfailed : ClaimStatus.failed ≠ .pending := nofun
        refine WinnersKept.decided hfailed ?_
        intro c _ hof hsel _
        exact absurd ((of_decide_eq_true hsel).1.symm.trans hof) hother

lemma ClaimWrite.winnersKept (hkeys : (db.claims.map Claim.id).Nodup)
    (hdrawn : ∃ spot, db.getSpot spotId = some spot ∧ spot.isCompletedPrizedraw = true)
    (hwrite : ClaimWrite (winnersPermit spotId) db db') : WinnersKept spotId db db' := by
  cases hwrite with
  | guarded => exact .of_eq rfl
  | entered _ _ hpermit => exact hpermit.elim
  | attempted => exact .of_eq rfl
  | failed hclaim _ hpermit => exact winnersKept_modifyClaimStatus hkeys hclaim hpermit nofun
  | @failedReleasing claim hclaim _ hpermit =>
    have hfailed : WinnersKept spotId db (db.setClaimStatusToFailed claim.id) :=
      winnersKept_modifyClaimStatus hkeys hclaim hpermit nofun
    exact hfailed.then (fun _ hpaid => hpaid) (.of_eq rfl)
  | @succeeded claim spot mid hclaim _ _ _ hcode hpermit =>
    have hclaims : mid.claims = db.claims := hcode.claims
    have hground : SameGround db mid := hcode.sameGround
    have hfound : mid.getClaim claim.id = some claim := by
      unfold Db.getClaim at hclaim ⊢
      rw [hclaims]
      exact hclaim
    have hsuccess : WinnersKept spotId mid (mid.setClaimStatusToSuccess claim.id) :=
      winnersKept_modifyClaimStatus (hclaims ▸ hkeys) hfound (fun hof => hground.hasConfirmed.trans (hpermit hof)) nofun
    have hlater : ∃ spot, (mid.setClaimStatusToSuccess claim.id).getSpot spotId = some spot ∧
        spot.isCompletedPrizedraw = true := by
      obtain ⟨found, hspot, hdone⟩ := hdrawn
      exact ⟨found, (hground.getSpot spotId).trans hspot, hdone⟩
    have hconsumed : WinnersKept spotId db mid := .of_eq hclaims
    have hfull := winnersKept_failPendingStandard hlater claim.spotId
    have hsame := sameGround_failPendingStandard (mid.setClaimStatusToSuccess claim.id) claim.spotId
    have hsettled : WinnersKept spotId db (mid.setClaimStatusToSuccess claim.id) :=
      hconsumed.then (fun _ hpaid => hpaid) hsuccess
    exact hsettled.then (fun _ hpaid => hsame.hasConfirmed.trans hpaid) hfull
  | @moved claim position score status hclaim hpending hpermit =>
    have honly : ∀ c ∈ db.claims, decide (c.id = claim.id) = true → c = claim := by
      intro c hc hsel
      have hfound : db.getClaim claim.id = some c := (find?_key_eq_some hkeys).mpr ⟨hc, of_decide_eq_true hsel⟩
      exact Option.some.inj (hfound.symm.trans hclaim)
    refine .of_update (modifyClaimLocationScore_claims db claim.id position score status) (fun _ => ⟨rfl, rfl⟩) ?_ ?_
    · intro c hc _ hsel _
      rw [honly c hc hsel]
      exact hpending
    · intro c hc hof hsel _ hleft
      rw [honly c hc hsel] at hof ⊢
      cases hpermit with
      | inl hkept => exact absurd hkept.1 hleft
      | inr hfailed => exact hfailed.2 hof

lemma ClaimWrites.winnersKept (hnumbered : Numbered db)
    (hdrawn : ∃ spot, db.getSpot spotId = some spot ∧ spot.isCompletedPrizedraw = true)
    (hwrites : ClaimWrites (winnersPermit spotId) db db') : WinnersKept spotId db db' := by
  induction hwrites with
  | refl => exact .of_eq rfl
  | @tail mid after hbefore hwrite ih =>
    have hground : SameGround db mid := ClaimWrites.sameGround hbefore
    have hlater : ∃ spot, mid.getSpot spotId = some spot ∧ spot.isCompletedPrizedraw = true := by
      obtain ⟨spot, hspot, hdone⟩ := hdrawn
      exact ⟨spot, (hground.getSpot spotId).trans hspot, hdone⟩
    have hkeys := (ClaimWrites.numbered hbefore hnumbered).keyed.claimKeys
    exact ih.then (fun _ hpaid => hwrite.sameGround.hasConfirmed.trans hpaid) (hwrite.winnersKept hkeys hlater)

/-- A payout pass takes winners out of PENDING that have been paid. -/
lemma winnersKept_recordPaidWinners (paid : List (Claim P)) (db : Db P) :
    WinnersKept spotId db (paid.foldl recordPaidWinner db) := by
  induction paid generalizing db with
  | nil => exact .of_eq rfl
  | cons claim paid ih =>
    rw [List.foldl_cons]
    have hone : WinnersKept spotId db (recordPaidWinner db claim) := by
      unfold recordPaidWinner
      by_cases hconfirmed : db.hasConfirmedClaimPayoutTransaction claim.id = true
      · rw [if_pos hconfirmed]
        have hsuccess : ClaimStatus.success ≠ .pending := nofun
        refine WinnersKept.decided hsuccess ?_
        intro c _ _ hsel _
        rw [of_decide_eq_true hsel]
        exact hconfirmed
      · rw [if_neg hconfirmed]
        exact .of_eq rfl
    have hrows : PayoutRows (fun _ => False) (recordPaidWinner db claim) (paid.foldl recordPaidWinner
        (recordPaidWinner db claim)) := .of_eq (recordPaidWinners_trans paid _)
    exact hone.then (fun _ => hrows.hasConfirmed) (ih _)

lemma winnersKept_payoutPass (db : Db P) (id : ℕ) :
    WinnersKept spotId db (retryPendingPrizedrawPayoutsForSpot db id).1 := by
  unfold retryPendingPrizedrawPayoutsForSpot
  cases db.getSpot id with
  | none => exact .of_eq rfl
  | some spot =>
    dsimp only
    split_ifs
    · exact .of_eq rfl
    · exact .of_eq rfl
    · exact winnersKept_recordPaidWinners _ db

lemma modifyTransactionStatus_ok {status : TransStatus} {transId : ℕ} {t : Trans}
    (hkeys : (db.trans.map Trans.id).Nodup) (hmade : db.modifyTransactionStatus transId status = (db', .ok ()))
    (ht : t ∈ db.trans) (hid : t.id = transId) :
    ∃ t' ∈ db'.trans, t'.type = t.type ∧ t'.claimId = t.claimId ∧ t'.status = status := by
  unfold Db.modifyTransactionStatus at hmade
  have hget : db.getTransaction transId = some t := (find?_key_eq_some hkeys).mpr ⟨ht, hid⟩
  rw [hget] at hmade
  dsimp only at hmade
  by_cases hpending : t.status = .pending
  · rw [if_pos hpending] at hmade
    rw [← (Prod.mk.inj hmade).1]
    exact ⟨{ t with status := status }, mem_updateWhere.mpr ⟨t, ht, if_pos (decide_eq_true hid)⟩, rfl, rfl, rfl⟩
  · rw [if_neg hpending] at hmade
    by_cases hset : t.status = status
    · rw [if_pos hset] at hmade
      rw [← (Prod.mk.inj hmade).1]
      exact ⟨t, ht, rfl, rfl, hset⟩
    · rw [if_neg hset] at hmade
      cases (Prod.mk.inj hmade).2

lemma WinnersKept.orRollback {R : Type} {outcome : Outcome P R} (h : WinnersKept spotId db outcome.1) :
    WinnersKept spotId db (outcome.orRollback db).1 := by
  obtain ⟨made, e | r⟩ := outcome
  · exact .of_eq rfl
  · exact h

lemma WinnersKept.finalize (h : WinnersKept spotId db db') (ofRow : Option ℕ) :
    WinnersKept spotId db (finalizeCancelledSpotIfReady db' ofRow) := by
  obtain ⟨spots, hspots⟩ := finalizeCancelledSpotIfReady_frame db' ofRow
  rw [hspots]
  exact h.then (fun _ hpaid => hpaid) (.of_eq rfl)

lemma LedgerOnly.winnersKept (h : LedgerOnly db db') : WinnersKept spotId db db' := .of_eq (by rw [h.same])

lemma winnersKept_failed (row : Trans) : WinnersKept spotId db (markTransAsFailed db row).1 := by
  have hledger : LedgerOnly db (db.modifyTransactionStatus row.id .failed).1 := modifyTransactionStatus_ledgerOnly ..
  unfold markTransAsFailed
  apply WinnersKept.orRollback
  generalize db.modifyTransactionStatus row.id .failed = outcome at hledger
  obtain ⟨mid, e | _⟩ := outcome
  · exact hledger.winnersKept
  · exact hledger.winnersKept.finalize row.spotId

/-- A confirmed payout takes its winner out of PENDING with the row that pays it. -/
lemma winnersKept_confirmed {row t : Trans} (hkeys : (db.trans.map Trans.id).Nodup) (transfer : ChainTransfer)
    (payout : Bool) (ht : t ∈ db.trans) (hread : PayoutKept row t) (hclaim : payout = true → row.type = .claim) :
    WinnersKept spotId db (markTransAsConfirmed db row transfer payout).1 := by
  have hledger : ∀ status, LedgerOnly db
      ((db.updateTransactionChainDetails row.id transfer).modifyTransactionStatus row.id status).1 := fun status =>
    (updateTransactionChainDetails_ledgerOnly row.id transfer).then (modifyTransactionStatus_ledgerOnly row.id status)
  have hdetailed : SettledTo .confirmed (some transfer) row.id db (db.updateTransactionChainDetails row.id transfer) :=
    updateTransactionChainDetails_settled transfer
  have hrows : PayoutRows (fun _ => False) db (db.updateTransactionChainDetails row.id transfer) := hdetailed.payoutRows
  obtain ⟨shown, hshown, hsame⟩ := hrows.stay t ht
  have hmarked : ∀ mid, (db.updateTransactionChainDetails row.id transfer).modifyTransactionStatus row.id .confirmed =
      (mid, .ok ()) → ∃ t' ∈ mid.trans, t'.type = shown.type ∧ t'.claimId = shown.claimId ∧ t'.status = .confirmed :=
    fun mid hmade => modifyTransactionStatus_ok (hdetailed.keys ▸ hkeys) hmade hshown (hsame.id.trans hread.id)
  unfold markTransAsConfirmed
  change WinnersKept spotId db (Outcome.orRollback db (if fundingMismatch db row transfer then _ else _)).1
  apply WinnersKept.orRollback
  by_cases hmismatch : fundingMismatch db row transfer
  · rw [if_pos hmismatch]
    exact (hledger .failed).winnersKept
  · rw [if_neg hmismatch]
    have hconfirmed : LedgerOnly db _ := hledger .confirmed
    generalize (db.updateTransactionChainDetails row.id transfer).modifyTransactionStatus row.id .confirmed =
      outcome at hconfirmed hmarked
    obtain ⟨mid, e | _⟩ := outcome
    · exact hconfirmed.winnersKept
    · dsimp only
      split
      · next claimId hclaimId =>
        obtain ⟨t', ht', htype, hpays, hstatus⟩ := hmarked mid rfl
        have hpaid : mid.hasConfirmedClaimPayoutTransaction claimId = true := by
          refine List.any_eq_true.mpr ⟨t', ht', decide_eq_true ⟨?_, ?_, hstatus⟩⟩
          · exact hpays.trans (hsame.claimId.trans (hread.claimId.trans hclaimId))
          · exact htype.trans (hsame.type.trans (hread.type.trans (hclaim rfl)))
        have hsuccess : ClaimStatus.success ≠ .pending := nofun
        have hrecorded : WinnersKept spotId mid (mid.setClaimStatusToSuccess claimId) := by
          refine WinnersKept.decided hsuccess ?_
          intro c _ _ hsel _
          rw [of_decide_eq_true hsel]
          exact hpaid
        have hledgered : WinnersKept spotId db mid := hconfirmed.winnersKept
        have hboth : WinnersKept spotId db (mid.setClaimStatusToSuccess claimId) :=
          hledgered.then (fun _ h => h) hrecorded
        exact hboth.finalize row.spotId
      · exact hconfirmed.winnersKept.finalize row.spotId

end Winners

section Heartbeats

variable {cfg : Settings P} {db : Db P} {claim : Claim P} {spot : Spot P} {spotId claimId userId : ℕ} {position : P}
  {accuracy : Option ℚ}

/-- The heartbeat of a PENDING winner that has not been paid, once the guard on its position answers: the claim is
settled as if it were still waiting. -/
structure SettlesWinner (cfg : Settings P) (spotId : ℕ) (db : Db P) (claimId userId : ℕ) (position : P)
    (accuracy : Option ℚ) (claim : Claim P) (spot : Spot P) : Prop where
  found : db.getClaim claimId = some claim
  ofSpot : claim.spotId = spotId
  owner : claim.recipient = userId
  pending : claim.status = .pending
  unpaid : db.hasConfirmedClaimPayoutTransaction claimId = false
  drawn : db.getSpot spotId = some spot
  settles : spot.claimDuration = 0 ∨ ∃ check, getClaimDistanceCheck cfg db spotId position accuracy = .ok (some check) ∧
    (nextScore claim.accuracy (durationClaimPenalty check.effectiveDistanceMetres check.radiusMetres) ≤ 0 ∨
      claim.claimedAt + spot.claimDuration ≤ db.now)

/-- The refresh leaves a winner as it is. -/
lemma refresh_drawn (hclaim : db.getClaim claimId = some claim) (hpending : claim.status = .pending)
    (hspot : db.getSpot claim.spotId = some spot) (hdrawn : spot.isCompletedPrizedraw = true) :
    refreshClaimStatusFromConditions (installedPromoter cfg) db claimId = (db, some claim) := by
  unfold refreshClaimStatusFromConditions
  rw [hclaim]
  dsimp only
  rw [if_neg (not_not_intro hpending), hspot]
  dsimp only
  rw [if_pos hdrawn]

/-- Without an answer about its position a winner's heartbeat writes nothing. -/
lemma heartbeat_unanswered (hclaim : db.getClaim claimId = some claim) (howner : claim.recipient = userId)
    (hpending : claim.status = .pending) (hspot : db.getSpot claim.spotId = some spot)
    (hdrawn : spot.isCompletedPrizedraw = true) (hduration : spot.claimDuration ≠ 0)
    (hnone : ∀ check, getClaimDistanceCheck cfg db claim.spotId position accuracy ≠ .ok (some check)) :
    (processDurationClaimLocationHeartbeat cfg (installedPromoter cfg) db claimId userId position accuracy).1 = db := by
  unfold processDurationClaimLocationHeartbeat
  rw [hclaim]
  dsimp only
  rw [if_neg (not_not_intro howner), refresh_drawn hclaim hpending hspot hdrawn]
  dsimp only
  rw [if_neg (not_not_intro hpending), hspot]
  dsimp only
  rw [if_neg hduration]
  unfold recordHeartbeat
  cases hcheck : getClaimDistanceCheck cfg db claim.spotId position accuracy with
  | error e => rfl
  | ok found =>
    cases found with
    | none => rfl
    | some check => exact absurd hcheck (hnone check)

lemma installedPromoter_decides (cfg : Settings P) (hclaim : db.getClaim claimId = some claim)
    (hpending : claim.status = .pending) (hspot : db.getSpot claim.spotId = some spot) :
    (installedPromoter cfg db claimId).1.Decided claimId ∧
      ∃ row, (installedPromoter cfg db claimId).2.claim = some row := by
  have hadmitted : MaySettle cfg .all db claim := fun _ _ => trivial
  obtain ⟨-, status, -, hanswer⟩ := installedPromoter_settles hclaim hpending hspot cfg hadmitted
  refine ⟨?_, _, hanswer⟩
  unfold installedPromoter
  rcases promoteClaimWithVerifiedWalletLimit_cases cfg
    (promotePendingClaimToSuccessIfCodeAvailable promotePendingClaimToSuccessIfCapacityAvailable) db claimId with
    ⟨hdelegate, -⟩ | ⟨_, _, _, _, promotion, hfailed⟩
  · rw [hdelegate]
    exact codePromoter_decides hclaim hpending hspot
  · rw [hfailed]
    have hset : ClaimStatus.failed ≠ .pending := nofun
    exact decided_modifyClaimStatus db claimId hset

lemma recordHeartbeat_decides {check : DistanceCheck} (hclaim : db.getClaim claim.id = some claim)
    (hspot : db.getSpot claim.spotId = some spot)
    (hcheck : getClaimDistanceCheck cfg db claim.spotId position accuracy = .ok (some check))
    (hsettles : nextScore claim.accuracy (durationClaimPenalty check.effectiveDistanceMetres check.radiusMetres) ≤ 0 ∨
      claim.claimedAt + spot.claimDuration ≤ db.now) :
    (recordHeartbeat cfg (installedPromoter cfg) db claim spot position accuracy).1.Decided claim.id ∧
      ∃ row, (recordHeartbeat cfg (installedPromoter cfg) db claim spot position accuracy).2 = .ok row := by
  unfold recordHeartbeat
  rw [hcheck]
  dsimp only
  generalize nextScore claim.accuracy (durationClaimPenalty check.effectiveDistanceMetres check.radiusMetres) = score
    at hsettles
  by_cases hpositive : 0 < score
  · have hdue := hsettles.resolve_left (not_le.mpr hpositive)
    have hmoved := getClaim_modifyClaimLocationScore hclaim position score
    have hspot' : (db.modifyClaimLocationScore claim.id position score .pending).getSpot
        (claim.moved db.now position score).spotId = some spot := hspot
    obtain ⟨hdone, row, hanswer⟩ := installedPromoter_decides cfg hmoved rfl hspot'
    rw [if_neg (not_le.mpr hpositive), if_pos ⟨hpositive, hdue⟩, hanswer]
    exact ⟨hdone, row, rfl⟩
  · have hset : ClaimStatus.failed ≠ .pending := nofun
    have hdone : (db.modifyClaimLocationScore claim.id position score .failed).Decided claim.id :=
      decided_modifyClaimStatus _ claim.id hset
    have hkept : ClaimsKept db (db.modifyClaimLocationScore claim.id position score .failed) :=
      (claimsKept_moved ..).then (claimsKept_updateClaimStatus ..)
    obtain ⟨row, hrow, -⟩ := hkept.getClaim hclaim
    rw [if_neg (fun h => hpositive h.1), if_pos (not_lt.mp hpositive), hrow]
    exact ⟨hdone, row, rfl⟩

/-- Nothing stops such a heartbeat: the winner's claim is PENDING no longer. -/
lemma SettlesWinner.decided (h : SettlesWinner cfg spotId db claimId userId position accuracy claim spot)
    (hdrawn : spot.isCompletedPrizedraw = true) :
    (claimLocationHeartbeatApi cfg db claimId userId position accuracy).Decided claimId := by
  have hspot : db.getSpot claim.spotId = some spot := h.ofSpot ▸ h.drawn
  have hsettled : (processDurationClaimLocationHeartbeat cfg (installedPromoter cfg) db claimId userId position
      accuracy).1.Decided claimId ∧ ∃ row, (processDurationClaimLocationHeartbeat cfg (installedPromoter cfg) db claimId
        userId position accuracy).2 = .ok row := by
    unfold processDurationClaimLocationHeartbeat
    rw [h.found]
    dsimp only
    rw [if_neg (not_not_intro h.owner), refresh_drawn h.found h.pending hspot hdrawn]
    dsimp only
    rw [if_neg (not_not_intro h.pending), hspot]
    dsimp only
    by_cases hzero : spot.claimDuration = 0
    · obtain ⟨hdone, row, hanswer⟩ := installedPromoter_decides cfg h.found h.pending hspot
      rw [if_pos hzero, hanswer]
      exact ⟨hdone, row, rfl⟩
    · rw [if_neg hzero]
      obtain ⟨check, hcheck, hsettles⟩ := h.settles.resolve_left hzero
      have hid := getClaim_id h.found
      rw [← hid]
      exact recordHeartbeat_decides (hid.symm ▸ h.found) hspot (h.ofSpot.symm ▸ hcheck) hsettles
  obtain ⟨hdone, row, hok⟩ := hsettled
  unfold claimLocationHeartbeatApi
  generalize processDurationClaimLocationHeartbeat cfg (installedPromoter cfg) db claimId userId position
    accuracy = outcome at hdone hok
  obtain ⟨made, result⟩ := outcome
  dsimp only at hok
  rw [hok]
  exact hdone

lemma winnersKept_heartbeat (hnumbered : Numbered db)
    (hdrawn : ∃ spot, db.getSpot spotId = some spot ∧ spot.isCompletedPrizedraw = true)
    (hsafe : ∀ claim spot, ¬ SettlesWinner cfg spotId db claimId userId position accuracy claim spot) :
    WinnersKept spotId db (claimLocationHeartbeatApi cfg db claimId userId position accuracy) := by
  obtain ⟨drawn, hfound, hdone⟩ := hdrawn
  have hwrites : WinnersKept spotId db (processDurationClaimLocationHeartbeat cfg (installedPromoter cfg) db claimId
      userId position accuracy).1 := by
    by_cases hquiet : ∃ claim, db.getClaim claimId = some claim ∧ claim.spotId = spotId ∧ claim.recipient = userId ∧
        claim.status = .pending ∧ drawn.claimDuration ≠ 0 ∧
        ∀ check, getClaimDistanceCheck cfg db claim.spotId position accuracy ≠ .ok (some check)
    · obtain ⟨claim, hclaim, hof, howner, hpending, hduration, hnone⟩ := hquiet
      have hspot : db.getSpot claim.spotId = some drawn := hof ▸ hfound
      exact .of_eq (by rw [heartbeat_unanswered hclaim howner hpending hspot hdone hduration hnone])
    · apply ClaimWrites.winnersKept hnumbered ⟨drawn, hfound, hdone⟩
      have hpaid : ∀ claim, db.getClaim claimId = some claim → claim.recipient = userId → claim.status = .pending →
          claim.spotId = spotId → (drawn.claimDuration = 0 ∨ ∃ check,
            getClaimDistanceCheck cfg db spotId position accuracy = .ok (some check) ∧
            (nextScore claim.accuracy (durationClaimPenalty check.effectiveDistanceMetres check.radiusMetres) ≤ 0 ∨
              claim.claimedAt + drawn.claimDuration ≤ db.now)) →
          db.hasConfirmedClaimPayoutTransaction claim.id = true := by
        intro claim hclaim howner hpending hof hsettles
        by_contra hunpaid
        have hid := getClaim_id hclaim
        rw [hid] at hunpaid
        exact hsafe claim drawn ⟨hclaim, hof, howner, hpending, Bool.eq_false_of_not_eq_true hunpaid, hfound, hsettles⟩
      apply heartbeat_admitted
      · intro claim spot hclaim howner hpending hspot hopen
        have hother : claim.spotId ≠ spotId := by
          intro hof
          rw [hof, hfound] at hspot
          rw [← Option.some.inj hspot, hdone] at hopen
          cases hopen
        exact ⟨fun hof => absurd hof hother, fun _ _ _ hof => absurd hof hother⟩
      · intro claim spot hclaim howner hpending hspot _
        have hsame : claim.spotId = spotId → spot = drawn := by
          intro hof
          rw [hof, hfound] at hspot
          exact (Option.some.inj hspot).symm
        refine ⟨?_, ?_, fun _ _ _ => trivial, ?_⟩
        · intro hzero _ _ hof
          exact hpaid claim hclaim howner hpending hof (.inl (hsame hof ▸ hzero))
        · intro check hcheck hscore hof
          rw [hof] at hcheck
          exact hpaid claim hclaim howner hpending hof (.inr ⟨check, hcheck, .inl hscore⟩)
        · intro hdue score status _ hof
          have hofSpot : claim.spotId = spotId := hof
          apply hpaid claim hclaim howner hpending hofSpot
          by_contra hnot
          apply hquiet
          refine ⟨claim, hclaim, hofSpot, howner, hpending, fun hzero => hnot (.inl hzero), ?_⟩
          intro check hcheck
          rw [hofSpot] at hcheck
          exact hnot (.inr ⟨check, hcheck, .inr (hsame hofSpot ▸ hdue)⟩)
  unfold claimLocationHeartbeatApi
  generalize processDurationClaimLocationHeartbeat cfg (installedPromoter cfg) db claimId userId position
    accuracy = outcome at hwrites
  obtain ⟨made, e | claim⟩ := outcome
  · dsimp only
    split_ifs
    · exact hwrites
    · exact .of_eq rfl
  · exact hwrites

/-- A refresh leaves the winners of a draw that is over alone. -/
lemma winnersKept_refresh (hnumbered : Numbered db)
    (hdrawn : ∃ spot, db.getSpot spotId = some spot ∧ spot.isCompletedPrizedraw = true) (claimId : ℕ) :
    WinnersKept spotId db (refreshClaimStatusFromConditions (installedPromoter cfg) db claimId).1 := by
  have hadmitted : ∀ claim spot, db.getClaim claimId = some claim → claim.status = .pending →
      db.getSpot claim.spotId = some spot → spot.isCompletedPrizedraw = false →
      RefreshAdmitted cfg (winnersPermit spotId) db claim spot := by
    intro claim spot _ _ hspot hopen
    have hother : claim.spotId ≠ spotId := by
      intro hof
      obtain ⟨drawn, hfound, hdone⟩ := hdrawn
      rw [hof, hfound] at hspot
      rw [← Option.some.inj hspot, hdone] at hopen
      cases hopen
    exact ⟨fun hof => absurd hof hother, fun _ _ _ hof => absurd hof hother⟩
  cases refresh_admitted hadmitted with
  | inl hsame => exact .of_eq (by rw [hsame.1])
  | inr hwrite => exact ClaimWrites.winnersKept hnumbered hdrawn (.single hwrite.1)

end Heartbeats

section Runs

variable {cfg : Settings P} {s : Sys P} {db : Db P} {op : Op P} {spotId : ℕ} {winners : List ℕ}

/-- What happens to a Prizedraw once it is drawn: time, heartbeats, refreshes, payouts, and what becomes of them. -/
def Op.IsPrizeLife : Op P → Prop
  | .tick _ | .heartbeat _ _ _ _ | .refresh _ | .retryPrizedrawPayouts _ | .payoutStandardClaim _ | .confirmTrans _
  | .failTrans _ | .resume _ _ | .crash _ => True
  | _ => False

/-- No heartbeat settles an unpaid winner. -/
def KeepsWinners (cfg : Settings P) (spotId : ℕ) (s : Sys P) (op : Op P) : Prop :=
  op.IsPrizeLife ∧ ∀ claimId userId position accuracy, op = .heartbeat claimId userId position accuracy →
    ∀ claim spot, ¬ SettlesWinner cfg spotId s.db claimId userId position accuracy claim spot

/-- A Prizedraw whose draw is over, in a running deployment. -/
structure Sys.DrawOver (spotId : ℕ) (winners : List ℕ) (s : Sys P) : Prop where
  settling : s.Settling
  chosen : WinnersChosen spotId winners s.db
  pays : s.PaysGood fun claimId ofSpot => ofSpot = spotId → claimId ∈ winners

/-- Every write but a ban. -/
def Permit.unbanned : Permit P := ⟨.all, fun _ _ _ => True, fun _ _ => False⟩

lemma KeepsWinners.admitted (h : KeepsWinners cfg spotId s op) : op.Admitted cfg .unbanned s.db := by
  cases op with
  | heartbeat claimId userId position accuracy =>
    intro claim spot _ _ _ _
    refine ⟨fun _ => ⟨trivial, fun _ _ _ => trivial⟩, ?_⟩
    exact fun _ => ⟨fun _ _ _ => trivial, fun _ _ _ => trivial, fun _ _ _ => trivial, fun _ _ _ _ => trivial⟩
  | refresh claimId => exact fun _ _ _ _ _ _ => ⟨trivial, fun _ _ _ => trivial⟩
  | claim req => exact h.1.elim
  | settlePrizedraw id sample => exact h.1.elim
  | banSpot id => exact h.1.elim
  | _ => trivial

lemma step_winnersKept (h : s.DrawOver spotId winners) (hop : KeepsWinners cfg spotId s op) :
    WinnersKept spotId s.db (step cfg s op).db := by
  have hnumbered := h.settling.kept.numbered
  unfold NimHunt.step
  cases op with
  | tick seconds => exact .of_eq rfl
  | heartbeat claimId userId position accuracy => 
    exact winnersKept_heartbeat hnumbered h.chosen.drawn (hop.2 claimId userId position accuracy rfl)
  | refresh claimId => exact winnersKept_refresh hnumbered h.chosen.drawn claimId
  | retryPrizedrawPayouts id => exact winnersKept_payoutPass s.db id
  | payoutStandardClaim claimId => exact .of_eq rfl
  | confirmTrans transId =>
    dsimp only
    cases s.db.getTransaction transId with
    | none => exact .of_eq rfl
    | some row =>
      dsimp only
      split_ifs <;> exact .of_eq rfl
  | failTrans transId =>
    dsimp only
    cases s.db.getTransaction transId with
    | none => exact .of_eq rfl
    | some row => exact winnersKept_failed row
  | resume index reply =>
    dsimp only
    cases htask : s.inFlight[index]? with
    | none => exact .of_eq rfl
    | some k =>
      have hmem := List.mem_of_getElem? htask
      have hquiet : ∀ k : Continuation, k.IsQuiet → (resume cfg s.db reply k).1.claims = s.db.claims := fun k hk =>
        (@resume_payoutRows _ cfg (fun _ => False) s.db reply k hk).2.1
      cases k with
      | claimReward job =>
        have hledger : LedgerOnly s.db (submitClaimRewardTransaction cfg s.db job reply.txHash).1 :=
          (submitClaimRewardTransaction_inserts job reply.txHash).ledgerOnly
        exact hledger.winnersKept
      | confirmation row payout =>
        obtain ⟨⟨t, ht, hread⟩, hclaim⟩ := h.pays.read row payout hmem
        dsimp only
        unfold NimHunt.resume
        dsimp only
        cases verifiedTransfer cfg row with
        | none => exact .of_eq rfl
        | some transfer => exact winnersKept_confirmed hnumbered.trans.1 transfer payout ht hread hclaim
      | _ =>
        refine .of_eq (hquiet _ ?_)
        trivial
  | crash index => exact .of_eq rfl
  | _ => exact hop.1.elim

lemma Sys.DrawOver.step (h : s.DrawOver spotId winners) (hop : KeepsWinners cfg spotId s op) :
    (step cfg s op).DrawOver spotId winners := by
  have hpays : s.PaysOnly op (NimHunt.step cfg s op) := step_paysOnly h.settling.kept h.pays.booked
  have hwrites := (step_writes h.settling.kept hop.admitted).1
  refine ⟨h.settling.step op, ?_, ?_⟩
  · exact h.chosen.move (step_winnersKept h hop) hpays.rows hwrites.prizesHeld fun _ _ hban => hban
  · refine h.pays.move h.settling.kept hpays hwrites.claimsKept (fun _ _ hgood => hgood) ?_
    intro job hdecides
    cases hdecides with
    | prize hjob =>
      obtain ⟨-, claim, -, -, hclaim, hid, hof, hpending⟩ := claim_of_prizeJob hjob
      refine ⟨claim, hclaim, hid, ?_⟩
      intro hspot
      exact h.chosen.pending claim hclaim hspot hpending
    | reward hjob =>
      obtain ⟨spot, claim, hclaim, hid, hspot, hstandard, -⟩ := claim_of_rewardJob hjob
      refine ⟨claim, List.mem_of_find?_eq_some hclaim, hid, ?_⟩
      intro hof
      obtain ⟨drawn, hfound, hdone⟩ := h.chosen.drawn
      rw [hof, hfound] at hspot
      rw [← Option.some.inj hspot] at hstandard
      have hprize : drawn.prizeCount.isSome = true := (of_decide_eq_true hdone : drawn.status = .completed ∧ _).2
      rw [hstandard] at hprize
      cases hprize

/-- The winners are found again by what they still wait for or have been paid. -/
lemma Sys.DrawOver.getPrizedrawWinnerClaimIds_eq (h : s.DrawOver spotId winners) (hsorted : winners.Pairwise (· < ·)) :
    s.db.getPrizedrawWinnerClaimIds spotId = winners := by
  apply getPrizedrawWinnerClaimIds_eq_of hsorted
  intro id
  constructor
  · intro hwinner
    obtain ⟨c, hc, hid, hof, hstands⟩ := h.chosen.winner id hwinner
    cases hstands with
    | inl hpending => exact .inl ⟨c, hc, hid, hof, hpending⟩
    | inr hpaid =>
      right
      obtain ⟨t, ht, hrow⟩ := List.any_eq_true.mp hpaid
      obtain ⟨hclaimId, htype, -⟩ := of_decide_eq_true hrow
      obtain ⟨claim, hclaim, hbooked, hspot, -⟩ := h.pays.rows t ht htype
      have hsame : claim.id = c.id := (Option.some.inj (hbooked.symm.trans hclaimId)).trans hid.symm
      rw [eq_of_key_eq h.settling.kept.numbered.keyed.claimKeys hclaim hc hsame, hof] at hspot
      exact ⟨t, ht, hclaimId, hspot, htype⟩
  · intro hnamed
    cases hnamed with
    | inl hpending =>
      obtain ⟨c, hc, hid, hof, hwaits⟩ := hpending
      rw [← hid]
      exact h.chosen.pending c hc hof hwaits
    | inr hpaid =>
      obtain ⟨t, ht, hid, hspot, htype⟩ := hpaid
      obtain ⟨claim, -, hbooked, hof, hgood⟩ := h.pays.rows t ht htype
      rw [← Option.some.inj (hbooked.symm.trans hid)]
      exact hgood (Option.some.inj (hof.symm.trans hspot))

/-- After the draw each winner is PENDING until a payout of it is CONFIRMED, and the winners stay the same. -/
structure WinnersPaidFirst (spotId : ℕ) (winners : List ℕ) (db : Db P) : Prop where
  chosen : db.getPrizedrawWinnerClaimIds spotId = winners
  paid : ∀ c ∈ db.claims, c.id ∈ winners → c.status = .pending ∨ db.hasConfirmedClaimPayoutTransaction c.id = true

lemma Sys.DrawOver.paidFirst (h : s.DrawOver spotId winners) (hsorted : winners.Pairwise (· < ·)) :
    WinnersPaidFirst spotId winners s.db := by
  refine ⟨h.getPrizedrawWinnerClaimIds_eq hsorted, ?_⟩
  intro c hc hwinner
  obtain ⟨found, hfound, hid, -, hstands⟩ := h.chosen.winner c.id hwinner
  rw [eq_of_key_eq h.settling.kept.numbered.keyed.claimKeys hfound hc hid] at hstands
  exact hstands

/-- The draw itself, in any state a run reaches. -/
lemma Sys.Settling.drawOver (h : s.Settling) {spot : Spot P} {prizeCount : ℕ} {sample : Sampler P}
    (hdue : DrawDue s.db spot prizeCount) (hentered : ∀ id ∈ winners, ∃ c ∈ entries s.db spot.id, c.id = id)
    (hsettled : SettledWith s.db spot winners (settlePrizedrawSpotIfReady sample s.db spot.id)) :
    (NimHunt.step cfg s (.settlePrizedraw spot.id sample)).DrawOver spot.id winners := by
  have hpays : s.PaysOnly (.settlePrizedraw spot.id sample) (NimHunt.step cfg s (.settlePrizedraw spot.id sample)) :=
    step_paysOnly h.kept h.pays.booked
  have hwrites := (@step_writes _ cfg .all s (.settlePrizedraw spot.id sample) h.kept (admitted_all _)).1
  refine ⟨h.step _, ?_, ?_⟩
  · refine ⟨?_, fun c hc => hsettled.pending hc, ?_⟩
    · obtain ⟨spot', hspot', hdone, -⟩ := hsettled.completed hdue
      exact ⟨spot', hspot', hdone⟩
    · intro id hwinner
      obtain ⟨c, hc, hid, hof, hpending⟩ := hsettled.winner hwinner (hentered id hwinner)
      exact ⟨c, hc, hid, hof, .inl hpending⟩
  · refine h.pays.move h.kept hpays hwrites.claimsKept ?_ (fun _ hdecides => nomatch hdecides)
    -- Before the draw nothing is owed for an entry.
    intro _ ofSpot hentitled hof
    obtain ⟨found, hfound, -, hover⟩ := hentitled
    rw [hof, hdue.found] at hfound
    rw [← Option.some.inj hfound, hdue.prizedraw] at hover
    exact absurd hdue.published (hover rfl)

/-- A heartbeat that settles an unpaid winner drops it. -/
lemma SettlesWinner.drops {claimId userId : ℕ} {position : P} {accuracy : Option ℚ} {claim : Claim P} {spot : Spot P}
    (hsettles : SettlesWinner cfg spotId s.db claimId userId position accuracy claim spot)
    (h : s.DrawOver spotId winners) :
    ¬ WinnersPaidFirst spotId winners (step cfg s (.heartbeat claimId userId position accuracy)).db := by
  intro hpaid
  obtain ⟨drawn, hfound, hdone⟩ := h.chosen.drawn
  rw [Option.some.inj (hfound.symm.trans hsettles.drawn)] at hdone
  have hdecided := hsettles.decided hdone
  have hwrites := (@step_writes _ cfg .all s (.heartbeat claimId userId position accuracy) h.settling.kept
    (admitted_all _)).1
  obtain ⟨claim', hclaim', hsame⟩ := hwrites.claimsKept.getClaim hsettles.found
  have hid := getClaim_id hclaim'
  have hmem : claim' ∈ (step cfg s (.heartbeat claimId userId position accuracy)).db.claims :=
    List.mem_of_find?_eq_some hclaim'
  have hwinner : claim'.id ∈ winners := by
    rw [hsame.id]
    exact h.chosen.pending claim (List.mem_of_find?_eq_some hsettles.found) hsettles.ofSpot hsettles.pending
  cases hpaid.paid claim' hmem hwinner with
  | inl hwaits => exact hdecided claim' hmem hid hwaits
  | inr hconfirmed =>
    have hunpaid := hsettles.unpaid
    have htrans := @claimLocationHeartbeatApi_trans _ cfg s.db claimId userId position accuracy
    unfold Db.hasConfirmedClaimPayoutTransaction at hconfirmed hunpaid
    change (claimLocationHeartbeatApi cfg s.db claimId userId position accuracy).trans.any _ = true at hconfirmed
    rw [htrans, hid, hunpaid] at hconfirmed
    cases hconfirmed

/-- A step keeps the winners exactly when it is no heartbeat that settles an unpaid one. -/
lemma Sys.DrawOver.paidFirst_iff (h : s.DrawOver spotId winners) (hsorted : winners.Pairwise (· < ·))
    (hlife : op.IsPrizeLife) :
    WinnersPaidFirst spotId winners (NimHunt.step cfg s op).db ↔ KeepsWinners cfg spotId s op := by
  constructor
  · intro hpaid
    refine ⟨hlife, ?_⟩
    intro claimId userId position accuracy hop claim spot hsettles
    rw [hop] at hpaid
    exact hsettles.drops h hpaid
  · intro hkeeps
    exact (h.step hkeeps).paidFirst hsorted

/-- Once a Prizedraw is drawn, its winners are paid before they leave PENDING in every run without a heartbeat that
settles one of them, and the first such heartbeat drops its winner. -/
theorem winners_are_paid_first (cfg : Settings P) {before : List (Op P)} {spot : Spot P} {prizeCount : ℕ}
    {sample : Sampler P} (hsample : IsSampler sample)
    (hdue : DrawDue (run (step cfg) Sys.initial before).db spot prizeCount) :
    let s := run (step cfg) Sys.initial before
    let settled := step cfg s (.settlePrizedraw spot.id sample)
    ∃ winners : List ℕ, SettledWith s.db spot winners (settlePrizedrawSpotIfReady sample s.db spot.id) ∧
      ∀ later : List (Op P), Admissible (step cfg) (KeepsWinners cfg spot.id) settled later →
        WinnersPaidFirst spot.id winners (run (step cfg) settled later).db ∧
        ∀ op : Op P, op.IsPrizeLife → (WinnersPaidFirst spot.id winners (step cfg (run (step cfg) settled later) op).db ↔
          KeepsWinners cfg spot.id (run (step cfg) settled later) op) := by
  dsimp only
  have hsettling : (run (step cfg) Sys.initial before).Settling :=
    run_invariant (fun s op _ h => h.step op) (admissible_true Sys.initial before) settling_initial
  obtain ⟨winners, hsorted, hentered, hsettled⟩ := exists_winners hsettling.kept.numbered.keyed hdue hsample
  refine ⟨winners, hsettled, ?_⟩
  intro later hlater
  have hpreserved : ∀ (s : Sys P) (op : Op P), KeepsWinners cfg spot.id s op → s.DrawOver spot.id winners →
      (step cfg s op).DrawOver spot.id winners := fun _ _ hop h => h.step hop
  have hover := run_invariant hpreserved hlater (hsettling.drawOver hdue hentered hsettled)
  exact ⟨hover.paidFirst hsorted, fun op hlife => hover.paidFirst_iff hsorted hlife⟩

/-- One entry, which has waited its minute, in a Prizedraw that ends. -/
def endedDraw : List (Op Unit) :=
  [.tick 1000, .registerUser { id := 1, status := .active }, .registerUser { id := 2, status := .active },
    .bindWallet 2 "NQ07 FIRST",
    .createPrizedraw 1 "NQ01 SPOT" {
      position := some (), claimDuration := some 60, maxTotalClaims := some 0, totalValue := some 100000000,
      endsAt := some 100000 } (some 1),
    .recordDeposit 1 1 100000000 "NQ02 OWNER" depositHash, .confirmTrans 1, .resume 0 {}, .publish 1 [],
    .claim ⟨1, 2, (), some 5, none, none⟩, .tick 60, .refresh 1, .tick 100000]

lemma endedDraw_due : ∃ spot, spot.id = 1 ∧ DrawDue (run (step Settings.depositShown) Sys.initial endedDraw).db spot 1 := by
  have hstate : ((run (step Settings.depositShown) Sys.initial endedDraw).db.getSpot 1).any (fun spot =>
      spot.status = .published ∧ spot.prizeCount = some 1 ∧
        ((run (step Settings.depositShown) Sys.initial endedDraw).db.settlementReadyReason spot).isSome = true) =
        true := by decide +kernel
  cases hspot : (run (step Settings.depositShown) Sys.initial endedDraw).db.getSpot 1 with
  | none =>
    rw [hspot] at hstate
    cases hstate
  | some spot =>
    rw [hspot] at hstate
    obtain ⟨hpublished, hprize, hready⟩ := of_decide_eq_true hstate
    have hid := getSpot_id hspot
    exact ⟨spot, hid, hid ▸ hspot, hpublished, hprize, Option.isSome_iff_exists.mp hready⟩

lemma endedDraw_winners {winners : List ℕ} {spot : Spot Unit} (hid : spot.id = 1)
    (hsettled : SettledWith (run (step Settings.depositShown) Sys.initial endedDraw).db spot winners
      (settlePrizedrawSpotIfReady (fun claims k => claims.take k)
        (run (step Settings.depositShown) Sys.initial endedDraw).db spot.id)) : winners = [1] := by
  have hdrawn : (settlePrizedrawSpotIfReady (fun claims k => claims.take k)
      (run (step Settings.depositShown) Sys.initial endedDraw).db 1).2 = .ok ⟨true, "spot_ended", 0, 1, [1]⟩ := by
    decide +kernel
  rw [hid] at hsettled
  obtain ⟨result, hok, -, hids⟩ := hsettled.result
  rw [Except.ok.inj (hok.symm.trans hdrawn)] at hids
  exact List.perm_singleton.mp hids.symm

/-- A payout pass sends the prize, and again after the first payout has failed. -/
theorem winners_are_paid_first_retry :
    (run (step Settings.depositShown)
      (step Settings.depositShown (run (step Settings.depositShown) Sys.initial endedDraw)
        (.settlePrizedraw 1 fun claims k => claims.take k))
      [.refresh 1, .retryPrizedrawPayouts 1, .resume 0 { txHash := "first" }, .failTrans 2,
        .retryPrizedrawPayouts 1]).db.getPrizedrawWinnerClaimIds 1 = [1] := by
  obtain ⟨spot, hid, hdue⟩ := endedDraw_due
  obtain ⟨winners, hsettled, hpaid⟩ := winners_are_paid_first Settings.depositShown isSampler_take hdue
  rw [endedDraw_winners hid hsettled, hid] at hpaid
  refine (hpaid _ ?_).1.chosen
  have hquiet : ∀ op ∈ [Op.refresh 1, .retryPrizedrawPayouts 1, .resume 0 { txHash := "first" }, .failTrans 2,
      .retryPrizedrawPayouts 1], ∀ s, KeepsWinners Settings.depositShown 1 s op := by
    intro op hop s
    simp only [List.mem_cons, List.not_mem_nil, or_false] at hop
    obtain rfl | rfl | rfl | rfl | rfl := hop <;> exact ⟨trivial, nofun⟩
  exact admissible_of_forall hquiet _

/-- The winner's next heartbeat makes its claim SUCCESS, and nothing is ever paid for it. -/
theorem heartbeat_drops_winner : ¬ ∀ (before later : List (Op Unit)) (spot : Spot Unit) (prizeCount : ℕ)
    (sample : Sampler Unit), IsSampler sample →
    DrawDue (run (step Settings.depositShown) Sys.initial before).db spot prizeCount →
    (∀ op ∈ later, op.IsPrizeLife) →
    let s := run (step Settings.depositShown) Sys.initial before
    ∃ winners : List ℕ, SettledWith s.db spot winners (settlePrizedrawSpotIfReady sample s.db spot.id) ∧
      WinnersPaidFirst spot.id winners
        (run (step Settings.depositShown) (step Settings.depositShown s (.settlePrizedraw spot.id sample)) later).db := by
  intro hall
  obtain ⟨spot, hid, hdue⟩ := endedDraw_due
  have hlife : ∀ op ∈ [Op.heartbeat 1 2 () (some 5)], op.IsPrizeLife := by
    intro op hop
    rw [List.mem_singleton.mp hop]
    trivial
  obtain ⟨winners, hsettled, hpaid⟩ := hall endedDraw _ spot 1 _ isSampler_take hdue hlife
  rw [endedDraw_winners hid hsettled, hid] at hpaid
  have hchosen := hpaid.chosen
  revert hchosen
  decide +kernel

end Runs

end NimHunt
