import NimHunt.Proofs.BooksWrites

/-!
# The life of a Spot in the books

Drafts come and are edited, Spots are published, drawn, completed, cancelled and banned; each of it moves the account
of that Spot alone.
-/

namespace NimHunt

open Lib Relation

variable {P : Type}

section Accounts

variable {db : Db P}

lemma total_eq_sumBy (type : TransType) (status : TransStatus) (rows : List Trans) :
    total type status rows = sumBy (fun t => if t.type = type ∧ t.status = status then t.amount else 0) rows := by
  have hfiltered := sumBy_filter (fun t : Trans => decide (t.type = type ∧ t.status = status)) Trans.amount rows
  simp only [decide_eq_true_eq] at hfiltered
  exact hfiltered

/-- What came in is what the deposits of the Spot are worth. -/
lemma income_account (db : Db P) (spot : Spot P) :
    (db.account spot).income = db.getConfirmedSpotDepositTotal spot.id :=
  (total_eq_sumBy .fillSpot .confirmed (db.transOfSpot spot.id)).symm

lemma feeSettled_account {spot : Spot P} (h : db.hasConfirmedSpotCreationFeeTransaction spot = true) :
    (db.account spot).FeeSettled := by
  unfold Db.hasConfirmedSpotCreationFeeTransaction at h
  rcases Bool.or_eq_true _ _ ▸ h with hfree | hpaid
  · exact .inl (of_decide_eq_true hfree)
  · obtain ⟨t, ht, hrow⟩ := List.any_eq_true.mp hpaid
    obtain ⟨htype, hstatus, -⟩ := of_decide_eq_true hrow
    exact .inr ⟨t, ht, htype, hstatus⟩

/-- Another status leaves a standard Spot, and a Prizedraw outside its draw, what it owes. -/
lemma account_withStatus (db : Db P) (spot : Spot P) {status : SpotStatus}
    (h : spot.prizeCount = none ∨ spot.status ≠ .completed ∧ status ≠ .completed) :
    db.account { spot with status := status } = { db.account spot with status := status } := by
  unfold Db.account
  by_cases hstandard : spot.prizeCount = none
  · simp only [if_pos hstandard]
    rfl
  · obtain ⟨hbefore, hafter⟩ := h.resolve_left hstandard
    simp only [if_neg hstandard, if_neg hbefore, if_neg hafter]

lemma marked_account {spot : Spot P} (h : spot.cancellationStartedAt = none) : (db.account spot).marked = false := by
  change spot.cancellationStartedAt.isSome = false
  rw [h]
  rfl

end Accounts

section Drafts

variable {cfg : Settings P} {db db' : Db P}

lemma SameLeases.of_update {sel : Spot P → Bool} {f : Spot P → Spot P} (hspots : db'.spots = updateWhere sel f db.spots)
    (hid : ∀ s, (f s).id = s.id) (hguard : db'.cancellationGuard = db.cancellationGuard)
    (hpolicy : db'.cancellationPolicy = db.cancellationPolicy)
    (hmarker : ∀ s, db.getSpot s.id = some s → sel s = true → (f s).cancellationStartedAt = s.cancellationStartedAt) :
    SameLeases db db' := by
  refine ⟨hguard, hpolicy, ?_⟩
  intro spotId spot' hspot' hmarked
  have hget : db'.getSpot spotId = (db.getSpot spotId).map fun s => if sel s then f s else s := by
    unfold Db.getSpot
    rw [hspots]
    exact find?_updateWhere_key hid spotId
  rw [hget] at hspot'
  obtain ⟨s, hs, hrow⟩ := Option.map_eq_some_iff.mp hspot'
  refine ⟨s, hs, ?_⟩
  by_cases hsel : sel s = true
  · rw [if_pos hsel] at hrow
    rw [← hmarker s ((getSpot_id hs).symm ▸ hs) hsel, hrow]
    exact hmarked
  · rw [if_neg hsel] at hrow
    rw [hrow]
    exact hmarked

/-- A new draft has an empty account. -/
lemma proceeds_drafted (hbooks : Books db) {spot : Spot P} (hid : spot.id = db.spotSeq + 1)
    (hdraft : spot.status = .draft) (hmarker : spot.cancellationStartedAt = none) (hchecked : SpotChecked spot) :
    Proceeds cfg db { db with spots := db.spots ++ [spot], spotSeq := spot.id } := by
  have hwrite : DbWrite cfg .all db { db with spots := db.spots ++ [spot], spotSeq := spot.id } :=
    .drafted hid hdraft hmarker hchecked
  have hfresh : db.getSpot spot.id = none := by
    unfold Db.getSpot
    rw [List.find?_eq_none]
    intro s hs hsame
    have hle := hbooks.numbered.spotFresh s hs
    have heq : s.id = spot.id := of_decide_eq_true hsame
    omega
  have hget : ∀ spotId, Db.getSpot { db with spots := db.spots ++ [spot], spotSeq := spot.id } spotId =
      (db.getSpot spotId).or (if spot.id = spotId then some spot else none) := by
    intro spotId
    unfold Db.getSpot
    dsimp only
    rw [List.find?_append]
    congr 1
    by_cases hsame : spot.id = spotId
    · rw [if_pos hsame, List.find?_cons_of_pos (by simpa using hsame)]
    · rw [if_neg hsame, List.find?_cons_of_neg (by simpa using hsame), List.find?_nil]
  have hkept : ∀ {spotId : ℕ} {s : Spot P}, db.getSpot spotId = some s →
      Db.getSpot { db with spots := db.spots ++ [spot], spotSeq := spot.id } spotId = some s := by
    intro spotId s hs
    rw [hget, hs]
    rfl
  have hcases : ∀ {spotId : ℕ} {s : Spot P},
      Db.getSpot { db with spots := db.spots ++ [spot], spotSeq := spot.id } spotId = some s →
        db.getSpot spotId = some s ∨ spotId = spot.id ∧ s = spot := by
    intro spotId s hs
    rw [hget] at hs
    cases hfound : db.getSpot spotId with
    | some found =>
      rw [hfound] at hs
      exact .inl hs
    | none =>
      rw [hfound, Option.none_or] at hs
      split_ifs at hs with hsame
      exact .inr ⟨hsame.symm, (Option.some.inj hs).symm⟩
  have hnorows : db.transOfSpot spot.id = [] := by
    unfold Db.transOfSpot
    rw [List.filter_eq_nil_iff]
    intro t ht hof
    have hplaced := hbooks.placed t ht spot.id (of_decide_eq_true hof)
    rw [hfresh] at hplaced
    cases hplaced
  have hnobody : db.successIds spot.id = ∅ := by
    ext id
    rw [mem_successIds]
    constructor
    · rintro ⟨c, hc, -, hof, -⟩
      obtain ⟨found, hfound, -⟩ := hbooks.entered c hc
      rw [hof, hfresh] at hfound
      cases hfound
    · exact fun h => absurd h (Finset.notMem_empty id)
  have hsound : (db.account spot).Sound := by
    have hpayees : (db.account spot).payees = ∅ := by
      unfold Db.account
      dsimp only
      split_ifs with hstandard hcompleted
      · exact hnobody
      · rw [hdraft] at hcompleted
        cases hcompleted
      · rfl
    exact Account.sound_empty hnorows hpayees hdraft (marked_account hmarker)
  refine ⟨⟨⟨?_, ?_⟩, ?_, fun _ hread => hread⟩, rfl, rfl, ?_⟩
  · intro spotId s hs
    exact ⟨s, hkept hs, .refl⟩
  · intro spotId s hs hnone
    rcases hcases hs with hold | ⟨-, hnew⟩
    · rw [hnone] at hold
      cases hold
    · exact hnew ▸ hsound
  · constructor
    · exact hwrite.numbered hbooks.numbered
    · intro spotId s hs
      rcases hcases hs with hold | ⟨-, hnew⟩
      · exact hbooks.sound spotId s hold
      · exact hnew ▸ hsound
    · exact hbooks.ordered
    · exact hbooks.dated
    · intro t ht spotId hspotId
      obtain ⟨s, hs⟩ := Option.isSome_iff_exists.mp (hbooks.placed t ht spotId hspotId)
      rw [hkept hs]
      rfl
    · intro c hc
      obtain ⟨s, hs, hplaced⟩ := hbooks.entered c hc
      exact ⟨s, hkept hs, hplaced⟩
    · exact hbooks.booked
    · intro c hc hwaits s hs hcompleted
      rcases hcases hs with hold | ⟨-, hnew⟩
      · exact hbooks.quiet c hc hwaits s hold hcompleted
      · rw [hnew, hdraft] at hcompleted
        cases hcompleted
    · intro t ht htype spotId s hspotId hs hdrawn
      rcases hcases hs with hold | ⟨-, hnew⟩
      · exact hbooks.paidOut t ht htype spotId s hspotId hold hdrawn
      · have hcompleted := (of_decide_eq_true hdrawn : s.status = .completed ∧ s.prizeCount.isSome = true).1
        rw [hnew, hdraft] at hcompleted
        cases hcompleted
    · intro spotId s hs hprizedraw hpublished
      rcases hcases hs with hold | ⟨-, hnew⟩
      · exact hbooks.drawable spotId s hold hprizedraw hpublished
      · rw [hnew, hdraft] at hpublished
        cases hpublished
  · intro spotId s hs hmarked
    rcases hcases hs with hold | ⟨-, hnew⟩
    · exact ⟨s, hold, hmarked⟩
    · rw [hnew, hmarker] at hmarked
      cases hmarked

lemma proceeds_insertSpot (hbooks : Books db) {spot : Spot P} (hid : spot.id = db.spotSeq + 1)
    (hdraft : spot.status = .draft) (hmarker : spot.cancellationStartedAt = none) (hchecked : SpotChecked spot) :
    Proceeds cfg db (db.insertSpot spot).1 := by
  unfold Db.insertSpot
  split_ifs
  · exact .refl hbooks
  · exact proceeds_drafted hbooks hid hdraft hmarker hchecked

lemma proceeds_createSpot (hbooks : Books db) (createdBy : ℕ) (depositAddress : Address) (fields : SpotFields P) :
    Proceeds cfg db (createSpot cfg db createdBy depositAddress fields).1 := by
  unfold createSpot
  cases hdraft : newDraft cfg (db.spotSeq + 1) createdBy depositAddress fields none with
  | error e => exact .refl hbooks
  | ok spot =>
    obtain ⟨hid, hstatus, hmarker, -, hchecked⟩ := newDraft_ok hdraft
    exact proceeds_insertSpot hbooks hid hstatus hmarker hchecked

lemma proceeds_createPrizedraw (hbooks : Books db) (createdBy : ℕ) (depositAddress : Address) (fields : SpotFields P)
    (prizeCount : Option ℤ) : Proceeds cfg db (createPrizedraw cfg db createdBy depositAddress fields prizeCount).1 := by
  unfold createPrizedraw
  cases checkNewPrizedraw fields prizeCount with
  | error e => exact .refl hbooks
  | ok count =>
    dsimp only
    generalize ({ fields with maxTotalClaims := _, usePassword := _ } : SpotFields P) = drawFields
    cases hdraft : newDraft cfg (db.spotSeq + 1) createdBy depositAddress drawFields (some count) with
    | error e => exact .refl hbooks
    | ok spot =>
      obtain ⟨hid, hstatus, hmarker, -, hchecked⟩ := newDraft_ok hdraft
      exact proceeds_insertSpot hbooks hid hstatus hmarker hchecked

/-- An edit changes what a draft is worth, and nobody is owed anything of it yet. -/
lemma proceeds_edited (hbooks : Books db) {spot next : Spot P} (hspot : db.getSpot spot.id = some spot)
    (hdraft : spot.status = .draft) (hsame : SameDraft spot next) (hchecked : SpotChecked spot → SpotChecked next) :
    Proceeds cfg db { db with spots := updateWhere (fun s => s.id = spot.id) (fun _ => next) db.spots } := by
  have hwrite : DbWrite cfg .all db
      { db with spots := updateWhere (fun s => s.id = spot.id) (fun _ => next) db.spots } :=
    .edited hspot hdraft hsame hchecked
  have honly : ∀ s : Spot P, db.getSpot s.id = some s → decide (s.id = spot.id) = true → s = spot := by
    intro s hs hsel
    rw [of_decide_eq_true hsel] at hs
    exact Option.some.inj (hs.symm.trans hspot)
  have hrows := edited_spots hsame.id db.spots
  have hdraft' : next.status = .draft := hsame.status.trans hdraft
  refine ⟨.of_spot hbooks (hwrite.numbered hbooks.numbered) hrows (fun _ => rfl) rfl le_rfl rfl (.of_eq rfl) ?_,
    .of_update hrows (fun _ => rfl) rfl rfl ?_⟩
  · intro s hs hsel
    obtain rfl := honly s hs hsel
    have hkind : next.prizeCount = none ↔ s.prizeCount = none := by
      rw [← Option.not_isSome_iff_eq_none, ← Option.not_isSome_iff_eq_none, hsame.prizedraw]
    have haccount : Db.account { db with spots := updateWhere (fun t => t.id = s.id) (fun _ => next) db.spots }
        { next with id := s.id } =
        { db.account s with
          totalValue := next.totalValue
          share := (Db.account db { next with id := s.id }).share } := by
      unfold Db.account
      have hopen : s.status ≠ .completed := by
        rw [hdraft]
        nofun
      simp only [hkind, if_neg hopen, hsame.status, hsame.cancellationStartedAt, hsame.creationFee]
      rfl
    constructor
    · refine .single ⟨?_, ?_⟩
      · rw [haccount]
        exact .edited _ _ hdraft
      · rw [haccount]
        exact fun h => h
    · exact fun hplaced => absurd hdraft hplaced
    · intro hcompleted
      rw [hdraft'] at hcompleted
      cases hcompleted
    · intro hdrawn
      have hcompleted := (of_decide_eq_true hdrawn : next.status = .completed ∧ next.prizeCount.isSome = true).1
      rw [hdraft'] at hcompleted
      cases hcompleted
    · intro _ hpublished
      rw [hdraft'] at hpublished
      cases hpublished
  · intro s hs hsel
    obtain rfl := honly s hs hsel
    exact hsame.cancellationStartedAt

lemma proceeds_modifyDraftSpot (hbooks : Books db) (spotId : ℕ) (edit : DraftEdit P) :
    Proceeds cfg db (modifyDraftSpot db spotId edit).1 := by
  unfold modifyDraftSpot
  cases hrequire : requireDraftSpot db spotId with
  | error e => exact .refl hbooks
  | ok spot =>
    obtain ⟨hspot, hdraft, -⟩ := requireDraftSpot_ok hrequire
    dsimp only
    cases hedited : editedDraft db spot edit with
    | error e => exact .refl hbooks
    | ok next =>
      dsimp only
      split_ifs
      · exact .refl hbooks
      · exact .refl hbooks
      · exact .refl hbooks
      · obtain ⟨hsame, hchecked⟩ := editedDraft_ok hedited
        have hid := getSpot_id hspot
        subst hid
        have hproceeds : Proceeds cfg db
            { db with spots := updateWhere (fun s => s.id = spot.id) (fun _ => next) db.spots } :=
          proceeds_edited hbooks hspot hdraft hsame hchecked
        have hdrop : DbWrite cfg .all { db with spots := updateWhere (fun s => s.id = spot.id) (fun _ => next) db.spots }
            (Db.deleteUnusedClaimCodesForSpot
              { db with spots := updateWhere (fun s => s.id = spot.id) (fun _ => next) db.spots } spot.id) :=
          .codesDropped _ fun cc hcc => by simpa using (of_decide_eq_true hcc).2
        exact hproceeds.then (.of_frame hproceeds.books (hdrop.numbered hproceeds.books.numbered) rfl rfl le_rfl rfl rfl rfl)

/-- What `can_publish_spot` has checked of the money. -/
lemma canPublishSpot_funded {spot : Spot P} (h : canPublishSpot db spot = true) :
    spot.status = .draft ∧ spot.cancellationStartedAt = none ∧
      spot.totalValue + spot.creationFee ≤ db.getConfirmedSpotDepositTotal spot.id ∧
      db.hasConfirmedSpotCreationFeeTransaction spot = true := by
  unfold canPublishSpot at h
  simp only [Bool.and_eq_true, decide_eq_true_eq, Option.isNone_iff_eq_none] at h
  obtain ⟨⟨⟨⟨⟨⟨⟨⟨⟨⟨⟨hdraft, hmarker⟩, -⟩, -⟩, -⟩, -⟩, -⟩, -⟩, -⟩, -⟩, hfunded⟩, hfee⟩ := h
  exact ⟨hdraft, hmarker, hfunded, hfee⟩

lemma proceeds_published (hbooks : Books db) {spot : Spot P} (hspot : db.getSpot spot.id = some spot)
    (hpublish : canPublishSpot db spot = true) :
    Proceeds cfg db { db with
      spots := updateWhere (fun s => s.id = spot.id ∧ s.status = .draft ∧ s.cancellationStartedAt = none)
        (fun s => { s with startsAt := some (s.startsAt.getD db.now), status := .published }) db.spots } := by
  have hwrite : DbWrite cfg .all db { db with
      spots := updateWhere (fun s => s.id = spot.id ∧ s.status = .draft ∧ s.cancellationStartedAt = none)
        (fun s => { s with startsAt := some (s.startsAt.getD db.now), status := .published }) db.spots } :=
    .published hspot hpublish
  obtain ⟨hdraft, hmarker, hfunded, hfee⟩ := canPublishSpot_funded hpublish
  refine ⟨.of_spot hbooks (hwrite.numbered hbooks.numbered) rfl (fun _ => rfl) rfl le_rfl rfl (.of_eq rfl) ?_,
    .of_update rfl (fun _ => rfl) rfl rfl fun _ _ _ => rfl⟩
  intro s hs hsel
  have hid := (of_decide_eq_true hsel).1
  obtain rfl : s = spot := by
    rw [hid] at hs
    exact Option.some.inj (hs.symm.trans hspot)
  have haccount : Db.account { db with
      spots := updateWhere (fun t => t.id = s.id ∧ t.status = .draft ∧ t.cancellationStartedAt = none)
        (fun t => { t with startsAt := some (t.startsAt.getD db.now), status := .published }) db.spots }
      { s with startsAt := some (s.startsAt.getD db.now), status := .published } =
      { db.account s with status := .published } := by
    have hopen : s.status ≠ .completed := by
      rw [hdraft]
      nofun
    have hopen' : SpotStatus.published ≠ .completed := nofun
    unfold Db.account
    simp only [if_neg hopen, if_neg hopen']
    rfl
  constructor
  · refine .single ⟨?_, ?_⟩
    · rw [haccount]
      refine .published hdraft (marked_account hmarker) (feeSettled_account hfee) ?_
      rw [income_account]
      exact hfunded
    · rw [haccount]
      exact fun h => h
  · exact fun _ => nofun
  · exact fun h => by cases h
  · intro hdrawn
    cases (of_decide_eq_true hdrawn).1
  · exact fun _ _ => hmarker

lemma proceeds_publishSpot (hbooks : Books db) (spotId : ℕ) (draws : List String) :
    Proceeds cfg db (publishSpot db spotId draws).1 := by
  unfold publishSpot
  cases hspot : db.getSpot spotId with
  | none => exact .refl hbooks
  | some spot =>
    have hid := getSpot_id hspot
    subst hid
    dsimp only
    by_cases hpublish : canPublishSpot db spot = true
    · rw [if_neg (by simp [hpublish])]
      rcases hcoded : ensureClaimCodesForPublish db spot draws with ⟨coded, e | ⟨⟩⟩
      · exact .refl hbooks
      · have hwrites : DbWrites cfg .all db coded := ensureClaimCodesForPublish_writes cfg .all hcoded
        obtain ⟨rows, seq, hframe⟩ := ensureClaimCodesForPublish_frame hcoded
        have hcodes : Proceeds cfg db coded := by
          have hnumbered := hwrites.numbered hbooks.numbered
          rw [hframe] at hnumbered ⊢
          exact .of_frame hbooks hnumbered rfl rfl le_rfl rfl rfl rfl
        have hspot' : coded.getSpot spot.id = some spot := by rw [hframe]; exact hspot
        have hpublish' : canPublishSpot coded spot = true := by rw [hframe]; exact hpublish
        have hnow : coded.now = db.now := by rw [hframe]
        dsimp only
        rw [← hnow]
        exact hcodes.then (proceeds_published hcodes.books hspot' hpublish')
    · rw [if_pos (by simpa using hpublish)]
      exact .refl hbooks

end Drafts

section Closing

variable {cfg : Settings P} {db : Db P}

/-- A Spot without waiting claims is completed, one with a marker cancelled. -/
lemma proceeds_closed (hbooks : Books db) {spot : Spot P} {status : SpotStatus} (hspot : db.getSpot spot.id = some spot)
    (hcloses : Closes db spot status) (hbanned : status ≠ .banned)
    (hmarked : status = .cancelled → spot.cancellationStartedAt.isSome = true) :
    Proceeds cfg db (db.modifySpotStatus spot.id status) := by
  have hwrite : DbWrite cfg .all db (db.modifySpotStatus spot.id status) :=
    .closed hspot hcloses fun h => absurd h hbanned
  refine ⟨.of_spot hbooks (hwrite.numbered hbooks.numbered) rfl (fun _ => rfl) rfl le_rfl rfl (.of_eq rfl) ?_,
    .of_update rfl (fun _ => rfl) rfl rfl fun _ _ _ => rfl⟩
  intro s hs hsel
  obtain rfl : s = spot := by
    rw [of_decide_eq_true hsel] at hs
    exact Option.some.inj (hs.symm.trans hspot)
  have hframe : (db.modifySpotStatus s.id status).account { s with status := status } =
      db.account { s with status := status } :=
    account_congr { s with status := status } rfl (fun _ => rfl) (fun _ => rfl) rfl
  have hsteps : s.prizeCount = none ∨ s.status ≠ .completed ∧ status ≠ .completed →
      (db.account s).Move { db.account s with status := status } →
      (db.account s).Steps ((db.modifySpotStatus s.id status).account { s with status := status }) := by
    intro hkind hmove
    rw [hframe, account_withStatus db s hkind]
    exact .single ⟨hmove, fun h => h⟩
  cases hcloses with
  | completed hpublished hstandard hmarker hpending =>
    constructor
    · exact hsteps (.inl hstandard) (.completed hpublished (marked_account hmarker))
    · exact fun _ => nofun
    · intro _ _ c hc hof hwaits
      have hnone := List.countP_eq_zero.mp hpending c hc
      exact hnone (decide_eq_true ⟨hof, hwaits⟩)
    · intro hdrawn
      have hprize := (of_decide_eq_true hdrawn).2
      dsimp only at hprize
      rw [hstandard] at hprize
      cases hprize
    · exact fun _ h => by cases h
  | cancelled hopen =>
    have hstatus : s.status = .draft ∨ s.status = .published := hopen.imp_right And.left
    have hunfinished : s.status ≠ .completed := by
      rcases hstatus with h | h <;> rw [h] <;> nofun
    constructor
    · exact hsteps (.inr ⟨hunfinished, nofun⟩) (.cancelled hstatus (hmarked rfl))
    · exact fun _ => nofun
    · exact fun h => by cases h
    · intro hdrawn
      cases (of_decide_eq_true hdrawn).1
    · exact fun _ h => by cases h
  | banned => exact absurd rfl hbanned

/-- The finaliser cancels a Spot that has legs of a cancellation, and so its marker. -/
lemma proceeds_finalize (hbooks : Books db) (spotId : Option ℕ) :
    Proceeds cfg db (finalizeCancelledSpotIfReady db spotId) := by
  unfold finalizeCancelledSpotIfReady
  cases spotId with
  | none => exact .refl hbooks
  | some spotId =>
    dsimp only
    cases hspot : db.getSpot spotId with
    | none => exact .refl hbooks
    | some spot =>
      have hid := getSpot_id hspot
      subst hid
      dsimp only
      split_ifs with hfinal hprizedraw hready
      · exact .refl hbooks
      · exact .refl hbooks
      · refine proceeds_closed hbooks hspot (.cancelled (isCancellable hfinal hprizedraw)) nofun fun _ => ?_
        have hsound := hbooks.sound spot.id spot hspot
        unfold cancellationIsFinal at hready
        simp only [Bool.and_eq_true] at hready
        obtain ⟨t, ht, hleg⟩ := List.any_eq_true.mp hready.1.1
        have hrow : t ∈ (db.account spot).rows := page_subset ht
        rcases (of_decide_eq_true hleg : t.type = .cancelSpot ∨ t.type = .platFee) with htype | htype
        · exact (hsound.refunds t hrow htype).1
        · rcases hsound.legFees t hrow htype with hbanned | ⟨hmarked, -⟩
          · have hopen : spot.status = .draft ∨ spot.status = .published :=
              (isCancellable hfinal hprizedraw).imp_right And.left
            rw [show spot.status = .banned from hbanned] at hopen
            rcases hopen with h | h <;> cases h
          · exact hmarked
      · exact .refl hbooks

/-- The marker of a cancellation is set on a Spot that is no open Prizedraw. -/
lemma advances_marked (hbooks : Books db) {spot : Spot P} (hspot : db.getSpot spot.id = some spot)
    (hkind : spot.status = .draft ∨ spot.status = .published ∧ spot.prizeCount = none)
    (hopen : publishedStandardSpotIsComplete db spot = false) :
    Advances cfg db (markSpotCancellationStarted db spot.id) := by
  have hwrite : DbWrite cfg .all db (markSpotCancellationStarted db spot.id) := .marked hspot hopen
  refine .of_spot hbooks (hwrite.numbered hbooks.numbered) rfl (fun _ => rfl) rfl le_rfl rfl (.of_eq rfl) ?_
  intro s hs hsel
  obtain ⟨hid, hstatus, -⟩ := of_decide_eq_true hsel
  obtain rfl : s = spot := by
    rw [hid] at hs
    exact Option.some.inj (hs.symm.trans hspot)
  have hunfinished : s.status ≠ .completed := by
    rcases hstatus with h | h <;> rw [h] <;> nofun
  constructor
  · refine .single ⟨.marked hstatus, fun h => h⟩
  · exact fun h => h
  · exact fun h => absurd h hunfinished
  · exact fun hdrawn => absurd (of_decide_eq_true hdrawn).1 hunfinished
  · intro hprizedraw hpublished
    dsimp only at hprizedraw hpublished
    rcases hkind with hdraft | ⟨-, hstandard⟩
    · rw [hdraft] at hpublished
      cases hpublished
    · rw [hstandard] at hprizedraw
      cases hprizedraw

end Closing

section Bans

variable {cfg : Settings P} {db : Db P}

/-- A ban leaves the Spot owing what is on its way. -/
lemma account_banned {spot : Spot P} {db' : Db P} (hmarker : spot.cancellationStartedAt = none)
    (hrows : db'.transOfSpot spot.id = db.transOfSpot spot.id)
    (hpolicy : db'.cancellationPolicy spot.id = db.cancellationPolicy spot.id) :
    (db.account spot).Steps (db'.account { spot with status := .banned }) := by
  have haccount : db'.account { spot with status := .banned } =
      { db.account spot with
        status := .banned
        payees := (db'.account { spot with status := .banned }).payees
        share := (db'.account { spot with status := .banned }).share } := by
    unfold Db.account
    simp only [hrows, hpolicy]
  refine .single ⟨?_, ?_⟩
  · rw [haccount]
    exact .banned _ _ (marked_account hmarker)
  · rw [haccount]
    exact fun h => h

lemma proceeds_banned (hbooks : Books db) {spot : Spot P} {db' : Db P} {f : Spot P → Spot P}
    (hspot : db.getSpot spot.id = some spot) (hmarker : spot.cancellationStartedAt = none)
    (hf : f spot = { spot with status := .banned }) (hid : ∀ s, (f s).id = s.id)
    (hspots : db'.spots = updateWhere (fun s => s.id = spot.id) f db.spots) (hnumbered : Numbered db')
    (htrans : db'.trans = db.trans) (hnow : db.now ≤ db'.now) (hguard : db'.cancellationGuard = db.cancellationGuard)
    (hpolicy : db'.cancellationPolicy = db.cancellationPolicy)
    (hclaims : ClaimsElsewhere (fun id => id = spot.id) db db') : Proceeds cfg db db' := by
  have honly : ∀ s : Spot P, db.getSpot s.id = some s → decide (s.id = spot.id) = true → s = spot := by
    intro s hs hsel
    rw [of_decide_eq_true hsel] at hs
    exact Option.some.inj (hs.symm.trans hspot)
  have hwritten : ClaimsElsewhere (fun id => ∃ s, db.getSpot id = some s ∧ decide (s.id = spot.id) = true) db db' := by
    have hids : ∀ id, id = spot.id → ∃ s, db.getSpot id = some s ∧ decide (s.id = spot.id) = true :=
      fun id hsame => ⟨spot, hsame ▸ hspot, decide_eq_true rfl⟩
    constructor
    · intro c' hc'
      obtain ⟨c, hc, hcid, hof, hsame⟩ := hclaims.back c' hc'
      exact ⟨c, hc, hcid, hof, fun hother => hsame fun h => hother (hids _ h)⟩
    · intro c hc
      obtain ⟨c', hc', hcid, hof, hsame⟩ := hclaims.forth c hc
      exact ⟨c', hc', hcid, hof, fun hother => hsame fun h => hother (hids _ h)⟩
  refine ⟨.of_spot hbooks hnumbered hspots hid htrans hnow hpolicy hwritten ?_,
    .of_update hspots hid hguard hpolicy ?_⟩
  · intro s hs hsel
    obtain rfl := honly s hs hsel
    rw [hf]
    constructor
    · refine account_banned hmarker ?_ (by rw [hpolicy])
      unfold Db.transOfSpot
      rw [htrans]
    · exact fun _ => nofun
    · exact fun h => by cases h
    · intro hdrawn
      cases (of_decide_eq_true hdrawn).1
    · exact fun _ h => by cases h
  · intro s hs hsel
    obtain rfl := honly s hs hsel
    rw [hf]

lemma proceeds_banSpot (hbooks : Books db) (spotId : ℕ) : Proceeds cfg db (banSpot db spotId).1 := by
  have hwrites : DbWrites cfg .all db (banSpot db spotId).1 := banSpot_writes spotId trivial trivial
  have hnumbered := hwrites.numbered hbooks.numbered
  unfold banSpot at hnumbered ⊢
  cases hspot : db.getSpot spotId with
  | none => exact .refl hbooks
  | some spot =>
    have hid := getSpot_id hspot
    subst hid
    rw [hspot] at hnumbered
    dsimp only at hnumbered ⊢
    split_ifs at hnumbered ⊢ with hcancelled hmarker hbanned
    · exact .refl hbooks
    · exact .refl hbooks
    · have hunmarked : spot.cancellationStartedAt = none := by
        rw [← Option.not_isSome_iff_eq_none]
        exact fun hmarked => ((hbooks.sound spot.id spot hspot).marked_ne hmarked).2 hbanned
      have hsame : db.spots = updateWhere (fun s => s.id = spot.id) (fun s => s) db.spots :=
        (updateWhere_eq_self fun _ _ _ => rfl).symm
      refine proceeds_banned hbooks hspot hunmarked ?_ (fun _ => rfl) hsame hnumbered rfl le_rfl rfl rfl ?_
      · rw [← hbanned]
      · exact .of_update rfl fun c _ hsel => (of_decide_eq_true hsel).1
    · have hunmarked : spot.cancellationStartedAt = none := by
        rw [← Option.not_isSome_iff_eq_none]
        exact fun hset => hmarker ⟨hbanned, hset⟩
      refine @proceeds_banned _ cfg db hbooks spot _ (fun s => { s with status := .banned }) hspot hunmarked rfl
        (fun _ => rfl) rfl hnumbered rfl le_rfl rfl rfl ?_
      exact .of_update rfl fun c _ hsel => (of_decide_eq_true hsel).1

end Bans

section Draws

variable {cfg : Settings P} {db : Db P}

/-- Before the draw nobody is owed a prize, afterwards the winners their shares. -/
lemma proceeds_drawn (hbooks : Books db) {spot : Spot P} {winners : List ℕ} (hspot : db.getSpot spot.id = some spot)
    (hpublished : spot.status = .published) (hprizedraw : spot.prizeCount.isSome = true)
    (hall : ((db.failPendingClaimsForSpot spot.id).markPrizedrawWinnersPending spot.id winners).2 = winners.length) :
    Proceeds cfg db (((db.failPendingClaimsForSpot spot.id).markPrizedrawWinnersPending
      spot.id winners).1.modifySpotStatus spot.id .completed) := by
  have hwrite : DbWrite cfg .all db (((db.failPendingClaimsForSpot spot.id).markPrizedrawWinnersPending
      spot.id winners).1.modifySpotStatus spot.id .completed) := .drawn hspot hpublished hprizedraw hall trivial
  have hmarker := hbooks.drawable spot.id spot hspot hprizedraw hpublished
  have hsound := hbooks.sound spot.id spot hspot
  have hkind : spot.prizeCount ≠ none := Option.isSome_iff_ne_none.mp hprizedraw
  have hopen : spot.status ≠ .completed := by
    rw [hpublished]
    nofun
  have hnobody : (db.account spot).payees = ∅ := by
    unfold Db.account
    simp only [if_neg hkind, if_neg hopen]
  have hselected : ∃ s, db.getSpot spot.id = some s ∧ decide (s.id = spot.id) = true :=
    ⟨spot, hspot, decide_eq_true rfl⟩
  have hfailed : ClaimsElsewhere (fun id => ∃ s, db.getSpot id = some s ∧ decide (s.id = spot.id) = true) db
      (db.failPendingClaimsForSpot spot.id) :=
    .of_update rfl fun c _ hsel => (of_decide_eq_true hsel).1 ▸ hselected
  have hclaims : ClaimsElsewhere (fun id => ∃ s, db.getSpot id = some s ∧ decide (s.id = spot.id) = true) db
      (((db.failPendingClaimsForSpot spot.id).markPrizedrawWinnersPending
        spot.id winners).1.modifySpotStatus spot.id .completed) :=
    hfailed.then (.of_update rfl fun c _ hsel => (of_decide_eq_true hsel).1 ▸ hselected)
  refine ⟨.of_spot hbooks (hwrite.numbered hbooks.numbered) rfl (fun _ => rfl) rfl le_rfl rfl hclaims ?_,
    .of_update rfl (fun _ => rfl) rfl rfl fun _ _ _ => rfl⟩
  intro s hs hsel
  obtain rfl : s = spot := by
    rw [of_decide_eq_true hsel] at hs
    exact Option.some.inj (hs.symm.trans hspot)
  generalize hdb : ((db.failPendingClaimsForSpot s.id).markPrizedrawWinnersPending
    s.id winners).1.modifySpotStatus s.id .completed = drawn
  have hrows : drawn.transOfSpot s.id = db.transOfSpot s.id := by
    rw [← hdb]
    rfl
  have hpolicy : drawn.cancellationPolicy = db.cancellationPolicy := by
    rw [← hdb]
    rfl
  have haccount : drawn.account { s with status := .completed } =
      { db.account s with
        status := .completed
        payees := (drawn.getPrizedrawWinnerClaimIds s.id).toFinset
        share := prizeShare s.totalValue (drawn.getPrizedrawWinnerClaimIds s.id) } := by
    unfold Db.account
    simp only [if_neg hkind, hrows, hpolicy]
    rfl
  constructor
  · refine .single ⟨?_, ?_⟩
    · rw [haccount]
      exact .drawn _ _ hpublished (marked_account hmarker) hnobody
        (sum_winnerShares_le s (sorted_winnerIds drawn s.id))
    · rw [haccount]
      exact fun h => h
  · exact fun _ => nofun
  · exact fun _ hstandard => absurd hstandard hkind
  · intro _ t ht hof
    have hbanned : (db.account s).status ≠ .banned := by
      rw [show (db.account s).status = .published from hpublished]
      nofun
    exact hsound.no_payouts hbanned hnobody t (List.mem_filter.mpr ⟨ht, decide_eq_true hof⟩)
  · exact fun _ h => by cases h

lemma proceeds_settlePrizedraw (hbooks : Books db) (sample : Sampler P) (spotId : ℕ) :
    Proceeds cfg db (settlePrizedrawSpotIfReady sample db spotId).1 := by
  unfold settlePrizedrawSpotIfReady
  cases hspot : db.getSpot spotId with
  | none => exact .refl hbooks
  | some spot =>
    have hid := getSpot_id hspot
    subst hid
    dsimp only
    by_cases hpublished : spot.status = .published
    · rw [if_neg (not_not_intro hpublished)]
      cases hcount : spot.prizeCount with
      | none => exact .refl hbooks
      | some prizeCount =>
        dsimp only
        cases db.settlementReadyReason spot with
        | none => exact .refl hbooks
        | some reason =>
          have hprizedraw : spot.prizeCount.isSome = true := by simp [hcount]
          dsimp only
          rcases hdrawn : drawPrizedraw sample db spot prizeCount reason with ⟨drawn, e | result⟩
          · exact .refl hbooks
          · unfold drawPrizedraw at hdrawn
            dsimp only at hdrawn
            generalize List.insertionSort (fun a b : ℕ => a ≤ b) (List.map Claim.id _) = winners at hdrawn
            split_ifs at hdrawn with hpersisted
            · simp at hdrawn
            · have hdb := (Prod.mk.inj hdrawn).1
              subst hdb
              exact proceeds_drawn hbooks hspot hpublished hprizedraw (not_not.mp hpersisted)
    · rw [if_pos hpublished]
      exact .refl hbooks

/-- A winner whose payout is confirmed leaves PENDING. -/
lemma proceeds_paid (hbooks : Books db) {claim : Claim P} (hclaim : db.getClaim claim.id = some claim)
    (hdrawn : db.PrizedrawIsDrawn claim.spotId) (hpaid : db.hasConfirmedClaimPayoutTransaction claim.id = true) :
    Proceeds cfg db (db.setClaimStatusToSuccess claim.id) := by
  have hwrite : DbWrite cfg .all db (db.setClaimStatusToSuccess claim.id) := .paid hclaim hdrawn
  have hclaims : ClaimsElsewhere (fun id => id = claim.spotId) db (db.setClaimStatusToSuccess claim.id) := by
    refine .of_update rfl ?_
    intro c hc hsel
    rw [eq_of_getClaim hbooks hclaim hc (of_decide_eq_true hsel)]
  have hsuccess : ClaimStatus.success ≠ .pending := nofun
  refine .of_claims hbooks (hwrite.numbered hbooks.numbered) rfl rfl le_rfl rfl rfl (claimsKept_updateClaimStatus ..)
    ?_ ?_ ?_ ?_
  · intro c' hc'
    obtain ⟨c, hc, -, hof, -⟩ := hclaims.back c' hc'
    exact .inl ⟨c, hc, hof⟩
  · intro c' hc' hwaits
    obtain ⟨c, hc, hrow⟩ := mem_updateWhere.mp hc'
    by_cases hsel : decide (c.id = claim.id) = true
    · rw [if_pos hsel] at hrow
      rw [← hrow] at hwaits
      cases hwaits
    · rw [if_neg hsel] at hrow
      rw [← hrow] at hwaits ⊢
      exact .inl ⟨c, hc, rfl, hwaits⟩
  · intro spotId _
    refine WinnersKept.decided hsuccess ?_
    intro c hc _ hsel _
    rw [eq_of_getClaim hbooks hclaim hc (of_decide_eq_true hsel)]
    exact hpaid
  · intro spot hspot hstandard
    left
    apply hclaims.successIds
    intro hsame
    obtain ⟨found, hfound, hprizedraw, -⟩ := hdrawn
    rw [← hsame] at hfound
    rw [← Option.some.inj (hspot.symm.trans hfound), hstandard] at hprizedraw
    cases hprizedraw

lemma proceeds_recordPaidWinners (hbooks : Books db) (winners : List (Claim P)) (hwinners : ∀ c ∈ winners,
      ∃ claim, db.getClaim c.id = some claim ∧ db.PrizedrawIsDrawn claim.spotId) :
    Proceeds cfg db (winners.foldl recordPaidWinner db) := by
  induction winners generalizing db with
  | nil => exact .refl hbooks
  | cons winner winners ih =>
    obtain ⟨claim, hclaim, hdrawn⟩ := hwinners winner List.mem_cons_self
    have hrest : ∀ c ∈ winners, ∃ claim, db.getClaim c.id = some claim ∧ db.PrizedrawIsDrawn claim.spotId :=
      fun c hc => hwinners c (List.mem_cons_of_mem winner hc)
    rw [List.foldl_cons]
    unfold recordPaidWinner
    by_cases hpaid : db.hasConfirmedClaimPayoutTransaction winner.id = true
    · rw [if_pos hpaid]
      have hid := getClaim_id hclaim
      have hfirst : Proceeds cfg db (db.setClaimStatusToSuccess winner.id) := by
        rw [← hid] at hclaim hpaid ⊢
        exact proceeds_paid hbooks hclaim hdrawn hpaid
      refine hfirst.then (ih hfirst.books ?_)
      intro c hc
      obtain ⟨claim, hclaim, hdrawn⟩ := hrest c hc
      exact setClaimStatusToSuccess_keeps winner.id hclaim hdrawn
    · rw [if_neg hpaid]
      exact ih hbooks hrest

lemma proceeds_payoutPass (hbooks : Books db) (spotId : ℕ) :
    Proceeds cfg db (retryPendingPrizedrawPayoutsForSpot db spotId).1 := by
  unfold retryPendingPrizedrawPayoutsForSpot
  cases hspot : db.getSpot spotId with
  | none => exact .refl hbooks
  | some spot =>
    dsimp only
    split_ifs with hcompleted hprizedraw
    · exact .refl hbooks
    · exact .refl hbooks
    · apply proceeds_recordPaidWinners hbooks
      intro c hc
      have hmem : c ∈ db.getPendingClaimsForSpot spotId := (List.perm_insertionSort _ _).mem_iff.mp hc
      have hof := List.mem_filter.mp (page_subset hmem)
      have hclaim : db.getClaim c.id = some c := (Db.getClaim_eq_some hbooks.numbered.keyed).mpr ⟨hof.1, rfl⟩
      have hspotId : c.spotId = spotId := (of_decide_eq_true hof.2).1
      have hstatus : spot.status = .completed := not_not.mp hcompleted
      refine ⟨c, hclaim, spot, hspotId ▸ hspot, by simpa [Option.isSome_iff_ne_none] using hprizedraw, ?_, ?_⟩
      · simp [hstatus]
      · simp [hstatus]

end Draws

end NimHunt
