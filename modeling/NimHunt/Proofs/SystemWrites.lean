import NimHunt.System
import NimHunt.Proofs.ClaimWrites
import NimHunt.Proofs.LedgerMoves

/-!
# The writes of the system

Every operation changes the database through a handful of writes, each with the checks its transaction
made in front of it.  Each operation is shown once to be a chain of them; invariants are then proved
write by write.
-/

namespace NimHunt

open Lib Relation

variable {P : Type}

/-- Which writes a run admits, besides those of the claim tables. -/
structure Permit (P : Type) extends WritePermit P where
  draw : Db P → Spot P → List ℕ → Prop
  ban : Db P → ℕ → Prop

/-- Every write is admitted. -/
def Permit.all : Permit P := ⟨.all, fun _ _ _ => True, fun _ _ => True⟩

/-- Why a Spot may take a final status. -/
inductive Closes (db : Db P) (spot : Spot P) : SpotStatus → Prop
  /-- The remainder settlement of an ended standard Spot. -/
  | completed (hpublished : spot.status = .published) (hstandard : spot.prizeCount = none)
      (hmarker : spot.cancellationStartedAt = none)
      (hpending : db.countClaimsByStatusForSpot spot.id .pending = 0) : Closes db spot .completed
  | cancelled (hopen : spot.status = .draft ∨ spot.status = .published ∧ spot.prizeCount = none) :
      Closes db spot .cancelled
  | banned (hopen : spot.status ≠ .banned → spot.cancellationStartedAt = none)
      (hcancelled : spot.status ≠ .cancelled) : Closes db spot .banned

/-- A Prizedraw whose draw is over. -/
def Db.PrizedrawIsDrawn (db : Db P) (spotId : ℕ) : Prop :=
  ∃ spot, db.getSpot spotId = some spot ∧ spot.prizeCount.isSome = true ∧ spot.status ≠ .draft ∧
    spot.status ≠ .published

/-- The primary keys of the transaction table. -/
def TransKeyed (trans : List Trans) (transSeq : ℕ) : Prop :=
  (trans.map Trans.id).Nodup ∧ ∀ t ∈ trans, t.id ≤ transSeq

inductive DbWrite (cfg : Settings P) (permit : Permit P) (db : Db P) : Db P → Prop
  | claim {db' : Db P} (h : ClaimWrite permit.toWritePermit db db') : DbWrite cfg permit db db'
  | clock (now : ℕ) (hnow : db.now ≤ now) : DbWrite cfg permit db { db with now := now }
  | users (users : List User) : DbWrite cfg permit db { db with users := users }
  /-- A signer is bound to a user who has no other wallet. -/
  | bound {userId : ℕ} {signer wallet : Address} (huser : 0 < userId)
      (hsigner : cfg.normaliseRealNimiqAddress signer = .ok wallet)
      (hsame : ∀ previous, boundWallet cfg db userId = some previous → previous = wallet) :
      DbWrite cfg permit db
        { db with userBindings := (userId, wallet) :: db.userBindings.filter fun b => b.1 ≠ userId }
  /-- Flags and leases the settlement flows keep for themselves. -/
  | bookkept (remainderSettled : ℕ → Bool) (cancellationPolicy : ℕ → Option CancellationPolicy)
      (cancellationGuard : ℕ → Option SendGuard) (banRecords : ℕ → Option BanState) :
      DbWrite cfg permit db { db with
        remainderSettled := remainderSettled, cancellationPolicy := cancellationPolicy,
        cancellationGuard := cancellationGuard, banRecords := banRecords }
  /-- Rows of the ledger come and are settled. -/
  | ledger (trans : List Trans) (transSeq : ℕ) (returnAddresses : List NimiqPayReturnAddress)
      (hkeys : TransKeyed db.trans db.transSeq → TransKeyed trans transSeq) :
      DbWrite cfg permit db { db with trans := trans, transSeq := transSeq, returnAddresses := returnAddresses }
  | drafted {spot : Spot P} (hid : spot.id = db.spotSeq + 1) (hdraft : spot.status = .draft)
      (hmarker : spot.cancellationStartedAt = none) (hchecked : SpotChecked spot) :
      DbWrite cfg permit db { db with spots := db.spots ++ [spot], spotSeq := spot.id }
  | edited {spot next : Spot P} (hspot : db.getSpot spot.id = some spot) (hdraft : spot.status = .draft)
      (hsame : SameDraft spot next) (hchecked : SpotChecked spot → SpotChecked next) :
      DbWrite cfg permit db { db with spots := updateWhere (fun s => s.id = spot.id) (fun _ => next) db.spots }
  /-- A draft that was never deposited to and that nobody has claimed goes. -/
  | undrafted {spot : Spot P} (hspot : db.getSpot spot.id = some spot) (hdraft : spot.status = .draft)
      (hunfunded : ∀ t ∈ db.trans, t.spotId = some spot.id → t.type ≠ .fillSpot)
      (hunclaimed : ∀ c ∈ db.claims, c.spotId ≠ spot.id) : DbWrite cfg permit db (db.deleteSpot spot.id)
  | codesDropped (drop : ClaimCode → Bool) (hunused : ∀ cc, drop cc = true → cc.usedBy = none) :
      DbWrite cfg permit db { db with claimCodes := db.claimCodes.filter fun cc => !drop cc }
  | codeCreated (spotId : ℕ) (code : String) : DbWrite cfg permit db (db.createClaimCode spotId code)
  | published {spot : Spot P} (hspot : db.getSpot spot.id = some spot)
      (hpublish : canPublishSpot db spot = true) :
      DbWrite cfg permit db { db with
        spots := updateWhere
          (fun s => s.id = spot.id ∧ s.status = .draft ∧ s.cancellationStartedAt = none)
          (fun s => { s with startsAt := some (s.startsAt.getD db.now), status := .published }) db.spots }
  | marked {spot : Spot P} (hspot : db.getSpot spot.id = some spot)
      (hopen : publishedStandardSpotIsComplete db spot = false) :
      DbWrite cfg permit db (markSpotCancellationStarted db spot.id)
  | closed {spot : Spot P} {status : SpotStatus} (hspot : db.getSpot spot.id = some spot)
      (hcloses : Closes db spot status) (hpermit : status = .banned → permit.ban db spot.id) :
      DbWrite cfg permit db (db.modifySpotStatus spot.id status)
  | drawn {spot : Spot P} {winners : List ℕ} (hspot : db.getSpot spot.id = some spot)
      (hpublished : spot.status = .published) (hprizedraw : spot.prizeCount.isSome = true)
      (hall : ((db.failPendingClaimsForSpot spot.id).markPrizedrawWinnersPending spot.id winners).2 =
        winners.length)
      (hpermit : permit.draw db spot winners) :
      DbWrite cfg permit db (((db.failPendingClaimsForSpot spot.id).markPrizedrawWinnersPending
        spot.id winners).1.modifySpotStatus spot.id .completed)
  /-- The claim of a confirmed Prizedraw payout. -/
  | paid {claim : Claim P} (hclaim : db.getClaim claim.id = some claim) (hdrawn : db.PrizedrawIsDrawn claim.spotId) :
      DbWrite cfg permit db (db.setClaimStatusToSuccess claim.id)
  | banned {spot : Spot P} (hspot : db.getSpot spot.id = some spot) (hbanned : spot.status = .banned)
      (hpermit : permit.ban db spot.id) :
      DbWrite cfg permit db (failClaimsWithoutCommittedPayout db spot.id)

/-- A chain of admitted writes. -/
abbrev DbWrites (cfg : Settings P) (permit : Permit P) : Db P → Db P → Prop :=
  ReflTransGen (DbWrite cfg permit)

lemma ClaimWrites.dbWrites {cfg : Settings P} {permit : Permit P} {db db' : Db P}
    (h : ClaimWrites permit.toWritePermit db db') : DbWrites cfg permit db db' := by
  induction h with
  | refl => exact .refl
  | tail _ hwrite ih => exact ih.tail (.claim hwrite)

section Deletion

variable {db : Db P} {spotId : ℕ}

lemma getSpot_deleteSpot (id : ℕ) : (db.deleteSpot spotId).getSpot id = if id = spotId then none else db.getSpot id := by
  unfold Db.getSpot Db.deleteSpot
  dsimp only
  rw [List.find?_filter]
  by_cases hid : id = spotId
  · rw [if_pos hid, List.find?_eq_none]
    intro s _
    simp [hid]
  · rw [if_neg hid]
    congr 1
    funext s
    by_cases hof : s.id = id
    · simp [hof, hid]
    · simp [hof]

lemma getSpot_of_deleteSpot {id : ℕ} {spot : Spot P} (h : (db.deleteSpot spotId).getSpot id = some spot) :
    id ≠ spotId ∧ db.getSpot id = some spot := by
  rw [getSpot_deleteSpot] at h
  split_ifs at h with hid
  exact ⟨hid, h⟩

/-- Only the draft goes. -/
lemma getSpot_deleteSpot_of_placed {spot s : Spot P} (hspot : db.getSpot spot.id = some spot)
    (hdraft : spot.status = .draft) {id : ℕ} (hs : db.getSpot id = some s) (hplaced : s.status ≠ .draft) :
    (db.deleteSpot spot.id).getSpot id = some s := by
  rw [getSpot_deleteSpot, if_neg]
  · exact hs
  · intro hid
    rw [hid, hspot] at hs
    exact hplaced (Option.some.inj hs ▸ hdraft)

lemma deleteSpot_claims (hunclaimed : ∀ c ∈ db.claims, c.spotId ≠ spotId) :
    (db.deleteSpot spotId).claims = db.claims :=
  List.filter_eq_self.mpr fun c hc => decide_eq_true (hunclaimed c hc)

/-- A row as the deletion leaves it. -/
def Trans.unbooked (spotId : ℕ) (t : Trans) : Trans := { t with spotId := t.spotId.filter (· ≠ spotId) }

lemma unbooked_eq_self {t : Trans} (h : t.spotId ≠ some spotId) : t.unbooked spotId = t := by
  have hsame : t.spotId.filter (fun id => decide (id ≠ spotId)) = t.spotId := by
    cases hof : t.spotId with
    | none => rfl
    | some id =>
      have hne : id ≠ spotId := fun heq => h (by rw [hof, heq])
      simp [hne]
  unfold Trans.unbooked
  rw [hsame]

lemma deleteSpot_trans (hunclaimed : ∀ c ∈ db.claims, c.spotId ≠ spotId) :
    (db.deleteSpot spotId).trans = db.trans.map (Trans.unbooked spotId) := by
  have hnone : ∀ claimId, (db.claims.any fun c => c.id = claimId ∧ c.spotId = spotId) = false := by
    intro claimId
    rw [List.any_eq_false]
    intro c hc
    simp [hunclaimed c hc]
  have hkept : ∀ claimId : Option ℕ, claimId.filter (fun _ => true) = claimId := fun claimId => by cases claimId <;> rfl
  unfold Db.deleteSpot
  simp only [hnone, Bool.not_false, hkept]
  rfl

lemma deleteSpot_transKeys : (db.deleteSpot spotId).trans.map Trans.id = db.trans.map Trans.id := by
  unfold Db.deleteSpot
  rw [List.map_map]
  rfl

end Deletion

section Drafts

variable {cfg : Settings P} {permit : Permit P} {db : Db P}

lemma insertSpot_writes {spot : Spot P} (hid : spot.id = db.spotSeq + 1) (hdraft : spot.status = .draft)
    (hmarker : spot.cancellationStartedAt = none) (hchecked : SpotChecked spot) :
    DbWrites cfg permit db (db.insertSpot spot).1 := by
  unfold Db.insertSpot
  split_ifs
  · exact .refl
  · exact .single (.drafted hid hdraft hmarker hchecked)

lemma createSpot_writes (createdBy : ℕ) (depositAddress : Address) (fields : SpotFields P) :
    DbWrites cfg permit db (createSpot cfg db createdBy depositAddress fields).1 := by
  unfold createSpot
  cases hdraft : newDraft cfg (db.spotSeq + 1) createdBy depositAddress fields none with
  | error e => exact .refl
  | ok spot =>
    obtain ⟨hid, hstatus, hmarker, -, hchecked⟩ := newDraft_ok hdraft
    exact insertSpot_writes hid hstatus hmarker hchecked

lemma createPrizedraw_writes (createdBy : ℕ) (depositAddress : Address) (fields : SpotFields P)
    (prizeCount : Option ℤ) :
    DbWrites cfg permit db (createPrizedraw cfg db createdBy depositAddress fields prizeCount).1 := by
  unfold createPrizedraw
  cases checkNewPrizedraw fields prizeCount with
  | error e => exact .refl
  | ok count =>
    dsimp only
    generalize ({ fields with maxTotalClaims := _, usePassword := _ } : SpotFields P) = drawFields
    cases hdraft : newDraft cfg (db.spotSeq + 1) createdBy depositAddress drawFields (some count) with
    | error e => exact .refl
    | ok spot =>
      obtain ⟨hid, hstatus, hmarker, -, hchecked⟩ := newDraft_ok hdraft
      exact insertSpot_writes hid hstatus hmarker hchecked

lemma requireDraftSpot_ok {spotId : ℕ} {spot : Spot P} (h : requireDraftSpot db spotId = .ok spot) :
    db.getSpot spotId = some spot ∧ spot.status = .draft ∧ spot.cancellationStartedAt = none := by
  unfold requireDraftSpot at h
  cases hspot : db.getSpot spotId with
  | none => simp [hspot] at h
  | some found =>
    rw [hspot] at h
    dsimp only at h
    split_ifs at h with hdraft hmarker
    have hsame := Except.ok.inj h
    subst hsame
    exact ⟨rfl, by simpa using hdraft, by simpa using hmarker⟩

lemma modifyDraftSpot_writes (spotId : ℕ) (edit : DraftEdit P) :
    DbWrites cfg permit db (modifyDraftSpot db spotId edit).1 := by
  unfold modifyDraftSpot
  cases hrequire : requireDraftSpot db spotId with
  | error e => exact .refl
  | ok spot =>
    obtain ⟨hspot, hdraft, -⟩ := requireDraftSpot_ok hrequire
    dsimp only
    cases hedited : editedDraft db spot edit with
    | error e => exact .refl
    | ok next =>
      dsimp only
      split_ifs
      · exact .refl
      · exact .refl
      · exact .refl
      · obtain ⟨hsame, hchecked⟩ := editedDraft_ok hedited
        have hid := getSpot_id hspot
        subst hid
        have hedit : DbWrite cfg permit db
            { db with spots := updateWhere (fun s => s.id = spot.id) (fun _ => next) db.spots } :=
          .edited hspot hdraft hsame hchecked
        exact (ReflTransGen.single hedit).tail (.codesDropped _ fun cc hcc => by simpa using (of_decide_eq_true hcc).2)

/-- Every claim is on a Spot that has been published. -/
def Db.Placed (db : Db P) : Prop :=
  ∀ c ∈ db.claims, ∃ spot, db.getSpot c.spotId = some spot ∧ spot.status ≠ .draft

lemma Db.Placed.unclaimed (h : db.Placed) {spot : Spot P} (hspot : db.getSpot spot.id = some spot)
    (hdraft : spot.status = .draft) : ∀ c ∈ db.claims, c.spotId ≠ spot.id := by
  intro c hc hof
  obtain ⟨found, hfound, hplaced⟩ := h c hc
  rw [hof, hspot] at hfound
  exact hplaced (Option.some.inj hfound ▸ hdraft)

lemma deleteDraftSpot_writes (hplaced : db.Placed) (userId spotId : ℕ) :
    DbWrites cfg permit db (deleteDraftSpot db userId spotId).1 := by
  unfold deleteDraftSpot
  cases hspot : db.getSpot spotId with
  | none => exact .refl
  | some spot =>
    have hid := getSpot_id hspot
    subst hid
    dsimp only
    split_ifs with howner hdraft hfunded
    · exact .refl
    · exact .refl
    · exact .refl
    · have hdraft := not_not.mp hdraft
      refine .single (.undrafted hspot hdraft ?_ (hplaced.unclaimed hspot hdraft))
      intro t ht hof hfill
      apply hfunded
      exact List.any_eq_true.mpr ⟨t, List.mem_filter.mpr ⟨ht, decide_eq_true hof⟩, decide_eq_true hfill⟩

/-- Creating codes touches nothing but the code table. -/
lemma createClaimCodes_frame (db : Db P) (spotId : ℕ) (codes : List String) :
    ∃ rows seq, db.createClaimCodes spotId codes = { db with claimCodes := rows, claimCodeSeq := seq } := by
  unfold Db.createClaimCodes
  induction codes generalizing db with
  | nil => exact ⟨_, _, rfl⟩
  | cons code codes ih =>
    obtain ⟨rows, seq, hrows⟩ := ih (db.createClaimCode spotId code)
    exact ⟨rows, seq, hrows⟩

lemma createClaimCodes_writes (db : Db P) (spotId : ℕ) (codes : List String) :
    DbWrites cfg permit db (db.createClaimCodes spotId codes) := by
  unfold Db.createClaimCodes
  induction codes generalizing db with
  | nil => exact .refl
  | cons code codes ih => exact (ReflTransGen.single (.codeCreated spotId code)).trans (ih _)

/-- Publishing leaves the codes alone, or drops surplus unused ones and makes new ones. -/
lemma ensureClaimCodesForPublish_made {spot : Spot P} {draws : List String} {coded : Db P}
    (h : ensureClaimCodesForPublish db spot draws = (coded, .ok ())) :
    coded = db ∨ ∃ surplus codes, (∀ cc ∈ surplus, cc ∈ db.getAvailableClaimCodes spot.id) ∧
      coded = (db.deleteClaimCodes surplus).createClaimCodes spot.id codes := by
  unfold ensureClaimCodesForPublish at h
  by_cases hplain : spot.usePassword = false
  · rw [if_pos hplain] at h
    exact .inl (Prod.mk.inj h).1.symm
  · rw [if_neg hplain] at h
    split_ifs at h with hprize hmax hused
    · simp at h
    · simp at h
    · simp at h
    · cases hcodes : generateUniqueClaimCodesForSpot db spot.id
          (spot.maxTotalClaims - (db.getClaimCodes spot.id).length) [] [] draws with
      | none =>
        rw [hcodes] at h
        simp at h
      | some codes =>
        rw [hcodes] at h
        right
        exact ⟨_, codes, fun cc hcc => List.mem_of_mem_take hcc, (Prod.mk.inj h).1.symm⟩

lemma ensureClaimCodesForPublish_frame {spot : Spot P} {draws : List String} {coded : Db P}
    (h : ensureClaimCodesForPublish db spot draws = (coded, .ok ())) :
    ∃ rows seq, coded = { db with claimCodes := rows, claimCodeSeq := seq } := by
  rcases ensureClaimCodesForPublish_made h with hsame | ⟨surplus, codes, -, hmade⟩
  · subst hsame
    exact ⟨_, _, rfl⟩
  · subst hmade
    exact createClaimCodes_frame (db.deleteClaimCodes surplus) spot.id codes

variable (cfg permit) in
lemma ensureClaimCodesForPublish_writes {spot : Spot P} {draws : List String} {coded : Db P}
    (h : ensureClaimCodesForPublish db spot draws = (coded, .ok ())) : DbWrites cfg permit db coded := by
  rcases ensureClaimCodesForPublish_made h with hsame | ⟨surplus, codes, hsurplus, hmade⟩
  · subst hsame
    exact .refl
  · subst hmade
    have hdrop : DbWrite cfg permit db (db.deleteClaimCodes surplus) :=
      .codesDropped _ fun cc hcc => by
        have hmem := hsurplus cc (of_decide_eq_true hcc)
        simpa using (List.mem_filter.mp hmem).2
    exact (ReflTransGen.single hdrop).trans (createClaimCodes_writes _ _ _)

lemma publishSpot_writes (spotId : ℕ) (draws : List String) :
    DbWrites cfg permit db (publishSpot db spotId draws).1 := by
  unfold publishSpot
  cases hspot : db.getSpot spotId with
  | none => exact .refl
  | some spot =>
    have hid := getSpot_id hspot
    subst hid
    dsimp only
    by_cases hpublish : canPublishSpot db spot = true
    · rw [if_neg (by simp [hpublish])]
      rcases hcoded : ensureClaimCodesForPublish db spot draws with ⟨coded, e | ⟨⟩⟩
      · exact .refl
      · have hwrites := ensureClaimCodesForPublish_writes cfg permit hcoded
        obtain ⟨rows, seq, hframe⟩ := ensureClaimCodesForPublish_frame hcoded
        have hspot' : coded.getSpot spot.id = some spot := by rw [hframe]; exact hspot
        have hpublish' : canPublishSpot coded spot = true := by rw [hframe]; exact hpublish
        have hnow : coded.now = db.now := by rw [hframe]
        dsimp only
        rw [← hnow]
        exact hwrites.tail (.published hspot' hpublish')
    · rw [if_pos (by simpa using hpublish)]

end Drafts

section Ledger

variable {cfg : Settings P} {permit : Permit P} {db db' db'' : Db P}

lemma orRollback_writes {R : Type} {outcome : Outcome P R} (h : DbWrites cfg permit db outcome.1) :
    DbWrites cfg permit db (outcome.orRollback db).1 := by
  obtain ⟨made, e | r⟩ := outcome
  · exact .refl
  · exact h

/-- Only the ledger differs, and its keys stay sound. -/
structure LedgerOnly (db db' : Db P) : Prop where
  same : db' = { db with trans := db'.trans, transSeq := db'.transSeq, returnAddresses := db'.returnAddresses }
  keys : TransKeyed db.trans db.transSeq → TransKeyed db'.trans db'.transSeq

lemma LedgerOnly.refl (db : Db P) : LedgerOnly db db := ⟨rfl, fun h => h⟩

lemma LedgerOnly.then (h : LedgerOnly db db') (h' : LedgerOnly db' db'') : LedgerOnly db db'' := by
  refine ⟨?_, fun hkeys => h'.keys (h.keys hkeys)⟩
  rw [h'.same, h.same]

variable (cfg permit) in
lemma LedgerOnly.write (h : LedgerOnly db db') : DbWrite cfg permit db db' := by
  rw [h.same]
  exact .ledger _ _ _ h.keys

lemma LedgerOnly.getSpot (h : LedgerOnly db db') (spotId : ℕ) : db'.getSpot spotId = db.getSpot spotId := by
  rw [h.same]
  rfl

lemma LedgerOnly.getClaim (h : LedgerOnly db db') (claimId : ℕ) : db'.getClaim claimId = db.getClaim claimId := by
  rw [h.same]
  rfl

lemma LedgerOnly.prizedrawIsDrawn (h : LedgerOnly db db') {spotId : ℕ} (hdrawn : db.PrizedrawIsDrawn spotId) :
    db'.PrizedrawIsDrawn spotId := by
  rw [h.same]
  exact hdrawn

lemma createTransaction_ledgerOnly {row : NewTrans} {transId : ℕ} (h : db.createTransaction row = (db', .ok transId)) :
    LedgerOnly db db' := by
  obtain ⟨hid, hdb, -, -⟩ := createTransaction_ok h
  subst hdb hid
  refine ⟨rfl, fun hkeys => ⟨?_, ?_⟩⟩
  · rw [List.map_append]
    apply nodup_concat_of_fresh hkeys.1
    intro j hj
    obtain ⟨t, ht, rfl⟩ := List.mem_map.mp hj
    exact Nat.lt_succ_of_le (hkeys.2 t ht)
  · intro t ht
    rcases List.mem_append.mp ht with ht | ht
    · exact (hkeys.2 t ht).trans (Nat.le_succ _)
    · rw [List.mem_singleton.mp ht]

lemma Inserts.ledgerOnly {p : NewTrans → Prop} {outcome : Outcome P ℕ} (h : Inserts p db outcome) :
    LedgerOnly db outcome.1 := by
  cases h with
  | refused e => exact .refl db
  | made h hrow => exact createTransaction_ledgerOnly h

lemma DepositWrites.ledgerOnly {spotId : ℕ} {cleanHash : String} {outcome : Outcome P ℕ}
    (h : DepositWrites spotId cleanHash db outcome) : LedgerOnly db outcome.1 := by
  cases h with
  | kept hdb hknown =>
    subst hdb
    exact ⟨rfl, fun h => h⟩
  | @made rows row mid _ madeId _ h hrow hdb hknown =>
    have hmade := createTransaction_ledgerOnly h
    have hnoted : LedgerOnly mid { mid with returnAddresses := rows } := ⟨rfl, fun h => h⟩
    subst hdb
    exact hmade.then hnoted

lemma SettledTo.transKeyed {status : TransStatus} {transfer : Option ChainTransfer} {transId : ℕ}
    (h : SettledTo status transfer transId db db') (hkeys : TransKeyed db.trans db.transSeq) :
    TransKeyed db'.trans db'.transSeq := by
  have hids := h.keys
  refine ⟨hids ▸ hkeys.1, ?_⟩
  intro t' ht'
  have hid : t'.id ∈ db.trans.map Trans.id := hids ▸ List.mem_map_of_mem ht'
  obtain ⟨t, ht, heq⟩ := List.mem_map.mp hid
  rw [← heq, h.1]
  exact hkeys.2 t ht

lemma modifyTransactionStatus_ledgerOnly (transId : ℕ) (status : TransStatus) :
    LedgerOnly db (db.modifyTransactionStatus transId status).1 := by
  constructor
  · unfold Db.modifyTransactionStatus
    cases db.getTransaction transId with
    | none => rfl
    | some current =>
      dsimp only
      split_ifs <;> rfl
  · intro hkeys
    have hsettled : SettledTo status none transId db (db.modifyTransactionStatus transId status).1 :=
      modifyTransactionStatus_settled hkeys.1
    exact hsettled.transKeyed hkeys

lemma updateTransactionChainDetails_ledgerOnly (transId : ℕ) (transfer : ChainTransfer) :
    LedgerOnly db (db.updateTransactionChainDetails transId transfer) := by
  refine ⟨rfl, fun hkeys => ?_⟩
  have hsettled : SettledTo .pending (some transfer) transId db (db.updateTransactionChainDetails transId transfer) :=
    updateTransactionChainDetails_settled transfer
  exact hsettled.transKeyed hkeys

/-- What neither refusal of the cancellation flow applies to. -/
lemma isCancellable {spot : Spot P} (hopen : ¬(spot.status ≠ .draft ∧ spot.status ≠ .published))
    (hstandard : ¬(spot.status = .published ∧ spot.prizeCount.isSome = true)) :
    spot.status = .draft ∨ spot.status = .published ∧ spot.prizeCount = none := by
  by_cases hdraft : spot.status = .draft
  · exact Or.inl hdraft
  · have hpublished : spot.status = .published := by
      by_contra hother
      exact hopen ⟨hdraft, hother⟩
    refine Or.inr ⟨hpublished, ?_⟩
    rw [← Option.not_isSome_iff_eq_none]
    exact fun hprizedraw => hstandard ⟨hpublished, hprizedraw⟩

lemma finalizeCancelledSpotIfReady_writes (spotId : Option ℕ) :
    DbWrites cfg permit db (finalizeCancelledSpotIfReady db spotId) := by
  unfold finalizeCancelledSpotIfReady
  cases spotId with
  | none => exact .refl
  | some spotId =>
    dsimp only
    cases hspot : db.getSpot spotId with
    | none => exact .refl
    | some spot =>
      have hid := getSpot_id hspot
      subst hid
      dsimp only
      split_ifs with hfinal hprizedraw hready
      · exact .refl
      · exact .refl
      · exact .single (.closed hspot (.cancelled (isCancellable hfinal hprizedraw)) (by simp))
      · exact .refl

lemma markTransAsFailed_writes (row : Trans) : DbWrites cfg permit db (markTransAsFailed db row).1 := by
  unfold markTransAsFailed
  apply orRollback_writes
  have hledger : LedgerOnly db (db.modifyTransactionStatus row.id .failed).1 := modifyTransactionStatus_ledgerOnly ..
  generalize db.modifyTransactionStatus row.id .failed = outcome at hledger
  obtain ⟨mid, e | _⟩ := outcome
  · exact .single (hledger.write cfg permit)
  · exact (ReflTransGen.single (hledger.write cfg permit)).trans (finalizeCancelledSpotIfReady_writes row.spotId)

/-- The claim a confirmed row pays has been drawn. -/
def Db.PaysDrawnClaim (db : Db P) (row : Trans) : Prop :=
  ∀ claimId, row.claimId = some claimId →
    ∃ claim, db.getClaim claimId = some claim ∧ db.PrizedrawIsDrawn claim.spotId

lemma markTransAsConfirmed_writes {row : Trans} (transfer : ChainTransfer) {payout : Bool}
    (hpays : payout = true → db.PaysDrawnClaim row) :
    DbWrites cfg permit db (markTransAsConfirmed db row transfer payout).1 := by
  have hledger : ∀ status, LedgerOnly db
      ((db.updateTransactionChainDetails row.id transfer).modifyTransactionStatus row.id status).1 := fun status =>
    (updateTransactionChainDetails_ledgerOnly row.id transfer).then (modifyTransactionStatus_ledgerOnly row.id status)
  unfold markTransAsConfirmed
  change DbWrites cfg permit db (Outcome.orRollback db (if fundingMismatch db row transfer then _ else _)).1
  apply orRollback_writes
  by_cases hmismatch : fundingMismatch db row transfer
  · rw [if_pos hmismatch]
    exact .single ((hledger .failed).write cfg permit)
  · rw [if_neg hmismatch]
    have hconfirmed := hledger .confirmed
    generalize (db.updateTransactionChainDetails row.id transfer).modifyTransactionStatus row.id .confirmed =
      outcome at hconfirmed
    obtain ⟨mid, e | _⟩ := outcome
    · exact .single (hconfirmed.write cfg permit)
    · have hmid : DbWrites cfg permit db mid := .single (hconfirmed.write cfg permit)
      dsimp only
      split
      · next claimId hclaimId =>
        obtain ⟨claim, hclaim, hdrawn⟩ := hpays rfl claimId hclaimId
        have hid := getClaim_id hclaim
        subst hid
        have hfound : mid.getClaim claim.id = some claim := (hconfirmed.getClaim claim.id).trans hclaim
        have hpaid : DbWrite cfg permit mid (mid.setClaimStatusToSuccess claim.id) :=
          .paid hfound (hconfirmed.prizedrawIsDrawn hdrawn)
        exact (hmid.tail hpaid).trans (finalizeCancelledSpotIfReady_writes row.spotId)
      · exact hmid.trans (finalizeCancelledSpotIfReady_writes row.spotId)

end Ledger

section Settlement

variable {cfg : Settings P} {permit : Permit P} {db : Db P}

lemma settlePrizedrawSpotIfReady_writes (sample : Sampler P) (spotId : ℕ)
    (hdraw : ∀ spot winners, db.getSpot spotId = some spot → permit.draw db spot winners) :
    DbWrites cfg permit db (settlePrizedrawSpotIfReady sample db spotId).1 := by
  unfold settlePrizedrawSpotIfReady
  cases hspot : db.getSpot spotId with
  | none => exact .refl
  | some spot =>
    have hid := getSpot_id hspot
    subst hid
    dsimp only
    by_cases hpublished : spot.status = .published
    · rw [if_neg (not_not_intro hpublished)]
      cases hcount : spot.prizeCount with
      | none => exact .refl
      | some prizeCount =>
        dsimp only
        cases db.settlementReadyReason spot with
        | none => exact .refl
        | some reason =>
          have hprizedraw : spot.prizeCount.isSome = true := by simp [hcount]
          dsimp only
          rcases hdrawn : drawPrizedraw sample db spot prizeCount reason with ⟨drawn, e | result⟩
          · exact .refl
          · unfold drawPrizedraw at hdrawn
            dsimp only at hdrawn
            generalize List.insertionSort (fun a b : ℕ => a ≤ b) (List.map Claim.id _) = winners at hdrawn
            split_ifs at hdrawn with hpersisted
            · simp at hdrawn
            · have hdb := (Prod.mk.inj hdrawn).1
              subst hdb
              exact .single (.drawn hspot hpublished hprizedraw (not_not.mp hpersisted) (hdraw spot _ hspot))
    · rw [if_pos hpublished]

lemma setClaimStatusToSuccess_keeps {claim : Claim P} (claimId : ℕ) {found : ℕ}
    (hclaim : db.getClaim found = some claim) (hdrawn : db.PrizedrawIsDrawn claim.spotId) :
    ∃ claim', (db.setClaimStatusToSuccess claimId).getClaim found = some claim' ∧
      (db.setClaimStatusToSuccess claimId).PrizedrawIsDrawn claim'.spotId := by
  have hkept : ClaimsKept db (db.setClaimStatusToSuccess claimId) := claimsKept_updateClaimStatus ..
  obtain ⟨claim', hclaim', hsame⟩ := hkept.getClaim hclaim
  refine ⟨claim', hclaim', ?_⟩
  rw [hsame.spotId]
  exact hdrawn

lemma recordPaidWinners_writes (winners : List (Claim P)) (hwinners : ∀ c ∈ winners,
      ∃ claim, db.getClaim c.id = some claim ∧ db.PrizedrawIsDrawn claim.spotId) :
    DbWrites cfg permit db (winners.foldl recordPaidWinner db) := by
  induction winners generalizing db with
  | nil => exact .refl
  | cons winner winners ih =>
    obtain ⟨claim, hclaim, hdrawn⟩ := hwinners winner List.mem_cons_self
    have hrest : ∀ c ∈ winners, ∃ claim, db.getClaim c.id = some claim ∧ db.PrizedrawIsDrawn claim.spotId :=
      fun c hc => hwinners c (List.mem_cons_of_mem winner hc)
    rw [List.foldl_cons]
    unfold recordPaidWinner
    by_cases hpaid : db.hasConfirmedClaimPayoutTransaction winner.id = true
    · rw [if_pos hpaid]
      have hid := getClaim_id hclaim
      have hwrite : DbWrite cfg permit db (db.setClaimStatusToSuccess winner.id) := by
        rw [← hid] at hclaim ⊢
        exact .paid hclaim hdrawn
      apply (ReflTransGen.single hwrite).trans
      apply ih
      intro c hc
      obtain ⟨claim, hclaim, hdrawn⟩ := hrest c hc
      exact setClaimStatusToSuccess_keeps winner.id hclaim hdrawn
    · rw [if_neg hpaid]
      exact ih hrest

lemma retryPendingPrizedrawPayoutsForSpot_writes (hkeyed : db.Keyed) (spotId : ℕ) :
    DbWrites cfg permit db (retryPendingPrizedrawPayoutsForSpot db spotId).1 := by
  unfold retryPendingPrizedrawPayoutsForSpot
  cases hspot : db.getSpot spotId with
  | none => exact .refl
  | some spot =>
    dsimp only
    split_ifs with hcompleted hprizedraw
    · exact .refl
    · exact .refl
    · apply recordPaidWinners_writes
      intro c hc
      have hmem : c ∈ db.getPendingClaimsForSpot spotId := (List.perm_insertionSort _ _).mem_iff.mp hc
      have hof := List.mem_filter.mp (page_subset hmem)
      have hclaim : db.getClaim c.id = some c := (Db.getClaim_eq_some hkeyed).mpr ⟨hof.1, rfl⟩
      have hspotId : c.spotId = spotId := (of_decide_eq_true hof.2).1
      have hstatus : spot.status = .completed := not_not.mp hcompleted
      refine ⟨c, hclaim, spot, hspotId ▸ hspot, by simpa [Option.isSome_iff_ne_none] using hprizedraw, ?_, ?_⟩
      · simp [hstatus]
      · simp [hstatus]

lemma settleRemainderFromLedger_writes {spot : Spot P} {shouldComplete : Bool} (transactions : List Trans)
    (hspot : db.getSpot spot.id = some spot) (hcloses : shouldComplete = true → Closes db spot .completed) :
    DbWrites cfg permit db (settleRemainderFromLedger cfg db spot shouldComplete transactions).1 := by
  unfold settleRemainderFromLedger
  have hcompleted : DbWrites cfg permit db
      (if shouldComplete = true then db.modifySpotStatus spot.id .completed else db) := by
    split_ifs with hcomplete
    · exact .single (.closed hspot (hcloses hcomplete) (by simp))
    · exact .refl
  dsimp only
  generalize (if shouldComplete = true then db.modifySpotStatus spot.id .completed else db) = mid at hcompleted
  split_ifs
  · exact .refl
  · exact .refl
  · exact hcompleted.tail (.bookkept _ _ _ _)
  · split <;> exact hcompleted

lemma settleSpotRemainderIfReady_writes (spotId : ℕ) :
    DbWrites cfg permit db (settleSpotRemainderIfReady cfg db spotId).1 := by
  unfold settleSpotRemainderIfReady
  cases hspot : db.getSpot spotId with
  | none => exact .refl
  | some spot =>
    have hid := getSpot_id hspot
    subst hid
    dsimp only
    split_ifs with hfinal hmarker hpending hprizedraw hterminal hdraft hpaid
    · exact .refl
    · exact .refl
    · exact .refl
    · exact .refl
    · exact .refl
    · exact .refl
    · exact .refl
    · apply settleRemainderFromLedger_writes _ hspot
      intro hpublished
      have hpublished := of_decide_eq_true hpublished
      refine .completed hpublished ?_ ?_ ?_
      · rw [← Option.not_isSome_iff_eq_none]
        exact fun hdraw => hprizedraw ⟨hpublished, hdraw⟩
      · rw [← Option.not_isSome_iff_eq_none]
        exact hmarker
      · omega

lemma banSpot_writes (spotId : ℕ) (hban : permit.ban db spotId)
    (hlater : permit.ban (db.modifySpotStatus spotId .banned) spotId) :
    DbWrites cfg permit db (banSpot db spotId).1 := by
  unfold banSpot
  cases hspot : db.getSpot spotId with
  | none => exact .refl
  | some spot =>
    have hid := getSpot_id hspot
    subst hid
    dsimp only
    split_ifs with hcancelled hmarker hbanned
    · exact .refl
    · exact .refl
    · exact (ReflTransGen.single (.banned hspot hbanned hban)).tail (.bookkept _ _ _ _)
    · have hopen : spot.status ≠ .banned → spot.cancellationStartedAt = none := by
        intro hother
        rw [← Option.not_isSome_iff_eq_none]
        exact fun hset => hmarker ⟨hother, hset⟩
      have hclosed : DbWrite cfg permit db (db.modifySpotStatus spot.id .banned) :=
        .closed hspot (.banned hopen hcancelled) fun _ => hban
      have hspot' : (db.modifySpotStatus spot.id .banned).getSpot spot.id = some { spot with status := .banned } := by
        have hkey : ∀ s : Spot P, ({ s with status := .banned } : Spot P).id = s.id := fun _ => rfl
        rw [Db.getSpot] at hspot
        rw [Db.getSpot, Db.modifySpotStatus]
        dsimp only
        rw [find?_updateWhere_key hkey, hspot]
        simp
      have hfailed : DbWrite cfg permit (db.modifySpotStatus spot.id .banned)
          (failClaimsWithoutCommittedPayout (db.modifySpotStatus spot.id .banned) spot.id) :=
        @DbWrite.banned P cfg permit _ { spot with status := .banned } hspot' rfl hlater
      exact ((ReflTransGen.single hclosed).tail hfailed).tail (.bookkept _ _ _ _)

lemma attemptBannedSpotSweep_writes (spotId : ℕ) :
    DbWrites cfg permit db (attemptBannedSpotSweep db spotId).1 := by
  unfold attemptBannedSpotSweep
  cases hspot : db.getSpot spotId with
  | none => exact .refl
  | some spot =>
    dsimp only
    split_ifs
    · exact .refl
    · exact .single (.bookkept _ _ _ _)
    · exact .single (.bookkept _ _ _ _)
    · exact .single (.bookkept _ _ _ _)
    · exact .refl

end Settlement

end NimHunt
