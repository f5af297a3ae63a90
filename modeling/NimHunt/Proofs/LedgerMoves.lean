import NimHunt.Proofs.TechnicalSender

/-!
# What happens to a transaction row

A row is inserted behind the unique indexes, keeps the leg it pays, and is rewritten in place; its status
leaves PENDING once.  The constraints of the table survive both.
-/

namespace NimHunt

open Lib

variable {P : Type}

/-- Two rows that pay one claim, or one leg of one Spot. -/
def Trans.SameLeg (a b : Trans) : Prop :=
  a.type = b.type ∧
    ((a.type = .claim ∧ a.claimId = b.claimId) ∨ (a.type.oncePerSpot = true ∧ a.spotId = b.spotId))

section Ledger

variable {db db' : Db P}

/-- The constraints of the transaction table. -/
structure LedgerSound (db : Db P) : Prop where
  keys : (db.trans.map Trans.id).Nodup
  fresh : ∀ t ∈ db.trans, t.id ≤ db.transSeq
  hashes : ∀ a ∈ db.trans, ∀ b ∈ db.trans, a.txHash = b.txHash → a.id = b.id
  placed : ∀ t ∈ db.trans, (t.type = .claim → t.claimId.isSome = true) ∧ (t.type.oncePerSpot = true → t.spotId.isSome = true)
  active : ∀ a ∈ db.trans, ∀ b ∈ db.trans, a.SameLeg b → a.status ≠ .failed → b.status ≠ .failed → a.id = b.id

/-- What is inserted names the claim or the Spot it pays for. -/
def NewTrans.Placed (row : NewTrans) : Prop :=
  (row.type = .claim → row.claimId.isSome = true) ∧ (row.type.oncePerSpot = true → row.spotId.isSome = true)

lemma Trans.SameLeg.symm {a b : Trans} (h : a.SameLeg b) : b.SameLeg a := by
  obtain ⟨htype, hleg⟩ := h
  refine ⟨htype.symm, ?_⟩
  rw [← htype]
  rcases hleg with ⟨hclaim, hid⟩ | ⟨honce, hid⟩
  · exact Or.inl ⟨hclaim, hid.symm⟩
  · exact Or.inr ⟨honce, hid.symm⟩

/-- An active row of the leg stands in the way of the insert. -/
lemma activeTwin_of_sameLeg {row : NewTrans} {old t : Trans} (hplaced : row.Placed) (ht : row.Describes t)
    (hleg : old.SameLeg t) (hactive : old.status ≠ .failed) : row.activeTwin old = true := by
  obtain ⟨htype, hspot, hclaim⟩ := ht
  obtain ⟨hsame, hleg⟩ := hleg
  have holdtype : old.type = row.type := hsame.trans htype
  unfold NewTrans.activeTwin
  rcases hleg with ⟨hkind, hid⟩ | ⟨honce, hid⟩
  · have hrow : row.type = .claim := holdtype ▸ hkind
    have hsome := hplaced.1 hrow
    have hids : old.claimId = row.claimId := hid.trans hclaim
    simp [hactive, hrow, hkind, hsome, hids]
  · have hrow : row.type.oncePerSpot = true := holdtype ▸ honce
    have hsome := hplaced.2 hrow
    have hids : old.spotId = row.spotId := hid.trans hspot
    simp [hactive, holdtype, hrow, hsome, hids]

lemma LedgerSound.insert {row : NewTrans} {transId : ℕ} (hsound : LedgerSound db) (hplaced : row.Placed)
    (h : db.createTransaction row = (db', .ok transId)) : LedgerSound db' := by
  obtain ⟨hid, hdb, hhash, htwin⟩ := createTransaction_ok h
  have hbelow : ∀ t ∈ db.trans, t.id < transId := by
    intro t ht
    have := hsound.fresh t ht
    omega
  have hnoleg : ∀ old ∈ db.trans, ∀ t : Trans, row.Describes t → old.status ≠ .failed → ¬ old.SameLeg t := by
    intro old hold t ht hactive hleg
    have hblocked := activeTwin_of_sameLeg hplaced ht hleg hactive
    rw [htwin old hold] at hblocked
    cases hblocked
  rw [hdb]
  refine ⟨?_, ?_, ?_, ?_, ?_⟩
  · rw [List.map_append]
    apply nodup_concat_of_fresh hsound.keys
    intro j hj
    obtain ⟨t, ht, rfl⟩ := List.mem_map.mp hj
    exact hbelow t ht
  · intro t ht
    rcases List.mem_append.mp ht with ht | ht
    · exact (hbelow t ht).le
    · rw [List.mem_singleton] at ht
      subst ht
      exact le_refl _
  · intro a ha b hb heq
    rcases List.mem_append.mp ha with ha | ha
    · rcases List.mem_append.mp hb with hb | hb
      · exact hsound.hashes a ha b hb heq
      · rw [List.mem_singleton] at hb
        subst hb
        exact absurd heq (hhash a ha)
    · rw [List.mem_singleton] at ha
      subst ha
      rcases List.mem_append.mp hb with hb | hb
      · exact absurd heq.symm (hhash b hb)
      · rw [List.mem_singleton] at hb
        subst hb
        rfl
  · intro t ht
    rcases List.mem_append.mp ht with ht | ht
    · exact hsound.placed t ht
    · rw [List.mem_singleton] at ht
      subst ht
      exact hplaced
  · intro a ha b hb hleg hactive hactive'
    rcases List.mem_append.mp ha with ha | ha
    · rcases List.mem_append.mp hb with hb | hb
      · exact hsound.active a ha b hb hleg hactive hactive'
      · rw [List.mem_singleton] at hb
        subst hb
        exact absurd hleg (hnoleg a ha _ ⟨rfl, rfl, rfl⟩ hactive)
    · rw [List.mem_singleton] at ha
      subst ha
      rcases List.mem_append.mp hb with hb | hb
      · exact absurd hleg.symm (hnoleg b hb _ ⟨rfl, rfl, rfl⟩ hactive')
      · rw [List.mem_singleton] at hb
        subst hb
        rfl

/-- A row rewritten in place keeps the leg it pays and does not come back from FAILED. -/
structure KeepsLeg (t t' : Trans) : Prop where
  id : t'.id = t.id
  type : t'.type = t.type
  spotId : t'.spotId = t.spotId
  claimId : t'.claimId = t.claimId
  active : t'.status ≠ .failed → t.status ≠ .failed

lemma KeepsLeg.refl (t : Trans) : KeepsLeg t t := ⟨rfl, rfl, rfl, rfl, fun h => h⟩

lemma KeepsLeg.sameLeg {a a' b b' : Trans} (ha : KeepsLeg a a') (hb : KeepsLeg b b') (h : a'.SameLeg b') :
    a.SameLeg b := by
  unfold Trans.SameLeg at h ⊢
  rw [ha.type, hb.type, ha.claimId, hb.claimId, ha.spotId, hb.spotId] at h
  exact h

/-- One row is rewritten; its hash stays, or no other row has the new one. -/
structure Rewritten (db : Db P) (transId : ℕ) (f : Trans → Trans) (db' : Db P) : Prop where
  transSeq : db'.transSeq = db.transSeq
  trans : db'.trans = updateWhere (fun t => t.id = transId) f db.trans
  keeps : ∀ t ∈ db.trans, t.id = transId → KeepsLeg t (f t)
  hash : ∀ t ∈ db.trans, t.id = transId →
    (f t).txHash = t.txHash ∨ ∀ u ∈ db.trans, u.id ≠ transId → u.txHash ≠ (f t).txHash

lemma Rewritten.mem {transId : ℕ} {f : Trans → Trans} (h : Rewritten db transId f db') {t' : Trans}
    (ht' : t' ∈ db'.trans) :
    ∃ t ∈ db.trans, KeepsLeg t t' ∧ ((t.id ≠ transId ∧ t' = t) ∨ (t.id = transId ∧ t' = f t)) := by
  rw [h.trans, mem_updateWhere] at ht'
  obtain ⟨t, ht, heq⟩ := ht'
  by_cases hid : t.id = transId
  · simp only [hid, decide_true, if_true] at heq
    subst heq
    exact ⟨t, ht, h.keeps t ht hid, Or.inr ⟨hid, rfl⟩⟩
  · simp only [hid, decide_false, Bool.false_eq_true, if_false] at heq
    subst heq
    exact ⟨t, ht, .refl t, Or.inl ⟨hid, rfl⟩⟩

lemma LedgerSound.rewrite {transId : ℕ} {f : Trans → Trans} (hsound : LedgerSound db)
    (h : Rewritten db transId f db') : LedgerSound db' := by
  refine ⟨?_, ?_, ?_, ?_, ?_⟩
  · have hkeys : db'.trans.map Trans.id = db.trans.map Trans.id := by
      rw [h.trans, updateWhere, List.map_map]
      refine List.map_congr_left fun t ht => ?_
      by_cases hid : t.id = transId
      · simp [hid, (h.keeps t ht hid).id]
      · simp [hid]
    rw [hkeys]
    exact hsound.keys
  · intro t' ht'
    obtain ⟨t, ht, hkeeps, -⟩ := h.mem ht'
    rw [hkeeps.id, h.transSeq]
    exact hsound.fresh t ht
  · intro a' ha' b' hb' heq
    obtain ⟨a, ha, hkeepsa, hcasea⟩ := h.mem ha'
    obtain ⟨b, hb, hkeepsb, hcaseb⟩ := h.mem hb'
    rw [hkeepsa.id, hkeepsb.id]
    rcases hcasea with ⟨hida, rfl⟩ | ⟨hida, rfl⟩
    · rcases hcaseb with ⟨hidb, rfl⟩ | ⟨hidb, rfl⟩
      · exact hsound.hashes _ ha _ hb heq
      · rcases h.hash b hb hidb with hsame | hunused
        · exact hsound.hashes _ ha _ hb (heq.trans hsame)
        · exact absurd heq (hunused _ ha hida)
    · rcases hcaseb with ⟨hidb, rfl⟩ | ⟨hidb, rfl⟩
      · rcases h.hash a ha hida with hsame | hunused
        · exact hsound.hashes _ ha _ hb (hsame.symm.trans heq)
        · exact absurd heq.symm (hunused _ hb hidb)
      · exact hida.trans hidb.symm
  · intro t' ht'
    obtain ⟨t, ht, hkeeps, -⟩ := h.mem ht'
    rw [hkeeps.type, hkeeps.claimId, hkeeps.spotId]
    exact hsound.placed t ht
  · intro a' ha' b' hb' hleg hactive hactive'
    obtain ⟨a, ha, hkeepsa, -⟩ := h.mem ha'
    obtain ⟨b, hb, hkeepsb, -⟩ := h.mem hb'
    rw [hkeepsa.id, hkeepsb.id]
    exact hsound.active a ha b hb (hkeepsa.sameLeg hkeepsb hleg) (hkeepsa.active hactive) (hkeepsb.active hactive')

end Ledger

section Settling

variable {db db' db'' : Db P} {row : Trans} {transId : ℕ} {status : TransStatus} {transfer : Option ChainTransfer}

/-- A status write leaves the row's leg and hash, changes PENDING to `status` if anything, and may store
what the chain shows. -/
structure SettlesTo (status : TransStatus) (transfer : Option ChainTransfer) (t t' : Trans) : Prop where
  id : t'.id = t.id
  type : t'.type = t.type
  spotId : t'.spotId = t.spotId
  claimId : t'.claimId = t.claimId
  txHash : t'.txHash = t.txHash
  createdAt : t'.createdAt = t.createdAt
  status : t'.status = t.status ∨ t.status = .pending ∧ t'.status = status
  amount : t'.amount = t.amount ∨ ∃ shown ∈ transfer, t'.amount = shown.amount

variable (status transfer) in
lemma SettlesTo.refl (t : Trans) : SettlesTo status transfer t t :=
  ⟨rfl, rfl, rfl, rfl, rfl, rfl, Or.inl rfl, Or.inl rfl⟩

lemma SettlesTo.then {t t' t'' : Trans} (h : SettlesTo status transfer t t') (h' : SettlesTo status transfer t' t'') :
    SettlesTo status transfer t t'' := by
  refine ⟨h'.id.trans h.id, h'.type.trans h.type, h'.spotId.trans h.spotId, h'.claimId.trans h.claimId,
    h'.txHash.trans h.txHash, h'.createdAt.trans h.createdAt, ?_, ?_⟩
  · rcases h'.status with hsame | ⟨hpending, hset⟩
    · rw [hsame]
      exact h.status
    · rcases h.status with hsame | ⟨hopen, hset'⟩
      · exact Or.inr ⟨hsame.symm.trans hpending, hset⟩
      · exact Or.inr ⟨hopen, hset⟩
  · rcases h'.amount with hsame | hshown
    · rw [hsame]
      exact h.amount
    · exact Or.inr hshown

/-- At most one row has been settled. -/
def SettledTo (status : TransStatus) (transfer : Option ChainTransfer) (transId : ℕ) (db db' : Db P) : Prop :=
  db'.transSeq = db.transSeq ∧ ∃ f, db'.trans = updateWhere (fun t => t.id = transId) f db.trans ∧
    ∀ t ∈ db.trans, t.id = transId → SettlesTo status transfer t (f t)

lemma SettledTo.of_trans_eq (htrans : db'.trans = db.trans) (hseq : db'.transSeq = db.transSeq) :
    SettledTo status transfer transId db db' := by
  have hself : updateWhere (fun t => t.id = transId) id db.trans = db.trans := updateWhere_eq_self fun _ _ _ => rfl
  exact ⟨hseq, id, htrans.trans hself.symm, fun t _ _ => .refl status transfer t⟩

lemma SettledTo.then (h : SettledTo status transfer transId db db') (h' : SettledTo status transfer transId db' db'') :
    SettledTo status transfer transId db db'' := by
  obtain ⟨hseq, f, hf, hsettles⟩ := h
  obtain ⟨hseq', g, hg, hsettles'⟩ := h'
  have hmem : ∀ t ∈ db.trans, t.id = transId → f t ∈ db'.trans := by
    intro t ht hid
    rw [hf, mem_updateWhere]
    exact ⟨t, ht, by simp [hid]⟩
  refine ⟨hseq'.trans hseq, g ∘ f, ?_, ?_⟩
  · rw [hg, hf, updateWhere, updateWhere, updateWhere, List.map_map]
    refine List.map_congr_left fun t ht => ?_
    by_cases hid : t.id = transId
    · have hkept : (f t).id = transId := (hsettles t ht hid).id.trans hid
      simp [hid, hkept]
    · simp [hid]
  · intro t ht hid
    have hkept : (f t).id = transId := (hsettles t ht hid).id.trans hid
    exact (hsettles t ht hid).then (hsettles' (f t) (hmem t ht hid) hkept)

lemma SettledTo.keys (h : SettledTo status transfer transId db db') : db'.trans.map Trans.id = db.trans.map Trans.id := by
  obtain ⟨-, f, hf, hsettles⟩ := h
  rw [hf, updateWhere, List.map_map]
  refine List.map_congr_left fun t ht => ?_
  by_cases hid : t.id = transId
  · simp [hid, (hsettles t ht hid).id]
  · simp [hid]

lemma SettledTo.rewritten (h : SettledTo status transfer transId db db') : ∃ f, Rewritten db transId f db' ∧
    ∀ t ∈ db.trans, t.id = transId → SettlesTo status transfer t (f t) := by
  obtain ⟨hseq, f, hf, hsettles⟩ := h
  refine ⟨f, ⟨hseq, hf, ?_, fun t ht hid => Or.inl (hsettles t ht hid).txHash⟩, hsettles⟩
  intro t ht hid
  have hs := hsettles t ht hid
  refine ⟨hs.id, hs.type, hs.spotId, hs.claimId, ?_⟩
  intro hactive
  rcases hs.status with hsame | ⟨hpending, -⟩
  · exact hsame ▸ hactive
  · simp [hpending]

lemma modifyTransactionStatus_settled (hkeys : (db.trans.map Trans.id).Nodup) :
    SettledTo status transfer transId db (db.modifyTransactionStatus transId status).1 := by
  unfold Db.modifyTransactionStatus
  cases hget : db.getTransaction transId with
  | none => exact .of_trans_eq rfl rfl
  | some current =>
    dsimp only
    by_cases hpending : current.status = .pending
    · rw [if_pos hpending]
      refine ⟨rfl, fun t => { t with status := status }, rfl, ?_⟩
      intro t ht hid
      obtain ⟨hcurrent, hcurrentid⟩ := (find?_key_eq_some hkeys).mp hget
      have hsame : t = current := eq_of_key_eq hkeys ht hcurrent (hid.trans hcurrentid.symm)
      exact ⟨rfl, rfl, rfl, rfl, rfl, rfl, Or.inr ⟨hsame ▸ hpending, rfl⟩, Or.inl rfl⟩
    · rw [if_neg hpending]
      split_ifs
      · exact .of_trans_eq rfl rfl
      · exact .of_trans_eq rfl rfl

lemma updateTransactionChainDetails_settled (transfer : ChainTransfer) :
    SettledTo status (some transfer) transId db (db.updateTransactionChainDetails transId transfer) :=
  ⟨rfl, _, rfl, fun _ _ _ => ⟨rfl, rfl, rfl, rfl, rfl, rfl, Or.inl rfl, Or.inr ⟨transfer, rfl, rfl⟩⟩⟩

lemma finalizeCancelledSpotIfReady_settled (spotId : Option ℕ) :
    SettledTo status transfer transId db (finalizeCancelledSpotIfReady db spotId) := by
  obtain ⟨spots, hspots⟩ := finalizeCancelledSpotIfReady_frame db spotId
  rw [hspots]
  exact .of_trans_eq rfl rfl

lemma SettledTo.orRollback {R : Type} {outcome : Outcome P R} (h : SettledTo status transfer transId db outcome.1) :
    SettledTo status transfer transId db (outcome.orRollback db).1 := by
  obtain ⟨made, e | r⟩ := outcome
  · exact .of_trans_eq rfl rfl
  · exact h

lemma markTransAsFailed_settled (hkeys : (db.trans.map Trans.id).Nodup) :
    SettledTo .failed none row.id db (markTransAsFailed db row).1 := by
  have hmodify : SettledTo .failed none row.id db (db.modifyTransactionStatus row.id .failed).1 :=
    modifyTransactionStatus_settled hkeys
  unfold markTransAsFailed
  apply SettledTo.orRollback
  generalize db.modifyTransactionStatus row.id .failed = outcome at hmodify
  obtain ⟨mid, e | _⟩ := outcome
  · exact hmodify
  · exact hmodify.then (finalizeCancelledSpotIfReady_settled row.spotId)

/-- A confirmed row becomes CONFIRMED; only a deposit may become FAILED instead. -/
lemma markTransAsConfirmed_settled (transfer : ChainTransfer) (payout : Bool)
    (hkeys : (db.trans.map Trans.id).Nodup) :
    ∃ status, SettledTo status (some transfer) row.id db (markTransAsConfirmed db row transfer payout).1 ∧
      (row.type ≠ .fillSpot → status = .confirmed) := by
  have hmodify : ∀ status, SettledTo status (some transfer) row.id db
      ((db.updateTransactionChainDetails row.id transfer).modifyTransactionStatus row.id status).1 := by
    intro status
    have hdetailed : SettledTo status (some transfer) row.id db (db.updateTransactionChainDetails row.id transfer) :=
      updateTransactionChainDetails_settled transfer
    exact hdetailed.then (modifyTransactionStatus_settled (hdetailed.keys ▸ hkeys))
  unfold markTransAsConfirmed
  change ∃ status, SettledTo status (some transfer) row.id db (Outcome.orRollback db
    (if fundingMismatch db row transfer then _ else _)).1 ∧ _
  by_cases hmismatch : fundingMismatch db row transfer
  · refine ⟨.failed, ?_, fun hserver => absurd hmismatch.1 hserver⟩
    rw [if_pos hmismatch]
    exact (hmodify .failed).orRollback
  · refine ⟨.confirmed, ?_, fun _ => rfl⟩
    rw [if_neg hmismatch]
    apply SettledTo.orRollback
    have hconfirmed := hmodify .confirmed
    generalize (db.updateTransactionChainDetails row.id transfer).modifyTransactionStatus row.id .confirmed =
      outcome at hconfirmed
    obtain ⟨mid, e | _⟩ := outcome
    · exact hconfirmed
    · dsimp only
      split
      · exact (hconfirmed.then (.of_trans_eq rfl rfl)).then (finalizeCancelledSpotIfReady_settled row.spotId)
      · exact hconfirmed.then (finalizeCancelledSpotIfReady_settled row.spotId)

def Verdict.accepted : Verdict → Option ChainTransfer
  | .accept transfer => some transfer
  | _ => none

/-- What a verdict writes about an outgoing row. -/
lemma settleRow_settled (block : Option ℤ) (verdict : Verdict) (hkeys : (db.trans.map Trans.id).Nodup) :
    ∃ status, SettledTo status verdict.accepted row.id db (settleRow db row block verdict).1 ∧
      (row.type ≠ .fillSpot → (status = .failed → ∃ reason, verdict = .reject reason) ∧
        (status = .confirmed → ∃ transfer, verdict = .accept transfer)) := by
  cases verdict with
  | stillPending reason => exact ⟨.pending, .of_trans_eq rfl rfl, by simp⟩
  | unknown reason => exact ⟨.pending, .of_trans_eq rfl rfl, by simp⟩
  | reject reason =>
    have hfailed : SettledTo .failed none row.id db (markTransAsFailed db row).1 := markTransAsFailed_settled hkeys
    refine ⟨.failed, ?_, by simp⟩
    rw [settleRow]
    generalize markTransAsFailed db row = outcome at hfailed
    obtain ⟨mid, e | _⟩ := outcome
    · exact hfailed
    · exact hfailed
  | accept transfer =>
    rw [settleRow]
    cases unstorable block transfer with
    | some e => exact ⟨.pending, .of_trans_eq rfl rfl, by simp⟩
    | none =>
      obtain ⟨status, hsettled, hserver⟩ := markTransAsConfirmed_settled transfer
        (claimTransactionIsCompletedPrizedrawPayout db row) hkeys
      refine ⟨status, ?_, fun htype => ⟨fun hfailed => ?_, fun _ => ⟨transfer, rfl⟩⟩⟩
      · dsimp only
        generalize markTransAsConfirmed db row transfer (claimTransactionIsCompletedPrizedrawPayout db row) =
          outcome at hsettled
        obtain ⟨mid, e | _⟩ := outcome
        · exact hsettled
        · exact hsettled
      · rw [hserver htype] at hfailed
        cases hfailed

end Settling

/-- What a row is confirmed with: at least a deposit's amount, or exactly what was sent. -/
lemma verifiedTransfer_chain {cfg : Settings P} {row : Trans} {transfer : ChainTransfer}
    (h : verifiedTransfer cfg row = some transfer) :
    cfg.chainTransfer row.txHash = some transfer ∧
      (row.type = .fillSpot → row.amount ≤ transfer.amount) ∧
      (row.type ≠ .fillSpot → transfer.amount = row.amount) := by
  unfold verifiedTransfer at h
  cases hchain : cfg.chainTransfer row.txHash with
  | none =>
    rw [hchain] at h
    cases h
  | some shown =>
    rw [hchain] at h
    dsimp only at h
    split_ifs at h with hto hdeposit hmore hmatch
    · rw [← Option.some.inj h]
      exact ⟨rfl, fun _ => hmore, fun hout => absurd hdeposit hout⟩
    · rw [← Option.some.inj h]
      exact ⟨rfl, fun hin => absurd hin hdeposit, fun _ => hmatch.2⟩

end NimHunt
