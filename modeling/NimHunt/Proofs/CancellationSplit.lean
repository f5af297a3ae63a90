import NimHunt.Proofs.CancellationBound
import NimHunt.Proofs.SystemWrites
import NimHunt.Proofs.WholeLedger

/-!
# The split of a cancellation

A cancellation divides what a Spot has left into a fee and a refund, and divides it anew on every attempt.  Once an
attempt has fixed its amounts, what is left can only grow: deposits may still confirm, payouts and the creation fee are
over.  Every leg therefore stays within its share, and each new division adds up to what is left.
-/

namespace NimHunt

open Lib

variable {P : Type}

section Totals

/-- What a row adds to a total of its Spot. -/
def Trans.weight (spotId : ℕ) (type : TransType) (status : TransStatus) (t : Trans) : ℕ :=
  if t.spotId = some spotId ∧ t.type = type ∧ t.status = status then t.amount else 0

/-- What the cancellation of a Spot may spend. -/
def cancellable (db : Db P) (spotId : ℕ) : ℕ := remainingCancellableTotal (db.transOfSpot spotId)

variable {db db' : Db P} {spotId : ℕ} {type : TransType} {status : TransStatus}

lemma total_transOfSpot (db : Db P) (spotId : ℕ) (type : TransType) (status : TransStatus) :
    total type status (db.transOfSpot spotId) = (db.trans.map (Trans.weight spotId type status)).sum := by
  unfold Db.transOfSpot total
  induction db.trans with
  | nil => rfl
  | cons t ts ih =>
    rw [List.map_cons, List.sum_cons, ← ih, List.filter_cons]
    by_cases hspot : t.spotId = some spotId
    · by_cases hkind : t.type = type ∧ t.status = status
      · simp [Trans.weight, hspot, hkind]
      · simp [Trans.weight, hspot, hkind]
    · simp [Trans.weight, hspot]

/-- Rows that each weigh as much weigh as much together. -/
lemma total_congr (h : db'.trans.map (Trans.weight spotId type status) = db.trans.map (Trans.weight spotId type status)) :
    total type status (db'.transOfSpot spotId) = total type status (db.transOfSpot spotId) := by
  rw [total_transOfSpot, total_transOfSpot, h]

/-- A row that has just been inserted does not count yet. -/
lemma total_insert {row : NewTrans} {transId : ℕ} (hmade : db.createTransaction row = (db', .ok transId)) :
    total type .confirmed (db'.transOfSpot spotId) = total type .confirmed (db.transOfSpot spotId) := by
  obtain ⟨-, hdb, -, -⟩ := createTransaction_ok hmade
  rw [total_transOfSpot, total_transOfSpot, hdb, List.map_append, List.sum_append]
  have hpending : ∀ t : Trans, t.status = .pending → t.weight spotId type .confirmed = 0 := by
    intro t ht
    unfold Trans.weight
    rw [if_neg]
    rw [ht]
    rintro ⟨-, -, hconfirmed⟩
    cases hconfirmed
  rw [List.map_singleton, List.sum_singleton, hpending _ rfl, Nat.add_zero]

/-- A leg a Spot pays once adds up to no more than one row of it. -/
lemma total_le_of_once (hledger : LedgerSound db) (honce : type.oncePerSpot = true) {bound : ℕ}
    (hbound : ∀ t ∈ db.trans, t.spotId = some spotId → t.type = type → t.amount ≤ bound) :
    total type .confirmed (db.transOfSpot spotId) ≤ bound := by
  have hrow : ∀ t ∈ (db.transOfSpot spotId).filter fun t => t.type = type ∧ t.status = .confirmed,
      t ∈ db.trans ∧ t.spotId = some spotId ∧ t.type = type ∧ t.status = .confirmed := by
    intro t ht
    have hmem := List.mem_filter.mp (List.mem_filter.mp ht).1
    have hof := of_decide_eq_true (List.mem_filter.mp ht).2
    exact ⟨hmem.1, of_decide_eq_true hmem.2, hof.1, hof.2⟩
  have hnodup : ((db.transOfSpot spotId).filter fun t => t.type = type ∧ t.status = .confirmed).Nodup :=
    ((List.Nodup.of_map _ hledger.keys).filter _).filter _
  unfold total
  generalize (db.transOfSpot spotId).filter (fun t => t.type = type ∧ t.status = .confirmed) = rows at hrow hnodup
  match rows with
  | [] => exact Nat.zero_le bound
  | [t] =>
    obtain ⟨hmem, hspot, htype, -⟩ := hrow t List.mem_cons_self
    rw [List.map_singleton, List.sum_singleton]
    exact hbound t hmem hspot htype
  | t :: u :: rest =>
    obtain ⟨hmem, hspot, htype, hstatus⟩ := hrow t List.mem_cons_self
    obtain ⟨hmem', hspot', htype', hstatus'⟩ := hrow u (List.mem_cons_of_mem t List.mem_cons_self)
    have hleg : t.SameLeg u := ⟨htype.trans htype'.symm, .inr ⟨htype ▸ honce, hspot.trans hspot'.symm⟩⟩
    have hids := hledger.active t hmem u hmem' hleg (by rw [hstatus]; nofun) (by rw [hstatus']; nofun)
    have hsame : t = u := eq_of_key_eq hledger.keys hmem hmem' hids
    rw [hsame] at hnodup
    exact absurd List.mem_cons_self (List.nodup_cons.mp hnodup).1

end Totals

section Steps

/-- An attempt has got as far as its amounts: no claim comes in any more, and every payout and fee before it is over. -/
structure Begun (db : Db P) (spotId : ℕ) : Prop where
  marked : ∃ spot, db.getSpot spotId = some spot ∧ spot.cancellationStartedAt.isSome = true
  settled : ∀ t ∈ db.trans, t.spotId = some spotId → t.status = .pending → t.type ≠ .claim ∧ t.type ≠ .creationFee

/-- A leg stays within its share of what may be spent. -/
structure WithinShare (db : Db P) (spotId fee : ℕ) (t : Trans) : Prop where
  begun : Begun db spotId
  platFee : t.type = .platFee → t.amount ≤ min fee (cancellable db spotId)
  cancelSpot : t.type = .cancelSpot → t.amount ≤ cancellable db spotId - min fee (cancellable db spotId)

/-- The chain shows what the row says, or for a deposit at least as much. -/
structure Trans.Agrees (t : Trans) (transfer : ChainTransfer) : Prop where
  deposit : t.type = .fillSpot → t.amount ≤ transfer.amount
  outgoing : t.type ≠ .fillSpot → transfer.amount = t.amount

/-- A row whose confirmation has begun. -/
def StillRead (cfg : Settings P) (db : Db P) (row : Trans) : Prop :=
  ∃ t ∈ db.trans, t.id = row.id ∧ t.txHash = row.txHash ∧
    ∀ transfer, verifiedTransfer cfg row = some transfer → t.Agrees transfer

/-- Everything is returned. -/
def ReturnedInFull (db : Db P) (spotId : ℕ) : Prop :=
  cancellable db spotId ≤ confirmedCancellationTotal (db.transOfSpot spotId)

/-- One write, as far as the cancellation of a Spot is concerned. -/
structure Onward (cfg : Settings P) (spotId fee : ℕ) (db db' : Db P) : Prop where
  ledger : LedgerSound db'
  begun : Begun db spotId → Begun db' spotId
  more : Begun db spotId → cancellable db spotId ≤ cancellable db' spotId
  reads : ∀ row, StillRead cfg db row → StillRead cfg db' row
  legs : ∀ t' ∈ db'.trans, t'.spotId = some spotId → t'.isCancellationLeg = true →
    (∃ t ∈ db.trans, t.spotId = some spotId ∧ t.type = t'.type ∧ t.amount = t'.amount) ∨
      WithinShare db' spotId fee t'
  closes : ∀ spot', db'.getSpot spotId = some spot' → spot'.status = .cancelled →
    (∃ spot, db.getSpot spotId = some spot ∧ spot.status = .cancelled) ∨ ReturnedInFull db' spotId

variable {cfg : Settings P} {db db' db'' : Db P} {spotId fee : ℕ}

lemma Begun.of_trans {spot' : Spot P} (h : Begun db spotId) (htrans : db'.trans = db.trans)
    (hspot : db'.getSpot spotId = some spot') (hmarked : spot'.cancellationStartedAt.isSome = true) : Begun db' spotId :=
  ⟨⟨spot', hspot, hmarked⟩, by rw [htrans]; exact h.settled⟩

lemma cancellable_of_trans (htrans : db'.trans = db.trans) : cancellable db' spotId = cancellable db spotId := by
  unfold cancellable Db.transOfSpot
  rw [htrans]

/-- The ledger is left alone, and so is the marker. -/
lemma Onward.spots (hledger : LedgerSound db) (htrans : db'.trans = db.trans) (hseq : db'.transSeq = db.transSeq)
    (hmarked : ∀ spot, db.getSpot spotId = some spot → spot.cancellationStartedAt.isSome = true →
      ∃ spot', db'.getSpot spotId = some spot' ∧ spot'.cancellationStartedAt.isSome = true)
    (hcloses : ∀ spot', db'.getSpot spotId = some spot' → spot'.status = .cancelled →
      (∃ spot, db.getSpot spotId = some spot ∧ spot.status = .cancelled) ∨ ReturnedInFull db' spotId) :
    Onward cfg spotId fee db db' where
  ledger := ⟨htrans ▸ hledger.keys, by rw [htrans, hseq]; exact hledger.fresh, htrans ▸ hledger.hashes,
    htrans ▸ hledger.placed, htrans ▸ hledger.active⟩
  begun h := by
    obtain ⟨spot, hspot, hmark⟩ := h.marked
    obtain ⟨spot', hspot', hmark'⟩ := hmarked spot hspot hmark
    exact h.of_trans htrans hspot' hmark'
  more _ := (cancellable_of_trans htrans).ge
  reads row := by
    rintro ⟨t, ht, hread⟩
    exact ⟨t, htrans ▸ ht, hread⟩
  legs t' ht' hspot _ := .inl ⟨t', htrans ▸ ht', hspot, rfl, rfl⟩
  closes := hcloses

lemma Onward.quiet (hledger : LedgerSound db) (htrans : db'.trans = db.trans) (hseq : db'.transSeq = db.transSeq)
    (hspots : db'.spots = db.spots) : Onward cfg spotId fee db db' := by
  have hget : db'.getSpot spotId = db.getSpot spotId := by
    unfold Db.getSpot
    rw [hspots]
  apply Onward.spots hledger htrans hseq
  · intro spot hspot hmark
    exact ⟨spot, hget.trans hspot, hmark⟩
  · intro spot' hspot' hstatus
    exact .inl ⟨spot', hget.symm.trans hspot', hstatus⟩

/-- What is written besides the ledger and the Spots does not matter. -/
lemma Onward.congr (h : Onward cfg spotId fee db db') (htrans : db''.trans = db'.trans)
    (hseq : db''.transSeq = db'.transSeq) (hspots : db''.spots = db'.spots) : Onward cfg spotId fee db db'' := by
  have hsame : Onward cfg spotId fee db' db'' := .quiet h.ledger htrans hseq hspots
  have hget : db''.getSpot spotId = db'.getSpot spotId := by
    unfold Db.getSpot
    rw [hspots]
  have hcancellable : cancellable db'' spotId = cancellable db' spotId := cancellable_of_trans htrans
  refine ⟨hsame.ledger, fun hbegun => hsame.begun (h.begun hbegun), ?_, fun row hread => hsame.reads row (h.reads row hread),
    ?_, ?_⟩
  · intro hbegun
    rw [hcancellable]
    exact h.more hbegun
  · intro t' ht' hspot hleg
    rw [htrans] at ht'
    apply (h.legs t' ht' hspot hleg).imp_right
    intro hwithin
    exact ⟨hsame.begun hwithin.begun, by rw [hcancellable]; exact hwithin.platFee, by rw [hcancellable]; exact hwithin.cancelSpot⟩
  · intro spot' hspot' hstatus
    apply (h.closes spot' (hget ▸ hspot') hstatus).imp_right
    intro hreturned
    unfold ReturnedInFull Db.transOfSpot at hreturned ⊢
    rw [hcancellable, htrans]
    exact hreturned

/-- A row is inserted: a leg within its share, or a creation fee before the cancellation. -/
lemma Onward.insert {row : NewTrans} {transId : ℕ} (hledger : LedgerSound db) (hplaced : row.Placed)
    (hmade : db.createTransaction row = (db', .ok transId))
    (hpayout : row.spotId = some spotId → Begun db spotId → row.type ≠ .claim ∧ row.type ≠ .creationFee)
    (hleg : row.spotId = some spotId → row.type = .platFee ∨ row.type = .cancelSpot → Begun db spotId ∧
      (row.type = .platFee → row.amount ≤ min fee (cancellable db spotId)) ∧
      (row.type = .cancelSpot → row.amount ≤ cancellable db spotId - min fee (cancellable db spotId))) :
    Onward cfg spotId fee db db' := by
  obtain ⟨-, hdb, -, -⟩ := createTransaction_ok hmade
  have hget : db'.getSpot spotId = db.getSpot spotId := by
    rw [hdb]
    rfl
  have hcancellable : cancellable db' spotId = cancellable db spotId := by
    unfold cancellable remainingCancellableTotal
    rw [total_insert hmade, total_insert hmade, total_insert hmade]
  have hbegun : Begun db spotId → Begun db' spotId := by
    intro h
    refine ⟨by rw [hget]; exact h.marked, ?_⟩
    intro t ht hspot hpending
    rw [hdb] at ht
    cases List.mem_append.mp ht with
    | inl hold => exact h.settled t hold hspot hpending
    | inr hnew =>
      rw [List.mem_singleton.mp hnew] at hspot ⊢
      exact hpayout hspot h
  refine ⟨hledger.insert hplaced hmade, hbegun, fun _ => hcancellable.ge, ?_, ?_, ?_⟩
  · rintro read ⟨t, ht, hread⟩
    refine ⟨t, ?_, hread⟩
    rw [hdb]
    exact List.mem_append_left _ ht
  · intro t' ht' hspot hkind
    rw [hdb] at ht'
    cases List.mem_append.mp ht' with
    | inl hold => exact .inl ⟨t', hold, hspot, rfl, rfl⟩
    | inr hnew =>
      right
      rw [List.mem_singleton.mp hnew] at hspot hkind ⊢
      have htype : row.type = .cancelSpot ∨ row.type = .platFee := of_decide_eq_true hkind
      obtain ⟨hb, hfee, hrefund⟩ := hleg hspot htype.symm
      exact ⟨hbegun hb, by rw [hcancellable]; exact hfee, by rw [hcancellable]; exact hrefund⟩
  · intro spot' hspot' hstatus
    exact .inl ⟨spot', hget.symm.trans hspot', hstatus⟩

end Steps

section Settling

variable {cfg : Settings P} {db db' : Db P} {spotId fee : ℕ} {row : Trans}

/-- A row is settled as the chain shows it. -/
lemma Onward.settled {status : TransStatus} {transfer : Option ChainTransfer} {transId : ℕ} (hledger : LedgerSound db)
    (hspots : db'.spots = db.spots) (hsettled : SettledTo status transfer transId db db')
    (hchain : ∀ t ∈ db.trans, t.id = transId → ∀ shown ∈ transfer,
      cfg.chainTransfer t.txHash = some shown ∧ t.Agrees shown) :
    Onward cfg spotId fee db db' := by
  obtain ⟨f, hrewritten, hsettles⟩ := hsettled.rewritten
  have hget : db'.getSpot spotId = db.getSpot spotId := by
    unfold Db.getSpot
    rw [hspots]
  have hgrows : ∀ t ∈ db.trans, t.id = transId → t.amount ≤ (f t).amount ∧ (t.type ≠ .fillSpot → (f t).amount = t.amount) := by
    intro t ht hid
    cases (hsettles t ht hid).amount with
    | inl hkept => exact ⟨hkept.ge, fun _ => hkept⟩
    | inr hshown =>
      obtain ⟨shown, hin, hamount⟩ := hshown
      obtain ⟨-, hagrees⟩ := hchain t ht hid shown hin
      rw [hamount]
      by_cases htype : t.type = .fillSpot
      · exact ⟨hagrees.deposit htype, fun hout => absurd htype hout⟩
      · exact ⟨(hagrees.outgoing htype).ge, fun _ => hagrees.outgoing htype⟩
  -- Every row of the new table is a settled one or an old one.
  have hfrom : ∀ t' ∈ db'.trans, ∃ t ∈ db.trans, t' = (if decide (t.id = transId) then f t else t) := by
    intro t' ht'
    rw [hrewritten.trans] at ht'
    obtain ⟨t, ht, hrow⟩ := mem_updateWhere.mp ht'
    exact ⟨t, ht, hrow.symm⟩
  have hbegun : Begun db spotId → Begun db' spotId := by
    intro h
    refine ⟨by rw [hget]; exact h.marked, ?_⟩
    intro t' ht' hspot hpending
    obtain ⟨t, ht, hrow⟩ := hfrom t' ht'
    by_cases hid : t.id = transId
    · rw [if_pos (decide_eq_true hid)] at hrow
      have hto := hsettles t ht hid
      rw [hrow] at hspot hpending ⊢
      rw [hto.spotId] at hspot
      rw [hto.type]
      cases hto.status with
      | inl hsame => exact h.settled t ht hspot (hsame ▸ hpending)
      | inr hleft => exact h.settled t ht hspot hleft.1
    · rw [if_neg (fun htrue => hid (of_decide_eq_true htrue))] at hrow
      rw [hrow] at hspot hpending ⊢
      exact h.settled t ht hspot hpending
  have hdeposits : total .fillSpot .confirmed (db.transOfSpot spotId) ≤
      total .fillSpot .confirmed (db'.transOfSpot spotId) := by
    rw [total_transOfSpot, total_transOfSpot, hrewritten.trans]
    unfold updateWhere
    rw [List.map_map]
    apply List.sum_le_sum
    intro t ht
    rw [Function.comp_apply]
    by_cases hid : t.id = transId
    · rw [if_pos (decide_eq_true hid)]
      have hto := hsettles t ht hid
      unfold Trans.weight
      by_cases hcounts : t.spotId = some spotId ∧ t.type = .fillSpot ∧ t.status = .confirmed
      · have hstill : (f t).status = .confirmed := by
          cases hto.status with
          | inl hsame => exact hsame.trans hcounts.2.2
          | inr hleft => exact absurd (hleft.1.symm.trans hcounts.2.2) (by decide)
        rw [if_pos hcounts, if_pos ⟨hto.spotId.trans hcounts.1, hto.type.trans hcounts.2.1, hstill⟩]
        exact (hgrows t ht hid).1
      · rw [if_neg hcounts]
        exact Nat.zero_le _
    · rw [if_neg (fun htrue => hid (of_decide_eq_true htrue))]
  have hspent : Begun db spotId → ∀ type : TransType, type = .claim ∨ type = .creationFee →
      total type .confirmed (db'.transOfSpot spotId) = total type .confirmed (db.transOfSpot spotId) := by
    intro h type htype
    apply total_congr
    rw [hrewritten.trans]
    unfold updateWhere
    rw [List.map_map]
    apply List.map_congr_left
    intro t ht
    rw [Function.comp_apply]
    by_cases hid : t.id = transId
    · rw [if_pos (decide_eq_true hid)]
      have hto := hsettles t ht hid
      unfold Trans.weight
      rw [hto.spotId, hto.type]
      by_cases hof : t.spotId = some spotId ∧ t.type = type
      · have hdecided : t.status ≠ .pending := by
          intro hpending
          have hover := h.settled t ht hof.1 hpending
          cases htype with
          | inl hclaim => exact hover.1 (hof.2.trans hclaim)
          | inr hcreation => exact hover.2 (hof.2.trans hcreation)
        have hstatus : (f t).status = t.status := hto.status.resolve_right fun hleft => hdecided hleft.1
        have hout : t.type ≠ .fillSpot := by
          rw [hof.2]
          cases htype with
          | inl hclaim =>
            rw [hclaim]
            nofun
          | inr hcreation =>
            rw [hcreation]
            nofun
        rw [hstatus, (hgrows t ht hid).2 hout]
      · rw [if_neg (fun hall => hof ⟨hall.1, hall.2.1⟩), if_neg (fun hall => hof ⟨hall.1, hall.2.1⟩)]
    · rw [if_neg (fun htrue => hid (of_decide_eq_true htrue))]
  refine ⟨hledger.rewrite hrewritten, hbegun, ?_, ?_, ?_, ?_⟩
  · intro h
    unfold cancellable remainingCancellableTotal
    rw [hspent h .claim (.inl rfl), hspent h .creationFee (.inr rfl)]
    omega
  · rintro read ⟨t, ht, hreadId, hhash, hagrees⟩
    by_cases hid : t.id = transId
    · have hto := hsettles t ht hid
      refine ⟨f t, ?_, hto.id.trans hreadId, hto.txHash.trans hhash, ?_⟩
      · rw [hrewritten.trans]
        exact mem_updateWhere.mpr ⟨t, ht, if_pos (decide_eq_true hid)⟩
      · intro transfer' hverified
        cases hto.amount with
        | inl hkept =>
          have hold := hagrees transfer' hverified
          exact ⟨by rw [hto.type, hkept]; exact hold.deposit, by rw [hto.type, hkept]; exact hold.outgoing⟩
        | inr hshown =>
          -- Both confirmations ask the chain about one hash.
          obtain ⟨shown, hin, hamount⟩ := hshown
          have hfirst := (hchain t ht hid shown hin).1
          have hsecond := (verifiedTransfer_chain hverified).1
          rw [← hhash, hfirst] at hsecond
          rw [← Option.some.inj hsecond]
          exact ⟨fun _ => hamount.le, fun _ => hamount.symm⟩
    · refine ⟨t, ?_, hreadId, hhash, hagrees⟩
      rw [hrewritten.trans]
      exact mem_updateWhere.mpr ⟨t, ht, if_neg fun htrue => hid (of_decide_eq_true htrue)⟩
  · intro t' ht' hspot hkind
    obtain ⟨t, ht, hrow⟩ := hfrom t' ht'
    left
    by_cases hid : t.id = transId
    · rw [if_pos (decide_eq_true hid)] at hrow
      have hto := hsettles t ht hid
      rw [hrow] at hspot hkind ⊢
      have hleg : (f t).type = .cancelSpot ∨ (f t).type = .platFee := of_decide_eq_true hkind
      have hout : t.type ≠ .fillSpot := by
        rw [hto.type] at hleg
        intro hdeposit
        rw [hdeposit] at hleg
        cases hleg with
        | inl h => cases h
        | inr h => cases h
      exact ⟨t, ht, hto.spotId.symm.trans hspot, hto.type.symm, ((hgrows t ht hid).2 hout).symm⟩
    · rw [if_neg (fun htrue => hid (of_decide_eq_true htrue))] at hrow
      rw [hrow] at hspot ⊢
      exact ⟨t, ht, hspot, rfl, rfl⟩
  · intro spot' hspot' hstatus
    exact .inl ⟨spot', hget.symm.trans hspot', hstatus⟩

/-- The finaliser ends the Spot only when its rows say that everything is returned. -/
lemma Onward.finalize (h : Onward cfg spotId fee db db') (hfits : (db'.transOfSpot spotId).length ≤ maxLimit)
    (ofRow : Option ℕ) : Onward cfg spotId fee db (finalizeCancelledSpotIfReady db' ofRow) := by
  unfold finalizeCancelledSpotIfReady
  cases ofRow with
  | none => exact h
  | some other =>
    dsimp only
    cases hother : db'.getSpot other with
    | none => exact h
    | some found =>
      dsimp only
      split_ifs with hfinal hprizedraw hready
      · exact h
      · exact h
      · have hget : ∀ id, (db'.modifySpotStatus other .cancelled).getSpot id =
            (db'.getSpot id).map fun s => if s.id = other then { s with status := .cancelled } else s := by
          intro id
          unfold Db.getSpot Db.modifySpotStatus
          have hkey : ∀ s : Spot P, ({ s with status := .cancelled } : Spot P).id = s.id := fun _ => rfl
          dsimp only
          rw [find?_updateWhere_key hkey]
          simp only [decide_eq_true_eq]
        have hended : Onward cfg spotId fee db' (db'.modifySpotStatus other .cancelled) := by
          have htrans : (db'.modifySpotStatus other .cancelled).trans = db'.trans := rfl
          refine Onward.spots h.ledger htrans rfl ?_ ?_
          · intro spot hspot hmark
            refine ⟨_, (hget spotId).trans (congrArg _ hspot), ?_⟩
            dsimp only
            split_ifs <;> exact hmark
          · intro spot' hspot' hstatus
            rw [hget, Option.map_eq_some_iff] at hspot'
            obtain ⟨spot, hspot, hnext⟩ := hspot'
            by_cases hthis : spot.id = other
            · right
              have hid : other = spotId := hthis.symm.trans (getSpot_id hspot)
              have hreturned := (@seesWholeLedger_of_fits _ cfg _ _ hfits).finalises (hid ▸ hready)
              rw [unspent_cancelled] at hreturned
              exact Nat.sub_eq_zero_iff_le.mp hreturned
            · left
              rw [if_neg hthis] at hnext
              exact ⟨spot, hspot, hnext ▸ hstatus⟩
        refine ⟨hended.ledger, fun hb => hended.begun (h.begun hb), fun hb => h.more hb,
          fun r hr => hended.reads r (h.reads r hr), ?_, ?_⟩
        · intro t' ht' hspot hleg
          apply (h.legs t' ht' hspot hleg).imp_right
          exact fun hwithin => ⟨hended.begun hwithin.begun, hwithin.platFee, hwithin.cancelSpot⟩
        · intro spot' hspot' hstatus
          cases hended.closes spot' hspot' hstatus with
          | inl hbefore =>
            obtain ⟨spot, hspot, hcancelled⟩ := hbefore
            exact h.closes spot hspot hcancelled
          | inr hreturned => exact .inr hreturned
      · exact h

lemma Onward.orRollback {R : Type} {outcome : Outcome P R} (hledger : LedgerSound db)
    (h : Onward cfg spotId fee db outcome.1) : Onward cfg spotId fee db (outcome.orRollback db).1 := by
  obtain ⟨made, e | r⟩ := outcome
  · exact .quiet hledger rfl rfl rfl
  · exact h

/-- Settling a row leaves the number of rows of a Spot alone. -/
lemma SettledTo.length_transOfSpot {status : TransStatus} {transfer : Option ChainTransfer} {transId : ℕ}
    (h : SettledTo status transfer transId db db') :
    (db'.transOfSpot spotId).length = (db.transOfSpot spotId).length := by
  obtain ⟨-, f, hf, hsettles⟩ := h
  unfold Db.transOfSpot
  rw [← List.countP_eq_length_filter, ← List.countP_eq_length_filter, hf]
  apply countP_updateWhere_congr
  intro t ht
  by_cases hid : t.id = transId
  · rw [if_pos (decide_eq_true hid), (hsettles t ht hid).spotId]
  · rw [if_neg fun htrue => hid (of_decide_eq_true htrue)]

lemma markTransAsFailed_onward (hledger : LedgerSound db) (hfits : (db.transOfSpot spotId).length ≤ maxLimit)
    (row : Trans) : Onward cfg spotId fee db (markTransAsFailed db row).1 := by
  have hsettled : SettledTo .failed none row.id db (db.modifyTransactionStatus row.id .failed).1 :=
    modifyTransactionStatus_settled hledger.keys
  have hspots : (db.modifyTransactionStatus row.id .failed).1.spots = db.spots := by
    rw [(modifyTransactionStatus_ledgerOnly row.id .failed).same]
  have honward : Onward cfg spotId fee db (db.modifyTransactionStatus row.id .failed).1 :=
    .settled hledger hspots hsettled fun _ _ _ _ hshown => nomatch hshown
  have hlength : ((db.modifyTransactionStatus row.id .failed).1.transOfSpot spotId).length =
      (db.transOfSpot spotId).length := hsettled.length_transOfSpot
  unfold markTransAsFailed
  apply Onward.orRollback hledger
  generalize db.modifyTransactionStatus row.id .failed = outcome at honward hlength
  obtain ⟨mid, e | _⟩ := outcome
  · exact honward
  · exact honward.finalize (hlength ▸ hfits) row.spotId

lemma markTransAsConfirmed_onward (hledger : LedgerSound db) (hfits : (db.transOfSpot spotId).length ≤ maxLimit)
    (hread : StillRead cfg db row) {transfer : ChainTransfer} (hverified : verifiedTransfer cfg row = some transfer)
    (payout : Bool) : Onward cfg spotId fee db (markTransAsConfirmed db row transfer payout).1 := by
  obtain ⟨read, hmem, hreadId, hhash, hagrees⟩ := hread
  have hchain : ∀ t ∈ db.trans, t.id = row.id → ∀ shown ∈ some transfer,
      cfg.chainTransfer t.txHash = some shown ∧ t.Agrees shown := by
    intro t ht hid shown hin
    have heq : t = read := eq_of_key_eq hledger.keys ht hmem (hid.trans hreadId.symm)
    rw [heq, ← Option.some.inj hin, hhash]
    exact ⟨(verifiedTransfer_chain hverified).1, hagrees transfer hverified⟩
  have hmarked : ∀ status, Onward cfg spotId fee db
        ((db.updateTransactionChainDetails row.id transfer).modifyTransactionStatus row.id status).1 ∧
      (((db.updateTransactionChainDetails row.id transfer).modifyTransactionStatus row.id status).1.transOfSpot
        spotId).length = (db.transOfSpot spotId).length := by
    intro status
    have hdetailed : SettledTo status (some transfer) row.id db (db.updateTransactionChainDetails row.id transfer) :=
      updateTransactionChainDetails_settled transfer
    have hkeys : ((db.updateTransactionChainDetails row.id transfer).trans.map Trans.id).Nodup :=
      hdetailed.keys ▸ hledger.keys
    have hsettled := hdetailed.then (modifyTransactionStatus_settled hkeys)
    have hframe : LedgerOnly db
        ((db.updateTransactionChainDetails row.id transfer).modifyTransactionStatus row.id status).1 :=
      (updateTransactionChainDetails_ledgerOnly row.id transfer).then (modifyTransactionStatus_ledgerOnly row.id status)
    have hspots : ((db.updateTransactionChainDetails row.id transfer).modifyTransactionStatus row.id status).1.spots =
        db.spots := by rw [hframe.same]
    exact ⟨.settled hledger hspots hsettled hchain, hsettled.length_transOfSpot⟩
  unfold markTransAsConfirmed
  change Onward cfg spotId fee db (Outcome.orRollback db (if fundingMismatch db row transfer then _ else _)).1
  apply Onward.orRollback hledger
  by_cases hmismatch : fundingMismatch db row transfer
  · rw [if_pos hmismatch]
    exact (hmarked .failed).1
  · rw [if_neg hmismatch]
    obtain ⟨honward, hlength⟩ := hmarked .confirmed
    generalize (db.updateTransactionChainDetails row.id transfer).modifyTransactionStatus row.id .confirmed =
      outcome at honward hlength
    obtain ⟨mid, e | _⟩ := outcome
    · exact honward
    · dsimp only
      split
      · next claimId _ =>
        have hpaid : Onward cfg spotId fee db (mid.setClaimStatusToSuccess claimId) := honward.congr rfl rfl rfl
        exact hpaid.finalize (hlength.le.trans hfits) row.spotId
      · exact honward.finalize (hlength.le.trans hfits) row.spotId

end Settling

section Submitter

variable {cfg : Settings P} {db db' : Db P} {spotId fee : ℕ} {spot : Spot P}

/-- The marker stands once it is written. -/
lemma getSpot_markSpotCancellationStarted (hspot : db.getSpot spotId = some spot)
    (hopen : spot.status = .draft ∨ spot.status = .published) :
    ∃ spot', (markSpotCancellationStarted db spotId).getSpot spotId = some spot' ∧ spot'.status = spot.status ∧
      spot'.cancellationStartedAt.isSome = true := by
  have hid := getSpot_id hspot
  unfold Db.getSpot at hspot ⊢
  unfold markSpotCancellationStarted
  have hkey : ∀ s : Spot P, ({ s with cancellationStartedAt := some db.now } : Spot P).id = s.id := fun _ => rfl
  dsimp only
  rw [find?_updateWhere_key hkey, hspot]
  by_cases hnone : spot.cancellationStartedAt = none
  · refine ⟨_, rfl, ?_, ?_⟩
    · simp [hid, hopen, hnone]
    · simp [hid, hopen, hnone]
  · refine ⟨_, rfl, ?_, ?_⟩
    · simp [hnone]
    · simpa [hnone] using Option.isSome_iff_ne_none.mpr hnone

/-- What the ledger part of the submitter makes of the tables. -/
inductive CancelsFrom (db : Db P) (spot : Spot P) (fee : ℕ) (rows : List Trans) : Outcome P CancellationResult → Prop
  | refused (e : Raised) : CancelsFrom db spot fee rows (db, .error e)
  | deferred (reason : String) : CancelsFrom db spot fee rows (db, .ok (.deferred reason))
  | cancelled (hreturned : remainingCancellableTotal rows ≤ confirmedCancellationTotal rows) :
      CancelsFrom db spot fee rows (db.modifySpotStatus spot.id .cancelled, .ok .cancelled)
  | fixed {job : CancellationJob} (hid : job.spotId = spot.id) (hclear : rows.any Trans.blocksCancellation = false)
      (hfee : job.feeAmount = (cancellationAmounts fee rows).feeAmount)
      (hrefund : job.refundAmount = (cancellationAmounts fee rows).refundAmount)
      (hsome : job.feeAmount + job.refundAmount ≠ 0) : CancelsFrom db spot fee rows (db, .ok (.fixed job))

lemma cancelFromLedger_cases (cfg : Settings P) (db : Db P) (spot : Spot P) (fee : ℕ) (rows : List Trans) :
    CancelsFrom db spot fee rows (cancelFromLedger cfg db spot fee rows) := by
  have hamounts := @cancelFromLedger_amounts _ cfg db spot fee rows
  unfold cancelFromLedger at hamounts ⊢
  by_cases hunfunded : spot.status = .draft ∧ (!rows.any fun t => t.type = .fillSpot) = true
  · rw [if_pos hunfunded]
    exact .refused _
  rw [if_neg hunfunded] at hamounts ⊢
  by_cases hdeposit : spot.status = .draft ∧ (rows.any fun t => t.type = .fillSpot ∧ t.status = .pending) = true
  · rw [if_pos hdeposit]
    exact .deferred _
  rw [if_neg hdeposit] at hamounts ⊢
  by_cases hpending : rows.any Trans.blocksCancellation = true
  · rw [if_pos hpending]
    exact .deferred _
  rw [if_neg hpending] at hamounts ⊢
  by_cases hempty : spot.status = .draft ∧ total .fillSpot .confirmed rows = 0
  · rw [if_pos hempty] at hamounts ⊢
    exact .cancelled (hamounts.2 rfl)
  rw [if_neg hempty] at hamounts ⊢
  dsimp only at hamounts ⊢
  split_ifs at hamounts ⊢ with hsource hnothing
  · exact .refused _
  · exact .cancelled (hamounts.2 rfl)
  · exact .fixed rfl (Bool.not_eq_true _ ▸ hpending) rfl rfl hnothing

/-- A job of an attempt, with the shares it was divided into. -/
structure Divided (db : Db P) (spotId fee : ℕ) (job : CancellationJob) : Prop where
  ofSpot : job.spotId = spotId
  begun : Begun db spotId
  feeAmount : job.feeAmount = min fee (cancellable db spotId) - total .platFee .confirmed (db.transOfSpot spotId)
  refundAmount : job.refundAmount = cancellable db spotId - min fee (cancellable db spotId) -
    total .cancelSpot .confirmed (db.transOfSpot spotId)
  nonzero : job.feeAmount + job.refundAmount ≠ 0

/-- The submitter writes the marker, and CANCELLED where everything is returned. -/
lemma submitSpotCancellationTransactions_onward (hledger : LedgerSound db)
    (hfits : (db.transOfSpot spotId).length ≤ maxLimit) :
    Onward cfg spotId fee db (submitSpotCancellationTransactions cfg db spotId fee).1 ∧
      ∀ job, (submitSpotCancellationTransactions cfg db spotId fee).2 = .ok (.fixed job) →
        Divided (submitSpotCancellationTransactions cfg db spotId fee).1 spotId fee job := by
  have hsame : Onward cfg spotId fee db db := .quiet hledger rfl rfl rfl
  unfold submitSpotCancellationTransactions
  cases hspot : db.getSpot spotId with
  | none => exact ⟨hsame, fun _ h => nomatch h⟩
  | some spot =>
    have hid := getSpot_id hspot
    dsimp only
    split_ifs with hfinal hprizedraw hcomplete hunpaid
    · exact ⟨hsame, fun _ h => nomatch h⟩
    · exact ⟨hsame, fun _ h => nomatch h⟩
    · exact ⟨hsame, fun _ h => nomatch h⟩
    all_goals
      have hopen : spot.status = .draft ∨ spot.status = .published := by
        by_contra hother
        push Not at hother
        exact hfinal hother
      obtain ⟨marked, hmarked, hstatus, hstarted⟩ := getSpot_markSpotCancellationStarted hspot hopen
      have honward : Onward cfg spotId fee db (markSpotCancellationStarted db spotId) := by
        have htrans : (markSpotCancellationStarted db spotId).trans = db.trans := rfl
        refine Onward.spots hledger htrans rfl (fun _ _ _ => ⟨marked, hmarked, hstarted⟩) ?_
        intro spot' hspot' hcancelled
        rw [hmarked] at hspot'
        rw [← Option.some.inj hspot', hstatus] at hcancelled
        exact .inl ⟨spot, hspot, hcancelled⟩
    · exact ⟨honward, fun _ h => nomatch h⟩
    · have hperm : ((markSpotCancellationStarted db spotId).getTransactionsBySpot spotId maxLimit).Perm
          (db.transOfSpot spotId) := page_perm hfits
      have hrows : remainingCancellableTotal
          ((markSpotCancellationStarted db spotId).getTransactionsBySpot spotId maxLimit) = cancellable db spotId := by
        unfold cancellable remainingCancellableTotal
        rw [total_perm hperm, total_perm hperm, total_perm hperm]
      have hcases := cancelFromLedger_cases cfg (markSpotCancellationStarted db spotId) spot fee
        ((markSpotCancellationStarted db spotId).getTransactionsBySpot spotId maxLimit)
      generalize cancelFromLedger cfg (markSpotCancellationStarted db spotId) spot fee
        ((markSpotCancellationStarted db spotId).getTransactionsBySpot spotId maxLimit) = outcome at hcases
      cases hcases with
      | refused e => exact ⟨hsame, fun _ h => nomatch h⟩
      | deferred reason => exact ⟨honward, fun _ h => nomatch h⟩
      | cancelled hreturned =>
        refine ⟨?_, fun _ h => nomatch h⟩
        have hall : ReturnedInFull db spotId := by
          unfold ReturnedInFull
          rw [hrows] at hreturned
          unfold confirmedCancellationTotal at hreturned ⊢
          rw [total_perm hperm, total_perm hperm] at hreturned
          exact hreturned
        have htrans : ((markSpotCancellationStarted db spotId).modifySpotStatus spot.id .cancelled).trans = db.trans := rfl
        refine Onward.spots hledger htrans rfl ?_ fun _ _ _ => .inr hall
        intro _ _ _
        have hkey : ∀ s : Spot P, ({ s with status := .cancelled } : Spot P).id = s.id := fun _ => rfl
        refine ⟨_, (find?_updateWhere_key hkey spotId).trans (congrArg _ hmarked), ?_⟩
        dsimp only
        split_ifs <;> exact hstarted
      | @fixed job hjob hclear hfee hrefund hsome =>
        refine ⟨honward, ?_⟩
        intro found hfound
        have heq : job = found := by
          injection hfound with hresult
          injection hresult
        rw [← heq]
        have hbegun : Begun (markSpotCancellationStarted db spotId) spotId := by
          refine ⟨⟨marked, hmarked, hstarted⟩, ?_⟩
          intro t ht htspot hpending
          have hpage : t ∈ (markSpotCancellationStarted db spotId).getTransactionsBySpot spotId maxLimit :=
            hperm.mem_iff.mpr (List.mem_filter.mpr ⟨ht, decide_eq_true htspot⟩)
          have hfree : t.blocksCancellation = false := by
            have hnone := List.any_eq_false.mp hclear t hpage
            simpa using hnone
          have hout := of_decide_eq_false hfree
          exact ⟨fun hclaim => hout ⟨hpending, .inl hclaim⟩,
            fun hcreation => hout ⟨hpending, .inr (.inr (.inr hcreation))⟩⟩
        unfold cancellationAmounts at hfee hrefund
        dsimp only at hfee hrefund
        rw [hrows, total_perm hperm] at hfee hrefund
        exact ⟨hjob.trans hid, hbegun, hfee, hrefund, hsome⟩

/-- Nothing confirmed lies outside its share. -/
lemma legs_within_shares (hledger : LedgerSound db)
    (hlegs : ∀ t ∈ db.trans, t.spotId = some spotId → t.isCancellationLeg = true → WithinShare db spotId fee t) :
    total .platFee .confirmed (db.transOfSpot spotId) ≤ min fee (cancellable db spotId) ∧
      total .cancelSpot .confirmed (db.transOfSpot spotId) ≤
        cancellable db spotId - min fee (cancellable db spotId) := by
  constructor
  · apply total_le_of_once hledger rfl
    intro t ht hspot htype
    exact (hlegs t ht hspot (decide_eq_true (.inr htype))).platFee htype
  · apply total_le_of_once hledger rfl
    intro t ht hspot htype
    exact (hlegs t ht hspot (decide_eq_true (.inl htype))).cancelSpot htype

lemma Divided.conserves {job : CancellationJob} (h : Divided db spotId fee job) (hledger : LedgerSound db)
    (hlegs : ∀ t ∈ db.trans, t.spotId = some spotId → t.isCancellationLeg = true → WithinShare db spotId fee t) :
    job.feeAmount + job.refundAmount + total .platFee .confirmed (db.transOfSpot spotId) +
        total .cancelSpot .confirmed (db.transOfSpot spotId) + total .claim .confirmed (db.transOfSpot spotId) +
        total .creationFee .confirmed (db.transOfSpot spotId) =
      total .fillSpot .confirmed (db.transOfSpot spotId) := by
  obtain ⟨hfees, hrefunds⟩ := legs_within_shares hledger hlegs
  have hfee := h.feeAmount
  have hrefund := h.refundAmount
  have hnonzero := h.nonzero
  have hleft : cancellable db spotId = total .fillSpot .confirmed (db.transOfSpot spotId) -
      total .claim .confirmed (db.transOfSpot spotId) - total .creationFee .confirmed (db.transOfSpot spotId) := rfl
  omega

end Submitter

section Sends

variable {cfg : Settings P} {db : Db P} {spotId fee : ℕ}

/-- A leg within its share is sent. -/
lemma Onward.leg {type : TransType} {amount : ℕ} {txHash : String} {outcome : Outcome P ℕ}
    (hinserts : Inserts (fun row => row.IsLegOf type spotId txHash ∧ row.amount = amount) db outcome)
    (hledger : LedgerSound db) (hbegun : Begun db spotId) (hother : type ≠ .claim ∧ type ≠ .creationFee)
    (hfee : type = .platFee → amount ≤ min fee (cancellable db spotId))
    (hrefund : type = .cancelSpot → amount ≤ cancellable db spotId - min fee (cancellable db spotId)) :
    Onward cfg spotId fee db outcome.1 := by
  cases hinserts with
  | refused e => exact .quiet hledger rfl rfl rfl
  | made hmade hrow =>
    obtain ⟨⟨htype, hspot, -, -⟩, hpaid⟩ := hrow
    refine Onward.insert hledger ⟨?_, fun _ => by rw [hspot]; rfl⟩ hmade ?_ ?_
    · rw [htype]
      exact fun hclaim => absurd hclaim hother.1
    · intro _ _
      rw [htype]
      exact hother
    · intro _ _
      rw [htype, hpaid]
      exact ⟨hbegun, hfee, hrefund⟩

lemma submitPlatformFeeTransaction_onward {amount : ℕ} (hledger : LedgerSound db) (hbegun : Begun db spotId)
    (hamount : amount ≤ min fee (cancellable db spotId)) (feeAddress : Address) (txHash : String) :
    Onward cfg spotId fee db (submitPlatformFeeTransaction cfg db spotId amount feeAddress txHash).1 :=
  .leg (submitPlatformFeeTransaction_amount spotId amount feeAddress txHash) hledger hbegun ⟨nofun, nofun⟩
    (fun _ => hamount) nofun

lemma submitSpotRefundTransaction_onward {amount : ℕ} (hledger : LedgerSound db) (hbegun : Begun db spotId)
    (hamount : amount ≤ cancellable db spotId - min fee (cancellable db spotId)) (refundAddress : Address)
    (txHash : String) :
    Onward cfg spotId fee db (submitSpotRefundTransaction cfg db spotId amount refundAddress txHash).1 :=
  .leg (submitSpotRefundTransaction_amount spotId amount refundAddress txHash) hledger hbegun ⟨nofun, nofun⟩ nofun
    fun _ => hamount

/-- The creation fee of a Spot whose cancellation has begun is refused. -/
lemma createSpotCreationFeeTransaction_marked {spot : Spot P} (hspot : db.getSpot spotId = some spot)
    (hmarked : spot.cancellationStartedAt.isSome = true) (amount : ℕ) (fromAddress toAddress : Address)
    (txHash : String) :
    ∃ e, createSpotCreationFeeTransaction cfg db spotId amount fromAddress toAddress txHash = (db, .error e) := by
  unfold createSpotCreationFeeTransaction
  rw [hspot]
  dsimp only
  split_ifs with hstatus
  · exact ⟨_, rfl⟩
  · exact ⟨_, rfl⟩

lemma submitSpotCreationFeeTransaction_onward (hledger : LedgerSound db) (id amount : ℕ) (txHash : String) :
    Onward cfg spotId fee db (submitSpotCreationFeeTransaction cfg db id amount txHash).1 := by
  have hinserts : Inserts (fun row => row.IsLegOf .creationFee id txHash ∧ (id = spotId → ¬ Begun db spotId)) db
      (submitSpotCreationFeeTransaction cfg db id amount txHash) := by
    by_cases hbegun : id = spotId ∧ Begun db spotId
    · obtain ⟨spot, hspot, hmarked⟩ := hbegun.2.marked
      rw [hbegun.1]
      unfold submitSpotCreationFeeTransaction
      rw [hspot]
      apply recordChainSend_inserts
      intro fromAddress toAddress
      obtain ⟨e, hrefused⟩ := @createSpotCreationFeeTransaction_marked _ cfg db _ _ hspot hmarked amount fromAddress
        toAddress txHash
      rw [hrefused]
      exact .refused e
    · apply (submitSpotCreationFeeTransaction_inserts id amount txHash).mono
      exact fun row hrow => ⟨hrow, fun hid hb => hbegun ⟨hid, hb⟩⟩
  generalize submitSpotCreationFeeTransaction cfg db id amount txHash = outcome at hinserts
  cases hinserts with
  | refused e => exact .quiet hledger rfl rfl rfl
  | made hmade hrow =>
    obtain ⟨⟨htype, hspot, -, -⟩, hbefore⟩ := hrow
    refine Onward.insert hledger ⟨?_, fun _ => by rw [hspot]; rfl⟩ hmade ?_ ?_
    · rw [htype]
      nofun
    · intro hof hbegun
      exact absurd hbegun (hbefore (Option.some.inj (hspot.symm.trans hof)))
    · intro _ hkind
      rw [htype] at hkind
      cases hkind with
      | inl h => cases h
      | inr h => cases h

end Sends

section Runs

/-- What is in flight while a Spot is cancelled. -/
def Continuation.Cancels (cfg : Settings P) (db : Db P) (spotId fee : ℕ) : Continuation → Prop
  | .cancellation lease => lease.spotId = spotId ∧ lease.policy.feeAmount = fee
  | .cancellationFee _ job | .cancellationRefund _ job _ =>
    job.spotId = spotId ∧ Begun db spotId ∧ job.feeAmount ≤ min fee (cancellable db spotId) ∧
      job.refundAmount ≤ cancellable db spotId - min fee (cancellable db spotId)
  | .creationFee _ _ => True
  | .confirmation row _ => StillRead cfg db row
  | _ => False

/-- The operations on a Spot whose cancellation is tried with one fee: attempts, what becomes of their sends, the
creation fee, and no new payout or deposit.  A page holds its rows. -/
def Cancelling (spotId fee : ℕ) (s : Sys P) (op : Op P) : Prop :=
  (s.db.transOfSpot spotId).length ≤ maxLimit ∧
  match op with
  | .cancelSpot id cancellationFee _ _ _ => id = spotId ∧ cancellationFee = fee
  | .tick _ | .payCreationFee _ | .confirmTrans _ | .failTrans _ | .resume _ _ | .crash _ => True
  | _ => False

structure Sys.CancelsSoundly (cfg : Settings P) (spotId fee : ℕ) (s : Sys P) : Prop where
  ledger : LedgerSound s.db
  policy : ∀ policy, s.db.cancellationPolicy spotId = some policy → policy.feeAmount = fee
  carried : ∀ k ∈ s.inFlight, k.Cancels cfg s.db spotId fee
  legs : ∀ t ∈ s.db.trans, t.spotId = some spotId → t.isCancellationLeg = true → WithinShare s.db spotId fee t

variable {cfg : Settings P} {s : Sys P} {db : Db P} {spotId fee : ℕ}

/-- Shares only grow. -/
lemma share_mono {a b : ℕ} (h : a ≤ b) (fee : ℕ) : min fee a ≤ min fee b ∧ a - min fee a ≤ b - min fee b := by
  omega

lemma WithinShare.onward {t t' : Trans} (h : WithinShare s.db spotId fee t) (honward : Onward cfg spotId fee s.db db)
    (htype : t'.type = t.type) (hamount : t'.amount = t.amount) : WithinShare db spotId fee t' := by
  obtain ⟨hfee, hrefund⟩ := share_mono (honward.more h.begun) fee
  refine ⟨honward.begun h.begun, ?_, ?_⟩
  · rw [htype, hamount]
    exact fun hkind => (h.platFee hkind).trans hfee
  · rw [htype, hamount]
    exact fun hkind => (h.cancelSpot hkind).trans hrefund

lemma Continuation.Cancels.onward {k : Continuation} (h : k.Cancels cfg s.db spotId fee)
    (honward : Onward cfg spotId fee s.db db) : k.Cancels cfg db spotId fee := by
  have hjob : ∀ job : CancellationJob, (job.spotId = spotId ∧ Begun s.db spotId ∧
      job.feeAmount ≤ min fee (cancellable s.db spotId) ∧
      job.refundAmount ≤ cancellable s.db spotId - min fee (cancellable s.db spotId)) →
      job.spotId = spotId ∧ Begun db spotId ∧ job.feeAmount ≤ min fee (cancellable db spotId) ∧
        job.refundAmount ≤ cancellable db spotId - min fee (cancellable db spotId) := by
    rintro job ⟨hid, hbegun, hfee, hrefund⟩
    obtain ⟨hmoreFee, hmoreRefund⟩ := share_mono (honward.more hbegun) fee
    exact ⟨hid, honward.begun hbegun, hfee.trans hmoreFee, hrefund.trans hmoreRefund⟩
  cases k with
  | cancellation lease => exact h
  | cancellationFee lease job => exact hjob job h
  | cancellationRefund lease job refundAddress => exact hjob job h
  | creationFee id amount => exact h
  | confirmation row payout => exact honward.reads row h
  | _ => exact h.elim

/-- What one transaction of a worker leaves, and what it carries on from there. -/
structure Sys.Carries (cfg : Settings P) (spotId fee : ℕ) (s : Sys P) (made : Db P) (next : List Continuation) :
    Prop where
  onward : Onward cfg spotId fee s.db made
  policy : ∀ policy, made.cancellationPolicy spotId = some policy → policy.feeAmount = fee
  next : ∀ k ∈ next, k.Cancels cfg made spotId fee

/-- A write besides the ledger and the Spots, which leaves the policy alone, after one that does too. -/
lemma Sys.CancelsSoundly.carries {made guarded : Db P} {next : List Continuation} (h : s.CancelsSoundly cfg spotId fee)
    (honward : Onward cfg spotId fee s.db made) (hmade : made.cancellationPolicy = s.db.cancellationPolicy)
    (hguarded : guarded.trans = made.trans ∧ guarded.transSeq = made.transSeq ∧ guarded.spots = made.spots ∧
      guarded.cancellationPolicy = made.cancellationPolicy)
    (hnext : ∀ k ∈ next, k.Cancels cfg guarded spotId fee) : s.Carries cfg spotId fee guarded next := by
  obtain ⟨htrans, hseq, hspots, hpolicy⟩ := hguarded
  refine ⟨honward.congr htrans hseq hspots, ?_, hnext⟩
  rw [hpolicy, hmade]
  exact h.policy

lemma Sys.CancelsSoundly.move {s' : Sys P} (h : s.CancelsSoundly cfg spotId fee) {next : List Continuation}
    (hcarries : s.Carries cfg spotId fee s'.db next) (hsub : ∀ k ∈ s'.inFlight, k ∈ s.inFlight ∨ k ∈ next) :
    s'.CancelsSoundly cfg spotId fee := by
  refine ⟨hcarries.onward.ledger, hcarries.policy, ?_, ?_⟩
  · intro k hk
    cases hsub k hk with
    | inl hold => exact (h.carried k hold).onward hcarries.onward
    | inr hnew => exact hcarries.next k hnew
  · intro t' ht' hspot hleg
    cases hcarries.onward.legs t' ht' hspot hleg with
    | inr hwithin => exact hwithin
    | inl hold =>
      obtain ⟨t, ht, htspot, htype, hamount⟩ := hold
      have hkind : t.isCancellationLeg = true := by
        unfold Trans.isCancellationLeg at hleg ⊢
        rw [htype]
        exact hleg
      exact (h.legs t ht htspot hkind).onward hcarries.onward htype.symm hamount.symm

/-- The lease is for the Spot, and its fee is the one every attempt asks for. -/
lemma acquireCancellationLease_lease {feeAddress : Address} {transactions : List Trans}
    {failureProven : Bool}
    (hpolicy : ∀ policy, db.cancellationPolicy spotId = some policy → policy.feeAmount = fee) :
    ((acquireCancellationLease cfg db spotId fee feeAddress transactions failureProven).1.trans = db.trans ∧
      (acquireCancellationLease cfg db spotId fee feeAddress transactions failureProven).1.transSeq = db.transSeq ∧
      (acquireCancellationLease cfg db spotId fee feeAddress transactions failureProven).1.spots = db.spots) ∧
    (∀ policy,
      (acquireCancellationLease cfg db spotId fee feeAddress transactions failureProven).1.cancellationPolicy spotId =
        some policy → policy.feeAmount = fee) ∧
    ∀ lease, (acquireCancellationLease cfg db spotId fee feeAddress transactions failureProven).2 = .ok lease →
      lease.spotId = spotId ∧ lease.policy.feeAmount = fee := by
  unfold acquireCancellationLease
  dsimp only
  split
  · exact ⟨⟨rfl, rfl, rfl⟩, hpolicy, fun _ h => nomatch h⟩
  · -- the released guard leaves the policy as it was
    have hsame : (if (db.cancellationGuard spotId).isSome then db.releaseGuard spotId else db).cancellationPolicy =
        db.cancellationPolicy := by
      split_ifs <;> rfl
    have hrows : (if (db.cancellationGuard spotId).isSome then db.releaseGuard spotId else db).trans = db.trans ∧
        (if (db.cancellationGuard spotId).isSome then db.releaseGuard spotId else db).transSeq = db.transSeq ∧
        (if (db.cancellationGuard spotId).isSome then db.releaseGuard spotId else db).spots = db.spots := by
      split_ifs <;> exact ⟨rfl, rfl, rfl⟩
    by_cases hlegs : failedCancellationLegs transactions ≠ [] ∧
        ((singleRetryableFailedRefund transactions).isSome && failureProven) = false
    · rw [if_pos hlegs]
      refine ⟨⟨hrows.1, hrows.2.1, hrows.2.2⟩, ?_, fun _ h => nomatch h⟩
      intro policy hfound
      exact hpolicy policy (hsame ▸ hfound)
    · rw [if_neg hlegs, hsame]
      cases hfound : db.cancellationPolicy spotId with
      | some policy =>
        refine ⟨⟨hrows.1, hrows.2.1, hrows.2.2⟩, ?_, ?_⟩
        · intro other hother
          exact hpolicy other (hsame ▸ hother)
        · intro lease hlease
          rw [← Except.ok.inj hlease]
          exact ⟨rfl, hpolicy policy hfound⟩
      | none =>
        dsimp only
        have hrefused : ∀ policy, (if (db.cancellationGuard spotId).isSome then db.releaseGuard spotId
            else db).cancellationPolicy spotId = some policy → policy.feeAmount = fee := by
          intro policy hother
          exact hpolicy policy (hsame ▸ hother)
        split
        · exact ⟨⟨hrows.1, hrows.2.1, hrows.2.2⟩, hrefused, fun _ h => nomatch h⟩
        · exact ⟨⟨hrows.1, hrows.2.1, hrows.2.2⟩, hrefused, fun _ h => nomatch h⟩
        · next clean _ _ _ =>
          refine ⟨⟨hrows.1, hrows.2.1, hrows.2.2⟩, ?_, ?_⟩
          · intro policy hother
            have hnew : Function.update (if (db.cancellationGuard spotId).isSome then db.releaseGuard spotId
                else db).cancellationPolicy spotId (some ⟨fee, clean⟩) spotId = some policy := hother
            rw [Function.update_self] at hnew
            rw [← Option.some.inj hnew]
          · intro lease hlease
            rw [← Except.ok.inj hlease]
            exact ⟨rfl, rfl⟩

/-- What becomes of the lease after a refused leg touches only the guard. -/
lemma afterRefusedLeg_guard (db : Db P) (id : ℕ) (e : Raised) :
    (afterRefusedLeg db id e).trans = db.trans ∧ (afterRefusedLeg db id e).transSeq = db.transSeq ∧
      (afterRefusedLeg db id e).spots = db.spots ∧
      (afterRefusedLeg db id e).cancellationPolicy = db.cancellationPolicy := by
  unfold afterRefusedLeg
  split
  · split_ifs <;> exact ⟨rfl, rfl, rfl, rfl⟩
  · exact ⟨rfl, rfl, rfl, rfl⟩

lemma Sys.CancelsSoundly.submit (h : s.CancelsSoundly cfg spotId fee)
    (hfits : (s.db.transOfSpot spotId).length ≤ maxLimit) {lease : CancellationLease}
    (hlease : lease.spotId = spotId ∧ lease.policy.feeAmount = fee) (reply : Reply) :
    s.Carries cfg spotId fee (resume cfg s.db reply (.cancellation lease)).1
        (resume cfg s.db reply (.cancellation lease)).2 ∧
      ∀ other job, .cancellationFee other job ∈ (resume cfg s.db reply (.cancellation lease)).2 →
        Divided (resume cfg s.db reply (.cancellation lease)).1 spotId fee job := by
  obtain ⟨honward, hjob⟩ := @submitSpotCancellationTransactions_onward _ cfg _ _ fee h.ledger hfits
  obtain ⟨⟨spots, hspots⟩, -⟩ := submitSpotCancellationTransactions_writes cfg s.db spotId fee
  have hpolicy : (submitSpotCancellationTransactions cfg s.db spotId fee).1.cancellationPolicy =
      s.db.cancellationPolicy := by rw [hspots]
  unfold NimHunt.resume submitUnderLease
  dsimp only
  rw [hlease.1, hlease.2]
  generalize submitSpotCancellationTransactions cfg s.db spotId fee = outcome at honward hjob hpolicy
  obtain ⟨made, e | result⟩ := outcome
  · dsimp only
    split_ifs with hvalue hcreated
    · refine ⟨⟨honward.congr rfl rfl rfl, ?_, nofun⟩, nofun⟩
      intro policy hfound
      have hnone : Function.update made.cancellationPolicy spotId none spotId = some policy := hfound
      rw [Function.update_self] at hnone
      cases hnone
    · exact ⟨h.carries honward hpolicy ⟨rfl, rfl, rfl, rfl⟩ nofun, nofun⟩
    · exact ⟨h.carries honward hpolicy ⟨rfl, rfl, rfl, rfl⟩ nofun, nofun⟩
  · cases result with
    | deferred reason => exact ⟨h.carries honward hpolicy ⟨rfl, rfl, rfl, rfl⟩ nofun, nofun⟩
    | cancelled => exact ⟨h.carries honward hpolicy ⟨rfl, rfl, rfl, rfl⟩ nofun, nofun⟩
    | fixed job =>
      have hdivided : Divided made spotId fee job := hjob job rfl
      refine ⟨h.carries honward hpolicy ⟨rfl, rfl, rfl, rfl⟩ ?_, ?_⟩
      · intro k hk
        rw [List.mem_singleton.mp hk]
        have hfee : job.feeAmount ≤ min fee (cancellable made spotId) := hdivided.feeAmount.trans_le (Nat.sub_le _ _)
        have hrefund : job.refundAmount ≤ cancellable made spotId - min fee (cancellable made spotId) :=
        hdivided.refundAmount.trans_le (Nat.sub_le _ _)
        exact ⟨hdivided.ofSpot, hdivided.begun, hfee, hrefund⟩
      · intro other found hfound
        injection List.mem_singleton.mp hfound with _ heq
        rw [heq]
        exact hdivided

/-- A send inserts a row or nothing, and the policy is not part of it. -/
lemma Inserts.policy {p : NewTrans → Prop} {outcome : Outcome P ℕ} (h : Inserts p db outcome) :
    outcome.1.cancellationPolicy = db.cancellationPolicy := by
  rw [h.ledgerOnly.same]

lemma Sys.CancelsSoundly.sendFee (h : s.CancelsSoundly cfg spotId fee) {lease : CancellationLease}
    {job : CancellationJob} (hjob : (Continuation.cancellationFee lease job).Cancels cfg s.db spotId fee)
    (reply : Reply) : s.Carries cfg spotId fee (sendCancellationFee cfg s.db lease job reply).1
      (sendCancellationFee cfg s.db lease job reply).2 := by
  have hsame : Onward cfg spotId fee s.db s.db := .quiet h.ledger rfl rfl rfl
  obtain ⟨hid, hbegun, hfee, hrefund⟩ := hjob
  have honward := @submitPlatformFeeTransaction_onward _ cfg _ _ _ _ h.ledger hbegun hfee lease.policy.feeAddress
    reply.txHash
  have hpolicy := (@submitPlatformFeeTransaction_inserts _ cfg s.db spotId job.feeAmount lease.policy.feeAddress
    reply.txHash).policy
  unfold sendCancellationFee
  rw [hid]
  by_cases hunknown : 0 < job.refundAmount ∧ reply.refundAddress.isNone = true
  · rw [if_pos hunknown]
    exact h.carries hsame rfl ⟨rfl, rfl, rfl, rfl⟩ nofun
  rw [if_neg hunknown]
  by_cases hnone : job.feeAmount = 0
  · rw [if_pos hnone]
    apply h.carries hsame rfl ⟨rfl, rfl, rfl, rfl⟩
    intro k hk
    rw [List.mem_singleton.mp hk]
    exact ⟨hid, hbegun, hfee, hrefund⟩
  rw [if_neg hnone]
  generalize submitPlatformFeeTransaction cfg s.db spotId job.feeAmount lease.policy.feeAddress reply.txHash = outcome
    at honward hpolicy
  obtain ⟨made, e | _⟩ := outcome
  · exact h.carries honward hpolicy (afterRefusedLeg_guard made spotId e) nofun
  · dsimp only
    split_ifs with hsent
    · apply h.carries honward hpolicy ⟨rfl, rfl, rfl, rfl⟩
      intro k hk
      rw [List.mem_singleton.mp hk]
      obtain ⟨hmoreFee, hmoreRefund⟩ := share_mono (honward.more hbegun) fee
      exact ⟨hid, honward.begun hbegun, hfee.trans hmoreFee, hrefund.trans hmoreRefund⟩
    · exact h.carries honward hpolicy ⟨rfl, rfl, rfl, rfl⟩ nofun

lemma Sys.CancelsSoundly.sendRefund (h : s.CancelsSoundly cfg spotId fee) {lease : CancellationLease}
    {job : CancellationJob} {refundAddress : Address}
    (hjob : (Continuation.cancellationRefund lease job refundAddress).Cancels cfg s.db spotId fee) (reply : Reply) :
    s.Carries cfg spotId fee (sendCancellationRefund cfg s.db job refundAddress reply) [] := by
  have hsame : Onward cfg spotId fee s.db s.db := .quiet h.ledger rfl rfl rfl
  obtain ⟨hid, hbegun, -, hrefund⟩ := hjob
  have honward := @submitSpotRefundTransaction_onward _ cfg _ _ _ _ h.ledger hbegun hrefund refundAddress reply.txHash
  have hpolicy := (@submitSpotRefundTransaction_inserts _ cfg s.db spotId job.refundAmount refundAddress
    reply.txHash).policy
  unfold sendCancellationRefund
  rw [hid]
  by_cases hnone : job.refundAmount = 0
  · rw [if_pos hnone]
    exact h.carries hsame rfl ⟨rfl, rfl, rfl, rfl⟩ nofun
  rw [if_neg hnone]
  generalize submitSpotRefundTransaction cfg s.db spotId job.refundAmount refundAddress reply.txHash = outcome
    at honward hpolicy
  obtain ⟨made, e | _⟩ := outcome
  · exact h.carries honward hpolicy (afterRefusedLeg_guard made spotId e) nofun
  · dsimp only
    split_ifs <;> exact h.carries honward hpolicy ⟨rfl, rfl, rfl, rfl⟩ nofun

/-- One transaction of a worker, whatever it heard from outside. -/
lemma Sys.CancelsSoundly.resumed (h : s.CancelsSoundly cfg spotId fee)
    (hfits : (s.db.transOfSpot spotId).length ≤ maxLimit) {k : Continuation} (hk : k ∈ s.inFlight) (reply : Reply) :
    s.Carries cfg spotId fee (resume cfg s.db reply k).1 (resume cfg s.db reply k).2 := by
  have hcancels := h.carried k hk
  cases k with
  | cancellation lease => exact (h.submit hfits hcancels reply).1
  | cancellationFee lease job => exact h.sendFee hcancels reply
  | cancellationRefund lease job refundAddress => exact h.sendRefund hcancels reply
  | creationFee id amount =>
    have honward := @submitSpotCreationFeeTransaction_onward _ cfg s.db spotId fee h.ledger id amount reply.txHash
    have hpolicy := (@submitSpotCreationFeeTransaction_inserts _ cfg s.db id amount reply.txHash).policy
    exact h.carries honward hpolicy ⟨rfl, rfl, rfl, rfl⟩ nofun
  | confirmation row payout =>
    unfold NimHunt.resume
    dsimp only
    cases hverified : verifiedTransfer cfg row with
    | none => exact h.carries (.quiet h.ledger rfl rfl rfl) rfl ⟨rfl, rfl, rfl, rfl⟩ nofun
    | some transfer =>
      have honward : Onward cfg spotId fee s.db (markTransAsConfirmed s.db row transfer payout).1 :=
        markTransAsConfirmed_onward h.ledger hfits hcancels hverified payout
      exact h.carries honward (markTransAsConfirmed_policy transfer payout) ⟨rfl, rfl, rfl, rfl⟩ nofun
  | _ => exact hcancels.elim

/-- One operation, and the write it makes. -/
lemma Sys.CancelsSoundly.step {op : Op P} (h : s.CancelsSoundly cfg spotId fee) (hop : Cancelling spotId fee s op) :
    Onward cfg spotId fee s.db (step cfg s op).db ∧ (step cfg s op).CancelsSoundly cfg spotId fee := by
  obtain ⟨hfits, hkind⟩ := hop
  have hsame : Onward cfg spotId fee s.db s.db := .quiet h.ledger rfl rfl rfl
  have hstarts : ∀ next : List Continuation, (∀ k ∈ next, k.Cancels cfg s.db spotId fee) →
      Onward cfg spotId fee s.db (s.start s.db next).db ∧ (s.start s.db next).CancelsSoundly cfg spotId fee := by
    intro next hnext
    refine ⟨hsame, h.move ⟨hsame, h.policy, hnext⟩ ?_⟩
    exact fun k hk => List.mem_append.mp hk
  have hwrites : ∀ db : Db P, Onward cfg spotId fee s.db db → db.cancellationPolicy = s.db.cancellationPolicy →
      Onward cfg spotId fee s.db (s.write db).db ∧ (s.write db).CancelsSoundly cfg spotId fee := by
    intro db honward hpolicy
    have hcarries : s.Carries cfg spotId fee db [] := h.carries honward hpolicy ⟨rfl, rfl, rfl, rfl⟩ nofun
    exact ⟨honward, h.move hcarries fun k hk => .inl hk⟩
  unfold NimHunt.step
  cases op with
  | tick seconds => exact hwrites _ (.quiet h.ledger rfl rfl rfl) rfl
  | payCreationFee id =>
    apply hstarts
    intro k hk
    obtain ⟨amount, -, heq⟩ := List.mem_map.mp hk
    rw [← heq]
    trivial
  | cancelSpot id cancellationFee feeAddress transactions failureProven =>
    obtain ⟨hid, hfee⟩ := hkind
    obtain ⟨⟨htrans, hseq, hspots⟩, hpolicy, hlease⟩ := @acquireCancellationLease_lease _ cfg s.db spotId fee feeAddress
      transactions failureProven h.policy
    dsimp only
    rw [hid, hfee]
    generalize acquireCancellationLease cfg s.db spotId fee feeAddress transactions failureProven = outcome
      at htrans hseq hspots hpolicy hlease
    obtain ⟨made, message | lease⟩ := outcome
    · have honward : Onward cfg spotId fee s.db made := .quiet h.ledger htrans hseq hspots
      exact ⟨honward, @Sys.CancelsSoundly.move _ _ _ _ _ _ h [] ⟨honward, hpolicy, nofun⟩ fun k hk => .inl hk⟩
    · have honward : Onward cfg spotId fee s.db made := .quiet h.ledger htrans hseq hspots
      refine ⟨honward, h.move ⟨honward, hpolicy, ?_⟩ fun k hk => List.mem_append.mp hk⟩
      intro k hk
      rw [List.mem_singleton.mp hk]
      exact hlease lease rfl
  | confirmTrans transId =>
    dsimp only
    cases hfound : s.db.getTransaction transId with
    | none => exact ⟨hsame, h⟩
    | some row =>
      dsimp only
      by_cases hpending : row.status ≠ .pending
      · rw [if_pos hpending]
        exact ⟨hsame, h⟩
      · rw [if_neg hpending]
        apply hstarts
        intro k hk
        rw [List.mem_singleton.mp hk]
        have hmem : row ∈ s.db.trans := List.mem_of_find?_eq_some hfound
        refine ⟨row, hmem, rfl, rfl, ?_⟩
        intro transfer hverified
        have hagrees := (verifiedTransfer_chain hverified).2
        exact ⟨hagrees.1, hagrees.2⟩
  | failTrans transId =>
    dsimp only
    cases s.db.getTransaction transId with
    | none => exact ⟨hsame, h⟩
    | some row => exact hwrites _ (markTransAsFailed_onward h.ledger hfits row) markTransAsFailed_policy
  | resume index reply =>
    dsimp only
    cases hk : s.inFlight[index]? with
    | none => exact ⟨hsame, h⟩
    | some k =>
      have hcarries := h.resumed hfits (List.mem_of_getElem? hk) reply
      refine ⟨hcarries.onward, h.move hcarries ?_⟩
      intro task htask
      exact (List.mem_append.mp htask).imp_left fun hleft => List.eraseIdx_subset hleft
  | crash index =>
    refine ⟨hsame, @Sys.CancelsSoundly.move _ _ _ _ _ _ h [] ⟨hsame, h.policy, nofun⟩ ?_⟩
    exact fun k hk => .inl (List.eraseIdx_subset hk)
  | _ => exact hkind.elim

end Runs

section Conservation

/-- The shares of a job and what the ledger has paid out make up the deposits. -/
def CancellationJob.Conserves (job : CancellationJob) (rows : List Trans) : Prop :=
  job.feeAmount + job.refundAmount + total .platFee .confirmed rows + total .cancelSpot .confirmed rows +
    total .claim .confirmed rows + total .creationFee .confirmed rows = total .fillSpot .confirmed rows

/-- What a send adds to the ledger is a row of the leg over the amount. -/
def Sends (type : TransType) (spotId amount : ℕ) (db db' : Db P) : Prop :=
  ∀ t ∈ db'.trans, t ∉ db.trans → t.type = type ∧ t.spotId = some spotId ∧ t.amount = amount

/-- The Spot is CANCELLED. -/
def Db.IsCancelled (db : Db P) (spotId : ℕ) : Prop :=
  ∃ spot, db.getSpot spotId = some spot ∧ spot.status = .cancelled

variable {cfg : Settings P} {s : Sys P} {db db' : Db P} {spotId fee : ℕ}

lemma Inserts.sends {type : TransType} {id amount : ℕ} {txHash : String} {outcome : Outcome P ℕ}
    (h : Inserts (fun row => row.IsLegOf type id txHash ∧ row.amount = amount) db outcome) :
    Sends type id amount db outcome.1 := by
  intro t ht hnew
  cases h with
  | refused e => exact absurd ht hnew
  | made hmade hrow =>
    obtain ⟨-, hdb, -, -⟩ := createTransaction_ok hmade
    obtain ⟨⟨htype, hspot, -, -⟩, hamount⟩ := hrow
    rw [hdb] at ht
    cases List.mem_append.mp ht with
    | inl hold => exact absurd hold hnew
    | inr hlast =>
      rw [List.mem_singleton.mp hlast]
      exact ⟨htype, hspot, hamount⟩

lemma Sends.congr {type : TransType} {id amount : ℕ} {after : Db P} (h : Sends type id amount db db')
    (htrans : after.trans = db'.trans) : Sends type id amount db after := by
  intro t ht
  exact h t (htrans ▸ ht)

lemma sendCancellationFee_sends (db : Db P) (lease : CancellationLease) (job : CancellationJob) (reply : Reply) :
    Sends .platFee job.spotId job.feeAmount db (sendCancellationFee cfg db lease job reply).1 := by
  have hsends := (@submitPlatformFeeTransaction_amount _ cfg db job.spotId job.feeAmount lease.policy.feeAddress
    reply.txHash).sends
  have hnone : Sends .platFee job.spotId job.feeAmount db db := fun _ ht hnew => absurd ht hnew
  unfold sendCancellationFee
  by_cases hunknown : 0 < job.refundAmount ∧ reply.refundAddress.isNone = true
  · rw [if_pos hunknown]
    exact hnone.congr rfl
  rw [if_neg hunknown]
  by_cases hzero : job.feeAmount = 0
  · rw [if_pos hzero]
    exact hnone
  · rw [if_neg hzero]
    generalize submitPlatformFeeTransaction cfg db job.spotId job.feeAmount lease.policy.feeAddress reply.txHash =
      outcome at hsends
    obtain ⟨made, e | _⟩ := outcome
    · exact hsends.congr (afterRefusedLeg_guard made job.spotId e).1
    · dsimp only
      split_ifs
      · exact hsends
      · exact hsends.congr rfl

lemma sendCancellationFee_next {lease other : CancellationLease} {job next : CancellationJob} {reply : Reply}
    {refundAddress : Address}
    (h : .cancellationRefund other next refundAddress ∈ (sendCancellationFee cfg db lease job reply).2) :
    next = job := by
  have hrefund : ∀ address, Continuation.cancellationRefund other next refundAddress ∈
      [Continuation.cancellationRefund lease job address] → next = job := by
    intro address hmem
    injection List.mem_singleton.mp hmem
  unfold sendCancellationFee at h
  by_cases hunknown : 0 < job.refundAmount ∧ reply.refundAddress.isNone = true
  · rw [if_pos hunknown] at h
    cases h
  rw [if_neg hunknown] at h
  by_cases hzero : job.feeAmount = 0
  · rw [if_pos hzero] at h
    exact hrefund _ h
  · rw [if_neg hzero] at h
    generalize submitPlatformFeeTransaction cfg db job.spotId job.feeAmount lease.policy.feeAddress reply.txHash =
      outcome at h
    obtain ⟨made, e | _⟩ := outcome
    · cases h
    · dsimp only at h
      split_ifs at h
      · exact hrefund _ h
      · cases h

lemma sendCancellationRefund_sends (db : Db P) (job : CancellationJob) (refundAddress : Address) (reply : Reply) :
    Sends .cancelSpot job.spotId job.refundAmount db (sendCancellationRefund cfg db job refundAddress reply) := by
  have hsends := (@submitSpotRefundTransaction_amount _ cfg db job.spotId job.refundAmount refundAddress
    reply.txHash).sends
  have hnone : Sends .cancelSpot job.spotId job.refundAmount db db := fun _ ht hnew => absurd ht hnew
  unfold sendCancellationRefund
  by_cases hzero : job.refundAmount = 0
  · rw [if_pos hzero]
    exact hnone.congr rfl
  · rw [if_neg hzero]
    generalize submitSpotRefundTransaction cfg db job.spotId job.refundAmount refundAddress reply.txHash =
      outcome at hsends
    obtain ⟨made, e | _⟩ := outcome
    · exact hsends.congr (afterRefusedLeg_guard made job.spotId e).1
    · dsimp only
      split_ifs <;> exact hsends.congr rfl

/-- A Spot whose confirmed legs cover what is left has paid out exactly that. -/
lemma ReturnedInFull.exactly (h : ReturnedInFull db spotId) (hledger : LedgerSound db)
    (hlegs : ∀ t ∈ db.trans, t.spotId = some spotId → t.isCancellationLeg = true → WithinShare db spotId fee t) :
    confirmedCancellationTotal (db.transOfSpot spotId) = remainingCancellableTotal (db.transOfSpot spotId) := by
  obtain ⟨hfees, hrefunds⟩ := legs_within_shares hledger hlegs
  unfold ReturnedInFull confirmedCancellationTotal at h
  unfold confirmedCancellationTotal
  unfold cancellable at h hfees hrefunds
  omega

/-- A cancellation divides exactly what is left, sends the shares as they were divided, and ends the Spot only when
exactly that has been returned. -/
theorem cancellation_split_conserves {ops : List (Op P)} (hledger : LedgerSound s.db) (hidle : s.inFlight = [])
    (hpolicy : ∀ policy, s.db.cancellationPolicy spotId = some policy → policy.feeAmount = fee)
    (hlegs : ∀ t ∈ s.db.trans, t.spotId = some spotId → t.isCancellationLeg = false)
    (hrun : Admissible (step cfg) (Cancelling spotId fee) s ops)
    (hfits : ((run (step cfg) s ops).db.transOfSpot spotId).length ≤ maxLimit) :
    (∀ lease, .cancellation lease ∈ (run (step cfg) s ops).inFlight → ∀ reply other job,
      .cancellationFee other job ∈ (resume cfg (run (step cfg) s ops).db reply (.cancellation lease)).2 →
        job.spotId = spotId ∧ job.Conserves
          ((resume cfg (run (step cfg) s ops).db reply (.cancellation lease)).1.transOfSpot spotId)) ∧
    (∀ lease job, .cancellationFee lease job ∈ (run (step cfg) s ops).inFlight → ∀ reply,
      Sends .platFee spotId job.feeAmount (run (step cfg) s ops).db
          (resume cfg (run (step cfg) s ops).db reply (.cancellationFee lease job)).1 ∧
        ∀ other next refundAddress, .cancellationRefund other next refundAddress ∈
          (resume cfg (run (step cfg) s ops).db reply (.cancellationFee lease job)).2 → next = job) ∧
    (∀ lease job refundAddress, .cancellationRefund lease job refundAddress ∈ (run (step cfg) s ops).inFlight →
      ∀ reply, Sends .cancelSpot spotId job.refundAmount (run (step cfg) s ops).db
        (resume cfg (run (step cfg) s ops).db reply (.cancellationRefund lease job refundAddress)).1) ∧
    ∀ op, Cancelling spotId fee (run (step cfg) s ops) op →
      (step cfg (run (step cfg) s ops) op).db.IsCancelled spotId → ¬ (run (step cfg) s ops).db.IsCancelled spotId →
        confirmedCancellationTotal ((step cfg (run (step cfg) s ops) op).db.transOfSpot spotId) =
          remainingCancellableTotal ((step cfg (run (step cfg) s ops) op).db.transOfSpot spotId) := by
  have hstart : s.CancelsSoundly cfg spotId fee := by
    refine ⟨hledger, hpolicy, ?_, ?_⟩
    · rw [hidle]
      nofun
    · intro t ht hspot hleg
      rw [hlegs t ht hspot] at hleg
      cases hleg
  have hpreserved : ∀ s : Sys P, ∀ op, Cancelling spotId fee s op → s.CancelsSoundly cfg spotId fee →
      (step cfg s op).CancelsSoundly cfg spotId fee := fun s op hop h => (h.step hop).2
  have hsound := run_invariant hpreserved hrun hstart
  generalize run (step cfg) s ops = now at hsound hfits
  refine ⟨?_, ?_, ?_, ?_⟩
  · intro lease hlease reply other job hjob
    obtain ⟨hcarries, hdivided⟩ := hsound.submit hfits (hsound.carried _ hlease) reply
    have hafter : Sys.CancelsSoundly cfg spotId fee ⟨_, now.inFlight⟩ := hsound.move hcarries fun k hk => .inl hk
    have hjob' := hdivided other job hjob
    exact ⟨hjob'.ofSpot, hjob'.conserves hafter.ledger hafter.legs⟩
  · intro lease job hjob reply
    have hid : job.spotId = spotId := (hsound.carried _ hjob).1
    refine ⟨?_, ?_⟩
    · have hsends := @sendCancellationFee_sends _ cfg now.db lease job reply
      rw [hid] at hsends
      exact hsends
    · intro other next refundAddress hnext
      exact sendCancellationFee_next hnext
  · intro lease job refundAddress hjob reply
    have hid : job.spotId = spotId := (hsound.carried _ hjob).1
    have hsends := @sendCancellationRefund_sends _ cfg now.db job refundAddress reply
    rw [hid] at hsends
    exact hsends
  · intro op hop hcancelled hbefore
    obtain ⟨honward, hafter⟩ := hsound.step hop
    obtain ⟨spot', hspot', hstatus⟩ := hcancelled
    cases honward.closes spot' hspot' hstatus with
    | inl hold => exact absurd hold hbefore
    | inr hreturned => exact hreturned.exactly hafter.ledger hafter.legs

def Settings.feeShown : Settings Unit :=
  { Settings.onePlace with
    chainTransfer := fun txHash => if txHash = "fee" then some ⟨"NQ01 SPOT", "NQ07 FEE", 100⟩ else none }

/-- The fee is confirmed, the refund fails. -/
def legsSent : List (Op Unit) :=
  [.cancelSpot 1 100 "NQ07 FEE" [] false, .resume 0 {},
    .resume 0 { txHash := "fee", refundAddress := some "NQ02 OWNER" }, .resume 0 { txHash := "refund" },
    .confirmTrans 2, .resume 0 {}, .failTrans 3]

/-- A second attempt has its lease. -/
def refundFailed : List (Op Unit) :=
  legsSent ++ [.cancelSpot 1 100 "NQ07 FEE"
    ((run (step Settings.feeShown) ⟨CancellationRun.fundedSpot, []⟩ legsSent).db.getTransactionsBySpot 1 maxLimit) true]

/-- The second attempt sends the refund alone. -/
theorem cancellation_split_conserves_retry :
    (⟨1, 0, 900, some "NQ02 OWNER"⟩ : CancellationJob).Conserves ((resume Settings.feeShown
      (run (step Settings.feeShown) ⟨CancellationRun.fundedSpot, []⟩ refundFailed).db {}
      (.cancellation ⟨1, ⟨100, "NQ07 FEE"⟩, false⟩)).1.transOfSpot 1) := by
  have hledger : LedgerSound CancellationRun.fundedSpot := by
    refine ⟨List.nodup_singleton _, by decide, ?_, ?_, ?_⟩
    · intro a ha b hb _
      rw [List.mem_singleton.mp ha, List.mem_singleton.mp hb]
    · intro t ht
      rw [List.mem_singleton.mp ht]
      exact ⟨nofun, nofun⟩
    · intro a ha b hb _ _ _
      rw [List.mem_singleton.mp ha, List.mem_singleton.mp hb]
  have hnone : CancellationRun.fundedSpot.cancellationPolicy 1 = none := rfl
  have hpolicy : ∀ policy, CancellationRun.fundedSpot.cancellationPolicy 1 = some policy → policy.feeAmount = 100 := by
    intro policy hfound
    rw [hnone] at hfound
    cases hfound
  have hlegs : ∀ t ∈ CancellationRun.fundedSpot.trans, t.spotId = some 1 → t.isCancellationLeg = false := by decide
  have hrun : Admissible (step Settings.feeShown) (Cancelling 1 100) ⟨CancellationRun.fundedSpot, []⟩ refundFailed := by
    refine ⟨⟨?_, rfl, rfl⟩, ⟨?_, trivial⟩, ⟨?_, trivial⟩, ⟨?_, trivial⟩, ⟨?_, trivial⟩, ⟨?_, trivial⟩, ⟨?_, trivial⟩,
      ⟨?_, rfl, rfl⟩, trivial⟩ <;> decide +kernel
  have hleased : (run (step Settings.feeShown) ⟨CancellationRun.fundedSpot, []⟩ refundFailed).inFlight =
      [.cancellation ⟨1, ⟨100, "NQ07 FEE"⟩, false⟩] := by decide +kernel
  obtain ⟨hsplit, -⟩ := cancellation_split_conserves hledger rfl hpolicy hlegs hrun (by decide +kernel)
  have hjob : (resume Settings.feeShown (run (step Settings.feeShown) ⟨CancellationRun.fundedSpot, []⟩ refundFailed).db {}
      (.cancellation ⟨1, ⟨100, "NQ07 FEE"⟩, false⟩)).2 =
        [.cancellationFee ⟨1, ⟨100, "NQ07 FEE"⟩, false⟩ ⟨1, 0, 900, some "NQ02 OWNER"⟩] := by decide +kernel
  refine (hsplit _ ?_ {} ⟨1, ⟨100, "NQ07 FEE"⟩, false⟩ _ ?_).2
  · rw [hleased]
    exact List.mem_singleton_self _
  · rw [hjob]
    exact List.mem_singleton_self _

end Conservation

end NimHunt
