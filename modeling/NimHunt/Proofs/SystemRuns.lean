import NimHunt.Proofs.HourlyLimit
import NimHunt.Proofs.SystemWrites

/-!
# Runs of the system

What every write keeps, whatever it is: the primary keys, the terms of a Spot that takes claims, and that a draw is
over.  Every operation is then a chain of admitted writes from every state a run reaches.
-/

namespace NimHunt

open Lib Relation

variable {P : Type}

section Spots

/-- A Spot that takes claims keeps its duration, and a draw stays over. -/
structure SpotsHeld (db db' : Db P) : Prop where
  held : ∀ id spot, db.getSpot id = some spot → spot.status ≠ .draft →
    ∃ spot', db'.getSpot id = some spot' ∧ spot'.status ≠ .draft ∧ spot'.claimDuration = spot.claimDuration
  drawn : ∀ id, db.PrizedrawIsDrawn id → db'.PrizedrawIsDrawn id

variable {cfg : Settings P} {db db' : Db P}

lemma getSpot_of_spots (hspots : db'.spots = db.spots) (id : ℕ) : db'.getSpot id = db.getSpot id := by
  unfold Db.getSpot
  rw [hspots]

/-- A Spot of a claim, before and after. -/
lemma SpotsHeld.before (h : SpotsHeld db db') {spotId : ℕ}
    (hplaced : ∃ spot, db.getSpot spotId = some spot ∧ spot.status ≠ .draft) {spot' : Spot P}
    (hspot' : db'.getSpot spotId = some spot') :
    ∃ spot, db.getSpot spotId = some spot ∧ spot.status ≠ .draft ∧ spot'.claimDuration = spot.claimDuration := by
  obtain ⟨spot, hspot, hdraft⟩ := hplaced
  obtain ⟨found, hfound, -, hduration⟩ := h.held spotId spot hspot hdraft
  rw [hfound] at hspot'
  exact ⟨spot, hspot, hdraft, by rw [← Option.some.inj hspot', hduration]⟩

lemma SpotsHeld.of_eq (hspots : db'.spots = db.spots) : SpotsHeld db db' := by
  have hget := getSpot_of_spots hspots
  refine ⟨fun id spot hspot hdraft => ⟨spot, (hget id).trans hspot, hdraft, rfl⟩, ?_⟩
  rintro id ⟨spot, hspot, hdrawn⟩
  exact ⟨spot, (hget id).trans hspot, hdrawn⟩

/-- An update of Spots that leaves drafts aside. -/
lemma SpotsHeld.of_update {sel : Spot P → Bool} {f : Spot P → Spot P}
    (hspots : db'.spots = updateWhere sel f db.spots) (hid : ∀ s, (f s).id = s.id)
    (hkept : ∀ s, db.getSpot s.id = some s → s.status ≠ .draft → sel s = true →
      (f s).claimDuration = s.claimDuration ∧ (f s).prizeCount = s.prizeCount ∧ (f s).status ≠ .draft ∧
        (s.status ≠ .published → (f s).status ≠ .published)) : SpotsHeld db db' := by
  have hget : ∀ id, db'.getSpot id = (db.getSpot id).map fun s => if sel s then f s else s := by
    intro id
    unfold Db.getSpot
    rw [hspots]
    exact find?_updateWhere_key hid id
  have hrow : ∀ id s, db.getSpot id = some s → s.status ≠ .draft →
      (if sel s then f s else s).claimDuration = s.claimDuration ∧
      (if sel s then f s else s).prizeCount = s.prizeCount ∧ (if sel s then f s else s).status ≠ .draft ∧
        (s.status ≠ .published → (if sel s then f s else s).status ≠ .published) := by
    intro id s hs hdraft
    by_cases hsel : sel s = true
    · rw [if_pos hsel]
      exact hkept s ((getSpot_id hs).symm ▸ hs) hdraft hsel
    · rw [if_neg hsel]
      exact ⟨rfl, rfl, hdraft, fun hopen => hopen⟩
  constructor
  · intro id s hs hdraft
    obtain ⟨hduration, -, hstatus, -⟩ := hrow id s hs hdraft
    exact ⟨_, by rw [hget, hs]; rfl, hstatus, hduration⟩
  · rintro id ⟨s, hs, hprize, hdraft, hpublished⟩
    obtain ⟨-, hcount, hstatus, hopen⟩ := hrow id s hs hdraft
    exact ⟨_, by rw [hget, hs]; rfl, by rw [hcount]; exact hprize, hstatus, hopen hpublished⟩

/-- A status change of a Spot that leaves drafts and what is still open. -/
lemma SpotsHeld.modifySpotStatus (db : Db P) (spotId : ℕ) {status : SpotStatus} (hdraft : status ≠ .draft)
    (hpublished : status ≠ .published) : SpotsHeld db (db.modifySpotStatus spotId status) :=
  .of_update rfl (fun _ => rfl) fun _ _ _ _ => ⟨rfl, rfl, hdraft, fun _ => hpublished⟩

lemma Closes.final {spot : Spot P} {status : SpotStatus} (h : Closes db spot status) :
    status ≠ .draft ∧ status ≠ .published := by
  cases h with
  | completed => exact ⟨by decide, by decide⟩
  | cancelled => exact ⟨by decide, by decide⟩
  | banned => exact ⟨by decide, by decide⟩

lemma ClaimWrite.spotsHeld {permit : WritePermit P} (hwrite : ClaimWrite permit db db') : SpotsHeld db db' :=
  .of_eq hwrite.sameGround.spots

/-- Putting a row in the place of another of its id. -/
lemma edited_spots {spot next : Spot P} (hid : next.id = spot.id) (spots : List (Spot P)) :
    updateWhere (fun s => s.id = spot.id) (fun _ => next) spots =
      updateWhere (fun s => s.id = spot.id) (fun s => { next with id := s.id }) spots := by
  apply updateWhere_congr
  intro s _
  by_cases hof : s.id = spot.id
  · have hnext : { next with id := s.id } = next := by rw [hof.trans hid.symm]
    rw [if_pos (decide_eq_true hof), if_pos (decide_eq_true hof), hnext]
  · have hother : ¬ decide (s.id = spot.id) = true := fun h => hof (of_decide_eq_true h)
    rw [if_neg hother, if_neg hother]

lemma DbWrite.spotsHeld {permit : Permit P} (hwrite : DbWrite cfg permit db db') : SpotsHeld db db' := by
  cases hwrite with
  | claim hwrite => exact hwrite.spotsHeld
  | @drafted spot hid hdraft _ _ =>
    have hget : ∀ id s, db.getSpot id = some s →
        ({ db with spots := db.spots ++ [spot], spotSeq := spot.id } : Db P).getSpot id = some s := by
      intro id s hs
      unfold Db.getSpot at hs ⊢
      dsimp only
      rw [List.find?_append, hs]
      rfl
    constructor
    · intro id s hs hplaced
      exact ⟨s, hget id s hs, hplaced, rfl⟩
    · rintro id ⟨s, hs, hdrawn⟩
      exact ⟨s, hget id s hs, hdrawn⟩
  | @edited spot next hspot hdraft hsame _ =>
    refine SpotsHeld.of_update (edited_spots hsame.id db.spots) (fun _ => rfl) ?_
    intro s hs hplaced hsel
    -- The row found under the id is the draft itself.
    have hfound : s = spot := by
      rw [of_decide_eq_true hsel] at hs
      exact Option.some.inj (hs.symm.trans hspot)
    rw [hfound] at hplaced
    exact absurd hdraft hplaced
  | @undrafted spot hspot hdraft =>
    constructor
    · intro id s hs hplaced
      exact ⟨s, getSpot_deleteSpot_of_placed hspot hdraft hs hplaced, hplaced, rfl⟩
    · rintro id ⟨s, hs, hprize, hplaced, hopen⟩
      exact ⟨s, getSpot_deleteSpot_of_placed hspot hdraft hs hplaced, hprize, hplaced, hopen⟩
  | published =>
    refine SpotsHeld.of_update rfl (fun _ => rfl) ?_
    intro s _ hplaced hsel
    exact absurd (of_decide_eq_true hsel).2.1 hplaced
  | marked => exact .of_update rfl (fun _ => rfl) fun _ _ hplaced _ => ⟨rfl, rfl, hplaced, fun hopen => hopen⟩
  | closed _ hcloses _ => exact .modifySpotStatus db _ hcloses.final.1 hcloses.final.2
  | drawn => exact .of_update rfl (fun _ => rfl) fun _ _ _ _ => ⟨rfl, rfl, nofun, fun _ => nofun⟩
  | _ => exact .of_eq rfl

end Spots

section Keys

/-- The primary keys, with the counter of the Spots. -/
structure Numbered (db : Db P) : Prop where
  keyed : db.Keyed
  spotFresh : ∀ s ∈ db.spots, s.id ≤ db.spotSeq

variable {cfg : Settings P} {db db' : Db P}

lemma Numbered.congr (h : Numbered db) (hspots : db'.spots.map Spot.id = db.spots.map Spot.id)
    (hspotSeq : db'.spotSeq = db.spotSeq) (hclaims : db'.claims.map Claim.id = db.claims.map Claim.id)
    (hclaimSeq : db'.claimSeq = db.claimSeq) (hcodes : db'.claimCodes.map ClaimCode.id = db.claimCodes.map ClaimCode.id)
    (hcodeSeq : db'.claimCodeSeq = db.claimCodeSeq) (htrans : TransKeyed db'.trans db'.transSeq) : Numbered db' := by
  refine ⟨⟨by rw [hspots]; exact h.keyed.spotKeys, by rw [hclaims]; exact h.keyed.claimKeys, ?_,
    by rw [hcodes]; exact h.keyed.codeKeys, ?_, htrans.1, htrans.2⟩, ?_⟩
  · intro c' hc'
    obtain ⟨c, hc, hid⟩ := List.mem_map.mp (hclaims ▸ List.mem_map_of_mem hc')
    rw [← hid, hclaimSeq]
    exact h.keyed.claimFresh c hc
  · intro code' hcode'
    obtain ⟨code, hcode, hid⟩ := List.mem_map.mp (hcodes ▸ List.mem_map_of_mem hcode')
    rw [← hid, hcodeSeq]
    exact h.keyed.codeFresh code hcode
  · intro s' hs'
    obtain ⟨s, hs, hid⟩ := List.mem_map.mp (hspots ▸ List.mem_map_of_mem hs')
    rw [← hid, hspotSeq]
    exact h.spotFresh s hs

lemma Numbered.trans (h : Numbered db) : TransKeyed db.trans db.transSeq := ⟨h.keyed.transKeys, h.keyed.transFresh⟩

lemma Numbered.rewritten (h : Numbered db) (hrewritten : ClaimsRewritten db db') : Numbered db' := by
  have hkeyed := hrewritten.keyed h.keyed
  obtain ⟨f, g, attempts, rfl, -, -⟩ := hrewritten
  exact ⟨hkeyed, h.spotFresh⟩

lemma CodeConsumed.rewritten {spot : Spot P} {claimId : ℕ} (h : CodeConsumed db spot claimId db') :
    ClaimsRewritten db db' := by
  cases h with
  | inl hplain =>
    rw [hplain.2]
    exact .refl db
  | inr hcoded =>
    obtain ⟨-, code, -, hconsume⟩ := hcoded
    rw [← (Prod.mk.inj hconsume).1]
    exact claimsRewritten_codes db _ (some claimId)

/-- A heartbeat rewrites one row. -/
lemma modifyClaimLocationScore_claims (db : Db P) (claimId : ℕ) (position : P) (score : ℚ) (status : ClaimStatus) :
    (db.modifyClaimLocationScore claimId position score status).claims =
      updateWhere (fun c => c.id = claimId)
        (fun c => { c with
          position := position, accuracy := max 0 (min 1 score), status := status, updatedAt := db.now }) db.claims := by
  unfold Db.modifyClaimLocationScore Db.modifyClaimStatus
  rw [Db.updateClaimStatus_claims]
  unfold updateWhere
  rw [List.map_map]
  apply List.map_congr_left
  intro c _
  by_cases hid : c.id = claimId
  · simp [hid, Claim.withStatus]
  · simp [hid]

lemma ClaimWrite.numbered {permit : WritePermit P} (hwrite : ClaimWrite permit db db') (h : Numbered db) : Numbered db' := by
  cases hwrite with
  | guarded => exact h.congr rfl rfl rfl rfl rfl rfl h.trans
  | @entered spot userId payoutAddress position _ _ _ =>
    refine ⟨⟨h.keyed.spotKeys, ?_, ?_, h.keyed.codeKeys, h.keyed.codeFresh, h.keyed.transKeys, h.keyed.transFresh⟩,
      h.spotFresh⟩
    · change ((db.claims ++ [_]).map Claim.id).Nodup
      rw [List.map_append]
      refine h.keyed.claimKeys.append (List.nodup_singleton _) ?_
      intro id hold hnew
      obtain ⟨c, hc, hid⟩ := List.mem_map.mp hold
      have hfresh : id = db.claimSeq + 1 := List.mem_singleton.mp hnew
      have hle := (h.keyed.claimFresh c hc).2
      omega
    · intro c' hc'
      change 0 < c'.id ∧ c'.id ≤ db.claimSeq + 1
      cases List.mem_append.mp hc' with
      | inl hold =>
        have hfresh := h.keyed.claimFresh c' hold
        omega
      | inr hnew =>
        rw [List.mem_singleton.mp hnew]
        exact ⟨Nat.succ_pos _, le_refl _⟩
  | attempted => exact h.congr rfl rfl rfl rfl rfl rfl h.trans
  | failed => exact h.rewritten (claimsRewritten_updateClaimStatus db _ _)
  | failedReleasing =>
    exact h.rewritten ((claimsRewritten_updateClaimStatus db _ _).then (claimsRewritten_codes _ _ none))
  | succeeded _ _ _ _ hcode _ =>
    exact h.rewritten ((hcode.rewritten.then (claimsRewritten_updateClaimStatus _ _ _)).then
      (claimsRewritten_failPendingStandard _ _))
  | @moved claim position score status _ _ _ =>
    refine h.congr rfl rfl ?_ rfl rfl rfl h.trans
    rw [modifyClaimLocationScore_claims]
    exact map_updateWhere fun _ => rfl

lemma ClaimWrites.numbered {permit : WritePermit P} (hwrites : ClaimWrites permit db db') (h : Numbered db) :
    Numbered db' := by
  induction hwrites with
  | refl => exact h
  | tail _ hwrite ih => exact hwrite.numbered ih

lemma DbWrite.numbered {permit : Permit P} (hwrite : DbWrite cfg permit db db') (h : Numbered db) : Numbered db' := by
  cases hwrite with
  | claim hwrite => exact hwrite.numbered h
  | clock => exact h.congr rfl rfl rfl rfl rfl rfl h.trans
  | users => exact h.congr rfl rfl rfl rfl rfl rfl h.trans
  | bound => exact h.congr rfl rfl rfl rfl rfl rfl h.trans
  | bookkept => exact h.congr rfl rfl rfl rfl rfl rfl h.trans
  | ledger trans transSeq _ hkeys => exact h.congr rfl rfl rfl rfl rfl rfl (hkeys h.trans)
  | @drafted spot hid _ _ _ =>
    refine ⟨⟨?_, h.keyed.claimKeys, h.keyed.claimFresh, h.keyed.codeKeys, h.keyed.codeFresh, h.keyed.transKeys,
      h.keyed.transFresh⟩, ?_⟩
    · change ((db.spots ++ [spot]).map Spot.id).Nodup
      rw [List.map_append]
      refine h.keyed.spotKeys.append (List.nodup_singleton _) ?_
      intro id hold hnew
      obtain ⟨s, hs, hsid⟩ := List.mem_map.mp hold
      have hfresh : id = spot.id := List.mem_singleton.mp hnew
      have hle := h.spotFresh s hs
      omega
    · intro s hs
      change s.id ≤ spot.id
      cases List.mem_append.mp hs with
      | inl hold =>
        have hle := h.spotFresh s hold
        omega
      | inr hnew => rw [List.mem_singleton.mp hnew]
  | @edited spot next hspot _ hsame _ =>
    refine h.congr ?_ rfl rfl rfl rfl rfl h.trans
    change (updateWhere _ _ db.spots).map Spot.id = _
    unfold updateWhere
    rw [List.map_map]
    apply List.map_congr_left
    intro s _
    by_cases hid : s.id = spot.id
    · simp [hid, hsame.id]
    · simp [hid]
  | undrafted =>
    have hkeys := h.keyed
    refine ⟨⟨?_, ?_, ?_, ?_, ?_, ?_, ?_⟩, ?_⟩
    · exact hkeys.spotKeys.sublist (List.filter_sublist.map Spot.id)
    · exact hkeys.claimKeys.sublist (List.filter_sublist.map Claim.id)
    · exact fun c hc => hkeys.claimFresh c (List.mem_filter.mp hc).1
    · exact hkeys.codeKeys.sublist (List.filter_sublist.map ClaimCode.id)
    · exact fun code hcode => hkeys.codeFresh code (List.mem_filter.mp hcode).1
    · rw [deleteSpot_transKeys]
      exact hkeys.transKeys
    · intro t ht
      obtain ⟨before, hbefore, heq⟩ := List.mem_map.mp ht
      rw [← heq]
      exact hkeys.transFresh before hbefore
    · exact fun s hs => h.spotFresh s (List.mem_filter.mp hs).1
  | codesDropped drop _ =>
    refine ⟨⟨h.keyed.spotKeys, h.keyed.claimKeys, h.keyed.claimFresh, ?_, ?_, h.keyed.transKeys, h.keyed.transFresh⟩,
      h.spotFresh⟩
    · exact h.keyed.codeKeys.sublist (List.filter_sublist.map ClaimCode.id)
    · exact fun code hcode => h.keyed.codeFresh code (List.mem_filter.mp hcode).1
  | codeCreated spotId code =>
    refine ⟨⟨h.keyed.spotKeys, h.keyed.claimKeys, h.keyed.claimFresh, ?_, ?_, h.keyed.transKeys, h.keyed.transFresh⟩,
      h.spotFresh⟩
    · change ((db.claimCodes ++ [_]).map ClaimCode.id).Nodup
      rw [List.map_append]
      refine h.keyed.codeKeys.append (List.nodup_singleton _) ?_
      intro id hold hnew
      obtain ⟨cc, hcc, hid⟩ := List.mem_map.mp hold
      have hfresh : id = db.claimCodeSeq + 1 := List.mem_singleton.mp hnew
      have hle := h.keyed.codeFresh cc hcc
      omega
    · intro cc hcc
      change cc.id ≤ db.claimCodeSeq + 1
      cases List.mem_append.mp hcc with
      | inl hold =>
        have hle := h.keyed.codeFresh cc hold
        omega
      | inr hnew => rw [List.mem_singleton.mp hnew]
  | published => exact h.congr (map_updateWhere fun _ => rfl) rfl rfl rfl rfl rfl h.trans
  | marked => exact h.congr (map_updateWhere fun _ => rfl) rfl rfl rfl rfl rfl h.trans
  | closed => exact h.congr (map_updateWhere fun _ => rfl) rfl rfl rfl rfl rfl h.trans
  | @drawn spot winners _ _ _ _ _ =>
    have hmarked : ClaimsRewritten db ((db.failPendingClaimsForSpot spot.id).markPrizedrawWinnersPending
        spot.id winners).1 :=
      (claimsRewritten_updateClaimStatus db _ _).then (claimsRewritten_updateClaimStatus _ _ _)
    have hnumbered := h.rewritten hmarked
    exact hnumbered.congr (map_updateWhere fun _ => rfl) rfl rfl rfl rfl rfl hnumbered.trans
  | paid => exact h.rewritten (claimsRewritten_updateClaimStatus db _ _)
  | banned => exact h.rewritten (claimsRewritten_updateClaimStatus db _ _)

lemma DbWrites.numbered {permit : Permit P} (hwrites : DbWrites cfg permit db db') (h : Numbered db) : Numbered db' := by
  induction hwrites with
  | refl => exact h
  | tail _ hwrite ih => exact hwrite.numbered ih

end Keys

section Entries

variable {cfg : Settings P} {db db' db'' : Db P} {paid : ℕ → Prop} {entry : Prop}

/-- A claim is entered only where `entry` holds and the Spot is open, and leaves FAILED only when it is paid. -/
def EntriesFrom (paid : ℕ → Prop) (entry : Prop) (db db' : Db P) : Prop :=
  ∀ c' ∈ db'.claims,
    (∃ c ∈ db.claims, c.id = c'.id ∧ c.spotId = c'.spotId ∧ (c'.status ≠ .failed → c.status ≠ .failed ∨ paid c.id)) ∨
    entry ∧ ∃ spot, db.getSpot c'.spotId = some spot ∧ spot.status = .published

lemma EntriesFrom.mono {entry' : Prop} (h : EntriesFrom paid entry db db') (hentry : entry → entry') :
    EntriesFrom paid entry' db db' :=
  fun c' hc' => (h c' hc').imp_right fun hnew => ⟨hentry hnew.1, hnew.2⟩

lemma EntriesFrom.of_eq (hclaims : db'.claims = db.claims) : EntriesFrom paid entry db db' :=
  fun c hc => .inl ⟨c, hclaims ▸ hc, rfl, rfl, fun hcounts => .inl hcounts⟩

lemma EntriesFrom.then (h : EntriesFrom paid entry db db') (hspots : db'.spots = db.spots)
    (h' : EntriesFrom paid entry db' db'') : EntriesFrom paid entry db db'' := by
  intro c'' hc''
  rcases h' c'' hc'' with ⟨c', hc', hid', hof', hrow'⟩ | ⟨hentry, spot, hspot, hopen⟩
  · rcases h c' hc' with ⟨c, hc, hid, hof, hrow⟩ | ⟨hentry, spot, hspot, hopen⟩
    · refine .inl ⟨c, hc, hid.trans hid', hof.trans hof', ?_⟩
      intro hcounts
      rcases hrow' hcounts with hbefore | hpaid
      · exact hrow hbefore
      · exact .inr (hid ▸ hpaid)
    · exact .inr ⟨hentry, spot, hof' ▸ hspot, hopen⟩
  · exact .inr ⟨hentry, spot, (getSpot_of_spots hspots _).symm.trans hspot, hopen⟩

lemma EntriesFrom.of_update {sel : Claim P → Bool} {f : Claim P → Claim P}
    (hclaims : db'.claims = updateWhere sel f db.claims) (hsame : ∀ c, (f c).id = c.id ∧ (f c).spotId = c.spotId)
    (hrow : ∀ c ∈ db.claims, sel c = true → (f c).status ≠ .failed → c.status ≠ .failed ∨ paid c.id) :
    EntriesFrom paid entry db db' := by
  intro c' hc'
  rw [hclaims] at hc'
  obtain ⟨c, hc, heq⟩ := mem_updateWhere.mp hc'
  left
  by_cases hsel : sel c = true
  · rw [if_pos hsel] at heq
    rw [← heq]
    exact ⟨c, hc, (hsame c).1.symm, (hsame c).2.symm, hrow c hc hsel⟩
  · rw [if_neg hsel] at heq
    rw [← heq]
    exact ⟨c, hc, rfl, rfl, fun hcounts => .inl hcounts⟩

lemma entriesFrom_failed (db : Db P) (sel : Claim P → Bool) :
    EntriesFrom paid entry db (db.updateClaimStatus sel .failed) :=
  .of_update rfl (fun _ => ⟨rfl, rfl⟩) fun _ _ _ hcounts => absurd rfl hcounts

lemma entriesFrom_failPendingStandard (db : Db P) (id : ℕ) :
    EntriesFrom paid entry db (db.failPendingStandardDurationClaimsIfCapacityFull id) := by
  unfold Db.failPendingStandardDurationClaimsIfCapacityFull
  cases db.getSpot id with
  | none => exact .of_eq rfl
  | some spot =>
    dsimp only
    split_ifs
    · exact .of_eq rfl
    · exact .of_eq rfl
    · exact .of_eq rfl
    · exact entriesFrom_failed db _

lemma ClaimWrite.entriesFrom {permit : WritePermit P} (hwrite : ClaimWrite permit db db')
    (hkeys : (db.claims.map Claim.id).Nodup) : EntriesFrom paid True db db' := by
  have hpending : ∀ {claim : Claim P}, db.getClaim claim.id = some claim → claim.status = .pending →
      ∀ c ∈ db.claims, c.id = claim.id → c.status ≠ .failed := by
    intro claim hclaim hwaits c hc hid
    have hfound := (find?_key_eq_some hkeys).mpr ⟨hc, hid⟩
    rw [Option.some.inj (hfound.symm.trans hclaim), hwaits]
    nofun
  cases hwrite with
  | guarded => exact .of_eq rfl
  | attempted => exact .of_eq rfl
  | entered hpublic _ _ =>
    intro c' hc'
    cases List.mem_append.mp hc' with
    | inl hold => exact .inl ⟨c', hold, rfl, rfl, fun hcounts => .inl hcounts⟩
    | inr hnew =>
      rw [List.mem_singleton.mp hnew]
      have hopen := of_decide_eq_true (Option.filter_eq_some_iff.mp hpublic).2
      exact .inr ⟨trivial, _, getPublicSpot_getSpot hpublic, hopen.1⟩
  | failed => exact entriesFrom_failed db _
  | failedReleasing => exact entriesFrom_failed db _
  | @succeeded claim spot coded hclaim hwaits _ _ hcode _ =>
    have hcoded : EntriesFrom paid True db coded := .of_eq hcode.claims
    have hset : EntriesFrom paid True coded (coded.setClaimStatusToSuccess claim.id) := by
      refine .of_update rfl (fun _ => ⟨rfl, rfl⟩) ?_
      intro c hc hsel _
      rw [hcode.claims] at hc
      exact .inl (hpending hclaim hwaits c hc (of_decide_eq_true hsel))
    exact (hcoded.then hcode.sameGround.spots hset).then hcode.sameGround.spots (entriesFrom_failPendingStandard _ _)
  | @moved claim position score status hclaim hwaits _ =>
    refine .of_update (modifyClaimLocationScore_claims db claim.id position score status) (fun _ => ⟨rfl, rfl⟩) ?_
    exact fun c hc hsel _ => .inl (hpending hclaim hwaits c hc (of_decide_eq_true hsel))

lemma ClaimWrites.entriesFrom {permit : WritePermit P} (hwrites : ClaimWrites permit db db') (hnumbered : Numbered db) :
    EntriesFrom paid True db db' := by
  induction hwrites with
  | refl => exact .of_eq rfl
  | tail hbefore hwrite ih =>
    have hkeys := (ClaimWrites.numbered hbefore hnumbered).keyed.claimKeys
    exact ih.then (ClaimWrites.sameGround hbefore).spots (hwrite.entriesFrom hkeys)

/-- The draw puts its winners back from SUCCESS to PENDING. -/
lemma entriesFrom_drawn (db : Db P) (spotId : ℕ) (winners : List ℕ) :
    EntriesFrom paid entry db ((db.failPendingClaimsForSpot spotId).markPrizedrawWinnersPending spotId winners).1 := by
  have hfailed : EntriesFrom paid entry db (db.failPendingClaimsForSpot spotId) := entriesFrom_failed db _
  refine hfailed.then rfl ?_
  refine .of_update rfl (fun _ => ⟨rfl, rfl⟩) ?_
  intro c _ hsel _
  left
  rw [(of_decide_eq_true hsel).2.1]
  nofun

lemma Db.Placed.rows (h : db.Placed) (hentries : EntriesFrom paid entry db db') (hheld : SpotsHeld db db') :
    db'.Placed := by
  intro c' hc'
  have hbefore : ∃ spot, db.getSpot c'.spotId = some spot ∧ spot.status ≠ .draft := by
    rcases hentries c' hc' with ⟨c, hc, -, hof, -⟩ | ⟨-, spot, hspot, hopen⟩
    · rw [← hof]
      exact h c hc
    · refine ⟨spot, hspot, ?_⟩
      rw [hopen]
      nofun
  obtain ⟨spot, hspot, hdraft⟩ := hbefore
  obtain ⟨spot', hspot', hdraft', -⟩ := hheld.held c'.spotId spot hspot hdraft
  exact ⟨spot', hspot', hdraft'⟩

lemma DbWrite.placed {permit : Permit P} (hwrite : DbWrite cfg permit db db') (hnumbered : Numbered db)
    (h : db.Placed) : db'.Placed := by
  have hentries : EntriesFrom (fun _ => True) True db db' := by
    cases hwrite with
    | claim hwrite => exact hwrite.entriesFrom hnumbered.keyed.claimKeys
    | @drawn spot winners =>
      have hdrawn : EntriesFrom (fun _ => True) True db
          ((db.failPendingClaimsForSpot spot.id).markPrizedrawWinnersPending spot.id winners).1 :=
        entriesFrom_drawn db spot.id winners
      exact hdrawn.then rfl (.of_eq rfl)
    | paid => exact .of_update rfl (fun _ => ⟨rfl, rfl⟩) fun _ _ _ _ => .inr trivial
    | banned => exact entriesFrom_failed db _
    | undrafted _ _ _ hunclaimed => exact .of_eq (deleteSpot_claims hunclaimed)
    | _ => exact .of_eq rfl
  exact h.rows hentries hwrite.spotsHeld

lemma DbWrites.placed {permit : Permit P} (hwrites : DbWrites cfg permit db db') (hnumbered : Numbered db)
    (h : db.Placed) : db'.Placed := by
  induction hwrites with
  | refl => exact h
  | tail hbefore hwrite ih => exact hwrite.placed (DbWrites.numbered hbefore hnumbered) ih

end Entries

section Refresh

variable {cfg : Settings P} {db : Db P} {permit : WritePermit P} {claimId userId : ℕ} {position : P}
  {accuracy : Option ℚ}

/-- The time is up, and the last update lies within the stale window. -/
def DueAndFresh (db : Db P) (claim : Claim P) (spot : Spot P) : Prop :=
  claim.claimedAt + spot.claimDuration ≤ db.now ∧ db.now - claim.updatedAt ≤ claimLocationStaleAfterSeconds

/-- A refresh leaves the claim. -/
def StillWaits (db : Db P) (claim : Claim P) (spot : Spot P) : Prop :=
  spot.claimDuration ≠ 0 ∧ db.now - claim.updatedAt ≤ claimLocationStaleAfterSeconds ∧
    ¬ claim.claimedAt + spot.claimDuration ≤ db.now

/-- What a refresh may do with the claim it finds. -/
structure RefreshAdmitted (cfg : Settings P) (permit : WritePermit P) (db : Db P) (claim : Claim P) (spot : Spot P) :
    Prop where
  stale : permit.settle db claim .failed
  due : spot.claimDuration = 0 ∨ DueAndFresh db claim spot → MaySettle cfg permit db claim

/-- A refresh decides its claim with one write, or leaves it: fresh, and not due. -/
lemma refresh_admitted (hpermit : ∀ claim spot, db.getClaim claimId = some claim → claim.status = .pending →
      db.getSpot claim.spotId = some spot → spot.isCompletedPrizedraw = false →
      RefreshAdmitted cfg permit db claim spot) :
    (refreshClaimStatusFromConditions (installedPromoter cfg) db claimId = (db, db.getClaim claimId) ∧
      ∀ claim spot, db.getClaim claimId = some claim → claim.status = .pending →
        db.getSpot claim.spotId = some spot → spot.isCompletedPrizedraw = false → StillWaits db claim spot) ∨
    ClaimWrite permit db (refreshClaimStatusFromConditions (installedPromoter cfg) db claimId).1 ∧
    ∃ claim status, db.getClaim claimId = some claim ∧ status ≠ .pending ∧
      (refreshClaimStatusFromConditions (installedPromoter cfg) db claimId).2 =
        some (claim.withStatus db.now status) := by
  unfold refreshClaimStatusFromConditions
  cases hclaim : db.getClaim claimId with
  | none => exact .inl ⟨rfl, fun _ _ h => nomatch h⟩
  | some claim =>
    dsimp only
    by_cases hpending : claim.status = .pending
    · rw [if_neg (not_not_intro hpending)]
      cases hspot : db.getSpot claim.spotId with
      | none =>
        refine .inl ⟨rfl, ?_⟩
        intro found spot hfound _ hof
        rw [← Option.some.inj hfound, hspot] at hof
        cases hof
      | some spot =>
        have honly : ∀ found found', some claim = some found → db.getSpot found.spotId = some found' →
            found = claim ∧ found' = spot := by
          intro found found' hfound hof
          have hsame := (Option.some.inj hfound).symm
          rw [hsame, hspot] at hof
          exact ⟨hsame, (Option.some.inj hof).symm⟩
        have hpromoted : MaySettle cfg permit db claim → ClaimWrite permit db (installedPromoter cfg db claimId).1 ∧
            ∃ status, status ≠ .pending ∧
              (installedPromoter cfg db claimId).2.claim = some (claim.withStatus db.now status) := fun hsettle =>
          installedPromoter_settles hclaim hpending hspot cfg hsettle
        dsimp only
        by_cases hdrawn : spot.isCompletedPrizedraw = true
        · rw [if_pos hdrawn]
          refine .inl ⟨rfl, ?_⟩
          intro found found' hfound _ hof hopen
          rw [(honly found found' hfound hof).2, hdrawn] at hopen
          cases hopen
        have hadmitted := hpermit claim spot hclaim hpending hspot (Bool.not_eq_true _ ▸ hdrawn)
        rw [if_neg hdrawn]
        by_cases hzero : spot.claimDuration = 0
        · rw [if_pos hzero]
          obtain ⟨hwrite, status, hne, hanswer⟩ :=
            hpromoted (hadmitted.due (.inl hzero))
          exact .inr ⟨hwrite, claim, status, rfl, hne, hanswer⟩
        rw [if_neg hzero]
        by_cases hstale : claimLocationStaleAfterSeconds < db.now - claim.updatedAt
        · rw [if_pos hstale]
          have hid := getClaim_id hclaim
          subst hid
          exact .inr ⟨.failed hclaim hpending hadmitted.stale, claim, .failed, rfl, by simp,
            getClaim_modifyClaimStatus hclaim .failed⟩
        rw [if_neg hstale]
        by_cases hdue : claim.claimedAt + spot.claimDuration ≤ db.now
        · rw [if_pos hdue]
          obtain ⟨hwrite, status, hne, hanswer⟩ :=
            hpromoted (hadmitted.due (.inr ⟨hdue, Nat.le_of_not_lt hstale⟩))
          exact .inr ⟨hwrite, claim, status, rfl, hne, hanswer⟩
        · rw [if_neg hdue]
          refine .inl ⟨rfl, ?_⟩
          intro found found' hfound _ hof _
          rw [(honly found found' hfound hof).1, (honly found found' hfound hof).2]
          exact ⟨hzero, Nat.le_of_not_lt hstale, hdue⟩
    · rw [if_pos hpending]
      refine .inl ⟨rfl, ?_⟩
      intro found _ hfound hwaits
      rw [← Option.some.inj hfound] at hwaits
      exact absurd hwaits hpending

/-- The heartbeat route moves a claim only after its refresh has left it. -/
lemma heartbeat_admitted (hrefresh : ∀ claim spot, db.getClaim claimId = some claim → claim.recipient = userId →
      claim.status = .pending → db.getSpot claim.spotId = some spot → spot.isCompletedPrizedraw = false →
      RefreshAdmitted cfg permit db claim spot)
    (hbeat : ∀ claim spot, db.getClaim claimId = some claim → claim.recipient = userId → claim.status = .pending →
      db.getSpot claim.spotId = some spot → (spot.isCompletedPrizedraw = false → StillWaits db claim spot) →
      HeartbeatPermitted permit cfg db position accuracy claim spot) :
    ClaimWrites permit db
      (processDurationClaimLocationHeartbeat cfg (installedPromoter cfg) db claimId userId position accuracy).1 := by
  unfold processDurationClaimLocationHeartbeat
  cases hclaim : db.getClaim claimId with
  | none => exact .refl
  | some claim =>
    have hid := getClaim_id hclaim
    dsimp only
    by_cases howner : claim.recipient = userId
    · rw [if_neg (not_not_intro howner)]
      have hadmitted : ∀ found spot, db.getClaim claimId = some found → found.status = .pending →
          db.getSpot found.spotId = some spot → spot.isCompletedPrizedraw = false →
          RefreshAdmitted cfg permit db found spot := by
        intro found spot hfound hpending hspot hopen
        have hsame : claim = found := Option.some.inj (hclaim.symm.trans hfound)
        exact hrefresh found spot hfound (hsame ▸ howner) hpending hspot hopen
      cases refresh_admitted hadmitted with
      | inl hleft =>
        obtain ⟨hsame, hwaits⟩ := hleft
        rw [hsame, hclaim]
        dsimp only
        by_cases hpending : claim.status = .pending
        · rw [if_neg (not_not_intro hpending)]
          cases hspot : db.getSpot claim.spotId with
          | none => exact .refl
          | some spot =>
            have hpermit := hbeat claim spot hclaim howner hpending hspot (hwaits claim spot hclaim hpending hspot)
            dsimp only
            by_cases hzero : spot.claimDuration = 0
            · rw [if_pos hzero]
              obtain ⟨hwrite, status, -, hanswer⟩ :=
                installedPromoter_settles hclaim hpending hspot cfg (hpermit.immediate hzero)
              rw [hanswer]
              exact .single hwrite
            · rw [if_neg hzero]
              subst hid
              exact recordHeartbeat_writes hclaim hpending hspot hpermit
        · rw [if_pos hpending]
      | inr hdecided =>
        obtain ⟨hwrite, found, status, -, hne, hanswer⟩ := hdecided
        have hstatus : (found.withStatus db.now status).status ≠ .pending := hne
        rw [hanswer]
        dsimp only
        rw [if_pos hstatus]
        exact .single hwrite
    · rw [if_pos howner]

end Refresh

section Steps

variable {cfg : Settings P} {permit : Permit P} {db db' : Db P} {s : Sys P} {op : Op P}

/-- The claims stay, under their Spots. -/
lemma DbWrite.claimsKept (hwrite : DbWrite cfg permit db db') : ClaimsKept db db' := by
  cases hwrite with
  | claim hwrite => exact hwrite.claimsKept
  | undrafted _ _ _ hunclaimed => exact .of_claims_eq (deleteSpot_claims hunclaimed)
  | drawn => exact (claimsKept_updateClaimStatus db _ _).then (claimsKept_updateClaimStatus _ _ _)
  | paid => exact claimsKept_updateClaimStatus db _ _
  | banned => exact claimsKept_updateClaimStatus db _ _
  | _ => exact .of_claims_eq rfl

lemma DbWrites.paysDrawnClaim {row : Trans} (hwrites : DbWrites cfg permit db db') (h : db.PaysDrawnClaim row) :
    db'.PaysDrawnClaim row := by
  induction hwrites with
  | refl => exact h
  | tail _ hwrite ih =>
    intro claimId hof
    obtain ⟨claim, hclaim, hdrawn⟩ := ih claimId hof
    obtain ⟨claim', hclaim', hsame⟩ := hwrite.claimsKept.getClaim hclaim
    refine ⟨claim', hclaim', ?_⟩
    rw [hsame.spotId]
    exact hwrite.spotsHeld.drawn _ hdrawn

/-- Every write the operation may make is admitted. -/
def Op.Admitted (cfg : Settings P) (permit : Permit P) (db : Db P) : Op P → Prop
  | .claim req => EntryPermitted permit.toWritePermit cfg db req
  | .heartbeat claimId userId position accuracy =>
    ∀ claim spot, db.getClaim claimId = some claim → claim.recipient = userId → claim.status = .pending →
      db.getSpot claim.spotId = some spot →
        (spot.isCompletedPrizedraw = false → RefreshAdmitted cfg permit.toWritePermit db claim spot) ∧
        ((spot.isCompletedPrizedraw = false → StillWaits db claim spot) →
          HeartbeatPermitted permit.toWritePermit cfg db position accuracy claim spot)
  | .refresh claimId =>
    ∀ claim spot, db.getClaim claimId = some claim → claim.status = .pending → db.getSpot claim.spotId = some spot →
      spot.isCompletedPrizedraw = false → RefreshAdmitted cfg permit.toWritePermit db claim spot
  | .settlePrizedraw spotId _ => ∀ spot winners, db.getSpot spotId = some spot → permit.draw db spot winners
  | .banSpot spotId => permit.ban db spotId ∧ permit.ban (db.modifySpotStatus spotId .banned) spotId
  | _ => True

lemma admitted_all (op : Op P) : op.Admitted cfg .all db := by
  cases op with
  | claim req => exact ⟨fun _ _ _ _ _ => trivial, fun _ _ _ _ _ _ => trivial⟩
  | refresh claimId => exact fun _ _ _ _ _ _ => ⟨trivial, fun _ _ _ => trivial⟩
  | heartbeat claimId userId position accuracy =>
    intro claim spot _ _ _ _
    refine ⟨fun _ => ⟨trivial, fun _ _ _ => trivial⟩, ?_⟩
    exact fun _ => ⟨fun _ _ _ => trivial, fun _ _ _ => trivial, fun _ _ _ => trivial, fun _ _ _ _ => trivial⟩
  | settlePrizedraw spotId sample => exact fun _ _ _ => trivial
  | banSpot spotId => exact ⟨trivial, trivial⟩
  | _ => trivial

/-- The keys, where the claims are, and what the confirmations in flight have been told. -/
structure Sys.Kept (s : Sys P) : Prop where
  numbered : Numbered s.db
  placed : s.db.Placed
  told : ∀ row, .confirmation row true ∈ s.inFlight → s.db.PaysDrawnClaim row

lemma Sys.Kept.move {s' : Sys P} (h : s.Kept) (hwrites : DbWrites cfg permit s.db s'.db)
    (hnew : ∀ row, .confirmation row true ∈ s'.inFlight → .confirmation row true ∈ s.inFlight ∨
      s'.db.PaysDrawnClaim row) :
    DbWrites cfg permit s.db s'.db ∧ s'.Kept := by
  refine ⟨hwrites, hwrites.numbered h.numbered, hwrites.placed h.numbered h.placed, ?_⟩
  intro row hrow
  cases hnew row hrow with
  | inl hold => exact hwrites.paysDrawnClaim (h.told row hold)
  | inr htold => exact htold

/-- A send and what the guard makes of its answer. -/
lemma Inserts.dbWrites {p : NewTrans → Prop} {outcome : Outcome P ℕ} (h : Inserts p db outcome) :
    DbWrites cfg permit db outcome.1 := .single (h.ledgerOnly.write cfg permit)

lemma afterRefusedLeg_writes (db : Db P) (spotId : ℕ) (e : Raised) :
    DbWrites cfg permit db (afterRefusedLeg db spotId e) := by
  unfold afterRefusedLeg
  split
  · split_ifs
    · exact .single (.bookkept _ _ _ _)
    · exact .single (.bookkept _ _ _ _)
  · exact .single (.bookkept _ _ _ _)

lemma submitSpotCancellationTransactions_dbWrites (spotId fee : ℕ) :
    DbWrites cfg permit db (submitSpotCancellationTransactions cfg db spotId fee).1 := by
  unfold submitSpotCancellationTransactions
  cases hspot : db.getSpot spotId with
  | none => exact .refl
  | some spot =>
    have hid := getSpot_id hspot
    subst hid
    dsimp only
    by_cases hfinal : spot.status ≠ .draft ∧ spot.status ≠ .published
    · rw [if_pos hfinal]
    rw [if_neg hfinal]
    by_cases hprizedraw : spot.status = .published ∧ spot.prizeCount.isSome = true
    · rw [if_pos hprizedraw]
    rw [if_neg hprizedraw]
    by_cases hcomplete : publishedStandardSpotIsComplete db spot = true
    · rw [if_pos hcomplete]
    rw [if_neg hcomplete]
    have hmarked : DbWrite cfg permit db (markSpotCancellationStarted db spot.id) :=
      .marked hspot (Bool.not_eq_true _ ▸ hcomplete)
    by_cases hunpaid : spot.status = .published ∧
        (markSpotCancellationStarted db spot.id).getUnpaidSuccessfulStandardClaims spot.id ≠ []
    · rw [if_pos hunpaid]
      exact .single hmarked
    rw [if_neg hunpaid]
    apply orRollback_writes
    have hfound : ∃ marked, (markSpotCancellationStarted db spot.id).getSpot spot.id = some marked ∧
        marked.status = spot.status ∧ marked.prizeCount = spot.prizeCount ∧ marked.id = spot.id := by
      unfold Db.getSpot at hspot ⊢
      unfold markSpotCancellationStarted
      have hkey : ∀ s : Spot P, ({ s with cancellationStartedAt := some db.now } : Spot P).id = s.id := fun _ => rfl
      dsimp only
      rw [find?_updateWhere_key hkey, hspot]
      refine ⟨_, rfl, ?_, ?_, ?_⟩ <;> dsimp only <;> split_ifs <;> rfl
    obtain ⟨marked, hfound, hstatus, hcount, hid⟩ := hfound
    have hcloses : Closes (markSpotCancellationStarted db spot.id) marked .cancelled := by
      apply Closes.cancelled
      rw [hstatus, hcount]
      exact isCancellable hfinal hprizedraw
    have hclosed : DbWrite cfg permit (markSpotCancellationStarted db spot.id)
        ((markSpotCancellationStarted db spot.id).modifySpotStatus spot.id .cancelled) := by
      have hmade : DbWrite cfg permit (markSpotCancellationStarted db spot.id)
          ((markSpotCancellationStarted db spot.id).modifySpotStatus marked.id .cancelled) :=
        .closed (by rw [hid]; exact hfound) hcloses nofun
      rw [hid] at hmade
      exact hmade
    unfold cancelFromLedger
    dsimp only
    split_ifs
    all_goals first
      | exact .single hmarked
      | exact (ReflTransGen.single hmarked).tail hclosed

lemma submitUnderLease_writes (lease : CancellationLease) :
    DbWrites cfg permit db (submitUnderLease cfg db lease).1 := by
  have hwrites := @submitSpotCancellationTransactions_dbWrites _ cfg permit db lease.spotId lease.policy.feeAmount
  unfold submitUnderLease
  generalize submitSpotCancellationTransactions cfg db lease.spotId lease.policy.feeAmount = outcome at hwrites
  obtain ⟨made, e | result⟩ := outcome
  · dsimp only
    split_ifs
    · exact hwrites.tail (.bookkept _ _ _ _)
    · exact hwrites.tail (.bookkept _ _ _ _)
    · exact hwrites.tail (.bookkept _ _ _ _)
  · cases result with
    | fixed job => exact hwrites
    | deferred reason => exact hwrites.tail (.bookkept _ _ _ _)
    | cancelled => exact hwrites.tail (.bookkept _ _ _ _)

/-- The lease is a flag of the guard and a snapshot of the policy. -/
lemma acquireCancellationLease_writes {spotId fee : ℕ} {feeAddress : Address} {transactions : List Trans}
    {failureProven : Bool} :
    DbWrites cfg permit db (acquireCancellationLease cfg db spotId fee feeAddress transactions failureProven).1 := by
  have hbooked : ∀ made : Db P, made = { db with
      remainderSettled := made.remainderSettled, cancellationPolicy := made.cancellationPolicy,
      cancellationGuard := made.cancellationGuard, banRecords := made.banRecords } → DbWrites cfg permit db made := by
    intro made hmade
    rw [hmade]
    exact .single (.bookkept _ _ _ _)
  apply hbooked
  unfold acquireCancellationLease
  dsimp only
  split
  · rfl
  · cases (db.cancellationGuard spotId).isSome with
    | false =>
      rw [if_neg Bool.false_ne_true]
      split_ifs
      · rfl
      · cases db.cancellationPolicy spotId with
        | some policy => rfl
        | none =>
          dsimp only
          split <;> rfl
    | true =>
      rw [if_pos rfl]
      split_ifs
      · rfl
      · cases (db.releaseGuard spotId).cancellationPolicy spotId with
        | some policy => rfl
        | none =>
          dsimp only
          split <;> rfl

lemma sendCancellationFee_writes (lease : CancellationLease) (job : CancellationJob) (reply : Reply) :
    DbWrites cfg permit db (sendCancellationFee cfg db lease job reply).1 ∧
      ∀ row, .confirmation row true ∉ (sendCancellationFee cfg db lease job reply).2 := by
  have hwrites : DbWrites cfg permit db
      (submitPlatformFeeTransaction cfg db job.spotId job.feeAmount lease.policy.feeAddress reply.txHash).1 :=
    (submitPlatformFeeTransaction_inserts job.spotId job.feeAmount lease.policy.feeAddress reply.txHash).dbWrites
  have hrefund : ∀ address row, Continuation.confirmation row true ∉ [Continuation.cancellationRefund lease job address] := by
    intro address row hmem
    cases List.mem_singleton.mp hmem
  unfold sendCancellationFee
  by_cases hunknown : 0 < job.refundAmount ∧ reply.refundAddress.isNone = true
  · rw [if_pos hunknown]
    exact ⟨.single (.bookkept _ _ _ _), nofun⟩
  rw [if_neg hunknown]
  by_cases hnone : job.feeAmount = 0
  · rw [if_pos hnone]
    exact ⟨.refl, hrefund _⟩
  rw [if_neg hnone]
  generalize submitPlatformFeeTransaction cfg db job.spotId job.feeAmount lease.policy.feeAddress reply.txHash = outcome
    at hwrites
  obtain ⟨made, e | _⟩ := outcome
  · exact ⟨hwrites.trans (afterRefusedLeg_writes made job.spotId e), nofun⟩
  · dsimp only
    split_ifs
    · exact ⟨hwrites, hrefund _⟩
    · exact ⟨hwrites.tail (.bookkept _ _ _ _), nofun⟩

lemma sendCancellationRefund_writes (job : CancellationJob) (refundAddress : Address) (reply : Reply) :
    DbWrites cfg permit db (sendCancellationRefund cfg db job refundAddress reply) := by
  have hwrites : DbWrites cfg permit db
      (submitSpotRefundTransaction cfg db job.spotId job.refundAmount refundAddress reply.txHash).1 :=
    (submitSpotRefundTransaction_inserts job.spotId job.refundAmount refundAddress reply.txHash).dbWrites
  unfold sendCancellationRefund
  by_cases hnone : job.refundAmount = 0
  · rw [if_pos hnone]
    exact .single (.bookkept _ _ _ _)
  rw [if_neg hnone]
  generalize submitSpotRefundTransaction cfg db job.spotId job.refundAmount refundAddress reply.txHash = outcome
    at hwrites
  obtain ⟨made, e | _⟩ := outcome
  · exact hwrites.trans (afterRefusedLeg_writes made job.spotId e)
  · dsimp only
    split_ifs <;> exact hwrites.tail (.bookkept _ _ _ _)

/-- One transaction of a worker. -/
lemma resume_writes (reply : Reply) {k : Continuation}
    (htold : ∀ row, k = .confirmation row true → db.PaysDrawnClaim row) :
    DbWrites cfg permit db (resume cfg db reply k).1 ∧
      ∀ row, .confirmation row true ∉ (resume cfg db reply k).2 := by
  unfold NimHunt.resume
  cases k with
  | claimReward job => exact ⟨(submitClaimRewardTransaction_inserts job _).dbWrites, nofun⟩
  | creationFee spotId amount => exact ⟨(submitSpotCreationFeeTransaction_inserts spotId amount _).dbWrites, nofun⟩
  | cancellation lease =>
    have hwrites := @submitUnderLease_writes _ cfg permit db lease
    dsimp only
    generalize submitUnderLease cfg db lease = outcome at hwrites
    obtain ⟨made, _ | job⟩ := outcome
    · exact ⟨hwrites, nofun⟩
    · refine ⟨hwrites, ?_⟩
      intro row hmem
      cases List.mem_singleton.mp hmem
  | cancellationFee lease job => exact sendCancellationFee_writes lease job reply
  | cancellationRefund lease job refundAddress => exact ⟨sendCancellationRefund_writes job refundAddress reply, nofun⟩
  | remainder job =>
    dsimp only
    cases reply.refundAddress with
    | none => exact ⟨.refl, nofun⟩
    | some refundAddress =>
      dsimp only
      split_ifs
      · refine ⟨.refl, ?_⟩
        intro row hmem
        cases List.mem_singleton.mp hmem
      · exact ⟨.refl, nofun⟩
  | remainderRefund job refundAddress =>
    exact ⟨(submitSpotRemainderRefundTransaction_inserts job.spotId job.amount refundAddress _).dbWrites, nofun⟩
  | banSweep spotId amount => exact ⟨(submitBanSweep_inserts spotId amount _).dbWrites, nofun⟩
  | confirmation row payout =>
    dsimp only
    cases verifiedTransfer cfg row with
    | none => exact ⟨.refl, nofun⟩
    | some transfer =>
      refine ⟨markTransAsConfirmed_writes transfer ?_, nofun⟩
      intro hpayout
      exact htold row (hpayout ▸ rfl)

/-- What the claim route and the heartbeat route commit is what was written, or nothing. -/
lemma claimRoute_dbWrites (hnumbered : Numbered db) {req : ClaimRequest P}
    (hpermit : EntryPermitted permit.toWritePermit cfg db req) : DbWrites cfg permit db (claimRoute cfg db req) := by
  have hwrites : DbWrites cfg permit db (installedCreateClaimAttempt cfg db req).1 :=
    (claimRoute_writes hnumbered.keyed hpermit).dbWrites
  unfold claimRoute
  generalize installedCreateClaimAttempt cfg db req = outcome at hwrites
  obtain ⟨made, e | claim⟩ := outcome
  · dsimp only
    split_ifs
    · exact hwrites
    · exact .refl
  · exact hwrites

lemma claimLocationHeartbeatApi_dbWrites {claimId userId : ℕ} {position : P} {accuracy : Option ℚ}
    (hpermit : Op.Admitted cfg permit db (.heartbeat claimId userId position accuracy)) :
    DbWrites cfg permit db (claimLocationHeartbeatApi cfg db claimId userId position accuracy) := by
  have hwrites : DbWrites cfg permit db (processDurationClaimLocationHeartbeat cfg (installedPromoter cfg) db claimId
      userId position accuracy).1 := by
    apply ClaimWrites.dbWrites
    apply heartbeat_admitted
    · exact fun claim spot hclaim howner hpending hspot => (hpermit claim spot hclaim howner hpending hspot).1
    · exact fun claim spot hclaim howner hpending hspot => (hpermit claim spot hclaim howner hpending hspot).2
  unfold claimLocationHeartbeatApi
  generalize processDurationClaimLocationHeartbeat cfg (installedPromoter cfg) db claimId userId position
    accuracy = outcome at hwrites
  obtain ⟨made, e | claim⟩ := outcome
  · dsimp only
    split_ifs
    · exact hwrites
    · exact .refl
  · exact hwrites

lemma bindWallet_writes {userId : ℕ} {signer : Address} : DbWrites cfg permit db (db.bindWallet cfg userId signer) := by
  unfold Db.bindWallet
  by_cases huser : userId = 0 ∨ (db.getUser userId).isNone = true
  · rw [if_pos huser]
  rw [if_neg huser]
  cases hsigner : cfg.normaliseRealNimiqAddress signer with
  | error message => exact .refl
  | ok walletAddress =>
    dsimp only
    by_cases hother : (boundWallet cfg db userId).any (· ≠ walletAddress) = true
    · rw [if_pos hother]
    · rw [if_neg hother]
      refine .single (.bound (Nat.pos_of_ne_zero fun hzero => huser (.inl hzero)) hsigner ?_)
      intro previous hprevious
      by_contra hne
      rw [hprevious] at hother
      exact hother (decide_eq_true hne)

/-- The claim of a row that pays a drawn winner. -/
lemma paysDrawnClaim_of_told {row : Trans} (h : claimTransactionIsCompletedPrizedrawPayout db row = true) :
    db.PaysDrawnClaim row := by
  unfold claimTransactionIsCompletedPrizedrawPayout at h
  intro claimId hof
  rw [Bool.and_eq_true, hof] at h
  obtain ⟨-, hdrawn⟩ := h
  dsimp only [Option.bind] at hdrawn
  cases hclaim : db.getClaim claimId with
  | none =>
    rw [hclaim] at hdrawn
    cases hdrawn
  | some claim =>
    rw [hclaim] at hdrawn
    dsimp only at hdrawn
    cases hspot : db.getSpot claim.spotId with
    | none =>
      rw [hspot] at hdrawn
      cases hdrawn
    | some spot =>
      rw [hspot] at hdrawn
      have hcompleted : spot.status = .completed ∧ spot.prizeCount.isSome = true := of_decide_eq_true hdrawn
      refine ⟨claim, rfl, spot, hspot, hcompleted.2, ?_, ?_⟩
      · rw [hcompleted.1]
        nofun
      · rw [hcompleted.1]
        nofun

/-- Every operation is a chain of admitted writes. -/
theorem step_writes (h : s.Kept) (hop : op.Admitted cfg permit s.db) :
    DbWrites cfg permit s.db (step cfg s op).db ∧ (step cfg s op).Kept := by
  have hquiet : ∀ db : Db P, DbWrites cfg permit s.db db → DbWrites cfg permit s.db (s.write db).db ∧ (s.write db).Kept :=
    fun db hwrites => h.move hwrites fun _ hrow => .inl hrow
  have hstarts : ∀ (db : Db P) (next : List Continuation), DbWrites cfg permit s.db db →
      (∀ row, .confirmation row true ∈ next → db.PaysDrawnClaim row) →
      DbWrites cfg permit s.db (s.start db next).db ∧ (s.start db next).Kept := by
    intro db next hwrites hnext
    exact h.move hwrites fun row hrow => (List.mem_append.mp hrow).imp_right (hnext row)
  unfold NimHunt.step
  cases op with
  | tick seconds => exact hquiet _ (.single (.clock _ (Nat.le_add_right _ _)))
  | registerUser user =>
    apply hquiet
    unfold Db.registerUser
    split_ifs
    · exact .refl
    · exact .single (.users _)
  | setUserStatus userId status => exact hquiet _ (.single (.users _))
  | bindWallet userId signer => exact hquiet _ bindWallet_writes
  | createSpot createdBy depositAddress fields => exact hquiet _ (createSpot_writes createdBy depositAddress fields)
  | createPrizedraw createdBy depositAddress fields prizeCount =>
    exact hquiet _ (createPrizedraw_writes createdBy depositAddress fields prizeCount)
  | modifyDraft spotId edit => exact hquiet _ (modifyDraftSpot_writes spotId edit)
  | deleteDraft userId spotId => exact hquiet _ (deleteDraftSpot_writes h.placed userId spotId)
  | publish spotId draws => exact hquiet _ (publishSpot_writes spotId draws)
  | claim req => exact hquiet _ (claimRoute_dbWrites h.numbered hop)
  | heartbeat claimId userId position accuracy => exact hquiet _ (claimLocationHeartbeatApi_dbWrites hop)
  | refresh claimId =>
    apply hquiet
    cases refresh_admitted hop with
    | inl hsame => rw [hsame.1]
    | inr hwrite => exact .single (.claim hwrite.1)
  | settlePrizedraw spotId sample => exact hquiet _ (settlePrizedrawSpotIfReady_writes sample spotId hop)
  | retryPrizedrawPayouts spotId =>
    apply hstarts _ _ (retryPendingPrizedrawPayoutsForSpot_writes h.numbered.keyed spotId)
    intro row hrow
    obtain ⟨job, -, hjob⟩ := List.mem_map.mp hrow
    cases hjob
  | payoutStandardClaim claimId =>
    apply hstarts _ _ .refl
    intro row hrow
    obtain ⟨job, -, hjob⟩ := List.mem_map.mp hrow
    cases hjob
  | recordDeposit userId spotId amount fromAddress txHash =>
    exact hquiet _ (.single (recordSpotDepositTransaction_writes.ledgerOnly.write cfg permit))
  | payCreationFee spotId =>
    apply hstarts _ _ .refl
    intro row hrow
    obtain ⟨amount, -, hfee⟩ := List.mem_map.mp hrow
    cases hfee
  | cancelSpot spotId cancellationFee feeAddress transactions failureProven =>
    dsimp only
    have hwrites := @acquireCancellationLease_writes _ cfg permit s.db spotId cancellationFee feeAddress transactions
      failureProven
    generalize acquireCancellationLease cfg s.db spotId cancellationFee feeAddress transactions failureProven = outcome
      at hwrites
    obtain ⟨made, message | lease⟩ := outcome
    · exact hquiet made hwrites
    · apply hstarts made _ hwrites
      intro row hrow
      cases List.mem_singleton.mp hrow
  | settleRemainder spotId =>
    dsimp only
    have hwrites := @settleSpotRemainderIfReady_writes _ cfg permit s.db spotId
    generalize settleSpotRemainderIfReady cfg s.db spotId = outcome at hwrites
    obtain ⟨made, result⟩ := outcome
    cases result with
    | prepared job =>
      apply hstarts made _ hwrites
      intro row hrow
      cases List.mem_singleton.mp hrow
    | _ => exact hquiet made hwrites
  | banSpot spotId => exact hquiet _ (banSpot_writes spotId hop.1 hop.2)
  | sweepBannedSpot spotId =>
    dsimp only
    have hwrites := @attemptBannedSpotSweep_writes _ cfg permit s.db spotId
    generalize attemptBannedSpotSweep s.db spotId = outcome at hwrites
    obtain ⟨made, result⟩ := outcome
    cases result with
    | submit amount =>
      apply hstarts made _ hwrites
      intro row hrow
      cases List.mem_singleton.mp hrow
    | _ => exact hquiet made hwrites
  | confirmTrans transId =>
    dsimp only
    cases s.db.getTransaction transId with
    | none => exact ⟨.refl, h⟩
    | some row =>
      dsimp only
      split_ifs
      · exact ⟨.refl, h⟩
      · apply hstarts _ _ .refl
        intro other hrow
        injection List.mem_singleton.mp hrow with hsame htold
        rw [hsame]
        exact paysDrawnClaim_of_told htold.symm
  | failTrans transId =>
    dsimp only
    cases s.db.getTransaction transId with
    | none => exact ⟨.refl, h⟩
    | some row => exact hquiet _ (markTransAsFailed_writes row)
  | resume index reply =>
    dsimp only
    cases hk : s.inFlight[index]? with
    | none => exact ⟨.refl, h⟩
    | some k =>
      have hmem : k ∈ s.inFlight := List.mem_of_getElem? hk
      obtain ⟨hwrites, hnext⟩ := @resume_writes _ cfg permit s.db reply k fun row hrow => h.told row (hrow ▸ hmem)
      refine h.move hwrites ?_
      intro row hrow
      cases List.mem_append.mp hrow with
      | inl hold => exact .inl (List.eraseIdx_subset hold)
      | inr hnew => exact absurd hnew (hnext row)
  | crash index => exact h.move .refl fun row hrow => .inl (List.eraseIdx_subset hrow)

/-- A fresh deployment. -/
lemma kept_initial : (Sys.initial : Sys P).Kept where
  numbered := ⟨⟨List.nodup_nil, List.nodup_nil, nofun, List.nodup_nil, nofun, List.nodup_nil, nofun⟩, nofun⟩
  placed := nofun
  told _ hrow := nomatch hrow

end Steps

end NimHunt
