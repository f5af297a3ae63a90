import NimHunt.Proofs.ClaimEntries

/-!
# Who holds a claim code

A code is consumed in the write that turns its claim SUCCESS, and only drafts lose codes that nobody uses.  What can
part a code from the success it was used for is the ban of its Spot alone.
-/

namespace NimHunt

open Lib Relation

variable {P : Type}

section Codes

variable {cfg : Settings P} {permit : Permit P} {db db' : Db P} {claim : Claim P} {spot : Spot P}

/-- The claim may be the user of a code: it has succeeded, and at most the ban of its Spot has failed it since. -/
def Db.MayHold (db : Db P) (c : Claim P) : Prop :=
  ∃ spot, db.getSpot c.spotId = some spot ∧ spot.usePassword = true ∧
    (c.status = .success ∨ c.status = .failed ∧ spot.status = .banned)

/-- The claim has succeeded on a Spot with codes. -/
def Db.MustHold (db : Db P) (c : Claim P) : Prop :=
  c.status = .success ∧ ∃ spot, db.getSpot c.spotId = some spot ∧ spot.usePassword = true

lemma Db.not_mayHold {c : Claim P} (hpending : c.status = .pending) : ¬ db.MayHold c := by
  rintro ⟨spot, -, -, hsuccess | hfailed⟩
  · cases hpending.symm.trans hsuccess
  · cases hpending.symm.trans hfailed.1

/-- The codes and their users, and the codes that waiting claims try. -/
structure CodesSound (db : Db P) : Prop where
  used : ∀ cc ∈ db.claimCodes, ∀ claimId, cc.usedBy = some claimId →
    ∃ c ∈ db.claims, c.id = claimId ∧ c.spotId = cc.spotId ∧ db.MayHold c
  single : ∀ cc ∈ db.claimCodes, ∀ cc' ∈ db.claimCodes, ∀ claimId, cc.usedBy = some claimId →
    cc'.usedBy = some claimId → cc = cc'
  held : ∀ c ∈ db.claims, db.MustHold c → ∃ cc ∈ db.claimCodes, cc.usedBy = some c.id
  tried : ∀ a ∈ db.claimCodeAttempts, ∀ cc ∈ db.claimCodes, cc.id = a.claimCodeId →
    ∀ c ∈ db.claims, c.id = a.claimId → cc.spotId = c.spotId
  known : ∀ a ∈ db.claimCodeAttempts, a.claimId ≤ db.claimSeq ∧ a.claimCodeId ≤ db.claimCodeSeq

/-- Claims and Spots change, and neither frees the user of a code nor lets a claim succeed. -/
lemma CodesSound.move (h : CodesSound db) (hcodes : db'.claimCodes = db.claimCodes)
    (hattempts : ∀ a ∈ db'.claimCodeAttempts, a ∈ db.claimCodeAttempts) (hseq : db.claimSeq ≤ db'.claimSeq)
    (hcodeSeq : db'.claimCodeSeq = db.claimCodeSeq)
    (hstay : ∀ c ∈ db.claims, db.MayHold c → ∃ c' ∈ db'.claims, c'.id = c.id ∧ c'.spotId = c.spotId ∧ db'.MayHold c')
    (hcome : ∀ c' ∈ db'.claims,
      (∃ c ∈ db.claims, c.id = c'.id ∧ c.spotId = c'.spotId ∧ (db'.MustHold c' → db.MustHold c)) ∨
      db.claimSeq < c'.id ∧ ¬ db'.MustHold c') : CodesSound db' := by
  refine ⟨?_, ?_, ?_, ?_, ?_⟩
  · intro cc hcc claimId hused
    obtain ⟨c, hc, hid, hof, hholds⟩ := h.used cc (hcodes ▸ hcc) claimId hused
    obtain ⟨c', hc', hid', hof', hholds'⟩ := hstay c hc hholds
    exact ⟨c', hc', hid'.trans hid, hof'.trans hof, hholds'⟩
  · rw [hcodes]
    exact h.single
  · intro c' hc' hholds
    rw [hcodes]
    rcases hcome c' hc' with ⟨c, hc, hid, -, hbefore⟩ | ⟨-, hnone⟩
    · rw [← hid]
      exact h.held c hc (hbefore hholds)
    · exact absurd hholds hnone
  · intro a ha cc hcc hcode c' hc' hclaim
    rcases hcome c' hc' with ⟨c, hc, hid, hof, -⟩ | ⟨hfresh, -⟩
    · rw [← hof]
      exact h.tried a (hattempts a ha) cc (hcodes ▸ hcc) hcode c hc (hid.trans hclaim)
    · have hle := (h.known a (hattempts a ha)).1
      omega
  · intro a ha
    obtain ⟨hclaim, hcode⟩ := h.known a (hattempts a ha)
    exact ⟨hclaim.trans hseq, hcodeSeq ▸ hcode⟩

/-- Claims are rewritten in place. -/
lemma CodesSound.updated {sel : Claim P → Bool} {f : Claim P → Claim P} (h : CodesSound db)
    (hclaims : db'.claims = updateWhere sel f db.claims) (hspots : db'.spots = db.spots)
    (hcodes : db'.claimCodes = db.claimCodes) (hattempts : ∀ a ∈ db'.claimCodeAttempts, a ∈ db.claimCodeAttempts)
    (hseq : db'.claimSeq = db.claimSeq) (hcodeSeq : db'.claimCodeSeq = db.claimCodeSeq)
    (hsame : ∀ c, (f c).id = c.id ∧ (f c).spotId = c.spotId)
    (hrow : ∀ c ∈ db.claims, sel c = true →
      (db.MayHold c → db.MayHold (f c)) ∧ (db.MustHold (f c) → db.MustHold c)) : CodesSound db' := by
  have hmay : ∀ c, db'.MayHold c ↔ db.MayHold c := by
    intro c
    unfold Db.MayHold
    rw [getSpot_of_spots hspots]
  have hmust : ∀ c, db'.MustHold c ↔ db.MustHold c := by
    intro c
    unfold Db.MustHold
    rw [getSpot_of_spots hspots]
  refine h.move hcodes hattempts hseq.ge hcodeSeq ?_ ?_
  · intro c hc hholds
    refine ⟨if sel c then f c else c, hclaims ▸ mem_updateWhere.mpr ⟨c, hc, rfl⟩, ?_⟩
    by_cases hsel : sel c = true
    · rw [if_pos hsel]
      exact ⟨(hsame c).1, (hsame c).2, (hmay _).mpr ((hrow c hc hsel).1 hholds)⟩
    · rw [if_neg hsel]
      exact ⟨rfl, rfl, (hmay c).mpr hholds⟩
  · intro c' hc'
    rw [hclaims] at hc'
    obtain ⟨c, hc, hnext⟩ := mem_updateWhere.mp hc'
    refine .inl ⟨c, hc, ?_⟩
    rw [← hnext]
    by_cases hsel : sel c = true
    · rw [if_pos hsel]
      exact ⟨(hsame c).1.symm, (hsame c).2.symm, fun hholds => (hrow c hc hsel).2 ((hmust _).mp hholds)⟩
    · rw [if_neg hsel]
      exact ⟨rfl, rfl, (hmust c).mp⟩

/-- Spots change, and those that take claims keep their terms. -/
lemma CodesSound.terms (h : CodesSound db) (hplaced : db.Placed) (hterms : TermsKept db db')
    (hclaims : db'.claims = db.claims) (hcodes : db'.claimCodes = db.claimCodes)
    (hattempts : ∀ a ∈ db'.claimCodeAttempts, a ∈ db.claimCodeAttempts) (hseq : db'.claimSeq = db.claimSeq)
    (hcodeSeq : db'.claimCodeSeq = db.claimCodeSeq) : CodesSound db' := by
  refine h.move hcodes hattempts hseq.ge hcodeSeq ?_ ?_
  · rintro c hc ⟨spot, hspot, hcoded, hstatus⟩
    obtain ⟨found, hfound, hdraft⟩ := hplaced c hc
    rw [Option.some.inj (hfound.symm.trans hspot)] at hdraft
    obtain ⟨status, marker, -, hbanned, hspot'⟩ := hterms c.spotId spot hspot hdraft
    refine ⟨c, hclaims ▸ hc, rfl, rfl, _, hspot', hcoded, ?_⟩
    exact hstatus.imp_right fun hfailed => ⟨hfailed.1, hbanned hfailed.2⟩
  · intro c hc
    rw [hclaims] at hc
    refine .inl ⟨c, hc, rfl, rfl, ?_⟩
    rintro ⟨hsuccess, spot', hspot', hcoded⟩
    obtain ⟨spot, hspot, hdraft⟩ := hplaced c hc
    obtain ⟨status, marker, -, -, hlater⟩ := hterms c.spotId spot hspot hdraft
    rw [← Option.some.inj (hlater.symm.trans hspot')] at hcoded
    exact ⟨hsuccess, spot, hspot, hcoded⟩

/-- A claim that is decided loses the code it tries. -/
lemma attempts_updateClaimStatus (db : Db P) (sel : Claim P → Bool) (status : ClaimStatus) :
    ∀ a ∈ (db.updateClaimStatus sel status).claimCodeAttempts, a ∈ db.claimCodeAttempts := by
  intro a ha
  unfold Db.updateClaimStatus at ha
  dsimp only at ha
  split_ifs at ha
  · exact ha
  · exact (List.mem_filter.mp ha).1

/-- Claims that wait are failed. -/
lemma CodesSound.failedRows (h : CodesSound db) {sel : Claim P → Bool}
    (hpending : ∀ c ∈ db.claims, sel c = true → c.status = .pending) :
    CodesSound (db.updateClaimStatus sel .failed) := by
  refine h.updated rfl rfl rfl (attempts_updateClaimStatus db sel .failed) rfl rfl (fun _ => ⟨rfl, rfl⟩) ?_
  intro c hc hsel
  constructor
  · exact fun hholds => absurd hholds (Db.not_mayHold (hpending c hc hsel))
  · rintro ⟨hsuccess, -⟩
    cases hsuccess

lemma CodesSound.failPendingStandard (h : CodesSound db) (id : ℕ) :
    CodesSound (db.failPendingStandardDurationClaimsIfCapacityFull id) := by
  unfold Db.failPendingStandardDurationClaimsIfCapacityFull
  cases db.getSpot id with
  | none => exact h
  | some spot =>
    dsimp only
    split_ifs
    · exact h
    · exact h
    · exact h
    · exact h.failedRows fun c _ hsel => (of_decide_eq_true hsel).2

/-- A claim that waits holds no code. -/
lemma CodesSound.unused (h : CodesSound db) (hkeys : (db.claims.map Claim.id).Nodup) (hclaim : claim ∈ db.claims)
    (hpending : claim.status = .pending) : ∀ cc ∈ db.claimCodes, cc.usedBy ≠ some claim.id := by
  intro cc hcc hused
  obtain ⟨c, hc, hid, -, hholds⟩ := h.used cc hcc claim.id hused
  rw [eq_of_key_eq hkeys hc hclaim hid] at hholds
  exact Db.not_mayHold hpending hholds

/-- A claim that waited has no code to release. -/
lemma CodesSound.released (h : CodesSound db) (hkeys : (db.claims.map Claim.id).Nodup)
    (hclaim : db.getClaim claim.id = some claim) (hpending : claim.status = .pending) :
    (db.setClaimStatusToFailed claim.id).releaseCodeFromClaim claim.id = db.setClaimStatusToFailed claim.id := by
  have hunused := h.unused hkeys (List.mem_of_find?_eq_some hclaim) hpending
  unfold Db.releaseCodeFromClaim
  rw [updateWhere_eq_self]
  intro cc hcc hsel
  exact absurd (of_decide_eq_true hsel) (hunused cc hcc)

/-- A code that is used is not dropped. -/
lemma mem_undropped {drop : ClaimCode → Bool} (hunused : ∀ cc, drop cc = true → cc.usedBy = none) {cc : ClaimCode}
    (hcc : cc ∈ db.claimCodes) (hused : cc.usedBy.isSome = true) :
    cc ∈ db.claimCodes.filter fun cc => !drop cc := by
  refine List.mem_filter.mpr ⟨hcc, ?_⟩
  rw [Bool.not_eq_true']
  by_contra hdropped
  rw [hunused cc (Bool.eq_true_of_not_eq_false hdropped)] at hused
  cases hused

/-- A claim of a Spot without codes succeeds. -/
lemma CodesSound.plainSuccess (h : CodesSound db) (hkeys : (db.claims.map Claim.id).Nodup)
    (hclaim : db.getClaim claim.id = some claim) (hspot : db.getSpot claim.spotId = some spot)
    (huncoded : spot.usePassword = false) : CodesSound (db.setClaimStatusToSuccess claim.id) := by
  refine h.updated rfl rfl rfl (attempts_updateClaimStatus db _ .success) rfl rfl (fun _ => ⟨rfl, rfl⟩) ?_
  intro c hc hsel
  have hsame : c = claim := by
    have hfound := (find?_key_eq_some hkeys).mpr ⟨hc, of_decide_eq_true hsel⟩
    exact Option.some.inj (hfound.symm.trans hclaim)
  have hno : ∀ found, db.getSpot claim.spotId = some found → found.usePassword = true → False := by
    intro found hfound hcoded
    rw [← Option.some.inj (hspot.symm.trans hfound), huncoded] at hcoded
    cases hcoded
  rw [hsame]
  constructor
  · rintro ⟨found, hfound, hcoded, -⟩
    exact (hno found hfound hcoded).elim
  · rintro ⟨-, found, hfound, hcoded⟩
    exact (hno found hfound hcoded).elim

/-- What consuming a code for a waiting claim does: one free code of the claim's Spot becomes its own. -/
lemma CodesSound.consumed (h : CodesSound db) (hkeyed : db.Keyed) (hclaim : claim ∈ db.claims)
    (hpending : claim.status = .pending) {code : ClaimCode} (hattempt : db.attemptForClaim claim.id = some code)
    {consumed : Db P} (hconsume : db.consumeClaimCode code.id claim.id = (consumed, true)) :
    code ∈ db.claimCodes ∧ code.spotId = claim.spotId ∧ code.usedBy = none ∧
      consumed = { db with
        claimCodes := updateWhere (fun cc => cc.id = code.id) (fun cc => { cc with usedBy := some claim.id })
          db.claimCodes } := by
  unfold Db.attemptForClaim at hattempt
  obtain ⟨a, hfound, hcode⟩ := Option.bind_eq_some_iff.mp hattempt
  obtain ⟨hmem, hid⟩ := (find?_key_eq_some hkeyed.codeKeys).mp hcode
  have ha := List.mem_of_find?_eq_some hfound
  have htried : a.claimId = claim.id := by simpa using List.find?_some hfound
  have hof : code.spotId = claim.spotId := h.tried a ha code hmem hid claim hclaim htried.symm
  have hsame : ∀ cc ∈ db.claimCodes, cc.id = code.id → cc = code := fun cc hcc hthis =>
    eq_of_key_eq hkeyed.codeKeys hcc hmem hthis
  unfold Db.consumeClaimCode at hconsume
  obtain ⟨hdb, hany⟩ := Prod.mk.inj hconsume
  have hfree : code.usedBy = none := by
    obtain ⟨cc, hcc, hsel⟩ := List.any_eq_true.mp hany
    obtain ⟨hthis, hnone | hown⟩ := of_decide_eq_true hsel
    · rw [← hsame cc hcc hthis]
      exact hnone
    · exact absurd hown (h.unused hkeyed.claimKeys hclaim hpending cc hcc)
  refine ⟨hmem, hof, hfree, ?_⟩
  rw [← hdb, updateWhere_congr]
  intro cc hcc
  by_cases hthis : cc.id = code.id
  · rw [if_pos (decide_eq_true ⟨hthis, .inl (hsame cc hcc hthis ▸ hfree)⟩), if_pos (decide_eq_true hthis)]
  · rw [if_neg fun hsel => hthis (of_decide_eq_true hsel).1, if_neg fun hsel => hthis (of_decide_eq_true hsel)]

/-- A claim of a Spot with codes succeeds, and a code becomes its own. -/
lemma CodesSound.codedSuccess (h : CodesSound db) (hkeyed : db.Keyed) (hclaim : db.getClaim claim.id = some claim)
    (hpending : claim.status = .pending) (hspot : db.getSpot claim.spotId = some spot)
    (hcoded : spot.usePassword = true) {code : ClaimCode} (hattempt : db.attemptForClaim claim.id = some code)
    {consumed : Db P} (hconsume : db.consumeClaimCode code.id claim.id = (consumed, true)) :
    CodesSound (consumed.setClaimStatusToSuccess claim.id) := by
  have hmem : claim ∈ db.claims := List.mem_of_find?_eq_some hclaim
  have hunused := h.unused hkeyed.claimKeys hmem hpending
  obtain ⟨hcode, hof, hfree, rfl⟩ := h.consumed hkeyed hmem hpending hattempt hconsume
  have hcodes : ∀ cc', cc' ∈ updateWhere (fun cc : ClaimCode => cc.id = code.id)
      (fun cc => { cc with usedBy := some claim.id }) db.claimCodes ↔
      cc' = { code with usedBy := some claim.id } ∨ cc' ∈ db.claimCodes ∧ cc'.id ≠ code.id :=
    mem_updateWhere_key hkeyed.codeKeys hcode
  have hclaims : ∀ c', c' ∈ updateWhere (fun c : Claim P => c.id = claim.id) (Claim.withStatus db.now .success)
      db.claims ↔ c' = claim.withStatus db.now .success ∨ c' ∈ db.claims ∧ c'.id ≠ claim.id :=
    mem_updateWhere_key hkeyed.claimKeys hmem
  have hattempts := attempts_updateClaimStatus ({ db with
    claimCodes := updateWhere (fun cc => cc.id = code.id) (fun cc => { cc with usedBy := some claim.id })
      db.claimCodes } : Db P) (fun c => c.id = claim.id) .success
  refine ⟨?_, ?_, ?_, ?_, fun a ha => h.known a (hattempts a ha)⟩
  · intro cc' hcc' claimId hused
    rcases (hcodes cc').mp hcc' with rfl | ⟨hcc, -⟩
    · rw [← Option.some.inj hused]
      exact ⟨_, (hclaims _).mpr (.inl rfl), rfl, hof.symm, spot, hspot, hcoded, .inl rfl⟩
    · obtain ⟨c, hc, hid, hthis, hholds⟩ := h.used cc' hcc claimId hused
      have hother : c.id ≠ claim.id := fun hsame => hunused cc' hcc (by rw [hused, ← hid, hsame])
      exact ⟨c, (hclaims c).mpr (.inr ⟨hc, hother⟩), hid, hthis, hholds⟩
  · intro cc hcc cc' hcc' claimId hused hused'
    rcases (hcodes cc).mp hcc with rfl | ⟨hold, -⟩
    · rcases (hcodes cc').mp hcc' with rfl | ⟨hold', -⟩
      · rfl
      · exact absurd (hused'.trans hused.symm) (hunused cc' hold')
    · rcases (hcodes cc').mp hcc' with rfl | ⟨hold', -⟩
      · exact absurd (hused.trans hused'.symm) (hunused cc hold)
      · exact h.single cc hold cc' hold' claimId hused hused'
  · intro c' hc' hholds
    rcases (hclaims c').mp hc' with rfl | ⟨hc, hother⟩
    · exact ⟨_, (hcodes _).mpr (.inl rfl), rfl⟩
    · obtain ⟨cc, hcc, hused⟩ := h.held c' hc hholds
      refine ⟨cc, (hcodes cc).mpr (.inr ⟨hcc, ?_⟩), hused⟩
      intro hthis
      rw [eq_of_key_eq hkeyed.codeKeys hcc hcode hthis, hfree] at hused
      cases hused
  · intro a ha cc' hcc' hid c' hc' hclaimId
    have hbefore : ∃ cc ∈ db.claimCodes, cc.id = cc'.id ∧ cc.spotId = cc'.spotId := by
      rcases (hcodes cc').mp hcc' with rfl | ⟨hcc, -⟩
      · exact ⟨code, hcode, rfl, rfl⟩
      · exact ⟨cc', hcc, rfl, rfl⟩
    have hclaimed : ∃ c ∈ db.claims, c.id = c'.id ∧ c.spotId = c'.spotId := by
      rcases (hclaims c').mp hc' with rfl | ⟨hc, -⟩
      · exact ⟨claim, hmem, rfl, rfl⟩
      · exact ⟨c', hc, rfl, rfl⟩
    obtain ⟨cc, hcc, hccid, hccof⟩ := hbefore
    obtain ⟨c, hc, hcid, hcof⟩ := hclaimed
    rw [← hccof, ← hcof]
    exact h.tried a (hattempts a ha) cc hcc (hccid.trans hid) c hc (hcid.trans hclaimId)

lemma CodesSound.claimWrite {permit : WritePermit P} (h : CodesSound db) (hkeyed : db.Keyed)
    (hwrite : ClaimWrite permit db db') : CodesSound db' := by
  have hwaiting : ∀ {claim : Claim P}, db.getClaim claim.id = some claim → claim.status = .pending →
      ∀ c ∈ db.claims, c.id = claim.id → c.status = .pending := by
    intro claim hclaim hpending c hc hid
    have hfound := (find?_key_eq_some hkeyed.claimKeys).mpr ⟨hc, hid⟩
    rw [Option.some.inj (hfound.symm.trans hclaim), hpending]
  have hfails : ∀ {claim : Claim P}, db.getClaim claim.id = some claim → claim.status = .pending →
      CodesSound (db.setClaimStatusToFailed claim.id) := fun hclaim hpending =>
    h.failedRows fun c hc hsel => hwaiting hclaim hpending c hc (of_decide_eq_true hsel)
  cases hwrite with
  | guarded => exact ⟨h.used, h.single, h.held, h.tried, h.known⟩
  | entered =>
    refine h.move rfl (fun _ ha => ha) (Nat.le_succ _) rfl ?_ ?_
    · exact fun c hc hholds => ⟨c, List.mem_append_left _ hc, rfl, rfl, hholds⟩
    · intro c' hc'
      cases List.mem_append.mp hc' with
      | inl hold => exact .inl ⟨c', hold, rfl, rfl, fun hholds => hholds⟩
      | inr hnew =>
        rw [List.mem_singleton.mp hnew]
        refine .inr ⟨Nat.lt_succ_self _, ?_⟩
        rintro ⟨hsuccess, -⟩
        cases hsuccess
  | @attempted claim code hclaim hpending hcode hspot =>
    have hmem : claim ∈ db.claims := List.mem_of_find?_eq_some hclaim
    refine ⟨h.used, h.single, h.held, ?_, ?_⟩
    · intro a ha cc hcc hid c hc hclaimId
      cases List.mem_append.mp ha with
      | inl hold => exact h.tried a hold cc hcc hid c hc hclaimId
      | inr hnew =>
        rw [List.mem_singleton.mp hnew] at hid hclaimId
        rw [eq_of_key_eq hkeyed.codeKeys hcc hcode hid, eq_of_key_eq hkeyed.claimKeys hc hmem hclaimId]
        exact hspot
    · intro a ha
      cases List.mem_append.mp ha with
      | inl hold => exact h.known a hold
      | inr hnew =>
        rw [List.mem_singleton.mp hnew]
        exact ⟨(hkeyed.claimFresh claim hmem).2, hkeyed.codeFresh code hcode⟩
  | failed hclaim hpending => exact hfails hclaim hpending
  | failedReleasing hclaim hpending =>
    rw [h.released hkeyed.claimKeys hclaim hpending]
    exact hfails hclaim hpending
  | succeeded hclaim hpending hspot _ hcode _ =>
    apply CodesSound.failPendingStandard
    rcases hcode with ⟨huncoded, rfl⟩ | ⟨hcoded, code, hattempt, hconsume⟩
    · exact h.plainSuccess hkeyed.claimKeys hclaim hspot huncoded
    · exact h.codedSuccess hkeyed hclaim hpending hspot hcoded hattempt hconsume
  | @moved claim position score status hclaim hpending hpermit =>
    refine h.updated (modifyClaimLocationScore_claims db claim.id position score status) rfl rfl
      (attempts_updateClaimStatus _ _ status) rfl rfl (fun _ => ⟨rfl, rfl⟩) ?_
    intro c hc hsel
    have hwaits := hwaiting hclaim hpending c hc (of_decide_eq_true hsel)
    constructor
    · exact fun hholds => absurd hholds (Db.not_mayHold hwaits)
    · rintro ⟨hsuccess, -⟩
      have hstatus : status = .success := hsuccess
      rw [hstatus] at hpermit
      exact hpermit.elim (fun hkept => nomatch hkept.1) fun hfailed => nomatch hfailed.1

/-- What codes rely on in the rows of claims and Spots. -/
structure Db.Grounded (db : Db P) : Prop where
  numbered : Numbered db
  placed : db.Placed
  checked : db.Checked

lemma DbWrite.grounded (hwrite : DbWrite cfg permit db db') (h : db.Grounded) : db'.Grounded :=
  ⟨hwrite.numbered h.numbered, hwrite.placed h.numbered h.placed, hwrite.checked h.checked⟩

/-- No Prizedraw has codes. -/
lemma Db.Grounded.uncoded (h : db.Grounded) {id : ℕ} (hspot : db.getSpot id = some spot)
    (hprizedraw : spot.prizeCount.isSome = true) {found : Spot P} (hfound : db.getSpot id = some found) :
    found.usePassword ≠ true := by
  intro hcoded
  rw [← Option.some.inj (hspot.symm.trans hfound)] at hcoded
  rw [(h.checked id spot hspot).uncoded hcoded] at hprizedraw
  cases hprizedraw

lemma CodesSound.dbWrite (h : CodesSound db) (hground : db.Grounded) (hwrite : DbWrite cfg permit db db') :
    CodesSound db' := by
  have hkeyed := hground.numbered.keyed
  -- Rows of a Prizedraw hold no code before or after.
  have hprizes : ∀ {c : Claim P} {spot : Spot P}, db.getSpot c.spotId = some spot → spot.prizeCount.isSome = true →
      ∀ c' : Claim P, c'.spotId = c.spotId → ¬ db.MayHold c' ∧ ¬ db.MustHold c' := by
    intro c spot hspot hprizedraw c' hof
    constructor
    · rintro ⟨found, hfound, hcoded, -⟩
      exact hground.uncoded hspot hprizedraw (hof ▸ hfound) hcoded
    · rintro ⟨-, found, hfound, hcoded⟩
      exact hground.uncoded hspot hprizedraw (hof ▸ hfound) hcoded
  have hterms := hwrite.termsKept
  cases hwrite with
  | claim hwrite => exact h.claimWrite hkeyed hwrite
  | clock => exact ⟨h.used, h.single, h.held, h.tried, h.known⟩
  | users => exact ⟨h.used, h.single, h.held, h.tried, h.known⟩
  | bound => exact ⟨h.used, h.single, h.held, h.tried, h.known⟩
  | bookkept => exact ⟨h.used, h.single, h.held, h.tried, h.known⟩
  | ledger => exact ⟨h.used, h.single, h.held, h.tried, h.known⟩
  | drafted => exact h.terms hground.placed hterms rfl rfl (fun _ ha => ha) rfl rfl
  | edited => exact h.terms hground.placed hterms rfl rfl (fun _ ha => ha) rfl rfl
  | @undrafted spot hspot hdraft _ hunclaimed =>
    have hclaims := deleteSpot_claims hunclaimed
    have hcodes : ∀ cc ∈ (db.deleteSpot spot.id).claimCodes, cc ∈ db.claimCodes := fun cc hcc => (List.mem_filter.mp hcc).1
    have hattempts : ∀ a ∈ (db.deleteSpot spot.id).claimCodeAttempts, a ∈ db.claimCodeAttempts :=
      fun a ha => (List.mem_filter.mp ha).1
    have hkept : CodesSound { db with spots := (db.deleteSpot spot.id).spots } :=
      h.terms hground.placed hterms rfl rfl (fun _ ha => ha) rfl rfl
    refine ⟨?_, ?_, ?_, ?_, fun a ha => h.known a (hattempts a ha)⟩
    · rw [hclaims]
      exact fun cc hcc => hkept.used cc (hcodes cc hcc)
    · exact fun cc hcc cc' hcc' => h.single cc (hcodes cc hcc) cc' (hcodes cc' hcc')
    · rw [hclaims]
      intro c hc hholds
      obtain ⟨cc, hcc, hused⟩ := hkept.held c hc hholds
      -- The user of a code is a claim, and nobody has claimed the draft.
      obtain ⟨user, huser, -, hof, -⟩ := hkept.used cc hcc c.id hused
      exact ⟨cc, List.mem_filter.mpr ⟨hcc, decide_eq_true (hof ▸ hunclaimed user huser)⟩, hused⟩
    · rw [hclaims]
      exact fun a ha cc hcc => h.tried a (hattempts a ha) cc (hcodes cc hcc)
  | published => exact h.terms hground.placed hterms rfl rfl (fun _ ha => ha) rfl rfl
  | marked => exact h.terms hground.placed hterms rfl rfl (fun _ ha => ha) rfl rfl
  | closed => exact h.terms hground.placed hterms rfl rfl (fun _ ha => ha) rfl rfl
  | codesDropped drop hunused =>
    have hkept : ∀ cc ∈ db.claimCodes.filter (fun cc => !drop cc), cc ∈ db.claimCodes := fun cc hcc =>
      (List.mem_filter.mp hcc).1
    refine ⟨?_, ?_, ?_, ?_, h.known⟩
    · exact fun cc hcc => h.used cc (hkept cc hcc)
    · exact fun cc hcc cc' hcc' => h.single cc (hkept cc hcc) cc' (hkept cc' hcc')
    · intro c hc hholds
      obtain ⟨cc, hcc, hused⟩ := h.held c hc hholds
      exact ⟨cc, mem_undropped hunused hcc (Option.isSome_of_mem hused), hused⟩
    · exact fun a ha cc hcc => h.tried a ha cc (hkept cc hcc)
  | codeCreated spotId code =>
    have hfree : ∀ cc ∈ db.claimCodes ++ [⟨db.claimCodeSeq + 1, spotId, code, none⟩], ∀ claimId,
        cc.usedBy = some claimId → cc ∈ db.claimCodes := by
      intro cc hcc claimId hused
      cases List.mem_append.mp hcc with
      | inl hold => exact hold
      | inr hnew =>
        rw [List.mem_singleton.mp hnew] at hused
        cases hused
    refine ⟨?_, ?_, ?_, ?_, ?_⟩
    · exact fun cc hcc claimId hused => h.used cc (hfree cc hcc claimId hused) claimId hused
    · intro cc hcc cc' hcc' claimId hused hused'
      exact h.single cc (hfree cc hcc claimId hused) cc' (hfree cc' hcc' claimId hused') claimId hused hused'
    · intro c hc hholds
      obtain ⟨cc, hcc, hused⟩ := h.held c hc hholds
      exact ⟨cc, List.mem_append_left _ hcc, hused⟩
    · intro a ha cc hcc hid
      cases List.mem_append.mp hcc with
      | inl hold => exact h.tried a ha cc hold hid
      | inr hnew =>
        have hle := (h.known a ha).2
        rw [List.mem_singleton.mp hnew] at hid
        dsimp only at hid
        omega
    · exact fun a ha => ⟨(h.known a ha).1, (h.known a ha).2.trans (Nat.le_succ _)⟩
  | @drawn spot winners hspot _ hprizedraw _ _ =>
    have hfailed : CodesSound (db.failPendingClaimsForSpot spot.id) :=
      h.failedRows fun c _ hsel => (of_decide_eq_true hsel).2
    have hredrawn : CodesSound
        ((db.failPendingClaimsForSpot spot.id).markPrizedrawWinnersPending spot.id winners).1 := by
      refine hfailed.updated rfl rfl rfl (fun _ ha => ha) rfl rfl (fun _ => ⟨rfl, rfl⟩) ?_
      intro c _ hsel
      have hof : c.spotId = spot.id := (of_decide_eq_true hsel).1
      have hthis : db.getSpot c.spotId = some spot := hof ▸ hspot
      constructor
      · exact fun hholds => ((hprizes hthis hprizedraw c rfl).1 hholds).elim
      · exact fun hholds => ((hprizes hthis hprizedraw (c.withStatus db.now .pending) rfl).2 hholds).elim
    have hplaced : ((db.failPendingClaimsForSpot spot.id).markPrizedrawWinnersPending spot.id winners).1.Placed :=
      hground.placed.rows (entriesFrom_drawn db spot.id winners : EntriesFrom (fun _ => False) False _ _) (.of_eq rfl)
    refine hredrawn.terms hplaced ?_ rfl rfl (fun _ ha => ha) rfl rfl
    exact fun id s hs hdraft => hterms id s hs hdraft
  | @paid claim hclaim hdrawn =>
    obtain ⟨spot, hspot, hprizedraw, -, -⟩ := hdrawn
    refine h.updated rfl rfl rfl (attempts_updateClaimStatus db _ .success) rfl rfl (fun _ => ⟨rfl, rfl⟩) ?_
    intro c hc hsel
    have hsame : c = claim := by
      have hfound := (find?_key_eq_some hkeyed.claimKeys).mpr ⟨hc, of_decide_eq_true hsel⟩
      exact Option.some.inj (hfound.symm.trans hclaim)
    rw [hsame]
    constructor
    · exact fun hholds => ((hprizes hspot hprizedraw claim rfl).1 hholds).elim
    · exact fun hholds => ((hprizes hspot hprizedraw (claim.withStatus db.now .success) rfl).2 hholds).elim
  | @banned spot hspot hbanned _ =>
    refine h.updated rfl rfl rfl (attempts_updateClaimStatus db _ .failed) rfl rfl (fun _ => ⟨rfl, rfl⟩) ?_
    intro c _ hsel
    constructor
    · rintro ⟨found, hfound, hcoded, -⟩
      have hof : c.spotId = spot.id := (of_decide_eq_true hsel).1
      have hsame : found = spot := by
        rw [hof] at hfound
        exact Option.some.inj (hfound.symm.trans hspot)
      exact ⟨found, hfound, hcoded, .inr ⟨rfl, hsame ▸ hbanned⟩⟩
    · rintro ⟨hsuccess, -⟩
      cases hsuccess

/-- A code that is used stays as it is. -/
def UsedKept (db db' : Db P) : Prop := ∀ cc ∈ db.claimCodes, cc.usedBy.isSome = true → cc ∈ db'.claimCodes

lemma DbWrite.usedKept (hwrite : DbWrite cfg permit db db') (h : CodesSound db) (hkeyed : db.Keyed) :
    UsedKept db db' := by
  cases hwrite with
  | claim hwrite =>
    cases hwrite with
    | failedReleasing hclaim hpending =>
      rw [h.released hkeyed.claimKeys hclaim hpending]
      exact fun cc hcc _ => hcc
    | @succeeded claim spot coded hclaim hpending _ _ hcode _ =>
      have hcodes : ((coded.setClaimStatusToSuccess claim.id).failPendingStandardDurationClaimsIfCapacityFull
          claim.spotId).claimCodes = coded.claimCodes := by
        unfold Db.failPendingStandardDurationClaimsIfCapacityFull
        cases (coded.setClaimStatusToSuccess claim.id).getSpot claim.spotId with
        | none => rfl
        | some spot =>
          dsimp only
          split_ifs <;> rfl
      intro cc hcc hused
      rw [hcodes]
      rcases hcode with ⟨-, rfl⟩ | ⟨-, code, hattempt, hconsume⟩
      · exact hcc
      · obtain ⟨hmem, -, hfree, rfl⟩ :=
          h.consumed hkeyed (List.mem_of_find?_eq_some hclaim) hpending hattempt hconsume
        refine mem_updateWhere.mpr ⟨cc, hcc, if_neg ?_⟩
        intro hsel
        rw [eq_of_key_eq hkeyed.codeKeys hcc hmem (of_decide_eq_true hsel), hfree] at hused
        cases hused
    | _ => exact fun cc hcc _ => hcc
  | codesDropped drop hunused => exact fun cc hcc hused => mem_undropped hunused hcc hused
  | undrafted _ _ _ hunclaimed =>
    intro cc hcc hused
    obtain ⟨claimId, huser⟩ := Option.isSome_iff_exists.mp hused
    obtain ⟨c, hc, -, hof, -⟩ := h.used cc hcc claimId huser
    exact List.mem_filter.mpr ⟨hcc, decide_eq_true (hof ▸ hunclaimed c hc)⟩
  | codeCreated => exact fun cc hcc _ => List.mem_append_left _ hcc
  | _ => exact fun cc hcc _ => hcc

lemma CodesSound.dbWrites (h : CodesSound db) (hground : db.Grounded) (hwrites : DbWrites cfg permit db db') :
    CodesSound db' ∧ db'.Grounded ∧ UsedKept db db' := by
  induction hwrites with
  | refl => exact ⟨h, hground, fun cc hcc _ => hcc⟩
  | tail _ hwrite ih =>
    obtain ⟨hmid, hgroundMid, hkept⟩ := ih
    have hlater := hwrite.usedKept hmid hgroundMid.numbered.keyed
    exact ⟨hmid.dbWrite hgroundMid hwrite, hwrite.grounded hgroundMid,
      fun cc hcc hused => hlater cc (hkept cc hcc hused) hused⟩

end Codes

section Runs

variable {cfg : Settings P} {s : Sys P}

/-- In every reachable state codes and claims agree. -/
structure Sys.Coded (s : Sys P) : Prop where
  kept : s.Kept
  ground : s.db.Grounded
  sound : CodesSound s.db

lemma coded_initial : (Sys.initial : Sys P).Coded :=
  ⟨kept_initial, ⟨kept_initial.numbered, nofun, nofun⟩, ⟨nofun, nofun, nofun, nofun, nofun⟩⟩

lemma Sys.Coded.run (h : s.Coded) (ops : List (Op P)) :
    (run (step cfg) s ops).Coded ∧ UsedKept s.db (Lib.run (step cfg) s ops).db := by
  have hpreserved : ∀ (t : Sys P) (op : Op P), True → t.Coded ∧ UsedKept s.db t.db →
      (step cfg t op).Coded ∧ UsedKept s.db (step cfg t op).db := by
    rintro t op - ⟨hcoded, hkept⟩
    obtain ⟨hwrites, hafter⟩ := step_writes hcoded.kept (admitted_all op)
    obtain ⟨hsound, hground, hlater⟩ := hcoded.sound.dbWrites hcoded.ground hwrites
    exact ⟨⟨hafter, hground, hsound⟩, fun cc hcc hused => hlater cc (hkept cc hcc hused) hused⟩
  exact run_invariant hpreserved (admissible_true s ops) ⟨h, fun cc hcc _ => hcc⟩

/-- In every run a code is used by a SUCCESS claim of its Spot, or by one that the ban of the Spot has failed since; a
SUCCESS claim on a Spot with codes has exactly one, and a claim that waits has none; whose a code is, it stays. -/
theorem code_holders (cfg : Settings P) (ops later : List (Op P)) :
    (∀ cc ∈ (run (step cfg) Sys.initial ops).db.claimCodes, ∀ claimId, cc.usedBy = some claimId →
      ∃ c ∈ (run (step cfg) Sys.initial ops).db.claims, ∃ spot,
        (run (step cfg) Sys.initial ops).db.getSpot cc.spotId = some spot ∧ spot.usePassword = true ∧
        c.id = claimId ∧ c.spotId = cc.spotId ∧
        (c.status = .success ∨ c.status = .failed ∧ spot.status = .banned)) ∧
    (∀ c ∈ (run (step cfg) Sys.initial ops).db.claims, c.status = .success → ∀ spot,
      (run (step cfg) Sys.initial ops).db.getSpot c.spotId = some spot → spot.usePassword = true →
      ∃! cc, cc ∈ (run (step cfg) Sys.initial ops).db.claimCodes ∧ cc.usedBy = some c.id) ∧
    (∀ cc ∈ (run (step cfg) Sys.initial ops).db.claimCodes, ∀ cc' ∈ (run (step cfg) Sys.initial ops).db.claimCodes,
      (cc.usedBy.isSome = true → cc.usedBy = cc'.usedBy → cc = cc') ∧ (cc.id = cc'.id → cc.usedBy = cc'.usedBy)) ∧
    (∀ c ∈ (run (step cfg) Sys.initial ops).db.claims, c.status = .pending →
      ∀ cc ∈ (run (step cfg) Sys.initial ops).db.claimCodes, cc.usedBy ≠ some c.id) ∧
    ∀ cc ∈ (run (step cfg) Sys.initial ops).db.claimCodes, cc.usedBy.isSome = true →
      cc ∈ (run (step cfg) Sys.initial (ops ++ later)).db.claimCodes := by
  obtain ⟨hcoded, -⟩ := @Sys.Coded.run _ cfg _ coded_initial ops
  obtain ⟨-, hkept⟩ := @Sys.Coded.run _ cfg _ hcoded later
  have hkeyed := hcoded.kept.numbered.keyed
  have hsound := hcoded.sound
  rw [run_append]
  refine ⟨?_, ?_, ?_, ?_, hkept⟩
  · intro cc hcc claimId hused
    obtain ⟨c, hc, hid, hof, spot, hspot, hpassword, hstatus⟩ := hsound.used cc hcc claimId hused
    exact ⟨c, hc, spot, hof ▸ hspot, hpassword, hid, hof, hstatus⟩
  · intro c hc hsuccess spot hspot hpassword
    obtain ⟨cc, hcc, hused⟩ := hsound.held c hc ⟨hsuccess, spot, hspot, hpassword⟩
    exact ⟨cc, ⟨hcc, hused⟩, fun cc' hcc' => hsound.single cc' hcc'.1 cc hcc c.id hcc'.2 hused⟩
  · intro cc hcc cc' hcc'
    constructor
    · intro hsome hsame
      obtain ⟨claimId, hused⟩ := Option.isSome_iff_exists.mp hsome
      exact hsound.single cc hcc cc' hcc' claimId hused (hsame ▸ hused)
    · exact fun hid => congrArg ClaimCode.usedBy (eq_of_key_eq hkeyed.codeKeys hcc hcc' hid)
  · exact fun c hc hpending => hsound.unused hkeyed.claimKeys hc hpending

/-- A published Spot with one code. -/
def goldOps : List (Op Unit) :=
  [.tick 1000, .registerUser { id := 1, status := .active }, .registerUser { id := 2, status := .active },
    .bindWallet 2 "NQ07 FIRST",
    .createSpot 1 "NQ01 SPOT" {
      position := some (), maxTotalClaims := some 1, usePassword := some true, totalValue := some 50000000
      endsAt := some 100000 },
    .recordDeposit 1 1 100000000 "NQ02 OWNER" depositHash, .confirmTrans 1, .resume 0 {}, .publish 1 ["GOLD7"]]

def goldDb : Db Unit := (run (step Settings.depositShown) Sys.initial goldOps).db

def goldClaim : ClaimRequest Unit := ⟨1, 2, (), some 5, some "GOLD7", none⟩

lemma normaliseClaimCode_gold :
    normaliseClaimCode Settings.depositShown (some "GOLD7") true = .ok (some "GOLD7") := by
  have hletters : ("GOLD7" : String).all (fun c : Char => c.toNat < 128 ∧ c.isAlphanum) = true := by
    rw [String.all_prop_eq]
    decide
  have hclean : ("GOLD7" : String) ≠ "" ∧
      ("GOLD7" : String).all (fun c : Char => c.toNat < 128 ∧ c.isAlphanum) = true := ⟨by decide, hletters⟩
  exact if_pos hclean

/-- The claim passes every check in front of its row. -/
lemma goldClaim_enters : ∃ spot, spot.claimDuration = 0 ∧
    installedCreateClaimAttempt Settings.depositShown goldDb goldClaim =
      enterClaimSuccessOnly (createClaimWithImpossibleTravelGuard Settings.depositShown)
        promotePendingClaimToSuccessIfCapacityAvailable goldDb
        { goldClaim with payoutAddress := some "NQ07 FIRST" } spot (some 1) := by
  have hspot : (goldDb.getSpot 1).any (fun s => s.usePassword ∧ s.claimDuration = 0) = true := by decide +kernel
  have hrule : ((getClaimRuleCheck Settings.depositShown goldDb 1 2 (some ()) (some 5)).toOption.any fun r =>
      r.allowed) = true := by decide +kernel
  have hunused : unusedClaimCode goldDb 1 (some "GOLD7") = .ok (some ⟨1, 1, "GOLD7", none⟩) := by rfl
  have hopen : goldDb.hasSpotCancellationStarted 1 = false := by decide +kernel
  have hdelegate : installedCreateClaimAttempt Settings.depositShown goldDb goldClaim =
      createClaimAttemptSuccessOnly Settings.depositShown (createClaimWithImpossibleTravelGuard Settings.depositShown)
        promotePendingClaimToSuccessIfCapacityAvailable goldDb
        { goldClaim with payoutAddress := some "NQ07 FIRST" } := by rfl
  obtain ⟨spot, hfound, hterms⟩ := (Option.any_eq_true _ _).mp hspot
  obtain ⟨hpassword, hinstant⟩ : spot.usePassword = true ∧ spot.claimDuration = 0 := of_decide_eq_true hterms
  have hentry : entryCheck Settings.depositShown goldDb { goldClaim with payoutAddress := some "NQ07 FIRST" } =
      .ok (spot, some "GOLD7", some ⟨1, 1, "GOLD7", none⟩) := by
    unfold entryCheck goldClaim
    dsimp only
    rw [hfound]
    dsimp only
    cases hcheck : getClaimRuleCheck Settings.depositShown goldDb 1 2 (some ()) (some 5) with
    | error e =>
      rw [hcheck] at hrule
      cases hrule
    | ok rule =>
      rw [hcheck] at hrule
      have hallowed : rule.allowed = true := hrule
      dsimp only
      rw [hallowed, hpassword, normaliseClaimCode_gold]
      dsimp only
      rw [if_pos rfl, hunused]
      dsimp only
      rw [hopen]
      rfl
  refine ⟨spot, hinstant, ?_⟩
  rw [hdelegate, createClaimAttemptSuccessOnly_eq, hentry]
  rfl

/-- The claim takes the one code, and the Spot is banned before the claim is paid. -/
theorem banned_claim_keeps_code : ¬ ∀ ops : List (Op Unit),
    ∀ cc ∈ (run (step Settings.depositShown) Sys.initial ops).db.claimCodes, ∀ claimId, cc.usedBy = some claimId →
      ∃ c ∈ (run (step Settings.depositShown) Sys.initial ops).db.claims, c.id = claimId ∧ c.spotId = cc.spotId ∧
        c.status = .success := by
  intro hall
  have hused := hall (goldOps ++ [.claim goldClaim, .banSpot 1])
  obtain ⟨spot, hinstant, henters⟩ := goldClaim_enters
  have hend : (run (step Settings.depositShown) Sys.initial (goldOps ++ [.claim goldClaim, .banSpot 1])).db =
      (banSpot (claimRoute Settings.depositShown goldDb goldClaim) 1).1 := by
    rw [run_append]
    rfl
  unfold claimRoute at hend
  rw [henters] at hend
  unfold enterClaimSuccessOnly at hend
  rw [hinstant] at hend
  rw [hend] at hused
  obtain ⟨c, hc, -, -, hsuccess⟩ := hused ⟨1, 1, "GOLD7", some 1⟩ (by decide +kernel) 1 rfl
  have hfailed : c.status = .failed := by
    revert c
    decide +kernel
  cases hsuccess.symm.trans hfailed

end Runs

end NimHunt
