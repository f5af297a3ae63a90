import NimHunt.Proofs.ClaimEntries

/-!
# A verified wallet never exceeds its limit on a Spot

Claims are stored by account and counted by wallet, and a binding never changes.  Until a draw is over every claim
that counts has found room for its wallet; from then on only the entries of the draw can count, whoever is paid.
-/

namespace NimHunt

open Lib Relation

variable {P : Type}

section Bindings

variable {cfg : Settings P} {permit : Permit P} {db db' db'' : Db P}

/-- One binding an account, to a wallet in its canonical spelling. -/
structure BindingsSound (cfg : Settings P) (db : Db P) : Prop where
  keys : BindingKeys db
  stored : ∀ b ∈ db.userBindings, canonicalOptionalAddress cfg (some b.2) = some b.2

lemma BindingsSound.lookup_iff (h : BindingsSound cfg db) {userId : ℕ} {wallet : Address} :
    db.userBindings.lookup userId = some wallet ↔ boundWallet cfg db userId = some wallet := by
  unfold boundWallet
  cases hlookup : db.userBindings.lookup userId with
  | none => exact ⟨nofun, nofun⟩
  | some binding =>
    have hmem := (lookup_eq_some_of_nodup h.keys.nodup).mp hlookup
    rw [h.stored _ hmem]

lemma BindingsSound.congr (h : BindingsSound cfg db) (hbindings : db'.userBindings = db.userBindings) :
    BindingsSound cfg db' := by
  refine ⟨⟨?_, ?_⟩, ?_⟩
  · rw [hbindings]
    exact h.keys.nodup
  · rw [hbindings]
    exact h.keys.positive
  · rw [hbindings]
    exact h.stored

/-- Who is bound to a wallet stays bound to it. -/
def BindingsKept (cfg : Settings P) (db db' : Db P) : Prop :=
  ∀ userId wallet, boundWallet cfg db userId = some wallet → boundWallet cfg db' userId = some wallet

lemma BindingsKept.of_eq (hbindings : db'.userBindings = db.userBindings) : BindingsKept cfg db db' := by
  intro userId wallet hbound
  unfold boundWallet at hbound ⊢
  rw [hbindings]
  exact hbound

lemma BindingsKept.then (h : BindingsKept cfg db db') (h' : BindingsKept cfg db' db'') : BindingsKept cfg db db'' :=
  fun userId wallet hbound => h' userId wallet (h userId wallet hbound)

lemma failPendingStandard_bindings (db : Db P) (spotId : ℕ) :
    (db.failPendingStandardDurationClaimsIfCapacityFull spotId).userBindings = db.userBindings := by
  unfold Db.failPendingStandardDurationClaimsIfCapacityFull
  cases db.getSpot spotId with
  | none => rfl
  | some spot =>
    dsimp only
    split_ifs <;> rfl

lemma CodeConsumed.bindings {spot : Spot P} {claimId : ℕ} (h : CodeConsumed db spot claimId db') :
    db'.userBindings = db.userBindings := by
  cases h with
  | inl hplain => rw [hplain.2]
  | inr hcoded =>
    obtain ⟨-, code, -, hconsume⟩ := hcoded
    rw [← (Prod.mk.inj hconsume).1]

lemma ClaimWrite.bindings {permit : WritePermit P} (hwrite : ClaimWrite permit db db') :
    db'.userBindings = db.userBindings := by
  cases hwrite with
  | @succeeded claim spot coded _ _ _ _ hcode _ =>
    rw [failPendingStandard_bindings]
    exact hcode.bindings
  | _ => rfl

lemma DbWrite.bindings (hcanonical : cfg.CanonicalAddresses) (hwrite : DbWrite cfg permit db db')
    (h : BindingsSound cfg db) : BindingsSound cfg db' ∧ BindingsKept cfg db db' := by
  have hsame : ∀ made : Db P, made.userBindings = db.userBindings →
      BindingsSound cfg made ∧ BindingsKept cfg db made := fun made hbindings =>
    ⟨h.congr hbindings, .of_eq hbindings⟩
  cases hwrite with
  | claim hwrite => exact hsame _ hwrite.bindings
  | @bound userId signer wallet huser hsigner hprevious =>
    obtain ⟨hkeys, hown, hkept⟩ := bindings_bind hcanonical hsigner huser hprevious h.keys
    refine ⟨⟨hkeys, ?_⟩, hkept⟩
    intro b hb
    cases List.mem_cons.mp hb with
    | inl hnew =>
      rw [hnew]
      exact hcanonical.stable signer wallet hsigner
    | inr hold => exact h.stored b (List.mem_filter.mp hold).1
  | _ => exact hsame _ rfl

end Bindings

section Totals

variable {cfg : Settings P} {db db' : Db P} {spot : Spot P} {wallet : Address}

/-- The claim uses up an allowance on the Spot: as SUCCESS, and in a Prizedraw as PENDING too. -/
def Spot.Counts (spot : Spot P) (c : Claim P) : Prop :=
  c.spotId = spot.id ∧ (c.status = .success ∨ spot.prizeCount.isSome = true ∧ c.status = .pending)

instance (spot : Spot P) (c : Claim P) : Decidable (spot.Counts c) :=
  inferInstanceAs (Decidable (_ ∧ _))

/-- What all accounts bound to the wallet have used up on the Spot. -/
def walletTotal (cfg : Settings P) (db : Db P) (spot : Spot P) (wallet : Address) : ℕ :=
  db.claims.countP fun c => spot.Counts c ∧ boundWallet cfg db c.recipient = some wallet

/-- The source counts the same claims. -/
lemma walletActiveClaimCount_eq (hkeys : BindingKeys db) (hspot : db.getSpot spot.id = some spot)
    (hwallet : canonicalOptionalAddress cfg (some wallet) = some wallet) :
    walletActiveClaimCount cfg db spot.id wallet = walletTotal cfg db spot wallet := by
  have hdraw : db.isPrizedraw spot.id = spot.prizeCount.isSome := by
    unfold Db.isPrizedraw
    rw [hspot]
  unfold walletActiveClaimCount walletTotal
  dsimp only
  apply List.countP_congr
  intro c _
  have hmem := mem_verifiedWalletUserIds hkeys hwallet c.recipient
  unfold Db.countsAgainstLimit Spot.Counts
  simp only [hmem, hdraw, decide_eq_true_eq]

lemma WalletHasRoom.total (hcanonical : cfg.CanonicalAddresses) (hkeys : BindingKeys db)
    (hspot : db.getSpot spot.id = some spot) (hlimited : 0 < spot.maxClaimsPerUser) {userId : ℕ}
    (h : WalletHasRoom cfg db spot.id userId) :
    ∃ wallet, boundWallet cfg db userId = some wallet ∧ walletTotal cfg db spot wallet < spot.maxClaimsPerUser := by
  obtain ⟨wallet, hbound, hroom⟩ := h
  have hwallet : canonicalOptionalAddress cfg (some wallet) = some wallet := hcanonical.canonical hbound
  refine ⟨wallet, hbound, ?_⟩
  unfold walletHasReachedSpotLimit at hroom
  rw [hspot] at hroom
  dsimp only at hroom
  rw [if_neg (by omega), walletActiveClaimCount_eq hkeys hspot hwallet] at hroom
  exact Nat.lt_of_not_le (of_decide_eq_false hroom)

/-- A row update after which no other claim counts. -/
lemma walletTotal_update_le {sel : Claim P → Bool} {f : Claim P → Claim P}
    (hclaims : db'.claims = updateWhere sel f db.claims) (hbindings : db'.userBindings = db.userBindings)
    (hrow : ∀ c ∈ db.claims, sel c = true → (f c).recipient = c.recipient ∧ (spot.Counts (f c) → spot.Counts c)) :
    walletTotal cfg db' spot wallet ≤ walletTotal cfg db spot wallet := by
  have hbound : ∀ userId, boundWallet cfg db' userId = boundWallet cfg db userId := by
    intro userId
    unfold boundWallet
    rw [hbindings]
  unfold walletTotal
  rw [hclaims]
  simp only [hbound]
  apply countP_updateWhere_le
  intro c hc hsel hcounted
  obtain ⟨hcounts, howned⟩ := of_decide_eq_true hcounted
  obtain ⟨hrecipient, hless⟩ := hrow c hc hsel
  exact decide_eq_true ⟨hless hcounts, hrecipient ▸ howned⟩

lemma walletTotal_congr (hclaims : db'.claims = db.claims) (hbindings : db'.userBindings = db.userBindings) :
    walletTotal cfg db' spot wallet = walletTotal cfg db spot wallet := by
  unfold walletTotal boundWallet
  rw [hclaims, hbindings]

/-- A claim that turns SUCCESS counts once more at most, and in a Prizedraw not once. -/
lemma walletTotal_success_le {claim : Claim P} (hkeys : (db.claims.map Claim.id).Nodup)
    (hclaim : db.getClaim claim.id = some claim) (hpending : claim.status = .pending) :
    walletTotal cfg (db.setClaimStatusToSuccess claim.id) spot wallet ≤ walletTotal cfg db spot wallet ∨
    (claim.spotId = spot.id ∧ spot.prizeCount = none ∧ boundWallet cfg db claim.recipient = some wallet) ∧
      walletTotal cfg (db.setClaimStatusToSuccess claim.id) spot wallet ≤ walletTotal cfg db spot wallet + 1 := by
  by_cases hnew : claim.spotId = spot.id ∧ spot.prizeCount = none ∧ boundWallet cfg db claim.recipient = some wallet
  · right
    refine ⟨hnew, ?_⟩
    have hadds : walletTotal cfg (db.setClaimStatusToSuccess claim.id) spot wallet ≤
        walletTotal cfg db spot wallet + db.claims.countP fun c => c.id = claim.id := countP_updateWhere_le_add _
    have hone := countP_key_le_one hkeys claim.id
    omega
  · left
    apply countP_updateWhere_le
    intro c hc hsel hcounted
    have hsame : c = claim := by
      have hfound := (find?_key_eq_some hkeys).mpr ⟨hc, of_decide_eq_true hsel⟩
      exact Option.some.inj (hfound.symm.trans hclaim)
    obtain ⟨⟨hof, -⟩, howned⟩ := of_decide_eq_true hcounted
    rw [hsame] at hof howned ⊢
    refine decide_eq_true ⟨⟨hof, .inr ⟨?_, hpending⟩⟩, howned⟩
    rw [Option.isSome_iff_ne_none]
    exact fun hstandard => hnew ⟨hof, hstandard, howned⟩

/-- A row that is inserted counts once at most, and on a standard Spot not once. -/
lemma walletTotal_entered_le {userId spotId : ℕ} {payoutAddress : Option Address} {position : P} :
    walletTotal cfg (db.addClaim (db.freshClaim spotId userId payoutAddress position)) spot wallet =
      walletTotal cfg db spot wallet + if spotId = spot.id ∧ spot.prizeCount.isSome = true ∧
        boundWallet cfg db userId = some wallet then 1 else 0 := by
  have hbound : ∀ id, boundWallet cfg (db.addClaim (db.freshClaim spotId userId payoutAddress position)) id =
      boundWallet cfg db id := fun _ => rfl
  unfold walletTotal
  simp only [hbound]
  unfold Db.addClaim Db.freshClaim
  dsimp only
  rw [List.countP_append]
  simp [Spot.Counts, and_assoc]

end Totals

section Writes

variable {cfg : Settings P} {db db' : Db P}

/-- Room for its wallet is what a claim is entered and promoted with. -/
def walletPermit (cfg : Settings P) : Permit P where
  enter db spot userId _ := WalletAllowsEntry cfg db spot.id userId
  settle db claim status := status = .success → WalletAllowsPromotion cfg db claim
  touch _ _ := True
  draw _ _ _ := True
  ban _ _ := True

/-- The wallets of every Spot with a limit, but for draws that are over. -/
structure WalletCapped (cfg : Settings P) (db : Db P) : Prop where
  sound : BindingsSound cfg db
  owners : OwnersBound cfg db
  total : ∀ id spot wallet, db.getSpot id = some spot → 0 < spot.maxClaimsPerUser →
    (spot.prizeCount.isSome = true → spot.status = .published) → walletTotal cfg db spot wallet ≤ spot.maxClaimsPerUser

/-- Claims are rewritten, and of Spots that may take claims no more of them count. -/
lemma WalletCapped.shrinks (h : WalletCapped cfg db) (hspots : db'.spots = db.spots)
    (hbindings : db'.userBindings = db.userBindings)
    (hkept : ∀ c' ∈ db'.claims, ∃ c ∈ db.claims, c'.recipient = c.recipient)
    (hless : ∀ spot wallet, db.getSpot spot.id = some spot →
      (spot.prizeCount.isSome = true → spot.status = .published) →
      walletTotal cfg db' spot wallet ≤ walletTotal cfg db spot wallet) : WalletCapped cfg db' := by
  refine ⟨h.sound.congr hbindings, ?_, ?_⟩
  · intro c' hc'
    obtain ⟨c, hc, hrecipient⟩ := hkept c' hc'
    obtain ⟨wallet, hbound⟩ := h.owners c hc
    exact ⟨wallet, BindingsKept.of_eq hbindings _ _ (hrecipient ▸ hbound)⟩
  · intro id spot wallet hspot hlimited hopen
    rw [getSpot_of_spots hspots] at hspot
    have hfound : db.getSpot spot.id = some spot := (getSpot_id hspot).symm ▸ hspot
    exact (hless spot wallet hfound hopen).trans (h.total id spot wallet hspot hlimited hopen)

/-- Statuses change, and of no claim the recipient. -/
lemma WalletCapped.updated {sel : Claim P → Bool} {f : Claim P → Claim P} (h : WalletCapped cfg db)
    (hspots : db'.spots = db.spots) (hbindings : db'.userBindings = db.userBindings)
    (hclaims : db'.claims = updateWhere sel f db.claims) (hrecipient : ∀ c, (f c).recipient = c.recipient)
    (hrow : ∀ c ∈ db.claims, sel c = true → ∀ spot, db.getSpot spot.id = some spot →
      (spot.prizeCount.isSome = true → spot.status = .published) → spot.Counts (f c) → spot.Counts c) :
    WalletCapped cfg db' := by
  apply h.shrinks hspots hbindings
  · intro c' hc'
    rw [hclaims] at hc'
    obtain ⟨c, hc, heq⟩ := mem_updateWhere.mp hc'
    refine ⟨c, hc, ?_⟩
    rw [← heq]
    split_ifs
    · exact hrecipient c
    · rfl
  · intro spot wallet hspot hopen
    exact walletTotal_update_le hclaims hbindings fun c hc hsel => ⟨hrecipient c, hrow c hc hsel spot hspot hopen⟩

lemma WalletCapped.failedRows (h : WalletCapped cfg db) (sel : Claim P → Bool) :
    WalletCapped cfg (db.updateClaimStatus sel .failed) := by
  refine h.updated rfl rfl rfl (fun _ => rfl) ?_
  rintro c _ _ spot _ _ ⟨-, hsuccess | ⟨-, hpending⟩⟩
  · cases hsuccess
  · cases hpending

/-- The claims and bindings stay as they are. -/
lemma WalletCapped.sameClaims (h : WalletCapped cfg db) (hspots : db'.spots = db.spots)
    (hclaims : db'.claims = db.claims) (hbindings : db'.userBindings = db.userBindings) : WalletCapped cfg db' := by
  apply h.shrinks hspots hbindings
  · exact fun c hc => ⟨c, hclaims ▸ hc, rfl⟩
  · exact fun spot wallet _ _ => (walletTotal_congr hclaims hbindings).le

lemma WalletCapped.failPendingStandard (h : WalletCapped cfg db) (id : ℕ) :
    WalletCapped cfg (db.failPendingStandardDurationClaimsIfCapacityFull id) := by
  unfold Db.failPendingStandardDurationClaimsIfCapacityFull
  cases db.getSpot id with
  | none => exact h
  | some spot =>
    dsimp only
    split_ifs
    · exact h
    · exact h
    · exact h
    · exact h.failedRows _

variable (hcanonical : cfg.CanonicalAddresses) (hpublic : cfg.publicDeployment = true)

include hcanonical hpublic in
/-- A row of an account whose wallet has room is inserted. -/
lemma WalletCapped.entered {spot : Spot P} {userId : ℕ} {payoutAddress : Option Address} {position : P}
    (h : WalletCapped cfg db) (hspot : db.getSpot spot.id = some spot)
    (hallowed : WalletAllowsEntry cfg db spot.id userId) :
    WalletCapped cfg (db.addClaim (db.freshClaim spot.id userId payoutAddress position)) := by
  have hroom : WalletHasRoom cfg db spot.id userId := hallowed hpublic
  refine ⟨h.sound.congr rfl, ?_, ?_⟩
  · intro c hc
    cases List.mem_append.mp hc with
    | inl hold => exact h.owners c hold
    | inr hnew =>
      obtain ⟨wallet, hbound, -⟩ := hroom
      rw [List.mem_singleton.mp hnew]
      exact ⟨wallet, hbound⟩
  · intro id other wallet hother hlimited hopen
    have hbefore := h.total id other wallet hother hlimited hopen
    rw [walletTotal_entered_le]
    split_ifs with hcounts
    · obtain ⟨hof, -, hbound⟩ := hcounts
      have hsame : spot = other := by
        rw [← getSpot_id hother, ← hof] at hother
        exact Option.some.inj (hspot.symm.trans hother)
      obtain ⟨owned, howned, hless⟩ := hroom.total hcanonical h.sound.keys hspot (hsame ▸ hlimited)
      rw [Option.some.inj (howned.symm.trans hbound), hsame] at hless
      omega
    · exact hbefore

include hcanonical hpublic in
/-- A claim of an account whose wallet has room turns SUCCESS. -/
lemma WalletCapped.succeeded {claim : Claim P} {spot : Spot P} {coded : Db P} (h : WalletCapped cfg db)
    (hkeys : (db.claims.map Claim.id).Nodup) (hclaim : db.getClaim claim.id = some claim)
    (hpending : claim.status = .pending) (hspot : db.getSpot claim.spotId = some spot)
    (hallowed : WalletAllowsPromotion cfg db claim) (hcoded : coded.claims = db.claims)
    (hspots : coded.spots = db.spots) (hbindings : coded.userBindings = db.userBindings) :
    WalletCapped cfg (coded.setClaimStatusToSuccess claim.id) := by
  have hmid : WalletCapped cfg coded := h.sameClaims hspots hcoded hbindings
  refine ⟨hmid.sound.congr rfl, ?_, ?_⟩
  · intro c' hc'
    obtain ⟨c, hc, heq⟩ := mem_updateWhere.mp hc'
    have hrecipient : c'.recipient = c.recipient := by
      rw [← heq]
      split_ifs <;> rfl
    obtain ⟨wallet, hbound⟩ := hmid.owners c hc
    exact ⟨wallet, BindingsKept.of_eq rfl _ _ (hrecipient ▸ hbound)⟩
  · intro id other wallet hother hlimited hopen
    have hclaim' : coded.getClaim claim.id = some claim := by
      unfold Db.getClaim at hclaim ⊢
      rw [hcoded]
      exact hclaim
    have hother' : db.getSpot id = some other := (getSpot_of_spots hspots id).symm.trans hother
    have hbefore := h.total id other wallet hother' hlimited hopen
    have hsame : walletTotal cfg coded other wallet = walletTotal cfg db other wallet :=
      walletTotal_congr hcoded hbindings
    rcases @walletTotal_success_le _ cfg coded other wallet claim (hcoded ▸ hkeys) hclaim' hpending with
      hless | ⟨⟨hof, hstandard, hbound⟩, hone⟩
    · omega
    · -- Only a standard claim counts from now on, and the promoter has found room for it.
      have hthis : spot = other := by
        rw [hof, getSpot_id hother] at hspot
        exact Option.some.inj (hspot.symm.trans hother')
      have hfound : db.getSpot spot.id = some spot := (getSpot_id hspot).symm ▸ hspot
      have hstill : db.isPrizedraw claim.spotId = false := by
        unfold Db.isPrizedraw
        rw [hspot, hthis]
        dsimp only
        rw [hstandard]
        rfl
      have hroom := hallowed hpublic hstill
      rw [← getSpot_id hspot] at hroom
      obtain ⟨owned, howned, hfree⟩ := hroom.total hcanonical h.sound.keys hfound (hthis ▸ hlimited)
      have hbound' : boundWallet cfg db claim.recipient = some wallet := BindingsKept.of_eq hbindings.symm _ _ hbound
      rw [Option.some.inj (howned.symm.trans hbound'), hthis] at hfree
      omega

include hcanonical hpublic in
lemma WalletCapped.claimWrite (h : WalletCapped cfg db) (hkeys : (db.claims.map Claim.id).Nodup)
    (hwrite : ClaimWrite (walletPermit cfg).toWritePermit db db') : WalletCapped cfg db' := by
  cases hwrite with
  | guarded => exact h.sameClaims rfl rfl rfl
  | attempted => exact h.sameClaims rfl rfl rfl
  | entered hspot _ hpermit => exact h.entered hcanonical hpublic (getPublicSpot_getSpot hspot) hpermit
  | failed => exact h.failedRows _
  | failedReleasing => exact (h.failedRows _).sameClaims rfl rfl rfl
  | succeeded hclaim hpending hspot _ hcode hpermit =>
    exact (h.succeeded hcanonical hpublic hkeys hclaim hpending hspot (hpermit rfl) hcode.claims hcode.sameGround.spots
      hcode.bindings).failPendingStandard _
  | @moved claim position score status hclaim hpending hpermit =>
    refine h.updated rfl rfl (modifyClaimLocationScore_claims db claim.id position score status) (fun _ => rfl) ?_
    intro c hc hsel spot _ _ hcounts
    have hsame : c = claim := by
      have hfound := (find?_key_eq_some hkeys).mpr ⟨hc, of_decide_eq_true hsel⟩
      exact Option.some.inj (hfound.symm.trans hclaim)
    obtain ⟨hof, hsuccess | ⟨hprizedraw, -⟩⟩ := hcounts
    · have hstatus : status = .success := hsuccess
      rw [hstatus] at hpermit
      exact hpermit.elim (fun hkept => nomatch hkept.1) fun hfailed => nomatch hfailed.1
    · exact ⟨hof, .inr ⟨hprizedraw, hsame ▸ hpending⟩⟩

/-- Spots change, and one that may take claims keeps its terms, or nobody has claimed it yet. -/
lemma WalletCapped.spots (h : WalletCapped cfg db) (hplaced : db.Placed) (hclaims : db'.claims = db.claims)
    (hbindings : db'.userBindings = db.userBindings)
    (hrow : ∀ id spot', db'.getSpot id = some spot' →
      (∃ spot, db.getSpot id = some spot ∧ spot'.prizeCount.isSome = spot.prizeCount.isSome ∧
        spot'.maxClaimsPerUser = spot.maxClaimsPerUser ∧ (spot'.status = .published → spot.status = .published)) ∨
      ∀ spot, db.getSpot id = some spot → spot.status = .draft) : WalletCapped cfg db' := by
  refine ⟨h.sound.congr hbindings, ?_, ?_⟩
  · intro c hc
    obtain ⟨wallet, hbound⟩ := h.owners c (hclaims ▸ hc)
    exact ⟨wallet, BindingsKept.of_eq hbindings _ _ hbound⟩
  · intro id spot' wallet hspot' hlimited hopen
    rw [walletTotal_congr hclaims hbindings]
    rcases hrow id spot' hspot' with ⟨spot, hspot, hprize, hmax, hpublished⟩ | hdraft
    · have hcounts : walletTotal cfg db spot' wallet = walletTotal cfg db spot wallet := by
        have hsame : ∀ c, spot'.Counts c ↔ spot.Counts c := by
          intro c
          unfold Spot.Counts
          rw [hprize, getSpot_id hspot', getSpot_id hspot]
        unfold walletTotal
        simp only [hsame]
      rw [hcounts, hmax]
      rw [hmax] at hlimited
      exact h.total id spot wallet hspot hlimited fun hprizedraw => hpublished (hopen (hprize ▸ hprizedraw))
    · have hnone : walletTotal cfg db spot' wallet = 0 := by
        unfold walletTotal
        rw [List.countP_eq_zero]
        intro c hc hcounted
        obtain ⟨⟨hof, -⟩, -⟩ := of_decide_eq_true hcounted
        obtain ⟨spot, hspot, hnodraft⟩ := hplaced c hc
        rw [hof, getSpot_id hspot'] at hspot
        exact hnodraft (hdraft spot hspot)
      omega

/-- Spots are rewritten, and the rows that are keep their terms. -/
lemma WalletCapped.updatedSpots (h : WalletCapped cfg db) (hplaced : db.Placed) {sel : Spot P → Bool}
    {f : Spot P → Spot P} (hclaims : db'.claims = db.claims) (hbindings : db'.userBindings = db.userBindings)
    (hspots : db'.spots = updateWhere sel f db.spots) (hid : ∀ s, (f s).id = s.id)
    (hrow : ∀ s, db.getSpot s.id = some s → sel s = true →
      (f s).prizeCount = s.prizeCount ∧ (f s).maxClaimsPerUser = s.maxClaimsPerUser ∧
        ((f s).status = .published → s.status = .published) ∨ s.status = .draft) : WalletCapped cfg db' := by
  apply h.spots hplaced hclaims hbindings
  intro id spot' hspot'
  unfold Db.getSpot at hspot'
  rw [hspots, find?_updateWhere_key hid, Option.map_eq_some_iff] at hspot'
  obtain ⟨s, hs, hnext⟩ := hspot'
  have hfound : db.getSpot s.id = some s := (getSpot_id hs).symm ▸ hs
  by_cases hsel : sel s = true
  · rw [if_pos hsel] at hnext
    rw [← hnext]
    rcases hrow s hfound hsel with ⟨hprize, hmax, hopen⟩ | hdraft
    · exact .inl ⟨s, hs, by rw [hprize], hmax, hopen⟩
    · exact .inr fun spot hspot => Option.some.inj (hs.symm.trans hspot) ▸ hdraft
  · rw [if_neg hsel] at hnext
    rw [← hnext]
    exact .inl ⟨s, hs, rfl, rfl, fun hopen => hopen⟩

include hcanonical hpublic in
lemma WalletCapped.dbWrite (h : WalletCapped cfg db) (hplaced : db.Placed) (hnumbered : Numbered db)
    (hwrite : DbWrite cfg (walletPermit cfg) db db') : WalletCapped cfg db' := by
  have hkeys : (db.claims.map Claim.id).Nodup := hnumbered.keyed.claimKeys
  have hbindings := hwrite.bindings hcanonical h.sound
  cases hwrite with
  | claim hwrite => exact h.claimWrite hcanonical hpublic hkeys hwrite
  | bound =>
    -- Every claim has an owner with a wallet, which stays.
    refine ⟨hbindings.1, ?_, ?_⟩
    · intro c hc
      obtain ⟨wallet, hbound⟩ := h.owners c hc
      exact ⟨wallet, hbindings.2 _ _ hbound⟩
    · intro id spot wallet hspot hlimited hopen
      refine le_trans ?_ (h.total id spot wallet hspot hlimited hopen)
      unfold walletTotal
      apply List.countP_mono_left
      intro c hc hcounted
      obtain ⟨hcounts, hlater⟩ := of_decide_eq_true hcounted
      obtain ⟨owned, howned⟩ := h.owners c hc
      have hsame := (hbindings.2 _ _ howned).symm.trans hlater
      exact decide_eq_true ⟨hcounts, howned.trans hsame⟩
  | @drafted spot hid hdraft _ _ =>
    refine h.spots hplaced rfl rfl ?_
    intro id spot' hspot'
    unfold Db.getSpot at hspot' ⊢
    dsimp only at hspot'
    rw [List.find?_append] at hspot'
    cases hold : db.spots.find? fun s => s.id = id with
    | some s =>
      rw [hold] at hspot'
      have hsame : s = spot' := Option.some.inj hspot'
      exact .inl ⟨s, rfl, by rw [hsame], by rw [hsame], hsame ▸ fun hopen => hopen⟩
    | none => exact .inr nofun
  | @edited spot next hspot hdraft hsame _ =>
    refine h.updatedSpots hplaced rfl rfl (edited_spots hsame.id db.spots) (fun _ => rfl) ?_
    intro s hs hsel
    rw [of_decide_eq_true hsel] at hs
    exact .inr (Option.some.inj (hs.symm.trans hspot) ▸ hdraft)
  | undrafted _ _ _ hunclaimed =>
    refine h.spots hplaced (deleteSpot_claims hunclaimed) rfl ?_
    intro id spot' hspot'
    exact .inl ⟨spot', (getSpot_of_deleteSpot hspot').2, rfl, rfl, fun hopen => hopen⟩
  | published =>
    exact h.updatedSpots hplaced rfl rfl rfl (fun _ => rfl) fun s _ hsel => .inr (of_decide_eq_true hsel).2.1
  | marked => exact h.updatedSpots hplaced rfl rfl rfl (fun _ => rfl) fun _ _ _ => .inl ⟨rfl, rfl, fun hopen => hopen⟩
  | closed _ hcloses _ =>
    refine h.updatedSpots hplaced rfl rfl rfl (fun _ => rfl) ?_
    exact fun _ _ _ => .inl ⟨rfl, rfl, fun hopen => absurd hopen hcloses.final.2⟩
  | @drawn spot winners hspot _ hprizedraw _ _ =>
    have hfailed : WalletCapped cfg (db.failPendingClaimsForSpot spot.id) := h.failedRows _
    have hredrawn : WalletCapped cfg
        ((db.failPendingClaimsForSpot spot.id).markPrizedrawWinnersPending spot.id winners).1 := by
      refine hfailed.updated rfl rfl rfl (fun _ => rfl) ?_
      rintro c _ hsel other _ _ ⟨hof, -⟩
      exact ⟨hof, .inl (of_decide_eq_true hsel).2.1⟩
    have hrows : EntriesFrom (fun _ => False) False db
        ((db.failPendingClaimsForSpot spot.id).markPrizedrawWinnersPending spot.id winners).1 :=
      entriesFrom_drawn db spot.id winners
    refine hredrawn.updatedSpots (hplaced.rows hrows (.of_eq rfl)) rfl rfl rfl (fun _ => rfl) ?_
    exact fun _ _ _ => .inl ⟨rfl, rfl, nofun⟩
  | @paid claim hclaim hdrawn =>
    -- The draw of a claim that is paid is over.
    refine h.updated rfl rfl rfl (fun _ => rfl) ?_
    intro c hc hsel spot hspot hopen hcounts
    have hsame : c = claim := by
      have hfound := (find?_key_eq_some hkeys).mpr ⟨hc, of_decide_eq_true hsel⟩
      exact Option.some.inj (hfound.symm.trans hclaim)
    obtain ⟨drawn, hdraw, hprizedraw, -, hover⟩ := hdrawn
    have hof : claim.spotId = spot.id := hsame ▸ hcounts.1
    rw [hof] at hdraw
    rw [← Option.some.inj (hspot.symm.trans hdraw)] at hprizedraw hover
    exact absurd (hopen hprizedraw) hover
  | banned => exact h.failedRows _
  | clock => exact h.sameClaims rfl rfl rfl
  | users => exact h.sameClaims rfl rfl rfl
  | bookkept => exact h.sameClaims rfl rfl rfl
  | ledger => exact h.sameClaims rfl rfl rfl
  | codesDropped => exact h.sameClaims rfl rfl rfl
  | codeCreated => exact h.sameClaims rfl rfl rfl

include hcanonical hpublic in
lemma WalletCapped.dbWrites (h : WalletCapped cfg db) (hplaced : db.Placed) (hnumbered : Numbered db)
    (hwrites : DbWrites cfg (walletPermit cfg) db db') :
    WalletCapped cfg db' ∧ db'.Placed ∧ BindingsKept cfg db db' := by
  induction hwrites with
  | refl => exact ⟨h, hplaced, .of_eq rfl⟩
  | tail hbefore hwrite ih =>
    obtain ⟨hcapped, hmid, hkept⟩ := ih
    have hkeys := DbWrites.numbered hbefore hnumbered
    exact ⟨hcapped.dbWrite hcanonical hpublic hmid hkeys hwrite, hwrite.placed hkeys hmid,
      hkept.then (hwrite.bindings hcanonical hcapped.sound).2⟩

end Writes

section Requests

variable {cfg : Settings P} {db entered : Db P} {req : ClaimRequest P} {spot : Spot P} {claim : Claim P}

/-- The row of a standard Spot does not count while it waits. -/
lemma EntersClaim.activeClaimCount (henters : EntersClaim cfg db req spot claim entered)
    (hstandard : entered.isPrizedraw spot.id = false) (wallet : Address) :
    walletActiveClaimCount cfg entered spot.id wallet = walletActiveClaimCount cfg db spot.id wallet := by
  obtain ⟨address, hclaim⟩ := henters.inserted
  obtain ⟨markers, attempts, hrow, -⟩ := henters.attempts
  have hdraw : entered.isPrizedraw spot.id = db.isPrizedraw spot.id := by
    rw [hrow]
    rfl
  have hcounts : ∀ c, entered.countsAgainstLimit spot.id c = db.countsAgainstLimit spot.id c := by
    intro c
    unfold Db.countsAgainstLimit
    rw [hdraw]
  have hwaits : db.countsAgainstLimit spot.id claim = false := by
    unfold Db.countsAgainstLimit
    rw [← hdraw, hstandard, hclaim]
    simp [Db.freshClaim]
  have husers : verifiedWalletUserIds cfg entered wallet = verifiedWalletUserIds cfg db wallet := by
    rw [hrow]
    rfl
  have hclaims : entered.claims = db.claims ++ [claim] := by rw [hrow]
  unfold walletActiveClaimCount
  simp only [hcounts, husers, hclaims, List.countP_append]
  simp [hwaits]

/-- What is entered at once has the room it was entered with. -/
lemma EntersClaim.allowsPromotion (henters : EntersClaim cfg db req spot claim entered) :
    WalletAllowsPromotion cfg entered claim := by
  intro hpublic hstandard
  obtain ⟨wallet, hbound, hroom⟩ := henters.wallet hpublic
  obtain ⟨address, hclaim⟩ := henters.inserted
  obtain ⟨markers, attempts, hrow, -⟩ := henters.attempts
  have hof : claim.spotId = spot.id := by
    rw [hclaim, henters.spot_id]
    rfl
  have howner : claim.recipient = req.userId := by
    rw [hclaim]
    rfl
  rw [hof] at hstandard ⊢
  refine ⟨wallet, ?_, ?_⟩
  · rw [howner, hrow]
    exact hbound
  · have hspots : entered.getSpot spot.id = db.getSpot spot.id := by
      rw [hrow]
      rfl
    unfold walletHasReachedSpotLimit at hroom ⊢
    rw [hspots, henters.activeClaimCount hstandard]
    exact hroom

/-- What every operation asks for is room for the wallet. -/
lemma admitted_wallet (op : Op P) : op.Admitted cfg (walletPermit cfg) db := by
  have hsettles : ∀ (db : Db P) (claim : Claim P), MaySettle cfg (walletPermit cfg).toWritePermit db claim :=
    fun _ _ _ hallows => hallows
  have hfails : ∀ (db : Db P) (claim : Claim P), (walletPermit cfg).settle db claim .failed := fun _ _ => nofun
  cases op with
  | claim req =>
    refine ⟨?_, ?_⟩
    · intro spot claim entered markers henters
      exact henters.wallet
    · intro spot claim entered henters _ status _
      exact henters.allowsPromotion
  | refresh claimId => exact fun claim _ _ _ _ _ => ⟨hfails db claim, fun _ => hsettles db claim⟩
  | heartbeat claimId userId position accuracy =>
    intro claim spot _ _ _ _
    refine ⟨fun _ => ⟨hfails db claim, fun _ => hsettles db claim⟩, ?_⟩
    exact fun _ => ⟨fun _ => hsettles db claim, fun _ _ _ => hfails db claim, fun _ _ _ => trivial,
      fun _ _ => hsettles _ _⟩
  | settlePrizedraw spotId sample => exact fun _ _ _ => trivial
  | banSpot spotId => exact ⟨trivial, trivial⟩
  | _ => trivial

end Requests

section Entrants

variable {cfg : Settings P} {s : Sys P} {op : Op P} {spot : Spot P} {spotId limit : ℕ} {entrants : List ℕ}
  {wallets : ℕ → Address} {good good' : ℕ → ℕ → Prop}

/-- Who may count on a Spot that takes no more claims, each under its wallet. -/
structure EntrantsKnown (cfg : Settings P) (spotId limit : ℕ) (entrants : List ℕ) (wallets : ℕ → Address)
    (s : Sys P) : Prop where
  owned : ∀ id ∈ entrants, ∃ c ∈ s.db.claims, c.id = id ∧ boundWallet cfg s.db c.recipient = some (wallets id)
  standing : ∀ c ∈ s.db.claims, c.spotId = spotId → c.status ≠ .failed → c.id ∈ entrants
  pays : s.PaysGood fun claimId ofSpot => ofSpot = spotId → claimId ∈ entrants
  room : ∀ wallet, (entrants.countP fun id => wallets id = wallet) ≤ limit

lemma EntrantsKnown.total (h : EntrantsKnown cfg spot.id limit entrants wallets s)
    (hkeys : (s.db.claims.map Claim.id).Nodup) (wallet : Address) : walletTotal cfg s.db spot wallet ≤ limit := by
  refine le_trans ?_ (h.room wallet)
  unfold walletTotal
  rw [List.countP_eq_length_filter, List.countP_eq_length_filter, ← List.length_map Claim.id]
  apply List.Subperm.length_le
  apply List.subperm_of_subset
  · exact hkeys.sublist (List.filter_sublist.map Claim.id)
  · intro id hid
    obtain ⟨c, hc, rfl⟩ := List.mem_map.mp hid
    obtain ⟨hmem, hcounted⟩ := List.mem_filter.mp hc
    obtain ⟨⟨hof, hstatus⟩, hbound⟩ := of_decide_eq_true hcounted
    have halive : c.status ≠ .failed := by
      rcases hstatus with hsuccess | ⟨-, hpending⟩
      · rw [hsuccess]
        nofun
      · rw [hpending]
        nofun
    have hentrant := h.standing c hmem hof halive
    obtain ⟨owner, howner, hsame, howned⟩ := h.owned c.id hentrant
    rw [eq_of_key_eq hkeys howner hmem hsame, hbound] at howned
    exact List.mem_filter.mpr ⟨hentrant, decide_eq_true (Option.some.inj howned).symm⟩

lemma Sys.PaysGood.mono (h : s.PaysGood good) (hgood : ∀ claimId ofSpot, good claimId ofSpot → good' claimId ofSpot) :
    s.PaysGood good' := by
  refine ⟨?_, ?_, h.read⟩
  · intro t ht htype
    obtain ⟨claim, hclaim, hid, hof, hthis⟩ := h.rows t ht htype
    exact ⟨claim, hclaim, hid, hof, hgood _ _ hthis⟩
  · intro job hjob
    obtain ⟨claim, hclaim, hid, hthis⟩ := h.jobs job hjob
    exact ⟨claim, hclaim, hid, hgood _ _ hthis⟩

/-- Before anybody may be paid, the entrants are the claims that have not FAILED. -/
lemma entrantsKnown_open (hkeys : (s.db.claims.map Claim.id).Nodup) (howners : OwnersBound cfg s.db)
    (hpays : s.PaysGood fun _ ofSpot => s.db.Entitled ofSpot) (hopen : ¬ s.db.Entitled spotId)
    (hroom : ∀ wallet, (s.db.claims.countP fun c =>
      (c.spotId = spotId ∧ c.status ≠ .failed) ∧ boundWallet cfg s.db c.recipient = some wallet) ≤ limit) :
    ∃ entrants wallets, EntrantsKnown cfg spotId limit entrants wallets s := by
  have hwallet : ∀ c ∈ s.db.claims, boundWallet cfg s.db c.recipient =
      some (((s.db.getClaim c.id).bind fun claim => boundWallet cfg s.db claim.recipient).getD "") := by
    intro c hc
    have hfound : s.db.getClaim c.id = some c := (find?_key_eq_some hkeys).mpr ⟨hc, rfl⟩
    obtain ⟨wallet, hbound⟩ := howners c hc
    rw [hfound, Option.bind_some, hbound, Option.getD_some]
  refine ⟨(s.db.claims.filter fun c => c.spotId = spotId ∧ c.status ≠ .failed).map Claim.id,
    fun id => ((s.db.getClaim id).bind fun claim => boundWallet cfg s.db claim.recipient).getD "", ?_, ?_, ?_, ?_⟩
  · intro id hid
    obtain ⟨c, hc, rfl⟩ := List.mem_map.mp hid
    have hmem := (List.mem_filter.mp hc).1
    exact ⟨c, hmem, rfl, hwallet c hmem⟩
  · intro c hc hof halive
    exact List.mem_map_of_mem (List.mem_filter.mpr ⟨hc, decide_eq_true ⟨hof, halive⟩⟩)
  · exact hpays.mono fun _ _ hentitled hof => absurd (hof ▸ hentitled) hopen
  · intro wallet
    refine le_trans ?_ (hroom wallet)
    rw [List.countP_map, List.countP_filter]
    apply List.countP_mono_left
    intro c hc hcounted
    simp only [Function.comp_apply, Bool.and_eq_true, decide_eq_true_eq] at hcounted
    exact decide_eq_true ⟨hcounted.2, (hwallet c hc).trans (congrArg some hcounted.1)⟩

/-- A claim that comes to count later is one of the entrants, entered or paid. -/
lemma EntrantsKnown.step (h : EntrantsKnown cfg spotId limit entrants wallets s) (hsettling : s.Settling)
    (hbound : BindingsKept cfg s.db (NimHunt.step cfg s op).db)
    (hclosed : ∀ spot', (NimHunt.step cfg s op).db.getSpot spotId = some spot' → spot'.status ≠ .published) :
    EntrantsKnown cfg spotId limit entrants wallets (NimHunt.step cfg s op) := by
  have hwrites : DbWrites cfg .all s.db (NimHunt.step cfg s op).db :=
    (step_writes hsettling.kept (admitted_all op)).1
  have hkeys := hsettling.kept.numbered.keyed.claimKeys
  refine ⟨?_, ?_, ?_, h.room⟩
  · intro id hid
    obtain ⟨c, hc, hcid, hwallet⟩ := h.owned id hid
    obtain ⟨c', hc', hsame⟩ := hwrites.claimsKept.mem hc
    exact ⟨c', hc', hsame.id.trans hcid, hsame.recipient ▸ hbound _ _ hwallet⟩
  · intro c' hc' hof halive
    rcases hsettling.entriesFrom op c' hc' with ⟨c, hc, hid, hspot, hrow⟩ | ⟨hspots, spot, hspot, hopen⟩
    · rw [← hid]
      rcases hrow halive with hbefore | ⟨t, ht, htype, hclaimId⟩
      · exact h.standing c hc (hspot.trans hof) hbefore
      · obtain ⟨claim, hclaim, hbooked, -, hgood⟩ := h.pays.rows t ht htype
        have hsame := eq_of_key_eq hkeys hclaim hc (Option.some.inj (hbooked.symm.trans hclaimId))
        rw [hsame] at hgood
        exact hgood (hspot.trans hof)
    · rw [hof] at hspot
      exact absurd hopen (hclosed spot ((getSpot_of_spots hspots spotId).trans hspot))
  · refine h.pays.move hsettling.kept (step_paysOnly hsettling.kept h.pays.booked) hwrites.claimsKept (fun _ _ hgood => hgood) ?_
    intro job hdecides
    cases hdecides with
    | prize hjob =>
      obtain ⟨-, claim, -, -, hclaim, hid, -, hpending⟩ := claim_of_prizeJob hjob
      refine ⟨claim, hclaim, hid, fun hof => h.standing claim hclaim hof ?_⟩
      rw [hpending]
      nofun
    | reward hjob =>
      obtain ⟨-, claim, hclaim, hid, -, -, hsuccess⟩ := claim_of_rewardJob hjob
      have hmem := List.mem_of_find?_eq_some hclaim
      refine ⟨claim, hmem, hid, fun hof => h.standing claim hmem hof ?_⟩
      rw [hsuccess]
      nofun

end Entrants

section Runs

variable {cfg : Settings P} {s : Sys P} (hcanonical : cfg.CanonicalAddresses) (hpublic : cfg.publicDeployment = true)

/-- No wallet is over its limit, while a draw is to come or after it. -/
structure Sys.WalletSound (cfg : Settings P) (s : Sys P) : Prop where
  settling : s.Settling
  capped : WalletCapped cfg s.db
  closed : ∀ id spot, s.db.getSpot id = some spot → spot.prizeCount.isSome = true → spot.status ≠ .published →
    0 < spot.maxClaimsPerUser → ∃ entrants wallets, EntrantsKnown cfg id spot.maxClaimsPerUser entrants wallets s

lemma walletSound_initial : (Sys.initial : Sys P).WalletSound cfg :=
  ⟨settling_initial, ⟨⟨⟨List.nodup_nil, nofun⟩, nofun⟩, nofun, nofun⟩, nofun⟩

/-- The entrants of a Prizedraw that is closed after this step. -/
lemma Sys.WalletSound.entrants (h : s.WalletSound cfg) {permit : Permit P} {op : Op P} {id : ℕ} {spot' : Spot P}
    (hwrites : DbWrites cfg permit s.db (step cfg s op).db) (hspot' : (step cfg s op).db.getSpot id = some spot')
    (hprizedraw : spot'.prizeCount.isSome = true) (hlimited : 0 < spot'.maxClaimsPerUser) :
    ∃ entrants wallets, EntrantsKnown cfg id spot'.maxClaimsPerUser entrants wallets s := by
  have hkeys := h.settling.kept.numbered.keyed.claimKeys
  by_cases hplaced : ∃ spot, s.db.getSpot id = some spot ∧ spot.status ≠ .draft
  · obtain ⟨spot, hspot, hdraft⟩ := hplaced
    obtain ⟨status, marker, -, -, hlater⟩ := hwrites.termsKept id spot hspot hdraft
    rw [hspot'] at hlater
    rw [Option.some.inj hlater] at hprizedraw hlimited ⊢
    dsimp only at hprizedraw hlimited ⊢
    by_cases hopen : spot.status = .published
    · -- The claims of this moment, counted as the limit counts them.
      refine entrantsKnown_open hkeys h.capped.owners h.settling.pays ?_ ?_
      · rintro ⟨found, hfound, -, hover⟩
        rw [← Option.some.inj (hspot.symm.trans hfound)] at hover
        exact hover hprizedraw hopen
      · intro wallet
        refine le_trans ?_ (h.capped.total id spot wallet hspot hlimited fun _ => hopen)
        unfold walletTotal
        apply List.countP_mono_left
        intro c _ hcounted
        obtain ⟨⟨hof, halive⟩, hbound⟩ := of_decide_eq_true hcounted
        refine decide_eq_true ⟨⟨hof.trans (getSpot_id hspot).symm, ?_⟩, hbound⟩
        cases hstatus : c.status with
        | success => exact .inl rfl
        | pending => exact .inr ⟨hprizedraw, rfl⟩
        | failed => exact absurd hstatus halive
    · exact h.closed id spot hspot hprizedraw hopen hlimited
  · -- Nobody has claimed a Spot that has not been published.
    refine entrantsKnown_open hkeys h.capped.owners h.settling.pays ?_ ?_
    · rintro ⟨spot, hspot, hdraft, -⟩
      exact hplaced ⟨spot, hspot, hdraft⟩
    · intro wallet
      rw [List.countP_eq_zero.mpr]
      · exact Nat.zero_le _
      · intro c hc hcounted
        obtain ⟨⟨hof, -⟩, -⟩ := of_decide_eq_true hcounted
        exact hplaced (hof ▸ h.settling.capped.placed c hc)

include hcanonical hpublic in
lemma Sys.WalletSound.step (h : s.WalletSound cfg) (op : Op P) :
    (step cfg s op).WalletSound cfg ∧ BindingsKept cfg s.db (step cfg s op).db := by
  have hwrites : DbWrites cfg (walletPermit cfg) s.db (NimHunt.step cfg s op).db :=
    (step_writes h.settling.kept (admitted_wallet op)).1
  obtain ⟨hcapped, -, hbound⟩ :=
    h.capped.dbWrites hcanonical hpublic h.settling.capped.placed h.settling.kept.numbered hwrites
  refine ⟨⟨h.settling.step op, hcapped, ?_⟩, hbound⟩
  intro id spot' hspot' hprizedraw hclosed hlimited
  obtain ⟨entrants, wallets, hknown⟩ := h.entrants hwrites hspot' hprizedraw hlimited
  refine ⟨entrants, wallets, hknown.step h.settling hbound ?_⟩
  intro found hfound
  rw [← Option.some.inj (hspot'.symm.trans hfound)]
  exact hclosed

include hcanonical hpublic in
lemma Sys.WalletSound.run (h : s.WalletSound cfg) (ops : List (Op P)) :
    (run (NimHunt.step cfg) s ops).WalletSound cfg ∧ BindingsKept cfg s.db (Lib.run (NimHunt.step cfg) s ops).db := by
  have hpreserved : ∀ (t : Sys P) (op : Op P), True → t.WalletSound cfg ∧ BindingsKept cfg s.db t.db →
      (NimHunt.step cfg t op).WalletSound cfg ∧ BindingsKept cfg s.db (NimHunt.step cfg t op).db := by
    rintro t op - ⟨hsound, hkept⟩
    obtain ⟨hstep, hbound⟩ := hsound.step hcanonical hpublic op
    exact ⟨hstep, hkept.then hbound⟩
  exact run_invariant hpreserved (admissible_true s ops) ⟨h, .of_eq rfl⟩

/-- No wallet exceeds its limit on a Spot, and no account changes its wallet, in any run of a public deployment. -/
theorem wallet_spot_limit {ops later : List (Op P)} (hcanonical : cfg.CanonicalAddresses)
    (hpublic : cfg.publicDeployment = true) :
    (∀ id spot wallet, (run (step cfg) Sys.initial ops).db.getSpot id = some spot → 0 < spot.maxClaimsPerUser →
      walletTotal cfg (run (step cfg) Sys.initial ops).db spot wallet ≤ spot.maxClaimsPerUser) ∧
    ∀ userId wallet, (run (step cfg) Sys.initial ops).db.userBindings.lookup userId = some wallet →
      (run (step cfg) Sys.initial (ops ++ later)).db.userBindings.lookup userId = some wallet := by
  obtain ⟨hsound, -⟩ := walletSound_initial.run hcanonical hpublic ops
  obtain ⟨hlater, hkept⟩ := hsound.run hcanonical hpublic later
  constructor
  · intro id spot wallet hspot hlimited
    by_cases hopen : spot.prizeCount.isSome = true → spot.status = .published
    · exact hsound.capped.total id spot wallet hspot hlimited hopen
    · obtain ⟨hprizedraw, hclosed⟩ := Classical.not_imp.mp hopen
      obtain ⟨entrants, wallets, hknown⟩ := hsound.closed id spot hspot hprizedraw hclosed hlimited
      rw [← getSpot_id hspot] at hknown
      exact hknown.total hsound.settling.kept.numbered.keyed.claimKeys wallet
  · intro userId wallet hbinding
    rw [run_append]
    exact hlater.capped.sound.lookup_iff.mpr (hkept userId wallet (hsound.capped.sound.lookup_iff.mp hbinding))

def Settings.twoSigners : Settings Unit := Settings.depositShown.withWallet

/-- Two accounts of one wallet wait on one Spot, and both have waited long enough. -/
def twoAccounts (maxClaimsPerUser : ℤ) : List (Op Unit) :=
  [.tick 1000, .registerUser { id := 1, status := .active }, .registerUser { id := 2, status := .active },
    .registerUser { id := 3, status := .active }, .bindWallet 2 firstWallet, .bindWallet 3 firstWallet,
    .createSpot 1 "NQ01 SPOT" {
      position := some (), claimDuration := some 60, maxClaimsPerUser := some maxClaimsPerUser, maxTotalClaims := some 3
      totalValue := some 50000000, endsAt := some 100000 },
    .recordDeposit 1 1 100000000 "NQ02 OWNER" depositHash, .confirmTrans 1, .resume 0 {}, .publish 1 [],
    .claim ⟨1, 2, (), some 5, none, none⟩, .claim ⟨1, 3, (), some 5, none, none⟩, .tick 60, .refresh 1, .refresh 2]

/-- The second account is refused when its wait is over, and keeps its wallet. -/
theorem wallet_spot_limit_twoAccounts :
    (∃ spot, (run (step Settings.twoSigners) Sys.initial (twoAccounts 1)).db.getSpot 1 = some spot ∧
      spot.maxClaimsPerUser = 1 ∧
      walletTotal Settings.twoSigners (run (step Settings.twoSigners) Sys.initial (twoAccounts 1)).db spot
        firstWallet ≤ 1) ∧
    (run (step Settings.twoSigners) Sys.initial (twoAccounts 1 ++ [.bindWallet 3 secondWallet])).db.userBindings.lookup
      3 = some firstWallet := by
  have hcanonical : Settings.twoSigners.CanonicalAddresses := canonicalAddresses_withWallet Settings.depositShown
  obtain ⟨hfits, hkept⟩ := @wallet_spot_limit _ Settings.twoSigners (twoAccounts 1) [.bindWallet 3 secondWallet]
    hcanonical rfl
  refine ⟨?_, hkept 3 firstWallet (by decide +kernel)⟩
  have hstate : ((run (step Settings.twoSigners) Sys.initial (twoAccounts 1)).db.getSpot 1).any (fun spot =>
      spot.maxClaimsPerUser = 1) = true := by decide +kernel
  obtain ⟨spot, hspot, hlimit⟩ := (Option.any_eq_true _ _).mp hstate
  have hone : spot.maxClaimsPerUser = 1 := of_decide_eq_true hlimit
  refine ⟨spot, hspot, hone, ?_⟩
  rw [← hone]
  exact hfits 1 spot firstWallet hspot (by rw [hone]; decide)

/-- A limit of zero is no limit. -/
theorem unlimited_wallet_claims : ¬ ∀ (ops : List (Op Unit)) id spot wallet,
    (run (step Settings.twoSigners) Sys.initial ops).db.getSpot id = some spot →
      walletTotal Settings.twoSigners (run (step Settings.twoSigners) Sys.initial ops).db spot wallet ≤
        spot.maxClaimsPerUser := by
  intro hall
  have hstate : ((run (step Settings.twoSigners) Sys.initial (twoAccounts 0)).db.getSpot 1).any (fun spot =>
      spot.maxClaimsPerUser = 0 ∧ walletTotal Settings.twoSigners
        (run (step Settings.twoSigners) Sys.initial (twoAccounts 0)).db spot firstWallet = 2) = true := by
    decide +kernel
  obtain ⟨spot, hspot, hcounted⟩ := (Option.any_eq_true _ _).mp hstate
  obtain ⟨hnone, htwo⟩ := of_decide_eq_true hcounted
  have hfits := hall (twoAccounts 0) 1 spot firstWallet hspot
  omega

end Runs

end NimHunt
