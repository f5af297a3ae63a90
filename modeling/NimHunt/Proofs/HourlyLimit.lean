import NimHunt.ClaimWalletHourlyLimit
import NimHunt.Lib.Windows
import NimHunt.Proofs.ClaimWrites
import NimHunt.Proofs.WalletAddresses

/-!
# A verified wallet never exceeds its hourly limit

The claims of all accounts bound to a wallet are counted in the transaction that adds the next one, at a
moment no later than the time the row is dated with.  Recent events are claims of their wallet, one event a
claim, so that neither reading of the preclaim decision outlasts the oldest claim it has counted.
-/

namespace NimHunt

open Lib

variable {P : Type}

/-- The columns of a claim the limit counts by: the row, its account and its time. -/
def Claim.key (c : Claim P) : ℕ × ℕ × ℕ := (c.id, c.recipient, c.claimedAt)

def claimKeys (db : Db P) : List (ℕ × ℕ × ℕ) := db.claims.map Claim.key

/-- The times of the claims of all accounts bound to the wallet. -/
def walletClaimTimes (cfg : Settings P) (db : Db P) (wallet : Address) : List ℕ :=
  (db.claims.filter fun c => boundWallet cfg db c.recipient = some wallet).map Claim.claimedAt

section Wallets

variable {cfg : Settings P} {db db' : Db P}

lemma canonicalOptionalAddress_normalised {value : Option Address} {wallet : Address}
    (h : canonicalOptionalAddress cfg value = some wallet) :
    ∃ text, cfg.normaliseRealNimiqAddress text = .ok wallet := by
  unfold canonicalOptionalAddress at h
  split at h
  · cases h
  · cases h
  · rename_i raw _ _
    refine ⟨raw, ?_⟩
    cases hnormalised : cfg.normaliseRealNimiqAddress raw with
    | error message =>
      rw [hnormalised] at h
      cases h
    | ok address =>
      rw [hnormalised] at h
      exact congrArg Except.ok (Option.some.inj h)

lemma Settings.CanonicalAddresses.canonical (hcanonical : cfg.CanonicalAddresses) {value : Option Address}
    {wallet : Address} (h : canonicalOptionalAddress cfg value = some wallet) :
    canonicalOptionalAddress cfg (some wallet) = some wallet := by
  obtain ⟨text, htext⟩ := canonicalOptionalAddress_normalised h
  exact hcanonical.stable text wallet htext

lemma Settings.CanonicalAddresses.signal (hcanonical : cfg.CanonicalAddresses) {value : Option Address}
    {wallet : Address} (h : canonicalOptionalAddress cfg value = some wallet) :
    signalText cfg (some wallet) = wallet := by
  obtain ⟨text, htext⟩ := canonicalOptionalAddress_normalised h
  exact hcanonical.spelled text wallet htext

lemma lookup_eq_some_of_nodup {bindings : List (ℕ × Address)} (hnodup : (bindings.map Prod.fst).Nodup) {userId : ℕ}
    {wallet : Address} : bindings.lookup userId = some wallet ↔ (userId, wallet) ∈ bindings := by
  induction bindings with
  | nil => simp
  | cons head rest ih =>
    obtain ⟨headId, headWallet⟩ := head
    rw [List.map_cons, List.nodup_cons] at hnodup
    obtain ⟨hfresh, hrest⟩ := hnodup
    by_cases hid : userId = headId
    · subst hid
      have hnot : (userId, wallet) ∉ rest := fun hmem => hfresh (List.mem_map.mpr ⟨_, hmem, rfl⟩)
      simp [hnot, eq_comm]
    · have hne : (userId == headId) = false := by simpa using hid
      rw [List.lookup_cons, hne, ih hrest]
      simp [hid]

/-- The keys of the binding rows. -/
structure BindingKeys (db : Db P) : Prop where
  nodup : (db.userBindings.map Prod.fst).Nodup
  positive : ∀ b ∈ db.userBindings, 0 < b.1

/-- The accounts the source counts are the bound ones. -/
lemma mem_verifiedWalletUserIds (hkeys : BindingKeys db) {wallet : Address}
    (hwallet : canonicalOptionalAddress cfg (some wallet) = some wallet) (userId : ℕ) :
    userId ∈ verifiedWalletUserIds cfg db wallet ↔ boundWallet cfg db userId = some wallet := by
  unfold verifiedWalletUserIds boundWallet
  rw [hwallet]
  dsimp only
  rw [List.mem_map]
  constructor
  · rintro ⟨⟨id, binding⟩, hmem, rfl⟩
    rw [List.mem_filter] at hmem
    have hbound := hmem.2
    simp only [decide_eq_true_eq] at hbound
    rw [(lookup_eq_some_of_nodup hkeys.nodup).mpr hmem.1]
    exact hbound.2
  · intro hbound
    cases hlookup : db.userBindings.lookup userId with
    | none =>
      rw [hlookup] at hbound
      cases hbound
    | some binding =>
      rw [hlookup] at hbound
      have hmem := (lookup_eq_some_of_nodup hkeys.nodup).mp hlookup
      refine ⟨(userId, binding), List.mem_filter.mpr ⟨hmem, ?_⟩, rfl⟩
      simp only [decide_eq_true_eq]
      exact ⟨hkeys.positive _ hmem, hbound⟩

/-- What the source counts is what is recent among the wallet's claims. -/
lemma walletRecentClaimTimes_eq (hkeys : BindingKeys db) {wallet : Address}
    (hwallet : canonicalOptionalAddress cfg (some wallet) = some wallet) :
    walletRecentClaimTimes cfg db wallet =
      (walletClaimTimes cfg db wallet).filter fun a => db.now < a + 60 * 60 := by
  unfold walletRecentClaimTimes walletClaimTimes
  dsimp only
  rw [List.filter_map, List.filter_filter]
  congr 1
  apply List.filter_congr
  intro c _
  have hmem := mem_verifiedWalletUserIds hkeys hwallet c.recipient
  simp [hmem, and_comm]

lemma walletRecentClaimCount_eq (hkeys : BindingKeys db) {wallet : Address}
    (hwallet : canonicalOptionalAddress cfg (some wallet) = some wallet) :
    walletRecentClaimCount cfg db wallet = recentCount (60 * 60) db.now (walletClaimTimes cfg db wallet) := by
  have htimes := congrArg List.length (walletRecentClaimTimes_eq hkeys hwallet)
  unfold walletRecentClaimTimes at htimes
  dsimp only at htimes
  rw [List.length_map] at htimes
  unfold walletRecentClaimCount recentCount
  dsimp only
  rw [List.countP_eq_length_filter, List.countP_eq_length_filter]
  exact htimes

/-- Time passes, bindings stay, and the claims of `fresh` are added at the end. -/
structure Grows (cfg : Settings P) (fresh : List (ℕ × ℕ × ℕ)) (db db' : Db P) : Prop where
  now : db.now ≤ db'.now
  bound : ∀ userId wallet, boundWallet cfg db userId = some wallet → boundWallet cfg db' userId = some wallet
  keys : claimKeys db' = claimKeys db ++ fresh

variable {fresh fresh' : List (ℕ × ℕ × ℕ)}

lemma Grows.then {db'' : Db P} (h : Grows cfg fresh db db') (h' : Grows cfg fresh' db' db'') :
    Grows cfg (fresh ++ fresh') db db'' where
  now := h.now.trans h'.now
  bound := fun userId wallet hbound => h'.bound userId wallet (h.bound userId wallet hbound)
  keys := by rw [h'.keys, h.keys, List.append_assoc]

/-- A claim is still there later, under its key. -/
lemma Grows.claim (h : Grows cfg fresh db db') {c : Claim P} (hc : c ∈ db.claims) :
    ∃ c' ∈ db'.claims, c'.id = c.id ∧ c'.recipient = c.recipient ∧ c'.claimedAt = c.claimedAt := by
  have hkey : c.key ∈ claimKeys db' := by
    rw [h.keys]
    exact List.mem_append_left _ (List.mem_map_of_mem hc)
  obtain ⟨c', hc', hsame⟩ := List.mem_map.mp hkey
  unfold Claim.key at hsame
  simp only [Prod.mk.injEq] at hsame
  exact ⟨c', hc', hsame⟩

/-- Every claim belongs to an account with a wallet. -/
def OwnersBound (cfg : Settings P) (db : Db P) : Prop :=
  ∀ c ∈ db.claims, ∃ wallet, boundWallet cfg db c.recipient = some wallet

lemma Grows.walletClaimTimes (h : Grows cfg fresh db db') (howners : OwnersBound cfg db) (wallet : Address) :
    walletClaimTimes cfg db' wallet = walletClaimTimes cfg db wallet ++
      (fresh.filter fun k => boundWallet cfg db' k.2.1 = some wallet).map fun k => k.2.2 := by
  have hbykey : ∀ (s t : Db P), ((claimKeys t).filter fun k => boundWallet cfg s k.2.1 = some wallet).map
      (fun k => k.2.2) = (t.claims.filter fun c => boundWallet cfg s c.recipient = some wallet).map Claim.claimedAt := by
    intro s t
    unfold claimKeys
    rw [List.filter_map, List.map_map]
    rfl
  have hold : (claimKeys db).filter (fun k => boundWallet cfg db' k.2.1 = some wallet) =
      (claimKeys db).filter fun k => boundWallet cfg db k.2.1 = some wallet := by
    apply List.filter_congr
    intro k hk
    obtain ⟨c, hc, rfl⟩ := List.mem_map.mp hk
    obtain ⟨owned, howned⟩ := howners c hc
    have hlater := h.bound c.recipient owned howned
    have hbefore : boundWallet cfg db c.key.2.1 = some owned := howned
    have hafter : boundWallet cfg db' c.key.2.1 = some owned := hlater
    rw [hbefore, hafter]
  have hall := hbykey db' db'
  rw [h.keys, List.filter_append, List.map_append, hold, hbykey db db] at hall
  exact hall.symm

end Wallets

section Claims

variable {cfg : Settings P} {db db' : Db P}

/-- The claims are the wallet's own, lie in the past, and no window holds too many. -/
structure HourlyClaims (cfg : Settings P) (db : Db P) : Prop where
  keyed : db.Keyed
  bindings : BindingKeys db
  owners : OwnersBound cfg db
  past : ∀ c ∈ db.claims, c.claimedAt ≤ db.now
  fits : ∀ wallet, FitsWindows (60 * 60) (max 1 cfg.walletHourlyClaimLimit) (walletClaimTimes cfg db wallet)

/-- A step that adds no claim. -/
lemma HourlyClaims.grow (h : HourlyClaims cfg db) (hgrows : Grows cfg [] db db') (hkeyed : db'.Keyed)
    (hbindings : BindingKeys db') : HourlyClaims cfg db' := by
  have hsame : ∀ c' ∈ db'.claims, ∃ c ∈ db.claims, c'.recipient = c.recipient ∧ c'.claimedAt = c.claimedAt := by
    intro c' hc'
    have hkey : c'.key ∈ claimKeys db' := List.mem_map_of_mem hc'
    rw [hgrows.keys, List.append_nil] at hkey
    obtain ⟨c, hc, hsame⟩ := List.mem_map.mp hkey
    unfold Claim.key at hsame
    simp only [Prod.mk.injEq] at hsame
    exact ⟨c, hc, hsame.2.1.symm, hsame.2.2.symm⟩
  refine ⟨hkeyed, hbindings, fun c' hc' => ?_, fun c' hc' => ?_, fun wallet => ?_⟩
  · obtain ⟨c, hc, hrecipient, -⟩ := hsame c' hc'
    obtain ⟨wallet, hbound⟩ := h.owners c hc
    rw [hrecipient]
    exact ⟨wallet, hgrows.bound _ _ hbound⟩
  · obtain ⟨c, hc, -, hclaimedAt⟩ := hsame c' hc'
    rw [hclaimedAt]
    exact (h.past c hc).trans hgrows.now
  · rw [hgrows.walletClaimTimes h.owners, List.filter_nil, List.map_nil, List.append_nil]
    exact h.fits wallet

/-- One more claim of an account whose wallet had room at an earlier moment. -/
lemma HourlyClaims.add (h : HourlyClaims cfg db) {claimId userId : ℕ} {wallet : Address}
    (hgrows : Grows cfg [(claimId, userId, db'.now)] db db') (hkeyed : db'.Keyed) (hbindings : BindingKeys db')
    (hbound : boundWallet cfg db userId = some wallet)
    (hroom : recentCount (60 * 60) db.now (walletClaimTimes cfg db wallet) < max 1 cfg.walletHourlyClaimLimit) :
    HourlyClaims cfg db' := by
  have hsame : ∀ c' ∈ db'.claims, (∃ c ∈ db.claims, c'.recipient = c.recipient ∧ c'.claimedAt = c.claimedAt) ∨
      c'.recipient = userId ∧ c'.claimedAt = db'.now := by
    intro c' hc'
    have hkey : c'.key ∈ claimKeys db' := List.mem_map_of_mem hc'
    rw [hgrows.keys, List.mem_append, List.mem_singleton] at hkey
    cases hkey with
    | inl hold =>
      obtain ⟨c, hc, hsame⟩ := List.mem_map.mp hold
      unfold Claim.key at hsame
      simp only [Prod.mk.injEq] at hsame
      exact .inl ⟨c, hc, hsame.2.1.symm, hsame.2.2.symm⟩
    | inr hnew =>
      unfold Claim.key at hnew
      simp only [Prod.mk.injEq] at hnew
      exact .inr hnew.2
  have hafter := hgrows.bound userId wallet hbound
  refine ⟨hkeyed, hbindings, fun c' hc' => ?_, fun c' hc' => ?_, fun other => ?_⟩
  · rcases hsame c' hc' with ⟨c, hc, hrecipient, -⟩ | ⟨hrecipient, -⟩
    · obtain ⟨owned, howned⟩ := h.owners c hc
      rw [hrecipient]
      exact ⟨owned, hgrows.bound _ _ howned⟩
    · rw [hrecipient]
      exact ⟨wallet, hafter⟩
  · rcases hsame c' hc' with ⟨c, hc, -, hclaimedAt⟩ | ⟨-, hclaimedAt⟩
    · rw [hclaimedAt]
      exact (h.past c hc).trans hgrows.now
    · exact le_of_eq hclaimedAt
  · rw [hgrows.walletClaimTimes h.owners]
    by_cases hother : wallet = other
    · subst hother
      have hone : ([(claimId, userId, db'.now)].filter fun k => boundWallet cfg db' k.2.1 = some wallet).map
          (fun k => k.2.2) = [db'.now] := by simp [hafter]
      rw [hone]
      exact (h.fits wallet).add hroom hgrows.now
    · have hnone : ([(claimId, userId, db'.now)].filter fun k => boundWallet cfg db' k.2.1 = some other).map
          (fun k => k.2.2) = [] := by simp [hafter, hother]
      rw [hnone, List.append_nil]
      exact h.fits other

/-! The claim transaction adds at most one claim. -/

lemma ClaimsRewritten.keyed (h : ClaimsRewritten db db') (hkeyed : db.Keyed) : db'.Keyed := by
  obtain ⟨f, g, attempts, rfl, hf, hg⟩ := h
  refine ⟨hkeyed.spotKeys, ?_, ?_, ?_, ?_, hkeyed.transKeys, hkeyed.transFresh⟩
  · have hids : (db.claims.map f).map Claim.id = db.claims.map Claim.id := by
      rw [List.map_map]
      exact List.map_congr_left fun c _ => (hf c).id
    dsimp only
    rw [hids]
    exact hkeyed.claimKeys
  · intro c' hc'
    obtain ⟨c, hc, rfl⟩ := List.mem_map.mp hc'
    rw [(hf c).id]
    exact hkeyed.claimFresh c hc
  · have hids : (db.claimCodes.map g).map ClaimCode.id = db.claimCodes.map ClaimCode.id := by
      rw [List.map_map]
      exact List.map_congr_left fun code _ => hg code
    dsimp only
    rw [hids]
    exact hkeyed.codeKeys
  · intro code' hcode'
    obtain ⟨code, hcode, rfl⟩ := List.mem_map.mp hcode'
    rw [hg code]
    exact hkeyed.codeFresh code hcode

lemma ClaimsRewritten.claimKeys (h : ClaimsRewritten db db') : claimKeys db' = claimKeys db := by
  obtain ⟨f, g, attempts, rfl, hf, -⟩ := h
  unfold NimHunt.claimKeys
  dsimp only
  rw [List.map_map]
  apply List.map_congr_left
  intro c _
  unfold Claim.key
  dsimp only [Function.comp]
  rw [(hf c).id, (hf c).recipient, (hf c).claimedAt]

/-- What a claim transaction leaves: the claims as they were, or one more with the answer naming it. -/
inductive AddsClaim (cfg : Settings P) (db : Db P) (userId : ℕ) : Outcome P (Claim P) → Prop
  | none {db' : Db P} {e : Raised} (hgrows : Grows cfg [] db db') (hkeyed : db'.Keyed)
      (hbindings : db'.userBindings = db.userBindings) (hnow : db'.now = db.now) :
      AddsClaim cfg db userId (db', .error e)
  | one {db' : Db P} {answer : Except Raised (Claim P)}
      (hgrows : Grows cfg [(db.claimSeq + 1, userId, db'.now)] db db') (hkeyed : db'.Keyed)
      (hbindings : db'.userBindings = db.userBindings) (hnow : db'.now = db.now)
      (hanswer : ∀ claim, answer = .ok claim → claim.id = db.claimSeq + 1) :
      AddsClaim cfg db userId (db', answer)

lemma grows_of_bindings {fresh : List (ℕ × ℕ × ℕ)} (hnow : db.now ≤ db'.now)
    (hbindings : db'.userBindings = db.userBindings) (hkeys : claimKeys db' = claimKeys db ++ fresh) :
    Grows cfg fresh db db' where
  now := hnow
  bound := by
    intro userId wallet hbound
    unfold boundWallet at hbound ⊢
    rw [hbindings]
    exact hbound
  keys := hkeys

lemma installedCreateClaimAttempt_adds (cfg : Settings P) (req : ClaimRequest P) (hkeyed : db.Keyed) :
    AddsClaim cfg db req.userId (installedCreateClaimAttempt cfg db req) := by
  have hone : ∀ spot claim entered, EntersClaim cfg db req spot claim entered → ∀ db', ClaimsRewritten entered db' →
      ∀ answer : Except Raised (Claim P), (∀ c, answer = .ok c → c.id = claim.id) →
      AddsClaim cfg db req.userId (db', answer) := by
    intro spot claim entered henters db' hrewritten answer hanswer
    obtain ⟨address, hclaim⟩ := henters.inserted
    obtain ⟨markers, attempts, hentered, -⟩ := henters.attempts
    have hid : claim.id = db.claimSeq + 1 := by rw [hclaim]; rfl
    have hentersKeyed : entered.Keyed := by
      rw [hentered]
      refine ⟨hkeyed.spotKeys, ?_, ?_, hkeyed.codeKeys, hkeyed.codeFresh, hkeyed.transKeys, hkeyed.transFresh⟩
      · dsimp only
        rw [List.map_append, List.map_singleton, hid]
        apply nodup_concat_of_fresh hkeyed.claimKeys
        intro old hold
        obtain ⟨c, hc, rfl⟩ := List.mem_map.mp hold
        have := (hkeyed.claimFresh c hc).2
        omega
      · intro c hc
        rw [List.mem_append, List.mem_singleton] at hc
        dsimp only
        cases hc with
        | inl hold =>
          have := hkeyed.claimFresh c hold
          omega
        | inr hnew =>
          rw [hnew, hid]
          omega
    have hkeys : claimKeys db' = claimKeys db ++ [(db.claimSeq + 1, req.userId, db'.now)] := by
      rw [hrewritten.claimKeys]
      have hnow : db'.now = db.now := by
        obtain ⟨f, g, codes, rfl, -, -⟩ := hrewritten
        rw [hentered]
      rw [hentered, hnow]
      unfold claimKeys
      dsimp only
      rw [List.map_append, List.map_singleton, hclaim]
      rfl
    have hsame : db'.now = db.now ∧ db'.userBindings = db.userBindings := by
      obtain ⟨f, g, codes, rfl, -, -⟩ := hrewritten
      rw [hentered]
      exact ⟨rfl, rfl⟩
    exact .one (grows_of_bindings (le_of_eq hsame.1.symm) hsame.2 hkeys) (hrewritten.keyed hentersKeyed) hsame.2
      hsame.1 fun c hc => (hanswer c hc).trans hid
  rcases installedCreateClaimAttempt_outcomes cfg req hkeyed with
    ⟨db', e, hrefused, honly⟩ | ⟨spot, claim, entered, henters, ⟨-, hwaits⟩ | ⟨-, hsettled, hanswer⟩⟩
  · rw [hrefused, honly.same]
    refine .none (grows_of_bindings le_rfl rfl (List.append_nil _).symm) ?_ rfl rfl
    exact ⟨hkeyed.spotKeys, hkeyed.claimKeys, hkeyed.claimFresh, hkeyed.codeKeys, hkeyed.codeFresh,
      hkeyed.transKeys, hkeyed.transFresh⟩
  · rw [hwaits]
    apply hone spot claim entered henters entered (.refl entered)
    intro c hc
    rw [← Except.ok.inj hc]
  · have hrewritten : ClaimsRewritten entered (installedCreateClaimAttempt cfg db req).1 := by
      rw [hsettled]
      exact claimsRewritten_codePromoter entered claim.id
    rcases hinstalled : installedCreateClaimAttempt cfg db req with ⟨db', answer⟩
    rw [hinstalled] at hrewritten hanswer
    apply hone spot claim entered henters db' hrewritten
    intro c hc
    rcases hanswer with hsuccess | ⟨-, message, hfailed⟩
    · dsimp only at hsuccess
      rw [hc] at hsuccess
      rw [Except.ok.inj hsuccess]
      rfl
    · dsimp only at hfailed
      rw [hc] at hfailed
      cases hfailed

/-- The claim transaction is refused by the limit, or the wallet has room and the rest of the transaction is the
deployment's at the later moment. -/
lemma claimTransaction_cases (cfg : Settings P) (seconds : ℕ) (db : Db P) (req : ClaimRequest P)
    (hpublic : cfg.publicDeployment = true) :
    (∃ wallet, boundWallet cfg db req.userId = some wallet ∧
      max 1 cfg.walletHourlyClaimLimit ≤ walletRecentClaimCount cfg db wallet ∧
      claimTransaction cfg seconds db req =
        (db, .error (.valueError "Verified wallet hourly claim limit reached."))) ∨
    (∀ wallet, boundWallet cfg db req.userId = some wallet →
      walletRecentClaimCount cfg db wallet < max 1 cfg.walletHourlyClaimLimit) ∧
    claimTransaction cfg seconds db req =
      installedCreateClaimAttempt cfg { db with now := db.now + seconds } req := by
  unfold claimTransaction installedCreateClaimAttempt createClaimAttemptWithDurableWalletLimit
  dsimp only
  rw [hpublic, Bool.true_and, Bool.true_and]
  have hlater : boundWallet cfg { db with now := db.now + seconds } req.userId = boundWallet cfg db req.userId := rfl
  rw [hlater]
  cases hbound : boundWallet cfg db req.userId with
  | none => exact .inr ⟨by simp, rfl⟩
  | some wallet =>
    dsimp only
    by_cases hfull : max 1 cfg.walletHourlyClaimLimit ≤ walletRecentClaimCount cfg db wallet
    · left
      rw [if_pos (decide_eq_true hfull)]
      exact ⟨wallet, rfl, hfull, rfl⟩
    · right
      have hfewer : walletRecentClaimCount cfg { db with now := db.now + seconds } wallet ≤
          walletRecentClaimCount cfg db wallet := by
        unfold walletRecentClaimCount
        apply List.countP_mono_left
        intro c _ hc
        simp only [decide_eq_true_eq] at hc ⊢
        exact ⟨hc.1, by omega⟩
      have hlaterFull : ¬ max 1 cfg.walletHourlyClaimLimit ≤
          walletRecentClaimCount cfg { db with now := db.now + seconds } wallet := fun h => hfull (h.trans hfewer)
      rw [if_neg (by simpa using hfull), if_neg (by simpa using hlaterFull)]
      refine ⟨fun found hfound => ?_, rfl⟩
      rw [← Option.some.inj hfound]
      omega

end Claims

section Runs

variable {cfg : Settings P} {pre : PreclaimSettings P} {s : HourlyRun P}

/-- The claim a session has made, or an event records. -/
def ClaimOf (cfg : Settings P) (db : Db P) (claimId : ℕ) (wallet : Address) : Prop :=
  ∃ c ∈ db.claims, c.id = claimId ∧ boundWallet cfg db c.recipient = some wallet

def EventOf (cfg : Settings P) (db : Db P) (event : ClaimEvent P) : Prop :=
  ∃ c ∈ db.claims, ∃ wallet, c.id = event.claimId ∧ c.claimedAt = event.claimedAt ∧
    event.verifiedWallet = some wallet ∧ boundWallet cfg db c.recipient = some wallet

lemma ClaimOf.grow {db db' : Db P} {fresh : List (ℕ × ℕ × ℕ)} {claimId : ℕ} {wallet : Address}
    (h : ClaimOf cfg db claimId wallet) (hgrows : Grows cfg fresh db db') : ClaimOf cfg db' claimId wallet := by
  obtain ⟨c, hc, hid, hbound⟩ := h
  obtain ⟨c', hc', hid', hrecipient, -⟩ := hgrows.claim hc
  exact ⟨c', hc', hid'.trans hid, hrecipient ▸ hgrows.bound _ _ hbound⟩

lemma EventOf.grow {db db' : Db P} {fresh : List (ℕ × ℕ × ℕ)} {event : ClaimEvent P} (h : EventOf cfg db event)
    (hgrows : Grows cfg fresh db db') : EventOf cfg db' event := by
  obtain ⟨c, hc, wallet, hid, hclaimedAt, hwallet, hbound⟩ := h
  obtain ⟨c', hc', hid', hrecipient, hclaimedAt'⟩ := hgrows.claim hc
  exact ⟨c', hc', wallet, hid'.trans hid, hclaimedAt'.trans hclaimedAt, hwallet,
    hrecipient ▸ hgrows.bound _ _ hbound⟩

/-- Whatever is on its way or recorded belongs to the wallet of the account it was claimed by. -/
structure HourlyRun.Sound (cfg : Settings P) (s : HourlyRun P) : Prop where
  claims : HourlyClaims cfg s.rt.db
  sessions : ∀ token session wallet, s.rt.metadata.sessions token = some session →
    canonicalOptionalAddress cfg (some session.walletAddress) = some wallet →
    boundWallet cfg s.rt.db session.userId = some wallet
  admitted : ∀ session ∈ s.admitted, boundWallet cfg s.rt.db session.userId = some session.walletAddress
  recording : ∀ entry ∈ s.recording, ClaimOf cfg s.rt.db entry.1 entry.2.walletAddress
  events : ∀ event ∈ s.rt.metadata.recentEvents, EventOf cfg s.rt.db event
  eventKeys : (s.rt.metadata.recentEvents.map ClaimEvent.claimId).Nodup

/-- What the rest of the deployment does to the claims and bindings: nothing the limit looks at. -/
structure LeavesClaims (db db' : Db P) : Prop where
  keyed : db'.Keyed
  now : db.now ≤ db'.now
  bindings : db'.userBindings = db.userBindings
  claims : claimKeys db' = claimKeys db

def HourlyAdmitted (s : HourlyRun P) : HourlyOp P → Prop
  | .elsewhere db => LeavesClaims s.rt.db db
  | _ => True

/-- A step that changes nothing but the database, without a new claim. -/
lemma HourlyRun.Sound.grow (h : s.Sound cfg) {db' : Db P} {fresh : List (ℕ × ℕ × ℕ)}
    (hgrows : Grows cfg fresh s.rt.db db') (hclaims : HourlyClaims cfg db') :
    HourlyRun.Sound cfg { s with rt := { s.rt with db := db' } } where
  claims := hclaims
  sessions := fun token session wallet hsession hwallet => hgrows.bound _ _ (h.sessions token session wallet hsession hwallet)
  admitted := fun session hsession => hgrows.bound _ _ (h.admitted session hsession)
  recording := fun entry hentry => (h.recording entry hentry).grow hgrows
  events := fun event hevent => (h.events event hevent).grow hgrows
  eventKeys := h.eventKeys

lemma HourlyRun.Sound.drop (h : s.Sound cfg) (index index' : ℕ) :
    HourlyRun.Sound cfg { s with
      admitted := s.admitted.eraseIdx index, recording := s.recording.eraseIdx index' } :=
  ⟨h.claims, h.sessions, fun session hsession => h.admitted session (List.mem_of_mem_eraseIdx hsession),
    fun entry hentry => h.recording entry (List.mem_of_mem_eraseIdx hentry), h.events, h.eventKeys⟩

lemma HourlyRun.Sound.wait (h : s.Sound cfg) (seconds : ℕ) :
    HourlyRun.Sound cfg { s with rt := s.rt.elapse seconds } := by
  have hkeyed := h.claims.keyed
  have hgrows : Grows cfg [] s.rt.db { s.rt.db with now := s.rt.db.now + seconds } :=
    grows_of_bindings (Nat.le_add_right _ _) rfl (List.append_nil _).symm
  apply h.grow hgrows
  apply h.claims.grow hgrows
  · exact ⟨hkeyed.spotKeys, hkeyed.claimKeys, hkeyed.claimFresh, hkeyed.codeKeys, hkeyed.codeFresh,
      hkeyed.transKeys, hkeyed.transFresh⟩
  · exact ⟨h.claims.bindings.nodup, h.claims.bindings.positive⟩

/-- Reading a session may delete it, and nothing else. -/
lemma loadSession_sound (h : s.Sound cfg) (token : Option String) (deviceIdHash : String) :
    HourlyRun.Sound cfg { s with rt := (loadSession cfg s.rt token deviceIdHash).1 } ∧
    (loadSession cfg s.rt token deviceIdHash).1.db = s.rt.db ∧
    ∀ session, (loadSession cfg s.rt token deviceIdHash).2 = some session →
      boundWallet cfg s.rt.db session.userId = some session.walletAddress := by
  unfold loadSession
  split
  · exact ⟨h, rfl, by simp⟩
  · exact ⟨h, rfl, by simp⟩
  · rename_i text _
    cases hsession : s.rt.metadata.sessions text with
    | none => exact ⟨h, rfl, by simp⟩
    | some session =>
      dsimp only
      by_cases hexpired : session.expiresAt ≤ s.rt.db.now
      · rw [if_pos hexpired]
        refine ⟨⟨h.claims, fun found stored wallet hstored hwallet => ?_, h.admitted, h.recording, h.events,
          h.eventKeys⟩, rfl, by simp⟩
        dsimp only at hstored
        by_cases hsame : found = text
        · rw [hsame, Function.update_self] at hstored
          cases hstored
        · rw [Function.update_of_ne hsame] at hstored
          exact h.sessions found stored wallet hstored hwallet
      · rw [if_neg hexpired]
        by_cases hdevice : session.deviceIdHash ≠ deviceIdHash
        · rw [if_pos hdevice]
          exact ⟨h, rfl, by simp⟩
        · rw [if_neg hdevice]
          cases hwallet : canonicalOptionalAddress cfg (some session.walletAddress) with
          | none => exact ⟨h, rfl, by simp⟩
          | some wallet =>
            refine ⟨h, rfl, fun loaded hloaded => ?_⟩
            rw [← Option.some.inj hloaded]
            exact h.sessions text session wallet hsession hwallet

lemma HourlyRun.Sound.pass (h : s.Sound cfg) (token deviceIdHash : String) :
    (s.step cfg pre (.pass token deviceIdHash)).Sound cfg := by
  obtain ⟨hloaded, hdb, hbound⟩ := loadSession_sound h (some token) deviceIdHash
  refine ⟨hloaded.claims, hloaded.sessions, fun session hsession => ?_, hloaded.recording, hloaded.events,
    hloaded.eventKeys⟩
  change session ∈ s.admitted ++ (authenticatedSession cfg s.rt (some token) deviceIdHash).2.toList at hsession
  change boundWallet cfg (loadSession cfg s.rt (some token) deviceIdHash).1.db session.userId = _
  rw [hdb]
  rw [List.mem_append, Option.mem_toList] at hsession
  cases hsession with
  | inl hold => exact h.admitted session hold
  | inr hnew =>
    unfold authenticatedSession at hnew
    exact hbound session (Option.filter_eq_some_iff.mp hnew).1

/-- A new binding is the first of its account, or repeats the wallet the account has. -/
lemma bindings_bind (hcanonical : cfg.CanonicalAddresses) {db : Db P} {userId : ℕ} {signer wallet : Address}
    (hsigner : cfg.normaliseRealNimiqAddress signer = .ok wallet) (hpositive : 0 < userId)
    (hprevious : ∀ previous, boundWallet cfg db userId = some previous → previous = wallet) (hkeys : BindingKeys db) :
    BindingKeys { db with userBindings := (userId, wallet) :: db.userBindings.filter fun b => b.1 ≠ userId } ∧
    boundWallet cfg { db with userBindings := (userId, wallet) :: db.userBindings.filter fun b => b.1 ≠ userId }
      userId = some wallet ∧
    ∀ other owned, boundWallet cfg db other = some owned →
      boundWallet cfg { db with userBindings := (userId, wallet) :: db.userBindings.filter fun b => b.1 ≠ userId }
        other = some owned := by
  have hkept := hkeys.nodup.sublist (List.filter_sublist.map Prod.fst : ((db.userBindings.filter fun b =>
    b.1 ≠ userId).map Prod.fst).Sublist (db.userBindings.map Prod.fst))
  have hown : boundWallet cfg { db with
      userBindings := (userId, wallet) :: db.userBindings.filter fun b => b.1 ≠ userId } userId = some wallet := by
    unfold boundWallet
    dsimp only
    rw [List.lookup_cons_self]
    exact hcanonical.stable signer wallet hsigner
  refine ⟨⟨?_, ?_⟩, hown, ?_⟩
  · dsimp only
    rw [List.map_cons, List.nodup_cons]
    refine ⟨?_, hkept⟩
    intro hmem
    obtain ⟨b, hb, hid⟩ := List.mem_map.mp hmem
    exact of_decide_eq_true (List.mem_filter.mp hb).2 hid
  · intro b hb
    cases List.mem_cons.mp hb with
    | inl hnew =>
      rw [hnew]
      exact hpositive
    | inr hold => exact hkeys.positive b (List.mem_filter.mp hold).1
  · intro other owned hbound
    by_cases hother : other = userId
    · rw [hother] at hbound ⊢
      rw [hown, hprevious owned hbound]
    · rw [← hbound]
      unfold boundWallet
      congr 1
      dsimp only
      have hne : (other == userId) = false := by simpa using hother
      rw [List.lookup_cons, hne]
      cases hlookup : db.userBindings.lookup other with
      | none =>
        rw [List.lookup_eq_none_iff] at hlookup ⊢
        exact fun b hb => hlookup b (List.mem_filter.mp hb).1
      | some binding =>
        have hmem := (lookup_eq_some_of_nodup hkeys.nodup).mp hlookup
        exact (lookup_eq_some_of_nodup hkept).mpr (List.mem_filter.mpr ⟨hmem, by simpa using hother⟩)

lemma bindWallet_grows (hcanonical : cfg.CanonicalAddresses) {db : Db P} {userId : ℕ} {signer walletAddress : Address}
    (hsigner : cfg.normaliseRealNimiqAddress signer = .ok walletAddress) (hpositive : 0 < userId)
    (hfound : (db.getUser userId).isNone = false)
    (hsame : (boundWallet cfg db userId).any (· ≠ walletAddress) = false) (hkeys : BindingKeys db) :
    Grows cfg [] db (db.bindWallet cfg userId signer) ∧ BindingKeys (db.bindWallet cfg userId signer) ∧
    boundWallet cfg (db.bindWallet cfg userId signer) userId = some walletAddress := by
  have hbind : db.bindWallet cfg userId signer =
      { db with userBindings := (userId, walletAddress) :: db.userBindings.filter fun b => b.1 ≠ userId } := by
    unfold Db.bindWallet
    rw [if_neg (by simp [hfound, Nat.ne_of_gt hpositive]), hsigner]
    dsimp only
    rw [if_neg (by rw [hsame]; exact Bool.false_ne_true)]
  have hprevious : ∀ previous, boundWallet cfg db userId = some previous → previous = walletAddress := by
    intro previous hbound
    rw [hbound] at hsame
    simpa using hsame
  obtain ⟨hbindings, hown, hkept⟩ := bindings_bind hcanonical hsigner hpositive hprevious hkeys
  rw [hbind]
  exact ⟨⟨le_refl _, hkept, (List.append_nil _).symm⟩, hbindings, hown⟩

lemma HourlyRun.Sound.verify (hcanonical : cfg.CanonicalAddresses) (h : s.Sound cfg) (token : String) (userId : ℕ)
    (deviceIdHash : String) (signer : Address) :
    (s.step cfg pre (.verify token userId deviceIdHash signer)).Sound cfg ∧
    Grows cfg [] s.rt.db (s.step cfg pre (.verify token userId deviceIdHash signer)).rt.db := by
  have hidle : s.Sound cfg ∧ Grows cfg [] s.rt.db s.rt.db :=
    ⟨h, grows_of_bindings le_rfl rfl (List.append_nil _).symm⟩
  unfold HourlyRun.step
  dsimp only
  unfold Runtime.verifyWallet
  by_cases hnobody : userId = 0 ∨ (s.rt.db.getUser userId).isNone = true
  · rw [if_pos hnobody]
    exact hidle
  · rw [if_neg hnobody]
    cases hsigner : cfg.normaliseRealNimiqAddress signer with
    | error message => exact hidle
    | ok walletAddress =>
      dsimp only
      by_cases hother : (boundWallet cfg s.rt.db userId).any (· ≠ walletAddress) = true
      · rw [if_pos hother]
        exact hidle
      · rw [if_neg hother]
        have hpositive : 0 < userId := Nat.pos_of_ne_zero fun hzero => hnobody (.inl hzero)
        have hfound : (s.rt.db.getUser userId).isNone = false := by
          rw [← Bool.not_eq_true]
          exact fun hnone => hnobody (.inr hnone)
        obtain ⟨hgrows, hbindings, hown⟩ := bindWallet_grows hcanonical hsigner hpositive hfound
          (by simpa using hother) h.claims.bindings
        have hkeyed : (s.rt.db.bindWallet cfg userId signer).Keyed := by
          have hkeyed := h.claims.keyed
          unfold Db.bindWallet
          split
          · exact hkeyed
          · split
            · exact hkeyed
            · split
              · exact hkeyed
              · exact ⟨hkeyed.spotKeys, hkeyed.claimKeys, hkeyed.claimFresh, hkeyed.codeKeys, hkeyed.codeFresh,
                  hkeyed.transKeys, hkeyed.transFresh⟩
        have hgrown := h.grow hgrows (h.claims.grow hgrows hkeyed hbindings)
        refine ⟨⟨hgrown.claims, fun found stored wallet hstored hwallet => ?_, hgrown.admitted, hgrown.recording,
          hgrown.events, hgrown.eventKeys⟩, hgrows⟩
        dsimp only at hstored ⊢
        by_cases hsame : found = token
        · rw [hsame, Function.update_self] at hstored
          obtain rfl := Option.some.inj hstored
          dsimp only at hwallet ⊢
          rw [hown, ← hwallet, hcanonical.stable signer walletAddress hsigner]
        · rw [Function.update_of_ne hsame] at hstored
          exact hgrown.sessions found stored wallet hstored hwallet

/-- The claim transaction: the limit was checked for the very wallet the new claim counts for. -/
lemma HourlyRun.Sound.claim (hcanonical : cfg.CanonicalAddresses) (hpublic : cfg.publicDeployment = true)
    (h : s.Sound cfg) {index seconds : ℕ} {session : ClaimSession} (hsession : session ∈ s.admitted)
    {req : ClaimRequest P} (hreq : req.userId = session.userId) :
    (s.commitClaim seconds index session (claimTransaction cfg seconds s.rt.db req)).Sound cfg ∧
    ∃ fresh, Grows cfg fresh s.rt.db
      (s.commitClaim seconds index session (claimTransaction cfg seconds s.rt.db req)).rt.db := by
  have hbound := h.admitted session hsession
  rw [← hreq] at hbound
  have hdrop := fun {t : HourlyRun P} (ht : t.Sound cfg) => ht.drop index t.recording.length
  have hkeep : ∀ t : HourlyRun P, t.recording.eraseIdx t.recording.length = t.recording :=
    fun t => List.eraseIdx_of_length_le le_rfl
  have hwait := h.wait seconds
  have hgrowsWait : Grows cfg [] s.rt.db { s.rt.db with now := s.rt.db.now + seconds } :=
    grows_of_bindings (Nat.le_add_right _ _) rfl (List.append_nil _).symm
  rcases claimTransaction_cases cfg seconds s.rt.db req hpublic with
    ⟨wallet, -, -, hrefused⟩ | ⟨hroom, hcall⟩
  · rw [hrefused]
    refine ⟨?_, [], grows_of_bindings le_rfl rfl (List.append_nil _).symm⟩
    have hdropped := hdrop h
    rw [hkeep s] at hdropped
    exact hdropped
  · have hadds := installedCreateClaimAttempt_adds cfg req hwait.claims.keyed
    change AddsClaim cfg { s.rt.db with now := s.rt.db.now + seconds } req.userId
      (installedCreateClaimAttempt cfg { s.rt.db with now := s.rt.db.now + seconds } req) at hadds
    rw [hcall]
    generalize installedCreateClaimAttempt cfg { s.rt.db with now := s.rt.db.now + seconds } req = outcome at hadds
    cases hadds with
    | @none db' e hgrows hkeyed hbindings hnow =>
      have hkeys : BindingKeys db' :=
        ⟨hbindings ▸ hwait.claims.bindings.nodup, hbindings ▸ hwait.claims.bindings.positive⟩
      have hafter := hwait.grow hgrows (hwait.claims.grow hgrows hkeyed hkeys)
      unfold commitClaim
      dsimp only
      by_cases hcommitted : e.isValueError = true
      · rw [if_pos hcommitted]
        have hdropped := hdrop hafter
        rw [hkeep] at hdropped
        exact ⟨hdropped, _, hgrowsWait.then hgrows⟩
      · rw [if_neg hcommitted]
        have hdropped := hdrop hwait
        rw [hkeep] at hdropped
        exact ⟨hdropped, _, hgrowsWait⟩
    | @one db' answer hgrows hkeyed hbindings hnow hanswer =>
      have hkeys : BindingKeys db' :=
        ⟨hbindings ▸ hwait.claims.bindings.nodup, hbindings ▸ hwait.claims.bindings.positive⟩
      have hadded : HourlyClaims cfg db' := by
        have hall := hgrowsWait.then hgrows
        refine h.claims.add hall hkeyed hkeys hbound ?_
        rw [← walletRecentClaimCount_eq h.claims.bindings (hcanonical.canonical hbound)]
        exact hroom _ hbound
      have hafter := hwait.grow hgrows hadded
      have hdropped := hdrop hafter
      rw [hkeep] at hdropped
      unfold commitClaim
      cases answer with
      | error e =>
        dsimp only
        by_cases hcommitted : e.isValueError = true
        · rw [if_pos hcommitted]
          exact ⟨hdropped, _, hgrowsWait.then hgrows⟩
        · rw [if_neg hcommitted]
          have hdroppedWait := hdrop hwait
          rw [hkeep] at hdroppedWait
          exact ⟨hdroppedWait, _, hgrowsWait⟩
      | ok claim =>
        refine ⟨⟨hdropped.claims, hdropped.sessions, hdropped.admitted, fun entry hentry => ?_, hdropped.events,
          hdropped.eventKeys⟩, _, hgrowsWait.then hgrows⟩
        rw [List.mem_append, List.mem_singleton] at hentry
        cases hentry with
        | inl hold => exact hdropped.recording entry hold
        | inr hnew =>
          rw [hnew]
          have hkey : ((s.rt.db.claimSeq + 1, req.userId, db'.now) : ℕ × ℕ × ℕ) ∈ claimKeys db' := by
            rw [hgrows.keys]
            exact List.mem_append_right _ (List.mem_singleton_self _)
          obtain ⟨c, hc, hsame⟩ := List.mem_map.mp hkey
          unfold Claim.key at hsame
          simp only [Prod.mk.injEq] at hsame
          refine ⟨c, hc, hsame.1.trans (hanswer claim rfl).symm, ?_⟩
          rw [hsame.2.1]
          exact hgrows.bound _ _ hbound

/-- Marking claims for review leaves sessions and recent events alone. -/
lemma markManualReview_frame (md : SecurityMetadata P) (claimIds : List ℕ) (reason : String) (now : ℕ) :
    (md.markManualReview claimIds reason now).recentEvents = md.recentEvents ∧
    (md.markManualReview claimIds reason now).sessions = md.sessions := by
  have hone : ∀ (m : SecurityMetadata P) claimId,
      (SecurityMetadata.markRecord reason now m claimId).recentEvents = m.recentEvents ∧
      (SecurityMetadata.markRecord reason now m claimId).sessions = m.sessions := by
    intro m claimId
    unfold SecurityMetadata.markRecord
    cases m.claimRecords claimId with
    | none => exact ⟨rfl, rfl⟩
    | some record => exact ⟨rfl, rfl⟩
  unfold SecurityMetadata.markManualReview
  by_cases hempty : claimIds = []
  · rw [if_pos hempty]
    exact ⟨rfl, rfl⟩
  · rw [if_neg hempty]
    generalize ((claimIds.filter (0 < ·)).dedup).insertionSort (· ≤ ·) = clean
    dsimp only
    induction clean generalizing md with
    | nil => exact ⟨rfl, rfl⟩
    | cons claimId rest ih =>
      rw [List.foldl_cons]
      obtain ⟨hevents, hsessions⟩ := ih (SecurityMetadata.markRecord reason now md claimId)
      exact ⟨hevents.trans (hone md claimId).1, hsessions.trans (hone md claimId).2⟩

lemma loadRecentEvents_sublist (sec : SecuritySettings P) (md : SecurityMetadata P) (now : ℕ) :
    (md.loadRecentEvents sec now).Sublist md.recentEvents :=
  (List.drop_sublist _ _).trans List.filter_sublist

/-- Recording changes no table, and the events become some of what they were with one event of the claim. -/
lemma recordClaimEventBody_events (cfg : Settings P) (sec : SecuritySettings P) (rt : Runtime P)
    (arguments : RecordArguments P) :
    (recordClaimEventBody cfg sec rt arguments).1.db = rt.db ∧
    (recordClaimEventBody cfg sec rt arguments).1.metadata.sessions = rt.metadata.sessions ∧
    ((recordClaimEventBody cfg sec rt arguments).1.metadata.recentEvents = rt.metadata.recentEvents ∨
      ∃ claim event, rt.db.getClaim arguments.claimId = some claim ∧ event.claimId = arguments.claimId ∧
        event.claimedAt = claim.claimedAt ∧ event.verifiedWallet = some arguments.session.walletAddress ∧
        (recordClaimEventBody cfg sec rt arguments).1.metadata.recentEvents.Sublist
          (rt.metadata.recentEvents.filter (fun e => e.claimId ≠ arguments.claimId) ++ [event])) := by
  unfold recordClaimEventBody
  dsimp only
  cases hclaim : rt.db.getClaim arguments.claimId with
  | none => exact ⟨rfl, rfl, .inl rfl⟩
  | some claim =>
    dsimp only
    cases rt.db.getSpot claim.spotId with
    | none => exact ⟨rfl, rfl, .inl rfl⟩
    | some spot =>
      dsimp only
      cases rt.db.getUser claim.recipient with
      | none => exact ⟨rfl, rfl, .inl rfl⟩
      | some user =>
        dsimp only
        cases spot.position with
        | none => exact ⟨rfl, rfl, .inl rfl⟩
        | some centre =>
          refine ⟨rfl, (markManualReview_frame _ _ _ _).2, Or.inr ⟨claim, ?_⟩⟩
          rw [(markManualReview_frame _ _ _ _).1]
          apply Exists.intro
          refine ⟨rfl, ?_, ?_, ?_, (List.drop_sublist _ _).trans
            (((loadRecentEvents_sublist _ _ _).filter _).append_right _)⟩
          · rfl
          · rfl
          · rfl

lemma HourlyRun.Sound.record (h : s.Sound cfg) {claimId : ℕ} {session : ClaimSession} (index : ℕ)
    (hentry : (claimId, session) ∈ s.recording) (sec : SecuritySettings P) (body : ClaimBody P) (ipFingerprint : String)
    (authorization : Option ClaimAuthorization) :
    HourlyRun.Sound cfg { s with
      rt := (recordClaimEventBody cfg sec s.rt ⟨claimId, session, body, ipFingerprint, authorization⟩).1
      recording := s.recording.eraseIdx index } := by
  obtain ⟨hdb, hsessions, hevents⟩ := recordClaimEventBody_events cfg sec s.rt
    ⟨claimId, session, body, ipFingerprint, authorization⟩
  generalize recordClaimEventBody cfg sec s.rt ⟨claimId, session, body, ipFingerprint, authorization⟩ = outcome
    at hdb hsessions hevents
  have hold : (∀ event ∈ outcome.1.metadata.recentEvents, EventOf cfg s.rt.db event) ∧
      (outcome.1.metadata.recentEvents.map ClaimEvent.claimId).Nodup := by
    rcases hevents with hsame | ⟨claim, event, hclaim, hid, hclaimedAt, hwallet, hsublist⟩
    · rw [hsame]
      exact ⟨h.events, h.eventKeys⟩
    · dsimp only at hclaim hid hwallet hsublist
      obtain ⟨hmem, hclaimId⟩ := (Db.getClaim_eq_some h.claims.keyed).mp hclaim
      obtain ⟨c, hc, hcid, hbound⟩ := h.recording (claimId, session) hentry
      have hsame : c = claim := eq_of_key_eq h.claims.keyed.claimKeys hc hmem (hcid.trans hclaimId.symm)
      have hnew : EventOf cfg s.rt.db event :=
        ⟨claim, hmem, session.walletAddress, hclaimId.trans hid.symm, hclaimedAt.symm, hwallet, hsame ▸ hbound⟩
      constructor
      · intro found hfound
        have hfound := hsublist.subset hfound
        rw [List.mem_append, List.mem_singleton] at hfound
        cases hfound with
        | inl hearlier => exact h.events found (List.mem_filter.mp hearlier).1
        | inr hlast => exact hlast ▸ hnew
      · apply List.Nodup.sublist (hsublist.map ClaimEvent.claimId)
        rw [List.map_append, List.map_singleton, List.nodup_append]
        refine ⟨h.eventKeys.sublist (List.filter_sublist.map _), List.nodup_singleton _, ?_⟩
        intro a ha b hb
        obtain ⟨found, hfound, rfl⟩ := List.mem_map.mp ha
        rw [List.mem_singleton.mp hb, hid]
        simpa using (List.mem_filter.mp hfound).2
  refine ⟨hdb ▸ h.claims, ?_, ?_, fun entry hentry => ?_, ?_, hold.2⟩
  · dsimp only
    rw [hdb, hsessions]
    exact h.sessions
  · dsimp only
    rw [hdb]
    exact h.admitted
  · dsimp only
    rw [hdb]
    exact h.recording entry (List.mem_of_mem_eraseIdx hentry)
  · dsimp only
    rw [hdb]
    exact hold.1

/-- One step: the invariant, and what becomes of the claims. -/
lemma HourlyRun.step_sound (hcanonical : cfg.CanonicalAddresses) (hpublic : cfg.publicDeployment = true)
    (h : s.Sound cfg) {op : HourlyOp P} (hadmitted : HourlyAdmitted s op) :
    (s.step cfg pre op).Sound cfg ∧ ∃ fresh, Grows cfg fresh s.rt.db (s.step cfg pre op).rt.db := by
  have hstill : Grows cfg [] s.rt.db s.rt.db := grows_of_bindings le_rfl rfl (List.append_nil _).symm
  cases op with
  | wait seconds =>
    exact ⟨h.wait seconds, [], grows_of_bindings (Nat.le_add_right _ _) rfl (List.append_nil _).symm⟩
  | verify token userId deviceIdHash signer =>
    obtain ⟨hsound, hgrows⟩ := h.verify hcanonical token userId deviceIdHash signer
    exact ⟨hsound, [], hgrows⟩
  | pass token deviceIdHash =>
    obtain ⟨-, hdb, -⟩ := loadSession_sound h (some token) deviceIdHash
    refine ⟨h.pass token deviceIdHash, [], ?_⟩
    change Grows cfg [] s.rt.db (loadSession cfg s.rt (some token) deviceIdHash).1.db
    rw [hdb]
    exact hstill
  | claim index seconds spotId position accuracy claimCode payoutAddress =>
    unfold HourlyRun.step
    dsimp only
    cases hsession : s.admitted[index]? with
    | none => exact ⟨h, [], hstill⟩
    | some session => exact h.claim hcanonical hpublic (List.mem_of_getElem? hsession) rfl
  | record index body ipFingerprint authorization =>
    unfold HourlyRun.step
    dsimp only
    cases hentry : s.recording[index]? with
    | none => exact ⟨h, [], hstill⟩
    | some entry =>
      obtain ⟨claimId, session⟩ := entry
      have hdb := (recordClaimEventBody_events cfg pre.toSecuritySettings s.rt
        ⟨claimId, session, body, ipFingerprint, authorization⟩).1
      refine ⟨h.record index (List.mem_of_getElem? hentry) pre.toSecuritySettings body ipFingerprint authorization,
        [], ?_⟩
      dsimp only
      rw [hdb]
      exact hstill
  | abandon index =>
    have hdropped := h.drop s.admitted.length index
    rw [List.eraseIdx_of_length_le le_rfl] at hdropped
    exact ⟨hdropped, [], hstill⟩
  | rotate keep =>
    refine ⟨⟨h.claims, h.sessions, h.admitted, h.recording, fun event hevent => ?_, ?_⟩, [], hstill⟩
    · exact h.events event (List.mem_filter.mp hevent).1
    · exact h.eventKeys.sublist (List.filter_sublist.map _)
  | elsewhere db =>
    have hleaves : LeavesClaims s.rt.db db := hadmitted
    have hgrows : Grows cfg [] s.rt.db db :=
      grows_of_bindings hleaves.now hleaves.bindings (hleaves.claims.trans (List.append_nil _).symm)
    have hkeys : BindingKeys db :=
      ⟨hleaves.bindings ▸ h.claims.bindings.nodup, hleaves.bindings ▸ h.claims.bindings.positive⟩
    exact ⟨h.grow hgrows (h.claims.grow hgrows hleaves.keyed hkeys), [], hgrows⟩

lemma HourlyRun.sound_initial : (HourlyRun.initial : HourlyRun P).Sound cfg where
  claims :=
    { keyed := by constructor <;> simp [HourlyRun.initial, Db.empty]
      bindings := ⟨by simp [HourlyRun.initial, Db.empty], by simp [HourlyRun.initial, Db.empty]⟩
      owners := fun c hc => by cases hc
      past := fun c hc => by cases hc
      fits := fun wallet t => by simp [HourlyRun.initial, Db.empty, walletClaimTimes, inWindow] }
  sessions := fun token session wallet hsession => by cases hsession
  admitted := fun session hsession => by cases hsession
  recording := fun entry hentry => by cases hentry
  events := fun event hevent => by cases hevent
  eventKeys := List.nodup_nil

end Runs

section Refusals

variable {cfg : Settings P} {pre : PreclaimSettings P} {s : HourlyRun P} {wallet : Address}

/-- One of the two readings of the preclaim decision refuses the wallet until `retryAt`. -/
inductive RateLimited (cfg : Settings P) (pre : PreclaimSettings P) (rt : Runtime P) (wallet : Address) : ℕ → Prop
  | events {spotId retryAt : ℕ} {session : ClaimSession} {ipFingerprint : String}
      (hwallet : session.walletAddress = wallet)
      (hreason : (preclaimDecision cfg pre rt spotId session ipFingerprint).reason = "wallet_rate_limit")
      (hretry : (preclaimDecision cfg pre rt spotId session ipFingerprint).retryAt = some retryAt) :
      RateLimited cfg pre rt wallet retryAt
  | claims {retryAt : ℕ} (hretry : durableWalletRateDecision cfg rt.db wallet = some retryAt) :
      RateLimited cfg pre rt wallet retryAt

/-- A refusal of the installed decision is one of its two readings, each at its own moment. -/
lemma preclaimDecision_rateLimited {rt later : Runtime P} {spotId retryAt : ℕ} {session : ClaimSession}
    {ipFingerprint : String} (hwallet : session.walletAddress = wallet)
    (hcanonical : canonicalOptionalAddress cfg (some wallet) = some wallet)
    (hreason : (preclaimDecisionWithDurableWalletLimit cfg pre rt later spotId session ipFingerprint).reason =
      "wallet_rate_limit")
    (hretry : (preclaimDecisionWithDurableWalletLimit cfg pre rt later spotId session ipFingerprint).retryAt =
      some retryAt) : RateLimited cfg pre rt wallet retryAt ∨ RateLimited cfg pre later wallet retryAt := by
  unfold preclaimDecisionWithDurableWalletLimit at hreason hretry
  dsimp only at hreason hretry
  by_cases hblocked : (preclaimDecision cfg pre rt spotId session ipFingerprint).blocked = true
  · rw [if_pos hblocked] at hreason hretry
    exact .inl (.events hwallet hreason hretry)
  · rw [if_neg hblocked, hwallet, hcanonical] at hreason hretry
    dsimp only at hreason hretry
    cases hdurable : durableWalletRateDecision cfg later.db wallet with
    | none =>
      rw [hdurable] at hreason hretry
      exact .inl (.events hwallet hreason hretry)
    | some found =>
      rw [hdurable] at hretry
      exact .inr (.claims (hdurable.trans hretry))

lemma pickBest_mem {α : Type} {better : α → α → Bool} {xs : List α} {best : Option α} {x : α}
    (h : pickBest better best xs = some x) : best = some x ∨ x ∈ xs := by
  induction xs generalizing best with
  | nil => exact .inl h
  | cons y ys ih =>
    cases best with
    | none =>
      rcases ih h with hfirst | hrest
      · rw [← Option.some.inj hfirst]
        exact .inr List.mem_cons_self
      · exact .inr (List.mem_cons_of_mem y hrest)
    | some current =>
      rcases ih h with hfirst | hrest
      · by_cases hbetter : better y current = true
        · rw [if_pos hbetter] at hfirst
          rw [← Option.some.inj hfirst]
          exact .inr List.mem_cons_self
        · rw [if_neg hbetter] at hfirst
          exact .inl hfirst
      · exact .inr (List.mem_cons_of_mem y hrest)

/-- The event rule refuses a wallet for nothing but its events of the last hour. -/
lemma preclaimRisk_rateLimited {events : List (ClaimEvent P)} {target : PreclaimTarget P}
    (h : (preclaimRiskWithoutIpOnlyBlock cfg pre events target).reason = "wallet_rate_limit") :
    cfg.walletHourlyClaimLimit ≤ (walletEvents cfg events target).length ∧
    (preclaimRiskWithoutIpOnlyBlock cfg pre events target).retryAt =
      ((walletEvents cfg events target).map ClaimEvent.claimedAt).min?.map fun oldest => oldest + 60 * 60 + 1 := by
  unfold preclaimRiskWithoutIpOnlyBlock at h ⊢
  dsimp only at h ⊢
  by_cases hnetwork : (preclaimRisk cfg pre events target).reason = "source_network_impossible_travel"
  · rw [if_pos hnetwork] at h
    simp at h
  · rw [if_neg hnetwork] at h ⊢
    unfold preclaimRisk at h hnetwork ⊢
    dsimp only at h hnetwork ⊢
    split at h
    · rename_i strongest hstrongest
      rcases pickBest_mem hstrongest with hnone | hjump
      · cases hnone
      · obtain ⟨previous, -, hmade⟩ := List.mem_filterMap.mp hjump
        obtain ⟨signal, -, hsome⟩ := Option.bind_eq_some_iff.mp hmade
        obtain ⟨retryAt, -, rfl⟩ := Option.map_eq_some_iff.mp hsome
        simp at h
    · by_cases hfull : signalText cfg target.verifiedWallet ≠ "" ∧
          cfg.walletHourlyClaimLimit ≤ (walletEvents cfg events target).length
      · rw [if_pos hfull]
        exact ⟨hfull.2, rfl⟩
      · rw [if_neg hfull] at h hnetwork
        exfalso
        generalize hnet : events.filterMap _ = network at h hnetwork
        cases network with
        | nil => simp at h
        | cons first rest =>
          have hfirst : first ∈ first :: rest := List.mem_cons_self
          rw [← hnet] at hfirst
          obtain ⟨previous, -, hmade⟩ := List.mem_filterMap.mp hfirst
          split_ifs at hmade
          obtain ⟨retryAt, -, rfl⟩ := Option.map_eq_some_iff.mp hmade
          simp at h

/-- The wallet's claims of the last hour, by their rows. -/
def recentClaimIds (cfg : Settings P) (db : Db P) (wallet : Address) : List ℕ :=
  (db.claims.filter fun c => boundWallet cfg db c.recipient = some wallet ∧ db.now < c.claimedAt + 60 * 60).map
    Claim.id

lemma mem_recentClaimIds {db : Db P} {claimId : ℕ} : claimId ∈ recentClaimIds cfg db wallet ↔
    ∃ c ∈ db.claims, c.id = claimId ∧ boundWallet cfg db c.recipient = some wallet ∧
      db.now < c.claimedAt + 60 * 60 := by
  unfold recentClaimIds
  rw [List.mem_map]
  constructor
  · rintro ⟨c, hc, rfl⟩
    rw [List.mem_filter, decide_eq_true_eq] at hc
    exact ⟨c, hc.1, rfl, hc.2⟩
  · rintro ⟨c, hc, hid, hrecent⟩
    exact ⟨c, List.mem_filter.mpr ⟨hc, decide_eq_true hrecent⟩, hid⟩

lemma length_recentClaimIds (db : Db P) : (recentClaimIds cfg db wallet).length =
    recentCount (60 * 60) db.now (walletClaimTimes cfg db wallet) := by
  unfold recentClaimIds recentCount walletClaimTimes
  rw [List.length_map, List.countP_eq_length_filter, List.filter_map, List.length_map, List.filter_filter]
  congr 1
  apply List.filter_congr
  intro c _
  simp [and_comm]

/-- Never more of them than the limit. -/
lemma HourlyClaims.length_recent {db : Db P} (h : HourlyClaims cfg db) (wallet : Address) :
    (recentClaimIds cfg db wallet).length ≤ max 1 cfg.walletHourlyClaimLimit := by
  have hpast : ∀ a ∈ walletClaimTimes cfg db wallet, a ≤ db.now := by
    intro a ha
    obtain ⟨c, hc, rfl⟩ := List.mem_map.mp ha
    exact h.past c (List.mem_filter.mp hc).1
  rw [length_recentClaimIds, recentCount_eq_inWindow hpast]
  exact h.fits wallet db.now

lemma HourlyClaims.nodup_recent {db : Db P} (h : HourlyClaims cfg db) (wallet : Address) :
    (recentClaimIds cfg db wallet).Nodup :=
  h.keyed.claimKeys.sublist (List.filter_sublist.map Claim.id)

/-- Each event that counts for the wallet is one of its claims of the last hour. -/
lemma walletEvents_claims (hcanonical : cfg.CanonicalAddresses) (h : s.Sound cfg)
    (hwallet : canonicalOptionalAddress cfg (some wallet) = some wallet) {target : PreclaimTarget P}
    (htarget : target.verifiedWallet = some wallet) (hnow : target.claimedAt = s.rt.db.now)
    {event : ClaimEvent P} (hevent : event ∈ walletEvents cfg
      (s.rt.metadata.loadRecentEvents pre.toSecuritySettings s.rt.db.now) target) :
    ∃ c ∈ s.rt.db.claims, c.id = event.claimId ∧ c.claimedAt = event.claimedAt ∧
      boundWallet cfg s.rt.db c.recipient = some wallet ∧ s.rt.db.now < c.claimedAt + 60 * 60 := by
  unfold walletEvents at hevent
  rw [List.mem_filter, decide_eq_true_eq, htarget, hnow] at hevent
  obtain ⟨hmem, hsignal, hrecent⟩ := hevent
  obtain ⟨c, hc, owner, hid, hclaimedAt, howner, hbound⟩ := h.events event ((loadRecentEvents_sublist _ _ _).subset hmem)
  rw [howner, hcanonical.signal hbound, hcanonical.signal hwallet] at hsignal
  exact ⟨c, hc, hid, hclaimedAt, hsignal ▸ hbound, hclaimedAt ▸ hrecent⟩

/-- So there are no more of them than claims. -/
lemma length_walletEvents (hcanonical : cfg.CanonicalAddresses) (h : s.Sound cfg)
    (hwallet : canonicalOptionalAddress cfg (some wallet) = some wallet) {target : PreclaimTarget P}
    (htarget : target.verifiedWallet = some wallet) (hnow : target.claimedAt = s.rt.db.now) :
    (walletEvents cfg (s.rt.metadata.loadRecentEvents pre.toSecuritySettings s.rt.db.now) target).length ≤
      (recentClaimIds cfg s.rt.db wallet).length := by
  have hnodup : ((walletEvents cfg (s.rt.metadata.loadRecentEvents pre.toSecuritySettings s.rt.db.now)
      target).map ClaimEvent.claimId).Nodup :=
    h.eventKeys.sublist ((List.filter_sublist.trans (loadRecentEvents_sublist _ _ _)).map _)
  have hsubset : (walletEvents cfg (s.rt.metadata.loadRecentEvents pre.toSecuritySettings s.rt.db.now)
      target).map ClaimEvent.claimId ⊆ recentClaimIds cfg s.rt.db wallet := by
    intro claimId hid
    obtain ⟨event, hevent, rfl⟩ := List.mem_map.mp hid
    obtain ⟨c, hc, hcid, -, hbound, hrecent⟩ := walletEvents_claims hcanonical h hwallet htarget hnow hevent
    exact mem_recentClaimIds.mpr ⟨c, hc, hcid, hbound, hrecent⟩
  have hlength := (List.subperm_of_subset hnodup hsubset).length_le
  rw [List.length_map] at hlength
  exact hlength

/-- A refusal names the second after the hour of one of the wallet's recent claims. -/
lemma RateLimited.oldest (hcanonical : cfg.CanonicalAddresses) (hlimit : 1 ≤ cfg.walletHourlyClaimLimit)
    (h : s.Sound cfg) (hwallet : canonicalOptionalAddress cfg (some wallet) = some wallet) {retryAt : ℕ}
    (hlimited : RateLimited cfg pre s.rt wallet retryAt) :
    ∃ c ∈ s.rt.db.claims, c.id ∈ recentClaimIds cfg s.rt.db wallet ∧ retryAt = c.claimedAt + 60 * 60 + 1 := by
  cases hlimited with
  | @events spotId _ session ipFingerprint hsession hreason hretry =>
    unfold preclaimDecision at hreason hretry
    cases hspot : s.rt.db.spotAnchor spotId with
    | none =>
      rw [hspot] at hreason
      simp at hreason
    | some spot =>
      rw [hspot] at hreason hretry
      dsimp only at hreason hretry
      obtain ⟨hmany, holdest⟩ := preclaimRisk_rateLimited hreason
      rw [holdest] at hretry
      obtain ⟨oldest, hmin, rfl⟩ := Option.map_eq_some_iff.mp hretry
      have hmem := List.min?_mem hmin
      obtain ⟨event, hevent, rfl⟩ := List.mem_map.mp hmem
      obtain ⟨c, hc, -, hclaimedAt, hbound, hrecent⟩ :=
        walletEvents_claims hcanonical h hwallet (congrArg some hsession) rfl hevent
      exact ⟨c, hc, mem_recentClaimIds.mpr ⟨c, hc, rfl, hbound, hrecent⟩, by rw [hclaimedAt]⟩
  | claims hretry =>
    unfold durableWalletRateDecision at hretry
    dsimp only at hretry
    rw [walletRecentClaimTimes_eq h.claims.bindings hwallet] at hretry
    split_ifs at hretry with hroom
    have hretry := Option.some.inj hretry
    cases hmin : ((walletClaimTimes cfg s.rt.db wallet).filter fun a => s.rt.db.now < a + 60 * 60).min? with
    | none =>
      rw [List.min?_eq_none_iff] at hmin
      rw [hmin, List.length_nil] at hroom
      omega
    | some oldest =>
      rw [hmin, Option.getD_some] at hretry
      have hmem := List.min?_mem hmin
      rw [List.mem_filter, decide_eq_true_eq] at hmem
      obtain ⟨hold, hrecent⟩ := hmem
      obtain ⟨c, hc, rfl⟩ := List.mem_map.mp hold
      rw [List.mem_filter, decide_eq_true_eq] at hc
      exact ⟨c, hc.1, mem_recentClaimIds.mpr ⟨c, hc.1, rfl, hc.2, hrecent⟩, hretry.symm⟩

section Room

variable (hcanonical : cfg.CanonicalAddresses) (h : s.Sound cfg)
  (hwallet : canonicalOptionalAddress cfg (some wallet) = some wallet)
  (hroom : (recentClaimIds cfg s.rt.db wallet).length < cfg.walletHourlyClaimLimit)

include hcanonical h hwallet hroom

/-- While the wallet has room, its events do not refuse it. -/
lemma preclaimDecision_ne {session : ClaimSession} (hsession : session.walletAddress = wallet) (spotId : ℕ)
    (ipFingerprint : String) :
    (preclaimDecision cfg pre s.rt spotId session ipFingerprint).reason ≠ "wallet_rate_limit" := by
  intro hreason
  unfold preclaimDecision at hreason
  cases hspot : s.rt.db.spotAnchor spotId with
  | none =>
    rw [hspot] at hreason
    simp at hreason
  | some spot =>
    rw [hspot] at hreason
    dsimp only at hreason
    obtain ⟨hmany, -⟩ := preclaimRisk_rateLimited hreason
    apply Nat.not_le_of_lt hroom
    apply hmany.trans
    exact length_walletEvents hcanonical h hwallet (congrArg some hsession) rfl

omit hcanonical in
/-- Nor do its claims. -/
lemma durableWalletRateDecision_eq_none : durableWalletRateDecision cfg s.rt.db wallet = none := by
  unfold durableWalletRateDecision
  dsimp only
  have hlength : (walletRecentClaimTimes cfg s.rt.db wallet).length = (recentClaimIds cfg s.rt.db wallet).length := by
    rw [walletRecentClaimTimes_eq h.claims.bindings hwallet, length_recentClaimIds]
    exact List.countP_eq_length_filter.symm
  rw [if_pos (by omega)]

lemma not_rateLimited (retryAt : ℕ) : ¬ RateLimited cfg pre s.rt wallet retryAt := by
  intro hlimited
  cases hlimited with
  | events hsession hreason hretry => exact preclaimDecision_ne hcanonical h hwallet hroom hsession _ _ hreason
  | claims hretry =>
    rw [durableWalletRateDecision_eq_none h hwallet hroom] at hretry
    cases hretry

lemma installedDecision_ne {session : ClaimSession} (hsession : session.walletAddress = wallet) (spotId : ℕ)
    (ipFingerprint : String) :
    (preclaimDecisionWithDurableWalletLimit cfg pre s.rt s.rt spotId session ipFingerprint).reason ≠
      "wallet_rate_limit" := by
  have hevents := @preclaimDecision_ne _ _ pre _ _ hcanonical h hwallet hroom _ hsession spotId ipFingerprint
  unfold preclaimDecisionWithDurableWalletLimit
  dsimp only
  split_ifs
  · exact hevents
  · rw [hsession, hwallet]
    dsimp only
    rw [durableWalletRateDecision_eq_none h hwallet hroom]
    exact hevents

end Room

/-- When the oldest claim has left the hour and no other claim was made, the wallet has room. -/
lemma recentClaimIds_after {t : HourlyRun P} {fresh : List (ℕ × ℕ × ℕ)} (h : s.Sound cfg) (ht : t.Sound cfg)
    (hgrows : Grows cfg fresh s.rt.db t.rt.db)
    (hquiet : ∀ c ∈ t.rt.db.claims, boundWallet cfg t.rt.db c.recipient = some wallet →
      ∃ old ∈ s.rt.db.claims, old.id = c.id)
    {oldest : Claim P} (holdest : oldest ∈ s.rt.db.claims) (hrecent : oldest.id ∈ recentClaimIds cfg s.rt.db wallet)
    (hlate : oldest.claimedAt + 60 * 60 + 1 ≤ t.rt.db.now) :
    (recentClaimIds cfg t.rt.db wallet).length < (recentClaimIds cfg s.rt.db wallet).length := by
  have hearlier : ∀ c ∈ t.rt.db.claims, boundWallet cfg t.rt.db c.recipient = some wallet →
      ∃ old ∈ s.rt.db.claims, old.id = c.id ∧ old.claimedAt = c.claimedAt ∧
        boundWallet cfg s.rt.db old.recipient = some wallet := by
    intro c hc hbound
    obtain ⟨old, hold, hid⟩ := hquiet c hc hbound
    obtain ⟨later, hlater, hlaterId, hrecipient, hclaimedAt⟩ := hgrows.claim hold
    have hsame : later = c := eq_of_key_eq ht.claims.keyed.claimKeys hlater hc (hlaterId.trans hid)
    obtain ⟨owner, howner⟩ := h.claims.owners old hold
    have howned := hgrows.bound _ _ howner
    rw [← hrecipient, hsame, hbound] at howned
    exact ⟨old, hold, hid, by rw [← hsame, hclaimedAt], howner.trans howned.symm⟩
  have hsubset : oldest.id :: recentClaimIds cfg t.rt.db wallet ⊆ recentClaimIds cfg s.rt.db wallet := by
    intro claimId hid
    rw [List.mem_cons] at hid
    cases hid with
    | inl hfirst =>
      rw [hfirst]
      exact hrecent
    | inr hlater =>
      obtain ⟨c, hc, rfl, hbound, hyoung⟩ := mem_recentClaimIds.mp hlater
      obtain ⟨old, hold, hid, hclaimedAt, howner⟩ := hearlier c hc hbound
      have hnow := hgrows.now
      exact mem_recentClaimIds.mpr ⟨old, hold, hid, howner, by omega⟩
  have hnot : oldest.id ∉ recentClaimIds cfg t.rt.db wallet := by
    intro hmem
    obtain ⟨c, hc, hid, hbound, hyoung⟩ := mem_recentClaimIds.mp hmem
    obtain ⟨old, hold, hidOld, hclaimedAt, -⟩ := hearlier c hc hbound
    have hsame : old = oldest := eq_of_key_eq h.claims.keyed.claimKeys hold holdest (hidOld.trans hid)
    rw [hsame] at hclaimedAt
    omega
  have hnodup : (oldest.id :: recentClaimIds cfg t.rt.db wallet).Nodup :=
    List.nodup_cons.mpr ⟨hnot, ht.claims.nodup_recent wallet⟩
  have hlength := (List.subperm_of_subset hnodup hsubset).length_le
  rw [List.length_cons] at hlength
  omega

variable (hcanonical : cfg.CanonicalAddresses) (hpublic : cfg.publicDeployment = true)
  (hlimit : 1 ≤ cfg.walletHourlyClaimLimit)

include hcanonical hpublic

lemma HourlyRun.run_sound {ops : List (HourlyOp P)} (h : s.Sound cfg)
    (hadm : Admissible (HourlyRun.step cfg pre) HourlyAdmitted s ops) :
    (run (HourlyRun.step cfg pre) s ops).Sound cfg ∧
    ∃ fresh, Grows cfg fresh s.rt.db (run (HourlyRun.step cfg pre) s ops).rt.db := by
  have hpreserved : ∀ (t : HourlyRun P) op, HourlyAdmitted t op →
      (t.Sound cfg ∧ ∃ fresh, Grows cfg fresh s.rt.db t.rt.db) →
      (t.step cfg pre op).Sound cfg ∧ ∃ fresh, Grows cfg fresh s.rt.db (t.step cfg pre op).rt.db := by
    rintro t op hop ⟨hsound, fresh, hgrows⟩
    obtain ⟨hstep, added, hadded⟩ := HourlyRun.step_sound hcanonical hpublic hsound hop
    exact ⟨hstep, fresh ++ added, hgrows.then hadded⟩
  exact run_invariant hpreserved hadm ⟨h, [], grows_of_bindings le_rfl rfl (List.append_nil _).symm⟩

/-- Neither the preclaim decision nor the check inside the claim transaction holds the wallet back. -/
structure LetThrough (cfg : Settings P) (pre : PreclaimSettings P) (rt : Runtime P) (wallet : Address) : Prop where
  decision : ∀ spotId session ipFingerprint, session.walletAddress = wallet →
    (preclaimDecisionWithDurableWalletLimit cfg pre rt rt spotId session ipFingerprint).reason ≠ "wallet_rate_limit"
  readings : ∀ again, ¬ RateLimited cfg pre rt wallet again
  transaction : ∀ seconds req, boundWallet cfg rt.db req.userId = some wallet →
    claimTransaction cfg seconds rt.db req = ClaimAttempter.after seconds (claimAttemptDelegate cfg) rt.db req

include hlimit

/-- A refusal that names its retry time, no other claim of the wallet, and the retry time. -/
lemma HourlyRun.letThrough {t : HourlyRun P} {fresh : List (ℕ × ℕ × ℕ)} (h : s.Sound cfg) (ht : t.Sound cfg)
    (hgrows : Grows cfg fresh s.rt.db t.rt.db) (hwallet : canonicalOptionalAddress cfg (some wallet) = some wallet)
    {retryAt : ℕ} (hlimited : RateLimited cfg pre s.rt wallet retryAt)
    (hquiet : ∀ c ∈ t.rt.db.claims, boundWallet cfg t.rt.db c.recipient = some wallet →
      ∃ old ∈ s.rt.db.claims, old.id = c.id)
    (hretry : retryAt ≤ t.rt.db.now) : LetThrough cfg pre t.rt wallet := by
  obtain ⟨oldest, holdest, hrecent, rfl⟩ := hlimited.oldest hcanonical hlimit h hwallet
  have hfewer := recentClaimIds_after h ht hgrows hquiet holdest hrecent hretry
  have hfits := h.claims.length_recent wallet
  have hmax : max 1 cfg.walletHourlyClaimLimit = cfg.walletHourlyClaimLimit := max_eq_right hlimit
  have hroom : (recentClaimIds cfg t.rt.db wallet).length < cfg.walletHourlyClaimLimit := by omega
  refine ⟨fun spotId session ipFingerprint hsession => ?_, not_rateLimited hcanonical ht hwallet hroom,
    fun seconds req hbound => ?_⟩
  · exact installedDecision_ne hcanonical ht hwallet hroom hsession spotId ipFingerprint
  · have hcount : ¬ max 1 cfg.walletHourlyClaimLimit ≤ walletRecentClaimCount cfg t.rt.db wallet := by
      rw [walletRecentClaimCount_eq ht.claims.bindings hwallet, ← length_recentClaimIds]
      omega
    unfold claimTransaction createClaimAttemptWithDurableWalletLimit
    dsimp only
    rw [hbound, hpublic]
    dsimp only
    rw [if_neg (by simpa using hcount)]

/-- In every run and every window of an hour, the accounts of a wallet make no more claims than the limit; and
a refused wallet that makes no other claim is let through from its retry time on, by the installed preclaim
decision, which reads the claims later than the events, by each of its readings, and by the check inside the
claim transaction. -/
theorem wallet_hourly_limit {ops later : List (HourlyOp P)}
    (hops : Admissible (HourlyRun.step cfg pre) HourlyAdmitted .initial ops)
    (hlater : Admissible (HourlyRun.step cfg pre) HourlyAdmitted
      (run (HourlyRun.step cfg pre) .initial ops) later)
    (hwallet : canonicalOptionalAddress cfg (some wallet) = some wallet) :
    (∀ t, ((run (HourlyRun.step cfg pre) .initial ops).rt.db.claims.countP fun c =>
      boundWallet cfg (run (HourlyRun.step cfg pre) .initial ops).rt.db c.recipient = some wallet ∧
        c.claimedAt ≤ t ∧ t < c.claimedAt + 60 * 60) ≤ cfg.walletHourlyClaimLimit) ∧
    (∀ retryAt, RateLimited cfg pre (run (HourlyRun.step cfg pre) .initial ops).rt wallet retryAt →
      (∀ c ∈ (run (HourlyRun.step cfg pre) .initial (ops ++ later)).rt.db.claims,
        boundWallet cfg (run (HourlyRun.step cfg pre) .initial (ops ++ later)).rt.db c.recipient = some wallet →
        ∃ old ∈ (run (HourlyRun.step cfg pre) .initial ops).rt.db.claims, old.id = c.id) →
      retryAt ≤ (run (HourlyRun.step cfg pre) .initial (ops ++ later)).rt.db.now →
      LetThrough cfg pre (run (HourlyRun.step cfg pre) .initial (ops ++ later)).rt wallet) ∧
    ∀ between rest spotId session ipFingerprint retryAt, later = between ++ rest → session.walletAddress = wallet →
      (preclaimDecisionWithDurableWalletLimit cfg pre (run (HourlyRun.step cfg pre) .initial ops).rt
        (run (HourlyRun.step cfg pre) .initial (ops ++ between)).rt spotId session ipFingerprint).reason =
          "wallet_rate_limit" →
      (preclaimDecisionWithDurableWalletLimit cfg pre (run (HourlyRun.step cfg pre) .initial ops).rt
        (run (HourlyRun.step cfg pre) .initial (ops ++ between)).rt spotId session ipFingerprint).retryAt =
          some retryAt →
      (∀ c ∈ (run (HourlyRun.step cfg pre) .initial (ops ++ later)).rt.db.claims,
        boundWallet cfg (run (HourlyRun.step cfg pre) .initial (ops ++ later)).rt.db c.recipient = some wallet →
        ∃ old ∈ (run (HourlyRun.step cfg pre) .initial ops).rt.db.claims, old.id = c.id) →
      retryAt ≤ (run (HourlyRun.step cfg pre) .initial (ops ++ later)).rt.db.now →
      LetThrough cfg pre (run (HourlyRun.step cfg pre) .initial (ops ++ later)).rt wallet := by
  obtain ⟨hsound, -⟩ := HourlyRun.run_sound hcanonical hpublic HourlyRun.sound_initial hops
  simp only [run_append]
  generalize run (HourlyRun.step cfg pre) .initial ops = s at hlater hsound ⊢
  obtain ⟨hafter, fresh, hgrows⟩ := HourlyRun.run_sound hcanonical hpublic hsound hlater
  have hmax : max 1 cfg.walletHourlyClaimLimit = cfg.walletHourlyClaimLimit := max_eq_right hlimit
  refine ⟨?_, ?_, ?_⟩
  · intro moment
    have hfits := hsound.claims.fits wallet moment
    unfold inWindow walletClaimTimes at hfits
    rw [hmax, List.countP_map, List.countP_filter] at hfits
    convert hfits using 1
    apply List.countP_congr
    intro c _
    simp [and_comm]
  · intro retryAt hlimited hquiet hretry
    exact HourlyRun.letThrough hcanonical hpublic hlimit hsound hafter hgrows hwallet hlimited hquiet hretry
  · intro between rest spotId session ipFingerprint retryAt hsplit hsession hreason hretryAt hquiet hretry
    subst hsplit
    obtain ⟨hbetween, hrest⟩ := admissible_append.mp hlater
    obtain ⟨hmid, early, hearly⟩ := HourlyRun.run_sound hcanonical hpublic hsound hbetween
    rcases preclaimDecision_rateLimited hsession hwallet hreason hretryAt with hlimited | hlimited
    · exact HourlyRun.letThrough hcanonical hpublic hlimit hsound hafter hgrows hwallet hlimited hquiet hretry
    · obtain ⟨-, last, hlast⟩ := HourlyRun.run_sound hcanonical hpublic hmid hrest
      rw [← run_append] at hlast
      refine HourlyRun.letThrough hcanonical hpublic hlimit hmid hafter hlast hwallet hlimited ?_ hretry
      intro c hc hbound
      obtain ⟨old, hold, hid⟩ := hquiet c hc hbound
      obtain ⟨kept, hkept, hkeptId, -⟩ := hearly.claim hold
      exact ⟨kept, hkept, hkeptId.trans hid⟩

end Refusals

section Witness

/-- One claim an hour. -/
def Settings.oneWallet : Settings Unit :=
  ({ Settings.onePlace with walletHourlyClaimLimit := 1 } : Settings Unit).withWallet

def oneSpot : Db Unit :=
  { Db.empty with
    now := 50
    users := [⟨1, .active, "creator", 0⟩, ⟨2, .active, "claimer", 0⟩]
    spots := [{ id := 1, createdBy := 1, depositAddress := "NQ SPOT", position := some (), radius := 100
                claimDuration := 0, maxClaimsPerUser := 5, maxTotalClaims := 10, usePassword := false
                totalValue := 1000, creationFee := 0, startsAt := none, endsAt := 100000, status := .published
                cancellationStartedAt := none, prizeCount := none }]
    spotSeq := 1 }

def firstClaim : List (HourlyOp Unit) :=
  [.elsewhere oneSpot, .verify "token" 2 "claimer" firstWallet, .pass "token" "claimer",
    .claim 0 5 1 () (some 5) none none]

/-- The wallet is refused after its claim, and let through an hour and a second later. -/
theorem wallet_hourly_limit_oneWallet :
    (∀ t, ((run (HourlyRun.step Settings.oneWallet {}) .initial firstClaim).rt.db.claims.countP fun c =>
      boundWallet Settings.oneWallet (run (HourlyRun.step Settings.oneWallet {}) .initial firstClaim).rt.db
        c.recipient = some firstWallet ∧ c.claimedAt ≤ t ∧ t < c.claimedAt + 60 * 60) ≤ 1) ∧
    RateLimited Settings.oneWallet {} (run (HourlyRun.step Settings.oneWallet {}) .initial firstClaim).rt firstWallet
      3656 ∧
    ∀ again, ¬ RateLimited Settings.oneWallet {}
      (run (HourlyRun.step Settings.oneWallet {}) .initial (firstClaim ++ [.wait 3601])).rt firstWallet again := by
  have hcanonical : Settings.oneWallet.CanonicalAddresses := canonicalAddresses_withWallet _
  have hkeyed : oneSpot.Keyed :=
    { spotKeys := by decide +kernel
      claimKeys := List.nodup_nil
      claimFresh := fun c hc => by cases hc
      codeKeys := List.nodup_nil
      codeFresh := fun code hcode => by cases hcode
      transKeys := List.nodup_nil
      transFresh := fun t ht => by cases ht }
  have hops : Admissible (HourlyRun.step Settings.oneWallet {}) HourlyAdmitted .initial firstClaim :=
    ⟨⟨hkeyed, Nat.zero_le 50, rfl, rfl⟩, trivial, trivial, trivial, trivial⟩
  have hlimited : RateLimited Settings.oneWallet {}
      (run (HourlyRun.step Settings.oneWallet {}) .initial firstClaim).rt firstWallet 3656 :=
    .claims (by decide +kernel)
  have hlater : Admissible (HourlyRun.step Settings.oneWallet {}) HourlyAdmitted
      (run (HourlyRun.step Settings.oneWallet {}) .initial firstClaim) [.wait 3601] := ⟨trivial, trivial⟩
  have hwallet : canonicalOptionalAddress Settings.oneWallet (some firstWallet) = some firstWallet := by decide +kernel
  obtain ⟨hfew, hafter, -⟩ := wallet_hourly_limit hcanonical rfl (by decide) hops hlater hwallet
  exact ⟨hfew, hlimited, (hafter 3656 hlimited (by decide +kernel) (by decide +kernel)).readings⟩

end Witness

end NimHunt
