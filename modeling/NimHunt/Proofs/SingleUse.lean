import NimHunt.Proofs.HourlyLimit
import NimHunt.Proofs.SecurityRecord
import NimHunt.ClaimAuthorization

/-!
# An authorization is good for one attempt

The record of an authorization goes from `issued` to `verifying` to `processing`, and away; every move is
decided on the record as it is then.  So the key of a running or finished signature check is never issued again,
and the key of a running or finished attempt is not even verifying.
-/

namespace NimHunt

open Lib

variable {P : Type}

/-- What was compared: a prepared authorization with the very fields of the request. -/
structure BoundPost.Matches (cfg : Settings P) (gs : FlowSettings P) (prepared : List (String × ClaimAuthorization))
    (b : BoundPost P) : Prop where
  issued : (b.authKey, b.authorization) ∈ prepared
  spot : b.post.spotId = b.authorization.spotId
  device : cleanDeviceIdentifier cfg b.post.body.deviceIdHash = .ok b.authorization.deviceIdHash
  session : b.session.deviceIdHash = b.authorization.deviceIdHash
  location : gs.canonicalLocation b.post.body.position b.post.body.accuracy = .ok b.authorization.location

/-- What was verified: the wallet of the session signed the message. -/
structure BoundPost.Signed (gs : FlowSettings P) (b : BoundPost P) : Prop where
  signature : gs.verifySignature b.authorization.message b.proof.publicKey b.proof.signature =
    .ok b.authorization.receivingWallet
  wallet : b.session.walletAddress = b.authorization.receivingWallet

/-- The message says what the record keeps. -/
def ClaimAuthorization.Says (gs : FlowSettings P) (a : ClaimAuthorization) : Prop :=
  ∃ req : AppMetadata.PrepareRequest, a.message = gs.message a.issuedAt a.expiresAt a.receivingWallet req ∧
    req.spotId = a.spotId ∧ req.deviceIdHash = a.deviceIdHash ∧ req.location = a.location

/-- What a request has shown by the stage it is at. -/
def GuardStage.Bound (cfg : Settings P) (gs : FlowSettings P) (prepared : List (String × ClaimAuthorization)) :
    GuardStage P → Prop
  | .received _ | .retiring _ => True
  | .authenticated post deviceId session =>
    cleanDeviceIdentifier cfg post.body.deviceIdHash = .ok deviceId ∧ session.deviceIdHash = deviceId
  | .compared b | .verifying b => b.Matches cfg gs prepared
  | .signed b | .approved b | .processing b | .dispatching b | .answered b _ => b.Matches cfg gs prepared ∧ b.Signed gs

/-- The authorization whose one attempt the request has taken. -/
def GuardStage.attemptKey : GuardStage P → Option String
  | .processing b | .dispatching b => some b.authKey
  | _ => none

/-- The records only went away. -/
def Shrinks (records records' : String → Option ClaimAuthorization) : Prop :=
  ∀ key a, records' key = some a → records key = some a

/-- Keys used once each, of which no record is open any more. -/
structure Spent (prepared : List (String × ClaimAuthorization)) (records : String → Option ClaimAuthorization)
    (isOpen : AuthorizationStatus → Prop) (keys : List String) : Prop where
  nodup : keys.Nodup
  known : ∀ key ∈ keys, key ∈ prepared.map Prod.fst
  closed : ∀ key ∈ keys, ∀ a, records key = some a → ¬ isOpen a.status

section Keys

variable {prepared : List (String × ClaimAuthorization)} {records records' : String → Option ClaimAuthorization}
  {isOpen : AuthorizationStatus → Prop} {keys keys' : List String} {key : String} {a : ClaimAuthorization}

lemma Shrinks.refl : Shrinks records records := fun _ _ h => h

lemma Shrinks.trans {records'' : String → Option ClaimAuthorization} (h : Shrinks records records')
    (h' : Shrinks records' records'') : Shrinks records records'' :=
  fun key a hrecord => h key a (h' key a hrecord)

lemma shrinks_delete : Shrinks records (Function.update records key none) := by
  intro other a hrecord
  by_cases hsame : other = key
  · rw [hsame, Function.update_self] at hrecord
    cases hrecord
  · rwa [Function.update_of_ne hsame] at hrecord

lemma Spent.shrink (h : Spent prepared records isOpen keys) (hrecords : Shrinks records records') :
    Spent prepared records' isOpen keys :=
  ⟨h.nodup, h.known, fun key hkey a hrecord => h.closed key hkey a (hrecords key a hrecord)⟩

lemma Spent.subperm (h : Spent prepared records isOpen keys) (hkeys : keys'.Subperm keys) :
    Spent prepared records isOpen keys' where
  nodup := by
    obtain ⟨l, hperm, hsublist⟩ := hkeys
    exact hperm.nodup_iff.mp (hsublist.nodup h.nodup)
  known := fun key hkey => h.known key (List.Subperm.subset hkeys hkey)
  closed := fun key hkey => h.closed key (List.Subperm.subset hkeys hkey)

/-- An open record is nobody's. -/
lemma Spent.not_mem (h : Spent prepared records isOpen keys) (hrecord : records key = some a)
    (hopen : isOpen a.status) : key ∉ keys :=
  fun hkey => h.closed key hkey a hrecord hopen

/-- Another key's record changes. -/
lemma Spent.update (h : Spent prepared records isOpen keys) (hkey : key ∉ keys) (value : Option ClaimAuthorization) :
    Spent prepared (Function.update records key value) isOpen keys where
  nodup := h.nodup
  known := h.known
  closed := by
    intro other hother b hrecord
    have hne : other ≠ key := by
      intro hsame
      rw [hsame] at hother
      exact hkey hother
    rw [Function.update_of_ne hne] at hrecord
    exact h.closed other hother b hrecord

/-- An open record is closed and its key taken. -/
lemma Spent.take (h : Spent prepared records isOpen keys) (hrecord : records key = some a) (hopen : isOpen a.status)
    (hknown : key ∈ prepared.map Prod.fst) {b : ClaimAuthorization} (hclosed : ¬ isOpen b.status) :
    Spent prepared (Function.update records key (some b)) isOpen (key :: keys) := by
  have hnew := h.not_mem hrecord hopen
  have hrest := h.update hnew (some b)
  constructor
  · exact List.nodup_cons.mpr ⟨hnew, h.nodup⟩
  · intro other hother
    rw [List.mem_cons] at hother
    cases hother with
    | inl hsame => exact hsame ▸ hknown
    | inr hother => exact h.known other hother
  · intro other hother c hrecord
    rw [List.mem_cons] at hother
    cases hother with
    | inl hsame =>
      rw [hsame, Function.update_self] at hrecord
      rw [← Option.some.inj hrecord]
      exact hclosed
    | inr hother => exact hrest.closed other hother c hrecord

lemma Spent.prepare (h : Spent prepared records isOpen keys) (entry : String × ClaimAuthorization) :
    Spent (entry :: prepared) records isOpen keys :=
  ⟨h.nodup, fun key hkey => List.mem_cons_of_mem _ (h.known key hkey), h.closed⟩

end Keys

namespace GuardFlow

variable {cfg : Settings P} {gs : FlowSettings P} {s : GuardFlow P}

/-- The signature checks run and about to be run. -/
def verifyTokens (s : GuardFlow P) : List String := s.verifications ++ s.requests.filterMap GuardStage.verifyKey

/-- The requests given and about to be given to the application. -/
def attempts (s : GuardFlow P) : List String :=
  s.dispatches.map BoundPost.authKey ++ s.requests.filterMap GuardStage.attemptKey

structure Sound (cfg : Settings P) (gs : FlowSettings P) (s : GuardFlow P) : Prop where
  texts : ∀ entry ∈ s.prepared, entry.2.Says gs
  wallets : ∀ entry ∈ s.prepared, canonicalOptionalAddress cfg (some entry.2.receivingWallet) =
    some entry.2.receivingWallet
  records : ∀ key a, s.rt.metadata.authorizations key = some a → a.status = .issued → (key, a) ∈ s.prepared
  requests : ∀ stage ∈ s.requests, stage.Bound cfg gs s.prepared
  dispatched : ∀ b ∈ s.dispatches, b.Matches cfg gs s.prepared ∧ b.Signed gs
  verified : Spent s.prepared s.rt.metadata.authorizations (· = .issued) s.verifyTokens
  attempted : Spent s.prepared s.rt.metadata.authorizations (fun status => status = .issued ∨ status = .verifying)
    s.attempts

lemma sound_initial : (initial : GuardFlow P).Sound cfg gs where
  texts := fun entry hentry => by cases hentry
  wallets := fun entry hentry => by cases hentry
  records := fun key a hrecord => by cases hrecord
  requests := fun stage hstage => by cases hstage
  dispatched := fun b hb => by cases hb
  verified := ⟨List.nodup_nil, fun key hkey => (by cases hkey), fun key hkey => (by cases hkey)⟩
  attempted := ⟨List.nodup_nil, fun key hkey => (by cases hkey), fun key hkey => (by cases hkey)⟩

/-- Records that only go away. -/
lemma Sound.shrink (h : s.Sound cfg gs) {rt : Runtime P}
    (hrecords : Shrinks s.rt.metadata.authorizations rt.metadata.authorizations) :
    Sound cfg gs { s with rt := rt } where
  texts := h.texts
  wallets := h.wallets
  records := fun key a hrecord => h.records key a (hrecords key a hrecord)
  requests := h.requests
  dispatched := h.dispatched
  verified := h.verified.shrink hrecords
  attempted := h.attempted.shrink hrecords

/-- A request that is not there any more. -/
lemma Sound.crash (h : s.Sound cfg gs) (index : ℕ) :
    Sound cfg gs { s with requests := s.requests.eraseIdx index } := by
  have hfewer := List.eraseIdx_sublist s.requests index
  constructor
  · exact h.texts
  · exact h.wallets
  · exact h.records
  · exact fun stage hstage => h.requests stage (hfewer.subset hstage)
  · exact h.dispatched
  · exact h.verified.subperm ((hfewer.filterMap _).append_left _).subperm
  · exact h.attempted.subperm ((hfewer.filterMap _).append_left _).subperm

/-- A new request has no authorization yet. -/
lemma Sound.submit (h : s.Sound cfg gs) (post : ClaimPost P) :
    Sound cfg gs { s with requests := .received post :: s.requests } where
  texts := h.texts
  wallets := h.wallets
  records := h.records
  requests := by
    intro stage hstage
    rw [List.mem_cons] at hstage
    cases hstage with
    | inl hnew =>
      rw [hnew]
      trivial
    | inr hold => exact h.requests stage hold
  dispatched := h.dispatched
  verified := h.verified
  attempted := h.attempted

lemma perm_eraseIdx {α : Type} {l : List α} {index : ℕ} {x : α} (h : l[index]? = some x) :
    l.Perm (x :: l.eraseIdx index) := by
  obtain ⟨hlt, rfl⟩ := List.getElem?_eq_some_iff.mp h
  exact (List.getElem_cons_eraseIdx_perm hlt).symm

variable {index : ℕ} {stage : GuardStage P}

/-- The tokens before a step, with those of the request that moves in front. -/
lemma verifyTokens_perm (hstage : s.requests[index]? = some stage) :
    s.verifyTokens.Perm (stage.verifyKey.toList ++
      (s.verifications ++ (s.requests.eraseIdx index).filterMap GuardStage.verifyKey)) := by
  have hperm := (perm_eraseIdx hstage).filterMap GuardStage.verifyKey
  have hcons : (stage :: s.requests.eraseIdx index).filterMap GuardStage.verifyKey =
      stage.verifyKey.toList ++ (s.requests.eraseIdx index).filterMap GuardStage.verifyKey := by
    cases hkey : stage.verifyKey <;> simp [hkey]
  rw [hcons] at hperm
  apply (hperm.append_left s.verifications).trans
  rw [← List.append_assoc, ← List.append_assoc]
  exact List.perm_append_comm.append_right _

lemma attempts_perm (hstage : s.requests[index]? = some stage) :
    s.attempts.Perm (stage.attemptKey.toList ++
      (s.dispatches.map BoundPost.authKey ++ (s.requests.eraseIdx index).filterMap GuardStage.attemptKey)) := by
  have hperm := (perm_eraseIdx hstage).filterMap GuardStage.attemptKey
  have hcons : (stage :: s.requests.eraseIdx index).filterMap GuardStage.attemptKey =
      stage.attemptKey.toList ++ (s.requests.eraseIdx index).filterMap GuardStage.attemptKey := by
    cases hkey : stage.attemptKey <;> simp [hkey]
  rw [hcons] at hperm
  apply (hperm.append_left (s.dispatches.map BoundPost.authKey)).trans
  rw [← List.append_assoc, ← List.append_assoc]
  exact List.perm_append_comm.append_right _

/-- One request goes on, and takes neither the verification nor the attempt of an authorization. -/
structure Forwards (cfg : Settings P) (gs : FlowSettings P) (s : GuardFlow P) (stage : GuardStage P)
    (reached : Runtime P × Option (GuardStage P)) : Prop where
  shrinks : Shrinks s.rt.metadata.authorizations reached.1.metadata.authorizations
  bound : ∀ next ∈ reached.2, next.Bound cfg gs s.prepared
  verify : reached.2.bind GuardStage.verifyKey = none
  attempt : ((stage.dispatch.toList.map BoundPost.authKey) ++ (reached.2.bind GuardStage.attemptKey).toList).Sublist
    stage.attemptKey.toList

lemma dispatch_sublist (stage : GuardStage P) :
    (stage.dispatch.toList.map BoundPost.authKey).Sublist stage.attemptKey.toList := by
  cases stage <;> simp [GuardStage.dispatch, GuardStage.attemptKey]

/-- The request is answered. -/
lemma forwards_answer {rt : Runtime P} (hrecords : Shrinks s.rt.metadata.authorizations rt.metadata.authorizations) :
    Forwards cfg gs s stage (rt, none) where
  shrinks := hrecords
  bound := fun next hnext => by cases hnext
  verify := rfl
  attempt := by
    rw [Option.bind_none, Option.toList_none, List.append_nil]
    exact dispatch_sublist stage

/-- The request goes to a stage that holds no authorization of its own. -/
lemma forwards_to {rt : Runtime P} {next : GuardStage P}
    (hrecords : Shrinks s.rt.metadata.authorizations rt.metadata.authorizations)
    (hbound : next.Bound cfg gs s.prepared) (hverify : next.verifyKey = none) (hattempt : next.attemptKey = none) :
    Forwards cfg gs s stage (rt, some next) where
  shrinks := hrecords
  bound := fun reached hreached => Option.some.inj hreached ▸ hbound
  verify := hverify
  attempt := by
    rw [Option.bind_some, hattempt, Option.toList_none, List.append_nil]
    exact dispatch_sublist stage

lemma Sound.forward (h : s.Sound cfg gs) (hstage : s.requests[index]? = some stage)
    (hforwards : Forwards cfg gs s stage (stage.next cfg gs s.rt)) : (s.advance cfg gs index stage).Sound cfg gs := by
  obtain ⟨hrecords, hbound, hverify, hattempt⟩ := hforwards
  unfold advance
  dsimp only
  generalize (stage.next cfg gs s.rt).1 = rt at hrecords
  generalize (stage.next cfg gs s.rt).2 = next at hbound hverify hattempt
  exact
  { texts := h.texts
    wallets := h.wallets
    records := fun key a hrecord => h.records key a (hrecords key a hrecord)
    requests := by
      intro reached hreached
      rw [List.mem_append] at hreached
      cases hreached with
      | inl hnext => exact hbound reached (Option.mem_toList.mp hnext)
      | inr hold => exact h.requests reached (List.mem_of_mem_eraseIdx hold)
    dispatched := by
      intro b hb
      rw [List.mem_append] at hb
      cases hb with
      | inl hnew =>
        have hown := h.requests stage (List.mem_of_getElem? hstage)
        cases stage <;> simp [GuardStage.dispatch] at hnew
        rw [hnew]
        exact hown
      | inr hold => exact h.dispatched b hold
    verified := by
      apply (h.verified.shrink hrecords).subperm
      have hnext : (next.toList ++ s.requests.eraseIdx index).filterMap GuardStage.verifyKey =
          (s.requests.eraseIdx index).filterMap GuardStage.verifyKey := by
        rw [List.filterMap_append]
        cases next with
        | none => rfl
        | some reached => simp_all
      unfold verifyTokens
      dsimp only
      rw [hnext, List.append_assoc]
      exact (verifyTokens_perm hstage).symm.subperm
    attempted := by
      apply (h.attempted.shrink hrecords).subperm
      have hnext : (next.toList ++ s.requests.eraseIdx index).filterMap GuardStage.attemptKey =
          (next.bind GuardStage.attemptKey).toList ++ (s.requests.eraseIdx index).filterMap GuardStage.attemptKey := by
        rw [List.filterMap_append]
        cases next with
        | none => rfl
        | some reached => cases hkey : reached.attemptKey <;> simp [hkey]
      unfold attempts
      dsimp only
      rw [hnext, List.map_append]
      have hfront : ((stage.dispatch.toList.map BoundPost.authKey ++ s.dispatches.map BoundPost.authKey) ++
          ((next.bind GuardStage.attemptKey).toList ++
            (s.requests.eraseIdx index).filterMap GuardStage.attemptKey)).Perm
          ((stage.dispatch.toList.map BoundPost.authKey ++ (next.bind GuardStage.attemptKey).toList) ++
            (s.dispatches.map BoundPost.authKey ++
              (s.requests.eraseIdx index).filterMap GuardStage.attemptKey)) := by
        rw [List.append_assoc, List.append_assoc]
        apply List.Perm.append_left
        rw [← List.append_assoc, ← List.append_assoc]
        exact List.perm_append_comm.append_right _
      apply hfront.subperm.trans
      exact (hattempt.append_right _).subperm.trans (attempts_perm hstage).symm.subperm }

/-- The request takes the one verification of an issued authorization. -/
lemma Sound.takeVerification (h : s.Sound cfg gs) {b : BoundPost P}
    (hstage : s.requests[index]? = some (.compared b)) {fresh : ClaimAuthorization}
    (hrecord : s.rt.metadata.authorizations b.authKey = some fresh) (hissued : fresh.status = .issued)
    {taken : ClaimAuthorization} (htaken : taken.status = .verifying) :
    Sound cfg gs
      { s with
        rt := s.rt.setAuthorization b.authKey (some taken)
        requests := .verifying b :: s.requests.eraseIdx index } := by
  have hmatches := h.requests _ (List.mem_of_getElem? hstage)
  have hknown : b.authKey ∈ s.prepared.map Prod.fst := List.mem_map_of_mem hmatches.issued
  constructor
  · exact h.texts
  · exact h.wallets
  · intro key a hkey hopen
    change Function.update s.rt.metadata.authorizations b.authKey (some taken) key = some a at hkey
    by_cases hsame : key = b.authKey
    · rw [hsame, Function.update_self] at hkey
      rw [← Option.some.inj hkey, htaken] at hopen
      cases hopen
    · rw [Function.update_of_ne hsame] at hkey
      exact h.records key a hkey hopen
  · intro reached hreached
    rw [List.mem_cons] at hreached
    cases hreached with
    | inl hnew =>
      rw [hnew]
      exact hmatches
    | inr hold => exact h.requests reached (List.mem_of_mem_eraseIdx hold)
  · exact h.dispatched
  · have hclosed : ¬ taken.status = .issued := by
      rw [htaken]
      decide
    apply (h.verified.take hrecord hissued hknown hclosed).subperm
    have hperm := verifyTokens_perm hstage
    apply List.Perm.subperm
    change (s.verifications ++ b.authKey :: (s.requests.eraseIdx index).filterMap GuardStage.verifyKey).Perm _
    exact List.perm_middle.trans (hperm.symm.cons _)
  · have hnew : b.authKey ∉ s.attempts := h.attempted.not_mem hrecord (Or.inl hissued)
    apply (h.attempted.update hnew (some taken)).subperm
    exact (attempts_perm hstage).symm.subperm

/-- The request takes the one attempt of a verified authorization. -/
lemma Sound.takeAttempt (h : s.Sound cfg gs) {b : BoundPost P}
    (hstage : s.requests[index]? = some (.approved b)) {fresh : ClaimAuthorization}
    (hrecord : s.rt.metadata.authorizations b.authKey = some fresh) (hverifying : fresh.status = .verifying)
    {taken : ClaimAuthorization} (htaken : taken.status = .processing) :
    Sound cfg gs
      { s with
        rt := s.rt.setAuthorization b.authKey (some taken)
        requests := .processing b :: s.requests.eraseIdx index } := by
  have hown := h.requests _ (List.mem_of_getElem? hstage)
  have hknown : b.authKey ∈ s.prepared.map Prod.fst := List.mem_map_of_mem hown.1.issued
  constructor
  · exact h.texts
  · exact h.wallets
  · intro key a hkey hopen
    change Function.update s.rt.metadata.authorizations b.authKey (some taken) key = some a at hkey
    by_cases hsame : key = b.authKey
    · rw [hsame, Function.update_self] at hkey
      rw [← Option.some.inj hkey, htaken] at hopen
      cases hopen
    · rw [Function.update_of_ne hsame] at hkey
      exact h.records key a hkey hopen
  · intro reached hreached
    rw [List.mem_cons] at hreached
    cases hreached with
    | inl hnew =>
      rw [hnew]
      exact hown
    | inr hold => exact h.requests reached (List.mem_of_mem_eraseIdx hold)
  · exact h.dispatched
  · have hrest := h.verified.subperm (verifyTokens_perm hstage).symm.subperm
    constructor
    · exact hrest.nodup
    · exact hrest.known
    · intro key hkey a ha
      change Function.update s.rt.metadata.authorizations b.authKey (some taken) key = some a at ha
      by_cases hsame : key = b.authKey
      · rw [hsame, Function.update_self] at ha
        rw [← Option.some.inj ha, htaken]
        decide
      · rw [Function.update_of_ne hsame] at ha
        exact hrest.closed key hkey a ha
  · have hclosed : ¬ (taken.status = .issued ∨ taken.status = .verifying) := by
      rw [htaken]
      decide
    apply (h.attempted.take hrecord (Or.inr hverifying) hknown hclosed).subperm
    apply List.Perm.subperm
    change (s.dispatches.map BoundPost.authKey ++
      b.authKey :: (s.requests.eraseIdx index).filterMap GuardStage.attemptKey).Perm _
    exact List.perm_middle.trans ((attempts_perm hstage).symm.cons _)

variable (cfg gs) in
lemma loadSession_authorizations (rt : Runtime P) (token : Option String) (deviceIdHash : String) :
    (loadSession cfg rt token deviceIdHash).1.metadata.authorizations = rt.metadata.authorizations := by
  unfold loadSession
  split
  · rfl
  · rfl
  · rename_i text _
    cases rt.metadata.sessions text with
    | none => rfl
    | some session =>
      dsimp only
      split_ifs
      · rfl
      · rfl
      · cases canonicalOptionalAddress cfg (some session.walletAddress) <;> rfl

/-- A session is found under its own device only. -/
lemma loadSession_device {rt : Runtime P} {token : Option String} {deviceIdHash : String} {session : ClaimSession}
    (h : (loadSession cfg rt token deviceIdHash).2 = some session) : session.deviceIdHash = deviceIdHash := by
  unfold loadSession at h
  split at h
  · cases h
  · cases h
  · rename_i text _
    cases hstored : rt.metadata.sessions text with
    | none =>
      rw [hstored] at h
      cases h
    | some stored =>
      rw [hstored] at h
      dsimp only at h
      split_ifs at h with hexpired hdevice
      cases hwallet : canonicalOptionalAddress cfg (some stored.walletAddress) with
      | none =>
        rw [hwallet] at h
        cases h
      | some wallet =>
        rw [hwallet] at h
        rw [← Option.some.inj h]
        exact not_ne_iff.mp hdevice

lemma forwards_received (post : ClaimPost P) :
    Forwards cfg gs s (.received post) ((GuardStage.received post).next cfg gs s.rt) := by
  unfold GuardStage.next
  dsimp only
  cases hdevice : cleanDeviceIdentifier cfg post.body.deviceIdHash with
  | error message => exact forwards_answer Shrinks.refl
  | ok deviceId =>
    dsimp only
    have hrecords : Shrinks s.rt.metadata.authorizations
        (authenticatedSession cfg s.rt post.sessionToken deviceId).1.metadata.authorizations := by
      unfold authenticatedSession
      dsimp only
      rw [loadSession_authorizations]
      exact Shrinks.refl
    rcases hsession : authenticatedSession cfg s.rt post.sessionToken deviceId with ⟨rt, _ | session⟩
    · rw [hsession] at hrecords
      exact forwards_answer hrecords
    · rw [hsession] at hrecords
      have hloaded : (loadSession cfg s.rt post.sessionToken deviceId).2 = some session := by
        have hfiltered := congrArg Prod.snd hsession
        exact (Option.filter_eq_some_iff.mp hfiltered).1
      exact forwards_to hrecords ⟨hdevice, loadSession_device hloaded⟩ rfl rfl

lemma forwards_authenticated (h : s.Sound cfg gs) {post : ClaimPost P} {deviceId : String} {session : ClaimSession}
    (hown : (GuardStage.authenticated post deviceId session).Bound cfg gs s.prepared) :
    Forwards cfg gs s (.authenticated post deviceId session)
      ((GuardStage.authenticated post deviceId session).next cfg gs s.rt) := by
  obtain ⟨hdevice, hsession⟩ := hown
  have hrefused : Forwards cfg gs s (.authenticated post deviceId session) (s.rt, none) := forwards_answer Shrinks.refl
  unfold GuardStage.next
  dsimp only
  cases post.body.claimAuthorization with
  | none => exact hrefused
  | some proof =>
    dsimp only
    cases claimAuthorizationKey proof.challengeId with
    | error message => exact hrefused
    | ok authKey =>
      dsimp only
      cases hrecord : s.rt.metadata.authorizations authKey with
      | none => exact hrefused
      | some authorization =>
        dsimp only
        cases hlive : issuedAndLive authorization s.rt.db.now with
        | false => exact hrefused
        | true =>
          rw [if_neg (by simp)]
          cases hlocation : gs.canonicalLocation post.body.position post.body.accuracy with
          | error message => exact hrefused
          | ok fixed =>
            dsimp only
            cases hmatch : authorization.matchesRequest gs.toGuardSettings post.spotId deviceId fixed with
            | false => exact hrefused
            | true =>
              rw [if_neg (by simp)]
              have hissued : authorization.status = .issued := (of_decide_eq_true hlive).1
              obtain ⟨hspot, hsame, hfixed, -⟩ := of_decide_eq_true hmatch
              apply forwards_to Shrinks.refl _ rfl rfl
              constructor
              · exact h.records authKey authorization hrecord hissued
              · exact hspot.symm
              · rw [hsame]
                exact hdevice
              · exact hsession.trans hsame.symm
              · rw [hfixed]
                exact hlocation

lemma forwards_verifying (h : s.Sound cfg gs) {b : BoundPost P}
    (hown : b.Matches cfg gs s.prepared) :
    Forwards cfg gs s (.verifying b) ((GuardStage.verifying b).next cfg gs s.rt) := by
  have hretired : Forwards cfg gs s (.verifying b) (s.rt, some (.retiring b.authKey)) :=
    forwards_to Shrinks.refl trivial rfl rfl
  unfold GuardStage.next
  dsimp only
  cases hsigner : gs.verifySignature b.authorization.message b.proof.publicKey b.proof.signature with
  | error message => exact hretired
  | ok signer =>
    dsimp only
    by_cases hother : canonicalOptionalAddress cfg (some b.authorization.receivingWallet) ≠ some signer ∨
        signer ≠ b.session.walletAddress
    · rw [if_pos hother]
      exact hretired
    · rw [if_neg hother]
      rw [not_or, not_ne_iff, not_ne_iff] at hother
      have hwallet := h.wallets _ hown.issued
      have hsame : b.authorization.receivingWallet = signer := Option.some.inj (hwallet.symm.trans hother.1)
      apply forwards_to Shrinks.refl _ rfl rfl
      exact ⟨hown, by rw [hsigner, hsame], by rw [hsame, hother.2]⟩

lemma forwards_signed {b : BoundPost P} (hown : (GuardStage.signed b).Bound cfg gs s.prepared) :
    Forwards cfg gs s (.signed b) ((GuardStage.signed b).next cfg gs s.rt) := by
  unfold GuardStage.next
  dsimp only
  cases ((s.rt.db.getSpot b.post.spotId).isSome && b.post.freshAllowed) with
  | false => exact forwards_to Shrinks.refl trivial rfl rfl
  | true => exact forwards_to Shrinks.refl hown rfl rfl

lemma forwards_processing {b : BoundPost P} (hown : (GuardStage.processing b).Bound cfg gs s.prepared) :
    Forwards cfg gs s (.processing b) ((GuardStage.processing b).next cfg gs s.rt) := by
  unfold GuardStage.next
  dsimp only
  cases b.post.preclaimBlocked with
  | true => exact forwards_to Shrinks.refl trivial rfl rfl
  | false =>
    constructor
    · exact Shrinks.refl
    · exact fun next hnext => Option.some.inj hnext ▸ hown
    · rfl
    · exact List.Sublist.refl _

lemma forwards_dispatching {b : BoundPost P} (hown : (GuardStage.dispatching b).Bound cfg gs s.prepared) :
    Forwards cfg gs s (.dispatching b) ((GuardStage.dispatching b).next cfg gs s.rt) := by
  unfold GuardStage.next
  dsimp only
  rcases claimSpotApi (installedCreateClaimAttempt cfg) cfg s.rt.db b.post with ⟨db, e | response⟩
  · exact forwards_answer Shrinks.refl
  · exact forwards_to Shrinks.refl hown rfl rfl

/-- The installed recorder raises before it writes. -/
lemma forwards_answered {b : BoundPost P} {response : HttpResponse} :
    Forwards cfg gs s (.answered b response) ((GuardStage.answered b response).next cfg gs s.rt) := by
  unfold GuardStage.next
  dsimp only
  split_ifs
  · cases response.claimId with
    | none => exact forwards_answer Shrinks.refl
    | some claimId =>
      dsimp only
      obtain ⟨message, hraises⟩ := installedRecorder_call cfg s.rt b.post
        ⟨s.rt, b.session, b.authorization, b.authKey⟩ claimId gs.toSecuritySettings
      unfold recordCall at hraises
      dsimp only at hraises
      rw [hraises]
      exact forwards_answer Shrinks.refl
  · exact forwards_to Shrinks.refl trivial rfl rfl

/-- A request that takes the verification, the attempt, or neither. -/
lemma Sound.advance (h : s.Sound cfg gs)
    (hstage : s.requests[index]? = some stage) : (s.advance cfg gs index stage).Sound cfg gs := by
  have hown := h.requests stage (List.mem_of_getElem? hstage)
  cases stage with
  | received post => exact h.forward hstage (forwards_received post)
  | authenticated post deviceId session => exact h.forward hstage (forwards_authenticated h hown)
  | verifying b => exact h.forward hstage (forwards_verifying h hown)
  | signed b => exact h.forward hstage (forwards_signed hown)
  | processing b => exact h.forward hstage (forwards_processing hown)
  | dispatching b => exact h.forward hstage (forwards_dispatching hown)
  | answered b response => exact h.forward hstage forwards_answered
  | retiring authKey => exact h.forward hstage (forwards_answer shrinks_delete)
  | compared b =>
    cases hrecord : s.rt.metadata.authorizations b.authKey with
    | none =>
      apply h.forward hstage
      unfold GuardStage.next
      dsimp only
      rw [hrecord]
      exact forwards_answer Shrinks.refl
    | some fresh =>
      cases hlive : issuedAndLive fresh s.rt.db.now with
      | false =>
        apply h.forward hstage
        unfold GuardStage.next
        dsimp only
        rw [hrecord]
        dsimp only
        rw [hlive]
        exact forwards_answer Shrinks.refl
      | true =>
        have hissued : fresh.status = .issued := (of_decide_eq_true hlive).1
        unfold GuardFlow.advance GuardStage.next
        dsimp only
        rw [hrecord]
        dsimp only
        rw [hlive]
        exact h.takeVerification hstage hrecord hissued rfl
  | approved b =>
    cases hrecord : s.rt.metadata.authorizations b.authKey with
    | none =>
      apply h.forward hstage
      unfold GuardStage.next
      dsimp only
      rw [hrecord]
      exact forwards_answer Shrinks.refl
    | some fresh =>
      by_cases hverifying : fresh.status = .verifying
      · unfold GuardFlow.advance GuardStage.next
        dsimp only
        rw [hrecord]
        dsimp only
        rw [if_neg (not_ne_iff.mpr hverifying)]
        exact h.takeAttempt hstage hrecord hverifying rfl
      · apply h.forward hstage
        unfold GuardStage.next
        dsimp only
        rw [hrecord]
        dsimp only
        rw [if_pos hverifying]
        exact forwards_answer Shrinks.refl

variable (cfg) in
lemma loadSession_db (rt : Runtime P) (token : Option String) (deviceIdHash : String) :
    (loadSession cfg rt token deviceIdHash).1.db = rt.db := by
  unfold loadSession
  split
  · rfl
  · rfl
  · rename_i text _
    cases rt.metadata.sessions text with
    | none => rfl
    | some session =>
      dsimp only
      split_ifs
      · rfl
      · rfl
      · cases canonicalOptionalAddress cfg (some session.walletAddress) <;> rfl

lemma BoundPost.Matches.prepare {b : BoundPost P} {prepared : List (String × ClaimAuthorization)}
    (h : b.Matches cfg gs prepared) (entry : String × ClaimAuthorization) : b.Matches cfg gs (entry :: prepared) :=
  { h with issued := List.mem_cons_of_mem _ h.issued }

lemma GuardStage.Bound.prepare {prepared : List (String × ClaimAuthorization)} {stage : GuardStage P}
    (h : stage.Bound cfg gs prepared) (entry : String × ClaimAuthorization) : stage.Bound cfg gs (entry :: prepared) := by
  cases stage with
  | received post => trivial
  | retiring authKey => trivial
  | authenticated post deviceId session => exact h
  | compared b => exact BoundPost.Matches.prepare h entry
  | verifying b => exact BoundPost.Matches.prepare h entry
  | signed b => exact ⟨BoundPost.Matches.prepare h.1 entry, h.2⟩
  | approved b => exact ⟨BoundPost.Matches.prepare h.1 entry, h.2⟩
  | processing b => exact ⟨BoundPost.Matches.prepare h.1 entry, h.2⟩
  | dispatching b => exact ⟨BoundPost.Matches.prepare h.1 entry, h.2⟩
  | answered b response => exact ⟨BoundPost.Matches.prepare h.1 entry, h.2⟩

/-- A new authorization under a key that was never given out. -/
lemma Sound.addPrepared (h : s.Sound cfg gs) {authKey : String} {authorization : ClaimAuthorization}
    (hfresh : authKey ∉ s.prepared.map Prod.fst) (htexts : authorization.Says gs)
    (hwallet : canonicalOptionalAddress cfg (some authorization.receivingWallet) = some authorization.receivingWallet) :
    Sound cfg gs
      { s with
        rt := s.rt.setAuthorization authKey (some authorization)
        prepared := (authKey, authorization) :: s.prepared } := by
  have hverified : authKey ∉ s.verifyTokens := fun hmem => hfresh (h.verified.known _ hmem)
  have hattempted : authKey ∉ s.attempts := fun hmem => hfresh (h.attempted.known _ hmem)
  constructor
  · intro entry hentry
    rw [List.mem_cons] at hentry
    cases hentry with
    | inl hnew => exact hnew ▸ htexts
    | inr hold => exact h.texts entry hold
  · intro entry hentry
    rw [List.mem_cons] at hentry
    cases hentry with
    | inl hnew => exact hnew ▸ hwallet
    | inr hold => exact h.wallets entry hold
  · intro key a hrecord hopen
    change Function.update s.rt.metadata.authorizations authKey (some authorization) key = some a at hrecord
    by_cases hsame : key = authKey
    · rw [hsame, Function.update_self] at hrecord
      rw [hsame, Option.some.inj hrecord]
      exact List.mem_cons_self
    · rw [Function.update_of_ne hsame] at hrecord
      exact List.mem_cons_of_mem _ (h.records key a hrecord hopen)
  · exact fun stage hstage => GuardStage.Bound.prepare (h.requests stage hstage) _
  · exact fun b hb => ⟨BoundPost.Matches.prepare (h.dispatched b hb).1 _, (h.dispatched b hb).2⟩
  · exact (h.verified.update hverified _).prepare _
  · exact (h.attempted.update hattempted _).prepare _

lemma cleanup_shrinks (gs : FlowSettings P) (rows : List String) (rt : Runtime P) :
    Shrinks rt.metadata.authorizations (rt.cleanupClaimAuthorizations gs rows).metadata.authorizations := by
  unfold Runtime.cleanupClaimAuthorizations
  induction rows generalizing rt with
  | nil => exact Shrinks.refl
  | cons authKey rows ih =>
    rw [List.foldl_cons]
    apply Shrinks.trans _ (ih _)
    split_ifs
    · exact shrinks_delete
    · exact Shrinks.refl

/-- A fresh key is nobody's, and its record says what its message says. -/
lemma Sound.issue (hcanonical : cfg.CanonicalAddresses) (h : s.Sound cfg gs) (req : AppMetadata.PrepareRequest)
    (rateAllowed : Bool)
    (hfresh : "claim_security:claim_authorization:" ++
      AppMetadata.authorizationId (s.rt.db.now + gs.claimAuthorizationTtlSeconds) req.suffix ∉ s.prepared.map Prod.fst) :
    Sound cfg gs
      { s with
        rt := (s.rt.issueAuthorization cfg gs req rateAllowed).1
        prepared := (s.rt.issueAuthorization cfg gs req rateAllowed).2.toList ++ s.prepared } := by
  have hrecords := loadSession_authorizations cfg s.rt req.sessionToken req.deviceIdHash
  have hnow := loadSession_db cfg s.rt req.sessionToken req.deviceIdHash
  unfold Runtime.issueAuthorization
  generalize loadSession cfg s.rt req.sessionToken req.deviceIdHash = loaded at hrecords hnow ⊢
  obtain ⟨rt, _ | session⟩ := loaded
  · apply h.shrink
    dsimp only at hrecords ⊢
    rw [hrecords]
    exact Shrinks.refl
  · dsimp only at hrecords hnow ⊢
    have hrefused : Sound cfg gs { s with rt := rt } := by
      apply h.shrink
      rw [hrecords]
      exact Shrinks.refl
    by_cases hspot : (rt.db.getSpot req.spotId).isNone = true
    · rw [if_pos hspot]
      exact hrefused
    · rw [if_neg hspot]
      cases hwallet : canonicalOptionalAddress cfg (some session.walletAddress) with
      | none => exact hrefused
      | some walletAddress =>
        dsimp only
        cases rateAllowed with
        | false => exact hrefused
        | true =>
          rw [if_neg (by simp)]
          dsimp only
          rw [hnow]
          generalize hkey : "claim_security:claim_authorization:" ++ AppMetadata.authorizationId
            (s.rt.db.now + gs.claimAuthorizationTtlSeconds) req.suffix = authKey at hfresh
          apply hrefused.addPrepared hfresh
          · exact ⟨req, rfl, rfl, rfl, rfl⟩
          · exact hcanonical.canonical hwallet

/-- The random part of an identifier is never drawn twice. -/
def Permitted (gs : FlowSettings P) (s : GuardFlow P) : FlowOp P → Prop
  | .prepare req _ _ => "claim_security:claim_authorization:" ++
      AppMetadata.authorizationId (s.rt.db.now + gs.claimAuthorizationTtlSeconds) req.suffix ∉ s.prepared.map Prod.fst
  | _ => True

lemma cleanup_db (gs : FlowSettings P) (rows : List String) (rt : Runtime P) :
    (rt.cleanupClaimAuthorizations gs rows).db = rt.db := by
  unfold Runtime.cleanupClaimAuthorizations
  induction rows generalizing rt with
  | nil => rfl
  | cons authKey rows ih =>
    rw [List.foldl_cons, ih]
    split_ifs
    · rfl
    · rfl

lemma step_sound (hcanonical : cfg.CanonicalAddresses) (h : s.Sound cfg gs) {op : FlowOp P}
    (hpermitted : Permitted gs s op) : (s.step cfg gs op).Sound cfg gs := by
  cases op with
  | wait seconds => exact h.shrink Shrinks.refl
  | elsewhere db sessions => exact h.shrink Shrinks.refl
  | cleanup rows => exact h.shrink (cleanup_shrinks gs rows s.rt)
  | prepare req rateAllowed rows =>
    have hswept := h.shrink (cleanup_shrinks gs rows s.rt)
    apply hswept.issue hcanonical req rateAllowed
    dsimp only
    rw [cleanup_db]
    exact hpermitted
  | submit post => exact h.submit post
  | advance index =>
    unfold step
    dsimp only
    cases hstage : s.requests[index]? with
    | none => exact h
    | some stage => exact h.advance hstage
  | crash index => exact h.crash index

/-- In every interleaving of requests, expiry, replays, crashes and cleanups, an authorization has at most one
signature check and at most one request that reaches the application; and that request is for the Spot, the wallet
and the device of the message its wallet signed, at a location and accuracy whose fixed-point form is the signed one. -/
theorem authorization_is_single_use (hcanonical : cfg.CanonicalAddresses) {ops : List (FlowOp P)}
    (hops : Admissible (step cfg gs) (Permitted gs) initial ops) :
    (run (step cfg gs) initial ops).verifications.Nodup ∧
    ((run (step cfg gs) initial ops).dispatches.map BoundPost.authKey).Nodup ∧
    ∀ b ∈ (run (step cfg gs) initial ops).dispatches,
      (b.authKey, b.authorization) ∈ (run (step cfg gs) initial ops).prepared ∧
      b.authorization.Says gs ∧
      gs.verifySignature b.authorization.message b.proof.publicKey b.proof.signature =
        .ok b.authorization.receivingWallet ∧
      b.session.walletAddress = b.authorization.receivingWallet ∧
      b.session.deviceIdHash = b.authorization.deviceIdHash ∧
      cleanDeviceIdentifier cfg b.post.body.deviceIdHash = .ok b.authorization.deviceIdHash ∧
      b.post.spotId = b.authorization.spotId ∧
      gs.canonicalLocation b.post.body.position b.post.body.accuracy = .ok b.authorization.location := by
  have hpreserved : ∀ (t : GuardFlow P) op, Permitted gs t op → t.Sound cfg gs → (t.step cfg gs op).Sound cfg gs := by
    intro t op hpermitted h
    exact step_sound hcanonical h hpermitted
  have hsound : (run (step cfg gs) initial ops).Sound cfg gs := run_invariant hpreserved hops sound_initial
  generalize run (step cfg gs) initial ops = s at hsound ⊢
  refine ⟨?_, ?_, ?_⟩
  · exact (List.nodup_append.mp hsound.verified.nodup).1
  · exact (List.nodup_append.mp hsound.attempted.nodup).1
  · intro b hb
    obtain ⟨hmatches, hsigned⟩ := hsound.dispatched b hb
    have htexts := hsound.texts _ hmatches.issued
    exact ⟨hmatches.issued, htexts, hsigned.signature, hsigned.wallet, hmatches.session, hmatches.device,
      hmatches.spot, hmatches.location⟩

end GuardFlow

section Witness

/-- Points by latitude and longitude. -/
def Settings.surveyed : Settings (ℚ × ℚ) :=
  Settings.withWallet {
    distanceMetres := fun _ _ => 0
    publicDeployment := true
    walletHourlyClaimLimit := 20
    cleanOptionalNimiqAddress := .ok
    strip := id
    upper := id }

/-- A signature check that finds the wallet. -/
def FlowSettings.surveyed : FlowSettings (ℚ × ℚ) where
  claimEnvironment := "production"
  claimNetwork := "mainnet"
  canonicalLocation
    | none, _ => .error "latitude must be a number"
    | some (lat, long), accuracy =>
      SignedClaim.canonicalLocation (.finite lat) (.finite long) (accuracy.map SignedClaim.Submitted.finite)
  sha256Text := id
  verifySignature := fun _ _ _ => .ok firstWallet

def surveyedDevice : String := "aaaaaaaaaaaaaaaaaaaaaaaaaaaaaaaaaaaaaaaaaaaaaaaaaaaaaaaaaaaaaaaa"

def surveyedSpot : Db (ℚ × ℚ) :=
  { Db.empty with
    now := 50
    users := [⟨2, .active, surveyedDevice, 0⟩]
    spots := [{ id := 1, createdBy := 1, depositAddress := "NQ SPOT", position := some (481 / 10, 8), radius := 100
                claimDuration := 0, maxClaimsPerUser := 5, maxTotalClaims := 10, usePassword := false
                totalValue := 1000, creationFee := 0, startsAt := none, endsAt := 100000, status := .published
                cancellationStartedAt := none, prizeCount := none }] }

/-- The request for the authorization prepared at 50, a hundredth of a millionth of a degree off. -/
def surveyedPost : ClaimPost (ℚ × ℚ) where
  spotId := 1
  sessionToken := some "token"
  ipFingerprint := ""
  body := ⟨some surveyedDevice, true, some (4810000001 / 100000000, 8), some 5, none, none, none,
    some ⟨"000000000140.aaaaaaaaaaaaaaaaaaaaaaaa", "key", "signature"⟩⟩
  signer := .ok firstWallet
  freshAllowed := true
  freshBanned := false
  preclaimBlocked := false
  preclaimRetryAt := 0
  preclaimReason := ""
  verificationSeconds := 0

def surveyedRun : List (FlowOp (ℚ × ℚ)) :=
  [.elsewhere surveyedSpot fun token =>
      if token = "token" then some ⟨2, surveyedDevice, firstWallet, 0, 1000⟩ else none,
    .prepare ⟨some "token", surveyedDevice, 1, true, ⟨48100000, 8000000, 500⟩, "aaaaaaaaaaaaaaaaaaaaaaaa", "nonce"⟩
      true [],
    .submit surveyedPost, .advance 0, .advance 0, .advance 0, .advance 0, .advance 0, .advance 0, .advance 0,
    .advance 0]

lemma surveyedRun_permitted : Admissible (GuardFlow.step Settings.surveyed FlowSettings.surveyed)
    (GuardFlow.Permitted FlowSettings.surveyed) .initial surveyedRun :=
  ⟨trivial, List.not_mem_nil, trivial, trivial, trivial, trivial, trivial, trivial, trivial, trivial, trivial, trivial⟩

lemma surveyedRun_dispatches : (run (GuardFlow.step Settings.surveyed FlowSettings.surveyed) .initial
    surveyedRun).dispatches.map (fun b => (b.post.body.position, b.authorization.location)) =
      [(some (4810000001 / 100000000, 8), ⟨48100000, 8000000, 500⟩)] := by
  decide +kernel

/-- The request that reaches the application is at 48.10000001 degrees; 48.1 were signed. -/
theorem reported_location_is_not_the_signed_one :
    ¬ ∀ ops, Admissible (GuardFlow.step Settings.surveyed FlowSettings.surveyed)
        (GuardFlow.Permitted FlowSettings.surveyed) .initial ops →
      ∀ b ∈ (run (GuardFlow.step Settings.surveyed FlowSettings.surveyed) .initial ops).dispatches,
        ∃ lat long, b.post.body.position = some (lat, long) ∧
          lat * 1000000 = b.authorization.location.latitudeE6 ∧
          long * 1000000 = b.authorization.location.longitudeE6 := by
  intro hexact
  have hrun := hexact surveyedRun surveyedRun_permitted
  have hdispatches := surveyedRun_dispatches
  generalize (run (GuardFlow.step Settings.surveyed FlowSettings.surveyed) .initial surveyedRun).dispatches =
    dispatches at hrun hdispatches
  obtain ⟨b, rest, rfl, hb, -⟩ := List.map_eq_cons_iff.mp hdispatches
  obtain ⟨lat, long, hposition, hlat, -⟩ := hrun b List.mem_cons_self
  rw [Prod.mk.injEq] at hb
  rw [hb.1, Option.some.injEq, Prod.mk.injEq] at hposition
  rw [hb.2, ← hposition.1] at hlat
  norm_num at hlat

/-- One request under one authorization. -/
theorem authorization_is_single_use_surveyed :
    (run (GuardFlow.step Settings.surveyed FlowSettings.surveyed) .initial surveyedRun).verifications.Nodup ∧
    (run (GuardFlow.step Settings.surveyed FlowSettings.surveyed) .initial surveyedRun).verifications.length = 1 ∧
    ((run (GuardFlow.step Settings.surveyed FlowSettings.surveyed) .initial surveyedRun).dispatches.map
      BoundPost.authKey).Nodup := by
  have hcanonical : Settings.surveyed.CanonicalAddresses := canonicalAddresses_withWallet _
  obtain ⟨hverified, hattempted, -⟩ := GuardFlow.authorization_is_single_use hcanonical surveyedRun_permitted
  exact ⟨hverified, by decide +kernel, hattempted⟩

end Witness

end NimHunt
