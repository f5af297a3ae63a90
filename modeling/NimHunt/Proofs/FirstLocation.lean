import NimHunt.FreshClaimGuard
import NimHunt.Lib.Runs

/-!
# First-location verification is permanent

Calls overlap, and each carries the time it was started at.  What keeps a verification is that a verified record
has no retry time: whatever time a call brings, the record then decides the call before anything is written.
-/

namespace NimHunt

open Lib

variable {P : Type} {cfg : FreshGuardSettings P}

section Records

/-- A verified record holds no restriction. -/
def LocationRecord.Settled (r : LocationRecord P) : Prop :=
  ∀ verifiedAt, r.verifiedAt = some verifiedAt → verifiedAt ≠ 0 ∧ r.retryAt = none

variable {r : LocationRecord P} {call : FirstLocationCall P} {o : LocationObservation P}

/-- A verified record answers at every time. -/
lemma locationStateDecision_of_verified (hsettled : r.Settled) (hverified : r.verifiedAt.isSome = true) (now : ℕ) :
    locationStateDecision (some r) now = some ⟨true, "first_location_verified"⟩ := by
  obtain ⟨verifiedAt, hat⟩ := Option.isSome_iff_exists.mp hverified
  have hfacts := hsettled verifiedAt hat
  unfold locationStateDecision
  rw [Option.bind_some, hfacts.2, hat]
  simp [hfacts.1]

/-- A record that leaves a call undecided is not verified. -/
lemma LocationRecord.Settled.unverified (hsettled : r.Settled) {now : ℕ}
    (hnone : locationStateDecision (some r) now = none) : r.verifiedAt = none := by
  cases hverified : r.verifiedAt with
  | none => rfl
  | some verifiedAt =>
    have hsome : r.verifiedAt.isSome = true := by rw [hverified]; rfl
    rw [locationStateDecision_of_verified hsettled hsome now] at hnone
    cases hnone

lemma LocationRecord.settled_of_unverified (hnone : r.verifiedAt = none) : r.Settled := by
  intro verifiedAt hat
  rw [hnone] at hat
  cases hat

lemma LocationRecord.settled_verified : (r.verified call o).Settled := by
  intro verifiedAt hat
  have hnow : call.now = verifiedAt := Option.some.inj hat
  exact ⟨by rw [← hnow]; exact call.nowPos.ne', rfl⟩

end Records

section Conclusion

variable {userRow : Option User} {current : Option (LocationRecord P)} {call : FirstLocationCall P}
  {outcome : Option (LocationObservation P)}

/-- A banned user's record is never written. -/
lemma concludeLookup_banned (hbanned : (userRow.all fun user => user.status = .banned) = true) :
    concludeLookup cfg userRow current call outcome = ⟨current, ⟨false, "user_not_allowed"⟩, none⟩ := by
  unfold concludeLookup
  exact if_pos hbanned

/-- However late a lookup returns, a verified record answers it and stays. -/
lemma concludeLookup_of_verified {r : LocationRecord P} (hsettled : r.Settled)
    (hverified : r.verifiedAt.isSome = true)
    (hallowed : (userRow.all fun user => user.status = .banned) = false) :
    concludeLookup cfg userRow (some r) call outcome = ⟨some r, ⟨true, "first_location_verified"⟩, none⟩ := by
  have hstate := locationStateDecision_of_verified hsettled hverified call.now
  unfold concludeLookup
  rw [if_neg (by rw [hallowed]; exact Bool.false_ne_true), hstate]

/-- What the transaction stores: the old record, or a new one that is settled. -/
lemma concludeLookup_stored (hsettled : ∀ r, current = some r → r.Settled) :
    ∀ r, (concludeLookup cfg userRow current call outcome).stored = some r → r.Settled := by
  unfold concludeLookup
  by_cases hbanned : (userRow.all fun user => user.status = .banned) = true
  · rw [if_pos hbanned]
    exact hsettled
  rw [if_neg hbanned]
  cases hstate : locationStateDecision current call.now with
  | some decision => exact hsettled
  | none =>
    dsimp only
    -- The record that is written over is not verified.
    have hunverified : (current.getD {}).verifiedAt = none := by
      cases current with
      | none => rfl
      | some r => exact (hsettled r rfl).unverified hstate
    split_ifs with hunreliable hstale
    · exact hsettled
    · exact hsettled
    · generalize current.getD {} = state at hunverified
      intro r hstored
      cases outcome with
      | none =>
        rw [← Option.some.inj hstored]
        exact LocationRecord.settled_of_unverified hunverified
      | some o =>
        dsimp only at hstored
        by_cases hshift : state.providerShifted cfg o = true
        · rw [if_pos hshift] at hstored
          rw [← Option.some.inj hstored]
          exact LocationRecord.settled_of_unverified hunverified
        rw [if_neg hshift] at hstored
        by_cases hmatch : o.mismatch = false
        · rw [if_pos hmatch] at hstored
          rw [← Option.some.inj hstored]
          exact LocationRecord.settled_verified
        · rw [if_neg hmatch] at hstored
          rw [← Option.some.inj hstored]
          exact LocationRecord.settled_of_unverified hunverified

end Conclusion

namespace FirstLocationCalls

def banned (s : FirstLocationCalls P) (userId : ℕ) : Bool :=
  (s.db.getUser userId).all fun user => user.status = .banned

/-- Records are settled, and a banned user has none. -/
structure Sound (s : FirstLocationCalls P) : Prop where
  settled : ∀ userId r, s.locations userId = some r → r.Settled
  allowed : ∀ userId r, s.locations userId = some r → s.banned userId = false

/-- What a step may do to one user's verified record: nothing, with answers that allow. -/
structure Keeps (userId : ℕ) (r : LocationRecord P) (s t : FirstLocationCalls P) : Prop where
  record : t.locations userId = some r
  decided : ∃ later, t.decided = s.decided ++ later ∧ ∀ d ∈ later, d.1 = userId → d.2.allowed = true

variable {s t u : FirstLocationCalls P} {call : FirstLocationCall P} {userId : ℕ} {r : LocationRecord P}

lemma Keeps.refl (hrecord : s.locations userId = some r) : Keeps userId r s s :=
  ⟨hrecord, [], by simp, by simp⟩

lemma Keeps.then (hfirst : Keeps userId r s t) (hsecond : Keeps userId r t u) : Keeps userId r s u := by
  refine ⟨hsecond.record, ?_⟩
  obtain ⟨first, hfirstEq, hfirstAllowed⟩ := hfirst.decided
  obtain ⟨second, hsecondEq, hsecondAllowed⟩ := hsecond.decided
  refine ⟨first ++ second, by rw [hsecondEq, hfirstEq, List.append_assoc], ?_⟩
  intro d hd hid
  cases List.mem_append.mp hd with
  | inl hmem => exact hfirstAllowed d hmem hid
  | inr hmem => exact hsecondAllowed d hmem hid

/-- One answer, with the record of the user left alone. -/
lemma Keeps.of_answer {id : ℕ} {decision : FirstLocationDecision} (hrecord : t.locations userId = some r)
    (hdecided : t.decided = s.decided ++ [(id, decision)])
    (hallowed : id = userId → decision.allowed = true) : Keeps userId r s t := by
  refine ⟨hrecord, _, hdecided, ?_⟩
  intro d hd hid
  rw [List.mem_singleton.mp hd] at hid ⊢
  exact hallowed hid

section Steps

lemma enter_locations (s : FirstLocationCalls P) (call : FirstLocationCall P) :
    (s.enter call).locations = s.locations := by
  unfold enter
  dsimp only
  split_ifs <;> rfl

lemma enter_db (s : FirstLocationCalls P) (call : FirstLocationCall P) : (s.enter call).db = s.db := by
  unfold enter
  dsimp only
  split_ifs <;> rfl

/-- Entering answers only legacy accounts. -/
lemma enter_keeps (hrecord : s.locations userId = some r) : Keeps userId r s (s.enter call) := by
  have hstays : (s.enter call).locations userId = some r := by rw [enter_locations]; exact hrecord
  unfold enter at hstays ⊢
  dsimp only at hstays ⊢
  split_ifs at hstays ⊢ with hlegacy
  · exact .of_answer hstays rfl fun _ => rfl
  · exact ⟨hstays, [], by simp, by simp⟩

lemma consult_locations (s : FirstLocationCalls P) (call : FirstLocationCall P) :
    (consult cfg s call).locations = s.locations := by
  unfold consult
  dsimp only
  cases locationStateDecision (s.locations call.user.id) call.now with
  | some existing => rfl
  | none =>
    dsimp only
    split_ifs <;> rfl

lemma consult_db (s : FirstLocationCalls P) (call : FirstLocationCall P) : (consult cfg s call).db = s.db := by
  unfold consult
  dsimp only
  cases locationStateDecision (s.locations call.user.id) call.now with
  | some existing => rfl
  | none =>
    dsimp only
    split_ifs <;> rfl

/-- A verified record answers the first read, whatever the time of the call. -/
lemma consult_keeps (hsound : s.Sound) (hrecord : s.locations userId = some r)
    (hverified : r.verifiedAt.isSome = true) : Keeps userId r s (consult cfg s call) := by
  have hstays : (consult cfg s call).locations userId = some r := by rw [consult_locations]; exact hrecord
  unfold consult at hstays ⊢
  dsimp only at hstays ⊢
  cases hstate : locationStateDecision (s.locations call.user.id) call.now with
  | some existing =>
    rw [hstate] at hstays
    refine .of_answer hstays rfl ?_
    intro hid
    rw [hid, hrecord, locationStateDecision_of_verified (hsound.settled userId r hrecord) hverified] at hstate
    rw [← Option.some.inj hstate]
  | none =>
    rw [hstate] at hstays
    dsimp only at hstays ⊢
    split_ifs at hstays ⊢ with hunreliable
    · exact .of_answer hstays rfl fun _ => rfl
    · exact ⟨hstays, [], by simp, by simp⟩

lemma conclude_keeps (hsound : s.Sound) (hrecord : s.locations userId = some r)
    (hverified : r.verifiedAt.isSome = true) (answer : Option (IpLocation P)) :
    Keeps userId r s (conclude cfg s call answer) := by
  unfold conclude
  dsimp only
  by_cases hid : call.user.id = userId
  · have houtcome : concludeLookup cfg (s.db.getUser userId) (some r) call (lookupOutcome cfg call answer) =
        ⟨some r, ⟨true, "first_location_verified"⟩, none⟩ :=
      concludeLookup_of_verified (hsound.settled userId r hrecord) hverified (hsound.allowed userId r hrecord)
    rw [hid, hrecord, houtcome]
    refine .of_answer ?_ rfl fun _ => rfl
    exact Function.update_self ..
  · refine .of_answer ?_ rfl fun h => absurd h hid
    exact (Function.update_of_ne (Ne.symm hid) ..).trans hrecord

end Steps

section Soundness

lemma Sound.enter (hsound : s.Sound) : (s.enter call).Sound := by
  refine ⟨?_, ?_⟩
  · rw [enter_locations]
    exact hsound.settled
  · unfold banned
    rw [enter_locations, enter_db]
    exact hsound.allowed

lemma Sound.consult (hsound : s.Sound) : (consult cfg s call).Sound := by
  refine ⟨?_, ?_⟩
  · rw [consult_locations]
    exact hsound.settled
  · unfold banned
    rw [consult_locations, consult_db]
    exact hsound.allowed

lemma Sound.conclude (hsound : s.Sound) (answer : Option (IpLocation P)) : (conclude cfg s call answer).Sound := by
  have hother : ∀ userId r, (FirstLocationCalls.conclude cfg s call answer).locations userId = some r →
      userId ≠ call.user.id → s.locations userId = some r := by
    intro userId r hr hne
    exact (Function.update_of_ne hne ..).symm.trans hr
  have hsame : (FirstLocationCalls.conclude cfg s call answer).locations call.user.id =
      (concludeLookup cfg (s.db.getUser call.user.id) (s.locations call.user.id) call
        (lookupOutcome cfg call answer)).stored := Function.update_self ..
  refine ⟨?_, ?_⟩
  · intro userId r hr
    by_cases hid : userId = call.user.id
    · rw [hid, hsame] at hr
      exact concludeLookup_stored (hsound.settled call.user.id) r hr
    · exact hsound.settled userId r (hother userId r hr hid)
  · intro userId r hr
    by_cases hid : userId = call.user.id
    · rw [hid, hsame] at hr
      change s.banned userId = false
      rw [hid]
      -- The transaction of a banned user stores what was there: nothing.
      by_contra hbanned
      rw [concludeLookup_banned (Bool.of_not_eq_false hbanned)] at hr
      exact hbanned (hsound.allowed call.user.id r hr)
    · exact hsound.allowed userId r (hother userId r hr hid)

lemma Sound.step (hsound : s.Sound) (op : FirstLocationOp P) : (step cfg s op).Sound := by
  cases op with
  | tick seconds => exact ⟨hsound.settled, hsound.allowed⟩
  | enter call => exact hsound.enter
  | consult index =>
    unfold FirstLocationCalls.step
    dsimp only
    cases s.opened[index]? with
    | none => exact hsound
    | some call =>
      have htaken : Sound { s with opened := s.opened.eraseIdx index } := ⟨hsound.settled, hsound.allowed⟩
      exact htaken.consult
  | conclude index answer =>
    unfold FirstLocationCalls.step
    dsimp only
    cases s.lookups[index]? with
    | none => exact hsound
    | some call =>
      have htaken : Sound { s with lookups := s.lookups.eraseIdx index } := ⟨hsound.settled, hsound.allowed⟩
      exact htaken.conclude answer

lemma sound_start (db : Db P) (rollout : Option RolloutMarker) : (start db rollout).Sound where
  settled _ _ hr := nomatch hr
  allowed _ _ hr := nomatch hr

/-- No step writes a verified record or refuses its user. -/
lemma step_keeps (hsound : s.Sound) (hrecord : s.locations userId = some r) (hverified : r.verifiedAt.isSome = true)
    (op : FirstLocationOp P) : Keeps userId r s (step cfg s op) := by
  cases op with
  | tick seconds => exact ⟨hrecord, [], by simp [FirstLocationCalls.step], by simp⟩
  | enter call => exact enter_keeps hrecord
  | consult index =>
    unfold FirstLocationCalls.step
    dsimp only
    cases s.opened[index]? with
    | none => exact .refl hrecord
    | some call =>
      have htaken : Sound { s with opened := s.opened.eraseIdx index } := ⟨hsound.settled, hsound.allowed⟩
      have hkept : Keeps userId r _ (FirstLocationCalls.consult cfg _ call) := consult_keeps htaken hrecord hverified
      exact ⟨hkept.record, hkept.decided⟩
  | conclude index answer =>
    unfold FirstLocationCalls.step
    dsimp only
    cases s.lookups[index]? with
    | none => exact .refl hrecord
    | some call =>
      have htaken : Sound { s with lookups := s.lookups.eraseIdx index } := ⟨hsound.settled, hsound.allowed⟩
      have hkept : Keeps userId r _ (FirstLocationCalls.conclude cfg _ call answer) := conclude_keeps htaken hrecord hverified answer
      exact ⟨hkept.record, hkept.decided⟩

lemma run_keeps (hsound : s.Sound) (hrecord : s.locations userId = some r) (hverified : r.verifiedAt.isSome = true)
    (ops : List (FirstLocationOp P)) : Keeps userId r s (run (step cfg) s ops) := by
  induction ops generalizing s with
  | nil => exact .refl hrecord
  | cons op ops ih =>
    have hfirst : Keeps userId r s (step cfg s op) := step_keeps hsound hrecord hverified op
    exact hfirst.then (ih (hsound.step op) hfirst.record)

end Soundness

/-- Once a user's verification is stored, no call clears or overwrites it, and every later decision allows the
user, however the calls overlap, whenever they were started and whatever their lookups answer. -/
theorem first_location_verification_is_permanent (cfg : FreshGuardSettings P) (db : Db P) (rollout : Option RolloutMarker)
    (before after : List (FirstLocationOp P)) (userId : ℕ) (r : LocationRecord P)
    (hstored : (run (step cfg) (start db rollout) before).locations userId = some r)
    (hverified : r.verifiedAt.isSome = true) :
    (run (step cfg) (start db rollout) (before ++ after)).locations userId = some r ∧
    ∃ later, (run (step cfg) (start db rollout) (before ++ after)).decided =
        (run (step cfg) (start db rollout) before).decided ++ later ∧
      ∀ d ∈ later, d.1 = userId → d.2.allowed = true := by
  have hpreserved : ∀ (s : FirstLocationCalls P) op, True → s.Sound → (step cfg s op).Sound :=
    fun _ op _ hsound => hsound.step op
  have hsound := run_invariant hpreserved (admissible_true (start db rollout) before) (sound_start db rollout)
  have hkept : Keeps userId r _ (run (step cfg) _ after) := run_keeps hsound hstored hverified after
  rw [run_append]
  exact ⟨hkept.record, hkept.decided⟩

section Run

/-- A map of one place. -/
def guardOnePlace : FreshGuardSettings Unit where
  toSettings := Settings.onePlace
  sha256 := id
  rounded := id
  onEarth := fun _ => true
  country := id

def newcomer : User where
  id := 8
  status := .active
  createdAt := 50

def newcomerCall (now : ℕ) (h : 0 < now) : FirstLocationCall Unit where
  user := newcomer
  ip := some "198.51.100.7"
  gps := ()
  gpsCountry := some "Portugal"
  now := now
  nowPos := h

def newcomerDb : Db Unit := { Db.empty with now := 90, users := [newcomer] }

/-- Two lookups of one user; the first to return verifies. -/
def verifyingCalls : List (FirstLocationOp Unit) :=
  [.enter (newcomerCall 100 (by decide)), .enter (newcomerCall 90 (by decide)), .consult 0, .consult 0,
    .conclude 0 (some ⟨(), some "Portugal", 5⟩)]

def verifiedRecord : LocationRecord Unit where
  decisionAt := 100
  lastResult := some "match"
  verifiedAt := some 100
  providerIpHash := some "198.51.100.7"
  provider := some ()
  ipCountry := some "Portugal"
  gpsCountry := some "Portugal"

theorem first_location_verification_is_permanent_eight :
    (run (step guardOnePlace) (start newcomerDb (some (.marker 10 7))) verifyingCalls).locations 8 =
        some verifiedRecord ∧
      (run (step guardOnePlace) (start newcomerDb (some (.marker 10 7)))
        (verifyingCalls ++ [.conclude 0 none, .enter (newcomerCall 95 (by decide)), .consult 0])).locations 8 =
        some verifiedRecord := by
  have hstored : (run (step guardOnePlace) (start newcomerDb (some (.marker 10 7))) verifyingCalls).locations 8 =
      some verifiedRecord := by decide +kernel
  exact ⟨hstored, (first_location_verification_is_permanent guardOnePlace newcomerDb (some (.marker 10 7)) verifyingCalls _
    8 verifiedRecord hstored rfl).1⟩

end Run

end FirstLocationCalls

end NimHunt
