import NimHunt.Proofs.BooksClaims

/-!
# Cancellations in the books

A Spot has one cancellation in flight.  While its lease is held the fee policy stands, and with it the division the
legs were promised; the policy is dropped only before the Spot is marked.
-/

namespace NimHunt

open Lib Relation

variable {P : Type}

section Policies

variable {cfg : Settings P} {db : Db P} {spotId : ℕ}

/-- The books do not hold the guard, and of the policies only what the accounts show. -/
lemma Books.of_policies (hbooks : Books db) {guard : ℕ → Option SendGuard} {policy : ℕ → Option CancellationPolicy}
    (hsound : ∀ id spot, db.getSpot id = some spot →
      (({ db with cancellationGuard := guard, cancellationPolicy := policy } : Db P).account spot).Sound) :
    Books ({ db with cancellationGuard := guard, cancellationPolicy := policy } : Db P) where
  numbered := hbooks.numbered.congr rfl rfl rfl rfl rfl rfl hbooks.numbered.trans
  sound := hsound
  ordered := hbooks.ordered
  dated := hbooks.dated
  placed := hbooks.placed
  entered := hbooks.entered
  booked := hbooks.booked
  quiet := hbooks.quiet
  paidOut := hbooks.paidOut
  drawable := hbooks.drawable

lemma advances_setGuard (hbooks : Books db) (spotId : ℕ) (guard : Option SendGuard) :
    Advances cfg db (db.setGuard spotId guard) :=
  ⟨.of_spots rfl fun _ _ => .refl, hbooks.of_policies hbooks.sound, fun _ => stillRead_congr rfl⟩

/-- A policy is fixed where there was none. -/
lemma account_setPolicy {spot : Spot P} (policy : Option CancellationPolicy) :
    (db.setPolicy spotId policy).account spot =
      if spot.id = spotId then { db.account spot with policyFee := policy.map CancellationPolicy.feeAmount }
      else db.account spot := by
  by_cases hof : spot.id = spotId
  · rw [if_pos hof]
    unfold Db.account Db.setPolicy
    simp only [hof, Function.update_self]
    rfl
  · rw [if_neg hof]
    unfold Db.account Db.setPolicy
    simp only [Function.update_of_ne hof]
    rfl

lemma advances_setPolicy (hbooks : Books db) (hnone : db.cancellationPolicy spotId = none)
    (policy : CancellationPolicy) : Advances cfg db (db.setPolicy spotId (some policy)) := by
  have hsteps : ∀ spot, db.getSpot spot.id = some spot →
      (db.account spot).Steps ((db.setPolicy spotId (some policy)).account spot) := by
    intro spot _
    rw [account_setPolicy]
    by_cases hof : spot.id = spotId
    · rw [if_pos hof]
      have hfee : (db.account spot).policyFee = none := by
        change (db.cancellationPolicy spot.id).map _ = none
        rw [hof, hnone]
        rfl
      exact .single ⟨.policySet policy.feeAmount hfee, nofun⟩
    · rw [if_neg hof]
  refine ⟨.of_spots rfl hsteps, hbooks.of_policies ?_, fun _ => stillRead_congr rfl⟩
  intro id spot hspot
  have hid := getSpot_id hspot
  exact (hsteps spot (hid.symm ▸ hspot)).sound (hbooks.sound id spot hspot)

/-- Before the marker no leg of a cancellation is out, and its policy may go. -/
lemma books_dropPolicy (hbooks : Books db)
    (hunmarked : ∀ spot, db.getSpot spotId = some spot → spot.cancellationStartedAt = none) :
    Books (db.setPolicy spotId none) := by
  apply hbooks.of_policies
  intro id spot hspot
  have hsound := hbooks.sound id spot hspot
  change ((db.setPolicy spotId none).account spot).Sound
  rw [account_setPolicy]
  by_cases hof : spot.id = spotId
  · rw [if_pos hof]
    have hmarker := hunmarked spot (by rw [← hof, getSpot_id hspot]; exact hspot)
    have hmarked : (db.account spot).marked = false := by
      change spot.cancellationStartedAt.isSome = false
      rw [hmarker]
      rfl
    refine (Account.Move.policyDropped (hsound.clear_refunds hmarked) ?_).sound hsound
    by_cases hbanned : (db.account spot).status = .banned
    · exact .inl hbanned
    · exact .inr (hsound.clear_legFees hmarked hbanned)
  · rw [if_neg hof]
    exact hsound

/-- A division apart, what was promised does not depend on the policy. -/
lemma honours_dropPolicy {id : ℕ} {p : Promise} (hother : id = spotId → ∀ fee refund, p ≠ .split fee refund)
    (hkept : db.Honours id p) : (db.setPolicy spotId none).Honours id p := by
  obtain ⟨spot, hspot, hkept⟩ := hkept
  refine ⟨spot, hspot, ?_⟩
  rw [account_setPolicy]
  by_cases hof : spot.id = spotId
  · rw [if_pos hof]
    cases p with
    | reward claimId amount => exact hkept
    | split fee refund => exact absurd rfl (hother ((getSpot_id hspot).symm.trans hof) fee refund)
    | remainder amount => exact hkept
  · rw [if_neg hof]
    exact hkept

end Policies

section Flights

/-- The cancellation a worker is in. -/
def Continuation.lease : Continuation → Option CancellationLease
  | .cancellation lease | .cancellationFee lease _ | .cancellationRefund lease _ _ => some lease
  | _ => none

/-- The Spot it is of. -/
def Continuation.leaseSpot (k : Continuation) : Option ℕ := k.lease.map CancellationLease.spotId

/-- What was promised to a worker in flight, or read by it, holds when it resumes. -/
def Continuation.Honoured (cfg : Settings P) (db : Db P) : Continuation → Prop
  | .claimReward job => ∃ claim, db.getClaim job.claimId = some claim ∧
      db.Honours claim.spotId (.reward job.claimId job.amount)
  | .cancellationFee lease job | .cancellationRefund lease job _ =>
    job.spotId = lease.spotId ∧ db.Honours lease.spotId (.split job.feeAmount job.refundAmount)
  | .remainder job | .remainderRefund job _ => db.Honours job.spotId (.remainder job.amount)
  | .confirmation row _ => StillRead cfg db row
  | _ => True

/-- The lease is committed. -/
structure Db.Holds (db : Db P) (lease : CancellationLease) : Prop where
  guard : ∃ reason, db.cancellationGuard lease.spotId = some (.processing reason)
  policy : (db.getSpot lease.spotId).isSome = true → db.cancellationPolicy lease.spotId = some lease.policy

/-- A marked Spot has its policy, and a policy its Spot. -/
structure Db.PolicyFixed (db : Db P) (spotId : ℕ) : Prop where
  marked : ∀ spot, db.getSpot spotId = some spot → spot.cancellationStartedAt.isSome = true →
    (db.cancellationPolicy spotId).isSome = true
  placed : (db.cancellationPolicy spotId).isSome = true → (db.getSpot spotId).isSome = true

/-- A Spot has one cancellation in flight, and a policy is given up only before the marker. -/
structure Sys.Leased (s : Sys P) : Prop where
  held : ∀ k ∈ s.inFlight, ∀ lease, k.lease = some lease → s.db.Holds lease
  known : ∀ k ∈ s.inFlight, ∀ lease, k.lease = some lease → lease.spotId ≤ s.db.spotSeq
  single : (s.inFlight.filterMap Continuation.leaseSpot).Nodup
  fresh : ∀ lease, .cancellation lease ∈ s.inFlight → lease.policyCreated = true →
    ∀ spot, s.db.getSpot lease.spotId = some spot → spot.cancellationStartedAt = none
  fixed : ∀ spotId, s.db.PolicyFixed spotId

variable {cfg : Settings P} {db db' : Db P} {spotId : ℕ} {next : List Continuation}

lemma Db.PolicyFixed.of_policy {policy : CancellationPolicy} (hpolicy : db.cancellationPolicy spotId = some policy)
    (hspot : (db.getSpot spotId).isSome = true) : db.PolicyFixed spotId where
  marked _ _ _ := by
    rw [hpolicy]
    rfl
  placed _ := hspot

lemma Advances.stays (h : Advances cfg db db') (hspot : (db.getSpot spotId).isSome = true) :
    (db'.getSpot spotId).isSome = true := by
  obtain ⟨spot, hspot⟩ := Option.isSome_iff_exists.mp hspot
  obtain ⟨spot', hspot', -⟩ := h.accounts.stays spotId spot hspot
  rw [hspot']
  rfl

/-- A division apart, which only the lease of its Spot keeps. -/
lemma Continuation.Honoured.kept {k : Continuation} (h : k.Honoured cfg db) (hclaims : ClaimsKept db db')
    (hreads : ∀ row, StillRead cfg db row → StillRead cfg db' row)
    (hhonours : ∀ id p, (k.leaseSpot ≠ some id → ∀ fee refund, p ≠ .split fee refund) →
      db.Honours id p → db'.Honours id p) : k.Honoured cfg db' := by
  cases k with
  | claimReward job =>
    obtain ⟨claim, hclaim, hkept⟩ := h
    obtain ⟨claim', hclaim', hsame⟩ := hclaims.getClaim hclaim
    exact ⟨claim', hclaim', hsame.spotId.symm ▸ hhonours _ _ (fun _ _ _ => nofun) hkept⟩
  | cancellationFee lease job => exact ⟨h.1, hhonours _ _ (fun hof => absurd rfl hof) h.2⟩
  | cancellationRefund lease job refundAddress => exact ⟨h.1, hhonours _ _ (fun hof => absurd rfl hof) h.2⟩
  | remainder job => exact hhonours _ _ (fun _ _ _ => nofun) h
  | remainderRefund job refundAddress => exact hhonours _ _ (fun _ _ _ => nofun) h
  | confirmation row payout => exact hreads row h
  | _ => trivial

lemma Continuation.Honoured.advances {k : Continuation} (h : k.Honoured cfg db) (hclaims : ClaimsKept db db')
    (hbooks : Books db) (hadvances : Advances cfg db db') : k.Honoured cfg db' :=
  h.kept hclaims hadvances.reads fun _ _ _ hkept => hadvances.honours hbooks hkept

/-- Guard, policy and marker change for one Spot only. -/
structure LeaseWrites (spotId : ℕ) (db db' : Db P) : Prop where
  guard : ∀ id, id ≠ spotId → db'.cancellationGuard id = db.cancellationGuard id
  policy : ∀ id, id ≠ spotId → db'.cancellationPolicy id = db.cancellationPolicy id
  markers : ∀ id spot', id ≠ spotId → db'.getSpot id = some spot' → spot'.cancellationStartedAt.isSome = true →
    ∃ spot, db.getSpot id = some spot ∧ spot.cancellationStartedAt.isSome = true

/-- What a worker does to get the lease of a Spot or under it, and what it carries on with. -/
structure LeaseMove (cfg : Settings P) (spotId : ℕ) (db db' : Db P) (next : List Continuation) : Prop
    extends LeaseWrites spotId db db' where
  books : Books db'
  reads : ∀ row, StillRead cfg db row → StillRead cfg db' row
  honours : ∀ id p, (id = spotId → ∀ fee refund, p ≠ .split fee refund) → db.Honours id p → db'.Honours id p
  stays : ∀ id, (db.getSpot id).isSome = true → (db'.getSpot id).isSome = true
  fixed : db'.PolicyFixed spotId
  single : next.length ≤ 1
  carried : ∀ k ∈ next, k.Honoured cfg db' ∧ ∃ lease, k.lease = some lease ∧ lease.spotId = spotId ∧ db'.Holds lease
  fresh : ∀ lease, .cancellation lease ∈ next → lease.policyCreated = true →
    ∀ spot, db'.getSpot spotId = some spot → spot.cancellationStartedAt = none

lemma LeaseWrites.then {db'' : Db P} (h : LeaseWrites spotId db db') (h' : LeaseWrites spotId db' db'') :
    LeaseWrites spotId db db'' := by
  refine ⟨fun id hid => (h'.guard id hid).trans (h.guard id hid),
    fun id hid => (h'.policy id hid).trans (h.policy id hid), ?_⟩
  intro id spot'' hid hspot'' hmarked
  obtain ⟨spot', hspot', hmarked'⟩ := h'.markers id spot'' hid hspot'' hmarked
  exact h.markers id spot' hid hspot' hmarked'

lemma SameLeases.leaseWrites (h : SameLeases db db') : LeaseWrites spotId db db' :=
  ⟨fun id _ => congrFun h.guard id, fun id _ => congrFun h.policy id, fun id spot' _ => h.markers id spot'⟩

lemma leaseWrites_setGuard (db : Db P) (guard : Option SendGuard) : LeaseWrites spotId db (db.setGuard spotId guard) :=
  ⟨fun _ hid => Function.update_of_ne hid .., fun _ _ => rfl, fun _ spot _ hspot hmarked => ⟨spot, hspot, hmarked⟩⟩

lemma leaseWrites_setPolicy (db : Db P) (policy : Option CancellationPolicy) :
    LeaseWrites spotId db (db.setPolicy spotId policy) :=
  ⟨fun _ _ => rfl, fun _ hid => Function.update_of_ne hid .., fun _ spot _ hspot hmarked => ⟨spot, hspot, hmarked⟩⟩

/-- A move that ends the cancellation for now. -/
lemma LeaseMove.ended (hbooks : Books db) (hadvances : Advances cfg db db') (hwrites : LeaseWrites spotId db db')
    (hfixed : db'.PolicyFixed spotId) : LeaseMove cfg spotId db db' [] :=
  { hwrites with
    books := hadvances.books
    reads := hadvances.reads
    honours := fun _ _ _ hkept => hadvances.honours hbooks hkept
    stays := fun _ => hadvances.stays
    fixed := hfixed
    single := Nat.zero_le 1
    carried := nofun
    fresh := nofun }

/-- A move after which the worker carries its lease on. -/
lemma LeaseMove.goesOn {k : Continuation} (lease : CancellationLease) (hbooks : Books db)
    (hadvances : Advances cfg db db') (hwrites : LeaseWrites lease.spotId db db') (hkept : k.Honoured cfg db')
    (hlease : k.lease = some lease) (hholds : db'.Holds lease) (hfixed : db'.PolicyFixed lease.spotId)
    (hfresh : ∀ other, k = .cancellation other → other.policyCreated = true →
      ∀ spot, db'.getSpot lease.spotId = some spot → spot.cancellationStartedAt = none) :
    LeaseMove cfg lease.spotId db db' [k] :=
  { hwrites with
    books := hadvances.books
    reads := hadvances.reads
    honours := fun _ _ _ hkept => hadvances.honours hbooks hkept
    stays := fun _ => hadvances.stays
    fixed := hfixed
    single := le_rfl
    carried := fun other hother => by
      rw [List.mem_singleton.mp hother]
      exact ⟨hkept, lease, hlease, rfl, hholds⟩
    fresh := fun other hother => hfresh other (List.mem_singleton.mp hother).symm }

end Flights

section Acquiring

variable {cfg : Settings P} {db : Db P} {spotId fee : ℕ} {feeAddress : Address} {transactions : List Trans}
  {failureProven : Bool}

lemma setGuard_setGuard (db : Db P) (spotId : ℕ) (first second : Option SendGuard) :
    (db.setGuard spotId first).setGuard spotId second = db.setGuard spotId second := by
  simp [Db.setGuard]

/-- A released guard, or one that was never set. -/
lemma released_eq (db : Db P) (spotId : ℕ) :
    (if (db.cancellationGuard spotId).isSome then db.releaseGuard spotId else db) = db.setGuard spotId none := by
  split_ifs with hset
  · rfl
  · have hnone : db.cancellationGuard spotId = none := by simpa using hset
    unfold Db.setGuard
    rw [← hnone, Function.update_eq_self]

/-- Nothing is written, or no other worker holds the lease of the Spot. -/
lemma acquire_move (hbooks : Books db) (hfixed : db.PolicyFixed spotId) :
    let outcome := acquireCancellationLease cfg db spotId fee feeAddress transactions failureProven
    (outcome.1 = db ∧ ∃ message, outcome.2 = .error message) ∨
    (∀ reason, db.cancellationGuard spotId ≠ some (.processing reason)) ∧
      (∀ message, outcome.2 = .error message → LeaseMove cfg spotId db outcome.1 []) ∧
      ∀ lease, outcome.2 = .ok lease →
        (db.getSpot spotId).isSome = true ∧ LeaseMove cfg spotId db outcome.1 [.cancellation lease] := by
  have hended : ∀ guard, LeaseMove cfg spotId db (db.setGuard spotId guard) [] := fun guard =>
    .ended hbooks (advances_setGuard hbooks spotId guard) (leaseWrites_setGuard db guard) ⟨hfixed.marked, hfixed.placed⟩
  unfold acquireCancellationLease
  dsimp only
  split
  · exact .inl ⟨rfl, _, rfl⟩
  · next hfree =>
    right
    have hother : ∀ reason, db.cancellationGuard spotId ≠ some (.processing reason) := by
      intro reason hheld
      refine hfree _ hheld (decide_eq_false ?_)
      rintro ⟨hblocked, -⟩
      rw [hheld] at hblocked
      cases hblocked
    refine ⟨hother, ?_⟩
    rw [released_eq, Db.blockGuard, setGuard_setGuard]
    by_cases hlegs : failedCancellationLegs transactions ≠ [] ∧
        ((singleRetryableFailedRefund transactions).isSome && failureProven) = false
    · rw [if_pos hlegs]
      exact ⟨fun _ _ => hended _, (fun _ h => nomatch h)⟩
    rw [if_neg hlegs]
    have hsame : (db.setGuard spotId none).cancellationPolicy = db.cancellationPolicy := rfl
    rw [hsame]
    cases hpolicy : db.cancellationPolicy spotId with
    | some policy =>
      refine ⟨(fun _ h => nomatch h), ?_⟩
      intro lease hlease
      rw [← Except.ok.inj hlease]
      have hspot : (db.getSpot spotId).isSome = true := hfixed.placed (by rw [hpolicy]; rfl)
      refine ⟨hspot, ?_⟩
      dsimp only
      rw [setGuard_setGuard]
      refine .goesOn ⟨spotId, policy, false⟩ hbooks (advances_setGuard hbooks spotId _)
        (leaseWrites_setGuard db _) trivial rfl ⟨⟨_, Function.update_self ..⟩, fun _ => hpolicy⟩
        (.of_policy hpolicy hspot) ?_
      intro other hother hcreated
      injection hother with hsame
      rw [← hsame] at hcreated
      cases hcreated
    | none =>
      dsimp only
      split
      · exact ⟨fun _ _ => hended none, (fun _ h => nomatch h)⟩
      · exact ⟨fun _ _ => hended none, (fun _ h => nomatch h)⟩
      · next clean found _ hfound =>
        have hspot : (db.getSpot spotId).isSome = true := by
          change db.getSpot spotId = some found at hfound
          rw [hfound]
          rfl
        refine ⟨(fun _ h => nomatch h), ?_⟩
        intro lease hlease
        rw [← Except.ok.inj hlease]
        refine ⟨hspot, ?_⟩
        have hset : Advances cfg db (db.setPolicy spotId (some ⟨fee, clean⟩)) := advances_setPolicy hbooks hpolicy _
        change LeaseMove cfg spotId db
          (((db.setPolicy spotId (some ⟨fee, clean⟩)).setGuard spotId none).setGuard spotId _) _
        rw [setGuard_setGuard]
        refine .goesOn ⟨spotId, ⟨fee, clean⟩, true⟩ hbooks (hset.then (advances_setGuard hset.books spotId _))
          ((leaseWrites_setPolicy db _).then (leaseWrites_setGuard _ _)) trivial rfl
          ⟨⟨_, Function.update_self ..⟩, fun _ => Function.update_self ..⟩ (.of_policy (Function.update_self ..) hspot) ?_
        intro _ _ _ spot hspot
        -- a marked Spot has its policy, and this one had none
        by_contra hmarked
        have hfound := hfixed.marked spot hspot (Option.isSome_iff_ne_none.mpr hmarked)
        rw [hpolicy] at hfound
        cases hfound

end Acquiring

section Legs

variable {cfg : Settings P} {db made : Db P} {lease : CancellationLease}

/-- A cancellation that stops under its lease leaves its guard, whatever it writes there. -/
lemma LeaseMove.stopped (hbooks : Books db) (hadvances : Advances cfg db made)
    (hwrites : LeaseWrites lease.spotId db made) (hfixed : made.PolicyFixed lease.spotId)
    (guard : Option SendGuard) : LeaseMove cfg lease.spotId db (made.setGuard lease.spotId guard) [] :=
  .ended hbooks (hadvances.then (advances_setGuard hadvances.books _ guard))
    (hwrites.then (leaseWrites_setGuard made guard)) ⟨hfixed.marked, hfixed.placed⟩

lemma afterRefusedLeg_eq (db : Db P) (spotId : ℕ) (e : Raised) :
    ∃ guard, afterRefusedLeg db spotId e = db.setGuard spotId guard := by
  unfold afterRefusedLeg
  split
  · split_ifs <;> exact ⟨_, rfl⟩
  · exact ⟨_, rfl⟩

lemma Attempts.leaseWrites {outcome : Outcome P CancellationResult} (h : Attempts cfg lease.spotId db outcome) :
    LeaseWrites lease.spotId db outcome.1 := by
  refine ⟨fun id _ => congrFun h.guard id, fun id _ => congrFun h.policy id, ?_⟩
  intro id spot' hid hspot' hmarked
  exact (h.markers id spot' hspot' hmarked).resolve_left hid

/-- A policy that was fixed for this attempt is given up with it, when nothing has been written yet. -/
lemma LeaseMove.dropped (hbooks : Books db)
    (hunmarked : ∀ spot, db.getSpot lease.spotId = some spot → spot.cancellationStartedAt = none) :
    LeaseMove cfg lease.spotId db ((db.releaseGuard lease.spotId).setPolicy lease.spotId none) [] := by
  have hreleased : Advances cfg db (db.releaseGuard lease.spotId) := advances_setGuard hbooks _ none
  refine {
    (leaseWrites_setGuard db none).then (leaseWrites_setPolicy (db.releaseGuard lease.spotId) none) with
    books := books_dropPolicy hreleased.books hunmarked
    reads := fun _ => stillRead_congr rfl
    honours := fun id p hother hkept => honours_dropPolicy hother (hreleased.honours hbooks hkept)
    stays := fun _ hspot => hspot
    fixed := ⟨?_, ?_⟩
    single := Nat.zero_le 1
    carried := nofun
    fresh := nofun }
  · intro spot hspot hmarked
    rw [hunmarked spot hspot] at hmarked
    cases hmarked
  · intro hpolicy
    change (Function.update db.cancellationPolicy lease.spotId none lease.spotId).isSome = true at hpolicy
    rw [Function.update_self] at hpolicy
    cases hpolicy

/-- The draft has been deleted since the lease was taken. -/
lemma submit_gone (hbooks : Books db) (hfixed : db.PolicyFixed lease.spotId) (hnone : db.getSpot lease.spotId = none)
    (reply : Reply) : LeaseMove cfg lease.spotId db (resume cfg db reply (.cancellation lease)).1
      (resume cfg db reply (.cancellation lease)).2 := by
  have hrefused : submitSpotCancellationTransactions cfg db lease.spotId lease.policy.feeAmount =
      (db, .error (.valueError s!"spot id={lease.spotId} does not exist")) := by
    unfold submitSpotCancellationTransactions
    rw [hnone]
  have hvalue : ∀ message, (Raised.valueError message).isValueError = true := fun _ => rfl
  unfold NimHunt.resume submitUnderLease
  dsimp only
  rw [hrefused]
  dsimp only
  rw [if_pos (hvalue _)]
  split_ifs
  · refine .dropped hbooks fun spot hspot => ?_
    rw [hnone] at hspot
    cases hspot
  · exact .stopped hbooks (.refl hbooks) (SameLeases.leaseWrites (.of_spots rfl rfl rfl)) hfixed none

lemma submit_move (hbooks : Books db) (hholds : db.Holds lease) (hfixed : db.PolicyFixed lease.spotId)
    (hfresh : lease.policyCreated = true →
      ∀ spot, db.getSpot lease.spotId = some spot → spot.cancellationStartedAt = none) (reply : Reply) :
    LeaseMove cfg lease.spotId db (resume cfg db reply (.cancellation lease)).1
      (resume cfg db reply (.cancellation lease)).2 := by
  by_cases hspot : (db.getSpot lease.spotId).isSome = true
  swap
  · exact submit_gone hbooks hfixed (Option.not_isSome_iff_eq_none.mp hspot) reply
  have hattempts : Attempts cfg lease.spotId db
      (submitSpotCancellationTransactions cfg db lease.spotId lease.policy.feeAmount) :=
    attempts_submit hbooks (by rw [hholds.policy hspot]; rfl)
  unfold NimHunt.resume submitUnderLease
  dsimp only
  generalize submitSpotCancellationTransactions cfg db lease.spotId lease.policy.feeAmount = outcome at hattempts
  have hpolicy : outcome.1.cancellationPolicy lease.spotId = some lease.policy := by
    rw [hattempts.policy]
    exact hholds.policy hspot
  have hfixed : outcome.1.PolicyFixed lease.spotId := .of_policy hpolicy (hattempts.advances.stays hspot)
  have hstopped := LeaseMove.stopped hbooks hattempts.advances hattempts.leaseWrites hfixed
  obtain ⟨made, e | result⟩ := outcome
  · dsimp only
    split_ifs with hvalue hcreated
    · have hsame : made = db := hattempts.rolledBack e rfl
      rw [hsame]
      exact .dropped hbooks (hfresh hcreated)
    · exact hstopped none
    · exact hstopped _
  · cases result with
    | deferred reason => exact hstopped none
    | cancelled => exact hstopped none
    | fixed job =>
      obtain ⟨hof, hkept⟩ := hattempts.promised job rfl
      refine .goesOn lease hbooks hattempts.advances hattempts.leaseWrites ⟨hof, hkept⟩ rfl ⟨?_, fun _ => hpolicy⟩
        hfixed nofun
      change ∃ reason, made.cancellationGuard lease.spotId = _
      rw [hattempts.guard]
      exact hholds.guard

lemma sendFee_move (hbooks : Books db) (hholds : db.Holds lease) {job : CancellationJob}
    (hkept : (Continuation.cancellationFee lease job).Honoured cfg db) (reply : Reply) :
    LeaseMove cfg lease.spotId db (sendCancellationFee cfg db lease job reply).1
      (sendCancellationFee cfg db lease job reply).2 := by
  obtain ⟨hof, hpromised⟩ := hkept
  have hspot := hpromised.spot
  have hfixed : db.PolicyFixed lease.spotId := .of_policy (hholds.policy hspot) hspot
  have hstopped := @LeaseMove.stopped _ cfg db db lease hbooks (.refl hbooks)
    (SameLeases.leaseWrites (.of_spots rfl rfl rfl)) hfixed
  have hsends : Proceeds cfg db
      (submitPlatformFeeTransaction cfg db lease.spotId job.feeAmount lease.policy.feeAddress reply.txHash).1 :=
    proceeds_legFee hbooks hpromised lease.policy.feeAddress reply.txHash
  unfold sendCancellationFee
  rw [hof]
  by_cases hunknown : 0 < job.refundAmount ∧ reply.refundAddress.isNone = true
  · rw [if_pos hunknown]
    exact hstopped none
  rw [if_neg hunknown]
  by_cases hnone : job.feeAmount = 0
  · rw [if_pos hnone]
    exact .goesOn lease hbooks (.refl hbooks) (SameLeases.leaseWrites (.of_spots rfl rfl rfl)) ⟨hof, hpromised⟩ rfl hholds
      hfixed nofun
  rw [if_neg hnone]
  generalize submitPlatformFeeTransaction cfg db lease.spotId job.feeAmount lease.policy.feeAddress reply.txHash =
    outcome at hsends
  have hpolicy : outcome.1.cancellationPolicy lease.spotId = some lease.policy := by
    rw [hsends.policy]
    exact hholds.policy hspot
  have hsent : outcome.1.PolicyFixed lease.spotId := .of_policy hpolicy (hsends.toAdvances.stays hspot)
  have hended := LeaseMove.stopped hbooks hsends.toAdvances hsends.toSameLeases.leaseWrites hsent
  obtain ⟨made, e | _⟩ := outcome
  · obtain ⟨guard, hguard⟩ := afterRefusedLeg_eq made lease.spotId e
    dsimp only
    rw [hguard]
    exact hended guard
  · dsimp only
    split_ifs
    · refine .goesOn lease hbooks hsends.toAdvances hsends.toSameLeases.leaseWrites
        ⟨hof, hsends.toAdvances.honours hbooks hpromised⟩ rfl ⟨?_, fun _ => hpolicy⟩ hsent nofun
      change ∃ reason, made.cancellationGuard lease.spotId = _
      rw [hsends.guard]
      exact hholds.guard
    · exact hended _

lemma sendRefund_move (hbooks : Books db) (hholds : db.Holds lease) {job : CancellationJob} {refundAddress : Address}
    (hkept : (Continuation.cancellationRefund lease job refundAddress).Honoured cfg db) (reply : Reply) :
    LeaseMove cfg lease.spotId db (sendCancellationRefund cfg db job refundAddress reply) [] := by
  obtain ⟨hof, hpromised⟩ := hkept
  have hspot := hpromised.spot
  have hsends : Proceeds cfg db
      (submitSpotRefundTransaction cfg db lease.spotId job.refundAmount refundAddress reply.txHash).1 :=
    proceeds_legRefund hbooks hpromised refundAddress reply.txHash
  unfold sendCancellationRefund
  rw [hof]
  by_cases hnone : job.refundAmount = 0
  · rw [if_pos hnone]
    exact .stopped hbooks (.refl hbooks) (SameLeases.leaseWrites (.of_spots rfl rfl rfl))
      (.of_policy (hholds.policy hspot) hspot) none
  rw [if_neg hnone]
  generalize submitSpotRefundTransaction cfg db lease.spotId job.refundAmount refundAddress reply.txHash = outcome
    at hsends
  have hpolicy : outcome.1.cancellationPolicy lease.spotId = some lease.policy := by
    rw [hsends.policy]
    exact hholds.policy hspot
  have hsent : outcome.1.PolicyFixed lease.spotId := .of_policy hpolicy (hsends.toAdvances.stays hspot)
  have hended := LeaseMove.stopped hbooks hsends.toAdvances hsends.toSameLeases.leaseWrites hsent
  obtain ⟨made, e | _⟩ := outcome
  · obtain ⟨guard, hguard⟩ := afterRefusedLeg_eq made lease.spotId e
    dsimp only
    rw [hguard]
    exact hended guard
  · dsimp only
    split_ifs
    · exact hended none
    · exact hended _

end Legs

end NimHunt
