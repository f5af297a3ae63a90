import NimHunt.ClaimPayoutThrottle
import NimHunt.Outbox

/-!
# Payouts behind the throttle

`submit_claim_reward_transaction_with_throttle` reserves a slot in one transaction and hands the payout to
the outbox, which inserts its row in another.  Other submitters, checks, failures, restarts and the
passing of time come in between.
-/

namespace NimHunt

open Lib

variable {P : Type}

structure ThrottledOutbox (P : Type) where
  outbox : Outbox P
  store : ThrottleStore P

inductive ThrottledOp (P : Type)
  /-- A submitter at the throttle. -/
  | reservePayoutSlot (claimId amount : ℕ)
  | outbox (op : OutboxOp P)
  /-- Whatever the other writers make of the security records. -/
  | records (metadata : SecurityMetadata P)

namespace ThrottledOutbox

def initial (db : Db P) (store : ThrottleStore P) : ThrottledOutbox P := ⟨.initial db, store⟩

def step (cfg : Settings P) (limits : ThrottleLimits) (s : ThrottledOutbox P) : ThrottledOp P → ThrottledOutbox P
  | .reservePayoutSlot claimId amount =>
    { s with store := (NimHunt.reservePayoutSlot limits s.outbox.db s.store claimId amount).1 }
  | .outbox op => { s with outbox := s.outbox.step cfg op }
  | .records metadata => { s with store := { s.store with metadata := metadata } }

/-- The claim's reservation is stored, for this amount, with both of its global times in their windows. -/
def HoldsReservation (limits : ThrottleLimits) (s : ThrottledOutbox P) (job : PayoutJob) : Prop :=
  ∃ r ∈ cleanReservations s.store.reservations, r.claimId = job.claimId ∧ r.amount = job.amount ∧
    (s.outbox.db.now : ℤ) - limits.windowSeconds < r.shortReservedAt ∧
    (s.outbox.db.now : ℤ) - limits.dailyWindowSeconds < r.dailyReservedAt

/-- The clock does not run back, a claim is always submitted with the amount `reward` has for it, and its
row is inserted under its reservation. -/
def PaysAsReserved (limits : ThrottleLimits) (reward : ℕ → ℕ) (s : ThrottledOutbox P) : ThrottledOp P → Prop
  | .reservePayoutSlot claimId amount => amount = reward claimId
  | .outbox (.elsewhere db) => s.outbox.db.now ≤ db.now
  | .outbox (.reserve (.claimReward job) _) => HoldsReservation limits s job
  | .outbox _ | .records _ => True

end ThrottledOutbox

/-- The non-failed payouts created in `(t - seconds, t]`. -/
def payoutsUntil (db : Db P) (seconds t : ℕ) : List Trans :=
  db.trans.filter fun p => p.type = .claim ∧ p.status ≠ .failed ∧ p.createdAt ≤ t ∧ t < p.createdAt + seconds

end NimHunt
