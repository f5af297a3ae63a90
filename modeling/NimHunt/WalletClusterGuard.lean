import NimHunt.Lib.Dict
import NimHunt.Lib.Runs

/-!
# Funding origins of claimants

`wallet_cluster_guard.py`: who funded a signer first, and which signers one source funded.  `A` is the
type of addresses and `H` of their hashes; every lookup of the chain is an answer from outside.
-/

namespace NimHunt

open Lib

variable {A H : Type} [DecidableEq A] [DecidableEq H]

structure ClusterLimits where
  sourceSampleSize : ℕ := 100
  sourceServiceDegree : ℕ := 50
  minClaimants : ℕ := 5
  minClaimants_pos : 0 < minClaimants := by decide
  windowSeconds : ℤ := 7 * 24 * 60 * 60
  memberLimit : ℕ := 16
  cacheSeconds : ℤ := 30 * 24 * 60 * 60
  failureRetrySeconds : ℤ := 10 * 60

/-- What the readers of `trans_updater` find in one history row; a type that is missing counts as
basic. -/
structure FundingRow (A : Type) where
  confirmed : Bool
  sender : Option A
  recipient : Option A
  amount : Option ℤ
  timestamp : Option ℤ
  fromBasic : Bool
  toBasic : Bool

/-- A transfer that funded a signer. -/
structure FundingOrigin (A : Type) where
  source : A
  timestamp : ℤ
  amount : ℤ
  deriving DecidableEq, Repr

def meaningfulInbound (tx : FundingRow A) (address : A) : Option (FundingOrigin A) :=
  if tx.confirmed = false then none
  else match tx.sender, tx.amount, tx.timestamp with
    | some sender, some amount, some timestamp =>
      if tx.recipient ≠ some address ∨ sender = address ∨ amount ≤ 0 then none
      else if tx.fromBasic = false ∨ tx.toBasic = false then none
      else some ⟨sender, timestamp, amount⟩
    | _, _, _ => none

/-- `min(candidates, key=timestamp)`: the first of the oldest. -/
def oldestCandidate : List (FundingOrigin A) → Option (FundingOrigin A)
  | [] => none
  | candidate :: candidates =>
    match oldestCandidate candidates with
    | none => some candidate
    | some oldest => if oldest.timestamp < candidate.timestamp then some oldest else some candidate

inductive Breadth
  | service | ordinary | unknown
  deriving DecidableEq, Repr

/-- `_source_breadth` of the sampled first page. -/
def sourceBreadth (limits : ClusterLimits) (source : A) (transactions : List (FundingRow A)) : Breadth :=
  let recipients := (transactions.filterMap fun tx =>
    if tx.confirmed = true ∧ tx.sender = some source then tx.recipient.filter (· ≠ source) else none).dedup
  if limits.sourceServiceDegree ≤ recipients.length then .service
  else if max 1 limits.sourceSampleSize ≤ transactions.length then .unknown
  else .ordinary

structure Member (H : Type) where
  signer : H
  timestamp : ℤ
  amount : ℤ
  deriving DecidableEq, Repr

/-- The metadata row of one funding source. -/
structure SourceState (H : Type) where
  members : Dict (@Member.signer H) := .empty
  memberCount : ℕ := 0
  membersSaturated : Bool := false
  membershipUncertain : Bool := false
  clusterEvidence : Bool := false
  similarPattern : Bool := false
  breadth : Breadth := .unknown
  serviceLike : Bool := false
  sourceRefreshAt : ℤ := 0
  checkedAt : ℤ := 0

/-- The metadata row of one signer. -/
inductive OriginRecord (H : Type)
  | providerFailure (checkedAt refreshAt : ℤ)
  | observed (origin : Option (FundingOrigin H)) (checkedAt refreshAt : ℤ)
  deriving DecidableEq, Repr

def OriginRecord.refreshAt : OriginRecord H → ℤ
  | .providerFailure _ refreshAt | .observed _ _ refreshAt => refreshAt

/-- The transfer a record names. -/
def OriginRecord.origin : OriginRecord H → Option (FundingOrigin H)
  | .providerFailure _ _ => none
  | .observed origin _ _ => origin

def OriginRecord.isObserved : OriginRecord H → Bool
  | .providerFailure _ _ => false
  | .observed _ _ _ => true

/-- What `observe` returns. -/
structure ClusterObservation where
  observed : Bool
  evidence : Bool := false
  memberCount : ℕ := 0
  similarPattern : Bool := false
  deriving DecidableEq, Repr

def clusterState : Option (SourceState H) → ClusterObservation
  | none => { observed := true }
  | some source =>
    let count := if source.memberCount = 0 then source.members.rows.length else source.memberCount
    if source.breadth ≠ .ordinary ∨ source.serviceLike = true ∨ source.membershipUncertain = true then
      { observed := true, memberCount := count }
    else { observed := true, evidence := source.clusterEvidence, memberCount := count
           similarPattern := source.similarPattern }

/-- `_pattern`: whether the members were funded close together, and with similar amounts as well. -/
def fundingPattern (limits : ClusterLimits) (members : List (Member H)) : Bool × Bool :=
  if members.length < limits.minClaimants then (false, false)
  else
    let timestamps := members.map Member.timestamp
    let amounts := members.map Member.amount
    let tight : Bool := timestamps.max?.getD 0 - timestamps.min?.getD 0 ≤ limits.windowSeconds
    let similar : Bool := amounts.max?.getD 0 * 9 ≤ amounts.min?.getD 0 * 10
    (tight, tight && similar)

namespace SourceState

def markUncertain (state : SourceState H) : SourceState H :=
  { state with membershipUncertain := true, clusterEvidence := false, similarPattern := false }

/-- The aggregate flags recomputed for a new member list. -/
def recompute (limits : ClusterLimits) (state : SourceState H) (members : Dict (@Member.signer H)) :
    SourceState H :=
  { state with
    members := members
    clusterEvidence := (fundingPattern limits members.rows).1
    similarPattern := (fundingPattern limits members.rows).2 }

/-- `_add_member` of a signer that is not listed. -/
def addNewMember (limits : ClusterLimits) (state : SourceState H) (replacement : Member H) : SourceState H :=
  let limit := max limits.minClaimants limits.memberLimit
  let room : Bool := state.members.rows.length < limit
  let members := if room then state.members.set replacement else state.members
  let count := if state.memberCount = 0 then members.rows.length - 1 else state.memberCount
  { state with
    members := members
    membersSaturated := state.membersSaturated || !room
    memberCount := min (limit + 1) (count + 1)
    clusterEvidence := state.clusterEvidence || (fundingPattern limits members.rows).1
    similarPattern := state.similarPattern || (fundingPattern limits members.rows).2 }

/-- `_add_member`. -/
def addMember (limits : ClusterLimits) (state : SourceState H) (replacement : Member H)
    (authoritativeCorrection : Bool) : SourceState H :=
  if state.membershipUncertain = true then state
  else match state.members.get? replacement.signer with
    | some existing =>
      if existing = replacement then state
      else if state.membersSaturated = true then state.markUncertain
      else state.recompute limits (state.members.set replacement)
    | none =>
      if authoritativeCorrection = true ∧ state.membersSaturated = true then state.markUncertain
      else state.addNewMember limits replacement

/-- `_remove_member`. -/
def removeMember (limits : ClusterLimits) (state : SourceState H) (signer : H) : SourceState H :=
  if state.membersSaturated = true then state.markUncertain
  else if (state.members.get? signer).isSome then
    let members := state.members.pop signer
    { state.recompute limits members with memberCount := members.rows.length }
  else state

/-- The fields every write of a source sets beside its members. -/
def refreshed (limits : ClusterLimits) (state : SourceState H) (breadth : Breadth) (now : ℤ) : SourceState H :=
  { state with
    breadth := breadth
    serviceLike := state.serviceLike || decide (breadth = .service)
    sourceRefreshAt := now + limits.cacheSeconds
    checkedAt := now }

end SourceState

/-- The rows of the two key spaces, by signer hash and by source hash. -/
structure ClusterStore (H : Type) where
  origins : H → Option (OriginRecord H) := fun _ => none
  sources : H → Option (SourceState H) := fun _ => none

namespace ClusterStore

def setOrigin (store : ClusterStore H) (signer : H) (record : OriginRecord H) : ClusterStore H :=
  { store with origins := fun h => if h = signer then some record else store.origins h }

def setSource (store : ClusterStore H) (source : H) (state : SourceState H) : ClusterStore H :=
  { store with sources := fun h => if h = source then some state else store.sources h }

/-- The failed lookup is remembered unless something newer is known. -/
def recordFailure (limits : ClusterLimits) (store : ClusterStore H) (signer : H) (now : ℤ) : ClusterStore H :=
  let failure : OriginRecord H := .providerFailure now (now + limits.failureRetrySeconds)
  match store.origins signer with
  | none => store.setOrigin signer failure
  | some (.observed _ _ _) => store
  | some (.providerFailure checkedAt _) => if checkedAt ≤ now then store.setOrigin signer failure else store

/-- The signer leaves the source its old record names. -/
def leaveSource (limits : ClusterLimits) (store : ClusterStore H) (signer oldSource : H) : ClusterStore H :=
  match store.sources oldSource with
  | none => store
  | some state => store.setSource oldSource (state.removeMember limits signer)

/-- The signer joins the source of its new record. -/
def joinSource (limits : ClusterLimits) (store : ClusterStore H) (signer : H) (origin : FundingOrigin H)
    (breadth : Breadth) (authoritativeCorrection : Bool) (now : ℤ) : ClusterStore H :=
  let state := (store.sources origin.source).getD {}
  let joined := state.addMember limits ⟨signer, origin.timestamp, origin.amount⟩ authoritativeCorrection
  store.setSource origin.source (joined.refreshed limits breadth now)

/-- Same source, different transfer. -/
def isCorrection (current : Option (OriginRecord H)) (origin : Option (FundingOrigin H)) : Bool :=
  let old := current.bind OriginRecord.origin
  current.any OriginRecord.isObserved &&
    decide (old.map FundingOrigin.source = origin.map FundingOrigin.source) &&
    decide (old.map FundingOrigin.timestamp ≠ origin.map FundingOrigin.timestamp ∨
      old.map FundingOrigin.amount ≠ origin.map FundingOrigin.amount)

/-- The signer leaves the source of its old record if the new one names another. -/
def leaveOldSource (limits : ClusterLimits) (store : ClusterStore H) (signer : H)
    (origin : Option (FundingOrigin H)) : ClusterStore H :=
  match ((store.origins signer).bind OriginRecord.origin).map FundingOrigin.source with
  | none => store
  | some oldSource =>
    if origin.map FundingOrigin.source = some oldSource then store else store.leaveSource limits signer oldSource

/-- The write of a lookup that found nothing newer. -/
def replaceOrigin (limits : ClusterLimits) (store : ClusterStore H) (signer : H) (origin : Option (FundingOrigin H))
    (breadth : Breadth) (now : ℤ) : ClusterStore H :=
  let recorded := (store.leaveOldSource limits signer origin).setOrigin signer
    (.observed origin now (now + limits.cacheSeconds))
  match origin with
  | none => recorded
  | some origin =>
    recorded.joinSource limits signer origin breadth (isCorrection (store.origins signer) (some origin)) now

/-- The transaction of a lookup that succeeded: a winner that started no earlier stands as it is. -/
def recordOrigin (limits : ClusterLimits) (store : ClusterStore H) (signer : H) (origin : Option (FundingOrigin H))
    (breadth : Breadth) (now : ℤ) : ClusterStore H × ClusterObservation :=
  match store.origins signer with
  | some (.observed winner checkedAt _) =>
    if now ≤ checkedAt then (store, clusterState (winner.bind fun winner => store.sources winner.source))
    else
      let replaced := store.replaceOrigin limits signer origin breadth now
      (replaced, clusterState (origin.bind fun origin => replaced.sources origin.source))
  | _ =>
    let replaced := store.replaceOrigin limits signer origin breadth now
    (replaced, clusterState (origin.bind fun origin => replaced.sources origin.source))

end ClusterStore

/-- How far one `observe` has come. -/
inductive ObservationPhase (A : Type)
  | history
  | sampling (origin : FundingOrigin A)
  | recording (origin : Option (FundingOrigin A)) (breadth : Breadth)
  | failed
  deriving DecidableEq, Repr

structure OriginLookup (A : Type) where
  signer : A
  startedAt : ℤ
  phase : ObservationPhase A
  deriving DecidableEq, Repr

structure ClusterRun (A H : Type) where
  store : ClusterStore H := {}
  inFlight : List (OriginLookup A) := []

inductive ClusterOp (A : Type)
  | observe (signer : A) (now : ℤ)
  /-- What `_complete_history` returns; nothing when it raises. -/
  | history (index : ℕ) (answer : Option (List (FundingRow A)))
  | sample (index : ℕ) (answer : Option (List (FundingRow A)))
  | record (index : ℕ)
  | crash (index : ℕ)

namespace ClusterRun

def hashed (hash : A → H) (origin : FundingOrigin A) : FundingOrigin H :=
  ⟨hash origin.source, origin.timestamp, origin.amount⟩

def setPhase (s : ClusterRun A H) (index : ℕ) (lookup : OriginLookup A) (phase : ObservationPhase A) :
    ClusterRun A H :=
  { s with inFlight := s.inFlight.set index { lookup with phase := phase } }

/-- The phase after the history: the breadth of a source that was sampled lately is not asked again. -/
def afterHistory (hash : A → H) (store : ClusterStore H) (lookup : OriginLookup A) :
    Option (List (FundingRow A)) → ObservationPhase A
  | none => .failed
  | some history =>
    match oldestCandidate (history.filterMap fun tx => meaningfulInbound tx lookup.signer) with
    | none => .recording none .unknown
    | some origin =>
      match store.sources (hash origin.source) with
      | none => .sampling origin
      | some prior =>
        if lookup.startedAt < prior.sourceRefreshAt then .recording (some origin) prior.breadth else .sampling origin

def step (limits : ClusterLimits) (hash : A → H) (s : ClusterRun A H) : ClusterOp A → ClusterRun A H
  | .observe signer now =>
    let fresh : Bool := (s.store.origins (hash signer)).any fun record => now < record.refreshAt
    if fresh then s else { s with inFlight := s.inFlight ++ [⟨signer, now, .history⟩] }
  | .history index answer =>
    match s.inFlight[index]? with
    | none => s
    | some lookup =>
      match lookup.phase with
      | .history => s.setPhase index lookup (afterHistory hash s.store lookup answer)
      | _ => s
  | .sample index answer =>
    match s.inFlight[index]? with
    | none => s
    | some lookup =>
      match lookup.phase, answer with
      | .sampling _, none => s.setPhase index lookup .failed
      | .sampling origin, some transactions =>
        s.setPhase index lookup (.recording (some origin) (sourceBreadth limits origin.source transactions))
      | _, _ => s
  | .record index =>
    match s.inFlight[index]? with
    | none => s
    | some lookup =>
      let signer := hash lookup.signer
      match lookup.phase with
      | .failed =>
        ⟨s.store.recordFailure limits signer lookup.startedAt, s.inFlight.eraseIdx index⟩
      | .recording origin breadth =>
        ⟨(s.store.recordOrigin limits signer (origin.map (hashed hash)) breadth lookup.startedAt).1,
          s.inFlight.eraseIdx index⟩
      | _ => s
  | .crash index => { s with inFlight := s.inFlight.eraseIdx index }

end ClusterRun

end NimHunt
