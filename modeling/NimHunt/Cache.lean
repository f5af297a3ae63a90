import NimHunt.Lib.Dict
import NimHunt.Lib.Runs
import NimHunt.TransactionChecks

/-!
# The pending-transaction cache

The part of `cache.py` that `check_pending_transactions` reads its rows from: one snapshot and one dirty
flag, shared by every coroutine.  A coroutine runs undisturbed from one `await` to the next; between two
of them any other may run.
-/

namespace NimHunt

open Lib

variable {P : Type}

structure PendingTransactionCacheSnapshot where
  loadedAt : ℕ
  transactionsById : Dict Trans.id
  transactionIdsByCreated : List ℕ
  transactionIdByHash : List (String × ℕ)
  sorted : transactionIdsByCreated = (transactionsById.rows.insertionSort Trans.Older).map Trans.id
  indexed : transactionIdByHash =
    (transactionsById.rows.filter fun t => t.txHash ≠ "").map fun t => (t.txHash, t.id)

def buildPendingTransactionSnapshot (loadedAt : ℕ) (transactionsById : Dict Trans.id) :
    PendingTransactionCacheSnapshot where
  loadedAt := loadedAt
  transactionsById := transactionsById
  transactionIdsByCreated := (transactionsById.rows.insertionSort Trans.Older).map Trans.id
  transactionIdByHash := (transactionsById.rows.filter fun t => t.txHash ≠ "").map fun t => (t.txHash, t.id)
  sorted := rfl
  indexed := rfl

/-- Of two rows under one hash the later entry of the dictionary stays. -/
def PendingTransactionCacheSnapshot.idOfHash (snapshot : PendingTransactionCacheSnapshot) (txHash : String) :
    Option ℕ :=
  snapshot.transactionIdByHash.reverse.lookup txHash

def buildPendingTransactionCacheSnapshot (loadedAt : ℕ) (db : Db P) : PendingTransactionCacheSnapshot :=
  buildPendingTransactionSnapshot loadedAt (Dict.ofList db.pendingTransactions)

/-- The rebuilt snapshot of `refresh_cached_pending_transaction`, from the one it read before its query. -/
def rebuildWithRow (snapshot : PendingTransactionCacheSnapshot) (transId : ℕ) (row : Option Trans) :
    PendingTransactionCacheSnapshot :=
  match row with
  | some row =>
    if row.status = .pending then
      buildPendingTransactionSnapshot snapshot.loadedAt (snapshot.transactionsById.set row)
    else buildPendingTransactionSnapshot snapshot.loadedAt (snapshot.transactionsById.pop transId)
  | none => buildPendingTransactionSnapshot snapshot.loadedAt (snapshot.transactionsById.pop transId)

inductive RemoveBy
  | transId (id : ℕ)
  | txHash (hash : String)
  deriving DecidableEq

/-- `resolved_id` of `remove_pending_transaction_from_cache`. -/
def RemoveBy.resolve (snapshot : PendingTransactionCacheSnapshot) : RemoveBy → Option ℕ
  | .transId id => some id
  | .txHash hash => snapshot.idOfHash hash

/-- `remove_pending_transaction_from_cache` once the cache is loaded. -/
def RemoveBy.removeFrom (target : RemoveBy) (snapshot : PendingTransactionCacheSnapshot) :
    PendingTransactionCacheSnapshot :=
  match target.resolve snapshot with
  | none => snapshot
  | some id => buildPendingTransactionSnapshot snapshot.loadedAt (snapshot.transactionsById.pop id)

/-- The calls that follow a write of a TRANSACTION row. -/
inductive CacheCall
  | notifyTransactionChanged (transId : Option ℕ)
  | refreshCachedPendingTransaction (transId : ℕ)
  | refreshPendingTransactionCache
  | removePendingTransactionFromCache (target : RemoveBy)
  deriving DecidableEq

/-- Where a coroutine waits.  `seen` counts the writes of the cache, and the removals that found nothing
to write, up to the moment a refresh read what it is going to write back; the code keeps no such count. -/
inductive CacheTask
  | call (c : CacheCall)
  | fetchOne (transId seen : ℕ) (snapshot : PendingTransactionCacheSnapshot)
  | storeOne (transId seen : ℕ) (snapshot : PendingTransactionCacheSnapshot)
  | fetchPending (loadedAt : ℕ)
  | storeAll (seen : ℕ) (snapshot : PendingTransactionCacheSnapshot)

structure PollingCache (P : Type) where
  db : Db P
  cache : Option PendingTransactionCacheSnapshot
  dirty : Bool
  writes : ℕ
  tasks : List CacheTask

inductive CacheOp (P : Type)
  /-- A coroutine commits its transaction and is about to make the call that goes with it. -/
  | commit (db : Db P) (c : CacheCall)
  /-- A call with no write before it: the background refresher, or a test. -/
  | start (c : CacheCall)
  | getPendingTransactions
  | forcePendingTransactionCacheClear
  | resume (index : ℕ)

namespace PollingCache

def initial (db : Db P) : PollingCache P := ⟨db, none, true, 0, []⟩

/-- A write of the snapshot and of the flag, in one piece under the lock. -/
def write (s : PollingCache P) (cache : Option PendingTransactionCacheSnapshot) (dirty : Bool) :
    PollingCache P :=
  { s with cache := cache, dirty := dirty, writes := s.writes + 1 }

def spawn (s : PollingCache P) (task : CacheTask) : PollingCache P := { s with tasks := s.tasks ++ [task] }

/-- A coroutine runs to its next `await`. -/
def resume (s : PollingCache P) : CacheTask → PollingCache P
  | .call (.notifyTransactionChanged (some transId)) =>
    s.spawn (.call (.refreshCachedPendingTransaction transId))
  | .call (.notifyTransactionChanged none) => s.write s.cache true
  | .call (.refreshCachedPendingTransaction transId) =>
    match s.cache with
    | none => s.spawn (.call .refreshPendingTransactionCache)
    | some snapshot => s.spawn (.fetchOne transId s.writes snapshot)
  | .fetchOne transId seen snapshot =>
    s.spawn (.storeOne transId seen (rebuildWithRow snapshot transId (s.db.getTransaction transId)))
  | .storeOne _ _ snapshot => s.write (some snapshot) false
  | .call .refreshPendingTransactionCache => s.spawn (.fetchPending s.db.now)
  | .fetchPending loadedAt => s.spawn (.storeAll s.writes (buildPendingTransactionCacheSnapshot loadedAt s.db))
  | .storeAll _ snapshot => s.write (some snapshot) false
  | .call (.removePendingTransactionFromCache target) =>
    s.write (s.cache.map target.removeFrom) s.dirty

/-- `ensure_pending_transaction_cache` has to reload. -/
def NeedsRefresh (s : PollingCache P) : Prop := s.cache = none ∨ s.dirty = true

instance (s : PollingCache P) : Decidable s.NeedsRefresh :=
  decidable_of_iff (s.cache.isNone = true ∨ s.dirty = true) (by simp [NeedsRefresh])

def step (s : PollingCache P) : CacheOp P → PollingCache P
  | .commit db c => { s with db := db }.spawn (.call c)
  | .start c => s.spawn (.call c)
  | .getPendingTransactions => if s.NeedsRefresh then s.spawn (.call .refreshPendingTransactionCache) else s
  | .forcePendingTransactionCacheClear => s.write none true
  | .resume index =>
    match s.tasks[index]? with
    | none => s
    | some task => resume { s with tasks := s.tasks.eraseIdx index } task

/-- What `ensure_pending_transaction_cache` returns to a coroutine that nothing disturbs. -/
def ensurePendingTransactionCache (s : PollingCache P) : PendingTransactionCacheSnapshot :=
  match s.cache with
  | none => buildPendingTransactionCacheSnapshot s.db.now s.db
  | some snapshot => if s.dirty then buildPendingTransactionCacheSnapshot s.db.now s.db else snapshot

def getPendingTransactions (s : PollingCache P) (limit offset : ℕ) : List Trans :=
  let snapshot := s.ensurePendingTransactionCache
  ((snapshot.transactionIdsByCreated.drop offset).take (clampLimit limit)).filterMap
    snapshot.transactionsById.get?

end PollingCache

end NimHunt
