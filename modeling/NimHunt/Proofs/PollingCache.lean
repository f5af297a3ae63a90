import NimHunt.Cache
import NimHunt.Proofs.TransactionPass

/-!
# When the cached list is the database's

Every row that changed is awaited by the coroutine that changed it until a refresh has put it into the
snapshot.  A refresh that writes back over a write it has not seen undoes that write, and what the undone
coroutine awaited is lost; without such a write-back the list is the PENDING rows whenever all is quiet.
-/

namespace NimHunt

open Lib

variable {P : Type}

/-- The two hold the same row under this id. -/
def SameAt (id : ℕ) (xs ys : List Trans) : Prop := ∀ row, row.id = id → (row ∈ xs ↔ row ∈ ys)

lemma SameAt.refl (id : ℕ) (xs : List Trans) : SameAt id xs xs := fun _ _ => Iff.rfl

lemma SameAt.trans {id : ℕ} {xs ys zs : List Trans} (h : SameAt id xs ys) (h' : SameAt id ys zs) :
    SameAt id xs zs := fun row hid => (h row hid).trans (h' row hid)

section Statements

def RemoveBy.Names (row : Trans) : RemoveBy → Prop
  | .transId id => row.id = id
  | .txHash hash => row.txHash = hash

/-- The call goes with what the transaction wrote: one that names a row goes with a write of that row
alone, and a removal with a row that is no longer PENDING. -/
def CacheCall.Matches (before after : List Trans) : CacheCall → Prop
  | .notifyTransactionChanged none | .refreshPendingTransactionCache => True
  | .notifyTransactionChanged (some transId) | .refreshCachedPendingTransaction transId =>
    ∀ id, id ≠ transId → SameAt id before after
  | .removePendingTransactionFromCache target =>
    ∃ row ∈ after, target.Names row ∧ row.status ≠ .pending ∧ ∀ id, id ≠ row.id → SameAt id before after

namespace PollingCache

/-- A coroutine changes TRANSACTION rows only in a transaction, and makes the matching call. -/
def Matching (s : PollingCache P) : CacheOp P → Prop
  | .commit db c => (db.trans.map Trans.id).Nodup ∧ c.Matches s.db.trans db.trans
  | .start c => c.Matches s.db.trans s.db.trans
  | _ => True

/-- The list is the database's, rows and order. -/
def Exact (s : PollingCache P) : Prop :=
  ∀ limit offset, s.getPendingTransactions limit offset =
    (s.db.pendingTransactions.drop offset).take (clampLimit limit)

end PollingCache

/-- The removal takes a settled row, and finds it under the name it has. -/
def RemoveBy.Hits (db : Db P) (snapshot : PendingTransactionCacheSnapshot) (target : RemoveBy) : Prop :=
  (∀ row ∈ db.trans, target.resolve snapshot = some row.id → row.status ≠ .pending) ∧
  ∀ row ∈ db.trans, target.Names row → ∀ cached ∈ snapshot.transactionsById, cached.id = row.id →
    target.resolve snapshot = some row.id

/-- The coroutine that resumes writes back only over what it has seen: the cache has not been written
since its refresh read, a refresh of one row does not clear a set flag, and a removal takes its row. -/
def PollingCache.WritesOverSeen (s : PollingCache P) : CacheOp P → Prop
  | .resume index =>
    match s.tasks[index]? with
    | some (.storeOne _ seen _) => seen = s.writes ∧ s.dirty = false
    | some (.storeAll seen _) => seen = s.writes
    | some (.call (.removePendingTransactionFromCache target)) =>
      ∀ snapshot, s.cache = some snapshot → target.Hits s.db snapshot
    | _ => True
  | _ => True

end Statements

section Reading

/-- A snapshot that holds the PENDING rows lists them as the database does. -/
lemma snapshot_lists {db : Db P} (hkeys : (db.trans.map Trans.id).Nodup)
    {snapshot : PendingTransactionCacheSnapshot}
    (hrows : ∀ row, row ∈ snapshot.transactionsById.rows ↔ row ∈ db.pendingRows) (limit offset : ℕ) :
    ((snapshot.transactionIdsByCreated.drop offset).take limit).filterMap snapshot.transactionsById.get? =
      (db.pendingTransactions.drop offset).take limit := by
  have hnodup : snapshot.transactionsById.rows.Nodup := List.Nodup.of_map _ snapshot.transactionsById.keys
  have hpending : db.pendingRows.Nodup := (List.Nodup.of_map _ hkeys).filter _
  have hperm : snapshot.transactionsById.rows.Perm db.pendingRows :=
    (List.perm_ext_iff_of_nodup hnodup hpending).mpr hrows
  have hsorted : snapshot.transactionsById.rows.insertionSort Trans.Older = db.pendingTransactions :=
    insertionSort_eq_of_perm hperm (pendingRows_antisymm hkeys)
  have hget : ∀ row ∈ (db.pendingTransactions.drop offset).take limit,
      snapshot.transactionsById.get? row.id = some row := by
    intro row hrow
    have hmem := mem_pendingTransactions.mp (List.mem_of_mem_drop (List.mem_of_mem_take hrow))
    exact Dict.get?_eq_some.mpr ⟨(hrows row).mpr hmem, rfl⟩
  rw [snapshot.sorted, hsorted, ← List.map_drop, ← List.map_take, List.filterMap_map]
  rw [List.filterMap_congr (g := some)]
  · exact List.filterMap_some
  · intro row hrow
    exact hget row hrow

lemma build_rows {db : Db P} (hkeys : (db.trans.map Trans.id).Nodup) (loadedAt : ℕ) (row : Trans) :
    row ∈ (buildPendingTransactionCacheSnapshot loadedAt db).transactionsById.rows ↔ row ∈ db.pendingRows := by
  have hnodup : (db.pendingTransactions.map Trans.id).Nodup := by
    have hperm := (List.perm_insertionSort Trans.Older db.pendingRows).map Trans.id
    exact hperm.nodup_iff.mpr (hkeys.sublist (List.filter_sublist.map Trans.id))
  have hlist : row ∈ (Dict.ofList db.pendingTransactions : Dict Trans.id) ↔ row ∈ db.pendingTransactions :=
    Dict.mem_ofList hnodup
  exact hlist.trans mem_pendingTransactions

end Reading

section Writing

/-- A removal that hits takes no PENDING row away. -/
lemma RemoveBy.Hits.keeps {target : RemoveBy} {db : Db P} {snapshot : PendingTransactionCacheSnapshot}
    (h : target.Hits db snapshot) {id : ℕ} (hsame : SameAt id snapshot.transactionsById.rows db.pendingRows) :
    SameAt id (target.removeFrom snapshot).transactionsById.rows db.pendingRows := by
  unfold RemoveBy.removeFrom
  cases hresolve : target.resolve snapshot with
  | none => exact hsame
  | some found =>
    intro row hid
    have hpop : row ∈ (snapshot.transactionsById.pop found).rows ↔ row ∈ snapshot.transactionsById ∧ row.id ≠ found :=
      Dict.mem_pop
    constructor
    · intro hmem
      exact (hsame row hid).mp (hpop.mp hmem).1
    · intro hmem
      obtain ⟨hrow, hpending⟩ := Db.mem_pendingRows.mp hmem
      refine hpop.mpr ⟨(hsame row hid).mpr hmem, ?_⟩
      intro heq
      rw [← heq] at hresolve
      exact h.1 row hrow hresolve hpending

/-- A removal that hits leaves no settled row behind. -/
lemma RemoveBy.Hits.removes {target : RemoveBy} {db : Db P} {snapshot : PendingTransactionCacheSnapshot}
    (h : target.Hits db snapshot) (hkeys : (db.trans.map Trans.id).Nodup) {row : Trans} (hrow : row ∈ db.trans)
    (hnames : target.Names row) (hstatus : row.status ≠ .pending) :
    SameAt row.id (target.removeFrom snapshot).transactionsById.rows db.pendingRows := by
  intro other hid
  constructor
  · intro hmem
    exfalso
    have hcached : other ∈ snapshot.transactionsById := by
      unfold RemoveBy.removeFrom at hmem
      cases hresolve : target.resolve snapshot with
      | none =>
        rw [hresolve] at hmem
        exact hmem
      | some found =>
        rw [hresolve] at hmem
        exact (Dict.mem_pop.mp hmem).1
    have hfound := h.2 row hrow hnames other hcached hid
    unfold RemoveBy.removeFrom at hmem
    rw [hfound] at hmem
    exact (Dict.mem_pop.mp hmem).2 hid
  · intro hmem
    obtain ⟨hother, hpending⟩ := Db.mem_pendingRows.mp hmem
    rw [eq_of_key_eq hkeys hother hrow hid] at hpending
    exact absurd hpending hstatus

/-- The rebuilt snapshot holds the fetched row as the table does, and the others as they were read. -/
lemma rebuildWithRow_rows {db : Db P} (hkeys : (db.trans.map Trans.id).Nodup) (transId : ℕ)
    (snapshot : PendingTransactionCacheSnapshot) :
    SameAt transId (rebuildWithRow snapshot transId (db.getTransaction transId)).transactionsById.rows
        db.pendingRows ∧
      ∀ id, id ≠ transId →
        SameAt id (rebuildWithRow snapshot transId (db.getTransaction transId)).transactionsById.rows
          snapshot.transactionsById.rows := by
  have hget : ∀ row, db.getTransaction transId = some row ↔ row ∈ db.trans ∧ row.id = transId := fun row =>
    find?_key_eq_some hkeys
  have hpop : ∀ row, row ∈ (snapshot.transactionsById.pop transId).rows ↔
      row ∈ snapshot.transactionsById ∧ row.id ≠ transId := fun row => Dict.mem_pop
  have hgone : (∀ row ∈ db.pendingRows, row.id ≠ transId) →
      SameAt transId (snapshot.transactionsById.pop transId).rows db.pendingRows := by
    intro hnone row hid
    constructor
    · intro hmem
      exact absurd hid ((hpop row).mp hmem).2
    · intro hmem
      exact absurd hid (hnone row hmem)
  have hothers : ∀ id, id ≠ transId →
      SameAt id (snapshot.transactionsById.pop transId).rows snapshot.transactionsById.rows := by
    intro id hne row hid
    rw [hpop row]
    constructor
    · exact And.left
    · intro hmem
      exact ⟨hmem, fun heq => hne (hid.symm.trans heq)⟩
  cases hrow : db.getTransaction transId with
  | none =>
    refine ⟨hgone ?_, hothers⟩
    intro row hmem heq
    have hsome := (hget row).mpr ⟨(Db.mem_pendingRows.mp hmem).1, heq⟩
    rw [hrow] at hsome
    cases hsome
  | some fetched =>
    obtain ⟨hmem, hid⟩ := (hget fetched).mp hrow
    by_cases hpending : fetched.status = .pending
    · have hset : ∀ row, row ∈ (snapshot.transactionsById.set fetched).rows ↔
          row = fetched ∨ row ∈ snapshot.transactionsById ∧ row.id ≠ fetched.id := fun row => Dict.mem_set
      simp only [rebuildWithRow, hpending, if_true]
      constructor
      · intro row heq
        have hiff := hset row
        constructor
        · intro hrow'
          rcases hiff.mp hrow' with rfl | ⟨-, hne⟩
          · exact Db.mem_pendingRows.mpr ⟨hmem, hpending⟩
          · exact absurd (heq.trans hid.symm) hne
        · intro hrow'
          have htable := (Db.mem_pendingRows.mp hrow').1
          exact hiff.mpr (Or.inl (eq_of_key_eq hkeys htable hmem (heq.trans hid.symm)))
      · intro id hne row heq
        have hiff := hset row
        have hother : row.id ≠ fetched.id := by
          rw [heq, hid]
          exact hne
        constructor
        · intro hrow'
          rcases hiff.mp hrow' with rfl | ⟨hkept, -⟩
          · exact absurd rfl hother
          · exact hkept
        · intro hrow'
          exact hiff.mpr (Or.inr ⟨hrow', hother⟩)
    · simp only [rebuildWithRow, hpending, if_false]
      refine ⟨hgone ?_, hothers⟩
      intro row hrow' heq
      obtain ⟨htable, hstatus⟩ := Db.mem_pendingRows.mp hrow'
      rw [eq_of_key_eq hkeys htable hmem (heq.trans hid.symm)] at hstatus
      exact hpending hstatus

end Writing

/-- When the coroutine is done with the row, the cache holds it as the table does. -/
def CacheTask.Covers (db : Db P) (id : ℕ) : CacheTask → Prop
  | .call (.notifyTransactionChanged none) | .call .refreshPendingTransactionCache | .fetchPending _ => True
  | .call (.notifyTransactionChanged (some transId)) | .call (.refreshCachedPendingTransaction transId)
  | .fetchOne transId _ _ => transId = id
  | .call (.removePendingTransactionFromCache target) =>
    ∃ row ∈ db.trans, row.id = id ∧ target.Names row ∧ row.status ≠ .pending
  | .storeOne transId _ snapshot => transId = id ∧ SameAt id snapshot.transactionsById.rows db.pendingRows
  | .storeAll _ snapshot => SameAt id snapshot.transactionsById.rows db.pendingRows

def CacheTask.seen : CacheTask → Option ℕ
  | .fetchOne _ seen _ | .storeOne _ seen _ | .storeAll seen _ => some seen
  | _ => none

/-- A commit that leaves the row alone leaves it covered. -/
lemma CacheTask.Covers.commit {db db' : Db P} {id : ℕ} (hsame : SameAt id db.trans db'.trans) {task : CacheTask}
    (h : task.Covers db id) : task.Covers db' id := by
  have hpending : SameAt id db.pendingRows db'.pendingRows := by
    intro row hid
    rw [Db.mem_pendingRows, Db.mem_pendingRows, hsame row hid]
  cases task with
  | call c =>
    cases c with
    | notifyTransactionChanged transId => cases transId <;> exact h
    | refreshCachedPendingTransaction transId => exact h
    | refreshPendingTransactionCache => trivial
    | removePendingTransactionFromCache target =>
      obtain ⟨row, hrow, hid, hnames, hstatus⟩ := h
      exact ⟨row, (hsame row hid).mp hrow, hid, hnames, hstatus⟩
  | fetchOne transId seen snapshot => exact h
  | storeOne transId seen snapshot => exact ⟨h.1, h.2.trans hpending⟩
  | fetchPending loadedAt => trivial
  | storeAll seen snapshot => exact h.trans hpending

/-- A row the call does not cover was not written. -/
lemma CacheCall.Matches.covers {c : CacheCall} {db db' : Db P} (h : c.Matches db.trans db'.trans) (id : ℕ) :
    (CacheTask.call c).Covers db' id ∨ SameAt id db.trans db'.trans := by
  cases c with
  | notifyTransactionChanged transId =>
    cases transId with
    | none => exact Or.inl trivial
    | some transId =>
      by_cases hid : id = transId
      · exact Or.inl hid.symm
      · exact Or.inr (h id hid)
  | refreshCachedPendingTransaction transId =>
    by_cases hid : id = transId
    · exact Or.inl hid.symm
    · exact Or.inr (h id hid)
  | refreshPendingTransactionCache => exact Or.inl trivial
  | removePendingTransactionFromCache target =>
    obtain ⟨row, hrow, hnames, hstatus, hother⟩ := h
    by_cases hid : id = row.id
    · exact Or.inl ⟨row, hrow, hid.symm, hnames, hstatus⟩
    · exact Or.inr (hother id hid)

namespace PollingCache

variable {s : PollingCache P}

def Covered (s : PollingCache P) (id : ℕ) : Prop := ∃ task ∈ s.tasks, task.Covers s.db id

def Current (s : PollingCache P) (id : ℕ) : Prop :=
  ∀ snapshot, s.cache = some snapshot → SameAt id snapshot.transactionsById.rows s.db.pendingRows

/-- Between its read and its write a refresh holds what the cache held when it read. -/
def InWindow (s : PollingCache P) : CacheTask → Prop
  | .fetchOne _ seen snapshot => seen = s.writes ∧ s.cache = some snapshot
  | .storeOne transId seen snapshot => seen = s.writes ∧ s.Covered transId ∧
    ∃ old, s.cache = some old ∧
      ∀ id, id ≠ transId → SameAt id snapshot.transactionsById.rows old.transactionsById.rows
  | .storeAll seen _ => seen = s.writes ∧ ∀ id, s.Covered id
  | _ => True

structure Tracked (s : PollingCache P) : Prop where
  keys : (s.db.trans.map Trans.id).Nodup
  rows : ∀ id, s.dirty = true ∨ s.Current id ∨ s.Covered id
  window : ∀ task ∈ s.tasks, s.InWindow task

/-- Some refresh still has to write back over a write it has not seen. -/
def Overtaken (s : PollingCache P) : Prop := ∃ task ∈ s.tasks, ∃ seen, task.seen = some seen ∧ seen < s.writes

lemma Tracked.initial {db : Db P} (hkeys : (db.trans.map Trans.id).Nodup) : (initial db).Tracked := by
  refine ⟨hkeys, fun id => Or.inl rfl, ?_⟩
  intro task htask
  exact absurd htask List.not_mem_nil

lemma Tracked.exact (h : s.Tracked) (hquiet : s.tasks = []) : s.Exact := by
  intro limit offset
  unfold getPendingTransactions
  have hrows : ∀ row, row ∈ s.ensurePendingTransactionCache.transactionsById.rows ↔ row ∈ s.db.pendingRows := by
    intro row
    have hfresh := build_rows h.keys s.db.now row
    unfold ensurePendingTransactionCache
    cases hcache : s.cache with
    | none => exact hfresh
    | some snapshot =>
      by_cases hdirty : s.dirty = true
      · simp only [hdirty, if_true]
        exact hfresh
      · simp only [hdirty]
        rcases h.rows row.id with hd | hcurrent | ⟨task, htask, -⟩
        · exact absurd hd hdirty
        · exact hcurrent snapshot hcache row rfl
        · rw [hquiet] at htask
          exact absurd htask List.not_mem_nil
  exact snapshot_lists h.keys hrows _ _

section Commit

lemma Tracked.commit {c : CacheCall} {db' : Db P} (h : s.Tracked) (hkeys : (db'.trans.map Trans.id).Nodup)
    (hmatches : c.Matches s.db.trans db'.trans) : ({ s with db := db' }.spawn (.call c)).Tracked := by
  have hcovered : ∀ id, s.Covered id → ({ s with db := db' }.spawn (.call c)).Covered id := by
    rintro id ⟨task, htask, hcovers⟩
    rcases hmatches.covers id with hnew | hsame
    · exact ⟨_, List.mem_append_right _ (List.mem_singleton_self _), hnew⟩
    · exact ⟨task, List.mem_append_left _ htask, hcovers.commit hsame⟩
  refine ⟨hkeys, ?_, ?_⟩
  · intro id
    rcases hmatches.covers id with hnew | hsame
    · exact Or.inr (Or.inr ⟨_, List.mem_append_right _ (List.mem_singleton_self _), hnew⟩)
    · rcases h.rows id with hdirty | hcurrent | hcov
      · exact Or.inl hdirty
      · right; left
        intro snapshot hcache row hid
        have hold := hcurrent snapshot hcache row hid
        rw [Db.mem_pendingRows, hsame row hid] at hold
        exact hold.trans Db.mem_pendingRows.symm
      · exact Or.inr (Or.inr (hcovered id hcov))
  · intro task htask
    rcases List.mem_append.mp htask with hold | hnew
    · have hw := h.window task hold
      cases task with
      | call c => trivial
      | fetchOne transId seen snapshot => exact hw
      | storeOne transId seen snapshot => exact ⟨hw.1, hcovered transId hw.2.1, hw.2.2⟩
      | fetchPending loadedAt => trivial
      | storeAll seen snapshot => exact ⟨hw.1, fun id => hcovered id (hw.2 id)⟩
    · rw [List.mem_singleton.mp hnew]
      trivial

end Commit

section Resume

variable {index : ℕ} {task : CacheTask}

lemma mem_eraseIdx_or_eq {l : List CacheTask} (hat : l[index]? = some task) {other : CacheTask} (h : other ∈ l) :
    other = task ∨ other ∈ l.eraseIdx index := by
  obtain ⟨hlt, rfl⟩ := List.getElem?_eq_some_iff.mp hat
  have hperm := List.getElem_cons_eraseIdx_perm hlt
  exact List.mem_cons.mp (hperm.mem_iff.mpr h)

/-- A coroutine that goes on without writing still covers what it covered. -/
lemma Tracked.move (h : s.Tracked) (hat : s.tasks[index]? = some task) {next : CacheTask}
    (hcovers : ∀ id, task.Covers s.db id → next.Covers s.db id)
    (hwindow : (∀ id, s.Covered id → ({ s with tasks := s.tasks.eraseIdx index }.spawn next).Covered id) →
      ({ s with tasks := s.tasks.eraseIdx index }.spawn next).InWindow next) :
    ({ s with tasks := s.tasks.eraseIdx index }.spawn next).Tracked := by
  have hcovered : ∀ id, s.Covered id → ({ s with tasks := s.tasks.eraseIdx index }.spawn next).Covered id := by
    rintro id ⟨other, hother, hcov⟩
    rcases mem_eraseIdx_or_eq hat hother with rfl | hkept
    · exact ⟨next, List.mem_append_right _ (List.mem_singleton_self _), hcovers id hcov⟩
    · exact ⟨other, List.mem_append_left _ hkept, hcov⟩
  refine ⟨h.keys, ?_, ?_⟩
  · intro id
    rcases h.rows id with hdirty | hcurrent | hcov
    · exact Or.inl hdirty
    · exact Or.inr (Or.inl hcurrent)
    · exact Or.inr (Or.inr (hcovered id hcov))
  · intro other hother
    rcases List.mem_append.mp hother with hold | hnew
    · have hw := h.window other (List.mem_of_mem_eraseIdx hold)
      cases other with
      | call c => trivial
      | fetchOne transId seen snapshot => exact hw
      | storeOne transId seen snapshot => exact ⟨hw.1, hcovered transId hw.2.1, hw.2.2⟩
      | fetchPending loadedAt => trivial
      | storeAll seen snapshot => exact ⟨hw.1, fun id => hcovered id (hw.2 id)⟩
    · rw [List.mem_singleton.mp hnew]
      exact hwindow hcovered

/-- A write overtakes every refresh that has read and not yet written. -/
lemma Tracked.wrote (h : s.Tracked) {tasks : List CacheTask} (hsub : tasks ⊆ s.tasks)
    {cache : Option PendingTransactionCacheSnapshot} {dirty : Bool}
    (hrows : ∀ id, dirty = true ∨ ({ s with tasks := tasks }.write cache dirty).Current id ∨
      ∃ task ∈ tasks, task.Covers s.db id) :
    ({ s with tasks := tasks }.write cache dirty).Tracked ∨
      ({ s with tasks := tasks }.write cache dirty).Overtaken := by
  by_cases hopen : ∃ task ∈ tasks, task.seen ≠ none
  · right
    obtain ⟨task, htask, hseen⟩ := hopen
    have hw := h.window task (hsub htask)
    refine ⟨task, htask, s.writes, ?_, Nat.lt_succ_self _⟩
    cases task with
    | call c => exact absurd rfl hseen
    | fetchOne transId seen snapshot => exact congrArg some hw.1
    | storeOne transId seen snapshot => exact congrArg some hw.1
    | fetchPending loadedAt => exact absurd rfl hseen
    | storeAll seen snapshot => exact congrArg some hw.1
  · left
    refine ⟨h.keys, hrows, ?_⟩
    intro task htask
    have hseen : task.seen = none := by
      by_contra hne
      exact hopen ⟨task, htask, hne⟩
    cases task with
    | call c => trivial
    | fetchOne transId seen snapshot => cases hseen
    | storeOne transId seen snapshot => cases hseen
    | fetchPending loadedAt => trivial
    | storeAll seen snapshot => cases hseen

/-- What a finished task covered is in the cache now, or another coroutine covers it. -/
lemma Covered.left {id : ℕ} (h : s.Covered id) (hat : s.tasks[index]? = some task) :
    task.Covers s.db id ∨ ∃ other ∈ s.tasks.eraseIdx index, other.Covers s.db id := by
  obtain ⟨other, hother, hcov⟩ := h
  rcases mem_eraseIdx_or_eq hat hother with rfl | hkept
  · exact Or.inl hcov
  · exact Or.inr ⟨other, hkept, hcov⟩

lemma Tracked.storeAll {seen : ℕ} {snapshot : PendingTransactionCacheSnapshot} (h : s.Tracked)
    (hat : s.tasks[index]? = some (.storeAll seen snapshot)) :
    ({ s with tasks := s.tasks.eraseIdx index }.write (some snapshot) false).Tracked ∨
      ({ s with tasks := s.tasks.eraseIdx index }.write (some snapshot) false).Overtaken := by
  have hw := h.window _ (List.mem_of_getElem? hat)
  apply h.wrote List.eraseIdx_subset
  intro id
  rcases (hw.2 id).left hat with hsame | hother
  · right; left
    intro _ hcache
    cases hcache
    exact hsame
  · exact Or.inr (Or.inr hother)

lemma Tracked.storeOne {transId seen : ℕ} {snapshot : PendingTransactionCacheSnapshot} (h : s.Tracked)
    (hat : s.tasks[index]? = some (.storeOne transId seen snapshot)) (hclean : s.dirty = false) :
    ({ s with tasks := s.tasks.eraseIdx index }.write (some snapshot) false).Tracked ∨
      ({ s with tasks := s.tasks.eraseIdx index }.write (some snapshot) false).Overtaken := by
  obtain ⟨-, hcovered, old, hold, hkept⟩ := h.window _ (List.mem_of_getElem? hat)
  apply h.wrote List.eraseIdx_subset
  intro id
  right
  have hfound : ∀ {id}, s.Covered id → SameAt id snapshot.transactionsById.rows s.db.pendingRows ∨
      ∃ other ∈ s.tasks.eraseIdx index, other.Covers s.db id := fun hcov =>
    (hcov.left hat).imp_left And.right
  have hrow : SameAt id snapshot.transactionsById.rows s.db.pendingRows ∨
      ∃ other ∈ s.tasks.eraseIdx index, other.Covers s.db id := by
    by_cases hid : id = transId
    · rw [hid]
      exact hfound hcovered
    · rcases h.rows id with hdirty | hcurrent | hcov
      · rw [hclean] at hdirty
        cases hdirty
      · exact Or.inl ((hkept id hid).trans (hcurrent old hold))
      · exact hfound hcov
  rcases hrow with hsame | hother
  · left
    intro _ hcache
    cases hcache
    exact hsame
  · exact Or.inr hother

lemma Tracked.remove {target : RemoveBy} (h : s.Tracked)
    (hat : s.tasks[index]? = some (.call (.removePendingTransactionFromCache target)))
    (hhits : ∀ snapshot, s.cache = some snapshot → target.Hits s.db snapshot) :
    ({ s with tasks := s.tasks.eraseIdx index }.write (s.cache.map target.removeFrom) s.dirty).Tracked ∨
      ({ s with tasks := s.tasks.eraseIdx index }.write (s.cache.map target.removeFrom) s.dirty).Overtaken := by
  apply h.wrote List.eraseIdx_subset
  intro id
  rcases h.rows id with hdirty | hcurrent | hcov
  · exact Or.inl hdirty
  · right; left
    intro _ hcache
    obtain ⟨snapshot, hsome, rfl⟩ := Option.map_eq_some_iff.mp hcache
    exact (hhits snapshot hsome).keeps (hcurrent snapshot hsome)
  · right
    rcases hcov.left hat with ⟨row, hrow, rfl, hnames, hstatus⟩ | hother
    · left
      intro _ hcache
      obtain ⟨snapshot, hsome, rfl⟩ := Option.map_eq_some_iff.mp hcache
      exact (hhits snapshot hsome).removes h.keys hrow hnames hstatus
    · exact Or.inr hother

/-- One coroutine runs to its next `await`. -/
lemma Tracked.resume (h : s.Tracked) (hat : s.tasks[index]? = some task)
    (hseen : s.WritesOverSeen (.resume index)) :
    (resume { s with tasks := s.tasks.eraseIdx index } task).Tracked ∨
      (resume { s with tasks := s.tasks.eraseIdx index } task).Overtaken := by
  unfold WritesOverSeen at hseen
  simp only [hat] at hseen
  cases task with
  | call c =>
    cases c with
    | notifyTransactionChanged transId =>
      cases transId with
      | none => exact h.wrote List.eraseIdx_subset fun _ => Or.inl rfl
      | some transId => exact Or.inl (h.move hat (fun _ hcov => hcov) fun _ => trivial)
    | refreshCachedPendingTransaction transId =>
      left
      cases hcache : s.cache with
      | none =>
        have hmove : ({ s with tasks := s.tasks.eraseIdx index }.spawn
            (.call .refreshPendingTransactionCache)).Tracked := h.move hat (fun _ _ => trivial) fun _ => trivial
        simpa only [PollingCache.resume, hcache] using hmove
      | some snapshot =>
        have hmove : ({ s with tasks := s.tasks.eraseIdx index }.spawn
            (.fetchOne transId s.writes snapshot)).Tracked := h.move hat (fun _ hcov => hcov) fun _ => ⟨rfl, hcache⟩
        simpa only [PollingCache.resume, hcache] using hmove
    | refreshPendingTransactionCache => exact Or.inl (h.move hat (fun _ _ => trivial) fun _ => trivial)
    | removePendingTransactionFromCache target => exact h.remove hat hseen
  | fetchOne transId seen snapshot =>
    left
    have hw := h.window _ (List.mem_of_getElem? hat)
    obtain ⟨hrow, hothers⟩ := rebuildWithRow_rows h.keys transId snapshot
    apply h.move hat
    · rintro id rfl
      exact ⟨rfl, hrow⟩
    · intro hcovered
      have hcov : s.Covered transId := ⟨_, List.mem_of_getElem? hat, rfl⟩
      exact ⟨hw.1, hcovered transId hcov, snapshot, hw.2, hothers⟩
  | storeOne transId seen snapshot => exact h.storeOne hat hseen.2
  | fetchPending loadedAt =>
    left
    have hrows : ∀ id, SameAt id
        (buildPendingTransactionCacheSnapshot loadedAt s.db).transactionsById.rows s.db.pendingRows :=
      fun id row _ => build_rows h.keys loadedAt row
    apply h.move hat
    · exact fun id _ => hrows id
    · intro hcovered
      exact ⟨rfl, fun id => hcovered id ⟨_, List.mem_of_getElem? hat, trivial⟩⟩
  | storeAll seen snapshot => exact h.storeAll hat

lemma resume_frame (s : PollingCache P) (task : CacheTask) :
    s.tasks ⊆ (s.resume task).tasks ∧ s.writes ≤ (s.resume task).writes := by
  have hspawn : ∀ next, s.tasks ⊆ (s.spawn next).tasks ∧ s.writes ≤ (s.spawn next).writes := fun next =>
    ⟨List.subset_append_left _ _, le_refl _⟩
  have hwrite : ∀ cache dirty, s.tasks ⊆ (s.write cache dirty).tasks ∧ s.writes ≤ (s.write cache dirty).writes :=
    fun cache dirty => ⟨List.Subset.refl _, Nat.le_succ _⟩
  cases task with
  | call c =>
    cases c with
    | notifyTransactionChanged transId =>
      cases transId with
      | none => exact hwrite _ _
      | some transId => exact hspawn _
    | refreshCachedPendingTransaction transId =>
      unfold PollingCache.resume
      cases s.cache with
      | none => exact hspawn _
      | some snapshot => exact hspawn _
    | refreshPendingTransactionCache => exact hspawn _
    | removePendingTransactionFromCache target => exact hwrite _ _
  | fetchOne transId seen snapshot => exact hspawn _
  | storeOne transId seen snapshot => exact hwrite _ _
  | fetchPending loadedAt => exact hspawn _
  | storeAll seen snapshot => exact hwrite _ _

/-- A refresh that was overtaken does not finish as long as nothing is written unseen. -/
lemma Overtaken.resume (h : s.Overtaken) (hat : s.tasks[index]? = some task)
    (hseen : s.WritesOverSeen (.resume index)) :
    (resume { s with tasks := s.tasks.eraseIdx index } task).Overtaken := by
  obtain ⟨late, hlate, seen, hread, hlt⟩ := h
  rcases mem_eraseIdx_or_eq hat hlate with rfl | hkept
  · unfold WritesOverSeen at hseen
    simp only [hat] at hseen
    cases late with
    | call c => cases hread
    | fetchOne transId seen' snapshot => exact ⟨_, List.mem_append_right _ (List.mem_singleton_self _), seen, hread, hlt⟩
    | storeOne transId seen' snapshot =>
      cases hread
      have := hseen.1
      omega
    | fetchPending loadedAt => cases hread
    | storeAll seen' snapshot =>
      cases hread
      have hsame : seen = s.writes := hseen
      omega
  · obtain ⟨hsub, hle⟩ := resume_frame { s with tasks := s.tasks.eraseIdx index } task
    exact ⟨late, hsub hkept, seen, hread, lt_of_lt_of_le hlt hle⟩

end Resume

section Runs

lemma Overtaken.mono {s' : PollingCache P} (h : s.Overtaken) (hsub : s.tasks ⊆ s'.tasks)
    (hle : s.writes ≤ s'.writes) : s'.Overtaken := by
  obtain ⟨late, hlate, seen, hread, hlt⟩ := h
  exact ⟨late, hsub hlate, seen, hread, lt_of_lt_of_le hlt hle⟩

lemma Tracked.start {c : CacheCall} (h : s.Tracked) (hmatches : c.Matches s.db.trans s.db.trans) :
    (s.spawn (.call c)).Tracked := h.commit h.keys hmatches

/-- What one operation keeps. -/
lemma step_tracked (s : PollingCache P) (op : CacheOp P) (hop : s.Matching op ∧ s.WritesOverSeen op)
    (h : s.Tracked ∨ s.Overtaken) : (s.step op).Tracked ∨ (s.step op).Overtaken := by
  obtain ⟨hmatching, hseen⟩ := hop
  cases op with
  | commit db c =>
    rcases h with h | h
    · exact Or.inl (h.commit hmatching.1 hmatching.2)
    · exact Or.inr (h.mono (List.subset_append_left _ _) (le_refl _))
  | start c =>
    rcases h with h | h
    · exact Or.inl (h.start hmatching)
    · exact Or.inr (h.mono (List.subset_append_left _ _) (le_refl _))
  | getPendingTransactions =>
    by_cases hneeds : s.NeedsRefresh
    · simp only [step, hneeds, if_true]
      rcases h with h | h
      · exact Or.inl (h.start trivial)
      · exact Or.inr (h.mono (List.subset_append_left _ _) (le_refl _))
    · simp only [step, hneeds, if_false]
      exact h
  | forcePendingTransactionCacheClear =>
    rcases h with h | h
    · exact h.wrote (List.Subset.refl _) fun _ => Or.inl rfl
    · exact Or.inr (h.mono (List.Subset.refl _) (Nat.le_succ _))
  | resume index =>
    cases hat : s.tasks[index]? with
    | none =>
      simp only [step, hat]
      exact h
    | some task =>
      simp only [step, hat]
      rcases h with h | h
      · exact h.resume hat hseen
      · exact Or.inr (h.resume hat hseen)

/-- The batch of a pass is then the one `check_pending_transactions` would read from the table. -/
lemma Exact.batch (h : s.Exact) (limit : ℕ) :
    s.getPendingTransactions limit 0 = s.db.getPendingTransactions limit := h limit 0

/-- As long as every coroutine writes back only over what it has seen, the polled list is exact whenever
no coroutine is under way. -/
theorem polling_list_exact (db : Db P) (hkeys : (db.trans.map Trans.id).Nodup) (ops : List (CacheOp P))
    (hrun : Admissible step (fun s op => s.Matching op ∧ s.WritesOverSeen op) (initial db) ops)
    (hquiet : (run step (initial db) ops).tasks = []) : (run step (initial db) ops).Exact := by
  have hkept : (run step (initial db) ops).Tracked ∨ (run step (initial db) ops).Overtaken :=
    @run_invariant _ _ step (fun s op => s.Matching op ∧ s.WritesOverSeen op) (fun s => s.Tracked ∨ s.Overtaken)
      step_tracked _ _ hrun (Or.inl (.initial hkeys))
  rcases hkept with htracked | ⟨late, hlate, -⟩
  · exact htracked.exact hquiet
  · rw [hquiet] at hlate
    exact absurd hlate List.not_mem_nil

end Runs

section TwoDeposits

/-- The deposit rows of two Spots, one a second after the other. -/
def depositRow (id : ℕ) : Trans where
  id := id
  userId := id
  spotId := some id
  claimId := none
  type := .fillSpot
  amount := 100000
  fromAddress := "NQ01"
  toAddress := "NQ02"
  txHash := if id = 1 then "a1" else "b2"
  status := .pending
  createdAt := 100 + id

def depositTable (rows : List Trans) : Db Unit := { (Db.empty : Db Unit) with trans := rows, transSeq := 2 }

/-- A loaded cache, and then each deposit with its notification: side by side, or one after the other. -/
def loadOps : List (CacheOp Unit) :=
  [.start .refreshPendingTransactionCache, .resume 0, .resume 0, .resume 0]

def depositOp (rows : List Trans) (transId : ℕ) : CacheOp Unit :=
  .commit (depositTable rows) (.notifyTransactionChanged (some transId))

def sideBySide : List (CacheOp Unit) :=
  loadOps ++ [depositOp [depositRow 1] 1, depositOp [depositRow 1, depositRow 2] 2] ++
    List.replicate 8 (.resume 0)

def oneAfterTheOther : List (CacheOp Unit) :=
  loadOps ++ [depositOp [depositRow 1] 1] ++ List.replicate 4 (.resume 0) ++
    [depositOp [depositRow 1, depositRow 2] 2] ++ List.replicate 4 (.resume 0)

lemma depositRow_sameAt (rows : List Trans) (transId id : ℕ) (h : id ≠ transId) :
    SameAt id rows (rows ++ [depositRow transId]) := by
  intro row hid
  rw [List.mem_append, List.mem_singleton]
  constructor
  · exact Or.inl
  · rintro (hrow | rfl)
    · exact hrow
    · exact absurd hid.symm h

/-- Two deposits whose notifications overlap leave the first one out of the polled list. -/
theorem overlapping_refreshes_lose_a_row :
    ¬ ∀ (db : Db Unit) (ops : List (CacheOp Unit)), (db.trans.map Trans.id).Nodup →
      Admissible step Matching (initial db) ops → (run step (initial db) ops).tasks = [] →
      (run step (initial db) ops).Exact := by
  intro hall
  have hkeys : ((depositTable []).trans.map Trans.id).Nodup := List.nodup_nil
  have hrun : Admissible step Matching (initial (depositTable [])) sideBySide := by
    refine ⟨trivial, trivial, trivial, trivial, ⟨by decide, fun id h => depositRow_sameAt [] 1 id h⟩,
      ⟨by decide, fun id h => depositRow_sameAt [depositRow 1] 2 id h⟩, ?_⟩
    exact ⟨trivial, trivial, trivial, trivial, trivial, trivial, trivial, trivial, trivial⟩
  have hexact := hall _ _ hkeys hrun rfl 100 0
  have hlost : (run step (initial (depositTable [])) sideBySide).getPendingTransactions 100 0 = [depositRow 2] := by
    decide +kernel
  rw [hlost] at hexact
  revert hexact
  decide +kernel

theorem polling_list_exact_one_after_the_other :
    (run step (initial (depositTable [])) oneAfterTheOther).Exact := by
  have hkeys : ((depositTable []).trans.map Trans.id).Nodup := List.nodup_nil
  refine polling_list_exact (depositTable []) hkeys oneAfterTheOther ?_ rfl
  refine ⟨⟨trivial, trivial⟩, ⟨trivial, trivial⟩, ⟨trivial, trivial⟩, ⟨trivial, rfl⟩,
    ⟨⟨by decide, fun id h => depositRow_sameAt [] 1 id h⟩, trivial⟩, ⟨trivial, trivial⟩, ⟨trivial, trivial⟩,
    ⟨trivial, trivial⟩, ⟨trivial, rfl, rfl⟩,
    ⟨⟨by decide, fun id h => depositRow_sameAt [depositRow 1] 2 id h⟩, trivial⟩, ⟨trivial, trivial⟩,
    ⟨trivial, trivial⟩, ⟨trivial, trivial⟩, ⟨trivial, rfl, rfl⟩, trivial⟩

end TwoDeposits

end PollingCache

end NimHunt
