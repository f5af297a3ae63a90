import NimHunt.Lib.Runs
import NimHunt.PendingDepositStore
import Mathlib.Data.List.Nodup

/-!
# No paid deposit is forgotten

Whatever writes of the session storage go through, a saved record stays in the queue or in the legacy
slot until it is removed, its submission has succeeded, or its hash is saved again for the same Spot.
-/

namespace NimHunt.PendingDeposits

open Lib

variable {js : NumberText} {r q : PendingDeposit} {records : List PendingDeposit}

section Normalising

lemma trim_eq_self {text : Text} (h : ∀ c ∈ text, isTrimmed c = false) : trim text = text := by
  have hstart : text.dropWhile isTrimmed = text := by
    apply List.dropWhile_eq_self_iff.mpr
    intro hpos
    rw [h _ (List.getElem_mem hpos)]
    exact Bool.false_ne_true
  unfold trim
  rw [hstart]
  apply List.rdropWhile_eq_self_iff.mpr
  intro hne
  rw [h _ (List.getLast_mem hne)]
  exact Bool.false_ne_true

lemma hexDigits_plain : ∀ c ∈ hexDigits, isTrimmed c = false ∧ c.toLower = c := by decide

lemma safePositive_natCast {n : ℕ} (h : 0 < n ∧ n ≤ maxSafeInteger) : safePositive (.finite n) = some ⟨n, h⟩ := by
  unfold safePositive
  dsimp only
  rw [dif_pos]
  · simp
  · simpa using h

lemma createdTime_orElse {value : ℚ} (h : 0 ≤ value) :
    createdTime (((JsValue.number (.finite value)).orElse (.number (.finite 0))).toNumber js) = ⟨value, h⟩ := by
  by_cases hzero : value = 0
  · subst hzero
    rfl
  · have htruthy : (JsValue.number (.finite value)).truthy = true := by simp [JsValue.truthy, hzero]
    unfold JsValue.orElse
    rw [if_pos htruthy]
    exact dif_pos h

lemma toText_orElse {text : Text} (h : text ≠ []) : ((JsValue.string text).orElse (.string [])).toText js = text := by
  have htruthy : (JsValue.string text).truthy = true := by simp [JsValue.truthy, h]
  unfold JsValue.orElse
  rw [if_pos htruthy]
  rfl

/-- A record survives the storage and the way back. -/
lemma normalise_toValue (r : PendingDeposit) : normalisePendingDepositRecord js r.toValue = some r := by
  have hhash : r.txHash ≠ [] := by
    intro hnil
    have hlength := r.txHash_hex.1
    rw [hnil] at hlength
    contradiction
  have htrim : trim r.txHash = r.txHash :=
    trim_eq_self fun c hc => (hexDigits_plain c (r.txHash_hex.2 c hc)).1
  have hlower : r.txHash.map Char.toLower = r.txHash := by
    conv_rhs => rw [← List.map_id r.txHash]
    exact List.map_congr_left fun c hc => (hexDigits_plain c (r.txHash_hex.2 c hc)).2
  unfold normalisePendingDepositRecord PendingDeposit.toValue JsValue.toRecord
  simp only [List.lookup_cons, String.reduceBEq, Option.getD_some]
  rw [JsValue.toNumber, JsValue.toNumber, safePositive_natCast r.spotId_safe, safePositive_natCast r.amount_safe]
  simp only [toText_orElse hhash, toText_orElse r.fromAddress_ne, createdTime_orElse r.createdAt_nonneg, htrim, hlower,
    r.fromAddress_trimmed]
  rw [dif_pos ⟨r.txHash_hex, r.fromAddress_ne⟩]

lemma deduplicateFrom_spec (js : NumberText) (values : List JsValue) (seenHashes : List Text) :
    ((deduplicateFrom js seenHashes values).map PendingDeposit.txHash).Nodup ∧
      ∀ r ∈ deduplicateFrom js seenHashes values, r.txHash ∉ seenHashes := by
  induction values generalizing seenHashes with
  | nil => exact ⟨.nil, nofun⟩
  | cons value values ih =>
    unfold deduplicateFrom
    cases normalisePendingDepositRecord js value with
    | none => exact ih seenHashes
    | some r =>
      dsimp only
      split_ifs with hseen
      · exact ih seenHashes
      · obtain ⟨hnodup, hfresh⟩ := ih (r.txHash :: seenHashes)
        refine ⟨?_, ?_⟩
        · rw [List.map_cons]
          apply List.nodup_cons.mpr
          refine ⟨?_, hnodup⟩
          intro hmem
          obtain ⟨q, hq, hhash⟩ := List.mem_map.mp hmem
          exact hfresh q hq (hhash ▸ List.mem_cons_self)
        · intro q hq
          cases List.mem_cons.mp hq with
          | inl hhere => exact hhere ▸ hseen
          | inr hlater => exact fun hmem => hfresh q hlater (List.mem_cons_of_mem _ hmem)

/-- Records with distinct hashes come back as they are. -/
lemma deduplicateFrom_toValue (js : NumberText) {seenHashes : List Text}
    (hnodup : (records.map PendingDeposit.txHash).Nodup) (hfresh : ∀ r ∈ records, r.txHash ∉ seenHashes) :
    deduplicateFrom js seenHashes (records.map PendingDeposit.toValue) = records := by
  induction records generalizing seenHashes with
  | nil => rfl
  | cons r records ih =>
    obtain ⟨hnew, hrest⟩ := List.nodup_cons.mp hnodup
    have hfresh' : ∀ q ∈ records, q.txHash ∉ r.txHash :: seenHashes := by
      intro q hq hmem
      cases List.mem_cons.mp hmem with
      | inl hsame => exact hnew (hsame ▸ List.mem_map_of_mem hq)
      | inr hseen => exact hfresh q (List.mem_cons_of_mem _ hq) hseen
    rw [List.map_cons, deduplicateFrom, normalise_toValue]
    dsimp only
    rw [if_neg (hfresh r List.mem_cons_self), ih hrest hfresh']

end Normalising

section Held

variable {slots slots' : Slots}

/-- The queue, as the storage holds it. -/
def queueRecords (js : NumberText) (slots : Slots) : List PendingDeposit := deduplicateRecords js (parseJson slots.queue)

def legacyRecord (js : NumberText) (slots : Slots) : Option PendingDeposit :=
  normalisePendingDepositRecord js (parseJson slots.legacy)

/-- The queue and the legacy record that it does not have yet. -/
def held (js : NumberText) (slots : Slots) : List PendingDeposit :=
  queueRecords js slots ++
    (legacyRecord js slots).toList.filter fun r => (queueRecords js slots).all fun record => record.txHash ≠ r.txHash

/-- The slots after the queue is written. -/
def Slots.withQueue (slots : Slots) (records : List PendingDeposit) : Slots :=
  { slots with queue := if records = [] then none else some (.json (.array (records.map PendingDeposit.toValue))) }

lemma queueRecords_nodup (js : NumberText) (slots : Slots) :
    ((queueRecords js slots).map PendingDeposit.txHash).Nodup := by
  unfold queueRecords deduplicateRecords
  split
  · exact (deduplicateFrom_spec js _ []).1
  · exact .nil

lemma held_nodup (js : NumberText) (slots : Slots) : ((held js slots).map PendingDeposit.txHash).Nodup := by
  unfold held
  cases legacyRecord js slots with
  | none => simpa using queueRecords_nodup js slots
  | some legacy =>
    rw [Option.toList_some, List.filter_singleton]
    cases hnew : (queueRecords js slots).all fun record => record.txHash ≠ legacy.txHash with
    | true =>
      rw [cond_true, List.map_append]
      apply List.nodup_append.mpr
      refine ⟨queueRecords_nodup js slots, List.nodup_singleton _, ?_⟩
      intro hash hmem last hlast hsame
      obtain ⟨record, hrecord, hhash⟩ := List.mem_map.mp hmem
      have hdiffers := List.all_eq_true.mp hnew record hrecord
      exact of_decide_eq_true hdiffers (hhash.trans (hsame.trans (List.mem_singleton.mp hlast)))
    | false =>
      rw [cond_false, List.append_nil]
      exact queueRecords_nodup js slots

lemma queueRecords_withQueue (js : NumberText) (slots : Slots) (h : (records.map PendingDeposit.txHash).Nodup) :
    queueRecords js (slots.withQueue records) = records := by
  unfold queueRecords Slots.withQueue
  dsimp only
  split_ifs with hempty
  · exact hempty.symm
  · exact deduplicateFrom_toValue js h fun _ _ => List.not_mem_nil

lemma mem_held_of_queue (h : r ∈ queueRecords js slots) : r ∈ held js slots := List.mem_append_left _ h

lemma mem_held_withQueue (slots : Slots) (h : (records.map PendingDeposit.txHash).Nodup) (hr : r ∈ records) :
    r ∈ held js (slots.withQueue records) := by
  apply mem_held_of_queue
  rw [queueRecords_withQueue js slots h]
  exact hr

/-- A legacy record is merged, or its hash is in the queue already. -/
lemma exists_held_of_legacy (h : legacyRecord js slots = some r) : ∃ q ∈ held js slots, q.txHash = r.txHash := by
  by_cases hnew : ((queueRecords js slots).all fun record => record.txHash ≠ r.txHash) = true
  · refine ⟨r, ?_, rfl⟩
    unfold held
    rw [h]
    apply List.mem_append_right
    exact List.mem_filter.mpr ⟨List.mem_singleton_self r, hnew⟩
  · rw [List.all_eq_true] at hnew
    push Not at hnew
    obtain ⟨q, hq, hhash⟩ := hnew
    exact ⟨q, mem_held_of_queue hq, by simpa using hhash⟩

end Held

section Operations

variable {storage : Storage} {value : JsValue} {writes : LoadWrites} {succeeds : Bool}

/-- A legacy record leaves its slot only for a queue that has its hash. -/
def Kept (js : NumberText) (slots slots' : Slots) : Prop :=
  ∀ r, legacyRecord js slots = some r →
    legacyRecord js slots' = some r ∨ ∃ q ∈ queueRecords js slots', q.txHash = r.txHash

/-- Write after write, no legacy record was dropped too early. -/
def Storage.Careful (js : NumberText) (storage : Storage) : Prop :=
  (storage.slots :: storage.past).IsChain fun newer older => Kept js older newer

lemma Storage.Careful.write (h : storage.Careful js) (succeeds : Bool) {change : Slots → Slots}
    (hchange : Kept js storage.slots (change storage.slots)) : (storage.write succeeds change).Careful js := by
  cases succeeds with
  | false => exact h
  | true => exact List.isChain_cons_cons.mpr ⟨hchange, h⟩

lemma kept_of_legacy {slots slots' : Slots} (h : slots'.legacy = slots.legacy) : Kept js slots slots' := by
  intro r hr
  left
  unfold legacyRecord
  rw [h]
  exact hr

lemma Storage.Careful.persist (h : storage.Careful js) (succeeds : Bool) (records : List PendingDeposit) :
    (storage.persist succeeds records).2.Careful js :=
  h.write succeeds (kept_of_legacy rfl)

/-- The storage after the obsolete slot was cleared. -/
def Storage.cleared (storage : Storage) (writes : LoadWrites) : Storage :=
  storage.write writes.obsolete fun slots => { slots with obsolete := none }

lemma held_cleared (js : NumberText) (storage : Storage) (writes : LoadWrites) :
    held js (storage.cleared writes).slots = held js storage.slots := by
  unfold Storage.cleared Storage.write
  split_ifs
  · rfl
  · rfl

lemma load_fst (js : NumberText) (writes : LoadWrites) (storage : Storage) :
    (load js writes storage).1 = held js storage.slots := by
  rw [← held_cleared js storage writes]
  unfold load held legacyRecord queueRecords Storage.cleared
  dsimp only
  split_ifs
  · rfl
  · rfl
  · rfl

/-- `load` writes nothing but the whole queue, and only after it the empty legacy slot. -/
lemma load_snd (js : NumberText) (writes : LoadWrites) (storage : Storage) :
    (load js writes storage).2 = storage.cleared writes ∨
      (load js writes storage).2 = ((storage.cleared writes).persist true (held js storage.slots)).2.write writes.legacy
        fun slots => { slots with legacy := none } := by
  rw [← held_cleared js storage writes]
  unfold load held legacyRecord queueRecords Storage.cleared
  dsimp only
  split_ifs with hneeded hpersisted
  · right
    have hqueue : writes.queue = true := hpersisted
    rw [hqueue]
  · left
    have hqueue : writes.queue = false := Bool.eq_false_of_not_eq_true hpersisted
    rw [hqueue]
    rfl
  · left
    rfl

/-- Nothing that `load` returns is lost by its own writes. -/
lemma mem_held_load (h : r ∈ held js storage.slots) : r ∈ held js (load js writes storage).2.slots := by
  cases load_snd js writes storage with
  | inl hcleared =>
    rw [hcleared, held_cleared]
    exact h
  | inr hpersisted =>
    have hqueue := queueRecords_withQueue js (storage.cleared writes).slots (held_nodup js storage.slots)
    apply mem_held_of_queue
    rw [hpersisted]
    unfold Storage.write
    split_ifs
    · exact hqueue.symm ▸ h
    · exact hqueue.symm ▸ h

lemma Storage.Careful.load (h : storage.Careful js) (writes : LoadWrites) : (load js writes storage).2.Careful js := by
  have hcleared : (storage.cleared writes).Careful js := h.write _ (kept_of_legacy rfl)
  cases load_snd js writes storage with
  | inl hstop =>
    rw [hstop]
    exact hcleared
  | inr hpersisted =>
    rw [hpersisted]
    apply (hcleared.persist true (held js storage.slots)).write
    intro r hr
    right
    have hlegacy : legacyRecord js (storage.cleared writes).slots = some r := hr
    obtain ⟨q, hq, hhash⟩ := exists_held_of_legacy hlegacy
    rw [held_cleared] at hq
    refine ⟨q, ?_, hhash⟩
    have hqueue := queueRecords_withQueue js (storage.cleared writes).slots (held_nodup js storage.slots)
    exact hqueue.symm ▸ hq

/-- What a write of the queue keeps: the new queue, or all that was there when the write throws. -/
lemma mem_held_persist (succeeds : Bool) (hnodup : (records.map PendingDeposit.txHash).Nodup) (hr : r ∈ records)
    (hold : r ∈ held js storage.slots) : r ∈ held js (storage.persist succeeds records).2.slots := by
  cases succeeds with
  | false => exact hold
  | true => exact mem_held_withQueue storage.slots hnodup hr

/-- `save`: it returns true for a record that is in the storage afterwards, and only a record with the same hash and
Spot makes room for it. -/
lemma save_spec (js : NumberText) (writes : LoadWrites) (succeeds : Bool) (storage : Storage)
    (hrecord : normalisePendingDepositRecord js value = some q) :
    ((save js writes succeeds storage value).1 = true → q ∈ held js (save js writes succeeds storage value).2.slots) ∧
      ∀ r ∈ held js storage.slots, r ∈ held js (save js writes succeeds storage value).2.slots ∨
        (save js writes succeeds storage value).1 = true ∧ r.txHash = q.txHash ∧ r.spotId = q.spotId := by
  unfold save
  rw [hrecord]
  dsimp only
  split_ifs with hconflict
  · refine ⟨nofun, ?_⟩
    intro r hr
    exact .inl (mem_held_load hr)
  · rw [load_fst] at hconflict ⊢
    have hnodup : (((held js storage.slots).filter fun item => item.txHash ≠ q.txHash) ++ [q]).map
        PendingDeposit.txHash |>.Nodup := by
      rw [List.map_append]
      apply List.nodup_append.mpr
      refine ⟨(held_nodup js storage.slots).sublist (List.filter_sublist.map _), List.nodup_singleton _, ?_⟩
      intro hash hmem last hlast hsame
      obtain ⟨item, hitem, hhash⟩ := List.mem_map.mp hmem
      have hdiffers := (List.mem_filter.mp hitem).2
      exact of_decide_eq_true hdiffers (hhash.trans (hsame.trans (List.mem_singleton.mp hlast)))
    cases succeeds with
    | false =>
      refine ⟨nofun, ?_⟩
      intro r hr
      exact .inl (mem_held_load hr)
    | true =>
      refine ⟨fun _ => ?_, ?_⟩
      · apply mem_held_withQueue _ hnodup
        exact List.mem_append_right _ (List.mem_singleton_self q)
      · intro r hr
        by_cases hhash : r.txHash = q.txHash
        · right
          refine ⟨rfl, hhash, ?_⟩
          by_contra hspot
          exact hconflict (List.any_eq_true.mpr ⟨r, hr, decide_eq_true ⟨hhash, hspot⟩⟩)
        · left
          apply mem_held_withQueue _ hnodup
          exact List.mem_append_left _ (List.mem_filter.mpr ⟨hr, decide_eq_true hhash⟩)

/-- `remove` takes away nothing but the record with this hash and Spot. -/
lemma mem_held_remove (hrecord : normalisePendingDepositRecord js value = some q) (hr : r ∈ held js storage.slots)
    (hother : ¬ (r.txHash = q.txHash ∧ r.spotId = q.spotId)) :
    r ∈ held js (remove js writes succeeds storage value).2.slots := by
  unfold remove
  rw [hrecord]
  dsimp only
  split_ifs
  · exact mem_held_load hr
  · apply mem_held_persist succeeds
    · rw [load_fst]
      exact (held_nodup js storage.slots).sublist (List.filter_sublist.map _)
    · rw [load_fst]
      exact List.mem_filter.mpr ⟨hr, by simpa [imp_iff_not_or] using hother⟩
    · exact mem_held_load hr

lemma Storage.Careful.save (h : storage.Careful js) (writes : LoadWrites) (succeeds : Bool) (value : JsValue) :
    (save js writes succeeds storage value).2.Careful js := by
  unfold PendingDeposits.save
  cases normalisePendingDepositRecord js value with
  | none => exact h
  | some record =>
    dsimp only
    split_ifs
    · exact h.load writes
    · exact (h.load writes).persist succeeds _

lemma Storage.Careful.remove (h : storage.Careful js) (writes : LoadWrites) (succeeds : Bool) (value : JsValue) :
    (remove js writes succeeds storage value).2.Careful js := by
  unfold PendingDeposits.remove
  cases normalisePendingDepositRecord js value with
  | none => exact h
  | some record =>
    dsimp only
    split_ifs
    · exact h.load writes
    · exact (h.load writes).persist succeeds _

end Operations

section Runs

/-- The records other than those with this hash and Spot. -/
def besides (r : PendingDeposit) (records : List PendingDeposit) : List PendingDeposit :=
  records.filter fun item => !(item.txHash = r.txHash && item.spotId = r.spotId)

lemma mem_besides : r ∈ besides q records ↔ r ∈ records ∧ ¬ (r.txHash = q.txHash ∧ r.spotId = q.spotId) := by
  unfold besides
  rw [List.mem_filter]
  simp [imp_iff_not_or]

/-- The records that `save` took and that no `remove` and no submission ended since. -/
def promised : List Event → List PendingDeposit
  | [] => []
  | .saved r :: log => r :: promised log
  | .gone r :: log => besides r (promised log)

/-- The same, with the last record of a hash and Spot in the place of the earlier ones. -/
def owed : List Event → List PendingDeposit
  | [] => []
  | .saved r :: log => r :: besides r (owed log)
  | .gone r :: log => besides r (owed log)

namespace Tab

variable {tab : Tab}

structure Inv (js : NumberText) (tab : Tab) : Prop where
  keeps : ∀ r ∈ owed tab.log, r ∈ held js tab.storage.slots
  careful : tab.storage.Careful js

lemma Inv.save (h : Inv js tab) (value : JsValue) (writes : LoadWrites) (succeeds : Bool) :
    Inv js (tab.step js (.save value writes succeeds)) := by
  refine ⟨?_, h.careful.save writes succeeds value⟩
  unfold Tab.step
  dsimp only
  cases hrecord : normalisePendingDepositRecord js value with
  | none =>
    unfold PendingDeposits.save
    rw [hrecord]
    exact h.keeps
  | some q =>
    obtain ⟨hnew, hold⟩ := save_spec js writes succeeds tab.storage hrecord
    cases hresult : (PendingDeposits.save js writes succeeds tab.storage value).1 with
    | false =>
      intro r hr
      cases hold r (h.keeps r hr) with
      | inl hkept => exact hkept
      | inr hreplaced => exact absurd (hresult.symm.trans hreplaced.1) Bool.false_ne_true
    | true =>
      intro r hr
      cases List.mem_cons.mp hr with
      | inl hsaved => exact hsaved ▸ hnew hresult
      | inr hearlier =>
        obtain ⟨howed, hother⟩ := mem_besides.mp hearlier
        cases hold r (h.keeps r howed) with
        | inl hkept => exact hkept
        | inr hreplaced => exact absurd hreplaced.2 hother

lemma Inv.load (h : Inv js tab) (writes : LoadWrites) : Inv js (tab.step js (.load writes)) :=
  ⟨fun r hr => mem_held_load (h.keeps r hr), h.careful.load writes⟩

/-- A call of `remove`, of the user or after a submission. -/
lemma Inv.remove (h : Inv js tab) {value : JsValue} (hrecord : normalisePendingDepositRecord js value = some q)
    (writes : LoadWrites) (succeeds : Bool) (recoveries : List Recovery) :
    Inv js ⟨(PendingDeposits.remove js writes succeeds tab.storage value).2, recoveries, .gone q :: tab.log⟩ := by
  refine ⟨?_, h.careful.remove writes succeeds value⟩
  intro r hr
  obtain ⟨howed, hother⟩ := mem_besides.mp hr
  exact mem_held_remove hrecord (h.keeps r howed) hother

lemma Inv.settle (h : Inv js tab) (recovery : ℕ) (succeeded : Bool) (writes : LoadWrites) (succeeds : Bool) :
    Inv js (tab.settle js recovery succeeded writes succeeds) := by
  unfold Tab.settle
  split
  · split_ifs
    · exact h.remove (normalise_toValue _) writes succeeds _
    · exact ⟨h.keeps, h.careful⟩
  · exact h

lemma Inv.step (h : Inv js tab) (op : Op) : Inv js (tab.step js op) := by
  cases op with
  | save value writes succeeds => exact h.save value writes succeeds
  | load writes => exact h.load writes
  | remove value writes succeeds =>
    unfold Tab.step
    dsimp only
    cases hrecord : normalisePendingDepositRecord js value with
    | none =>
      unfold PendingDeposits.remove
      rw [hrecord]
      exact ⟨h.keeps, h.careful⟩
    | some q => exact h.remove hrecord writes succeeds tab.recoveries
  | recover writes => exact ⟨fun r hr => mem_held_load (h.keeps r hr), h.careful.load writes⟩
  | settle recovery succeeded writes succeeds => exact h.settle recovery succeeded writes succeeds
  | reload => exact ⟨h.keeps, h.careful⟩

/-- A tab as it opens, with whatever an earlier version or page left in its storage. -/
def opened (slots : Slots) : Tab where
  storage := ⟨slots, []⟩
  recoveries := []
  log := []

lemma inv_run (js : NumberText) (slots : Slots) (ops : List Op) : Inv js (run (Tab.step js) (opened slots) ops) := by
  have hopened : Inv js (opened slots) := ⟨nofun, .singleton slots⟩
  exact run_invariant (fun _ op _ h => h.step op) (admissible_true (opened slots) ops) hopened

/-- Whichever writes go through: the last record that `save` took for a hash and Spot is what `load` returns until it is
removed or submitted, hashes are unique, and a legacy record is dropped only for a queue that has its hash. -/
theorem deposits_are_kept (js : NumberText) (slots : Slots) (ops : List Op) :
    let tab := run (Tab.step js) (opened slots) ops
    (∀ r ∈ owed tab.log, ∀ writes, r ∈ (PendingDeposits.load js writes tab.storage).1) ∧
    (∀ writes, ((PendingDeposits.load js writes tab.storage).1.map PendingDeposit.txHash).Nodup) ∧
    ((queueRecords js tab.storage.slots).map PendingDeposit.txHash).Nodup ∧
    (tab.storage.slots :: tab.storage.past).IsChain fun newer older => Kept js older newer := by
  intro tab
  have h := inv_run js slots ops
  refine ⟨?_, ?_, queueRecords_nodup js _, h.careful⟩
  · intro r hr writes
    rw [load_fst]
    exact h.keeps r hr
  · intro writes
    rw [load_fst]
    exact held_nodup js _

end Tab

section Replaced

def deposit (amount : ℕ) (h : 0 < amount ∧ amount ≤ maxSafeInteger) : PendingDeposit where
  spotId := 1
  txHash := List.replicate 64 'a'
  fromAddress := "NQ07 FUNDING".toList
  amount := amount
  createdAt := 1000
  spotId_safe := by decide
  txHash_hex := by decide
  fromAddress_trimmed := by decide
  fromAddress_ne := by decide
  amount_safe := h
  createdAt_nonneg := by decide

def firstAmount : PendingDeposit := deposit 100000 (by decide)

def secondAmount : PendingDeposit := deposit 200000 (by decide)

def literals : NumberText where
  toText := fun _ => "NaN".toList
  ofText := fun _ => .nan

/-- The second record with the hash takes the place of the first, which nobody removed or submitted. -/
theorem saved_again_is_replaced : ¬ ∀ (js : NumberText) (slots : Slots) (ops : List Tab.Op),
    let tab := run (Tab.step js) (Tab.opened slots) ops
    ∀ r ∈ promised tab.log, ∀ writes, r ∈ (load js writes tab.storage).1 := by
  intro h
  have hfirst := h literals ⟨none, none, none⟩
    [.save firstAmount.toValue ⟨true, true, true⟩ true, .save secondAmount.toValue ⟨true, true, true⟩ true]
    firstAmount (by decide +kernel) ⟨true, true, true⟩
  exact absurd hfirst (by decide +kernel)

end Replaced

end Runs

end NimHunt.PendingDeposits
