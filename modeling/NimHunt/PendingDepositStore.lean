import NimHunt.Lib.Text
import Mathlib.Algebra.Group.Nat.Defs
import Mathlib.Algebra.Order.Ring.Unbundled.Rat
import Mathlib.Data.Rat.Defs
import Mathlib.Tactic.Common

/-!
# The pending-deposit store of the browser

`static/pending_deposit_store.js`: submitted deposits that the server may not have recorded yet, kept
in the tab's session storage, and the recovery of a new page load.
-/

namespace NimHunt.PendingDeposits

open Lib

section Values

/-- A number of JavaScript; the two zeros are one. -/
inductive JsNumber
  | nan
  | infinite (negative : Bool)
  | finite (value : ℚ)
  deriving DecidableEq

/-- A value as `JSON.parse` makes it; an object has its own fields. -/
inductive JsValue
  | undefined
  | null
  | bool (b : Bool)
  | number (n : JsNumber)
  | string (text : Text)
  | array (items : List JsValue)
  | object (fields : List (String × JsValue))

/-- The conversions between numbers and their literals. -/
structure NumberText where
  toText : JsNumber → Text
  ofText : Text → JsNumber

namespace JsValue

mutual

/-- `String(value)`. -/
def toText (js : NumberText) : JsValue → Text
  | .undefined => "undefined".toList
  | .null => "null".toList
  | .bool b => (if b then "true" else "false").toList
  | .number n => js.toText n
  | .string text => text
  | .array items => [','].intercalate (itemTexts js items)
  | .object _ => "[object Object]".toList

/-- An array leaves its empty items out of its text. -/
def itemTexts (js : NumberText) : List JsValue → List Text
  | [] => []
  | .undefined :: items => [] :: itemTexts js items
  | .null :: items => [] :: itemTexts js items
  | item :: items => item.toText js :: itemTexts js items

end

/-- `Number(value)`. -/
def toNumber (js : NumberText) : JsValue → JsNumber
  | .undefined => .nan
  | .null => .finite 0
  | .bool b => .finite (if b then 1 else 0)
  | .number n => n
  | .string text => js.ofText text
  | value => js.ofText (value.toText js)

def truthy : JsValue → Bool
  | .undefined => false
  | .null => false
  | .bool b => b
  | .number n => n ≠ .nan ∧ n ≠ .finite 0
  | .string text => text ≠ []
  | .array _ => true
  | .object _ => true

/-- `value || fallback`. -/
def orElse (value fallback : JsValue) : JsValue := if value.truthy then value else fallback

end JsValue

/-- The white space that `trim` removes. -/
def isTrimmed (c : Char) : Bool :=
  let n := c.toNat
  (9 ≤ n && n ≤ 13) || n = 32 || n = 0xa0 || n = 0x1680 || (0x2000 ≤ n && n ≤ 0x200a) || n = 0x2028 || n = 0x2029 ||
    n = 0x202f || n = 0x205f || n = 0x3000 || n = 0xfeff

def trim (text : Text) : Text := (text.dropWhile isTrimmed).rdropWhile isTrimmed

lemma dropWhile_eq_of_isPrefix {p : Char → Bool} {part text : Text} (h : part <+: text)
    (htext : text.dropWhile p = text) : part.dropWhile p = part := by
  cases part with
  | nil => rfl
  | cons c rest =>
    obtain ⟨tail, rfl⟩ := h
    have hc := List.dropWhile_eq_self_iff.mp htext (Nat.succ_pos _)
    exact List.dropWhile_eq_self_iff.mpr fun _ => hc

lemma trim_trim (text : Text) : trim (trim text) = trim text := by
  have hstart : (trim text).dropWhile isTrimmed = trim text :=
    dropWhile_eq_of_isPrefix (List.rdropWhile_prefix isTrimmed _) (List.dropWhile_idempotent isTrimmed text)
  calc trim (trim text) = ((trim text).dropWhile isTrimmed).rdropWhile isTrimmed := rfl
    _ = (trim text).rdropWhile isTrimmed := by rw [hstart]
    _ = trim text := List.rdropWhile_idempotent isTrimmed _

end Values

section Records

def maxSafeInteger : ℕ := 2 ^ 53 - 1

def hexDigits : Text := "0123456789abcdef".toList

/-- A record that `normalisePendingDepositRecord` accepts. -/
@[ext] structure PendingDeposit where
  spotId : ℕ
  txHash : Text
  fromAddress : Text
  amount : ℕ
  createdAt : ℚ
  spotId_safe : 0 < spotId ∧ spotId ≤ maxSafeInteger
  txHash_hex : txHash.length = 64 ∧ ∀ c ∈ txHash, c ∈ hexDigits
  fromAddress_trimmed : trim fromAddress = fromAddress
  fromAddress_ne : fromAddress ≠ []
  amount_safe : 0 < amount ∧ amount ≤ maxSafeInteger
  createdAt_nonneg : 0 ≤ createdAt
  deriving DecidableEq

/-- `Number.isSafeInteger(number)` and above zero. -/
def safePositive : JsNumber → Option {n : ℕ // 0 < n ∧ n ≤ maxSafeInteger}
  | .finite value =>
    if h : value = (value.num.toNat : ℚ) ∧ 0 < value.num.toNat ∧ value.num.toNat ≤ maxSafeInteger then
      some ⟨value.num.toNat, h.2⟩
    else none
  | _ => none

def createdTime : JsNumber → {value : ℚ // 0 ≤ value}
  | .finite value => if h : 0 ≤ value then ⟨value, h⟩ else ⟨0, le_rfl⟩
  | _ => ⟨0, le_rfl⟩

def JsValue.toRecord (js : NumberText) (field : String → JsValue) : Option PendingDeposit :=
  match safePositive ((field "spotId").toNumber js), safePositive ((field "amount").toNumber js) with
  | some spotId, some amount =>
    -- A character outside ASCII is no hexadecimal digit before or after `toLowerCase`.
    let txHash := (trim (((field "txHash").orElse (.string [])).toText js)).map Char.toLower
    let fromAddress := trim (((field "fromAddress").orElse (.string [])).toText js)
    let createdAt := createdTime (((field "createdAt").orElse (.number (.finite 0))).toNumber js)
    if h : (txHash.length = 64 ∧ ∀ c ∈ txHash, c ∈ hexDigits) ∧ fromAddress ≠ [] then
      some ⟨spotId.1, txHash, fromAddress, amount.1, createdAt.1, spotId.2, h.1, trim_trim _, h.2, amount.2, createdAt.2⟩
    else none
  | _, _ => none

def normalisePendingDepositRecord (js : NumberText) : JsValue → Option PendingDeposit
  | .object fields => JsValue.toRecord js fun name => (fields.lookup name).getD .undefined
  | _ => none

/-- The object that stands for the record. -/
def PendingDeposit.toValue (r : PendingDeposit) : JsValue :=
  .object [("spotId", .number (.finite r.spotId)), ("txHash", .string r.txHash),
    ("fromAddress", .string r.fromAddress), ("amount", .number (.finite r.amount)),
    ("createdAt", .number (.finite r.createdAt))]

/-- The loop of `deduplicateRecords`, with the hashes it has seen. -/
def deduplicateFrom (js : NumberText) (seenHashes : List Text) : List JsValue → List PendingDeposit
  | [] => []
  | value :: values =>
    match normalisePendingDepositRecord js value with
    | none => deduplicateFrom js seenHashes values
    | some r =>
      if r.txHash ∈ seenHashes then deduplicateFrom js seenHashes values
      else r :: deduplicateFrom js (r.txHash :: seenHashes) values

def deduplicateRecords (js : NumberText) : JsValue → List PendingDeposit
  | .array values => deduplicateFrom js [] values
  | _ => []

end Records

section Storage

/-- A stored text: what `JSON.parse` makes of it, if anything. -/
inductive StoredText
  | malformed
  | json (value : JsValue)

/-- The three slots, by their keys. -/
structure Slots where
  queue : Option StoredText
  legacy : Option StoredText
  obsolete : Option StoredText

/-- The contents of the storage, and those before each write that went through, newest first. -/
structure Storage where
  slots : Slots
  past : List Slots

/-- A write that throws leaves the storage as it is. -/
def Storage.write (storage : Storage) (succeeds : Bool) (change : Slots → Slots) : Storage :=
  if succeeds then ⟨change storage.slots, storage.slots :: storage.past⟩ else storage

def parseJson : Option StoredText → JsValue
  | some (.json value) => value
  | _ => .null

/-- `setItem` or `removeItem` of the queue. -/
def Storage.persist (storage : Storage) (succeeds : Bool) (records : List PendingDeposit) : Bool × Storage :=
  (succeeds, storage.write succeeds fun slots =>
    { slots with queue := if records = [] then none else some (.json (.array (records.map PendingDeposit.toValue))) })

/-- Which of the writes of one `load` go through. -/
structure LoadWrites where
  obsolete : Bool
  queue : Bool
  legacy : Bool

def load (js : NumberText) (writes : LoadWrites) (storage : Storage) : List PendingDeposit × Storage :=
  let storage := storage.write writes.obsolete fun slots => { slots with obsolete := none }
  let parsedQueue := parseJson storage.slots.queue
  let records := deduplicateRecords js parsedQueue
  let needsPersist := storage.slots.queue.isSome && match parsedQueue with
    | .array items => decide (records.length ≠ items.length)
    | _ => true
  let legacyRecord := normalisePendingDepositRecord js (parseJson storage.slots.legacy)
  let merged := legacyRecord.toList.filter fun r => records.all fun record => record.txHash ≠ r.txHash
  let all := records ++ merged
  if needsPersist || !merged.isEmpty || storage.slots.legacy.isSome then
    let persisted := storage.persist writes.queue all
    if persisted.1 then
      (all, persisted.2.write writes.legacy fun slots => { slots with legacy := none })
    else (all, persisted.2)
  else (all, storage)

def save (js : NumberText) (writes : LoadWrites) (succeeds : Bool) (storage : Storage) (value : JsValue) :
    Bool × Storage :=
  match normalisePendingDepositRecord js value with
  | none => (false, storage)
  | some record =>
    let loaded := load js writes storage
    if loaded.1.any fun item => item.txHash = record.txHash ∧ item.spotId ≠ record.spotId then (false, loaded.2)
    else loaded.2.persist succeeds ((loaded.1.filter fun item => item.txHash ≠ record.txHash) ++ [record])

def remove (js : NumberText) (writes : LoadWrites) (succeeds : Bool) (storage : Storage) (value : JsValue) :
    Bool × Storage :=
  match normalisePendingDepositRecord js value with
  | none => (false, storage)
  | some record =>
    let loaded := load js writes storage
    let next := loaded.1.filter fun item => !(item.txHash = record.txHash && item.spotId = record.spotId)
    if next.length = loaded.1.length then (true, loaded.2) else loaded.2.persist succeeds next

end Storage

section Recovery

/-- `recoverPendingDepositQueue` while it awaits the submission of the first remaining record. -/
structure Recovery where
  remaining : List PendingDeposit
  recoveredCount : ℕ
  failures : List PendingDeposit

/-- What happened to records: `save` returned true, or `remove` was called or the submission succeeded. -/
inductive Event
  | saved (record : PendingDeposit)
  | gone (record : PendingDeposit)

/-- One tab: its storage, the recoveries under way, and what happened so far, newest first. -/
structure Tab where
  storage : Storage
  recoveries : List Recovery
  log : List Event

namespace Tab

inductive Op
  | save (value : JsValue) (writes : LoadWrites) (succeeds : Bool)
  | load (writes : LoadWrites)
  | remove (value : JsValue) (writes : LoadWrites) (succeeds : Bool)
  | recover (writes : LoadWrites)
  | settle (recovery : ℕ) (succeeded : Bool) (writes : LoadWrites) (succeeds : Bool)
  | reload

/-- The awaited submission is over; the loop goes on to the next record. -/
def settle (js : NumberText) (tab : Tab) (recovery : ℕ) (succeeded : Bool) (writes : LoadWrites) (succeeds : Bool) :
    Tab :=
  match tab.recoveries[recovery]? with
  | some ⟨record :: remaining, recoveredCount, failures⟩ =>
    if succeeded then
      { storage := (remove js writes succeeds tab.storage record.toValue).2
        recoveries := tab.recoveries.set recovery ⟨remaining, recoveredCount + 1, failures⟩
        log := .gone record :: tab.log }
    else
      { tab with recoveries := tab.recoveries.set recovery ⟨remaining, recoveredCount, failures ++ [record]⟩ }
  | _ => tab

def step (js : NumberText) (tab : Tab) : Op → Tab
  | .save value writes succeeds =>
    let result := PendingDeposits.save js writes succeeds tab.storage value
    { tab with
      storage := result.2
      log := ((normalisePendingDepositRecord js value).toList.filter fun _ => result.1).map .saved ++ tab.log }
  | .load writes => { tab with storage := (PendingDeposits.load js writes tab.storage).2 }
  | .remove value writes succeeds =>
    { tab with
      storage := (PendingDeposits.remove js writes succeeds tab.storage value).2
      log := (normalisePendingDepositRecord js value).toList.map .gone ++ tab.log }
  | .recover writes =>
    let loaded := PendingDeposits.load js writes tab.storage
    { tab with storage := loaded.2, recoveries := tab.recoveries ++ [⟨loaded.1, 0, []⟩] }
  | .settle recovery succeeded writes succeeds => tab.settle js recovery succeeded writes succeeds
  | .reload => { tab with recoveries := [] }

end Tab

end Recovery

end NimHunt.PendingDeposits
