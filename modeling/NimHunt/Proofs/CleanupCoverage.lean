import NimHunt.Proofs.MetadataCleanup
import NimHunt.Lib.Rotation
import Mathlib.Data.String.Basic

/-!
# A cleanup pass reaches every row

The passes turn a cursor round the ephemeral rows.  A pass that meets a row `_prune_value` raises on is rolled
back with its cursor, so such a row stops the rotation for good.
-/

namespace NimHunt

open Lib

variable {P : Type}

lemma MetadataKey.text_injective {key key' : MetadataKey} (h : key.isEphemeral = true) (h' : key'.isEphemeral = true)
    (htext : key.text = key'.text) : key = key' := by
  unfold MetadataKey.text at htext
  cases key <;> cases key' <;> simp [MetadataKey.metadataPrefix, String.ext_iff, MetadataKey.isEphemeral] at *
  all_goals exact htext

lemma MetadataKey.empty_lt_text {key : MetadataKey} (h : key.isEphemeral = true) : "" < key.text := by
  rw [String.lt_iff_toList_lt]
  unfold MetadataKey.text
  cases key <;> simp [MetadataKey.metadataPrefix, MetadataKey.isEphemeral] at *

namespace AppMetadata

def ephemeralRows (md : AppMetadata) : List MetadataRow := md.rows.filter fun row => row.1.isEphemeral

/-- What a pass reads first: the rows without a malformed cursor, and the cursor. -/
def readCursor (md : AppMetadata) : AppMetadata × Option Json :=
  match md.getJson .cleanupCursor with
  | .ok read => read
  | .error _ => (md, none)

def cursor (md : AppMetadata) : String := cursorOf md.readCursor.2

/-- The rows a pass goes through. -/
def pageOf (md : AppMetadata) (limit : ℕ) : List MetadataRow := md.readCursor.1.nextPage md.cursor (max 1 limit)

/-- The pass can read its cursor. -/
def CursorReadable (md : AppMetadata) : Prop := md.value? .cleanupCursor ≠ some .tooDeep

/-- The keys a pass inspects; a pass that raises is rolled back. -/
def inspectedKeys (cfg : Settings P) (host : SecurityHost) (md : AppMetadata) (now limit : ℕ) : List String :=
  match cleanupPage cfg host md now limit with
  | .error _ => []
  | .ok _ => (md.pageOf limit).map fun row => row.1.text

end AppMetadata

/-- The rows between two passes, and the keys inspected so far. -/
structure CleanupRun where
  md : AppMetadata
  inspected : List String

def CleanupRun.step (cfg : Settings P) (host : SecurityHost) (limit : ℕ) (s : CleanupRun) (now : ℕ) : CleanupRun :=
  ⟨s.md.cleanup cfg host now limit, s.inspected ++ s.md.inspectedKeys cfg host now limit⟩

namespace AppMetadata

section Pages

variable {md : AppMetadata} {limit : ℕ} {row : MetadataRow}

lemma mem_ephemeralRows : row ∈ md.ephemeralRows ↔ md.value? row.1 = some row.2 ∧ row.1.isEphemeral = true := by
  unfold ephemeralRows
  rw [List.mem_filter]
  constructor
  · rintro ⟨hmem, hephemeral⟩
    exact ⟨value?_of_mem hmem, hephemeral⟩
  · rintro ⟨hvalue, hephemeral⟩
    unfold value? at hvalue
    obtain ⟨row', hrow', hsnd⟩ := Option.map_eq_some_iff.mp hvalue
    obtain ⟨hmem, hfst⟩ := Dict.get?_eq_some.mp hrow'
    have hsame : row' = row := Prod.ext hfst hsnd
    rw [← hsame]
    exact ⟨Dict.mem_rows.mpr hmem, hsame ▸ hephemeral⟩

lemma ephemeralRows_nodup (md : AppMetadata) : (md.ephemeralRows.map fun row => row.1.text).Nodup := by
  have hkeys : (md.ephemeralRows.map Prod.fst).Nodup := md.keys.sublist (List.filter_sublist.map Prod.fst)
  have hmapped : (md.ephemeralRows.map fun row => row.1.text) = (md.ephemeralRows.map Prod.fst).map MetadataKey.text := by
    rw [List.map_map]
    rfl
  rw [hmapped]
  apply List.Nodup.map_on _ hkeys
  intro key hkey key' hkey' htext
  obtain ⟨row, hrow, rfl⟩ := List.mem_map.mp hkey
  obtain ⟨row', hrow', rfl⟩ := List.mem_map.mp hkey'
  exact MetadataKey.text_injective (mem_ephemeralRows.mp hrow).2 (mem_ephemeralRows.mp hrow').2 htext

lemma readCursor_cases (md : AppMetadata) : md.readCursor.1 = md ∨ md.readCursor.1 = Dict.pop md .cleanupCursor := by
  unfold readCursor
  cases hread : md.getJson .cleanupCursor with
  | error e => exact Or.inl rfl
  | ok read =>
    obtain ⟨made, value⟩ := read
    exact (getJson_ok hread).imp id And.right

lemma getJson_readCursor (h : md.CursorReadable) : md.getJson .cleanupCursor = .ok md.readCursor := by
  unfold readCursor
  cases hread : md.getJson .cleanupCursor with
  | error e =>
    unfold getJson at hread
    split at hread
    · cases hread
    · cases hread
    · next hstored => exact absurd hstored h
    · cases hread
  | ok read => rfl

/-- Dropping a malformed cursor leaves the ephemeral rows alone. -/
lemma ephemeralRows_readCursor (md : AppMetadata) : md.readCursor.1.ephemeralRows = md.ephemeralRows := by
  rcases readCursor_cases md with hsame | hpopped
  · rw [hsame]
  · rw [hpopped]
    unfold ephemeralRows Dict.pop
    rw [List.filter_filter]
    apply List.filter_congr
    intro row _
    by_cases hkey : row.1 = .cleanupCursor
    · simp [hkey, MetadataKey.isEphemeral]
    · simp [hkey]

/-- The rows a page is cut from. -/
def rowsAfter (md : AppMetadata) (cursor : String) : List MetadataRow :=
  md.ephemeralRows.filter fun row => decide (cursor < row.1.text)

lemma page_ephemeral (cursor : String) :
    md.page MetadataKey.isEphemeral cursor limit =
      Lib.page (fun row row' => row.1.text ≤ row'.1.text) limit (md.rowsAfter cursor) := by
  unfold AppMetadata.page Lib.page rowsAfter ephemeralRows
  rw [List.filter_filter]
  congr 3
  funext row
  rw [Bool.and_comm]

lemma rowsAfter_readCursor (cursor : String) :
    md.readCursor.1.rowsAfter cursor = md.rowsAfter cursor := by
  unfold rowsAfter
  rw [ephemeralRows_readCursor]

lemma rowsAfter_empty (md : AppMetadata) : md.rowsAfter "" = md.ephemeralRows := by
  unfold rowsAfter
  apply List.filter_eq_self.mpr
  intro row hrow
  exact decide_eq_true (MetadataKey.empty_lt_text (mem_ephemeralRows.mp hrow).2)

lemma page_eq_nil {cursor : String} (hlimit : 0 < limit) :
    md.page MetadataKey.isEphemeral cursor limit = [] ↔ md.rowsAfter cursor = [] := by
  rw [page_ephemeral, ← List.length_eq_zero_iff, Lib.length_page, ← List.length_eq_zero_iff]
  omega

/-- A pass takes the first rows after the cursor, or the first of all. -/
lemma pageOf_eq (md : AppMetadata) (limit : ℕ) : md.pageOf limit =
    Lib.page (fun row row' => row.1.text ≤ row'.1.text) (max 1 limit)
      (if md.rowsAfter md.cursor = [] then md.ephemeralRows else md.rowsAfter md.cursor) := by
  have hlimit : 0 < max 1 limit := by omega
  unfold pageOf nextPage
  dsimp only
  have hempty : md.readCursor.1.page MetadataKey.isEphemeral md.cursor (max 1 limit) = [] ↔
      md.rowsAfter md.cursor = [] := by
    rw [page_eq_nil hlimit, rowsAfter_readCursor]
  by_cases hnone : md.rowsAfter md.cursor = []
  · rw [if_pos hnone]
    by_cases hcursor : md.cursor = ""
    · rw [hcursor, rowsAfter_empty] at hnone
      have hpage := hempty.mpr (by rw [hcursor, rowsAfter_empty]; exact hnone)
      rw [if_neg (fun h => h.2 hcursor), hpage, hnone]
      unfold Lib.page
      rw [List.insertionSort_nil, List.take_nil]
    · rw [if_pos ⟨hempty.mpr hnone, hcursor⟩, page_ephemeral, rowsAfter_readCursor, rowsAfter_empty]
  · rw [if_neg hnone, if_neg (fun h => hnone (hempty.mp h.1)), page_ephemeral, rowsAfter_readCursor]

lemma mem_pageOf (h : row ∈ md.pageOf limit) : row ∈ md.ephemeralRows := by
  rw [pageOf_eq] at h
  have hmem := Lib.page_subset h
  split_ifs at hmem
  · exact hmem
  · exact List.mem_of_mem_filter hmem

lemma pageOf_nodup (md : AppMetadata) (limit : ℕ) : ((md.pageOf limit).map fun row => row.1.text).Nodup := by
  rw [pageOf_eq]
  have hrows : ((if md.rowsAfter md.cursor = [] then md.ephemeralRows else md.rowsAfter md.cursor).map
      fun row => row.1.text).Nodup := by
    split_ifs
    · exact md.ephemeralRows_nodup
    · exact md.ephemeralRows_nodup.sublist (List.filter_sublist.map _)
  generalize (if md.rowsAfter md.cursor = [] then md.ephemeralRows else md.rowsAfter md.cursor) = rows at hrows ⊢
  have hperm := (List.perm_insertionSort (fun row row' : MetadataRow => row.1.text ≤ row'.1.text) rows).map
    fun row => row.1.text
  exact (hperm.nodup_iff.mpr hrows).sublist ((List.take_sublist _ _).map _)

end Pages

section Pruning

variable {cfg : Settings P} {host : SecurityHost} {now start : ℕ} {made next : AppMetadata} {key : MetadataKey}
  {row : MetadataRow} {rows : List MetadataRow}

/-- `_prune_value` raises on no clock or on every one. -/
lemma pruneValue_isOk (cfg : Settings P) (host : SecurityHost) (now now' : ℕ) (row : MetadataRow)
    (h : (pruneValue cfg host now row).isOk = true) : (pruneValue cfg host now' row).isOk = true := by
  have hauthorization : ∀ fields, (pruneAuthorization cfg host now fields).isOk = true →
      (pruneAuthorization cfg host now' fields).isOk = true := by
    intro fields hok
    unfold pruneAuthorization at hok ⊢
    cases hexpires : Json.intOrZero cfg fields "expires_at" with
    | error e =>
      rw [hexpires] at hok
      cases hok
    | ok expiresAt =>
      cases expiresAt with
      | none => rfl
      | some expiresAt =>
        dsimp only
        split_ifs <;> rfl
  have hexpiring : ∀ fields, (pruneExpiring cfg now fields).isOk = true →
      (pruneExpiring cfg now' fields).isOk = true := by
    intro fields hok
    unfold pruneExpiring at hok ⊢
    cases hexpires : Json.intOrZero cfg fields "expires_at" with
    | error e =>
      rw [hexpires] at hok
      cases hok
    | ok expiresAt =>
      cases expiresAt with
      | none => rfl
      | some expiresAt => rfl
  have hbucket : ∀ items, (pruneBucket cfg host now items).isOk = true →
      (pruneBucket cfg host now' items).isOk = true := by
    intro items hok
    unfold pruneBucket at hok ⊢
    cases hitems : items.mapM (Json.toInt cfg) with
    | error e =>
      rw [hitems] at hok
      cases hok
    | ok found =>
      dsimp only
      split_ifs <;> rfl
  obtain ⟨key, value⟩ := row
  cases value with
  | malformed => cases key <;> rfl
  | tooDeep => cases key <;> cases h
  | value value =>
    cases key with
    | user userId => rfl
    | cleanupCursor => rfl
    | challenge challengeId =>
      cases value with
      | obj fields => exact hexpiring fields h
      | _ => rfl
    | session digest =>
      cases value with
      | obj fields => exact hexpiring fields h
      | _ => rfl
    | claimAuthorization challengeId =>
      cases value with
      | obj fields => exact hauthorization fields h
      | _ => rfl
    | rate bucket =>
      cases value with
      | arr items => exact hbucket items h
      | _ => rfl

/-- What has expired stays so. -/
lemma pruneValue_delete_later (hlater : start ≤ now) (h : pruneValue cfg host start row = .ok .delete)
    (hephemeral : row.1.isEphemeral = true) : pruneValue cfg host now row = .ok .delete := by
  have hauthorization : ∀ fields, pruneAuthorization cfg host start fields = .ok .delete →
      pruneAuthorization cfg host now fields = .ok .delete := by
    intro fields hdelete
    unfold pruneAuthorization at hdelete ⊢
    cases hexpires : Json.intOrZero cfg fields "expires_at" with
    | error e =>
      rw [hexpires] at hdelete
      cases hdelete
    | ok expiresAt =>
      cases expiresAt with
      | none => rfl
      | some expiresAt =>
        rw [hexpires] at hdelete
        dsimp only at hdelete ⊢
        by_cases hissued : Json.textOf fields "status" = "issued"
        · rw [if_pos hissued] at hdelete ⊢
          by_cases hspent : expiresAt ≤ start
          · rw [if_pos (by omega)]
          · rw [if_neg hspent] at hdelete
            cases hdelete
        · rw [if_neg hissued] at hdelete ⊢
          by_cases hattempt : Json.textOf fields "status" ∈ ["verifying", "processing", "failed"]
          · rw [if_pos hattempt] at hdelete ⊢
            by_cases hspent : expiresAt + host.claimAuthorizationVerifyGraceSeconds ≤ start
            · rw [if_pos (by omega)]
            · rw [if_neg hspent] at hdelete
              cases hdelete
          · rw [if_neg hattempt]
  have hexpiring : ∀ fields, pruneExpiring cfg start fields = .ok .delete →
      pruneExpiring cfg now fields = .ok .delete := by
    intro fields hdelete
    unfold pruneExpiring at hdelete ⊢
    cases hexpires : Json.intOrZero cfg fields "expires_at" with
    | error e =>
      rw [hexpires] at hdelete
      cases hdelete
    | ok expiresAt =>
      cases expiresAt with
      | none => rfl
      | some expiresAt =>
        rw [hexpires] at hdelete
        dsimp only at hdelete ⊢
        by_cases hspent : expiresAt ≤ start
        · rw [if_pos (by omega)]
        · rw [if_neg hspent] at hdelete
          cases hdelete
  have hbucket : ∀ items, pruneBucket cfg host start items = .ok .delete →
      pruneBucket cfg host now items = .ok .delete := by
    intro items hdelete
    unfold pruneBucket at hdelete ⊢
    cases hitems : items.mapM (Json.toInt cfg) with
    | error e =>
      rw [hitems] at hdelete
      cases hdelete
    | ok found =>
      rw [hitems] at hdelete
      dsimp only at hdelete ⊢
      split_ifs at hdelete with hold hsame
      · have hnone : (found.filterMap id).filter (fun stamp => decide ((now : ℤ) -
            (max host.authRateWindowSeconds host.claimAuthorizationRateWindowSeconds : ℕ) < stamp)) = [] := by
          rw [List.filter_eq_nil_iff] at hold ⊢
          intro stamp hstamp
          have hbefore := hold stamp hstamp
          rw [decide_eq_true_iff] at hbefore ⊢
          omega
        rw [if_pos hnone]
      · cases hdelete
      · cases hdelete
  obtain ⟨key, value⟩ := row
  cases value with
  | malformed => cases key <;> rfl
  | tooDeep => cases key <;> cases h
  | value value =>
    cases key with
    | user userId => cases hephemeral
    | cleanupCursor => cases hephemeral
    | challenge challengeId =>
      cases value with
      | obj fields => exact hexpiring fields h
      | _ => rfl
    | session digest =>
      cases value with
      | obj fields => exact hexpiring fields h
      | _ => rfl
    | claimAuthorization challengeId =>
      cases value with
      | obj fields => exact hauthorization fields h
      | _ => rfl
    | rate bucket =>
      cases value with
      | arr items => exact hbucket items h
      | _ => rfl

/-- What a pass leaves of a row. -/
def afterPrune (row : MetadataRow) : Pruned → Option StoredJson
  | .keep => some row.2
  | .update stamps => some (.value (.arr (stamps.map .int)))
  | .delete => none

lemma pruneRow_value? (hvalue : made.value? row.1 = some row.2) (h : pruneRow cfg host now made row = .ok next) :
    ∃ pruned, pruneValue cfg host now row = .ok pruned ∧ next.value? row.1 = afterPrune row pruned ∧
      ∀ key, key ≠ row.1 → next.value? key = made.value? key := by
  unfold pruneRow at h
  cases hpruned : pruneValue cfg host now row with
  | error e =>
    rw [hpruned] at h
    cases h
  | ok pruned =>
    rw [hpruned] at h
    refine ⟨pruned, rfl, ?_⟩
    cases pruned with
    | keep =>
      obtain rfl := Except.ok.inj h
      exact ⟨hvalue, fun _ _ => rfl⟩
    | update stamps =>
      obtain rfl := Except.ok.inj h
      refine ⟨?_, ?_⟩
      · rw [value?_setJson, if_pos rfl]
        rfl
      · intro key hkey
        rw [value?_setJson, if_neg hkey.symm]
    | delete =>
      obtain rfl := Except.ok.inj h
      refine ⟨?_, ?_⟩
      · rw [value?_pop, if_pos rfl]
        rfl
      · intro key hkey
        rw [value?_pop, if_neg hkey.symm]

/-- The loop of a pass does with each of its rows what `_prune_value` says, and with no other. -/
lemma pruneRows_value? (hvalues : ∀ row ∈ rows, made.value? row.1 = some row.2) (hkeys : (rows.map Prod.fst).Nodup)
    (h : rows.foldlM (pruneRow cfg host now) made = .ok next) :
    (∀ row ∈ rows, ∃ pruned, pruneValue cfg host now row = .ok pruned ∧ next.value? row.1 = afterPrune row pruned) ∧
      ∀ key, key ∉ rows.map Prod.fst → next.value? key = made.value? key := by
  induction rows generalizing made with
  | nil =>
    obtain rfl := Except.ok.inj h
    exact ⟨fun row hrow => absurd hrow List.not_mem_nil, fun _ _ => rfl⟩
  | cons row rows ih =>
    rw [List.map_cons, List.nodup_cons] at hkeys
    rw [List.foldlM_cons] at h
    cases hrow : pruneRow cfg host now made row with
    | error e =>
      rw [hrow] at h
      cases h
    | ok made' =>
      rw [hrow] at h
      obtain ⟨pruned, hpruned, hleft, hothers⟩ := pruneRow_value? (hvalues row List.mem_cons_self) hrow
      have hvalues' : ∀ row' ∈ rows, made'.value? row'.1 = some row'.2 := by
        intro row' hrow'
        have hne : row'.1 ≠ row.1 := by
          intro heq
          apply hkeys.1
          rw [← heq]
          exact List.mem_map_of_mem hrow'
        rw [hothers row'.1 hne]
        exact hvalues row' (List.mem_cons_of_mem row hrow')
      obtain ⟨hinspected, hrest⟩ := ih hvalues' hkeys.2 h
      constructor
      · intro row' hrow'
        cases List.mem_cons.mp hrow' with
        | inl hsame =>
          rw [hsame]
          refine ⟨pruned, hpruned, ?_⟩
          rw [hrest row.1 hkeys.1]
          exact hleft
        | inr hlater => exact hinspected row' hlater
      · intro key hkey
        rw [List.map_cons, List.mem_cons, not_or] at hkey
        rw [hrest key hkey.2, hothers key hkey.1]

end Pruning

section Passes

variable {cfg : Settings P} {host : SecurityHost} {now limit : ℕ} {md next : AppMetadata} {row : MetadataRow}

/-- What a pass that is not rolled back does. -/
structure Passed (cfg : Settings P) (host : SecurityHost) (now limit : ℕ) (md next : AppMetadata) : Prop where
  pruned : ∀ row ∈ md.pageOf limit,
    ∃ pruned, pruneValue cfg host now row = .ok pruned ∧ next.value? row.1 = afterPrune row pruned
  others : ∀ key : MetadataKey, key.isEphemeral = true → key.text ∉ (md.pageOf limit).map (fun row => row.1.text) →
    next.value? key = md.value? key
  cursor : ∀ row, (md.pageOf limit).getLast? = some row → next.cursor = row.1.text
  /-- The next pass can read what this one has left. -/
  readable : md.CursorReadable ∧ next.CursorReadable

lemma value?_readCursor (h : row ∈ md.ephemeralRows) : md.readCursor.1.value? row.1 = some row.2 := by
  rw [← ephemeralRows_readCursor] at h
  exact (mem_ephemeralRows.mp h).1

lemma pageOf_keys_nodup (md : AppMetadata) (limit : ℕ) : ((md.pageOf limit).map Prod.fst).Nodup := by
  have htexts := pageOf_nodup md limit
  have hmapped : ((md.pageOf limit).map fun row => row.1.text) = ((md.pageOf limit).map Prod.fst).map MetadataKey.text := by
    rw [List.map_map]
    rfl
  rw [hmapped] at htexts
  exact htexts.of_map

lemma cleanupPage_error {e : PyError} (hcursor : md.CursorReadable)
    (h : (md.pageOf limit).foldlM (pruneRow cfg host now) md.readCursor.1 = .error e) :
    cleanupPage cfg host md now limit = .error e := by
  unfold pageOf cursor at h
  unfold cleanupPage
  rw [getJson_readCursor hcursor]
  generalize md.readCursor = read at h ⊢
  obtain ⟨read, value⟩ := read
  dsimp only at h ⊢
  rw [h]

lemma cleanupPage_unread (h : ¬ md.CursorReadable) : cleanupPage cfg host md now limit = .error .runtimeError := by
  unfold cleanupPage
  rw [getJson_tooDeep (not_not.mp h)]

/-- The cursor is kept at the last row of the page. -/
lemma cleanupPage_ok {pruned : AppMetadata} (hcursor : md.CursorReadable)
    (h : (md.pageOf limit).foldlM (pruneRow cfg host now) md.readCursor.1 = .ok pruned) :
    cleanupPage cfg host md now limit = .ok ((md.pageOf limit).getLast?.elim (pruned.pop .cleanupCursor)
      fun row => pruned.setJson .cleanupCursor (.str row.1.text)) := by
  unfold pageOf cursor at h ⊢
  unfold cleanupPage
  rw [getJson_readCursor hcursor]
  generalize md.readCursor = read at h ⊢
  obtain ⟨read, value⟩ := read
  dsimp only at h ⊢
  rw [h]
  cases (read.nextPage (cursorOf value) (max 1 limit)).getLast? with
  | none => rfl
  | some row => rfl

lemma cleanupPage_passed (h : cleanupPage cfg host md now limit = .ok next) : Passed cfg host now limit md next := by
  have hvalues : ∀ row ∈ md.pageOf limit, md.readCursor.1.value? row.1 = some row.2 :=
    fun row hrow => value?_readCursor (mem_pageOf hrow)
  have hgetJson : ∀ key : MetadataKey, key.isEphemeral = true →
      md.readCursor.1.value? key = md.value? key := by
    intro key hephemeral
    rcases readCursor_cases md with hsame | hpopped
    · rw [hsame]
    · rw [hpopped, value?_pop, if_neg]
      rintro rfl
      cases hephemeral
  have hreadable : md.CursorReadable := by
    by_contra hunread
    rw [cleanupPage_unread hunread] at h
    cases h
  cases hloop : (md.pageOf limit).foldlM (pruneRow cfg host now) md.readCursor.1 with
  | error e =>
    rw [cleanupPage_error hreadable hloop] at h
    cases h
  | ok pruned =>
    rw [cleanupPage_ok hreadable hloop] at h
    obtain ⟨hpruned, hrest⟩ := pruneRows_value? hvalues (pageOf_keys_nodup md limit) hloop
    have hothers : ∀ key : MetadataKey, key.isEphemeral = true →
        key.text ∉ (md.pageOf limit).map (fun row => row.1.text) → pruned.value? key = md.value? key := by
      intro key hephemeral hkey
      rw [← hgetJson key hephemeral]
      apply hrest
      intro hmem
      obtain ⟨row, hrow, rfl⟩ := List.mem_map.mp hmem
      exact hkey (List.mem_map_of_mem hrow)
    have hcursorKey : ∀ key : MetadataKey, key.isEphemeral = true → MetadataKey.cleanupCursor ≠ key := by
      rintro key hephemeral rfl
      cases hephemeral
    cases hlast : (md.pageOf limit).getLast? with
    | some last =>
      rw [hlast, Option.elim_some] at h
      obtain rfl := Except.ok.inj h
      refine ⟨?_, ?_, ?_, hreadable, ?_⟩
      · intro row hrow
        rw [value?_setJson, if_neg (hcursorKey row.1 (mem_ephemeralRows.mp (mem_pageOf hrow)).2)]
        exact hpruned row hrow
      · intro key hephemeral hkey
        rw [value?_setJson, if_neg (hcursorKey key hephemeral)]
        exact hothers key hephemeral hkey
      · intro row hrow
        obtain rfl := Option.some.inj (hlast.symm.trans hrow)
        unfold cursor readCursor getJson
        rw [value?_setJson, if_pos rfl]
        rfl
      · unfold CursorReadable
        rw [value?_setJson, if_pos rfl]
        simp
    | none =>
      rw [hlast, Option.elim_none] at h
      obtain rfl := Except.ok.inj h
      refine ⟨?_, ?_, ?_, hreadable, ?_⟩
      · intro row hrow
        rw [value?_pop, if_neg (hcursorKey row.1 (mem_ephemeralRows.mp (mem_pageOf hrow)).2)]
        exact hpruned row hrow
      · intro key hephemeral hkey
        rw [value?_pop, if_neg (hcursorKey key hephemeral)]
        exact hothers key hephemeral hkey
      · intro row hrow
        cases hlast.symm.trans hrow
      · unfold CursorReadable
        rw [value?_pop, if_pos rfl]
        simp

/-- A pass is rolled back, or does with its page what `_prune_value` says. -/
lemma cleanup_cases (cfg : Settings P) (host : SecurityHost) (md : AppMetadata) (now limit : ℕ) :
    (md.cleanup cfg host now limit = md ∧ md.inspectedKeys cfg host now limit = []) ∨
      (Passed cfg host now limit md (md.cleanup cfg host now limit) ∧
        md.inspectedKeys cfg host now limit = (md.pageOf limit).map fun row => row.1.text) := by
  unfold cleanup inspectedKeys
  cases hpage : cleanupPage cfg host md now limit with
  | error e => exact Or.inl ⟨rfl, rfl⟩
  | ok next => exact Or.inr ⟨cleanupPage_passed hpage, rfl⟩

end Passes

end AppMetadata

namespace CleanupRun

open AppMetadata

section Rotation

variable {cfg : Settings P} {host : SecurityHost} {now start limit : ℕ} {md : AppMetadata} {s : CleanupRun} {x : String}

def texts (md : AppMetadata) : Finset String := (md.ephemeralRows.map fun row => row.1.text).toFinset

end Rotation

section Coverage

variable {cfg : Settings P} {host : SecurityHost} {now start limit : ℕ} {md : AppMetadata} {s : CleanupRun}

/-- What the passes so far have made of the rows they began with. -/
structure Covered (cfg : Settings P) (host : SecurityHost) (start : ℕ) (md : AppMetadata) (s : CleanupRun) : Prop where
  untouched : ∀ row ∈ md.ephemeralRows, row.1.text ∉ s.inspected → s.md.value? row.1 = some row.2
  shrinks : ∀ key : MetadataKey, key.isEphemeral = true → (s.md.value? key).isSome = true → (md.value? key).isSome = true
  readable : ∀ row ∈ md.ephemeralRows, row.1.text ∈ s.inspected → (pruneValue cfg host start row).isOk = true
  gone : ∀ row ∈ md.ephemeralRows, row.1.text ∈ s.inspected → pruneValue cfg host start row = .ok .delete →
    s.md.value? row.1 = none
  /-- Behind a cursor that cannot be read nothing happens. -/
  stuck : ¬ md.CursorReadable → s = ⟨md, []⟩

lemma Covered.step (h : Covered cfg host start md s) (hclock : start ≤ now) :
    Covered cfg host start md (s.step cfg host limit now) := by
  cases cleanup_cases cfg host s.md now limit with
  | inl hrolled =>
    unfold CleanupRun.step
    rw [hrolled.1, hrolled.2, List.append_nil]
    exact h
  | inr hdone =>
    obtain ⟨hpassed, hkeys⟩ := hdone
    unfold CleanupRun.step
    rw [hkeys]
    generalize s.md.cleanup cfg host now limit = next at hpassed ⊢
    -- the first time a row is inspected it is as it was at the start
    have hfirst : ∀ row ∈ md.ephemeralRows, row.1.text ∉ s.inspected →
        row.1.text ∈ (s.md.pageOf limit).map (fun row => row.1.text) → row ∈ s.md.pageOf limit := by
      intro row hrow hdue hpage
      obtain ⟨row', hrow', htext⟩ := List.mem_map.mp hpage
      obtain ⟨hvalue', hephemeral'⟩ := mem_ephemeralRows.mp (mem_pageOf hrow')
      have hkey : row'.1 = row.1 := MetadataKey.text_injective hephemeral' (mem_ephemeralRows.mp hrow).2 htext
      have hvalue := h.untouched row hrow hdue
      rw [← hkey, hvalue'] at hvalue
      have hsame : row' = row := Prod.ext hkey (Option.some.inj hvalue)
      rw [← hsame]
      exact hrow'
    refine ⟨?_, ?_, ?_, ?_, ?_⟩
    · intro row hrow hmissed
      rw [List.mem_append, not_or] at hmissed
      rw [hpassed.others row.1 (mem_ephemeralRows.mp hrow).2 hmissed.2]
      exact h.untouched row hrow hmissed.1
    · intro key hephemeral hsome
      apply h.shrinks key hephemeral
      by_cases hpage : key.text ∈ (s.md.pageOf limit).map fun row => row.1.text
      · obtain ⟨row, hrow, htext⟩ := List.mem_map.mp hpage
        obtain ⟨hvalue, hephemeral'⟩ := mem_ephemeralRows.mp (mem_pageOf hrow)
        rw [← MetadataKey.text_injective hephemeral' hephemeral htext, hvalue]
        rfl
      · rw [hpassed.others key hephemeral hpage] at hsome
        exact hsome
    · intro row hrow hinspected
      by_cases hdue : row.1.text ∈ s.inspected
      · exact h.readable row hrow hdue
      · have hpage := hfirst row hrow hdue ((List.mem_append.mp hinspected).resolve_left hdue)
        obtain ⟨pruned, hpruned, -⟩ := hpassed.pruned row hpage
        apply pruneValue_isOk cfg host now start
        rw [hpruned]
        rfl
    · intro row hrow hinspected hexpired
      obtain ⟨hvalue, hephemeral⟩ := mem_ephemeralRows.mp hrow
      by_cases hdue : row.1.text ∈ s.inspected
      · have hgone := h.gone row hrow hdue hexpired
        have hpage : row.1.text ∉ (s.md.pageOf limit).map fun row => row.1.text := by
          intro hpage
          obtain ⟨row', hrow', htext⟩ := List.mem_map.mp hpage
          obtain ⟨hvalue', hephemeral'⟩ := mem_ephemeralRows.mp (mem_pageOf hrow')
          rw [MetadataKey.text_injective hephemeral' hephemeral htext, hgone] at hvalue'
          cases hvalue'
        rw [hpassed.others row.1 hephemeral hpage]
        exact hgone
      · have hpage := hfirst row hrow hdue ((List.mem_append.mp hinspected).resolve_left hdue)
        obtain ⟨pruned, hpruned, hleft⟩ := hpassed.pruned row hpage
        rw [pruneValue_delete_later hclock hexpired hephemeral] at hpruned
        obtain rfl := Except.ok.inj hpruned
        exact hleft
    · intro hunread
      have hsame := h.stuck hunread
      rw [hsame] at hpassed
      exact absurd hpassed.readable.1 hunread

end Coverage

end CleanupRun

end NimHunt
