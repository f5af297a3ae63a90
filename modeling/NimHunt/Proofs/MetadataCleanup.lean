import NimHunt.ClaimSecurityMaintenance
import NimHunt.Lib.Runs

/-!
# Cleaning up changes no answer

What the readers can tell of a row is its `seen` part: an unexpired object, the recent timestamps of a
bucket.  A pass, and the sweep of a preparation, keep it for every key, and a request answers by it alone.
Only the sweep can raise on a row that no reader has asked for.
-/

namespace NimHunt

open Lib

variable {P : Type}

namespace AppMetadata

section Rows

variable {md : AppMetadata} {key key' : MetadataKey} {row : MetadataRow}

lemma value?_setJson (value : Json) :
    (md.setJson key value).value? key' = if key = key' then some (.value value) else md.value? key' := by
  unfold value? setJson
  rw [Dict.get?_set]
  dsimp only
  split_ifs <;> rfl

lemma value?_pop : value? (Dict.pop md key) key' = if key = key' then none else md.value? key' := by
  unfold value?
  rw [Dict.get?_pop]
  split_ifs <;> rfl

lemma getJson_malformed (h : md.value? key = some .malformed) : md.getJson key = .ok (Dict.pop md key, none) := by
  unfold getJson
  rw [h]

lemma getJson_tooDeep (h : md.value? key = some .tooDeep) : md.getJson key = .error .runtimeError := by
  unfold getJson
  rw [h]

/-- Reading a row drops a malformed one and leaves any other. -/
lemma getJson_ok {made : AppMetadata} {value : Option Json} (h : md.getJson key = .ok (made, value)) :
    made = md ∨ md.value? key = some .malformed ∧ made = Dict.pop md key := by
  unfold getJson at h
  split at h
  · exact Or.inl (Prod.mk.inj (Except.ok.inj h)).1.symm
  · next hrow => exact Or.inr ⟨hrow, (Prod.mk.inj (Except.ok.inj h)).1.symm⟩
  · cases h
  · exact Or.inl (Prod.mk.inj (Except.ok.inj h)).1.symm

lemma value?_of_mem (h : row ∈ md.rows) : md.value? row.1 = some row.2 := by
  unfold value?
  rw [Dict.get?_eq_some.mpr ⟨Dict.mem_rows.mp h, rfl⟩]
  rfl

lemma mem_page {like : MetadataKey → Bool} {cursor : String} {limit : ℕ} (h : row ∈ md.page like cursor limit) :
    row ∈ md.rows ∧ like row.1 = true := by
  have hsorted := List.mem_of_mem_take h
  rw [List.mem_insertionSort, List.mem_filter] at hsorted
  obtain ⟨hmem, hlike⟩ := hsorted
  rw [Bool.and_eq_true] at hlike
  exact ⟨hmem, hlike.1⟩

end Rows

section Seen

variable {cfg : Settings P} {host : SecurityHost} {now later : ℕ}

/-- The fields of an object that has not expired. -/
def live (cfg : Settings P) (now : ℕ) : Option StoredJson → Option (List (String × Json))
  | some (.value (.obj fields)) =>
    match Json.intOrZero cfg fields "expires_at" with
    | .ok (some expiresAt) => if (now : ℤ) < expiresAt then some fields else none
    | _ => none
  | _ => none

lemma live_eq_some {row : Option StoredJson} {fields : List (String × Json)} (h : live cfg now row = some fields) :
    row = some (.value (.obj fields)) ∧
      ∃ expiresAt : ℤ, Json.intOrZero cfg fields "expires_at" = .ok (some expiresAt) ∧ now < expiresAt := by
  unfold live at h
  split at h
  · split at h
    · next expiresAt hexpires =>
      split_ifs at h with hlive
      obtain rfl := Option.some.inj h
      exact ⟨rfl, expiresAt, hexpires, hlive⟩
    · cases h
  · cases h

lemma live_obj {fields : List (String × Json)} {expiresAt : ℤ}
    (hexpires : Json.intOrZero cfg fields "expires_at" = .ok (some expiresAt)) (hlive : (now : ℤ) < expiresAt) :
    live cfg now (some (.value (.obj fields))) = some fields := by
  unfold live
  dsimp only
  rw [hexpires]
  exact if_pos hlive

lemma live_later (h : now ≤ later) (row : Option StoredJson) :
    live cfg later row = (live cfg now row).bind fun fields => live cfg later (some (.value (.obj fields))) := by
  cases hnow : live cfg now row with
  | some fields =>
    obtain ⟨rfl, -⟩ := live_eq_some hnow
    rfl
  | none =>
    cases hlater : live cfg later row with
    | none => rfl
    | some fields =>
      obtain ⟨rfl, expiresAt, hexpires, hlive⟩ := live_eq_some hlater
      rw [live_obj hexpires (by omega)] at hnow
      cases hnow

/-- The longest window of a bucket. -/
def longestWindow (host : SecurityHost) : ℕ :=
  max host.authRateWindowSeconds host.claimAuthorizationRateWindowSeconds

/-- The timestamps of a bucket that a window can still hold. -/
def recent (cfg : Settings P) (window now : ℕ) (row : Option StoredJson) : Except PyError (List ℤ) :=
  (stamps cfg row).map (List.filter fun stamp => (now : ℤ) - window < stamp)

/-- What the readers can tell of a row. -/
inductive Seen
  | unexpired (fields : Option (List (String × Json)))
  | timestamps (found : Except PyError (List ℤ))
  | whole (row : Option StoredJson)
  | nothing

def seen (cfg : Settings P) (host : SecurityHost) (now : ℕ) (key : MetadataKey) (row : Option StoredJson) : Seen :=
  match key with
  | .challenge _ | .session _ => .unexpired (live cfg now row)
  | .claimAuthorization _ => .unexpired ((live cfg now row).filter fun fields => hasStatus fields "issued")
  | .rate _ => .timestamps (recent cfg (longestWindow host) now row)
  | .user _ => .whole row
  | .cleanupCursor => .nothing

lemma recent_mono {window window' : ℕ} {row row' : Option StoredJson} (hcutoff : (now : ℤ) - window ≤ later - window')
    (h : recent cfg window now row = recent cfg window now row') :
    recent cfg window' later row = recent cfg window' later row' := by
  have hthrough : ∀ row, recent cfg window' later row =
      (recent cfg window now row).map (List.filter fun stamp => (later : ℤ) - window' < stamp) := by
    intro row
    unfold recent
    cases stamps cfg row with
    | error e => rfl
    | ok found =>
      change Except.ok _ = Except.ok _
      rw [List.filter_filter]
      congr 1
      apply List.filter_congr
      intro stamp _
      by_cases hlater : (later : ℤ) - window' < stamp
      · have hnow : (now : ℤ) - window < stamp := by omega
        simp [hlater, hnow]
      · simp [hlater]
  rw [hthrough row, hthrough row', h]

lemma seen_later (h : now ≤ later) {key : MetadataKey} {row row' : Option StoredJson}
    (hsame : seen cfg host now key row = seen cfg host now key row') :
    seen cfg host later key row = seen cfg host later key row' := by
  cases key with
  | challenge challengeId =>
    have hlive : live cfg now row = live cfg now row' := Seen.unexpired.inj hsame
    change Seen.unexpired _ = Seen.unexpired _
    rw [live_later h, hlive, ← live_later h]
  | session digest =>
    have hlive : live cfg now row = live cfg now row' := Seen.unexpired.inj hsame
    change Seen.unexpired _ = Seen.unexpired _
    rw [live_later h, hlive, ← live_later h]
  | claimAuthorization challengeId =>
    have hlive : (live cfg now row).filter (fun fields => hasStatus fields "issued") =
        (live cfg now row').filter fun fields => hasStatus fields "issued" := Seen.unexpired.inj hsame
    have hthrough : ∀ row, (live cfg later row).filter (fun fields => hasStatus fields "issued") =
        ((live cfg now row).filter fun fields => hasStatus fields "issued").bind fun fields =>
          live cfg later (some (.value (.obj fields))) := by
      intro row
      rw [live_later h]
      cases hnow : live cfg now row with
      | none => rfl
      | some fields =>
        by_cases hissued : hasStatus fields "issued" = true
        · cases hlater : live cfg later (some (.value (.obj fields))) with
          | none => simp [Option.filter_some, hlater, hissued]
          | some found =>
            obtain ⟨hfound, -⟩ := live_eq_some hlater
            obtain rfl : fields = found := by simpa using hfound
            simp [Option.filter_some, hlater, hissued]
        · cases hlater : live cfg later (some (.value (.obj fields))) with
          | none => simp [Option.filter_some, hlater, hissued]
          | some found =>
            obtain ⟨hfound, -⟩ := live_eq_some hlater
            obtain rfl : fields = found := by simpa using hfound
            simp [Option.filter_some, hlater, hissued]
    change Seen.unexpired _ = Seen.unexpired _
    rw [hthrough row, hthrough row', hlive]
  | rate bucket =>
    have hrecent : recent cfg (longestWindow host) now row = recent cfg (longestWindow host) now row' :=
      Seen.timestamps.inj hsame
    change Seen.timestamps _ = Seen.timestamps _
    have hcutoff : (now : ℤ) - longestWindow host ≤ later - longestWindow host := by omega
    rw [recent_mono hcutoff hrecent]
  | user userId =>
    have hrow : row = row' := Seen.whole.inj hsame
    rw [hrow]
  | cleanupCursor => rfl

end Seen

section Agreement

variable {cfg : Settings P} {host : SecurityHost} {now later : ℕ} {a b c : AppMetadata} {key : MetadataKey}

/-- The readers cannot tell the two tables apart, now or later. -/
def Agree (cfg : Settings P) (host : SecurityHost) (now : ℕ) (a b : AppMetadata) : Prop :=
  ∀ key, seen cfg host now key (a.value? key) = seen cfg host now key (b.value? key)

lemma Agree.refl (md : AppMetadata) : Agree cfg host now md md := fun _ => rfl

lemma Agree.symm (h : Agree cfg host now a b) : Agree cfg host now b a := fun key => (h key).symm

lemma Agree.trans (h : Agree cfg host now a b) (h' : Agree cfg host now b c) : Agree cfg host now a c :=
  fun key => (h key).trans (h' key)

lemma Agree.still (h : Agree cfg host now a b) (hlater : now ≤ later) : Agree cfg host later a b :=
  fun key => seen_later hlater (h key)

lemma Agree.setJson (h : Agree cfg host now a b) (value : Json) :
    Agree cfg host now (a.setJson key value) (b.setJson key value) := by
  intro key'
  rw [value?_setJson, value?_setJson]
  split_ifs
  · rfl
  · exact h key'

lemma Agree.pop (h : Agree cfg host now a b) : Agree cfg host now (Dict.pop a key) (Dict.pop b key) := by
  intro key'
  rw [value?_pop, value?_pop]
  split_ifs
  · rfl
  · exact h key'

/-- Deleting what the readers do not see. -/
lemma agree_pop (h : seen cfg host now key (a.value? key) = seen cfg host now key none) :
    Agree cfg host now (Dict.pop a key) a := by
  intro key'
  rw [value?_pop]
  split_ifs with hkey
  · subst hkey
    exact h.symm
  · rfl

lemma agree_getJson (hkey : ∀ userId, key ≠ .user userId) {value : Option Json} (h : a.getJson key = .ok (b, value)) :
    Agree cfg host now b a := by
  rcases getJson_ok h with rfl | ⟨hmalformed, rfl⟩
  · exact .refl b
  · apply agree_pop
    rw [hmalformed]
    cases key with
    | user userId => exact absurd rfl (hkey userId)
    | challenge challengeId => rfl
    | session digest => rfl
    | claimAuthorization challengeId => rfl
    | rate bucket => rfl
    | cleanupCursor => rfl

/-- A binding is the same in both. -/
lemma Agree.user (h : Agree cfg host now a b) (userId : ℤ) : a.value? (.user userId) = b.value? (.user userId) :=
  Seen.whole.inj (h (.user userId))

lemma Agree.getJsonUser (h : Agree cfg host now a b) (userId : ℤ) :
    (∃ e, a.getJson (.user userId) = .error e ∧ b.getJson (.user userId) = .error e) ∨
      ∃ a' b' value, a.getJson (.user userId) = .ok (a', value) ∧ b.getJson (.user userId) = .ok (b', value) ∧
        Agree cfg host now a' b' := by
  have hsame := h.user userId
  unfold getJson
  rw [hsame]
  cases b.value? (.user userId) with
  | none => exact Or.inr ⟨a, b, none, rfl, rfl, h⟩
  | some value =>
    cases value with
    | malformed => exact Or.inr ⟨_, _, none, rfl, rfl, h.pop⟩
    | tooDeep => exact Or.inl ⟨_, rfl, rfl⟩
    | value value => exact Or.inr ⟨a, b, some value, rfl, rfl, h⟩

end Agreement

section Passes

variable {cfg : Settings P} {host : SecurityHost} {now limit : ℕ} {md made : AppMetadata} {key : MetadataKey}
  {row : MetadataRow}

lemma seen_unexpired_dead {fields : List (String × Json)} {expiresAt : ℤ}
    (hexpires : Json.intOrZero cfg fields "expires_at" = .ok (some expiresAt)) (hdead : expiresAt ≤ now) :
    live cfg now (some (.value (.obj fields))) = none := by
  unfold live
  dsimp only
  rw [hexpires]
  exact if_neg (by omega)

lemma live_unreadable {fields : List (String × Json)} (hexpires : Json.intOrZero cfg fields "expires_at" = .ok none) :
    live cfg now (some (.value (.obj fields))) = none := by
  unfold live
  dsimp only
  rw [hexpires]

/-- An authorization that is not issued is not seen. -/
lemma seen_authorization_none {challengeId : String} {fields : List (String × Json)}
    (h : live cfg now (some (.value (.obj fields))) = none ∨ hasStatus fields "issued" = false) :
    seen cfg host now (.claimAuthorization challengeId) (some (.value (.obj fields))) =
      seen cfg host now (.claimAuthorization challengeId) none := by
  change Seen.unexpired _ = Seen.unexpired none
  congr 1
  rcases h with hdead | hstatus
  · rw [hdead]
    rfl
  · cases hlive : live cfg now (some (.value (.obj fields))) with
    | none => rfl
    | some found =>
      obtain ⟨hfound, -⟩ := live_eq_some hlive
      obtain rfl : fields = found := by simpa using hfound
      exact Option.filter_some_neg hstatus

lemma hasStatus_false {fields : List (String × Json)} {state : String} (h : Json.textOf fields "status" ≠ state) :
    hasStatus fields state = false := by
  unfold hasStatus
  unfold Json.textOf at h
  split
  · next found hfound =>
    rw [hfound] at h
    simpa [Json.text] using h
  · rfl

lemma isRemovable_unseen (hkey : row.1.isClaimAuthorization = true) (h : isRemovable cfg host now row.2 = .ok true) :
    seen cfg host now row.1 (some row.2) = seen cfg host now row.1 none := by
  obtain ⟨key, value⟩ := row
  cases key with
  | claimAuthorization challengeId =>
    unfold isRemovable at h
    cases value with
    | malformed => rfl
    | tooDeep => cases h
    | value value =>
      cases value with
      | obj fields =>
        dsimp only at h
        split at h
        · cases h
        · cases h
        · next expiresAt hexpires =>
          apply seen_authorization_none
          by_cases hissued : Json.textOf fields "status" = "issued"
          · have hspent : expiresAt ≤ now := by
              simp only [hissued] at h
              simpa using h
            exact Or.inl (seen_unexpired_dead hexpires hspent)
          · exact Or.inr (hasStatus_false hissued)
      | null => rfl
      | bool value => rfl
      | int value => rfl
      | float text value => rfl
      | str value => rfl
      | arr items => rfl
  | challenge challengeId => cases hkey
  | session digest => cases hkey
  | rate bucket => cases hkey
  | user userId => cases hkey
  | cleanupCursor => cases hkey

/-- Deleting rows no reader sees, one after the other. -/
lemma agree_foldl_pop {rows : List (MetadataKey × Bool)}
    (h : ∀ row ∈ rows, seen cfg host now row.1 (md.value? row.1) = seen cfg host now row.1 none)
    (hmade : Agree cfg host now made md) : Agree cfg host now (rows.foldl (fun md row => Dict.pop md row.1) made) md := by
  induction rows generalizing made with
  | nil => exact hmade
  | cons row rows ih =>
    rw [List.foldl_cons]
    apply ih
    · intro row' hrow'
      exact h row' (List.mem_cons_of_mem row hrow')
    · have hunseen : seen cfg host now row.1 (made.value? row.1) = seen cfg host now row.1 none :=
        (hmade row.1).trans (h row List.mem_cons_self)
      exact (agree_pop hunseen).trans hmade

lemma cleanupClaimAuthorizations_agree (h : cleanupClaimAuthorizations cfg host md now = .ok made) :
    Agree cfg host now made md := by
  unfold cleanupClaimAuthorizations at h
  split at h
  · cases h
  · next rows hrows =>
    obtain rfl := Except.ok.inj h
    apply agree_foldl_pop _ (.refl md)
    intro swept hswept
    obtain ⟨hmem, hremovable⟩ := List.mem_filter.mp hswept
    obtain ⟨row, hrow, hfound⟩ := mapM_ok_mem hrows swept hmem
    obtain ⟨hstored, hkey⟩ := mem_page hrow
    cases hremove : isRemovable cfg host now row.2 with
    | error e =>
      rw [hremove] at hfound
      cases hfound
    | ok removable =>
      rw [hremove] at hfound
      obtain rfl : (row.1, removable) = swept := Except.ok.inj hfound
      dsimp only at hremovable ⊢
      subst hremovable
      rw [value?_of_mem hstored]
      exact isRemovable_unseen hkey hremove

lemma mapM_toInt_int (xs : List ℤ) : (xs.map Json.int).mapM (Json.toInt cfg) = .ok (xs.map some) := by
  induction xs with
  | nil => rfl
  | cons x xs ih =>
    rw [List.map_cons, List.mapM_cons, ih]
    rfl

lemma recent_bucket {items : List Json} {found : List (Option ℤ)} (h : items.mapM (Json.toInt cfg) = .ok found)
    (window : ℕ) : recent cfg window now (some (.value (.arr items))) =
      .ok ((found.filterMap id).filter fun stamp => (now : ℤ) - window < stamp) := by
  unfold recent stamps
  dsimp only
  rw [h]
  rfl

lemma recent_ints (xs : List ℤ) (window : ℕ) : recent cfg window now (some (.value (.arr (xs.map .int)))) =
    .ok (xs.filter fun stamp => (now : ℤ) - window < stamp) := by
  rw [recent_bucket (mapM_toInt_int xs), List.filterMap_map]
  simp

lemma pruneAuthorization_unseen {challengeId : String} {fields : List (String × Json)}
    (h : pruneAuthorization cfg host now fields = .ok .delete) :
    seen cfg host now (.claimAuthorization challengeId) (some (.value (.obj fields))) =
      seen cfg host now (.claimAuthorization challengeId) none := by
  apply seen_authorization_none
  unfold pruneAuthorization at h
  split at h
  · cases h
  · next hexpires => exact Or.inl (live_unreadable hexpires)
  · next expiresAt hexpires =>
    by_cases hissued : Json.textOf fields "status" = "issued"
    · dsimp only at h
      rw [if_pos hissued] at h
      by_cases hspent : expiresAt ≤ now
      · exact Or.inl (seen_unexpired_dead hexpires hspent)
      · rw [if_neg hspent] at h
        cases h
    · exact Or.inr (hasStatus_false hissued)

lemma pruneExpiring_dead {fields : List (String × Json)} (h : pruneExpiring cfg now fields = .ok .delete) :
    live cfg now (some (.value (.obj fields))) = none := by
  unfold pruneExpiring at h
  split at h
  · cases h
  · next hexpires => exact live_unreadable hexpires
  · next expiresAt hexpires =>
    by_cases hspent : expiresAt ≤ now
    · exact seen_unexpired_dead hexpires hspent
    · rw [if_neg hspent] at h
      cases h

/-- What the pass leaves of a bucket holds the same recent timestamps. -/
lemma pruneBucket_recent {items : List Json} {pruned : Pruned} (h : pruneBucket cfg host now items = .ok pruned) :
    (pruned = .delete → recent cfg (longestWindow host) now (some (.value (.arr items))) = .ok []) ∧
      ∀ kept, pruned = .update kept → recent cfg (longestWindow host) now (some (.value (.arr items))) = .ok kept ∧
        recent cfg (longestWindow host) now (some (.value (.arr (kept.map .int)))) = .ok kept := by
  unfold pruneBucket at h
  cases hitems : items.mapM (Json.toInt cfg) with
  | error e =>
    rw [hitems] at h
    cases h
  | ok found =>
    rw [hitems] at h
    dsimp only at h
    rw [recent_bucket hitems]
    change (if (found.filterMap id).filter (fun stamp => decide ((now : ℤ) - longestWindow host < stamp)) = [] then _
      else _ : Except PyError Pruned) = _ at h
    have hagain : ((found.filterMap id).filter fun stamp => decide ((now : ℤ) - longestWindow host < stamp)).filter
        (fun stamp => decide ((now : ℤ) - longestWindow host < stamp)) =
          (found.filterMap id).filter fun stamp => decide ((now : ℤ) - longestWindow host < stamp) := by
      rw [List.filter_filter]
      simp
    constructor
    · rintro rfl
      split_ifs at h with hnone hsame
      · rw [hnone]
      · cases h
      · cases h
    · rintro kept rfl
      split_ifs at h with hnone hsame
      · cases h
      · cases h
      · have hkept := Pruned.update.inj (Except.ok.inj h)
        rw [recent_ints, ← hkept]
        exact ⟨rfl, congrArg Except.ok hagain⟩

/-- A pass deletes what no reader sees. -/
lemma pruneValue_unseen (hephemeral : row.1.isEphemeral = true) (h : pruneValue cfg host now row = .ok .delete) :
    seen cfg host now row.1 (some row.2) = seen cfg host now row.1 none := by
  obtain ⟨key, value⟩ := row
  cases key with
  | user userId => cases hephemeral
  | cleanupCursor => cases hephemeral
  | challenge challengeId =>
    cases value with
    | malformed => rfl
    | tooDeep => cases h
    | value value =>
      cases value with
      | obj fields => exact congrArg Seen.unexpired (pruneExpiring_dead h)
      | _ => rfl
  | session digest =>
    cases value with
    | malformed => rfl
    | tooDeep => cases h
    | value value =>
      cases value with
      | obj fields => exact congrArg Seen.unexpired (pruneExpiring_dead h)
      | _ => rfl
  | claimAuthorization challengeId =>
    cases value with
    | malformed => rfl
    | tooDeep => cases h
    | value value =>
      cases value with
      | obj fields => exact pruneAuthorization_unseen h
      | _ => rfl
  | rate bucket =>
    cases value with
    | malformed => rfl
    | tooDeep => cases h
    | value value =>
      cases value with
      | arr items => exact congrArg Seen.timestamps ((pruneBucket_recent h).1 rfl)
      | _ => rfl

/-- Only a bucket is rewritten. -/
lemma pruneValue_update {kept : List ℤ} (h : pruneValue cfg host now row = .ok (.update kept)) :
    seen cfg host now row.1 (some row.2) = seen cfg host now row.1 (some (.value (.arr (kept.map .int)))) := by
  have hexpiring : ∀ fields, pruneExpiring cfg now fields ≠ .ok (.update kept) := by
    intro fields hupdate
    unfold pruneExpiring at hupdate
    split at hupdate
    · cases hupdate
    · cases hupdate
    · split_ifs at hupdate <;> cases hupdate
  have hauthorization : ∀ fields, pruneAuthorization cfg host now fields ≠ .ok (.update kept) := by
    intro fields hupdate
    unfold pruneAuthorization at hupdate
    split at hupdate
    · cases hupdate
    · cases hupdate
    · dsimp only at hupdate
      split_ifs at hupdate <;> cases hupdate
  obtain ⟨key, value⟩ := row
  cases value with
  | malformed => cases key <;> cases h
  | tooDeep => cases key <;> cases h
  | value value =>
    cases key with
    | user userId => cases h
    | cleanupCursor => cases h
    | challenge challengeId =>
      cases value with
      | obj fields => exact absurd h (hexpiring fields)
      | _ => cases h
    | session digest =>
      cases value with
      | obj fields => exact absurd h (hexpiring fields)
      | _ => cases h
    | claimAuthorization challengeId =>
      cases value with
      | obj fields => exact absurd h (hauthorization fields)
      | _ => cases h
    | rate bucket =>
      cases value with
      | arr items =>
        obtain ⟨hbefore, hafter⟩ := (pruneBucket_recent h).2 kept rfl
        exact congrArg Seen.timestamps (hbefore.trans hafter.symm)
      | _ => cases h

lemma pruneRow_agree (hephemeral : row.1.isEphemeral = true)
    (hrow : seen cfg host now row.1 (made.value? row.1) = seen cfg host now row.1 (some row.2)) {next : AppMetadata}
    (h : pruneRow cfg host now made row = .ok next) : Agree cfg host now next made := by
  unfold pruneRow at h
  cases hpruned : pruneValue cfg host now row with
  | error e =>
    rw [hpruned] at h
    cases h
  | ok pruned =>
    rw [hpruned] at h
    cases pruned with
    | keep =>
      obtain rfl := Except.ok.inj h
      exact .refl made
    | update kept =>
      obtain rfl := Except.ok.inj h
      intro key
      rw [value?_setJson]
      split_ifs with hkey
      · subst hkey
        exact ((hrow.trans (pruneValue_update hpruned))).symm
      · rfl
    | delete =>
      obtain rfl := Except.ok.inj h
      exact agree_pop (hrow.trans (pruneValue_unseen hephemeral hpruned))

lemma pruneRows_agree {rows : List MetadataRow} {next : AppMetadata}
    (hrows : ∀ row ∈ rows, row ∈ md.rows ∧ row.1.isEphemeral = true) (hmade : Agree cfg host now made md)
    (h : rows.foldlM (pruneRow cfg host now) made = .ok next) : Agree cfg host now next md := by
  induction rows generalizing made with
  | nil =>
    obtain rfl := Except.ok.inj h
    exact hmade
  | cons row rows ih =>
    obtain ⟨hmem, hephemeral⟩ := hrows row List.mem_cons_self
    rw [List.foldlM_cons] at h
    cases hpruned : pruneRow cfg host now made row with
    | error e =>
      rw [hpruned] at h
      cases h
    | ok pruned =>
      rw [hpruned] at h
      have hrow : seen cfg host now row.1 (made.value? row.1) = seen cfg host now row.1 (some row.2) := by
        rw [← value?_of_mem hmem]
        exact hmade row.1
      have hnext := (pruneRow_agree hephemeral hrow hpruned).trans hmade
      exact ih (fun row' hrow' => hrows row' (List.mem_cons_of_mem row hrow')) hnext h

/-- A pass changes nothing a reader sees. -/
lemma cleanup_agree (cfg : Settings P) (host : SecurityHost) (md : AppMetadata) (now limit : ℕ) :
    Agree cfg host now (md.cleanup cfg host now limit) md := by
  unfold cleanup
  cases hpage : cleanupPage cfg host md now limit with
  | error e => exact .refl md
  | ok made =>
    unfold cleanupPage at hpage
    cases hread : md.getJson .cleanupCursor with
    | error e =>
      rw [hread] at hpage
      cases hpage
    | ok read =>
    obtain ⟨md', value⟩ := read
    have hcursor : Agree cfg host now md' md := agree_getJson (by simp) hread
    rw [hread] at hpage
    dsimp only at hpage
    generalize hrows : md'.nextPage (cursorOf value) (max 1 limit) = rows at hpage
    have hmem : ∀ row ∈ rows, row ∈ md'.rows ∧ row.1.isEphemeral = true := by
      intro row hrow
      rw [← hrows] at hrow
      unfold nextPage at hrow
      dsimp only at hrow
      split_ifs at hrow
      · exact mem_page hrow
      · exact mem_page hrow
    cases hpruned : rows.foldlM (pruneRow cfg host now) md' with
    | error e =>
      rw [hpruned] at hpage
      cases hpage
    | ok pruned =>
      rw [hpruned] at hpage
      have hkept := (pruneRows_agree hmem (.refl md') hpruned).trans hcursor
      dsimp only at hpage
      split at hpage
      · next row hlast =>
        obtain rfl := Except.ok.inj hpage
        refine Agree.trans (fun key => ?_) hkept
        rw [value?_setJson]
        split_ifs with hkey
        · subst hkey
          rfl
        · rfl
      · obtain rfl := Except.ok.inj hpage
        exact (agree_pop rfl).trans hkept

end Passes

section Requests

variable {cfg : Settings P} {host : SecurityHost} {now : ℕ} {a b : AppMetadata}

lemma getJson_object {md : AppMetadata} {key : MetadataKey} {value : Json} (h : md.value? key = some (.value value)) :
    md.getJson key = .ok (md, some value) := by
  unfold getJson
  rw [h]

lemma object?_eq_some {md : AppMetadata} {key : MetadataKey} {fields : List (String × Json)} :
    md.object? key = .ok (some fields) ↔ md.value? key = some (.value (.obj fields)) := by
  unfold object?
  constructor
  · intro h
    split at h
    · next found hrow => rw [hrow, Option.some.inj (Except.ok.inj h)]
    · cases h
    · cases h
  · intro h
    rw [h]

/-- The session a token stands for. -/
def sessionOf (cfg : Settings P) (host : SecurityHost) (md : AppMetadata) (token : Option String)
    (deviceIdHash : String) (now : ℕ) : Option Session :=
  (token.filter (· ≠ "")).bind fun token =>
    (live cfg now (md.value? (.session (host.sha256Text token)))).bind fun fields =>
      (readSession cfg fields deviceIdHash).toOption.join

lemma loadSession_eq (md : AppMetadata) (token : Option String) (deviceIdHash : String) :
    (∃ made, loadSession cfg host md token deviceIdHash now = .ok (made, sessionOf cfg host md token deviceIdHash now) ∧
      Agree cfg host now made md) ∨
    ((∃ e, loadSession cfg host md token deviceIdHash now = .error e) ∧
      sessionOf cfg host md token deviceIdHash now = none) := by
  unfold loadSession sessionOf
  cases token.filter (· ≠ "") with
  | none => exact Or.inl ⟨md, rfl, .refl md⟩
  | some token =>
    dsimp only [Option.bind_some]
    cases hrow : md.value? (.session (host.sha256Text token)) with
    | none =>
      refine Or.inl ⟨md, ?_, .refl md⟩
      unfold getJson
      rw [hrow]
      rfl
    | some value =>
      cases value with
      | malformed =>
        rw [getJson_malformed hrow]
        refine Or.inl ⟨_, rfl, agree_pop ?_⟩
        rw [hrow]
        rfl
      | tooDeep =>
        rw [getJson_tooDeep hrow]
        exact Or.inr ⟨⟨_, rfl⟩, rfl⟩
      | value value =>
        rw [getJson_object hrow]
        cases value with
        | obj fields =>
          dsimp only
          cases hexpires : Json.intOrZero cfg fields "expires_at" with
          | error e =>
            refine Or.inr ⟨⟨_, rfl⟩, ?_⟩
            unfold live
            dsimp only
            rw [hexpires]
            rfl
          | ok found =>
            cases found with
            | none =>
              refine Or.inr ⟨⟨_, rfl⟩, ?_⟩
              rw [live_unreadable hexpires]
              rfl
            | some expiresAt =>
              dsimp only
              by_cases hdead : expiresAt ≤ now
              · rw [if_pos hdead]
                have hnone := seen_unexpired_dead hexpires hdead
                refine Or.inl ⟨Dict.pop md (.session (host.sha256Text token)), ?_, agree_pop ?_⟩
                · rw [hnone]
                  rfl
                · rw [hrow]
                  exact congrArg Seen.unexpired hnone
              · rw [if_neg hdead, live_obj hexpires (by omega)]
                dsimp only [Option.bind_some]
                cases readSession cfg fields deviceIdHash with
                | error e => exact Or.inr ⟨⟨e, rfl⟩, rfl⟩
                | ok session => exact Or.inl ⟨md, rfl, .refl md⟩
        | _ => exact Or.inl ⟨md, rfl, .refl md⟩

lemma Agree.same_session (h : Agree cfg host now a b) (token : Option String) (deviceIdHash : String) :
    sessionOf cfg host a token deviceIdHash now = sessionOf cfg host b token deviceIdHash now := by
  unfold sessionOf
  congr 1
  funext token
  have hlive : live cfg now (a.value? (.session (host.sha256Text token))) =
      live cfg now (b.value? (.session (host.sha256Text token))) :=
    Seen.unexpired.inj (h (.session (host.sha256Text token)))
  rw [hlive]

/-- Both admissions raise, or both end alike. -/
def SameAdmission (cfg : Settings P) (host : SecurityHost) (now : ℕ) (x y : Except PyError (AppMetadata × Admission)) :
    Prop :=
  (∃ e e', x = .error e ∧ y = .error e') ∨
    ∃ a b admission, x = .ok (a, admission) ∧ y = .ok (b, admission) ∧ Agree cfg host now a b

lemma Agree.admitTimestamp (h : Agree cfg host now a b) {window : ℕ} (hwindow : window ≤ longestWindow host)
    (bucket : String) (limit : ℕ) :
    SameAdmission cfg host now (admitTimestamp cfg a bucket now window limit)
      (admitTimestamp cfg b bucket now window limit) := by
  have hlongest : recent cfg (longestWindow host) now (a.value? (.rate bucket)) =
      recent cfg (longestWindow host) now (b.value? (.rate bucket)) := Seen.timestamps.inj (h (.rate bucket))
  have hcutoff : (now : ℤ) - longestWindow host ≤ now - window := by omega
  have hrecent := recent_mono hcutoff hlongest
  unfold recent at hrecent
  unfold AppMetadata.admitTimestamp
  cases hleft : stamps cfg (a.value? (.rate bucket)) with
  | error e =>
    cases hright : stamps cfg (b.value? (.rate bucket)) with
    | error e' => exact Or.inl ⟨e, e', rfl, rfl⟩
    | ok found =>
      rw [hleft, hright] at hrecent
      cases hrecent
  | ok found =>
    cases hright : stamps cfg (b.value? (.rate bucket)) with
    | error e' =>
      rw [hleft, hright] at hrecent
      cases hrecent
    | ok found' =>
      rw [hleft, hright] at hrecent
      have hsame := Except.ok.inj hrecent
      dsimp only
      rw [hsame]
      split_ifs
      · exact Or.inr ⟨_, _, _, rfl, rfl, h.setJson _⟩
      · exact Or.inr ⟨_, _, _, rfl, rfl, h.setJson _⟩

lemma Agree.admitBoth (h : Agree cfg host now a b) {window : ℕ} (hwindow : window ≤ longestWindow host)
    (first second : String × ℕ) :
    SameAdmission cfg host now (admitBoth cfg a now window first second) (admitBoth cfg b now window first second) := by
  unfold AppMetadata.admitBoth
  rcases h.admitTimestamp hwindow first.1 first.2 with ⟨e, e', hleft, hright⟩ | ⟨a', b', one, hleft, hright, hagree⟩
  · rw [hleft, hright]
    exact Or.inl ⟨e, e', rfl, rfl⟩
  rw [hleft, hright]
  dsimp only
  rcases hagree.admitTimestamp hwindow second.1 second.2 with
    ⟨e, e', hleft', hright'⟩ | ⟨a'', b'', two, hleft', hright', hagree'⟩
  · rw [hleft', hright']
    exact Or.inl ⟨e, e', rfl, rfl⟩
  · rw [hleft', hright']
    exact Or.inr ⟨a'', b'', _, rfl, rfl, hagree'⟩

/-- The tables agree afterwards, and both requests are accepted or both are not. -/
structure SameAnswer (cfg : Settings P) (host : SecurityHost) (now : ℕ) (x y : AppMetadata × Except Refusal Unit) :
    Prop where
  tables : Agree cfg host now x.1 y.1
  accepted : x.2.isOk = y.2.isOk

lemma SameAnswer.refuse {e e' : Refusal} (h : Agree cfg host now a b) :
    SameAnswer cfg host now (a, .error e) (b, .error e') := ⟨h, rfl⟩

lemma Agree.createChallenge (h : Agree cfg host now a b) (req : ChallengeRequest) :
    SameAnswer cfg host now (createChallenge cfg host a now req) (createChallenge cfg host b now req) := by
  unfold AppMetadata.createChallenge
  rcases h.admitBoth (le_max_left _ _) ("challenge:ip:" ++ req.ipHash, host.authRateLimitPerIp)
      ("challenge:device:" ++ req.deviceIdHash, host.authRateLimitPerDevice) with
    ⟨e, e', hleft, hright⟩ | ⟨a', b', admission, hleft, hright, hagree⟩
  · rw [hleft, hright]
    exact .refuse h
  · rw [hleft, hright]
    dsimp only
    split_ifs
    · exact .refuse hagree
    · exact ⟨hagree.setJson _, rfl⟩

lemma Agree.completeVerification (h : Agree cfg host now a b) {req : VerifyRequest} {fields : List (String × Json)}
    (hleft : a.value? (.challenge req.challengeId) = some (.value (.obj fields)))
    (hright : b.value? (.challenge req.challengeId) = some (.value (.obj fields))) (deviceIdHash : String)
    (walletAddress : Address) :
    SameAnswer cfg host now (completeVerification cfg host a now deviceIdHash walletAddress req)
      (completeVerification cfg host b now deviceIdHash walletAddress req) := by
  unfold AppMetadata.completeVerification
  rw [getJson_object hleft, getJson_object hright]
  dsimp only
  cases Json.intOrZero cfg fields "expires_at" with
  | error e => exact .refuse h
  | ok found =>
    cases found with
    | none => exact .refuse h
    | some expiresAt =>
      dsimp only
      split_ifs
      · exact .refuse h
      · exact .refuse h
      · cases req.registration with
        | error retryAt => exact .refuse h
        | ok userId =>
          rcases h.getJsonUser userId with ⟨e, hl, hr⟩ | ⟨a', b', binding, hl, hr, hread⟩
          · dsimp only
            rw [hl, hr]
            exact .refuse h
          · dsimp only
            rw [hl, hr]
            dsimp only
            split_ifs
            · exact .refuse hread
            · exact ⟨((hread.setJson _).setJson _).pop, rfl⟩

/-- A challenge no reader sees is refused. -/
lemma securityVerify_dead {md : AppMetadata} {req : VerifyRequest} (deviceIdHash : String)
    (hdead : live cfg now (md.value? (.challenge req.challengeId)) = none) :
    ∃ made e, securityVerify cfg host md now deviceIdHash req = (made, .error e) ∧ Agree cfg host now made md := by
  unfold securityVerify
  rcases hobject : md.object? (.challenge req.challengeId) with e | found
  · exact ⟨md, _, rfl, .refl md⟩
  cases found with
  | none => exact ⟨md, _, rfl, .refl md⟩
  | some fields =>
    rw [object?_eq_some] at hobject
    dsimp only
    by_cases hdevice : Json.textOf fields "device_id_hash" ≠ deviceIdHash
    · rw [if_pos hdevice]
      exact ⟨md, _, rfl, .refl md⟩
    rw [if_neg hdevice]
    cases hexpires : Json.intOrZero cfg fields "expires_at" with
    | error e => exact ⟨md, _, rfl, .refl md⟩
    | ok found =>
      cases found with
      | none => exact ⟨md, _, rfl, .refl md⟩
      | some expiresAt =>
        by_cases hspent : expiresAt ≤ now
        · dsimp only
          rw [if_pos hspent]
          refine ⟨_, _, rfl, agree_pop ?_⟩
          exact congrArg Seen.unexpired hdead
        · rw [hobject, live_obj hexpires (by omega)] at hdead
          cases hdead

lemma Agree.securityVerify (h : Agree cfg host now a b) (deviceIdHash : String) (req : VerifyRequest) :
    SameAnswer cfg host (now + req.verificationSeconds) (securityVerify cfg host a now deviceIdHash req)
      (securityVerify cfg host b now deviceIdHash req) := by
  have hlater : now ≤ now + req.verificationSeconds := by omega
  have hlive : live cfg now (a.value? (.challenge req.challengeId)) =
      live cfg now (b.value? (.challenge req.challengeId)) := Seen.unexpired.inj (h (.challenge req.challengeId))
  cases hseen : live cfg now (a.value? (.challenge req.challengeId)) with
  | none =>
    obtain ⟨a', e, hleft, ha⟩ := @securityVerify_dead P cfg host now a req deviceIdHash hseen
    obtain ⟨b', e', hright, hb⟩ := @securityVerify_dead P cfg host now b req deviceIdHash (hlive.symm.trans hseen)
    rw [hleft, hright]
    exact .refuse (((ha.trans h).trans hb.symm).still hlater)
  | some fields =>
    obtain ⟨hleft, -⟩ := live_eq_some hseen
    obtain ⟨hright, -⟩ := live_eq_some (hlive.symm.trans hseen)
    unfold AppMetadata.securityVerify
    rw [object?_eq_some.mpr hleft, object?_eq_some.mpr hright]
    dsimp only
    split_ifs
    · exact .refuse (h.still hlater)
    · cases Json.intOrZero cfg fields "expires_at" with
      | error e => exact .refuse (h.still hlater)
      | ok found =>
        cases found with
        | none => exact .refuse (h.still hlater)
        | some expiresAt =>
          dsimp only
          split_ifs
          · exact .refuse (h.pop.still hlater)
          · cases Json.get fields "message" with
            | none => exact .refuse (h.still hlater)
            | some message =>
              dsimp only
              cases host.verifySignature message req.publicKey req.signature with
              | error code => exact .refuse (h.still hlater)
              | ok walletAddress => exact (h.still hlater).completeVerification hleft hright deviceIdHash walletAddress

lemma Agree.verify (h : Agree cfg host now a b) (req : VerifyRequest) :
    SameAnswer cfg host (now + req.verificationSeconds) (verify cfg host a now req) (verify cfg host b now req) := by
  have hlater : now ≤ now + req.verificationSeconds := by omega
  have hadmitted : SameAdmission cfg host now (admitVerification cfg host a now req)
      (admitVerification cfg host b now req) := by
    unfold admitVerification
    cases req.deviceIdHash with
    | none => exact h.admitTimestamp (le_max_left _ _) _ _
    | some deviceIdHash => exact h.admitBoth (le_max_left _ _) _ _
  unfold AppMetadata.verify
  rcases hadmitted with ⟨e, e', hleft, hright⟩ | ⟨a', b', admission, hleft, hright, hagree⟩
  · rw [hleft, hright]
    exact .refuse (h.still hlater)
  · rw [hleft, hright]
    dsimp only
    split_ifs
    · exact .refuse (hagree.still hlater)
    · cases req.deviceIdHash with
      | none => exact .refuse (hagree.still hlater)
      | some deviceIdHash => exact hagree.securityVerify deviceIdHash req

lemma Agree.issueAuthorization (h : Agree cfg host now a b) (req : PrepareRequest) :
    SameAnswer cfg host now (issueAuthorization cfg host a now req) (issueAuthorization cfg host b now req) := by
  have hsession := h.same_session req.sessionToken req.deviceIdHash
  unfold AppMetadata.issueAuthorization
  rcases @loadSession_eq P cfg host now a req.sessionToken req.deviceIdHash with ⟨a', hleft, ha⟩ | ⟨⟨e, hleft⟩, hnone⟩
  · rcases @loadSession_eq P cfg host now b req.sessionToken req.deviceIdHash with
      ⟨b', hright, hb⟩ | ⟨⟨e', hright⟩, hnone'⟩
    · have hread : Agree cfg host now a' b' := (ha.trans h).trans hb.symm
      rw [hleft, hright, hsession]
      cases sessionOf cfg host b req.sessionToken req.deviceIdHash now with
      | none => exact .refuse hread
      | some session =>
        dsimp only
        split_ifs
        · exact .refuse hread
        · cases canonicalOptionalAddress cfg (some session.walletAddress) with
          | none => exact .refuse hread
          | some walletAddress =>
            dsimp only
            rcases hread.admitBoth (le_max_right _ _)
                ("claim_authorization:device:" ++ req.deviceIdHash, host.claimAuthorizationRatePerDevice)
                ("claim_authorization:wallet:" ++ host.sha256Text walletAddress, host.claimAuthorizationRatePerWallet)
                with ⟨e, e', hl, hr⟩ | ⟨a'', b'', admission, hl, hr, hagree⟩
            · rw [hl, hr]
              exact .refuse hread
            · rw [hl, hr]
              dsimp only
              split_ifs
              · exact .refuse hagree
              · exact ⟨hagree.setJson _, rfl⟩
    · rw [hleft, hright, hsession, hnone']
      exact .refuse (ha.trans h)
  · rcases @loadSession_eq P cfg host now b req.sessionToken req.deviceIdHash with
      ⟨b', hright, hb⟩ | ⟨⟨e', hright⟩, hnone'⟩
    · rw [hleft, hright, ← hsession, hnone]
      exact .refuse (h.trans hb.symm)
    · rw [hleft, hright]
      exact .refuse h

end Requests

section Consumption

variable {cfg : Settings P} {host : SecurityHost} {now : ℕ} {a b : AppMetadata} {key : MetadataKey}

lemma Agree.retire (h : Agree cfg host now a b) (key : MetadataKey) (refusal : Refusal) :
    SameAnswer cfg host now (retire a key refusal) (retire b key refusal) := ⟨h.pop, rfl⟩

lemma Agree.finishAttempt (h : Agree cfg host now a b) {fields : List (String × Json)}
    (hleft : a.value? key = some (.value (.obj fields))) (hright : b.value? key = some (.value (.obj fields)))
    (req : ConsumeRequest) : SameAnswer cfg host now (finishAttempt a key req) (finishAttempt b key req) := by
  unfold AppMetadata.finishAttempt
  by_cases hfresh : req.freshAllowed = false
  · rw [if_pos hfresh, if_pos hfresh]
    exact h.retire key _
  rw [if_neg hfresh, if_neg hfresh, getJson_object hleft, getJson_object hright]
  dsimp only
  by_cases hused : hasStatus fields "verifying" = false
  · rw [if_pos hused, if_pos hused]
    exact .refuse h
  rw [if_neg hused, if_neg hused]
  cases req.preclaimRetryAt with
  | some retryAt => exact (h.setJson _).retire key _
  | none =>
    dsimp only
    by_cases hcreated : req.claimCreated = false
    · rw [if_pos hcreated, if_pos hcreated]
      exact (h.setJson _).retire key _
    rw [if_neg hcreated, if_neg hcreated]
    refine ⟨?_, rfl⟩
    cases req.recorded
    · exact h.setJson _
    · exact (h.setJson _).pop

lemma Agree.attempt (h : Agree cfg host now a b) (req : ConsumeRequest) (session : Session) (proof : ClaimProof)
    (authorization : List (String × Json)) :
    SameAnswer cfg host now (attempt cfg host a now req session proof authorization)
      (attempt cfg host b now req session proof authorization) := by
  unfold AppMetadata.attempt
  dsimp only
  generalize Json.put (Json.put (Json.put authorization "status" (.str "verifying")) "verifying_at" (.int now))
    "proof_hash" (.str (host.sha256Text (proof.publicKey ++ ":" ++ proof.signature))) = verifying
  have hset : Agree cfg host now (a.setJson (.claimAuthorization proof.challengeId) (.obj verifying))
      (b.setJson (.claimAuthorization proof.challengeId) (.obj verifying)) := h.setJson _
  have hstored : ∀ md : AppMetadata, value? (md.setJson (.claimAuthorization proof.challengeId) (.obj verifying))
      (.claimAuthorization proof.challengeId) = some (.value (.obj verifying)) := by
    intro md
    rw [value?_setJson]
    exact if_pos rfl
  cases Json.get authorization "message" with
  | none => exact .refuse hset
  | some message =>
    dsimp only
    cases host.verifySignature message proof.publicKey proof.signature with
    | error code => exact hset.retire _ _
    | ok signer =>
      dsimp only
      split_ifs
      · exact hset.retire _ _
      · exact hset.finishAttempt (hstored a) (hstored b) req

/-- An authorization no reader sees is not open. -/
lemma isOpen_unseen {fields : List (String × Json)} {row : Option StoredJson}
    (hrow : row = some (.value (.obj fields)))
    (h : (live cfg now row).filter (fun fields => hasStatus fields "issued") = none) :
    isOpen cfg fields now ≠ .ok true := by
  subst hrow
  intro hopen
  unfold isOpen at hopen
  by_cases hissued : hasStatus fields "issued" = false
  · rw [if_pos hissued] at hopen
    cases hopen
  · rw [if_neg hissued] at hopen
    split at hopen
    · cases hopen
    · cases hopen
    · next expiresAt hexpires =>
      have hlive : (now : ℤ) < expiresAt := by simpa using hopen
      rw [live_obj hexpires hlive, Option.filter_some_pos (by simpa using hissued)] at h
      cases h

/-- What is left of a consumption once its session and its proof are there. -/
lemma consume_unseen {md : AppMetadata} {req : ConsumeRequest} {proof : ClaimProof} (hproof : req.proof = some proof)
    (hunseen : (live cfg now (md.value? (.claimAuthorization proof.challengeId))).filter
      (fun fields => hasStatus fields "issued") = none) :
    ∃ e, consume cfg host md now req = (md, .error e) := by
  unfold consume
  cases loadSession cfg host md req.sessionToken req.deviceIdHash now with
  | error e => exact ⟨e, rfl⟩
  | ok loaded =>
    obtain ⟨made, session⟩ := loaded
    dsimp only
    cases session.filter fun _ => req.userMatches with
    | none => exact ⟨_, rfl⟩
    | some session =>
      rw [hproof]
      dsimp only
      split_ifs
      · exact ⟨_, rfl⟩
      · rcases hobject : md.object? (.claimAuthorization proof.challengeId) with e | found
        · exact ⟨_, rfl⟩
        cases found with
        | none => exact ⟨_, rfl⟩
        | some authorization =>
          rw [object?_eq_some] at hobject
          have hclosed := isOpen_unseen hobject hunseen
          dsimp only
          cases hopen : isOpen cfg authorization now with
          | error e => exact ⟨e, rfl⟩
          | ok isOpen =>
            cases isOpen with
            | false => exact ⟨_, rfl⟩
            | true => exact absurd hopen hclosed

lemma Agree.consume (h : Agree cfg host now a b) (req : ConsumeRequest) :
    SameAnswer cfg host now (consume cfg host a now req) (consume cfg host b now req) := by
  cases hproof : req.proof with
  | none =>
    have hrefused : ∀ md : AppMetadata, ∃ e, AppMetadata.consume cfg host md now req = (md, .error e) := by
      intro md
      unfold AppMetadata.consume
      cases loadSession cfg host md req.sessionToken req.deviceIdHash now with
      | error e => exact ⟨e, rfl⟩
      | ok loaded =>
        obtain ⟨made, session⟩ := loaded
        dsimp only
        cases session.filter fun _ => req.userMatches with
        | none => exact ⟨_, rfl⟩
        | some session =>
          rw [hproof]
          exact ⟨_, rfl⟩
    obtain ⟨e, hleft⟩ := hrefused a
    obtain ⟨e', hright⟩ := hrefused b
    rw [hleft, hright]
    exact .refuse h
  | some proof =>
    have hseen : (live cfg now (a.value? (.claimAuthorization proof.challengeId))).filter
        (fun fields => hasStatus fields "issued") =
          (live cfg now (b.value? (.claimAuthorization proof.challengeId))).filter
            (fun fields => hasStatus fields "issued") :=
      Seen.unexpired.inj (h (.claimAuthorization proof.challengeId))
    cases hfound : (live cfg now (a.value? (.claimAuthorization proof.challengeId))).filter
        (fun fields => hasStatus fields "issued") with
    | none =>
      obtain ⟨e, hleft⟩ := @consume_unseen P cfg host now a req proof hproof hfound
      obtain ⟨e', hright⟩ := @consume_unseen P cfg host now b req proof hproof (hseen.symm.trans hfound)
      rw [hleft, hright]
      exact .refuse h
    | some authorization =>
      have hrow : ∀ {row : Option StoredJson}, (live cfg now row).filter
          (fun fields => hasStatus fields "issued") = some authorization → row = some (.value (.obj authorization)) := by
        intro row hrow
        obtain ⟨hlive, -⟩ := Option.filter_eq_some_iff.mp hrow
        exact (live_eq_some hlive).1
      have hleft := hrow hfound
      have hright := hrow (hseen.symm.trans hfound)
      have hsession := h.same_session req.sessionToken req.deviceIdHash
      unfold AppMetadata.consume
      rcases @loadSession_eq P cfg host now a req.sessionToken req.deviceIdHash with
        ⟨a', hloadLeft, -⟩ | ⟨⟨e, hloadLeft⟩, hnone⟩
      · rcases @loadSession_eq P cfg host now b req.sessionToken req.deviceIdHash with
          ⟨b', hloadRight, -⟩ | ⟨⟨e', hloadRight⟩, hnone'⟩
        · rw [hloadLeft, hloadRight, hsession]
          dsimp only
          cases (sessionOf cfg host b req.sessionToken req.deviceIdHash now).filter fun _ => req.userMatches with
          | none => exact .refuse h
          | some session =>
            rw [hproof]
            dsimp only
            rw [object?_eq_some.mpr hleft, object?_eq_some.mpr hright]
            split_ifs
            · exact .refuse h
            · dsimp only
              cases isOpen cfg authorization now with
              | error e => exact .refuse h
              | ok isOpen =>
                cases isOpen with
                | false => exact .refuse h
                | true =>
                  dsimp only
                  cases req.location with
                  | error message => exact .refuse h
                  | ok fixed =>
                    dsimp only
                    cases fieldsMatch cfg host authorization req fixed with
                    | error e => exact .refuse h
                    | ok matched =>
                      cases matched with
                      | false => exact .refuse h
                      | true => exact h.attempt req session proof authorization
        · rw [hloadLeft, hloadRight, hsession, hnone']
          exact .refuse h
      · rcases @loadSession_eq P cfg host now b req.sessionToken req.deviceIdHash with
          ⟨b', hloadRight, -⟩ | ⟨⟨e', hloadRight⟩, -⟩
        · rw [hloadLeft, hloadRight, ← hsession, hnone]
          exact .refuse h
        · rw [hloadLeft, hloadRight]
          exact .refuse h

end Consumption

section Preparation

variable {cfg : Settings P} {host : SecurityHost} {now : ℕ} {a b md : AppMetadata}

/-- The sweep can read a stored text: it decodes or is malformed, and `int` reads the expiry of an object. -/
def Sweepable (cfg : Settings P) : StoredJson → Prop
  | .malformed => True
  | .tooDeep => False
  | .value (.obj fields) => ∃ expiresAt, Json.intOrZero cfg fields "expires_at" = .ok (some expiresAt)
  | .value _ => True

/-- The sweep can read every row it comes to. -/
def SweepReadable (cfg : Settings P) (host : SecurityHost) (md : AppMetadata) : Prop :=
  ∀ row ∈ md.page MetadataKey.isClaimAuthorization "" host.claimAuthorizationCleanupBatch, Sweepable cfg row.2

lemma mapM_isOk {α β ε : Type} {f : α → Except ε β} (xs : List α) :
    (xs.mapM f).isOk = true ↔ ∀ x ∈ xs, (f x).isOk = true := by
  induction xs with
  | nil => simp [Except.isOk, Except.toBool, pure, Except.pure]
  | cons x xs ih =>
    rw [List.mapM_cons, List.forall_mem_cons, ← ih]
    cases f x with
    | error e => simp [Except.isOk, Except.toBool, bind, Except.bind]
    | ok y => cases xs.mapM f <;> simp [Except.isOk, Except.toBool, bind, Except.bind, pure, Except.pure]

lemma isRemovable_isOk (value : StoredJson) : (isRemovable cfg host now value).isOk = true ↔ Sweepable cfg value := by
  cases value with
  | malformed => exact ⟨fun _ => trivial, fun _ => rfl⟩
  | tooDeep => exact ⟨fun h => (by cases h), fun h => h.elim⟩
  | value value =>
    cases value with
    | obj fields =>
      unfold isRemovable Sweepable
      dsimp only
      cases hexpires : Json.intOrZero cfg fields "expires_at" with
      | error e => simp [Except.isOk, Except.toBool]
      | ok found => cases found <;> simp [Except.isOk, Except.toBool]
    | _ => exact ⟨fun _ => trivial, fun _ => rfl⟩

lemma cleanupClaimAuthorizations_isOk :
    (cleanupClaimAuthorizations cfg host md now).isOk = true ↔ SweepReadable cfg host md := by
  have hpage : (cleanupClaimAuthorizations cfg host md now).isOk =
      ((md.page MetadataKey.isClaimAuthorization "" host.claimAuthorizationCleanupBatch).mapM fun row =>
        (isRemovable cfg host now row.2).map fun removable => (row.1, removable)).isOk := by
    unfold cleanupClaimAuthorizations
    split
    · next e he =>
      rw [he]
      rfl
    · next rows hrows =>
      rw [hrows]
      rfl
  rw [hpage, mapM_isOk]
  unfold SweepReadable
  apply forall_congr'
  intro row
  apply imp_congr_right
  intro _
  rw [← @isRemovable_isOk P cfg host now row.2]
  cases isRemovable cfg host now row.2 <;> exact Iff.rfl

/-- A row the sweep cannot read refuses every preparation. -/
lemma prepare_refused (h : ¬ SweepReadable cfg host md) (req : PrepareRequest) :
    (prepare cfg host md now req).2.isOk = false := by
  rw [← @cleanupClaimAuthorizations_isOk P cfg host now md] at h
  unfold prepare
  cases hsweep : cleanupClaimAuthorizations cfg host md now with
  | error e => rfl
  | ok swept =>
    rw [hsweep] at h
    exact absurd rfl h

/-- A raise comes before anything a reader could see. -/
lemma issueAuthorization_raised {req : PrepareRequest}
    (h : (issueAuthorization cfg host md now req).2 = .error .raised) :
    Agree cfg host now (issueAuthorization cfg host md now req).1 md := by
  unfold issueAuthorization at h ⊢
  rcases @loadSession_eq P cfg host now md req.sessionToken req.deviceIdHash with
    ⟨made, hload, hmade⟩ | ⟨⟨e, hload⟩, -⟩
  · rw [hload] at h ⊢
    cases hsession : sessionOf cfg host md req.sessionToken req.deviceIdHash now with
    | none => exact hmade
    | some session =>
      rw [hsession] at h
      dsimp only at h ⊢
      by_cases hspot : req.spotExists = false
      · rw [if_pos hspot]
        exact hmade
      rw [if_neg hspot] at h ⊢
      cases hwallet : canonicalOptionalAddress cfg (some session.walletAddress) with
      | none => exact hmade
      | some walletAddress =>
        rw [hwallet] at h
        dsimp only at h ⊢
        cases hadmitted : admitBoth cfg made now host.claimAuthorizationRateWindowSeconds
            ("claim_authorization:device:" ++ req.deviceIdHash, host.claimAuthorizationRatePerDevice)
            ("claim_authorization:wallet:" ++ host.sha256Text walletAddress, host.claimAuthorizationRatePerWallet) with
        | error e => exact hmade
        | ok admitted =>
          rw [hadmitted] at h
          dsimp only at h
          split_ifs at h
          cases h
  · rw [hload]
    exact .refl md

/-- A preparation whose sweep does not raise answers, and leaves, what it does on the swept rows. -/
lemma prepare_swept {swept : AppMetadata} (hsweep : cleanupClaimAuthorizations cfg host md now = .ok swept)
    (req : PrepareRequest) :
    SameAnswer cfg host now (prepare cfg host md now req) (issueAuthorization cfg host swept now req) := by
  have hswept := cleanupClaimAuthorizations_agree hsweep
  unfold prepare
  rw [hsweep]
  dsimp only
  cases hissue : issueAuthorization cfg host swept now req with
  | mk made result =>
    cases result with
    | ok u => exact ⟨.refl made, rfl⟩
    | error e =>
      cases e with
      | raised =>
        have hmade : Agree cfg host now (issueAuthorization cfg host swept now req).1 swept :=
          issueAuthorization_raised (by rw [hissue])
        rw [hissue] at hmade
        exact .refuse (hmade.trans hswept).symm
      | refused code => exact .refuse (.refl made)
      | rateLimited code retryAt => exact .refuse (.refl made)

/-- Two preparations whose sweeps both raise, or both do not. -/
lemma Agree.prepare (h : Agree cfg host now a b) (halike : SweepReadable cfg host a ↔ SweepReadable cfg host b)
    (req : PrepareRequest) :
    SameAnswer cfg host now (prepare cfg host a now req) (prepare cfg host b now req) := by
  rw [← @cleanupClaimAuthorizations_isOk P cfg host now a, ← @cleanupClaimAuthorizations_isOk P cfg host now b] at halike
  cases hleft : cleanupClaimAuthorizations cfg host a now with
  | error e =>
    cases hright : cleanupClaimAuthorizations cfg host b now with
    | error e' =>
      unfold AppMetadata.prepare
      rw [hleft, hright]
      exact .refuse h
    | ok swept =>
      rw [hleft, hright] at halike
      cases halike.mpr rfl
  | ok sweptLeft =>
    cases hright : cleanupClaimAuthorizations cfg host b now with
    | error e' =>
      rw [hleft, hright] at halike
      cases halike.mp rfl
    | ok sweptRight =>
      have hswept : Agree cfg host now sweptLeft sweptRight :=
        ((cleanupClaimAuthorizations_agree hleft).trans h).trans (cleanupClaimAuthorizations_agree hright).symm
      have hissued := hswept.issueAuthorization req
      have hl := prepare_swept hleft req
      have hr := prepare_swept hright req
      exact ⟨(hl.tables.trans hissued.tables).trans hr.tables.symm,
        (hl.accepted.trans hissued.accepted).trans hr.accepted.symm⟩

end Preparation

section Stored

variable {cfg : Settings P} {host : SecurityHost} {now : ℕ} {md made : AppMetadata} {key : MetadataKey}

/-- Every stored authorization is one the sweep can read. -/
def AllSweepable (cfg : Settings P) (md : AppMetadata) : Prop :=
  ∀ row ∈ md.rows, row.1.isClaimAuthorization = true → Sweepable cfg row.2

lemma AllSweepable.sweepReadable (h : AllSweepable cfg md) : SweepReadable cfg host md := by
  intro row hrow
  obtain ⟨hmem, hkey⟩ := mem_page hrow
  exact h row hmem hkey

lemma AllSweepable.at (h : AllSweepable cfg md) {challengeId : String} {stored : StoredJson}
    (hstored : md.value? (.claimAuthorization challengeId) = some stored) : Sweepable cfg stored := by
  unfold value? at hstored
  obtain ⟨row, hrow, rfl⟩ := Option.map_eq_some_iff.mp hstored
  obtain ⟨hmem, hkey⟩ := Dict.get?_eq_some.mp hrow
  exact h row (Dict.mem_rows.mpr hmem) (by rw [hkey]; rfl)

lemma AllSweepable.pop (h : AllSweepable cfg md) (key : MetadataKey) : AllSweepable cfg (Dict.pop md key) := by
  intro row hrow hkey
  exact h row (List.mem_of_mem_filter hrow) hkey

lemma AllSweepable.setJson (h : AllSweepable cfg md) (key : MetadataKey) {value : Json}
    (hvalue : Sweepable cfg (.value value)) : AllSweepable cfg (md.setJson key value) := by
  intro row hrow hkey
  have hfound := value?_of_mem hrow
  rw [value?_setJson] at hfound
  split_ifs at hfound with hsame
  · rw [← Option.some.inj hfound]
    exact hvalue
  · obtain ⟨row', hrow', hstored⟩ := Option.map_eq_some_iff.mp hfound
    obtain ⟨hmem, hkey'⟩ := Dict.get?_eq_some.mp hrow'
    rw [← hstored]
    exact h row' (Dict.mem_rows.mpr hmem) (by rw [hkey', hkey])

lemma sweepable_obj {fields : List (String × Json)} : Sweepable cfg (.value (.obj fields)) ↔
    ∃ expiresAt, Json.intOrZero cfg fields "expires_at" = .ok (some expiresAt) := Iff.rfl

lemma sweepable_int {fields : List (String × Json)} {expiresAt : ℤ}
    (hexpires : Json.get fields "expires_at" = some (.int expiresAt)) : Sweepable cfg (.value (.obj fields)) := by
  rw [sweepable_obj, Json.intOrZero, hexpires]
  dsimp only
  split_ifs
  · exact ⟨expiresAt, rfl⟩
  · exact ⟨0, rfl⟩

lemma get_put {fields : List (String × Json)} {name other : String} {value : Json} (hne : other ≠ name) :
    Json.get (Json.put fields name value) other = Json.get fields other := by
  unfold Json.get Json.put
  have hother : (other == name) = false := by simpa using hne
  have hlast : List.lookup other [(name, value)] = none := by rw [List.lookup_cons, hother, List.lookup_nil]
  rw [List.lookup_append, hlast, Option.or_none]
  induction fields with
  | nil => rfl
  | cons field fields ih =>
    obtain ⟨found, stored⟩ := field
    by_cases hname : found = name
    · rw [List.filter_cons_of_neg (by simp [hname]), ih, List.lookup_cons, hname, hother]
    · rw [List.filter_cons_of_pos (by simp [hname]), List.lookup_cons, List.lookup_cons, ih]

lemma sweepable_put {fields : List (String × Json)} (name : String) (value : Json) (hne : "expires_at" ≠ name)
    (h : Sweepable cfg (.value (.obj fields))) : Sweepable cfg (.value (.obj (Json.put fields name value))) := by
  rw [sweepable_obj, Json.intOrZero] at h ⊢
  rw [get_put hne]
  exact h

lemma AllSweepable.getJson (h : AllSweepable cfg md) {value : Option Json} (hread : md.getJson key = .ok (made, value)) :
    AllSweepable cfg made := by
  rcases getJson_ok hread with rfl | ⟨-, rfl⟩
  · exact h
  · exact h.pop key

lemma AllSweepable.loadSession (h : AllSweepable cfg md) {token : Option String} {deviceIdHash : String}
    {session : Option Session} (hload : loadSession cfg host md token deviceIdHash now = .ok (made, session)) :
    AllSweepable cfg made := by
  unfold AppMetadata.loadSession at hload
  split at hload
  · obtain ⟨rfl, -⟩ := Prod.mk.inj (Except.ok.inj hload)
    exact h
  · dsimp only at hload
    split at hload
    · cases hload
    · next hread =>
      have hread := h.getJson hread
      split at hload
      · cases hload
      · cases hload
      · split_ifs at hload
        · obtain ⟨rfl, -⟩ := Prod.mk.inj (Except.ok.inj hload)
          exact hread.pop _
        · split at hload
          · cases hload
          · obtain ⟨rfl, -⟩ := Prod.mk.inj (Except.ok.inj hload)
            exact hread
    · next hread =>
      obtain ⟨rfl, -⟩ := Prod.mk.inj (Except.ok.inj hload)
      exact h.getJson hread

lemma AllSweepable.admitTimestamp (h : AllSweepable cfg md) {bucket : String} {window limit : ℕ} {admission : Admission}
    (hadmission : admitTimestamp cfg md bucket now window limit = .ok (made, admission)) : AllSweepable cfg made := by
  unfold AppMetadata.admitTimestamp at hadmission
  split at hadmission
  · cases hadmission
  · dsimp only at hadmission
    split_ifs at hadmission
    · obtain ⟨rfl, -⟩ := Prod.mk.inj (Except.ok.inj hadmission)
      exact h.setJson _ trivial
    · obtain ⟨rfl, -⟩ := Prod.mk.inj (Except.ok.inj hadmission)
      exact h.setJson _ trivial

lemma AllSweepable.admitBoth (h : AllSweepable cfg md) {window : ℕ} {first second : String × ℕ} {admission : Admission}
    (hadmission : admitBoth cfg md now window first second = .ok (made, admission)) : AllSweepable cfg made := by
  unfold AppMetadata.admitBoth at hadmission
  split at hadmission
  · cases hadmission
  · next hone =>
    split at hadmission
    · cases hadmission
    · next htwo =>
      obtain ⟨rfl, -⟩ := Prod.mk.inj (Except.ok.inj hadmission)
      exact (h.admitTimestamp hone).admitTimestamp htwo

lemma AllSweepable.createChallenge (h : AllSweepable cfg md) (req : ChallengeRequest) :
    AllSweepable cfg (createChallenge cfg host md now req).1 := by
  unfold AppMetadata.createChallenge
  split
  · exact h
  · next hadmission =>
    have hadmission := h.admitBoth hadmission
    split_ifs
    · exact hadmission
    · exact hadmission.setJson _ (sweepable_int rfl)

lemma AllSweepable.completeVerification (h : AllSweepable cfg md) (deviceIdHash : String) (walletAddress : Address)
    (req : VerifyRequest) : AllSweepable cfg (completeVerification cfg host md now deviceIdHash walletAddress req).1 := by
  unfold AppMetadata.completeVerification
  split
  · exact h
  · next hread =>
    have hread := h.getJson hread
    split
    · exact h
    · exact h
    · split_ifs
      · exact hread
      · exact hread
      · split
        · exact hread
        · split
          · exact h
          · next hbinding =>
            have hbinding := hread.getJson hbinding
            dsimp only
            split_ifs
            · exact hbinding
            · exact ((hbinding.setJson _ (sweepable_int rfl)).setJson _ (sweepable_obj.mpr ⟨0, rfl⟩)).pop _
  · next hread => exact h.getJson hread

lemma AllSweepable.securityVerify (h : AllSweepable cfg md) (deviceIdHash : String) (req : VerifyRequest) :
    AllSweepable cfg (securityVerify cfg host md now deviceIdHash req).1 := by
  unfold AppMetadata.securityVerify
  split
  · exact h
  · exact h
  · split_ifs
    · exact h
    · split
      · exact h
      · exact h
      · split_ifs
        · exact h.pop _
        · split
          · exact h
          · split
            · exact h
            · exact h.completeVerification deviceIdHash _ req

lemma AllSweepable.verify (h : AllSweepable cfg md) (req : VerifyRequest) :
    AllSweepable cfg (verify cfg host md now req).1 := by
  unfold AppMetadata.verify
  split
  · exact h
  · next admitted _ hadmission =>
    have hadmission : AllSweepable cfg admitted := by
      unfold admitVerification at hadmission
      dsimp only at hadmission
      split at hadmission
      · exact h.admitTimestamp hadmission
      · exact h.admitBoth hadmission
    split_ifs
    · exact hadmission
    · split
      · exact hadmission
      · exact hadmission.securityVerify _ req

lemma AllSweepable.foldl_pop (h : AllSweepable cfg md) (rows : List (MetadataKey × Bool)) :
    AllSweepable cfg (rows.foldl (fun md row => Dict.pop md row.1) md) := by
  induction rows generalizing md with
  | nil => exact h
  | cons row rows ih => exact ih (h.pop row.1)

variable (host now) in
lemma AllSweepable.issueAuthorization (h : AllSweepable cfg md) (req : PrepareRequest) :
    AllSweepable cfg (issueAuthorization cfg host md now req).1 := by
  unfold AppMetadata.issueAuthorization
  split
  · exact h
  · next hload => exact h.loadSession hload
  · next hload =>
    have hload := h.loadSession hload
    split_ifs
    · exact hload
    · split
      · exact hload
      · split
        · exact hload
        · next hadmission =>
          have hadmission := hload.admitBoth hadmission
          split_ifs
          · exact hadmission
          · exact hadmission.setJson _ (sweepable_int rfl)

lemma AllSweepable.prepare (h : AllSweepable cfg md) (req : PrepareRequest) :
    AllSweepable cfg (prepare cfg host md now req).1 := by
  unfold AppMetadata.prepare
  split
  · exact h
  · next swept hsweep =>
    have hswept : AllSweepable cfg swept := by
      unfold cleanupClaimAuthorizations at hsweep
      split at hsweep
      · cases hsweep
      · rw [← Except.ok.inj hsweep]
        exact h.foldl_pop _
    have hissued := hswept.issueAuthorization host now req
    split
    · exact h
    · exact hissued

lemma AllSweepable.finishAttempt (h : AllSweepable cfg md) {challengeId : String} (req : ConsumeRequest) :
    AllSweepable cfg (finishAttempt md (.claimAuthorization challengeId) req).1 := by
  unfold AppMetadata.finishAttempt
  by_cases hfresh : req.freshAllowed = false
  · rw [if_pos hfresh]
    exact h.pop _
  · rw [if_neg hfresh]
    split
    · exact h
    · next fields hread =>
      have hfields : Sweepable cfg (.value (.obj fields)) := by
        unfold AppMetadata.getJson at hread
        split at hread
        · cases hread
        · cases hread
        · cases hread
        · next hstored =>
          obtain ⟨-, hvalue⟩ := Prod.mk.inj (Except.ok.inj hread)
          rw [← Option.some.inj hvalue]
          exact h.at hstored
      have hread := h.getJson hread
      have hset := sweepable_put "processing_at" (.int req.processingAt) (by decide)
        (sweepable_put "status" (.str "processing") (by decide) hfields)
      by_cases hused : hasStatus fields "verifying" = false
      · rw [if_pos hused]
        exact hread
      · rw [if_neg hused]
        dsimp only
        split
        · exact (hread.setJson _ hset).pop _
        · by_cases hcreated : req.claimCreated = false
          · rw [if_pos hcreated]
            exact (hread.setJson _ hset).pop _
          · rw [if_neg hcreated]
            cases req.recorded
            · exact hread.setJson _ hset
            · exact (hread.setJson _ hset).pop _
    · next hread => exact h.getJson hread

lemma AllSweepable.attempt (h : AllSweepable cfg md) {req : ConsumeRequest} {session : Session} {proof : ClaimProof}
    {authorization : List (String × Json)} (hauthorization : Sweepable cfg (.value (.obj authorization))) :
    AllSweepable cfg (attempt cfg host md now req session proof authorization).1 := by
  unfold AppMetadata.attempt
  dsimp only
  have hset : ∀ proofHash, AllSweepable cfg (md.setJson (.claimAuthorization proof.challengeId) (.obj (Json.put
      (Json.put (Json.put authorization "status" (.str "verifying")) "verifying_at" (.int now)) "proof_hash"
        (.str proofHash)))) := by
    intro proofHash
    apply h.setJson
    apply sweepable_put _ _ (by decide)
    apply sweepable_put _ _ (by decide)
    exact sweepable_put _ _ (by decide) hauthorization
  split
  · exact hset _
  · split
    · exact (hset _).pop _
    · split_ifs
      · exact (hset _).pop _
      · exact (hset _).finishAttempt req

lemma AllSweepable.consume (h : AllSweepable cfg md) (req : ConsumeRequest) :
    AllSweepable cfg (consume cfg host md now req).1 := by
  cases hloaded : AppMetadata.loadSession cfg host md req.sessionToken req.deviceIdHash now with
  | error e =>
    rw [AppMetadata.consume, hloaded]
    exact h
  | ok loaded =>
    obtain ⟨made, session⟩ := loaded
    rw [AppMetadata.consume, hloaded]
    dsimp only
    cases session.filter fun _ => req.userMatches with
    | none => exact h
    | some session =>
      dsimp only
      cases req.proof with
      | none => exact h
      | some proof =>
        dsimp only
        split_ifs
        · exact h
        · split
          · exact h
          · exact h
          · next authorization hobject =>
            have hauthorization := h.at (object?_eq_some.mp hobject)
            split
            · exact h
            · exact h
            · split
              · exact h
              · split
                · exact h
                · exact h
                · exact h.attempt hauthorization

lemma AllSweepable.pruneRow (h : AllSweepable cfg md) {row : MetadataRow} (hrow : pruneRow cfg host now md row = .ok made) :
    AllSweepable cfg made := by
  unfold AppMetadata.pruneRow at hrow
  split at hrow
  · cases hrow
  · obtain rfl := Except.ok.inj hrow
    exact h
  · obtain rfl := Except.ok.inj hrow
    exact h.setJson _ trivial
  · obtain rfl := Except.ok.inj hrow
    exact h.pop _

lemma AllSweepable.cleanup (h : AllSweepable cfg md) (limit : ℕ) : AllSweepable cfg (md.cleanup cfg host now limit) := by
  have hrows : ∀ (rows : List MetadataRow) {md made : AppMetadata}, AllSweepable cfg md →
      rows.foldlM (AppMetadata.pruneRow cfg host now) md = .ok made → AllSweepable cfg made := by
    intro rows
    induction rows with
    | nil =>
      intro md made h hfold
      obtain rfl := Except.ok.inj hfold
      exact h
    | cons row rows ih =>
      intro md made h hfold
      rw [List.foldlM_cons] at hfold
      cases hrow : AppMetadata.pruneRow cfg host now md row with
      | error e =>
        rw [hrow] at hfold
        cases hfold
      | ok pruned =>
        rw [hrow] at hfold
        exact ih (h.pruneRow hrow) hfold
  unfold AppMetadata.cleanup cleanupPage
  cases hread : md.getJson .cleanupCursor with
  | error e => exact h
  | ok read =>
    obtain ⟨read, value⟩ := read
    dsimp only
    cases hfold : (read.nextPage (cursorOf value) (max 1 limit)).foldlM (AppMetadata.pruneRow cfg host now) read with
    | error e => exact h
    | ok pruned =>
      have hpruned := hrows _ (h.getJson hread) hfold
      dsimp only
      cases (read.nextPage (cursorOf value) (max 1 limit)).getLast? with
      | none => exact hpruned.pop _
      | some row => exact hpruned.setJson _ trivial

end Stored

end AppMetadata

section Runs

variable {cfg : Settings P} {host : SecurityHost} {s t : MetadataRun}

open AppMetadata

def MetadataOp.isCleanup : MetadataOp → Bool
  | .cleanup _ => true
  | _ => false

/-- A run, and the same run with the passes left out. -/
def pairStep (cfg : Settings P) (host : SecurityHost) (s : MetadataRun × MetadataRun) (op : MetadataOp) :
    MetadataRun × MetadataRun :=
  (s.1.step cfg host op, if op.isCleanup then s.2 else s.2.step cfg host op)

/-- With the passes and without them, the sweep of a preparation can read every row it comes to. -/
def SweepsReadable (cfg : Settings P) (host : SecurityHost) (s : MetadataRun × MetadataRun) : MetadataOp → Prop
  | .prepare _ => SweepReadable cfg host s.1.md ∧ SweepReadable cfg host s.2.md
  | _ => True

structure RunsAgree (cfg : Settings P) (host : SecurityHost) (s : MetadataRun × MetadataRun) : Prop where
  tables : Agree cfg host s.1.now s.1.md s.2.md
  clock : s.1.now = s.2.now
  answers : s.1.answers = s.2.answers

lemma step_loadSession (s : MetadataRun) (token : Option String) (deviceIdHash : String) :
    s.step cfg host (.loadSession token deviceIdHash) =
      { s with answers := s.answers ++ [(sessionOf cfg host s.md token deviceIdHash s.now).isSome] } := by
  unfold MetadataRun.step
  dsimp only
  rcases @loadSession_eq P cfg host s.now s.md token deviceIdHash with ⟨made, hload, -⟩ | ⟨⟨e, hload⟩, hnone⟩
  · rw [hload]
    cases sessionOf cfg host s.md token deviceIdHash s.now <;> rfl
  · rw [hload, hnone]
    rfl

/-- The step lemma. -/
lemma RunsAgree.step (op : MetadataOp) (hreadable : SweepsReadable cfg host (s, t) op) (h : RunsAgree cfg host (s, t)) :
    RunsAgree cfg host (pairStep cfg host (s, t) op) := by
  obtain ⟨a, now, answers⟩ := s
  obtain ⟨b, now', answers'⟩ := t
  obtain ⟨htables, hclock, hanswers⟩ := h
  dsimp only at htables hclock hanswers
  subst hclock hanswers
  have hanswered : ∀ {later : ℕ} {x y : AppMetadata × Except Refusal Unit}, SameAnswer cfg host later x y →
      RunsAgree cfg host (⟨x.1, later, answers ++ [x.2.isOk]⟩, ⟨y.1, later, answers ++ [y.2.isOk]⟩) := by
    intro later x y hsame
    exact ⟨hsame.tables, rfl, congrArg (fun accepted => answers ++ [accepted]) hsame.accepted⟩
  cases op with
  | tick seconds => exact ⟨htables.still (Nat.le_add_right _ _), rfl, rfl⟩
  | cleanup limit => exact ⟨(cleanup_agree cfg host a now limit).trans htables, rfl, rfl⟩
  | loadSession token deviceIdHash =>
    have hsession := htables.same_session token deviceIdHash
    unfold pairStep
    rw [step_loadSession, if_neg (by simp [MetadataOp.isCleanup]), step_loadSession]
    dsimp only
    rw [hsession]
    exact ⟨htables, rfl, rfl⟩
  | createChallenge req => exact hanswered (htables.createChallenge req)
  | verify req => exact hanswered (htables.verify req)
  | prepare req => exact hanswered (htables.prepare (iff_of_true hreadable.1 hreadable.2) req)
  | consume req => exact hanswered (htables.consume req)

lemma run_pairStep (ops : List MetadataOp) : run (pairStep cfg host) (s, t) ops =
    (run (MetadataRun.step cfg host) s ops, run (MetadataRun.step cfg host) t (ops.filter fun op => !op.isCleanup)) := by
  induction ops generalizing s t with
  | nil => rfl
  | cons op ops ih =>
    rw [run_cons, run_cons, pairStep, ih]
    cases hcleanup : op.isCleanup
    · rw [List.filter_cons_of_pos (by simp [hcleanup])]
      rfl
    · rw [List.filter_cons_of_neg (by simp [hcleanup])]
      rfl

/-- The answers of a run are those of the run without the passes. -/
def PassesChangeNothing (cfg : Settings P) (host : SecurityHost) (s : MetadataRun) (ops : List MetadataOp) : Prop :=
  (run (MetadataRun.step cfg host) s ops).answers =
    (run (MetadataRun.step cfg host) s (ops.filter fun op => !op.isCleanup)).answers

lemma passesChangeNothing_of_readable {ops : List MetadataOp}
    (hreadable : Admissible (pairStep cfg host) (SweepsReadable cfg host) (s, s) ops) :
    PassesChangeNothing cfg host s ops := by
  have hinitial : RunsAgree cfg host (s, s) := ⟨.refl s.md, rfl, rfl⟩
  have hrun : RunsAgree cfg host (run (pairStep cfg host) (s, s) ops) :=
    run_invariant (fun _ op hop h => h.step op hop) hreadable hinitial
  rw [run_pairStep] at hrun
  exact hrun.answers

lemma step_allSweepable (op : MetadataOp) (h : AllSweepable cfg s.md) : AllSweepable cfg (s.step cfg host op).md := by
  cases op with
  | tick seconds => exact h
  | cleanup limit => exact h.cleanup limit
  | loadSession token deviceIdHash =>
    rw [step_loadSession]
    exact h
  | createChallenge req => exact h.createChallenge req
  | verify req => exact h.verify req
  | prepare req => exact h.prepare req
  | consume req => exact h.consume req

/-- What the requests and the passes store can be read again, so only a row that was there from the start
cannot. -/
lemma sweepsReadable_of_stored (h : AllSweepable cfg s.md) (ops : List MetadataOp) :
    Admissible (pairStep cfg host) (SweepsReadable cfg host) (s, s) ops := by
  have hpreserved : ∀ (pair : MetadataRun × MetadataRun) op, True →
      AllSweepable cfg pair.1.md ∧ AllSweepable cfg pair.2.md → SweepsReadable cfg host pair op ∧
        AllSweepable cfg (pairStep cfg host pair op).1.md ∧ AllSweepable cfg (pairStep cfg host pair op).2.md := by
    intro pair op _ hboth
    refine ⟨?_, step_allSweepable op hboth.1, ?_⟩
    · cases op with
      | prepare req => exact ⟨hboth.1.sweepReadable, hboth.2.sweepReadable⟩
      | _ => trivial
    · unfold pairStep
      dsimp only
      split_ifs
      · exact hboth.2
      · exact step_allSweepable op hboth.2
  exact admissible_of_invariant hpreserved (admissible_true (s, s) ops) ⟨h, h⟩

/-- Leaving out the passes of a run changes none of its answers: in no run that begins without an authorization the
sweep cannot read, and in no other run whose sweeps come to no such row.  A sweep that comes to one refuses the
preparation, whatever it asks for. -/
theorem cleanup_changes_no_answer (cfg : Settings P) (host : SecurityHost) (s : MetadataRun) :
    ((∀ row ∈ s.md.rows, row.1.isClaimAuthorization = true → Sweepable cfg row.2) →
        ∀ ops, PassesChangeNothing cfg host s ops) ∧
      (∀ ops, Admissible (pairStep cfg host) (SweepsReadable cfg host) (s, s) ops → PassesChangeNothing cfg host s ops) ∧
      ∀ req, ¬ SweepReadable cfg host s.md → (prepare cfg host s.md s.now req).2.isOk = false := by
  refine ⟨?_, ?_, ?_⟩
  · intro hstored ops
    exact passesChangeNothing_of_readable (sweepsReadable_of_stored hstored ops)
  · intro ops hreadable
    exact passesChangeNothing_of_readable hreadable
  · intro req hunreadable
    exact prepare_refused hunreadable req

end Runs

section Defect

open AppMetadata

def plainHost : SecurityHost where
  sha256Text := id
  verifySignature := fun _ _ _ => .error "signature_invalid"
  claimEnvironment := "production"
  claimNetwork := "mainnet"

/-- A live session, and an authorization whose expiry is a list. -/
def unreadableExpiry : MetadataRun where
  md := Dict.ofList [
    (.claimAuthorization "000000000900.first", .value (.obj [("status", .str "issued"), ("expires_at", .arr [.null])])),
    (.session "token", .value (.obj [("user_id", .int 4), ("device_id_hash", .str "device"),
      ("wallet_address", .str "NQ04 USER"), ("expires_at", .int 5000)]))]
  now := 1000
  answers := []

def preparation : PrepareRequest := ⟨some "token", "device", 1, true, ⟨0, 0, -1⟩, "suffix", "nonce"⟩

/-- A preparation is refused with the row there, and accepted once a pass has deleted it. -/
theorem cleanup_opens_preparation :
    (run (MetadataRun.step .onePlace plainHost) unreadableExpiry [.cleanup 500, .prepare preparation]).answers = [true] ∧
      (run (MetadataRun.step .onePlace plainHost) unreadableExpiry [.prepare preparation]).answers = [false] := by
  decide +kernel

/-- A live session, and a challenge that has expired. -/
def liveSession : MetadataRun where
  md := Dict.ofList [
    (.challenge "spent", .value (.obj [("expires_at", .int 900)])),
    (.session "token", .value (.obj [("user_id", .int 4), ("device_id_hash", .str "device"),
      ("wallet_address", .str "NQ04 USER"), ("expires_at", .int 5000)]))]
  now := 1000
  answers := []

theorem cleanup_changes_no_answer_session :
    (run (MetadataRun.step .onePlace plainHost) liveSession
        [.prepare preparation, .cleanup 500, .loadSession (some "token") "device"]).answers =
      (run (MetadataRun.step .onePlace plainHost) liveSession
        ([MetadataOp.prepare preparation, .cleanup 500, .loadSession (some "token") "device"].filter fun op =>
          !op.isCleanup)).answers := by
  have hstored : ∀ row ∈ liveSession.md.rows, row.1.isClaimAuthorization = true → Sweepable Settings.onePlace row.2 := by
    intro row hrow hkey
    have hnone : ∀ row ∈ liveSession.md.rows, row.1.isClaimAuthorization = false := by decide +kernel
    rw [hnone row hrow] at hkey
    cases hkey
  exact (cleanup_changes_no_answer Settings.onePlace plainHost liveSession).1 hstored _

end Defect

end NimHunt
