import NimHunt.Lib.Runs
import NimHunt.UserRegistrationSecurity

/-!
# Quotas of public registrations

The timestamps a registry keeps are those of the registrations that still count, so no window of a quota ever holds more
of them than it may, and a device that comes back when it is told to is registered at last.
-/

namespace NimHunt

open Lib

variable {cfg : RegistrationSettings}

section Calls

variable {reg : Registry} {device : String} {sourceNetworkHash : Option String} {source : String} {now later : ℕ}

/-- Timestamps are kept for a day, so a burst is never counted over more. -/
def RegistrationSettings.burstWidth (cfg : RegistrationSettings) : ℕ :=
  min (atLeastOne cfg.sourceBurstWindowSeconds) (24 * 60 * 60)

/-- The quotas a new device has to pass. -/
def Registry.quotas (cfg : RegistrationSettings) (reg : Registry) (source : String) : List Quota :=
  [⟨cfg.burstWidth, atLeastOne cfg.sourceBurstLimit, reg.sourceStamps source⟩,
    ⟨60 * 60, atLeastOne cfg.sourceHourlyLimit, reg.sourceStamps source⟩,
    ⟨24 * 60 * 60, atLeastOne cfg.sourceDailyLimit, reg.sourceStamps source⟩,
    ⟨60 * 60, atLeastOne cfg.globalHourlyLimit, reg.globalStamps⟩]

lemma atLeastOne_pos (n : ℤ) : 0 < atLeastOne n := by
  unfold atLeastOne
  omega

lemma burstWidth_le : cfg.burstWidth ≤ 24 * 60 * 60 := Nat.min_le_right _ _

/-- What a call comes to. -/
inductive Registration (cfg : RegistrationSettings) (reg : Registry) (device : String)
    (sourceNetworkHash : Option String) : Registry × Except RegistrationError (ℕ × Bool) → Prop
  | known (existing : User) (hknown : reg.getUser cfg device = some existing) :
    Registration cfg reg device sourceNetworkHash (reg, .ok (existing.id, false))
  | refused (quota : Quota) (retryAt : ℕ) (hnew : reg.getUser cfg device = none)
      (hmem : quota ∈ reg.quotas cfg (registrationSource cfg sourceNetworkHash)) (hfull : quota.IsFull reg.now)
      (hretry : quota.retryAt reg.now ≤ retryAt) :
    Registration cfg reg device sourceNetworkHash (reg, .error (.rateLimited retryAt))
  | noDevice (hnew : reg.getUser cfg device = none) (hempty : cfg.strip device = "") :
    Registration cfg reg device sourceNetworkHash (reg, .error .noDevice)
  | created (hnew : reg.getUser cfg device = none)
      (hroom : ∀ quota ∈ reg.quotas cfg (registrationSource cfg sourceNetworkHash), ¬ quota.IsFull reg.now) :
    Registration cfg reg device sourceNetworkHash
      ({ reg.createUser cfg device with
          sourceStamps := Function.update reg.sourceStamps (registrationSource cfg sourceNetworkHash)
            (recentTimes (24 * 60 * 60) reg.now (reg.sourceStamps (registrationSource cfg sourceNetworkHash)) ++ [reg.now])
          globalStamps := recentTimes (60 * 60) reg.now reg.globalStamps ++ [reg.now] },
        .ok (reg.lastUserId + 1, true))

lemma getOrCreate_registration (cfg : RegistrationSettings) (reg : Registry) (device : String)
    (sourceNetworkHash : Option String) :
    Registration cfg reg device sourceNetworkHash (reg.getOrCreatePublicUser cfg device sourceNetworkHash) := by
  unfold Registry.getOrCreatePublicUser
  cases hnew : reg.getUser cfg device with
  | some existing => exact .known existing hnew
  | none =>
    dsimp only
    generalize hsource : registrationSource cfg sourceNetworkHash = source
    have hburst : recentTimes (atLeastOne cfg.sourceBurstWindowSeconds) reg.now
        (recentTimes (24 * 60 * 60) reg.now (reg.sourceStamps source)) =
        recentTimes cfg.burstWidth reg.now (reg.sourceStamps source) := recentTimes_inside
    have hhourly : recentTimes (60 * 60) reg.now (recentTimes (24 * 60 * 60) reg.now (reg.sourceStamps source)) =
        recentTimes (60 * 60) reg.now (reg.sourceStamps source) :=
      recentTimes_recentTimes (Nat.le_refl _) (by decide)
    rw [hburst, hhourly]
    have hwidth : cfg.burstWidth ≤ atLeastOne cfg.sourceBurstWindowSeconds := Nat.min_le_left _ _
    subst hsource
    split_ifs with hb hh hd hg hempty
    · refine .refused _ _ hnew (.head _) hb ?_
      unfold Quota.retryAt Registry.retryAt Quota.recent
      dsimp only
      omega
    · exact .refused _ _ hnew (.tail _ (.head _)) hh (Nat.le_refl _)
    · exact .refused _ _ hnew (.tail _ (.tail _ (.head _))) hd (Nat.le_refl _)
    · exact .refused _ _ hnew (.tail _ (.tail _ (.tail _ (.head _)))) hg (Nat.le_refl _)
    · exact .noDevice hnew hempty
    · refine .created hnew ?_
      intro quota hquota
      simp only [Registry.quotas, List.mem_cons, List.not_mem_nil, or_false] at hquota
      rcases hquota with rfl | rfl | rfl | rfl
      · exact hb
      · exact hh
      · exact hd
      · exact hg

end Calls

section Runs

variable {s : RegistrationRun}

/-- When devices of a source have been registered. -/
def RegistrationRun.timesOf (s : RegistrationRun) (source : String) : List ℕ :=
  (s.created.filter fun entry => entry.1 = source).map Prod.snd

/-- When devices have been registered. -/
def RegistrationRun.times (s : RegistrationRun) : List ℕ := s.created.map Prod.snd

/-- The quotas of a source. -/
structure RegistrationRun.Fits (cfg : RegistrationSettings) (s : RegistrationRun) (source : String) : Prop where
  burst : FitsWindows cfg.burstWidth (atLeastOne cfg.sourceBurstLimit) (s.timesOf source)
  hourly : FitsWindows (60 * 60) (atLeastOne cfg.sourceHourlyLimit) (s.timesOf source)
  daily : FitsWindows (24 * 60 * 60) (atLeastOne cfg.sourceDailyLimit) (s.timesOf source)

/-- The timestamps are those of the registrations that still count, and every quota is kept. -/
structure RegistrationRun.Counted (cfg : RegistrationSettings) (s : RegistrationRun) : Prop where
  past : ∀ entry ∈ s.created, entry.2 ≤ s.registry.now
  bySource : ∀ source t, s.registry.now ≤ t →
    recentTimes (24 * 60 * 60) t (s.registry.sourceStamps source) = recentTimes (24 * 60 * 60) t (s.timesOf source)
  everywhere : ∀ t, s.registry.now ≤ t →
    recentTimes (60 * 60) t s.registry.globalStamps = recentTimes (60 * 60) t s.times
  fits : ∀ source, s.Fits cfg source
  fitsAll : FitsWindows (60 * 60) (atLeastOne cfg.globalHourlyLimit) s.times

lemma RegistrationRun.Counted.timesOf_le (h : s.Counted cfg) (source : String) :
    ∀ t ∈ s.timesOf source, t ≤ s.registry.now := by
  intro t ht
  obtain ⟨entry, hentry, rfl⟩ := List.mem_map.mp ht
  exact h.past entry (List.mem_filter.mp hentry).1

lemma RegistrationRun.Counted.times_le (h : s.Counted cfg) : ∀ t ∈ s.times, t ≤ s.registry.now := by
  intro t ht
  obtain ⟨entry, hentry, rfl⟩ := List.mem_map.mp ht
  exact h.past entry hentry

/-- What a quota of a source counts. -/
lemma RegistrationRun.Counted.length_source (h : s.Counted cfg) (source : String) {width : ℕ}
    (hwidth : width ≤ 24 * 60 * 60) :
    (recentTimes width s.registry.now (s.registry.sourceStamps source)).length =
      recentCount width s.registry.now (s.timesOf source) := by
  rw [← recentTimes_recentTimes (Nat.le_refl _) hwidth, h.bySource source _ (Nat.le_refl _),
    recentTimes_recentTimes (Nat.le_refl _) hwidth, length_recentTimes]

lemma RegistrationRun.Counted.length_global (h : s.Counted cfg) :
    (recentTimes (60 * 60) s.registry.now s.registry.globalStamps).length =
      recentCount (60 * 60) s.registry.now s.times := by
  rw [h.everywhere _ (Nat.le_refl _), length_recentTimes]

/-- No quota has admitted more than it may. -/
lemma RegistrationRun.Counted.within (h : s.Counted cfg) (source : String) :
    ∀ quota ∈ s.registry.quotas cfg source, quota.WithinLimit s.registry.now := by
  intro quota hquota
  have hsource := h.timesOf_le source
  have hfits := h.fits source
  simp only [Registry.quotas, List.mem_cons, List.not_mem_nil, or_false] at hquota
  rcases hquota with rfl | rfl | rfl | rfl
  · refine ⟨atLeastOne_pos _, ?_⟩
    unfold Quota.recent
    rw [h.length_source source burstWidth_le, recentCount_eq_inWindow hsource]
    exact hfits.burst _
  · refine ⟨atLeastOne_pos _, ?_⟩
    unfold Quota.recent
    dsimp only
    rw [h.length_source source (by decide), recentCount_eq_inWindow hsource]
    exact hfits.hourly _
  · refine ⟨atLeastOne_pos _, ?_⟩
    unfold Quota.recent
    rw [h.length_source source (Nat.le_refl _), recentCount_eq_inWindow hsource]
    exact hfits.daily _
  · refine ⟨atLeastOne_pos _, ?_⟩
    unfold Quota.recent
    rw [h.length_global, recentCount_eq_inWindow h.times_le]
    exact h.fitsAll _

lemma counted_initial : RegistrationRun.Counted cfg {} where
  past := nofun
  bySource _ _ _ := rfl
  everywhere _ _ := rfl
  fits _ := ⟨fun _ => Nat.zero_le _, fun _ => Nat.zero_le _, fun _ => Nat.zero_le _⟩
  fitsAll _ := Nat.zero_le _

/-- Timestamps that still count, with a new one, count as before. -/
lemma recentTimes_renewed {width now t : ℕ} {stamps times : List ℕ} (hlater : now ≤ t)
    (h : recentTimes width t stamps = recentTimes width t times) :
    recentTimes width t (recentTimes width now stamps ++ [now]) = recentTimes width t (times ++ [now]) := by
  rw [recentTimes_append, recentTimes_append, recentTimes_recentTimes hlater (Nat.le_refl _), h]

lemma RegistrationRun.Counted.step (h : s.Counted cfg) (op : RegistrationOp) : (s.step cfg op).Counted cfg := by
  cases op with
  | elapse seconds =>
    exact {
      past := fun entry hentry => Nat.le_trans (h.past entry hentry) (Nat.le_add_right _ _)
      bySource := fun source t ht => h.bySource source t (Nat.le_trans (Nat.le_add_right _ _) ht)
      everywhere := fun t ht => h.everywhere t (Nat.le_trans (Nat.le_add_right _ _) ht)
      fits := fun source => ⟨(h.fits source).burst, (h.fits source).hourly, (h.fits source).daily⟩
      fitsAll := h.fitsAll }
  | request device sourceNetworkHash =>
    have hcall := getOrCreate_registration cfg s.registry device sourceNetworkHash
    unfold RegistrationRun.step
    dsimp only
    generalize s.registry.getOrCreatePublicUser cfg device sourceNetworkHash = outcome at hcall
    cases hcall with
    | known existing hknown => exact h
    | refused quota retryAt hnew hmem hfull hretry => exact h
    | noDevice hnew hempty => exact h
    | created hnew hroom =>
      generalize registrationSource cfg sourceNetworkHash = source at hroom
      simp only [Registry.quotas, List.forall_mem_cons] at hroom
      obtain ⟨hburst, hhourly, hdaily, hglobal, -⟩ := hroom
      unfold Quota.IsFull Quota.recent at hburst hhourly hdaily hglobal
      dsimp only at hburst hhourly hdaily hglobal
      rw [h.length_source source burstWidth_le] at hburst
      rw [h.length_source source (by decide)] at hhourly
      rw [h.length_source source (Nat.le_refl _)] at hdaily
      rw [h.length_global] at hglobal
      have hsame : ∀ registry : Registry,
          (RegistrationRun.mk registry (s.created ++ [(source, s.registry.now)])).timesOf source =
            s.timesOf source ++ [s.registry.now] := by
        intro registry
        simp [RegistrationRun.timesOf]
      have hother : ∀ (registry : Registry) (other : String), other ≠ source →
          (RegistrationRun.mk registry (s.created ++ [(source, s.registry.now)])).timesOf other = s.timesOf other := by
        intro registry other hne
        simp [RegistrationRun.timesOf, hne.symm]
      have htimes : ∀ registry : Registry,
          (RegistrationRun.mk registry (s.created ++ [(source, s.registry.now)])).times =
            s.times ++ [s.registry.now] := by
        intro registry
        simp [RegistrationRun.times]
      refine ⟨?_, ?_, ?_, ?_, ?_⟩
      · intro entry hentry
        cases List.mem_append.mp hentry with
        | inl hold => exact h.past entry hold
        | inr hlast =>
          rw [List.mem_singleton.mp hlast]
          exact Nat.le_refl _
      · intro other t ht
        dsimp only
        by_cases hof : other = source
        · subst hof
          rw [Function.update_self, hsame]
          exact recentTimes_renewed ht (h.bySource other t ht)
        · rw [Function.update_of_ne hof, hother _ other hof]
          exact h.bySource other t ht
      · intro t ht
        rw [htimes]
        exact recentTimes_renewed ht (h.everywhere t ht)
      · intro other
        by_cases hof : other = source
        · subst hof
          have hfits := h.fits other
          constructor
          · rw [hsame]
            exact hfits.burst.add (Nat.lt_of_not_le hburst) (Nat.le_refl _)
          · rw [hsame]
            exact hfits.hourly.add (Nat.lt_of_not_le hhourly) (Nat.le_refl _)
          · rw [hsame]
            exact hfits.daily.add (Nat.lt_of_not_le hdaily) (Nat.le_refl _)
        · have hfits := h.fits other
          constructor
          · rw [hother _ other hof]
            exact hfits.burst
          · rw [hother _ other hof]
            exact hfits.hourly
          · rw [hother _ other hof]
            exact hfits.daily
      · rw [htimes]
        exact h.fitsAll.add (Nat.lt_of_not_le hglobal) (Nat.le_refl _)

lemma counted_run (ops : List RegistrationOp) : (run (RegistrationRun.step cfg) {} ops).Counted cfg := by
  have hpreserved : ∀ (s : RegistrationRun) (op : RegistrationOp), True → s.Counted cfg → (s.step cfg op).Counted cfg :=
    fun _ op _ h => h.step op
  exact run_invariant hpreserved (admissible_true _ ops) counted_initial

/-- Whoever asks, and when: no window of a quota ever holds more registrations than the quota allows, neither of one
source nor of all of them. -/
theorem registrations_fit_quotas (ops : List RegistrationOp) (source : String) :
    let s := run (RegistrationRun.step cfg) {} ops
    FitsWindows cfg.burstWidth (atLeastOne cfg.sourceBurstLimit) (s.timesOf source) ∧
      FitsWindows (60 * 60) (atLeastOne cfg.sourceHourlyLimit) (s.timesOf source) ∧
      FitsWindows (24 * 60 * 60) (atLeastOne cfg.sourceDailyLimit) (s.timesOf source) ∧
      FitsWindows (60 * 60) (atLeastOne cfg.globalHourlyLimit) s.times := by
  have hcounted := @counted_run cfg ops
  have hfits := hcounted.fits source
  exact ⟨hfits.burst, hfits.hourly, hfits.daily, hcounted.fitsAll⟩

/-- One row for each device, each with an id of its own, and no row that was not counted. -/
structure RegistrationRun.Distinct (s : RegistrationRun) : Prop where
  devices : (s.registry.users.map User.deviceIdHash).Nodup
  ids : (s.registry.users.map User.id).Nodup
  numbered : ∀ user ∈ s.registry.users, user.id ≤ s.registry.lastUserId
  counted : s.registry.users.map User.createdAt = s.times

lemma RegistrationRun.Distinct.step (h : s.Distinct) (op : RegistrationOp) : (s.step cfg op).Distinct := by
  cases op with
  | elapse seconds => exact ⟨h.devices, h.ids, h.numbered, h.counted⟩
  | request device sourceNetworkHash =>
    have hcall := getOrCreate_registration cfg s.registry device sourceNetworkHash
    unfold RegistrationRun.step
    dsimp only
    generalize s.registry.getOrCreatePublicUser cfg device sourceNetworkHash = outcome at hcall
    cases hcall with
    | known existing hknown => exact h
    | refused quota retryAt hnew hmem hfull hretry => exact h
    | noDevice hnew hempty => exact h
    | created hnew hroom =>
      have hfresh : ∀ user ∈ s.registry.users, user.deviceIdHash ≠ cfg.strip device := by
        intro user huser
        have hmissed := List.find?_eq_none.mp hnew user huser
        simpa using hmissed
      refine ⟨?_, ?_, ?_, ?_⟩
      · simp only [Registry.createUser, List.map_append, List.map_singleton]
        refine List.nodup_append.mpr ⟨h.devices, List.nodup_singleton _, ?_⟩
        intro old hold new hnewest
        obtain ⟨user, huser, rfl⟩ := List.mem_map.mp hold
        rw [List.mem_singleton.mp hnewest]
        exact hfresh user huser
      · simp only [Registry.createUser, List.map_append, List.map_singleton]
        refine List.nodup_append.mpr ⟨h.ids, List.nodup_singleton _, ?_⟩
        intro old hold new hnewest
        obtain ⟨user, huser, rfl⟩ := List.mem_map.mp hold
        rw [List.mem_singleton.mp hnewest]
        have hle := h.numbered user huser
        omega
      · intro user huser
        simp only [Registry.createUser, List.mem_append, List.mem_singleton] at huser ⊢
        rcases huser with hold | rfl
        · exact Nat.le_succ_of_le (h.numbered user hold)
        · exact Nat.le_refl _
      · simp only [Registry.createUser, RegistrationRun.times, List.map_append, List.map_singleton]
        rw [h.counted]
        rfl

/-- A user that is found is found by every later call. -/
lemma getUser_step {device : String} {user : User} (hknown : s.registry.getUser cfg device = some user)
    (op : RegistrationOp) : (s.step cfg op).registry.getUser cfg device = some user := by
  cases op with
  | elapse seconds => exact hknown
  | request other sourceNetworkHash =>
    have hcall := getOrCreate_registration cfg s.registry other sourceNetworkHash
    unfold RegistrationRun.step
    dsimp only
    generalize s.registry.getOrCreatePublicUser cfg other sourceNetworkHash = outcome at hcall
    cases hcall with
    | known existing hfound => exact hknown
    | refused quota retryAt hnew hmem hfull hretry => exact hknown
    | noDevice hnew hempty => exact hknown
    | created hnew hroom =>
      unfold Registry.getUser at hknown ⊢
      simp only [Registry.createUser, List.find?_append, hknown, Option.some_or]

/-- A device keeps the one user it was registered with: it is told of it at any later time, whatever the quotas say, and
nothing is written then; and no two users share a device or an id. -/
theorem devices_keep_their_user (ops later : List RegistrationOp) (device : String) (sourceNetworkHash : Option String) :
    let s := run (RegistrationRun.step cfg) {} ops
    let s' := run (RegistrationRun.step cfg) {} (ops ++ later)
    (s.registry.users.map User.deviceIdHash).Nodup ∧ (s.registry.users.map User.id).Nodup ∧
      s.registry.users.map User.createdAt = s.times ∧
      ∀ user, s.registry.getUser cfg device = some user →
        s'.registry.getOrCreatePublicUser cfg device sourceNetworkHash = (s'.registry, .ok (user.id, false)) := by
  have hpreserved : ∀ (s : RegistrationRun) (op : RegistrationOp), True → s.Distinct → (s.step cfg op).Distinct :=
    fun _ op _ h => h.step op
  have hstart : RegistrationRun.Distinct {} := ⟨List.nodup_nil, List.nodup_nil, nofun, rfl⟩
  have hdistinct := run_invariant hpreserved (admissible_true _ ops) hstart
  refine ⟨hdistinct.devices, hdistinct.ids, hdistinct.counted, ?_⟩
  intro user hknown
  rw [run_append]
  have hkeeps : ∀ (s : RegistrationRun) (op : RegistrationOp), True →
      s.registry.getUser cfg device = some user → (s.step cfg op).registry.getUser cfg device = some user :=
    fun _ op _ h => getUser_step h op
  have hlater := run_invariant hkeeps (admissible_true _ later) hknown
  unfold Registry.getOrCreatePublicUser
  rw [hlater]

/-- A client that comes back when it is told to, at most so often, while nobody else is registered. -/
def Registry.persist (cfg : RegistrationSettings) (device : String) (sourceNetworkHash : Option String) :
    ℕ → Registry → Option (ℕ × Bool)
  | 0, _ => none
  | calls + 1, reg =>
    match (reg.getOrCreatePublicUser cfg device sourceNetworkHash).2 with
    | .ok result => some result
    | .error (.rateLimited retryAt) => persist cfg device sourceNetworkHash calls { reg with now := retryAt }
    | .error .noDevice => none

/-- Each refusal leaves one quota fewer without room. -/
lemma persist_isSome {device : String} {sourceNetworkHash : Option String} (hdevice : cfg.strip device ≠ "")
    (calls : ℕ) (reg : Registry)
    (hwithin : ∀ quota ∈ reg.quotas cfg (registrationSource cfg sourceNetworkHash), quota.WithinLimit reg.now)
    (hcalls : fullQuotas (reg.quotas cfg (registrationSource cfg sourceNetworkHash)) reg.now < calls) :
    (reg.persist cfg device sourceNetworkHash calls).isSome = true := by
  induction calls generalizing reg with
  | zero => exact absurd hcalls (Nat.not_lt_zero _)
  | succ calls ih =>
    have hcall := getOrCreate_registration cfg reg device sourceNetworkHash
    unfold Registry.persist
    generalize reg.getOrCreatePublicUser cfg device sourceNetworkHash = outcome at hcall
    cases hcall with
    | known existing hknown => rfl
    | refused quota retryAt hnew hmem hfull hretry =>
      have hahead : reg.now ≤ retryAt := Nat.le_trans (Nat.le_of_lt (Quota.lt_retryAt (hwithin quota hmem) hfull)) hretry
      have hfewer := fullQuotas_lt (hwithin quota hmem) hmem hfull hretry
      apply ih
      · exact fun quota hquota => (hwithin quota hquota).atLater hahead
      · exact Nat.lt_of_lt_of_le hfewer (Nat.le_of_lt_succ hcalls)
    | noDevice hnew hempty => exact absurd hempty hdevice
    | created hnew hroom => rfl

/-- A device that comes back whenever it is told to is registered by its fifth call at the latest. -/
theorem persistent_device_is_registered (ops : List RegistrationOp) {device : String}
    (hdevice : cfg.strip device ≠ "") (sourceNetworkHash : Option String) :
    ((run (RegistrationRun.step cfg) {} ops).registry.persist cfg device sourceNetworkHash 5).isSome = true := by
  apply persist_isSome hdevice 5 _ ((@counted_run cfg ops).within _)
  exact Nat.lt_succ_of_le fullQuotas_le_length

/-- One registration a minute, and three an hour. -/
def RegistrationSettings.tight : RegistrationSettings where
  strip := id
  lower := id
  sourceBurstWindowSeconds := 60
  sourceBurstLimit := 1
  sourceHourlyLimit := 3
  globalHourlyLimit := 2

/-- The third device is told to come back twice. -/
theorem persistent_device_is_registered_third :
    ((run (RegistrationRun.step .tight) {}
      [.request "one" none, .elapse 70, .request "two" none]).registry.persist .tight "three" none 5).isSome = true :=
  persistent_device_is_registered [.request "one" none, .elapse 70, .request "two" none] (by decide) none

end Runs

end NimHunt
