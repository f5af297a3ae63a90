import NimHunt.Lib.Windows
import NimHunt.SecurityMetadata

/-!
# Rate admission

A bucket holds the admissions that still count, at most as many as the limit.  Pruning at a later moment takes out
what pruning at an earlier one does, so a refusal leaves nothing behind; and the oldest admission of a full bucket has
left the window when the call is told to come again.
-/

namespace NimHunt

open Lib AppMetadata

variable {P : Type}

section Calls

/-- Calls on one key at the given times, and their results. -/
def admitAll (cfg : Settings P) (bucket : String) (windowSeconds limit : ℕ) (md : AppMetadata) :
    List ℕ → Except PyError (List Admission)
  | [] => .ok []
  | now :: times =>
    match admitTimestamp cfg md bucket now windowSeconds limit with
    | .error e => .error e
    | .ok (md, result) =>
      match admitAll cfg bucket windowSeconds limit md times with
      | .error e => .error e
      | .ok results => .ok (result :: results)

/-- When calls were let in. -/
def admittedTimes (times : List ℕ) (results : List Admission) : List ℕ :=
  ((times.zip results).filter fun call => call.2.allowed).map Prod.fst

end Calls

section Bucket

variable {windowSeconds limit now t : ℕ} {stamps : List ℤ} {times past : List ℕ}

/-- The stamps that still count. -/
def recentStamps (windowSeconds now : ℕ) (stamps : List ℤ) : List ℤ :=
  stamps.filter fun stamp => (now : ℤ) - windowSeconds < stamp

/-- One call on a bucket that holds at most `limit` stamps. -/
def admitInto (windowSeconds limit : ℕ) (stamps : List ℤ) (now : ℕ) : List ℤ × Admission :=
  let recent := recentStamps windowSeconds now stamps
  if limit ≤ recent.length then (recent, ⟨false, (recent.min?.getD now) + windowSeconds + 1⟩)
  else (recent ++ [(now : ℤ)], ⟨true, now⟩)

def decisions (windowSeconds limit : ℕ) (stamps : List ℤ) : List ℕ → List Admission
  | [] => []
  | now :: times =>
    (admitInto windowSeconds limit stamps now).2 ::
      decisions windowSeconds limit (admitInto windowSeconds limit stamps now).1 times

lemma length_decisions (stamps : List ℤ) (times : List ℕ) :
    (decisions windowSeconds limit stamps times).length = times.length := by
  induction times generalizing stamps with
  | nil => rfl
  | cons now times ih => exact congrArg Nat.succ (ih _)

/-- A call is refused over what still counts, which it leaves in the bucket. -/
lemma admitInto_refused {stamps' : List ℤ} {retryAt : ℤ}
    (h : admitInto windowSeconds limit stamps now = (stamps', ⟨false, retryAt⟩)) :
    limit ≤ stamps'.length ∧ stamps' = recentStamps windowSeconds now stamps ∧
      retryAt = (stamps'.min?.getD now) + windowSeconds + 1 := by
  unfold admitInto at h
  dsimp only at h
  split_ifs at h with hfull
  · obtain ⟨hstamps, hretry⟩ := Prod.mk.inj h
    injection hretry with _ hretry
    rw [← hstamps]
    exact ⟨hfull, rfl, hretry.symm⟩
  · cases (Prod.mk.inj h).2

lemma admitInto_refused_of_not_allowed (h : (admitInto windowSeconds limit stamps now).2.allowed = false) :
    limit ≤ (recentStamps windowSeconds now stamps).length ∧
      (admitInto windowSeconds limit stamps now).1 = recentStamps windowSeconds now stamps := by
  unfold admitInto at h ⊢
  dsimp only at h ⊢
  split_ifs at h ⊢ with hfull
  exact ⟨hfull, rfl⟩

lemma length_admitInto (hlen : stamps.length ≤ limit) :
    (admitInto windowSeconds limit stamps now).1.length ≤ limit := by
  have hrecent : (recentStamps windowSeconds now stamps).length ≤ stamps.length := List.length_filter_le _ _
  unfold admitInto
  dsimp only
  split_ifs with hfull
  · exact hrecent.trans hlen
  · rw [List.length_append, List.length_singleton]
    omega

/-- What counts later is among what counts now. -/
lemma recentStamps_recentStamps (hlater : now ≤ t) (stamps : List ℤ) :
    recentStamps windowSeconds t (recentStamps windowSeconds now stamps) = recentStamps windowSeconds t stamps := by
  unfold recentStamps
  rw [List.filter_filter]
  apply List.filter_congr
  intro stamp _
  apply Bool.eq_iff_iff.mpr
  simp only [Bool.and_eq_true, decide_eq_true_eq]
  omega

/-- Later calls do not see that a bucket has been pruned. -/
lemma decisions_recentStamps (hlater : ∀ t ∈ times, now ≤ t) (stamps : List ℤ) :
    decisions windowSeconds limit (recentStamps windowSeconds now stamps) times =
      decisions windowSeconds limit stamps times := by
  cases times with
  | nil => rfl
  | cons t times =>
    have hsame : admitInto windowSeconds limit (recentStamps windowSeconds now stamps) t =
        admitInto windowSeconds limit stamps t := by
      unfold admitInto
      rw [recentStamps_recentStamps (hlater t List.mem_cons_self)]
    unfold decisions
    rw [hsame]

/-- Without a refused call the others have the results they have. -/
lemma decisions_eraseIdx (hclock : times.Pairwise (· ≤ ·)) {i : ℕ} {retryAt : ℤ}
    (hrefused : (decisions windowSeconds limit stamps times)[i]? = some ⟨false, retryAt⟩) :
    decisions windowSeconds limit stamps (times.eraseIdx i) =
      (decisions windowSeconds limit stamps times).eraseIdx i := by
  induction times generalizing stamps i with
  | nil => cases hrefused
  | cons now times ih =>
    obtain ⟨hlater, hrest⟩ := List.pairwise_cons.mp hclock
    unfold decisions at hrefused
    cases i with
    | zero =>
      have hresult : (admitInto windowSeconds limit stamps now).2 = ⟨false, retryAt⟩ := Option.some.inj hrefused
      obtain ⟨-, hkept⟩ := admitInto_refused_of_not_allowed (congrArg Admission.allowed hresult)
      change decisions windowSeconds limit stamps times =
        decisions windowSeconds limit (admitInto windowSeconds limit stamps now).1 times
      rw [hkept, decisions_recentStamps hlater]
    | succ i => exact congrArg (List.cons _) (ih hrest hrefused)

/-- While every call is refused the bucket stays as it is, until one of its stamps leaves the window. -/
lemma decisions_admits (hlen : stamps.length ≤ limit) {stamp : ℤ} (hstamp : stamp ∈ stamps) {j : ℕ}
    (hnow : times[j]? = some now) (hdue : stamp + windowSeconds ≤ now) {result : Admission}
    (hresult : (decisions windowSeconds limit stamps times)[j]? = some result)
    (hrefused : ∀ k < j, ∀ other, (decisions windowSeconds limit stamps times)[k]? = some other → other.allowed = false) :
    result.allowed = true := by
  induction times generalizing j with
  | nil => cases hnow
  | cons t times ih =>
    unfold decisions at hresult hrefused
    cases j with
    | zero =>
      have hthis : t = now := Option.some.inj hnow
      have hless : (recentStamps windowSeconds t stamps).length < stamps.length := by
        unfold recentStamps
        rw [List.length_filter_lt_length_iff_exists]
        refine ⟨stamp, hstamp, ?_⟩
        rw [hthis, decide_eq_true_eq]
        omega
      rw [← Option.some.inj hresult]
      unfold admitInto
      dsimp only
      rw [if_neg (by omega)]
    | succ j =>
      have hfirst : (admitInto windowSeconds limit stamps t).2.allowed = false :=
        hrefused 0 (Nat.succ_pos j) _ rfl
      obtain ⟨hfull, hkept⟩ := admitInto_refused_of_not_allowed hfirst
      have hsame : (admitInto windowSeconds limit stamps t).1 = stamps := by
        rw [hkept]
        have hless : (recentStamps windowSeconds t stamps).length ≤ stamps.length := List.length_filter_le _ _
        exact List.filter_sublist.eq_of_length (by unfold recentStamps at hfull hless; omega)
      rw [hsame] at hresult hrefused
      refine ih hnow hresult ?_
      intro k hk other hother
      exact hrefused (k + 1) (Nat.succ_lt_succ hk) other hother

/-- The bucket holds the admissions of the past that still count. -/
def Tracks (windowSeconds now : ℕ) (past : List ℕ) (stamps : List ℤ) : Prop :=
  ∀ t, now ≤ t → recentStamps windowSeconds t stamps =
    (past.filter fun a => t < a + windowSeconds).map fun a : ℕ => (a : ℤ)

lemma Tracks.pruned (h : Tracks windowSeconds now past stamps) (hlater : now ≤ t) :
    Tracks windowSeconds t past (recentStamps windowSeconds t stamps) := by
  intro t' ht'
  rw [recentStamps_recentStamps ht']
  exact h t' (hlater.trans ht')

lemma Tracks.admitted (h : Tracks windowSeconds now past stamps) :
    Tracks windowSeconds now (past ++ [now]) (stamps ++ [(now : ℤ)]) := by
  intro t ht
  have hbefore := h t ht
  have hnew : recentStamps windowSeconds t [(now : ℤ)] =
      ([now].filter fun a => t < a + windowSeconds).map fun a : ℕ => (a : ℤ) := by
    unfold recentStamps
    by_cases hin : t < now + windowSeconds
    · rw [List.filter_cons_of_pos (by rw [decide_eq_true_eq]; omega), List.filter_cons_of_pos (by simpa using hin)]
      rfl
    · rw [List.filter_cons_of_neg (by rw [decide_eq_true_eq]; omega), List.filter_cons_of_neg (by simpa using hin)]
      rfl
  unfold recentStamps at hbefore hnew ⊢
  rw [List.filter_append, List.filter_append, List.map_append, hbefore, hnew]

/-- Whatever is let in, no window holds more than the limit. -/
lemma fitsWindows_decisions (hclock : times.Pairwise (· ≤ ·)) (hlater : ∀ t ∈ times, now ≤ t)
    (htracks : Tracks windowSeconds now past stamps) (hfits : FitsWindows windowSeconds limit past) :
    FitsWindows windowSeconds limit
      (past ++ admittedTimes times (decisions windowSeconds limit stamps times)) := by
  induction times generalizing now past stamps with
  | nil =>
    have hnone : admittedTimes [] (decisions windowSeconds limit stamps []) = [] := rfl
    rw [hnone, List.append_nil]
    exact hfits
  | cons t times ih =>
    obtain ⟨hafter, hrest⟩ := List.pairwise_cons.mp hclock
    have hcount : (recentStamps windowSeconds t stamps).length = recentCount windowSeconds t past := by
      rw [htracks t (hlater t List.mem_cons_self), List.length_map]
      exact List.countP_eq_length_filter.symm
    have hpruned := htracks.pruned (hlater t List.mem_cons_self)
    unfold decisions admitInto
    dsimp only
    split_ifs with hfull
    · exact ih hrest hafter hpruned hfits
    · have hadded : FitsWindows windowSeconds limit (past ++ [t]) := hfits.add (by omega) (le_refl t)
      have hboth := ih hrest hafter hpruned.admitted hadded
      rw [List.append_assoc] at hboth
      exact hboth

end Bucket

section Rows

variable {cfg : Settings P} {bucket : String} {windowSeconds limit now : ℕ} {md : AppMetadata} {held : List ℤ}

/-- The last `limit` stamps as stored are read again. -/
lemma stamps_bucketOf (hlen : held.length ≤ limit) :
    AppMetadata.stamps cfg (some (.value (bucketOf limit held))) = .ok held := by
  have hread : ∀ held : List ℤ, (held.map Json.int).mapM (Json.toInt cfg) = .ok (held.map some) := by
    intro held
    induction held with
    | nil => rfl
    | cons stamp held ih =>
      rw [List.map_cons, List.mapM_cons, ih]
      rfl
  unfold AppMetadata.stamps bucketOf
  rw [Nat.sub_eq_zero_of_le hlen, List.drop_zero]
  dsimp only
  rw [hread]
  change Except.ok ((held.map some).filterMap id) = _
  rw [List.filterMap_map]
  exact congrArg Except.ok List.filterMap_some

/-- The row is a bucket. -/
lemma admitTimestamp_eq (hheld : AppMetadata.stamps cfg (md.value? (.rate bucket)) = .ok held)
    (hlen : held.length ≤ limit) :
    ∃ md', admitTimestamp cfg md bucket now windowSeconds limit = .ok (md', (admitInto windowSeconds limit held now).2) ∧
      AppMetadata.stamps cfg (md'.value? (.rate bucket)) = .ok (admitInto windowSeconds limit held now).1 := by
  have hstored : ∀ made : List ℤ, made.length ≤ limit →
      AppMetadata.stamps cfg ((md.setJson (.rate bucket) (bucketOf limit made)).value? (.rate bucket)) = .ok made := by
    intro made hmade
    unfold AppMetadata.value? AppMetadata.setJson
    rw [Dict.get?_set, if_pos rfl]
    exact stamps_bucketOf hmade
  have hafter : (admitInto windowSeconds limit held now).1.length ≤ limit := length_admitInto hlen
  unfold admitTimestamp admitInto at *
  rw [hheld]
  dsimp only at *
  unfold recentStamps at *
  split_ifs at * with hfull
  · exact ⟨_, rfl, hstored _ hafter⟩
  · exact ⟨_, rfl, hstored _ hafter⟩

lemma admitAll_eq (hheld : AppMetadata.stamps cfg (md.value? (.rate bucket)) = .ok held)
    (hlen : held.length ≤ limit) (times : List ℕ) :
    admitAll cfg bucket windowSeconds limit md times = .ok (decisions windowSeconds limit held times) := by
  induction times generalizing md held with
  | nil => rfl
  | cons now times ih =>
    obtain ⟨md', hadmitted, hafter⟩ := @admitTimestamp_eq _ cfg bucket windowSeconds limit now md held hheld hlen
    unfold admitAll decisions
    rw [hadmitted]
    dsimp only
    rw [ih hafter (length_admitInto hlen)]

end Rows

section Admission

variable {cfg : Settings P} {bucket : String} {windowSeconds limit : ℕ} {md : AppMetadata}

/-- What rate admission promises about a sequence of calls and their results. -/
structure RateAdmission (cfg : Settings P) (bucket : String) (windowSeconds limit : ℕ) (md : AppMetadata)
    (times : List ℕ) (results : List Admission) : Prop where
  /-- The calls let in during `(t - windowSeconds, t]`. -/
  bounded : ∀ t, inWindow windowSeconds t (admittedTimes times results) ≤ limit
  /-- Without a refused call the others have the results they have. -/
  forgotten : ∀ (i : ℕ) (retryAt : ℤ), results[i]? = some ⟨false, retryAt⟩ →
    admitAll cfg bucket windowSeconds limit md (times.eraseIdx i) = .ok (results.eraseIdx i)
  /-- Whoever comes again in time is let in, unless another was in between. -/
  retried : ∀ (i j : ℕ) (retryAt : ℤ) (now : ℕ) (result : Admission), i < j → results[i]? = some ⟨false, retryAt⟩ → times[j]? = some now →
    retryAt ≤ now → results[j]? = some result →
    (∀ k, i < k → k < j → ∀ other : Admission, results[k]? = some other → other.allowed = false) → result.allowed = true

lemma decisions_retried (hlimit : 1 ≤ limit) {held : List ℤ} (hlen : held.length ≤ limit) {times : List ℕ} {i j now : ℕ}
    {retryAt : ℤ} {result : Admission} (hij : i < j)
    (hrefused : (decisions windowSeconds limit held times)[i]? = some ⟨false, retryAt⟩) (hnow : times[j]? = some now)
    (hdue : retryAt ≤ now) (hresult : (decisions windowSeconds limit held times)[j]? = some result)
    (hnone : ∀ k, i < k → k < j → ∀ other, (decisions windowSeconds limit held times)[k]? = some other →
      other.allowed = false) : result.allowed = true := by
  induction times generalizing held i j with
  | nil => cases hnow
  | cons t times ih =>
    unfold decisions at hrefused hresult hnone
    obtain ⟨j, rfl⟩ : ∃ j', j = j' + 1 := ⟨j - 1, by omega⟩
    have hmade : (admitInto windowSeconds limit held t).1.length ≤ limit := length_admitInto hlen
    cases i with
    | zero =>
      have hfirst : (admitInto windowSeconds limit held t).2 = ⟨false, retryAt⟩ := Option.some.inj hrefused
      have hrefusal : admitInto windowSeconds limit held t =
          ((admitInto windowSeconds limit held t).1, ⟨false, retryAt⟩) := Prod.ext rfl hfirst
      obtain ⟨hfull, -, hretry⟩ := admitInto_refused hrefusal
      have hlater : times[j]? = some now := hnow
      have hdecided : (decisions windowSeconds limit (admitInto windowSeconds limit held t).1 times)[j]? =
          some result := hresult
      -- A full bucket has an oldest stamp, which has left the window by the retry time.
      cases holdest : (admitInto windowSeconds limit held t).1.min? with
      | none =>
        have hempty := List.min?_eq_none_iff.mp holdest
        rw [hempty, List.length_nil] at hfull
        omega
      | some oldest =>
        rw [holdest, Option.getD_some] at hretry
        refine decisions_admits hmade (List.min?_mem holdest) hlater (by omega) hdecided ?_
        intro k hk other hother
        exact hnone (k + 1) (Nat.succ_pos k) (Nat.succ_lt_succ hk) other hother
    | succ i =>
      refine ih hmade (Nat.lt_of_succ_lt_succ hij) hrefused hnow hresult ?_
      intro k hik hkj other hother
      exact hnone (k + 1) (Nat.succ_lt_succ hik) (Nat.succ_lt_succ hkj) other hother

/-- Calls on a key that holds nothing yet, on a clock that does not go back. -/
theorem rate_admission (hlimit : 1 ≤ limit) (hfresh : AppMetadata.stamps cfg (md.value? (.rate bucket)) = .ok [])
    {times : List ℕ} (hclock : times.Pairwise (· ≤ ·)) :
    ∃ results, admitAll cfg bucket windowSeconds limit md times = .ok results ∧ results.length = times.length ∧
      RateAdmission cfg bucket windowSeconds limit md times results := by
  have hall : ∀ times, admitAll cfg bucket windowSeconds limit md times =
      .ok (decisions windowSeconds limit [] times) := admitAll_eq hfresh (Nat.zero_le _)
  refine ⟨decisions windowSeconds limit [] times, hall times, length_decisions [] times, ?_, ?_, ?_⟩
  · have htracks : Tracks windowSeconds 0 [] [] := fun _ _ => rfl
    have hfits : FitsWindows windowSeconds limit [] := fun _ => Nat.zero_le _
    exact fitsWindows_decisions hclock (fun t _ => Nat.zero_le t) htracks hfits
  · intro i retryAt hrefused
    rw [hall, decisions_eraseIdx hclock hrefused]
  · intro i j retryAt now result hij hrefused hnow hdue hresult hnone
    exact decisions_retried hlimit (Nat.zero_le _) hij hrefused hnow hdue hresult hnone

/-- Two calls a minute: the third is refused, and let in at the time it was told. -/
theorem rate_admission_minute :
    ∃ results, admitAll Settings.onePlace "test" 60 2 Dict.empty [10, 11, 12, 71] = .ok results ∧
      results = [⟨true, 10⟩, ⟨true, 11⟩, ⟨false, 71⟩, ⟨true, 71⟩] ∧
      RateAdmission Settings.onePlace "test" 60 2 Dict.empty [10, 11, 12, 71] results := by
  have hfresh : AppMetadata.stamps Settings.onePlace (AppMetadata.value? Dict.empty (.rate "test")) = .ok [] := rfl
  obtain ⟨results, hresults, -, hadmission⟩ := @rate_admission _ Settings.onePlace "test" 60 2 Dict.empty (by decide)
    hfresh [10, 11, 12, 71] (by decide)
  refine ⟨results, hresults, ?_, hadmission⟩
  have hrun : admitAll Settings.onePlace "test" 60 2 Dict.empty [10, 11, 12, 71] =
      .ok [⟨true, 10⟩, ⟨true, 11⟩, ⟨false, 71⟩, ⟨true, 71⟩] := by rfl
  rw [hrun] at hresults
  exact (Except.ok.inj hresults).symm

end Admission

end NimHunt
