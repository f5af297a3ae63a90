import NimHunt.WalletClusterGuard

/-!
# The members of a funding source

A source that is neither saturated nor uncertain lists exactly the signers whose origin record names
it.  Both stores are written in one transaction, so no interleaving of lookups separates them.
-/

namespace NimHunt

open Lib

variable {A H : Type} [DecidableEq A] [DecidableEq H] {limits : ClusterLimits}

namespace SourceState

/-- Whether the member list of a source still counts. -/
def Exact (state : SourceState H) : Prop := state.membersSaturated = false ∧ state.membershipUncertain = false

variable {state : SourceState H}

omit [DecidableEq H] in
lemma not_exact_markUncertain : ¬ state.markUncertain.Exact := by
  intro h
  have huncertain := h.2
  simp [markUncertain] at huncertain

/-- A list that still counts after an addition counted before it, and has the new entry alone under its
signer. -/
lemma exact_addMember {replacement : Member H} {correction : Bool}
    (h : (state.addMember limits replacement correction).Exact) :
    state.Exact ∧ ∀ m, m ∈ (state.addMember limits replacement correction).members ↔
      m = replacement ∨ m ∈ state.members ∧ m.signer ≠ replacement.signer := by
  unfold addMember at h ⊢
  by_cases huncertain : state.membershipUncertain = true
  · rw [if_pos huncertain] at h
    have hcertain := h.2
    rw [huncertain] at hcertain
    cases hcertain
  · rw [if_neg huncertain] at h ⊢
    have hcertain : state.membershipUncertain = false := by simpa using huncertain
    cases hget : state.members.get? replacement.signer with
    | some existing =>
      obtain ⟨hmem, hsigner⟩ := Dict.get?_eq_some.mp hget
      simp only [hget] at h ⊢
      by_cases hsame : existing = replacement
      · rw [if_pos hsame] at h ⊢
        subst hsame
        refine ⟨h, fun m => ⟨fun hm => ?_, ?_⟩⟩
        · by_cases hkey : m.signer = existing.signer
          · have hfound : state.members.get? existing.signer = some m := Dict.get?_eq_some.mpr ⟨hm, hkey⟩
            rw [hget] at hfound
            exact Or.inl (Option.some.inj hfound).symm
          · exact Or.inr ⟨hm, hkey⟩
        · rintro (rfl | ⟨hm, -⟩)
          · exact hmem
          · exact hm
      · rw [if_neg hsame] at h ⊢
        by_cases hsaturated : state.membersSaturated = true
        · rw [if_pos hsaturated] at h
          exact absurd h not_exact_markUncertain
        · rw [if_neg hsaturated]
          exact ⟨⟨by simpa using hsaturated, hcertain⟩, fun m => Dict.mem_set⟩
    | none =>
      simp only [hget] at h ⊢
      by_cases hcorrection : correction = true ∧ state.membersSaturated = true
      · rw [if_pos hcorrection] at h
        exact absurd h not_exact_markUncertain
      · rw [if_neg hcorrection] at h ⊢
        have hsaturated := h.1
        unfold addNewMember at hsaturated ⊢
        simp only [Bool.or_eq_false_iff, Bool.not_eq_false'] at hsaturated
        simp only [hsaturated.2, if_true]
        exact ⟨⟨hsaturated.1, hcertain⟩, fun m => Dict.mem_set⟩

/-- A list that still counts after a removal counted before it, and lost the entry of the signer. -/
lemma exact_removeMember {signer : H} (h : (state.removeMember limits signer).Exact) :
    state.Exact ∧ ∀ m, m ∈ (state.removeMember limits signer).members ↔ m ∈ state.members ∧ m.signer ≠ signer := by
  unfold removeMember at h ⊢
  by_cases hsaturated : state.membersSaturated = true
  · rw [if_pos hsaturated] at h
    exact absurd h not_exact_markUncertain
  · rw [if_neg hsaturated] at h ⊢
    by_cases hlisted : (state.members.get? signer).isSome = true
    · rw [if_pos hlisted] at h ⊢
      exact ⟨h, fun m => Dict.mem_pop⟩
    · rw [if_neg hlisted] at h ⊢
      refine ⟨h, fun m => ⟨fun hm => ⟨hm, fun hsigner => ?_⟩, And.left⟩⟩
      apply hlisted
      rw [Dict.get?_eq_some.mpr ⟨hm, hsigner⟩]
      rfl

end SourceState

namespace ClusterStore

/-- The transfer the origin record of a signer names. -/
def originOf (store : ClusterStore H) (signer : H) : Option (FundingOrigin H) :=
  (store.origins signer).bind OriginRecord.origin

/-- What one source row says is what the origin records say of it; a source without a row funded no
one. -/
def MatchesAt (store : ClusterStore H) (source : H) : Prop :=
  match store.sources source with
  | none => ∀ signer timestamp amount, store.originOf signer ≠ some ⟨source, timestamp, amount⟩
  | some state => state.Exact → ∀ m : Member H, m ∈ state.members ↔
      store.originOf m.signer = some ⟨source, m.timestamp, m.amount⟩

/-- The invariant of the two stores. -/
def Matches (store : ClusterStore H) : Prop := ∀ source, store.MatchesAt source

variable {store : ClusterStore H}

omit [DecidableEq H] in
lemma matchesAt_none {source : H} (h : store.sources source = none) :
    store.MatchesAt source ↔ ∀ signer timestamp amount, store.originOf signer ≠ some ⟨source, timestamp, amount⟩ := by
  unfold MatchesAt
  rw [h]

omit [DecidableEq H] in
lemma matchesAt_some {source : H} {state : SourceState H} (h : store.sources source = some state) :
    store.MatchesAt source ↔ (state.Exact → ∀ m : Member H, m ∈ state.members ↔
      store.originOf m.signer = some ⟨source, m.timestamp, m.amount⟩) := by
  unfold MatchesAt
  rw [h]

/-- A row that names no transfer changes nothing where none was named. -/
lemma recordFailure_matches {signer : H} {now : ℤ} (h : store.Matches) :
    (store.recordFailure limits signer now).Matches := by
  have hset : ∀ record, store.originOf signer = none → OriginRecord.origin record = none →
      (store.setOrigin signer record).Matches := by
    intro record hnone hrecord source
    have horigin : (store.setOrigin signer record).originOf = store.originOf := by
      funext s
      unfold originOf setOrigin
      dsimp only
      by_cases hs : s = signer
      · rw [if_pos hs, hs]
        exact hrecord.trans hnone.symm
      · rw [if_neg hs]
    have hat := h source
    unfold MatchesAt at hat ⊢
    rw [horigin]
    exact hat
  unfold recordFailure
  cases hcurrent : store.origins signer with
  | none =>
    apply hset _ _ rfl
    simp [originOf, hcurrent]
  | some record =>
    cases record with
    | observed origin checkedAt refreshAt => exact h
    | providerFailure checkedAt refreshAt =>
      dsimp only
      split_ifs
      · apply hset _ _ rfl
        simp [originOf, hcurrent, OriginRecord.origin]
      · exact h

/-- A signer whose record now names `origin`: its new source lists it, its old one no longer does, and the
other sources stay. -/
structure Moved (limits : ClusterLimits) (signer : H) (origin : Option (FundingOrigin H)) (store st : ClusterStore H) :
    Prop where
  originOf : ∀ s, st.originOf s = if s = signer then origin else store.originOf s
  joined : ∀ o, origin = some o → ∃ state correction breadth now, st.sources o.source = some state ∧
    state = (((store.sources o.source).getD {}).addMember limits ⟨signer, o.timestamp, o.amount⟩ correction).refreshed
      limits breadth now
  others : ∀ source, origin.map FundingOrigin.source ≠ some source →
    (store.originOf signer).map FundingOrigin.source ≠ some source ∧ st.sources source = store.sources source ∨
    st.sources source = (store.sources source).map fun state => state.removeMember limits signer

omit [DecidableEq H] in
/-- The members a source has before a signer joins it. -/
lemma mem_getD (h : store.Matches) {source : H} (hexact : ((store.sources source).getD {}).Exact) (m : Member H) :
    m ∈ ((store.sources source).getD {}).members ↔ store.originOf m.signer = some ⟨source, m.timestamp, m.amount⟩ := by
  cases hrow : store.sources source with
  | none =>
    have hnone := (matchesAt_none hrow).mp (h source)
    constructor
    · intro hm
      exact absurd hm Dict.not_mem_empty
    · intro horigin
      exact absurd horigin (hnone m.signer m.timestamp m.amount)
  | some state =>
    rw [hrow] at hexact
    exact (matchesAt_some hrow).mp (h source) hexact m

lemma Moved.matches {signer : H} {origin : Option (FundingOrigin H)} {st : ClusterStore H}
    (hmoved : Moved limits signer origin store st) (h : store.Matches) : st.Matches := by
  intro source
  by_cases hnew : origin.map FundingOrigin.source = some source
  · obtain ⟨o, horigin, rfl⟩ := Option.map_eq_some_iff.mp hnew
    obtain ⟨state, correction, breadth, now, hrow, hstate⟩ := hmoved.joined o horigin
    rw [matchesAt_some hrow]
    intro hexact m
    subst hstate
    obtain ⟨hbefore, hmembers⟩ := SourceState.exact_addMember hexact
    change m ∈ (SourceState.addMember limits _ _ _).members ↔ _
    rw [hmembers m, mem_getD h hbefore m, hmoved.originOf m.signer, horigin]
    by_cases hsigner : m.signer = signer
    · rw [if_pos hsigner]
      constructor
      · rintro (rfl | ⟨-, hother⟩)
        · rfl
        · exact absurd hsigner hother
      · intro heq
        have ho := Option.some.inj heq
        have htimestamp : o.timestamp = m.timestamp := congrArg FundingOrigin.timestamp ho
        have hamount : o.amount = m.amount := congrArg FundingOrigin.amount ho
        left
        rw [htimestamp, hamount, ← hsigner]
    · rw [if_neg hsigner]
      constructor
      · rintro (rfl | ⟨hm, -⟩)
        · exact absurd rfl hsigner
        · exact hm
      · intro hm
        exact Or.inr ⟨hm, hsigner⟩
  · have haway : ∀ timestamp amount, origin ≠ some ⟨source, timestamp, amount⟩ := by
      intro timestamp amount horigin
      apply hnew
      rw [horigin]
      rfl
    rcases hmoved.others source hnew with ⟨hold, hsame⟩ | hleft
    · have hiff : ∀ s timestamp amount, st.originOf s = some ⟨source, timestamp, amount⟩ ↔
          store.originOf s = some ⟨source, timestamp, amount⟩ := by
        intro s timestamp amount
        rw [hmoved.originOf s]
        by_cases hs : s = signer
        · rw [if_pos hs]
          constructor
          · intro horigin
            exact absurd horigin (haway timestamp amount)
          · intro horigin
            rw [hs] at horigin
            rw [horigin] at hold
            exact absurd rfl hold
        · rw [if_neg hs]
      have hat := h source
      unfold MatchesAt at hat ⊢
      rw [hsame]
      cases hrow : store.sources source with
      | none =>
        rw [hrow] at hat
        intro s timestamp amount horigin
        exact hat s timestamp amount ((hiff s timestamp amount).mp horigin)
      | some state =>
        rw [hrow] at hat
        intro hexact m
        rw [hiff]
        exact hat hexact m
    · cases hrow : store.sources source with
      | none =>
        rw [hrow] at hleft
        rw [matchesAt_none hleft]
        intro s timestamp amount horigin
        rw [hmoved.originOf s] at horigin
        by_cases hs : s = signer
        · rw [if_pos hs] at horigin
          exact haway timestamp amount horigin
        · rw [if_neg hs] at horigin
          exact (matchesAt_none hrow).mp (h source) s timestamp amount horigin
      | some state =>
        rw [hrow] at hleft
        rw [matchesAt_some hleft]
        intro hexact m
        obtain ⟨hbefore, hmembers⟩ := SourceState.exact_removeMember hexact
        rw [hmembers m, (matchesAt_some hrow).mp (h source) hbefore m, hmoved.originOf m.signer]
        by_cases hsigner : m.signer = signer
        · rw [if_pos hsigner]
          constructor
          · rintro ⟨-, hother⟩
            exact absurd hsigner hother
          · intro horigin
            exact absurd horigin (haway _ _)
        · rw [if_neg hsigner]
          exact and_iff_left hsigner

lemma originOf_setOrigin {signer : H} {record : OriginRecord H} (s : H) :
    (store.setOrigin signer record).originOf s = if s = signer then record.origin else store.originOf s := by
  unfold originOf setOrigin
  dsimp only
  split_ifs <;> rfl

lemma leaveSource_sources {signer old : H} (source : H) :
    (store.leaveSource limits signer old).sources source =
      if source = old then (store.sources source).map fun state => state.removeMember limits signer
      else store.sources source := by
  unfold leaveSource
  by_cases hold : source = old
  · subst hold
    rw [if_pos rfl]
    cases hrow : store.sources source with
    | none => exact hrow
    | some state => simp [setSource]
  · rw [if_neg hold]
    cases store.sources old with
    | none => rfl
    | some state => simp [setSource, hold]

lemma leaveSource_origins {signer old : H} : (store.leaveSource limits signer old).origins = store.origins := by
  unfold leaveSource
  cases store.sources old <;> rfl

lemma leaveOldSource_origins (store : ClusterStore H) (signer : H) (origin : Option (FundingOrigin H)) :
    (store.leaveOldSource limits signer origin).origins = store.origins := by
  unfold leaveOldSource
  cases ((store.origins signer).bind OriginRecord.origin).map FundingOrigin.source with
  | none => rfl
  | some oldSource =>
    dsimp only
    split_ifs
    · rfl
    · exact leaveSource_origins

/-- The source a signer leaves, and only that one, is written before its record is replaced. -/
lemma leaveOldSource_sources (store : ClusterStore H) (signer : H) (origin : Option (FundingOrigin H)) (source : H) :
    (store.leaveOldSource limits signer origin).sources source =
      if (store.originOf signer).map FundingOrigin.source = some source ∧
        origin.map FundingOrigin.source ≠ some source
      then (store.sources source).map fun state => state.removeMember limits signer
      else store.sources source := by
  have horigin : (store.origins signer).bind OriginRecord.origin = store.originOf signer := rfl
  unfold leaveOldSource
  rw [horigin]
  cases hold : (store.originOf signer).map FundingOrigin.source with
  | none => simp
  | some oldSource =>
    dsimp only
    by_cases hsame : origin.map FundingOrigin.source = some oldSource
    · rw [if_pos hsame, if_neg]
      rintro ⟨heq, hne⟩
      exact hne (hsame.trans heq)
    · rw [if_neg hsame, leaveSource_sources]
      by_cases hsource : source = oldSource
      · subst hsource
        rw [if_pos rfl, if_pos ⟨rfl, hsame⟩]
      · rw [if_neg hsource, if_neg]
        rintro ⟨heq, -⟩
        exact hsource (Option.some.inj heq).symm

/-- What becomes of a source the signer does not join. -/
lemma leaveOldSource_others (store : ClusterStore H) (signer : H) (origin : Option (FundingOrigin H)) {source : H}
    (hnew : origin.map FundingOrigin.source ≠ some source) :
    (store.originOf signer).map FundingOrigin.source ≠ some source ∧
      (store.leaveOldSource limits signer origin).sources source = store.sources source ∨
    (store.leaveOldSource limits signer origin).sources source =
      (store.sources source).map fun state => state.removeMember limits signer := by
  rw [leaveOldSource_sources]
  by_cases hold : (store.originOf signer).map FundingOrigin.source = some source
  · rw [if_pos ⟨hold, hnew⟩]
    exact Or.inr rfl
  · rw [if_neg fun hboth => hold hboth.1]
    exact Or.inl ⟨hold, rfl⟩

lemma replaceOrigin_moved (store : ClusterStore H) (signer : H) (origin : Option (FundingOrigin H)) (breadth : Breadth)
    (now : ℤ) : Moved limits signer origin store (store.replaceOrigin limits signer origin breadth now) := by
  have horiginOf : ∀ s record, ((store.leaveOldSource limits signer origin).setOrigin signer record).originOf s =
      if s = signer then record.origin else store.originOf s := by
    intro s record
    rw [originOf_setOrigin]
    unfold originOf
    rw [leaveOldSource_origins]
  cases origin with
  | none =>
    refine ⟨fun s => horiginOf s _, ?_, fun source hnew => leaveOldSource_others store signer none hnew⟩
    intro o ho
    cases ho
  | some o =>
    refine ⟨fun s => horiginOf s _, ?_, ?_⟩
    · intro o' ho'
      obtain rfl := Option.some.inj ho'
      have hbefore : (store.leaveOldSource limits signer (some o)).sources o.source = store.sources o.source := by
        rw [leaveOldSource_sources, if_neg]
        rintro ⟨-, hne⟩
        exact hne rfl
      refine ⟨_, isCorrection (store.origins signer) (some o), breadth, now, ?_, rfl⟩
      unfold replaceOrigin joinSource setSource setOrigin
      dsimp only
      rw [if_pos rfl, hbefore]
    · intro source hnew
      have hne : source ≠ o.source := fun heq => hnew (congrArg some heq.symm)
      have hrow : (store.replaceOrigin limits signer (some o) breadth now).sources source =
          (store.leaveOldSource limits signer (some o)).sources source := by
        unfold replaceOrigin joinSource setSource setOrigin
        dsimp only
        rw [if_neg hne]
      rw [hrow]
      exact leaveOldSource_others store signer (some o) hnew

lemma recordOrigin_matches {signer : H} {origin : Option (FundingOrigin H)} {breadth : Breadth} {now : ℤ}
    (h : store.Matches) : (store.recordOrigin limits signer origin breadth now).1.Matches := by
  have hmoved : Moved limits signer origin store _ := replaceOrigin_moved store signer origin breadth now
  have hreplaced := hmoved.matches h
  unfold recordOrigin
  split
  · split_ifs
    · exact h
    · exact hreplaced
  · exact hreplaced

end ClusterStore

/-- What one step of any lookup keeps. -/
lemma step_matches {hash : A → H} (s : ClusterRun A H) (op : ClusterOp A) (h : s.store.Matches) :
    (s.step limits hash op).store.Matches := by
  cases op with
  | observe signer now =>
    unfold ClusterRun.step
    dsimp only
    split_ifs <;> exact h
  | crash index => exact h
  | history index answer =>
    unfold ClusterRun.step
    dsimp only
    cases s.inFlight[index]? with
    | none => exact h
    | some lookup =>
      dsimp only
      cases lookup.phase <;> exact h
  | sample index answer =>
    unfold ClusterRun.step
    dsimp only
    cases s.inFlight[index]? with
    | none => exact h
    | some lookup =>
      dsimp only
      cases lookup.phase <;> cases answer <;> exact h
  | record index =>
    unfold ClusterRun.step
    dsimp only
    cases s.inFlight[index]? with
    | none => exact h
    | some lookup =>
      dsimp only
      cases lookup.phase with
      | failed => exact ClusterStore.recordFailure_matches h
      | recording origin breadth => exact ClusterStore.recordOrigin_matches h
      | history => exact h
      | sampling origin => exact h

lemma run_matches {hash : A → H} (s : ClusterRun A H) (ops : List (ClusterOp A)) (h : s.store.Matches) :
    (run (ClusterRun.step limits hash) s ops).store.Matches := by
  have hstep : ∀ s op, True → ClusterStore.Matches (ClusterRun.store s) →
      (ClusterRun.step limits hash s op).store.Matches := fun s op _ hs => step_matches s op hs
  exact run_invariant hstep (admissible_true s ops) h

/-- In every reachable state a source that is neither saturated nor uncertain lists each signer whose
origin record names it once, with the timestamp and amount of that record, and no one else; a source
that has no row funded no one. -/
theorem cluster_members_match_origins (limits : ClusterLimits) (hash : A → H) (ops : List (ClusterOp A)) :
    let store := (run (ClusterRun.step limits hash) ⟨{}, []⟩ ops).store
    (∀ source state, store.sources source = some state → state.membersSaturated = false →
      state.membershipUncertain = false →
      (state.members.rows.map Member.signer).Nodup ∧
      ∀ signer timestamp amount, (⟨signer, timestamp, amount⟩ : Member H) ∈ state.members.rows ↔
        store.originOf signer = some ⟨source, timestamp, amount⟩) ∧
    ∀ source, store.sources source = none → ∀ signer timestamp amount,
      store.originOf signer ≠ some ⟨source, timestamp, amount⟩ := by
  intro store
  have hempty : (⟨{}, []⟩ : ClusterRun A H).store.Matches := by
    intro source
    rw [ClusterStore.matchesAt_none rfl]
    intro signer timestamp amount horigin
    cases horigin
  have h : store.Matches := run_matches _ ops hempty
  constructor
  · intro source state hrow hsaturated huncertain
    refine ⟨state.members.keys, ?_⟩
    intro signer timestamp amount
    exact (ClusterStore.matchesAt_some hrow).mp (h source) ⟨hsaturated, huncertain⟩ ⟨signer, timestamp, amount⟩
  · intro source hrow
    exact (ClusterStore.matchesAt_none hrow).mp (h source)

end NimHunt
