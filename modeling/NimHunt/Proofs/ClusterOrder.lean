import NimHunt.WalletClusterGuard

/-!
# Funding evidence and the order of arrival

A source remembers a pattern once some of its first members have shown it.  Its members are the same in every
order of arrival; its evidence is, when all of them together show the pattern or no part of them does.
-/

namespace NimHunt

open Lib

variable {H : Type} [DecidableEq H] {limits : ClusterLimits}

section Patterns

/-- Enough members, any two of which are related. -/
def ObservationShows (limits : ClusterLimits) (related : Member H → Member H → Prop) (members : List (Member H)) : Prop :=
  limits.minClaimants ≤ members.length ∧ ∀ a ∈ members, ∀ b ∈ members, related a b

/-- Funded within one window. -/
def TightPair (limits : ClusterLimits) (a b : Member H) : Prop := a.timestamp - b.timestamp ≤ limits.windowSeconds

/-- Funded within one window with amounts a tenth apart at most. -/
def SimilarPair (limits : ClusterLimits) (a b : Member H) : Prop :=
  TightPair limits a b ∧ a.amount * 9 ≤ b.amount * 10

variable {related : Member H → Member H → Prop} {members part : List (Member H)}

omit [DecidableEq H] in
lemma ObservationShows.of_sub (h : ObservationShows limits related members) (hsub : part ⊆ members) (hlength : limits.minClaimants ≤ part.length) :
    ObservationShows limits related part :=
  ⟨hlength, fun a ha b hb => h.2 a (hsub ha) b (hsub hb)⟩

omit [DecidableEq H] in
lemma ObservationShows.perm (h : ObservationShows limits related members) (hperm : part.Perm members) : ObservationShows limits related part :=
  h.of_sub hperm.subset (by rw [hperm.length_eq]; exact h.1)

lemma max_sub_min_le_iff {values : List ℤ} (hne : values ≠ []) (p q width : ℤ) (hp : 0 ≤ p) (hq : 0 ≤ q) :
    values.max?.getD 0 * p - values.min?.getD 0 * q ≤ width ↔ ∀ a ∈ values, ∀ b ∈ values, a * p - b * q ≤ width := by
  obtain ⟨most, hmost⟩ := Option.ne_none_iff_exists'.mp (mt List.max?_eq_none_iff.mp hne)
  obtain ⟨least, hleast⟩ := Option.ne_none_iff_exists'.mp (mt List.min?_eq_none_iff.mp hne)
  rw [hmost, hleast, Option.getD_some, Option.getD_some]
  obtain ⟨hmem, hmax⟩ := List.max?_eq_some_iff.mp hmost
  obtain ⟨hmem', hmin⟩ := List.min?_eq_some_iff.mp hleast
  constructor
  · intro hwidth a ha b hb
    have hup := mul_le_mul_of_nonneg_right (hmax a ha) hp
    have hdown := mul_le_mul_of_nonneg_right (hmin b hb) hq
    omega
  · intro hpairs
    exact hpairs most hmem least hmem'

omit [DecidableEq H] in
lemma fundingPattern_short (h : members.length < limits.minClaimants) : fundingPattern limits members = (false, false) :=
  if_pos h

omit [DecidableEq H] in
lemma fundingPattern_tight : (fundingPattern limits members).1 = true ↔ ObservationShows limits (TightPair limits) members := by
  by_cases hshort : members.length < limits.minClaimants
  · rw [fundingPattern_short hshort]
    constructor
    · intro h
      cases h
    · intro h
      exact absurd h.1 (not_le.mpr hshort)
  · have hne : members.map Member.timestamp ≠ [] := by
      have hpos := limits.minClaimants_pos
      intro hnil
      rw [List.map_eq_nil_iff] at hnil
      rw [hnil, List.length_nil] at hshort
      omega
    have hpairs := max_sub_min_le_iff hne 1 1 limits.windowSeconds (by omega) (by omega)
    unfold fundingPattern ObservationShows TightPair
    rw [if_neg hshort]
    dsimp only
    rw [decide_eq_true_eq]
    simp only [mul_one, List.forall_mem_map] at hpairs
    rw [hpairs]
    exact ⟨fun h => ⟨not_lt.mp hshort, h⟩, fun h => h.2⟩

omit [DecidableEq H] in
lemma fundingPattern_similar : (fundingPattern limits members).2 = true ↔ ObservationShows limits (SimilarPair limits) members := by
  by_cases hshort : members.length < limits.minClaimants
  · rw [fundingPattern_short hshort]
    constructor
    · intro h
      cases h
    · intro h
      exact absurd h.1 (not_le.mpr hshort)
  · have hne : members.map Member.amount ≠ [] := by
      have hpos := limits.minClaimants_pos
      intro hnil
      rw [List.map_eq_nil_iff] at hnil
      rw [hnil, List.length_nil] at hshort
      omega
    have hpairs := max_sub_min_le_iff hne 9 10 0 (by omega) (by omega)
    have hboth : (fundingPattern limits members).2 = true ↔ (fundingPattern limits members).1 = true ∧
        (members.map Member.amount).max?.getD 0 * 9 ≤ (members.map Member.amount).min?.getD 0 * 10 := by
      unfold fundingPattern
      rw [if_neg hshort]
      simp only [Bool.and_eq_true, decide_eq_true_eq]
    simp only [List.forall_mem_map, sub_nonpos] at hpairs
    rw [hboth, fundingPattern_tight, hpairs]
    unfold ObservationShows SimilarPair
    constructor
    · rintro ⟨⟨hlength, htight⟩, hsimilar⟩
      exact ⟨hlength, fun a ha b hb => ⟨htight a ha b hb, hsimilar a ha b hb⟩⟩
    · rintro ⟨hlength, hall⟩
      exact ⟨⟨hlength, fun a ha b hb => (hall a ha b hb).1⟩, fun a ha b hb => (hall a ha b hb).2⟩

/-- Some of the first members have shown the pattern. -/
def Seen (limits : ClusterLimits) (related : Member H → Member H → Prop) (members : List (Member H)) : Prop :=
  ∃ part, part <+: members ∧ ObservationShows limits related part

/-- All members together show the pattern, or no part of them does. -/
def Settled (limits : ClusterLimits) (related : Member H → Member H → Prop) (members : List (Member H)) : Prop :=
  ObservationShows limits related members ∨ ∀ part, part.Subperm members → ¬ ObservationShows limits related part

omit [DecidableEq H] in
/-- What one order shows of a settled pattern every order shows. -/
lemma Seen.of_settled (hsettled : Settled limits related members) (hperm : part.Perm members)
    (h : Seen limits related part) : Seen limits related members := by
  cases hsettled with
  | inl hall => exact ⟨members, List.prefix_rfl, hall⟩
  | inr hnone =>
    obtain ⟨first, hfirst, hshows⟩ := h
    exact absurd hshows (hnone first (hfirst.sublist.subperm.trans hperm.subperm))

omit [DecidableEq H] in
lemma Settled.perm (hsettled : Settled limits related members) (hperm : part.Perm members) :
    Settled limits related part := by
  cases hsettled with
  | inl hall => exact Or.inl (hall.perm hperm)
  | inr hnone => exact Or.inr fun first hfirst => hnone first (hfirst.trans hperm.subperm)

/-- An order that begins with two unrelated members never shows the pattern. -/
lemma exists_unseen (htwo : 2 ≤ limits.minClaimants) (hmany : limits.minClaimants ≤ members.length)
    (hall : ¬ ObservationShows limits related members) : ∃ order : List (Member H), order.Perm members ∧ ¬ Seen limits related order := by
  unfold ObservationShows at hall
  push Not at hall
  obtain ⟨a, ha, b, hb, hunrelated⟩ := hall hmany
  have hstart : ∃ order : List (Member H), order.Perm members ∧ ∀ first, first <+: order → 2 ≤ first.length →
      a ∈ first ∧ b ∈ first := by
    by_cases hsame : a = b
    · refine ⟨a :: members.erase a, (List.perm_cons_erase ha).symm, ?_⟩
      intro first hfirst hlength
      cases first with
      | nil => simp at hlength
      | cons x xs =>
        obtain rfl := (List.cons_prefix_cons.mp hfirst).1
        rw [← hsame]
        exact ⟨List.mem_cons_self, List.mem_cons_self⟩
    · have hb' : b ∈ members.erase a := (List.mem_erase_of_ne (Ne.symm hsame)).mpr hb
      have hperm : (a :: b :: (members.erase a).erase b).Perm members :=
        ((List.perm_cons_erase hb').symm.cons a).trans (List.perm_cons_erase ha).symm
      refine ⟨_, hperm, ?_⟩
      intro first hfirst hlength
      match first with
      | [] => simp at hlength
      | [x] => simp at hlength
      | x :: y :: xs =>
        obtain ⟨rfl, hrest⟩ := List.cons_prefix_cons.mp hfirst
        obtain rfl := (List.cons_prefix_cons.mp hrest).1
        exact ⟨List.mem_cons_self, List.mem_cons_of_mem _ List.mem_cons_self⟩
  obtain ⟨order, hperm, hboth⟩ := hstart
  refine ⟨order, hperm, ?_⟩
  rintro ⟨first, hfirst, hlength, hrelated⟩
  obtain ⟨hfirstA, hfirstB⟩ := hboth first hfirst (htwo.trans hlength)
  exact hunrelated (hrelated a hfirstA b hfirstB)

omit [DecidableEq H] in
/-- A part that shows the pattern may arrive first. -/
lemma exists_seen (hsub : part.Subperm members) (hshows : ObservationShows limits related part) :
    ∃ order : List (Member H), order.Perm members ∧ Seen limits related order := by
  obtain ⟨inside, hperm, hsublist⟩ := hsub
  obtain ⟨rest, hrest⟩ := hsublist.exists_perm_append
  have horder : (part ++ rest).Perm members := (hperm.symm.append_right rest).trans hrest.symm
  exact ⟨part ++ rest, horder, part, List.prefix_append part rest, hshows⟩

end Patterns

section Observations

variable {source : H} {breadth : Breadth} {store : ClusterStore H} {state : SourceState H} {members : List (Member H)}

/-- A source row after the members have arrived in this order. -/
structure Arrived (limits : ClusterLimits) (members : List (Member H)) (state : SourceState H) : Prop where
  rows : state.members.rows = members
  saturated : state.membersSaturated = false
  certain : state.membershipUncertain = false
  count : state.memberCount = members.length
  evidence : state.clusterEvidence = true ↔ Seen limits (TightPair limits) members
  similar : state.similarPattern = true ↔ Seen limits (SimilarPair limits) members

omit [DecidableEq H] in
lemma not_seen_nil {related : Member H → Member H → Prop} : ¬ Seen limits related ([] : List (Member H)) := by
  rintro ⟨part, hpart, hlength, -⟩
  have hpos := limits.minClaimants_pos
  rw [List.prefix_nil.mp hpart, List.length_nil] at hlength
  omega

omit [DecidableEq H] in
lemma arrived_nil : Arrived limits ([] : List (Member H)) {} where
  rows := rfl
  saturated := rfl
  certain := rfl
  count := rfl
  evidence := iff_of_false Bool.false_ne_true not_seen_nil
  similar := iff_of_false Bool.false_ne_true not_seen_nil

omit [DecidableEq H] in
lemma seen_concat {related : Member H → Member H → Prop} {member : Member H} :
    Seen limits related (members ++ [member]) ↔
      Seen limits related members ∨ ObservationShows limits related (members ++ [member]) := by
  constructor
  · rintro ⟨part, hpart, hshows⟩
    cases List.prefix_concat_iff.mp hpart with
    | inl hwhole =>
      rw [hwhole] at hshows
      exact Or.inr hshows
    | inr hearlier => exact Or.inl ⟨part, hearlier, hshows⟩
  · intro h
    cases h with
    | inl hseen =>
      obtain ⟨part, hpart, hshows⟩ := hseen
      exact ⟨part, hpart.trans (List.prefix_append _ _), hshows⟩
    | inr hshows => exact ⟨_, List.prefix_rfl, hshows⟩

lemma Arrived.addMember (h : Arrived limits members state) {member : Member H}
    (hfresh : member.signer ∉ members.map Member.signer)
    (hroom : members.length < max limits.minClaimants limits.memberLimit) :
    Arrived limits (members ++ [member]) (state.addMember limits member false) := by
  have habsent : state.members.get? member.signer = none := by
    rw [Option.eq_none_iff_forall_ne_some]
    intro found hfound
    obtain ⟨hmem, hkey⟩ := Dict.get?_eq_some.mp hfound
    apply hfresh
    rw [← hkey, ← h.rows]
    exact List.mem_map_of_mem hmem
  have hset : (state.members.set member).rows = members ++ [member] := by
    change Dict.setRows _ state.members.rows member = _
    unfold Dict.setRows
    rw [h.rows, if_neg]
    rw [List.any_eq_true]
    rintro ⟨found, hfound, hkey⟩
    rw [decide_eq_true_eq] at hkey
    apply hfresh
    rw [← hkey]
    exact List.mem_map_of_mem hfound
  have hadd : state.addMember limits member false = state.addNewMember limits member := by
    unfold SourceState.addMember
    rw [if_neg (by rw [h.certain]; exact Bool.false_ne_true), habsent]
    exact if_neg fun hcorrection => Bool.false_ne_true hcorrection.1
  have hroom' : decide (state.members.rows.length < max limits.minClaimants limits.memberLimit) = true := by
    rw [h.rows]
    exact decide_eq_true hroom
  rw [hadd]
  unfold SourceState.addNewMember
  dsimp only
  rw [hroom', if_pos rfl, hset]
  refine ⟨hset, ?_, h.certain, ?_, ?_, ?_⟩
  · dsimp only
    rw [h.saturated]
    rfl
  · dsimp only
    rw [h.count, List.length_append, List.length_singleton]
    split_ifs <;> omega
  · dsimp only
    rw [Bool.or_eq_true, h.evidence, fundingPattern_tight, seen_concat]
  · dsimp only
    rw [Bool.or_eq_true, h.similar, fundingPattern_similar, seen_concat]

omit [DecidableEq H] in
lemma Arrived.refreshed (h : Arrived limits members state) (now : ℤ) :
    Arrived limits members (state.refreshed limits breadth now) :=
  ⟨h.rows, h.saturated, h.certain, h.count, h.evidence, h.similar⟩

lemma addMember_serviceLike (state : SourceState H) (member : Member H) (correction : Bool) :
    (state.addMember limits member correction).serviceLike = state.serviceLike := by
  unfold SourceState.addMember
  by_cases huncertain : state.membershipUncertain = true
  · rw [if_pos huncertain]
  · rw [if_neg huncertain]
    cases state.members.get? member.signer with
    | none =>
      dsimp only
      split_ifs <;> rfl
    | some existing =>
      dsimp only
      split_ifs <;> rfl

/-- Signers funded by one source, observed one after the other at the given times. -/
def observeFacts (limits : ClusterLimits) (source : H) (breadth : Breadth) (store : ClusterStore H)
    (facts : List (Member H × ℤ)) : ClusterStore H :=
  facts.foldl (fun store (fact, now) =>
    (store.recordOrigin limits fact.signer (some ⟨source, fact.timestamp, fact.amount⟩) breadth now).1) store

/-- The first record of a signer adds it to its source. -/
lemma recordOrigin_first {fact : Member H} {now : ℤ} (hfresh : store.origins fact.signer = none) :
    (store.recordOrigin limits fact.signer (some ⟨source, fact.timestamp, fact.amount⟩) breadth now).1 =
      (store.setOrigin fact.signer (.observed (some ⟨source, fact.timestamp, fact.amount⟩) now
        (now + limits.cacheSeconds))).setSource source
          ((((store.sources source).getD {}).addMember limits fact false).refreshed limits breadth now) := by
  unfold ClusterStore.recordOrigin
  rw [hfresh]
  dsimp only
  unfold ClusterStore.replaceOrigin ClusterStore.leaveOldSource
  rw [hfresh]
  rfl

/-- What is known of the source while its facts arrive. -/
structure Collecting (limits : ClusterLimits) (source : H) (breadth : Breadth) (store : ClusterStore H)
    (members : List (Member H)) : Prop where
  arrived : Arrived limits members ((store.sources source).getD {})
  classified : ∀ state, store.sources source = some state →
    state.breadth = breadth ∧ state.serviceLike = decide (breadth = .service)
  stored : members ≠ [] → (store.sources source).isSome = true

lemma observeFacts_collecting {facts : List (Member H × ℤ)} (h : Collecting limits source breadth store members)
    (hfresh : ∀ fact ∈ facts, store.origins fact.1.signer = none)
    (hsigners : ((members ++ facts.map Prod.fst).map Member.signer).Nodup)
    (hlimit : members.length + facts.length ≤ max limits.minClaimants limits.memberLimit) :
    Collecting limits source breadth (observeFacts limits source breadth store facts) (members ++ facts.map Prod.fst) := by
  induction facts generalizing store members with
  | nil =>
    rw [List.map_nil, List.append_nil]
    exact h
  | cons fact facts ih =>
    obtain ⟨fact, now⟩ := fact
    rw [List.length_cons] at hlimit
    rw [List.map_cons, List.append_cons] at hsigners ⊢
    have hnodup := hsigners
    rw [List.map_append, List.map_append, List.map_singleton] at hnodup
    have hnew : fact.signer ∉ members.map Member.signer := by
      intro hmem
      exact (List.nodup_append.mp (List.nodup_append.mp hnodup).1).2.2 _ hmem _ (List.mem_singleton_self _) rfl
    have hlater : ∀ fact' ∈ facts, fact'.1.signer ≠ fact.signer := by
      intro fact' hfact' heq
      have hmem : fact'.1.signer ∈ (facts.map Prod.fst).map Member.signer :=
        List.mem_map_of_mem (List.mem_map_of_mem hfact')
      exact (List.nodup_append.mp hnodup).2.2 _ (List.mem_append_right _ (List.mem_singleton_self fact.signer)) _
        hmem heq.symm
    have hrecorded : (store.recordOrigin limits fact.signer (some ⟨source, fact.timestamp, fact.amount⟩) breadth now).1 = _ :=
      recordOrigin_first (hfresh (fact, now) List.mem_cons_self)
    have harrived := h.arrived.addMember hnew (by omega)
    unfold observeFacts
    rw [List.foldl_cons]
    dsimp only
    rw [hrecorded]
    apply ih
    · have hsource : ((store.setOrigin fact.signer (.observed (some ⟨source, fact.timestamp, fact.amount⟩) now
          (now + limits.cacheSeconds))).setSource source
            ((((store.sources source).getD {}).addMember limits fact false).refreshed limits breadth now)).sources source =
          some ((((store.sources source).getD {}).addMember limits fact false).refreshed limits breadth now) := if_pos rfl
      constructor
      · rw [hsource]
        exact harrived.refreshed now
      · intro state hstate
        rw [hsource] at hstate
        rw [← Option.some.inj hstate]
        refine ⟨rfl, ?_⟩
        change (_ || _) = _
        rw [addMember_serviceLike]
        cases hstored : store.sources source with
        | none => rfl
        | some prior =>
          rw [Option.getD_some, (h.classified prior hstored).2, Bool.or_self]
      · intro _
        rw [hsource]
        rfl
    · intro fact' hfact'
      change (if fact'.1.signer = fact.signer then _ else store.origins fact'.1.signer) = none
      rw [if_neg (hlater fact' hfact')]
      exact hfresh fact' (List.mem_cons_of_mem _ hfact')
    · exact hsigners
    · rw [List.length_append, List.length_singleton]
      omega

omit [DecidableEq H] in
/-- What `observe` makes of a source whose facts have all arrived. -/
lemma Collecting.clusterState (h : Collecting limits source breadth store members) :
    clusterState (store.sources source) =
      { observed := true
        evidence := decide (breadth = .ordinary) && ((store.sources source).getD {}).clusterEvidence
        memberCount := members.length
        similarPattern := decide (breadth = .ordinary) && ((store.sources source).getD {}).similarPattern } := by
  have harrived := h.arrived
  cases hstored : store.sources source with
  | none =>
    have hnil : members = [] := by
      by_contra hne
      have hsome := h.stored hne
      rw [hstored] at hsome
      cases hsome
    rw [hnil]
    simp [NimHunt.clusterState]
  | some state =>
    obtain ⟨hbreadth, hservice⟩ := h.classified state hstored
    rw [hstored, Option.getD_some] at harrived
    rw [Option.getD_some]
    unfold NimHunt.clusterState
    dsimp only
    rw [harrived.count, harrived.rows, hbreadth, hservice, harrived.certain, ite_self]
    cases breadth <;> rfl

/-- Distinct signers of one source, none of whom has been observed before, and not too many to be listed. -/
structure Observable (limits : ClusterLimits) (source : H) (store : ClusterStore H) (facts : List (Member H × ℤ)) :
    Prop where
  unseen : store.sources source = none
  fresh : ∀ fact ∈ facts, store.origins fact.1.signer = none
  signers : ((facts.map Prod.fst).map Member.signer).Nodup
  room : facts.length ≤ max limits.minClaimants limits.memberLimit

/-- What `observe` says of the source once the facts have arrived in this order. -/
def verdict (limits : ClusterLimits) (source : H) (breadth : Breadth) (store : ClusterStore H)
    (facts : List (Member H × ℤ)) : ClusterObservation :=
  clusterState ((observeFacts limits source breadth store facts).sources source)

variable {facts facts' : List (Member H × ℤ)}

lemma Observable.collecting (h : Observable limits source store facts) (breadth : Breadth) :
    Collecting limits source breadth (observeFacts limits source breadth store facts) (facts.map Prod.fst) := by
  have hempty : Collecting limits source breadth store [] := by
    refine ⟨?_, ?_, fun hne => absurd rfl hne⟩
    · rw [h.unseen]
      exact arrived_nil
    · intro state hstate
      rw [h.unseen] at hstate
      cases hstate
  have hroom := h.room
  exact observeFacts_collecting hempty h.fresh h.signers (by rw [List.length_nil]; omega)

omit [DecidableEq H] in
lemma Observable.perm (h : Observable limits source store facts)
    (hperm : (facts'.map Prod.fst).Perm (facts.map Prod.fst)) : Observable limits source store facts' := by
  have hlength := hperm.length_eq
  rw [List.length_map, List.length_map] at hlength
  refine ⟨h.unseen, ?_, ((hperm.map Member.signer).nodup_iff).mpr h.signers, hlength ▸ h.room⟩
  intro fact hfact
  obtain ⟨fact', hfact', hsame⟩ := List.mem_map.mp (hperm.subset (List.mem_map_of_mem hfact))
  rw [← hsame]
  exact h.fresh fact' hfact'

lemma Observable.evidence_iff (h : Observable limits source store facts) (breadth : Breadth) :
    (verdict limits source breadth store facts).evidence = true ↔
      breadth = .ordinary ∧ Seen limits (TightPair limits) (facts.map Prod.fst) := by
  have hcollecting := h.collecting breadth
  unfold verdict
  rw [hcollecting.clusterState, ← hcollecting.arrived.evidence, Bool.and_eq_true, decide_eq_true_eq]

lemma Observable.similar_iff (h : Observable limits source store facts) (breadth : Breadth) :
    (verdict limits source breadth store facts).similarPattern = true ↔
      breadth = .ordinary ∧ Seen limits (SimilarPair limits) (facts.map Prod.fst) := by
  have hcollecting := h.collecting breadth
  unfold verdict
  rw [hcollecting.clusterState, ← hcollecting.arrived.similar, Bool.and_eq_true, decide_eq_true_eq]

omit [DecidableEq H] in
lemma seen_iff_of_settled {related : Member H → Member H → Prop} {part : List (Member H)}
    (hsettled : Settled limits related members) (hperm : part.Perm members) :
    Seen limits related part ↔ Seen limits related members :=
  ⟨fun h => h.of_settled hsettled hperm, fun h => h.of_settled (hsettled.perm hperm) hperm.symm⟩

/-- An unsettled pattern is seen in one order and not in another. -/
lemma exists_other_order {related : Member H → Member H → Prop} (htwo : 2 ≤ limits.minClaimants)
    (hunsettled : ¬ Settled limits related members) :
    ∃ order : List (Member H), order.Perm members ∧ ¬ (Seen limits related order ↔ Seen limits related members) := by
  unfold Settled at hunsettled
  push Not at hunsettled
  obtain ⟨hall, part, hsub, hshows⟩ := hunsettled
  by_cases hseen : Seen limits related members
  · obtain ⟨order, hperm, hunseen⟩ := exists_unseen htwo (hshows.1.trans hsub.length_le) hall
    exact ⟨order, hperm, fun hiff => hunseen (hiff.mpr hseen)⟩
  · obtain ⟨order, hperm, hseen'⟩ := exists_seen hsub hshows
    exact ⟨order, hperm, fun hiff => hseen (hiff.mp hseen')⟩

/-- The verdicts on an ordinary source are what some prefix of the order of arrival has shown.  The members are the same
in every order, and further facts remove no evidence.  The verdicts are the same in every order whose pattern is
settled, and of an ordinary source only then. -/
theorem cluster_observation_order (breadth : Breadth) (h : Observable limits source store facts) :
    (((verdict limits source breadth store facts).evidence = true ↔
        breadth = .ordinary ∧ Seen limits (TightPair limits) (facts.map Prod.fst)) ∧
      ((verdict limits source breadth store facts).similarPattern = true ↔
        breadth = .ordinary ∧ Seen limits (SimilarPair limits) (facts.map Prod.fst))) ∧
    (∀ facts', (facts'.map Prod.fst).Perm (facts.map Prod.fst) →
      (((observeFacts limits source breadth store facts').sources source).getD {}).members.rows.Perm
        (((observeFacts limits source breadth store facts).sources source).getD {}).members.rows ∧
      (verdict limits source breadth store facts').memberCount =
        (verdict limits source breadth store facts).memberCount ∧
      (Settled limits (TightPair limits) (facts.map Prod.fst) →
        (verdict limits source breadth store facts').evidence =
          (verdict limits source breadth store facts).evidence) ∧
      (Settled limits (SimilarPair limits) (facts.map Prod.fst) →
        (verdict limits source breadth store facts').similarPattern =
          (verdict limits source breadth store facts).similarPattern)) ∧
    (∀ more, Observable limits source store (facts ++ more) →
      ((verdict limits source breadth store facts).evidence = true →
        (verdict limits source breadth store (facts ++ more)).evidence = true) ∧
      ((verdict limits source breadth store facts).similarPattern = true →
        (verdict limits source breadth store (facts ++ more)).similarPattern = true)) ∧
    (2 ≤ limits.minClaimants → breadth = .ordinary →
      (¬ Settled limits (TightPair limits) (facts.map Prod.fst) →
        ∃ facts', (facts'.map Prod.fst).Perm (facts.map Prod.fst) ∧
          (verdict limits source breadth store facts').evidence ≠
            (verdict limits source breadth store facts).evidence) ∧
      (¬ Settled limits (SimilarPair limits) (facts.map Prod.fst) →
        ∃ facts', (facts'.map Prod.fst).Perm (facts.map Prod.fst) ∧
          (verdict limits source breadth store facts').similarPattern ≠
            (verdict limits source breadth store facts).similarPattern)) := by
  refine ⟨⟨h.evidence_iff breadth, h.similar_iff breadth⟩, ?_, ?_, ?_⟩
  · intro facts' hperm
    have h' := h.perm hperm
    have hcollecting := h.collecting breadth
    have hcollecting' := h'.collecting breadth
    refine ⟨?_, ?_, ?_, ?_⟩
    · rw [hcollecting'.arrived.rows, hcollecting.arrived.rows]
      exact hperm
    · unfold verdict
      rw [hcollecting'.clusterState, hcollecting.clusterState]
      exact hperm.length_eq
    · intro hsettled
      rw [Bool.eq_iff_iff, h'.evidence_iff, h.evidence_iff, seen_iff_of_settled hsettled hperm]
    · intro hsettled
      rw [Bool.eq_iff_iff, h'.similar_iff, h.similar_iff, seen_iff_of_settled hsettled hperm]
  · intro more hmore
    have hlonger : ∀ related, Seen limits related (facts.map Prod.fst) →
        Seen limits related ((facts ++ more).map Prod.fst) := by
      rintro related ⟨part, hpart, hshows⟩
      rw [List.map_append]
      exact ⟨part, hpart.trans (List.prefix_append _ _), hshows⟩
    rw [h.evidence_iff, h.similar_iff, hmore.evidence_iff, hmore.similar_iff]
    exact ⟨fun hseen => ⟨hseen.1, hlonger _ hseen.2⟩, fun hseen => ⟨hseen.1, hlonger _ hseen.2⟩⟩
  · intro htwo hordinary
    have hmapped : ∀ order : List (Member H), (order.map fun member => (member, (0 : ℤ))).map Prod.fst = order := by
      intro order
      rw [List.map_map]
      exact List.map_id order
    constructor
    · intro hunsettled
      obtain ⟨order, hperm, hdiffer⟩ := exists_other_order htwo hunsettled
      have hperm' : ((order.map fun member => (member, (0 : ℤ))).map Prod.fst).Perm (facts.map Prod.fst) := by
        rw [hmapped]
        exact hperm
      refine ⟨_, hperm', ?_⟩
      rw [ne_eq, Bool.eq_iff_iff, (h.perm hperm').evidence_iff, h.evidence_iff, hmapped]
      tauto
    · intro hunsettled
      obtain ⟨order, hperm, hdiffer⟩ := exists_other_order htwo hunsettled
      have hperm' : ((order.map fun member => (member, (0 : ℤ))).map Prod.fst).Perm (facts.map Prod.fst) := by
        rw [hmapped]
        exact hperm
      refine ⟨_, hperm', ?_⟩
      rw [ne_eq, Bool.eq_iff_iff, (h.perm hperm').similar_iff, h.similar_iff, hmapped]
      tauto

end Observations

section OutlierFirst

/-- Five signers funded within a minute. -/
def fiveTogether : List (Member ℕ × ℤ) := [1, 2, 3, 4, 5].map fun signer => (⟨signer, 10 * signer, 1000⟩, 50)

/-- A signer funded by the same source a month later. -/
def muchLater : Member ℕ × ℤ := (⟨6, 30 * 24 * 60 * 60, 1000⟩, 60)

/-- The late signer hides the five when it is observed first. -/
theorem outlier_first_hides_evidence :
    ((muchLater :: fiveTogether).map Prod.fst).Perm ((fiveTogether ++ [muchLater]).map Prod.fst) ∧
      verdict {} 0 .ordinary {} (fiveTogether ++ [muchLater]) = ⟨true, true, 6, true⟩ ∧
      verdict {} 0 .ordinary {} (muchLater :: fiveTogether) = ⟨true, false, 6, false⟩ := by
  refine ⟨?_, by decide +kernel, by decide +kernel⟩
  exact (List.perm_append_singleton _ _).symm

theorem cluster_observation_order_five :
    (verdict {} 0 .ordinary {} fiveTogether.reverse).evidence = (verdict {} 0 .ordinary {} fiveTogether).evidence := by
  have hobservable : Observable {} 0 {} fiveTogether := ⟨rfl, fun _ _ => rfl, by decide, by decide⟩
  have hperm : (fiveTogether.reverse.map Prod.fst).Perm (fiveTogether.map Prod.fst) :=
    (List.reverse_perm fiveTogether).map Prod.fst
  apply ((cluster_observation_order .ordinary hobservable).2.1 _ hperm).2.2.1
  left
  rw [← fundingPattern_tight]
  decide +kernel

end OutlierFirst

end NimHunt
