import NimHunt.Lib.Runs
import NimHunt.Proofs.ClaimWrites

/-!
# Restrictions are earned

Runs of `observe_signed_claim` and `observe_find_location` for one user.  The outside transaction of
a poll comes some time after its reads.  A log keeps what was observed, newest first.
-/

namespace NimHunt

open Lib LocationBehaviorState

variable {P : Type}

/-- What an observation adds to the history of the user. -/
inductive Observed
  | inside (spotId : ℕ) (nearCentre : Bool)
  | outside
  | restricted
  deriving DecidableEq

/-- The polls are the readings of outside polls that wait for their transaction. -/
structure GuardRun (P : Type) where
  db : Db P
  polls : List ℕ
  log : List Observed

namespace GuardRun

inductive Op (P : Type)
  | world (db' : Db P)
  | signed (spotId : ℕ) (position : P) (now : ℕ)
  | find (position : P) (now : ℕ)
  | recordOutside (poll : ℕ)

/-- A claim inside the radius that is neither exempt nor refused for a restriction. -/
def insideEvents (cfg : Settings P) (db : Db P) (userId : ℕ) (spot : Spot P) (position : P) (now : ℕ) :
    List Observed :=
  match spot.position with
  | none => []
  | some centre =>
    let distance := cfg.distanceMetres position centre
    if spot.createdBy ≠ userId ∧ spot.usePassword = false ∧ db.isSpotCurrentlyClaimable spot.id = true ∧
        (db.behaviorState userId).currentlyRestricted now = false ∧ distance ≤ spot.radius then
      [.inside spot.id (decide (distance ≤ nearExactCentreMetres))]
    else []

def outsideEvents (db : Db P) (userId checkedAt : ℕ) : List Observed :=
  if (outsideEvidence (db.behaviorState userId) checkedAt).isSome then [.outside] else []

def restrictionEvents (db db' : Db P) (userId : ℕ) : List Observed :=
  if (db'.behaviorState userId).restrictedUntil = (db.behaviorState userId).restrictedUntil then []
  else [.restricted]

/-- The state after an observation of the user. -/
def observed (s : GuardRun P) (userId : ℕ) (db' : Db P) (events : List Observed) : GuardRun P :=
  { s with db := db', log := restrictionEvents s.db db' userId ++ (events ++ s.log) }

def step (cfg : Settings P) (userId : ℕ) (s : GuardRun P) : Op P → GuardRun P
  | .world db' => { s with db := db' }
  | .signed spotId position now =>
    match s.db.getSpot spotId with
    | none => s
    | some spot =>
      s.observed userId (observeSignedClaim cfg s.db userId spot position now).1
        (insideEvents cfg s.db userId spot position now)
  | .find position now =>
    if insideAny cfg (s.db.claimablePublicSpots userId) position then s
    else { s with polls := s.polls ++ [now] }
  | .recordOutside poll =>
    match s.polls[poll]? with
    | none => s
    | some checkedAt =>
      { s with polls := s.polls.eraseIdx poll }.observed userId (s.db.recordOutside userId checkedAt)
        (outsideEvents s.db userId checkedAt)

end GuardRun

section Geometry

/-- A Spot past its draft has its place for good. -/
def PlacedAt (db : Db P) (spotId : ℕ) (centre : P) : Prop :=
  ∃ spot, db.getSpot spotId = some spot ∧ spot.status ≠ .draft ∧ spot.position = some centre

def FarApart (cfg : Settings P) (db : Db P) (a b : ℕ) : Prop :=
  a ≠ b ∧ ∃ p q, PlacedAt db a p ∧ PlacedAt db b q ∧ sameRewardLocationMetres < cfg.distanceMetres p q

variable {cfg : Settings P} {db db' : Db P} {spot : Spot P} {centre : P} {ids : List ℕ} {a b : ℕ}

lemma FarApart.mono (hplaced : ∀ id p, PlacedAt db id p → PlacedAt db' id p) (h : FarApart cfg db a b) :
    FarApart cfg db' a b := by
  obtain ⟨hne, p, q, ha, hb, hfar⟩ := h
  exact ⟨hne, p, q, hplaced a p ha, hplaced b q hb, hfar⟩

/-- A centre that is not the same reward location as any in the list. -/
lemma farApart_of_not_same (hsymm : ∀ p q, cfg.distanceMetres p q = cfg.distanceMetres q p)
    (hsame : sameRewardLocation cfg db spot centre ids = false) (hspot : PlacedAt db spot.id centre)
    (hids : ∀ id ∈ ids, ∃ p, PlacedAt db id p) : ∀ id ∈ ids, FarApart cfg db id spot.id := by
  intro id hid
  obtain ⟨p, hp⟩ := hids id hid
  obtain ⟨prior, hprior, hstatus, hposition⟩ := hp
  have hthis := List.any_eq_false.mp hsame id hid
  rw [hprior, Option.bind_some, hposition] at hthis
  simp only [Bool.or_eq_true, beq_iff_eq, decide_eq_true_eq, not_or, not_le] at hthis
  refine ⟨hthis.1, p, centre, ⟨prior, hprior, hstatus, hposition⟩, hspot, ?_⟩
  rw [hsymm]
  exact hthis.2

/-- A bounded list of Spots, pairwise far apart, each of which the history accounts for. -/
structure EvidenceList (cfg : Settings P) (db : Db P) (capacity : ℕ) (ids : List ℕ) (Seen : ℕ → Prop) : Prop where
  length_le : ids.length ≤ capacity
  far : ids.Pairwise (FarApart cfg db)
  placed : ∀ id ∈ ids, ∃ p, PlacedAt db id p
  seen : ∀ id ∈ ids, Seen id

variable {capacity : ℕ} {Seen Seen' : ℕ → Prop}

namespace EvidenceList

lemma nil : EvidenceList cfg db capacity [] Seen where
  length_le := Nat.zero_le _
  far := .nil
  placed := nofun
  seen := nofun

lemma mono (hplaced : ∀ id p, PlacedAt db id p → PlacedAt db' id p) (hseen : ∀ id, Seen id → Seen' id)
    (h : EvidenceList cfg db capacity ids Seen) : EvidenceList cfg db' capacity ids Seen' where
  length_le := h.length_le
  far := h.far.imp (FarApart.mono hplaced)
  placed := by
    intro id hid
    obtain ⟨p, hp⟩ := h.placed id hid
    exact ⟨p, hplaced id p hp⟩
  seen := fun id hid => hseen id (h.seen id hid)

lemma take (h : EvidenceList cfg db capacity ids Seen) :
    EvidenceList cfg db capacity (ids.take capacity) Seen := by
  rw [List.take_of_length_le h.length_le]
  exact h

lemma append (hsymm : ∀ p q, cfg.distanceMetres p q = cfg.distanceMetres q p)
    (h : EvidenceList cfg db capacity ids Seen) (hspot : PlacedAt db spot.id centre)
    (hsame : sameRewardLocation cfg db spot centre ids = false) (hseen : Seen spot.id) :
    EvidenceList cfg db capacity ((ids ++ [spot.id]).take capacity) Seen := by
  have hmem : ∀ id ∈ (ids ++ [spot.id]).take capacity, id ∈ ids ∨ id = spot.id := by
    intro id hid
    simpa using List.mem_of_mem_take hid
  refine ⟨List.length_take_le _ _, ?_, ?_, ?_⟩
  · apply List.Pairwise.sublist (List.take_sublist _ _)
    apply List.pairwise_append.mpr
    refine ⟨h.far, List.pairwise_singleton _ _, ?_⟩
    intro id hid last hlast
    rw [List.mem_singleton.mp hlast]
    exact farApart_of_not_same hsymm hsame hspot h.placed id hid
  · intro id hid
    cases hmem id hid with
    | inl hold => exact h.placed id hold
    | inr hnew => exact ⟨centre, hnew ▸ hspot⟩
  · intro id hid
    cases hmem id hid with
    | inl hold => exact h.seen id hold
    | inr hnew => exact hnew ▸ hseen

end EvidenceList

end Geometry

section History

/-- The log back to the last restriction. -/
def sinceRestriction (log : List Observed) : List Observed := log.takeWhile fun e => e ≠ .restricted

/-- The log back to the last recorded outside transition, or the last restriction. -/
def sinceOutside (log : List Observed) : List Observed := log.takeWhile fun e => e ≠ .restricted ∧ e ≠ .outside

/-- Enough claims at distinct locations since the last restriction: inside ones with no outside transition in between,
and near-centre ones. -/
def Earned (cfg : Settings P) (db : Db P) (earlier : List Observed) : Prop :=
  (∃ streak : List ℕ, streak.length = insideStreakLocationsRequired ∧ streak.Pairwise (FarApart cfg db) ∧
    ∀ id ∈ streak, ∃ near, .inside id near ∈ sinceOutside earlier) ∧
  ∃ centres : List ℕ, centres.length = centreDistinctLocationsRequired ∧ centres.Pairwise (FarApart cfg db) ∧
    ∀ id ∈ centres, .inside id true ∈ sinceRestriction earlier

/-- Every restriction of the log was earned by what came before it. -/
def AllEarned (cfg : Settings P) (db : Db P) (log : List Observed) : Prop :=
  ∀ earlier, .restricted :: earlier <:+ log → Earned cfg db earlier

variable {cfg : Settings P} {db db' : Db P} {log : List Observed} {state evidence : LocationBehaviorState} {e : Observed}
  {spot : Spot P} {centre : P} {checkedAt : ℕ}

lemma outsideEvidence_some (h : outsideEvidence state checkedAt = some evidence) :
    evidence.version = state.version ∧ evidence.restrictedUntil = state.restrictedUntil ∧
      evidence.insideStreakSpotIds = [] ∧ evidence.centreLocationSpotIds = state.centreLocationSpotIds := by
  unfold outsideEvidence at h
  dsimp only at h
  split at h
  · contradiction
  · obtain rfl := Option.some.inj h
    exact ⟨rfl, rfl, rfl, rfl⟩

lemma Earned.mono (hplaced : ∀ id p, PlacedAt db id p → PlacedAt db' id p) (h : Earned cfg db log) :
    Earned cfg db' log := by
  obtain ⟨⟨streak, hlength, hfar, hseen⟩, centres, hlength', hfar', hseen'⟩ := h
  exact ⟨⟨streak, hlength, hfar.imp (FarApart.mono hplaced), hseen⟩, centres, hlength',
    hfar'.imp (FarApart.mono hplaced), hseen'⟩

lemma AllEarned.mono (hplaced : ∀ id p, PlacedAt db id p → PlacedAt db' id p) (h : AllEarned cfg db log) :
    AllEarned cfg db' log :=
  fun earlier hearlier => (h earlier hearlier).mono hplaced

lemma AllEarned.cons (h : AllEarned cfg db log) (hnew : e = .restricted → Earned cfg db log) :
    AllEarned cfg db (e :: log) := by
  intro earlier hearlier
  cases List.suffix_cons_iff.mp hearlier with
  | inl hhere =>
    obtain ⟨he, rfl⟩ := List.cons.inj hhere
    exact hnew he.symm
  | inr hlater => exact h earlier hlater

/-- The stored evidence, accounted for by the log. -/
def Backed (cfg : Settings P) (db : Db P) (log : List Observed) (state : LocationBehaviorState) : Prop :=
  EvidenceList cfg db insideStreakLocationsRequired state.insideStreakSpotIds
    (fun id => ∃ near, .inside id near ∈ sinceOutside log) ∧
  EvidenceList cfg db centreDistinctLocationsRequired state.centreLocationSpotIds
    (fun id => .inside id true ∈ sinceRestriction log) ∧
  (state.outsideSinceLastInside = true → state.insideStreakSpotIds = [])

namespace Backed

lemma mono (hplaced : ∀ id p, PlacedAt db id p → PlacedAt db' id p) (h : Backed cfg db log state) :
    Backed cfg db' log state :=
  ⟨h.1.mono hplaced fun _ => id, h.2.1.mono hplaced fun _ => id, h.2.2⟩

lemma empty (hstreak : state.insideStreakSpotIds = []) (hcentres : state.centreLocationSpotIds = []) :
    Backed cfg db log state := by
  unfold Backed
  rw [hstreak, hcentres]
  exact ⟨.nil, .nil, fun _ => rfl⟩

lemma inside (h : Backed cfg db log state) (spotId : ℕ) (near : Bool) :
    Backed cfg db (.inside spotId near :: log) state := by
  refine ⟨h.1.mono (fun _ _ => id) ?_, h.2.1.mono (fun _ _ => id) ?_, h.2.2⟩
  · rintro other ⟨near', hmem⟩
    exact ⟨near', List.mem_cons_of_mem _ hmem⟩
  · intro other hmem
    exact List.mem_cons_of_mem _ hmem

/-- A new inside event, at a location that either list may hold already. -/
lemma record (hsymm : ∀ p q, cfg.distanceMetres p q = cfg.distanceMetres q p) (h : Backed cfg db log state)
    (hspot : PlacedAt db spot.id centre) (distance : ℚ) (checkedAt : ℕ) :
    Backed cfg db (.inside spot.id (decide (distance ≤ nearExactCentreMetres)) :: log)
      (recordSignedInside cfg db state spot centre distance checkedAt) := by
  obtain ⟨hstreak, hcentres, -⟩ := h.inside spot.id (decide (distance ≤ nearExactCentreMetres))
  refine ⟨?_, ?_, nofun⟩
  · unfold recordSignedInside
    dsimp only
    split_ifs with hsame
    · exact hstreak
    · apply hstreak.append hsymm hspot (Bool.not_eq_true _ ▸ hsame)
      exact ⟨_, List.mem_cons_self⟩
  · unfold recordSignedInside
    dsimp only
    split_ifs with hnew
    · apply hcentres.append hsymm hspot hnew.2
      rw [decide_eq_true hnew.1]
      exact List.mem_cons_self
    · exact hcentres

lemma earned (h : Backed cfg db log state) (hmatured : state.newEvidenceMatured = true) : Earned cfg db log := by
  obtain ⟨hstreak, hcentres, -⟩ := h
  obtain ⟨hthree, hfour⟩ := of_decide_eq_true hmatured
  exact ⟨⟨_, le_antisymm hstreak.length_le hfour, hstreak.far, hstreak.seen⟩,
    _, le_antisymm hcentres.length_le hthree, hcentres.far, hcentres.seen⟩

/-- A recorded outside transition ends the streak; the near-centre evidence stays. -/
lemma outside (h : Backed cfg db log state) (hevidence : outsideEvidence state checkedAt = some evidence) :
    Backed cfg db (.outside :: log) evidence := by
  obtain ⟨-, -, hstreak, hcentres⟩ := outsideEvidence_some hevidence
  unfold Backed
  rw [hstreak, hcentres]
  exact ⟨.nil, h.2.1.mono (fun _ _ => id) fun id => List.mem_cons_of_mem _, fun _ => rfl⟩

/-- Saving and reading back lose nothing of it. -/
lemma migrate (hversion : state.version = behaviorStateVersion) (h : Backed cfg db log state) :
    Backed cfg db log (migrate (some state)) := by
  obtain ⟨hstreak, hcentres, houtside⟩ := h
  unfold LocationBehaviorState.migrate
  dsimp only
  rw [if_neg (not_not_intro hversion)]
  refine ⟨hstreak.take, hcentres.take, ?_⟩
  intro houtsideNow
  dsimp only
  rw [houtside houtsideNow]
  rfl

end Backed

end History

section Steps

variable {cfg : Settings P} {userId now : ℕ} {db db' : Db P} {log : List Observed} {spot : Spot P} {position centre : P}
  {s : GuardRun P} {evidence state : LocationBehaviorState} {events : List Observed}

lemma restrictedUntil_migrate (state : LocationBehaviorState) :
    (migrate (some state)).restrictedUntil = state.restrictedUntil := by
  unfold migrate
  dsimp only
  split_ifs
  · rfl
  · rfl

/-- What one signed claim does: nothing, or it saves its evidence. -/
lemma observeSignedClaim_cases (cfg : Settings P) (db : Db P) (userId : ℕ) (spot : Spot P) (position : P) (now : ℕ) :
    (observeSignedClaim cfg db userId spot position now).1 = db ∧
        GuardRun.insideEvents cfg db userId spot position now = [] ∨
      ∃ centre, spot.position = some centre ∧ db.isSpotCurrentlyClaimable spot.id = true ∧
        (db.behaviorState userId).currentlyRestricted now = false ∧
        (observeSignedClaim cfg db userId spot position now).1 =
          db.saveBehaviorState userId (signedClaimEvidence cfg db (db.behaviorState userId) spot centre position now) ∧
        GuardRun.insideEvents cfg db userId spot position now =
          if cfg.distanceMetres position centre ≤ spot.radius then
            [.inside spot.id (decide (cfg.distanceMetres position centre ≤ nearExactCentreMetres))]
          else [] := by
  unfold observeSignedClaim GuardRun.insideEvents
  by_cases hown : spot.createdBy = userId
  · left
    rw [if_pos hown]
    cases spot.position with
    | none => exact ⟨rfl, rfl⟩
    | some centre => exact ⟨rfl, if_neg fun h => h.1 hown⟩
  rw [if_neg hown]
  cases hpassword : spot.usePassword with
  | true =>
    left
    cases spot.position with
    | none => exact ⟨rfl, rfl⟩
    | some centre => exact ⟨rfl, if_neg fun h => Bool.false_ne_true h.2.1.symm⟩
  | false =>
    cases hclaimable : db.isSpotCurrentlyClaimable spot.id with
    | false =>
      left
      cases spot.position with
      | none => exact ⟨rfl, rfl⟩
      | some centre => exact ⟨rfl, if_neg fun h => Bool.false_ne_true h.2.2.1⟩
    | true =>
      cases hrestricted : (db.behaviorState userId).currentlyRestricted now with
      | true =>
        left
        cases spot.position with
        | none => exact ⟨by simp [hrestricted], rfl⟩
        | some centre => exact ⟨by simp [hrestricted], if_neg fun h => Bool.false_ne_true h.2.2.2.1.symm⟩
      | false =>
        cases spot.position with
        | none => exact .inl ⟨by simp [hrestricted], rfl⟩
        | some centre =>
          right
          refine ⟨centre, rfl, rfl, rfl, by simp [hrestricted], ?_⟩
          simp [hown]

/-- The evidence of one claim: the recorded lists, consumed when they have matured. -/
lemma signedClaimEvidence_cases (hsymm : ∀ p q, cfg.distanceMetres p q = cfg.distanceMetres q p)
    (h : Backed cfg db log state) (hspot : PlacedAt db spot.id centre) (position : P) (now : ℕ) :
    ∃ recorded, recorded.version = state.version ∧ recorded.restrictedUntil = state.restrictedUntil ∧
      Backed cfg db
        ((if cfg.distanceMetres position centre ≤ spot.radius then
            [.inside spot.id (decide (cfg.distanceMetres position centre ≤ nearExactCentreMetres))]
          else []) ++ log) recorded ∧
      signedClaimEvidence cfg db state spot centre position now =
        if recorded.newEvidenceMatured then recorded.consumeEpisode now else recorded := by
  unfold signedClaimEvidence
  dsimp only
  by_cases hinside : cfg.distanceMetres position centre ≤ spot.radius
  · rw [if_pos hinside, decide_eq_true hinside, Bool.and_true]
    by_cases hretry : state.isRetry spot.id now = true
    · rw [hretry]
      exact ⟨state, rfl, rfl, h.inside _ _, rfl⟩
    · rw [Bool.eq_false_of_not_eq_true hretry]
      exact ⟨recordSignedInside cfg db state spot centre (cfg.distanceMetres position centre) now, rfl, rfl,
        h.record hsymm hspot _ now, rfl⟩
  · rw [if_neg hinside, decide_eq_false hinside, Bool.and_false]
    exact ⟨state, rfl, rfl, h, rfl⟩

namespace GuardRun

/-- Between the observations only other parts of the deployment change, and no placed Spot moves or goes away. -/
def Possible (userId : ℕ) (s : GuardRun P) : Op P → Prop
  | .world db' =>
    db'.locationBehavior userId = s.db.locationBehavior userId ∧ ∀ id p, PlacedAt s.db id p → PlacedAt db' id p
  | _ => True

/-- The reading of the clock that a claim or a poll comes with is before the deadline. -/
def Op.Before (deadline : ℕ) : Op P → Prop
  | .signed _ _ now => now < deadline
  | .find _ now => now < deadline
  | _ => True

structure Inv (cfg : Settings P) (userId : ℕ) (s : GuardRun P) : Prop where
  backed : Backed cfg s.db s.log (s.db.behaviorState userId)
  earned : AllEarned cfg s.db s.log
  stored : ∀ stored, s.db.locationBehavior userId = some stored → stored.version = behaviorStateVersion →
    migrate (some stored) = stored

lemma Inv.start (hfresh : ∀ stored, db.locationBehavior userId = some stored → stored.version ≠ behaviorStateVersion) :
    Inv cfg userId ⟨db, [], []⟩ where
  backed := by
    unfold Db.behaviorState
    cases hstored : db.locationBehavior userId with
    | none => exact .empty rfl rfl
    | some stored =>
      unfold migrate
      dsimp only
      rw [if_pos (hfresh stored hstored)]
      exact .empty rfl rfl
  earned := by
    intro earlier hearlier
    exact absurd (List.suffix_nil.mp hearlier) (List.cons_ne_nil _ _)
  stored := fun stored hstored hversion => absurd hversion (hfresh stored hstored)

/-- An observation that saves evidence. -/
lemma Inv.save (hversion : evidence.version = behaviorStateVersion)
    (hbacked : Backed cfg s.db (restrictionEvents s.db (s.db.saveBehaviorState userId evidence) userId ++ (events ++ s.log))
      evidence)
    (hearned : AllEarned cfg s.db
      (restrictionEvents s.db (s.db.saveBehaviorState userId evidence) userId ++ (events ++ s.log))) :
    Inv cfg userId (s.observed userId (s.db.saveBehaviorState userId evidence) events) where
  backed := by
    unfold observed
    dsimp only
    rw [Db.behaviorState_saveBehaviorState]
    refine Backed.mono ?_ (hbacked.migrate hversion)
    intro id p hplaced
    exact hplaced
  earned := by
    refine AllEarned.mono ?_ hearned
    intro id p hplaced
    exact hplaced
  stored := by
    intro stored hstored _
    have hsaved : some (migrate (some evidence)) = some stored := by
      rw [← hstored]
      exact (Function.update_self userId (some (migrate (some evidence))) s.db.locationBehavior).symm
    rw [← Option.some.inj hsaved]
    exact migrate_migrate (some evidence)

lemma restrictionEvents_save (db : Db P) (userId : ℕ) (evidence : LocationBehaviorState) :
    restrictionEvents db (db.saveBehaviorState userId evidence) userId =
      if evidence.restrictedUntil = (db.behaviorState userId).restrictedUntil then [] else [.restricted] := by
  unfold restrictionEvents
  rw [Db.behaviorState_saveBehaviorState, restrictedUntil_migrate]

lemma observed_same (s : GuardRun P) (userId : ℕ) : s.observed userId s.db [] = s := by
  unfold observed restrictionEvents
  rw [if_pos rfl]
  rfl

lemma placedAt_of_claimable (hspot : db.getSpot spot.id = some spot) (hcentre : spot.position = some centre)
    (hclaimable : db.isSpotCurrentlyClaimable spot.id = true) : PlacedAt db spot.id centre := by
  unfold Db.isSpotCurrentlyClaimable at hclaimable
  cases hpublic : db.getPublicSpot spot.id with
  | none =>
    rw [hpublic] at hclaimable
    contradiction
  | some found =>
    obtain ⟨hfound, hrow⟩ := Option.filter_eq_some_iff.mp hpublic
    obtain rfl := Option.some.inj (hfound.symm.trans hspot)
    refine ⟨found, hfound, ?_, hcentre⟩
    rw [(of_decide_eq_true hrow).1]
    nofun

/-- A signed claim, whether it saves its evidence, is a retry, or starts a restriction. -/
lemma Inv.signed (hsymm : ∀ p q, cfg.distanceMetres p q = cfg.distanceMetres q p) (h : Inv cfg userId s)
    (hspot : s.db.getSpot spot.id = some spot) (position : P) (now : ℕ) :
    Inv cfg userId (s.observed userId (observeSignedClaim cfg s.db userId spot position now).1
      (insideEvents cfg s.db userId spot position now)) := by
  cases observeSignedClaim_cases cfg s.db userId spot position now with
  | inl hnothing =>
    rw [hnothing.1, hnothing.2, observed_same]
    exact h
  | inr hsaved =>
    obtain ⟨centre, hcentre, hclaimable, hfree, hdb, hevents⟩ := hsaved
    have hplaced := placedAt_of_claimable hspot hcentre hclaimable
    obtain ⟨recorded, hversion, huntil, hbacked, hevidence⟩ :=
      signedClaimEvidence_cases hsymm h.backed hplaced position now
    have hversion' := hversion.trans (migrate_version _)
    rw [hdb, hevidence]
    rw [← hevents] at hbacked
    have hearned : AllEarned cfg s.db (insideEvents cfg s.db userId spot position now ++ s.log) := by
      rw [hevents]
      split_ifs
      · exact h.earned.cons nofun
      · exact h.earned
    cases hmatured : recorded.newEvidenceMatured with
    | false =>
      rw [if_neg Bool.false_ne_true]
      have hevent : restrictionEvents s.db (s.db.saveBehaviorState userId recorded) userId = [] := by
        rw [restrictionEvents_save, if_pos huntil]
      apply Inv.save hversion'
      · rw [hevent]
        exact hbacked
      · rw [hevent]
        exact hearned
    | true =>
      rw [if_pos rfl]
      have hlater : (s.db.behaviorState userId).restrictedUntil < now + temporaryRestrictionSeconds := by
        have hreached := of_decide_eq_false hfree
        unfold temporaryRestrictionSeconds
        omega
      have hevent : restrictionEvents s.db (s.db.saveBehaviorState userId (recorded.consumeEpisode now)) userId =
          [.restricted] := by
        rw [restrictionEvents_save, if_neg]
        exact hlater.ne'
      have hconsumed : (recorded.consumeEpisode now).version = behaviorStateVersion := hversion'
      apply Inv.save hconsumed
      · exact .empty rfl rfl
      · rw [hevent]
        exact hearned.cons fun _ => hbacked.earned hmatured

/-- The transaction of an outside poll. -/
lemma Inv.recordOutside (h : Inv cfg userId s) (checkedAt : ℕ) :
    Inv cfg userId (s.observed userId (s.db.recordOutside userId checkedAt) (outsideEvents s.db userId checkedAt)) := by
  unfold Db.recordOutside outsideEvents
  cases hevidence : outsideEvidence (s.db.behaviorState userId) checkedAt with
  | none =>
    dsimp only
    rw [if_neg nofun, observed_same]
    exact h
  | some evidence =>
    dsimp only
    rw [if_pos Option.isSome_some]
    obtain ⟨hversion, huntil, -, -⟩ := outsideEvidence_some hevidence
    have hevent : restrictionEvents s.db (s.db.saveBehaviorState userId evidence) userId = [] := by
      rw [restrictionEvents_save, if_pos huntil]
    apply Inv.save (hversion.trans (migrate_version _))
    · rw [hevent]
      exact h.backed.outside hevidence
    · rw [hevent]
      exact h.earned.cons nofun

lemma Inv.step (hsymm : ∀ p q, cfg.distanceMetres p q = cfg.distanceMetres q p) {op : Op P} (hop : Possible userId s op)
    (h : Inv cfg userId s) : Inv cfg userId (s.step cfg userId op) := by
  cases op with
  | world db' =>
    obtain ⟨hsame, hplaced⟩ := hop
    have hstate : db'.behaviorState userId = s.db.behaviorState userId := congrArg migrate hsame
    refine ⟨?_, h.earned.mono hplaced, ?_⟩
    · exact hstate.symm ▸ h.backed.mono hplaced
    · intro stored hstored
      exact h.stored stored (hsame.symm.trans hstored)
  | signed spotId position now =>
    unfold GuardRun.step
    dsimp only
    cases hspot : s.db.getSpot spotId with
    | none => exact h
    | some spot =>
      exact h.signed hsymm ((getSpot_id hspot).symm ▸ hspot) position now
  | find position now =>
    unfold GuardRun.step
    dsimp only
    split_ifs
    · exact h
    · exact ⟨h.backed, h.earned, h.stored⟩
  | recordOutside poll =>
    unfold GuardRun.step
    dsimp only
    cases s.polls[poll]? with
    | none => exact h
    | some checkedAt =>
      have h' : Inv cfg userId { s with polls := s.polls.eraseIdx poll } := ⟨h.backed, h.earned, h.stored⟩
      exact h'.recordOutside checkedAt

/-- Before its end, no observation moves a restriction. -/
lemma restrictedUntil_step {op : Op P} (hop : Possible userId s op)
    (hbefore : op.Before (s.db.behaviorState userId).restrictedUntil) :
    ((s.step cfg userId op).db.behaviorState userId).restrictedUntil = (s.db.behaviorState userId).restrictedUntil := by
  cases op with
  | world db' =>
    have hstate : db'.behaviorState userId = s.db.behaviorState userId := congrArg migrate hop.1
    exact congrArg restrictedUntil hstate
  | signed spotId position now =>
    unfold GuardRun.step
    dsimp only
    cases s.db.getSpot spotId with
    | none => rfl
    | some spot =>
      cases observeSignedClaim_cases cfg s.db userId spot position now with
      | inl hnothing =>
        dsimp only
        rw [hnothing.1, hnothing.2, observed_same]
      | inr hsaved =>
        obtain ⟨-, -, -, hfree, -⟩ := hsaved
        have hreached : ¬ now < (s.db.behaviorState userId).restrictedUntil := of_decide_eq_false hfree
        exact absurd hbefore hreached
  | find position now =>
    unfold GuardRun.step
    dsimp only
    split_ifs
    · rfl
    · rfl
  | recordOutside poll =>
    unfold GuardRun.step
    dsimp only
    cases s.polls[poll]? with
    | none => rfl
    | some checkedAt =>
      unfold observed Db.recordOutside
      dsimp only
      cases hevidence : outsideEvidence (s.db.behaviorState userId) checkedAt with
      | none => rfl
      | some evidence =>
        dsimp only
        rw [Db.behaviorState_saveBehaviorState, restrictedUntil_migrate]
        exact (outsideEvidence_some hevidence).2.1

lemma Inv.run (hsymm : ∀ p q, cfg.distanceMetres p q = cfg.distanceMetres q p) {ops : List (Op P)}
    (hops : Admissible (GuardRun.step cfg userId) (Possible userId) s ops) (h : Inv cfg userId s) :
    Inv cfg userId (Lib.run (GuardRun.step cfg userId) s ops) :=
  run_invariant (fun _ _ hop hinv => hinv.step hsymm hop) hops h

/-- From a user without evidence: the lists stay bounded and far apart, each restriction was earned, and none moves
before its end. -/
theorem restrictions_are_earned (cfg : Settings P) (userId : ℕ)
    (hsymm : ∀ p q, cfg.distanceMetres p q = cfg.distanceMetres q p) {db : Db P}
    (hfresh : ∀ stored, db.locationBehavior userId = some stored → stored.version ≠ behaviorStateVersion)
    {ops : List (Op P)} (hops : Admissible (GuardRun.step cfg userId) (Possible userId) ⟨db, [], []⟩ ops) :
    let s := Lib.run (GuardRun.step cfg userId) ⟨db, [], []⟩ ops
    (∀ stored, s.db.locationBehavior userId = some stored → stored.version = behaviorStateVersion →
      (stored.insideStreakSpotIds.length ≤ 4 ∧ stored.insideStreakSpotIds.Pairwise (FarApart cfg s.db)) ∧
        stored.centreLocationSpotIds.length ≤ 3 ∧ stored.centreLocationSpotIds.Pairwise (FarApart cfg s.db)) ∧
    AllEarned cfg s.db s.log ∧
    ∀ op, Possible userId s op → op.Before (s.db.behaviorState userId).restrictedUntil →
      ((s.step cfg userId op).db.behaviorState userId).restrictedUntil =
        (s.db.behaviorState userId).restrictedUntil := by
  intro s
  have h : Inv cfg userId s := (Inv.start hfresh).run hsymm hops
  refine ⟨?_, h.earned, fun op hop hbefore => restrictedUntil_step hop hbefore⟩
  intro stored hstored hversion
  have hstate : s.db.behaviorState userId = stored :=
    (congrArg migrate hstored).trans (h.stored stored hstored hversion)
  obtain ⟨hstreak, hcentres, -⟩ := hstate ▸ h.backed
  exact ⟨⟨hstreak.length_le, hstreak.far⟩, hcentres.length_le, hcentres.far⟩

/-- Four public Spots on one road, 100 m from each other. -/
def roadSpot (spotId : ℕ) : Spot ℚ where
  id := spotId
  createdBy := 1
  depositAddress := ""
  position := some (100 * spotId)
  radius := 25
  claimDuration := 0
  maxClaimsPerUser := 1
  maxTotalClaims := 10
  usePassword := false
  totalValue := 0
  creationFee := 0
  startsAt := none
  endsAt := 0
  status := .published
  cancellationStartedAt := none
  prizeCount := none

def roadSettings : Settings ℚ where
  distanceMetres := fun p q => |p - q|
  publicDeployment := true
  walletHourlyClaimLimit := 20
  cleanOptionalNimiqAddress := .ok
  strip := id
  upper := id

def roadDb : Db ℚ := { Db.empty with spots := [roadSpot 1, roadSpot 2, roadSpot 3, roadSpot 4] }

/-- Claims at the four centres, the last one off its centre, with a poll in between that finds the browser inside. -/
def roadWalk : List (Op ℚ) :=
  [.signed 1 100 1000, .signed 2 200 1100, .find 310 1150, .signed 3 300 1200, .signed 4 405 1300]

theorem road_walk_restricts :
    (Lib.run (GuardRun.step roadSettings 7) ⟨roadDb, [], []⟩ roadWalk).log.head? = some .restricted ∧
      AllEarned roadSettings (Lib.run (GuardRun.step roadSettings 7) ⟨roadDb, [], []⟩ roadWalk).db
        (Lib.run (GuardRun.step roadSettings 7) ⟨roadDb, [], []⟩ roadWalk).log := by
  have hops : Admissible (GuardRun.step roadSettings 7) (Possible 7) ⟨roadDb, [], []⟩ roadWalk :=
    ⟨trivial, trivial, trivial, trivial, trivial, trivial⟩
  have hfresh : ∀ stored, roadDb.locationBehavior 7 = some stored → stored.version ≠ behaviorStateVersion := nofun
  have h := restrictions_are_earned roadSettings 7 abs_sub_comm hfresh hops
  exact ⟨by decide +kernel, h.2.1⟩

end GuardRun

end Steps

end NimHunt
