import NimHunt.Proofs.RecoveryFlow

/-!
# The life of a Spot

A draft is edited, published or cancelled; a published Spot completes, a standard one may be cancelled instead, and
what is not cancelled may be banned.  From its publication on the terms of a Spot are fixed, and a cancellation marker
is set once and leaves a Spot only one way out.
-/

namespace NimHunt

open Lib Relation

variable {P : Type}

section Lives

/-- The statuses a Spot may still come to. -/
def SpotStatus.leadsTo : SpotStatus → SpotStatus → Bool
  | .draft, _ => true
  | .published, later => later ≠ .draft
  | .completed, later => later = .completed ∨ later = .banned
  | .cancelled, later => later = .cancelled
  | .banned, later => later = .banned

lemma SpotStatus.leadsTo_refl (status : SpotStatus) : status.leadsTo status = true := by
  cases status <;> rfl

lemma SpotStatus.leadsTo_trans {a b c : SpotStatus} (h : a.leadsTo b = true) (h' : b.leadsTo c = true) :
    a.leadsTo c = true := by
  cases a <;> cases b <;> cases c <;> simp_all [SpotStatus.leadsTo]

/-- A Spot that leaves its marker only by being cancelled. -/
def Spot.OnlyCancels (spot : Spot P) : Prop :=
  spot.cancellationStartedAt.isSome = true ∧ (spot.prizeCount = none ∨ spot.status = .draft)

lemma not_onlyCancels {spot : Spot P} (hmarker : spot.cancellationStartedAt = none) : ¬ spot.OnlyCancels := by
  rintro ⟨hmarked, -⟩
  rw [hmarker] at hmarked
  cases hmarked

/-- What a Spot is later. -/
structure Spot.BecomesLater (spot later : Spot P) : Prop where
  id : later.id = spot.id
  createdBy : later.createdBy = spot.createdBy
  depositAddress : later.depositAddress = spot.depositAddress
  creationFee : later.creationFee = spot.creationFee
  kind : later.prizeCount.isSome = spot.prizeCount.isSome
  status : spot.status.leadsTo later.status = true
  terms : spot.status ≠ .draft →
    later = { spot with status := later.status, cancellationStartedAt := later.cancellationStartedAt }
  marker : ∀ startedAt, spot.cancellationStartedAt = some startedAt → later.cancellationStartedAt = some startedAt
  closing : spot.OnlyCancels → later.status = spot.status ∨ later.status = .cancelled
  drawn : spot.prizeCount.isSome = true → spot.status ≠ .draft → later.status = .cancelled → spot.status = .cancelled

lemma Spot.BecomesLater.refl (spot : Spot P) : spot.BecomesLater spot where
  id := rfl
  createdBy := rfl
  depositAddress := rfl
  creationFee := rfl
  kind := rfl
  status := spot.status.leadsTo_refl
  terms _ := rfl
  marker _ h := h
  closing _ := .inl rfl
  drawn _ _ h := h

/-- From publication on a Spot stays out of its draft. -/
lemma SpotStatus.leadsTo_ne_draft {status later : SpotStatus} (h : status.leadsTo later = true)
    (hdraft : status ≠ .draft) : later ≠ .draft := by
  intro hlater
  subst hlater
  cases status <;> simp_all [SpotStatus.leadsTo]

lemma SpotStatus.leadsTo_cancelled {later : SpotStatus} (h : SpotStatus.cancelled.leadsTo later = true) :
    later = .cancelled := of_decide_eq_true h

lemma Spot.BecomesLater.then {spot mid later : Spot P} (h : spot.BecomesLater mid) (h' : mid.BecomesLater later) :
    spot.BecomesLater later where
  id := h'.id.trans h.id
  createdBy := h'.createdBy.trans h.createdBy
  depositAddress := h'.depositAddress.trans h.depositAddress
  creationFee := h'.creationFee.trans h.creationFee
  kind := h'.kind.trans h.kind
  status := SpotStatus.leadsTo_trans h.status h'.status
  terms hdraft := by
    have hmid := h.terms hdraft
    have hlater := h'.terms (SpotStatus.leadsTo_ne_draft h.status hdraft)
    rw [hmid] at hlater
    exact hlater
  marker startedAt hmarked := h'.marker startedAt (h.marker startedAt hmarked)
  closing honly := by
    cases h.closing honly with
    | inr hcancelled =>
      have hstays := h'.status
      rw [hcancelled] at hstays
      exact .inr (SpotStatus.leadsTo_cancelled hstays)
    | inl hsame =>
      obtain ⟨hmarked, hopen⟩ := honly
      obtain ⟨startedAt, hstarted⟩ := Option.isSome_iff_exists.mp hmarked
      have hmid : mid.OnlyCancels := by
        refine ⟨by rw [h.marker startedAt hstarted]; rfl, ?_⟩
        cases hopen with
        | inl hstandard =>
          have hkind := h.kind
          rw [hstandard] at hkind
          exact .inl (Option.isNone_iff_eq_none.mp (by simpa using hkind))
        | inr hdraft => exact .inr (hsame.trans hdraft)
      rw [← hsame]
      exact h'.closing hmid
  drawn hprize hdraft hcancelled :=
    h.drawn hprize hdraft (h'.drawn (h.kind.trans hprize) (SpotStatus.leadsTo_ne_draft h.status hdraft) hcancelled)

end Lives

section Writes

variable {cfg : Settings P} {permit : Permit P} {db db' db'' : Db P}

/-- A Spot that is no draft is there later, what is found under its id is what it may become, and an id
that is free again stays free. -/
structure SpotsLive (db db' : Db P) : Prop where
  spotSeq : db.spotSeq ≤ db'.spotSeq
  stays : ∀ id spot, db.getSpot id = some spot → spot.status ≠ .draft → (db'.getSpot id).isSome = true
  lives : ∀ id spot later, db.getSpot id = some spot → db'.getSpot id = some later → spot.BecomesLater later
  gone : ∀ id ≤ db.spotSeq, db.getSpot id = none → db'.getSpot id = none

lemma SpotsLive.then (h : SpotsLive db db') (h' : SpotsLive db' db'') (hnumbered : Numbered db) : SpotsLive db db'' := by
  refine ⟨h.spotSeq.trans h'.spotSeq, ?_, ?_, ?_⟩
  · intro id spot hspot hplaced
    obtain ⟨mid, hmid⟩ := Option.isSome_iff_exists.mp (h.stays id spot hspot hplaced)
    exact h'.stays id mid hmid (SpotStatus.leadsTo_ne_draft (h.lives id spot mid hspot hmid).status hplaced)
  · intro id spot later hspot hlater
    cases hmid : db'.getSpot id with
    | some mid => exact (h.lives id spot mid hspot hmid).then (h'.lives id mid later hmid hlater)
    | none =>
      have hfresh : id ≤ db.spotSeq := getSpot_id hspot ▸ hnumbered.spotFresh spot (List.mem_of_find?_eq_some hspot)
      rw [h'.gone id (hfresh.trans h.spotSeq) hmid] at hlater
      cases hlater
  · exact fun id hid hnone => h'.gone id (hid.trans h.spotSeq) (h.gone id hid hnone)

/-- No Spot goes and none comes. -/
lemma SpotsLive.of_same (hseq : db'.spotSeq = db.spotSeq)
    (hspots : ∀ id, (db'.getSpot id).isSome = (db.getSpot id).isSome)
    (hlives : ∀ id spot later, db.getSpot id = some spot → db'.getSpot id = some later → spot.BecomesLater later) :
    SpotsLive db db' := by
  refine ⟨hseq.ge, ?_, hlives, ?_⟩
  · intro id spot hspot _
    rw [hspots, hspot]
    rfl
  · intro id _ hnone
    rw [← Option.not_isSome_iff_eq_none, hspots, hnone]
    exact Bool.false_ne_true

lemma SpotsLive.of_eq (hspots : db'.spots = db.spots) (hseq : db'.spotSeq = db.spotSeq) : SpotsLive db db' := by
  have hget := getSpot_of_spots hspots
  refine .of_same hseq (fun id => by rw [hget]) ?_
  intro id spot later hspot hlater
  rw [hget, hspot] at hlater
  rw [Option.some.inj hlater]
  exact .refl later

lemma SpotsLive.of_update {sel : Spot P → Bool} {f : Spot P → Spot P} (hspots : db'.spots = updateWhere sel f db.spots)
    (hseq : db'.spotSeq = db.spotSeq) (hid : ∀ s, (f s).id = s.id)
    (hrow : ∀ s, db.getSpot s.id = some s → sel s = true → s.BecomesLater (f s)) :
    SpotsLive db db' := by
  have hget : ∀ id, db'.getSpot id = (db.getSpot id).map fun s => if sel s then f s else s := by
    intro id
    unfold Db.getSpot
    rw [hspots]
    exact find?_updateWhere_key hid id
  refine .of_same hseq (fun id => by rw [hget, Option.isSome_map]) ?_
  intro id spot later hspot hlater
  rw [hget, hspot] at hlater
  rw [← Option.some.inj hlater]
  dsimp only
  by_cases hsel : sel spot = true
  · rw [if_pos hsel]
    exact hrow spot ((getSpot_id hspot).symm ▸ hspot) hsel
  · rw [if_neg hsel]
    exact .refl spot

/-- An edit of a draft. -/
lemma SameDraft.becomesLater {spot next : Spot P} (h : SameDraft spot next) (hdraft : spot.status = .draft) :
    spot.BecomesLater next where
  id := h.id
  createdBy := h.createdBy
  depositAddress := h.depositAddress
  creationFee := h.creationFee
  kind := h.prizedraw
  status := by rw [hdraft]; rfl
  terms hplaced := absurd hdraft hplaced
  marker startedAt hmarked := h.cancellationStartedAt.trans hmarked
  closing _ := .inl h.status
  drawn _ hplaced := absurd hdraft hplaced

/-- A status that the terms stay under. -/
lemma becomesLater_withStatus {spot : Spot P} {status : SpotStatus} (hstatus : spot.status.leadsTo status = true)
    (hclosing : spot.OnlyCancels → status = spot.status ∨ status = .cancelled)
    (hdrawn : spot.prizeCount.isSome = true → spot.status ≠ .draft → status = .cancelled → spot.status = .cancelled) :
    spot.BecomesLater { spot with status := status } where
  id := rfl
  createdBy := rfl
  depositAddress := rfl
  creationFee := rfl
  kind := rfl
  status := hstatus
  terms _ := rfl
  marker _ h := h
  closing := hclosing
  drawn := hdrawn

lemma Closes.becomesLater {spot : Spot P} {status : SpotStatus} (h : Closes db spot status) :
    spot.BecomesLater { spot with status := status } := by
  cases h with
  | completed hpublished _ hmarker _ =>
    apply becomesLater_withStatus
    · rw [hpublished]
      rfl
    · exact fun honly => absurd honly (not_onlyCancels hmarker)
    · nofun
  | cancelled hopen =>
    apply becomesLater_withStatus
    · rcases hopen with hdraft | ⟨hpublished, -⟩
      · rw [hdraft]
        rfl
      · rw [hpublished]
        rfl
    · exact fun _ => .inr rfl
    · intro hprize hplaced _
      rcases hopen with hdraft | ⟨-, hstandard⟩
      · exact absurd hdraft hplaced
      · rw [hstandard] at hprize
        cases hprize
  | banned hopen hcancelled =>
    apply becomesLater_withStatus
    · cases hstatus : spot.status with
      | cancelled => exact absurd hstatus hcancelled
      | _ => rfl
    · intro honly
      by_cases hbanned : spot.status = .banned
      · exact .inl hbanned.symm
      · exact absurd honly (not_onlyCancels (hopen hbanned))
    · nofun

lemma DbWrite.spotsLive (hwrite : DbWrite cfg permit db db') : SpotsLive db db' := by
  have honly : ∀ {spot s : Spot P}, db.getSpot spot.id = some spot → db.getSpot s.id = some s → s.id = spot.id →
      s = spot := by
    intro spot s hspot hs hid
    rw [hid] at hs
    exact Option.some.inj (hs.symm.trans hspot)
  cases hwrite with
  | claim hwrite => exact .of_eq hwrite.sameGround.spots hwrite.sameGround.spotSeq
  | @drafted spot hid =>
    have hget : ∀ id, ({ db with spots := db.spots ++ [spot], spotSeq := spot.id } : Db P).getSpot id =
        (db.getSpot id).or (if spot.id = id then some spot else none) := by
      intro id
      unfold Db.getSpot
      rw [List.find?_append, List.find?_singleton]
      simp
    refine ⟨?_, ?_, ?_, ?_⟩
    · change db.spotSeq ≤ spot.id
      omega
    · intro id s hs _
      rw [hget, hs]
      rfl
    · intro id s later hs hlater
      rw [hget, hs, Option.some_or] at hlater
      rw [← Option.some.inj hlater]
      exact .refl s
    · intro id hle hnone
      rw [hget, hnone, Option.none_or, if_neg (by omega)]
  | undrafted hspot hdraft =>
    refine ⟨le_refl _, ?_, ?_, ?_⟩
    · intro id s hs hplaced
      rw [getSpot_deleteSpot_of_placed hspot hdraft hs hplaced]
      rfl
    · intro id s later hs hlater
      have hsame := (getSpot_of_deleteSpot hlater).2
      rw [Option.some.inj (hs.symm.trans hsame)]
      exact .refl later
    · intro id _ hnone
      rw [getSpot_deleteSpot, hnone, ite_self]
  | @edited spot next hspot hdraft hsame _ =>
    refine .of_update (edited_spots hsame.id db.spots) rfl (fun _ => rfl) ?_
    intro s hs hsel
    obtain rfl := honly hspot hs (of_decide_eq_true hsel)
    exact SameDraft.becomesLater { hsame with id := rfl } hdraft
  | published =>
    refine .of_update rfl rfl (fun _ => rfl) ?_
    intro s _ hsel
    obtain ⟨-, hdraft, hmarker⟩ := of_decide_eq_true hsel
    exact {
      id := rfl, createdBy := rfl, depositAddress := rfl, creationFee := rfl, kind := rfl
      status := by rw [hdraft]; rfl
      terms := fun hplaced => absurd hdraft hplaced
      marker := fun _ hmarked => hmarked
      closing := fun honly => absurd honly (not_onlyCancels hmarker)
      drawn := fun _ hplaced => absurd hdraft hplaced }
  | marked =>
    refine .of_update rfl rfl (fun _ => rfl) ?_
    intro s _ hsel
    obtain ⟨-, -, hmarker⟩ := of_decide_eq_true hsel
    exact {
      id := rfl, createdBy := rfl, depositAddress := rfl, creationFee := rfl, kind := rfl
      status := s.status.leadsTo_refl
      terms := fun _ => rfl
      marker := fun _ hmarked => by rw [hmarker] at hmarked; cases hmarked
      closing := fun _ => .inl rfl
      drawn := fun _ _ hcancelled => hcancelled }
  | @closed spot status hspot hcloses =>
    refine .of_update rfl rfl (fun _ => rfl) ?_
    intro s hs hsel
    obtain rfl := honly hspot hs (of_decide_eq_true hsel)
    exact hcloses.becomesLater
  | @drawn spot winners hspot hpublished hprizedraw _ _ =>
    refine .of_update rfl rfl (fun _ => rfl) ?_
    intro s hs hsel
    obtain rfl := honly hspot hs (of_decide_eq_true hsel)
    apply becomesLater_withStatus
    · rw [hpublished]
      rfl
    · rintro ⟨-, hstandard | hdraft⟩
      · rw [hstandard] at hprizedraw
        cases hprizedraw
      · rw [hpublished] at hdraft
        cases hdraft
    · nofun
  | _ => exact .of_eq rfl rfl

lemma DbWrites.spotsLive (hwrites : DbWrites cfg permit db db') (hnumbered : Numbered db) : SpotsLive db db' := by
  induction hwrites with
  | refl => exact .of_eq rfl rfl
  | tail _ hwrite ih => exact ih.then hwrite.spotsLive hnumbered

end Writes

section Runs

variable (cfg : Settings P)

lemma kept_run (ops : List (Op P)) : (run (step cfg) Sys.initial ops).Kept := by
  have hpreserved : ∀ (s : Sys P) (op : Op P), True → s.Kept → (step cfg s op).Kept :=
    fun _ op _ h => (@step_writes _ cfg .all _ _ h (admitted_all op)).2
  exact run_invariant hpreserved (admissible_true _ ops) kept_initial

/-- What any further operations leave of the Spots. -/
lemma spotsLive_run {s : Sys P} (h : s.Kept) (later : List (Op P)) :
    SpotsLive s.db (run (step cfg) s later).db := by
  induction later generalizing s with
  | nil => exact .of_eq rfl rfl
  | cons op later ih =>
    obtain ⟨hwrites, hkept⟩ := @step_writes _ cfg .all _ _ h (admitted_all op)
    exact (hwrites.spotsLive h.numbered).then (ih hkept) h.numbered

/-- Whatever happens, a Spot that has been published stays, every Spot is later what it may become, and the id of a deleted
draft is not given out again. -/
theorem spots_live (ops later : List (Op P)) (spotId : ℕ) (spot : Spot P)
    (hspot : (run (step cfg) Sys.initial ops).db.getSpot spotId = some spot) :
    (spot.status ≠ .draft → ((run (step cfg) Sys.initial (ops ++ later)).db.getSpot spotId).isSome = true) ∧
    (∀ after, (run (step cfg) Sys.initial (ops ++ later)).db.getSpot spotId = some after → spot.BecomesLater after) ∧
    ((run (step cfg) Sys.initial (ops ++ later)).db.getSpot spotId = none →
      ∀ more, (run (step cfg) Sys.initial (ops ++ later ++ more)).db.getSpot spotId = none) := by
  have hkept := kept_run cfg ops
  have hlive := spotsLive_run cfg hkept later
  have hnumbered : spotId ≤ (run (step cfg) Sys.initial ops).db.spotSeq :=
    getSpot_id hspot ▸ hkept.numbered.spotFresh spot (List.mem_of_find?_eq_some hspot)
  refine ⟨?_, ?_, fun hnone more => ?_⟩
  · rw [run_append]
    exact hlive.stays spotId spot hspot
  · rw [run_append]
    exact fun after => hlive.lives spotId spot after hspot
  · rw [run_append]
    refine (spotsLive_run cfg (kept_run cfg (ops ++ later)) more).gone spotId ?_ hnone
    rw [run_append]
    exact hnumbered.trans hlive.spotSeq

/-- A draft of the user with id 1. -/
def draftCreated : Op Unit :=
  .createSpot 1 "NQ01 SPOT" {
    position := some (), maxTotalClaims := some 2, totalValue := some 50000000, endsAt := some 100000 }

/-- The Spot whose cancellation has begun stays published, or is cancelled; a deleted draft does not come back with the
next one. -/
theorem spots_live_marked : (∃ after : Spot Unit,
    (run (step Settings.depositShown) Sys.initial (untilMarked ++ [.resume 0 {}, .banSpot 1])).db.getSpot 1 =
      some after ∧ (after.status = .published ∨ after.status = .cancelled)) ∧
    (run (step Settings.depositShown) Sys.initial
      ([.tick 1000, .registerUser { id := 1, status := .active }, draftCreated] ++ [.deleteDraft 1 1] ++
        [draftCreated])).db.getSpot 1 = none := by
  constructor
  · have hmarked : ((run (step Settings.depositShown) Sys.initial untilMarked).db.getSpot 1).map
        (fun s => (s.status, s.cancellationStartedAt.isSome, s.prizeCount)) = some (.published, true, none) := by
      decide +kernel
    obtain ⟨spot, hspot, hterms⟩ := Option.map_eq_some_iff.mp hmarked
    obtain ⟨hstatus, hrest⟩ := Prod.mk.inj hterms
    obtain ⟨hmarker, hstandard⟩ := Prod.mk.inj hrest
    have hpublished : spot.status ≠ .draft := by
      rw [hstatus]
      nofun
    obtain ⟨hstays, hlives, -⟩ := spots_live Settings.depositShown untilMarked [.resume 0 {}, .banSpot 1] 1 spot hspot
    obtain ⟨after, hafter⟩ := Option.isSome_iff_exists.mp (hstays hpublished)
    refine ⟨after, hafter, ?_⟩
    rw [← hstatus]
    exact (hlives after hafter).closing ⟨hmarker, .inl hstandard⟩
  · have hdrafted : ((run (step Settings.depositShown) Sys.initial
        [.tick 1000, .registerUser { id := 1, status := .active }, draftCreated]).db.getSpot 1).isSome = true := by
      decide +kernel
    obtain ⟨spot, hspot⟩ := Option.isSome_iff_exists.mp hdrafted
    obtain ⟨-, -, hgone⟩ := spots_live Settings.depositShown
      [.tick 1000, .registerUser { id := 1, status := .active }, draftCreated] [.deleteDraft 1 1] 1 spot hspot
    exact hgone (Option.isNone_iff_eq_none.mp (by decide +kernel)) [draftCreated]

end Runs

end NimHunt
