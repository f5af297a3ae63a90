import NimHunt.XAutoPoster
import NimHunt.Proofs.SystemRuns

/-!
# One public post

A create-post request is sent only after `sending` is written, and only a rejection turns the row back into a retry, so
a request that may have made a post is the last one of its Spot.  Candidates lie behind a cursor that never stands
before the time posting was enabled.
-/

namespace NimHunt

open Lib Relation

variable {P : Type}

section Published

/-- A published Spot was published with the same columns before, or was a draft, or new. -/
structure PublishedKept (db db' : Db P) : Prop where
  held : SpotsHeld db db'
  clock : db.now ≤ db'.now
  published : ∀ id spot', db'.getSpot id = some spot' → spot'.status = .published →
    (∃ spot, db.getSpot id = some spot ∧ spot.status = .published ∧ Poster.watched spot' = Poster.watched spot) ∨
      ∀ spot, db.getSpot id = some spot → spot.status = .draft

variable {cfg : Settings P} {permit : Permit P} {db db' db'' : Db P}

lemma PublishedKept.refl (db : Db P) : PublishedKept db db where
  held := .of_eq rfl
  clock := le_refl _
  published _ spot' hspot' hpublished := .inl ⟨spot', hspot', hpublished, rfl⟩

lemma PublishedKept.then (h : PublishedKept db db') (h' : PublishedKept db' db'') : PublishedKept db db'' := by
  refine ⟨⟨?_, fun id hdrawn => h'.held.drawn id (h.held.drawn id hdrawn)⟩, h.clock.trans h'.clock, ?_⟩
  · intro id spot hspot hopen
    obtain ⟨spot', hspot', hopen', hduration⟩ := h.held.held id spot hspot hopen
    obtain ⟨spot'', hspot'', hopen'', hduration'⟩ := h'.held.held id spot' hspot' hopen'
    exact ⟨spot'', hspot'', hopen'', hduration'.trans hduration⟩
  · intro id spot'' hspot'' hpublished''
    cases h'.published id spot'' hspot'' hpublished'' with
    | inl hbefore =>
      obtain ⟨spot', hspot', hpublished', hsame'⟩ := hbefore
      cases h.published id spot' hspot' hpublished' with
      | inl hfirst =>
        obtain ⟨spot, hspot, hpublished, hsame⟩ := hfirst
        exact .inl ⟨spot, hspot, hpublished, hsame'.trans hsame⟩
      | inr hdraft => exact .inr hdraft
    | inr hdraft =>
      right
      intro spot hspot
      by_contra hopen
      obtain ⟨spot', hspot', hopen', -⟩ := h.held.held id spot hspot hopen
      exact hopen' (hdraft spot' hspot')

/-- Spots are rewritten, and a row that is published after it was so before, or was a draft. -/
lemma PublishedKept.update {sel : Spot P → Bool} {f : Spot P → Spot P} (hheld : SpotsHeld db db') (hclock : db.now ≤ db'.now)
    (hspots : db'.spots = updateWhere sel f db.spots) (hid : ∀ s, (f s).id = s.id)
    (hrow : ∀ s, db.getSpot s.id = some s → sel s = true → (f s).status = .published →
      s.status = .published ∧ Poster.watched (f s) = Poster.watched s ∨ s.status = .draft) : PublishedKept db db' := by
  refine ⟨hheld, hclock, ?_⟩
  intro id spot' hspot' hpublished
  unfold Db.getSpot at hspot'
  rw [hspots, find?_updateWhere_key hid, Option.map_eq_some_iff] at hspot'
  obtain ⟨s, hs, hnext⟩ := hspot'
  have hfound : db.getSpot s.id = some s := (getSpot_id hs).symm ▸ hs
  by_cases hsel : sel s = true
  · rw [if_pos hsel] at hnext
    rw [← hnext] at hpublished ⊢
    cases hrow s hfound hsel hpublished with
    | inl hkept => exact .inl ⟨s, hs, hkept.1, hkept.2⟩
    | inr hdraft => exact .inr fun spot hspot => Option.some.inj (hs.symm.trans hspot) ▸ hdraft
  · rw [if_neg hsel] at hnext
    rw [← hnext] at hpublished ⊢
    exact .inl ⟨s, hs, hpublished, rfl⟩

lemma PublishedKept.of_eq (hclock : db.now ≤ db'.now) (hspots : db'.spots = db.spots) : PublishedKept db db' := by
  refine ⟨.of_eq hspots, hclock, ?_⟩
  intro id spot' hspot' hpublished
  refine .inl ⟨spot', ?_, hpublished, rfl⟩
  unfold Db.getSpot at hspot' ⊢
  rw [← hspots]
  exact hspot'

lemma DbWrite.publishedKept (hwrite : DbWrite cfg permit db db') : PublishedKept db db' := by
  have hheld : SpotsHeld db db' := hwrite.spotsHeld
  cases hwrite with
  | claim hwrite => exact .of_eq hwrite.sameGround.now.ge hwrite.sameGround.spots
  | clock now hnow => exact .of_eq hnow rfl
  | @drafted spot hid hdraft _ _ =>
    refine ⟨hheld, le_refl _, ?_⟩
    intro id spot' hspot' hpublished
    unfold Db.getSpot at hspot' ⊢
    dsimp only at hspot'
    rw [List.find?_append] at hspot'
    cases hold : db.spots.find? fun s => s.id = id with
    | some s =>
      rw [hold] at hspot'
      have hsame : s = spot' := Option.some.inj hspot'
      exact .inl ⟨s, rfl, hsame ▸ hpublished, by rw [hsame]⟩
    | none =>
      rw [hold, Option.none_or] at hspot'
      exact .inr nofun
  | @edited spot next hspot hdraft hsame _ =>
    refine .update hheld (le_refl _) (edited_spots hsame.id db.spots) (fun _ => rfl) ?_
    intro s _ _ hpublished
    have hstatus : next.status = .draft := hsame.status.trans hdraft
    have hnext : next.status = .published := hpublished
    rw [hstatus] at hnext
    cases hnext
  | undrafted =>
    refine ⟨hheld, le_refl _, ?_⟩
    intro id spot' hspot' hpublished
    exact .inl ⟨spot', (getSpot_of_deleteSpot hspot').2, hpublished, rfl⟩
  | published =>
    refine .update hheld (le_refl _) rfl (fun _ => rfl) ?_
    exact fun s _ hsel _ => .inr (of_decide_eq_true hsel).2.1
  | marked =>
    refine .update hheld (le_refl _) rfl (fun _ => rfl) ?_
    exact fun s _ _ hpublished => .inl ⟨hpublished, rfl⟩
  | closed _ hcloses _ =>
    refine .update hheld (le_refl _) rfl (fun _ => rfl) ?_
    exact fun s _ _ hpublished => absurd hpublished hcloses.final.2
  | drawn =>
    refine .update hheld (le_refl _) rfl (fun _ => rfl) ?_
    exact fun s _ _ hpublished => nomatch hpublished
  | _ => exact .of_eq (le_refl _) rfl

lemma DbWrites.publishedKept (hwrites : DbWrites cfg permit db db') : PublishedKept db db' := by
  induction hwrites with
  | refl => exact .refl db
  | tail _ hwrite ih => exact ih.then hwrite.publishedKept

end Published

section Once

/-- A request for the Spot was sent and has not been rejected. -/
def Unanswered (spotId : ℕ) (log : List PostEvent) : Prop :=
  ∃ later earlier, log = later ++ .request spotId :: earlier ∧ .rejected spotId ∉ later

/-- Between two requests for one Spot, X has rejected the first. -/
def OnlyAfterRejection (log : List PostEvent) : Prop :=
  ∀ later between earlier spotId, log = later ++ .request spotId :: (between ++ .request spotId :: earlier) →
    .rejected spotId ∈ between

variable {s : Poster P} {settings : PosterSettings} {log : List PostEvent} {spotId id : ℕ}

lemma unanswered_request (h : Unanswered spotId (.request id :: log)) : id = spotId ∨ Unanswered spotId log := by
  obtain ⟨later, earlier, heq, hanswer⟩ := h
  cases later with
  | nil => exact .inl (PostEvent.request.inj (List.cons.inj heq).1)
  | cons event later =>
    exact .inr ⟨later, earlier, (List.cons.inj heq).2, fun hmem => hanswer (List.mem_cons_of_mem event hmem)⟩

lemma unanswered_rejected (h : Unanswered spotId (.rejected id :: log)) : id ≠ spotId ∧ Unanswered spotId log := by
  obtain ⟨later, earlier, heq, hanswer⟩ := h
  cases later with
  | nil => cases (List.cons.inj heq).1
  | cons event later =>
    have hevent : PostEvent.rejected id = event := (List.cons.inj heq).1
    refine ⟨?_, later, earlier, (List.cons.inj heq).2, fun hmem => hanswer (List.mem_cons_of_mem event hmem)⟩
    intro hsame
    rw [hsame] at hevent
    exact hanswer (hevent ▸ List.mem_cons_self)

lemma OnlyAfterRejection.request (h : OnlyAfterRejection log) (hid : ¬ Unanswered id log) :
    OnlyAfterRejection (.request id :: log) := by
  intro later between earlier spotId heq
  cases later with
  | nil =>
    obtain ⟨hevent, hlog⟩ := List.cons.inj heq
    have hsame : id = spotId := PostEvent.request.inj hevent
    by_contra hanswer
    exact hid ⟨between, earlier, hsame ▸ hlog, hsame ▸ hanswer⟩
  | cons event later => exact h later between earlier spotId (List.cons.inj heq).2

lemma OnlyAfterRejection.rejected (h : OnlyAfterRejection log) : OnlyAfterRejection (.rejected id :: log) := by
  intro later between earlier spotId heq
  cases later with
  | nil => cases (List.cons.inj heq).1
  | cons event later => exact h later between earlier spotId (List.cons.inj heq).2

lemma getState_setState (s : Poster P) (spotId : ℕ) (state : PostingState) (other : ℕ) :
    (s.setState spotId state).getState other = if other = spotId then some state else s.getState other := by
  have hkey : ∀ row : ℕ × PostingState, ((row.1, state) : ℕ × PostingState).1 = row.1 := fun _ => rfl
  unfold Poster.setState Poster.getState
  dsimp only
  by_cases hfound : (Option.map Prod.snd (s.states.find? fun row => decide (row.1 = spotId))).isSome = true
  · rw [if_pos hfound, find?_updateWhere_key hkey]
    by_cases hid : other = spotId
    · rw [if_pos hid, hid]
      cases hrow : s.states.find? fun row => decide (row.1 = spotId) with
      | none =>
        rw [hrow] at hfound
        cases hfound
      | some row =>
        have hfound := List.find?_some hrow
        dsimp only [Option.map]
        rw [if_pos hfound]
    · rw [if_neg hid]
      cases hrow : s.states.find? fun row => decide (row.1 = other) with
      | none => rfl
      | some row =>
        have hfound := List.find?_some hrow
        have hother : row.1 = other := of_decide_eq_true hfound
        dsimp only [Option.map]
        rw [if_neg fun hsame => hid (hother.symm.trans (of_decide_eq_true hsame))]
  · rw [if_neg hfound, List.find?_append]
    by_cases hid : other = spotId
    · rw [if_pos hid, hid]
      cases hrow : s.states.find? fun row => decide (row.1 = spotId) with
      | none => simp
      | some row =>
        rw [hrow] at hfound
        exact absurd rfl hfound
    · rw [if_neg hid]
      cases hrow : s.states.find? fun row => decide (row.1 = other) with
      | none => simp [Ne.symm hid]
      | some row => rfl

/-- Nothing is posted on this state any more. -/
def IsFinal (state : Option PostingState) : Prop := ∀ now, Poster.mayPost now state = false

/-- What a stage of a pass has seen to. -/
def Poster.StageReady (s : Poster P) : PassStage → Prop
  | .next => True
  | .prewarm spotId => ¬ Unanswered spotId s.log
  | .send spotId => ¬ Unanswered spotId s.log ∧ IsFinal (s.getState spotId)
  | .answer spotId => IsFinal (s.getState spotId)

structure Poster.Once (s : Poster P) : Prop where
  atMostOnce : OnlyAfterRejection s.log
  settled : ∀ spotId, Unanswered spotId s.log → IsFinal (s.getState spotId)
  ready : ∀ pass ∈ s.running, s.StageReady pass.stage

lemma isFinal_classify {response : XResponse} (now : ℕ) (h : ¬ response.isRejection = true) :
    IsFinal (some (classifyPostResponse settings response now)) := by
  intro later
  unfold classifyPostResponse
  dsimp only
  split_ifs <;> rfl

/-- Rows and log stay as they are. -/
lemma Poster.Once.congr {s' : Poster P} (h : s.Once) (hlog : s'.log = s.log) (hstates : s'.states = s.states)
    (hready : ∀ pass ∈ s'.running, s'.StageReady pass.stage) : s'.Once := by
  refine ⟨hlog ▸ h.atMostOnce, ?_, hready⟩
  intro spotId hsent
  unfold Poster.getState
  rw [hstates]
  exact h.settled spotId (hlog ▸ hsent)

lemma stageReady_congr {s' : Poster P} (hlog : s'.log = s.log) (hstates : s'.states = s.states) {stage : PassStage}
    (h : s.StageReady stage) : s'.StageReady stage := by
  have hget : ∀ spotId, s'.getState spotId = s.getState spotId := by
    intro spotId
    unfold Poster.getState
    rw [hstates]
  cases stage with
  | next => exact trivial
  | prewarm spotId =>
    change ¬ Unanswered spotId s'.log
    rw [hlog]
    exact h
  | send spotId =>
    change ¬ Unanswered spotId s'.log ∧ IsFinal (s'.getState spotId)
    rw [hlog, hget]
    exact h
  | answer spotId =>
    change IsFinal (s'.getState spotId)
    rw [hget]
    exact h

lemma Poster.Once.beginPass (h : s.Once) (hidle : s.running = none) : (s.beginPass settings).Once := by
  have hnone : ∀ s' : Poster P, s'.log = s.log → s'.states = s.states → s'.running = s.running → s'.Once := by
    intro s' hlog hstates hrunning
    refine h.congr hlog hstates ?_
    rw [hrunning, hidle]
    nofun
  unfold Poster.beginPass
  dsimp only
  split
  · refine h.congr rfl rfl ?_
    intro pass hpass
    rw [← Option.mem_some.mp hpass]
    exact trivial
  · exact hnone _ rfl rfl rfl

lemma Poster.Once.advance {pass : PosterPass} (h : s.Once) (hpass : s.running = some pass) (reply : PosterReply) :
    (s.advance settings pass reply).Once := by
  have hready : s.StageReady pass.stage := h.ready pass hpass
  unfold Poster.advance
  cases hstage : pass.stage with
  | next =>
    dsimp only
    cases pass.queue with
    | nil => exact h.congr rfl rfl nofun
    | cons spotId queue =>
      dsimp only
      split_ifs with hmay
      · refine h.congr rfl rfl ?_
        intro later hlater
        rw [← Option.mem_some.mp hlater]
        intro hsent
        rw [h.settled spotId hsent pass.now] at hmay
        cases hmay
      · refine h.congr rfl rfl ?_
        intro later hlater
        rw [← Option.mem_some.mp hlater]
        exact trivial
  | prewarm spotId =>
    rw [hstage] at hready
    have hfree : ¬ Unanswered spotId s.log := hready
    have hsettled : ∀ state other, Unanswered other s.log → IsFinal ((s.setState spotId state).getState other) := by
      intro state other hsent
      have hne : other ≠ spotId := fun hsame => hfree (hsame ▸ hsent)
      rw [getState_setState, if_neg hne]
      exact h.settled other hsent
    dsimp only
    split_ifs
    · refine ⟨h.atMostOnce, hsettled _, ?_⟩
      intro later hlater
      rw [← Option.mem_some.mp hlater]
      refine ⟨hfree, ?_⟩
      change IsFinal ((s.setState spotId (.sending pass.now)).getState spotId)
      rw [getState_setState, if_pos rfl]
      exact fun _ => rfl
    · refine ⟨h.atMostOnce, hsettled _, ?_⟩
      intro later hlater
      rw [← Option.mem_some.mp hlater]
      exact trivial
  | send spotId =>
    rw [hstage] at hready
    obtain ⟨hfree, hfinal⟩ := hready
    refine ⟨h.atMostOnce.request hfree, ?_, ?_⟩
    · intro other hsent
      cases unanswered_request hsent with
      | inl hsame => exact hsame ▸ hfinal
      | inr hbefore => exact h.settled other hbefore
    · intro later hlater
      rw [← Option.mem_some.mp hlater]
      exact hfinal
  | answer spotId =>
    have hnext : ∀ (s' : Poster P) (later : PosterPass), later ∈ some { pass with stage := .next } →
        s'.StageReady later.stage := by
      intro s' later hlater
      rw [← Option.mem_some.mp hlater]
      exact trivial
    have hsettled : ∀ state, IsFinal (some state) → ∀ other, Unanswered other s.log →
        IsFinal ((s.setState spotId state).getState other) := by
      intro state hfinal other hsent
      rw [getState_setState]
      split_ifs
      · exact hfinal
      · exact h.settled other hsent
    dsimp only
    cases reply.response with
    | none => exact ⟨h.atMostOnce, hsettled _ fun _ => rfl, hnext _⟩
    | some response =>
      dsimp only [Option.any]
      by_cases hrejected : response.isRejection = true
      · rw [if_pos hrejected]
        refine ⟨h.atMostOnce.rejected, ?_, hnext _⟩
        intro other hsent
        obtain ⟨hne, hbefore⟩ := unanswered_rejected hsent
        change IsFinal ((s.setState spotId _).getState other)
        rw [getState_setState, if_neg hne.symm]
        exact h.settled other hbefore
      · rw [if_neg hrejected]
        exact ⟨h.atMostOnce, hsettled _ (isFinal_classify pass.now hrejected), hnext _⟩

lemma Poster.Once.step [DecidableEq P] {cfg : Settings P} (h : s.Once) (op : PosterOp P) :
    (posterStep cfg settings s op).Once := by
  unfold posterStep
  cases op with
  | system op => exact h.congr rfl rfl fun pass hpass => stageReady_congr rfl rfl (h.ready pass hpass)
  | crash => exact h.congr rfl rfl nofun
  | pass allowed =>
    dsimp only
    cases hrunning : s.running with
    | some pass => exact h
    | none =>
      rw [if_neg nofun]
      split_ifs
      · exact h.beginPass hrunning
      · refine h.congr rfl rfl ?_
        change ∀ pass ∈ s.running, _
        rw [hrunning]
        nofun
  | advance reply =>
    dsimp only
    cases hrunning : s.running with
    | none => exact h
    | some pass => exact h.advance hrunning reply

end Once

section Timely

/-- Posting was on at this time. -/
def WasEnabled (periods : List (ℕ × Option ℕ)) (now time : ℕ) : Prop :=
  ∃ period ∈ periods, period.1 ≤ time ∧ time ≤ period.2.getD now

variable {s s' : Poster P} {settings : PosterSettings} {periods : List (ℕ × Option ℕ)} {now later time spotId : ℕ}

lemma WasEnabled.mono (h : WasEnabled periods now time) (hnow : now ≤ later) : WasEnabled periods later time := by
  obtain ⟨period, hmem, hstart, hend⟩ := h
  refine ⟨period, hmem, hstart, hend.trans ?_⟩
  cases period.2 with
  | none => exact hnow
  | some stopped => exact le_refl _

lemma WasEnabled.opened (h : WasEnabled periods now time) (period : ℕ × Option ℕ) :
    WasEnabled (period :: periods) now time := by
  obtain ⟨old, hmem, hold⟩ := h
  exact ⟨old, List.mem_cons_of_mem period hmem, hold⟩

lemma WasEnabled.closed (h : WasEnabled periods now time) : WasEnabled (Poster.closePeriod now periods) now time := by
  unfold Poster.closePeriod
  split
  · obtain ⟨period, hmem, hstart, hend⟩ := h
    cases List.mem_cons.mp hmem with
    | inl hhead =>
      rw [hhead] at hstart hend
      exact ⟨_, List.mem_cons_self, hstart, hend⟩
    | inr hrest => exact ⟨period, List.mem_cons_of_mem _ hrest, hstart, hend⟩
  · exact h

/-- The Spot became active while posting was on. -/
def Poster.ActiveInTime (s : Poster P) (spotId : ℕ) : Prop :=
  (∃ spot, s.sys.db.getSpot spotId = some spot ∧ spot.status ≠ .draft) ∧
    ∃ time, s.activatedAt spotId = some time ∧ WasEnabled s.enabledPeriods s.sys.db.now time

/-- The Spot a stage is about. -/
def PassStage.about : PassStage → Option ℕ
  | .next => none
  | .prewarm spotId | .send spotId | .answer spotId => some spotId

/-- The Spots of a pass, and the cursor it is going to write. -/
structure Poster.PassInTime (s : Poster P) (pass : PosterPass) : Prop where
  enabled : s.mode = some true
  queue : ∀ spotId ∈ pass.queue, s.ActiveInTime spotId
  current : ∀ spotId ∈ pass.stage.about, s.ActiveInTime spotId
  cursor : ∀ enabledAt rest, s.enabledPeriods = (enabledAt, none) :: rest → enabledAt ≤ pass.nextCursor.timestamp

structure Poster.InTime (s : Poster P) : Prop where
  kept : s.sys.Kept
  stamped : ∀ spotId spot, s.sys.db.getSpot spotId = some spot → spot.status = .published →
    s.activatedAt spotId = some (activationAt s.updatedAt spot) ∧ s.updatedAt spotId ≤ s.sys.db.now
  enabled : s.mode = some true → ∃ enabledAt rest cursor, s.enabledPeriods = (enabledAt, none) :: rest ∧
    s.cursor = some cursor ∧ enabledAt ≤ cursor.timestamp ∧ enabledAt ≤ s.sys.db.now
  running : ∀ pass ∈ s.running, s.PassInTime pass
  states : ∀ row ∈ s.states, s.ActiveInTime row.1
  log : ∀ spotId, .request spotId ∈ s.log → s.ActiveInTime spotId

lemma Poster.PassInTime.mono {pass : PosterPass} (h : s.PassInTime pass) (hmode : s'.mode = s.mode)
    (hperiods : s'.enabledPeriods = s.enabledPeriods) (hactive : ∀ spotId, s.ActiveInTime spotId → s'.ActiveInTime spotId) :
    s'.PassInTime pass where
  enabled := hmode.trans h.enabled
  queue spotId hmem := hactive spotId (h.queue spotId hmem)
  current spotId hmem := hactive spotId (h.current spotId hmem)
  cursor enabledAt rest hopen := h.cursor enabledAt rest (hperiods.symm.trans hopen)

lemma activationAt_congr {spot spot' : Spot P} {updatedAt updatedAt' : ℕ → ℕ}
    (hsame : Poster.watched spot' = Poster.watched spot) (hstamp : updatedAt' spot.id = updatedAt spot.id) :
    activationAt updatedAt' spot' = activationAt updatedAt spot := by
  have hstart : (Poster.watched spot').startsAt = (Poster.watched spot).startsAt := by rw [hsame]
  have hid : (Poster.watched spot').id = (Poster.watched spot).id := by rw [hsame]
  change spot'.startsAt = spot.startsAt at hstart
  change spot'.id = spot.id at hid
  unfold activationAt
  rw [hstart, hid, hstamp]

/-- An operation of the deployment moves no activation. -/
lemma Poster.InTime.observe [DecidableEq P] {sys : Sys P} (h : s.InTime) (hkept : sys.Kept)
    (hpublished : PublishedKept s.sys.db sys.db) : (s.observe sys).InTime := by
  have hactive : ∀ spotId, s.ActiveInTime spotId → (s.observe sys).ActiveInTime spotId := by
    rintro spotId ⟨⟨spot, hspot, hplaced⟩, time, htime, henabled⟩
    obtain ⟨spot', hspot', hplaced', -⟩ := hpublished.held.held spotId spot hspot hplaced
    refine ⟨⟨spot', hspot', hplaced'⟩, time, ?_, henabled.mono hpublished.clock⟩
    unfold Poster.observe
    dsimp only
    rw [hspot', hspot]
    dsimp only
    rw [if_neg, htime]
    rintro ⟨hopen, hclosed⟩
    have hbefore : spot.status ≠ .published := of_decide_eq_true hclosed
    cases hpublished.published spotId spot' hspot' hopen with
    | inl hold =>
      obtain ⟨found, hfound, hstatus, -⟩ := hold
      exact hbefore (Option.some.inj (hspot.symm.trans hfound) ▸ hstatus)
    | inr hdraft => exact hplaced (hdraft spot hspot)
  refine ⟨hkept, ?_, ?_, ?_, ?_, ?_⟩
  · intro spotId spot' hspot' hopen
    have hid' := getSpot_id hspot'
    have hafter : sys.db.getSpot spotId = some spot' := hspot'
    cases hpublished.published spotId spot' hspot' hopen with
    | inl hold =>
      obtain ⟨spot, hspot, hstatus, hsame⟩ := hold
      obtain ⟨hactivated, hupdated⟩ := h.stamped spotId spot hspot hstatus
      have hid := getSpot_id hspot
      have hwatched : (sys.db.getSpot spotId).map Poster.watched = (s.sys.db.getSpot spotId).map Poster.watched := by
        rw [hafter, hspot]
        exact congrArg some hsame
      have hstamp : (s.observe sys).updatedAt spotId = s.updatedAt spotId := if_pos hwatched
      refine ⟨?_, hstamp.le.trans (hupdated.trans hpublished.clock)⟩
      rw [activationAt_congr hsame (hid.symm ▸ hstamp), ← hactivated]
      unfold Poster.observe
      dsimp only
      rw [hafter, hspot]
      dsimp only
      rw [if_neg]
      rintro ⟨-, hclosed⟩
      exact of_decide_eq_true hclosed hstatus
    | inr hdraft =>
      -- The Spot has just been published.
      have hnew : (s.sys.db.getSpot spotId).all (fun before => before.status ≠ .published) = true := by
        cases hspot : s.sys.db.getSpot spotId with
        | none => rfl
        | some spot =>
          apply decide_eq_true
          rw [hdraft spot hspot]
          nofun
      have hstamp : (s.observe sys).updatedAt spotId = sys.db.now := by
        apply if_neg
        intro hsame
        rw [hafter] at hsame
        cases hspot : s.sys.db.getSpot spotId with
        | none =>
          rw [hspot] at hsame
          cases hsame
        | some spot =>
          rw [hspot] at hsame
          have hstatus : (Poster.watched spot').status = (Poster.watched spot).status := by rw [Option.some.inj hsame]
          change spot'.status = spot.status at hstatus
          rw [hopen, hdraft spot hspot] at hstatus
          cases hstatus
      refine ⟨?_, hstamp.le⟩
      unfold activationAt
      rw [hid', hstamp]
      unfold Poster.observe
      dsimp only
      rw [hafter]
      dsimp only
      rw [if_pos ⟨hopen, hnew⟩]
  · intro hmode
    obtain ⟨enabledAt, rest, cursor, hperiods, hcursor, hle, hnow⟩ := h.enabled hmode
    exact ⟨enabledAt, rest, cursor, hperiods, hcursor, hle, hnow.trans hpublished.clock⟩
  · exact fun pass hpass => (h.running pass hpass).mono rfl rfl hactive
  · exact fun row hrow => hactive row.1 (h.states row hrow)
  · exact fun spotId hsent => hactive spotId (h.log spotId hsent)

lemma mem_candidateSpots {db : Db P} {updatedAt : ℕ → ℕ} {cursor : ActivationCursor} {limit : ℕ} {spot : Spot P}
    (h : spot ∈ candidateSpots db updatedAt cursor now limit) :
    spot ∈ db.spots ∧ spot.isActiveAt now = true ∧ cursor.before updatedAt spot = true := by
  have hsorted := List.mem_of_mem_take h
  rw [List.mem_insertionSort, List.mem_filter, Bool.and_eq_true] at hsorted
  exact hsorted

lemma ActivationCursor.le_of_before {cursor : ActivationCursor} {updatedAt : ℕ → ℕ} {spot : Spot P}
    (h : cursor.before updatedAt spot = true) : cursor.timestamp ≤ activationAt updatedAt spot := by
  cases of_decide_eq_true h with
  | inl hlater => exact hlater.le
  | inr hsame => exact hsame.1.ge

lemma ActivationCursor.le_next {cursor : ActivationCursor} {updatedAt : ℕ → ℕ} {candidates : List (Spot P)}
    {remaining : ℕ} (hcursor : time ≤ cursor.timestamp) (hnow : time ≤ now)
    (hcandidates : ∀ spot ∈ candidates, time ≤ activationAt updatedAt spot) :
    time ≤ (cursor.next updatedAt candidates now remaining).timestamp := by
  unfold ActivationCursor.next
  cases hlast : candidates.getLast? with
  | none => split_ifs <;> assumption
  | some last =>
    have hlast := hcandidates last (List.mem_of_getLast? hlast)
    dsimp only
    split_ifs <;> assumption

/-- A due retry has a row. -/
lemma mem_dueRetrySpots {db : Db P} {states : List (ℕ × PostingState)} {limit : ℕ} {spot : Spot P}
    (h : spot ∈ dueRetrySpots db states now limit) : ∃ row ∈ states, row.1 = spot.id := by
  unfold dueRetrySpots at h
  dsimp only at h
  rw [List.mem_insertionSort, List.mem_filter] at h
  have hdue := List.mem_of_mem_take (of_decide_eq_true h.2).1
  obtain ⟨row, hrow, hid⟩ := List.mem_filterMap.mp hdue
  refine ⟨row, hrow, ?_⟩
  split at hid
  · split_ifs at hid
    exact Option.some.inj hid
  · cases hid

lemma Poster.InTime.beginPass (h : s.InTime) (hidle : s.running = none) : (s.beginPass settings).InTime := by
  unfold Poster.beginPass
  dsimp only
  split
  · next cursor hmode hcursor =>
    obtain ⟨enabledAt, rest, found, hperiods, hfound, hle, hnow⟩ := h.enabled hmode
    have hsame : cursor = found := Option.some.inj (hcursor.symm.trans hfound)
    subst hsame
    have hcandidate : ∀ limit, ∀ spot ∈ candidateSpots s.sys.db s.updatedAt cursor s.sys.db.now limit,
        s.ActiveInTime spot.id ∧ enabledAt ≤ activationAt s.updatedAt spot := by
      intro limit spot hspot
      obtain ⟨hmem, hactive, hbefore⟩ := mem_candidateSpots hspot
      obtain ⟨hpublished, -, -, hwindow⟩ := of_decide_eq_true hactive
      have hget : s.sys.db.getSpot spot.id = some spot :=
        (find?_key_eq_some h.kept.numbered.keyed.spotKeys).mpr ⟨hmem, rfl⟩
      obtain ⟨hactivated, hupdated⟩ := h.stamped spot.id spot hget hpublished
      have hafter := hle.trans (ActivationCursor.le_of_before hbefore)
      refine ⟨⟨⟨spot, hget, by rw [hpublished]; nofun⟩, _, hactivated, (enabledAt, none), ?_, hafter, ?_⟩, hafter⟩
      · rw [hperiods]
        exact List.mem_cons_self
      · refine max_le ?_ hupdated
        cases hstart : spot.startsAt with
        | none => exact Nat.zero_le _
        | some startsAt =>
          rw [hstart] at hwindow
          exact (of_decide_eq_true hwindow).1
    refine ⟨h.kept, h.stamped, h.enabled, ?_, h.states, h.log⟩
    intro pass hpass
    rw [← Option.mem_some.mp hpass]
    refine ⟨hmode, ?_, nofun, ?_⟩
    · intro spotId hqueued
      cases List.mem_append.mp hqueued with
      | inl hretry =>
        obtain ⟨spot, hspot, hid⟩ := List.mem_map.mp hretry
        obtain ⟨row, hrow, hof⟩ := mem_dueRetrySpots hspot
        exact hid ▸ hof ▸ h.states row hrow
      | inr hcandidates =>
        obtain ⟨spot, hspot, hid⟩ := List.mem_map.mp (List.mem_filter.mp hcandidates).1
        split_ifs at hspot
        · cases hspot
        · exact hid ▸ (hcandidate _ spot hspot).1
    · intro other others hopen
      have hother : enabledAt = other := (Prod.mk.inj (List.cons.inj (hperiods.symm.trans hopen)).1).1
      rw [← hother]
      refine ActivationCursor.le_next hle hnow fun spot hspot => ?_
      split_ifs at hspot
      · cases hspot
      · exact (hcandidate _ spot hspot).2
  · have hactive : ∀ spotId, s.ActiveInTime spotId → Poster.ActiveInTime { s with
        mode := some true, cursor := some { timestamp := s.sys.db.now }
        enabledPeriods := (s.sys.db.now, none) :: s.enabledPeriods } spotId := by
      rintro spotId ⟨hplaced, time, htime, henabled⟩
      exact ⟨hplaced, time, htime, henabled.opened _⟩
    refine ⟨h.kept, h.stamped, ?_, ?_, fun row hrow => hactive row.1 (h.states row hrow),
      fun spotId hsent => hactive spotId (h.log spotId hsent)⟩
    · exact fun _ => ⟨s.sys.db.now, s.enabledPeriods, _, rfl, rfl, le_refl _, le_refl _⟩
    · change ∀ pass ∈ s.running, _
      rw [hidle]
      nofun

lemma Poster.InTime.prepareDisabledMode (h : s.InTime) (hidle : s.running = none) : s.prepareDisabledMode.InTime := by
  have hactive : ∀ spotId, s.ActiveInTime spotId → s.prepareDisabledMode.ActiveInTime spotId := by
    rintro spotId ⟨hplaced, time, htime, henabled⟩
    exact ⟨hplaced, time, htime, henabled.closed⟩
  refine ⟨h.kept, h.stamped, nofun, ?_, fun row hrow => hactive row.1 (h.states row hrow),
    fun spotId hsent => hactive spotId (h.log spotId hsent)⟩
  change ∀ pass ∈ s.running, _
  rw [hidle]
  nofun

/-- A row that is written belongs to the Spot the pass is about. -/
lemma mem_setState {state : PostingState} {row : ℕ × PostingState} (h : row ∈ (s.setState spotId state).states) :
    (∃ before ∈ s.states, before.1 = row.1) ∨ row.1 = spotId := by
  unfold Poster.setState at h
  dsimp only at h
  split_ifs at h
  · obtain ⟨before, hbefore, hrow⟩ := mem_updateWhere.mp h
    left
    refine ⟨before, hbefore, ?_⟩
    split_ifs at hrow <;> rw [← hrow]
  · cases List.mem_append.mp h with
    | inl hold => exact .inl ⟨row, hold, rfl⟩
    | inr hnew => exact .inr (by rw [List.mem_singleton.mp hnew])

lemma Poster.InTime.advance {pass : PosterPass} (h : s.InTime) (hpass : s.running = some pass) (reply : PosterReply) :
    (s.advance settings pass reply).InTime := by
  obtain ⟨hmode, hqueue, hcurrent, hcursor⟩ := h.running pass hpass
  have hwritten : ∀ state spotId, s.ActiveInTime spotId → ∀ row ∈ (s.setState spotId state).states,
      s.ActiveInTime row.1 := by
    intro state spotId hactive row hrow
    cases mem_setState hrow with
    | inl hold =>
      obtain ⟨before, hbefore, hid⟩ := hold
      exact hid ▸ h.states before hbefore
    | inr hnew => exact hnew ▸ hactive
  unfold Poster.advance
  cases hstage : pass.stage with
  | next =>
    dsimp only
    cases hleft : pass.queue with
    | nil =>
      refine ⟨h.kept, h.stamped, ?_, nofun, h.states, h.log⟩
      intro _
      obtain ⟨enabledAt, rest, cursor, hperiods, -, -, hnow⟩ := h.enabled hmode
      exact ⟨enabledAt, rest, pass.nextCursor, hperiods, rfl, hcursor enabledAt rest hperiods, hnow⟩
    | cons spotId queue =>
      rw [hleft] at hqueue
      have hrest : ∀ other ∈ queue, s.ActiveInTime other := fun other hother =>
        hqueue other (List.mem_cons_of_mem spotId hother)
      dsimp only
      split_ifs
      · refine ⟨h.kept, h.stamped, h.enabled, ?_, h.states, h.log⟩
        intro next hnext
        rw [← Option.mem_some.mp hnext]
        refine ⟨hmode, hrest, ?_, hcursor⟩
        intro other hother
        rw [← Option.mem_some.mp hother]
        exact hqueue spotId List.mem_cons_self
      · refine ⟨h.kept, h.stamped, h.enabled, ?_, h.states, h.log⟩
        intro next hnext
        rw [← Option.mem_some.mp hnext]
        rw [hstage] at hcurrent
        exact ⟨hmode, hrest, hcurrent, hcursor⟩
  | prewarm spotId =>
    rw [hstage] at hcurrent
    have hactive := hcurrent spotId rfl
    dsimp only
    split_ifs
    · refine ⟨h.kept, h.stamped, h.enabled, ?_, hwritten _ spotId hactive, h.log⟩
      intro next hnext
      rw [← Option.mem_some.mp hnext]
      exact ⟨hmode, hqueue, hcurrent, hcursor⟩
    · refine ⟨h.kept, h.stamped, h.enabled, ?_, hwritten _ spotId hactive, h.log⟩
      intro next hnext
      rw [← Option.mem_some.mp hnext]
      exact ⟨hmode, hqueue, nofun, hcursor⟩
  | send spotId =>
    rw [hstage] at hcurrent
    refine ⟨h.kept, h.stamped, h.enabled, ?_, h.states, ?_⟩
    · intro next hnext
      rw [← Option.mem_some.mp hnext]
      exact ⟨hmode, hqueue, hcurrent, hcursor⟩
    · intro other hsent
      cases List.mem_cons.mp hsent with
      | inl hnew => exact PostEvent.request.inj hnew ▸ hcurrent spotId rfl
      | inr hold => exact h.log other hold
  | answer spotId =>
    rw [hstage] at hcurrent
    have hactive := hcurrent spotId rfl
    dsimp only
    refine ⟨h.kept, h.stamped, h.enabled, ?_, hwritten _ spotId hactive, ?_⟩
    · intro next hnext
      rw [← Option.mem_some.mp hnext]
      exact ⟨hmode, hqueue, nofun, hcursor⟩
    · intro other hsent
      dsimp only at hsent
      split_ifs at hsent
      · cases List.mem_cons.mp hsent with
        | inl hnew => cases hnew
        | inr hold => exact h.log other hold
      · exact h.log other hsent

lemma Poster.InTime.step [DecidableEq P] {cfg : Settings P} (h : s.InTime) (op : PosterOp P) :
    (posterStep cfg settings s op).InTime := by
  unfold posterStep
  cases op with
  | system op =>
    obtain ⟨hwrites, hkept⟩ := step_writes h.kept (admitted_all op)
    exact h.observe hkept hwrites.publishedKept
  | crash => exact ⟨h.kept, h.stamped, h.enabled, nofun, h.states, h.log⟩
  | pass allowed =>
    dsimp only
    cases hrunning : s.running with
    | some pass => exact h
    | none =>
      rw [if_neg nofun]
      split_ifs
      · exact h.beginPass hrunning
      · exact h.prepareDisabledMode hrunning
  | advance reply =>
    dsimp only
    cases hrunning : s.running with
    | none => exact h
    | some pass => exact h.advance hrunning reply

end Timely

section Posting

/-- A Spot is asked for again only after a rejection, and only Spots that became active while posting was on are. -/
structure PostsOnce (s : Poster P) : Prop where
  atMostOnce : OnlyAfterRejection s.log
  inTime : ∀ spotId, .request spotId ∈ s.log → ∃ time, s.activatedAt spotId = some time ∧
    WasEnabled s.enabledPeriods s.sys.db.now time

theorem automatic_posting_at_most_once [DecidableEq P] (cfg : Settings P) (settings : PosterSettings)
    (ops : List (PosterOp P)) : PostsOnce (run (posterStep cfg settings) Poster.initial ops) := by
  have hpreserved : ∀ (s : Poster P) (op : PosterOp P), True → s.Once ∧ s.InTime →
      (posterStep cfg settings s op).Once ∧ (posterStep cfg settings s op).InTime := fun _ op _ h =>
    ⟨h.1.step op, h.2.step op⟩
  have honce : (Poster.initial : Poster P).Once := by
    refine ⟨?_, ?_, nofun⟩
    · intro later between earlier spotId hlog
      exact absurd hlog (by cases later <;> nofun)
    · rintro spotId ⟨later, earlier, hlog, -⟩
      exact absurd hlog (by cases later <;> nofun)
  have hinTime : (Poster.initial : Poster P).InTime := ⟨kept_initial, nofun, nofun, nofun, nofun, nofun⟩
  have hrun := run_invariant hpreserved (admissible_true Poster.initial ops) ⟨honce, hinTime⟩
  exact ⟨hrun.1.atMostOnce, fun spotId hsent => (hrun.2.log spotId hsent).2⟩

end Posting

end NimHunt
