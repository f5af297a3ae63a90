import NimHunt.FreshClaimGuard
import NimHunt.Proofs.MercyRule

/-!
# One bad GPS fix

Either the anchor is where the user was, and only the bad fix contradicts it; or the bad fix is the anchor, and the
first true observation that contradicts it becomes the suspicious point, which every later true observation agrees
with.
-/

namespace NimHunt

open Lib

variable {P : Type} {cfg : FreshGuardSettings P} {path : ℕ → P}

def maxPathSpeedMetresPerSecond : ℚ := 70
def maxRoundingMetres : ℚ := 100

/-- A fix within the rounding of where the user was. -/
def GpsFix.Tracks (cfg : FreshGuardSettings P) (path : ℕ → P) (fix : GpsFix P) : Prop :=
  cfg.distanceMetres fix.position (path fix.observedAt) ≤ maxRoundingMetres

/-- What the path and the rounding are taken to be. -/
structure TravelModel (cfg : FreshGuardSettings P) (path : ℕ → P) : Prop where
  distance : IsDistance cfg.distanceMetres
  speed : NoFasterThan cfg.distanceMetres maxPathSpeedMetresPerSecond path
  rounding : ∀ p, cfg.distanceMetres (cfg.rounded p) p ≤ maxRoundingMetres

section Contradictions

variable {fix : GpsFix P} {now : ℕ}

/-- A fix that tracks the path is not contradicted from the path. -/
lemma GpsFix.Tracks.agrees (hmodel : TravelModel cfg path) (htracks : fix.Tracks cfg path)
    (horder : fix.observedAt ≤ now) : fix.contradicts cfg.toSettings (path now) now = false := by
  have htravel := hmodel.speed fix.observedAt now horder
  have htriangle := hmodel.distance.triangle fix.position (path fix.observedAt) (path now)
  unfold GpsFix.Tracks at htracks
  unfold GpsFix.contradicts
  dsimp only
  generalize cfg.distanceMetres fix.position (path now) = distance at htriangle ⊢
  apply decide_eq_false
  rintro ⟨hfar, hfast⟩
  have hpositive : (0 : ℚ) < ((max 1 (now - fix.observedAt) : ℕ) : ℚ) := by
    exact_mod_cast Nat.lt_of_lt_of_le Nat.zero_lt_one (le_max_left 1 (now - fix.observedAt))
  have helapsed : ((now - fix.observedAt : ℕ) : ℚ) ≤ ((max 1 (now - fix.observedAt) : ℕ) : ℚ) := by
    exact_mod_cast le_max_right 1 (now - fix.observedAt)
  rw [lt_div_iff₀ hpositive] at hfast
  unfold claimSameIpGpsMinDistanceMetres at hfar
  unfold claimSameIpGpsMaxSpeedMetresPerSecond at hfast
  unfold maxPathSpeedMetresPerSecond at htravel
  unfold maxRoundingMetres at htracks
  linarith

/-- An observation made on the path, as it is stored. -/
lemma TravelModel.tracks_fix (hmodel : TravelModel cfg path) {o : GpsObservation P} (hon : o.position = path o.now) :
    (o.fix cfg).Tracks cfg path := by
  have hround := hmodel.rounding o.position
  rw [hon] at hround
  change cfg.distanceMetres (cfg.rounded o.position) (path o.now) ≤ maxRoundingMetres
  rw [hon]
  exact hround

end Contradictions

namespace GpsRecord

section Lemmas

variable (r : GpsRecord P) (o : GpsObservation P) (inside : Bool) (now : ℕ)

@[simp] lemma classified_last : (r.classified inside now).last = r.last := by
  unfold classified
  split_ifs <;> rfl

@[simp] lemma classified_pendingSuspicious : (r.classified inside now).pendingSuspicious = r.pendingSuspicious := by
  unfold classified
  split_ifs <;> rfl

@[simp] lemma classified_count : (r.classified inside now).sameIpContradictionCount = r.sameIpContradictionCount := by
  unfold classified
  split_ifs <;> rfl

@[simp] lemma classified_restrictedUntil : (r.classified inside now).restrictedUntil = r.restrictedUntil := by
  unfold classified
  split_ifs <;> rfl

@[simp] lemma classified_anchor : (r.classified inside now).anchor = r.anchor := by simp [anchor]

@[simp] lemma classified_suspicious : (r.classified inside now).suspicious = r.suspicious := by simp [suspicious]

lemma classified_isSome : (r.classified inside now).firstObservedAt.isSome = true := by
  unfold classified
  by_cases h : r.firstObservedAt.isSome = true
  · rw [if_pos h]
    exact h
  · rw [if_neg h]
    rfl

@[simp] lemma dropSuspicious_anchor : r.dropSuspicious.anchor = r.anchor := rfl

@[simp] lemma dropSuspicious_suspicious : r.dropSuspicious.suspicious = none := rfl

end Lemmas

variable {r r' : GpsRecord P} {o : GpsObservation P}

/-- A second point of the same address, away from everything the record holds of it. -/
lemma evidence_contradiction (h : r.evidence cfg o = .contradiction) :
    ∃ fix, r.anchor = some fix ∧ fix.ipHash = o.ipHash cfg ∧ fix.observedAt ≤ o.now ∧
      fix.contradicts cfg.toSettings o.position o.now = true ∧
      ∀ suspect, r.suspicious = some suspect → suspect.contradicts cfg.toSettings o.position o.now = true := by
  unfold evidence at h
  cases hanchor : r.anchor with
  | none =>
    rw [hanchor] at h
    cases h
  | some fix =>
    rw [hanchor] at h
    dsimp only at h
    by_cases hsame : (o.ipHash cfg).isSome = true ∧ fix.ipHash = o.ipHash cfg ∧ fix.observedAt ≤ o.now
    · rw [if_pos hsame] at h
      refine ⟨fix, rfl, hsame.2.1, hsame.2.2, ?_⟩
      cases hsuspicious : r.suspicious with
      | none =>
        rw [hsuspicious] at h
        dsimp only at h
        by_cases hfix : fix.contradicts cfg.toSettings o.position o.now = true
        · exact ⟨hfix, fun suspect hsuspect => nomatch hsuspect⟩
        · rw [if_neg hfix] at h
          cases h
      | some suspect =>
        rw [hsuspicious] at h
        dsimp only at h
        by_cases hfix : fix.contradicts cfg.toSettings o.position o.now = false
        · rw [if_pos hfix] at h
          cases h
        rw [if_neg hfix] at h
        by_cases hsuspect : suspect.contradicts cfg.toSettings o.position o.now = true
        · refine ⟨Bool.of_not_eq_false hfix, ?_⟩
          intro other hother
          rw [← Option.some.inj hother]
          exact hsuspect
        · rw [if_neg hsuspect] at h
          cases h
    · rw [if_neg hsame] at h
      cases h

/-- A first contradiction of a user first seen outside restricts nothing. -/
lemma contradicted_first (hcount : r.sameIpContradictionCount = 0) (hinside : r.firstInsidePublicSpot = false)
    (hsuspicious : r.suspicious = none) :
    r.contradicted cfg o = { r with
      sameIpContradictionCount := 1
      lastContradictionAt := some o.now
      pendingSuspicious := some (o.fix cfg) } := by
  unfold contradicted restricts
  simp [hcount, hinside, hsuspicious]

lemma reanchored_last (hclock : ∀ fix, r.anchor = some fix → fix.observedAt ≤ o.now) :
    r.reanchored cfg o = { r with last := some (o.fix cfg) } := by
  unfold reanchored
  cases hanchor : r.anchor with
  | none => rfl
  | some fix =>
    apply if_neg
    have hle := hclock fix hanchor
    simp only [Option.any_some, decide_eq_true_eq]
    omega

/-- The counters and restrictions of two records agree, and so do their points. -/
structure Alike (r r' : GpsRecord P) : Prop where
  last : r'.last = r.last
  pendingSuspicious : r'.pendingSuspicious = r.pendingSuspicious
  count : r'.sameIpContradictionCount = r.sameIpContradictionCount
  restrictedUntil : r'.restrictedUntil = r.restrictedUntil

/-- The observation became the anchor; the suspicious point was dropped or left. -/
structure Moved (cfg : FreshGuardSettings P) (o : GpsObservation P) (r r' : GpsRecord P) : Prop where
  last : r'.last = some (o.fix cfg)
  pendingSuspicious : r'.pendingSuspicious = none ∨ r'.pendingSuspicious = r.pendingSuspicious
  count : r'.sameIpContradictionCount = r.sameIpContradictionCount
  restrictedUntil : r'.restrictedUntil = r.restrictedUntil

lemma Alike.anchor (h : Alike r r') : r'.anchor = r.anchor := by
  unfold GpsRecord.anchor
  rw [h.last]

lemma Alike.suspicious (h : Alike r r') : r'.suspicious = r.suspicious := by
  unfold GpsRecord.suspicious
  rw [h.pendingSuspicious]

lemma Moved.suspicious (h : Moved cfg o r r') : r'.suspicious = none ∨ r'.suspicious = r.suspicious := by
  unfold GpsRecord.suspicious
  cases h.pendingSuspicious with
  | inl hnone => exact .inl (by rw [hnone]; rfl)
  | inr hsame => exact .inr (by rw [hsame])

lemma forAddress_anchor : (r.forAddress cfg o).anchor = r.anchor := by
  unfold forAddress
  split_ifs <;> rfl

lemma forAddress_suspicious : (r.forAddress cfg o).suspicious = none ∨ (r.forAddress cfg o).suspicious = r.suspicious := by
  unfold forAddress
  split_ifs
  · exact .inl rfl
  · exact .inr rfl

end GpsRecord

open GpsRecord

section Observation

variable {r r' : GpsRecord P} {o : GpsObservation P} {db : Db P} {userId : ℕ} {stored : Option (GpsRecord P)}

/-- An observation that is not older than the anchor leaves the record, becomes the anchor, or contradicts. -/
lemma recordGpsObservation_cases (hclock : ∀ fix, (stored.getD {}).anchor = some fix → fix.observedAt ≤ o.now) :
    Alike (stored.getD {}) (recordGpsObservation cfg db userId stored o).record ∨
    Moved cfg o (stored.getD {}) (recordGpsObservation cfg db userId stored o).record ∨
    ∃ inside, (((stored.getD {}).classified inside o.now).forAddress cfg o).evidence cfg o = .contradiction ∧
      (recordGpsObservation cfg db userId stored o).record =
        (((stored.getD {}).classified inside o.now).forAddress cfg o).contradicted cfg o ∧
      inside = insideActivePublicSpot cfg.toSettings db userId o.position := by
  generalize hinside : insideActivePublicSpot cfg.toSettings db userId o.position = inside
  generalize hknown : (stored.getD {}).classified inside o.now = known
  have hlast : known.last = (stored.getD {}).last := by rw [← hknown, classified_last]
  have hpending : known.pendingSuspicious = (stored.getD {}).pendingSuspicious := by
    rw [← hknown, classified_pendingSuspicious]
  have hcount : known.sameIpContradictionCount = (stored.getD {}).sameIpContradictionCount := by
    rw [← hknown, classified_count]
  have huntil : known.restrictedUntil = (stored.getD {}).restrictedUntil := by
    rw [← hknown, classified_restrictedUntil]
  have hanchor : (known.forAddress cfg o).anchor = (stored.getD {}).anchor := by
    rw [forAddress_anchor, ← hknown, classified_anchor]
  -- What is stored back without a change of anchor is the record that was read, or the first record.
  have hkept : known.changesIp cfg o = false →
      Alike (stored.getD {}) (stored.getD (known.forAddress cfg o)) := by
    intro hsame
    unfold forAddress
    rw [hsame]
    cases stored with
    | none => exact ⟨hlast, hpending, hcount, huntil⟩
    | some r => exact ⟨rfl, rfl, rfl, rfl⟩
  have hfields : (known.forAddress cfg o).sameIpContradictionCount = (stored.getD {}).sameIpContradictionCount ∧
      (known.forAddress cfg o).restrictedUntil = (stored.getD {}).restrictedUntil ∧
      ((known.forAddress cfg o).pendingSuspicious = none ∨
        (known.forAddress cfg o).pendingSuspicious = (stored.getD {}).pendingSuspicious) := by
    unfold forAddress
    split_ifs
    · exact ⟨hcount, huntil, .inl rfl⟩
    · exact ⟨hcount, huntil, .inr hpending⟩
  unfold recordGpsObservation
  dsimp only
  rw [hinside, hknown]
  cases hevidence : (known.forAddress cfg o).evidence cfg o with
  | nothing =>
    dsimp only
    by_cases hrefresh : known.changesIp cfg o = true ∨ (known.forAddress cfg o).shouldRefresh cfg o = true
    · rw [if_pos hrefresh, reanchored_last (by rw [hanchor]; exact hclock)]
      exact .inr (.inl ⟨rfl, hfields.2.2, hfields.1, hfields.2.1⟩)
    · rw [if_neg hrefresh]
      have hsame : known.changesIp cfg o = false := Bool.eq_false_iff.mpr fun h => hrefresh (.inl h)
      exact .inl (hkept hsame)
  | returned =>
    dsimp only
    rw [reanchored_last (by rw [dropSuspicious_anchor, hanchor]; exact hclock)]
    exact .inr (.inl ⟨rfl, .inl rfl, hfields.1, hfields.2.1⟩)
  | continuation =>
    dsimp only
    -- There is a suspicious point to be near to, so it belongs to this address.
    refine .inl (hkept ?_)
    by_contra hchanged
    have hdropped : known.forAddress cfg o = known.dropSuspicious := if_pos (Bool.of_not_eq_false hchanged)
    rw [hdropped] at hevidence
    unfold evidence at hevidence
    cases hfix : known.dropSuspicious.anchor with
    | none =>
      rw [hfix] at hevidence
      cases hevidence
    | some fix =>
      rw [hfix] at hevidence
      dsimp only [dropSuspicious_suspicious] at hevidence
      split_ifs at hevidence
  | contradiction =>
    exact .inr (.inr ⟨inside, by rw [hknown]; exact hevidence, by rw [hknown], rfl⟩)

end Observation

namespace GpsRecord

/-- The user was first seen outside every public reward of others. -/
def Outside (r : GpsRecord P) : Prop := r.firstObservedAt.isSome = true ∧ r.firstInsidePublicSpot = false

variable {r : GpsRecord P} {o : GpsObservation P}

lemma Outside.forAddress (h : r.Outside) : (r.forAddress cfg o).Outside := by
  unfold GpsRecord.forAddress
  split_ifs
  · exact ⟨h.1, h.2⟩
  · exact h

lemma Outside.reanchored (h : r.Outside) : (r.reanchored cfg o).Outside := by
  unfold GpsRecord.reanchored
  split_ifs
  · exact h
  · exact ⟨h.1, h.2⟩

lemma Outside.contradicted (h : r.Outside) : (r.contradicted cfg o).Outside := by
  unfold GpsRecord.contradicted
  dsimp only
  split_ifs
  all_goals exact ⟨h.1, h.2⟩

end GpsRecord

section Observation

variable {o : GpsObservation P} {db : Db P} {userId : ℕ} {stored : Option (GpsRecord P)}

/-- The first observation freezes the classification. -/
lemma classified_outside
    (hfirst : stored = none → insideActivePublicSpot cfg.toSettings db userId o.position = false)
    (houtside : ∀ r, stored = some r → r.Outside) :
    ((stored.getD {}).classified (insideActivePublicSpot cfg.toSettings db userId o.position) o.now).Outside := by
  cases stored with
  | none => exact ⟨rfl, hfirst rfl⟩
  | some r =>
    have hr := houtside r rfl
    refine ⟨classified_isSome .., ?_⟩
    unfold classified
    rw [Option.getD_some, if_pos hr.1]
    exact hr.2

lemma recordGpsObservation_outside
    (hfirst : stored = none → insideActivePublicSpot cfg.toSettings db userId o.position = false)
    (houtside : ∀ r, stored = some r → r.Outside) : (recordGpsObservation cfg db userId stored o).record.Outside := by
  have hknown := classified_outside hfirst houtside
  unfold recordGpsObservation
  dsimp only
  generalize (stored.getD {}).classified (insideActivePublicSpot cfg.toSettings db userId o.position) o.now = known
    at hknown ⊢
  have hstored : (stored.getD (known.forAddress cfg o)).Outside := by
    cases stored with
    | none => exact hknown.forAddress
    | some r => exact houtside r rfl
  cases (known.forAddress cfg o).evidence cfg o with
  | nothing =>
    dsimp only
    split_ifs
    · exact hknown.forAddress.reanchored
    · exact hstored
  | returned => exact Outside.reanchored ⟨hknown.forAddress.1, hknown.forAddress.2⟩
  | continuation => exact hstored
  | contradiction => exact hknown.forAddress.contradicted

end Observation

section Phases

/-- How a record stands to the path; `spent` says that the bad fix has been seen. -/
inductive GpsPhase (cfg : FreshGuardSettings P) (path : ℕ → P) : Bool → GpsRecord P → Prop
  /-- The anchor is where the user was. -/
  | grounded {spent : Bool} {r : GpsRecord P} (anchor : ∀ fix, r.anchor = some fix → fix.Tracks cfg path)
      (count : r.sameIpContradictionCount ≤ if spent then 1 else 0) (fresh : spent = false → r.suspicious = none) :
      GpsPhase cfg path spent r
  /-- The bad fix may be the anchor, and nothing has contradicted it. -/
  | displaced {r : GpsRecord P} (suspicious : r.suspicious = none) (count : r.sameIpContradictionCount = 0) :
      GpsPhase cfg path true r
  /-- The bad fix may be the anchor, and a true observation of its address is the suspicious point. -/
  | returning {r : GpsRecord P} {suspect : GpsFix P} (suspicious : r.suspicious = some suspect)
      (tracks : suspect.Tracks cfg path) (address : ∀ fix, r.anchor = some fix → fix.ipHash = suspect.ipHash)
      (count : r.sameIpContradictionCount ≤ 1) : GpsPhase cfg path true r

/-- No point of the record is later than the clock. -/
def GpsRecord.Before (r : GpsRecord P) (clock : ℕ) : Prop :=
  ∀ fix, r.anchor = some fix ∨ r.suspicious = some fix → fix.observedAt ≤ clock

/-- No restriction, and nothing stored is later than the clock. -/
structure GpsCleared (cfg : FreshGuardSettings P) (path : ℕ → P) (spent : Bool) (clock : ℕ)
    (stored : Option (GpsRecord P)) : Prop where
  outside : ∀ r, stored = some r → r.Outside
  unrestricted : (stored.getD {}).restrictedUntil = 0
  before : (stored.getD {}).Before clock
  phase : GpsPhase cfg path spent (stored.getD {})

variable {spent : Bool} {r r' : GpsRecord P} {o : GpsObservation P}

lemma GpsPhase.count_le (h : GpsPhase cfg path spent r) : r.sameIpContradictionCount ≤ 1 := by
  cases h with
  | grounded _ count _ => exact count.trans (by cases spent <;> decide)
  | displaced _ count => omega
  | returning _ _ _ count => exact count

lemma GpsPhase.spend (h : GpsPhase cfg path spent r) : GpsPhase cfg path true r := by
  cases h with
  | grounded anchor count fresh =>
    exact .grounded anchor (count.trans (by cases spent <;> decide)) fun h => nomatch h
  | displaced suspicious count => exact .displaced suspicious count
  | returning suspicious tracks address count => exact .returning suspicious tracks address count

lemma GpsPhase.alike (h : GpsPhase cfg path spent r) (halike : Alike r r') : GpsPhase cfg path spent r' := by
  have hanchor := halike.anchor
  have hsuspicious := halike.suspicious
  have hcount := halike.count
  cases h with
  | grounded anchor count fresh =>
    exact .grounded (by rw [hanchor]; exact anchor) (by rw [hcount]; exact count) (by rw [hsuspicious]; exact fresh)
  | displaced suspicious count => exact .displaced (by rw [hsuspicious]; exact suspicious) (by rw [hcount]; exact count)
  | returning suspicious tracks address count =>
    exact .returning (by rw [hsuspicious]; exact suspicious) tracks (by rw [hanchor]; exact address)
      (by rw [hcount]; exact count)

lemma GpsRecord.Moved.anchor (h : Moved cfg o r r') {fix : GpsFix P} (hfix : r'.anchor = some fix) : fix = o.fix cfg := by
  unfold GpsRecord.anchor at hfix
  rw [h.last] at hfix
  exact (Option.some.inj (Option.eq_some_of_filter_eq_some hfix)).symm

/-- A true observation that becomes the anchor grounds the record. -/
lemma GpsPhase.moved (h : GpsPhase cfg path spent r) (hmodel : TravelModel cfg path) (hon : o.position = path o.now)
    (hmoved : Moved cfg o r r') : GpsPhase cfg path spent r' := by
  have htracks : ∀ fix, r'.anchor = some fix → fix.Tracks cfg path := by
    intro fix hfix
    rw [hmoved.anchor hfix]
    exact hmodel.tracks_fix hon
  have hcount := hmoved.count
  cases h with
  | grounded anchor count fresh =>
    refine .grounded htracks (by rw [hcount]; exact count) ?_
    intro hspent
    cases hmoved.suspicious with
    | inl hnone => exact hnone
    | inr hsame => rw [hsame, fresh hspent]
  | displaced suspicious count => exact .grounded htracks (by rw [hcount, count]; decide) fun h => nomatch h
  | returning suspicious tracks address count => exact .grounded htracks (by rw [hcount]; exact count) fun h => nomatch h

/-- A true observation contradicts only a bad anchor, and only once. -/
lemma GpsPhase.struck (h : GpsPhase cfg path spent r) (hmodel : TravelModel cfg path) (hon : o.position = path o.now)
    (houtside : r.Outside) (hbefore : r.Before o.now)
    (hevidence : (r.forAddress cfg o).evidence cfg o = .contradiction) :
    GpsPhase cfg path spent ((r.forAddress cfg o).contradicted cfg o) ∧
      ((r.forAddress cfg o).contradicted cfg o).restrictedUntil = r.restrictedUntil := by
  obtain ⟨fix, hfix, haddress, -, hcontradicts, hothers⟩ := evidence_contradiction hevidence
  rw [forAddress_anchor] at hfix
  cases h with
  | grounded anchor count fresh =>
    have hagrees := (anchor fix hfix).agrees hmodel (hbefore fix (.inl hfix))
    rw [hon, hagrees] at hcontradicts
    cases hcontradicts
  | displaced suspicious count =>
    have hsame : r.forAddress cfg o = r := by
      apply if_neg
      unfold changesIp
      rw [suspicious]
      exact Bool.false_ne_true
    rw [hsame, contradicted_first count houtside.2 suspicious]
    refine ⟨.returning ?_ (hmodel.tracks_fix hon) ?_ (Nat.le_refl 1), rfl⟩
    · have hpositive : fix.observedAt ≠ 0 := by
        have hnonzero := (Option.filter_eq_some_iff.mp hfix).2
        simpa using hnonzero
      have hnow : o.now ≠ 0 := by
        have hle := hbefore fix (.inl hfix)
        omega
      have hkept : decide ((o.fix cfg).observedAt ≠ 0) = true := decide_eq_true hnow
      unfold GpsRecord.suspicious
      exact Option.filter_some_pos hkept
    · intro other hother
      have hsamefix : other = fix := Option.some.inj (hother.symm.trans hfix)
      rw [hsamefix]
      exact haddress
  | @returning _ suspect suspicious tracks address count =>
    exfalso
    by_cases hchanges : r.changesIp cfg o = true
    · have hdiffers : suspect.ipHash ≠ o.ipHash cfg := by
        unfold changesIp at hchanges
        rw [suspicious] at hchanges
        simpa using hchanges
      exact hdiffers ((address fix hfix).symm.trans haddress)
    · have hsame : r.forAddress cfg o = r := if_neg hchanges
      rw [hsame] at hothers
      have hagrees := tracks.agrees hmodel (hbefore suspect (.inr suspicious))
      have hbad := hothers suspect suspicious
      rw [hon, hagrees] at hbad
      cases hbad

/-- Before the bad fix nothing is suspicious, so the bad fix contradicts once or becomes the anchor. -/
lemma GpsPhase.struckByBad (h : GpsPhase cfg path false r) (houtside : r.Outside) :
    GpsPhase cfg path true ((r.forAddress cfg o).contradicted cfg o) ∧
      ((r.forAddress cfg o).contradicted cfg o).restrictedUntil = r.restrictedUntil := by
  cases h with
  | grounded anchor count fresh =>
    have hsuspicious := fresh rfl
    have hcount : r.sameIpContradictionCount = 0 := Nat.le_zero.mp count
    have hsame : r.forAddress cfg o = r := by
      apply if_neg
      unfold changesIp
      rw [hsuspicious]
      exact Bool.false_ne_true
    rw [hsame, contradicted_first hcount houtside.2 hsuspicious]
    exact ⟨.grounded anchor (Nat.le_refl 1) (fun h => nomatch h), rfl⟩

lemma GpsRecord.Before.alike (h : r.Before o.now) (halike : Alike r r') : r'.Before o.now := by
  unfold GpsRecord.Before
  rw [halike.anchor, halike.suspicious]
  exact h

lemma GpsRecord.Before.moved (h : r.Before o.now) (hmoved : Moved cfg o r r') : r'.Before o.now := by
  intro fix hfix
  cases hfix with
  | inl hanchor =>
    rw [hmoved.anchor hanchor]
    exact Nat.le_refl o.now
  | inr hsuspicious =>
    cases hmoved.suspicious with
    | inl hnone =>
      rw [hnone] at hsuspicious
      cases hsuspicious
    | inr hsame => exact h fix (.inr (hsame ▸ hsuspicious))

lemma GpsRecord.Before.contradicted (h : r.Before o.now) : (r.contradicted cfg o).Before o.now := by
  have hlast : (r.contradicted cfg o).last = if r.suspicious.isSome then some (o.fix cfg) else r.last := by
    unfold GpsRecord.contradicted
    dsimp only
    split_ifs <;> rfl
  have hpending : (r.contradicted cfg o).pendingSuspicious = if r.suspicious.isSome then none else some (o.fix cfg) := by
    unfold GpsRecord.contradicted
    dsimp only
    split_ifs <;> rfl
  intro fix hfix
  cases hfix with
  | inl hanchor =>
    unfold GpsRecord.anchor at hanchor
    rw [hlast] at hanchor
    split_ifs at hanchor
    · rw [← Option.some.inj (Option.eq_some_of_filter_eq_some hanchor)]
      exact Nat.le_refl o.now
    · exact h fix (.inl hanchor)
  | inr hsuspicious =>
    unfold GpsRecord.suspicious at hsuspicious
    rw [hpending] at hsuspicious
    split_ifs at hsuspicious
    · cases hsuspicious
    · rw [← Option.some.inj (Option.eq_some_of_filter_eq_some hsuspicious)]
      exact Nat.le_refl o.now

lemma GpsRecord.Before.forAddress (h : r.Before o.now) : (r.forAddress cfg o).Before o.now := by
  intro fix hfix
  rw [forAddress_anchor] at hfix
  cases hfix with
  | inl hanchor => exact h fix (.inl hanchor)
  | inr hsuspicious =>
    cases forAddress_suspicious with
    | inl hnone =>
      rw [hnone] at hsuspicious
      cases hsuspicious
    | inr hsame => exact h fix (.inr (hsame ▸ hsuspicious))

end Phases

section Observations

variable {spent : Bool} {clock : ℕ} {db : Db P} {userId : ℕ} {stored : Option (GpsRecord P)} {o : GpsObservation P}

/-- What every observation keeps, whatever becomes of the phase. -/
lemma GpsCleared.observe (h : GpsCleared cfg path spent clock stored) (hclock : clock ≤ o.now)
    (hfirst : stored = none → insideActivePublicSpot cfg.toSettings db userId o.position = false) {spent' : Bool}
    (halike : GpsPhase cfg path spent (stored.getD {}) → GpsPhase cfg path spent' (stored.getD {}))
    (hmoved : ∀ r', Moved cfg o (stored.getD {}) r' → GpsPhase cfg path spent' r')
    (hstruck : ∀ known, known.Outside → known.Before o.now → GpsPhase cfg path spent known →
      (known.forAddress cfg o).evidence cfg o = .contradiction →
      GpsPhase cfg path spent' ((known.forAddress cfg o).contradicted cfg o) ∧
        ((known.forAddress cfg o).contradicted cfg o).restrictedUntil = known.restrictedUntil) :
    GpsCleared cfg path spent' o.now (some (recordGpsObservation cfg db userId stored o).record) := by
  have hbefore : (stored.getD {}).Before o.now := fun fix hfix => (h.before fix hfix).trans hclock
  have houtside := recordGpsObservation_outside hfirst h.outside
  have hanchor : ∀ fix, (stored.getD {}).anchor = some fix → fix.observedAt ≤ o.now :=
    fun fix hfix => hbefore fix (.inl hfix)
  have hcases := @recordGpsObservation_cases P cfg o db userId stored hanchor
  generalize hrecord : (recordGpsObservation cfg db userId stored o).record = record at houtside hcases ⊢
  have hall : ∀ r, some record = some r → r.Outside := by
    intro r hr
    rw [← Option.some.inj hr]
    exact houtside
  cases hcases with
  | inl hsame =>
    exact ⟨hall, hsame.restrictedUntil.trans h.unrestricted, hbefore.alike hsame, (halike h.phase).alike hsame⟩
  | inr hrest =>
    cases hrest with
    | inl hnew => exact ⟨hall, hnew.restrictedUntil.trans h.unrestricted, hbefore.moved hnew, hmoved record hnew⟩
    | inr hcontradiction =>
      obtain ⟨inside, hevidence, hresult, hinside⟩ := hcontradiction
      have hsame : Alike (stored.getD {}) ((stored.getD {}).classified inside o.now) :=
        ⟨classified_last .., classified_pendingSuspicious .., classified_count .., classified_restrictedUntil ..⟩
      have hknown : ((stored.getD {}).classified inside o.now).Outside := by
        rw [hinside]
        exact classified_outside hfirst h.outside
      have hstrike := hstruck _ hknown (hbefore.alike hsame) (h.phase.alike hsame) hevidence
      refine ⟨hall, ?_, ?_, ?_⟩
      · rw [Option.getD_some, hresult, hstrike.2, hsame.restrictedUntil]
        exact h.unrestricted
      · rw [Option.getD_some, hresult]
        exact (hbefore.alike hsame).forAddress.contradicted
      · rw [Option.getD_some, hresult]
        exact hstrike.1

/-- A user without a record. -/
lemma gpsCleared_start (cfg : FreshGuardSettings P) (path : ℕ → P) : GpsCleared cfg path false 0 none where
  outside _ hr := nomatch hr
  unrestricted := rfl
  before fix hfix := by
    cases hfix with
    | inl hanchor => cases hanchor
    | inr hsuspicious => cases hsuspicious
  phase := .grounded (fun _ hfix => nomatch hfix) (Nat.le_refl 0) fun _ => rfl

/-- A true observation keeps the user clear. -/
lemma GpsCleared.true_observation (h : GpsCleared cfg path spent clock stored) (hmodel : TravelModel cfg path)
    (hclock : clock ≤ o.now)
    (hfirst : stored = none → insideActivePublicSpot cfg.toSettings db userId o.position = false)
    (hon : o.position = path o.now) :
    GpsCleared cfg path spent o.now (some (recordGpsObservation cfg db userId stored o).record) :=
  h.observe hclock hfirst id (fun _ hmoved => h.phase.moved hmodel hon hmoved)
    fun _ houtside hbefore hphase hevidence => hphase.struck hmodel hon houtside hbefore hevidence

/-- The one bad fix keeps the user clear. -/
lemma GpsCleared.bad_fix (h : GpsCleared cfg path false clock stored) (hclock : clock ≤ o.now)
    (hfirst : stored = none → insideActivePublicSpot cfg.toSettings db userId o.position = false) :
    GpsCleared cfg path true o.now (some (recordGpsObservation cfg db userId stored o).record) := by
  have hmoved : ∀ r', Moved cfg o (stored.getD {}) r' → GpsPhase cfg path true r' := by
    intro r' hmoved
    have hphase := h.phase
    generalize stored.getD {} = r at hmoved hphase
    cases hphase with
    | grounded anchor count fresh =>
      refine .displaced ?_ (hmoved.count.trans (Nat.le_zero.mp count))
      cases hmoved.suspicious with
      | inl hnone => exact hnone
      | inr hsame => rw [hsame, fresh rfl]
  exact h.observe hclock hfirst GpsPhase.spend hmoved
    fun _ houtside _ hphase _ => hphase.struckByBad houtside

/-- An observation with the tables it finds. -/
abbrev GpsEvent (P : Type) := Db P × GpsObservation P

/-- One user's record through the observations of that user. -/
def gpsStep (cfg : FreshGuardSettings P) (userId : ℕ) (stored : Option (GpsRecord P)) (e : GpsEvent P) :
    Option (GpsRecord P) :=
  some (recordGpsObservation cfg e.1 userId stored e.2).record

def GpsEvent.OnPath (path : ℕ → P) (e : GpsEvent P) : Prop := e.2.position = path e.2.now

/-- From a clear record on, with at most one bad fix still to come. -/
lemma GpsCleared.run {events : List (GpsEvent P)} (h : GpsCleared cfg path spent clock stored)
    (hmodel : TravelModel cfg path) (horder : (clock :: events.map fun e => e.2.now).Pairwise (· ≤ ·))
    (hfirst : stored = none → ∀ e, events.head? = some e →
      insideActivePublicSpot cfg.toSettings e.1 userId e.2.position = false)
    (hbad : events.Pairwise fun e e' => e.OnPath path ∨ e'.OnPath path)
    (hspent : spent = true → ∀ e ∈ events, e.OnPath path) :
    ∃ spent clock, GpsCleared cfg path spent clock (run (gpsStep cfg userId) stored events) := by
  induction events generalizing spent clock stored with
  | nil => exact ⟨spent, clock, h⟩
  | cons e events ih =>
    have hordered := List.pairwise_cons.mp horder
    have hclock : clock ≤ e.2.now := hordered.1 e.2.now (by simp)
    have hinside : stored = none → insideActivePublicSpot cfg.toSettings e.1 userId e.2.position = false :=
      fun hnone => hfirst hnone e rfl
    have hpair := List.pairwise_cons.mp hbad
    by_cases hon : e.OnPath path
    · exact ih (h.true_observation hmodel hclock hinside hon) hordered.2 (fun hnone => nomatch hnone) hpair.2
        fun hspent' e' he' => hspent hspent' e' (List.mem_cons_of_mem e he')
    · have hfresh : spent = false := by
        by_contra hspent'
        exact hon (hspent (Bool.of_not_eq_false hspent') e List.mem_cons_self)
      subst hfresh
      exact ih (h.bad_fix hclock hinside) hordered.2 (fun hnone => nomatch hnone) hpair.2
        fun _ e' he' => (hpair.1 e' he').resolve_left hon

end Observations

/-- One bad fix never restricts a user whose first observation was outside: as long as observations are recorded in
the order of their times, the others lie on a path of at most 70 m/s, and stored points are within 100 m of what
they round, whatever the IP addresses. -/
theorem one_bad_fix_never_restricts (hmodel : TravelModel cfg path) (userId : ℕ) {events : List (GpsEvent P)}
    (horder : (events.map fun e => e.2.now).Pairwise (· ≤ ·))
    (houtside : ∀ e, events.head? = some e → insideActivePublicSpot cfg.toSettings e.1 userId e.2.position = false)
    (hbad : events.Pairwise fun e e' => e.OnPath path ∨ e'.OnPath path) :
    ((run (gpsStep cfg userId) none events).getD {}).sameIpContradictionCount ≤ 1 ∧
      ((run (gpsStep cfg userId) none events).getD {}).restrictedUntil = 0 := by
  have hzero : (0 :: events.map fun e => e.2.now).Pairwise (· ≤ ·) :=
    List.pairwise_cons.mpr ⟨fun _ _ => Nat.zero_le _, horder⟩
  obtain ⟨spent, clock, hcleared⟩ :=
    (gpsCleared_start cfg path).run hmodel hzero (fun _ => houtside) hbad fun h => nomatch h
  exact ⟨hcleared.phase.count_le, hcleared.unrestricted⟩

section Road

/-- Positions along a straight road, in metres. -/
def roadGuard : FreshGuardSettings ℤ where
  toSettings := Settings.road
  sha256 := id
  rounded := id
  onEarth := fun _ => true
  country := id

lemma roadGuard_travelModel : TravelModel roadGuard stay where
  distance := road_isDistance
  speed := by
    intro start finish _
    have hzero : roadGuard.distanceMetres (stay start) (stay finish) = 0 := by
      unfold roadGuard Settings.road stay
      norm_num
    rw [hzero]
    unfold maxPathSpeedMetresPerSecond
    positivity
  rounding := by
    intro p
    have hzero : roadGuard.distanceMetres (roadGuard.rounded p) p = 0 := by
      unfold roadGuard Settings.road
      norm_num
    rw [hzero]
    unfold maxRoundingMetres
    norm_num

def seenAt (position : ℤ) (ip : String) (now : ℕ) : GpsEvent ℤ := (Db.empty, ⟨some ip, position, now⟩)

/-- The bad fix is the anchor; the third observation reached its transaction late. -/
def lateObservation : List (GpsEvent ℤ) :=
  [seenAt 200000 "B" 100, seenAt 0 "B" 101, seenAt 0 "C" 99, seenAt 0 "B" 102]

/-- An observation older than the anchor drops the suspicious point of another address and leaves the bad anchor,
which the next true observation contradicts again. -/
theorem late_observation_restricts :
    TravelModel roadGuard stay ∧
    (∀ e, lateObservation.head? = some e → insideActivePublicSpot roadGuard.toSettings e.1 7 e.2.position = false) ∧
    lateObservation.Pairwise (fun e e' => e.OnPath stay ∨ e'.OnPath stay) ∧
    ((run (gpsStep roadGuard 7) none lateObservation).getD {}).sameIpContradictionCount = 2 ∧
    ((run (gpsStep roadGuard 7) none lateObservation).getD {}).restrictedUntil = 86502 := by
  refine ⟨roadGuard_travelModel, ?_, ?_, by decide +kernel, by decide +kernel⟩
  · intro e he
    rw [← Option.some.inj he]
    rfl
  · simp [lateObservation, seenAt, GpsEvent.OnPath, stay]

/-- The same observations in the order of their times. -/
def orderedObservations : List (GpsEvent ℤ) :=
  [seenAt 0 "C" 99, seenAt 200000 "B" 100, seenAt 0 "B" 101, seenAt 0 "B" 102]

theorem one_bad_fix_never_restricts_ordered :
    ((run (gpsStep roadGuard 7) none orderedObservations).getD {}).sameIpContradictionCount ≤ 1 ∧
      ((run (gpsStep roadGuard 7) none orderedObservations).getD {}).restrictedUntil = 0 := by
  apply one_bad_fix_never_restricts roadGuard_travelModel 7
  · decide
  · intro e he
    rw [← Option.some.inj he]
    rfl
  · simp [orderedObservations, seenAt, GpsEvent.OnPath, stay]

end Road

end NimHunt
