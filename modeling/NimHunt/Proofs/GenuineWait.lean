import NimHunt.Proofs.SystemRuns

/-!
# A duration claim waits

A claim with a duration that turns SUCCESS has waited: the duration has passed since the row was made, no two
consecutive updates lie further apart than the stale window, and the penalties have not used up the score.  The
score is a binary64 number: penalties that add up to one may leave it a little above zero.  The winners of a
Prizedraw whose draw is over are another matter: they wait for their payout.
-/

namespace NimHunt

open Lib Relation

variable {P : Type}

section Waits

/-- The times of the accepted updates before the time of creation, newest first. -/
def waitTimes (claimedAt : ℕ) (updates : List (ℕ × ℚ)) : List ℕ := updates.map Prod.fst ++ [claimedAt]

def WithinStaleWindow (later earlier : ℕ) : Prop :=
  earlier ≤ later ∧ later - earlier ≤ claimLocationStaleAfterSeconds

/-- What a claim decided at `decidedAt` has gone through; an update carries its penalty. -/
structure GenuineWait (duration claimedAt decidedAt : ℕ) (updates : List (ℕ × ℚ)) : Prop where
  elapsed : claimedAt + duration ≤ decidedAt
  gaps : (decidedAt :: waitTimes claimedAt updates).IsChain WithinStaleWindow
  penalty : (updates.map Prod.snd).sum ≤ 1

/-- Each penalty has moved the score away from the exact difference by its roundings; penalties come in twentieths. -/
def Scored (score penalties : ℚ) : Prop :=
  ∃ hits twentieths : ℕ, penalties = twentieths / 20 ∧ 2 * hits ≤ twentieths ∧
    |score - (1 - penalties)| ≤ hits * 2 ^ (-52 : ℤ)

/-- A row that still waits. -/
structure Waiting (c : Claim P) (updates : List (ℕ × ℚ)) (now : ℕ) : Prop where
  latest : (waitTimes c.claimedAt updates).head? = some c.updatedAt
  past : c.updatedAt ≤ now
  gaps : (waitTimes c.claimedAt updates).IsChain WithinStaleWindow
  score : Scored c.accuracy (updates.map Prod.snd).sum
  representable : binary64 roundHalfEven c.accuracy = c.accuracy
  positive : 0 < c.accuracy
  atMost : c.accuracy ≤ 1

variable {c : Claim P} {updates : List (ℕ × ℚ)} {now : ℕ}

/-- The chain grows at its new end. -/
lemma isChain_cons_of_head {times : List ℕ} {latest : ℕ} (hhead : times.head? = some latest)
    (hchain : times.IsChain WithinStaleWindow) (hpast : latest ≤ now)
    (hfresh : now - latest ≤ claimLocationStaleAfterSeconds) : (now :: times).IsChain WithinStaleWindow := by
  cases times with
  | nil => cases hhead
  | cons first rest =>
    rw [← Option.some.inj hhead] at hpast hfresh
    exact List.isChain_cons_cons.mpr ⟨⟨hpast, hfresh⟩, hchain⟩

/-- The roundings of ten penalties do not make up for a twentieth. -/
lemma Scored.le_one {score penalties : ℚ} (h : Scored score penalties) (hpositive : 0 < score) : penalties ≤ 1 := by
  obtain ⟨hits, twentieths, rfl, hhits, hnear⟩ := h
  have hclose := (abs_le.mp hnear).2
  have hhits' : (2 : ℚ) * hits ≤ twentieths := by exact_mod_cast hhits
  have hatMost : twentieths ≤ 20 := by
    by_contra hmore
    have hmore' : (21 : ℚ) ≤ twentieths := by exact_mod_cast not_le.mp hmore
    norm_num at hclose
    linarith
  have hcast : (twentieths : ℚ) ≤ 20 := by exact_mod_cast hatMost
  linarith

lemma Waiting.decide {duration : ℕ} (h : Waiting c updates now) (hdue : c.claimedAt + duration ≤ now)
    (hfresh : now - c.updatedAt ≤ claimLocationStaleAfterSeconds) : GenuineWait duration c.claimedAt now updates where
  elapsed := hdue
  gaps := isChain_cons_of_head h.latest h.gaps h.past hfresh
  penalty := h.score.le_one h.positive

lemma nextScore_zero {score : ℚ} (hscore : 0 < score) (hmost : score ≤ 1)
    (hrepresentable : binary64 roundHalfEven score = score) : nextScore score 0 = score := by
  have hzero : binary64 roundHalfEven 0 = 0 := binary64_of_multiple roundHalfEven_nearest 0 (by simp)
  unfold nextScore
  rw [min_eq_right hmost, max_eq_right hscore.le, hzero, sub_zero, hrepresentable, max_eq_right hscore.le]

/-- A score above zero is what the penalty has left of the last one, but for two roundings. -/
lemma nextScore_near {score penalty : ℚ} (hscore : 0 < score) (hmost : score ≤ 1) (hnonneg : 0 ≤ penalty)
    (hbounded : penalty ≤ 1) (hpositive : 0 < nextScore score penalty) :
    nextScore score penalty ≤ 1 ∧ |nextScore score penalty - (score - penalty)| ≤ 2 ^ (-52 : ℤ) ∧
      binary64 roundHalfEven (nextScore score penalty) = nextScore score penalty := by
  have hsize : ∀ x : ℚ, -1 ≤ x → x ≤ 1 → |x| < 2 ^ (1 : ℤ) := by
    intro x hlow hhigh
    rw [abs_lt]
    constructor <;> norm_num <;> linarith
  have hbit : ∀ x : ℚ, -1 ≤ x → x ≤ 1 → lastBit x ≤ 0 := fun x hlow hhigh =>
    (lastBit_le (hsize x hlow hhigh) le_rfl).trans (by norm_num)
  have herror : ∀ x : ℚ, -1 ≤ x → x ≤ 1 → |binary64 roundHalfEven x - x| ≤ 2 ^ (-53 : ℤ) := fun x hlow hhigh =>
    abs_binary64_sub_le roundHalfEven_nearest (hsize x hlow hhigh) le_rfl
  have hpenaltyError := herror penalty (by linarith) hbounded
  have hpenaltyLow : (0 : ℚ) ≤ binary64 roundHalfEven penalty := by
    exact_mod_cast le_binary64 roundHalfEven_nearest (m := 0) (by exact_mod_cast hnonneg) (hbit penalty (by linarith) hbounded)
  have hpenaltyHigh : binary64 roundHalfEven penalty ≤ 1 := by
    exact_mod_cast binary64_le roundHalfEven_nearest (m := 1) (by exact_mod_cast hbounded) (hbit penalty (by linarith) hbounded)
  unfold nextScore at hpositive ⊢
  rw [min_eq_right hmost, max_eq_right hscore.le] at hpositive ⊢
  generalize binary64 roundHalfEven penalty = taken at hpenaltyError hpenaltyLow hpenaltyHigh hpositive ⊢
  have hleft : 0 < binary64 roundHalfEven (score - taken) := (lt_max_iff.mp hpositive).resolve_left (lt_irrefl 0)
  rw [max_eq_right hleft.le]
  have hleftError := herror (score - taken) (by linarith) (by linarith)
  refine ⟨?_, ?_, binary64_binary64 roundHalfEven_nearest _⟩
  · exact_mod_cast binary64_le roundHalfEven_nearest (m := 1) (by push_cast; linarith)
      (hbit (score - taken) (by linarith) (by linarith))
  · have hhalves : (2 : ℚ) ^ (-52 : ℤ) = 2 ^ (-53 : ℤ) + 2 ^ (-53 : ℤ) := by norm_num
    rw [hhalves]
    calc |binary64 roundHalfEven (score - taken) - (score - penalty)|
        ≤ |binary64 roundHalfEven (score - taken) - (score - taken)| + |score - taken - (score - penalty)| :=
          abs_sub_le _ _ _
      _ ≤ 2 ^ (-53 : ℤ) + 2 ^ (-53 : ℤ) := by
          apply add_le_add hleftError
          rw [show score - taken - (score - penalty) = -(taken - penalty) by ring, abs_neg]
          exact hpenaltyError

/-- No penalty, the soft one or the hard one. -/
def IsPenalty (penalty : ℚ) : Prop :=
  penalty = 0 ∨ penalty = claimLocationSoftPenalty ∨ penalty = claimLocationHardPenalty

lemma durationClaimPenalty_isPenalty (effectiveDistance : ℚ) (radiusMetres : ℕ) :
    IsPenalty (durationClaimPenalty effectiveDistance radiusMetres) := by
  unfold durationClaimPenalty
  dsimp only
  split_ifs
  · exact .inl rfl
  · exact .inr (.inl rfl)
  · exact .inr (.inr rfl)

lemma Scored.hit {score penalties penalty : ℚ} {twentieths : ℕ} (h : Scored score penalties) (hscore : 0 < score)
    (hmost : score ≤ 1) (htwentieths : penalty = twentieths / 20) (hatLeast : 2 ≤ twentieths) (hatMost : twentieths ≤ 20)
    (hpositive : 0 < nextScore score penalty) : Scored (nextScore score penalty) (penalty + penalties) := by
  obtain ⟨hits, before, rfl, hhits, hnear⟩ := h
  have hcast : (twentieths : ℚ) ≤ 20 := by exact_mod_cast hatMost
  have hnonneg : 0 ≤ penalty := by
    rw [htwentieths]
    positivity
  obtain ⟨-, hnext, -⟩ := nextScore_near hscore hmost hnonneg (by rw [htwentieths]; linarith) hpositive
  refine ⟨hits + 1, twentieths + before, ?_, by omega, ?_⟩
  · rw [htwentieths]
    push_cast
    ring
  · calc |nextScore score penalty - (1 - (penalty + before / 20))|
        ≤ |nextScore score penalty - (score - penalty)| + |score - penalty - (1 - (penalty + before / 20))| :=
          abs_sub_le _ _ _
      _ ≤ 2 ^ (-52 : ℤ) + hits * 2 ^ (-52 : ℤ) := by
          apply add_le_add hnext
          rw [show score - penalty - (1 - (penalty + (before : ℚ) / 20)) = score - (1 - before / 20) by ring]
          exact hnear
      _ = ((hits + 1 : ℕ) : ℚ) * 2 ^ (-52 : ℤ) := by
          push_cast
          ring

lemma Waiting.update {penalty : ℚ} (h : Waiting c updates now)
    (hfresh : now - c.updatedAt ≤ claimLocationStaleAfterSeconds) (hpenalty : IsPenalty penalty)
    (hpositive : 0 < nextScore c.accuracy penalty) (position : P) :
    Waiting (c.moved now position (nextScore c.accuracy penalty)) ((now, penalty) :: updates) now := by
  have hnext : nextScore c.accuracy penalty ≤ 1 ∧
      binary64 roundHalfEven (nextScore c.accuracy penalty) = nextScore c.accuracy penalty ∧
      Scored (nextScore c.accuracy penalty) (penalty + (updates.map Prod.snd).sum) := by
    rcases hpenalty with rfl | rfl | rfl
    · rw [nextScore_zero h.positive h.atMost h.representable, zero_add]
      exact ⟨h.atMost, h.representable, h.score⟩
    · have hsoft : claimLocationSoftPenalty = (2 : ℕ) / 20 := by norm_num [claimLocationSoftPenalty]
      obtain ⟨hmost, -, hrepresentable⟩ := nextScore_near h.positive h.atMost (by norm_num [claimLocationSoftPenalty])
        (by norm_num [claimLocationSoftPenalty]) hpositive
      exact ⟨hmost, hrepresentable, h.score.hit h.positive h.atMost hsoft (by norm_num) (by norm_num) hpositive⟩
    · have hhard : claimLocationHardPenalty = (7 : ℕ) / 20 := by norm_num [claimLocationHardPenalty]
      obtain ⟨hmost, -, hrepresentable⟩ := nextScore_near h.positive h.atMost (by norm_num [claimLocationHardPenalty])
        (by norm_num [claimLocationHardPenalty]) hpositive
      exact ⟨hmost, hrepresentable, h.score.hit h.positive h.atMost hhard (by norm_num) (by norm_num) hpositive⟩
  obtain ⟨hmost, hrepresentable, hscored⟩ := hnext
  have hkept : max 0 (min 1 (nextScore c.accuracy penalty)) = nextScore c.accuracy penalty := by
    rw [min_eq_right hmost, max_eq_right hpositive.le]
  unfold Claim.moved
  rw [hkept]
  exact ⟨rfl, le_refl now, isChain_cons_of_head h.latest h.gaps h.past hfresh, hscored, hrepresentable, hpositive, hmost⟩

/-- A row as it is inserted. -/
lemma waiting_fresh (db : Db P) (spotId userId : ℕ) (payoutAddress : Option Address) (position : P) :
    Waiting (db.freshClaim spotId userId payoutAddress position) [] db.now where
  latest := rfl
  past := le_refl db.now
  gaps := .singleton db.now
  score := ⟨0, 0, by simp, by omega, by simp [Db.freshClaim]⟩
  representable := by
    have hone : binary64 roundHalfEven 1 = 1 := by decide +kernel
    exact hone
  positive := by
    unfold Db.freshClaim
    norm_num
  atMost := by
    unfold Db.freshClaim
    norm_num

end Waits

section Rows

/-- A claim that may be promoted now, unless its Prizedraw has been drawn. -/
def ReadyForSuccess (db : Db P) (c : Claim P) : Prop :=
  db.PrizedrawIsDrawn c.spotId ∨
  ∀ spot, db.getSpot c.spotId = some spot → spot.claimDuration ≠ 0 →
    c.claimedAt + spot.claimDuration ≤ db.now ∧ db.now - c.updatedAt ≤ claimLocationStaleAfterSeconds

/-- Successes only where they are ready, and no heartbeat. -/
def readyPermit : WritePermit P where
  enter _ _ _ _ := True
  settle db c status := status = .success → ReadyForSuccess db c
  touch _ _ := False

/-- Where a row of the claim table comes from. -/
inductive RowChange (db db' : Db P) (c' : Claim P) : Prop
  | same (hc : c' ∈ db.claims)
  | failed {c : Claim P} (hc : c ∈ db.claims) (hsame : SameClaim c c') (hfailed : c'.status = .failed)
  | drawn {c : Claim P} (hc : c ∈ db.claims) (hsame : SameClaim c c') (hdrawn : db'.PrizedrawIsDrawn c'.spotId)
  | entered {spot : Spot P} {userId : ℕ} {payoutAddress : Option Address} {position : P}
      (hspot : db.getSpot spot.id = some spot) (hplaced : spot.status ≠ .draft)
      (heq : c' = db.freshClaim spot.id userId payoutAddress position)
  | succeeded {c : Claim P} (hc : c ∈ db.claims) (hpending : c.status = .pending) (hready : ReadyForSuccess db c)
      (heq : c' = c.withStatus db.now .success)

/-- The claim table through a step, as far as waiting is concerned. -/
structure ClaimsChange (db db' : Db P) : Prop where
  now : db.now ≤ db'.now
  claimSeq : db.claimSeq ≤ db'.claimSeq
  rows : ∀ c' ∈ db'.claims, RowChange db db' c'
  spots : SpotsHeld db db'
  keys : (db'.claims.map Claim.id).Nodup
  counted : ∀ c' ∈ db'.claims, c'.id ≤ db'.claimSeq

/-- Every claim with a duration waits, or has waited. -/
structure Waits (db : Db P) (updates : ℕ → List (ℕ × ℚ)) : Prop where
  keys : (db.claims.map Claim.id).Nodup
  counted : ∀ c ∈ db.claims, c.id ≤ db.claimSeq
  unused : ∀ id, db.claimSeq < id → updates id = []
  placed : ∀ c ∈ db.claims, ∃ spot, db.getSpot c.spotId = some spot ∧ spot.status ≠ .draft
  waiting : ∀ c ∈ db.claims, ∀ spot, db.getSpot c.spotId = some spot → spot.claimDuration ≠ 0 →
    ¬ db.PrizedrawIsDrawn c.spotId → c.status = .pending → Waiting c (updates c.id) db.now
  waited : ∀ c ∈ db.claims, ∀ spot, db.getSpot c.spotId = some spot → spot.claimDuration ≠ 0 →
    ¬ db.PrizedrawIsDrawn c.spotId → c.status = .success →
      GenuineWait spot.claimDuration c.claimedAt c.updatedAt (updates c.id)

variable {db db' : Db P} {updates : ℕ → List (ℕ × ℚ)}

lemma Waiting.later {c : Claim P} {history : List (ℕ × ℚ)} {now now' : ℕ} (h : Waiting c history now) (hle : now ≤ now') :
    Waiting c history now' :=
  ⟨h.latest, h.past.trans hle, h.gaps, h.score, h.representable, h.positive, h.atMost⟩

lemma Waits.change (h : Waits db updates) (hchange : ClaimsChange db db') : Waits db' updates where
  keys := hchange.keys
  counted := hchange.counted
  unused id hid := h.unused id (hchange.claimSeq.trans_lt hid)
  placed := by
    intro c' hc'
    have hkept : ∀ id, (∃ spot, db.getSpot id = some spot ∧ spot.status ≠ .draft) →
        ∃ spot, db'.getSpot id = some spot ∧ spot.status ≠ .draft := by
      rintro id ⟨spot, hspot, hdraft⟩
      obtain ⟨spot', hspot', hdraft', -⟩ := hchange.spots.held id spot hspot hdraft
      exact ⟨spot', hspot', hdraft'⟩
    cases hchange.rows c' hc' with
    | same hc => exact hkept c'.spotId (h.placed c' hc)
    | failed hc hsame _ => exact hsame.spotId ▸ hkept _ (h.placed _ hc)
    | drawn hc hsame _ => exact hsame.spotId ▸ hkept _ (h.placed _ hc)
    | entered hspot hplaced heq =>
      rw [heq]
      exact hkept _ ⟨_, hspot, hplaced⟩
    | succeeded hc _ _ heq =>
      have hspot := hkept _ (h.placed _ hc)
      rw [heq]
      exact hspot
  waiting := by
    intro c' hc' spot' hspot' hduration hopen hpending
    cases hchange.rows c' hc' with
    | same hc =>
      obtain ⟨spot, hspot, -, hsame⟩ := hchange.spots.before (h.placed c' hc) hspot'
      have hbefore : ¬ db.PrizedrawIsDrawn c'.spotId := fun hdrawn => hopen (hchange.spots.drawn _ hdrawn)
      exact (h.waiting c' hc spot hspot (hsame ▸ hduration) hbefore hpending).later hchange.now
    | failed _ _ hfailed =>
      rw [hfailed] at hpending
      cases hpending
    | drawn _ _ hdrawn => exact absurd hdrawn hopen
    | entered hspot hplaced heq =>
      have hunused : updates c'.id = [] := by
        apply h.unused
        rw [heq]
        exact Nat.lt_succ_self db.claimSeq
      rw [hunused, heq]
      exact (waiting_fresh db _ _ _ _).later hchange.now
    | succeeded _ _ _ heq =>
      rw [heq] at hpending
      cases hpending
  waited := by
    intro c' hc' spot' hspot' hduration hopen hsuccess
    cases hchange.rows c' hc' with
    | same hc =>
      obtain ⟨spot, hspot, -, hsame⟩ := hchange.spots.before (h.placed c' hc) hspot'
      have hbefore : ¬ db.PrizedrawIsDrawn c'.spotId := fun hdrawn => hopen (hchange.spots.drawn _ hdrawn)
      rw [hsame]
      exact h.waited c' hc spot hspot (hsame ▸ hduration) hbefore hsuccess
    | failed _ _ hfailed =>
      rw [hfailed] at hsuccess
      cases hsuccess
    | drawn _ _ hdrawn => exact absurd hdrawn hopen
    | entered hspot hplaced heq =>
      rw [heq] at hsuccess
      cases hsuccess
    | @succeeded c hc hpending hready heq =>
      rw [heq] at hspot' hopen ⊢
      obtain ⟨spot, hspot, -, hsame⟩ := hchange.spots.before (h.placed c hc) hspot'
      have hbefore : ¬ db.PrizedrawIsDrawn c.spotId := fun hdrawn => hopen (hchange.spots.drawn _ hdrawn)
      have hlong : spot.claimDuration ≠ 0 := hsame ▸ hduration
      obtain ⟨hdue, hfresh⟩ := (hready.resolve_left hbefore) spot hspot hlong
      rw [hsame]
      exact (h.waiting c hc spot hspot hlong hbefore hpending).decide hdue hfresh

/-- A step that keeps the ids of the claims. -/
lemma Waits.rewritten (h : Waits db updates) (hids : db'.claims.map Claim.id = db.claims.map Claim.id)
    (hrows : ∀ c' ∈ db'.claims, RowChange db db' c') (hseq : db'.claimSeq = db.claimSeq) (hnow : db.now ≤ db'.now)
    (hspots : SpotsHeld db db') : Waits db' updates := by
  apply h.change
  refine ⟨hnow, hseq.ge, hrows, hspots, by rw [hids]; exact h.keys, ?_⟩
  intro c' hc'
  have hmem : c'.id ∈ db.claims.map Claim.id := by
    rw [← hids]
    exact List.mem_map_of_mem hc'
  obtain ⟨c, hc, hid⟩ := List.mem_map.mp hmem
  rw [hseq, ← hid]
  exact h.counted c hc

lemma Waits.sameClaims (h : Waits db updates) (hclaims : db'.claims = db.claims) (hseq : db'.claimSeq = db.claimSeq)
    (hnow : db.now ≤ db'.now) (hspots : SpotsHeld db db') : Waits db' updates := by
  refine h.rewritten (by rw [hclaims]) ?_ hseq hnow hspots
  intro c' hc'
  rw [hclaims] at hc'
  exact .same hc'

lemma Waits.updated (h : Waits db updates) {sel : Claim P → Bool} {f : Claim P → Claim P}
    (hclaims : db'.claims = updateWhere sel f db.claims) (hid : ∀ c, (f c).id = c.id)
    (hrow : ∀ c ∈ db.claims, sel c = true → RowChange db db' (f c)) (hseq : db'.claimSeq = db.claimSeq)
    (hnow : db.now ≤ db'.now) (hspots : SpotsHeld db db') : Waits db' updates := by
  refine h.rewritten (by rw [hclaims, map_updateWhere hid]) ?_ hseq hnow hspots
  intro c' hc'
  rw [hclaims] at hc'
  obtain ⟨c, hc, hrewritten⟩ := mem_updateWhere.mp hc'
  rw [← hrewritten]
  by_cases hsel : sel c = true
  · rw [if_pos hsel]
    exact hrow c hc hsel
  · rw [if_neg hsel]
    exact .same hc

end Rows

section Writes

variable {cfg : Settings P} {db db' : Db P} {updates : ℕ → List (ℕ × ℚ)}

lemma Waits.failedRows (h : Waits db updates) (sel : Claim P → Bool) : Waits (db.updateClaimStatus sel .failed) updates := by
  refine h.updated rfl (fun _ => rfl) ?_ rfl (le_refl _) (.of_eq rfl)
  intro c hc _
  exact .failed hc (sameClaim_withStatus db.now .failed c) rfl

lemma Waits.failPendingStandard (h : Waits db updates) (spotId : ℕ) :
    Waits (db.failPendingStandardDurationClaimsIfCapacityFull spotId) updates := by
  unfold Db.failPendingStandardDurationClaimsIfCapacityFull
  cases db.getSpot spotId with
  | none => exact h
  | some spot =>
    dsimp only
    split_ifs
    · exact h
    · exact h
    · exact h
    · exact h.failedRows _

lemma CodeConsumed.claimSeq {spot : Spot P} {claimId : ℕ} (h : CodeConsumed db spot claimId db') :
    db'.claimSeq = db.claimSeq := by
  cases h with
  | inl hplain => rw [hplain.2]
  | inr hcoded =>
    obtain ⟨-, code, -, hconsume⟩ := hcoded
    rw [← (Prod.mk.inj hconsume).1]

/-- The claim that succeeds was ready. -/
lemma Waits.succeed (h : Waits db updates) {claim : Claim P} (hclaim : db.getClaim claim.id = some claim)
    (hpending : claim.status = .pending) (hready : ReadyForSuccess db claim) :
    Waits (db.setClaimStatusToSuccess claim.id) updates := by
  refine h.updated rfl (fun _ => rfl) ?_ rfl (le_refl _) (.of_eq rfl)
  intro c hc hsel
  have hsame : c = claim := by
    have hfound := (find?_key_eq_some h.keys).mpr ⟨hc, of_decide_eq_true hsel⟩
    exact Option.some.inj (hfound.symm.trans hclaim)
  rw [hsame] at hc ⊢
  exact .succeeded hc hpending hready rfl

lemma Waits.claimWrite (h : Waits db updates) (hwrite : ClaimWrite readyPermit db db') : Waits db' updates := by
  cases hwrite with
  | guarded => exact h.sameClaims rfl rfl (le_refl _) (.of_eq rfl)
  | @entered spot userId payoutAddress position hpublic _ _ =>
    have hspot := getPublicSpot_getSpot hpublic
    have hpublished : spot.status = .published := (of_decide_eq_true (Option.filter_eq_some_iff.mp hpublic).2).1
    apply h.change
    refine ⟨le_refl _, Nat.le_succ db.claimSeq, ?_, .of_eq rfl, ?_, ?_⟩
    · intro c' hc'
      cases List.mem_append.mp hc' with
      | inl hold => exact .same hold
      | inr hnew => exact .entered hspot (by rw [hpublished]; decide) (List.mem_singleton.mp hnew)
    · change ((db.claims ++ [_]).map Claim.id).Nodup
      rw [List.map_append]
      refine h.keys.append (List.nodup_singleton _) ?_
      intro id hold hnew
      obtain ⟨c, hc, hid⟩ := List.mem_map.mp hold
      have hfresh : id = db.claimSeq + 1 := List.mem_singleton.mp hnew
      have hle := h.counted c hc
      omega
    · intro c' hc'
      cases List.mem_append.mp hc' with
      | inl hold => exact (h.counted c' hold).trans (Nat.le_succ db.claimSeq)
      | inr hnew =>
        rw [List.mem_singleton.mp hnew]
        exact le_refl _
  | attempted => exact h.sameClaims rfl rfl (le_refl _) (.of_eq rfl)
  | failed => exact h.failedRows _
  | failedReleasing => exact (h.failedRows _).sameClaims rfl rfl (le_refl _) (.of_eq rfl)
  | @succeeded claim spot consumed hclaim hpending hspot _ hcode hpermit =>
    have hready := hpermit rfl
    have hground := hcode.sameGround
    have hconsumed : Waits consumed updates :=
      h.sameClaims hcode.claims hcode.claimSeq hground.now.ge (.of_eq hground.spots)
    have hclaim' : consumed.getClaim claim.id = some claim := by
      unfold Db.getClaim
      rw [hcode.claims]
      exact hclaim
    have hready' : ReadyForSuccess consumed claim := by
      unfold ReadyForSuccess Db.PrizedrawIsDrawn
      rw [hground.now]
      simp only [hground.getSpot]
      exact hready
    exact (hconsumed.succeed hclaim' hpending hready').failPendingStandard claim.spotId
  | @moved claim position score status hclaim hpending hpermit =>
    cases hpermit with
    | inl htouch => exact htouch.2.elim
    | inr hfailed =>
      rw [hfailed.1]
      refine h.updated (modifyClaimLocationScore_claims db claim.id position score .failed) (fun _ => rfl) ?_ rfl
        (le_refl _) (.of_eq rfl)
      intro c hc _
      exact .failed hc ⟨rfl, rfl, rfl, rfl⟩ rfl

lemma Waits.claimWrites (h : Waits db updates) (hwrites : ClaimWrites readyPermit db db') : Waits db' updates := by
  induction hwrites with
  | refl => exact h
  | tail _ hwrite ih => exact ih.claimWrite hwrite

/-- The rest of the application: any write but those of claims that enter, are moved or are decided. -/
def elsewherePermit : Permit P where
  enter _ _ _ _ := False
  settle _ _ _ := False
  touch _ _ := False
  draw _ _ _ := True
  ban _ _ := True

lemma ClaimWrite.ready (hwrite : ClaimWrite elsewherePermit.toWritePermit db db') : ClaimWrite readyPermit db db' := by
  cases hwrite with
  | guarded users markers => exact .guarded users markers
  | entered _ _ hpermit => exact hpermit.elim
  | attempted hclaim hpending hcode hspot => exact .attempted hclaim hpending hcode hspot
  | failed _ _ hpermit => exact hpermit.elim
  | failedReleasing _ _ hpermit => exact hpermit.elim
  | succeeded _ _ _ _ _ hpermit => exact hpermit.elim
  | moved _ _ hpermit =>
    cases hpermit with
    | inl htouch => exact htouch.2.elim
    | inr hsettle => exact hsettle.2.elim

/-- A row of a table whose selected rows took a status. -/
lemma mem_withStatus {sel : Claim P → Bool} {now : ℕ} {status : ClaimStatus} {claims : List (Claim P)} {c' : Claim P}
    (h : c' ∈ updateWhere sel (Claim.withStatus now status) claims) :
    ∃ c ∈ claims, SameClaim c c' ∧ (c' = c ∨ sel c = true) := by
  obtain ⟨c, hc, hrow⟩ := mem_updateWhere.mp h
  by_cases hsel : sel c = true
  · rw [if_pos hsel] at hrow
    exact ⟨c, hc, hrow ▸ sameClaim_withStatus now status c, .inr hsel⟩
  · rw [if_neg hsel] at hrow
    exact ⟨c, hc, hrow ▸ SameClaim.refl c, .inl hrow.symm⟩

/-- The draw: every row it touches is a claim of the Spot that is drawn. -/
lemma Waits.drawn (h : Waits db updates) {spot : Spot P} (hspot : db.getSpot spot.id = some spot)
    (hprizedraw : spot.prizeCount.isSome = true) (winners : List ℕ)
    (hheld : SpotsHeld db (((db.failPendingClaimsForSpot spot.id).markPrizedrawWinnersPending
      spot.id winners).1.modifySpotStatus spot.id .completed)) :
    Waits (((db.failPendingClaimsForSpot spot.id).markPrizedrawWinnersPending spot.id winners).1.modifySpotStatus
      spot.id .completed) updates := by
  have hdrawn : (((db.failPendingClaimsForSpot spot.id).markPrizedrawWinnersPending
      spot.id winners).1.modifySpotStatus spot.id .completed).PrizedrawIsDrawn spot.id := by
    refine ⟨{ spot with status := .completed }, ?_, hprizedraw, nofun, nofun⟩
    unfold Db.getSpot at hspot ⊢
    unfold Db.modifySpotStatus
    have hkey : ∀ s : Spot P, ({ s with status := .completed } : Spot P).id = s.id := fun _ => rfl
    dsimp only
    rw [find?_updateWhere_key hkey]
    change ((db.spots.find? fun s => s.id = spot.id).map _) = _
    rw [hspot]
    simp
  refine h.rewritten ?_ ?_ rfl (le_refl _) hheld
  · change (updateWhere _ _ (updateWhere _ _ db.claims)).map Claim.id = _
    have hid : ∀ status (c : Claim P), (c.withStatus db.now status).id = c.id := fun _ _ => rfl
    exact (map_updateWhere (hid .pending)).trans (map_updateWhere (hid .failed))
  · intro c' hc'
    obtain ⟨c₁, hc₁, hsame₁, hmarked⟩ := mem_withStatus hc'
    obtain ⟨c, hc, hsame, hfailed⟩ := mem_withStatus hc₁
    have hkept : c' = c ∨ c'.spotId = spot.id := by
      cases hmarked with
      | inr hsel => exact .inr (hsame₁.spotId.trans (of_decide_eq_true hsel).1)
      | inl heq =>
        cases hfailed with
        | inr hsel => exact .inr (heq ▸ hsame.spotId.trans (of_decide_eq_true hsel).1)
        | inl heq' => exact .inl (heq.trans heq')
    cases hkept with
    | inl heq => exact .same (heq ▸ hc)
    | inr hof => exact .drawn hc (hsame.then hsame₁) (hof ▸ hdrawn)

/-- Whatever else is written, no claim that waits is decided. -/
lemma Waits.dbWrite (h : Waits db updates) (hwrite : DbWrite cfg elsewherePermit db db') : Waits db' updates := by
  have hheld := hwrite.spotsHeld
  cases hwrite with
  | claim hwrite => exact h.claimWrite hwrite.ready
  | clock now hnow => exact h.sameClaims rfl rfl hnow hheld
  | drawn hspot _ hprizedraw _ _ => exact h.drawn hspot hprizedraw _ hheld
  | @paid claim hclaim hdrawn =>
    refine h.updated rfl (fun _ => rfl) ?_ rfl (le_refl _) hheld
    intro c hc hsel
    have hfound := (find?_key_eq_some h.keys).mpr ⟨hc, of_decide_eq_true hsel⟩
    have hsame : c = claim := Option.some.inj (hfound.symm.trans hclaim)
    exact .drawn hc (sameClaim_withStatus db.now .success c) (hsame ▸ hdrawn)
  | banned => exact h.failedRows _
  | undrafted _ _ _ hunclaimed => exact h.sameClaims (deleteSpot_claims hunclaimed) rfl (le_refl _) hheld
  | _ => exact h.sameClaims rfl rfl (le_refl _) hheld

lemma Waits.dbWrites (h : Waits db updates) (hwrites : DbWrites cfg elsewherePermit db db') : Waits db' updates := by
  induction hwrites with
  | refl => exact h
  | tail _ hwrite ih => exact ih.dbWrite hwrite

end Writes

section Refresh

variable {cfg : Settings P} {db : Db P} {claimId userId : ℕ} {position : P} {accuracy : Option ℚ}

lemma readyForSuccess_of_spot {claim : Claim P} {spot : Spot P} (hspot : db.getSpot claim.spotId = some spot)
    (h : spot.claimDuration ≠ 0 → DueAndFresh db claim spot) : ReadyForSuccess db claim := by
  right
  intro found hfound hduration
  have hsame : found = spot := Option.some.inj (hfound.symm.trans hspot)
  rw [hsame] at hduration ⊢
  exact h hduration

/-- A refresh decides its claim with one write, or leaves it: fresh, and not due. -/
lemma refresh_ready (cfg : Settings P) (db : Db P) (claimId : ℕ) :
    (refreshClaimStatusFromConditions (installedPromoter cfg) db claimId = (db, db.getClaim claimId) ∧
      ∀ claim spot, db.getClaim claimId = some claim → claim.status = .pending →
        db.getSpot claim.spotId = some spot → spot.isCompletedPrizedraw = false → StillWaits db claim spot) ∨
    ClaimWrite readyPermit db (refreshClaimStatusFromConditions (installedPromoter cfg) db claimId).1 ∧
    ∃ claim status, db.getClaim claimId = some claim ∧ status ≠ .pending ∧
      (refreshClaimStatusFromConditions (installedPromoter cfg) db claimId).2 =
        some (claim.withStatus db.now status) := by
  apply refresh_admitted
  intro claim spot _ _ hspot _
  refine ⟨nofun, ?_⟩
  intro hdue _ _ _
  exact readyForSuccess_of_spot hspot fun hlong => hdue.resolve_left hlong

lemma refresh_claimWrites (cfg : Settings P) (db : Db P) (claimId : ℕ) :
    ClaimWrites readyPermit db (refreshClaimStatusFromConditions (installedPromoter cfg) db claimId).1 := by
  cases refresh_ready cfg db claimId with
  | inl hsame => rw [hsame.1]
  | inr hwrite => exact .single hwrite.1

end Refresh

section Heartbeats

/-- The penalty of the position a heartbeat reports, where the distance can be taken. -/
def reportedPenalty (cfg : Settings P) (db : Db P) (claim : Claim P) (position : P) (accuracy : Option ℚ) : Option ℚ :=
  match getClaimDistanceCheck cfg db claim.spotId position accuracy with
  | .ok (some check) => some (durationClaimPenalty check.effectiveDistanceMetres check.radiusMetres)
  | _ => none

/-- The penalty of a heartbeat that reaches its claim. -/
def acceptedPenalty (cfg : Settings P) (db : Db P) (claimId userId : ℕ) (position : P) (accuracy : Option ℚ) :
    Option ℚ :=
  match db.getClaim claimId with
  | none => none
  | some claim =>
    if claim.recipient ≠ userId then none
    else
      let refreshed := refreshClaimStatusFromConditions (installedPromoter cfg) db claimId
      match refreshed.2 with
      | none => none
      | some claim =>
        if claim.status ≠ .pending then none
        else match refreshed.1.getSpot claim.spotId with
          | none => none
          | some spot =>
            if spot.claimDuration = 0 then none else reportedPenalty cfg refreshed.1 claim position accuracy

/-- An accepted update is noted under its claim. -/
def accept (updates : ℕ → List (ℕ × ℚ)) (claimId now : ℕ) : Option ℚ → ℕ → List (ℕ × ℚ)
  | none => updates
  | some penalty => Function.update updates claimId ((now, penalty) :: updates claimId)

variable {cfg : Settings P} {db : Db P} {updates : ℕ → List (ℕ × ℚ)} {claim : Claim P} {spot : Spot P} {position : P}
  {accuracy : Option ℚ}

/-- Where a heartbeat moves its claim, the wait goes on or the claim has failed. -/
lemma Waits.moved (h : Waits db updates) (hclaim : db.getClaim claim.id = some claim) (hpending : claim.status = .pending)
    (hfresh : ¬ db.PrizedrawIsDrawn claim.spotId → db.now - claim.updatedAt ≤ claimLocationStaleAfterSeconds)
    {penalty score : ℚ} {status : ClaimStatus} (hpenalty : IsPenalty penalty) (hscore : score = nextScore claim.accuracy penalty)
    (hstatus : status = .pending ∧ 0 < score ∨ status = .failed) (position : P) :
    Waits (db.modifyClaimLocationScore claim.id position score status)
      (accept updates claim.id db.now (some penalty)) := by
  have hmem : claim ∈ db.claims := List.mem_of_find?_eq_some hclaim
  have hclaims := modifyClaimLocationScore_claims db claim.id position score status
  have hother : ∀ id, id ≠ claim.id → accept updates claim.id db.now (some penalty) id = updates id := fun id hid =>
    Function.update_of_ne hid _ _
  have hthis : accept updates claim.id db.now (some penalty) claim.id = (db.now, penalty) :: updates claim.id :=
    Function.update_self _ _ _
  -- Every row is an old one under another id, or the row that moved.
  have hrows : ∀ c' ∈ (db.modifyClaimLocationScore claim.id position score status).claims,
      c' ∈ db.claims ∧ c'.id ≠ claim.id ∨
      c' = { claim with
        position := position, accuracy := max 0 (min 1 score), status := status, updatedAt := db.now } := by
    intro c' hc'
    rw [hclaims] at hc'
    obtain ⟨c, hc, hrow⟩ := mem_updateWhere.mp hc'
    by_cases hid : c.id = claim.id
    · have hfound := (find?_key_eq_some h.keys).mpr ⟨hc, hid⟩
      have hsame : c = claim := Option.some.inj (hfound.symm.trans hclaim)
      rw [if_pos (decide_eq_true hid), hsame] at hrow
      exact .inr hrow.symm
    · rw [if_neg (fun hsel => hid (of_decide_eq_true hsel))] at hrow
      rw [← hrow]
      exact .inl ⟨hc, hid⟩
  have hids : (db.modifyClaimLocationScore claim.id position score status).claims.map Claim.id =
      db.claims.map Claim.id := by
    rw [hclaims]
    exact map_updateWhere fun _ => rfl
  refine ⟨?_, ?_, ?_, ?_, ?_, ?_⟩
  · rw [hids]
    exact h.keys
  · intro c' hc'
    cases hrows c' hc' with
    | inl hold => exact h.counted c' hold.1
    | inr hmoved =>
      rw [hmoved]
      exact h.counted claim hmem
  · intro id hid
    have hne : id ≠ claim.id := by
      have hle := h.counted claim hmem
      have hlt : db.claimSeq < id := hid
      omega
    rw [hother id hne]
    exact h.unused id hid
  · intro c' hc'
    cases hrows c' hc' with
    | inl hold => exact h.placed c' hold.1
    | inr hmoved =>
      rw [hmoved]
      exact h.placed claim hmem
  · intro c' hc' found hfound hduration hopen hwaits
    cases hrows c' hc' with
    | inl hold =>
      rw [hother c'.id hold.2]
      exact h.waiting c' hold.1 found hfound hduration hopen hwaits
    | inr hmoved =>
      have hstill : status = .pending := by
        rw [hmoved] at hwaits
        exact hwaits
      have hpositive : 0 < score := by
        cases hstatus with
        | inl hkept => exact hkept.2
        | inr hfailed =>
          rw [hfailed] at hstill
          cases hstill
      have hof : c'.spotId = claim.spotId := by rw [hmoved]
      rw [hof] at hfound hopen
      have hwaiting := h.waiting claim hmem found hfound hduration hopen hpending
      rw [hscore] at hpositive
      have hnext := hwaiting.update (hfresh hopen) hpenalty hpositive position
      rw [hmoved, hstill, hscore]
      dsimp only
      rw [hthis]
      exact hnext
  · intro c' hc' found hfound hduration hopen hsuccess
    cases hrows c' hc' with
    | inl hold =>
      rw [hother c'.id hold.2]
      exact h.waited c' hold.1 found hfound hduration hopen hsuccess
    | inr hmoved =>
      rw [hmoved] at hsuccess
      have hdecided : status = .success := hsuccess
      cases hstatus with
      | inl hkept =>
        rw [hkept.1] at hdecided
        cases hdecided
      | inr hfailed =>
        rw [hfailed] at hdecided
        cases hdecided

/-- A recorded heartbeat notes its update, or it was refused and nothing was written. -/
lemma recordHeartbeat_waits (h : Waits db updates) (hclaim : db.getClaim claim.id = some claim)
    (hpending : claim.status = .pending) (hspot : db.getSpot claim.spotId = some spot)
    (hopen : ¬ db.PrizedrawIsDrawn claim.spotId → db.now - claim.updatedAt ≤ claimLocationStaleAfterSeconds ∧
      ¬ claim.claimedAt + spot.claimDuration ≤ db.now) :
    (∃ e, recordHeartbeat cfg (installedPromoter cfg) db claim spot position accuracy = (db, .error e) ∧
      reportedPenalty cfg db claim position accuracy = none) ∨
    ∃ answer, (recordHeartbeat cfg (installedPromoter cfg) db claim spot position accuracy).2 = .ok answer ∧
      Waits (recordHeartbeat cfg (installedPromoter cfg) db claim spot position accuracy).1
        (accept updates claim.id db.now (reportedPenalty cfg db claim position accuracy)) := by
  unfold recordHeartbeat reportedPenalty
  cases getClaimDistanceCheck cfg db claim.spotId position accuracy with
  | error e => exact .inl ⟨e, rfl, rfl⟩
  | ok found =>
    cases found with
    | none => exact .inr ⟨claim, rfl, h⟩
    | some check =>
      right
      dsimp only
      have hpenalty := durationClaimPenalty_isPenalty check.effectiveDistanceMetres check.radiusMetres
      generalize durationClaimPenalty check.effectiveDistanceMetres check.radiusMetres = penalty at hpenalty ⊢
      generalize hscore : nextScore claim.accuracy penalty = score
      by_cases hpositive : 0 < score
      · rw [if_neg (not_le.mpr hpositive)]
        have hmoved := h.moved hclaim hpending (fun hnotDrawn => (hopen hnotDrawn).1) hpenalty hscore.symm
          (.inl ⟨rfl, hpositive⟩) position
        have hfound := getClaim_modifyClaimLocationScore hclaim position score
        by_cases hdue : claim.claimedAt + spot.claimDuration ≤ db.now
        · -- Only a drawn Prizedraw leaves a claim PENDING whose time is up.
          rw [if_pos ⟨hpositive, hdue⟩]
          have hready : ReadyForSuccess (db.modifyClaimLocationScore claim.id position score .pending)
              (claim.moved db.now position score) := by
            left
            by_contra hnotDrawn
            exact (hopen hnotDrawn).2 hdue
          obtain ⟨hwrite, status, -, hanswer⟩ :=
            @installedPromoter_settles _ _ readyPermit _ _ _ hfound rfl hspot cfg fun _ _ _ => hready
          rw [hanswer]
          exact ⟨_, rfl, hmoved.claimWrite hwrite⟩
        · rw [if_neg (fun hboth => hdue hboth.2)]
          dsimp only
          rw [hfound]
          exact ⟨_, rfl, hmoved⟩
      · rw [if_neg (fun hboth => hpositive hboth.1), if_pos (not_lt.mp hpositive)]
        have hmoved := h.moved hclaim hpending (fun hnotDrawn => (hopen hnotDrawn).1) hpenalty hscore.symm
          (.inr rfl) position
        have hstays : ∃ c, (db.modifyClaimLocationScore claim.id position score .failed).getClaim claim.id = some c := by
          have hids : (db.modifyClaimLocationScore claim.id position score .failed).claims.map Claim.id =
              db.claims.map Claim.id := by
            rw [modifyClaimLocationScore_claims]
            exact map_updateWhere fun _ => rfl
          have hmem : claim.id ∈ (db.modifyClaimLocationScore claim.id position score .failed).claims.map Claim.id := by
            rw [hids]
            exact List.mem_map_of_mem (List.mem_of_find?_eq_some hclaim)
          obtain ⟨c, hc, hid⟩ := List.mem_map.mp hmem
          exact ⟨c, (find?_key_eq_some hmoved.keys).mpr ⟨hc, hid⟩⟩
        obtain ⟨c, hc⟩ := hstays
        dsimp only
        rw [hc]
        exact ⟨c, rfl, hmoved⟩

end Heartbeats

section Runs

/-- The tables, with the accepted updates of every claim, newest first. -/
structure WaitRun (P : Type) where
  db : Db P
  updates : ℕ → List (ℕ × ℚ)

inductive WaitOp (P : Type)
  | claim (req : ClaimRequest P)
  | heartbeat (claimId userId : ℕ) (position : P) (accuracy : Option ℚ)
  /-- A condition refresh of the background pass, or a detail view. -/
  | refresh (claimId : ℕ)
  | settlePrizedraw (spotId : ℕ) (sample : Sampler P)
  | retryPrizedrawPayouts (spotId : ℕ)
  | elsewhere (db : Db P)

namespace WaitRun

def step (cfg : Settings P) (s : WaitRun P) : WaitOp P → WaitRun P
  | .claim req => { s with db := claimRoute cfg s.db req }
  | .heartbeat claimId userId position accuracy =>
    { db := claimLocationHeartbeatApi cfg s.db claimId userId position accuracy
      updates := accept s.updates claimId s.db.now (acceptedPenalty cfg s.db claimId userId position accuracy) }
  | .refresh claimId => { s with db := (refreshClaimStatusFromConditions (installedPromoter cfg) s.db claimId).1 }
  | .settlePrizedraw spotId sample => { s with db := (settlePrizedrawSpotIfReady sample s.db spotId).1 }
  | .retryPrizedrawPayouts spotId => { s with db := (retryPendingPrizedrawPayoutsForSpot s.db spotId).1 }
  | .elsewhere db => { s with db := db }

/-- Elsewhere the application writes what it writes, but enters, moves and decides no claim that waits. -/
def Allowed (cfg : Settings P) (s : WaitRun P) : WaitOp P → Prop
  | .elsewhere db => DbWrites cfg elsewherePermit s.db db
  | _ => True

structure Sound (s : WaitRun P) : Prop where
  numbered : Numbered s.db
  waits : Waits s.db s.updates

variable {cfg : Settings P} {s : WaitRun P} {claimId userId : ℕ} {position : P} {accuracy : Option ℚ}

lemma Sound.claimWrites (h : s.Sound) {db : Db P} (hwrites : ClaimWrites readyPermit s.db db) :
    Sound { s with db := db } :=
  ⟨hwrites.numbered h.numbered, h.waits.claimWrites hwrites⟩

lemma Sound.dbWrites (h : s.Sound) {db : Db P} (hwrites : DbWrites cfg elsewherePermit s.db db) :
    Sound { s with db := db } :=
  ⟨hwrites.numbered h.numbered, h.waits.dbWrites hwrites⟩

lemma Sound.claim (h : s.Sound) (req : ClaimRequest P) : Sound { s with db := claimRoute cfg s.db req } := by
  have hpermit : EntryPermitted readyPermit cfg s.db req := by
    refine ⟨fun _ _ _ _ _ => trivial, ?_⟩
    intro spot claim entered henters hzero status _
    obtain ⟨address, hclaim⟩ := henters.inserted
    obtain ⟨markers, attempts, hentered, -⟩ := henters.attempts
    have hspot : entered.getSpot claim.spotId = some spot := by
      rw [hentered, hclaim]
      exact getPublicSpot_getSpot henters.found
    exact readyForSuccess_of_spot hspot fun hlong => absurd hzero hlong
  have hwrites := claimRoute_writes h.numbered.keyed hpermit
  unfold claimRoute
  generalize installedCreateClaimAttempt cfg s.db req = outcome at hwrites
  obtain ⟨db, e | claim⟩ := outcome
  · dsimp only
    split_ifs
    · exact h.claimWrites hwrites
    · exact h
  · exact h.claimWrites hwrites

/-- A heartbeat: the refresh in front decides the claim, or the update is noted. -/
lemma Sound.heartbeat (h : s.Sound) :
    Sound (step cfg s (.heartbeat claimId userId position accuracy)) := by
  have hnumbered : Numbered (claimLocationHeartbeatApi cfg s.db claimId userId position accuracy) :=
    (claimLocationHeartbeatApi_dbWrites (admitted_all _)).numbered h.numbered
  refine ⟨hnumbered, ?_⟩
  have hwaits := h.waits
  have hrewrites := refresh_claimWrites cfg s.db claimId
  change Waits (claimLocationHeartbeatApi cfg s.db claimId userId position accuracy)
    (accept s.updates claimId s.db.now (acceptedPenalty cfg s.db claimId userId position accuracy))
  unfold claimLocationHeartbeatApi processDurationClaimLocationHeartbeat acceptedPenalty
  cases hclaim : s.db.getClaim claimId with
  | none =>
    dsimp only
    split_ifs <;> exact hwaits
  | some claim =>
    have hid := getClaim_id hclaim
    dsimp only
    by_cases howner : claim.recipient = userId
    · rw [if_neg (not_not_intro howner), if_neg (not_not_intro howner)]
      cases refresh_ready cfg s.db claimId with
      | inr hdecided =>
        obtain ⟨hwrite, found, status, -, hne, hanswer⟩ := hdecided
        rw [hanswer]
        dsimp only
        have hnot : (found.withStatus s.db.now status).status ≠ .pending := hne
        rw [if_pos hnot, if_pos hnot]
        exact hwaits.claimWrite hwrite
      | inl hleft =>
        rw [hleft.1, hclaim]
        dsimp only
        by_cases hpending : claim.status = .pending
        · rw [if_neg (not_not_intro hpending), if_neg (not_not_intro hpending)]
          cases hspot : s.db.getSpot claim.spotId with
          | none => exact hwaits
          | some spot =>
            have hopen : ¬ s.db.PrizedrawIsDrawn claim.spotId → spot.claimDuration ≠ 0 ∧
                s.db.now - claim.updatedAt ≤ claimLocationStaleAfterSeconds ∧
                ¬ claim.claimedAt + spot.claimDuration ≤ s.db.now := by
              intro hnotDrawn
              apply hleft.2 claim spot hclaim hpending hspot
              by_contra hcompleted
              have hboth : spot.status = .completed ∧ spot.prizeCount.isSome = true :=
                of_decide_eq_true (Bool.not_eq_false _ ▸ hcompleted)
              exact hnotDrawn ⟨spot, hspot, hboth.2, by rw [hboth.1]; nofun, by rw [hboth.1]; nofun⟩
            dsimp only
            by_cases hzero : spot.claimDuration = 0
            · rw [if_pos hzero, if_pos hzero]
              have hready := readyForSuccess_of_spot hspot fun hlong => absurd hzero hlong
              obtain ⟨hwrite, status, -, hanswer⟩ :=
                @installedPromoter_settles _ _ readyPermit _ _ _ hclaim hpending hspot cfg fun _ _ _ => hready
              rw [hanswer]
              exact hwaits.claimWrite hwrite
            · rw [if_neg hzero, if_neg hzero]
              subst hid
              have hrecorded := @recordHeartbeat_waits P cfg s.db s.updates claim spot position accuracy hwaits hclaim
                hpending hspot fun hnotDrawn => (hopen hnotDrawn).2
              cases hrecorded with
              | inl hrefused =>
                obtain ⟨e, houtcome, hnone⟩ := hrefused
                rw [houtcome, hnone]
                dsimp only
                split_ifs <;> exact hwaits
              | inr hkept =>
                obtain ⟨answer, hanswer, hmoved⟩ := hkept
                generalize recordHeartbeat cfg (installedPromoter cfg) s.db claim spot position accuracy = outcome
                  at hanswer hmoved
                obtain ⟨db, result⟩ := outcome
                have hok : result = .ok answer := hanswer
                rw [hok]
                exact hmoved
        · rw [if_pos hpending, if_pos hpending]
          exact hwaits
    · rw [if_pos howner, if_pos howner]
      dsimp only
      split_ifs <;> exact hwaits

lemma Sound.step (h : s.Sound) {op : WaitOp P} (hallowed : Allowed cfg s op) : Sound (step cfg s op) := by
  cases op with
  | claim req => exact h.claim req
  | heartbeat claimId userId position accuracy => exact h.heartbeat
  | refresh claimId => exact h.claimWrites (refresh_claimWrites cfg s.db claimId)
  | settlePrizedraw spotId sample =>
    have hwrites : DbWrites cfg elsewherePermit s.db (settlePrizedrawSpotIfReady sample s.db spotId).1 :=
      settlePrizedrawSpotIfReady_writes sample spotId fun _ _ _ => trivial
    exact h.dbWrites hwrites
  | retryPrizedrawPayouts spotId =>
    have hwrites : DbWrites cfg elsewherePermit s.db (retryPendingPrizedrawPayoutsForSpot s.db spotId).1 :=
      retryPendingPrizedrawPayoutsForSpot_writes h.numbered.keyed spotId
    exact h.dbWrites hwrites
  | elsewhere db => exact h.dbWrites hallowed

lemma sound_initial {db : Db P} (hnumbered : Numbered db) (hclaims : db.claims = []) :
    Sound (⟨db, fun _ => []⟩ : WaitRun P) := by
  have hnone : ∀ c, c ∉ db.claims := by
    rw [hclaims]
    exact fun c hc => List.not_mem_nil hc
  exact ⟨hnumbered, hnumbered.keyed.claimKeys, fun c hc => absurd hc (hnone c), fun _ _ => rfl,
    fun c hc => absurd hc (hnone c), fun c hc => absurd hc (hnone c), fun c hc => absurd hc (hnone c)⟩

/-- A claim with a duration that is SUCCESS has waited, unless it is a winner's claim of a Prizedraw that is over. -/
theorem duration_claims_wait (cfg : Settings P) {db : Db P} {ops : List (WaitOp P)} (hnumbered : Numbered db)
    (hclaims : db.claims = []) (hrun : Admissible (step cfg) (Allowed cfg) ⟨db, fun _ => []⟩ ops) {claim : Claim P}
    {spot : Spot P} (hclaim : claim ∈ (run (step cfg) ⟨db, fun _ => []⟩ ops).db.claims)
    (hsuccess : claim.status = .success)
    (hspot : (run (step cfg) ⟨db, fun _ => []⟩ ops).db.getSpot claim.spotId = some spot)
    (hduration : spot.claimDuration ≠ 0)
    (hopen : ¬ (run (step cfg) ⟨db, fun _ => []⟩ ops).db.PrizedrawIsDrawn claim.spotId) :
    GenuineWait spot.claimDuration claim.claimedAt claim.updatedAt
      ((run (step cfg) ⟨db, fun _ => []⟩ ops).updates claim.id) := by
  have hpreserved : ∀ (s : WaitRun P) (op : WaitOp P), Allowed cfg s op → s.Sound → (step cfg s op).Sound :=
    fun _ _ hallowed h => h.step hallowed
  have hsound := run_invariant hpreserved hrun (sound_initial hnumbered hclaims)
  exact hsound.waits.waited claim hclaim spot hspot hduration hopen hsuccess

section Witness

/-- One place, held for a minute; `prizeCount` makes it a Prizedraw. -/
def minuteSpot (position : P) (prizeCount : Option ℕ) : Db P :=
  { (Db.empty : Db P) with
    now := 100
    users := [{ id := 1, status := .active }, { id := 2, status := .active }]
    spots := [{
      id := 1, createdBy := 1, depositAddress := "NQ", position := some position, radius := 50, claimDuration := 60
      maxClaimsPerUser := 1, maxTotalClaims := 1, usePassword := false, totalValue := lunaPerNim, creationFee := 0
      startsAt := some 10, endsAt := 1000, status := .published, cancellationStartedAt := none
      prizeCount := prizeCount }]
    spotSeq := 1
    userBindings := [(2, "NQ02")] }

lemma minuteSpot_numbered (position : P) (prizeCount : Option ℕ) : Numbered (minuteSpot position prizeCount) := by
  refine ⟨⟨List.nodup_singleton _, List.nodup_nil, nofun, List.nodup_nil, nofun, List.nodup_nil, nofun⟩, ?_⟩
  intro s hs
  rw [List.mem_singleton.mp hs]
  exact le_refl 1

def minuteClaim : WaitOp Unit := .claim ⟨1, 2, (), none, none, none⟩

/-- The clock moves on. -/
def pause (prizeCount : Option ℕ) (now : ℕ) (ops : List (WaitOp Unit)) : WaitOp Unit :=
  .elsewhere { (run (step Settings.onePlace) ⟨minuteSpot () prizeCount, fun _ => []⟩ ops).db with now := now }

/-- A claim, a heartbeat after half a minute, and a refresh once the minute is over. -/
def minuteHeld : List (WaitOp Unit) :=
  let half := [minuteClaim, pause none 130 [minuteClaim], .heartbeat 1 2 () none]
  half ++ [pause none 160 half, .refresh 1]

theorem duration_claims_wait_minute :
    (run (step Settings.onePlace) ⟨minuteSpot () none, fun _ => []⟩ minuteHeld).db.claims.all
      (fun claim => claim.id = 1 ∧ claim.status = .success) = true ∧
    GenuineWait 60 100 160 [(130, 0)] := by
  have hfound : (run (step Settings.onePlace) ⟨minuteSpot () none, fun _ => []⟩ minuteHeld).db.claims =
      [⟨1, 1, 2, some "NQ02", (), 1, .success, 100, 160⟩] := by decide +kernel
  have hupdates : (run (step Settings.onePlace) ⟨minuteSpot () none, fun _ => []⟩ minuteHeld).updates 1 = [(130, 0)] := by
    decide +kernel
  have hspot : (run (step Settings.onePlace) ⟨minuteSpot () none, fun _ => []⟩ minuteHeld).db.getSpot 1 =
      (minuteSpot () none).getSpot 1 := by decide +kernel
  have hallowed : Admissible (step Settings.onePlace) (Allowed Settings.onePlace)
      ⟨minuteSpot () none, fun _ => []⟩ minuteHeld :=
    ⟨trivial, .single (.clock 130 (by decide +kernel)), trivial, .single (.clock 160 (by decide +kernel)), trivial,
      trivial⟩
  refine ⟨by rw [hfound]; decide, ?_⟩
  have hwaited := duration_claims_wait Settings.onePlace (minuteSpot_numbered () none) rfl hallowed
    (hfound ▸ List.mem_singleton_self _) rfl hspot (by decide) (by
      rintro ⟨spot, hof, hprizedraw, -⟩
      rw [hspot] at hof
      rw [← Option.some.inj hof] at hprizedraw
      cases hprizedraw)
  rw [hupdates] at hwaited
  exact hwaited

/-- The entry of a Prizedraw is held for its minute and drawn; its payout is confirmed a quarter of an hour later. -/
def minuteWon : List (WaitOp Unit) :=
  let drawn := [minuteClaim, pause (some 1) 160 [minuteClaim], .refresh 1, .settlePrizedraw 1 fun claims _ => claims]
  let late := drawn ++ [pause (some 1) 1000 drawn]
  late ++ [
    .elsewhere { (run (step Settings.onePlace) ⟨minuteSpot () (some 1), fun _ => []⟩ late).db with
      trans := [⟨1, 2, some 1, some 1, .claim, lunaPerNim, "NQ", "NQ02", "hash", .confirmed, 900⟩]
      transSeq := 1 },
    .retryPrizedrawPayouts 1]

/-- Positions on a line. -/
def Settings.line : Settings ℚ where
  distanceMetres := fun x y => |x - y|
  publicDeployment := true
  walletHourlyClaimLimit := 20
  cleanOptionalNimiqAddress := .ok
  strip := id
  upper := id

/-- A claim, ten heartbeats from ten metres outside the radius, and a refresh once the minute is over. -/
def minuteOutside : List (WaitOp ℚ) :=
  let outside := .claim ⟨1, 2, 0, none, none, none⟩ :: List.replicate 10 (.heartbeat 1 2 60 none)
  outside ++ [.elsewhere { (run (step Settings.line) ⟨minuteSpot 0 none, fun _ => []⟩ outside).db with now := 160 },
    .refresh 1]

/-- The winner's claim turns SUCCESS with the payout, long after its last update.  And ten penalties of a tenth, which
add up to one, leave a score above zero. -/
theorem drawn_winner_succeeds_late :
    (Admissible (step Settings.line) (Allowed Settings.line) ⟨minuteSpot 0 none, fun _ => []⟩ minuteOutside ∧
      (run (step Settings.line) ⟨minuteSpot 0 none, fun _ => []⟩ minuteOutside).db.claims.map Claim.status = [.success] ∧
      (((run (step Settings.line) ⟨minuteSpot 0 none, fun _ => []⟩ minuteOutside).updates 1).map Prod.snd).sum = 1) ∧
    ¬ ∀ (cfg : Settings Unit) (db : Db Unit) (ops : List (WaitOp Unit)), Numbered db → db.claims = [] →
      Admissible (step cfg) (Allowed cfg) ⟨db, fun _ => []⟩ ops →
      ∀ claim ∈ (run (step cfg) ⟨db, fun _ => []⟩ ops).db.claims, claim.status = .success → ∀ spot,
        (run (step cfg) ⟨db, fun _ => []⟩ ops).db.getSpot claim.spotId = some spot → spot.claimDuration ≠ 0 →
        GenuineWait spot.claimDuration claim.claimedAt claim.updatedAt
          ((run (step cfg) ⟨db, fun _ => []⟩ ops).updates claim.id) := by
  have hallowedOutside : Admissible (step Settings.line) (Allowed Settings.line) ⟨minuteSpot 0 none, fun _ => []⟩
      minuteOutside :=
    ⟨trivial, trivial, trivial, trivial, trivial, trivial, trivial, trivial, trivial, trivial, trivial,
      .single (.clock 160 (by decide +kernel)), trivial, trivial⟩
  refine ⟨⟨hallowedOutside, by decide +kernel, by decide +kernel⟩, ?_⟩
  intro hall
  have hfound : (run (step Settings.onePlace) ⟨minuteSpot () (some 1), fun _ => []⟩ minuteWon).db.claims =
      [⟨1, 1, 2, some "NQ02", (), 1, .success, 100, 1000⟩] := by decide +kernel
  have hupdates : (run (step Settings.onePlace) ⟨minuteSpot () (some 1), fun _ => []⟩ minuteWon).updates 1 = [] := by
    decide +kernel
  have hspot : ((run (step Settings.onePlace) ⟨minuteSpot () (some 1), fun _ => []⟩ minuteWon).db.getSpot 1).map
      Spot.claimDuration = some 60 := by decide +kernel
  have hallowed : Admissible (step Settings.onePlace) (Allowed Settings.onePlace)
      ⟨minuteSpot () (some 1), fun _ => []⟩ minuteWon := by
    refine ⟨trivial, .single (.clock 160 (by decide +kernel)), trivial, trivial,
      .single (.clock 1000 (by decide +kernel)), .single (.ledger _ 1 _ ?_), trivial, trivial⟩
    intro _
    exact ⟨List.nodup_singleton _, fun t ht => by rw [List.mem_singleton.mp ht]⟩
  obtain ⟨spot, hof, hduration⟩ := Option.map_eq_some_iff.mp hspot
  have hwaited := hall Settings.onePlace _ minuteWon (minuteSpot_numbered () (some 1)) rfl hallowed _
    (hfound ▸ List.mem_singleton_self _) rfl spot hof (by rw [hduration]; decide)
  rw [hupdates] at hwaited
  have hgap := (List.isChain_cons_cons.mp hwaited.gaps).1.2
  exact absurd hgap (by decide)

end Witness

end WaitRun

end Runs

end NimHunt
