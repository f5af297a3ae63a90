import NimHunt.System
import NimHunt.Proofs.FairDraw

/-!
# A draw because the Prizedraw is full

Waiting entries count towards the capacity that triggers the draw, and the draw begins by failing them:
an entry that has not passed by then is left out.  What has passed stays in, and is enough for a winner.
-/

namespace NimHunt

open Lib

variable {P : Type}

/-- What a capacity draw leaves of the entries. -/
structure KeepsCompleted (db : Db P) (spotId : ℕ) (winners : List ℕ) (outcome : Outcome P SettlementResult) :
    Prop where
  rows : outcome.1.claims.length = db.claims.length
  failed : ∀ c ∈ db.claims, ∃ c' ∈ outcome.1.claims, c'.id = c.id ∧
    (c'.status = .failed ↔ c.status = .failed ∨ c.spotId = spotId ∧ c.status = .pending)
  drawn : ∃ result, outcome.2 = .ok result ∧ result.settled = true ∧ result.winnerClaimIds.Perm winners
  nonempty : entries db spotId ≠ [] → winners ≠ []

section Draw

variable {db : Db P} {spot : Spot P} {prizeCount : ℕ} {sample : Sampler P}

lemma drawn_failed_iff (now spotId : ℕ) (winners : List ℕ) (c : Claim P) :
    (Claim.drawn now spotId winners c).status = .failed ↔
      c.status = .failed ∨ c.spotId = spotId ∧ c.status = .pending := by
  unfold Claim.drawn
  by_cases hspot : c.spotId = spotId
  · rw [if_pos hspot]
    cases hstatus : c.status with
    | pending => simp [Claim.withStatus, hspot]
    | failed => simp [hstatus]
    | success =>
      by_cases hwon : c.id ∈ winners
      · simp [hwon, Claim.withStatus]
      · simp [hwon, hstatus]
  · rw [if_neg hspot]
    simp [hspot]

lemma drawn_id (now spotId : ℕ) (winners : List ℕ) (c : Claim P) :
    (Claim.drawn now spotId winners c).id = c.id := by
  unfold Claim.drawn
  split
  · split
    · rfl
    · split_ifs <;> rfl
    · rfl
  · rfl

/-- One completed entry makes at least one winner. -/
lemma winners_nonempty (hsample : IsSampler sample) (hentered : entries db spot.id ≠ []) :
    (sample (db.getSuccessfulClaimsForSpot spot.id)
      (min (max 1 prizeCount) (db.getSuccessfulClaimsForSpot spot.id).length)).map Claim.id ≠ [] := by
  have hentries : 0 < (entries db spot.id).length := List.length_pos_iff.mpr hentered
  have hpage := length_getSuccessfulClaimsForSpot db spot.id
  have hsize := hsample.length (db.getSuccessfulClaimsForSpot spot.id)
    (min (max 1 prizeCount) (db.getSuccessfulClaimsForSpot spot.id).length) (min_le_right _ _)
  have hmax : 0 < maxLimit := by decide
  intro hnone
  rw [List.map_eq_nil_iff] at hnone
  rw [hnone, List.length_nil] at hsize
  omega

end Draw

/-- Whatever has happened before: a draw because the capacity is reached fails the entries that still
wait and no other, and has a winner as soon as one entry has completed. -/
theorem capacity_draw_keeps_completed (store : Store P) (sample : Sampler P) (hsample : IsSampler sample)
    (spot : Spot P) (hspot : store.getSpot spot.id = some spot) (hpublished : spot.status = .published)
    (hprizedraw : spot.prizeCount.isSome = true)
    (hfull : store.settlementReadyReason spot = some "capacity_reached") :
    ∃ winners, KeepsCompleted store.toDb spot.id winners (settlePrizedrawSpotIfReady sample store.toDb spot.id) := by
  obtain ⟨prizeCount, hcount⟩ := Option.isSome_iff_exists.mp hprizedraw
  have hdue : DrawDue store.toDb spot prizeCount := ⟨hspot, hpublished, hcount, _, hfull⟩
  obtain ⟨winners, hsettled, hnonempty⟩ : ∃ winners,
      SettledWith store.toDb spot winners (settlePrizedrawSpotIfReady sample store.toDb spot.id) ∧
        (entries store.toDb spot.id ≠ [] → winners ≠ []) :=
    ⟨_, settle_page store.keyed hdue hsample, winners_nonempty hsample⟩
  refine ⟨winners, ?_, ?_, hsettled.result, hnonempty⟩
  · rw [hsettled.claims, List.length_map]
  · intro c hc
    refine ⟨_, ?_, drawn_id store.now spot.id winners c, drawn_failed_iff store.now spot.id winners c⟩
    rw [hsettled.claims]
    exact List.mem_map_of_mem hc

section FullWhileWaiting

/-- A published Prizedraw with two places and a minute to wait for each. -/
def minuteRaffle : Db Unit :=
  { (Db.empty : Db Unit) with
    now := 100
    users := [{ id := 1, status := .active }, { id := 2, status := .active }, { id := 3, status := .active }]
    spots := [{
      id := 1, createdBy := 1, depositAddress := "NQ", position := some (), radius := 50, claimDuration := 60
      maxClaimsPerUser := 1, maxTotalClaims := 2, usePassword := false, totalValue := 2 * lunaPerNim
      creationFee := 0, startsAt := some 10, endsAt := 1000, status := .published, cancellationStartedAt := none
      prizeCount := some 1 }]
    userBindings := [(2, "NQ02"), (3, "NQ03")]
    spotSeq := 1 }

/-- One of two entries has completed. -/
def halfWaiting : Store Unit where
  toDb := { minuteRaffle with
    claims := [
      { id := 1, spotId := 1, recipient := 2, payoutAddress := none, position := (), accuracy := 1
        status := .success, claimedAt := 20, updatedAt := 80 },
      { id := 2, spotId := 1, recipient := 3, payoutAddress := none, position := (), accuracy := 1
        status := .pending, claimedAt := 90, updatedAt := 90 }]
    claimSeq := 2 }
  keyed := by constructor <;> decide +kernel

theorem capacity_draw_keeps_completed_halfWaiting :
    ∃ spot winners, halfWaiting.getSpot 1 = some spot ∧ KeepsCompleted halfWaiting.toDb 1 winners
      (settlePrizedrawSpotIfReady (chooseIds [1]) halfWaiting.toDb 1) := by
  obtain ⟨spot, hspot⟩ : ∃ spot, halfWaiting.getSpot 1 = some spot := ⟨_, rfl⟩
  have hsame : spot = minuteRaffle.spots.head (by decide) := (Option.some.inj hspot).symm
  subst hsame
  obtain ⟨winners, hkeeps⟩ := capacity_draw_keeps_completed halfWaiting (chooseIds [1]) (chooseIds_isSampler [1])
    (minuteRaffle.spots.head (by decide)) rfl rfl rfl (by decide +kernel)
  exact ⟨_, winners, hspot, hkeeps⟩

/-- Both places are taken within a second. -/
def twoWaiting : Sys Unit :=
  run (step Settings.onePlace) ⟨minuteRaffle, []⟩
    [.claim ⟨1, 2, (), none, none, none⟩, .claim ⟨1, 3, (), none, none, none⟩, .tick 1]

/-- The draw of the next settlement pass. -/
def drawOfTwoWaiting : Outcome Unit SettlementResult :=
  settlePrizedrawSpotIfReady (fun xs k => xs.take k) twoWaiting.db 1

/-- Two entries wait, 59 seconds before they could complete; the draw for capacity fails them both and
has no winner. -/
theorem full_draw_discards_waiting :
    twoWaiting.db.claims.length = 2 ∧
    (∀ c ∈ twoWaiting.db.claims, c.status = .pending ∧ twoWaiting.db.now < c.claimedAt + 60 ∧
      twoWaiting.db.now - c.updatedAt ≤ claimLocationStaleAfterSeconds) ∧
    drawOfTwoWaiting.2 = .ok ⟨true, "capacity_reached", 2, 0, []⟩ ∧
    ∀ c ∈ drawOfTwoWaiting.1.claims, c.status = .failed := by
  decide +kernel

end FullWhileWaiting

end NimHunt
