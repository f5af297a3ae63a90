import NimHunt.DbAccess.Drafts

/-!
# Editing the draft of a Prizedraw

An edit is checked by the validators of a new draft, so what could be created can be asked for.  The Spot row
is written before the Prizedraw row, and its trigger compares the new cap with the old prize count.
-/

namespace NimHunt

open Lib

variable {P : Type}

section Forms

/-- The form of a draft after an edit, with every field filled in. -/
def DraftEdit.form (edit : DraftEdit P) (spot : Spot P) : SpotFields P where
  position := edit.position.getD spot.position
  radius := some (edit.radius.getD spot.radius)
  claimDuration := some (edit.claimDuration.getD spot.claimDuration)
  maxClaimsPerUser := some (edit.maxClaimsPerUser.getD spot.maxClaimsPerUser)
  maxTotalClaims := some (edit.maxTotalClaims.getD spot.maxTotalClaims)
  totalValue := some (edit.totalValue.getD spot.totalValue)
  startsAt := edit.startsAt.getD (spot.startsAt.map (↑))
  endsAt := edit.endsAt.getD (some (spot.endsAt : ℤ))
  usePassword := some (edit.usePassword.getD spot.usePassword)

end Forms

section Validators

end Validators

section Edits

variable {cfg : Settings P} {db : Db P} {spot requested : Spot P} {edit : DraftEdit P} {prizeCount : ℕ}

end Edits

section Defect

end Defect

end NimHunt
