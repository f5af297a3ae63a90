import NimHunt.XAutoPoster
import Mathlib.Data.List.Perm.Basic
import Mathlib.Data.List.Sort

/-!
# Due retries

The limit cuts the due rows before their Spots are looked at, so rows of Spots that have ended may stand in the way of
live ones.
-/

namespace NimHunt

open Lib

variable {P : Type}

section Due

variable {db : Db P} {states : List (ℕ × PostingState)} {now limit : ℕ}

/-- The Spot is there, and active. -/
def Db.isLive (db : Db P) (now spotId : ℕ) : Bool := (db.getSpot spotId).any fun spot => spot.isActiveAt now

end Due

section DeadRow

end DeadRow

end NimHunt
