import Mathlib.Algebra.Order.Field.Rat
import NimHunt.Lib.Text
import NimHunt.Schema

/-!
# Geohashes

`encode_geohash` of `db_access.py`, on exact rationals.
-/

namespace NimHunt

open Lib

def geohashAlphabet : List Char := "0123456789bcdefghjkmnpqrstuvwxyz".toList

def geohashDefaultPrecision : ℤ := 8

lemma length_geohashAlphabet : geohashAlphabet.length = 32 := by decide

/-- `bits[bit]`. -/
def geohashBit (bit : Fin 5) : Fin 32 := List.get [16, 8, 4, 2, 1] bit

/-- `_GEOHASH_ALPHABET[ch]`. -/
def geohashChar (ch : Fin 32) : Char := geohashAlphabet.get (ch.cast length_geohashAlphabet.symm)

/-- The variables of the loop; a character has five bits. -/
structure GeohashLoop where
  latInterval : ℚ × ℚ := (-90, 90)
  lonInterval : ℚ × ℚ := (-180, 180)
  geohash : Text := []
  bit : Fin 5 := 0
  ch : Fin 32 := 0
  evenBit : Bool := true

namespace GeohashLoop

/-- The interval whose turn it is becomes its upper or its lower half. -/
def bisect (lat lon : ℚ) (s : GeohashLoop) : GeohashLoop :=
  if s.evenBit then
    let mid := (s.lonInterval.1 + s.lonInterval.2) / 2
    if mid ≤ lon then { s with ch := s.ch ||| geohashBit s.bit, lonInterval := (mid, s.lonInterval.2) }
    else { s with lonInterval := (s.lonInterval.1, mid) }
  else
    let mid := (s.latInterval.1 + s.latInterval.2) / 2
    if mid ≤ lat then { s with ch := s.ch ||| geohashBit s.bit, latInterval := (mid, s.latInterval.2) }
    else { s with latInterval := (s.latInterval.1, mid) }

/-- The fifth bit completes a character. -/
def advance (s : GeohashLoop) : GeohashLoop :=
  if s.bit < 4 then { s with evenBit := !s.evenBit, bit := s.bit + 1 }
  else { s with evenBit := !s.evenBit, geohash := s.geohash ++ [geohashChar s.ch], bit := 0, ch := 0 }

def body (lat lon : ℚ) (s : GeohashLoop) : GeohashLoop := (s.bisect lat lon).advance

/-- Bits still to be written. -/
def remaining (precision : ℕ) (s : GeohashLoop) : ℕ := 5 * (precision - s.geohash.length) - s.bit

lemma remaining_body {precision : ℕ} {s : GeohashLoop} (lat lon : ℚ) (h : s.geohash.length < precision) :
    remaining precision (s.body lat lon) + 1 = remaining precision s := by
  have hbisect : (s.bisect lat lon).geohash = s.geohash ∧ (s.bisect lat lon).bit = s.bit := by
    unfold bisect
    dsimp only
    split_ifs <;> exact ⟨rfl, rfl⟩
  have hlt := s.bit.isLt
  unfold body advance remaining
  rw [hbisect.1, hbisect.2]
  split_ifs with hbit
  · have hnext : ((s.bit + 1 : Fin 5) : ℕ) = s.bit + 1 := by omega
    dsimp only
    omega
  · have hlast : ((0 : Fin 5) : ℕ) = 0 := rfl
    dsimp only
    rw [List.length_append, List.length_singleton, hlast]
    omega

/-- `while len(geohash) < precision`. -/
def run (lat lon : ℚ) (precision : ℕ) (s : GeohashLoop) : GeohashLoop :=
  if s.geohash.length < precision then run lat lon precision (s.body lat lon) else s
termination_by remaining precision s
decreasing_by
  have := remaining_body lat lon ‹_›
  omega

end GeohashLoop

def encodeGeohash (lat lon : ℚ) (precision : ℤ := geohashDefaultPrecision) : Except Raised Text :=
  if ¬ (-90 ≤ lat ∧ lat ≤ 90) then .error (.valueError "lat must be between -90 and 90")
  else if ¬ (-180 ≤ lon ∧ lon ≤ 180) then .error (.valueError "long must be between -180 and 180")
  else if precision ≤ 0 then .error (.valueError "precision must be positive")
  else .ok (GeohashLoop.run lat lon precision.toNat {}).geohash

end NimHunt
