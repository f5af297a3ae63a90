import Mathlib
import NimHunt.ClaimAuthorization

/-!
# What a signature binds

Every field of the signed message stands on a line of its own between fixed labels, and the numbers in it lie within
half a unit of what was submitted, up to one rounding to binary64.
-/

namespace NimHunt.SignedClaim

open Lib

section Message

variable {fields fields' : Fields} {v v' label message : String} {rest rest' : List Char}

/-- The text fields have no line break. -/
structure Fields.OneLined (fields : Fields) : Prop where
  environment : '\n' ∉ fields.environment.toList
  network : '\n' ∉ fields.network.toList
  receivingWallet : '\n' ∉ fields.receivingWallet.toList
  device : '\n' ∉ fields.device.toList
  nonce : '\n' ∉ fields.nonce.toList

lemma newline_notMem_toString (n : ℤ) : '\n' ∉ (toString n).toList := by
  have hdigits : ∀ m : ℕ, '\n' ∉ Nat.toDigits 10 m := by
    intro m hmem
    have hdigit := Nat.isDigit_of_mem_toDigits (by decide) (by decide) hmem
    exact absurd hdigit (by decide)
  cases n with
  | ofNat m =>
    have htext : (toString (Int.ofNat m)).toList = Nat.toDigits 10 m := Nat.toList_repr
    rw [htext]
    exact hdigits m
  | negSucc m =>
    have htext : (toString (Int.negSucc m)).toList = "-".toList ++ (m + 1).repr.toList := String.toList_append
    rw [htext, List.mem_append, Nat.toList_repr]
    rintro (hminus | hmem)
    · exact absurd hminus (by decide)
    · exact hdigits (m + 1) hmem

lemma eq_of_append_newline {xs ys : List Char} (hxs : '\n' ∉ xs) (hys : '\n' ∉ ys)
    (h : xs ++ '\n' :: rest = ys ++ '\n' :: rest') : xs = ys ∧ rest = rest' := by
  induction xs generalizing ys with
  | nil =>
    cases ys with
    | nil => exact ⟨rfl, (List.cons.inj h).2⟩
    | cons y ys => exact absurd ((List.cons.inj h).1 ▸ List.mem_cons_self) hys
  | cons x xs ih =>
    cases ys with
    | nil => exact absurd ((List.cons.inj h).1 ▸ List.mem_cons_self) hxs
    | cons y ys =>
      obtain ⟨hhead, htail⟩ := List.cons.inj h
      obtain ⟨hsame, hrest⟩ := ih (fun hmem => hxs (List.mem_cons_of_mem x hmem))
        (fun hmem => hys (List.mem_cons_of_mem y hmem)) htail
      exact ⟨by rw [hhead, hsame], hrest⟩

/-- A value ends where its line does. -/
lemma field_inj (hlabel : label.toList.head? = some '\n') (hv : '\n' ∉ v.toList) (hv' : '\n' ∉ v'.toList)
    (h : v.toList ++ (label.toList ++ rest) = v'.toList ++ (label.toList ++ rest')) : v = v' ∧ rest = rest' := by
  obtain ⟨tail, htail⟩ : ∃ tail, label.toList = '\n' :: tail := List.head?_eq_some_iff.mp hlabel
  rw [htail, List.cons_append, List.cons_append] at h
  obtain ⟨hvalue, hrest⟩ := eq_of_append_newline hv hv' h
  exact ⟨String.toList_inj.mp hvalue, List.append_cancel_left hrest⟩

/-- Messages are equal only if all their fields are. -/
lemma buildMessage_inj (h : fields.OneLined) (h' : fields'.OneLined) (hmessage : buildMessage fields "claim" = .ok message)
    (hmessage' : buildMessage fields' "claim" = .ok message) : fields = fields' := by
  unfold buildMessage at hmessage hmessage'
  rw [if_neg (by decide)] at hmessage hmessage'
  split_ifs at hmessage hmessage' with hspot hspot'
  have heq := congrArg String.toList ((Except.ok.inj hmessage).trans (Except.ok.inj hmessage').symm)
  simp only [String.toList_append, List.append_assoc] at heq
  have heq := List.append_cancel_left heq
  obtain ⟨henvironment, heq⟩ := field_inj rfl h.environment h'.environment heq
  obtain ⟨hnetwork, heq⟩ := field_inj rfl h.network h'.network heq
  obtain ⟨hspotId, heq⟩ := field_inj rfl (newline_notMem_toString _) (newline_notMem_toString _) heq
  obtain ⟨hwallet, heq⟩ := field_inj rfl h.receivingWallet h'.receivingWallet heq
  obtain ⟨hdevice, heq⟩ := field_inj rfl h.device h'.device heq
  obtain ⟨hlatitude, heq⟩ := field_inj rfl (newline_notMem_toString _) (newline_notMem_toString _) heq
  obtain ⟨hlongitude, heq⟩ := field_inj rfl (newline_notMem_toString _) (newline_notMem_toString _) heq
  obtain ⟨haccuracy, heq⟩ := field_inj rfl (newline_notMem_toString _) (newline_notMem_toString _) heq
  obtain ⟨hnonce, heq⟩ := field_inj rfl h.nonce h'.nonce heq
  obtain ⟨hissued, heq⟩ := field_inj rfl (newline_notMem_toString _) (newline_notMem_toString _) heq
  have hexpires := String.toList_inj.mp (List.append_cancel_right heq)
  have hlocation : fields.location = fields'.location := by
    have hlat := Int.repr_injective hlatitude
    have hlong := Int.repr_injective hlongitude
    have hacc := Int.repr_injective haccuracy
    cases hfirst : fields.location
    cases hsecond : fields'.location
    simp only [hfirst, hsecond] at hlat hlong hacc
    rw [hlat, hlong, hacc]
  cases fields
  cases fields'
  simp only at *
  rw [henvironment, hnetwork, Int.repr_injective hspotId, hwallet, hdevice, hlocation, hnonce,
    Int.repr_injective hissued, Int.repr_injective hexpires]

/-- The message of a prepared authorization is the one these fields give. -/
lemma buildMessage_prepared (host : SecurityHost) (now expiresAt : ℕ) (walletAddress : Address)
    (req : AppMetadata.PrepareRequest) (hspot : 0 < req.spotId) :
    buildMessage ⟨host.claimEnvironment, host.claimNetwork, req.spotId, walletAddress, req.deviceIdHash, req.location,
      req.nonce, now, expiresAt⟩ "claim" = .ok (AppMetadata.buildMessage host now expiresAt walletAddress req) := by
  unfold buildMessage
  dsimp only
  rw [if_neg (by decide), if_neg (by omega)]
  rfl

end Message

section Location

variable {value lat long : Submitted} {accuracy : Option Submitted} {scale : ℕ} {name : String} {minimum maximum n : ℤ}
  {location : FixedLocation}

/-- A finite number between these bounds. -/
def Submitted.InRange (value : Submitted) (minimum maximum : ℤ) : Prop :=
  ∃ number, value = .finite number ∧ minimum ≤ number ∧ number ≤ maximum

lemma fixed_ok_iff : fixed value scale name minimum maximum = .ok n ↔
    ∃ number, value = .finite number ∧ (minimum ≤ number ∧ number ≤ maximum) ∧
      n = roundHalfEven (scaled number scale) := by
  unfold fixed
  cases value with
  | finite number =>
    dsimp only
    split_ifs with hout
    · refine iff_of_false nofun ?_
      rintro ⟨other, hother, ⟨hmin, hmax⟩, -⟩
      rw [← Submitted.finite.inj hother] at hmin hmax
      exact hout.elim (fun h => absurd hmin (not_le.mpr h)) fun h => absurd hmax (not_le.mpr h)
    · obtain ⟨hmin, hmax⟩ := not_or.mp hout
      constructor
      · exact fun h => ⟨number, rfl, ⟨not_lt.mp hmin, not_lt.mp hmax⟩, (Except.ok.inj h).symm⟩
      · rintro ⟨other, hother, -, rfl⟩
        rw [Submitted.finite.inj hother]
  | _ =>
    refine iff_of_false nofun ?_
    rintro ⟨other, hother, -⟩
    cases hother

/-- The integer for a number: in the scaled range, and within half a unit but for the rounding of one product. -/
structure Fixes (number : ℚ) (scale : ℕ) (minimum maximum n : ℤ) : Prop where
  minimum : minimum * scale ≤ n
  maximum : n ≤ maximum * scale
  near : |(n : ℚ) - number * scale| ≤ 1 / 2 + 2 ^ (-24 : ℤ)

lemma fixes_of_range {number : ℚ} (hmin : minimum ≤ number) (hmax : number ≤ maximum)
    (hlow : -(2 ^ 30) < minimum * (scale : ℤ)) (hhigh : maximum * (scale : ℤ) < 2 ^ 30) :
    Fixes number scale minimum maximum (roundHalfEven (scaled number scale)) := by
  have hscale : (0 : ℚ) ≤ scale := Nat.cast_nonneg scale
  have hfrom : ((minimum * scale : ℤ) : ℚ) ≤ number * scale := by
    push_cast
    exact mul_le_mul_of_nonneg_right hmin hscale
  have hto : number * scale ≤ ((maximum * scale : ℤ) : ℚ) := by
    push_cast
    exact mul_le_mul_of_nonneg_right hmax hscale
  have hsize : |number * scale| < 2 ^ (30 : ℤ) := by
    have hlow' : -(2 ^ 30 : ℚ) < ((minimum * scale : ℤ) : ℚ) := by exact_mod_cast hlow
    have hhigh' : ((maximum * scale : ℤ) : ℚ) < 2 ^ 30 := by exact_mod_cast hhigh
    rw [abs_lt]
    constructor
    · exact lt_of_lt_of_le (by norm_num at hlow' ⊢; linarith) hfrom
    · exact lt_of_le_of_lt hto (by norm_num at hhigh' ⊢; linarith)
  have hbit : lastBit (number * scale) ≤ 0 := (lastBit_le hsize (by norm_num)).trans (by norm_num)
  refine ⟨?_, ?_, ?_⟩
  · exact roundHalfEven_nearest.ge_of_ge (le_binary64 roundHalfEven_nearest hfrom hbit)
  · exact roundHalfEven_nearest.le_of_le (binary64_le roundHalfEven_nearest hto hbit)
  · have hproduct := abs_binary64_sub_le roundHalfEven_nearest hsize (by norm_num)
    have hround := roundHalfEven_nearest (scaled number scale)
    calc |(roundHalfEven (scaled number scale) : ℚ) - number * scale|
        ≤ |(roundHalfEven (scaled number scale) : ℚ) - scaled number scale| +
            |scaled number scale - number * scale| :=
          abs_sub_le _ _ _
      _ ≤ 1 / 2 + 2 ^ (-24 : ℤ) := add_le_add hround hproduct

/-- What an accepted location is, with the error allowed in each of its integers. -/
structure SoundLocation (lat long : Submitted) (accuracy : Option Submitted) (location : FixedLocation) : Prop where
  latitude : ∃ number, lat = .finite number ∧ Fixes number 1000000 (-90) 90 location.latitudeE6
  longitude : ∃ number, long = .finite number ∧ Fixes number 1000000 (-180) 180 location.longitudeE6
  submitted : ∀ value ∈ accuracy, ∃ number, value = .finite number ∧ Fixes number 100 0 10000000 location.accuracyCm
  missing : accuracy = none ↔ location.accuracyCm = absentAccuracyCm

lemma canonicalLocation_ok_iff : canonicalLocation lat long accuracy = .ok location ↔
    fixed lat 1000000 "latitude" (-90) 90 = .ok location.latitudeE6 ∧
      fixed long 1000000 "longitude" (-180) 180 = .ok location.longitudeE6 ∧
      (accuracy = none ∧ location.accuracyCm = absentAccuracyCm ∨
        ∃ value, accuracy = some value ∧ fixed value 100 "accuracy" 0 10000000 = .ok location.accuracyCm) := by
  unfold canonicalLocation
  cases hlat : fixed lat 1000000 "latitude" (-90) 90 with
  | error e => exact iff_of_false nofun nofun
  | ok latitudeE6 =>
    cases hlong : fixed long 1000000 "longitude" (-180) 180 with
    | error e => exact iff_of_false nofun nofun
    | ok longitudeE6 =>
      cases accuracy with
      | none =>
        constructor
        · intro h
          rw [← Except.ok.inj h]
          exact ⟨rfl, rfl, .inl ⟨rfl, rfl⟩⟩
        · rintro ⟨hlatitude, hlongitude, ⟨-, haccuracy⟩ | ⟨value, hvalue, -⟩⟩
          · rw [Except.ok.inj hlatitude, Except.ok.inj hlongitude, ← haccuracy]
            rfl
          · cases hvalue
      | some value =>
        cases haccuracy : fixed value 100 "accuracy" 0 10000000 with
        | error e =>
          refine iff_of_false ?_ ?_
          · change ¬ (fixed value 100 "accuracy" 0 10000000 >>= _) = _
            rw [haccuracy]
            nofun
          · rintro ⟨-, -, ⟨hnone, -⟩ | ⟨other, hother, hfixed⟩⟩
            · cases hnone
            · rw [← Option.some.inj hother, haccuracy] at hfixed
              cases hfixed
        | ok accuracyCm =>
          change (fixed value 100 "accuracy" 0 10000000 >>= _) = _ ↔ _
          rw [haccuracy]
          constructor
          · intro h
            rw [← Except.ok.inj h]
            exact ⟨rfl, rfl, .inr ⟨value, rfl, haccuracy⟩⟩
          · rintro ⟨hlatitude, hlongitude, ⟨hnone, -⟩ | ⟨other, hother, hfixed⟩⟩
            · cases hnone
            · rw [← Option.some.inj hother, haccuracy] at hfixed
              rw [Except.ok.inj hlatitude, Except.ok.inj hlongitude, Except.ok.inj hfixed]
              rfl

lemma exists_fixed_iff : (∃ n, fixed value scale name minimum maximum = .ok n) ↔ value.InRange minimum maximum := by
  constructor
  · rintro ⟨n, hn⟩
    obtain ⟨number, hnumber, hrange, -⟩ := fixed_ok_iff.mp hn
    exact ⟨number, hnumber, hrange⟩
  · rintro ⟨number, hnumber, hrange⟩
    exact ⟨_, fixed_ok_iff.mpr ⟨number, hnumber, hrange, rfl⟩⟩

lemma fixes_of_fixed (hlow : -(2 ^ 30) < minimum * (scale : ℤ)) (hhigh : maximum * (scale : ℤ) < 2 ^ 30)
    (h : fixed value scale name minimum maximum = .ok n) :
    ∃ number, value = .finite number ∧ Fixes number scale minimum maximum n := by
  obtain ⟨number, hnumber, ⟨hmin, hmax⟩, rfl⟩ := fixed_ok_iff.mp h
  exact ⟨number, hnumber, fixes_of_range hmin hmax hlow hhigh⟩

/-- Finite numbers in range are accepted, and nothing else. -/
lemma canonicalLocation_accepts : (∃ location, canonicalLocation lat long accuracy = .ok location) ↔
    lat.InRange (-90) 90 ∧ long.InRange (-180) 180 ∧ ∀ value ∈ accuracy, value.InRange 0 10000000 := by
  constructor
  · rintro ⟨location, h⟩
    obtain ⟨hlat, hlong, haccuracy⟩ := canonicalLocation_ok_iff.mp h
    refine ⟨exists_fixed_iff.mp ⟨_, hlat⟩, exists_fixed_iff.mp ⟨_, hlong⟩, ?_⟩
    intro value hvalue
    obtain ⟨hnone, -⟩ | ⟨other, hother, hfixed⟩ := haccuracy
    · rw [hnone] at hvalue
      cases hvalue
    · rw [hother] at hvalue
      exact Option.some.inj hvalue ▸ exists_fixed_iff.mp ⟨_, hfixed⟩
  · rintro ⟨hlat, hlong, haccuracy⟩
    obtain ⟨latitudeE6, hlatitude⟩ := exists_fixed_iff.mpr hlat
    obtain ⟨longitudeE6, hlongitude⟩ := exists_fixed_iff.mpr hlong
    obtain hnone | ⟨value, hvalue⟩ := Option.eq_none_or_eq_some accuracy
    · exact ⟨⟨latitudeE6, longitudeE6, absentAccuracyCm⟩,
        canonicalLocation_ok_iff.mpr ⟨hlatitude, hlongitude, .inl ⟨hnone, rfl⟩⟩⟩
    · obtain ⟨accuracyCm, hfixed⟩ := exists_fixed_iff.mpr (haccuracy value hvalue)
      exact ⟨⟨latitudeE6, longitudeE6, accuracyCm⟩,
        canonicalLocation_ok_iff.mpr ⟨hlatitude, hlongitude, .inr ⟨value, hvalue, hfixed⟩⟩⟩

lemma canonicalLocation_sound (h : canonicalLocation lat long accuracy = .ok location) :
    SoundLocation lat long accuracy location := by
  obtain ⟨hlat, hlong, haccuracy⟩ := canonicalLocation_ok_iff.mp h
  refine ⟨fixes_of_fixed (by norm_num) (by norm_num) hlat, fixes_of_fixed (by norm_num) (by norm_num) hlong, ?_, ?_⟩
  · intro value hvalue
    obtain ⟨hnone, -⟩ | ⟨other, hother, hfixed⟩ := haccuracy
    · rw [hnone] at hvalue
      cases hvalue
    · rw [hother] at hvalue
      exact Option.some.inj hvalue ▸ fixes_of_fixed (by norm_num) (by norm_num) hfixed
  · obtain ⟨hnone, habsent⟩ | ⟨other, hother, hfixed⟩ := haccuracy
    · exact iff_of_true hnone habsent
    · -- A submitted accuracy is never negative.
      obtain ⟨number, -, hfixes⟩ := fixes_of_fixed (by norm_num) (by norm_num) hfixed
      refine iff_of_false (by rw [hother]; nofun) ?_
      intro habsent
      have hmin := hfixes.minimum
      rw [habsent] at hmin
      exact absurd hmin (by decide)

/-- One text stands for one tuple of fields, and the location in it for what was submitted. -/
theorem signed_claims_bind_fields :
    (∀ fields fields' message, fields.OneLined → fields'.OneLined → buildMessage fields "claim" = .ok message →
      buildMessage fields' "claim" = .ok message → fields = fields') ∧
    ∀ lat long accuracy,
      ((∃ location, canonicalLocation lat long accuracy = .ok location) ↔
        lat.InRange (-90) 90 ∧ long.InRange (-180) 180 ∧ ∀ value ∈ accuracy, value.InRange 0 10000000) ∧
      ∀ location, canonicalLocation lat long accuracy = .ok location → SoundLocation lat long accuracy location :=
  ⟨fun _ _ _ h h' hmessage hmessage' => buildMessage_inj h h' hmessage hmessage',
    fun _ _ _ => ⟨canonicalLocation_accepts, fun _ => canonicalLocation_sound⟩⟩

/-- The binary64 number 5.5e-6 lies below 5.5 millionths; its product is rounded to 5.5, and that to 6. -/
theorem more_than_half_a_unit : ¬ ∀ lat long accuracy location, canonicalLocation lat long accuracy = .ok location →
    ∃ number, lat = .finite number ∧ |(location.latitudeE6 : ℚ) - number * 1000000| ≤ 1 / 2 := by
  intro hall
  have haccepted : canonicalLocation (.finite (3246626956972881 / 2 ^ 69)) (.finite 0) none = .ok ⟨6, 0, -1⟩ := by
    decide +kernel
  obtain ⟨number, hnumber, hnear⟩ := hall _ _ _ _ haccepted
  rw [← Submitted.finite.inj hnumber] at hnear
  exact absurd hnear (by decide +kernel)

end Location

end NimHunt.SignedClaim
