import NimHunt.DbAccess.Geohash
import NimHunt.Lib.Bisection

/-!
# The cell of a geohash

Each character stands for five bits, and each bit for a half of the cell so far, of longitude and latitude in turn.  The
loop writes the sides that the point falls on, so a text is the start of a point's geohash exactly when its cell has the
point.
-/

namespace NimHunt

open Lib Bisection

section Cells

/-- The five bits of a character. -/
def charBits (c : Char) : List Bool := (List.range 5).map fun i => (geohashAlphabet.idxOf c).testBit (4 - i)

def geohashBits (hash : Text) : List Bool := hash.flatMap charBits

/-- Longitudes and latitudes. -/
def world (evenBit : Bool) : ℚ × ℚ := if evenBit then (-180, 180) else (-90, 90)

def worldTops (evenBit : Bool) : ℚ := (world evenBit).2

def location (lat lon : ℚ) (evenBit : Bool) : ℚ := if evenBit then lon else lat

/-- The cell of a text: its longitudes (`true`) and latitudes (`false`). -/
def cellOf (hash : Text) : Bool → ℚ × ℚ := narrow true world (geohashBits hash)

/-- The cell has the point.  A point on the line between two cells is in the upper one. -/
def InCell (hash : Text) (lat lon : ℚ) : Prop := InBox worldTops (cellOf hash) (location lat lon)

end Cells

section Characters

variable {hash hash' : Text} {lat lon : ℚ}

/-- The first bits of a character's number. -/
def topBits (ch : Fin 32) (n : ℕ) : List Bool := (List.range n).map fun i => ch.val.testBit (4 - i)

lemma charBits_geohashChar : ∀ ch : Fin 32, charBits (geohashChar ch) = topBits ch 5 ∧ geohashChar ch ∈ geohashAlphabet := by
  decide +kernel

/-- The bit that is written, and the zeros that are left for the bits to come. -/
lemma topBits_next : ∀ (bit : Fin 5) (ch : Fin 32) (upper : Bool), ch.val % 2 ^ (5 - bit.val) = 0 →
    topBits (if upper then ch ||| geohashBit bit else ch) (bit + 1) = topBits ch bit ++ [upper] ∧
      (if upper then ch ||| geohashBit bit else ch).val % 2 ^ (5 - (bit.val + 1)) = 0 := by
  decide +kernel

lemma charBits_inj : ∀ c ∈ geohashAlphabet, ∀ c' ∈ geohashAlphabet, charBits c = charBits c' → c = c' := by
  decide +kernel

lemma length_charBits (c : Char) : (charBits c).length = 5 := by
  unfold charBits
  rw [List.length_map, List.length_range]

lemma length_geohashBits (hash : Text) : (geohashBits hash).length = 5 * hash.length := by
  induction hash with
  | nil => rfl
  | cons c hash ih =>
    change (charBits c ++ geohashBits hash).length = _
    rw [List.length_append, length_charBits, ih, List.length_cons]
    omega

lemma geohashBits_concat (hash : Text) (c : Char) : geohashBits (hash ++ [c]) = geohashBits hash ++ charBits c := by
  unfold geohashBits
  rw [List.flatMap_append, List.flatMap_singleton]

/-- A text starts another as its bits start the other's. -/
lemma prefix_iff (h : ∀ c ∈ hash, c ∈ geohashAlphabet) (h' : ∀ c ∈ hash', c ∈ geohashAlphabet) :
    hash <+: hash' ↔ geohashBits hash <+: geohashBits hash' := by
  induction hash generalizing hash' with
  | nil => exact iff_of_true List.nil_prefix List.nil_prefix
  | cons c hash ih =>
    cases hash' with
    | nil =>
      refine iff_of_false (fun hle => ?_) (fun hle => ?_)
      · cases List.prefix_nil.mp hle
      · have hlength := hle.length_le
        rw [length_geohashBits, length_geohashBits, List.length_cons, List.length_nil] at hlength
        omega
    | cons c' hash' =>
      obtain ⟨hc, hhash⟩ := List.forall_mem_cons.mp h
      obtain ⟨hc', hhash'⟩ := List.forall_mem_cons.mp h'
      rw [List.cons_prefix_cons, ih hhash hhash']
      change _ ↔ charBits c ++ geohashBits hash <+: charBits c' ++ geohashBits hash'
      constructor
      · rintro ⟨rfl, hle⟩
        exact (List.prefix_append_right_inj _).mpr hle
      · rintro ⟨rest, hrest⟩
        rw [List.append_assoc] at hrest
        obtain ⟨hbits, hle⟩ := List.append_inj hrest (by rw [length_charBits, length_charBits])
        exact ⟨charBits_inj c hc c' hc' hbits, rest, hle⟩

lemma world_proper (evenBit : Bool) : Proper (worldTops evenBit) (world evenBit) := by
  cases evenBit with
  | true => exact ⟨by decide +kernel, le_rfl⟩
  | false => exact ⟨by decide +kernel, le_rfl⟩

lemma in_world (hlat : -90 ≤ lat ∧ lat ≤ 90) (hlon : -180 ≤ lon ∧ lon ≤ 180) :
    InBox worldTops world (location lat lon) := by
  intro evenBit
  cases evenBit with
  | true => exact ⟨hlon.1, hlon.2.lt_or_eq.imp_right fun h => ⟨h, rfl⟩⟩
  | false => exact ⟨hlat.1, hlat.2.lt_or_eq.imp_right fun h => ⟨h, rfl⟩⟩

/-- The texts whose cells have the point. -/
lemma inCell_iff (hlat : -90 ≤ lat ∧ lat ≤ 90) (hlon : -180 ≤ lon ∧ lon ≤ 180) (hash : Text) : InCell hash lat lon ↔
    geohashBits hash = sidesOf (location lat lon) true world (5 * hash.length) := by
  unfold InCell cellOf
  rw [inBox_narrow world_proper, and_iff_right (in_world hlat hlon), length_geohashBits]

end Characters

namespace GeohashLoop

variable {lat lon : ℚ} {precision : ℕ} {s : GeohashLoop}

def box (s : GeohashLoop) (evenBit : Bool) : ℚ × ℚ := if evenBit then s.lonInterval else s.latInterval

/-- Whether the point is in the upper half of the interval whose turn it is. -/
def upper (lat lon : ℚ) (s : GeohashLoop) : Bool := decide (middle (s.box s.evenBit) ≤ location lat lon s.evenBit)

/-- The bits so far. -/
def written (s : GeohashLoop) : List Bool := geohashBits s.geohash ++ topBits s.ch s.bit

/-- The bits to come are still zero. -/
structure Good (s : GeohashLoop) : Prop where
  zeros : s.ch.val % 2 ^ (5 - s.bit.val) = 0
  alphabet : ∀ c ∈ s.geohash, c ∈ geohashAlphabet

/-- The interval whose turn it is becomes one of its halves, and the bit says which. -/
def choose (upper : Bool) (s : GeohashLoop) : GeohashLoop :=
  let ch := if upper then s.ch ||| geohashBit s.bit else s.ch
  if s.evenBit then { s with ch, lonInterval := half upper s.lonInterval }
  else { s with ch, latInterval := half upper s.latInterval }

/-- The half chosen is the one with the point. -/
lemma bisect_eq_choose (lat lon : ℚ) (s : GeohashLoop) : s.bisect lat lon = s.choose (s.upper lat lon) := by
  unfold bisect choose upper
  cases hturn : s.evenBit with
  | true =>
    have hmid : middle (s.box true) ≤ location lat lon true ↔ (s.lonInterval.1 + s.lonInterval.2) / 2 ≤ lon := Iff.rfl
    by_cases hupper : (s.lonInterval.1 + s.lonInterval.2) / 2 ≤ lon
    · rw [if_pos rfl, if_pos hupper, decide_eq_true (hmid.mpr hupper)]
      rfl
    · rw [if_pos rfl, if_neg hupper, decide_eq_false (hmid.not.mpr hupper)]
      rfl
  | false =>
    have hmid : middle (s.box false) ≤ location lat lon false ↔ (s.latInterval.1 + s.latInterval.2) / 2 ≤ lat := Iff.rfl
    by_cases hupper : (s.latInterval.1 + s.latInterval.2) / 2 ≤ lat
    · rw [if_neg nofun, if_pos hupper, decide_eq_true (hmid.mpr hupper)]
      rfl
    · rw [if_neg nofun, if_neg hupper, decide_eq_false (hmid.not.mpr hupper)]
      rfl

lemma choose_kept (upper : Bool) (s : GeohashLoop) : (s.choose upper).geohash = s.geohash ∧
    (s.choose upper).bit = s.bit ∧ (s.choose upper).evenBit = s.evenBit ∧
    (s.choose upper).ch = (if upper then s.ch ||| geohashBit s.bit else s.ch) := by
  unfold choose
  dsimp only
  split <;> exact ⟨rfl, rfl, rfl, rfl⟩

lemma box_choose (upper : Bool) (s : GeohashLoop) : (s.choose upper).box = halveAlong s.evenBit upper s.box := by
  funext evenBit
  unfold choose halveAlong
  cases hturn : s.evenBit with
  | true => cases evenBit <;> rfl
  | false => cases evenBit <;> rfl

/-- One round writes one bit. -/
lemma Good.body (h : s.Good) (lat lon : ℚ) : (s.body lat lon).Good ∧
    (s.body lat lon).written = s.written ++ [s.upper lat lon] ∧
    (s.body lat lon).box = halveAlong s.evenBit (s.upper lat lon) s.box ∧ (s.body lat lon).evenBit = !s.evenBit := by
  obtain ⟨hgeohash, hbit, heven, hch⟩ := choose_kept (s.upper lat lon) s
  obtain ⟨hbits, hzeros⟩ := topBits_next s.bit s.ch (s.upper lat lon) h.zeros
  have hbox := box_choose (s.upper lat lon) s
  rw [← hch] at hbits hzeros
  unfold GeohashLoop.body
  rw [bisect_eq_choose]
  generalize s.choose (s.upper lat lon) = chosen at *
  have halphabet : ∀ c ∈ chosen.geohash, c ∈ geohashAlphabet := hgeohash ▸ h.alphabet
  have hlt := s.bit.isLt
  unfold advance
  rw [hbit]
  split_ifs with hmore
  · have hnext : ((s.bit + 1 : Fin 5) : ℕ) = s.bit + 1 := by omega
    refine ⟨⟨?_, halphabet⟩, ?_, hbox, congrArg Bool.not heven⟩
    · dsimp only
      rw [hnext]
      exact hzeros
    · unfold written
      dsimp only
      rw [hnext, hbits, hgeohash, List.append_assoc]
  · have hlast : (s.bit : ℕ) + 1 = 5 := by omega
    obtain ⟨hchar, hmem⟩ := charBits_geohashChar chosen.ch
    refine ⟨⟨rfl, ?_⟩, ?_, hbox, congrArg Bool.not heven⟩
    · intro c hc
      obtain hc | hc := List.mem_append.mp hc
      · exact halphabet c hc
      · exact List.mem_singleton.mp hc ▸ hmem
    · unfold written
      dsimp only
      have hnone : topBits 0 ((0 : Fin 5) : ℕ) = [] := rfl
      rw [hlast] at hbits
      rw [geohashBits_concat, hchar, hbits, hgeohash, hnone, List.append_nil, List.append_assoc]

lemma length_written (s : GeohashLoop) : s.written.length = 5 * s.geohash.length + s.bit := by
  unfold written topBits
  rw [List.length_append, length_geohashBits, List.length_map, List.length_range]

/-- The loop writes the sides that the point falls on until all characters are complete. -/
lemma Good.run (h : s.Good) (hroom : s.written.length ≤ 5 * precision) :
    (s.run lat lon precision).geohash.length = precision ∧
    (∀ c ∈ (s.run lat lon precision).geohash, c ∈ geohashAlphabet) ∧ geohashBits (s.run lat lon precision).geohash =
      s.written ++ sidesOf (location lat lon) s.evenBit s.box (s.remaining precision) := by
  fun_induction GeohashLoop.run lat lon precision s with
  | case1 s hmore ih =>
    obtain ⟨hgood, hwritten, hbox, heven⟩ := h.body lat lon
    have hlt := s.bit.isLt
    have hlength := length_written s
    have hnext : (s.body lat lon).written.length = s.written.length + 1 := by
      rw [hwritten, List.length_append, List.length_singleton]
    obtain ⟨hall, halphabet, hbits⟩ := ih hgood (by omega)
    refine ⟨hall, halphabet, hbits.trans ?_⟩
    rw [← remaining_body lat lon hmore, sidesOf_succ, hwritten, hbox, heven, List.append_assoc]
    rfl
  | case2 s hdone =>
    have hlength := length_written s
    have hfull : s.geohash.length = precision := by omega
    have hbit : (s.bit : ℕ) = 0 := by omega
    have hremaining : s.remaining precision = 0 := by
      unfold remaining
      omega
    refine ⟨hfull, h.alphabet, ?_⟩
    unfold written
    rw [hremaining, hbit]
    exact (List.append_nil _).symm.trans (List.append_nil _).symm

end GeohashLoop

section Encoding

variable {lat lon : ℚ} {precision : ℤ}

/-- What is returned, and which sides it names. -/
lemma encodeGeohash_spec (hlat : -90 ≤ lat ∧ lat ≤ 90) (hlon : -180 ≤ lon ∧ lon ≤ 180) (hprecision : 0 < precision) :
    ∃ hash, encodeGeohash lat lon precision = .ok hash ∧ (hash.length : ℤ) = precision ∧
      (∀ c ∈ hash, c ∈ geohashAlphabet) ∧ geohashBits hash = sidesOf (location lat lon) true world (5 * hash.length) := by
  have hgood : GeohashLoop.Good {} := ⟨rfl, nofun⟩
  obtain ⟨hlength, halphabet, hbits⟩ := @GeohashLoop.Good.run lat lon precision.toNat {} hgood (Nat.zero_le _)
  refine ⟨_, ?_, by omega, halphabet, ?_⟩
  · unfold encodeGeohash
    rw [if_neg (not_not.mpr hlat), if_neg (not_not.mpr hlon), if_neg (by omega)]
  · rw [hlength]
    exact hbits

/-- For a point in range and a positive precision there are that many characters; their cell has the point; a longer
geohash starts with them; and of all texts in the alphabet no longer than the geohash, those that it starts with are
those whose cell has the point.  Other precisions are refused. -/
theorem geohash_cells (lat lon : ℚ) (hlat : -90 ≤ lat ∧ lat ≤ 90) (hlon : -180 ≤ lon ∧ lon ≤ 180) (precision : ℤ) :
    (precision ≤ 0 → encodeGeohash lat lon precision = .error (.valueError "precision must be positive")) ∧
    (0 < precision → ∃ hash, encodeGeohash lat lon precision = .ok hash ∧ (hash.length : ℤ) = precision ∧
      InCell hash lat lon ∧
      (∀ longer, precision ≤ longer → ∃ hash', encodeGeohash lat lon longer = .ok hash' ∧ hash <+: hash') ∧
      ∀ start : Text, (∀ c ∈ start, c ∈ geohashAlphabet) → (start.length : ℤ) ≤ precision →
        (start <+: hash ↔ InCell start lat lon)) := by
  constructor
  · intro hprecision
    unfold encodeGeohash
    rw [if_neg (not_not.mpr hlat), if_neg (not_not.mpr hlon), if_pos hprecision]
  · intro hprecision
    obtain ⟨hash, hencode, hlength, halphabet, hbits⟩ := encodeGeohash_spec hlat hlon hprecision
    refine ⟨hash, hencode, hlength, (inCell_iff hlat hlon hash).mpr hbits, ?_, ?_⟩
    · intro longer hlonger
      obtain ⟨hash', hencode', hlength', halphabet', hbits'⟩ := encodeGeohash_spec hlat hlon (hprecision.trans_le hlonger)
      refine ⟨hash', hencode', (prefix_iff halphabet halphabet').mpr ?_⟩
      rw [hbits, hbits']
      exact sidesOf_prefix _ _ _ (by omega)
    · intro start hstart hshort
      rw [prefix_iff hstart halphabet, inCell_iff hlat hlon, hbits]
      have hprefix := sidesOf_prefix (location lat lon) true world (show 5 * start.length ≤ 5 * hash.length by omega)
      constructor
      · intro hle
        have hlengths := (length_geohashBits start).trans (length_sidesOf (location lat lon) true world (5 * start.length)).symm
        exact (List.prefix_of_prefix_length_le hle hprefix hlengths.le).eq_of_length hlengths
      · intro heq
        rw [heq]
        exact hprefix

/-- On the equator and at the end of the longitudes. -/
theorem geohash_cell_at_the_end : InCell "xbp".toList 0 180 ∧
    ∃ hash, encodeGeohash 0 180 8 = .ok hash ∧ "xbp".toList <+: hash := by
  obtain ⟨hash, hencode, -, hcell, hlonger, -⟩ :=
    (geohash_cells 0 180 (by decide +kernel) (by decide +kernel) 3).2 (by decide)
  have hhash : encodeGeohash 0 180 3 = .ok "xbp".toList := by decide +kernel
  cases Except.ok.inj (hencode.symm.trans hhash)
  exact ⟨hcell, hlonger 8 (by decide)⟩

end Encoding

end NimHunt
