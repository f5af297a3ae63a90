import Mathlib.Algebra.Order.Round
import Mathlib.Algebra.Order.Archimedean.Basic
import Mathlib.Data.Rat.Floor
import Mathlib.Tactic.Linarith
import Mathlib.Tactic.Ring
import Mathlib.Tactic.NormNum
import NimHunt.MapSearch

/-!
# Searching the map across the date line

`find_spots_search_transport.js` turns a viewport on any copy of the world into one or two searches the server
can answer.  Its numbers are read as rationals, of which every finite one is a `finiteNumber`.
-/

namespace NimHunt

namespace SearchTransport

def minLongitude : ℚ := -180

def maxLongitude : ℚ := 180

def worldLongitudeSpan : ℚ := 360

/-- JavaScript's `a % b`: the sign of the dividend stays. -/
def remainder (a b : ℚ) : ℚ := a - b * (if 0 ≤ a / b then ⌊a / b⌋ else ⌈a / b⌉)

def wrapLongitude (longitude : ℚ) : ℚ := remainder (remainder (longitude + 180) 360 + 360) 360 - 180

/-- `while (width < 0) width += WORLD_LONGITUDE_SPAN`. -/
def unwrapWidth (width : ℚ) : ℚ :=
  if width < 0 then unwrapWidth (width + worldLongitudeSpan) else width
termination_by ⌈-width / worldLongitudeSpan⌉.toNat
decreasing_by
  rename_i h
  have hstep : -(width + worldLongitudeSpan) / worldLongitudeSpan = -width / worldLongitudeSpan - 1 := by
    unfold worldLongitudeSpan
    ring
  have hpositive : 0 < ⌈-width / worldLongitudeSpan⌉ := by
    apply Int.ceil_pos.mpr
    unfold worldLongitudeSpan
    linarith
  rw [hstep, Int.ceil_sub_one]
  omega

structure LongitudeRange where
  minLong : ℚ
  maxLong : ℚ
  deriving DecidableEq, Repr

def longitudeSearchRanges (rawWest rawEast : ℚ) : List LongitudeRange :=
  let width := unwrapWidth (rawEast - rawWest)
  if worldLongitudeSpan ≤ width then [⟨minLongitude, maxLongitude⟩]
  else
    let west := wrapLongitude rawWest
    let unwrappedEast := west + width
    if unwrappedEast ≤ maxLongitude then [⟨west, unwrappedEast⟩]
    else [⟨west, maxLongitude⟩, ⟨minLongitude, unwrappedEast - worldLongitudeSpan⟩]

structure Viewport where
  west : ℚ
  east : ℚ
  centre : ℚ
  width : ℚ
  deriving DecidableEq, Repr

def spotSearchViewport (west rawEast : ℚ) : Viewport :=
  let width := unwrapWidth (rawEast - west)
  { west := west, east := west + width, centre := west + width / 2, width := width }

/-- JavaScript's `Math.round`: ties go up. -/
def mathRound (x : ℚ) : ℤ := ⌊x + 1 / 2⌋

def longitudeForViewport (value : ℚ) (viewport : Viewport) : ℚ :=
  let longitude := wrapLongitude value
  longitude + mathRound ((viewport.centre - longitude) / worldLongitudeSpan) * worldLongitudeSpan

/-- What the search for one range asks the server for. -/
def LongitudeRange.bounds (range : LongitudeRange) (minLat maxLat : ℚ) : MapBounds where
  minLat := minLat
  maxLat := maxLat
  minLong := range.minLong
  maxLong := range.maxLong

/-- The longitudes a search for one range finds. -/
def LongitudeRange.Finds (range : LongitudeRange) (longitude : ℚ) : Prop :=
  ∀ minLat maxLat, (range.bounds minLat maxLat).ordered.minLong ≤ longitude ∧
    longitude ≤ (range.bounds minLat maxLat).ordered.maxLong

/-- One longitude is a copy of the other, on another copy of the world. -/
def IsCopy (copy longitude : ℚ) : Prop := ∃ k : ℤ, copy = longitude + 360 * k

section Wrapping

lemma remainder_of_nonneg {a b : ℚ} (ha : 0 ≤ a) (hb : 0 < b) : remainder a b = a - b * ⌊a / b⌋ := by
  unfold remainder
  rw [if_pos (div_nonneg ha hb.le)]

/-- A remainder differs from its dividend by whole copies, and is smaller than the divisor. -/
lemma remainder_spec (a : ℚ) : (∃ k : ℤ, remainder a 360 = a + 360 * k) ∧ -360 < remainder a 360 := by
  unfold remainder
  split_ifs with hsign
  · have hle := Int.floor_le (a / 360)
    have hlt := Int.lt_floor_add_one (a / 360)
    refine ⟨⟨-⌊a / 360⌋, ?_⟩, ?_⟩
    · push_cast
      ring
    · linarith
  · have hle := Int.le_ceil (a / 360)
    have hlt := Int.ceil_lt_add_one (a / 360)
    refine ⟨⟨-⌈a / 360⌉, ?_⟩, ?_⟩
    · push_cast
      ring
    · linarith

/-- Wrapping gives the copy between -180 and 180. -/
lemma wrapLongitude_spec (longitude : ℚ) :
    IsCopy (wrapLongitude longitude) longitude ∧ -180 ≤ wrapLongitude longitude ∧ wrapLongitude longitude < 180 := by
  obtain ⟨⟨k, hinner⟩, hbound⟩ := remainder_spec (longitude + 180)
  have houter : 0 ≤ remainder (longitude + 180) 360 + 360 := by linarith
  have hwrapped : wrapLongitude longitude = remainder (longitude + 180) 360 + 360 -
      360 * ⌊(remainder (longitude + 180) 360 + 360) / 360⌋ - 180 := by
    unfold wrapLongitude
    rw [remainder_of_nonneg houter (by norm_num)]
  have hle := Int.floor_le ((remainder (longitude + 180) 360 + 360) / 360)
  have hlt := Int.lt_floor_add_one ((remainder (longitude + 180) 360 + 360) / 360)
  refine ⟨⟨k + 1 - ⌊(remainder (longitude + 180) 360 + 360) / 360⌋, ?_⟩, ?_, ?_⟩
  · rw [hwrapped, hinner]
    push_cast
    ring
  · rw [hwrapped]
    linarith
  · rw [hwrapped]
    linarith

lemma unwrapWidth_nonneg (width : ℚ) : 0 ≤ unwrapWidth width := by
  induction width using unwrapWidth.induct with
  | case1 width hnegative ih =>
    rw [unwrapWidth, if_pos hnegative]
    exact ih
  | case2 width hnonneg =>
    rw [unwrapWidth, if_neg hnonneg]
    exact not_lt.mp hnonneg

/-- Copies of one longitude that differ by less than the world are the same. -/
lemma IsCopy.eq_of_lt {x y longitude : ℚ} (hx : IsCopy x longitude) (hy : IsCopy y longitude) (hlow : -360 < x - y)
    (hhigh : x - y < 360) : x = y := by
  obtain ⟨k, hk⟩ := hx
  obtain ⟨m, hm⟩ := hy
  have hdiff : x - y = 360 * ((k - m : ℤ) : ℚ) := by
    rw [hk, hm]
    push_cast
    ring
  rw [hdiff] at hlow hhigh
  have hbelow : (-1 : ℚ) < ((k - m : ℤ) : ℚ) := by linarith
  have habove : ((k - m : ℤ) : ℚ) < 1 := by linarith
  have hzero : k - m = 0 := by
    have h1 : (-1 : ℤ) < k - m := by exact_mod_cast hbelow
    have h2 : k - m < 1 := by exact_mod_cast habove
    omega
  rw [hzero] at hdiff
  push_cast at hdiff
  linarith

end Wrapping

section Ranges

variable {rawWest rawEast : ℚ}

/-- Every range is an ordered pair of longitudes of the world. -/
lemma ordered_of_mem_ranges {range : LongitudeRange} (h : range ∈ longitudeSearchRanges rawWest rawEast) :
    -180 ≤ range.minLong ∧ range.minLong ≤ range.maxLong ∧ range.maxLong ≤ 180 := by
  obtain ⟨-, hlow, hhigh⟩ := wrapLongitude_spec rawWest
  have hwidth := unwrapWidth_nonneg (rawEast - rawWest)
  unfold longitudeSearchRanges at h
  dsimp only at h
  unfold worldLongitudeSpan maxLongitude minLongitude at h
  split_ifs at h with hworld hinside
  · rw [List.mem_singleton] at h
    rw [h]
    norm_num
  · rw [List.mem_singleton] at h
    rw [h]
    dsimp only
    refine ⟨hlow, ?_, hinside⟩
    linarith
  · rw [List.mem_cons, List.mem_singleton] at h
    cases h with
    | inl hfirst =>
      rw [hfirst]
      dsimp only
      exact ⟨hlow, hhigh.le, le_rfl⟩
    | inr hsecond =>
      rw [hsecond]
      dsimp only
      refine ⟨le_rfl, ?_, ?_⟩
      · linarith
      · linarith

/-- A Spot of which a copy is in view lies in one of the ranges. -/
lemma mem_ranges_of_copy {longitude copy : ℚ} (hlow : -180 ≤ longitude) (hhigh : longitude < 180)
    (hcopy : IsCopy copy longitude) (hwest : rawWest ≤ copy)
    (heast : copy < (spotSearchViewport rawWest rawEast).east) :
    ∃ range ∈ longitudeSearchRanges rawWest rawEast, range.minLong ≤ longitude ∧ longitude ≤ range.maxLong := by
  obtain ⟨⟨k, hwrapped⟩, hlowWest, hhighWest⟩ := wrapLongitude_spec rawWest
  unfold spotSearchViewport at heast
  dsimp only at heast
  unfold longitudeSearchRanges
  dsimp only
  unfold worldLongitudeSpan maxLongitude minLongitude
  generalize unwrapWidth (rawEast - rawWest) = width at heast ⊢
  split_ifs with hworld hinside
  · exact ⟨_, List.mem_singleton_self _, hlow, hhigh.le⟩
  · -- the copy that goes with the wrapped west edge is the Spot itself
    have hmoved : IsCopy (copy + 360 * k) longitude := by
      obtain ⟨m, hm⟩ := hcopy
      refine ⟨m + k, ?_⟩
      rw [hm]
      push_cast
      ring
    have hself : IsCopy longitude longitude := ⟨0, by simp⟩
    have hsame : copy + 360 * k = longitude := hmoved.eq_of_lt hself (by linarith) (by linarith)
    refine ⟨_, List.mem_singleton_self _, ?_, ?_⟩
    · dsimp only
      linarith
    · dsimp only
      linarith
  · have hmoved : IsCopy (copy + 360 * k) longitude := by
      obtain ⟨m, hm⟩ := hcopy
      refine ⟨m + k, ?_⟩
      rw [hm]
      push_cast
      ring
    by_cases hfirst : copy + 360 * k < 180
    · have hself : IsCopy longitude longitude := ⟨0, by simp⟩
      have hsame : copy + 360 * k = longitude := hmoved.eq_of_lt hself (by linarith) (by linarith)
      refine ⟨_, List.mem_cons_self, ?_, hhigh.le⟩
      dsimp only
      linarith
    · have hnext : IsCopy (longitude + 360) longitude := ⟨1, by push_cast; ring⟩
      have hsame : copy + 360 * k = longitude + 360 := by
        apply hmoved.eq_of_lt hnext
        · linarith
        · linarith
      refine ⟨_, List.mem_cons_of_mem _ (List.mem_singleton_self _), hlow, ?_⟩
      dsimp only
      linarith

end Ranges

/-- `Math.round` finds a nearest integer. -/
lemma abs_mathRound_sub_le (x : ℚ) (k : ℤ) : |(mathRound x : ℚ) - x| ≤ |(k : ℚ) - x| := by
  unfold mathRound
  have hle := Int.floor_le (x + 1 / 2)
  have hlt := Int.lt_floor_add_one (x + 1 / 2)
  generalize ⌊x + 1 / 2⌋ = n at hle hlt
  by_cases hsame : k = n
  · rw [hsame]
  · have hhalf : |(n : ℚ) - x| ≤ 1 / 2 := abs_le.mpr ⟨by linarith, by linarith⟩
    apply hhalf.trans
    have hapart : k + 1 ≤ n ∨ n + 1 ≤ k := by omega
    cases hapart with
    | inl hbelow =>
      have hbelow' : (k : ℚ) + 1 ≤ n := by exact_mod_cast hbelow
      rw [abs_of_nonpos (by linarith)]
      linarith
    | inr habove =>
      have habove' : (n : ℚ) + 1 ≤ k := by exact_mod_cast habove
      rw [abs_of_nonneg (by linarith)]
      linarith

/-- The longitude a Spot is drawn at is the copy nearest to the centre of the viewport. -/
lemma longitudeForViewport_nearest (value : ℚ) (viewport : Viewport) :
    IsCopy (longitudeForViewport value viewport) value ∧
    ∀ copy, IsCopy copy value → |longitudeForViewport value viewport - viewport.centre| ≤ |copy - viewport.centre| := by
  obtain ⟨⟨k, hwrapped⟩, -, -⟩ := wrapLongitude_spec value
  unfold longitudeForViewport worldLongitudeSpan
  dsimp only
  rw [hwrapped]
  generalize hturns : mathRound ((viewport.centre - (value + 360 * k)) / 360) = turns
  constructor
  · refine ⟨k + turns, ?_⟩
    push_cast
    ring
  · rintro copy ⟨m, rfl⟩
    have hnearest := abs_mathRound_sub_le ((viewport.centre - (value + 360 * k)) / 360) (m - k)
    rw [hturns] at hnearest
    have hscaled := mul_le_mul_of_nonneg_left hnearest (by norm_num : (0 : ℚ) ≤ |360|)
    rw [← abs_mul, ← abs_mul] at hscaled
    have hleft : 360 * ((turns : ℚ) - (viewport.centre - (value + 360 * k)) / 360) =
        value + 360 * k + turns * 360 - viewport.centre := by ring
    have hright : 360 * (((m - k : ℤ) : ℚ) - (viewport.centre - (value + 360 * k)) / 360) =
        value + 360 * m - viewport.centre := by
      push_cast
      ring
    rw [hleft, hright] at hscaled
    exact hscaled

/-- A Spot of which a copy is in view is found by one of the searches; no search has its bounds swapped by the
server; and the Spot is drawn at the copy nearest to the centre of the viewport. -/
theorem search_across_the_date_line (rawWest rawEast longitude : ℚ) (hlow : -180 ≤ longitude)
    (hhigh : longitude < 180) :
    ((∃ copy, IsCopy copy longitude ∧ (spotSearchViewport rawWest rawEast).west ≤ copy ∧
        copy < (spotSearchViewport rawWest rawEast).east) →
      ∃ range ∈ longitudeSearchRanges rawWest rawEast, range.minLong ≤ longitude ∧ longitude ≤ range.maxLong ∧
        range.Finds longitude) ∧
    (∀ range ∈ longitudeSearchRanges rawWest rawEast,
      -180 ≤ range.minLong ∧ range.minLong ≤ range.maxLong ∧ range.maxLong ≤ 180 ∧
        ∀ minLat maxLat, (range.bounds minLat maxLat).ordered.minLong = range.minLong ∧
          (range.bounds minLat maxLat).ordered.maxLong = range.maxLong) ∧
    ∀ viewport, IsCopy (longitudeForViewport longitude viewport) longitude ∧
      ∀ copy, IsCopy copy longitude →
        |longitudeForViewport longitude viewport - viewport.centre| ≤ |copy - viewport.centre| := by
  have hunswapped : ∀ range ∈ longitudeSearchRanges rawWest rawEast, ∀ minLat maxLat,
      (range.bounds minLat maxLat).ordered.minLong = range.minLong ∧
        (range.bounds minLat maxLat).ordered.maxLong = range.maxLong := by
    intro range hrange minLat maxLat
    have hordered := not_lt.mpr (ordered_of_mem_ranges hrange).2.1
    exact ⟨if_neg hordered, if_neg hordered⟩
  refine ⟨?_, ?_, fun viewport => longitudeForViewport_nearest longitude viewport⟩
  · rintro ⟨copy, hcopy, hwest, heast⟩
    obtain ⟨range, hrange, hmin, hmax⟩ := mem_ranges_of_copy hlow hhigh hcopy hwest heast
    refine ⟨range, hrange, hmin, hmax, ?_⟩
    intro minLat maxLat
    obtain ⟨hleast, hmost⟩ := hunswapped range hrange minLat maxLat
    rw [hleast, hmost]
    exact ⟨hmin, hmax⟩
  · intro range hrange
    obtain ⟨hleast, hordered, hmost⟩ := ordered_of_mem_ranges hrange
    exact ⟨hleast, hordered, hmost, hunswapped range hrange⟩

/-- A viewport across the date line, on the second copy of the world, with a Spot on either side. -/
theorem search_across_the_date_line_at_170 :
    ∃ range ∈ longitudeSearchRanges 530 550, range.minLong ≤ -175 ∧ -175 ≤ range.maxLong ∧ range.Finds (-175) := by
  have hwidth : unwrapWidth (550 - 530) = 20 := by
    rw [unwrapWidth, if_neg (by norm_num)]
    norm_num
  apply (search_across_the_date_line 530 550 (-175) (by norm_num) (by norm_num)).1
  refine ⟨545, ⟨2, by norm_num⟩, ?_, ?_⟩
  · unfold spotSearchViewport
    norm_num
  · unfold spotSearchViewport
    rw [hwidth]
    norm_num

end SearchTransport

end NimHunt
