import Mathlib.Algebra.Order.Field.Rat
import NimHunt.PrizedrawRules

/-!
# Repairing the limits of a Prizedraw

A finite number of participants only grows, and a limit below it stays below it.  So the final pass finds each limit
either kept or lowered, and the option 1 is always low enough.
-/

namespace NimHunt.PrizedrawRules

open PendingDeposits

/-- The lists of the form: each limit has the option 1. -/
structure FormOptions (js : NumberText) where
  participant : OptionList
  perUser : OptionList
  prize : OptionList
  perUser_one : ∃ option ∈ perUser.getD [], option.toNumber js = .finite 1
  prize_one : ∃ option ∈ prize.getD [], option.toNumber js = .finite 1

section Options

variable {js : NumberText} {options : OptionList} {limit total : JsNumber} {value t t' : ℚ}

lemma mem_finiteSortedOptions : value ∈ finiteSortedOptions js options ↔
    0 < value ∧ ∃ option ∈ options.getD [], option.toNumber js = .finite value := by
  unfold finiteSortedOptions
  dsimp only
  rw [List.mem_mergeSort, List.mem_eraseDups, List.mem_filterMap]
  constructor
  · rintro ⟨number, hnumber, hsome⟩
    obtain ⟨option, hoption, rfl⟩ := List.mem_map.mp hnumber
    split at hsome
    · next value' hvalue =>
      split_ifs at hsome with hpos
      cases hsome
      exact ⟨hpos, option, hoption, hvalue⟩
    · cases hsome
  · rintro ⟨hpos, option, hoption, hvalue⟩
    refine ⟨.finite value, List.mem_map.mpr ⟨option, hoption, hvalue⟩, ?_⟩
    exact if_pos hpos

lemma smallestOptionAbove_some (h : smallestOptionAbove js options (.number limit) = some value) :
    value ∈ finiteSortedOptions js options ∧ less limit (.finite value) = true :=
  ⟨List.mem_of_find?_eq_some h, @List.find?_some _ (fun option => less limit (.finite option)) _ _ h⟩

lemma exists_smallestOptionAbove (h : value ∈ finiteSortedOptions js options) (hless : less limit (.finite value) = true) :
    ∃ above, smallestOptionAbove js options (.number limit) = some above :=
  Option.isSome_iff_exists.mp (List.find?_isSome.mpr ⟨value, h, hless⟩)

lemma largestOptionBelow_some (h : largestOptionBelow js options (.number total) = some value) :
    value ∈ finiteSortedOptions js options ∧ less (.finite value) total = true :=
  List.mem_filter.mp (List.mem_of_getLast? h)

lemma exists_largestOptionBelow (h : value ∈ finiteSortedOptions js options) (hless : less (.finite value) total = true) :
    ∃ below, largestOptionBelow js options (.number total) = some below :=
  Option.isSome_iff_exists.mp (List.getLast?_isSome.mpr (List.ne_nil_of_mem (List.mem_filter.mpr ⟨h, hless⟩)))

end Options

section Numbers

variable {limit : JsNumber} {value t t' : ℚ}

lemma less_finite : less (.finite t) (.finite t') = true ↔ t < t' := decide_eq_true_iff

lemma atMost_zero : atMost (.finite 0) (.finite 0) = true := by decide +kernel

lemma not_atMost_zero (ht : 2 ≤ t) : ¬ atMost (.finite t) (.finite 0) = true := by
  unfold atMost
  rw [less_finite.mpr (zero_lt_two.trans_le ht)]
  nofun

/-- What is too large is above zero, and no number that is not below the participants. -/
lemma tooLarge_finite : tooLarge (.finite value) (.finite t) = true ↔ 0 < value ∧ t ≤ value := by
  unfold tooLarge atMost less
  simp

lemma tooLarge_mono (hle : t ≤ t') (h : tooLarge limit (.finite t) = false) : tooLarge limit (.finite t') = false := by
  cases limit with
  | nan => rfl
  | infinite negative => exact h
  | finite value =>
    rw [Bool.eq_false_iff, Ne, tooLarge_finite] at h ⊢
    exact fun hlarge => h ⟨hlarge.1, hle.trans hlarge.2⟩

/-- A number that has an option above it is no longer too large for the option. -/
lemma not_tooLarge_of_less (h : less limit (.finite t) = true) : tooLarge limit (.finite t) = false := by
  cases limit with
  | nan => rfl
  | infinite negative =>
    cases negative with
    | true => rfl
    | false => cases h
  | finite value =>
    rw [Bool.eq_false_iff, Ne, tooLarge_finite]
    exact fun hlarge => not_lt.mpr hlarge.2 (less_finite.mp h)

lemma lt_of_tooLarge (h : tooLarge limit (.finite t) = true) (hless : less limit (.finite t') = true) : t < t' := by
  cases limit with
  | nan => cases h
  | infinite negative =>
    cases negative with
    | true => cases h
    | false => cases hless
  | finite value => exact (tooLarge_finite.mp h).2.trans_lt (less_finite.mp hless)

end Numbers

section Passes

variable {js : NumberText} {changed : Bool} {participantOptions options : OptionList} {limit total : JsNumber} {t : ℚ}

/-- A lowered limit is an option below the participants. -/
lemma lowered_spec (hone : ∃ option ∈ options.getD [], option.toNumber js = .finite 1) (ht : 2 ≤ t) (limit : JsNumber) :
    ∃ value, lowered js options limit (.finite t) = .finite value ∧ 0 < value ∧ value < t := by
  have hmem : (1 : ℚ) ∈ finiteSortedOptions js options := mem_finiteSortedOptions.mpr ⟨one_pos, hone⟩
  have hless : less (.finite 1) (.finite t) = true := less_finite.mpr (one_lt_two.trans_le ht)
  obtain ⟨value, hvalue⟩ := exists_largestOptionBelow hmem hless
  obtain ⟨hoption, hbelow⟩ := largestOptionBelow_some hvalue
  refine ⟨value, ?_, (mem_finiteSortedOptions.mp hoption).1, less_finite.mp hbelow⟩
  unfold lowered
  rw [hvalue]
  rfl

lemma not_tooLarge_of_lt {value : ℚ} (h : value < t) : tooLarge (.finite value) (.finite t) = false :=
  not_tooLarge_of_less (less_finite.mpr h)

/-- The final pass leaves a limit that is in order, and touches no other. -/
lemma finalPass_spec (hone : ∃ option ∈ options.getD [], option.toNumber js = .finite 1) (ht : 2 ≤ t) (limit : JsNumber) :
    tooLarge (finalPass js options limit (.finite t)) (.finite t) = false ∧
    ((∃ value, finalPass js options limit (.finite t) = .finite value ∧ 0 < value) ∨
      finalPass js options limit (.finite t) = limit) := by
  obtain ⟨value, hlowered, hpos, hlt⟩ := lowered_spec hone ht limit
  unfold finalPass
  split_ifs with hlarge
  · rw [hlowered]
    exact ⟨not_tooLarge_of_lt hlt, .inl ⟨value, rfl, hpos⟩⟩
  · exact ⟨Bool.eq_false_iff.mpr hlarge, .inr rfl⟩

lemma finalPass_eq_self (h : tooLarge limit total = false) : finalPass js options limit total = limit :=
  if_neg (Bool.eq_false_iff.mp h)

/-- The first pass never takes participants away.  It keeps the limit that the user changed, and makes room for it where
some option does; another limit it keeps or lowers, for the participants that there are. -/
lemma firstPass_spec (hone : ∃ option ∈ options.getD [], option.toNumber js = .finite 1) (ht : 2 ≤ t) (limit : JsNumber) :
    ∃ limit' t', firstPass js changed participantOptions options limit (.finite t) = (limit', .finite t') ∧ t ≤ t' ∧
      ((∃ value, limit' = .finite value ∧ 0 < value) ∨ limit' = limit) ∧ (changed = false → t' = t) ∧
      (changed = true → limit' = limit ∧ ∀ option ∈ participantOptions.getD [], ∀ value,
        option.toNumber js = .finite value → less limit (.finite value) = true →
        tooLarge limit (.finite t') = false) := by
  unfold firstPass
  split_ifs with hlarge hchanged
  · cases hsmallest : smallestOptionAbove js participantOptions (.number limit) with
    | none =>
      refine ⟨limit, t, rfl, le_rfl, .inr rfl, fun _ => rfl, fun _ => ⟨rfl, ?_⟩⟩
      intro option hoption value hvalue hless
      have hpos : 0 < value := (zero_lt_two.trans_le ht).trans (lt_of_tooLarge hlarge hless)
      obtain ⟨above, habove⟩ :=
        exists_smallestOptionAbove (mem_finiteSortedOptions.mpr ⟨hpos, option, hoption, hvalue⟩) hless
      rw [hsmallest] at habove
      cases habove
    | some above =>
      obtain ⟨-, hless⟩ := smallestOptionAbove_some hsmallest
      refine ⟨limit, above, rfl, (lt_of_tooLarge hlarge hless).le, .inr rfl, ?_, ?_⟩
      · rw [hchanged]
        nofun
      · exact fun _ => ⟨rfl, fun _ _ _ _ _ => not_tooLarge_of_less hless⟩
  · obtain ⟨value, hlowered, hpos, -⟩ := lowered_spec hone ht limit
    exact ⟨_, t, rfl, le_rfl, .inl ⟨value, hlowered, hpos⟩, fun _ => rfl, fun h => absurd h hchanged⟩
  · exact ⟨limit, t, rfl, le_rfl, .inr rfl, fun _ => rfl,
      fun _ => ⟨rfl, fun _ _ _ _ _ => Bool.eq_false_iff.mpr hlarge⟩⟩

lemma firstPass_eq_self (h : tooLarge limit total = false) :
    firstPass js changed participantOptions options limit total = (limit, total) := if_neg (Bool.eq_false_iff.mp h)

end Passes

section Selections

variable {js : NumberText} {options : FormOptions js} {changedName : String}

/-- The values of the form. -/
structure Selection where
  maxClaimsPerUser : JsValue
  maxTotalClaims : JsValue
  prizeCount : JsValue

/-- The values as numbers. -/
def Selection.limits (js : NumberText) (s : Selection) : PrizedrawLimits :=
  ⟨numberOrZero js s.maxClaimsPerUser, numberOrZero js s.maxTotalClaims, numberOrZero js s.prizeCount⟩

def Selection.adjusted (options : FormOptions js) (changedName : String) (s : Selection) : PrizedrawLimits :=
  adjustedPrizedrawLimits js changedName s.maxClaimsPerUser s.maxTotalClaims s.prizeCount options.participant
    options.perUser options.prize

def Selection.valid (js : NumberText) (s : Selection) : Bool :=
  prizedrawLimitsAreValid js s.maxClaimsPerUser s.maxTotalClaims s.prizeCount

/-- The adjusted limits as values of the form. -/
def PrizedrawLimits.selection (limits : PrizedrawLimits) : Selection :=
  ⟨.number limits.maxClaimsPerUser, .number limits.maxTotalClaims, .number limits.prizeCount⟩

/-- A larger finite number of participants is offered. -/
def FormOptions.Above (options : FormOptions js) (limit : JsNumber) : Prop :=
  ∃ option ∈ options.participant.getD [], ∃ value, option.toNumber js = .finite value ∧ less limit (.finite value) = true

/-- The relationships hold: there are prizes, and participants without end or more of them than of either limit. -/
structure PrizedrawLimits.InOrder (limits : PrizedrawLimits) : Prop where
  prizes : less (.finite 0) limits.prizeCount = true
  total : limits.maxTotalClaims = .finite 0 ∨ ∃ t, 2 ≤ t ∧ limits.maxTotalClaims = .finite t ∧
    tooLarge limits.maxClaimsPerUser (.finite t) = false ∧ tooLarge limits.prizeCount (.finite t) = false

lemma numberOrZero_number {n : JsNumber} (h : n ≠ .nan) : numberOrZero js (.number n) = n := by
  unfold numberOrZero JsValue.orElse JsValue.truthy
  by_cases hzero : n = .finite 0
  · rw [hzero]
    rfl
  · rw [if_pos (by simp [h, hzero])]
    rfl

/-- Prizes are finite and in order where they are not refused. -/
lemma prizes_in_order (prizes : JsNumber) (t : ℚ) :
    (!isFinite prizes || atMost prizes (.finite 0) || atMost (.finite t) prizes) = false ↔
      less (.finite 0) prizes = true ∧ tooLarge prizes (.finite t) = false := by
  unfold tooLarge
  cases prizes with
  | nan => exact iff_of_false nofun fun h => nomatch h.1
  | infinite negative => cases negative <;> simp [isFinite, atMost, less]
  | finite value =>
    simp only [isFinite, atMost, less]
    by_cases hpos : 0 < value <;> simp [hpos]

lemma valid_iff (s : Selection) : s.valid js = true ↔ (s.limits js).InOrder := by
  unfold Selection.valid prizedrawLimitsAreValid Selection.limits
  dsimp only
  generalize numberOrZero js s.maxClaimsPerUser = perUser
  generalize numberOrZero js s.maxTotalClaims = total
  generalize numberOrZero js s.prizeCount = prizes
  have htwo : (JsValue.number (.finite 2)).toNumber js = .finite 2 := rfl
  rw [htwo]
  split_ifs with hzero hsmall hprizes hperUser
  · exact ⟨fun h => ⟨h, .inl hzero⟩, fun h => h.prizes⟩
  · refine iff_of_false nofun ?_
    rintro ⟨-, hnone | ⟨t, ht, htotal, -, -⟩⟩
    · exact hzero hnone
    · cases htotal
      have hless : less (.finite t) (.finite 2) = true := hsmall
      exact absurd (less_finite.mp hless) (not_lt.mpr ht)
  · refine iff_of_false nofun ?_
    rintro ⟨hpos, hnone | ⟨t, ht, htotal, -, hlarge⟩⟩
    · exact hzero hnone
    · cases htotal
      rw [(prizes_in_order prizes t).mpr ⟨hpos, hlarge⟩] at hprizes
      cases hprizes
  · refine iff_of_false nofun ?_
    rintro ⟨hpos, hnone | ⟨t, ht, htotal, hlarge, -⟩⟩
    · exact hzero hnone
    · cases htotal
      rw [hlarge] at hperUser
      cases hperUser
  · refine iff_of_true rfl ?_
    cases total with
    | nan => exact absurd rfl hsmall
    | infinite negative => exact absurd rfl hsmall
    | finite t =>
      have ht : 2 ≤ t := not_lt.mp fun hlt => hsmall (less_finite.mpr hlt)
      obtain ⟨hpos, hlarge⟩ := (prizes_in_order prizes t).mp (Bool.eq_false_iff.mpr hprizes)
      exact ⟨hpos, .inr ⟨t, ht, rfl, Bool.eq_false_iff.mpr hperUser, hlarge⟩⟩

/-- Limits in order are left alone. -/
lemma adjusted_of_inOrder {s : Selection} (h : (s.limits js).InOrder) :
    s.adjusted options changedName = s.limits js := by
  obtain ⟨-, hzero | ⟨t, ht, htotal, hperUser, hprizes⟩⟩ := h
  · have hnone : numberOrZero js s.maxTotalClaims = .finite 0 := hzero
    unfold Selection.adjusted adjustedPrizedrawLimits Selection.limits
    dsimp only
    rw [hnone, if_pos atMost_zero]
  · have hfinite : numberOrZero js s.maxTotalClaims = .finite t := htotal
    unfold Selection.limits at hperUser hprizes
    unfold Selection.adjusted adjustedPrizedrawLimits Selection.limits
    dsimp only at *
    rw [hfinite, if_neg (not_atMost_zero ht), firstPass_eq_self hperUser, firstPass_eq_self hprizes]
    dsimp only
    rw [finalPass_eq_self hperUser, finalPass_eq_self hprizes]

/-- What becomes of a selection with a finite number of participants: the participants only grow, each limit is in order
with them and a positive number or as it was, and the limit that was changed stays where there is an option above it. -/
lemma adjusted_spec (options : FormOptions js) (changedName : String) {s : Selection} {t : ℚ}
    (htotal : (s.limits js).maxTotalClaims = .finite t) (ht : 2 ≤ t) :
    ∃ perUser t' prizes, s.adjusted options changedName = ⟨perUser, .finite t', prizes⟩ ∧ t ≤ t' ∧
      tooLarge perUser (.finite t') = false ∧ tooLarge prizes (.finite t') = false ∧
      ((∃ value, perUser = .finite value ∧ 0 < value) ∨ perUser = (s.limits js).maxClaimsPerUser) ∧
      ((∃ value, prizes = .finite value ∧ 0 < value) ∨ prizes = (s.limits js).prizeCount) ∧
      (changedName = "perUser" → options.Above (s.limits js).maxClaimsPerUser →
        perUser = (s.limits js).maxClaimsPerUser) ∧
      (changedName = "prizeCount" → options.Above (s.limits js).prizeCount → prizes = (s.limits js).prizeCount) ∧
      (changedName ≠ "perUser" → changedName ≠ "prizeCount" → t' = t) := by
  unfold Selection.limits at htotal ⊢
  unfold Selection.adjusted adjustedPrizedrawLimits
  dsimp only at htotal ⊢
  rw [htotal, if_neg (not_atMost_zero ht)]
  generalize numberOrZero js s.maxClaimsPerUser = perUser
  generalize numberOrZero js s.prizeCount = prizes
  obtain ⟨perUser₁, t₁, hfirst, hle₁, hperUser₁, hsame₁, hchanged₁⟩ :=
    @firstPass_spec js (changedName = "perUser") options.participant options.perUser t options.perUser_one ht perUser
  rw [hfirst]
  dsimp only
  obtain ⟨prizes₂, t₂, hsecond, hle₂, hprizes₂, hsame₂, hchanged₂⟩ :=
    @firstPass_spec js (changedName = "prizeCount") options.participant options.prize t₁ options.prize_one
      (ht.trans hle₁) prizes
  rw [hsecond]
  dsimp only
  have ht₂ : 2 ≤ t₂ := (ht.trans hle₁).trans hle₂
  obtain ⟨hperUser₃, hcase₃⟩ := finalPass_spec options.perUser_one ht₂ perUser₁
  obtain ⟨hprizes₃, hcase₃'⟩ := finalPass_spec options.prize_one ht₂ prizes₂
  refine ⟨_, t₂, _, rfl, hle₁.trans hle₂, hperUser₃, hprizes₃, ?_, ?_, ?_, ?_, ?_⟩
  · obtain hvalue | hkept := hcase₃
    · exact .inl hvalue
    · rw [hkept]
      exact hperUser₁
  · obtain hvalue | hkept := hcase₃'
    · exact .inl hvalue
    · rw [hkept]
      exact hprizes₂
  · rintro hname ⟨option, hoption, value, hvalue, hless⟩
    obtain ⟨rfl, hroom⟩ := hchanged₁ (decide_eq_true hname)
    exact finalPass_eq_self (tooLarge_mono hle₂ (hroom option hoption value hvalue hless))
  · rintro hname ⟨option, hoption, value, hvalue, hless⟩
    obtain ⟨rfl, hroom⟩ := hchanged₂ (decide_eq_true hname)
    exact finalPass_eq_self (hroom option hoption value hvalue hless)
  · intro hname hname'
    rw [hsame₂ (decide_eq_false hname'), hsame₁ (decide_eq_false hname)]

/-- At least one prize; participants without end, or at least two; and the limit of each user is a number. -/
structure Selection.Usable (js : NumberText) (s : Selection) : Prop where
  prizes : atMost (.finite 1) (s.limits js).prizeCount = true
  total : ∃ t, (s.limits js).maxTotalClaims = .finite t ∧ (t = 0 ∨ 2 ≤ t)
  perUser : (s.limits js).maxClaimsPerUser ≠ .nan

lemma Selection.Usable.prizes_pos {s : Selection} (h : s.Usable js) : less (.finite 0) (s.limits js).prizeCount = true := by
  have hprizes := h.prizes
  cases hcount : (s.limits js).prizeCount with
  | nan =>
    rw [hcount] at hprizes
    cases hprizes
  | infinite negative =>
    rw [hcount] at hprizes
    cases negative with
    | true => cases hprizes
    | false => rfl
  | finite value =>
    rw [hcount] at hprizes
    simp only [atMost, less] at hprizes
    have hone : 1 ≤ value := by simpa using hprizes
    exact less_finite.mpr (one_pos.trans_le hone)

lemma limits_selection {limits : PrizedrawLimits} (hperUser : limits.maxClaimsPerUser ≠ .nan)
    (htotal : limits.maxTotalClaims ≠ .nan) (hprizes : limits.prizeCount ≠ .nan) :
    limits.selection.limits js = limits := by
  unfold PrizedrawLimits.selection Selection.limits
  dsimp only
  rw [numberOrZero_number hperUser, numberOrZero_number htotal, numberOrZero_number hprizes]

lemma ne_nan_of_less {n : JsNumber} (h : less (.finite 0) n = true) : n ≠ .nan := by
  rintro rfl
  cases h

/-- The adjusted limits are in order, and are numbers again. -/
lemma Selection.Usable.adjusted_inOrder {s : Selection} (h : s.Usable js) (options : FormOptions js) (changedName : String) :
    (s.adjusted options changedName).InOrder ∧
      (s.adjusted options changedName).selection.limits js = s.adjusted options changedName := by
  obtain ⟨t, htotal, rfl | ht⟩ := h.total
  · have hinOrder : (s.limits js).InOrder := ⟨h.prizes_pos, .inl htotal⟩
    rw [adjusted_of_inOrder hinOrder]
    refine ⟨hinOrder, limits_selection h.perUser ?_ (ne_nan_of_less h.prizes_pos)⟩
    rw [htotal]
    nofun
  · obtain ⟨perUser, t', prizes, hadjusted, hle, hperUser, hprizes, hcase, hcase', -⟩ :=
      adjusted_spec options changedName htotal ht
    have hpos : less (.finite 0) prizes = true := by
      obtain ⟨value, rfl, hvalue⟩ | rfl := hcase'
      · exact less_finite.mpr hvalue
      · exact h.prizes_pos
    have hnumber : perUser ≠ .nan := by
      obtain ⟨value, rfl, -⟩ | rfl := hcase
      · nofun
      · exact h.perUser
    rw [hadjusted]
    exact ⟨⟨hpos, .inr ⟨t', ht.trans hle, rfl, hperUser, hprizes⟩⟩, limits_selection hnumber nofun (ne_nan_of_less hpos)⟩

/-- The adjusted limits are accepted, an accepted selection is left as it is, adjusting again (whatever changed) changes
nothing, and the field that changed keeps its value where a larger number of participants is offered. -/
theorem limits_adjusted (js : NumberText) (options : FormOptions js) (changedName : String) (s : Selection)
    (h : s.Usable js) :
    (s.adjusted options changedName).selection.valid js = true ∧
    (s.valid js = true → s.adjusted options changedName = s.limits js) ∧
    (∀ changedNext, (s.adjusted options changedName).selection.adjusted options changedNext =
      s.adjusted options changedName) ∧
    (changedName = "perUser" → options.Above (s.limits js).maxClaimsPerUser →
      (s.adjusted options changedName).maxClaimsPerUser = (s.limits js).maxClaimsPerUser) ∧
    (changedName = "prizeCount" → options.Above (s.limits js).prizeCount →
      (s.adjusted options changedName).prizeCount = (s.limits js).prizeCount) ∧
    (changedName ≠ "perUser" → changedName ≠ "prizeCount" →
      (s.adjusted options changedName).maxTotalClaims = (s.limits js).maxTotalClaims) := by
  obtain ⟨hinOrder, hagain⟩ := h.adjusted_inOrder options changedName
  have hnext : (s.adjusted options changedName).selection.limits js |>.InOrder := hagain.symm ▸ hinOrder
  refine ⟨(valid_iff _).mpr hnext, fun hvalid => adjusted_of_inOrder ((valid_iff s).mp hvalid), ?_, ?_⟩
  · intro changedNext
    exact (adjusted_of_inOrder hnext).trans hagain
  · obtain ⟨t, htotal, rfl | ht⟩ := h.total
    · rw [adjusted_of_inOrder ⟨h.prizes_pos, .inl htotal⟩]
      exact ⟨fun _ _ => rfl, fun _ _ => rfl, fun _ _ => rfl⟩
    · obtain ⟨perUser, t', prizes, hadjusted, -, -, -, -, -, hkept, hkept', hkeptTotal⟩ :=
        adjusted_spec options changedName htotal ht
      rw [hadjusted, htotal]
      exact ⟨hkept, hkept', fun hname hname' => congrArg JsNumber.finite (hkeptTotal hname hname')⟩

def numberOptions (values : List ℕ) : OptionList := some (values.map fun value : ℕ => .number (.finite (value : ℚ)))

lemma mem_numberOptions {values : List ℕ} {value : ℕ} (h : value ∈ values) :
    JsValue.number (.finite value) ∈ (numberOptions values).getD [] :=
  List.mem_map.mpr ⟨value, h, rfl⟩

/-- No texts are among the values below. -/
def withoutTexts : NumberText := ⟨fun _ => [], fun _ => .nan⟩

def plainOptions : FormOptions withoutTexts where
  participant := numberOptions [2, 3, 4, 5, 6, 7, 8, 9, 10, 20, 30, 100, 200, 1000, 0]
  perUser := numberOptions [0, 1, 2, 3, 4, 5, 6, 7, 8, 9, 10]
  prize := numberOptions [1, 2, 3, 4, 5, 10, 20, 50, 100]
  perUser_one := ⟨_, mem_numberOptions (show 1 ∈ _ by decide), congrArg JsNumber.finite Nat.cast_one⟩
  prize_one := ⟨_, mem_numberOptions (show 1 ∈ _ by decide), congrArg JsNumber.finite Nat.cast_one⟩

def tens : PrizedrawLimits := ⟨.finite 10, .finite 10, .finite 10⟩

/-- Ten participants, ten prizes and ten claims of each user, which is what changed. -/
theorem limits_adjusted_ten : (tens.selection.adjusted plainOptions "perUser").selection.valid withoutTexts = true ∧
    (tens.selection.adjusted plainOptions "perUser").maxClaimsPerUser = .finite 10 := by
  have hlimits : tens.selection.limits withoutTexts = tens := limits_selection nofun nofun nofun
  have husable : tens.selection.Usable withoutTexts :=
    ⟨hlimits ▸ by decide +kernel, ⟨10, hlimits ▸ rfl, .inr (by decide +kernel)⟩, hlimits ▸ nofun⟩
  obtain ⟨hvalid, -, -, hkept, -⟩ := limits_adjusted withoutTexts plainOptions "perUser" tens.selection husable
  exact ⟨hvalid, hkept rfl ⟨_, mem_numberOptions (show 20 ∈ _ by decide), 20, rfl, by decide +kernel⟩⟩

end Selections

end NimHunt.PrizedrawRules
