import NimHunt.Proofs.HourlyLimit

/-!
# The retry time of a travel refusal

A jump that is too fast stays allowed once its own retry time has passed, so a refusal is honest when it names the
latest retry time of all jumps.  The strong signals do; the source network names the first jump it meets.
-/

namespace NimHunt

variable {P : Type}

/-- The same request at another time. -/
def PreclaimTarget.at (target : PreclaimTarget P) (now : ℕ) : PreclaimTarget P := { target with claimedAt := now }

section Jumps

variable {cfg : Settings P} {previous : ClaimEvent P} {target : PreclaimTarget P} {maxMps minMetres : ℚ} {retryAt now : ℕ}

lemma travelViolation_eq_some : travelViolation cfg previous target maxMps minMetres = some retryAt ↔
    minMetres ≤ eventDistance cfg previous target ∧
      maxMps < eventDistance cfg previous target / ((max 1 (target.claimedAt - previous.claimedAt) : ℕ) : ℚ) ∧
      retryAt = previous.claimedAt + ⌈eventDistance cfg previous target / maxMps⌉₊ + 1 := by
  unfold travelViolation
  dsimp only
  split_ifs with hslow
  · constructor
    · nofun
    · rintro ⟨hfar, hfast, -⟩
      cases hslow with
      | inl h => exact absurd hfar (not_le.mpr h)
      | inr h => exact absurd hfast (not_lt.mpr h)
  · obtain ⟨hfar, hfast⟩ := not_or.mp hslow
    constructor
    · exact fun h => ⟨not_lt.mp hfar, not_le.mp hfast, (Option.some.inj h).symm⟩
    · rintro ⟨-, -, rfl⟩
      rfl

/-- Too fast is too little time for the way. -/
lemma tooFast_iff {distance : ℚ} (hmax : 0 < maxMps) (elapsed : ℕ) :
    maxMps < distance / ((max 1 elapsed : ℕ) : ℚ) ↔ max 1 elapsed < ⌈distance / maxMps⌉₊ := by
  have hpos : (0 : ℚ) < ((max 1 elapsed : ℕ) : ℚ) := Nat.cast_pos.mpr (le_max_left 1 elapsed)
  rw [Nat.lt_ceil, lt_div_iff₀ hpos, lt_div_iff₀ hmax, mul_comm]

/-- At a later time the jumps are left whose own retry time lies more than a second ahead. -/
lemma travelViolation_at (hmax : 0 < maxMps) (hlater : target.claimedAt ≤ now) :
    travelViolation cfg previous (target.at now) maxMps minMetres =
      (travelViolation cfg previous target maxMps minMetres).filter (now + 1 < ·) := by
  have hlate : ∀ retryAt, travelViolation cfg previous (target.at now) maxMps minMetres = some retryAt ↔
      minMetres ≤ eventDistance cfg previous target ∧
        max 1 (now - previous.claimedAt) < ⌈eventDistance cfg previous target / maxMps⌉₊ ∧
        retryAt = previous.claimedAt + ⌈eventDistance cfg previous target / maxMps⌉₊ + 1 := by
    intro retryAt
    rw [travelViolation_eq_some, tooFast_iff hmax]
    rfl
  apply Option.ext
  intro retryAt
  rw [Option.filter_eq_some_iff, hlate, travelViolation_eq_some, tooFast_iff hmax, decide_eq_true_iff]
  constructor
  · rintro ⟨hfar, hfast, hretry⟩
    exact ⟨⟨hfar, by omega, hretry⟩, by omega⟩
  · rintro ⟨⟨hfar, hfast, hretry⟩, hearly⟩
    exact ⟨hfar, by omega, hretry⟩

/-- The retry time lies ahead of the request. -/
lemma lt_of_travelViolation (hmax : 0 < maxMps)
    (h : travelViolation cfg previous target maxMps minMetres = some retryAt) : target.claimedAt < retryAt := by
  obtain ⟨-, hfast, rfl⟩ := travelViolation_eq_some.mp h
  have hceil := (tooFast_iff hmax _).mp hfast
  omega

end Jumps

section Honest

variable (cfg : Settings P) (pre : PreclaimSettings P) (events : List (ClaimEvent P)) (target : PreclaimTarget P)

/-- The retry times of the jumps from events that share a strong signal with the request. -/
def strongRetryTimes : List ℕ :=
  events.filterMap fun previous => (sharedStrongSignal cfg previous target).bind fun _ =>
    travelViolation cfg previous target pre.strongTravelMaxMps pre.strongTravelMinMetres

/-- The retry times of the jumps from events of the same source network. -/
def networkRetryTimes : List ℕ :=
  events.filterMap fun previous =>
    if target.ipHash ≠ "" ∧ previous.ipHash = target.ipHash then
      travelViolation cfg previous target pre.ipTravelMaxMps pre.ipTravelMinMetres
    else none

def WalletLimited : Prop :=
  signalText cfg target.verifiedWallet ≠ "" ∧ cfg.walletHourlyClaimLimit ≤ (walletEvents cfg events target).length

def travelReasons : List String := ["impossible_travel", "source_network_impossible_travel"]

/-- From the retry time on, the request is not refused for the same reason again. -/
def RetryIsHonest : Prop :=
  ∀ retryAt, (preclaimRisk cfg pre events target).reason ∈ travelReasons →
    (preclaimRisk cfg pre events target).retryAt = some retryAt → ∀ now, retryAt ≤ now →
      (preclaimRisk cfg pre events (target.at now)).reason ≠ (preclaimRisk cfg pre events target).reason

/-- Where the source network decides, its first jump is the last to be allowed, up to one second. -/
def FirstJumpLasts : Prop :=
  strongRetryTimes cfg pre events target = [] → ¬ WalletLimited cfg events target →
    ∀ first ∈ (networkRetryTimes cfg pre events target).head?, ∀ retryAt ∈ networkRetryTimes cfg pre events target,
      retryAt ≤ first + 1

variable {cfg pre events target} {now : ℕ}

/-- What the decision says, by which rule it comes from. -/
inductive RiskRule (cfg : Settings P) (pre : PreclaimSettings P) (events : List (ClaimEvent P))
    (target : PreclaimTarget P) : PreclaimDecision → Prop
  | strong {decision : PreclaimDecision} {retryAt : ℕ} (hreason : decision.reason = "impossible_travel")
      (hretry : decision.retryAt = some retryAt) (hmem : retryAt ∈ strongRetryTimes cfg pre events target)
      (hlatest : ∀ other ∈ strongRetryTimes cfg pre events target, other ≤ retryAt) :
      RiskRule cfg pre events target decision
  | wallet {decision : PreclaimDecision} (hnone : strongRetryTimes cfg pre events target = [])
      (hlimited : WalletLimited cfg events target) (hreason : decision.reason = "wallet_rate_limit") :
      RiskRule cfg pre events target decision
  | network {decision : PreclaimDecision} {first : ℕ} (hnone : strongRetryTimes cfg pre events target = [])
      (hfree : ¬ WalletLimited cfg events target)
      (hfirst : (networkRetryTimes cfg pre events target).head? = some first)
      (hreason : decision.reason = "source_network_impossible_travel") (hretry : decision.retryAt = some first) :
      RiskRule cfg pre events target decision
  | allowed {decision : PreclaimDecision} (hnone : strongRetryTimes cfg pre events target = [])
      (hfree : ¬ WalletLimited cfg events target) (hnetwork : networkRetryTimes cfg pre events target = [])
      (hreason : decision.reason = "allow") : RiskRule cfg pre events target decision

/-- The pick is at least as good as what it starts from and as every candidate. -/
lemma pickBest_best {α : Type} {key : α → ℕ} {xs : List α} {best : Option α} {x : α}
    (h : pickBest (fun x y => decide (key y < key x)) best xs = some x) :
    (∀ y ∈ best, key y ≤ key x) ∧ ∀ y ∈ xs, key y ≤ key x := by
  induction xs generalizing best with
  | nil =>
    refine ⟨?_, nofun⟩
    intro y hy
    have hsame : best = some x := h
    rw [hsame] at hy
    exact le_of_eq (congrArg key (Option.mem_some.mp hy).symm)
  | cons z zs ih =>
    cases best with
    | none =>
      obtain ⟨hstart, hrest⟩ := ih h
      exact ⟨nofun, List.forall_mem_cons.mpr ⟨hstart z rfl, hrest⟩⟩
    | some start =>
      obtain ⟨hpicked, hrest⟩ := ih h
      by_cases hbetter : key start < key z
      · have hz := hpicked z (by rw [if_pos (decide_eq_true hbetter)]; rfl)
        refine ⟨?_, List.forall_mem_cons.mpr ⟨hz, hrest⟩⟩
        intro y hy
        rw [← Option.mem_some.mp hy]
        omega
      · have hstart := hpicked start (by rw [if_neg (by simpa using hbetter)]; rfl)
        refine ⟨?_, List.forall_mem_cons.mpr ⟨by omega, hrest⟩⟩
        intro y hy
        rw [← Option.mem_some.mp hy]
        exact hstart

lemma pickBest_eq_none {α : Type} {better : α → α → Bool} {xs : List α} (h : pickBest better none xs = none) : xs = [] := by
  have hsome : ∀ (ys : List α) (best : α), pickBest better (some best) ys ≠ none := by
    intro ys
    induction ys with
    | nil => exact fun best => nofun
    | cons y ys ih => exact fun best => ih _
  cases xs with
  | nil => rfl
  | cons x xs => exact absurd h (hsome xs x)

/-- The decision comes from one of the rules. -/
lemma preclaimRisk_rule : RiskRule cfg pre events target (preclaimRisk cfg pre events target) := by
  have hstrong : (events.filterMap fun previous => (sharedStrongSignal cfg previous target).bind fun signal =>
      (travelViolation cfg previous target pre.strongTravelMaxMps pre.strongTravelMinMetres).map fun retryAt =>
        (⟨true, "impossible_travel", some signal, some retryAt, some previous.claimId⟩ : PreclaimDecision)).map
          (fun decision => decision.retryAt.getD 0) = strongRetryTimes cfg pre events target := by
    rw [List.map_filterMap]
    apply List.filterMap_congr
    intro previous _
    cases sharedStrongSignal cfg previous target with
    | none => rfl
    | some signal =>
      cases travelViolation cfg previous target pre.strongTravelMaxMps pre.strongTravelMinMetres <;> rfl
  have hnetwork : (events.filterMap fun previous => if target.ipHash ≠ "" ∧ previous.ipHash = target.ipHash then
      (travelViolation cfg previous target pre.ipTravelMaxMps pre.ipTravelMinMetres).map fun retryAt =>
        (⟨true, "source_network_impossible_travel", some "source network", some retryAt, some previous.claimId⟩ :
          PreclaimDecision) else none).map (fun decision => decision.retryAt.getD 0) =
        networkRetryTimes cfg pre events target := by
    rw [List.map_filterMap]
    apply List.filterMap_congr
    intro previous _
    split_ifs
    · cases travelViolation cfg previous target pre.ipTravelMaxMps pre.ipTravelMinMetres <;> rfl
    · rfl
  unfold preclaimRisk
  dsimp only
  generalize hjumps : (events.filterMap fun previous => (sharedStrongSignal cfg previous target).bind fun signal =>
      (travelViolation cfg previous target pre.strongTravelMaxMps pre.strongTravelMinMetres).map fun retryAt =>
        (⟨true, "impossible_travel", some signal, some retryAt, some previous.claimId⟩ : PreclaimDecision)) = jumps
    at hstrong
  cases hpick : pickBest (fun x y => decide (y.retryAt.getD 0 < x.retryAt.getD 0)) none jumps with
  | some strongest =>
    have hmem : strongest ∈ jumps := (pickBest_mem hpick).resolve_left nofun
    have hbest := (@pickBest_best _ (fun decision : PreclaimDecision => decision.retryAt.getD 0) _ _ _ hpick).2
    have hform : strongest.reason = "impossible_travel" ∧ strongest.retryAt = some (strongest.retryAt.getD 0) := by
      rw [← hjumps] at hmem
      obtain ⟨previous, -, hfound⟩ := List.mem_filterMap.mp hmem
      obtain ⟨signal, -, hjump⟩ := Option.bind_eq_some_iff.mp hfound
      obtain ⟨retryAt, -, rfl⟩ := Option.map_eq_some_iff.mp hjump
      exact ⟨rfl, rfl⟩
    refine .strong hform.1 hform.2 (hstrong ▸ List.mem_map_of_mem hmem) ?_
    intro other hother
    rw [← hstrong] at hother
    obtain ⟨decision, hdecision, rfl⟩ := List.mem_map.mp hother
    exact hbest decision hdecision
  | none =>
    have hnone : strongRetryTimes cfg pre events target = [] := by
      rw [← hstrong, pickBest_eq_none hpick]
      rfl
    by_cases hlimited : signalText cfg target.verifiedWallet ≠ "" ∧
        cfg.walletHourlyClaimLimit ≤ (walletEvents cfg events target).length
    · dsimp only
      rw [if_pos hlimited]
      exact .wallet hnone hlimited rfl
    · dsimp only
      rw [if_neg hlimited]
      generalize hfound : (events.filterMap fun previous => if target.ipHash ≠ "" ∧ previous.ipHash = target.ipHash then
        (travelViolation cfg previous target pre.ipTravelMaxMps pre.ipTravelMinMetres).map fun retryAt =>
          (⟨true, "source_network_impossible_travel", some "source network", some retryAt, some previous.claimId⟩ :
            PreclaimDecision) else none) = network at hnetwork
      cases network with
      | nil => exact .allowed hnone hlimited hnetwork.symm rfl
      | cons first rest =>
        have hform : first.reason = "source_network_impossible_travel" ∧ first.retryAt = some (first.retryAt.getD 0) := by
          have hmem : first ∈ first :: rest := List.mem_cons_self
          rw [← hfound] at hmem
          obtain ⟨previous, -, hjump⟩ := List.mem_filterMap.mp hmem
          split_ifs at hjump
          obtain ⟨retryAt, -, rfl⟩ := Option.map_eq_some_iff.mp hjump
          exact ⟨rfl, rfl⟩
        refine .network hnone hlimited ?_ hform.1 hform.2
        rw [← hnetwork]
        rfl

/-- The strong jumps that are still too fast later. -/
lemma strongRetryTimes_at (hmax : 0 < pre.strongTravelMaxMps) (hlater : target.claimedAt ≤ now) :
    strongRetryTimes cfg pre events (target.at now) = (strongRetryTimes cfg pre events target).filter (now + 1 < ·) := by
  unfold strongRetryTimes
  rw [List.filter_filterMap]
  apply List.filterMap_congr
  intro previous _
  change (sharedStrongSignal cfg previous target).bind _ = _
  cases sharedStrongSignal cfg previous target with
  | none => rfl
  | some signal =>
    exact travelViolation_at hmax hlater

lemma networkRetryTimes_at (hmax : 0 < pre.ipTravelMaxMps) (hlater : target.claimedAt ≤ now) :
    networkRetryTimes cfg pre events (target.at now) = (networkRetryTimes cfg pre events target).filter (now + 1 < ·) := by
  unfold networkRetryTimes
  rw [List.filter_filterMap]
  apply List.filterMap_congr
  intro previous _
  change (if target.ipHash ≠ "" ∧ previous.ipHash = target.ipHash then _ else none) = _
  by_cases hnetwork : target.ipHash ≠ "" ∧ previous.ipHash = target.ipHash
  · rw [if_pos hnetwork, if_pos hnetwork]
    exact travelViolation_at hmax hlater
  · rw [if_neg hnetwork, if_neg hnetwork]
    rfl

/-- The hour of the wallet moves on, and with it its claims. -/
lemma walletLimited_at (hlater : target.claimedAt ≤ now) (h : WalletLimited cfg events (target.at now)) :
    WalletLimited cfg events target := by
  refine ⟨h.1, h.2.trans ?_⟩
  unfold walletEvents
  rw [← List.countP_eq_length_filter, ← List.countP_eq_length_filter]
  apply List.countP_mono_left
  intro event _ hcounted
  obtain ⟨hsame, hrecent⟩ := of_decide_eq_true hcounted
  refine decide_eq_true ⟨hsame, ?_⟩
  change now < event.claimedAt + 60 * 60 at hrecent
  omega

lemma mem_strongRetryTimes (hmax : 0 < pre.strongTravelMaxMps) {retryAt : ℕ}
    (h : retryAt ∈ strongRetryTimes cfg pre events target) : target.claimedAt < retryAt := by
  obtain ⟨previous, -, hfound⟩ := List.mem_filterMap.mp h
  obtain ⟨signal, -, hjump⟩ := Option.bind_eq_some_iff.mp hfound
  exact lt_of_travelViolation hmax hjump

lemma mem_networkRetryTimes (hmax : 0 < pre.ipTravelMaxMps) {retryAt : ℕ}
    (h : retryAt ∈ networkRetryTimes cfg pre events target) : target.claimedAt < retryAt := by
  obtain ⟨previous, -, hfound⟩ := List.mem_filterMap.mp h
  split_ifs at hfound
  exact lt_of_travelViolation hmax hfound

/-- No strong jump left means another reason, or none. -/
lemma reason_ne_impossible_travel (hnone : strongRetryTimes cfg pre events target = []) :
    (preclaimRisk cfg pre events target).reason ≠ "impossible_travel" := by
  cases @preclaimRisk_rule _ cfg pre events target with
  | strong _ _ hmem _ =>
    rw [hnone] at hmem
    cases hmem
  | wallet _ _ hreason => rw [hreason]; decide
  | network _ _ _ hreason _ => rw [hreason]; decide
  | allowed _ _ _ hreason => rw [hreason]; decide

/-- The source network decides exactly when nothing stronger does and it has a jump. -/
lemma reason_eq_network_iff : (preclaimRisk cfg pre events target).reason = "source_network_impossible_travel" ↔
    strongRetryTimes cfg pre events target = [] ∧ ¬ WalletLimited cfg events target ∧
      networkRetryTimes cfg pre events target ≠ [] := by
  cases @preclaimRisk_rule _ cfg pre events target with
  | strong hreason _ hmem _ =>
    rw [hreason]
    refine ⟨fun h => absurd h (by decide), fun h => ?_⟩
    rw [h.1] at hmem
    cases hmem
  | wallet _ hlimited hreason =>
    rw [hreason]
    exact ⟨fun h => absurd h (by decide), fun h => absurd hlimited h.2.1⟩
  | network hnone hfree hfirst hreason _ =>
    refine ⟨fun _ => ⟨hnone, hfree, ?_⟩, fun _ => hreason⟩
    rintro hempty
    rw [hempty] at hfirst
    cases hfirst
  | allowed _ _ hnetwork hreason =>
    rw [hreason]
    exact ⟨fun h => absurd h (by decide), fun h => absurd hnetwork h.2.2⟩

/-- A travel refusal names an honest retry time exactly when the first jump of the source network lasts longest. -/
theorem retry_is_honest_iff (hstrong : 0 < pre.strongTravelMaxMps) (hip : 0 < pre.ipTravelMaxMps) :
    RetryIsHonest cfg pre events target ↔ FirstJumpLasts cfg pre events target := by
  constructor
  · intro hhonest hnone hfree first hfirst retryAt hmem
    by_contra hlater
    have hne : networkRetryTimes cfg pre events target ≠ [] := by
      intro hempty
      rw [hempty] at hmem
      cases hmem
    have hreason := reason_eq_network_iff.mpr ⟨hnone, hfree, hne⟩
    have hretry : (preclaimRisk cfg pre events target).retryAt = some first := by
      cases @preclaimRisk_rule _ cfg pre events target with
      | strong _ _ hjump _ =>
        rw [hnone] at hjump
        cases hjump
      | wallet _ hlimited _ => exact absurd hlimited hfree
      | network _ _ hhead _ hretry =>
        rw [hretry]
        exact hhead.symm.trans hfirst
      | allowed _ _ hempty _ => exact absurd hempty hne
    have hahead : target.claimedAt ≤ first :=
      (mem_networkRetryTimes hip (List.mem_of_mem_head? hfirst)).le
    -- At the retry time the later jump is still too fast.
    refine hhonest first (by rw [hreason]; decide) hretry first (le_refl _) ?_
    rw [hreason]
    refine reason_eq_network_iff.mpr ⟨?_, fun hlimited => hfree (walletLimited_at hahead hlimited), ?_⟩
    · rw [strongRetryTimes_at hstrong hahead, hnone]
      rfl
    · rw [networkRetryTimes_at hip hahead]
      exact List.ne_nil_of_mem (List.mem_filter.mpr ⟨hmem, decide_eq_true (by omega)⟩)
  · intro hlasts retryAt htravel hretry now hnow
    cases @preclaimRisk_rule _ cfg pre events target with
    | strong hreason hfound hmem hlatest =>
      rw [hfound] at hretry
      have hsame := Option.some.inj hretry
      have hahead := mem_strongRetryTimes hstrong hmem
      rw [hreason]
      apply reason_ne_impossible_travel
      rw [strongRetryTimes_at hstrong (by omega), List.filter_eq_nil_iff]
      intro other hother hstill
      have hle := hlatest other hother
      have hlate := of_decide_eq_true hstill
      omega
    | wallet _ _ hreason =>
      rw [hreason] at htravel
      exact absurd htravel (by decide)
    | network hnone hfree hfirst hreason hfound =>
      rw [hfound] at hretry
      have hsame := Option.some.inj hretry
      have hahead := mem_networkRetryTimes hip (List.mem_of_mem_head? hfirst)
      rw [hreason]
      intro hagain
      obtain ⟨-, -, hne⟩ := reason_eq_network_iff.mp hagain
      apply hne
      rw [networkRetryTimes_at hip (by omega), List.filter_eq_nil_iff]
      intro other hother hstill
      have hle := hlasts hnone hfree _ hfirst other hother
      have hlate := of_decide_eq_true hstill
      omega
    | allowed _ _ _ hreason =>
      rw [hreason] at htravel
      exact absurd htravel (by decide)

end Honest

section Detour

/-- Places on a line, by their distance from its start. -/
def Settings.line : Settings ℕ where
  distanceMetres := fun x y => ((x - y + (y - x) : ℕ) : ℚ)
  publicDeployment := true
  walletHourlyClaimLimit := 20
  cleanOptionalNimiqAddress := .ok
  strip := id
  upper := id

/-- A claim of another wallet from the same source network. -/
def networkEvent (claimId metres : ℕ) : ClaimEvent ℕ where
  claimId := claimId
  spotId := claimId
  userId := claimId
  deviceIdHash := ""
  verifiedWallet := none
  payoutAddress := none
  ipHash := "NETWORK"
  claimedAt := 1000
  recordedAt := 1000
  sessionCreatedAt := 0
  userCreatedAt := 0
  spotPosition := metres
  spotRadius := 0
  reportedPosition := metres
  centreOffsetMetres := 0
  manualReview := false

def networkTarget : PreclaimTarget ℕ where
  deviceIdHash := "DEVICE"
  verifiedWallet := none
  payoutAddress := none
  ipHash := "NETWORK"
  claimedAt := 1010
  spotPosition := 0
  spotRadius := 0

theorem retry_is_honest_far_first :
    RetryIsHonest Settings.line {} [networkEvent 1 400000, networkEvent 2 30000] networkTarget := by
  refine (retry_is_honest_iff (by norm_num) (by norm_num)).mpr ?_
  intro _ _ first hfirst retryAt hmem
  have htimes : networkRetryTimes Settings.line {} [networkEvent 1 400000, networkEvent 2 30000] networkTarget =
      [3001, 1151] := by decide +kernel
  rw [htimes] at hfirst hmem
  have hhead : 3001 = first := Option.some.inj hfirst
  rw [List.mem_cons, List.mem_singleton] at hmem
  omega

/-- The nearer event comes first in the list, and its retry time is too early for the farther one. -/
theorem near_first_retry_refused_again : ¬ ∀ events : List (ClaimEvent ℕ),
    RetryIsHonest Settings.line {} events networkTarget := by
  intro hall
  have hreason : (preclaimRisk Settings.line {} [networkEvent 1 30000, networkEvent 2 400000] networkTarget).reason =
      "source_network_impossible_travel" := by decide +kernel
  have hretry : (preclaimRisk Settings.line {} [networkEvent 1 30000, networkEvent 2 400000] networkTarget).retryAt =
      some 1151 := by decide +kernel
  have hagain : (preclaimRisk Settings.line {} [networkEvent 1 30000, networkEvent 2 400000]
      (networkTarget.at 1151)).reason = "source_network_impossible_travel" := by decide +kernel
  exact hall _ 1151 (by rw [hreason]; decide) hretry 1151 (le_refl _) (hagain.trans hreason.symm)

end Detour

end NimHunt
