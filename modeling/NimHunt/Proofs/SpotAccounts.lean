import NimHunt.Lib.Accounts
import NimHunt.DbAccess.Ledger

/-!
# The account of a Spot

What a Spot may spend, without the tables and the workers behind it: its rows, whom it owes a share, and the fee its
cancellation is held to.  Every flow spends by a promise made earlier from what was free then; a sound account honours
the promises still open, and no move of any flow makes it unsound.
-/

namespace NimHunt

open Lib

/-- What a row brings in. -/
def Trans.income (t : Trans) : ℕ := if t.type = .fillSpot ∧ t.status = .confirmed then t.amount else 0

/-- What a row spends, as long as it has not failed. -/
def Trans.spent (type : TransType) (t : Trans) : ℕ := if t.type = type ∧ t.status ≠ .failed then t.amount else 0

def Trans.outgoing (t : Trans) : ℕ := if t.type ≠ .fillSpot ∧ t.status ≠ .failed then t.amount else 0

def Trans.isActive (type : TransType) (t : Trans) : Bool := t.type = type ∧ t.status ≠ .failed

/-- The claim an active payout pays. -/
def Trans.payee (t : Trans) : Option ℕ := if t.isActive .claim then t.claimId else none

structure Account where
  status : SpotStatus
  marked : Bool
  totalValue : ℕ
  creationFee : ℕ
  rows : List Trans
  payees : Finset ℕ
  share : ℕ → ℕ
  policyFee : Option ℕ

/-- What a worker has decided to spend and will insert later. -/
inductive Promise
  | reward (claimId amount : ℕ)
  | split (fee refund : ℕ)
  | remainder (amount : ℕ)

namespace Account

section Amounts

variable (a : Account)

def income : ℕ := sumBy Trans.income a.rows

def active (type : TransType) : ℕ := sumBy (Trans.spent type) a.rows

def spent : ℕ := sumBy Trans.outgoing a.rows

def owed : ℕ := ∑ id ∈ a.payees, a.share id

/-- A banned Spot owes what is on its way to claimants, any other every share. -/
def promised : ℕ := if a.status = .banned then a.active .claim else a.owed

/-- What neither a claimant nor the creation fee has a right to. -/
def free : ℕ := a.income - (a.promised + a.active .creationFee)

def FeeSettled : Prop := a.creationFee = 0 ∨ ∃ t ∈ a.rows, t.type = .creationFee ∧ t.status = .confirmed

def Clear (type : TransType) : Prop := ∀ t ∈ a.rows, t.isActive type = false

/-- The account keeps enough for the promise. -/
def Honours : Promise → Prop
  | .reward claimId amount => a.status ≠ .banned → claimId ∈ a.payees ∧ amount = a.share claimId
  | .split fee refund => a.marked = true ∧
      ∃ policy, a.policyFee = some policy ∧ fee ≤ min policy a.free ∧ refund ≤ a.free - min policy a.free ∧
        0 < fee + refund
  | .remainder amount => (a.status = .completed ∨ a.status = .banned) ∧ a.FeeSettled ∧ amount ≤ a.free

/-- What holds of the account of every Spot. -/
structure Sound : Prop where
  covered : NeverOverdrawn Trans.income Trans.outgoing a.rows
  reserved : a.promised + a.active .creationFee ≤ a.income
  payouts : a.status ≠ .banned → ∀ t ∈ a.rows, t.type = .claim →
    ∃ id ∈ a.payees, t.claimId = some id ∧ t.amount = a.share id
  once : ∀ type, type.oncePerSpot = true → a.rows.countP (Trans.isActive type) ≤ 1
  oncePaid : ∀ id, a.rows.countP (fun t => t.payee = some id) ≤ 1
  fees : ∀ t ∈ a.rows, t.type = .creationFee → t.amount = a.creationFee
  refunds : ∀ t ∈ a.rows, t.type = .cancelSpot → a.marked = true ∧
    (t.status ≠ .failed → ∃ policy, a.policyFee = some policy ∧ t.amount ≤ a.free - min policy a.free)
  legFees : ∀ t ∈ a.rows, t.type = .platFee → a.status = .banned ∨ a.marked = true ∧
    (t.status ≠ .failed → ∃ policy, a.policyFee = some policy ∧ t.amount ≤ min policy a.free)
  remainders : ∀ t ∈ a.rows, t.isActive .remainderRefund = true → a.Honours (.remainder t.amount)
  funded : a.status = .published ∨ a.status = .completed → a.FeeSettled ∧ a.totalValue + a.creationFee ≤ a.income
  marker : a.marked = true → a.status = .draft ∨ a.status = .published ∨ a.status = .cancelled
  cancelled : a.status = .cancelled → a.marked = true
  draft : a.status = .draft → a.payees = ∅

end Amounts

section Rows

variable {a : Account} {t : Trans} {type : TransType}

lemma isActive_iff : t.isActive type = true ↔ t.type = type ∧ t.status ≠ .failed := by
  simp [Trans.isActive]

lemma spent_eq : t.spent type = if t.isActive type then t.amount else 0 := by
  simp [Trans.spent, Trans.isActive]

lemma spent_of_isActive (h : t.isActive type = true) : t.spent type = t.amount := by
  rw [spent_eq, if_pos h]

lemma spent_of_not_isActive (h : t.isActive type = false) : t.spent type = 0 := by
  rw [spent_eq, h]
  rfl

/-- Every outgoing row is of one of the five kinds. -/
lemma outgoing_eq (t : Trans) : t.outgoing =
    t.spent .claim + t.spent .creationFee + (t.spent .platFee + t.spent .cancelSpot + t.spent .remainderRefund) := by
  unfold Trans.outgoing Trans.spent
  cases t.type <;> simp

lemma spent_eq_active (a : Account) : a.spent =
    a.active .claim + a.active .creationFee + (a.active .platFee + a.active .cancelSpot + a.active .remainderRefund) := by
  unfold spent active
  rw [sumBy_congr fun t _ => outgoing_eq t]
  simp only [sumBy_add]

lemma Clear.active_eq_zero (h : a.Clear type) : a.active type = 0 :=
  sumBy_eq_zero fun t ht => spent_of_not_isActive (h t ht)

lemma Clear.countP_eq_zero (h : a.Clear type) : a.rows.countP (Trans.isActive type) = 0 :=
  List.countP_eq_zero.mpr fun t ht => by rw [h t ht]; exact Bool.false_ne_true

lemma payee_eq_some {id : ℕ} : t.payee = some id ↔ t.isActive .claim = true ∧ t.claimId = some id := by
  unfold Trans.payee
  split_ifs with h
  · simp [h]
  · simp [h]

end Rows

section Sound

variable {a : Account}

/-- Payouts that have not failed come to no more than the shares. -/
lemma Sound.claims_le (h : a.Sound) (hbanned : a.status ≠ .banned) : a.active .claim ≤ a.owed := by
  refine sumBy_le_shares h.oncePaid ?_ ?_
  · intro t ht hnone
    apply spent_of_not_isActive
    cases hactive : t.isActive .claim with
    | false => rfl
    | true =>
      obtain ⟨id, -, hid, -⟩ := h.payouts hbanned t ht (isActive_iff.mp hactive).1
      rw [payee_eq_some.mpr ⟨hactive, hid⟩] at hnone
      cases hnone
  · intro t ht id hid
    obtain ⟨hactive, hclaim⟩ := payee_eq_some.mp hid
    obtain ⟨id', hmem, hid', hamount⟩ := h.payouts hbanned t ht (isActive_iff.mp hactive).1
    obtain rfl := Option.some.inj (hclaim.symm.trans hid')
    exact ⟨hmem, (spent_of_isActive hactive).trans hamount⟩

lemma Sound.claims_le_promised (h : a.Sound) : a.active .claim ≤ a.promised := by
  unfold promised
  split_ifs with hbanned
  · exact le_refl _
  · exact h.claims_le hbanned

/-- A leg goes out once, at its bound. -/
lemma Sound.active_le (h : a.Sound) {type : TransType} (honce : type.oncePerSpot = true) {bound : ℕ}
    (hbound : ∀ t ∈ a.rows, t.isActive type = true → t.amount ≤ bound) : a.active type ≤ bound := by
  refine sumBy_le_of_single (h.once type honce) (fun t _ => spent_of_not_isActive) ?_
  intro t ht hactive
  rw [spent_of_isActive hactive]
  exact hbound t ht hactive

lemma Sound.clear_refunds (h : a.Sound) (hmarked : a.marked = false) : a.Clear .cancelSpot := by
  intro t ht
  cases hactive : t.isActive .cancelSpot with
  | false => rfl
  | true =>
    have hmarker := (h.refunds t ht (isActive_iff.mp hactive).1).1
    rw [hmarked] at hmarker
    cases hmarker

lemma Sound.clear_legFees (h : a.Sound) (hmarked : a.marked = false) (hbanned : a.status ≠ .banned) :
    a.Clear .platFee := by
  intro t ht
  cases hactive : t.isActive .platFee with
  | false => rfl
  | true =>
    rcases h.legFees t ht (isActive_iff.mp hactive).1 with hban | ⟨hmarker, -⟩
    · exact absurd hban hbanned
    · rw [hmarked] at hmarker
      cases hmarker

lemma Sound.clear_remainders (h : a.Sound) (hcompleted : a.status ≠ .completed) (hbanned : a.status ≠ .banned) :
    a.Clear .remainderRefund := by
  intro t ht
  cases hactive : t.isActive .remainderRefund with
  | false => rfl
  | true =>
    cases (h.remainders t ht hactive).1 with
    | inl hdone => exact absurd hdone hcompleted
    | inr hban => exact absurd hban hbanned

lemma Sound.marked_ne (h : a.Sound) (hmarked : a.marked = true) : a.status ≠ .completed ∧ a.status ≠ .banned := by
  rcases h.marker hmarked with hstatus | hstatus | hstatus <;> rw [hstatus] <;> exact ⟨nofun, nofun⟩

lemma Sound.remainder_le (h : a.Sound) : a.active .remainderRefund ≤ a.free :=
  h.active_le rfl fun t ht hactive => (h.remainders t ht hactive).2.2

/-- The legs of a cancellation share what is free. -/
lemma Sound.split_le (h : a.Sound) {policy : ℕ} (hpolicy : a.policyFee = some policy) (hbanned : a.status ≠ .banned) :
    a.active .platFee ≤ min policy a.free ∧ a.active .cancelSpot ≤ a.free - min policy a.free := by
  constructor
  · refine h.active_le rfl fun t ht hactive => ?_
    obtain ⟨htype, hstatus⟩ := isActive_iff.mp hactive
    rcases h.legFees t ht htype with hban | ⟨-, hbound⟩
    · exact absurd hban hbanned
    · obtain ⟨policy', hpolicy', hamount⟩ := hbound hstatus
      obtain rfl := Option.some.inj (hpolicy.symm.trans hpolicy')
      exact hamount
  · refine h.active_le rfl fun t ht hactive => ?_
    obtain ⟨htype, hstatus⟩ := isActive_iff.mp hactive
    obtain ⟨policy', hpolicy', hamount⟩ := (h.refunds t ht htype).2 hstatus
    obtain rfl := Option.some.inj (hpolicy.symm.trans hpolicy')
    exact hamount

/-- Without a policy no leg of a cancellation is out. -/
lemma Sound.clear_of_no_policy (h : a.Sound) (hpolicy : a.policyFee = none) :
    a.Clear .cancelSpot ∧ (a.status ≠ .banned → a.Clear .platFee) := by
  constructor
  · intro t ht
    cases hactive : t.isActive .cancelSpot with
    | false => rfl
    | true =>
      obtain ⟨htype, hstatus⟩ := isActive_iff.mp hactive
      obtain ⟨policy, hsome, -⟩ := (h.refunds t ht htype).2 hstatus
      rw [hpolicy] at hsome
      cases hsome
  · intro hbanned t ht
    cases hactive : t.isActive .platFee with
    | false => rfl
    | true =>
      obtain ⟨htype, hstatus⟩ := isActive_iff.mp hactive
      rcases h.legFees t ht htype with hban | ⟨-, hbound⟩
      · exact absurd hban hbanned
      · obtain ⟨policy, hsome, -⟩ := hbound hstatus
        rw [hpolicy] at hsome
        cases hsome

/-- Outside a ban the legs and the remainder together stay within what is free. -/
lemma Sound.legs_le (h : a.Sound) (hbanned : a.status ≠ .banned) :
    a.active .platFee + a.active .cancelSpot + a.active .remainderRefund ≤ a.free := by
  cases hmarked : a.marked with
  | false =>
    rw [(h.clear_legFees hmarked hbanned).active_eq_zero, (h.clear_refunds hmarked).active_eq_zero]
    have hremainder := h.remainder_le
    omega
  | true =>
    rw [(h.clear_remainders (h.marked_ne hmarked).1 hbanned).active_eq_zero]
    cases hpolicy : a.policyFee with
    | none =>
      obtain ⟨hrefunds, hfees⟩ := h.clear_of_no_policy hpolicy
      rw [hrefunds.active_eq_zero, (hfees hbanned).active_eq_zero]
      exact Nat.zero_le _
    | some policy =>
      obtain ⟨hfee, hrefund⟩ := h.split_le hpolicy hbanned
      have hmin : min policy a.free ≤ a.free := min_le_right _ _
      omega

/-- An account without rows that owes nobody. -/
lemma sound_empty (hrows : a.rows = []) (hpayees : a.payees = ∅) (hdraft : a.status = .draft)
    (hmarked : a.marked = false) : a.Sound := by
  have hpromised : a.promised = 0 := by
    unfold promised owed active
    rw [hpayees, hrows]
    simp
  have hfee : a.active .creationFee = 0 := by
    unfold active
    rw [hrows]
    rfl
  constructor
  · rw [hrows]
    exact neverOverdrawn_nil
  · rw [hpromised, hfee]
    exact Nat.zero_le _
  · rw [hrows]
    exact fun _ => nofun
  · rw [hrows]
    exact fun _ _ => Nat.zero_le _
  · rw [hrows]
    exact fun _ => Nat.zero_le _
  · rw [hrows]
    exact nofun
  · rw [hrows]
    exact nofun
  · rw [hrows]
    exact nofun
  · rw [hrows]
    exact nofun
  · rw [hdraft]
    rintro (h | h) <;> cases h
  · rw [hmarked]
    nofun
  · rw [hdraft]
    nofun
  · exact fun _ => hpayees

/-- What is reserved and what is free make up what came in. -/
lemma Sound.reserved_add_free (h : a.Sound) : a.promised + a.active .creationFee + a.free = a.income := by
  have hreserved := h.reserved
  unfold free
  omega

/-- A Spot never has more out than came in. -/
theorem Sound.spent_le_income (h : a.Sound) : a.spent ≤ a.income := h.covered.solvent

end Sound

section Push

variable {a : Account} {t : Trans}

/-- The account after one more row. -/
def push (a : Account) (t : Trans) : Account := { a with rows := a.rows ++ [t] }

lemma income_push (hpending : t.status = .pending) : (a.push t).income = a.income := by
  have hzero : t.income = 0 := by simp [Trans.income, hpending]
  simp [income, push, hzero]

lemma isActive_of_pending (hpending : t.status = .pending) (type : TransType) :
    t.isActive type = decide (t.type = type) := by
  simp [Trans.isActive, hpending]

lemma active_push (hpending : t.status = .pending) (type : TransType) :
    (a.push t).active type = a.active type + if t.type = type then t.amount else 0 := by
  have hrow : t.spent type = if t.type = type then t.amount else 0 := by
    rw [spent_eq, isActive_of_pending hpending]
    simp
  simp [active, push, hrow]

lemma FeeSettled.push (h : a.FeeSettled) (t : Trans) : (a.push t).FeeSettled :=
  h.imp id fun ⟨row, hrow, hconfirmed⟩ => ⟨row, List.mem_append_left _ hrow, hconfirmed⟩

/-- A payout of a banned Spot and the creation fee apart, a new row leaves free what was. -/
lemma free_push (hpending : t.status = .pending) (hfee : t.type ≠ .creationFee)
    (hclaim : t.type = .claim → a.status ≠ .banned) :
    (a.push t).promised = a.promised ∧ (a.push t).active .creationFee = a.active .creationFee ∧
      (a.push t).free = a.free := by
  have hactive : (a.push t).active .creationFee = a.active .creationFee := by
    rw [active_push hpending, if_neg hfee, Nat.add_zero]
  have hpromised : (a.push t).promised = a.promised := by
    unfold promised
    change (if a.status = .banned then (a.push t).active .claim else a.owed) = _
    split_ifs with hbanned
    · have hother : t.type ≠ .claim := fun htype => hclaim htype hbanned
      rw [active_push hpending, if_neg hother, Nat.add_zero]
    · rfl
  refine ⟨hpromised, hactive, ?_⟩
  unfold free
  rw [hpromised, hactive, income_push hpending]

lemma Honours.push (hpending : t.status = .pending) (hfee : t.type ≠ .creationFee)
    (hclaim : t.type = .claim → a.status ≠ .banned) {p : Promise} (h : a.Honours p) : (a.push t).Honours p := by
  obtain ⟨-, -, hfree⟩ := free_push hpending hfee hclaim
  cases p with
  | reward claimId amount => exact h
  | split fee refund =>
    unfold Honours
    rw [hfree]
    exact h
  | remainder amount =>
    obtain ⟨hstatus, hsettled, hamount⟩ := h
    exact ⟨hstatus, hsettled.push t, hfree ▸ hamount⟩

/-- A row that no row of its leg stands in the way of. -/
lemma countP_push {p : Trans → Bool} (hone : a.rows.countP p ≤ 1) (hnew : p t = true → ∀ row ∈ a.rows, p row = false) :
    (a.push t).rows.countP p ≤ 1 := by
  change (a.rows ++ [t]).countP p ≤ 1
  rw [List.countP_append]
  by_cases ht : p t = true
  · have hnone : a.rows.countP p = 0 := List.countP_eq_zero.mpr fun row hrow => by
      rw [hnew ht row hrow]
      exact Bool.false_ne_true
    rw [hnone, List.countP_cons_of_pos ht]
    rfl
  · rw [List.countP_cons_of_neg ht]
    exact hone

/-- A new row that keeps its promise. -/
structure MayPush (a : Account) (t : Trans) : Prop where
  pending : t.status = .pending
  fee : t.type ≠ .creationFee
  covered : a.spent + t.outgoing ≤ a.income
  once : t.type.oncePerSpot = true → a.Clear t.type
  payout : t.type = .claim → a.status ≠ .banned ∧
    ∃ id ∈ a.payees, t.claimId = some id ∧ t.amount = a.share id ∧ ∀ row ∈ a.rows, row.payee ≠ some id
  refund : t.type = .cancelSpot →
    a.marked = true ∧ ∃ policy, a.policyFee = some policy ∧ t.amount ≤ a.free - min policy a.free
  legFee : t.type = .platFee → a.status = .banned ∨
    a.marked = true ∧ ∃ policy, a.policyFee = some policy ∧ t.amount ≤ min policy a.free
  remainder : t.type = .remainderRefund → a.Honours (.remainder t.amount)

lemma mem_push {row : Trans} (hrow : row ∈ (a.push t).rows) : row ∈ a.rows ∨ row = t :=
  (List.mem_append.mp hrow).imp id List.mem_singleton.mp

lemma Sound.push (h : a.Sound) (ht : a.MayPush t) : (a.push t).Sound := by
  have hclaim : t.type = .claim → a.status ≠ .banned := fun htype => (ht.payout htype).1
  obtain ⟨hpromised, hfee, hfree⟩ := free_push ht.pending ht.fee hclaim
  have hincome : (a.push t).income = a.income := income_push ht.pending
  exact {
    covered := h.covered.concat ht.covered
    reserved := by
      rw [hpromised, hfee, hincome]
      exact h.reserved
    payouts := by
      intro hbanned row hrow htype
      cases mem_push hrow with
      | inl hold => exact h.payouts hbanned row hold htype
      | inr hnew =>
        subst hnew
        obtain ⟨-, id, hid, hclaimId, hamount, -⟩ := ht.payout htype
        exact ⟨id, hid, hclaimId, hamount⟩
    once := by
      intro type honce
      refine countP_push (h.once type honce) ?_
      intro hactive row hrow
      obtain ⟨htype, -⟩ := isActive_iff.mp hactive
      subst htype
      exact ht.once honce row hrow
    oncePaid := by
      intro id
      refine countP_push (h.oncePaid id) ?_
      intro hpaid row hrow
      obtain ⟨hactive, hid⟩ := payee_eq_some.mp (of_decide_eq_true hpaid)
      obtain ⟨-, id', -, hid', -, hunpaid⟩ := ht.payout (isActive_iff.mp hactive).1
      obtain rfl := Option.some.inj (hid.symm.trans hid')
      exact decide_eq_false (hunpaid row hrow)
    fees := by
      intro row hrow htype
      cases mem_push hrow with
      | inl hold => exact h.fees row hold htype
      | inr hnew => exact absurd (hnew ▸ htype) ht.fee
    refunds := by
      intro row hrow htype
      rw [hfree]
      cases mem_push hrow with
      | inl hold => exact h.refunds row hold htype
      | inr hnew =>
        subst hnew
        exact ⟨(ht.refund htype).1, fun _ => (ht.refund htype).2⟩
    legFees := by
      intro row hrow htype
      rw [hfree]
      cases mem_push hrow with
      | inl hold => exact h.legFees row hold htype
      | inr hnew =>
        subst hnew
        exact (ht.legFee htype).imp id fun hmarked => ⟨hmarked.1, fun _ => hmarked.2⟩
    remainders := by
      intro row hrow hactive
      cases mem_push hrow with
      | inl hold => exact (h.remainders row hold hactive).push ht.pending ht.fee hclaim
      | inr hnew =>
        subst hnew
        exact (ht.remainder (isActive_iff.mp hactive).1).push ht.pending ht.fee hclaim
    funded := by
      intro hstatus
      rw [hincome]
      obtain ⟨hsettled, htotal⟩ := h.funded hstatus
      exact ⟨hsettled.push t, htotal⟩
    marker := h.marker
    cancelled := h.cancelled
    draft := h.draft }

end Push

section Sends

variable {a : Account} {t : Trans}

lemma outgoing_of_pending (hpending : t.status = .pending) (htype : t.type ≠ .fillSpot) : t.outgoing = t.amount := by
  simp [Trans.outgoing, hpending, htype]

lemma Sound.mayPush_deposit (h : a.Sound) (hpending : t.status = .pending) (htype : t.type = .fillSpot) :
    a.MayPush t where
  pending := hpending
  fee := by rw [htype]; nofun
  covered := by
    have hnothing : t.outgoing = 0 := by simp [Trans.outgoing, htype]
    rw [hnothing]
    exact h.spent_le_income
  once honce := by rw [htype] at honce; cases honce
  payout hother := by rw [htype] at hother; cases hother
  refund hother := by rw [htype] at hother; cases hother
  legFee hother := by rw [htype] at hother; cases hother
  remainder hother := by rw [htype] at hother; cases hother

/-- A share that has not been paid is still there. -/
lemma Sound.mayPush_payout (h : a.Sound) {claimId : ℕ} (hpending : t.status = .pending) (htype : t.type = .claim)
    (hclaimId : t.claimId = some claimId) (hbanned : a.status ≠ .banned) (hkept : a.Honours (.reward claimId t.amount))
    (hunpaid : ∀ row ∈ a.rows, row.payee ≠ some claimId) : a.MayPush t where
  pending := hpending
  fee := by rw [htype]; nofun
  covered := by
    obtain ⟨hmem, hamount⟩ := hkept hbanned
    have hclaims : a.active .claim ≤ ∑ id ∈ a.payees.erase claimId, a.share id := by
      refine sumBy_le_shares h.oncePaid ?_ ?_
      · intro row hrow hnone
        apply spent_of_not_isActive
        cases hactive : row.isActive .claim with
        | false => rfl
        | true =>
          obtain ⟨id, -, hid, -⟩ := h.payouts hbanned row hrow (isActive_iff.mp hactive).1
          rw [payee_eq_some.mpr ⟨hactive, hid⟩] at hnone
          cases hnone
      · intro row hrow id hid
        obtain ⟨hactive, hclaim⟩ := payee_eq_some.mp hid
        obtain ⟨id', hmem', hid', hrowAmount⟩ := h.payouts hbanned row hrow (isActive_iff.mp hactive).1
        obtain rfl := Option.some.inj (hclaim.symm.trans hid')
        refine ⟨Finset.mem_erase.mpr ⟨?_, hmem'⟩, (spent_of_isActive hactive).trans hrowAmount⟩
        rintro rfl
        exact hunpaid row hrow hid
    have hshares : a.share claimId + ∑ id ∈ a.payees.erase claimId, a.share id = a.promised := by
      unfold promised owed
      rw [if_neg hbanned]
      exact Finset.add_sum_erase a.payees a.share hmem
    have hlegs := h.legs_le hbanned
    have hfree := h.reserved_add_free
    rw [outgoing_of_pending hpending (by rw [htype]; nofun), spent_eq_active, hamount]
    omega
  once honce := by rw [htype] at honce; cases honce
  payout _ := by
    obtain ⟨hmem, hamount⟩ := hkept hbanned
    exact ⟨hbanned, claimId, hmem, hclaimId, hamount, hunpaid⟩
  refund hother := by rw [htype] at hother; cases hother
  legFee hother := by rw [htype] at hother; cases hother
  remainder hother := by rw [htype] at hother; cases hother

/-- The fee of a cancellation takes its part of what is free. -/
lemma Sound.mayPush_legFee (h : a.Sound) {refund : ℕ} (hpending : t.status = .pending) (htype : t.type = .platFee)
    (hkept : a.Honours (.split t.amount refund)) (hclear : a.Clear .platFee) : a.MayPush t where
  pending := hpending
  fee := by rw [htype]; nofun
  covered := by
    obtain ⟨hmarked, policy, hpolicy, hfee, -, -⟩ := hkept
    obtain ⟨hcompleted, hbanned⟩ := h.marked_ne hmarked
    have hrefund := (h.split_le hpolicy hbanned).2
    have hclaims := h.claims_le_promised
    have hfree := h.reserved_add_free
    have hmin : min policy a.free ≤ a.free := min_le_right _ _
    rw [outgoing_of_pending hpending (by rw [htype]; nofun), spent_eq_active, hclear.active_eq_zero,
      (h.clear_remainders hcompleted hbanned).active_eq_zero]
    omega
  once _ := htype ▸ hclear
  payout hother := by rw [htype] at hother; cases hother
  refund hother := by rw [htype] at hother; cases hother
  legFee _ := by
    obtain ⟨hmarked, policy, hpolicy, hfee, -⟩ := hkept
    exact .inr ⟨hmarked, policy, hpolicy, hfee⟩
  remainder hother := by rw [htype] at hother; cases hother

/-- The refund of a cancellation takes the rest. -/
lemma Sound.mayPush_refund (h : a.Sound) {fee : ℕ} (hpending : t.status = .pending) (htype : t.type = .cancelSpot)
    (hkept : a.Honours (.split fee t.amount)) (hclear : a.Clear .cancelSpot) : a.MayPush t where
  pending := hpending
  fee := by rw [htype]; nofun
  covered := by
    obtain ⟨hmarked, policy, hpolicy, -, hrefund, -⟩ := hkept
    obtain ⟨hcompleted, hbanned⟩ := h.marked_ne hmarked
    have hfee := (h.split_le hpolicy hbanned).1
    have hclaims := h.claims_le_promised
    have hfree := h.reserved_add_free
    have hmin : min policy a.free ≤ a.free := min_le_right _ _
    rw [outgoing_of_pending hpending (by rw [htype]; nofun), spent_eq_active, hclear.active_eq_zero,
      (h.clear_remainders hcompleted hbanned).active_eq_zero]
    omega
  once _ := htype ▸ hclear
  payout hother := by rw [htype] at hother; cases hother
  refund _ := by
    obtain ⟨hmarked, policy, hpolicy, -, hrefund, -⟩ := hkept
    exact ⟨hmarked, policy, hpolicy, hrefund⟩
  legFee hother := by rw [htype] at hother; cases hother
  remainder hother := by rw [htype] at hother; cases hother

/-- The remainder of a finished Spot is what is free, unless a ban has swept it in the meantime. -/
lemma Sound.mayPush_remainder (h : a.Sound) (hpending : t.status = .pending) (htype : t.type = .remainderRefund)
    (hkept : a.Honours (.remainder t.amount)) (hclear : a.Clear .remainderRefund)
    (hswept : a.status = .banned → a.Clear .platFee) : a.MayPush t where
  pending := hpending
  fee := by rw [htype]; nofun
  covered := by
    obtain ⟨hstatus, -, hamount⟩ := hkept
    have hmarked : a.marked = false := by
      cases hmarked : a.marked with
      | false => rfl
      | true =>
        obtain ⟨hcompleted, hbanned⟩ := h.marked_ne hmarked
        cases hstatus with
        | inl hdone => exact absurd hdone hcompleted
        | inr hban => exact absurd hban hbanned
    have hfees : a.Clear .platFee := by
      by_cases hbanned : a.status = .banned
      · exact hswept hbanned
      · exact h.clear_legFees hmarked hbanned
    have hclaims := h.claims_le_promised
    have hfree := h.reserved_add_free
    rw [outgoing_of_pending hpending (by rw [htype]; nofun), spent_eq_active, hclear.active_eq_zero,
      hfees.active_eq_zero, (h.clear_refunds hmarked).active_eq_zero]
    omega
  once _ := htype ▸ hclear
  payout hother := by rw [htype] at hother; cases hother
  refund hother := by rw [htype] at hother; cases hother
  legFee hother := by rw [htype] at hother; cases hother
  remainder _ := hkept

/-- A sweep weighs the whole account again. -/
lemma mayPush_sweep (hpending : t.status = .pending) (htype : t.type = .platFee) (hbanned : a.status = .banned)
    (hcovered : a.spent + t.amount ≤ a.income) (hclear : a.Clear .platFee) : a.MayPush t where
  pending := hpending
  fee := by rw [htype]; nofun
  covered := by
    rw [outgoing_of_pending hpending (by rw [htype]; nofun)]
    exact hcovered
  once _ := htype ▸ hclear
  payout hother := by rw [htype] at hother; cases hother
  refund hother := by rw [htype] at hother; cases hother
  legFee _ := .inl hbanned
  remainder hother := by rw [htype] at hother; cases hother

end Sends

section Moves

variable {a a' : Account}

/-- What becomes of a row: it keeps what it pays, never comes back from FAILED, and a deposit may be worth more. -/
structure Settles (t t' : Trans) : Prop where
  type : t'.type = t.type
  claimId : t'.claimId = t.claimId
  active : t'.status ≠ .failed → t.status ≠ .failed
  confirmed : t.status = .confirmed → t'.status = .confirmed
  amount : t.type ≠ .fillSpot → t'.amount = t.amount
  deposit : t.type = .fillSpot → t.status = .confirmed → t.amount ≤ t'.amount

/-- One move of one of the flows. -/
inductive Move : Account → Account → Prop
  | settled {a : Account} (g : Trans → Trans) (hg : ∀ t ∈ a.rows, Settles t (g t)) :
      Move a { a with rows := a.rows.map g }
  | pushed {a : Account} {t : Trans} (ht : a.MayPush t) : Move a (a.push t)
  /-- The creation fee checks its funding again when it is inserted. -/
  | feePaid {a : Account} {t : Trans} (hpending : t.status = .pending) (htype : t.type = .creationFee)
      (hamount : t.amount = a.creationFee) (hfee : a.creationFee ≠ 0)
      (hstatus : a.status = .draft ∨ a.status = .published ∨ a.status = .completed) (hmarked : a.marked = false)
      (hfunded : a.totalValue + a.creationFee ≤ a.income) (hclear : a.Clear .creationFee) : Move a (a.push t)
  /-- Claims succeed on an open standard Spot. -/
  | entered {a : Account} (payees : Finset ℕ) (hstatus : a.status = .published) (hmarked : a.marked = false)
      (hmore : a.payees ⊆ payees) (howed : ∑ id ∈ payees, a.share id ≤ a.totalValue) :
      Move a { a with payees := payees }
  | drawn {a : Account} (payees : Finset ℕ) (share : ℕ → ℕ) (hstatus : a.status = .published)
      (hmarked : a.marked = false) (hnobody : a.payees = ∅) (howed : ∑ id ∈ payees, share id ≤ a.totalValue) :
      Move a { a with status := .completed, payees := payees, share := share }
  | edited {a : Account} (totalValue : ℕ) (share : ℕ → ℕ) (hstatus : a.status = .draft) :
      Move a { a with totalValue := totalValue, share := share }
  | published {a : Account} (hstatus : a.status = .draft) (hmarked : a.marked = false) (hsettled : a.FeeSettled)
      (hfunded : a.totalValue + a.creationFee ≤ a.income) : Move a { a with status := .published }
  | marked {a : Account} (hstatus : a.status = .draft ∨ a.status = .published) : Move a { a with marked := true }
  | completed {a : Account} (hstatus : a.status = .published) (hmarked : a.marked = false) :
      Move a { a with status := .completed }
  | cancelled {a : Account} (hstatus : a.status = .draft ∨ a.status = .published) (hmarked : a.marked = true) :
      Move a { a with status := .cancelled }
  /-- After a ban nobody is owed more than what is on its way. -/
  | banned {a : Account} (payees : Finset ℕ) (share : ℕ → ℕ) (hmarked : a.marked = false) :
      Move a { a with status := .banned, payees := payees, share := share }
  | policySet {a : Account} (policy : ℕ) (hnone : a.policyFee = none) : Move a { a with policyFee := some policy }
  | policyDropped {a : Account} (hrefunds : a.Clear .cancelSpot) (hfees : a.status = .banned ∨ a.Clear .platFee) :
      Move a { a with policyFee := none }

variable (a a') in
/-- Another status under the same rows and shares. -/
lemma same_amounts (hrows : a'.rows = a.rows) (howed : a'.owed = a.owed)
    (hbanned : a'.status = .banned ↔ a.status = .banned) :
    a'.income = a.income ∧ a'.active .creationFee = a.active .creationFee ∧ a'.promised = a.promised ∧
      a'.free = a.free := by
  have hincome : a'.income = a.income := by
    unfold income
    rw [hrows]
  have hactive : ∀ type, a'.active type = a.active type := by
    intro type
    unfold active
    rw [hrows]
  have hpromised : a'.promised = a.promised := by
    unfold promised
    simp only [hbanned, hactive, howed]
  refine ⟨hincome, hactive _, hpromised, ?_⟩
  unfold free
  rw [hincome, hpromised, hactive]

section Settled

variable {g : Trans → Trans} (hg : ∀ t ∈ a.rows, Settles t (g t))

include hg

lemma isActive_settled {type : TransType} {t : Trans} (ht : t ∈ a.rows) (h : (g t).isActive type = true) :
    t.isActive type = true := by
  obtain ⟨htype, hstatus⟩ := isActive_iff.mp h
  exact isActive_iff.mpr ⟨(hg t ht).type.symm.trans htype, (hg t ht).active hstatus⟩

lemma spent_settled {type : TransType} (htype : type ≠ .fillSpot) {t : Trans} (ht : t ∈ a.rows) :
    (g t).spent type ≤ t.spent type := by
  cases hactive : (g t).isActive type with
  | false =>
    rw [spent_of_not_isActive hactive]
    exact Nat.zero_le _
  | true =>
    have hold := isActive_settled hg ht hactive
    have hamount : (g t).amount = t.amount := (hg t ht).amount (by rw [(isActive_iff.mp hold).1]; exact htype)
    rw [spent_of_isActive hactive, spent_of_isActive hold, hamount]

lemma outgoing_settled {t : Trans} (ht : t ∈ a.rows) : (g t).outgoing ≤ t.outgoing := by
  have hle : ∀ type : TransType, type ≠ .fillSpot → (g t).spent type ≤ t.spent type :=
    fun type htype => spent_settled hg htype ht
  have hclaim := hle .claim nofun
  have hfee := hle .creationFee nofun
  have hleg := hle .platFee nofun
  have hrefund := hle .cancelSpot nofun
  have hremainder := hle .remainderRefund nofun
  rw [outgoing_eq, outgoing_eq]
  omega

lemma income_settled {t : Trans} (ht : t ∈ a.rows) : t.income ≤ (g t).income := by
  by_cases hdeposit : t.type = .fillSpot ∧ t.status = .confirmed
  · have hafter : (g t).type = .fillSpot ∧ (g t).status = .confirmed :=
      ⟨(hg t ht).type.trans hdeposit.1, (hg t ht).confirmed hdeposit.2⟩
    unfold Trans.income
    rw [if_pos hdeposit, if_pos hafter]
    exact (hg t ht).deposit hdeposit.1 hdeposit.2
  · unfold Trans.income
    rw [if_neg hdeposit]
    exact Nat.zero_le _

lemma FeeSettled.settled (h : a.FeeSettled) : ({ a with rows := a.rows.map g } : Account).FeeSettled := by
  refine h.imp id ?_
  rintro ⟨t, ht, htype, hconfirmed⟩
  exact ⟨g t, List.mem_map_of_mem ht, (hg t ht).type.trans htype, (hg t ht).confirmed hconfirmed⟩

/-- Settling rows frees money. -/
lemma free_settled : a.income ≤ ({ a with rows := a.rows.map g } : Account).income ∧
    ({ a with rows := a.rows.map g } : Account).promised ≤ a.promised ∧
    ({ a with rows := a.rows.map g } : Account).active .creationFee ≤ a.active .creationFee ∧
    a.free ≤ ({ a with rows := a.rows.map g } : Account).free := by
  have hincome : a.income ≤ ({ a with rows := a.rows.map g } : Account).income := by
    unfold income
    rw [sumBy_map]
    exact sumBy_le fun t ht => income_settled hg ht
  have hactive : ∀ type : TransType, type ≠ .fillSpot →
      ({ a with rows := a.rows.map g } : Account).active type ≤ a.active type := by
    intro type htype
    unfold active
    rw [sumBy_map]
    exact sumBy_le fun t ht => spent_settled hg htype ht
  have hpromised : ({ a with rows := a.rows.map g } : Account).promised ≤ a.promised := by
    unfold promised
    change (if a.status = .banned then _ else a.owed) ≤ _
    split_ifs
    · exact hactive .claim nofun
    · exact le_refl _
  have hfee := hactive .creationFee nofun
  refine ⟨hincome, hpromised, hfee, ?_⟩
  unfold free
  omega

lemma Honours.settled {p : Promise} (h : a.Honours p) : ({ a with rows := a.rows.map g } : Account).Honours p := by
  obtain ⟨-, -, -, hfree⟩ := free_settled hg
  cases p with
  | reward claimId amount => exact h
  | split fee refund =>
    obtain ⟨hmarked, policy, hpolicy, hfee, hrefund, hsome⟩ := h
    refine ⟨hmarked, policy, hpolicy, hfee.trans (min_le_min_left policy hfree), ?_, hsome⟩
    omega
  | remainder amount =>
    obtain ⟨hstatus, hsettled, hamount⟩ := h
    exact ⟨hstatus, hsettled.settled hg, hamount.trans hfree⟩

lemma Sound.settled (h : a.Sound) : ({ a with rows := a.rows.map g } : Account).Sound := by
  obtain ⟨hincome, hpromised, hfee, hfree⟩ := free_settled hg
  have hrow : ∀ {row : Trans}, row ∈ a.rows.map g → ∃ t ∈ a.rows, g t = row := fun hrow => List.mem_map.mp hrow
  exact {
    covered := h.covered.map (fun t ht => income_settled hg ht) fun t ht => outgoing_settled hg ht
    reserved := by
      have hreserved := h.reserved
      omega
    payouts := by
      intro hbanned row hmem htype
      obtain ⟨t, ht, rfl⟩ := hrow hmem
      have hold : t.type = .claim := (hg t ht).type.symm.trans htype
      obtain ⟨id, hid, hclaimId, hamount⟩ := h.payouts hbanned t ht hold
      exact ⟨id, hid, (hg t ht).claimId.trans hclaimId, ((hg t ht).amount (by rw [hold]; nofun)).trans hamount⟩
    once := by
      intro type honce
      rw [List.countP_map]
      refine le_trans (List.countP_mono_left ?_) (h.once type honce)
      intro t ht hactive
      exact isActive_settled hg ht hactive
    oncePaid := by
      intro id
      rw [List.countP_map]
      refine le_trans (List.countP_mono_left ?_) (h.oncePaid id)
      intro t ht hpaid
      obtain ⟨hactive, hid⟩ := payee_eq_some.mp (of_decide_eq_true hpaid)
      exact decide_eq_true (payee_eq_some.mpr ⟨isActive_settled hg ht hactive, (hg t ht).claimId.symm.trans hid⟩)
    fees := by
      intro row hmem htype
      obtain ⟨t, ht, rfl⟩ := hrow hmem
      have hold : t.type = .creationFee := (hg t ht).type.symm.trans htype
      exact ((hg t ht).amount (by rw [hold]; nofun)).trans (h.fees t ht hold)
    refunds := by
      intro row hmem htype
      obtain ⟨t, ht, rfl⟩ := hrow hmem
      have hold : t.type = .cancelSpot := (hg t ht).type.symm.trans htype
      obtain ⟨hmarked, hbound⟩ := h.refunds t ht hold
      refine ⟨hmarked, fun hstatus => ?_⟩
      obtain ⟨policy, hpolicy, hamount⟩ := hbound ((hg t ht).active hstatus)
      refine ⟨policy, hpolicy, ?_⟩
      rw [(hg t ht).amount (by rw [hold]; nofun)]
      omega
    legFees := by
      intro row hmem htype
      obtain ⟨t, ht, rfl⟩ := hrow hmem
      have hold : t.type = .platFee := (hg t ht).type.symm.trans htype
      refine (h.legFees t ht hold).imp id ?_
      rintro ⟨hmarked, hbound⟩
      refine ⟨hmarked, fun hstatus => ?_⟩
      obtain ⟨policy, hpolicy, hamount⟩ := hbound ((hg t ht).active hstatus)
      refine ⟨policy, hpolicy, ?_⟩
      rw [(hg t ht).amount (by rw [hold]; nofun)]
      exact hamount.trans (min_le_min_left policy hfree)
    remainders := by
      intro row hmem hactive
      obtain ⟨t, ht, rfl⟩ := hrow hmem
      have hold := isActive_settled hg ht hactive
      rw [(hg t ht).amount (by rw [(isActive_iff.mp hold).1]; nofun)]
      exact (h.remainders t ht hold).settled hg
    funded := by
      intro hstatus
      obtain ⟨hsettled, htotal⟩ := h.funded hstatus
      exact ⟨hsettled.settled hg, htotal.trans hincome⟩
    marker := h.marker
    cancelled := h.cancelled
    draft := h.draft }

end Settled

/-- The creation fee is taken once, at its amount. -/
lemma Sound.fee_le (h : a.Sound) : a.active .creationFee ≤ a.creationFee :=
  h.active_le rfl fun t ht hactive => (h.fees t ht (isActive_iff.mp hactive).1).le

/-- A Spot without a marker goes on under the same rows. -/
lemma Sound.unmarked (h : a.Sound) (hrows : a'.rows = a.rows) (hmarked : a.marked = false) (hmarked' : a'.marked = false)
    (hfee : a'.creationFee = a.creationFee) (hban : a.status = .banned → a'.status = .banned)
    (hreserved : a'.promised + a'.active .creationFee ≤ a'.income)
    (hpayouts : a'.status ≠ .banned → ∀ t ∈ a.rows, t.type = .claim →
      ∃ id ∈ a'.payees, t.claimId = some id ∧ t.amount = a'.share id)
    (hremainders : ∀ t ∈ a.rows, t.isActive .remainderRefund = true → a'.Honours (.remainder t.amount))
    (hfunded : a'.status = .published ∨ a'.status = .completed →
      a'.FeeSettled ∧ a'.totalValue + a'.creationFee ≤ a'.income)
    (hcancelled : a'.status ≠ .cancelled) (hdraft : a'.status = .draft → a'.payees = ∅) : a'.Sound where
  covered := hrows ▸ h.covered
  reserved := hreserved
  payouts := hrows ▸ hpayouts
  once := hrows ▸ h.once
  oncePaid := hrows ▸ h.oncePaid
  fees t ht htype := (h.fees t (hrows ▸ ht) htype).trans hfee.symm
  refunds t ht htype := by
    have hmarker := (h.refunds t (hrows ▸ ht) htype).1
    rw [hmarked] at hmarker
    cases hmarker
  legFees t ht htype := by
    rcases h.legFees t (hrows ▸ ht) htype with hbanned | ⟨hmarker, -⟩
    · exact .inl (hban hbanned)
    · rw [hmarked] at hmarker
      cases hmarker
  remainders := hrows ▸ hremainders
  funded := hfunded
  marker h := by rw [hmarked'] at h; cases h
  cancelled h := absurd h hcancelled
  draft := hdraft

/-- The marker, the policy or the status changes under the same rows and shares. -/
lemma Sound.relabelled (h : a.Sound) (hrows : a'.rows = a.rows) (hpayees : a'.payees = a.payees)
    (hshare : a'.share = a.share) (hfee : a'.creationFee = a.creationFee) (hvalue : a'.totalValue = a.totalValue)
    (hban : a'.status = .banned ↔ a.status = .banned) (hdone : a'.status = .completed ↔ a.status = .completed)
    (hopen : a'.status = .published → a.status = .published) (hdraft : a'.status = .draft → a.status = .draft)
    (hkeeps : a.marked = true → a'.marked = true)
    (hpolicy : ∀ t ∈ a.rows, t.isActive .cancelSpot = true ∨ a.status ≠ .banned ∧ t.isActive .platFee = true →
      ∀ policy, a.policyFee = some policy → a'.policyFee = some policy)
    (hmarker : a'.marked = true → a'.status = .draft ∨ a'.status = .published ∨ a'.status = .cancelled)
    (hcancelled : a'.status = .cancelled → a'.marked = true) : a'.Sound := by
  have howed : a'.owed = a.owed := by
    unfold owed
    rw [hpayees, hshare]
  obtain ⟨hincome, hactive, hpromised, hfree⟩ := same_amounts a a' hrows howed hban
  have hsettled : a.FeeSettled → a'.FeeSettled := by
    unfold FeeSettled
    rw [hrows, hfee]
    exact id
  exact {
    covered := hrows ▸ h.covered
    reserved := by
      rw [hpromised, hactive, hincome]
      exact h.reserved
    payouts := by
      rw [hrows, hpayees, hshare]
      exact fun hbanned => h.payouts fun hold => hbanned (hban.mpr hold)
    once := hrows ▸ h.once
    oncePaid := hrows ▸ h.oncePaid
    fees := fun t ht htype => (h.fees t (hrows ▸ ht) htype).trans hfee.symm
    refunds := by
      intro t ht htype
      obtain ⟨hmarked, hbound⟩ := h.refunds t (hrows ▸ ht) htype
      refine ⟨hkeeps hmarked, fun hstatus => ?_⟩
      obtain ⟨policy, hsome, hamount⟩ := hbound hstatus
      rw [hfree]
      exact ⟨policy, hpolicy t (hrows ▸ ht) (.inl (isActive_iff.mpr ⟨htype, hstatus⟩)) policy hsome, hamount⟩
    legFees := by
      intro t ht htype
      by_cases hbanned : a.status = .banned
      · exact .inl (hban.mpr hbanned)
      · obtain ⟨hmarked, hbound⟩ := (h.legFees t (hrows ▸ ht) htype).resolve_left hbanned
        refine .inr ⟨hkeeps hmarked, fun hstatus => ?_⟩
        obtain ⟨policy, hsome, hamount⟩ := hbound hstatus
        rw [hfree]
        exact ⟨policy, hpolicy t (hrows ▸ ht) (.inr ⟨hbanned, isActive_iff.mpr ⟨htype, hstatus⟩⟩) policy hsome, hamount⟩
    remainders := by
      intro t ht hremainder
      obtain ⟨hstatus, hfeeSettled, hamount⟩ := h.remainders t (hrows ▸ ht) hremainder
      exact ⟨hstatus.imp hdone.mpr hban.mpr, hsettled hfeeSettled, hfree ▸ hamount⟩
    funded := by
      intro hstatus
      obtain ⟨hfeeSettled, htotal⟩ := h.funded (hstatus.imp hopen hdone.mp)
      exact ⟨hsettled hfeeSettled, by rw [hvalue, hfee, hincome]; exact htotal⟩
    marker := hmarker
    cancelled := hcancelled
    draft := fun hstatus => hpayees.trans (h.draft (hdraft hstatus)) }

/-- Nobody is paid on a Spot that owes nobody. -/
lemma Sound.no_payouts (h : a.Sound) (hbanned : a.status ≠ .banned) (hnobody : a.payees = ∅) :
    ∀ t ∈ a.rows, t.type ≠ .claim := by
  intro t ht htype
  obtain ⟨id, hid, -⟩ := h.payouts hbanned t ht htype
  rw [hnobody] at hid
  exact absurd hid (Finset.notMem_empty id)

/-- An open Spot has given no remainder back. -/
lemma Sound.no_remainders (h : a.Sound) (hstatus : a.status = .draft ∨ a.status = .published) :
    ∀ t ∈ a.rows, t.isActive .remainderRefund ≠ true := by
  have hcompleted : a.status ≠ .completed := by rintro hdone; rw [hdone] at hstatus; simp at hstatus
  have hbanned : a.status ≠ .banned := by rintro hban; rw [hban] at hstatus; simp at hstatus
  intro t ht hactive
  rw [h.clear_remainders hcompleted hbanned t ht] at hactive
  cases hactive

/-- With the creation fee the account keeps what the Spot is worth. -/
lemma Sound.feePaid {t : Trans} (h : a.Sound) (hpending : t.status = .pending) (htype : t.type = .creationFee)
    (hamount : t.amount = a.creationFee) (hfee : a.creationFee ≠ 0)
    (hstatus : a.status = .draft ∨ a.status = .published ∨ a.status = .completed) (hmarked : a.marked = false)
    (hfunded : a.totalValue + a.creationFee ≤ a.income) (hclear : a.Clear .creationFee) : (a.push t).Sound := by
  -- A published Spot has paid its fee already.
  have hdraft : a.status = .draft := by
    rcases hstatus with hdraft | hopen
    · exact hdraft
    · rcases (h.funded hopen).1 with hzero | ⟨row, hrow, hrowType, hconfirmed⟩
      · exact absurd hzero hfee
      · have hactive : row.isActive .creationFee = true :=
          isActive_iff.mpr ⟨hrowType, by rw [hconfirmed]; nofun⟩
        rw [hclear row hrow] at hactive
        cases hactive
  have hbanned : a.status ≠ .banned := by rw [hdraft]; nofun
  have hnobody := h.draft hdraft
  have hincome : (a.push t).income = a.income := income_push hpending
  have hactiveFee : (a.push t).active .creationFee = a.creationFee := by
    rw [active_push hpending, hclear.active_eq_zero, if_pos htype, Nat.zero_add, hamount]
  have hpromised : (a.push t).promised = 0 := by
    unfold promised owed
    rw [if_neg (show (a.push t).status ≠ .banned from hbanned)]
    change ∑ id ∈ a.payees, a.share id = 0
    rw [hnobody, Finset.sum_empty]
  have hspent : a.spent = 0 := by
    have hclaims := h.claims_le hbanned
    have hlegs : a.active .platFee + a.active .cancelSpot + a.active .remainderRefund = 0 := by
      rw [(h.clear_legFees hmarked hbanned).active_eq_zero, (h.clear_refunds hmarked).active_eq_zero,
        (h.clear_remainders (by rw [hdraft]; nofun) hbanned).active_eq_zero]
    unfold owed at hclaims
    rw [hnobody, Finset.sum_empty] at hclaims
    rw [spent_eq_active, hclear.active_eq_zero]
    omega
  have hother : ∀ row ∈ (a.push t).rows, row.type ≠ .creationFee → row ∈ a.rows := by
    intro row hrow hne
    cases mem_push hrow with
    | inl hold => exact hold
    | inr hnew => exact absurd (hnew ▸ htype) hne
  exact {
    covered := by
      refine h.covered.concat ?_
      change a.spent + t.outgoing ≤ a.income
      rw [hspent, outgoing_of_pending hpending (by rw [htype]; nofun), hamount]
      omega
    reserved := by
      rw [hpromised, hactiveFee, hincome]
      omega
    payouts := fun hban row hrow hrowType => h.payouts hban row (hother row hrow (by rw [hrowType]; nofun)) hrowType
    once := by
      intro type honce
      refine countP_push (h.once type honce) fun hactive row hrow => ?_
      rw [← (isActive_iff.mp hactive).1, htype]
      exact hclear row hrow
    oncePaid := by
      intro id
      refine countP_push (h.oncePaid id) fun hpaid => ?_
      have hclaim := (isActive_iff.mp (payee_eq_some.mp (of_decide_eq_true hpaid)).1).1
      rw [htype] at hclaim
      cases hclaim
    fees := by
      intro row hrow hrowType
      cases mem_push hrow with
      | inl hold => exact h.fees row hold hrowType
      | inr hnew => rw [hnew]; exact hamount
    refunds := by
      intro row hrow hrowType
      have hmarker := (h.refunds row (hother row hrow (by rw [hrowType]; nofun)) hrowType).1
      rw [hmarked] at hmarker
      cases hmarker
    legFees := by
      intro row hrow hrowType
      rcases h.legFees row (hother row hrow (by rw [hrowType]; nofun)) hrowType with hban | ⟨hmarker, -⟩
      · exact .inl hban
      · rw [hmarked] at hmarker
        cases hmarker
    remainders := by
      intro row hrow hactive
      have hold := hother row hrow (by rw [(isActive_iff.mp hactive).1]; nofun)
      exact absurd hactive (h.no_remainders (.inl hdraft) row hold)
    funded := by
      intro hopen
      obtain ⟨hsettled, htotal⟩ := h.funded hopen
      exact ⟨hsettled.push t, hincome ▸ htotal⟩
    marker := h.marker
    cancelled := h.cancelled
    draft := h.draft }

/-- Every move leaves a sound account. -/
theorem Move.sound (hmove : Move a a') (h : a.Sound) : a'.Sound := by
  cases hmove with
  | settled g hg => exact h.settled hg
  | pushed ht => exact h.push ht
  | feePaid hpending htype hamount hfee hstatus hmarked hfunded hclear =>
    exact h.feePaid hpending htype hamount hfee hstatus hmarked hfunded hclear
  | entered payees hstatus hmarked hmore howed =>
    have hbanned : a.status ≠ .banned := by rw [hstatus]; nofun
    refine h.unmarked rfl hmarked hmarked rfl id ?_ ?_ ?_ h.funded (by rw [hstatus]; nofun) ?_
    · have hfunded := (h.funded (.inl hstatus)).2
      have hfee := h.fee_le
      have hpromised : ({ a with payees := payees } : Account).promised = ∑ id ∈ payees, a.share id := by
        unfold promised owed
        exact if_neg hbanned
      rw [hpromised]
      change _ + a.active .creationFee ≤ a.income
      omega
    · intro _ t ht htype
      obtain ⟨id, hid, hrest⟩ := h.payouts hbanned t ht htype
      exact ⟨id, hmore hid, hrest⟩
    · exact fun t ht hactive => absurd hactive (h.no_remainders (.inr hstatus) t ht)
    · intro hdraft
      rw [hstatus] at hdraft
      cases hdraft
  | drawn payees share hstatus hmarked hnobody howed =>
    have hbanned : a.status ≠ .banned := by rw [hstatus]; nofun
    refine h.unmarked rfl hmarked hmarked rfl (fun hban => absurd hban hbanned) ?_ ?_ ?_ ?_ nofun nofun
    · have hfunded := (h.funded (.inl hstatus)).2
      have hfee := h.fee_le
      change ∑ id ∈ payees, share id + a.active .creationFee ≤ a.income
      omega
    · exact fun _ t ht htype => absurd htype (h.no_payouts hbanned hnobody t ht)
    · exact fun t ht hactive => absurd hactive (h.no_remainders (.inr hstatus) t ht)
    · exact fun _ => h.funded (.inl hstatus)
  | edited totalValue share hstatus =>
    have hbanned : a.status ≠ .banned := by rw [hstatus]; nofun
    have hnobody := h.draft hstatus
    have howed : ({ a with totalValue := totalValue, share := share } : Account).owed = a.owed := by
      unfold owed
      rw [hnobody, Finset.sum_empty, Finset.sum_empty]
    obtain ⟨hincome, hactive, hpromised, hfree⟩ := same_amounts a
      { a with totalValue := totalValue, share := share } rfl howed Iff.rfl
    exact {
      covered := h.covered
      reserved := by rw [hpromised, hactive, hincome]; exact h.reserved
      payouts := fun _ t ht htype => absurd htype (h.no_payouts hbanned hnobody t ht)
      once := h.once
      oncePaid := h.oncePaid
      fees := h.fees
      refunds := by rw [hfree]; exact h.refunds
      legFees := by rw [hfree]; exact h.legFees
      remainders := fun t ht hactive => absurd hactive (h.no_remainders (.inl hstatus) t ht)
      funded := by
        intro hopen
        change a.status = .published ∨ a.status = .completed at hopen
        rw [hstatus] at hopen
        simp at hopen
      marker := h.marker
      cancelled := h.cancelled
      draft := h.draft }
  | published hstatus hmarked hsettled hfunded =>
    have hbanned : a.status ≠ .banned := by rw [hstatus]; nofun
    refine h.unmarked rfl hmarked hmarked rfl (fun hban => absurd hban hbanned) ?_ ?_ ?_ ?_ nofun nofun
    · obtain ⟨hincome, hactive, hpromised, -⟩ := same_amounts a { a with status := .published } rfl rfl
        (iff_of_false nofun hbanned)
      rw [hpromised, hactive, hincome]
      exact h.reserved
    · exact fun _ => h.payouts hbanned
    · exact fun t ht hactive => absurd hactive (h.no_remainders (.inl hstatus) t ht)
    · exact fun _ => ⟨hsettled, hfunded⟩
  | marked hstatus =>
    refine h.relabelled rfl rfl rfl rfl rfl Iff.rfl Iff.rfl id id (fun _ => rfl) (fun _ _ _ _ hsome => hsome) ?_
      (fun _ => rfl)
    exact fun _ => hstatus.imp id .inl
  | completed hstatus hmarked =>
    have hbanned : a.status ≠ .banned := by rw [hstatus]; nofun
    refine h.unmarked rfl hmarked hmarked rfl (fun hban => absurd hban hbanned) ?_ ?_ ?_ ?_ nofun nofun
    · obtain ⟨hincome, hactive, hpromised, -⟩ := same_amounts a { a with status := .completed } rfl rfl
        (iff_of_false nofun hbanned)
      rw [hpromised, hactive, hincome]
      exact h.reserved
    · exact fun _ => h.payouts hbanned
    · exact fun t ht hactive => absurd hactive (h.no_remainders (.inr hstatus) t ht)
    · exact fun _ => h.funded (.inl hstatus)
  | cancelled hstatus hmarked =>
    have hbanned : a.status ≠ .banned := by rcases hstatus with hs | hs <;> rw [hs] <;> nofun
    have hcompleted : a.status ≠ .completed := by rcases hstatus with hs | hs <;> rw [hs] <;> nofun
    exact h.relabelled rfl rfl rfl rfl rfl (iff_of_false nofun hbanned) (iff_of_false nofun hcompleted) nofun nofun id
      (fun _ _ _ _ hsome => hsome) (fun _ => .inr (.inr rfl)) fun _ => hmarked
  | banned payees share hmarked =>
    have hpromised : ({ a with status := .banned, payees := payees, share := share } : Account).promised ≤
        a.promised := h.claims_le_promised
    have hfree : a.free ≤ ({ a with status := .banned, payees := payees, share := share } : Account).free :=
      Nat.sub_le_sub_left (Nat.add_le_add_right hpromised _) _
    refine h.unmarked rfl hmarked hmarked rfl (fun _ => rfl) ?_ (fun hban => absurd rfl hban) ?_ nofun nofun nofun
    · exact (Nat.add_le_add_right hpromised _).trans h.reserved
    · intro t ht hactive
      obtain ⟨-, hsettled, hamount⟩ := h.remainders t ht hactive
      exact ⟨.inr rfl, hsettled, hamount.trans hfree⟩
  | policySet policy hnone =>
    refine h.relabelled rfl rfl rfl rfl rfl Iff.rfl Iff.rfl id id id ?_ h.marker h.cancelled
    intro t ht _ policy' hsome
    rw [hnone] at hsome
    cases hsome
  | policyDropped hrefunds hfees =>
    refine h.relabelled rfl rfl rfl rfl rfl Iff.rfl Iff.rfl id id id ?_ h.marker h.cancelled
    rintro t ht (hactive | ⟨hbanned, hactive⟩)
    · rw [hrefunds t ht] at hactive
      cases hactive
    · rw [hfees.resolve_left hbanned t ht] at hactive
      cases hactive

/-- An account that owes the same keeps its promises under another label. -/
lemma Honours.relabelled {p : Promise} (h : a.Honours p) (hrows : a'.rows = a.rows) (hpayees : a'.payees = a.payees)
    (hshare : a'.share = a.share) (hfee : a'.creationFee = a.creationFee)
    (hban : a'.status = .banned ↔ a.status = .banned) (hdone : a'.status = .completed ↔ a.status = .completed)
    (hkeeps : a.marked = true → a'.marked = true)
    (hpolicy : ∀ policy, a.policyFee = some policy → a'.policyFee = some policy) : a'.Honours p := by
  have howed : a'.owed = a.owed := by
    unfold owed
    rw [hpayees, hshare]
  obtain ⟨-, -, -, hfree⟩ := same_amounts a a' hrows howed hban
  cases p with
  | reward claimId amount =>
    intro hbanned
    rw [hpayees, hshare]
    exact h fun hold => hbanned (hban.mpr hold)
  | split fee refund =>
    obtain ⟨hmarked, policy, hsome, hbounds⟩ := h
    refine ⟨hkeeps hmarked, policy, hpolicy policy hsome, ?_⟩
    rw [hfree]
    exact hbounds
  | remainder amount =>
    obtain ⟨hstatus, hsettled, hamount⟩ := h
    refine ⟨hstatus.imp hdone.mpr hban.mpr, ?_, hfree ▸ hamount⟩
    unfold FeeSettled at hsettled ⊢
    rw [hrows, hfee]
    exact hsettled

/-- Nothing but a reward is promised by an open Spot without a marker. -/
lemma Honours.reward_of_open {p : Promise} (h : a.Honours p) (hmarked : a.marked = false)
    (hcompleted : a.status ≠ .completed) (hbanned : a.status ≠ .banned) : ∃ id amount, p = .reward id amount := by
  cases p with
  | reward claimId amount => exact ⟨claimId, amount, rfl⟩
  | split fee refund =>
    have hmarker := h.1
    rw [hmarked] at hmarker
    cases hmarker
  | remainder amount =>
    cases h.1 with
    | inl hdone => exact absurd hdone hcompleted
    | inr hban => exact absurd hban hbanned

/-- What is promised stays promised, unless the policy of a cancellation is dropped. -/
theorem Move.honours (hmove : Move a a') (h : a.Sound) {p : Promise} (hkept : a.Honours p)
    (hpolicy : a'.policyFee = none → a.policyFee = none) : a'.Honours p := by
  cases hmove with
  | settled g hg => exact hkept.settled hg
  | pushed ht => exact hkept.push ht.pending ht.fee fun htype => (ht.payout htype).1
  | @feePaid t hpending htype hamount hfee hstatus hmarked hfunded hclear =>
    cases p with
    | reward claimId amount => exact hkept
    | split fee refund =>
      have hmarker := hkept.1
      rw [hmarked] at hmarker
      cases hmarker
    | remainder amount =>
      -- The fee of a finished Spot has been paid.
      rcases hkept.2.1 with hzero | ⟨row, hrow, hrowType, hconfirmed⟩
      · exact absurd hzero hfee
      · have hactive : row.isActive .creationFee = true :=
          isActive_iff.mpr ⟨hrowType, by rw [hconfirmed]; nofun⟩
        rw [hclear row hrow] at hactive
        cases hactive
  | entered payees hstatus hmarked hmore howed =>
    obtain ⟨claimId, amount, rfl⟩ := hkept.reward_of_open hmarked (by rw [hstatus]; nofun) (by rw [hstatus]; nofun)
    exact fun hbanned => ⟨hmore (hkept hbanned).1, (hkept hbanned).2⟩
  | drawn payees share hstatus hmarked hnobody howed =>
    obtain ⟨claimId, amount, rfl⟩ := hkept.reward_of_open hmarked (by rw [hstatus]; nofun) (by rw [hstatus]; nofun)
    have hmem := (hkept (by rw [hstatus]; nofun)).1
    rw [hnobody] at hmem
    exact absurd hmem (Finset.notMem_empty claimId)
  | edited totalValue share hstatus =>
    have hnobody := h.draft hstatus
    have howed : ({ a with totalValue := totalValue, share := share } : Account).owed = a.owed := by
      unfold owed
      rw [hnobody, Finset.sum_empty, Finset.sum_empty]
    obtain ⟨-, -, -, hfree⟩ := same_amounts a { a with totalValue := totalValue, share := share } rfl howed Iff.rfl
    cases p with
    | reward claimId amount =>
      have hmem := (hkept (by rw [hstatus]; nofun)).1
      rw [hnobody] at hmem
      exact absurd hmem (Finset.notMem_empty claimId)
    | split fee refund =>
      unfold Honours
      rw [hfree]
      exact hkept
    | remainder amount =>
      obtain ⟨hdone, hsettled, hamount⟩ := hkept
      exact ⟨hdone, hsettled, hfree ▸ hamount⟩
  | published hstatus hmarked hsettled hfunded =>
    exact hkept.relabelled rfl rfl rfl rfl (iff_of_false nofun (by rw [hstatus]; nofun))
      (iff_of_false nofun (by rw [hstatus]; nofun)) id fun _ hsome => hsome
  | marked hstatus => exact hkept.relabelled rfl rfl rfl rfl Iff.rfl Iff.rfl (fun _ => rfl) fun _ hsome => hsome
  | completed hstatus hmarked =>
    obtain ⟨claimId, amount, rfl⟩ := hkept.reward_of_open hmarked (by rw [hstatus]; nofun) (by rw [hstatus]; nofun)
    exact fun _ => hkept (by rw [hstatus]; nofun)
  | cancelled hstatus hmarked =>
    have hbanned : a.status ≠ .banned := by rcases hstatus with hs | hs <;> rw [hs] <;> nofun
    have hcompleted : a.status ≠ .completed := by rcases hstatus with hs | hs <;> rw [hs] <;> nofun
    exact hkept.relabelled rfl rfl rfl rfl (iff_of_false nofun hbanned) (iff_of_false nofun hcompleted) id
      fun _ hsome => hsome
  | banned payees share hmarked =>
    have hfree : a.free ≤ ({ a with status := .banned, payees := payees, share := share } : Account).free :=
      Nat.sub_le_sub_left (Nat.add_le_add_right h.claims_le_promised _) _
    cases p with
    | reward claimId amount => exact fun hbanned => absurd rfl hbanned
    | split fee refund =>
      have hmarker := hkept.1
      rw [hmarked] at hmarker
      cases hmarker
    | remainder amount =>
      obtain ⟨-, hsettled, hamount⟩ := hkept
      exact ⟨.inr rfl, hsettled, hamount.trans hfree⟩
  | policySet policy hnone =>
    refine hkept.relabelled rfl rfl rfl rfl Iff.rfl Iff.rfl id fun policy' hsome => ?_
    rw [hnone] at hsome
    cases hsome
  | policyDropped hrefunds hfees =>
    have hnone := hpolicy rfl
    refine hkept.relabelled rfl rfl rfl rfl Iff.rfl Iff.rfl id fun policy' hsome => ?_
    rw [hnone] at hsome
    cases hsome

end Moves

end Account

end NimHunt
