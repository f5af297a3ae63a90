import NimHunt.DraftCreation
import NimHunt.Proofs.SystemWrites
import Mathlib.Logic.Function.Basic

/-!
# Deposit keys are never reused

The allocator stays ahead of every index it gave out.  Each index belongs to one request or to one
Spot, and a Spot has the address of its index.
-/

namespace NimHunt

open Lib

variable {P : Type}

/-- What the deposit wallet promises: a command answers for the key it was asked, with the address of
that key. -/
structure DeriveCommand.Answers (cfg : Settings P) (addressOf : ℕ → Address) (command : DeriveCommand) : Prop where
  echoes : ∀ i answer, command i = .ok answer → answer.keyIndex = none ∨ answer.keyIndex = some i
  address : ∀ i answer, command i = .ok answer → cfg.normaliseNimiqAddress answer.address = .ok (addressOf i)

/-- The commands an operation runs keep that promise. -/
def DraftOp.Answered (cfg : Settings P) (addressOf : ℕ → Address) : DraftOp P → Prop
  | .derive _ command | .seed _ _ command => command.Answers cfg addressOf
  | _ => True

variable {cfg : Settings P} {addressOf : ℕ → Address}

lemma deriveSpotDepositAddress_ok {command : DeriveCommand} (h : command.Answers cfg addressOf) {keyIndex : ℕ}
    {record : DerivedSpotAddress} (hderive : deriveSpotDepositAddress cfg command keyIndex = .ok record) :
    record = ⟨addressOf keyIndex, keyIndex⟩ := by
  unfold deriveSpotDepositAddress at hderive
  cases hanswer : command keyIndex with
  | error message => simp [hanswer] at hderive
  | ok answer =>
    have hindex : answer.keyIndex.getD keyIndex = keyIndex := by
      rcases h.echoes keyIndex answer hanswer with hnone | hsome
      · rw [hnone]
        rfl
      · rw [hsome]
        rfl
    simp only [hanswer, h.address keyIndex answer hanswer, hindex] at hderive
    exact (Except.ok.inj hderive).symm

section Spots

/-- Spots keep their ids and deposit addresses; some may be gone. -/
structure SpotsKept (db db' : Db P) : Prop where
  spotSeq : db'.spotSeq = db.spotSeq
  spots : ∀ y ∈ db'.spots, ∃ x ∈ db.spots, y.id = x.id ∧ y.depositAddress = x.depositAddress

lemma SpotsKept.refl (db : Db P) : SpotsKept db db := ⟨rfl, fun y hy => ⟨y, hy, rfl, rfl⟩⟩

/-- An update of SPOT that leaves both columns alone. -/
lemma spotsKept_update {db db' : Db P} {sel : Spot P → Bool} {f : Spot P → Spot P}
    (hseq : db'.spotSeq = db.spotSeq) (hspots : db'.spots = updateWhere sel f db.spots)
    (hf : ∀ x ∈ db.spots, sel x = true → (f x).id = x.id ∧ (f x).depositAddress = x.depositAddress) :
    SpotsKept db db' := by
  refine ⟨hseq, ?_⟩
  intro y hy
  rw [hspots, mem_updateWhere] at hy
  obtain ⟨x, hx, rfl⟩ := hy
  by_cases hsel : sel x = true
  · rw [if_pos hsel]
    exact ⟨x, hx, hf x hx hsel⟩
  · rw [if_neg hsel]
    exact ⟨x, hx, rfl, rfl⟩

lemma modifySpotStatus_kept (db : Db P) (spotId : ℕ) (status : SpotStatus) :
    SpotsKept db (db.modifySpotStatus spotId status) :=
  spotsKept_update rfl rfl fun _ _ _ => ⟨rfl, rfl⟩

lemma modifyDraftSpot_kept (db : Db P) (spotId : ℕ) (edit : DraftEdit P) :
    SpotsKept db (modifyDraftSpot db spotId edit).1 := by
  unfold modifyDraftSpot
  cases hrequire : requireDraftSpot db spotId with
  | error e => exact .refl db
  | ok spot =>
    obtain ⟨hspot, -⟩ := requireDraftSpot_ok hrequire
    dsimp only
    cases hedited : editedDraft db spot edit with
    | error e => exact .refl db
    | ok next =>
      dsimp only
      split_ifs
      · exact .refl db
      · exact .refl db
      · exact .refl db
      · obtain ⟨hsame, -⟩ := editedDraft_ok hedited
        refine ⟨rfl, ?_⟩
        intro y hy
        obtain ⟨x, hx, rfl⟩ := mem_updateWhere.mp hy
        by_cases hid : x.id = spotId
        · rw [if_pos (decide_eq_true hid)]
          exact ⟨spot, List.mem_of_find?_eq_some hspot, hsame.id, hsame.depositAddress⟩
        · rw [if_neg (by simpa using hid)]
          exact ⟨x, hx, rfl, rfl⟩

lemma publishSpot_kept (db : Db P) (spotId : ℕ) (draws : List String) :
    SpotsKept db (publishSpot db spotId draws).1 := by
  unfold publishSpot
  cases db.getSpot spotId with
  | none => exact .refl db
  | some spot =>
    dsimp only
    split_ifs
    · exact .refl db
    · rcases hcoded : ensureClaimCodesForPublish db spot draws with ⟨coded, e | ⟨⟩⟩
      · exact .refl db
      · obtain ⟨rows, seq, hframe⟩ := ensureClaimCodesForPublish_frame hcoded
        subst hframe
        exact spotsKept_update rfl rfl fun _ _ _ => ⟨rfl, rfl⟩

/-- The row of a new draft has the next id and the address it was given. -/
lemma newDraft_deposit {spotId createdBy : ℕ} {depositAddress : Address} {fields : SpotFields P}
    {prizeCount : Option ℕ} {spot : Spot P}
    (h : newDraft cfg spotId createdBy depositAddress fields prizeCount = .ok spot) :
    spot.id = spotId ∧ spot.depositAddress = depositAddress := by
  refine ⟨(newDraft_ok h).1, ?_⟩
  simp only [newDraft, bind_eq_ok, raiseIf_ok] at h
  obtain ⟨radius, -, duration, -, perUser, -, total, -, -, -, -, -, value, -, window, -, address, -, h⟩ := h
  have hspot := Except.ok.inj h
  rw [← hspot]

/-- What a successful insert adds to SPOT. -/
def Inserted (db : Db P) (depositAddress : Address) (db' : Db P) (spotId : ℕ) : Prop :=
  ∃ spot : Spot P, db'.spots = db.spots ++ [spot] ∧ spot.id = spotId ∧ spotId = db.spotSeq + 1 ∧
    spot.depositAddress = depositAddress ∧ db'.spotSeq = spotId

lemma insertSpot_inserted {db db' : Db P} {spot : Spot P} {spotId : ℕ} (hid : spot.id = db.spotSeq + 1)
    (h : db.insertSpot spot = (db', .ok spotId)) : Inserted db spot.depositAddress db' spotId := by
  unfold Db.insertSpot at h
  split_ifs at h
  · simp at h
  · obtain ⟨hdb, hspotId⟩ := Prod.mk.inj h
    have hsame := Except.ok.inj hspotId
    subst hdb hsame
    exact ⟨spot, rfl, rfl, hid, rfl, rfl⟩

lemma createSpot_inserted {db db' : Db P} {createdBy spotId : ℕ} {depositAddress : Address} {fields : SpotFields P}
    (h : createSpot cfg db createdBy depositAddress fields = (db', .ok spotId)) :
    Inserted db depositAddress db' spotId := by
  unfold createSpot at h
  cases hdraft : newDraft cfg (db.spotSeq + 1) createdBy depositAddress fields none with
  | error e => simp [hdraft] at h
  | ok spot =>
    rw [hdraft] at h
    obtain ⟨hid, haddress⟩ := newDraft_deposit hdraft
    rw [← haddress]
    exact insertSpot_inserted hid h

lemma createPrizedraw_inserted {db db' : Db P} {createdBy spotId : ℕ} {depositAddress : Address}
    {fields : SpotFields P} {prizeCount : Option ℤ}
    (h : createPrizedraw cfg db createdBy depositAddress fields prizeCount = (db', .ok spotId)) :
    Inserted db depositAddress db' spotId := by
  unfold createPrizedraw at h
  cases hcheck : checkNewPrizedraw fields prizeCount with
  | error e => simp [hcheck] at h
  | ok count =>
    rw [hcheck] at h
    dsimp only at h
    generalize ({ fields with maxTotalClaims := _, usePassword := _ } : SpotFields P) = drawFields at h
    cases hdraft : newDraft cfg (db.spotSeq + 1) createdBy depositAddress drawFields (some count) with
    | error e => simp [hdraft] at h
    | ok spot =>
      rw [hdraft] at h
      obtain ⟨hid, haddress⟩ := newDraft_deposit hdraft
      rw [← haddress]
      exact insertSpot_inserted hid h

end Spots

section Store

variable {st : DraftStore P}

/-- What a refused request may change: admissions only. -/
structure SameDeposits (st st' : DraftStore P) : Prop where
  db : st'.db = st.db
  depositKeyIndex : st'.depositKeyIndex = st.depositKeyIndex
  next : st'.nextSpotDepositKeyIndex = st.nextSpotDepositKeyIndex

lemma SameDeposits.refl (st : DraftStore P) : SameDeposits st st := ⟨rfl, rfl, rfl⟩

lemma consumeDraftCreation_same (reservationId userId : ℕ) :
    SameDeposits st (st.consumeDraftCreation reservationId userId).1 := by
  unfold DraftStore.consumeDraftCreation
  dsimp only
  split_ifs
  · exact .refl st
  · exact ⟨rfl, rfl, rfl⟩

/-- A store in which one key index was handed out. -/
structure Allocates (st st' : DraftStore P) : Prop where
  db : st'.db = st.db
  depositKeyIndex : st'.depositKeyIndex = st.depositKeyIndex
  next : st'.nextSpotDepositKeyIndex = some (st.allocateKeyIndex.2 + 1)

lemma reserveDraftCreation_spec (st : DraftStore P) (userId : ℕ) :
    (∃ e, (st.reserveDraftCreation userId).2 = .error e) ∨
    (st.reserveDraftCreation userId).2 = .ok none ∧ SameDeposits st (st.reserveDraftCreation userId).1 ∨
    ∃ reservation, (st.reserveDraftCreation userId).2 = .ok (some reservation) ∧
      reservation.depositKeyIndex = st.allocateKeyIndex.2 ∧ Allocates st (st.reserveDraftCreation userId).1 := by
  unfold DraftStore.reserveDraftCreation DraftStore.reserveWithinLimits
  dsimp only
  split_ifs
  · exact .inr (.inl ⟨rfl, rfl, rfl, rfl⟩)
  · exact .inl ⟨_, rfl⟩
  · exact .inr (.inr ⟨_, rfl, rfl, rfl, rfl, rfl⟩)

/-- A route is refused with the allocator as it was, or has the next key index reserved. -/
lemma admitDraft_spec (st : DraftStore P) (userId : ℕ) (kind : DraftKind) :
    (∃ refusal, (st.admitDraft userId kind).2 = .error refusal ∧ SameDeposits st (st.admitDraft userId kind).1) ∨
    ∃ reservation, (st.admitDraft userId kind).2 = .ok reservation ∧
      reservation.depositKeyIndex = st.allocateKeyIndex.2 ∧ Allocates st (st.admitDraft userId kind).1 := by
  unfold DraftStore.admitDraft
  cases checkSource st.db userId kind with
  | error refusal => exact .inl ⟨_, rfl, .refl st⟩
  | ok checked =>
    dsimp only
    split_ifs
    · exact .inl ⟨_, rfl, .refl st⟩
    · have hspec := reserveDraftCreation_spec st userId
      rcases hreserve : st.reserveDraftCreation userId with ⟨st', e | _ | reservation⟩
      · exact .inl ⟨_, rfl, .refl st⟩
      · rw [hreserve] at hspec
        have hsame : SameDeposits st st' := by simpa using hspec
        cases kind with
        | title isPrizedraw => exact .inl ⟨_, rfl, hsame⟩
        | duplicate spotId => exact .inl ⟨_, rfl, .refl st⟩
      · rw [hreserve] at hspec
        right
        simpa using hspec

lemma holdsDeposit_eq_false {record : DerivedSpotAddress} :
    st.holdsDeposit record = false ↔
      ∀ spot ∈ st.db.spots, spot.depositAddress ≠ record.address ∧
        st.depositKeyIndex spot.id ≠ some record.keyIndex := by
  simp [DraftStore.holdsDeposit, not_or]

/-- What a created draft leaves in the store. -/
structure CreatesDraft (st : DraftStore P) (record : DerivedSpotAddress) (st' : DraftStore P) (spotId : ℕ) :
    Prop where
  inserted : Inserted st.db record.address st'.db spotId
  depositKeyIndex : st'.depositKeyIndex = fun id => if id = spotId then some record.keyIndex else st.depositKeyIndex id
  next : st'.nextSpotDepositKeyIndex = st.nextSpotDepositKeyIndex

lemma createDraft_spec (st : DraftStore P) (createdBy : ℕ) (record : DerivedSpotAddress) (form : DraftForm P) :
    (∃ e, st.createDraft cfg createdBy record form = (st, .error e)) ∨
    ∃ st' spotId, st.createDraft cfg createdBy record form = (st', .ok spotId) ∧ CreatesDraft st record st' spotId := by
  unfold DraftStore.createDraft
  rcases hcreated : form.create cfg st.db createdBy record.address with ⟨db, e | spotId⟩
  · exact .inl ⟨e, rfl⟩
  · dsimp only
    split_ifs
    · exact .inl ⟨_, rfl⟩
    · refine .inr ⟨_, spotId, rfl, ?_, rfl, rfl⟩
      cases form with
      | spot fields => exact createSpot_inserted hcreated
      | prizedraw fields prizeCount => exact createPrizedraw_inserted hcreated

lemma insertDraft_spec (st : DraftStore P) (userId : ℕ) (kind : DraftKind) (now : ℕ) (record : DerivedSpotAddress) :
    (∃ refusal, st.insertDraft cfg userId kind now record = (st, .error refusal)) ∨
    ∃ st' spotId, st.insertDraft cfg userId kind now record = (st', .ok spotId) ∧
      CreatesDraft st record st' spotId := by
  unfold DraftStore.insertDraft
  cases draftForm st.db userId now kind with
  | error refusal => exact .inl ⟨refusal, rfl⟩
  | ok form =>
    dsimp only
    split_ifs
    · exact .inl ⟨_, rfl⟩
    · rcases createDraft_spec st userId record form with ⟨e, hcreate⟩ | ⟨st', spotId, hcreate, hdraft⟩
      · rw [hcreate]
        exact .inl ⟨_, rfl⟩
      · rw [hcreate]
        exact .inr ⟨st', spotId, rfl, hdraft⟩

lemma deleteDraftSpot_spec (st : DraftStore P) (userId spotId : ℕ) :
    SpotsKept st.db (st.deleteDraftSpot userId spotId).1.db ∧
      (st.deleteDraftSpot userId spotId).1.depositKeyIndex = st.depositKeyIndex ∧
      (st.deleteDraftSpot userId spotId).1.nextSpotDepositKeyIndex = st.nextSpotDepositKeyIndex := by
  refine ⟨?_, rfl, rfl⟩
  change SpotsKept st.db (NimHunt.deleteDraftSpot st.db userId spotId).1
  unfold NimHunt.deleteDraftSpot
  cases st.db.getSpot spotId with
  | none => exact .refl _
  | some spot =>
    dsimp only
    split_ifs
    · exact .refl _
    · exact .refl _
    · exact .refl _
    · refine ⟨rfl, ?_⟩
      intro y hy
      exact ⟨y, (List.mem_filter.mp hy).1, rfl, rfl⟩

end Store

section Runs

def DraftRequest.keyIndex (r : DraftRequest) : ℕ := r.reservation.depositKeyIndex

/-- The deposit record a request carries. -/
def DraftProgress.record? : DraftProgress → Option DerivedSpotAddress
  | .reserved => none
  | .derived record | .admitted record => some record

/-- The key indexes that belong to a Spot, present or past, or to a request. -/
def DraftRun.owned (s : DraftRun P) : List ℕ := s.created.map CreatedSpot.keyIndex ++ s.requests.map DraftRequest.keyIndex

structure DepositsSound (addressOf : ℕ → Address) (s : DraftRun P) : Prop where
  increasing : s.allocated.Pairwise (· < ·)
  ahead : ∀ i ∈ s.allocated, ∃ next, s.store.nextSpotDepositKeyIndex = some next ∧ i < next
  ownedOnce : s.owned.Nodup
  ownedAllocated : ∀ i ∈ s.owned, i ∈ s.allocated
  createdAddress : ∀ c ∈ s.created, c.address = addressOf c.keyIndex
  derived : ∀ r ∈ s.requests, ∀ record, r.progress.record? = some record → record = ⟨addressOf r.keyIndex, r.keyIndex⟩
  spots : ∀ spot ∈ s.store.db.spots, ∃ c ∈ s.created, c.spotId = spot.id ∧
    s.store.depositKeyIndex spot.id = some c.keyIndex ∧ spot.depositAddress = c.address
  spotIds : ∀ spot ∈ s.store.db.spots, spot.id ≤ s.store.db.spotSeq

variable {s : DraftRun P}

/-- The allocator gives out an index above every one before. -/
lemma allocateKeyIndex_above (h : DepositsSound addressOf s) : ∀ i ∈ s.allocated, i < s.store.allocateKeyIndex.2 := by
  intro i hi
  obtain ⟨next, hnext, hlt⟩ := h.ahead i hi
  unfold DraftStore.allocateKeyIndex
  rw [hnext]
  exact hlt

lemma allocated_append (h : DepositsSound addressOf s) :
    (s.allocated ++ [s.store.allocateKeyIndex.2]).Pairwise (· < ·) := by
  rw [List.pairwise_append]
  refine ⟨h.increasing, List.pairwise_singleton _ _, ?_⟩
  intro i hi j hj
  rw [List.mem_singleton.mp hj]
  exact allocateKeyIndex_above h i hi

lemma not_mem_owned_allocateKeyIndex (h : DepositsSound addressOf s) : s.store.allocateKeyIndex.2 ∉ s.owned := by
  intro hmem
  have hlt := allocateKeyIndex_above h _ (h.ownedAllocated _ hmem)
  omega

lemma ahead_append (h : DepositsSound addressOf s) {next : ℕ} (hnext : next = s.store.allocateKeyIndex.2 + 1) :
    ∀ i ∈ s.allocated ++ [s.store.allocateKeyIndex.2], i < next := by
  intro i hi
  rw [List.mem_append, List.mem_singleton] at hi
  rcases hi with hi | rfl
  · have hlt := allocateKeyIndex_above h i hi
    omega
  · omega

/-- No Spot has the key the allocator gives out next, nor its address. -/
lemma holdsDeposit_next (haddress : Function.Injective addressOf) (h : DepositsSound addressOf s)
    {st : DraftStore P} (hst : Allocates s.store st) :
    st.holdsDeposit ⟨addressOf s.store.allocateKeyIndex.2, s.store.allocateKeyIndex.2⟩ = false := by
  rw [holdsDeposit_eq_false]
  intro spot hspot
  rw [hst.db] at hspot
  obtain ⟨c, hc, -, hindex, hspotAddress⟩ := h.spots spot hspot
  have howned : c.keyIndex ∈ s.owned := List.mem_append_left _ (List.mem_map_of_mem hc)
  have hlt := allocateKeyIndex_above h _ (h.ownedAllocated _ howned)
  constructor
  · intro heq
    rw [hspotAddress, h.createdAddress c hc] at heq
    have := haddress heq
    omega
  · intro heq
    rw [hst.depositKeyIndex, hindex] at heq
    have hsame := Option.some.inj heq
    dsimp only at hsame
    omega

/-- Without a given record the first offset is taken, with the key the allocator gave out. -/
lemma generateUniqueSpotDepositRecord_ok (haddress : Function.Injective addressOf) (h : DepositsSound addressOf s)
    {command : DeriveCommand} (hcommand : command.Answers cfg addressOf) {record : DerivedSpotAddress}
    (hrecord : (s.store.generateUniqueSpotDepositRecord cfg command).2 = .ok record) :
    record = ⟨addressOf s.store.allocateKeyIndex.2, s.store.allocateKeyIndex.2⟩ := by
  have hrange : List.range 30 = 0 :: (List.range 29).map (· + 1) := by decide
  have hallocates : Allocates s.store s.store.allocateKeyIndex.1 := ⟨rfl, rfl, rfl⟩
  have hfree := holdsDeposit_next haddress h hallocates
  unfold DraftStore.generateUniqueSpotDepositRecord at hrecord
  dsimp only at hrecord
  rw [hrange, DraftStore.firstFreeRecord] at hrecord
  cases hderive : deriveSpotDepositAddress cfg command (s.store.allocateKeyIndex.2 + 0) with
  | error e =>
    rw [hderive] at hrecord
    cases hrecord
  | ok derived =>
    have hderived := deriveSpotDepositAddress_ok hcommand hderive
    rw [Nat.add_zero] at hderived
    subst hderived
    rw [hderive] at hrecord
    dsimp only at hrecord
    rw [hfree] at hrecord
    exact (Except.ok.inj hrecord).symm

lemma seedDraft_spec (haddress : Function.Injective addressOf) (h : DepositsSound addressOf s)
    {command : DeriveCommand} (hcommand : command.Answers cfg addressOf) (createdBy : ℕ) (form : DraftForm P) :
    (∃ e, s.store.seedDraft cfg command createdBy form = (s.store, .error e)) ∨
    ∃ st' spotId record, s.store.seedDraft cfg command createdBy form = (st', .ok (spotId, record)) ∧
      record = ⟨addressOf s.store.allocateKeyIndex.2, s.store.allocateKeyIndex.2⟩ ∧
      CreatesDraft s.store.allocateKeyIndex.1 record st' spotId := by
  unfold DraftStore.seedDraft
  have hrecord : ∀ record, (s.store.generateUniqueSpotDepositRecord cfg command).2 = .ok record → _ :=
    fun record => generateUniqueSpotDepositRecord_ok haddress h hcommand
  have hallocated : (s.store.generateUniqueSpotDepositRecord cfg command).1 = s.store.allocateKeyIndex.1 := rfl
  rcases hgenerate : s.store.generateUniqueSpotDepositRecord cfg command with ⟨allocated, e | record⟩
  · exact .inl ⟨e, rfl⟩
  · rw [hgenerate] at hrecord hallocated
    dsimp only at hallocated
    subst hallocated
    rcases createDraft_spec s.store.allocateKeyIndex.1 createdBy record form with ⟨e, hcreate⟩ | ⟨st', spotId, hcreate, hdraft⟩
    · dsimp only
      rw [hcreate]
      exact .inl ⟨e, rfl⟩
    · dsimp only
      rw [hcreate]
      exact .inr ⟨st', spotId, record, rfl, hrecord record rfl, hdraft⟩

section Steps

/-- A write that keeps the Spots and the allocator. -/
lemma DepositsSound.keepSpots (h : DepositsSound addressOf s) {st : DraftStore P} (hkept : SpotsKept s.store.db st.db)
    (hindex : st.depositKeyIndex = s.store.depositKeyIndex)
    (hnext : st.nextSpotDepositKeyIndex = s.store.nextSpotDepositKeyIndex) :
    DepositsSound addressOf { s with store := st } where
  increasing := h.increasing
  ahead := by
    intro i hi
    rw [hnext]
    exact h.ahead i hi
  ownedOnce := h.ownedOnce
  ownedAllocated := h.ownedAllocated
  createdAddress := h.createdAddress
  derived := h.derived
  spots := by
    intro y hy
    obtain ⟨x, hx, hid, haddress⟩ := hkept.spots y hy
    obtain ⟨c, hc, hspotId, hkey, hspot⟩ := h.spots x hx
    refine ⟨c, hc, ?_, ?_, ?_⟩
    · rw [hid, hspotId]
    · rw [hindex, hid, hkey]
    · rw [haddress, hspot]
  spotIds := by
    intro y hy
    obtain ⟨x, hx, hid, -⟩ := hkept.spots y hy
    rw [hid, hkept.spotSeq]
    exact h.spotIds x hx

lemma DepositsSound.sameDeposits (h : DepositsSound addressOf s) {st : DraftStore P} (hst : SameDeposits s.store st) :
    DepositsSound addressOf { s with store := st } :=
  h.keepSpots (by rw [hst.db]; exact .refl _) hst.depositKeyIndex hst.next

lemma DepositsSound.writeDb (h : DepositsSound addressOf s) {db : Db P} (hkept : SpotsKept s.store.db db) :
    DepositsSound addressOf (s.writeDb db) := by
  have hstore : SpotsKept s.store.db ({ s.store with db := db } : DraftStore P).db := hkept
  exact h.keepSpots hstore rfl rfl

/-- A request that ends takes its key with it. -/
lemma DepositsSound.drop (h : DepositsSound addressOf s) (index : ℕ) : DepositsSound addressOf (s.drop index) where
  increasing := h.increasing
  ahead := h.ahead
  ownedOnce := by
    apply List.Nodup.sublist _ h.ownedOnce
    exact (List.Sublist.refl _).append ((List.eraseIdx_sublist _ _).map _)
  ownedAllocated := by
    intro i hi
    apply h.ownedAllocated i
    rw [DraftRun.owned, List.mem_append] at hi ⊢
    exact hi.imp_right fun hmem => ((List.eraseIdx_sublist _ _).map _).subset hmem
  createdAddress := h.createdAddress
  derived := fun r hr => h.derived r (List.mem_of_mem_eraseIdx hr)
  spots := h.spots
  spotIds := h.spotIds

lemma DepositsSound.setProgress (h : DepositsSound addressOf s) {index : ℕ} {request : DraftRequest}
    (hrequest : s.requests[index]? = some request) {progress : DraftProgress}
    (hprogress : ∀ record, progress.record? = some record → record = ⟨addressOf request.keyIndex, request.keyIndex⟩) :
    DepositsSound addressOf (s.setProgress index request progress) := by
  have hkeys : (s.requests.set index { request with progress := progress }).map DraftRequest.keyIndex =
      s.requests.map DraftRequest.keyIndex := by
    obtain ⟨hlength, hget⟩ := List.getElem?_eq_some_iff.mp hrequest
    rw [List.map_set]
    change (s.requests.map DraftRequest.keyIndex).set index request.keyIndex = _
    apply List.ext_getElem?
    intro i
    rw [List.getElem?_set]
    by_cases hi : index = i
    · subst hi
      rw [if_pos rfl, if_pos (by simpa using hlength), List.getElem?_map, hrequest]
      rfl
    · rw [if_neg hi]
  have howned : (s.setProgress index request progress).owned = s.owned := by
    unfold DraftRun.owned DraftRun.setProgress
    dsimp only
    rw [hkeys]
  refine ⟨h.increasing, h.ahead, ?_, ?_, h.createdAddress, ?_, h.spots, h.spotIds⟩
  · rw [howned]
    exact h.ownedOnce
  · rw [howned]
    exact h.ownedAllocated
  · intro r hr
    rcases List.mem_or_eq_of_mem_set hr with hr | rfl
    · exact h.derived r hr
    · exact hprogress

/-- An admitted request owns the key that was handed out for it. -/
lemma DepositsSound.request (h : DepositsSound addressOf s) (userId : ℕ) (kind : DraftKind) :
    DepositsSound addressOf (s.request userId kind) := by
  unfold DraftRun.request
  have hspec := admitDraft_spec s.store userId kind
  rcases hadmitted : s.store.admitDraft userId kind with ⟨st, refusal | reservation⟩
  · rw [hadmitted] at hspec
    have hsame : SameDeposits s.store st := by simpa using hspec
    exact h.sameDeposits hsame
  · rw [hadmitted] at hspec
    have hspec : reservation.depositKeyIndex = s.store.allocateKeyIndex.2 ∧ Allocates s.store st := by
      simpa using hspec
    obtain ⟨hkey, hst⟩ := hspec
    have hnew : reservation.depositKeyIndex ∉ s.owned := by
      rw [hkey]
      exact not_mem_owned_allocateKeyIndex h
    dsimp only
    refine ⟨?_, ?_, ?_, ?_, h.createdAddress, ?_, ?_, ?_⟩
    · dsimp only
      rw [hkey]
      exact allocated_append h
    · intro i hi
      dsimp only at hi ⊢
      rw [hkey] at hi
      exact ⟨_, hst.next, ahead_append h rfl i hi⟩
    · have howned := List.nodup_append.mpr ⟨h.ownedOnce, List.nodup_singleton reservation.depositKeyIndex, ?_⟩
      · unfold DraftRun.owned at howned ⊢
        rw [List.map_append, ← List.append_assoc]
        exact howned
      · intro i hi j hj heq
        rw [List.mem_singleton.mp hj] at heq
        exact hnew (heq ▸ hi)
    · intro i hi
      unfold DraftRun.owned at hi
      rw [List.map_append, ← List.append_assoc, List.mem_append] at hi
      rw [List.mem_append]
      exact hi.imp_left (h.ownedAllocated i)
    · intro r hr record hrecord
      rcases List.mem_append.mp hr with hr | hr
      · exact h.derived r hr record hrecord
      · rw [List.mem_singleton.mp hr] at hrecord
        cases hrecord
    · rw [hst.db, hst.depositKeyIndex]
      exact h.spots
    · rw [hst.db]
      exact h.spotIds

/-- The Spots after a new one, whose id no Spot had. -/
lemma CreatesDraft.spots (h : DepositsSound addressOf s) {st st' : DraftStore P} {spotId : ℕ}
    {record : DerivedSpotAddress} (hdb : st.db = s.store.db) (hindex : st.depositKeyIndex = s.store.depositKeyIndex)
    (hdraft : CreatesDraft st record st' spotId) :
    (∀ spot ∈ st'.db.spots, ∃ c ∈ s.created ++ [⟨spotId, record.keyIndex, record.address⟩], c.spotId = spot.id ∧
      st'.depositKeyIndex spot.id = some c.keyIndex ∧ spot.depositAddress = c.address) ∧
    ∀ spot ∈ st'.db.spots, spot.id ≤ st'.db.spotSeq := by
  obtain ⟨new, hspots, hid, hspotId, haddress, hseq⟩ := hdraft.inserted
  rw [hdb] at hspots hspotId
  rw [hspots, hdraft.depositKeyIndex, hseq]
  constructor
  · intro spot hspot
    rcases List.mem_append.mp hspot with hold | hnew
    · obtain ⟨c, hc, hcid, hckey, hcaddress⟩ := h.spots spot hold
      have hne : spot.id ≠ spotId := by
        have hle := h.spotIds spot hold
        omega
      refine ⟨c, List.mem_append_left _ hc, hcid, ?_, hcaddress⟩
      dsimp only
      rw [if_neg hne, hindex]
      exact hckey
    · rw [List.mem_singleton.mp hnew]
      refine ⟨_, List.mem_append_right _ (List.mem_singleton_self _), hid.symm, ?_, haddress⟩
      dsimp only
      rw [if_pos hid]
  · intro spot hspot
    rcases List.mem_append.mp hspot with hold | hnew
    · have hle := h.spotIds spot hold
      omega
    · rw [List.mem_singleton.mp hnew, hid]

/-- A created Spot takes over the key of its request. -/
lemma DepositsSound.insert (h : DepositsSound addressOf s) {index : ℕ} {request : DraftRequest}
    (hrequest : s.requests[index]? = some request) {record : DerivedSpotAddress}
    (hrecord : request.progress.record? = some record) {st : DraftStore P} {spotId : ℕ}
    (hdraft : CreatesDraft s.store record st spotId) :
    DepositsSound addressOf
      (({ s with store := st, created := s.created ++ [⟨spotId, record.keyIndex, record.address⟩] } :
        DraftRun P).drop index) := by
  have hmem := List.mem_of_getElem? hrequest
  have hderived := h.derived request hmem record hrecord
  obtain ⟨hlength, hget⟩ := List.getElem?_eq_some_iff.mp hrequest
  have hperm : ((s.created.map CreatedSpot.keyIndex ++ [request.keyIndex]) ++
      (s.requests.eraseIdx index).map DraftRequest.keyIndex).Perm s.owned := by
    have herase := (List.getElem_cons_eraseIdx_perm hlength).map DraftRequest.keyIndex
    rw [List.map_cons, hget] at herase
    rw [List.append_assoc]
    exact herase.append_left _
  have howned : (({ s with store := st, created := s.created ++ [⟨spotId, record.keyIndex, record.address⟩] } :
      DraftRun P).drop index).owned = (s.created.map CreatedSpot.keyIndex ++ [request.keyIndex]) ++
        (s.requests.eraseIdx index).map DraftRequest.keyIndex := by
    unfold DraftRun.owned DraftRun.drop
    dsimp only
    rw [List.map_append, List.map_singleton, hderived]
  obtain ⟨hspots, hids⟩ := hdraft.spots h rfl rfl
  refine ⟨h.increasing, ?_, ?_, ?_, ?_, ?_, hspots, hids⟩
  · intro i hi
    obtain ⟨next, hnext, hlt⟩ := h.ahead i hi
    exact ⟨next, hdraft.next.trans hnext, hlt⟩
  · rw [howned]
    exact hperm.nodup_iff.mpr h.ownedOnce
  · intro i hi
    rw [howned] at hi
    exact h.ownedAllocated i (hperm.mem_iff.mp hi)
  · intro c hc
    rcases List.mem_append.mp hc with hold | hnew
    · exact h.createdAddress c hold
    · rw [List.mem_singleton.mp hnew, hderived]
  · intro r hr
    exact h.derived r (List.mem_of_mem_eraseIdx hr)

lemma DepositsSound.seed (haddress : Function.Injective addressOf) (h : DepositsSound addressOf s) (createdBy : ℕ)
    (form : DraftForm P) {command : DeriveCommand} (hcommand : command.Answers cfg addressOf) :
    DepositsSound addressOf (s.seed cfg createdBy form command) := by
  unfold DraftRun.seed
  rcases seedDraft_spec haddress h hcommand createdBy form with ⟨e, hseed⟩ | ⟨st, spotId, record, hseed, hrecord, hdraft⟩
  · rw [hseed]
    exact h
  · rw [hseed]
    dsimp only
    have hdb : s.store.allocateKeyIndex.1.db = s.store.db := rfl
    obtain ⟨hspots, hids⟩ := hdraft.spots h hdb rfl
    have hnew := not_mem_owned_allocateKeyIndex h
    have hperm : ((s.created.map CreatedSpot.keyIndex ++ [record.keyIndex]) ++
        s.requests.map DraftRequest.keyIndex).Perm (s.store.allocateKeyIndex.2 :: s.owned) := by
      rw [hrecord]
      exact (List.perm_append_singleton _ _).append_right _
    have howned : (s.created ++ [(⟨spotId, record.keyIndex, record.address⟩ : CreatedSpot)]).map CreatedSpot.keyIndex ++
        s.requests.map DraftRequest.keyIndex = (s.created.map CreatedSpot.keyIndex ++ [record.keyIndex]) ++
          s.requests.map DraftRequest.keyIndex := by
      rw [List.map_append, List.map_singleton]
    refine ⟨allocated_append h, ?_, ?_, ?_, ?_, h.derived, hspots, hids⟩
    · intro i hi
      exact ⟨_, hdraft.next, ahead_append h rfl i hi⟩
    · unfold DraftRun.owned
      dsimp only
      rw [howned]
      exact hperm.nodup_iff.mpr (List.nodup_cons.mpr ⟨hnew, h.ownedOnce⟩)
    · intro i hi
      unfold DraftRun.owned at hi
      dsimp only at hi
      rw [howned] at hi
      rw [List.mem_append, List.mem_singleton]
      rcases List.mem_cons.mp (hperm.mem_iff.mp hi) with heq | hold
      · exact Or.inr heq
      · exact Or.inl (h.ownedAllocated i hold)
    · intro c hc
      rcases List.mem_append.mp hc with hold | hnewest
      · exact h.createdAddress c hold
      · rw [List.mem_singleton.mp hnewest, hrecord]

lemma DepositsSound.advance (h : DepositsSound addressOf s) {op : DraftOp P} (hop : op.Answered cfg addressOf)
    {index : ℕ} {request : DraftRequest} (hrequest : s.requests[index]? = some request) :
    DepositsSound addressOf (s.advance cfg index request op) := by
  unfold DraftRun.advance
  split
  · rename_i command
    split
    · cases hderive : deriveSpotDepositAddress cfg command request.reservation.depositKeyIndex with
      | error e => exact h.drop index
      | ok record =>
        have hderived := deriveSpotDepositAddress_ok hop hderive
        apply h.setProgress hrequest
        intro record' hrecord'
        rw [← Option.some.inj hrecord']
        exact hderived
    · exact h
  · split
    · rename_i record hprogress
      have hsame : SameDeposits s.store _ :=
        consumeDraftCreation_same request.reservation.id request.reservation.userId
      rcases hconsume : s.store.consumeDraftCreation request.reservation.id request.reservation.userId with ⟨st, e | ⟨⟩⟩
      · exact h.drop index
      · rw [hconsume] at hsame
        apply (h.sameDeposits hsame).setProgress hrequest
        intro record' hrecord'
        rw [← Option.some.inj hrecord']
        apply h.derived request (List.mem_of_getElem? hrequest)
        rw [hprogress]
        rfl
    · exact h
  · split
    · rename_i record hprogress
      rcases insertDraft_spec s.store request.reservation.userId request.kind request.admittedAt record with
        ⟨refusal, hinsert⟩ | ⟨st, spotId, hinsert, hdraft⟩
      · rw [hinsert]
        exact h.drop index
      · rw [hinsert]
        apply h.insert hrequest _ hdraft
        rw [hprogress]
        rfl
    · exact h
  · exact h

lemma step_depositsSound (haddress : Function.Injective addressOf) (s : DraftRun P) (op : DraftOp P)
    (hop : op.Answered cfg addressOf) (h : DepositsSound addressOf s) : DepositsSound addressOf (s.step cfg op) := by
  cases op with
  | tick seconds => exact h.writeDb ⟨rfl, fun y hy => ⟨y, hy, rfl, rfl⟩⟩
  | registerUser user => exact h.writeDb ⟨rfl, fun y hy => ⟨y, hy, rfl, rfl⟩⟩
  | request userId kind => exact h.request userId kind
  | derive index command =>
    cases hrequest : s.requests[index]? with
    | none => simpa only [DraftRun.step, hrequest] using h
    | some request =>
      simp only [DraftRun.step, hrequest]
      exact h.advance hop hrequest
  | consume index =>
    cases hrequest : s.requests[index]? with
    | none => simpa only [DraftRun.step, hrequest] using h
    | some request =>
      simp only [DraftRun.step, hrequest]
      exact h.advance hop hrequest
  | insert index =>
    cases hrequest : s.requests[index]? with
    | none => simpa only [DraftRun.step, hrequest] using h
    | some request =>
      simp only [DraftRun.step, hrequest]
      exact h.advance hop hrequest
  | abandon index => exact h.drop index
  | seed createdBy form command => exact h.seed haddress createdBy form hop
  | delete userId spotId =>
    obtain ⟨hkept, hindex, hnext⟩ := deleteDraftSpot_spec s.store userId spotId
    exact h.keepSpots hkept hindex hnext
  | edit spotId edit => exact h.writeDb (modifyDraftSpot_kept _ _ _)
  | publish spotId draws => exact h.writeDb (publishSpot_kept _ _ _)
  | setSpotStatus spotId status => exact h.writeDb (modifySpotStatus_kept _ _ _)
  | ledger rows => exact h.writeDb ⟨rfl, fun y hy => ⟨y, hy, rfl, rfl⟩⟩

end Steps

end Runs

lemma initial_depositsSound : DepositsSound addressOf (DraftRun.initial : DraftRun P) where
  increasing := List.Pairwise.nil
  ahead := by simp [DraftRun.initial]
  ownedOnce := List.nodup_nil
  ownedAllocated := by simp [DraftRun.owned, DraftRun.initial]
  createdAddress := by simp [DraftRun.initial]
  derived := by simp [DraftRun.initial]
  spots := by simp [DraftRun.initial, Db.empty]
  spotIds := by simp [DraftRun.initial, Db.empty]

/-- The Spots ever created have different deposit keys and different deposit addresses, and the allocator
only ever counts up. -/
theorem deposit_keys_never_reused (haddress : Function.Injective addressOf) {ops : List (DraftOp P)}
    (hops : ∀ op ∈ ops, op.Answered cfg addressOf) :
    let s := run (DraftRun.step cfg) DraftRun.initial ops
    s.allocated.Pairwise (· < ·) ∧
    (s.created.map CreatedSpot.keyIndex).Nodup ∧ (s.created.map CreatedSpot.address).Nodup ∧
    (∀ c ∈ s.created, c.keyIndex ∈ s.allocated) ∧
    ∀ spot ∈ s.store.db.spots, ∃ c ∈ s.created, c.spotId = spot.id ∧
      s.store.depositKeyIndex spot.id = some c.keyIndex ∧ spot.depositAddress = c.address := by
  intro s
  have hadm : Admissible (DraftRun.step cfg) (fun _ op => op.Answered cfg addressOf) DraftRun.initial ops :=
    admissible_of_forall (fun op hop _ => hops op hop) DraftRun.initial
  have h : DepositsSound addressOf s := run_invariant (step_depositsSound haddress) hadm initial_depositsSound
  have hcreated : (s.created.map CreatedSpot.keyIndex).Nodup := (List.nodup_append.mp h.ownedOnce).1
  refine ⟨h.increasing, hcreated, ?_, ?_, h.spots⟩
  · have haddresses : s.created.map CreatedSpot.address = (s.created.map CreatedSpot.keyIndex).map addressOf := by
      rw [List.map_map]
      exact List.map_congr_left h.createdAddress
    rw [haddresses]
    exact hcreated.map haddress
  · intro c hc
    exact h.ownedAllocated _ (List.mem_append_left _ (List.mem_map_of_mem hc))

/-- A wallet whose address of key `i` is a word of length `i`. -/
def unaryAddress (i : ℕ) : Address := String.ofList (List.replicate i 'Q')

def unaryCommand : DeriveCommand := fun i => .ok ⟨unaryAddress i, some i⟩

lemma unaryAddress_injective : Function.Injective unaryAddress := by
  intro i j h
  have hlists := String.ofList_injective h
  simpa using congrArg List.length hlists

lemma unaryCommand_answers : unaryCommand.Answers Settings.onePlace unaryAddress where
  echoes := by
    intro i answer h
    rw [← Except.ok.inj h]
    exact Or.inr rfl
  address := by
    intro i answer h
    rw [← Except.ok.inj h]
    rfl

/-- A draft is created and deleted, a request is abandoned, and another draft is created. -/
def deletedAndRecreated : List (DraftOp Unit) :=
  [.registerUser { id := 7, status := .active },
    .request 7 (.title false), .derive 0 unaryCommand, .consume 0, .insert 0, .delete 7 1,
    .request 7 (.title false), .abandon 0,
    .request 7 (.title true), .derive 0 unaryCommand, .consume 0, .insert 0,
    .seed 7 (.spot {}) unaryCommand]

theorem deposit_keys_never_reused_deletedAndRecreated :
    let s := run (DraftRun.step Settings.onePlace) DraftRun.initial deletedAndRecreated
    s.created.map CreatedSpot.keyIndex = [0, 2, 3] ∧
    s.allocated.Pairwise (· < ·) ∧
    (s.created.map CreatedSpot.keyIndex).Nodup ∧ (s.created.map CreatedSpot.address).Nodup ∧
    (∀ c ∈ s.created, c.keyIndex ∈ s.allocated) ∧
    ∀ spot ∈ s.store.db.spots, ∃ c ∈ s.created, c.spotId = spot.id ∧
      s.store.depositKeyIndex spot.id = some c.keyIndex ∧ spot.depositAddress = c.address := by
  refine ⟨by decide +kernel, ?_⟩
  apply deposit_keys_never_reused unaryAddress_injective
  simp [deletedAndRecreated, DraftOp.Answered, unaryCommand_answers]

end NimHunt
