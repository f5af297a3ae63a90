import NimHunt.System

/-!
# The automatic X poster

`x_auto_poster.py`: one metadata row for each Spot says what became of its public post, and a cursor says up to where
activations have been looked at.  A pass takes one step at a time: the deployment goes on in between, and a crash
forgets the pass but none of its rows.
-/

namespace NimHunt

open Lib

variable {P : Type}

structure ActivationCursor where
  timestamp : ℕ
  spotId : ℕ := 0
  deriving DecidableEq, Repr

/-- The posting state of one Spot. -/
inductive PostingState
  | sending (sendingAt : ℕ)
  | posted (postId : String) (postedAt : ℕ)
  | uncertain (uncertainAt : ℕ) (reason : String)
  | retry (retryAt : ℕ) (reason : String)
  | failed (failedAt : ℕ) (reason : String)
  /-- What cannot be decoded counts as uncertain. -/
  | invalidPersistedState
  deriving DecidableEq, Repr

/-- What the answer to a create-post request says: `data.id`, stripped, and the two headers about waiting, each `none`
if it is not a number. -/
structure XResponse where
  status : ℕ
  postId : String := ""
  rateLimitReset : Option ℤ := some 0
  retryAfter : Option ℤ := some 0

structure PosterSettings where
  retryAfterSeconds : ℕ := 15 * 60
  maxSpotsPerRun : ℕ := 10

/-- `_retry_at`. -/
def xRetryAt (settings : PosterSettings) (response : XResponse) (now : ℕ) : ℕ :=
  let reset := (response.rateLimitReset.map fun reset => (reset + 1).toNat).getD 0
  let wait := (response.retryAfter.map fun wait => ((now : ℤ) + wait).toNat).getD 0
  max (now + settings.retryAfterSeconds) (max reset wait)

/-- These answers reject the request before a post exists. -/
def XResponse.isRejection (response : XResponse) : Bool :=
  response.status = 401 ∨ response.status = 403 ∨ response.status = 429

/-- `_classify_post_response`. -/
def classifyPostResponse (settings : PosterSettings) (response : XResponse) (now : ℕ) : PostingState :=
  let reason := "x_http_" ++ toString response.status
  if response.status = 201 then
    if response.postId ≠ "" then .posted response.postId now
    else .uncertain now "success_response_missing_post_id"
  else if response.isRejection then .retry (xRetryAt settings response now) reason
  -- A server error may occur after X accepted the request.
  else if 500 ≤ response.status ∧ response.status ≤ 599 then .uncertain now reason
  else .failed now reason

/-- A public, started Spot that has not ended and is not being cancelled. -/
def Spot.isActiveAt (spot : Spot P) (now : ℕ) : Bool :=
  spot.status = .published ∧ spot.cancellationStartedAt = none ∧ spot.position.isSome = true ∧
    spot.startsAt.any (fun startsAt => startsAt ≤ now ∧ now < startsAt + spot.endsAt) = true

section Retries

variable (db : Db P) (states : List (ℕ × PostingState)) (now limit : ℕ)

/-- The Spots whose retry is due, in the order of the rows. -/
def dueRetrySpotIds : List ℕ :=
  states.filterMap fun row =>
    match row.2 with
    | .retry retryAt _ => if retryAt ≤ now then some row.1 else none
    | _ => none

/-- `_due_retry_spots`: the limit cuts the rows before the Spots are looked at. -/
def dueRetrySpots : List (Spot P) :=
  let spotIds := (dueRetrySpotIds states now).take (max 1 limit)
  (db.spots.filter fun spot => spot.id ∈ spotIds ∧ spot.isActiveAt now).insertionSort fun x y => x.id ≤ y.id

end Retries

/-- `MAX(starts_at, updated_at)`. -/
def activationAt (updatedAt : ℕ → ℕ) (spot : Spot P) : ℕ := max (spot.startsAt.getD 0) (updatedAt spot.id)

/-- Activations after the cursor, and those of its second with a later id. -/
def ActivationCursor.before (cursor : ActivationCursor) (updatedAt : ℕ → ℕ) (spot : Spot P) : Bool :=
  cursor.timestamp < activationAt updatedAt spot ∨
    activationAt updatedAt spot = cursor.timestamp ∧ cursor.spotId < spot.id

/-- `_candidate_spots`. -/
def candidateSpots (db : Db P) (updatedAt : ℕ → ℕ) (cursor : ActivationCursor) (now limit : ℕ) : List (Spot P) :=
  let eligible := db.spots.filter fun spot => spot.isActiveAt now && cursor.before updatedAt spot
  (eligible.insertionSort fun x y =>
    activationAt updatedAt x < activationAt updatedAt y ∨
      activationAt updatedAt x = activationAt updatedAt y ∧ x.id ≤ y.id).take (max 1 limit)

/-- Where a pass that took these candidates leaves the cursor. -/
def ActivationCursor.next (cursor : ActivationCursor) (updatedAt : ℕ → ℕ) (candidates : List (Spot P))
    (now remaining : ℕ) : ActivationCursor :=
  if remaining = 0 then cursor
  else match candidates.getLast? with
    | some last =>
      if remaining ≤ candidates.length then
        let timestamp := activationAt updatedAt last
        ⟨if timestamp = 0 then cursor.timestamp else timestamp, last.id⟩
      else { timestamp := now }
    | none => { timestamp := now }

inductive PassStage
  | next
  | prewarm (spotId : ℕ)
  | send (spotId : ℕ)
  | answer (spotId : ℕ)
  deriving DecidableEq, Repr

/-- A pass under way: what is left of its Spots, and the cursor it is going to write. -/
structure PosterPass where
  now : ℕ
  queue : List ℕ
  stage : PassStage
  nextCursor : ActivationCursor
  deriving DecidableEq, Repr

/-- Requests sent to X, and those X has rejected; a log has the newest first. -/
inductive PostEvent
  | request (spotId : ℕ)
  | rejected (spotId : ℕ)
  deriving DecidableEq, Repr

/-- The deployment with its poster: `updatedAt` is the column the stamp trigger of SPOT keeps.  The last three fields
are the history the properties are about: what was sent, when each Spot became active, and when posting was on. -/
structure Poster (P : Type) where
  sys : Sys P
  updatedAt : ℕ → ℕ := fun _ => 0
  mode : Option Bool := none
  cursor : Option ActivationCursor := none
  states : List (ℕ × PostingState) := []
  running : Option PosterPass := none
  log : List PostEvent := []
  activatedAt : ℕ → Option ℕ := fun _ => none
  enabledPeriods : List (ℕ × Option ℕ) := []

def Poster.initial : Poster P := { sys := .initial }

/-- What the outside does in a step of a pass; no response is a transport error. -/
structure PosterReply where
  cardRendered : Bool := true
  response : Option XResponse := none

inductive PosterOp (P : Type)
  | system (op : Op P)
  | pass (allowed : Bool)
  | advance (reply : PosterReply)
  | crash

namespace Poster

variable (s : Poster P)

def getState (spotId : ℕ) : Option PostingState := (s.states.find? fun row => row.1 = spotId).map Prod.snd

/-- `_set_spot_state`: an insert, or an update on conflict. -/
def setState (spotId : ℕ) (state : PostingState) : Poster P :=
  { s with
    states :=
      if (s.getState spotId).isSome then updateWhere (fun row => row.1 = spotId) (fun row => (row.1, state)) s.states
      else s.states ++ [(spotId, state)] }

/-- The columns the stamp trigger watches: all but the cancellation marker. -/
def watched (spot : Spot P) : Spot P := { spot with cancellationStartedAt := none }

/-- One operation of the deployment, with the stamps it leaves. -/
def observe [DecidableEq P] (sys : Sys P) : Poster P :=
  { s with
    sys := sys
    updatedAt := fun spotId =>
      if (sys.db.getSpot spotId).map watched = (s.sys.db.getSpot spotId).map watched then s.updatedAt spotId
      else sys.db.now
    activatedAt := fun spotId =>
      match sys.db.getSpot spotId with
      | none => s.activatedAt spotId
      | some spot =>
        if spot.status = .published ∧ (s.sys.db.getSpot spotId).all (fun before => before.status ≠ .published) then
          some (max (spot.startsAt.getD 0) sys.db.now)
        else s.activatedAt spotId }

def closePeriod (now : ℕ) : List (ℕ × Option ℕ) → List (ℕ × Option ℕ)
  | (enabledAt, none) :: periods => (enabledAt, some now) :: periods
  | periods => periods

/-- `prepare_disabled_mode`. -/
def prepareDisabledMode : Poster P :=
  { s with
    mode := some false
    cursor := some { timestamp := s.sys.db.now }
    enabledPeriods := closePeriod s.sys.db.now s.enabledPeriods }

/-- The first transaction of `run_x_auto_post_pass`: a transition only sets the cursor. -/
def beginPass (settings : PosterSettings) : Poster P :=
  let now := s.sys.db.now
  match s.mode, s.cursor with
  | some true, some cursor =>
    let maximum := max 1 settings.maxSpotsPerRun
    let retries := dueRetrySpots s.sys.db s.states now maximum
    let remaining := maximum - retries.length
    let candidates := if remaining = 0 then [] else candidateSpots s.sys.db s.updatedAt cursor now remaining
    let retryIds := retries.map Spot.id
    let queue := retryIds ++ (candidates.map Spot.id).filter fun spotId => spotId ∉ retryIds
    let nextCursor := cursor.next s.updatedAt candidates now remaining
    { s with running := some { now := now, queue := queue, stage := .next, nextCursor := nextCursor } }
  | _, _ =>
    { s with
      mode := some true
      cursor := some { timestamp := now }
      enabledPeriods := (now, none) :: s.enabledPeriods }

/-- The check in front of a post: only a due retry is tried again. -/
def mayPost (now : ℕ) : Option PostingState → Bool
  | none => true
  | some (.retry retryAt _) => retryAt ≤ now
  | some _ => false

/-- The next step of a pass; `post_spot_once` is its last three stages. -/
def advance (settings : PosterSettings) (pass : PosterPass) (reply : PosterReply) : Poster P :=
  match pass.stage with
  | .next =>
    match pass.queue with
    | [] => { s with cursor := some pass.nextCursor, running := none }
    | spotId :: queue =>
      if mayPost pass.now (s.getState spotId) then
        { s with running := some { pass with queue := queue, stage := .prewarm spotId } }
      else { s with running := some { pass with queue := queue } }
  | .prewarm spotId =>
    if reply.cardRendered then
      { s.setState spotId (.sending pass.now) with running := some { pass with stage := .send spotId } }
    else
      { s.setState spotId (.retry (pass.now + settings.retryAfterSeconds) "card_prewarm_failed") with
        running := some { pass with stage := .next } }
  | .send spotId =>
    { s with log := .request spotId :: s.log, running := some { pass with stage := .answer spotId } }
  | .answer spotId =>
    let state := match reply.response with
      | none => .uncertain pass.now "ambiguous_transport_failure"
      | some response => classifyPostResponse settings response pass.now
    { s.setState spotId state with
      log := if reply.response.any XResponse.isRejection then .rejected spotId :: s.log else s.log
      running := some { pass with stage := .next } }

end Poster

def posterStep [DecidableEq P] (cfg : Settings P) (settings : PosterSettings) (s : Poster P) : PosterOp P → Poster P
  | .system op => s.observe (step cfg s.sys op)
  | .pass allowed =>
    if s.running.isSome then s
    else if allowed then s.beginPass settings
    else s.prepareDisabledMode
  | .advance reply =>
    match s.running with
    | none => s
    | some pass => s.advance settings pass reply
  | .crash => { s with running := none }

end NimHunt
