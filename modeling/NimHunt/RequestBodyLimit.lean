import Mathlib.Data.Int.Notation
import Mathlib.Tactic.Common
import NimHunt.Lib.Runs

/-!
# Request bodies

`request_body_limit.py` reads a request's body before anything behind it runs, and replays it once; the guards of
`claim_http.py` read what is replayed and replay it once more to the application.
-/

namespace NimHunt

open Lib

/-- What `receive` gives. -/
inductive ReceiveMessage
  | request (body : List UInt8) (moreBody : Bool)
  | disconnect
  | other (type : String)
  deriving DecidableEq, Repr

/-- `read_request_body`; nothing while the messages so far do not end it. -/
def readRequestBody : List ReceiveMessage → Option (List UInt8)
  | [] => none
  | .disconnect :: _ => some []
  | .request body moreBody :: rest =>
    if moreBody then (readRequestBody rest).map (body ++ ·) else some body
  | .other _ :: rest => readRequestBody rest

/-- `replay_receive` over `calls` calls after the first. -/
def replayReceive (body : List UInt8) (calls : ℕ) : List ReceiveMessage :=
  .request body false :: List.replicate calls .disconnect

inductive BodyPhase
  | reading | rejected | disconnected | passed
  deriving DecidableEq, Repr

/-- The loop of the middleware. -/
structure BodyLimit where
  body : List UInt8 := []
  phase : BodyPhase := .reading
  deriving DecidableEq, Repr

/-- One turn of the loop; after its end the middleware receives no more. -/
def BodyLimit.step (maxBodyBytes : ℕ) (s : BodyLimit) (message : ReceiveMessage) : BodyLimit :=
  match s.phase with
  | .reading =>
    match message with
    | .disconnect => { s with phase := .disconnected }
    | .other _ => s
    | .request chunk moreBody =>
      if maxBodyBytes < s.body.length + chunk.length then { s with phase := .rejected }
      else { body := s.body ++ chunk, phase := if moreBody then .reading else .passed }
  | _ => s

/-- What the application's `receive` gives, if the application is called at all. -/
def BodyLimit.replay (s : BodyLimit) (calls : ℕ) : Option (List ReceiveMessage) :=
  match s.phase with
  | .passed => some (.request s.body false :: List.replicate calls .disconnect)
  | .disconnected => some (.disconnect :: List.replicate calls .disconnect)
  | _ => none

/-- The middleware over what has been received; `contentLength` is what `_content_length` reads. -/
def requestBodyLimit (maxBodyBytes : ℤ) (contentLength : Option ℕ) (messages : List ReceiveMessage) : BodyLimit :=
  let maxBodyBytes := (max 1 maxBodyBytes).toNat
  if contentLength.any (maxBodyBytes < ·) then { phase := .rejected }
  else run (BodyLimit.step maxBodyBytes) {} messages

end NimHunt
