import NimHunt.Lib.Runs

/-!
# Response before settlement

`claim_security_response_delivery.py` around the claim guard: the application runs in a task of its own that stops right
after the last piece of its response, the guard records the claim and forwards what it has captured, and only then is
the task released to start its background work.  At every await the scheduler decides who goes on.
-/

namespace NimHunt

/-- An ASGI message, as far as the adapter looks at it. -/
inductive AsgiMessage
  | responseStart (status : ℕ)
  | responseBody (body : List UInt8) (moreBody : Bool)
  | other (type : String)
  deriving DecidableEq, Repr

/-- The last piece of a response. -/
def AsgiMessage.completes : AsgiMessage → Bool
  | .responseBody _ moreBody => !moreBody
  | _ => false

/-- What the application does next: it sends a message, or it works, in the end on its BackgroundTasks. -/
inductive AppAction
  | send (message : AsgiMessage)
  | work (task : ℕ)
  deriving DecidableEq, Repr

/-- The state of the application's task. -/
inductive AppTask
  | running | blocked | finished | failed | cancelled
  deriving DecidableEq, Repr

def AppTask.isDone : AppTask → Bool
  | .finished | .failed | .cancelled => true
  | _ => false

/-- `_cancel_task`. -/
def AppTask.cancel (task : AppTask) : AppTask := if task.isDone then task else .cancelled

/-- Where the request's own coroutine stands. -/
inductive GuardPhase
  /-- In `asyncio.wait`, for the response or the end of the task. -/
  | waiting
  /-- About to look at the captured response and to record the claim it tells of. -/
  | recording
  | forwarding (left : List AsgiMessage)
  /-- In `await app_task`, with the background released. -/
  | joining
  | consumed
  | raised
  | cancelled
  deriving DecidableEq, Repr

/-- One protected request. -/
structure Delivery where
  todo : List AppAction
  appRaises : Bool
  app : AppTask := .running
  guard : GuardPhase := .waiting
  responseComplete : Bool := false
  releaseBackground : Bool := false
  captured : List AsgiMessage := []
  /-- The guard is through with the response: the record of a claim is stored, or its failure is logged. -/
  examined : Bool := false
  delivered : List AsgiMessage := []
  worked : List ℕ := []
  deriving DecidableEq, Repr

namespace Delivery

/-- `gated_send`: after the last piece the task waits for its release. -/
def gatedSend (s : Delivery) (message : AsgiMessage) (todo : List AppAction) : Delivery :=
  { s with
    todo := todo
    captured := s.captured ++ [message]
    responseComplete := s.responseComplete || message.completes
    app := if message.completes && !s.releaseBackground then .blocked else .running }

/-- The application's task up to its next await. -/
def appStep (s : Delivery) : Delivery :=
  match s.app with
  | .running =>
    match s.todo with
    | [] => { s with app := if s.appRaises then .failed else .finished }
    | .send message :: todo => s.gatedSend message todo
    | .work task :: todo => { s with todo := todo, worked := s.worked ++ [task] }
  | .blocked => if s.releaseBackground then { s with app := .running } else s
  | _ => s

/-- An exception of the guard, before the release. -/
def raise (s : Delivery) : Delivery := { s with guard := .raised, app := s.app.cancel }

/-- The guard up to its next await; `fails` says that its look at the response or the client's connection raises. -/
def guardStep (s : Delivery) (fails : Bool) : Delivery :=
  match s.guard with
  | .waiting =>
    if s.responseComplete then { s with guard := .recording }
    else if s.app.isDone then s.raise
    else s
  | .recording => if fails then s.raise else { s with examined := true, guard := .forwarding s.captured }
  | .forwarding [] => { s with releaseBackground := true, guard := .joining }
  | .forwarding (message :: left) =>
    if fails then s.raise else { s with delivered := s.delivered ++ [message], guard := .forwarding left }
  | .joining => if s.app.isDone then { s with guard := .consumed } else s
  | _ => s

/-- The server cancels the request: `except Exception` does not see that, and only an awaited task goes with it. -/
def cancelRequest (s : Delivery) : Delivery :=
  match s.guard with
  | .waiting | .recording | .forwarding _ => { s with guard := .cancelled }
  | .joining => { s with guard := .cancelled, app := s.app.cancel }
  | _ => s

end Delivery

inductive DeliveryAction
  | app
  | guard (fails : Bool)
  | cancelRequest
  deriving DecidableEq, Repr

def Delivery.step (s : Delivery) : DeliveryAction → Delivery
  | .app => s.appStep
  | .guard fails => s.guardStep fails
  | .cancelRequest => s.cancelRequest

/-- The request as its task is created. -/
def Delivery.start (script : List AppAction) (appRaises : Bool) : Delivery := { todo := script, appRaises := appRaises }

end NimHunt
