import NimHunt.ClaimSecurityResponseDelivery
import NimHunt.Lib.Progress

/-!
# Settlement waits for the response

A request goes through three stages: the application is at its response, the task is held behind the last piece of it,
or it has been freed, and then the guard is through with the claim's record and the client has everything.
-/

namespace NimHunt

open Lib

section Scripts

def AppAction.message? : AppAction → Option AsgiMessage
  | .send message => some message
  | .work _ => none

def AppAction.task? : AppAction → Option ℕ
  | .send _ => none
  | .work task => some task

/-- What is sent in a script. -/
def messagesOf (actions : List AppAction) : List AsgiMessage := actions.filterMap AppAction.message?

/-- What is worked on in it. -/
def worksOf (actions : List AppAction) : List ℕ := actions.filterMap AppAction.task?

@[simp] lemma messagesOf_append (xs ys : List AppAction) : messagesOf (xs ++ ys) = messagesOf xs ++ messagesOf ys :=
  List.filterMap_append

@[simp] lemma worksOf_append (xs ys : List AppAction) : worksOf (xs ++ ys) = worksOf xs ++ worksOf ys :=
  List.filterMap_append

@[simp] lemma messagesOf_send (message : AsgiMessage) : messagesOf [.send message] = [message] := rfl

@[simp] lemma messagesOf_work (task : ℕ) : messagesOf [.work task] = [] := rfl

@[simp] lemma worksOf_send (message : AsgiMessage) : worksOf [.send message] = [] := rfl

@[simp] lemma worksOf_work (task : ℕ) : worksOf [.work task] = [task] := rfl

/-- No piece of it is the last of a response. -/
def Responseless (actions : List AppAction) : Prop := ∀ message ∈ messagesOf actions, message.completes = false

end Scripts

section Stages

variable {before after : List AppAction} {last : AsgiMessage} {s : Delivery}

/-- Where the guard stands while the task is held. -/
inductive Delivery.Held (response : List AsgiMessage) (s : Delivery) : Prop
  | waiting (hguard : s.guard = .waiting ∨ s.guard = .recording) (happ : s.app = .blocked) (hnone : s.delivered = [])
  | forwarding (left : List AsgiMessage) (hguard : s.guard = .forwarding left) (happ : s.app = .blocked)
      (hexamined : s.examined = true) (hsent : s.delivered ++ left = response)
  | raised (hguard : s.guard = .raised) (happ : s.app = .cancelled) (hsent : s.delivered <+: response)
      (hexamined : s.delivered ≠ [] → s.examined = true)
  | cancelled (hguard : s.guard = .cancelled) (happ : s.app = .blocked) (hsent : s.delivered <+: response)
      (hexamined : s.delivered ≠ [] → s.examined = true)

/-- The stages of a request whose application sends its last piece of response between `before` and `after`. -/
inductive Delivery.Stage (before : List AppAction) (last : AsgiMessage) (after : List AppAction) (s : Delivery) : Prop
  | early (done left : List AppAction) (hsplit : before = done ++ left) (htodo : s.todo = left ++ .send last :: after)
      (hcaptured : s.captured = messagesOf done) (hworked : s.worked = worksOf done)
      (hresponse : s.responseComplete = false) (hrelease : s.releaseBackground = false) (hnone : s.delivered = [])
      (happ : s.app = .running) (hguard : s.guard = .waiting ∨ s.guard = .cancelled)
  | held (htodo : s.todo = after) (hcaptured : s.captured = messagesOf before ++ [last])
      (hworked : s.worked = worksOf before) (hresponse : s.responseComplete = true) (hrelease : s.releaseBackground = false)
      (hheld : s.Held (messagesOf before ++ [last]))
  | freed (done left : List AppAction) (hsplit : after = done ++ left) (htodo : s.todo = left)
      (hworked : s.worked = worksOf before ++ worksOf done) (hrelease : s.releaseBackground = true)
      (hexamined : s.examined = true) (hdelivered : s.delivered = messagesOf before ++ [last])
      (hguard : s.guard = .joining ∨ s.guard = .consumed ∧ s.app.isDone = true ∨ s.guard = .cancelled)
      (hended : s.app = .finished ∨ s.app = .failed → left = []) (hcancelled : s.app = .cancelled → s.guard = .cancelled)

lemma Delivery.Stage.start (appRaises : Bool) :
    (Delivery.start (before ++ .send last :: after) appRaises).Stage before last after :=
  .early [] before rfl rfl rfl rfl rfl rfl rfl rfl (.inl rfl)

/-- The application goes on. -/
lemma Delivery.Stage.appStep (hbefore : Responseless before) (hlast : last.completes = true)
    (h : s.Stage before last after) : s.appStep.Stage before last after := by
  cases h with
  | early done left hsplit htodo hcaptured hworked hresponse hrelease hnone happ hguard =>
    cases left with
    | nil =>
      rw [List.append_nil] at hsplit
      have hstep : s.appStep = { s with
          todo := after, captured := s.captured ++ [last], responseComplete := true, app := .blocked } := by
        simp [Delivery.appStep, Delivery.gatedSend, happ, htodo, hlast, hrelease]
      rw [hstep]
      refine .held rfl (by simp [hcaptured, hsplit]) (by simp [hworked, hsplit]) rfl hrelease ?_
      cases hguard with
      | inl hwaiting => exact .waiting (.inl hwaiting) rfl hnone
      | inr hcancelled => exact .cancelled hcancelled rfl (by simp [hnone]) fun hsome => absurd hnone hsome
    | cons action left =>
      cases action with
      | send message =>
        have hmore : message.completes = false := hbefore message (by simp [hsplit, messagesOf, AppAction.message?])
        have hstep : s.appStep = { s with
            todo := left ++ .send last :: after, captured := s.captured ++ [message], app := .running } := by
          simp [Delivery.appStep, Delivery.gatedSend, happ, htodo, hmore, hresponse]
        rw [hstep]
        exact .early (done ++ [.send message]) left (by simp [hsplit]) rfl (by simp [hcaptured]) (by simp [hworked])
          hresponse hrelease hnone rfl hguard
      | work task =>
        have hstep : s.appStep = { s with todo := left ++ .send last :: after, worked := s.worked ++ [task] } := by
          simp [Delivery.appStep, happ, htodo]
        rw [hstep]
        exact .early (done ++ [.work task]) left (by simp [hsplit]) rfl (by simp [hcaptured]) (by simp [hworked])
          hresponse hrelease hnone happ hguard
  | held htodo hcaptured hworked hresponse hrelease hheld =>
    -- the gate is shut
    have hstep : s.appStep = s := by
      cases hheld with
      | waiting _ happ => simp [Delivery.appStep, happ, hrelease]
      | forwarding _ _ happ => simp [Delivery.appStep, happ, hrelease]
      | raised _ happ => simp [Delivery.appStep, happ]
      | cancelled _ happ => simp [Delivery.appStep, happ, hrelease]
    rw [hstep]
    exact .held htodo hcaptured hworked hresponse hrelease hheld
  | freed done left hsplit htodo hworked hrelease hexamined hdelivered hguard hended hcancelled =>
    cases happ : s.app with
    | running =>
      have hopen : s.guard = .joining ∨ s.guard = .cancelled := by
        rcases hguard with hjoining | ⟨-, hdone⟩ | habandoned
        · exact .inl hjoining
        · rw [happ] at hdone
          cases hdone
        · exact .inr habandoned
      have hguard' : ∀ app : AppTask, s.guard = .joining ∨ s.guard = .consumed ∧ app.isDone = true ∨
          s.guard = .cancelled := fun _ => hopen.imp_right .inr
      cases left with
      | nil =>
        have hstep : s.appStep = { s with app := if s.appRaises then .failed else .finished } := by
          simp [Delivery.appStep, happ, htodo]
        rw [hstep]
        refine .freed done [] hsplit htodo hworked hrelease hexamined hdelivered (hguard' _) (fun _ => rfl) ?_
        dsimp only
        split_ifs <;> nofun
      | cons action left =>
        cases action with
        | send message =>
          have hstep : s.appStep = { s with
              todo := left, captured := s.captured ++ [message]
              responseComplete := s.responseComplete || message.completes, app := .running } := by
            simp [Delivery.appStep, Delivery.gatedSend, happ, htodo, hrelease]
          rw [hstep]
          exact .freed (done ++ [.send message]) left (by simp [hsplit]) rfl (by simp [hworked]) hrelease hexamined
            hdelivered (hguard' _) (by simp) nofun
        | work task =>
          have hstep : s.appStep = { s with todo := left, worked := s.worked ++ [task] } := by
            simp [Delivery.appStep, happ, htodo]
          rw [hstep]
          exact .freed (done ++ [.work task]) left (by simp [hsplit]) rfl (by simp [hworked]) hrelease hexamined
            hdelivered (hguard' _) (by simp [happ]) (by simp [happ])
    | blocked =>
      have hstep : s.appStep = { s with app := .running } := by simp [Delivery.appStep, happ, hrelease]
      rw [hstep]
      refine .freed done left hsplit htodo hworked hrelease hexamined hdelivered ?_ (by simp) nofun
      rcases hguard with hjoining | ⟨-, hdone⟩ | habandoned
      · exact .inl hjoining
      · rw [happ] at hdone
        cases hdone
      · exact .inr (.inr habandoned)
    | _ =>
      have hstep : s.appStep = s := by simp [Delivery.appStep, happ]
      rw [hstep]
      exact .freed done left hsplit htodo hworked hrelease hexamined hdelivered hguard hended hcancelled

/-- The guard goes on, or fails. -/
lemma Delivery.Stage.guardStep (fails : Bool) (h : s.Stage before last after) :
    (s.guardStep fails).Stage before last after := by
  cases h with
  | early done left hsplit htodo hcaptured hworked hresponse hrelease hnone happ hguard =>
    have hstep : s.guardStep fails = s := by
      cases hguard with
      | inl hwaiting => simp [Delivery.guardStep, hwaiting, hresponse, happ, AppTask.isDone]
      | inr hcancelled => simp [Delivery.guardStep, hcancelled]
    rw [hstep]
    exact .early done left hsplit htodo hcaptured hworked hresponse hrelease hnone happ hguard
  | held htodo hcaptured hworked hresponse hrelease hheld =>
    have hraised : s.app = .blocked → s.delivered <+: messagesOf before ++ [last] →
        (s.delivered ≠ [] → s.examined = true) → s.raise.Stage before last after := fun happ hsent hexamined =>
      .held htodo hcaptured hworked hresponse hrelease
        (.raised rfl (by simp [Delivery.raise, happ, AppTask.cancel, AppTask.isDone]) hsent hexamined)
    cases hheld with
    | waiting hguard happ hnone =>
      cases hguard with
      | inl hwaiting =>
        have hstep : s.guardStep fails = { s with guard := .recording } := by
          simp [Delivery.guardStep, hwaiting, hresponse]
        rw [hstep]
        exact .held htodo hcaptured hworked hresponse hrelease (.waiting (.inr rfl) happ hnone)
      | inr hrecording =>
        cases fails with
        | true =>
          have hstep : s.guardStep true = s.raise := by simp [Delivery.guardStep, hrecording]
          rw [hstep]
          exact hraised happ (by simp [hnone]) fun hsome => absurd hnone hsome
        | false =>
          have hstep : s.guardStep false = { s with examined := true, guard := .forwarding s.captured } := by
            simp [Delivery.guardStep, hrecording]
          rw [hstep]
          exact .held htodo hcaptured hworked hresponse hrelease
            (.forwarding s.captured rfl happ rfl (by simp [hnone, hcaptured]))
    | forwarding left hguard happ hexamined hsent =>
      cases left with
      | nil =>
        have hstep : s.guardStep fails = { s with releaseBackground := true, guard := .joining } := by
          simp [Delivery.guardStep, hguard]
        rw [hstep]
        exact .freed [] after rfl htodo (by simp [hworked, worksOf]) rfl hexamined (by simpa using hsent) (.inl rfl)
          (by simp [happ]) (by simp [happ])
      | cons message left =>
        cases fails with
        | true =>
          have hstep : s.guardStep true = s.raise := by simp [Delivery.guardStep, hguard]
          rw [hstep]
          exact hraised happ ⟨_, hsent⟩ fun _ => hexamined
        | false =>
          have hstep : s.guardStep false = { s with
              delivered := s.delivered ++ [message], guard := .forwarding left } := by
            simp [Delivery.guardStep, hguard]
          rw [hstep]
          exact .held htodo hcaptured hworked hresponse hrelease
            (.forwarding left rfl happ hexamined (by simpa using hsent))
    | raised hguard happ hsent hexamined =>
      have hstep : s.guardStep fails = s := by simp [Delivery.guardStep, hguard]
      rw [hstep]
      exact .held htodo hcaptured hworked hresponse hrelease (.raised hguard happ hsent hexamined)
    | cancelled hguard happ hsent hexamined =>
      have hstep : s.guardStep fails = s := by simp [Delivery.guardStep, hguard]
      rw [hstep]
      exact .held htodo hcaptured hworked hresponse hrelease (.cancelled hguard happ hsent hexamined)
  | freed done left hsplit htodo hworked hrelease hexamined hdelivered hguard hended hcancelled =>
    rcases hguard with hjoining | ⟨hconsumed, hdone⟩ | habandoned
    · by_cases hdone : s.app.isDone = true
      · have hstep : s.guardStep fails = { s with guard := .consumed } := by
          simp [Delivery.guardStep, hjoining, hdone]
        have halive : s.app ≠ .cancelled := by
          intro hgone
          rw [hcancelled hgone] at hjoining
          cases hjoining
        rw [hstep]
        exact .freed done left hsplit htodo hworked hrelease hexamined hdelivered (.inr (.inl ⟨rfl, hdone⟩)) hended
          fun hgone => absurd hgone halive
      · have hstep : s.guardStep fails = s := by simp [Delivery.guardStep, hjoining, hdone]
        rw [hstep]
        exact .freed done left hsplit htodo hworked hrelease hexamined hdelivered (.inl hjoining) hended hcancelled
    · have hstep : s.guardStep fails = s := by simp [Delivery.guardStep, hconsumed]
      rw [hstep]
      exact .freed done left hsplit htodo hworked hrelease hexamined hdelivered (.inr (.inl ⟨hconsumed, hdone⟩)) hended
        hcancelled
    · have hstep : s.guardStep fails = s := by simp [Delivery.guardStep, habandoned]
      rw [hstep]
      exact .freed done left hsplit htodo hworked hrelease hexamined hdelivered (.inr (.inr habandoned)) hended hcancelled

/-- The request is cancelled from outside. -/
lemma Delivery.Stage.cancelRequest (h : s.Stage before last after) : s.cancelRequest.Stage before last after := by
  cases h with
  | early done left hsplit htodo hcaptured hworked hresponse hrelease hnone happ hguard =>
    cases hguard with
    | inl hwaiting =>
      have hstep : s.cancelRequest = { s with guard := .cancelled } := by simp [Delivery.cancelRequest, hwaiting]
      rw [hstep]
      exact .early done left hsplit htodo hcaptured hworked hresponse hrelease hnone happ (.inr rfl)
    | inr hcancelled =>
      have hstep : s.cancelRequest = s := by simp [Delivery.cancelRequest, hcancelled]
      rw [hstep]
      exact .early done left hsplit htodo hcaptured hworked hresponse hrelease hnone happ (.inr hcancelled)
  | held htodo hcaptured hworked hresponse hrelease hheld =>
    cases hheld with
    | waiting hguard happ hnone =>
      have hstep : s.cancelRequest = { s with guard := .cancelled } := by
        cases hguard with
        | inl hwaiting => simp [Delivery.cancelRequest, hwaiting]
        | inr hrecording => simp [Delivery.cancelRequest, hrecording]
      rw [hstep]
      exact .held htodo hcaptured hworked hresponse hrelease
        (.cancelled rfl happ (by simp [hnone]) fun hsome => absurd hnone hsome)
    | forwarding left hguard happ hexamined hsent =>
      have hstep : s.cancelRequest = { s with guard := .cancelled } := by simp [Delivery.cancelRequest, hguard]
      rw [hstep]
      exact .held htodo hcaptured hworked hresponse hrelease (.cancelled rfl happ ⟨left, hsent⟩ fun _ => hexamined)
    | raised hguard happ hsent hexamined =>
      have hstep : s.cancelRequest = s := by simp [Delivery.cancelRequest, hguard]
      rw [hstep]
      exact .held htodo hcaptured hworked hresponse hrelease (.raised hguard happ hsent hexamined)
    | cancelled hguard happ hsent hexamined =>
      have hstep : s.cancelRequest = s := by simp [Delivery.cancelRequest, hguard]
      rw [hstep]
      exact .held htodo hcaptured hworked hresponse hrelease (.cancelled hguard happ hsent hexamined)
  | freed done left hsplit htodo hworked hrelease hexamined hdelivered hguard hended hcancelled =>
    rcases hguard with hjoining | ⟨hconsumed, hdone⟩ | habandoned
    · have hstep : s.cancelRequest = { s with guard := .cancelled, app := s.app.cancel } := by
        simp [Delivery.cancelRequest, hjoining]
      rw [hstep]
      refine .freed done left hsplit htodo hworked hrelease hexamined hdelivered (.inr (.inr rfl)) ?_ fun _ => rfl
      intro hover
      apply hended
      cases happ : s.app <;> simp_all [AppTask.cancel, AppTask.isDone]
    · have hstep : s.cancelRequest = s := by simp [Delivery.cancelRequest, hconsumed]
      rw [hstep]
      exact .freed done left hsplit htodo hworked hrelease hexamined hdelivered (.inr (.inl ⟨hconsumed, hdone⟩)) hended
        hcancelled
    · have hstep : s.cancelRequest = s := by simp [Delivery.cancelRequest, habandoned]
      rw [hstep]
      exact .freed done left hsplit htodo hworked hrelease hexamined hdelivered (.inr (.inr habandoned)) hended hcancelled

lemma Delivery.Stage.step (hbefore : Responseless before) (hlast : last.completes = true) (h : s.Stage before last after)
    (action : DeliveryAction) : (s.step action).Stage before last after := by
  cases action with
  | app => exact h.appStep hbefore hlast
  | guard fails => exact h.guardStep fails
  | cancelRequest => exact h.cancelRequest

end Stages

section Runs

variable {before after : List AppAction} {last : AsgiMessage}

lemma stage_run (hbefore : Responseless before) (hlast : last.completes = true) (appRaises : Bool)
    (actions : List DeliveryAction) :
    (run Delivery.step (Delivery.start (before ++ .send last :: after) appRaises) actions).Stage before last after := by
  have hpreserved : ∀ (s : Delivery) (action : DeliveryAction), True → s.Stage before last after →
      (s.step action).Stage before last after := fun _ action _ h => h.step hbefore hlast action
  exact run_invariant hpreserved (admissible_true _ actions) (.start appRaises)

/-- Whoever goes on when, and whatever fails: what the application does after its response it does only once the guard is
through with the claim's record and the client has the whole response; the client gets the response in order, and
nothing of it before that; and after an exception the application does nothing more. -/
theorem settlement_waits_for_the_response (hbefore : Responseless before) (hlast : last.completes = true) (appRaises : Bool)
    (actions : List DeliveryAction) :
    let s := run Delivery.step (Delivery.start (before ++ .send last :: after) appRaises) actions
    (s.worked <+: worksOf before ∨ s.examined = true ∧ s.delivered = messagesOf before ++ [last]) ∧
      s.delivered <+: messagesOf before ++ [last] ∧ (s.delivered ≠ [] → s.examined = true) ∧
      (s.guard = .raised → s.worked <+: worksOf before) ∧
      (s.guard = .consumed → s.worked = worksOf (before ++ after) ∧ s.delivered = messagesOf before ++ [last]) := by
  have hstage := @stage_run before after last hbefore hlast appRaises actions
  generalize run Delivery.step (Delivery.start (before ++ .send last :: after) appRaises) actions = s at hstage
  dsimp only
  cases hstage with
  | early done left hsplit htodo hcaptured hworked hresponse hrelease hnone happ hguard =>
    have hprefix : s.worked <+: worksOf before := ⟨worksOf left, by rw [hworked, hsplit, worksOf_append]⟩
    refine ⟨.inl hprefix, by simp [hnone], fun hsome => absurd hnone hsome, fun _ => hprefix, ?_⟩
    intro hconsumed
    rw [hconsumed] at hguard
    cases hguard with
    | inl h => cases h
    | inr h => cases h
  | held htodo hcaptured hworked hresponse hrelease hheld =>
    have hprefix : s.worked <+: worksOf before := hworked ▸ List.prefix_rfl
    cases hheld with
    | waiting hguard happ hnone =>
      refine ⟨.inl hprefix, by simp [hnone], fun hsome => absurd hnone hsome, fun _ => hprefix, ?_⟩
      intro hconsumed
      rw [hconsumed] at hguard
      cases hguard with
      | inl h => cases h
      | inr h => cases h
    | forwarding left hguard happ hexamined hsent =>
      refine ⟨.inl hprefix, ⟨left, hsent⟩, fun _ => hexamined, fun _ => hprefix, ?_⟩
      intro hconsumed
      rw [hconsumed] at hguard
      cases hguard
    | raised hguard happ hsent hexamined =>
      refine ⟨.inl hprefix, hsent, hexamined, fun _ => hprefix, ?_⟩
      intro hconsumed
      rw [hconsumed] at hguard
      cases hguard
    | cancelled hguard happ hsent hexamined =>
      refine ⟨.inl hprefix, hsent, hexamined, fun _ => hprefix, ?_⟩
      intro hconsumed
      rw [hconsumed] at hguard
      cases hguard
  | freed done left hsplit htodo hworked hrelease hexamined hdelivered hguard hended hcancelled =>
    refine ⟨.inr ⟨hexamined, hdelivered⟩, hdelivered ▸ List.prefix_rfl, fun _ => hexamined, ?_, ?_⟩
    · intro hraised
      rw [hraised] at hguard
      rcases hguard with h | ⟨h, -⟩ | h <;> cases h
    · intro hconsumed
      refine ⟨?_, hdelivered⟩
      have hover : left = [] := by
        rw [hconsumed] at hguard
        rcases hguard with h | ⟨-, hdone⟩ | h
        · cases h
        · apply hended
          cases happ : s.app with
          | finished => exact .inl rfl
          | failed => exact .inr rfl
          | cancelled =>
            have hgone := hcancelled happ
            rw [hconsumed] at hgone
            cases hgone
          | _ =>
            rw [happ] at hdone
            cases hdone
        · cases h
      rw [hworked, worksOf_append, hsplit, hover, List.append_nil]

theorem settlement_waits_for_the_response_settled :
    (run Delivery.step (Delivery.start
      ([.work 0, .send (.responseStart 200)] ++ .send (.responseBody [123, 125] false) :: [.work 1]) false)
      [.app, .guard false, .app, .app, .app, .guard false, .guard false, .app, .guard false, .guard false, .guard false,
        .app, .app, .app, .guard false]).worked = [0, 1] :=
  have hbefore : Responseless [.work 0, .send (.responseStart 200)] := by
    simp [Responseless, messagesOf, AppAction.message?, AsgiMessage.completes]
  ((settlement_waits_for_the_response hbefore rfl false [.app, .guard false, .app, .app, .app, .guard false,
    .guard false, .app, .guard false, .guard false, .guard false, .app, .app, .app, .guard false]).2.2.2.2 rfl).1

/-- A request whose application never completes its response. -/
structure Delivery.Unheard (s : Delivery) : Prop where
  app : s.app ≠ .blocked
  rest : Responseless s.todo
  response : s.responseComplete = false
  release : s.releaseBackground = false
  examined : s.examined = false
  delivered : s.delivered = []
  guard : s.guard = .waiting ∨ s.guard = .raised ∨ s.guard = .cancelled

lemma Delivery.Unheard.step {s : Delivery} (h : s.Unheard) (action : DeliveryAction) : (s.step action).Unheard := by
  obtain ⟨hopen, hrest, hresponse, hrelease, hexamined, hdelivered, hguard⟩ := h
  have hgone : s.app.cancel ≠ .blocked := by cases happ : s.app <;> simp [AppTask.cancel, AppTask.isDone]
  cases action with
  | app =>
    change s.appStep.Unheard
    cases happ : s.app with
    | running =>
      cases htodo : s.todo with
      | nil =>
        have hstep : s.appStep = { s with app := if s.appRaises then .failed else .finished } := by
          simp [Delivery.appStep, happ, htodo]
        rw [hstep]
        exact ⟨by cases s.appRaises <;> simp, hrest, hresponse, hrelease, hexamined, hdelivered, hguard⟩
      | cons next todo =>
        rw [htodo] at hrest
        have hlater : Responseless todo := fun message hmem => hrest message (by
          rw [← List.singleton_append, messagesOf_append]
          exact List.mem_append_right _ hmem)
        cases next with
        | send message =>
          have hmore : message.completes = false := hrest message (by simp [messagesOf, AppAction.message?])
          have hstep : s.appStep = { s with todo := todo, captured := s.captured ++ [message], app := .running } := by
            simp [Delivery.appStep, Delivery.gatedSend, happ, htodo, hmore, hresponse]
          rw [hstep]
          exact ⟨by simp, hlater, hresponse, hrelease, hexamined, hdelivered, hguard⟩
        | work task =>
          have hstep : s.appStep = { s with todo := todo, worked := s.worked ++ [task] } := by
            simp [Delivery.appStep, happ, htodo]
          rw [hstep]
          exact ⟨hopen, hlater, hresponse, hrelease, hexamined, hdelivered, hguard⟩
    | _ =>
      have hstep : s.appStep = s := by simp [Delivery.appStep, happ, hrelease]
      rw [hstep]
      exact ⟨hopen, hrest, hresponse, hrelease, hexamined, hdelivered, hguard⟩
  | guard fails =>
    change (s.guardStep fails).Unheard
    unfold Delivery.guardStep
    rcases hguard with hwaiting | hraised | hcancelled
    · rw [hwaiting]
      dsimp only
      rw [if_neg (by simp [hresponse])]
      split_ifs
      · exact ⟨hgone, hrest, hresponse, hrelease, hexamined, hdelivered, .inr (.inl rfl)⟩
      · exact ⟨hopen, hrest, hresponse, hrelease, hexamined, hdelivered, .inl hwaiting⟩
    · rw [hraised]
      exact ⟨hopen, hrest, hresponse, hrelease, hexamined, hdelivered, .inr (.inl hraised)⟩
    · rw [hcancelled]
      exact ⟨hopen, hrest, hresponse, hrelease, hexamined, hdelivered, .inr (.inr hcancelled)⟩
  | cancelRequest =>
    change s.cancelRequest.Unheard
    unfold Delivery.cancelRequest
    rcases hguard with hwaiting | hraised | hcancelled
    · rw [hwaiting]
      exact ⟨hopen, hrest, hresponse, hrelease, hexamined, hdelivered, .inr (.inr rfl)⟩
    · rw [hraised]
      exact ⟨hopen, hrest, hresponse, hrelease, hexamined, hdelivered, .inr (.inl hraised)⟩
    · rw [hcancelled]
      exact ⟨hopen, hrest, hresponse, hrelease, hexamined, hdelivered, .inr (.inr hcancelled)⟩

lemma unheard_run {script : List AppAction} (hscript : Responseless script) (appRaises : Bool)
    (actions : List DeliveryAction) : (run Delivery.step (Delivery.start script appRaises) actions).Unheard := by
  have hpreserved : ∀ (s : Delivery) (action : DeliveryAction), True → s.Unheard → (s.step action).Unheard :=
    fun _ action _ h => h.step action
  have hstart : (Delivery.start script appRaises).Unheard := ⟨nofun, hscript, rfl, rfl, rfl, rfl, .inl rfl⟩
  exact run_invariant hpreserved (admissible_true _ actions) hstart

/-- An application that ends without completing its response is never taken for one that did. -/
theorem incomplete_response_is_not_passed_on {script : List AppAction} (hscript : Responseless script) (appRaises : Bool)
    (actions : List DeliveryAction) :
    let s := run Delivery.step (Delivery.start script appRaises) actions
    s.delivered = [] ∧ s.examined = false ∧ s.guard ≠ .consumed := by
  have hend := unheard_run hscript appRaises actions
  refine ⟨hend.delivered, hend.examined, ?_⟩
  intro hconsumed
  have hguard := hend.guard
  rw [hconsumed] at hguard
  rcases hguard with h | h | h <;> cases h

theorem incomplete_response_is_not_passed_on_started :
    (run Delivery.step (Delivery.start [.send (.responseStart 200), .send (.responseBody [123] true)] false)
      [.app, .guard false, .app, .app, .guard false]).delivered = [] :=
  have hscript : Responseless [.send (.responseStart 200), .send (.responseBody [123] true)] := by
    simp [Responseless, messagesOf, AppAction.message?, AsgiMessage.completes]
  (incomplete_response_is_not_passed_on hscript false [.app, .guard false, .app, .app, .guard false]).1

def AppTask.steps : AppTask → ℕ
  | .blocked => 2
  | .running => 1
  | _ => 0

def GuardPhase.steps (captured todo : ℕ) : GuardPhase → ℕ
  | .waiting => captured + todo + 4
  | .recording => captured + 3
  | .forwarding left => left.length + 2
  | .joining => 1
  | _ => 0

/-- What is left to do, whoever goes on. -/
def Delivery.steps (s : Delivery) : ℕ :=
  3 * s.todo.length + s.app.steps + s.guard.steps s.captured.length s.todo.length

lemma AppTask.steps_cancel (task : AppTask) : task.cancel.steps ≤ task.steps := by
  cases task <;> simp [AppTask.cancel, AppTask.isDone, AppTask.steps]

lemma Delivery.appStep_steps {s : Delivery} (hmoves : s.appStep ≠ s) : s.appStep.steps < s.steps := by
  cases happ : s.app with
  | running =>
    have hrunning : s.app.steps = 1 := by rw [happ]; rfl
    cases htodo : s.todo with
    | nil =>
      have hstep : s.appStep = { s with app := if s.appRaises then .failed else .finished } := by
        simp [Delivery.appStep, happ, htodo]
      rw [hstep]
      cases s.appRaises <;> simp [Delivery.steps, happ, AppTask.steps]
    | cons next todo =>
      cases next with
      | send message =>
        have hstep : s.appStep = s.gatedSend message todo := by simp [Delivery.appStep, happ, htodo]
        have hlater : (s.gatedSend message todo).steps =
            3 * todo.length + (s.gatedSend message todo).app.steps +
              s.guard.steps (s.captured.length + 1) todo.length := by
          simp [Delivery.steps, Delivery.gatedSend]
        have hwaits : (s.gatedSend message todo).app.steps ≤ 2 := by
          unfold Delivery.gatedSend
          dsimp only
          split_ifs <;> simp [AppTask.steps]
        have hguard : s.guard.steps (s.captured.length + 1) todo.length ≤
            s.guard.steps s.captured.length (todo.length + 1) + 1 := by
          cases s.guard <;> simp only [GuardPhase.steps] <;> omega
        have hnow : s.steps = 3 * (todo.length + 1) + 1 + s.guard.steps s.captured.length (todo.length + 1) := by
          simp [Delivery.steps, hrunning, htodo]
        rw [hstep]
        omega
      | work task =>
        have hstep : s.appStep = { s with todo := todo, worked := s.worked ++ [task] } := by
          simp [Delivery.appStep, happ, htodo]
        rw [hstep]
        cases hguard : s.guard <;> simp only [Delivery.steps, GuardPhase.steps, hguard, htodo, List.length_cons] <;>
          omega
  | blocked =>
    cases hrelease : s.releaseBackground with
    | true =>
      have hstep : s.appStep = { s with app := .running } := by simp [Delivery.appStep, happ, hrelease]
      rw [hstep]
      simp [Delivery.steps, AppTask.steps, happ]
    | false => exact absurd (by simp [Delivery.appStep, happ, hrelease]) hmoves
  | _ => exact absurd (by simp [Delivery.appStep, happ]) hmoves

/-- An exception leaves the guard nothing to do. -/
lemma Delivery.raise_steps {s : Delivery} (h : 0 < s.guard.steps s.captured.length s.todo.length) :
    s.raise.steps < s.steps := by
  have hcancel := s.app.steps_cancel
  have hraised : s.raise.steps = 3 * s.todo.length + s.app.cancel.steps := rfl
  unfold Delivery.steps at hraised ⊢
  omega

lemma Delivery.guardStep_steps {s : Delivery} {fails : Bool} (hmoves : s.guardStep fails ≠ s) :
    (s.guardStep fails).steps < s.steps := by
  cases hguard : s.guard with
  | waiting =>
    have hraise := s.raise_steps (by simp [hguard, GuardPhase.steps])
    cases hresponse : s.responseComplete with
    | true =>
      have hstep : s.guardStep fails = { s with guard := .recording } := by simp [Delivery.guardStep, hguard, hresponse]
      rw [hstep]
      simp only [Delivery.steps, hguard, GuardPhase.steps]
      omega
    | false =>
      cases hdone : s.app.isDone with
      | true => simpa [Delivery.guardStep, hguard, hresponse, hdone] using hraise
      | false => exact absurd (by simp [Delivery.guardStep, hguard, hresponse, hdone]) hmoves
  | recording =>
    have hraise := s.raise_steps (by simp [hguard, GuardPhase.steps])
    cases fails with
    | true => simpa [Delivery.guardStep, hguard] using hraise
    | false => simp [Delivery.guardStep, hguard, Delivery.steps, GuardPhase.steps]
  | forwarding left =>
    have hraise := s.raise_steps (by simp [hguard, GuardPhase.steps])
    cases left with
    | nil => simp [Delivery.guardStep, hguard, Delivery.steps, GuardPhase.steps]
    | cons message left =>
      cases fails with
      | true => simpa [Delivery.guardStep, hguard] using hraise
      | false => simp [Delivery.guardStep, hguard, Delivery.steps, GuardPhase.steps]
  | joining =>
    cases hdone : s.app.isDone with
    | true => simp [Delivery.guardStep, hguard, hdone, Delivery.steps, GuardPhase.steps]
    | false => exact absurd (by simp [Delivery.guardStep, hguard, hdone]) hmoves
  | _ => exact absurd (by simp [Delivery.guardStep, hguard]) hmoves

lemma Delivery.cancelRequest_steps {s : Delivery} (hmoves : s.cancelRequest ≠ s) : s.cancelRequest.steps < s.steps := by
  have hcancel := s.app.steps_cancel
  cases hguard : s.guard with
  | joining =>
    have hstep : s.cancelRequest = { s with guard := .cancelled, app := s.app.cancel } := by
      simp [Delivery.cancelRequest, hguard]
    rw [hstep]
    simp only [Delivery.steps, hguard, GuardPhase.steps]
    omega
  | waiting => simp [Delivery.cancelRequest, hguard, Delivery.steps, GuardPhase.steps]
  | recording => simp [Delivery.cancelRequest, hguard, Delivery.steps, GuardPhase.steps]
  | forwarding left => simp [Delivery.cancelRequest, hguard, Delivery.steps, GuardPhase.steps]
  | _ => exact absurd (by simp [Delivery.cancelRequest, hguard]) hmoves

/-- Who goes on at all comes nearer to the end. -/
lemma Delivery.steps_lt {s : Delivery} (action : DeliveryAction) (hmoves : s.step action ≠ s) :
    (s.step action).steps < s.steps := by
  cases action with
  | app => exact Delivery.appStep_steps hmoves
  | guard fails => exact Delivery.guardStep_steps hmoves
  | cancelRequest => exact Delivery.cancelRequest_steps hmoves

/-- The request is through, one way or another. -/
def GuardPhase.isOver : GuardPhase → Bool
  | .consumed | .raised | .cancelled => true
  | _ => false

lemma Delivery.isOver_step {s : Delivery} (h : s.guard.isOver = true) (action : DeliveryAction) :
    (s.step action).guard.isOver = true := by
  cases action with
  | app =>
    have hguard : s.appStep.guard = s.guard := by
      unfold Delivery.appStep Delivery.gatedSend
      split
      · split <;> rfl
      · split_ifs <;> rfl
      · rfl
    exact hguard ▸ h
  | guard fails =>
    have hstep : s.guardStep fails = s := by cases hguard : s.guard <;> simp_all [Delivery.guardStep, GuardPhase.isOver]
    change (s.guardStep fails).guard.isOver = true
    rw [hstep]
    exact h
  | cancelRequest =>
    have hstep : s.cancelRequest = s := by
      cases hguard : s.guard <;> simp_all [Delivery.cancelRequest, GuardPhase.isOver]
    change s.cancelRequest.guard.isOver = true
    rw [hstep]
    exact h

/-- A task that is running, or has been released, goes on. -/
lemma Delivery.appStep_ne {s : Delivery} (h : s.app = .running ∨ s.app = .blocked ∧ s.releaseBackground = true) :
    s.appStep ≠ s := by
  rcases h with hrunning | ⟨hblocked, hrelease⟩
  · cases htodo : s.todo with
    | nil =>
      intro hsame
      have happ := congrArg Delivery.app hsame
      cases hraises : s.appRaises <;> simp [Delivery.appStep, hrunning, htodo, hraises] at happ
    | cons next todo =>
      intro hsame
      have hleft := congrArg Delivery.todo hsame
      cases next <;> simp [Delivery.appStep, Delivery.gatedSend, hrunning, htodo] at hleft
  · intro hsame
    have happ := congrArg Delivery.app hsame
    simp [Delivery.appStep, hblocked, hrelease] at happ

/-- The task or the guard goes on. -/
def Delivery.Alive (s : Delivery) : Prop := s.guard.isOver = true ∨ s.appStep ≠ s ∨ s.guardStep false ≠ s

lemma Delivery.Stage.alive {s : Delivery} (h : s.Stage before last after) : s.Alive := by
  have hmoves : ∀ guard : GuardPhase, (s.guardStep false).guard = guard → s.guard ≠ guard → s.guardStep false ≠ s :=
    fun guard hnext hnow hsame => hnow (hsame ▸ hnext)
  cases h with
  | early _ _ _ _ _ _ _ _ _ happ => exact .inr (.inl (Delivery.appStep_ne (.inl happ)))
  | held _ _ _ hresponse _ hheld =>
    cases hheld with
    | waiting hguard =>
      cases hguard with
      | inl hwaiting =>
        exact .inr (.inr (hmoves .recording (by simp [Delivery.guardStep, hwaiting, hresponse]) (by simp [hwaiting])))
      | inr hrecording =>
        exact .inr (.inr (hmoves (.forwarding s.captured) (by simp [Delivery.guardStep, hrecording])
          (by simp [hrecording])))
    | forwarding left hguard =>
      cases left with
      | nil => exact .inr (.inr (hmoves .joining (by simp [Delivery.guardStep, hguard]) (by simp [hguard])))
      | cons message left =>
        exact .inr (.inr (hmoves (.forwarding left) (by simp [Delivery.guardStep, hguard]) (by simp [hguard])))
    | raised hguard => exact .inl (by simp [hguard, GuardPhase.isOver])
    | cancelled hguard => exact .inl (by simp [hguard, GuardPhase.isOver])
  | freed _ _ _ _ _ hrelease _ _ hguard =>
    rcases hguard with hjoining | ⟨hconsumed, -⟩ | habandoned
    · cases happ : s.app with
      | running => exact .inr (.inl (Delivery.appStep_ne (.inl happ)))
      | blocked => exact .inr (.inl (Delivery.appStep_ne (.inr ⟨happ, hrelease⟩)))
      | _ =>
        exact .inr (.inr (hmoves .consumed (by simp [Delivery.guardStep, hjoining, happ, AppTask.isDone])
          (by simp [hjoining])))
    · exact .inl (by simp [hconsumed, GuardPhase.isOver])
    · exact .inl (by simp [habandoned, GuardPhase.isOver])

lemma Delivery.Unheard.alive {s : Delivery} (h : s.Unheard) : s.Alive := by
  rcases h.guard with hwaiting | hraised | hcancelled
  · cases happ : s.app with
    | running => exact .inr (.inl (Delivery.appStep_ne (.inl happ)))
    | blocked => exact absurd happ h.app
    | _ =>
      refine .inr (.inr fun hsame => ?_)
      have hguard := congrArg Delivery.guard hsame
      simp [Delivery.guardStep, Delivery.raise, hwaiting, happ, h.response, AppTask.isDone] at hguard
  · exact .inl (by simp [hraised, GuardPhase.isOver])
  · exact .inl (by simp [hcancelled, GuardPhase.isOver])

/-- A script completes its response at some action, or never. -/
lemma responseless_or_complete (script : List AppAction) :
    Responseless script ∨
      ∃ before last after, script = before ++ .send last :: after ∧ Responseless before ∧ last.completes = true := by
  induction script with
  | nil => exact .inl nofun
  | cons next script ih =>
    rcases Bool.eq_false_or_eq_true (next.message?.any AsgiMessage.completes) with hcompletes | hcompletes
    · cases next with
      | send message => exact .inr ⟨[], message, script, rfl, nofun, hcompletes⟩
      | work task => cases hcompletes
    · have hnext : Responseless [next] := by
        intro message hmem
        cases next with
        | send sent =>
          rw [messagesOf_send, List.mem_singleton] at hmem
          exact hmem ▸ hcompletes
        | work task => cases hmem
      have hcons : ∀ {rest : List AppAction}, Responseless rest → Responseless (next :: rest) := by
        intro rest hrest message hmem
        rw [← List.singleton_append, messagesOf_append] at hmem
        exact (List.mem_append.mp hmem).elim (hnext message) (hrest message)
      rcases ih with hrest | ⟨before, last, after, rfl, hbefore, hlast⟩
      · exact .inl (hcons hrest)
      · exact .inr ⟨next :: before, last, after, rfl, hcons hbefore, hlast⟩

/-- The task and the guard each have a turn in which nothing fails. -/
def fairTurns : List DeliveryAction := [.app, .guard false]

/-- No request hangs: whatever has happened to it so far, whether or not the application ever completes its response,
and in whatever order turns come, it is through once the task and the guard have both had as many turns as the
application's script asks for. -/
theorem delivery_never_hangs (script : List AppAction) (appRaises : Bool) (actions : List DeliveryAction)
    (rounds : List (List DeliveryAction)) (hfair : ∀ round ∈ rounds, fairTurns ⊆ round)
    (henough : 4 * script.length + 5 ≤ rounds.length) :
    (run Delivery.step (Delivery.start script appRaises) (actions ++ rounds.flatten)).guard.isOver = true := by
  rw [run_append]
  have hlowers : ∀ (s : Delivery) (action : DeliveryAction), s.step action ≠ s → (s.step action).steps < s.steps :=
    fun _ action hmoves => Delivery.steps_lt action hmoves
  have hsteps : (run Delivery.step (Delivery.start script appRaises) actions).steps ≤ 4 * script.length + 5 := by
    have hstart : (Delivery.start script appRaises).steps = 4 * script.length + 5 := by
      simp only [Delivery.steps, Delivery.start, AppTask.steps, GuardPhase.steps, List.length_nil]
      omega
    exact Nat.le_trans (run_measure_le hlowers _ actions) (Nat.le_of_eq hstart)
  have hturn : ∀ s : Delivery, s.Alive →
      s.guard.isOver = true ∨ ∃ action ∈ fairTurns, s.step action ≠ s := by
    rintro s (hover | happ | hguard)
    · exact .inl hover
    · exact .inr ⟨.app, by simp [fairTurns], happ⟩
    · exact .inr ⟨.guard false, by simp [fairTurns], hguard⟩
  have hstays : ∀ (s : Delivery) (action : DeliveryAction), s.guard.isOver = true →
      (s.step action).guard.isOver = true := fun _ action h => Delivery.isOver_step h action
  rcases responseless_or_complete script with hscript | ⟨before, last, after, rfl, hbefore, hlast⟩
  · have hpreserved : ∀ (s : Delivery) (action : DeliveryAction), s.Unheard → (s.step action).Unheard :=
      fun _ action h => h.step action
    exact run_rounds hlowers hpreserved hstays (fun s h => hturn s h.alive) (unheard_run hscript appRaises actions)
      hfair (Nat.le_trans hsteps henough)
  · have hpreserved : ∀ (s : Delivery) (action : DeliveryAction), s.Stage before last after →
        (s.step action).Stage before last after := fun _ action h => h.step hbefore hlast action
    exact run_rounds hlowers hpreserved hstays (fun s h => hturn s h.alive)
      (stage_run hbefore hlast appRaises actions) hfair (Nat.le_trans hsteps henough)

/-- An application that starts a response and returns, and turns that come in another order. -/
theorem delivery_never_hangs_started :
    (run Delivery.step (Delivery.start [.send (.responseStart 200)] false)
      (List.replicate 9 [DeliveryAction.guard false, .guard false, .app]).flatten).guard.isOver = true := by
  refine delivery_never_hangs [.send (.responseStart 200)] false []
    (List.replicate 9 [DeliveryAction.guard false, .guard false, .app]) ?_ (by decide)
  intro round hround
  rw [List.eq_of_mem_replicate hround]
  decide

end Runs

end NimHunt
