import NimHunt.RequestBodyLimit

/-!
# Bounded bodies

What the middleware lets through is what the client has sent, however it was cut up, and never more than the limit; and
so it reaches the application behind any number of guards.
-/

namespace NimHunt

open Lib

section Bodies

variable {maxBodyBytes : ℕ} {s : BodyLimit}

/-- Where a client's body stands. -/
inductive BodyEnd
  | pending | complete | disconnected
  deriving DecidableEq, Repr

def BodyEnd.phase : BodyEnd → BodyPhase
  | .pending => .reading
  | .complete => .passed
  | .disconnected => .disconnected

/-- What a client has sent up to the end of its body. -/
def sentBody : List ReceiveMessage → List UInt8 × BodyEnd
  | [] => ([], .pending)
  | .disconnect :: _ => ([], .disconnected)
  | .request body moreBody :: rest =>
    if moreBody then (body ++ (sentBody rest).1, (sentBody rest).2) else (body, .complete)
  | .other _ :: rest => sentBody rest

lemma readRequestBody_complete (messages : List ReceiveMessage) (h : (sentBody messages).2 = .complete) :
    readRequestBody messages = some (sentBody messages).1 := by
  induction messages with
  | nil => cases h
  | cons message messages ih =>
    cases message with
    | request body moreBody =>
      cases moreBody with
      | true => simp [readRequestBody, sentBody, ih (by simpa [sentBody] using h)]
      | false => simp [readRequestBody, sentBody]
    | disconnect => cases h
    | other type => exact ih h

lemma BodyLimit.run_ended (h : s.phase ≠ .reading) (messages : List ReceiveMessage) :
    run (BodyLimit.step maxBodyBytes) s messages = s := by
  induction messages with
  | nil => rfl
  | cons message messages ih =>
    have hstep : s.step maxBodyBytes message = s := by
      cases hphase : s.phase with
      | reading => exact absurd hphase h
      | _ => simp [BodyLimit.step, hphase]
    rw [run_cons, hstep]
    exact ih

/-- The loop stops at the chunk that goes over the limit, or else has all that was sent. -/
lemma BodyLimit.run_reading (messages : List ReceiveMessage) (body : List UInt8) (hbody : body.length ≤ maxBodyBytes) :
    (maxBodyBytes < (body ++ (sentBody messages).1).length →
      (run (BodyLimit.step maxBodyBytes) ⟨body, .reading⟩ messages).phase = .rejected ∧
        (run (BodyLimit.step maxBodyBytes) ⟨body, .reading⟩ messages).body.length ≤ maxBodyBytes) ∧
      ((body ++ (sentBody messages).1).length ≤ maxBodyBytes →
        run (BodyLimit.step maxBodyBytes) ⟨body, .reading⟩ messages =
          ⟨body ++ (sentBody messages).1, (sentBody messages).2.phase⟩) := by
  induction messages generalizing body with
  | nil =>
    simp only [sentBody, List.append_nil, run_nil, BodyEnd.phase]
    exact ⟨fun h => absurd hbody (Nat.not_le.mpr h), fun _ => trivial⟩
  | cons message messages ih =>
    rw [run_cons]
    cases message with
    | disconnect =>
      have hstep : BodyLimit.step maxBodyBytes ⟨body, .reading⟩ .disconnect = ⟨body, .disconnected⟩ := rfl
      have hends : run (BodyLimit.step maxBodyBytes) ⟨body, .disconnected⟩ messages = ⟨body, .disconnected⟩ :=
        BodyLimit.run_ended (by simp) messages
      rw [hstep, hends]
      simp only [sentBody, List.append_nil, BodyEnd.phase]
      exact ⟨fun h => absurd hbody (Nat.not_le.mpr h), fun _ => trivial⟩
    | other type => exact ih body hbody
    | request chunk moreBody =>
      by_cases hover : maxBodyBytes < body.length + chunk.length
      · have hstep : BodyLimit.step maxBodyBytes ⟨body, .reading⟩ (.request chunk moreBody) = ⟨body, .rejected⟩ := by
          simp [BodyLimit.step, hover]
        have hlong : maxBodyBytes < (body ++ (sentBody (.request chunk moreBody :: messages)).1).length := by
          cases moreBody <;> simp [sentBody] <;> omega
        have hends : run (BodyLimit.step maxBodyBytes) ⟨body, .rejected⟩ messages = ⟨body, .rejected⟩ :=
          BodyLimit.run_ended (by simp) messages
        rw [hstep, hends]
        exact ⟨fun _ => ⟨rfl, hbody⟩, fun h => absurd hlong (Nat.not_lt.mpr h)⟩
      · cases moreBody with
        | true =>
          have hstep : BodyLimit.step maxBodyBytes ⟨body, .reading⟩ (.request chunk true) = ⟨body ++ chunk, .reading⟩ := by
            simp [BodyLimit.step, hover]
          have hsent : body ++ (sentBody (.request chunk true :: messages)).1 =
              (body ++ chunk) ++ (sentBody messages).1 := by simp [sentBody]
          have hend : (sentBody (.request chunk true :: messages)).2 = (sentBody messages).2 := rfl
          rw [hstep, hsent, hend]
          exact ih (body ++ chunk) (by simp only [List.length_append]; omega)
        | false =>
          have hstep : BodyLimit.step maxBodyBytes ⟨body, .reading⟩ (.request chunk false) = ⟨body ++ chunk, .passed⟩ := by
            simp [BodyLimit.step, hover]
          have hfits : (body ++ chunk).length ≤ maxBodyBytes := by
            simp only [List.length_append]
            omega
          have hends : run (BodyLimit.step maxBodyBytes) ⟨body ++ chunk, .passed⟩ messages = ⟨body ++ chunk, .passed⟩ :=
            BodyLimit.run_ended (by simp) messages
          rw [hstep, hends]
          exact ⟨fun h => absurd hfits (Nat.not_le.mpr h), fun _ => rfl⟩

/-- Guards one behind the other, each of which replays what it has read. -/
def throughGuards (calls : ℕ) : ℕ → List ReceiveMessage → Option (List ReceiveMessage)
  | 0, messages => some messages
  | guards + 1, messages =>
    (readRequestBody messages).bind fun body => throughGuards calls guards (replayReceive body calls)

/-- Who reads behind the guards reads what the first of them did. -/
lemma readRequestBody_throughGuards {messages : List ReceiveMessage} {body : List UInt8}
    (h : readRequestBody messages = some body) (calls guards : ℕ) :
    (throughGuards calls guards messages).bind readRequestBody = some body := by
  induction guards generalizing messages with
  | zero => exact h
  | succ guards ih =>
    unfold throughGuards
    rw [h]
    exact ih rfl

/-- However the client cuts up its body: the middleware never holds more than the limit, refuses the request exactly if
more is declared or sent, and otherwise has what was sent; the application, behind any number of guards, reads those
bytes if they are complete, none if the client has gone, and is not called before. -/
theorem bodies_pass_whole_and_bounded (maxBodyBytes : ℤ) (contentLength : Option ℕ) (messages : List ReceiveMessage)
    (calls guards : ℕ) :
    let limit := (max 1 maxBodyBytes).toNat
    let s := requestBodyLimit maxBodyBytes contentLength messages
    let seen := ((s.replay calls).bind (throughGuards calls guards)).bind readRequestBody
    s.body.length ≤ limit ∧
      (s.phase = .rejected ↔ contentLength.any (limit < ·) = true ∨ limit < (sentBody messages).1.length) ∧
      (s.phase ≠ .rejected → s = ⟨(sentBody messages).1, (sentBody messages).2.phase⟩) ∧
      (s.phase = .passed →
        readRequestBody messages = some (sentBody messages).1 ∧ seen = some (sentBody messages).1) ∧
      (s.phase = .disconnected → seen = some []) ∧ (s.phase = .rejected ∨ s.phase = .reading → seen = none) := by
  dsimp only
  generalize hlimit : (max 1 maxBodyBytes).toNat = limit
  have hpositive : ([] : List UInt8).length ≤ limit := Nat.zero_le _
  have hseen : ∀ s : BodyLimit, s.phase = .rejected ∨ s.phase = .reading →
      ((s.replay calls).bind (throughGuards calls guards)).bind readRequestBody = none := by
    intro s h
    have hnone : s.replay calls = none := by
      cases h with
      | inl hrejected => simp [BodyLimit.replay, hrejected]
      | inr hreading => simp [BodyLimit.replay, hreading]
    rw [hnone]
    rfl
  by_cases hdeclared : contentLength.any (limit < ·) = true
  · have hs : requestBodyLimit maxBodyBytes contentLength messages = { phase := .rejected } := by
      unfold requestBodyLimit
      dsimp only
      rw [hlimit, if_pos hdeclared]
    rw [hs]
    exact ⟨Nat.zero_le _, ⟨fun _ => .inl hdeclared, fun _ => rfl⟩, fun h => absurd rfl h, nofun, nofun, hseen _⟩
  · have hs : requestBodyLimit maxBodyBytes contentLength messages = run (BodyLimit.step limit) {} messages := by
      unfold requestBodyLimit
      dsimp only
      rw [hlimit, if_neg hdeclared]
    obtain ⟨hlong, hfits⟩ := BodyLimit.run_reading messages [] hpositive
    rw [List.nil_append] at hlong hfits
    rw [hs]
    by_cases hover : limit < (sentBody messages).1.length
    · obtain ⟨hrejected, hheld⟩ := hlong hover
      refine ⟨hheld, ⟨fun _ => .inr hover, fun _ => hrejected⟩, fun h => absurd hrejected h, ?_, ?_, hseen _⟩
      · intro hpassed
        exact absurd (hpassed.symm.trans hrejected) nofun
      · intro hgone
        exact absurd (hgone.symm.trans hrejected) nofun
    · have hrun := hfits (Nat.le_of_not_lt hover)
      rw [hrun]
      refine ⟨Nat.le_of_not_lt hover, ⟨?_, ?_⟩, fun _ => rfl, ?_, ?_, hseen _⟩
      · intro hrejected
        cases hend : (sentBody messages).2 <;> rw [hend] at hrejected <;> cases hrejected
      · intro h
        exact absurd h (not_or.mpr ⟨hdeclared, hover⟩)
      · intro hpassed
        have hcomplete : (sentBody messages).2 = .complete := by
          cases hend : (sentBody messages).2 with
          | complete => rfl
          | _ =>
            rw [hend] at hpassed
            cases hpassed
        refine ⟨readRequestBody_complete messages hcomplete, ?_⟩
        rw [hcomplete]
        exact readRequestBody_throughGuards rfl calls guards
      · intro hgone
        have hdisconnected : (sentBody messages).2 = .disconnected := by
          cases hend : (sentBody messages).2 with
          | disconnected => rfl
          | _ =>
            rw [hend] at hgone
            cases hgone
        rw [hdisconnected]
        exact readRequestBody_throughGuards rfl calls guards

end Bodies

end NimHunt
