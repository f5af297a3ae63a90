import NimHunt.Lib.Runs

/-!
# Progress

A measure that every effective step lowers, and somebody who can go on until the end: taking turns then gets there.
-/

namespace NimHunt.Lib

section Progress

variable {σ α : Type*} {step : σ → α → σ} {measure : σ → ℕ}

/-- No run raises a measure that every effective step lowers. -/
lemma run_measure_le (hlowers : ∀ s a, step s a ≠ s → measure (step s a) < measure s) (s : σ) (as : List α) :
    measure (run step s as) ≤ measure s := by
  induction as generalizing s with
  | nil => exact Nat.le_refl _
  | cons a as ih =>
    by_cases hsame : step s a = s
    · rw [run_cons, hsame]
      exact ih s
    · exact Nat.le_trans (ih (step s a)) (Nat.le_of_lt (hlowers s a hsame))

/-- A run with an action that is effective at its start lowers it. -/
lemma run_measure_lt (hlowers : ∀ s a, step s a ≠ s → measure (step s a) < measure s) {s : σ} {as : List α}
    (hmoves : ∃ a ∈ as, step s a ≠ s) : measure (run step s as) < measure s := by
  induction as with
  | nil =>
    obtain ⟨a, hmem, -⟩ := hmoves
    cases hmem
  | cons a as ih =>
    by_cases hsame : step s a = s
    · rw [run_cons, hsame]
      apply ih
      obtain ⟨b, hmem, hb⟩ := hmoves
      refine ⟨b, (List.mem_cons.mp hmem).resolve_left ?_, hb⟩
      rintro rfl
      exact hb hsame
    · exact Nat.lt_of_le_of_lt (run_measure_le hlowers _ as) (hlowers s a hsame)

/-- The progress rule: as long as somebody who has a turn in each round can go on, as many rounds as the measure says
come to the end, whatever else happens in them. -/
theorem run_rounds {Inv ended : σ → Prop} {turns : List α}
    (hlowers : ∀ s a, step s a ≠ s → measure (step s a) < measure s)
    (hpreserved : ∀ s a, Inv s → Inv (step s a)) (hstays : ∀ s a, ended s → ended (step s a))
    (hmoves : ∀ s, Inv s → ended s ∨ ∃ a ∈ turns, step s a ≠ s) {s : σ} (hinit : Inv s) {rounds : List (List α)}
    (hfair : ∀ round ∈ rounds, turns ⊆ round) (henough : measure s ≤ rounds.length) :
    ended (run step s rounds.flatten) := by
  have hends : ∀ {s : σ} (as : List α), ended s → ended (run step s as) := fun {s} as h =>
    run_invariant (fun s a _ => hstays s a) (admissible_true s as) h
  induction rounds generalizing s with
  | nil =>
    rcases hmoves s hinit with hend | ⟨a, -, ha⟩
    · exact hends _ hend
    · have hlower := hlowers s a ha
      rw [List.length_nil] at henough
      omega
  | cons round rounds ih =>
    rw [List.flatten_cons, run_append]
    rcases hmoves s hinit with hend | ⟨a, hturn, ha⟩
    · exact hends _ (hends round hend)
    · have hlower := run_measure_lt hlowers ⟨a, hfair round List.mem_cons_self hturn, ha⟩
      have hinv : Inv (run step s round) :=
        run_invariant (fun s a _ => hpreserved s a) (admissible_true s round) hinit
      rw [List.length_cons] at henough
      exact ih hinv (fun other hother => hfair other (List.mem_cons_of_mem round hother)) (by omega)

end Progress

end NimHunt.Lib
