import Mathlib.Tactic.Common

/-!
# Runs of a deterministic system

A system is a step function `step : σ → α → σ`: every external choice (an input, a random
draw, the answer of a remote party, the passing of time) is part of the action `α`, and an
action the system refuses leaves the state as it was.  A run is a list of actions.
-/

namespace NimHunt.Lib

section Runs

variable {σ α : Type*} (step : σ → α → σ)

/-- The state a list of actions leads to. -/
def run (s : σ) : List α → σ
  | [] => s
  | a :: as => run (step s a) as

/-- Every step of the run meets `guard`, read in the state the step starts from. -/
def Admissible (guard : σ → α → Prop) (s : σ) : List α → Prop
  | [] => True
  | a :: as => guard s a ∧ Admissible guard (step s a) as

variable {step}

@[simp] lemma run_nil (s : σ) : run step s [] = s := rfl

@[simp] lemma run_cons (s : σ) (a : α) (as : List α) :
    run step s (a :: as) = run step (step s a) as := rfl

lemma run_append (s : σ) (as bs : List α) :
    run step s (as ++ bs) = run step (run step s as) bs := by
  induction as generalizing s with
  | nil => rfl
  | cons a as ih => exact ih (step s a)

/-- The invariant rule: what every admitted step preserves holds after every admitted run. -/
theorem run_invariant {guard : σ → α → Prop} {Inv : σ → Prop}
    (preserved : ∀ s a, guard s a → Inv s → Inv (step s a))
    {s : σ} {as : List α} (hadm : Admissible step guard s as) (hinit : Inv s) :
    Inv (run step s as) := by
  induction as generalizing s with
  | nil => exact hinit
  | cons a as ih =>
    obtain ⟨hguard, hrest⟩ := hadm
    exact ih hrest (preserved s a hguard hinit)

lemma admissible_true (s : σ) (as : List α) : Admissible step (fun _ _ => True) s as := by
  induction as generalizing s with
  | nil => trivial
  | cons a as ih => exact ⟨trivial, ih (step s a)⟩

lemma admissible_append {guard : σ → α → Prop} {s : σ} {as bs : List α} :
    Admissible step guard s (as ++ bs) ↔ Admissible step guard s as ∧ Admissible step guard (run step s as) bs := by
  induction as generalizing s with
  | nil => exact ⟨fun h => ⟨trivial, h⟩, And.right⟩
  | cons a as ih => exact (and_congr_right' ih).trans and_assoc.symm

/-- What an invariant gives at every step, it gives in every admitted run. -/
theorem admissible_of_invariant {guard fact : σ → α → Prop} {Inv : σ → Prop}
    (preserved : ∀ s a, guard s a → Inv s → fact s a ∧ Inv (step s a))
    {s : σ} {as : List α} (hadm : Admissible step guard s as) (hinit : Inv s) : Admissible step fact s as := by
  induction as generalizing s with
  | nil => trivial
  | cons a as ih =>
    obtain ⟨hguard, hrest⟩ := hadm
    obtain ⟨hfact, hnext⟩ := preserved s a hguard hinit
    exact ⟨hfact, ih hrest hnext⟩

lemma Admissible.and {guard guard' : σ → α → Prop} {s : σ} {as : List α} (h : Admissible step guard s as)
    (h' : Admissible step guard' s as) : Admissible step (fun s a => guard s a ∧ guard' s a) s as := by
  induction as generalizing s with
  | nil => trivial
  | cons a as ih => exact ⟨⟨h.1, h'.1⟩, ih h.2 h'.2⟩

lemma admissible_of_forall {guard : σ → α → Prop} {as : List α} (h : ∀ a ∈ as, ∀ s, guard s a) (s : σ) :
    Admissible step guard s as := by
  induction as generalizing s with
  | nil => trivial
  | cons a as ih =>
    have hhead := h a List.mem_cons_self s
    exact ⟨hhead, ih (fun b hb => h b (List.mem_cons_of_mem a hb)) (step s a)⟩

end Runs

end NimHunt.Lib
