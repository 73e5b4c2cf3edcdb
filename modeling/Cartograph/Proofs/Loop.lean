import Mathlib.Data.Option.Basic

/-!
# Loops

A loop goes on from state to state until there is no next state, and the last state has its result.
What a loop does is told by the relation `Ends`, which no endless loop is in, so no bound on the
number of steps is needed to speak about it.
-/

namespace Cartograph.Loop

variable {σ β : Type} {next? : σ → Option σ} {result : σ → β} {s : σ} {b c : β}

/-- The loop ends after finitely many steps, with the result of its last state. -/
inductive Ends (next? : σ → Option σ) (result : σ → β) : σ → β → Prop
  | done {s : σ} (stop : next? s = none) : Ends next? result s (result s)
  | step {s s' : σ} {b : β} (step : next? s = some s') (rest : Ends next? result s' b) :
    Ends next? result s b

lemma Ends.unique (hb : Ends next? result s b) (hc : Ends next? result s c) : b = c := by
  induction hb with
  | done stop =>
    cases hc with
    | done _ => rfl
    | step step _ => simp [stop] at step
  | step step _ ih =>
    cases hc with
    | done stop => simp [step] at stop
    | step step' rest =>
      obtain rfl := Option.some.inj (step.symm.trans step')
      exact ih rest

/-- A loop that ends has one result. -/
lemma Ends.iff_eq (hb : Ends next? result s b) : Ends next? result s c ↔ c = b := by
  constructor
  · intro hc
    exact hc.unique hb
  · rintro rfl
    exact hb

end Cartograph.Loop
