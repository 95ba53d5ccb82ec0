/-
**Runs of a labelled transition system.**

`Runs step s actions t` says that the actions, taken one after the other, lead from `s` to `t`.
Interleavings of several threads are the runs of a system whose actions are the threads' steps.

* `Runs.invariant` — the one induction: what the first state satisfies and every step preserves
  holds in every state reached.
-/

import Mathlib.Logic.Basic

namespace Certinspect.Library

section Runs

variable {σ α : Type} {step : σ → α → σ → Prop}

/-- The actions lead from the first state to the second. -/
inductive Runs (step : σ → α → σ → Prop) : σ → List α → σ → Prop
  | nil (s : σ) : Runs step s [] s
  | cons {s t u : σ} {action : α} {actions : List α} :
      step s action t → Runs step t actions u → Runs step s (action :: actions) u

theorem Runs.invariant {holds : σ → Prop} {s t : σ} {actions : List α}
    (run : Runs step s actions t) (start : holds s)
    (preserved : ∀ s action t, holds s → step s action t → holds t) : holds t := by
  induction run with
  | nil s => exact start
  | cons taken _ ih => exact ih (preserved _ _ _ start taken)

end Runs

end Certinspect.Library
