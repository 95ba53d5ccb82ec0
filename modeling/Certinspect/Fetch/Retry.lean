/-
**Retrying, `retry_network` in `fetch.py`.**

The loop counts the retries down to zero and singles out its last pass by a comparison. It says nothing
about a loop without a pass: a negative number of retries makes no call and returns `None`.

* `rangeDown`, `attempts`, `retry` — the code, for any call and any pause.
* `retryNetwork_eq` — the function that the inspection uses is this one, its result unpacked.
* `serve`, `ran` — a call with given outcomes, and what a run of the code makes of it.
* `ExactRetrying` — what retrying is to do.
* `ran_attempts` — a countdown from a natural number, by induction on it.
* **`retry_exact`** — retrying is exact for exactly the numbers that are not negative.
-/

import Certinspect.Fetch.Handshake

namespace Certinspect.Fetch

open Library

/-! ### The code -/

/-- `range(start, stop, -1)`. -/
def rangeDown (start stop : Int) : List Int :=
  (List.range (start - stop).toNat).map fun i : Nat => start - (i : Int)

/-- The errors after which there is another attempt. -/
def transientClasses : List ExcClass := [.timeoutError, .connectionError, .gaierror]

section Code

variable {σ α : Type} (call : Py σ α) (sleep : Py σ Unit)

/-- The passes of the loop; without one that returns or raises, the result is `None`. -/
def attempts : List Int → Py σ (Option α)
  | [] => pure none
  | remaining :: rest => do
    match ← except transientClasses call with
    | .ok value => pure (some value)
    | .error err =>
      if remaining = 0 then throw err
      else do
        sleep
        attempts rest

/-- `retry_network`. -/
def retry (retries : Int) : Py σ (Option α) := attempts call sleep (rangeDown retries (-1))

/-- The caller unpacks the result as a tuple. -/
def unpacked (found : Option α) : Py σ α :=
  match found with
  | some value => pure value
  | none => throw unpackNone

variable {call sleep} {s after : σ} {value : α} {err : PyErr} {remaining : Int} {rest : List Int}

/-- A pass whose call returns. -/
theorem attempts_returned (returned : call s = .ok value after) :
    attempts call sleep (remaining :: rest) s = .ok (some value) after := by
  show (except transientClasses call >>= _) s = _
  unfold except
  rw [run_bind, run_caught_ok returned]
  rfl

/-- A pass whose call raises. -/
theorem attempts_raised (raised : call s = .error err after) :
    attempts call sleep (remaining :: rest) s =
      if err.isA transientClasses = true ∧ remaining ≠ 0 then
        (sleep >>= fun _ => attempts call sleep rest) after
      else .error err after := by
  show (except transientClasses call >>= _) s = _
  unfold except
  rw [run_bind, run_caught_error raised]
  by_cases transient : err.isA transientClasses = true
  · rw [if_pos transient]
    by_cases last : remaining = 0
    · rw [if_neg fun both => both.2 last]
      dsimp only
      rw [if_pos last]
      rfl
    · rw [if_pos ⟨transient, last⟩]
      dsimp only
      rw [if_neg last]
  · rw [if_neg transient, if_neg fun both => transient both.1]

end Code

theorem rangeDown_neg {retries : Int} (negative : retries < 0) : rangeDown retries (-1) = [] := by
  have none : (retries - -1).toNat = 0 := by omega
  unfold rangeDown
  rw [none]
  rfl

theorem rangeDown_zero : rangeDown ((0 : Nat) : Int) (-1) = [0] := rfl

theorem rangeDown_succ (n : Nat) :
    rangeDown ((n + 1 : Nat) : Int) (-1) = ((n + 1 : Nat) : Int) :: rangeDown (n : Int) (-1) := by
  have more : (((n + 1 : Nat) : Int) - -1).toNat = ((n : Int) - -1).toNat + 1 := by omega
  unfold rangeDown
  rw [more, List.range_succ_eq_map, List.map_cons, List.map_map]
  refine congrArg₂ List.cons (by omega) (List.map_congr_left fun i _ => ?_)
  show ((n + 1 : Nat) : Int) - ((i + 1 : Nat) : Int) = (n : Int) - (i : Int)
  omega

/-! ### The function of the inspection -/

section Network

variable {ω : Type} {α : Type}

/-- One more attempt of the inspection's loop, after a call that raises. -/
theorem retryLoop_raised {call : Py (World ω) α} {w after : World ω} {err : PyErr} (n : Nat)
    (raised : call w = .error err after) :
    retryLoop call (n + 1) w =
      if err.isA transientClasses = true then (log .slept >>= fun _ => retryLoop call n) after
      else .error err after := by
  show (except transientClasses call >>= _) w = _
  unfold except
  rw [run_bind, run_caught_error raised]
  by_cases transient : err.isA transientClasses = true
  · rw [if_pos transient, if_pos transient]
  · rw [if_neg transient, if_neg transient]

theorem attempts_unpacked (call : Py (World ω) α) (n : Nat) (w : World ω) :
    (attempts call (log .slept) (rangeDown n (-1)) >>= unpacked) w = retryLoop call n w := by
  induction n generalizing w with
  | zero =>
    show _ = call w
    rw [rangeDown_zero, run_bind]
    cases called : call w with
    | ok value after => rw [attempts_returned called]; rfl
    | error err after => rw [attempts_raised called, if_neg fun both => both.2 rfl]
  | succ n ih =>
    have more : ((n + 1 : Nat) : Int) ≠ 0 := by omega
    rw [rangeDown_succ, run_bind]
    cases called : call w with
    | ok value after =>
      rw [attempts_returned called]
      show _ = (except transientClasses call >>= _) w
      unfold except
      rw [run_bind, run_caught_ok called]
      rfl
    | error err after =>
      rw [attempts_raised called, retryLoop_raised n called]
      by_cases transient : err.isA transientClasses = true
      · rw [if_pos ⟨transient, more⟩, if_pos transient]
        exact ih _
      · rw [if_neg transient, if_neg fun both => transient both.1]

/-- **The inspection retries by this loop and unpacks its result.** -/
theorem retryNetwork_eq (call : Py (World ω) α) (retries : Int) :
    retryNetwork call retries = retry call (log .slept) retries >>= unpacked := by
  unfold retryNetwork retry
  by_cases negative : retries < 0
  · rw [if_pos negative, rangeDown_neg negative]
    rfl
  · obtain ⟨n, rfl⟩ := Int.eq_ofNat_of_zero_le (Int.not_lt.mp negative)
    rw [if_neg negative, Int.toNat_natCast]
    exact (funext fun w => attempts_unpacked call n w).symm

end Network

/-! ### What retrying is to do -/

section Exact

variable {α : Type}

/-- A call whose outcomes are given; the state counts the calls. -/
def serve (outcomes : Nat → Except PyErr α) : Py Nat α := fun calls =>
  match outcomes calls with
  | .ok value => .ok value (calls + 1)
  | .error err => .error err (calls + 1)

/-- What a run returns or raises, and the state after it. -/
def ran {σ β : Type} (x : Py σ β) (s : σ) : Except PyErr β × σ :=
  match x s with
  | .ok value after => (.ok value, after)
  | .error err after => (.error err, after)

/-- A transient error. -/
def Transient (outcome : Except PyErr α) : Prop :=
  ∃ err, outcome = .error err ∧ err.isA transientClasses = true

/-- Some calls are made, no more than allowed; all but the last end in a transient error, the last one
does only when no further call is allowed; and its outcome is the result. -/
structure ExactRetrying (outcomes : Nat → Except PyErr α) (retries : Int)
    (result : Except PyErr (Option α)) (calls : Nat) : Prop where
  some : 1 ≤ calls
  bounded : (calls : Int) ≤ max retries 0 + 1
  stops : ∀ i, i + 1 < calls → Transient (outcomes i)
  exhausted : Transient (outcomes (calls - 1)) → (calls : Int) = max retries 0 + 1
  result : result = (outcomes (calls - 1)).map Option.some

variable {outcomes : Nat → Except PyErr α}

/-- The last pass of the loop: its call does not end in a transient error, or it is the one at zero. -/
theorem ran_attempts_last {remaining : Int} {rest : List Int} {calls : Nat}
    (last : Transient (outcomes calls) → remaining = 0) :
    ran (attempts (serve outcomes) (pure ()) (remaining :: rest)) calls =
      ((outcomes calls).map Option.some, calls + 1) := by
  unfold ran
  cases ended : outcomes calls with
  | ok value =>
    have served : serve outcomes calls = .ok value (calls + 1) := by simp [serve, ended]
    rw [attempts_returned served]
    rfl
  | error err =>
    have served : serve outcomes calls = .error err (calls + 1) := by simp [serve, ended]
    rw [attempts_raised served, if_neg fun both => both.2 (last ⟨err, ended, both.1⟩)]
    rfl

/-- Another pass of the loop: its call ends in a transient error. -/
theorem ran_attempts_next {remaining : Int} {rest : List Int} {calls : Nat}
    (transient : Transient (outcomes calls)) (more : remaining ≠ 0) :
    ran (attempts (serve outcomes) (pure ()) (remaining :: rest)) calls =
      ran (attempts (serve outcomes) (pure ()) rest) (calls + 1) := by
  obtain ⟨err, ended, again⟩ := transient
  have served : serve outcomes calls = .error err (calls + 1) := by simp [serve, ended]
  unfold ran
  rw [attempts_raised served, if_pos ⟨again, more⟩]
  rfl

/-- A countdown from `n`, after some calls. -/
theorem ran_attempts (n calls : Nat) : ∃ m ≤ n, (∀ i < m, Transient (outcomes (calls + i))) ∧
    (Transient (outcomes (calls + m)) → m = n) ∧
    ran (attempts (serve outcomes) (pure ()) (rangeDown n (-1))) calls =
      ((outcomes (calls + m)).map Option.some, calls + m + 1) := by
  induction n generalizing calls with
  | zero =>
    refine ⟨0, Nat.le_refl 0, fun i absurd => (by cases absurd), fun _ => rfl, ?_⟩
    rw [rangeDown_zero]
    exact ran_attempts_last fun _ => rfl
  | succ n ih =>
    rw [rangeDown_succ]
    by_cases transient : Transient (outcomes calls)
    · obtain ⟨m, few, before, last, ends⟩ := ih (calls + 1)
      have shift (i : Nat) : calls + 1 + i = calls + (i + 1) := by omega
      rw [shift] at last ends
      refine ⟨m + 1, by omega, ?_, fun failed => congrArg (· + 1) (last failed), ?_⟩
      · intro i earlier
        cases i with
        | zero => exact transient
        | succ i =>
          rw [← shift]
          exact before i (by omega)
      · rw [ran_attempts_next transient (by omega)]
        exact ends
    · refine ⟨0, by omega, fun i absurd => (by cases absurd), fun failed => ?_, ?_⟩
      · exact (transient failed).elim
      · exact ran_attempts_last fun failed => (transient failed).elim

/-- **Retrying is exact for exactly the numbers that are not negative**, whatever the outcomes. -/
theorem retry_exact (outcomes : Nat → Except PyErr α) (retries : Int) :
    ExactRetrying outcomes retries (ran (retry (serve outcomes) (pure ()) retries) 0).1
        (ran (retry (serve outcomes) (pure ()) retries) 0).2 ↔ 0 ≤ retries := by
  by_cases negative : retries < 0
  · refine iff_of_false ?_ (by omega)
    intro exactly
    have none : (ran (retry (serve outcomes) (pure ()) retries) 0).2 = 0 := by
      unfold retry
      rw [rangeDown_neg negative]
      rfl
    have called := exactly.some
    rw [none] at called
    omega
  · obtain ⟨n, rfl⟩ := Int.eq_ofNat_of_zero_le (Int.not_lt.mp negative)
    obtain ⟨m, few, transient, last, ends⟩ := @ran_attempts _ outcomes n 0
    unfold retry
    rw [ends]
    simp only [Nat.zero_add] at transient last ⊢
    refine iff_of_true ⟨by omega, by omega, ?_, ?_, rfl⟩ (by omega)
    · exact fun i earlier => transient i (by omega)
    · intro failed
      have all := last failed
      omega

/-- With a negative number there is no call at all, and the result is `None`. -/
theorem retry_exact_counterexample :
    ran (retry (serve fun _ => (.ok "certificate" : Except PyErr String)) (pure ()) (-1)) 0 =
        (.ok none, 0) ∧
      ¬ ExactRetrying (fun _ => (.ok "certificate" : Except PyErr String)) (-1) (.ok none) 0 := by
  refine ⟨rfl, ?_⟩
  intro exactly
  exact absurd exactly.some (by decide)

end Exact

end Certinspect.Fetch
