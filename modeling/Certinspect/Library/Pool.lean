/-
**A pool of workers.**

`total` tasks are handed out in order to at most `workers` workers at a time; a task that is running
may finish at any moment, so the tasks finish in any order. Each result goes to its task's place.

* `Pool.step` — one action of the pool; `runPool` — a schedule of actions.
* `runPool_results` — whatever the schedule, the results in the order of the tasks are the calls in
  that order; `Pool.Inv` is the invariant.
* `runPool_completes` — no schedule gets stuck: with a worker, what is left can be finished.
-/

import Mathlib.Data.List.Range
import Mathlib.Logic.Basic

namespace Certinspect.Library

/-- The state of the pool: how many tasks were handed out, which are running, and the results so far,
latest first. -/
structure Pool (β : Type) where
  started : Nat
  running : List Nat
  finished : List (Nat × β)

/-- What may happen next: a worker takes the next task, or a running task finishes. -/
inductive PoolAction
  | start
  | finish (task : Nat)
  deriving DecidableEq, Repr

section Pool

variable {β : Type} (workers total : Nat) (call : Nat → β)

/-- The pool before its first task. -/
def Pool.empty : Pool β := ⟨0, [], []⟩

/-- One action, when it is possible. -/
def Pool.step (pool : Pool β) : PoolAction → Option (Pool β)
  | .start =>
    if pool.started < total ∧ pool.running.length < workers then
      some { pool with started := pool.started + 1, running := pool.started :: pool.running }
    else none
  | .finish task =>
    if task ∈ pool.running then
      some { pool with
        running := pool.running.erase task
        finished := (task, call task) :: pool.finished }
    else none

/-- A schedule of actions, when each is possible at its turn. -/
def runPool (schedule : List PoolAction) (pool : Pool β) : Option (Pool β) :=
  schedule.foldlM (Pool.step workers total call) pool

/-- Every task was handed out and has finished. -/
def Pool.done (pool : Pool β) : Bool := pool.started == total && pool.running.isEmpty

/-- The results in the order of the tasks. -/
def Pool.results (pool : Pool β) : List β :=
  (List.range total).filterMap fun task => pool.finished.lookup task

/-! ### The results -/

/-- What every reachable pool satisfies: a task handed out is running or has a result, and a result
is that of its task's call. -/
structure Pool.Inv (pool : Pool β) : Prop where
  bounded : pool.started ≤ total
  placed : ∀ task < pool.started, task ∈ pool.running ∨ (pool.finished.lookup task).isSome
  own : ∀ task value, pool.finished.lookup task = some value → value = call task

variable {workers total call}

theorem Pool.inv_empty : (Pool.empty : Pool β).Inv total call where
  bounded := Nat.zero_le total
  placed task early := (Nat.not_lt_zero task early).elim
  own _ _ absurd := by cases absurd

/-- **One action keeps the invariant.** -/
theorem Pool.inv_step {pool next : Pool β} {action : PoolAction} (inv : pool.Inv total call)
    (taken : pool.step workers total call action = some next) : next.Inv total call := by
  cases action with
  | start =>
    simp only [Pool.step, Option.ite_none_right_eq_some, Option.some.injEq] at taken
    obtain ⟨possible, rfl⟩ := taken
    refine ⟨possible.1, fun task early => ?_, inv.own⟩
    by_cases fresh : task = pool.started
    · exact Or.inl (fresh ▸ List.mem_cons_self)
    · have earlier : task < pool.started := by
        change task < pool.started + 1 at early
        omega
      exact (inv.placed task earlier).imp_left (List.mem_cons_of_mem _)
  | finish done =>
    simp only [Pool.step, Option.ite_none_right_eq_some, Option.some.injEq] at taken
    obtain ⟨_, rfl⟩ := taken
    refine ⟨inv.bounded, fun task early => ?_, fun task value found => ?_⟩
    · by_cases same : task = done
      · right
        rw [same, List.lookup_cons_self]
        rfl
      · have elsewhere : ((done, call done) :: pool.finished).lookup task =
            pool.finished.lookup task := by
          rw [List.lookup_cons, beq_eq_false_iff_ne.mpr same]
        rw [elsewhere]
        exact (inv.placed task early).imp_left (List.mem_erase_of_ne same).mpr
    · rw [List.lookup_cons] at found
      by_cases same : task = done
      · rw [same, beq_self_eq_true] at found
        cases found
        rw [same]
      · rw [beq_eq_false_iff_ne.mpr same] at found
        exact inv.own task value found

/-- Every schedule keeps the invariant; the induction is on the actions. -/
theorem Pool.inv_runPool {schedule : List PoolAction} {pool final : Pool β}
    (inv : pool.Inv total call) (ran : runPool workers total call schedule pool = some final) :
    final.Inv total call := by
  induction schedule generalizing pool with
  | nil =>
    cases ran
    exact inv
  | cons action rest ih =>
    unfold runPool at ran
    rw [List.foldlM_cons, Option.bind_eq_bind, Option.bind_eq_some_iff] at ran
    obtain ⟨next, taken, continued⟩ := ran
    exact ih (Pool.inv_step inv taken) continued

/-- The results of a pool that is done, in the order of the tasks. -/
theorem Pool.results_of_done {pool : Pool β} (inv : pool.Inv total call)
    (done : pool.done total = true) : pool.results total = (List.range total).map call := by
  unfold Pool.done at done
  rw [Bool.and_eq_true, beq_iff_eq, List.isEmpty_iff] at done
  obtain ⟨allStarted, noneRunning⟩ := done
  have place : ∀ task ∈ List.range total, pool.finished.lookup task = some (call task) := by
    intro task member
    have early : task < pool.started := by
      rw [allStarted]
      exact List.mem_range.mp member
    rcases inv.placed task early with running | finished
    · rw [noneRunning] at running
      cases running
    · obtain ⟨value, found⟩ := Option.isSome_iff_exists.mp finished
      rw [found, inv.own task value found]
  unfold Pool.results
  rw [List.filterMap_congr place, List.filterMap_eq_map']

/-- **Whatever the schedule, the results are the calls in the order of the tasks.** -/
theorem runPool_results {schedule : List PoolAction} {final : Pool β}
    (ran : runPool workers total call schedule Pool.empty = some final)
    (done : final.done total = true) : final.results total = (List.range total).map call :=
  Pool.results_of_done (Pool.inv_runPool Pool.inv_empty ran) done

/-! ### Progress -/

/-- How many actions are left at most. -/
def Pool.left (total : Nat) (pool : Pool β) : Nat :=
  2 * (total - pool.started) + pool.running.length

/-- A pool with a worker that is not done can act, and each action leaves fewer. -/
theorem Pool.exists_step (working : 0 < workers) {pool : Pool β} (bounded : pool.started ≤ total)
    (going : pool.done total = false) :
    ∃ action next, pool.step workers total call action = some next ∧
      next.left total < pool.left total := by
  cases running : pool.running with
  | nil =>
    have unfinished : pool.started ≠ total := by
      intro same
      unfold Pool.done at going
      rw [same, running] at going
      simp at going
    have possible : pool.started < total ∧ pool.running.length < workers := by
      rw [running]
      exact ⟨lt_of_le_of_ne bounded unfinished, working⟩
    refine ⟨.start, _, if_pos possible, ?_⟩
    unfold Pool.left
    simp only [List.length_cons]
    omega
  | cons task rest =>
    have here : task ∈ pool.running := by
      rw [running]
      exact List.mem_cons_self
    refine ⟨.finish task, _, if_pos here, ?_⟩
    unfold Pool.left
    simp only [running, List.erase_cons_head, List.length_cons]
    omega

/-- **No schedule gets stuck**: what a schedule has left undone can be completed. -/
theorem runPool_completes (working : 0 < workers) {schedule : List PoolAction} {pool : Pool β}
    (ran : runPool workers total call schedule Pool.empty = some pool) :
    ∃ rest final, runPool workers total call (schedule ++ rest) Pool.empty = some final ∧
      final.done total = true := by
  induction left : pool.left total using Nat.strong_induction_on generalizing schedule pool with
  | _ bound ih =>
    cases going : pool.done total with
    | true => exact ⟨[], pool, by rw [List.append_nil]; exact ran, going⟩
    | false =>
      have inv := Pool.inv_runPool Pool.inv_empty ran
      have possible : ∃ action next, pool.step workers total call action = some next ∧
          next.left total < pool.left total := Pool.exists_step working inv.bounded going
      obtain ⟨action, next, taken, fewer⟩ := possible
      have extended : runPool workers total call (schedule ++ [action]) Pool.empty = some next := by
        unfold runPool at ran ⊢
        rw [List.foldlM_append, ran]
        simp [taken]
      obtain ⟨rest, final, complete, closed⟩ := ih _ (left ▸ fewer) extended rfl
      refine ⟨action :: rest, final, ?_, closed⟩
      rw [List.append_cons]
      exact complete

end Pool

end Certinspect.Library
