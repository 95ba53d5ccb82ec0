/-
**What a batch deserves, and how it exits, `main` in `cli.py`.**

`main` inspects the batch, saves the state, prints the results and exits with the most severe code. An
exception that leaves it ends the process with 1. Here are the batch and its codes, and the exit status of
a run whose saving and printing raise nothing; the whole of `main` is in `Cli.Main`, and what its exit
status has to do with this one in `Cli.Contract`.

* `exitArgument`, `runMain`, `processExit` — the argument of `sys.exit` and what the process exits with.
* `Job` — a work item with the surroundings of its inspection; `Job.codes` — the codes it deserves:
  1 when it could not be inspected, else its findings.
* `collection`, `mostSevere_collection` — the codes of all jobs, and that grouping changes nothing.
* `processExit_of_survived`, `processExit_of_not_survived` — the status is the most severe of them, or the
  1 of an exception that is not survived.
* `mostSevere_collection_iff` — when the most severe of them is 1.
-/

import Certinspect.Cli.Batch
import Certinspect.Cli.Findings

namespace Certinspect.Cli

open Library

/-! ### The end of `main` -/

/-- `_nagios_severity`: 0 is OK, 1 is WARNING, 2 is CRITICAL. -/
def nagiosSeverity : Code → Int
  | .exit .ok => 0
  | .exit .expiring => 1
  | _ => 2

/-- The exit code of `format_nagios`: UNKNOWN without a line, else the worst state. -/
def nagiosCode (report : Report) : Int :=
  if report.results.isEmpty && report.errors.isEmpty then 3
  else
    let inspected := (report.results.map fun result => nagiosSeverity result.code).foldl max 0
    report.errors.foldl (fun worst _ => max worst 2) inspected

/-- What `render` returns: the exit code of the Nagios plugin, or nothing. -/
def renderOverride (args : Args) (report : Report) : Option Int :=
  if args.exporter = some "nagios" then some (nagiosCode report) else none

/-- The argument of `sys.exit`. -/
def exitArgument (args : Args) (report : Report) : Int :=
  if args.exitZero then 0 else (renderOverride args report).getD (mostSevere report.codes).value

/-- `main`, once the targets are collected, as far as nothing is raised behind the inspections. -/
def runMain (urlsplit : String → Except PyErr SplitResult) (args : Args)
    (hostTargets fileTargets : List String) (inspect : Nat → Inspector)
    (schedule : List PoolAction) : Option (Except PyErr Int) :=
  (inspectAll urlsplit args hostTargets fileTargets inspect schedule).map
    (Except.map (exitArgument args))

/-- The status of the process: an exception that leaves `main` ends it with 1. -/
def processExit : Except PyErr Int → Int
  | .ok status => status
  | .error _ => 1

/-! ### What the items of a batch deserve -/

/-- A work item in the surroundings of its inspection. -/
structure Job (ω : Type) where
  item : WorkItem
  place : Surroundings ω

section Jobs

variable (lib : Cryptography) {ω : Type} (urlsplit : String → Except PyErr SplitResult)
  (args : Args) (hostTargets fileTargets : List String) (places : Nat → Surroundings ω)

/-- The jobs of a batch. -/
def jobs : List (Job ω) :=
  (workItems hostTargets fileTargets).mapIdx fun i item => ⟨item, places i⟩

namespace Job

/-- The options that `_inspect` gets. -/
def opts (job : Job ω) : InspectOptions :=
  match job.item with
  | .file path => { InspectOptions.fromArgs args with file := some path }
  | .host _ => .fromArgs args

/-- The target that `_inspect` gets. -/
def target (job : Job ω) : Option String :=
  match job.item with
  | .file _ => none
  | .host raw => ((urlsplit (if occursIn "://" raw then raw else "//" ++ raw)).toOption.map
      fun parts => (given parts.hostname).getD raw)

/-- What becomes of a job. -/
def inspected (job : Job ω) : Inspection := do
  let port ← defaultPort args
  outcomeOf urlsplit (.fromArgs args) port (inspectIn lib job.place) job.item

/-- **The codes a job deserves**: 1 when it could not be inspected, else its findings. -/
def codes (job : Job ω) : List Code :=
  match job.inspected lib urlsplit args with
  | .error _ => [.runtimeError]
  | .ok (info, _) => findings (job.opts args) (job.target urlsplit) job.place.out.today info

/-- The source was inspected and no check failed. -/
def Passed (job : Job ω) : Prop :=
  ∃ info code, job.inspected lib urlsplit args = .ok (info, code) ∧
    Cli.Passed (job.opts args) (job.target urlsplit) job.place.out.today info

/-- If the source was inspected, then with all the checks requested. -/
def Checked (job : Job ω) : Prop :=
  ∀ info code, job.inspected lib urlsplit args = .ok (info, code) →
    Cli.Checked (job.opts args) (job.target urlsplit) info

end Job

/-- The codes of all jobs, in one flat collection. -/
def collection : List Code :=
  (jobs hostTargets fileTargets places).flatMap (Job.codes lib urlsplit args)

end Jobs

/-! ### The codes of a job -/

section Codes

variable {lib : Cryptography} {ω : Type} {urlsplit : String → Except PyErr SplitResult} {args : Args}
  {job : Job ω} {info : CertificateInfo} {code : Code}

theorem splitTarget_host {raw host : String} {port own : Int}
    (split : splitTarget urlsplit raw port = .ok (host, own)) :
    (urlsplit (if occursIn "://" raw then raw else "//" ++ raw)).toOption.map
      (fun parts => (given parts.hostname).getD raw) = some host := by
  obtain ⟨parts, parsed, continued⟩ := bind_ok_iff.mp split
  obtain ⟨port, _, same⟩ := bind_ok_iff.mp continued
  cases same
  rw [parsed]
  rfl

/-- **What `_inspect` returns for a job**: the most severe of its findings, with the requested checks
made. -/
theorem Job.inspected_ok (returned : job.inspected lib urlsplit args = .ok (info, code)) :
    code = mostSevere (findings (job.opts args) (job.target urlsplit) job.place.out.today info) ∧
      Cli.Checked (job.opts args) (job.target urlsplit) info := by
  obtain ⟨item, place⟩ := job
  obtain ⟨port, _, ran⟩ := bind_ok_iff.mp returned
  cases item with
  | file path => exact inspectIn_findings ran
  | host raw =>
    obtain ⟨⟨host, own⟩, split, ranThere⟩ := bind_ok_iff.mp ran
    have named : Job.target urlsplit ⟨.host raw, place⟩ = some host := splitTarget_host split
    rw [named]
    exact inspectIn_findings ranThere

theorem Job.codes_of_ok (returned : job.inspected lib urlsplit args = .ok (info, code)) :
    job.codes lib urlsplit args =
      findings (job.opts args) (job.target urlsplit) job.place.out.today info := by
  unfold Job.codes
  rw [returned]

theorem Job.codes_of_error {err : PyErr} (raised : job.inspected lib urlsplit args = .error err) :
    job.codes lib urlsplit args = [.runtimeError] := by
  unfold Job.codes
  rw [raised]

/-- The exit code of an outcome. -/
def codeOf : Inspection → Code
  | .ok (_, code) => code
  | .error _ => .runtimeError

/-- The code a batch reports for a job is the most severe of those it deserves. -/
theorem Job.codeOf_inspected :
    codeOf (job.inspected lib urlsplit args) = mostSevere (job.codes lib urlsplit args) := by
  cases ended : job.inspected lib urlsplit args with
  | error err =>
    rw [Job.codes_of_error ended]
    rfl
  | ok result =>
    rw [Job.codes_of_ok ended]
    exact (Job.inspected_ok ended).1

/-- **A job has no code but `ok` exactly when it passed.** -/
theorem Job.codes_ok_iff :
    (∀ code ∈ job.codes lib urlsplit args, code = .exit .ok) ↔ job.Passed lib urlsplit args := by
  unfold Job.Passed
  cases ended : job.inspected lib urlsplit args with
  | error err =>
    rw [Job.codes_of_error ended]
    refine ⟨?_, ?_⟩
    · intro clear
      cases clear .runtimeError List.mem_cons_self
    · intro found
      obtain ⟨info, code, absurd, _⟩ := found
      cases absurd
  | ok result =>
    rw [Job.codes_of_ok ended, findings_ok_iff]
    refine ⟨?_, ?_⟩
    · intro passed
      exact ⟨result.1, result.2, rfl, passed⟩
    · intro found
      obtain ⟨info, code, same, passed⟩ := found
      cases same
      exact passed

end Codes

/-! ### The exit status of a batch -/

section Status

variable {lib : Cryptography} {ω : Type} {urlsplit : String → Except PyErr SplitResult} {args : Args}
  {hostTargets fileTargets : List String} {places : Nat → Surroundings ω}

/-- The outcomes of a batch are those of its jobs. -/
theorem outcomes_jobs :
    outcomes urlsplit args hostTargets fileTargets (fun i => inspectIn lib (places i)) =
      (jobs hostTargets fileTargets places).map (Job.inspected lib urlsplit args) := by
  unfold outcomes jobs Job.inspected
  rw [List.mapIdx_eq_zipIdx_map, List.mapIdx_eq_zipIdx_map, List.map_map]
  rfl

/-- The codes of a report that accounts for its outcomes. -/
theorem codes_of_accounts {settled : List Inspection} {report : Report}
    (accounts : Accounts settled report) : report.codes = settled.map codeOf := by
  obtain ⟨entries, accounted, _, _, codes⟩ := accounts
  have same : List.Forall₂ (· = ·) (settled.map codeOf)
      (entries.map (Sum.elim InspectionResult.code fun _ => .runtimeError)) := by
    rw [List.forall₂_map_left_iff, List.forall₂_map_right_iff]
    refine accounted.imp fun outcome entry here => ?_
    cases here <;> rfl
  rw [List.forall₂_eq_eq_eq] at same
  rw [codes, same]

/-- Every entry is on one of the two sides. -/
theorem length_sides {α β : Type} (entries : List (α ⊕ β)) :
    (entries.filterMap Sum.getLeft?).length + (entries.filterMap Sum.getRight?).length =
      entries.length := by
  induction entries with
  | nil => rfl
  | cons entry rest ih =>
    cases entry with
    | inl left =>
      change (rest.filterMap Sum.getLeft?).length + 1 + (rest.filterMap Sum.getRight?).length =
        rest.length + 1
      omega
    | inr right =>
      change (rest.filterMap Sum.getLeft?).length + ((rest.filterMap Sum.getRight?).length + 1) =
        rest.length + 1
      omega

/-- A report has one entry for each outcome. -/
theorem length_of_accounts {settled : List Inspection} {report : Report}
    (accounts : Accounts settled report) :
    report.results.length + report.errors.length = settled.length := by
  obtain ⟨entries, accounted, results, errors, _⟩ := accounts
  rw [results, errors, length_sides, accounted.length_eq]

theorem accounted_of_mem {settled : List Inspection}
    {entries : List (InspectionResult ⊕ (Option String × String))}
    (accounted : List.Forall₂ Accounted settled entries)
    {entry : InspectionResult ⊕ (Option String × String)} (listed : entry ∈ entries) :
    ∃ outcome ∈ settled, Accounted outcome entry := by
  induction accounted with
  | nil => cases listed
  | cons here _ ih =>
    rcases List.mem_cons.mp listed with rfl | later
    · exact ⟨_, List.mem_cons_self, here⟩
    · obtain ⟨outcome, among, there⟩ := ih later
      exact ⟨outcome, List.mem_cons_of_mem _ among, there⟩

/-- A result of a report is an outcome. -/
theorem outcome_of_accounts {settled : List Inspection} {report : Report}
    (accounts : Accounts settled report) {result : InspectionResult}
    (member : result ∈ report.results) : .ok (result.info, result.code) ∈ settled := by
  obtain ⟨entries, accounted, results, _, _⟩ := accounts
  rw [results, List.mem_filterMap] at member
  obtain ⟨entry, listed, left⟩ := member
  rw [Sum.getLeft?_eq_some_iff] at left
  subst left
  obtain ⟨outcome, among, here⟩ := accounted_of_mem accounted listed
  cases here
  exact among

/-- **Grouping by target changes nothing.** -/
theorem mostSevere_collection :
    mostSevere (collection lib urlsplit args hostTargets fileTargets places) =
      mostSevere ((jobs hostTargets fileTargets places).map fun job =>
        mostSevere (job.codes lib urlsplit args)) := by
  unfold collection
  rw [List.flatMap_def, ← mostSevere_flatten, List.map_map]
  rfl

/-- The code of a report is the most severe of all codes. -/
theorem mostSevere_report {report : Report}
    (accounts : Accounts (outcomes urlsplit args hostTargets fileTargets
      fun i => inspectIn lib (places i)) report) :
    mostSevere report.codes =
      mostSevere (collection lib urlsplit args hostTargets fileTargets places) := by
  rw [codes_of_accounts accounts, outcomes_jobs, List.map_map, mostSevere_collection]
  congr 1
  exact List.map_congr_left fun job _ => Job.codeOf_inspected

/-- All exceptions of the jobs are survived. -/
abbrev Survived (lib : Cryptography) (urlsplit : String → Except PyErr SplitResult) (args : Args)
    (hostTargets fileTargets : List String) (places : Nat → Surroundings ω) : Prop :=
  AllSurvived urlsplit args hostTargets fileTargets fun i => inspectIn lib (places i)

section Exit

variable (plain : args.exporter ≠ some "nagios") (honest : args.exitZero = false)

include plain honest in
theorem exitArgument_eq (report : Report) :
    exitArgument args report = (mostSevere report.codes).value := by
  unfold exitArgument renderOverride
  rw [if_neg plain, honest]
  rfl

include plain honest in
/-- A batch whose exceptions are all survived exits with the most severe of all codes. -/
theorem processExit_of_survived (survives : Survived lib urlsplit args hostTargets fileTargets places)
    {workers : Int} {schedule : List PoolAction} {outcome : Except PyErr Int}
    (ran : runMain urlsplit { args with concurrency := workers } hostTargets fileTargets
      (fun i => inspectIn lib (places i)) schedule = some outcome) :
    processExit outcome =
      (mostSevere (collection lib urlsplit args hostTargets fileTargets places)).value := by
  obtain ⟨report, accounts, same⟩ := inspectAll_of_survived survives
  obtain ⟨returned, inspected, rfl⟩ := Option.map_eq_some_iff.mp ran
  rw [same _ _ _ inspected, ← mostSevere_report accounts]
  exact exitArgument_eq plain honest report

/-- A batch with an exception that is not survived exits with 1. -/
theorem processExit_of_not_survived
    (lost : ¬ Survived lib urlsplit args hostTargets fileTargets places)
    {workers : Int} {schedule : List PoolAction} {outcome : Except PyErr Int}
    (ran : runMain urlsplit { args with concurrency := workers } hostTargets fileTargets
      (fun i => inspectIn lib (places i)) schedule = some outcome) :
    processExit outcome = Code.runtimeError.value := by
  obtain ⟨returned, inspected, rfl⟩ := Option.map_eq_some_iff.mp ran
  cases returned with
  | error err => rfl
  | ok report =>
    have survives : AllSurvived urlsplit { args with concurrency := workers } hostTargets fileTargets
      fun i => inspectIn lib (places i) := survived_of_inspectAll inspected
    exact (lost survives).elim

/-- **All codes are `ok` exactly when every job passed.** -/
theorem collection_ok_iff :
    mostSevere (collection lib urlsplit args hostTargets fileTargets places) = .exit .ok ↔
      ∀ job ∈ jobs hostTargets fileTargets places, job.Passed lib urlsplit args := by
  rw [mostSevere_eq_ok_iff]
  unfold collection
  simp only [List.mem_flatMap, forall_exists_index, and_imp, ← Job.codes_ok_iff]
  exact ⟨fun all job member code own => all code job member own,
    fun all code job member own => all job member code own⟩

end Exit

end Status

end Certinspect.Cli
