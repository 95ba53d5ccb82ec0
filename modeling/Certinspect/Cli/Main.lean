/-
**A run of the program, `main` in `cli.py`.**

The parsed command line is checked, the targets are collected and inspected, the state is updated, the
results are rendered, and the process exits; or the inventory of `--discover-only` is printed, or before all
of it a completion script. What a run prints, what it leaves in the state file and its exit status are all of
them here.

* `MainArgs`, `validateArgs`, `finish`, `main` — the code. `Finished.status` — the exit status.
* `InspectsTargets` — a run that prints neither a script nor an inventory.
* `main_ran` — a run that inspects targets stops early, or finishes with a report.
* `toldStatus` — the exit status, as the JSON and the error lines tell it.
* **`main_told`** — a run with `--json` exits with the status that it tells, or has printed nothing.
* **`main_revocation`** — a run with `--require-revocation-check` that exits with 0 has secured every
  target.
-/

import Certinspect.Cli.Assured
import Certinspect.Cli.Series
import Certinspect.Completion
import Certinspect.Formatter.Inventory
import Certinspect.Render
import Certinspect.State

namespace Certinspect.Cli

open Library Formatter Render State

/-! ### The command line -/

/-- The parsed command line, with the profile merged into it. -/
structure MainArgs extends TargetArgs where
  printCompletion : Option String := none
  discoverOnly : Bool := false
  expectIssuer : List String := []
  stateFile : Option String := none
  onlyChanged : Bool := false
  asJson : Bool := false
  asCsv : Bool := false
  csvDelimiter : String := ","
  schema : Int := 2
  fields : List String := []
  quiet : Bool := false
  maxDays : Option Int := none
  sort : Option SortKey := none
  summary : Bool := false

/-- The combinations that `_validate_args` rejects, with their messages, in its order. -/
def misuses (args : MainArgs) : List (Bool × String) :=
  let file := !args.files.isEmpty
  [(args.csvDelimiter.length != 1, "--csv-delimiter must be a single character."),
    (args.criticalDays.any fun critical => args.days < critical,
      "--critical-days must be less than or equal to --days."),
    (((given args.cafile).isSome || (given args.capath).isSome) && !args.verify,
      "--cafile/--capath cannot be combined with --no-verify."),
    ((given args.servername).isSome && file, "--servername applies to host targets, not --file."),
    ((given args.minTlsVersion).isSome && file,
      "--min-tls-version applies to host targets, not --file."),
    (args.requireRevocationCheck && file,
      "--require-revocation-check applies to host targets, not --file."),
    (args.requireRevocationCheck && !args.verify,
      "--require-revocation-check cannot be combined with --no-verify."),
    ((given args.clientKey).isSome && (given args.clientCert).isNone,
      "--client-key requires --client-cert."),
    ((given args.proxy).isSome && args.noProxy, "--proxy and --no-proxy are mutually exclusive."),
    (((given args.clientCert).isSome || (given args.proxy).isSome || args.noProxy) && file,
      "--client-cert/--proxy/--no-proxy apply to host targets, not --file."),
    (!args.discover.isEmpty && file, "--discover applies to host targets, not --file."),
    (args.discoverOnly && args.discover.isEmpty, "--discover-only requires --discover."),
    (!args.expectIssuer.isEmpty && !args.discoverOnly, "--expect-issuer requires --discover-only."),
    (args.onlyChanged && (given args.stateFile).isNone, "--only-changed requires --state-file."),
    ((given args.stateFile).isSome && file, "--state-file applies to host targets, not --file.")]

/-- `_validate_args`. -/
def validateArgs (args : MainArgs) : Except Stop Unit :=
  match (misuses args).find? Prod.fst with
  | some misuse => .error (.usage misuse.2)
  | none => .ok ()

/-- `OutputOptions.from_args`. -/
def outputOptions (args : MainArgs) : Render.OutputOptions where
  days := args.days
  criticalDays := args.criticalDays
  asJson := args.asJson
  asCsv := args.asCsv
  csvDelimiter := args.csvDelimiter
  schema := args.schema
  exporter := args.exporter
  fields := args.fields
  quiet := args.quiet
  maxDays := args.maxDays
  sort := args.sort
  summary := args.summary

/-! ### A run -/

/-- What a run meets: the help texts of its options, where targets come from, the inspections, the schedules
of the lookups and of the inspections, and how the writing of the state file ends. -/
structure Session where
  help : String → Option String
  sources : TargetSources
  inspect : Nat → Inspector
  lookups : List PoolAction
  inspections : List PoolAction
  write : WriteOutcome
  writeError : String

/-- What a run has printed, and how it ended: with an argument of `sys.exit`, or early. -/
structure Finished where
  stdout : String
  stderr : List String
  outcome : Except Stop Int

/-- The exit status of what ends a run early. Besides the text of the usage, `parser.error` exits
with 2. -/
def Stop.status : Stop → Int
  | .raises _ => 1
  | .exits code => code
  | .usage _ => 2

/-- The exit status. -/
def Finished.status (finished : Finished) : Int :=
  match finished.outcome with
  | .ok status => status
  | .error stop => stop.status

/-- The line of a target that could not be inspected. -/
def errorLine (error : Option String × String) : String :=
  "error: " ++ ((given error.1).map fun name => name ++ ": ").getD "" ++ error.2

/-- The line of an `--input` that cannot be read. -/
def inputMessages (args : MainArgs) (sources : TargetSources) : List String :=
  match given args.input with
  | none => []
  | some path =>
    match exceptPure [.osError] (readTargets sources.readText path) with
    | .ok (.error err) => ["error: " ++ err.message]
    | _ => []

section Run

variable (lowercase : String → String) (urlsplit : String → Except PyErr SplitResult)
  (machine : Machine)

/-- What `_collect_targets` prints. -/
def collectMessages (args : MainArgs) (session : Session) : Option (List String) :=
  match extraTargets args.toTargetArgs session.sources with
  | .error _ => some (inputMessages args session.sources)
  | .ok _ =>
    if args.discover.isEmpty then some []
    else
      (mapItems (args.discover.mapIdx fun i domain =>
        discoverOne domain (Discover.discoverHostnames lowercase (session.sources.crtSh i) domain))
        args.concurrency session.lookups).map fun
        | .ok entries => discoverMessages "hostname" entries
        | .error _ => []

/-- The form of the inventory. -/
def inventoryForm (args : MainArgs) : Except PyErr InventoryForm :=
  if args.asJson then .ok .json
  else if args.asCsv then (machine.dialect args.csvDelimiter).map .csv
  else .ok .text

/-- The state after a run, the labels of its changed targets, and the warning when it was not saved. -/
def saveRun (args : MainArgs) (session : Session) (file : StateFile) (run : State.Run) :
    Except PyErr (StateFile × Option (List String) × List String) :=
  match given args.stateFile with
  | none => pure (file, none, [])
  | some path => do
    let (changed, left) ← updateState file session.write run
    pure (left, some ((run.results.filterMap InspectionResult.label).filter (· ∈ changed)),
      match session.write with
      | .written => []
      | .failed _ => ["warning: could not write --state-file " ++ path ++ ": " ++ session.writeError])

/-- The end of `main`, once the targets are inspected. -/
def finish (args : MainArgs) (session : Session) (file : StateFile) (messages : List String)
    (report : Report) : Finished × StateFile :=
  let errors := if (given args.exporter).isSome then [] else report.errors.map errorLine
  match saveRun args session file ⟨report.results, report.errors⟩ with
  | .error err => (⟨"", messages ++ errors, .error (.raises err)⟩, file)
  | .ok (left, changed, warnings) =>
    let printed := messages ++ errors ++ warnings
    match Render.render machine (outputOptions args) report.results report.errors
        (if args.onlyChanged then changed else none) with
    | .error err => (⟨"", printed, .error (.raises err)⟩, left)
    | .ok rendered =>
      (⟨rendered.stdout, printed ++ rendered.stderr, .ok (if args.exitZero then 0
        else rendered.override.getD (mostSevere report.codes).value)⟩, left)

/-- The report of a run, or what stops it before it has one. -/
def gather (args : MainArgs) (session : Session) : Option (Except Stop Report) := do
  match ← collectTargets lowercase args.toTargetArgs session.sources session.lookups with
  | .error stop => some (.error stop)
  | .ok (hostTargets, fileTargets) =>
    let inspected ← inspectAll urlsplit args.toArgs hostTargets fileTargets session.inspect
      session.inspections
    some (inspected.mapError .raises)

/-- `main`, after the command line is parsed: what it prints, how it ends, and what it leaves in the
state file. -/
def main (args : MainArgs) (session : Session) (file : StateFile) : Option (Finished × StateFile) :=
  match given args.printCompletion with
  | some shell =>
    some (⟨Completion.completionScript (Completion.helpActions session.help) shell, [], .ok 0⟩, file)
  | none =>
    match validateArgs args with
    | .error stop => some (⟨"", [], .error stop⟩, file)
    | .ok () =>
      if args.discoverOnly then
        (runInventory lowercase (inventoryForm machine args)
          ⟨args.discover, args.expectIssuer, args.concurrency⟩ session.sources.crtSh
          session.lookups).map fun output =>
            (⟨output.stdout, output.stderr, output.outcome.map fun code =>
              if args.exitZero then 0 else (Code.exit code).value⟩, file)
      else do
        let messages ← collectMessages lowercase args session
        match ← gather lowercase urlsplit args session with
        | .error stop => some (⟨"", messages, .error stop⟩, file)
        | .ok report => some (finish machine args session file messages report)

end Run

/-- The run inspects targets: it prints no completion script and no inventory. -/
structure InspectsTargets (args : MainArgs) : Prop where
  script : given args.printCompletion = none
  inventory : args.discoverOnly = false

/-! ### How a run ends -/

section Ends

variable {lowercase : String → String} {urlsplit : String → Except PyErr SplitResult}
  {machine : Machine} {args : MainArgs} {session : Session} {file after : StateFile}
  {finished : Finished} {report : Report} {messages : List String}

/-- What ends the collection of the targets is a failure. -/
theorem collectFound_stop {α : Type} {entries : List (String × Except String (List α))} {stop : Stop}
    (stopped : collectFound entries = .error stop) : stop.status ≠ 0 := by
  induction entries with
  | nil => cases stopped
  | cons entry rest ih =>
    obtain ⟨domain, outcome⟩ := entry
    cases outcome with
    | error err =>
      cases stopped
      decide
    | ok found =>
      rcases bind_error_iff.mp stopped with later | ⟨_, _, absurd⟩
      · exact ih later
      · cases absurd

theorem extraTargets_stop {args : TargetArgs} {sources : TargetSources} {stop : Stop}
    (stopped : extraTargets args sources = .error stop) : stop.status ≠ 0 := by
  unfold extraTargets at stopped
  split at stopped
  · cases stopped
  · split at stopped <;> cases stopped <;> exact one_ne_zero

theorem checkTargets_stop {args : TargetArgs} {hostTargets : List String} {stop : Stop}
    (stopped : checkTargets args hostTargets = .error stop) : stop.status ≠ 0 := by
  unfold checkTargets at stopped
  dsimp only at stopped
  split at stopped
  · cases stopped
    exact two_ne_zero
  split at stopped
  · cases stopped
    exact two_ne_zero
  split at stopped
  · cases stopped
    exact two_ne_zero
  split at stopped
  · cases stopped
    exact two_ne_zero
  · cases stopped

theorem collectTargets_stop {args : TargetArgs} {sources : TargetSources}
    {schedule : List PoolAction} {stop : Stop}
    (stopped : collectTargets lowercase args sources schedule = some (.error stop)) :
    stop.status ≠ 0 := by
  unfold collectTargets at stopped
  cases extra : extraTargets args sources with
  | error own =>
    rw [extra] at stopped
    cases stopped
    exact extraTargets_stop extra
  | ok listed =>
    rw [extra] at stopped
    dsimp only at stopped
    obtain ⟨found, discovered, stopped⟩ := Option.map_eq_some_iff.mp stopped
    rcases bind_error_iff.mp stopped with failed | ⟨names, _, failed⟩
    · cases failed
      unfold discoveredTargets at discovered
      split at discovered
      · cases discovered
      · obtain ⟨lookups, ran, mapped⟩ := Option.map_eq_some_iff.mp discovered
        unfold discover at ran
        obtain ⟨entries, _, kept⟩ := Option.map_eq_some_iff.mp ran
        cases lookups with
        | ok inventory => cases mapped
        | error own =>
          cases mapped
          cases entries with
          | error err =>
            cases kept
            exact one_ne_zero
          | ok entries => exact collectFound_stop kept
    · exact checkTargets_stop failed

theorem gather_stop {stop : Stop}
    (stopped : gather lowercase urlsplit args session = some (.error stop)) : stop.status ≠ 0 := by
  unfold gather at stopped
  obtain ⟨targets, collected, stopped⟩ := Option.bind_eq_some_iff.mp stopped
  cases targets with
  | error own =>
    cases stopped
    exact collectTargets_stop collected
  | ok targets =>
    obtain ⟨inspected, _, same⟩ := Option.bind_eq_some_iff.mp stopped
    cases inspected with
    | ok report => cases same
    | error err =>
      cases same
      exact one_ne_zero

/-- **A run that inspects targets stops early, and then prints nothing on stdout and leaves the state, or
it finishes with a report.** -/
theorem main_ran (ran : main lowercase urlsplit machine args session file = some (finished, after))
    (inspecting : InspectsTargets args) :
    ((∃ stop, finished.outcome = .error stop ∧ stop.status ≠ 0) ∧ finished.stdout = "" ∧
        after = file) ∨
      validateArgs args = .ok () ∧ ∃ messages report,
        collectMessages lowercase args session = some messages ∧
        gather lowercase urlsplit args session = some (.ok report) ∧
        finish machine args session file messages report = (finished, after) := by
  unfold main at ran
  rw [inspecting.script] at ran
  dsimp only at ran
  cases valid : validateArgs args with
  | error stop =>
    rw [valid] at ran
    cases ran
    refine Or.inl ⟨⟨stop, rfl, ?_⟩, rfl, rfl⟩
    unfold validateArgs at valid
    split at valid
    · cases valid
      exact two_ne_zero
    · cases valid
  | ok accepted =>
    rw [valid] at ran
    dsimp only at ran
    rw [if_neg (by rw [inspecting.inventory]; decide)] at ran
    obtain ⟨messages, collected, ran⟩ := Option.bind_eq_some_iff.mp ran
    obtain ⟨gathered, gathers, ran⟩ := Option.bind_eq_some_iff.mp ran
    cases gathered with
    | error stop =>
      cases ran
      exact Or.inl ⟨⟨stop, rfl, gather_stop gathers⟩, rfl, rfl⟩
    | ok report => exact Or.inr ⟨rfl, messages, report, collected, gathers, Option.some.inj ran⟩

theorem gather_ok (gathered : gather lowercase urlsplit args session = some (.ok report)) :
    ∃ hostTargets fileTargets,
      collectTargets lowercase args.toTargetArgs session.sources session.lookups =
        some (.ok (hostTargets, fileTargets)) ∧
      inspectAll urlsplit args.toArgs hostTargets fileTargets session.inspect session.inspections =
        some (.ok report) := by
  unfold gather at gathered
  obtain ⟨targets, collected, gathered⟩ := Option.bind_eq_some_iff.mp gathered
  cases targets with
  | error stop => cases gathered
  | ok targets =>
    obtain ⟨hostTargets, fileTargets⟩ := targets
    obtain ⟨inspected, ran, same⟩ := Option.bind_eq_some_iff.mp gathered
    cases inspected with
    | error err => cases same
    | ok own =>
      cases same
      exact ⟨hostTargets, fileTargets, collected, ran⟩

/-- A line tells of a target that could not be inspected. -/
def isError (line : String) : Bool := startsWith line "error: "

theorem isError_errorLine (error : Option String × String) : isError (errorLine error) = true := by
  unfold isError errorLine startsWith
  rw [List.isPrefixOf_iff_prefix, String.append_assoc, String.toList_append]
  exact List.prefix_append _ _

/-- A line that starts with another word. -/
theorem isError_other {first : Char} {start rest : String} (word : start.toList.head? = some first)
    (other : first ≠ 'e') : isError (start ++ rest) = false := by
  unfold isError startsWith
  cases characters : start.toList with
  | nil =>
    rw [characters] at word
    cases word
  | cons c more =>
    rw [characters] at word
    cases word
    rw [String.toList_append, characters]
    exact Bool.and_eq_false_iff.mpr (Or.inl (beq_eq_false_iff_ne.mpr other.symm))

theorem isError_foundMessage {α : Type} (noun domain : String) (found : List α) :
    isError (foundMessage noun domain found) = false := by
  unfold foundMessage
  split
  · rw [String.append_assoc, String.append_assoc, String.append_assoc, String.append_assoc]
    exact isError_other rfl (by decide)
  · exact isError_other rfl (by decide)

/-- A run with a report has collected its targets without an error. -/
theorem collectMessages_ok (gathered : gather lowercase urlsplit args session = some (.ok report))
    (collected : collectMessages lowercase args session = some messages) :
    ∀ line ∈ messages, isError line = false := by
  obtain ⟨hostTargets, fileTargets, targets, _⟩ := gather_ok gathered
  unfold collectTargets at targets
  unfold collectMessages at collected
  cases extra : extraTargets args.toTargetArgs session.sources with
  | error stop =>
    rw [extra] at targets
    cases targets
  | ok listed =>
    rw [extra] at targets collected
    dsimp only at targets collected
    obtain ⟨found, discovered, targets⟩ := Option.map_eq_some_iff.mp targets
    obtain ⟨names, ok, _⟩ := bind_ok_iff.mp targets
    cases ok
    unfold discoveredTargets at discovered
    split at collected
    · cases collected
      exact List.forall_mem_nil _
    · rename_i some
      rw [if_neg some] at discovered
      obtain ⟨lookups, ran, mapped⟩ := Option.map_eq_some_iff.mp discovered
      unfold discover at ran
      obtain ⟨entries, calls, kept⟩ := Option.map_eq_some_iff.mp ran
      rw [calls] at collected
      cases entries with
      | error err =>
        rw [← kept] at mapped
        cases mapped
      | ok entries =>
        cases collected
        dsimp only at kept
        cases whole : collectFound entries with
        | error stop =>
          rw [← kept, whole] at mapped
          cases mapped
        | ok inventory =>
          dsimp only
          rw [(collectFound_ok "hostname" whole).2]
          exact List.forall_mem_map.mpr fun entry _ => isError_foundMessage _ _ _

end Ends

/-! ### The codes of a report -/

section Codes

variable {ω : Type} {lib : Cryptography} {urlsplit : String → Except PyErr SplitResult} {args : Args}
  {hostTargets fileTargets : List String} {places : Nat → Surroundings ω}
  {schedule : List PoolAction} {report : Report} {code : Code} {result : InspectionResult}

/-- The report of a batch accounts for its outcomes. -/
theorem accounts_of_inspectAll {inspect : Nat → Inspector}
    (ran : inspectAll urlsplit args hostTargets fileTargets inspect schedule = some (.ok report)) :
    Accounts (outcomes urlsplit args hostTargets fileTargets inspect) report := by
  obtain ⟨known, accounts, same⟩ := inspectAll_of_survived (survived_of_inspectAll ran)
  have own : report = known := Except.ok.inj (same args.concurrency schedule _ ran)
  rwa [own]

/-- Every result was produced by an inspection. -/
theorem produced_of_inspectAll
    (ran : inspectAll urlsplit args hostTargets fileTargets (fun i => inspectIn lib (places i))
      schedule = some (.ok report)) (member : result ∈ report.results) :
    ∃ i target port opts, inspectIn lib (places i) target port opts = .ok (result.info, result.code) := by
  have among := outcome_of_accounts (accounts_of_inspectAll ran) member
  obtain ⟨i, bound, returned⟩ := List.mem_mapIdx.mp among
  obtain ⟨port, _, ran⟩ := bind_ok_iff.mp returned
  cases item : (workItems hostTargets fileTargets)[i] with
  | file path =>
    rw [item] at ran
    exact ⟨i, _, _, _, ran⟩
  | host raw =>
    rw [item] at ran
    obtain ⟨⟨host, own⟩, _, there⟩ := bind_ok_iff.mp ran
    exact ⟨i, _, _, _, there⟩

/-- The codes of a report are those of its results, and the runtime error for each error. -/
theorem mem_codes_iff {settled : List Inspection} (accounts : Accounts settled report) :
    code ∈ report.codes ↔ (∃ result ∈ report.results, result.code = code) ∨
      report.errors ≠ [] ∧ code = .runtimeError := by
  obtain ⟨entries, _, results, errors, codes⟩ := accounts
  have left (result : InspectionResult) :
      result ∈ entries.filterMap Sum.getLeft? ↔ .inl result ∈ entries := by
    simp [List.mem_filterMap, Sum.getLeft?_eq_some_iff]
  have right : entries.filterMap Sum.getRight? ≠ [] ↔ ∃ error, .inr error ∈ entries := by
    refine ⟨fun some => ?_, fun ⟨error, member⟩ => ?_⟩
    · obtain ⟨error, listed⟩ := List.exists_mem_of_ne_nil _ some
      obtain ⟨entry, member, own⟩ := List.mem_filterMap.mp listed
      exact ⟨error, Sum.getRight?_eq_some_iff.mp own ▸ member⟩
    · exact List.ne_nil_of_mem (List.mem_filterMap.mpr ⟨_, member, rfl⟩)
  have turned : Code.runtimeError = code ↔ code = .runtimeError := eq_comm
  rw [results, errors, codes, List.mem_map, Sum.exists, right]
  simp only [left, Sum.elim_inl, Sum.elim_inr, exists_and_right, turned]

/-- A code that is the least severe does not count. -/
theorem mostSevere_cons_ok (codes : List Code) : mostSevere (.exit .ok :: codes) = mostSevere codes := by
  have own := (@mostSevere_eq_iff codes _).mp rfl
  refine mostSevere_eq_iff.mpr ⟨List.mem_cons_of_mem _ own.1, List.forall_mem_cons.mpr ⟨?_, own.2⟩⟩
  exact severityRank_le_ok _

theorem mostSevere_congr_graver {first second : List Code}
    (same : ∀ code, code ≠ .exit .ok → (code ∈ first ↔ code ∈ second)) :
    mostSevere first = mostSevere second := by
  rw [← mostSevere_cons_ok first, ← mostSevere_cons_ok second]
  refine mostSevere_congr fun code => ?_
  rw [List.mem_cons, List.mem_cons]
  by_cases least : code = .exit .ok
  · exact iff_of_true (Or.inl least) (Or.inl least)
  · rw [same code least]

end Codes

/-! ### What a run tells -/

section Told

variable {ω : Type} {lib : Cryptography} {lowercase : String → String}
  {urlsplit : String → Except PyErr SplitResult} {machine : Machine} {args : MainArgs}
  {session : Session} {places : Nat → Surroundings ω} {file after : StateFile} {finished : Finished}
  {report : Report} {messages : List String}

/-- The exit status, as the JSON on stdout and the lines on stderr tell it. -/
def toldStatus (stdout : String) (stderr : List String) : Option Int := do
  let (_, records) ← readDocumentV2 stdout
  pure (mostSevere (records.flatMap (fun record => recordedCodes record.2) ++
    (stderr.filter isError).map fun _ => .runtimeError)).value

/-- A run that inspects its targets with `--json`, in the second schema. -/
structure JsonRun (args : MainArgs) : Prop where
  inspecting : InspectsTargets args
  exporter : args.exporter = none
  fields : args.fields = []
  csv : args.asCsv = false
  json : args.asJson = true
  schema : args.schema ≠ 1

/-- Such a run that does not leave out results for their days or for their state. -/
structure WholeJson (args : MainArgs) : Prop extends JsonRun args where
  maxDays : args.maxDays = none
  onlyChanged : args.onlyChanged = false

theorem isError_saveRun {run : State.Run} {changed : Option (List String)} {warnings : List String}
    (saved : saveRun args session file run = .ok (after, changed, warnings)) :
    ∀ line ∈ warnings, isError line = false := by
  unfold saveRun at saved
  cases path : given args.stateFile with
  | none =>
    rw [path] at saved
    cases saved
    exact List.forall_mem_nil _
  | some path' =>
    rw [path] at saved
    obtain ⟨⟨targets, left⟩, _, same⟩ := bind_ok_iff.mp saved
    cases same
    cases session.write with
    | written => exact List.forall_mem_nil _
    | failed left =>
      refine List.forall_mem_singleton.mpr ?_
      rw [String.append_assoc, String.append_assoc]
      exact isError_other rfl (by decide)

theorem isError_summaryLines {opts : Render.OutputOptions} {results : List InspectionResult}
    {errors : List (Option String × String)} {lines : List String}
    (summarised : Render.summaryLines opts results errors = .ok lines) :
    ∀ line ∈ lines, isError line = false := by
  unfold Render.summaryLines at summarised
  split at summarised
  · obtain ⟨line, made, same⟩ := bind_ok_iff.mp summarised
    obtain ⟨counts, _, made⟩ := bind_ok_iff.mp made
    obtain ⟨items, _, made⟩ := bind_ok_iff.mp made
    cases made
    cases same
    intro line member
    have own : line = summaryLine (items ++ errorItems errors) (results.length + errors.length) := by
      have shown := Option.mem_toList.mp member
      exact (Option.some.inj (Option.filter_eq_some_iff.mp shown).1).symm
    rw [own]
    unfold summaryLine
    rw [String.append_assoc, String.append_assoc, String.append_assoc, String.append_assoc,
      String.append_assoc]
    exact isError_other rfl (by decide)
  · cases summarised
    exact List.forall_mem_nil _

/-- What is rendered with `--json`. -/
theorem render_json (json : JsonRun args) (results : List InspectionResult)
    (errors : List (Option String × String)) (changed : Option (List String)) :
    Render.render machine (outputOptions args) results errors changed = (do
      let summary ← Render.summaryLines (outputOptions args) results errors
      let text ← formatJsonV2 (displayed (outputOptions args).toOutputOptions changed results)
        machine.version
      pure ⟨text ++ "\n", summary, none⟩) := by
  have exporter : (outputOptions args).exporter = none := json.exporter
  have fields : ¬ (outputOptions args).fields ≠ [] := not_not.mpr json.fields
  have csv : ¬ (outputOptions args).asCsv = true := by
    show ¬ args.asCsv = true
    rw [json.csv]
    decide
  have asJson : (outputOptions args).asJson = true := json.json
  have schema : (outputOptions args).schema ≠ 1 := json.schema
  unfold Render.render Render.display Render.documentText
  rw [exporter, if_neg (by decide), if_neg (by decide), if_neg fields, if_neg csv, if_pos asJson,
    if_neg schema]
  simp only [bind_assoc, pure_bind]

/-- What a run with `--json` prints, when it finishes. -/
theorem finish_json (json : JsonRun args)
    (ended : finish machine args session file messages report = (finished, after)) :
    ((∃ stop, finished.outcome = .error stop) ∧ finished.stdout = "") ∨
      ∃ changed warnings text summary,
        saveRun args session file ⟨report.results, report.errors⟩ = .ok (after, changed, warnings) ∧
        formatJsonV2 (displayed (outputOptions args).toOutputOptions
          (if args.onlyChanged then changed else none) report.results) machine.version = .ok text ∧
        Render.summaryLines (outputOptions args) report.results report.errors = .ok summary ∧
        finished.stdout = text ++ "\n" ∧
        finished.stderr = messages ++ report.errors.map errorLine ++ warnings ++ summary ∧
        finished.outcome = .ok (if args.exitZero then 0 else (mostSevere report.codes).value) := by
  unfold finish at ended
  dsimp only at ended
  have silent : ¬ (given args.exporter).isSome = true := by
    rw [json.exporter]
    decide
  rw [if_neg silent] at ended
  cases saved : saveRun args session file ⟨report.results, report.errors⟩ with
  | error err =>
    rw [saved] at ended
    cases ended
    exact Or.inl ⟨⟨_, rfl⟩, rfl⟩
  | ok left =>
    obtain ⟨left, changed, warnings⟩ := left
    rw [saved] at ended
    dsimp only at ended
    rw [render_json json] at ended
    split at ended
    · cases ended
      exact Or.inl ⟨⟨_, rfl⟩, rfl⟩
    · rename_i output rendered
      cases ended
      obtain ⟨summary, summarised, rendered⟩ := bind_ok_iff.mp rendered
      obtain ⟨text, written, same⟩ := bind_ok_iff.mp rendered
      cases same
      exact Or.inr ⟨changed, warnings, text, summary, rfl, written, summarised, rfl, rfl, rfl⟩

/-- A run that has its report ends as `finish` says. -/
theorem main_finishes (accepted : validateArgs args = .ok ()) (inspecting : InspectsTargets args)
    (collected : collectMessages lowercase args session = some messages)
    (gathered : gather lowercase urlsplit args session = some (.ok report)) :
    main lowercase urlsplit machine args session file =
      some (finish machine args session file messages report) := by
  unfold main
  rw [inspecting.script]
  dsimp only
  rw [accepted]
  dsimp only
  rw [if_neg (by rw [inspecting.inventory]; decide), collected, gathered]
  exact Option.bind_some _ _

/-- Each kept result and each error tells its code, and together they tell the most severe. -/
theorem mostSevere_told {settled : List Inspection} {shown : List InspectionResult}
    (accounts : Accounts settled report)
    (recorded : ∀ result ∈ report.results, result.code = mostSevere (recordedCodes result.info))
    (kept : ∀ result, result ∈ shown → result ∈ report.results)
    (graver : ∀ result ∈ report.results, result.code ≠ .exit .ok → result ∈ shown) :
    mostSevere (shown.flatMap (fun result => recordedCodes result.info) ++
      report.errors.map fun _ => .runtimeError) = mostSevere report.codes := by
  have grouped : mostSevere (shown.flatMap (fun result => recordedCodes result.info) ++
      report.errors.map fun _ => .runtimeError) =
        mostSevere (shown.map InspectionResult.code ++ report.errors.map fun _ => .runtimeError) := by
    have groups := mostSevere_flatten (shown.map (fun result => recordedCodes result.info) ++
      report.errors.map fun _ => [.runtimeError])
    have codes : (shown.map fun result => mostSevere (recordedCodes result.info)) =
        shown.map InspectionResult.code :=
      List.map_congr_left fun result member => (recorded result (kept result member)).symm
    have flat : (report.errors.map fun _ => [Code.runtimeError]).flatten =
        report.errors.map fun _ => .runtimeError := by
      rw [← List.flatMap_def]
      exact List.flatMap_pure_eq_map _ _
    rw [List.map_append, List.map_map, List.map_map, List.flatten_append, flat,
      ← List.flatMap_def] at groups
    rw [← groups, ← codes]
    rfl
  rw [grouped]
  refine mostSevere_congr_graver fun code grave => ?_
  rw [mem_codes_iff accounts, List.mem_append, List.mem_map, List.mem_map]
  refine or_congr ⟨?_, ?_⟩ ⟨?_, ?_⟩
  · rintro ⟨result, member, rfl⟩
    exact ⟨result, kept result member, rfl⟩
  · rintro ⟨result, member, rfl⟩
    exact ⟨result, graver result member grave, rfl⟩
  · rintro ⟨error, member, rfl⟩
    exact ⟨List.ne_nil_of_mem member, rfl⟩
  · rintro ⟨some, rfl⟩
    obtain ⟨error, member⟩ := List.exists_mem_of_ne_nil _ some
    exact ⟨error, member, rfl⟩

/-- `--quiet` leaves out no result whose code is not OK. -/
theorem WholeJson.displays (whole : WholeJson args) {results : List InspectionResult}
    {result : InspectionResult} (member : result ∈ results) (grave : result.code ≠ .exit .ok) :
    result ∈ displayed (outputOptions args).toOutputOptions none results := by
  have value : (result.code.value != 0) = true :=
    bne_iff_ne.mpr fun zero => grave (code_value_injective zero)
  have days : (outputOptions args).maxDays = none := whole.maxDays
  refine Render.mem_displayed.mpr ⟨member, ?_⟩
  unfold Render.keeps
  rw [value, days, Bool.or_true]
  rfl

/-- The error lines of a run are those of the targets that could not be inspected. -/
theorem errors_told {run : State.Run} {opts : Render.OutputOptions} {results : List InspectionResult}
    {errors : List (Option String × String)} {summary warnings : List String}
    {changed : Option (List String)}
    (saved : saveRun args session file run = .ok (after, changed, warnings))
    (gathered : gather lowercase urlsplit args session = some (.ok report))
    (collected : collectMessages lowercase args session = some messages)
    (summarised : Render.summaryLines opts results errors = .ok summary) :
    (messages ++ report.errors.map errorLine ++ warnings ++ summary).filter isError =
      report.errors.map errorLine := by
  have silent {lines : List String} (others : ∀ line ∈ lines, isError line = false) :
      lines.filter isError = [] :=
    List.filter_eq_nil_iff.mpr fun line member => by rw [others line member]; decide
  rw [List.filter_append, List.filter_append, List.filter_append,
    silent (collectMessages_ok gathered collected), silent (isError_saveRun saved),
    silent (isError_summaryLines summarised), List.append_nil, List.append_nil, List.nil_append]
  exact List.filter_eq_self.mpr (List.forall_mem_map.mpr fun error _ => isError_errorLine error)

/-- **A run with `--json` exits with the status that it tells.** The JSON on stdout, read back, and the
error lines on stderr have every code of the batch, so the exit status can be computed from them again,
with `--quiet` and in any order; and a run that stops prints nothing on stdout. -/
theorem main_told (lib : Cryptography) (lowercase : String → String)
    (urlsplit : String → Except PyErr SplitResult) (machine : Machine) (args : MainArgs)
    (session : Session) (places : Nat → Surroundings ω) (file after : StateFile)
    (finished : Finished) (whole : WholeJson args)
    (inspects : session.inspect = fun i => inspectIn lib (places i))
    (ran : main lowercase urlsplit machine args session file = some (finished, after)) :
    (∀ status, finished.outcome = .ok status → args.exitZero = false →
        toldStatus finished.stdout finished.stderr = some status) ∧
      ∀ stop, finished.outcome = .error stop → finished.stdout = "" := by
  rcases main_ran ran whole.inspecting with ⟨⟨stop, stopped, _⟩, empty, _⟩ | ⟨_, messages, report, collected,
    gathered, ended⟩
  · refine ⟨fun status absurd => ?_, fun _ _ => empty⟩
    rw [stopped] at absurd
    cases absurd
  obtain ⟨hostTargets, fileTargets, _, inspected⟩ := gather_ok gathered
  rcases finish_json whole.toJsonRun ended with ⟨⟨stop, stopped⟩, empty⟩ | ⟨changed, warnings, text, summary,
    saved, written, summarised, stdout, stderr, outcome⟩
  · refine ⟨fun status absurd => ?_, fun _ _ => empty⟩
    rw [stopped] at absurd
    cases absurd
  rw [if_neg (by rw [whole.onlyChanged]; decide)] at written
  refine ⟨fun status exits honest => ?_, fun stop absurd => ?_⟩
  · rw [outcome, if_neg (by rw [honest]; decide)] at exits
    cases exits
    rw [inspects] at inspected
    have produced (result : InspectionResult) (member : result ∈ report.results) :
        ∃ i target port opts, inspectIn lib (places i) target port opts =
          .ok (result.info, result.code) := produced_of_inspectAll inspected member
    have read := readDocumentV2_shownInfo (fun result member => by
        obtain ⟨i, target, port, opts, returned⟩ := produced result (Render.mem_displayed.mp member).1
        exact ⟨lib, ω, places i, target, port, opts, returned⟩) written
    have errors : finished.stderr.filter isError = report.errors.map errorLine := by
      rw [stderr]
      exact errors_told saved gathered collected summarised
    have told := mostSevere_told (accounts_of_inspectAll inspected) (fun result member => by
        obtain ⟨i, target, port, opts, returned⟩ := produced result member
        exact inspectIn_recorded returned) (fun result member => (Render.mem_displayed.mp member).1)
        fun _ member grave => whole.displays member grave
    unfold toldStatus
    rw [stdout, read, errors]
    show some (mostSevere _).value = _
    rw [List.flatMap_map, List.map_map]
    exact congrArg (fun code => some code.value) told
  · rw [outcome] at absurd
    cases absurd

/-- `certinspect --no-verify --json --quiet --file leaf.pem`. -/
def jsonArgs : MainArgs := { verify := false, files := ["leaf.pem"], asJson := true, quiet := true }

/-- A run on local files that all hold one certificate. -/
def fileSession : Session where
  help _ := none
  sources := sampleSources ""
  inspect _ := inspectIn (serialReader 7) (sampleMachine 0)
  lookups := []
  inspections := []
  write := .written
  writeError := ""

/-- The report of that run. -/
def fileReport : Report := ⟨[⟨none, serialInfo 7, .exit .ok⟩], [], [.exit .ok]⟩

theorem gather_file :
    gather lower (sampleMachine 0).out.urlsplit jsonArgs fileSession = some (.ok fileReport) := rfl

theorem main_told_file : ∃ finished after,
    main lower (sampleMachine 0).out.urlsplit Render.plainMachine jsonArgs fileSession .missing =
      some (finished, after) ∧
    (∀ status, finished.outcome = .ok status → jsonArgs.exitZero = false →
        toldStatus finished.stdout finished.stderr = some status) ∧
      ∀ stop, finished.outcome = .error stop → finished.stdout = "" := by
  have whole : WholeJson jsonArgs := ⟨⟨⟨rfl, rfl⟩, rfl, rfl, rfl, rfl, by decide⟩, rfl, rfl⟩
  have silent : collectMessages lower jsonArgs fileSession = some [] := rfl
  obtain ⟨⟨finished, after⟩, ran⟩ : ∃ run, main lower (sampleMachine 0).out.urlsplit Render.plainMachine
      jsonArgs fileSession .missing = some run := ⟨_, main_finishes rfl whole.inspecting silent gather_file⟩
  exact ⟨finished, after, ran, main_told (serialReader 7) lower (sampleMachine 0).out.urlsplit
    Render.plainMachine jsonArgs fileSession (fun _ => sampleMachine 0) .missing after finished whole rfl
    ran⟩

end Told

/-! ### What an exit status of 0 means -/

section Clear

variable {ω : Type} {lib : Cryptography} {lowercase : String → String}
  {urlsplit : String → Except PyErr SplitResult} {machine : Machine} {args : MainArgs}
  {session : Session} {places : Nat → Surroundings ω} {file after : StateFile} {finished : Finished}
  {report : Report} {messages : List String} {hostTargets fileTargets : List String}

/-- An accepted command line with `--require-revocation-check` has no `--file`. -/
theorem validateArgs_revocation (accepted : validateArgs args = .ok ())
    (required : args.requireRevocationCheck = true) : args.files = [] := by
  have none : (misuses args).find? Prod.fst = none := by
    unfold validateArgs at accepted
    split at accepted
    · cases accepted
    · assumption
  have allowed := List.find?_eq_none.mp none
  have file := allowed (args.requireRevocationCheck && !args.files.isEmpty, _)
    (List.mem_of_getElem? (show (misuses args)[5]? = some (_, _) from rfl))
  rw [required] at file
  simpa using file

/-- Targets that go together: hosts or files, at least one, standard input only once, and one alone for
`--export`. -/
theorem checkTargets_ok_iff {args : TargetArgs} {hostTargets : List String}
    {targets : List String × List String} : checkTargets args hostTargets = .ok targets ↔
      targets = (hostTargets, args.files) ∧ (args.files = [] ∨ hostTargets = []) ∧
        (hostTargets ≠ [] ∨ args.files ≠ []) ∧ args.files.count "-" ≤ 1 ∧
        ((given args.exportPath).isSome = true → hostTargets.length + args.files.length ≤ 1) := by
  unfold checkTargets
  dsimp only
  by_cases both : (!args.files.isEmpty && !hostTargets.isEmpty) = true
  · rw [if_pos both]
    simp only [Bool.and_eq_true, Bool.not_eq_true', List.isEmpty_eq_false_iff] at both
    exact iff_of_false (fun absurd => by cases absurd) fun held => held.2.1.elim both.1 both.2
  rw [if_neg both]
  by_cases neither : (hostTargets.isEmpty && args.files.isEmpty) = true
  · rw [if_pos neither]
    simp only [Bool.and_eq_true, List.isEmpty_iff] at neither
    exact iff_of_false (fun absurd => by cases absurd) fun held =>
      held.2.2.1.elim (fun some => some neither.1) fun some => some neither.2
  rw [if_neg neither]
  by_cases dashes : 1 < args.files.count "-"
  · rw [if_pos dashes]
    exact iff_of_false (fun absurd => by cases absurd) fun held => absurd held.2.2.2.1 (not_le.mpr dashes)
  rw [if_neg dashes]
  by_cases several : ((given args.exportPath).isSome &&
      decide (1 < hostTargets.length + args.files.length)) = true
  · rw [if_pos several]
    rw [Bool.and_eq_true, decide_eq_true_iff] at several
    exact iff_of_false (fun absurd => by cases absurd) fun held =>
      absurd (held.2.2.2.2 several.1) (not_le.mpr several.2)
  · rw [if_neg several, Except.ok.injEq, eq_comm]
    simp only [Bool.and_eq_true, Bool.not_eq_true', List.isEmpty_eq_false_iff, List.isEmpty_iff,
      decide_eq_true_iff] at both neither several
    refine (and_iff_left ⟨?_, ?_, not_lt.mp dashes, fun asked => ?_⟩).symm
    · by_contra mixed
      push Not at mixed
      exact both mixed
    · by_contra none
      push Not at none
      exact neither none
    · by_contra more
      exact several ⟨asked, not_le.mp more⟩

/-- What is collected is what the last check lets pass. -/
theorem collectTargets_ok {args : TargetArgs} {sources : TargetSources} {schedule : List PoolAction}
    (collected : collectTargets lowercase args sources schedule =
      some (.ok (hostTargets, fileTargets))) :
    checkTargets args hostTargets = .ok (hostTargets, fileTargets) := by
  unfold collectTargets at collected
  cases extra : extraTargets args sources with
  | error own =>
    rw [extra] at collected
    cases collected
  | ok listed =>
    rw [extra] at collected
    dsimp only at collected
    obtain ⟨found, _, collected⟩ := Option.map_eq_some_iff.mp collected
    obtain ⟨names, _, checked⟩ := bind_ok_iff.mp collected
    have same := (checkTargets_ok_iff.mp checked).1
    rw [(Prod.mk.inj same).1]
    rwa [(Prod.mk.inj same).1] at checked

/-- A run that finishes with 0 has no code but `ok`. -/
theorem finish_clear {settled : List Inspection} (accounts : Accounts settled report)
    (honest : args.exitZero = false)
    (ended : finish machine args session file messages report = (finished, after))
    (zero : finished.status = 0) : ∀ code ∈ report.codes, code = .exit .ok := by
  unfold finish at ended
  dsimp only at ended
  split at ended
  · cases ended
    exact absurd zero one_ne_zero
  split at ended
  · cases ended
    exact absurd zero one_ne_zero
  · rename_i rendered made
    cases ended
    have status : (if args.exitZero = true then 0
      else rendered.override.getD (mostSevere report.codes).value) = 0 := zero
    rw [if_neg (by rw [honest]; decide)] at status
    unfold Render.render at made
    split at made
    · cases made
      have worst : (formatNagios report.results report.errors (outputOptions args).days
        (outputOptions args).criticalDays).2 = 0 := status
      intro code member
      have batch : code ∈ batchCodes report.results report.errors := by
        unfold batchCodes
        rw [List.mem_append, List.mem_map, List.mem_map]
        refine ((mem_codes_iff accounts).mp member).imp_right fun ⟨failed, same⟩ => ?_
        obtain ⟨error, listed⟩ := List.exists_mem_of_ne_nil _ failed
        exact ⟨error, listed, same.symm⟩
      have filled : report.results ≠ [] ∨ report.errors ≠ [] :=
        ((mem_codes_iff accounts).mp member).imp (fun ⟨_, listed, _⟩ => List.ne_nil_of_mem listed)
          And.left
      rw [formatNagios_worst _ _ filled, foldl_nagiosSeverity] at worst
      have clear : mostSevere (batchCodes report.results report.errors) = .exit .ok :=
        code_value_injective ((nagiosSeverity_iff _).1.mp worst)
      exact mostSevere_eq_ok_iff.mp clear code batch
    split at made
    · cases made
      exact mostSevere_eq_ok_iff.mp (code_value_injective status)
    · obtain ⟨summary, _, made⟩ := bind_ok_iff.mp made
      obtain ⟨text, _, same⟩ := bind_ok_iff.mp made
      cases same
      exact mostSevere_eq_ok_iff.mp (code_value_injective status)

/-- **A run with `--require-revocation-check` that exits with 0 has secured every target.** There are
targets, and all of them are hosts. The certificate that each presented has the verified chain, is GOOD by a
response or a list that the network served and its issuer authorized, and passed every other check; whatever
the exporter, the output options and the schedule of the workers are. -/
theorem main_revocation (lib : Cryptography) (lowercase : String → String)
    (urlsplit : String → Except PyErr SplitResult) (machine : Machine) (args : MainArgs)
    (session : Session) (places : Nat → Surroundings ω) (file after : StateFile)
    (finished : Finished) (required : args.requireRevocationCheck = true)
    (honest : args.exitZero = false) (inspecting : InspectsTargets args)
    (inspects : session.inspect = fun i => inspectIn lib (places i))
    (ran : main lowercase urlsplit machine args session file = some (finished, after))
    (zero : finished.status = 0) :
    ∃ hostTargets, hostTargets ≠ [] ∧
      collectTargets lowercase args.toTargetArgs session.sources session.lookups =
        some (.ok (hostTargets, [])) ∧
      ∀ i raw, hostTargets[i]? = some raw → Secured lib urlsplit args.toArgs raw (places i) := by
  rcases main_ran ran inspecting with ⟨⟨stop, stopped, failed⟩, _⟩ | ⟨accepted, messages, report, _,
    gathered, ended⟩
  · have status : finished.status = stop.status := by
      unfold Finished.status
      rw [stopped]
    exact absurd (status ▸ zero) failed
  have noFiles := validateArgs_revocation accepted required
  obtain ⟨hostTargets, fileTargets, collected, inspected⟩ := gather_ok gathered
  obtain ⟨same, _, filled, _⟩ := checkTargets_ok_iff.mp (collectTargets_ok collected)
  obtain rfl := (Prod.mk.inj same).2
  rw [noFiles] at collected inspected filled
  rw [inspects] at inspected
  have accounts := accounts_of_inspectAll inspected
  have clear := finish_clear accounts honest ended zero
  rw [codes_of_accounts accounts, outcomes_jobs, List.map_map, List.forall_mem_map] at clear
  refine ⟨hostTargets, filled.resolve_right fun absurd => absurd rfl, collected, fun i raw listed => ?_⟩
  have member : ⟨.host raw, places i⟩ ∈ jobs hostTargets [] places := by
    unfold jobs workItems
    rw [List.map_nil, List.nil_append]
    have own : (List.map WorkItem.host hostTargets)[i]? = some (.host raw) := by
      rw [List.getElem?_map, listed]
      rfl
    exact List.mem_of_getElem? ((List.getElem?_mapIdx.trans (congrArg _ own)))
  have own : mostSevere (Job.codes lib urlsplit args.toArgs ⟨.host raw, places i⟩) = .exit .ok :=
    Job.codeOf_inspected.symm.trans (clear _ member)
  exact secured_of_passed required (Job.codes_ok_iff.mp (mostSevere_eq_ok_iff.mp own))

/-- The certificate of `leaf`, which names the CRL of its authority. -/
def listedLeaf : Certificate := Revocation.sampleLeaf
  [Revocation.sampleCrlPoint "http://ca/crl",
    ⟨"2.5.29.17", false, .subjectAlternativeName [.dnsName "leaf"]⟩]

/-- The package, on the encodings of that certificate, of the authority and of its CRL. -/
def listedReader : Cryptography :=
  { Revocation.samplePackage (Revocation.sampleCrl [] []) with
    loadDerX509Certificate := fun raw =>
      if raw = ascii "leaf" then .ok listedLeaf
      else if raw = ascii "ca" then .ok Revocation.sampleCa
      else .error ⟨.valueError, "error parsing asn1 value"⟩ }

/-- A machine on whose network `leaf` answers with a chain that verifies, a day after the CRL was made. -/
def listedMachine : Surroundings Unit :=
  { sampleMachine 1 with
    out :=
      { (sampleMachine 1).out with
        createConnection := fun _ _ _ _ =>
          .ok ⟨fun _ => .closed, fun _ => none, fun _ => 0, fun _ => false, fun _ => 0⟩
        wrapSocket := fun _ _ _ =>
          .ok ⟨some "TLSv1.3", none, some (ascii "leaf"), none, some (.ok [ascii "leaf", ascii "ca"]),
            fun _ _ same => by cases same; rfl⟩ }
    web := Revocation.sampleWeb (ascii "crl") }

/-- `leaf`, as `urlsplit` reads it. -/
def listedUrlsplit (_ : String) : Except PyErr SplitResult := .ok ⟨some "leaf", .ok none, none, none⟩

/-- `certinspect --require-revocation-check --quiet leaf`. -/
def requiringArgs : MainArgs :=
  { target := ["leaf"], requireRevocationCheck := true, quiet := true }

/-- A run on hosts that all answer so. -/
def listedSession : Session where
  help _ := none
  sources := sampleSources ""
  inspect _ := inspectIn listedReader listedMachine
  lookups := []
  inspections := []
  write := .written
  writeError := ""

theorem main_revocation_leaf : ∃ hostTargets : List String, hostTargets ≠ [] ∧
    collectTargets lower requiringArgs.toTargetArgs listedSession.sources listedSession.lookups =
      some (.ok (hostTargets, [])) ∧
    ∀ (i : Nat) (raw : String), hostTargets[i]? = some raw →
      Secured listedReader listedUrlsplit requiringArgs.toArgs raw listedMachine := by
  have exits : (main lower listedUrlsplit Render.plainMachine requiringArgs listedSession
      .missing).map (fun run => run.1.status) = some 0 := by decide +kernel
  obtain ⟨⟨finished, after⟩, ran, zero⟩ := Option.map_eq_some_iff.mp exits
  exact main_revocation listedReader lower listedUrlsplit Render.plainMachine requiringArgs
    listedSession (fun _ => listedMachine) .missing after finished rfl rfl ⟨rfl, rfl⟩ rfl ran zero

end Clear

end Certinspect.Cli
