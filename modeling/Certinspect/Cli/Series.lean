/-
**The Prometheus series of a batch, from `_collect_targets` to `format_prometheus`.**

Targets come from the command line, from `--input` and from `--discover`. Nothing looks whether two of
them are the same: each is inspected and shown under its own name, so a series is repeated when two
names are the same, whatever the spellings of the targets were.

* `collectTargets` — `_collect_targets`, with what ends the program there.
* `Entry.shown` — the name of an entry in the text; `shown_perm` — results and errors together have the
  names of the entries.
* `seriesName` — the name of a target: its label; without one, the subject of its certificate.
* **`collectTargets_series_iff`** — the text repeats no series exactly when no two targets have the
  same name.
-/

import Certinspect.Cli.Containment
import Certinspect.Cli.Labels

namespace Certinspect.Cli

open Library Discover Formatter

/-! ### The targets -/

/-- The parsed command line, as far as the collection of targets reads it. -/
structure TargetArgs extends Args where
  target : List String := []
  files : List String := []
  input : Option String := none
  discover : List String := []

/-- Where targets come from: the text of a file (of standard input for `-`), and what crt.sh answers
for the `i`-th domain. -/
structure TargetSources where
  readText : String → Except PyErr String
  crtSh : Nat → CrtSh

/-- The lines of a text file. A line feed, a carriage return or both end a line; both give a blank line
more. -/
def textLines (text : String) : List String :=
  (text.toList.splitOnP fun c => c == '\n' || c == '\r').map String.ofList

/-- The loop of `_read_targets`. -/
def targetLines (lines : List String) : List String :=
  (lines.map strip).filter fun entry => entry != "" && !startsWith entry "#"

/-- `_read_targets`. -/
def readTargets (readText : String → Except PyErr String) (path : String) :
    Except PyErr (List String) := do
  let text ← readText path
  pure (targetLines (textLines text))

section Collection

variable (lowercase : String → String)

/-- The targets of `--input`. -/
def extraTargets (args : TargetArgs) (sources : TargetSources) : Except Stop (List String) :=
  match given args.input with
  | none => .ok []
  | some path =>
    match exceptPure [.osError] (readTargets sources.readText path) with
    | .ok (.ok targets) => .ok targets
    | .ok (.error _) => .error (.exits 1)
    | .error err => .error (.raises err)

/-- The targets of `--discover`. -/
def discoveredTargets (args : TargetArgs) (sources : TargetSources) (schedule : List PoolAction) :
    Option (Except Stop (List String)) :=
  if args.discover.isEmpty then some (.ok [])
  else
    (discover args.discover args.concurrency
      (fun i domain => discoverHostnames lowercase (sources.crtSh i) domain) schedule).map
      fun found => found.map fun entries => entries.flatMap Prod.snd

/-- The end of `_collect_targets`: no targets, or targets that do not go together. -/
def checkTargets (args : TargetArgs) (hostTargets : List String) :
    Except Stop (List String × List String) :=
  let fileTargets := args.files
  if !fileTargets.isEmpty && !hostTargets.isEmpty then
    .error (.usage "--file cannot be combined with host targets.")
  else if hostTargets.isEmpty && fileTargets.isEmpty then
    .error (.usage "There is no target or no file to inspect.")
  else if 1 < fileTargets.count "-" then
    .error (.usage "--file '-' (standard input) may be given at most once.")
  else if (given args.exportPath).isSome && decide (1 < hostTargets.length + fileTargets.length) then
    .error (.usage "--export saves a single certificate; give one target.")
  else .ok (hostTargets, fileTargets)

/-- `_collect_targets`; the schedule is that of the lookups. -/
def collectTargets (args : TargetArgs) (sources : TargetSources) (schedule : List PoolAction) :
    Option (Except Stop (List String × List String)) :=
  match extraTargets args sources with
  | .error stop => some (.error stop)
  | .ok extra =>
    (discoveredTargets lowercase args sources schedule).map fun found => do
      let discovered ← found
      checkTargets args (args.target ++ extra ++ discovered)

end Collection

/-! ### The names of the entries -/

/-- The name of an entry in the text. -/
def Entry.shown (entry : Entry) : String :=
  match entry.2 with
  | .ok result => result.shownName
  | .error _ => entry.1

/-- **Results and errors together have the names of the entries**, in another order. -/
theorem shown_perm (entries : List Entry) :
    ((reportOf entries).results.map InspectionResult.shownName ++
      (reportOf entries).errors.map errorName).Perm (entries.map Entry.shown) := by
  unfold reportOf
  dsimp only
  induction entries with
  | nil => exact .nil
  | cons entry rest ih =>
    obtain ⟨name, message | result⟩ := entry
    · exact List.perm_middle.trans (ih.cons name)
    · exact ih.cons result.shownName

section Names

variable (urlsplit : String → Except PyErr SplitResult) (opts : InspectOptions) (port : Int)

/-- The name of the `i`-th target: its label; without one, the subject of its certificate. -/
def seriesName (inspect : Nat → Inspector) (i : Nat) (raw : String) : String :=
  (given (some (nameOf urlsplit port raw))).getD
    (match outcomeOf urlsplit opts port (inspect i) (.host raw) with
    | .ok (info, _) => info.subject
    | .error _ => "")

variable {urlsplit opts port} {inspect : Nat → Inspector} {i : Nat} {raw : String} {entry : Entry}

theorem nameOf_getD (name : String) : (given (some name)).getD "" = name :=
  errorLabel_eq (some name, "")

/-- An entry that is an error is of an outcome that is one. -/
theorem settle_failed {name message : String} {label : Option String} {inspected : Inspection}
    (settled : settle name label inspected = .ok entry) (failed : entry.2 = .error message) :
    ∃ err, inspected = .error err := by
  cases inspected with
  | error err => exact ⟨err, rfl⟩
  | ok found =>
    cases settled
    cases failed

/-- **The entry of a target is shown under its series name.** -/
theorem runItem_shown
    (ran : runItem urlsplit opts port false (inspect i) (.host raw) = .ok entry) :
    entry.shown = seriesName urlsplit opts port inspect i raw := by
  obtain ⟨named, labelled⟩ := runItem_named ran
  unfold seriesName Entry.shown
  cases ended : entry.2 with
  | ok result =>
    obtain ⟨label, outcome⟩ := labelled result ended
    rw [outcome]
    show result.shownName = _
    unfold InspectionResult.shownName
    rw [label]
  | error message =>
    obtain ⟨name, label, settles⟩ :=
      @runItem_settles urlsplit opts port false (inspect i) (.host raw)
    obtain ⟨err, outcome⟩ := settle_failed (settles.symm.trans ran) ended
    rw [outcome]
    show entry.1 = (given (some (nameOf urlsplit port raw))).getD ""
    rw [nameOf_getD, named]

end Names

/-! ### The text of a run -/

section Run

variable (lowercase : String → String) (urlsplit : String → Except PyErr SplitResult)

/-- `main` with `--exporter prometheus`, from the collection of the targets to the text it prints. The
schedules are those of the lookups and of the inspections. -/
def prometheusRun (args : TargetArgs) (sources : TargetSources) (inspect : Nat → Inspector)
    (lookups inspections : List PoolAction) : Option (Except Stop String) := do
  match ← collectTargets lowercase args sources lookups with
  | .error stop => some (.error stop)
  | .ok (hostTargets, fileTargets) =>
    match ← inspectAll urlsplit args.toArgs hostTargets fileTargets inspect inspections with
    | .error err => some (.error (.raises err))
    | .ok report => some (.ok (formatPrometheus report.results report.errors))

variable {lowercase urlsplit} {args : TargetArgs} {sources : TargetSources}
  {inspect : Nat → Inspector} {lookups inspections : List PoolAction} {hostTargets : List String}
  {port : Int}

/-- The text that is printed is that of a report on the targets. -/
theorem prometheusRun_report {fileTargets : List String} {text : String}
    (collected : collectTargets lowercase args sources lookups = some (.ok (hostTargets, fileTargets)))
    (printed : prometheusRun lowercase urlsplit args sources inspect lookups inspections =
      some (.ok text)) :
    ∃ report, inspectAll urlsplit args.toArgs hostTargets fileTargets inspect inspections =
      some (.ok report) ∧ text = formatPrometheus report.results report.errors := by
  unfold prometheusRun at printed
  rw [collected] at printed
  simp only [Option.bind_eq_bind, Option.bind_some] at printed
  obtain ⟨outcome, inspected, ended⟩ := Option.bind_eq_some_iff.mp printed
  cases outcome with
  | error err => cases ended
  | ok report =>
    cases ended
    exact ⟨report, inspected, rfl⟩

/-- The calls of a batch of hosts. -/
theorem batchCalls_hosts (args : Args) :
    batchCalls urlsplit args hostTargets [] inspect port = hostTargets.mapIdx fun i raw =>
      runItem urlsplit (.fromArgs args) port false (inspect i) (.host raw) := by
  unfold batchCalls workItems
  apply List.ext_getElem?
  intro i
  simp only [List.map_nil, List.nil_append, List.getElem?_mapIdx, List.getElem?_map, Option.map_map]
  rfl

/-- **The entries of a batch of hosts are shown under the series names of the hosts.** -/
theorem entries_shown {args : Args} {entries : List Entry}
    (all : batchCalls urlsplit args hostTargets [] inspect port = entries.map .ok) :
    entries.map Entry.shown = hostTargets.mapIdx (seriesName urlsplit (.fromArgs args) port inspect) := by
  rw [batchCalls_hosts] at all
  apply List.ext_getElem?
  intro i
  have here := congrArg (·[i]?) all
  simp only [List.getElem?_mapIdx, List.getElem?_map] at here ⊢
  cases target : hostTargets[i]? with
  | none =>
    rw [target] at here
    rw [Option.map_eq_none_iff.mp here.symm]
    rfl
  | some raw =>
    rw [target] at here
    obtain ⟨entry, placed, ran⟩ := Option.map_eq_some_iff.mp here.symm
    rw [placed]
    exact congrArg some (runItem_shown ran.symm)

/-- **No series is repeated exactly when no name is.** For every way to collect host targets, on every
schedule and with every outcome of each inspection: the samples of the text have different pairs of
metric and target if and only if the targets have different names. -/
theorem collectTargets_series_iff {text : String}
    (collected : collectTargets lowercase args sources lookups = some (.ok (hostTargets, [])))
    (known : defaultPort args.toArgs = .ok port)
    (printed : prometheusRun lowercase urlsplit args sources inspect lookups inspections =
      some (.ok text)) :
    (∃ samples, readText "target" text = some samples ∧ (samples.map Sample.series).Nodup) ↔
      (hostTargets.mapIdx (seriesName urlsplit (.fromArgs args.toArgs) port inspect)).Nodup := by
  obtain ⟨report, inspected, rfl⟩ := prometheusRun_report collected printed
  have returned := inspectAll_eq known inspected
  cases order : inOrder (batchCalls urlsplit args.toArgs hostTargets [] inspect port) with
  | error err =>
    rw [order] at returned
    cases returned
  | ok entries =>
    rw [order] at returned
    cases returned
    have names := (shown_perm entries).nodup_iff
    rw [← measured_series_nodup_iff, entries_shown (inOrder_ok_iff.mp order)] at names
    rw [readText_prometheusText, prometheusText_samples, ← names]
    simp

end Run

/-! ### One host in two spellings -/

section Spellings

/-- A file of targets. -/
def sampleSources (text : String) : TargetSources := ⟨fun _ => .ok text, fun _ => sampleCrtSh []⟩

/-- `certinspect --exporter prometheus --input targets.txt a.com`. -/
def sampleExporter : TargetArgs :=
  { target := ["a.com"], input := some "targets.txt", exporter := some "prometheus" }

/-- No host can be reached. -/
def sampleOffline : Nat → Inspector := fun _ _ _ _ => .error unreachable

/-- A report on two hosts that cannot be reached. -/
def sampleErrors (first second : String) : List (Option String × String) :=
  [(some first, unreachable.message), (some second, unreachable.message)]

/-- Another host. -/
theorem collectTargets_series_iff_other :
    (∃ samples, readText "target" (formatPrometheus [] (sampleErrors "a.com" "b.com")) =
      some samples ∧ (samples.map Sample.series).Nodup) ↔
      (["a.com", "b.com"].mapIdx (seriesName (urlsplit lower sampleTables)
        (.fromArgs sampleExporter.toArgs) 443 sampleOffline)).Nodup :=
  @collectTargets_series_iff lower _ sampleExporter (sampleSources "b.com\n") _ [] [] _ _ _ rfl rfl rfl

/-- The same host as a URL, in upper case: `certinspect_up{target="a.com"}` is there twice. -/
theorem collectTargets_series_counterexample :
    collectTargets lower sampleExporter (sampleSources "https://A.com/login\n") [] =
      some (.ok (["a.com", "https://A.com/login"], [])) ∧
    prometheusRun lower (urlsplit lower sampleTables) sampleExporter
      (sampleSources "https://A.com/login\n") sampleOffline [] [] =
      some (.ok (formatPrometheus [] (sampleErrors "a.com" "a.com"))) ∧
    ¬ ∃ samples, readText "target" (formatPrometheus [] (sampleErrors "a.com" "a.com")) =
      some samples ∧ (samples.map Sample.series).Nodup := by
  refine ⟨by rfl, by rfl, ?_⟩
  intro found
  obtain ⟨samples, read, unique⟩ := found
  rw [readText_prometheusText, prometheusText_samples] at read
  cases read
  revert unique
  decide

end Spellings

end Certinspect.Cli
