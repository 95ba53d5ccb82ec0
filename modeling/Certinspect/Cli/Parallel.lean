/-
**A run with several workers is the run with one.**

`--concurrency` hands the lookups of `--discover` and the inspections to a pool of workers, which finish in
any order. What the program prints, saves and returns does not depend on it.

* `Scheduled` — a computation gives the same under every complete schedule of any number of workers, and
  some schedule is complete. `Scheduled.map`, `scheduled_const` — how such computations compose.
* `scheduled_mapItems` — the pool itself.
* `scheduled_collect`, `scheduled_inventory`, `scheduled_inspectAll` — the three uses of the pool.
* **`main_schedule`** — a run of the program.
-/

import Certinspect.Cli.Main

namespace Certinspect.Cli

open Library Formatter Render State

/-! ### Computations under a schedule -/

section Scheduled

variable {α β : Type} {run : Int → List PoolAction → Option α} {plain : α}

/-- Under every complete schedule of any number of workers the computation gives the same; one worker needs
no schedule, and any number of workers have a complete one. -/
structure Scheduled (run : Int → List PoolAction → Option α) (plain : α) : Prop where
  sound : ∀ workers schedule outcome, run workers schedule = some outcome → outcome = plain
  alone : ∀ schedule, run 1 schedule = some plain
  complete : ∀ workers, ∃ schedule, run workers schedule = some plain

theorem Scheduled.map (scheduled : Scheduled run plain) (f : α → β) :
    Scheduled (fun workers schedule => (run workers schedule).map f) (f plain) where
  sound workers schedule outcome ran := by
    obtain ⟨value, returned, rfl⟩ := Option.map_eq_some_iff.mp ran
    rw [scheduled.sound workers schedule value returned]
  alone schedule := Option.map_eq_some_iff.mpr ⟨plain, scheduled.alone schedule, rfl⟩
  complete workers := by
    obtain ⟨schedule, returned⟩ := scheduled.complete workers
    exact ⟨schedule, Option.map_eq_some_iff.mpr ⟨plain, returned, rfl⟩⟩

theorem scheduled_const (plain : α) : Scheduled (fun _ _ => some plain) plain where
  sound _ _ _ returned := (Option.some.inj returned).symm
  alone _ := rfl
  complete _ := ⟨[], rfl⟩

/-- **The pool.** -/
theorem scheduled_mapItems (calls : List (Except PyErr α)) :
    Scheduled (mapItems calls) (inOrder calls) where
  sound _ _ _ := mapItems_eq
  alone _ := by
    unfold mapItems
    exact if_neg fun several => absurd several.1 (by decide)
  complete workers := by
    obtain ⟨schedule, outcome, ran⟩ := @mapItems_completes α calls workers [] rfl
    exact ⟨schedule, mapItems_eq ran ▸ ran⟩

/-- A computation with two uses of the pool, the second after the first. -/
theorem Scheduled.bind {first : α} {next : α → Int → List PoolAction → Option β}
    {both : Int → List PoolAction → List PoolAction → Option β} (scheduled : Scheduled run first)
    (later : ∃ last, Scheduled (next first) last)
    (runs : ∀ workers early late, both workers early late =
      (run workers early).bind fun value => next value workers late) :
    ∃ last, (∀ early late, both 1 early late = some last) ∧ ∀ workers,
      (∀ early late other, both workers early late = some other → other = last) ∧
        ∃ early late, both workers early late = some last := by
  obtain ⟨last, later⟩ := later
  refine ⟨last, fun early late => ?_, fun workers => ⟨fun early late other ran => ?_, ?_⟩⟩
  · rw [runs, scheduled.alone early, Option.bind_some, later.alone late]
  · rw [runs] at ran
    obtain ⟨value, returned, ran⟩ := Option.bind_eq_some_iff.mp ran
    rw [scheduled.sound workers early value returned] at ran
    exact later.sound workers late other ran
  · obtain ⟨early, begun⟩ := scheduled.complete workers
    obtain ⟨late, ended⟩ := later.complete workers
    exact ⟨early, late, by rw [runs, begun, Option.bind_some, ended]⟩

end Scheduled

/-! ### The uses of the pool -/

section Uses

variable (lowercase : String → String) (urlsplit : String → Except PyErr SplitResult)
  (machine : Machine) (args : MainArgs) (session : Session) (file : StateFile)

/-- The same command line with another number of workers. -/
def MainArgs.withWorkers (args : MainArgs) (workers : Int) : MainArgs :=
  { args with concurrency := workers }

/-- What is printed while the targets are collected, and the targets. -/
def collect (workers : Int) (lookups : List PoolAction) :
    Option (List String × Except Stop (List String × List String)) := do
  let messages ← collectMessages lowercase (args.withWorkers workers) { session with lookups := lookups }
  let targets ← collectTargets lowercase (args.withWorkers workers).toTargetArgs session.sources lookups
  some (messages, targets)

/-- The lookups of `--discover`. -/
def lookupCalls : List (Except PyErr (String × Except String (List String))) :=
  args.discover.mapIdx fun i domain =>
    discoverOne domain (Discover.discoverHostnames lowercase (session.sources.crtSh i) domain)

/-- What is collected depends on the pool only through the answers to the lookups. -/
theorem collect_eq (workers : Int) (lookups : List PoolAction) :
    collect lowercase args session workers lookups =
      match extraTargets args.toTargetArgs session.sources with
      | .error stop => some (inputMessages args session.sources, .error stop)
      | .ok extra =>
        if args.discover.isEmpty then some ([], checkTargets args.toTargetArgs (args.target ++ extra ++ []))
        else (mapItems (lookupCalls lowercase args session) workers lookups).map fun answers =>
          (match answers with
            | .ok entries => discoverMessages "hostname" entries
            | .error _ => [],
          (match answers with
            | .error err => Except.error (Stop.raises err)
            | .ok entries => collectFound entries) >>= fun found =>
              checkTargets args.toTargetArgs (args.target ++ extra ++ found.flatMap Prod.snd)) := by
  have input : extraTargets (args.withWorkers workers).toTargetArgs session.sources =
      extraTargets args.toTargetArgs session.sources := rfl
  unfold collect collectMessages collectTargets discoveredTargets discover
  rw [input]
  cases extraTargets args.toTargetArgs session.sources with
  | error stop => rfl
  | ok extra =>
    dsimp only
    by_cases empty : args.discover.isEmpty = true
    · have absent : (args.withWorkers workers).discover.isEmpty = true := empty
      rw [if_pos absent, if_pos absent, if_pos empty]
      rfl
    · have listed : ¬ (args.withWorkers workers).discover.isEmpty = true := empty
      rw [if_neg listed, if_neg listed, if_neg empty]
      change (do
        let messages ← (mapItems (lookupCalls lowercase args session) workers lookups).map _
        let targets ← (((mapItems (lookupCalls lowercase args session) workers lookups).map _).map _).map _
        some (messages, targets)) = _
      cases mapItems (lookupCalls lowercase args session) workers lookups with
      | none => rfl
      | some answers =>
        cases answers with
        | error err => rfl
        | ok entries =>
          refine congrArg some (Prod.ext rfl ?_)
          dsimp only
          cases collectFound entries <;> rfl

/-- The collection of the targets. -/
theorem scheduled_collect : ∃ collected, Scheduled (collect lowercase args session) collected := by
  have same := fun workers lookups => collect_eq lowercase args session workers lookups
  cases extra : extraTargets args.toTargetArgs session.sources with
  | error stop =>
    rw [extra] at same
    exact ⟨_, funext₂ same ▸ scheduled_const _⟩
  | ok listed =>
    rw [extra] at same
    dsimp only at same
    by_cases empty : args.discover.isEmpty = true
    · simp only [if_pos empty] at same
      exact ⟨_, funext₂ same ▸ scheduled_const _⟩
    · simp only [if_neg empty] at same
      exact ⟨_, funext₂ same ▸ (scheduled_mapItems _).map _⟩

/-- The inspections. -/
theorem scheduled_inspectAll (hostTargets fileTargets : List String) : ∃ report,
    Scheduled (fun workers => inspectAll urlsplit (args.withWorkers workers).toArgs hostTargets fileTargets
      session.inspect) report := by
  unfold inspectAll
  have port (workers : Int) : defaultPort (args.withWorkers workers).toArgs = defaultPort args.toArgs := rfl
  simp only [port]
  cases defaultPort args.toArgs with
  | error err => exact ⟨_, scheduled_const _⟩
  | ok port =>
    exact ⟨_, (scheduled_mapItems (batchCalls urlsplit args.toArgs hostTargets fileTargets session.inspect
      port)).map fun entries => entries.map reportOf⟩

/-- The inventory of `--discover-only`, and how the run ends then. -/
theorem scheduled_inventory : ∃ ended, Scheduled (fun workers lookups =>
    (runInventory lowercase (inventoryForm machine args) ⟨args.discover, args.expectIssuer, workers⟩
      session.sources.crtSh lookups).map fun output =>
        ((⟨output.stdout, output.stderr, output.outcome.map fun code =>
          if args.exitZero then 0 else (Code.exit code).value⟩ : Finished), file)) ended := by
  have answered := scheduled_mapItems (args.discover.mapIdx fun i domain =>
    discoverOne domain (Discover.discoverCertificates lowercase (session.sources.crtSh i) domain))
  unfold runInventory
  dsimp only
  exact ⟨_, (answered.map _).map _⟩

variable {lowercase args session} in
/-- A run, by what was collected. -/
theorem main_collect (accepted : validateArgs args = .ok ()) (inspecting : InspectsTargets args)
    (workers : Int) (lookups inspections : List PoolAction) :
    main lowercase urlsplit machine (args.withWorkers workers)
        { session with lookups := lookups, inspections := inspections } file =
      (collect lowercase args session workers lookups).bind fun collected =>
        match collected.2 with
        | .error stop => some (⟨"", collected.1, .error stop⟩, file)
        | .ok (hostTargets, fileTargets) =>
          (inspectAll urlsplit (args.withWorkers workers).toArgs hostTargets fileTargets session.inspect
            inspections).map fun inspected =>
              match inspected with
              | .error err => (⟨"", collected.1, .error (.raises err)⟩, file)
              | .ok report => finish machine args session file collected.1 report := by
  have valid : validateArgs (args.withWorkers workers) = .ok () := accepted
  have script : given (args.withWorkers workers).printCompletion = none := inspecting.script
  have inspects : ¬ (args.withWorkers workers).discoverOnly = true := by
    show ¬ args.discoverOnly = true
    rw [inspecting.inventory]
    decide
  have printed : collectMessages lowercase (args.withWorkers workers)
      { session with lookups := lookups, inspections := inspections } =
        collectMessages lowercase (args.withWorkers workers) { session with lookups := lookups } := rfl
  unfold main gather collect
  rw [script]
  dsimp only
  rw [valid]
  dsimp only
  rw [if_neg inspects, printed]
  cases collectMessages lowercase (args.withWorkers workers) { session with lookups := lookups } with
  | none => rfl
  | some messages =>
    dsimp only [Option.bind_eq_bind, Option.bind_some]
    cases collectTargets lowercase (args.withWorkers workers).toTargetArgs session.sources lookups with
    | none => rfl
    | some targets =>
      cases targets with
      | error stop => rfl
      | ok targets =>
        obtain ⟨hostTargets, fileTargets⟩ := targets
        dsimp only [Option.bind_some]
        cases inspectAll urlsplit (args.withWorkers workers).toArgs hostTargets fileTargets session.inspect
          inspections with
        | none => rfl
        | some inspected => cases inspected <;> rfl

/-- **A run with several workers is the run with one.** Whatever the number of workers and the order in
which lookups and inspections finish, a run prints the same on both streams, leaves the same state file and
ends the same way as the run with one worker, which always ends; and with any number of workers the run
can end. -/
theorem main_schedule : ∃ run,
    main lowercase urlsplit machine (args.withWorkers 1) session file = some run ∧
      ∀ workers,
        (∀ lookups inspections other, main lowercase urlsplit machine (args.withWorkers workers)
            { session with lookups := lookups, inspections := inspections } file = some other →
          other = run) ∧
        ∃ lookups inspections, main lowercase urlsplit machine (args.withWorkers workers)
          { session with lookups := lookups, inspections := inspections } file = some run := by
  let under (workers : Int) (lookups inspections : List PoolAction) : Option (Finished × StateFile) :=
    main lowercase urlsplit machine (args.withWorkers workers)
      { session with lookups := lookups, inspections := inspections } file
  have ends : ∃ last, (∀ lookups inspections, under 1 lookups inspections = some last) ∧ ∀ workers,
      (∀ lookups inspections other, under workers lookups inspections = some other → other = last) ∧
        ∃ lookups inspections, under workers lookups inspections = some last := by
    cases script : given args.printCompletion with
    | some shell =>
      let printed : Finished :=
        ⟨Completion.completionScript (Completion.helpActions session.help) shell, [], .ok 0⟩
      refine @Scheduled.bind _ _ _ _ (fun _ _ _ => some (printed, file)) under (scheduled_const ())
        ⟨_, scheduled_const _⟩ fun workers _ _ => ?_
      have asked : given (args.withWorkers workers).printCompletion = some shell := script
      simp only [under]
      unfold main
      rw [asked]
      rfl
    | none =>
      have silent (workers : Int) : given (args.withWorkers workers).printCompletion = none := script
      cases accepted : validateArgs args with
      | error stop =>
        refine @Scheduled.bind _ _ _ _ (fun _ _ _ => some (⟨"", [], .error stop⟩, file)) under
          (scheduled_const ()) ⟨_, scheduled_const _⟩ fun workers _ _ => ?_
        have refused : validateArgs (args.withWorkers workers) = .error stop := accepted
        simp only [under]
        unfold main
        rw [silent workers]
        dsimp only
        rw [refused]
        rfl
      | ok valid =>
        cases inspecting : args.discoverOnly with
        | true =>
          obtain ⟨ended, inventory⟩ := scheduled_inventory lowercase machine args session file
          refine @Scheduled.bind _ _ _ _ (fun output _ _ => some output) under inventory
            ⟨_, scheduled_const _⟩ fun workers _ _ => ?_
          have valid : validateArgs (args.withWorkers workers) = .ok () := accepted
          have listing : (args.withWorkers workers).discoverOnly = true := inspecting
          simp only [under]
          unfold main
          rw [silent workers]
          dsimp only
          rw [valid]
          dsimp only
          rw [if_pos listing]
          exact (Option.bind_fun_some _).symm
        | false =>
          obtain ⟨⟨messages, targets⟩, collected⟩ := scheduled_collect lowercase args session
          refine collected.bind ?_ (main_collect urlsplit machine file accepted ⟨script, inspecting⟩)
          cases targets with
          | error stop => exact ⟨_, scheduled_const _⟩
          | ok targets =>
            obtain ⟨report, inspected⟩ :=
              scheduled_inspectAll urlsplit args session targets.1 targets.2
            exact ⟨_, inspected.map _⟩
  obtain ⟨last, alone, each⟩ := ends
  exact ⟨last, alone session.lookups session.inspections, each⟩

end Uses

end Certinspect.Cli
