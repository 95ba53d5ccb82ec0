/-
**Inspecting a batch, `_inspect_all` in `cli.py`.**

Every file and every host is one work item. The items are inspected in order or by a pool of worker
threads; what becomes of one is a result or an error, and either way one exit code. What the
inspection of an item does is an argument of the model: the batch must cope with any outcome.

* `splitTarget`, `targetLabel`, `defaultPort` — the host and the port of a target.
* `runItem` — one work item, with the exceptions that a batch survives (`survived`).
* `mapItems` — `_map`, in order or by a pool under some schedule; `mapItems_eq` — the schedule does
  not matter.
* `inspectAll` — the whole; `Accounts` is what a report owes to the items.
* **`inspectAll_returns_iff`** — every schedule of every number of workers returns one and the same
  report, which accounts for every item, exactly when no inspection raises an exception that is not
  survived (and `--starttls` names a known protocol).
-/

import Certinspect.Cli.Inspect
import Certinspect.Library.Pool
import Certinspect.Revocation.Evidence

namespace Certinspect.Cli

open Library

/-! ### Targets -/

/-- The parsed command line, as far as a batch reads it. -/
structure Args extends InspectOptions where
  port : Int := 443
  concurrency : Int := 1
  exporter : Option String := none
  exitZero : Bool := false

/-- `InspectOptions.from_args`. -/
def InspectOptions.fromArgs (args : Args) : InspectOptions :=
  { args.toInspectOptions with file := none }

/-- `STARTTLS_PORTS`. -/
def starttlsPorts : List (String × Int) := [("smtp", 587), ("imap", 143), ("pop3", 110), ("ftp", 21)]

/-- `_default_port`. -/
def defaultPort (args : Args) : Except PyErr Int :=
  match given args.starttls with
  | none => .ok args.port
  | some protocol =>
    if args.port = 443 then
      match starttlsPorts.lookup protocol with
      | some port => .ok port
      | none => .error ⟨.keyError, s!"'{protocol}'"⟩
    else .ok args.port

section Batch

variable (urlsplit : String → Except PyErr SplitResult)

/-- `_split_target`. -/
def splitTarget (raw : String) (defaultPort : Int) : Except PyErr (String × Int) := do
  let parts ← urlsplit (if occursIn "://" raw then raw else "//" ++ raw)
  let port ← parts.port
  pure ((given parts.hostname).getD raw, ((port.filter (· != 0)).map Int.ofNat).getD defaultPort)

/-- `_target_label`. -/
def targetLabel (host : String) (port defaultPort : Int) : String :=
  if port = defaultPort then host
  else if occursIn ":" host then s!"[{host}]:{port}"
  else s!"{host}:{port}"

/-! ### One work item -/

/-- A work item: a file or a host target, as given. -/
inductive WorkItem
  | file (path : String)
  | host (raw : String)
  deriving DecidableEq, Repr

/-- The work items of a batch, files first. -/
def workItems (hostTargets fileTargets : List String) : List WorkItem :=
  fileTargets.map .file ++ hostTargets.map .host

/-- What an inspection returns or raises. -/
abbrev Inspection : Type := Except PyErr (CertificateInfo × Code)

/-- `_inspect`, in the place of one work item. -/
abbrev Inspector : Type := Option String → Int → InspectOptions → Inspection

/-- What `_run` returns: the name of the item, and its result or its error message. -/
abbrev Entry : Type := String × Except String InspectionResult

/-- The exceptions that `_run` turns into an error of its item. -/
def survived : List ExcClass := [.osError, .sslError, .valueError]

/-- The end of `_run`: the entry of an item, unless its exception passes. -/
def settle (name : String) (label : Option String) (inspected : Inspection) : Except PyErr Entry := do
  match ← exceptPure survived inspected with
  | .ok (info, code) => pure (name, .ok ⟨label, info, code⟩)
  | .error err => pure (name, .error err.message)

/-- `_run`. -/
def runItem (opts : InspectOptions) (port : Int) (singleFile : Bool) (inspect : Inspector) :
    WorkItem → Except PyErr Entry
  | .file path =>
    settle path (if singleFile then none else some path)
      (inspect none port { opts with file := some path })
  | .host raw => do
    match ← exceptPure survived (splitTarget urlsplit raw port) with
    | .error err => pure (raw, .error err.message)
    | .ok (target, targetPort) =>
      let name := targetLabel target targetPort port
      settle name (some name) (inspect (some target) targetPort opts)

/-- What becomes of a work item before `_run` looks at it: the outcome of its inspection, or the
exception of splitting its target. -/
def outcomeOf (opts : InspectOptions) (port : Int) (inspect : Inspector) : WorkItem → Inspection
  | .file path => inspect none port { opts with file := some path }
  | .host raw => do
    let (target, targetPort) ← splitTarget urlsplit raw port
    inspect (some target) targetPort opts

/-! ### All of them -/

/-- The values of calls made in order: the first exception ends it. -/
def inOrder {α : Type} : List (Except PyErr α) → Except PyErr (List α)
  | [] => .ok []
  | outcome :: rest => do
    let value ← outcome
    let values ← inOrder rest
    pure (value :: values)

/-- `_map`, on the outcomes of its calls. With several workers and items the calls are made by a
pool, here under a schedule (`none` when it is not a complete one); the results are collected in the
order of the items, so the exception of the first item that has one is raised. -/
def mapItems {α : Type} (calls : List (Except PyErr α)) (workers : Int)
    (schedule : List PoolAction) : Option (Except PyErr (List α)) :=
  let workers := max 1 workers
  if 1 < workers ∧ 1 < calls.length then do
    let pool ← runPool workers.toNat calls.length (calls[·]?) schedule Pool.empty
    if pool.done calls.length then
      some (inOrder ((pool.results calls.length).filterMap id))
    else none
  else some (inOrder calls)

/-- What `_inspect_all` returns. -/
structure Report where
  results : List InspectionResult
  errors : List (Option String × String)
  codes : List Code

/-- The exit code of an entry. -/
def entryCode (entry : Entry) : Code :=
  match entry.2 with
  | .ok result => result.code
  | .error _ => .runtimeError

/-- The loop of `_inspect_all` over the entries, its printing left out. -/
def reportOf (entries : List Entry) : Report where
  results := entries.filterMap fun entry => entry.2.toOption
  errors := entries.filterMap fun entry =>
    match entry.2 with
    | .ok _ => none
    | .error message => some (some entry.1, message)
  codes := entries.map entryCode

/-- The calls of `_run` on the work items; `inspect i` is the inspection of the `i`-th item. -/
def batchCalls (args : Args) (hostTargets fileTargets : List String) (inspect : Nat → Inspector)
    (port : Int) : List (Except PyErr Entry) :=
  (workItems hostTargets fileTargets).mapIdx fun i item =>
    runItem urlsplit (.fromArgs args) port (fileTargets.length == 1) (inspect i) item

/-- `_inspect_all`. -/
def inspectAll (args : Args) (hostTargets fileTargets : List String) (inspect : Nat → Inspector)
    (schedule : List PoolAction) : Option (Except PyErr Report) :=
  match defaultPort args with
  | .error err => some (.error err)
  | .ok port =>
    (mapItems (batchCalls urlsplit args hostTargets fileTargets inspect port) args.concurrency
      schedule).map fun entries => entries.map reportOf

end Batch

/-! ### What a batch owes to its items -/

/-- The entry of an item: its result, or its name and its error. -/
inductive Accounted : Inspection → InspectionResult ⊕ (Option String × String) → Prop
  | inspected (info : CertificateInfo) (code : Code) (label : Option String) :
      Accounted (.ok (info, code)) (.inl ⟨label, info, code⟩)
  | failed (err : PyErr) (name : String) : Accounted (.error err) (.inr (some name, err.message))

/-- **A report accounts for the outcomes**: one entry for each, in order, among the results or the
errors; one code for each, in order, the runtime error for those that failed. -/
def Accounts (outcomes : List Inspection) (report : Report) : Prop :=
  ∃ entries, List.Forall₂ Accounted outcomes entries ∧
    report.results = entries.filterMap Sum.getLeft? ∧
    report.errors = entries.filterMap Sum.getRight? ∧
    report.codes = entries.map (Sum.elim InspectionResult.code fun _ => .runtimeError)

section Batch

variable (urlsplit : String → Except PyErr SplitResult) (args : Args)
  (hostTargets fileTargets : List String) (inspect : Nat → Inspector)

/-- The outcomes of the work items, in order. -/
def outcomes : List Inspection :=
  (workItems hostTargets fileTargets).mapIdx fun i item => do
    let port ← defaultPort args
    outcomeOf urlsplit (.fromArgs args) port (inspect i) item

/-- The pool can follow the schedule, complete or not. -/
def underway (schedule : List PoolAction) : Bool :=
  match defaultPort args with
  | .error _ => true
  | .ok port =>
    let calls := batchCalls urlsplit args hostTargets fileTargets inspect port
    (runPool (max 1 args.concurrency).toNat calls.length (calls[·]?) schedule Pool.empty).isSome

end Batch

/-! ### The schedule does not matter -/

section Schedules

variable {α : Type} {calls : List (Except PyErr α)} {workers : Int} {schedule : List PoolAction}

/-- Calls in order return exactly when each of them does. -/
theorem inOrder_ok_iff {values : List α} :
    inOrder calls = .ok values ↔ calls = values.map .ok := by
  induction calls generalizing values with
  | nil =>
    cases values with
    | nil => exact ⟨fun _ => rfl, fun _ => rfl⟩
    | cons => exact ⟨fun absurd => (by cases absurd), fun absurd => (by cases absurd)⟩
  | cons call rest ih =>
    unfold inOrder
    rw [bind_ok_iff]
    refine ⟨?_, ?_⟩
    · intro found
      obtain ⟨value, returned, continued⟩ := found
      obtain ⟨others, collected, whole⟩ := bind_ok_iff.mp continued
      cases whole
      rw [returned, ih.mp collected]
      rfl
    · intro all
      cases values with
      | nil => cases all
      | cons value others =>
        obtain ⟨returned, remaining⟩ := List.cons.inj all
        exact ⟨value, returned, by rw [ih.mpr remaining]; rfl⟩

/-- The places of a list, read in order, are the list. -/
theorem filterMap_places (calls : List (Except PyErr α)) :
    ((List.range calls.length).map (calls[·]?)).filterMap id = calls := by
  rw [List.filterMap_map]
  induction calls with
  | nil => rfl
  | cons call rest ih =>
    rw [List.length_cons, List.range_succ_eq_map, List.filterMap_cons, List.filterMap_map]
    exact congrArg (call :: ·) ih

/-- **Whatever the number of workers and the schedule**, `_map` gives what the calls give in
order. -/
theorem mapItems_eq {outcome : Except PyErr (List α)}
    (ran : mapItems calls workers schedule = some outcome) : outcome = inOrder calls := by
  unfold mapItems at ran
  dsimp only at ran
  split at ran
  · obtain ⟨pool, scheduled, collected⟩ := Option.bind_eq_some_iff.mp ran
    split at collected
    · rename_i done
      cases collected
      rw [runPool_results scheduled done, filterMap_places]
    · cases collected
  · cases ran
    rfl

/-- A pool that has come some way completes. -/
theorem mapItems_completes
    (far : (runPool (max 1 workers).toNat calls.length (calls[·]?) schedule Pool.empty).isSome) :
    ∃ rest outcome, mapItems calls workers (schedule ++ rest) = some outcome := by
  obtain ⟨pool, scheduled⟩ := Option.isSome_iff_exists.mp far
  have working : 0 < (max 1 workers).toNat := by omega
  obtain ⟨rest, final, complete, done⟩ := runPool_completes working scheduled
  refine ⟨rest, inOrder calls, ?_⟩
  unfold mapItems
  dsimp only
  split
  · rw [complete]
    change (if final.done calls.length = true then _ else _) = _
    rw [if_pos done, runPool_results complete done, filterMap_places]
  · rfl

end Schedules

/-! ### The entries -/

section Entries

variable {inspected : Inspection} {urlsplit : String → Except PyErr SplitResult}

/-- An entry as the sum of the two ways it ends. -/
def Entry.ended (entry : Entry) : InspectionResult ⊕ (Option String × String) :=
  match entry.2 with
  | .ok result => .inl result
  | .error message => .inr (some entry.1, message)

theorem settle_error (name : String) (label : Option String) (err : PyErr) :
    settle name label (.error err) =
      if err.isA survived then .ok (name, .error err.message) else .error err := by
  unfold settle
  rw [exceptPure_error]
  split <;> rfl

/-- **An outcome that is survived gets its entry.** -/
theorem settle_accounted (name : String) (label : Option String)
    (survives : ¬ Uncaught survived inspected) :
    ∃ entry, settle name label inspected = .ok entry ∧ Accounted inspected entry.ended := by
  cases inspected with
  | ok result => exact ⟨_, rfl, .inspected result.1 result.2 label⟩
  | error err =>
    rw [uncaught_error, Bool.not_eq_false] at survives
    refine ⟨(name, .error err.message), ?_, .failed err name⟩
    rw [settle_error, if_pos survives]

/-- An entry is given only for an outcome that is survived. -/
theorem survives_of_settle {name : String} {label : Option String} {entry : Entry}
    (settled : settle name label inspected = .ok entry) : ¬ Uncaught survived inspected := by
  intro found
  obtain ⟨err, rfl, passes⟩ := found
  rw [settle_error, passes] at settled
  cases settled

/-- Every work item is settled on its outcome. -/
theorem runItem_settles (opts : InspectOptions) (port : Int) (singleFile : Bool)
    (inspect : Inspector) (item : WorkItem) :
    ∃ name label, runItem urlsplit opts port singleFile inspect item =
      settle name label (outcomeOf urlsplit opts port inspect item) := by
  cases item with
  | file path => exact ⟨_, _, rfl⟩
  | host raw =>
    rw [runItem, outcomeOf]
    cases splitTarget urlsplit raw port with
    | ok target => exact ⟨_, _, rfl⟩
    | error err =>
      refine ⟨raw, none, ?_⟩
      change _ = settle raw none (.error err)
      rw [settle_error, exceptPure_error]
      split <;> rfl

/-- Two lists made of the same items are related place by place. -/
theorem forall₂_mapIdx {α β γ : Type} {R : β → γ → Prop} (items : List α) {f : Nat → α → β}
    {g : Nat → α → γ} (related : ∀ i item, R (f i item) (g i item)) :
    List.Forall₂ R (items.mapIdx f) (items.mapIdx g) := by
  induction items generalizing f g with
  | nil => exact .nil
  | cons item rest ih =>
    rw [List.mapIdx_cons, List.mapIdx_cons]
    exact .cons (related 0 item) (ih fun i item => related (i + 1) item)

/-- The calls of a batch are its outcomes, each settled under some name. -/
theorem batchCalls_settle {args : Args} {hostTargets fileTargets : List String}
    {inspect : Nat → Inspector} {port : Int} (known : defaultPort args = .ok port) :
    List.Forall₂ (fun outcome call => ∃ name label, call = settle name label outcome)
      (outcomes urlsplit args hostTargets fileTargets inspect)
      (batchCalls urlsplit args hostTargets fileTargets inspect port) := by
  unfold outcomes batchCalls
  simp only [known]
  exact forall₂_mapIdx _ fun i item => runItem_settles _ _ _ _ item

/-- **Outcomes that are all survived have all their entries.** -/
theorem entries_of_survived {settled : List Inspection} {calls : List (Except PyErr Entry)}
    (same : List.Forall₂ (fun outcome call => ∃ name label, call = settle name label outcome)
      settled calls)
    (survives : ∀ outcome ∈ settled, ¬ Uncaught survived outcome) :
    ∃ entries : List Entry, calls = entries.map .ok ∧
      List.Forall₂ Accounted settled (entries.map Entry.ended) := by
  induction same with
  | nil => exact ⟨[], rfl, .nil⟩
  | cons here _ ih =>
    obtain ⟨name, label, rfl⟩ := here
    obtain ⟨first, rest⟩ := List.forall_mem_cons.mp survives
    obtain ⟨entry, settles, accounted⟩ := settle_accounted name label first
    obtain ⟨entries, rfl, others⟩ := ih rest
    exact ⟨entry :: entries, by rw [settles]; rfl, .cons accounted others⟩

/-- Entries for all of them are given only when all outcomes are survived. -/
theorem survived_of_entries {settled : List Inspection} {calls : List (Except PyErr Entry)}
    (same : List.Forall₂ (fun outcome call => ∃ name label, call = settle name label outcome)
      settled calls) {entries : List Entry} (all : calls = entries.map .ok) :
    ∀ outcome ∈ settled, ¬ Uncaught survived outcome := by
  induction same generalizing entries with
  | nil => exact fun _ absurd => by cases absurd
  | cons here _ ih =>
    cases entries with
    | nil => cases all
    | cons entry entries =>
      obtain ⟨name, label, rfl⟩ := here
      obtain ⟨settles, others⟩ := List.cons.inj all
      exact List.forall_mem_cons.mpr ⟨survives_of_settle settles, ih others⟩

/-- The report on the entries accounts for the outcomes they are of. -/
theorem reportOf_accounts {settled : List Inspection} {entries : List Entry}
    (accounted : List.Forall₂ Accounted settled (entries.map Entry.ended)) :
    Accounts settled (reportOf entries) := by
  refine ⟨entries.map Entry.ended, accounted, ?_, ?_, ?_⟩
  · rw [List.filterMap_map]
    refine List.filterMap_congr fun entry _ => ?_
    rcases entry with ⟨name, message | result⟩ <;> rfl
  · rw [List.filterMap_map]
    refine List.filterMap_congr fun entry _ => ?_
    rcases entry with ⟨name, message | result⟩ <;> rfl
  · rw [List.map_map]
    refine List.map_congr_left fun entry _ => ?_
    rcases entry with ⟨name, message | result⟩ <;> rfl

end Entries

/-! ### The result -/

section Result

variable {urlsplit : String → Except PyErr SplitResult} {args : Args}
  {hostTargets fileTargets : List String} {inspect : Nat → Inspector}

/-- What a batch returns, when its schedule is complete. -/
theorem inspectAll_eq {port : Int} (known : defaultPort args = .ok port)
    {schedule : List PoolAction} {outcome : Except PyErr Report}
    (ran : inspectAll urlsplit args hostTargets fileTargets inspect schedule = some outcome) :
    outcome = (inOrder (batchCalls urlsplit args hostTargets fileTargets inspect port)).map
      reportOf := by
  unfold inspectAll at ran
  rw [known] at ran
  obtain ⟨collected, mapped, rfl⟩ := Option.map_eq_some_iff.mp ran
  rw [mapItems_eq mapped]

/-- A batch that has come some way completes. -/
theorem inspectAll_completes {schedule : List PoolAction}
    (far : underway urlsplit args hostTargets fileTargets inspect schedule = true) :
    ∃ rest outcome,
      inspectAll urlsplit args hostTargets fileTargets inspect (schedule ++ rest) = some outcome := by
  unfold underway at far
  unfold inspectAll
  cases known : defaultPort args with
  | error err => exact ⟨[], .error err, rfl⟩
  | ok port =>
    rw [known] at far
    obtain ⟨rest, collected, mapped⟩ := mapItems_completes far
    exact ⟨rest, collected.map reportOf, by dsimp only; rw [mapped]; rfl⟩

/-- The outcomes that a batch survives. -/
def AllSurvived (urlsplit : String → Except PyErr SplitResult) (args : Args)
    (hostTargets fileTargets : List String) (inspect : Nat → Inspector) : Prop :=
  (∃ port, defaultPort args = .ok port) ∧
    ∀ outcome ∈ outcomes urlsplit args hostTargets fileTargets inspect, ¬ Uncaught survived outcome

/-- A batch whose outcomes are all survived returns a report that accounts for them. -/
theorem inspectAll_of_survived
    (survives : AllSurvived urlsplit args hostTargets fileTargets inspect) :
    ∃ report, Accounts (outcomes urlsplit args hostTargets fileTargets inspect) report ∧
      ∀ workers schedule outcome,
        inspectAll urlsplit { args with concurrency := workers } hostTargets fileTargets inspect
          schedule = some outcome → outcome = .ok report := by
  obtain ⟨⟨port, known⟩, each⟩ := survives
  obtain ⟨entries, all, accounted⟩ := entries_of_survived (batchCalls_settle known) each
  refine ⟨reportOf entries, reportOf_accounts accounted, fun workers schedule outcome ran => ?_⟩
  have whole : inOrder (batchCalls urlsplit { args with concurrency := workers } hostTargets
      fileTargets inspect port) = .ok entries := inOrder_ok_iff.mpr all
  have knownHere : defaultPort { args with concurrency := workers } = .ok port := known
  rw [inspectAll_eq knownHere ran, whole]
  rfl

/-- A batch that returns has survived all its outcomes. -/
theorem survived_of_inspectAll {schedule : List PoolAction} {report : Report}
    (ran : inspectAll urlsplit args hostTargets fileTargets inspect schedule = some (.ok report)) :
    AllSurvived urlsplit args hostTargets fileTargets inspect := by
  cases known : defaultPort args with
  | error err =>
    unfold inspectAll at ran
    rw [known] at ran
    cases ran
  | ok port =>
    refine ⟨⟨port, known⟩, ?_⟩
    have returned := inspectAll_eq known ran
    cases collected : inOrder (batchCalls urlsplit args hostTargets fileTargets inspect port) with
    | error err =>
      rw [collected] at returned
      cases returned
    | ok entries =>
      exact survived_of_entries (batchCalls_settle known) (inOrder_ok_iff.mp collected)

/-- **One bad target never loses the others, as long as its exception is survived.** For every
command line, every list of targets and every outcome of each single inspection: all numbers of
workers and all schedules return one and the same report, which accounts for every item, if and only
if `--starttls` names a known protocol and no outcome is an exception other than `OSError`,
`SSLError` and `ValueError`. No schedule gets stuck. -/
theorem inspectAll_returns_iff (urlsplit : String → Except PyErr SplitResult) (args : Args)
    (hostTargets fileTargets : List String) (inspect : Nat → Inspector) :
    (∃ report, Accounts (outcomes urlsplit args hostTargets fileTargets inspect) report ∧
      ∀ workers : Int,
        (∀ schedule, underway urlsplit { args with concurrency := workers } hostTargets fileTargets
            inspect schedule = true →
          ∃ rest outcome, inspectAll urlsplit { args with concurrency := workers } hostTargets
            fileTargets inspect (schedule ++ rest) = some outcome) ∧
        ∀ schedule outcome, inspectAll urlsplit { args with concurrency := workers } hostTargets
          fileTargets inspect schedule = some outcome → outcome = .ok report) ↔
    (∃ port, defaultPort args = .ok port) ∧
      ∀ outcome ∈ outcomes urlsplit args hostTargets fileTargets inspect,
        ¬ Uncaught survived outcome := by
  refine ⟨?_, ?_⟩
  · intro found
    obtain ⟨report, _, returns⟩ := found
    obtain ⟨completes, same⟩ := returns args.concurrency
    have start : underway urlsplit args hostTargets fileTargets inspect [] = true := by
      unfold underway
      cases defaultPort args <;> rfl
    obtain ⟨schedule, outcome, ran⟩ := completes [] start
    rw [same _ _ ran] at ran
    exact survived_of_inspectAll ran
  · intro survives
    obtain ⟨report, accounts, same⟩ := inspectAll_of_survived survives
    exact ⟨report, accounts, fun workers =>
      ⟨fun schedule far => inspectAll_completes far, fun schedule outcome => same workers _ _⟩⟩

end Result

/-! ### Two files, one with a key of an unknown type -/

/-- A certificate with a key of a type the package does not know. -/
def sampleUnknownKey : Certificate :=
  { Revocation.sampleLeaf [] with
    der := ascii "gost"
    publicKey := .error ⟨.unsupportedAlgorithm, "Unknown key type: 1.2.643.7.1.1.1.1"⟩ }

/-- The package, on the encodings of the two certificates. -/
def sampleReader : Cryptography :=
  { Revocation.samplePackage (Revocation.sampleCrl [] []) with
    loadDerX509Certificate := fun raw =>
      if raw = ascii "leaf" then .ok (Revocation.sampleLeaf [])
      else if raw = ascii "gost" then .ok sampleUnknownKey
      else .error ⟨.valueError, "error parsing asn1 value"⟩ }

/-- `[Errno 101] Network is unreachable`. -/
def unreachable : PyErr := ⟨.osError, "[Errno 101] Network is unreachable"⟩

/-- A machine without a network that has the two files, on some day of 1970. -/
def sampleMachine (today : Int) : Surroundings Unit where
  out :=
    { now := fun _ => today * Instant.day
      today := today
      readFile := fun _ path =>
        if path = "leaf.pem" then .ok (ascii "leaf")
        else if path = "gost.pem" then .ok (ascii "gost")
        else .error ⟨.osError, s!"[Errno 2] No such file or directory: '{path}'"⟩
      readStdin := fun _ => .ok []
      writeFile := fun _ _ _ => .ok ()
      urlsplit := fun raw => .ok ⟨some raw, .ok none, none, none⟩
      getproxies := fun _ => []
      proxyBypass := fun _ _ => false
      createDefaultContext := fun _ _ _ => .ok ()
      loadCertChain := fun _ _ _ => .ok ()
      createConnection := fun _ _ _ _ => .error unreachable
      wrapSocket := fun _ _ _ => .error unreachable
      verifyMessage := PyErr.message
      getCaCerts := fun _ _ => []
      settimeout := fun _ => .ok ()
      takesDnsName := fun _ => .ok ()
      buildServerVerifier := fun _ _ => .ok ()
      verifyPath := fun _ _ _ _ _ => .error ⟨.verificationError, "candidates exhausted"⟩ }
  web := ⟨fun _ _ => throw ⟨unreachable, by decide⟩⟩
  network := ()

/-- The options of `certinspect --no-verify --file leaf.pem --file gost.pem`. -/
def sampleArgs : Args := { verify := false }

/-- One file is inspected, the other raises `UnsupportedAlgorithm`; the batch raises it too and
returns nothing of either. -/
theorem inspectAll_returns_counterexample :
    let urlsplit := (sampleMachine 10).out.urlsplit
    let files := ["leaf.pem", "gost.pem"]
    let inspect : Nat → Inspector := fun _ => inspectIn sampleReader (sampleMachine 10)
    (outcomes urlsplit sampleArgs [] files inspect).map Except.isOk = [true, false] ∧
      inspectAll urlsplit sampleArgs [] files inspect [] = some (.error
        ⟨.unsupportedAlgorithm, "Unknown key type: 1.2.643.7.1.1.1.1"⟩) ∧
      ¬ ∃ report, Accounts (outcomes urlsplit sampleArgs [] files inspect) report ∧
        ∀ workers : Int,
          (∀ schedule, underway urlsplit { sampleArgs with concurrency := workers } [] files
              inspect schedule = true →
            ∃ rest outcome, inspectAll urlsplit { sampleArgs with concurrency := workers } []
              files inspect (schedule ++ rest) = some outcome) ∧
          ∀ schedule outcome, inspectAll urlsplit { sampleArgs with concurrency := workers } []
            files inspect schedule = some outcome → outcome = .ok report := by
  dsimp only
  have lost : inspectAll (sampleMachine 10).out.urlsplit sampleArgs [] ["leaf.pem", "gost.pem"]
      (fun _ => inspectIn sampleReader (sampleMachine 10)) [] = some (.error
        ⟨.unsupportedAlgorithm, "Unknown key type: 1.2.643.7.1.1.1.1"⟩) := by rfl
  refine ⟨by rfl, lost, ?_⟩
  intro found
  obtain ⟨report, _, returns⟩ := found
  have returned := (returns 1).2 [] _ lost
  cases returned

end Certinspect.Cli
