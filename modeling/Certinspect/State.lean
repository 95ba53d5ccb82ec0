/-
**The state file across runs, `state.py`.**

Every run merges what it saw with what the file remembers: the status of an inspected target
replaces the old one, a target that failed keeps its old status, and any other target is dropped.

* `updateState`, `loadState`, `saveState` — the code, on the content of the file.
* `StateFile.tells` — what a file says of a target, read off the members of its object.
* `LastKnown initial runs t value` — the abstract history: `value` is the status of `t` in the
  latest of the runs that inspected it, or in the initial file, and `t` occurred in every run since.
* `updateState_written` — what one run reports, and does to what the file says; `tells_fileAfter` — what
  any number do.
* `Tracks` — after a history, a run reports exactly the targets whose status is not their last known
  one, and leaves exactly the last known statuses of its targets.
* **`updateState_history`** — it does so exactly when the initial file can be parsed or is refused with
  an exception that `load_state` catches.
-/

import Certinspect.Library.Dict
import Certinspect.Library.Json
import Certinspect.Models
import Mathlib.Data.Finset.Image

namespace Certinspect.State

open Library

/-! ### The file -/

/-- The content of the state file: what opening it and `json.load` make of it. -/
inductive StateFile
  /-- The file cannot be opened or read: an `OSError`. -/
  | missing
  /-- The file is not JSON: a `ValueError`. -/
  | malformed
  /-- The file is nested beyond the recursion limit of the interpreter: a `RecursionError`. -/
  | tooDeep
  | holds (value : Json)

/-- The target → status mapping. -/
abbrev Statuses : Type := Dict String Json

/-- `load_state`: of the exceptions only `OSError` and `ValueError` are caught. -/
def loadState : StateFile → Except PyErr Statuses
  | .tooDeep => .error ⟨.recursionError, "maximum recursion depth exceeded"⟩
  | .holds (.object members) => .ok (Dict.ofPairs members)
  | _ => .ok ∅

/-- How the writing of the file ends: done, or with an `OSError` that leaves some content. -/
inductive WriteOutcome
  | written
  | failed (left : StateFile)

/-- `save_state`: the content of the file afterwards. -/
def saveState (outcome : WriteOutcome) (state : Statuses) : StateFile :=
  match outcome with
  | .written => .holds (.object state.items)
  | .failed left => left

/-! ### One run -/

/-- What one run hands to `update_state`. -/
structure Run where
  results : List InspectionResult
  errors : List (Option String × String)

/-- The labelled statuses of the results, in order. -/
def Run.statuses (run : Run) : List (String × Json) :=
  run.results.filterMap fun r => r.label.map fun label => (label, .string r.info.status.str)

/-- Whether a status differs from the one remembered: `previous.get(t) != status`. -/
def differs (previous : Option Json) (status : Json) : Bool :=
  match previous, status with
  | some (.string old), .string new => old != new
  | _, _ => true

/-- The targets whose status is not the one remembered. -/
def changedTargets (previous : Statuses) (run : Run) : Finset String :=
  let current : Statuses := Dict.ofPairs run.statuses
  ((current.items.filter fun item => differs (previous.lookup item.1) item.2).map Prod.fst).toFinset

/-- What is remembered of the failed targets, and over it the statuses of the run. -/
def merged (previous : Statuses) (run : Run) : Statuses :=
  let current : Statuses := Dict.ofPairs run.statuses
  let failed := run.errors.map Prod.fst
  let kept : Statuses := Dict.ofPairs (previous.items.filter fun item => failed.contains (some item.1))
  Dict.ofPairs (kept.items ++ current.items)

/-- `update_state`: the changed targets and the content of the file afterwards. -/
def updateState (file : StateFile) (outcome : WriteOutcome) (run : Run) :
    Except PyErr (Finset String × StateFile) := do
  let previous ← loadState file
  pure (changedTargets previous run, saveState outcome (merged previous run))

/-- The content of the file after a run whose save succeeds; one that raises leaves it as it was. -/
def leftBy (file : StateFile) (run : Run) : StateFile :=
  match updateState file .written run with
  | .ok (_, left) => left
  | .error _ => file

/-- The content of the file after these runs, all of whose saves succeed. -/
def fileAfter (file : StateFile) (runs : List Run) : StateFile := runs.foldl leftBy file

/-! ### The history -/

/-- What a file says of a target: the value of its last member of that name. -/
def StateFile.tells : StateFile → String → Option Json
  | .holds (.object members), t => lastValue t members
  | _, _ => none

/-- The status of the target in the run, its last result counting. -/
def Run.statusOf (run : Run) (t : String) : Option Status :=
  (run.results.reverse.find? fun r => r.label == some t).map fun r => r.info.status

/-- The target is among the results or the errors of the run. -/
def Run.Names (run : Run) (t : String) : Prop :=
  (∃ r ∈ run.results, r.label = some t) ∨ ∃ message, (some t, message) ∈ run.errors

/-- The run names the target, but only as failed. -/
def Run.Missed (run : Run) (t : String) : Prop := run.statusOf t = none ∧ run.Names t

/-- **The last known status of a target**: from the latest run that inspected it, or from the initial
file, when every run since names it. -/
def LastKnown (initial : String → Option Json) (runs : List Run) (t : String) (value : Json) : Prop :=
  (∃ before run after status, runs = before ++ run :: after ∧ run.statusOf t = some status ∧
      value = .string status.str ∧ ∀ later ∈ after, later.Missed t) ∨
    (initial t = some value ∧ ∀ run ∈ runs, run.Missed t)

/-- **The file tracks the last known statuses.** After the earlier runs, this one returns; what it reports
as changed and what it leaves in the file are the last known statuses. So an outage of any length is not
a change, a change during one is reported when it ends, and a removed target is forgotten. -/
structure Tracked (initial : StateFile) (runs : List Run) (run : Run) (changed : Finset String)
    (left : StateFile) : Prop where
  reported : ∀ t, t ∈ changed ↔ ∃ status, run.statusOf t = some status ∧
    ¬ LastKnown initial.tells runs t (.string status.str)
  held : ∀ t value, left.tells t = some value ↔
    run.Names t ∧ LastKnown initial.tells (runs ++ [run]) t value
  outage : ∀ t before seen outage old new, runs = before ++ seen :: outage →
    seen.statusOf t = some old → (∀ later ∈ outage, later.Missed t) → run.statusOf t = some new →
      (t ∈ changed ↔ new ≠ old)
  forgotten : ∀ t, ¬ run.Names t → left.tells t = none

/-- After the earlier runs, this run returns with what the history has. -/
def Tracks (initial : StateFile) (runs : List Run) (run : Run) : Prop :=
  ∃ changed left, updateState (fileAfter initial runs) .written run = .ok (changed, left) ∧
    Tracked initial runs run changed left

/-! ### What one run does -/

section Step

variable {file : StateFile}

theorem statusOf_eq_none_iff {run : Run} {t : String} :
    run.statusOf t = none ↔ ∀ r ∈ run.results, r.label ≠ some t := by
  unfold Run.statusOf
  rw [Option.map_eq_none_iff, List.find?_eq_none]
  simp only [List.mem_reverse, beq_iff_eq]

/-- A target that was not inspected is named only as failed. -/
theorem missed_iff {run : Run} {t : String} :
    run.Missed t ↔ run.statusOf t = none ∧ some t ∈ run.errors.map Prod.fst := by
  unfold Run.Missed Run.Names
  refine and_congr_right fun uninspected => ?_
  rw [statusOf_eq_none_iff] at uninspected
  refine ⟨?_, ?_⟩
  · intro either
    rcases either with ⟨r, member, labelled⟩ | ⟨message, member⟩
    · exact (uninspected r member labelled).elim
    · exact List.mem_map.mpr ⟨_, member, rfl⟩
  · intro failed
    obtain ⟨⟨name, message⟩, member, same⟩ := List.mem_map.mp failed
    cases same
    exact Or.inr ⟨message, member⟩

/-- The last labelled status of a run is the one that counts. -/
theorem lastValue_statuses (run : Run) (t : String) :
    lastValue t run.statuses = (run.statusOf t).map fun status => .string status.str := by
  have scan : ∀ results : List InspectionResult,
      (results.filterMap fun r => r.label.map fun label =>
        (label, Json.string r.info.status.str)).findSome?
          (fun pair => if pair.1 = t then some pair.2 else none) =
        ((results.find? fun r => r.label == some t).map fun r => r.info.status).map
          fun status => Json.string status.str := by
    intro results
    induction results with
    | nil => rfl
    | cons r rest ih =>
      cases label : r.label with
      | none => simp [label, ih]
      | some name =>
        by_cases same : name = t
        · simp [label, same]
        · simp [label, same, ih]
  unfold lastValue Run.statuses Run.statusOf
  rw [← List.filterMap_reverse]
  exact scan run.results.reverse

/-- **A file that is loaded** is any but the one that is nested too deep; the mapping is what it says. -/
theorem loadState_ok (readable : file ≠ .tooDeep) :
    ∃ previous, loadState file = .ok previous ∧ ∀ t, previous.lookup t = file.tells t := by
  cases file with
  | tooDeep => exact (readable rfl).elim
  | missing | malformed => exact ⟨∅, rfl, fun t => rfl⟩
  | holds value =>
    cases value with
    | object members => exact ⟨_, rfl, fun t => lookup_ofPairs t members⟩
    | _ => exact ⟨∅, rfl, fun t => rfl⟩

/-- **What one run does to the mapping**: an inspected target gets its status, a failed one keeps
what was known, any other is forgotten. -/
theorem lookup_merged (previous : Statuses) (run : Run) (t : String) :
    (merged previous run).lookup t =
      match run.statusOf t with
      | some status => some (.string status.str)
      | none => if some t ∈ run.errors.map Prod.fst then previous.lookup t else none := by
  unfold merged
  dsimp only
  rw [lookup_ofPairs_append, lookup_ofPairs_items, lookup_ofPairs_items, lookup_ofPairs, lastValue_statuses,
    lookup_ofPairs_filter previous fun name => (run.errors.map Prod.fst).contains (some name)]
  cases run.statusOf t with
  | some status => rfl
  | none => exact if_congr List.contains_iff_mem rfl rfl

/-- A run reports the targets whose status is not the one remembered. -/
theorem mem_changedTargets (previous : Statuses) (run : Run) (t : String) :
    t ∈ changedTargets previous run ↔ ∃ status, run.statusOf t = some status ∧
      previous.lookup t ≠ some (.string status.str) := by
  have compares : ∀ (remembered : Option Json) (status : Status),
      differs remembered (.string status.str) = true ↔ remembered ≠ some (.string status.str) := by
    intro remembered status
    cases remembered with
    | none => simp [differs]
    | some old => cases old <;> simp [differs]
  have current : ∀ value, (t, value) ∈ (Dict.ofPairs run.statuses).items ↔
      ∃ status, run.statusOf t = some status ∧ value = .string status.str := by
    intro value
    rw [mem_items_iff, lookup_ofPairs, lastValue_statuses, Option.map_eq_some_iff]
    exact exists_congr fun status => and_congr_right fun _ => eq_comm
  show t ∈ List.toFinset _ ↔ _
  rw [List.mem_toFinset, List.mem_map]
  refine ⟨?_, ?_⟩
  · intro found
    obtain ⟨⟨name, value⟩, member, rfl⟩ := found
    obtain ⟨inside, differ⟩ := List.mem_filter.mp member
    obtain ⟨status, inspected, rfl⟩ := (current value).mp inside
    exact ⟨status, inspected, (compares _ status).mp differ⟩
  · intro found
    obtain ⟨status, inspected, differ⟩ := found
    refine ⟨(t, .string status.str), List.mem_filter.mpr ⟨?_, ?_⟩, rfl⟩
    · exact (current _).mpr ⟨status, inspected, rfl⟩
    · exact (compares _ status).mpr differ

/-- **What one run returns and leaves**, on a file that is loaded. -/
theorem updateState_ok (readable : file ≠ .tooDeep) (outcome : WriteOutcome) (run : Run) :
    ∃ changed state, updateState file outcome run = .ok (changed, saveState outcome state) ∧
      (∀ t, t ∈ changed ↔ ∃ status, run.statusOf t = some status ∧
        file.tells t ≠ some (.string status.str)) ∧
      ∀ t, state.lookup t =
        match run.statusOf t with
        | some status => some (.string status.str)
        | none => if some t ∈ run.errors.map Prod.fst then file.tells t else none := by
  obtain ⟨previous, loaded, told⟩ := loadState_ok readable
  refine ⟨changedTargets previous run, merged previous run, ?_, fun t => ?_, fun t => ?_⟩
  · unfold updateState
    rw [loaded]
    rfl
  · rw [mem_changedTargets, told]
  · rw [lookup_merged, told]

/-- What a saved mapping says. -/
theorem tells_saved (state : Statuses) (t : String) : (saveState .written state).tells t = state.lookup t := by
  show lastValue t state.items = _
  rw [← lookup_ofPairs, lookup_ofPairs_items]

/-- **What a run reports and leaves**, when its save succeeds. -/
theorem updateState_written {run : Run} {changed : Finset String} {left : StateFile}
    (readable : file ≠ .tooDeep) (updated : updateState file .written run = .ok (changed, left)) :
    left ≠ .tooDeep ∧
      (∀ t, t ∈ changed ↔ ∃ status, run.statusOf t = some status ∧
        file.tells t ≠ some (.string status.str)) ∧
      ∀ t, left.tells t =
        match run.statusOf t with
        | some status => some (.string status.str)
        | none => if some t ∈ run.errors.map Prod.fst then file.tells t else none := by
  obtain ⟨own, state, saved, compared, looked⟩ := updateState_ok readable .written run
  obtain ⟨rfl, rfl⟩ := Prod.mk.inj (Except.ok.inj (updated.symm.trans saved))
  exact ⟨fun absurd => (by cases absurd), compared, fun t => (tells_saved state t).trans (looked t)⟩

theorem updateState_leftBy (readable : file ≠ .tooDeep) (run : Run) :
    ∃ changed, updateState file .written run = .ok (changed, leftBy file run) := by
  obtain ⟨changed, state, updated, _⟩ := updateState_ok readable .written run
  unfold leftBy
  rw [updated]
  exact ⟨changed, rfl⟩

end Step

/-! ### Any number of runs -/

section History

variable {initial : String → Option Json} {runs : List Run} {run : Run} {t : String}

/-- The last known status after one more run. -/
theorem lastKnown_concat {value : Json} :
    LastKnown initial (runs ++ [run]) t value ↔
      (∃ status, run.statusOf t = some status ∧ value = .string status.str) ∨
        (run.Missed t ∧ LastKnown initial runs t value) := by
  refine ⟨?_, ?_⟩
  · intro either
    rcases either with ⟨before, at', after, status, split, inspected, rfl, missed⟩ | ⟨held, missed⟩
    · rcases List.eq_nil_or_concat after with rfl | ⟨later, last, rfl⟩
      · obtain ⟨rfl, same⟩ := List.append_inj' split rfl
        cases same
        exact Or.inl ⟨status, inspected, rfl⟩
      · rw [List.concat_eq_append, ← List.cons_append, ← List.append_assoc] at split
        obtain ⟨rfl, same⟩ := List.append_inj' split rfl
        cases same
        refine Or.inr ⟨missed run (by simp), Or.inl ⟨before, at', later, status, rfl, inspected, rfl, ?_⟩⟩
        exact fun earlier member => missed earlier (by simp [member])
    · refine Or.inr ⟨missed run (by simp), Or.inr ⟨held, fun earlier member => ?_⟩⟩
      exact missed earlier (List.mem_append_left _ member)
  · intro either
    rcases either with ⟨status, inspected, rfl⟩ | ⟨here, known⟩
    · exact Or.inl ⟨runs, run, [], status, rfl, inspected, rfl, fun _ absurd => by cases absurd⟩
    · rcases known with ⟨before, at', after, status, rfl, inspected, rfl, missed⟩ | ⟨held, missed⟩
      · refine Or.inl ⟨before, at', after ++ [run], status, by simp, inspected, rfl, ?_⟩
        intro later member
        rcases List.mem_append.mp member with member | member
        · exact missed later member
        · rw [List.mem_singleton.mp member]
          exact here
      · refine Or.inr ⟨held, fun earlier member => ?_⟩
        rcases List.mem_append.mp member with member | member
        · exact missed earlier member
        · rw [List.mem_singleton.mp member]
          exact here

theorem fileAfter_concat (file : StateFile) (runs : List Run) (run : Run) :
    fileAfter file (runs ++ [run]) = leftBy (fileAfter file runs) run := by
  unfold fileAfter
  rw [List.foldl_append]
  rfl

/-- **The file says exactly the last known statuses**, after any number of runs; the induction is on the
history, from its latest run. -/
theorem tells_fileAfter {file : StateFile} (readable : file ≠ .tooDeep) (runs : List Run) :
    fileAfter file runs ≠ .tooDeep ∧
      ∀ t value, (fileAfter file runs).tells t = some value ↔ LastKnown file.tells runs t value := by
  induction runs using List.reverseRecOn with
  | nil =>
    refine ⟨readable, fun t value => ⟨?_, ?_⟩⟩
    · exact fun held => Or.inr ⟨held, fun _ absurd => by cases absurd⟩
    · intro either
      rcases either with ⟨before, _, _, _, split, _⟩ | ⟨held, _⟩
      · cases before <;> cases split
      · exact held
  | append_singleton runs run ih =>
    obtain ⟨reached, known⟩ := ih
    obtain ⟨changed, updated⟩ := updateState_leftBy reached run
    obtain ⟨written, _, told⟩ := updateState_written reached updated
    rw [fileAfter_concat]
    refine ⟨written, fun t value => ?_⟩
    rw [told, lastKnown_concat, missed_iff, ← known]
    cases inspected : run.statusOf t with
    | some status =>
      refine ⟨?_, ?_⟩
      · intro same
        cases same
        exact Or.inl ⟨status, rfl, rfl⟩
      · intro either
        rcases either with ⟨_, same, rfl⟩ | ⟨⟨absurd, _⟩, _⟩
        · cases same
          rfl
        · cases absurd
    | none =>
      by_cases failed : some t ∈ run.errors.map Prod.fst
      · rw [if_pos failed]
        refine ⟨?_, ?_⟩
        · exact fun held => Or.inr ⟨⟨rfl, failed⟩, held⟩
        · intro either
          rcases either with ⟨_, absurd, _⟩ | ⟨_, held⟩
          · cases absurd
          · exact held
      · rw [if_neg failed]
        refine ⟨?_, ?_⟩
        · exact fun absurd => by cases absurd
        · intro either
          rcases either with ⟨_, absurd, _⟩ | ⟨⟨_, named⟩, _⟩
          · cases absurd
          · exact (failed named).elim

/-- A file that cannot be loaded stays as it is. -/
theorem fileAfter_tooDeep (runs : List Run) : fileAfter .tooDeep runs = .tooDeep := by
  induction runs with
  | nil => rfl
  | cons run rest ih => exact ih

/-- A target that the last run does not name has no last known status. -/
theorem not_lastKnown_of_dropped (dropped : ¬ run.Names t) (value : Json) :
    ¬ LastKnown initial (runs ++ [run]) t value := by
  rw [lastKnown_concat]
  intro either
  rcases either with ⟨status, inspected, _⟩ | ⟨missed, _⟩
  · refine dropped (Or.inl ?_)
    by_contra none
    have uninspected : run.statusOf t = Option.none :=
      statusOf_eq_none_iff.mpr fun r member labelled => none ⟨r, member, labelled⟩
    rw [uninspected] at inspected
    cases inspected
  · exact dropped missed.2

/-- The last known status across an outage is the one from before it. -/
theorem lastKnown_outage {before outage : List Run} {seen : Run} {status : Status}
    (inspected : seen.statusOf t = some status) (missed : ∀ later ∈ outage, later.Missed t)
    (value : Json) :
    LastKnown initial (before ++ seen :: outage) t value ↔ value = .string status.str := by
  induction outage using List.reverseRecOn with
  | nil =>
    rw [lastKnown_concat]
    refine ⟨?_, ?_⟩
    · intro either
      rcases either with ⟨_, same, rfl⟩ | ⟨⟨absurd, _⟩, _⟩
      · rw [inspected] at same
        cases same
        rfl
      · rw [inspected] at absurd
        cases absurd
    · exact fun same => Or.inl ⟨status, inspected, same⟩
  | append_singleton outage last ih =>
    have here : last.Missed t := missed last (by simp)
    have earlier := ih fun later member => missed later (List.mem_append_left _ member)
    rw [← List.cons_append, ← List.append_assoc, lastKnown_concat, earlier]
    refine ⟨?_, ?_⟩
    · intro either
      rcases either with ⟨_, absurd, _⟩ | ⟨_, same⟩
      · rw [here.1] at absurd
        cases absurd
      · exact same
    · exact fun same => Or.inr ⟨here, same⟩

theorem status_str_injective : Function.Injective Status.str := by
  intro first second
  cases first <;> cases second <;> simp [Status.str]

/-- **Exactly when the state file tracks the last known statuses over whole histories.** Whatever the
earlier runs saw, a run does so unless the initial file is nested beyond the recursion limit: then no run
returns. A file that is missing or is not JSON is an empty history. -/
theorem updateState_history (file : StateFile) (runs : List Run) (run : Run) :
    Tracks file runs run ↔ file ≠ .tooDeep := by
  refine ⟨?_, fun readable => ?_⟩
  · rintro ⟨changed, left, updated, _⟩ rfl
    rw [fileAfter_tooDeep] at updated
    cases updated
  obtain ⟨reached, known⟩ := tells_fileAfter readable runs
  obtain ⟨changed, updated⟩ := updateState_leftBy reached run
  obtain ⟨_, compared, _⟩ := updateState_written reached updated
  rw [← fileAfter_concat] at updated
  have reported : ∀ t, t ∈ changed ↔ ∃ status, run.statusOf t = some status ∧
      ¬ LastKnown file.tells runs t (.string status.str) := by
    intro t
    rw [compared]
    exact exists_congr fun status => and_congr_right fun _ => not_congr (known t _)
  have held := (tells_fileAfter readable (runs ++ [run])).2
  refine ⟨changed, _, updated, reported, fun t value => ?_, ?_, fun t dropped => ?_⟩
  · rw [held]
    refine ⟨fun known => ⟨?_, known⟩, And.right⟩
    by_contra dropped
    exact not_lastKnown_of_dropped dropped value known
  · rintro t before seen outage old new rfl inspected missed renewed
    rw [reported]
    refine ⟨?_, ?_⟩
    · rintro ⟨status, same, unknown⟩ rfl
      rw [renewed] at same
      cases same
      exact unknown ((lastKnown_outage inspected missed _).mpr rfl)
    · intro differ
      refine ⟨new, renewed, fun known => differ ?_⟩
      have same := (lastKnown_outage inspected missed _).mp known
      exact status_str_injective (Json.string.inj same)
  · refine Option.eq_none_iff_forall_ne_some.mpr fun value found => ?_
    exact not_lastKnown_of_dropped dropped value ((held t value).mp found)

/-- A file of brackets, nested beyond the recursion limit: the exception leaves `update_state`, although
a malformed file is to be an empty history. -/
theorem updateState_counterexample :
    updateState .tooDeep .written ⟨[], [(some "a.com", "timed out")]⟩ =
        .error ⟨.recursionError, "maximum recursion depth exceeded"⟩ ∧
      ¬ Tracks .tooDeep [] ⟨[], [(some "a.com", "timed out")]⟩ := by
  refine ⟨rfl, ?_⟩
  rintro ⟨changed, left, updated, _⟩
  cases updated

end History

end Certinspect.State
