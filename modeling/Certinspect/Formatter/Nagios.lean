/-
**The Nagios plugin output, `format_nagios` in `formatter.py`.**

* `formatNagios` — one line for each target, and the worst plugin state of all of them.
* `formatNagios_code` — its code is the one that the end of `main` exits with.
* `nagiosSeverity_follows` — the plugin states follow the severity order of the native exit codes.
* **`formatNagios_agrees`** — so the plugin state of a batch is that of its most severe exit code.
-/

import Certinspect.Cli.ExitStatus

namespace Certinspect.Formatter

open Library Cli

/-! ### The output -/

/-- `_status_of`: the status set during the inspection. -/
def statusOf (info : CertificateInfo) : Status := info.status

/-- `_NAGIOS_LABELS`. -/
def nagiosLabel (state : Int) : String :=
  if state = 0 then "OK" else if state = 1 then "WARNING"
  else if state = 2 then "CRITICAL" else "UNKNOWN"

/-- The line of an inspected target. -/
def nagiosResultLine (warnDays : Int) (criticalDays : Option Int) (result : InspectionResult) :
    String :=
  let days := result.info.daysToExpire
  let perfdata := s!"days={days};{warnDays}:;{criticalDays.getD 0}:"
  s!"{nagiosLabel (nagiosSeverity result.code)}: {result.shownName} certificate " ++
    s!"{(statusOf result.info).str} ({days} days to expiry) | {perfdata}"

/-- The line of a target that could not be inspected. -/
def nagiosErrorLine (error : Option String × String) : String :=
  let name := (given error.1).getD "target"
  s!"{nagiosLabel 2}: {name} unreachable ({error.2})"

/-- `format_nagios`. -/
def formatNagios (results : List InspectionResult) (errors : List (Option String × String))
    (warnDays : Int) (criticalDays : Option Int) : String × Int :=
  let inspected := results.foldl (fun worst result => max worst (nagiosSeverity result.code)) 0
  let worst := errors.foldl (fun worst _ => max worst 2) inspected
  match results.map (nagiosResultLine warnDays criticalDays) ++ errors.map nagiosErrorLine with
  | [] => (s!"{nagiosLabel 3}: no targets inspected", 3)
  | line :: lines => ("\n".intercalate (line :: lines), worst)

/-! ### The state of a batch -/

section State

variable (results : List InspectionResult) (errors : List (Option String × String))
  (warnDays : Int) (criticalDays : Option Int)

/-- The codes of a batch; a target that could not be inspected counts as a runtime error. -/
def batchCodes : List Code := results.map InspectionResult.code ++ errors.map fun _ => .runtimeError

/-- **What is more severe is not a better plugin state.** -/
theorem nagiosSeverity_follows (first second : Code)
    (graver : severityRank first ≤ severityRank second) :
    nagiosSeverity second ≤ nagiosSeverity first := by
  revert graver
  rcases first with ⟨_ | _ | _ | _ | _ | _ | _ | _⟩ | _ <;>
    rcases second with ⟨_ | _ | _ | _ | _ | _ | _ | _⟩ | _ <;> decide

/-- The plugin state of some codes is that of the most severe. -/
theorem foldl_nagiosSeverity (codes : List Code) :
    (codes.map nagiosSeverity).foldl max 0 = nagiosSeverity (mostSevere codes) :=
  foldl_max_scale nagiosSeverity_follows severityRank_le_ok codes

/-- The two loops of `format_nagios` are one over all codes. -/
theorem worst_eq :
    errors.foldl (fun worst _ => max worst 2)
        (results.foldl (fun worst result => max worst (nagiosSeverity result.code)) 0) =
      ((batchCodes results errors).map nagiosSeverity).foldl max 0 := by
  unfold batchCodes
  rw [List.map_append, List.foldl_append, List.map_map, List.map_map, List.foldl_map, List.foldl_map]
  rfl

variable {results errors}

theorem formatNagios_worst (given : results ≠ [] ∨ errors ≠ []) :
    (formatNagios results errors warnDays criticalDays).2 =
      ((batchCodes results errors).map nagiosSeverity).foldl max 0 := by
  rw [← worst_eq]
  unfold formatNagios
  dsimp only
  split
  · rename_i noLine
    obtain ⟨noResult, noError⟩ := List.append_eq_nil_iff.mp noLine
    rcases given with some | some
    · exact (some (List.map_eq_nil_iff.mp noResult)).elim
    · exact (some (List.map_eq_nil_iff.mp noError)).elim
  · rfl

/-- **The code is the one `main` exits with.** -/
theorem formatNagios_code (report : Report) :
    (formatNagios report.results report.errors warnDays criticalDays).2 = nagiosCode report := by
  unfold nagiosCode
  by_cases empty : (report.results.isEmpty && report.errors.isEmpty) = true
  · rw [if_pos empty]
    rw [Bool.and_eq_true, List.isEmpty_iff, List.isEmpty_iff] at empty
    rw [empty.1, empty.2]
    rfl
  · rw [if_neg empty]
    rw [Bool.and_eq_true, List.isEmpty_iff, List.isEmpty_iff, not_and_or] at empty
    rw [formatNagios_worst _ _ empty, ← worst_eq, List.foldl_map]

/-- The plugin state is OK only for the code 0, and WARNING only for an expiring certificate. -/
theorem nagiosSeverity_iff (code : Code) :
    (nagiosSeverity code = 0 ↔ code.value = 0) ∧
      (nagiosSeverity code = 1 ↔ code = .exit .expiring) := by
  rcases code with ⟨_ | _ | _ | _ | _ | _ | _ | _⟩ | _ <;> decide

/-- **The Nagios state and the native exit code agree on every batch**, whatever the order its codes
are in: the state is that of the most severe code, OK exactly for the exit code 0 and WARNING exactly
for EXPIRING. -/
theorem formatNagios_agrees {codes : List Code} (inspected : results ≠ [] ∨ errors ≠ [])
    (all : codes.Perm (batchCodes results errors)) :
    (formatNagios results errors warnDays criticalDays).2 = nagiosSeverity (mostSevere codes) ∧
      ((formatNagios results errors warnDays criticalDays).2 = 0 ↔ (mostSevere codes).value = 0) ∧
      ((formatNagios results errors warnDays criticalDays).2 = 1 ↔
        mostSevere codes = .exit .expiring) := by
  have agrees : (formatNagios results errors warnDays criticalDays).2 =
      nagiosSeverity (mostSevere codes) := by
    rw [formatNagios_worst _ _ inspected, foldl_nagiosSeverity, mostSevere_perm all]
  refine ⟨agrees, ?_, ?_⟩
  · rw [agrees]
    exact (nagiosSeverity_iff _).1
  · rw [agrees]
    exact (nagiosSeverity_iff _).2

end State

/-- A target that could not be inspected makes the batch CRITICAL, whatever else it holds. -/
theorem formatNagios_agrees_unreachable :
    (formatNagios [] [(some "a.com", "timed out")] 30 none).2 = 2 :=
  (formatNagios_agrees 30 none (Or.inr (List.cons_ne_nil _ _)) (List.Perm.refl _)).1

end Certinspect.Formatter
