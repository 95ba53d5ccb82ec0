/-
**The lines of the Nagios output.**

`format_nagios` joins one line for each target with line feeds and puts a bar before the performance
data of a result. The names of the targets and the messages of the errors are not escaped, so a
monitoring system reads the lines that were meant exactly when these have no separator in them.

* `ResultLine`, `ErrorLine`, `LinePerTarget` — what a reader is to find.
* `feed_mem_nagiosResultLine_iff`, `bar_count_nagiosResultLine`, `feed_mem_nagiosErrorLine_iff` — the
  separators of a line are those of its name and its message.
* **`formatNagios_lines_iff`** — one line for each target, exactly when names and messages are clean.
-/

import Certinspect.Formatter.Validity
import Certinspect.Library.Table

namespace Certinspect.Formatter

open Library Cli

/-! ### What a reader is to find -/

section Lines

variable (warnDays : Int) (criticalDays : Option Int)

/-- A line of a result: the label of its severity, and one bar, before its datum. -/
def ResultLine (result : InspectionResult) (line : List Char) : Prop :=
  (nagiosLabel (nagiosSeverity result.code) ++ ":").toList <+: line ∧ line.count '|' = 1 ∧
    ('|' :: ' ' :: (nagiosDatum warnDays criticalDays result).toList) <:+ line

/-- A line of a target that could not be inspected: its severity is critical. -/
def ErrorLine (_ : Option String × String) (line : List Char) : Prop :=
  (nagiosLabel 2 ++ ":").toList <+: line

/-- One line for each result and then one for each error, in order. -/
def LinePerTarget (results : List InspectionResult) (errors : List (Option String × String))
    (lines : List (List Char)) : Prop :=
  ∃ first second, lines = first ++ second ∧
    List.Forall₂ (ResultLine warnDays criticalDays) results first ∧
    List.Forall₂ ErrorLine errors second

/-- The name on the line of an error. -/
def unreachableName (error : Option String × String) : String := (given error.1).getD "target"

/-- No name and no message has a separator in it. -/
structure CleanBatch (results : List InspectionResult) (errors : List (Option String × String)) :
    Prop where
  names : ∀ result ∈ results,
    '\n' ∉ result.shownName.toList ∧ '|' ∉ result.shownName.toList
  messages : ∀ error ∈ errors, '\n' ∉ (unreachableName error).toList ∧ '\n' ∉ error.2.toList

variable {warnDays criticalDays} {result : InspectionResult} {error : Option String × String}
  {results : List InspectionResult} {errors : List (Option String × String)}

/-! ### The separators of a line -/

/-- A status is written in letters and blanks. -/
theorem status_clean (status : Status) : '\n' ∉ status.str.toList ∧ '|' ∉ status.str.toList := by
  cases status <;> decide

theorem label_clean (state : PluginState) :
    '\n' ∉ state.label.toList ∧ '|' ∉ state.label.toList := by
  cases state <;> decide

theorem feed_mem_nagiosText_iff :
    '\n' ∈ (nagiosText result).toList ↔ '\n' ∈ result.shownName.toList := by
  unfold nagiosText
  simp [notMem_repr, (status_clean _).1]

theorem bar_count_nagiosText :
    (nagiosText result).toList.count '|' = result.shownName.toList.count '|' := by
  have number : result.info.daysToExpire.repr.toList.count '|' = 0 :=
    List.count_eq_zero.mpr (notMem_repr rfl (by decide) _)
  have status : (statusOf result.info).str.toList.count '|' = 0 :=
    List.count_eq_zero.mpr (status_clean _).2
  have start : " ".toList.count '|' = 0 := by decide
  have middle : " certificate ".toList.count '|' = 0 := by decide
  have opening : " (".toList.count '|' = 0 := by decide
  have closing : " days to expiry) ".toList.count '|' = 0 := by decide
  unfold nagiosText
  simp only [String.toList_append, List.count_append, start, middle, status, opening, number,
    closing, Nat.zero_add, Nat.add_zero]

/-- A line feed of a result's line is one of its name. -/
theorem feed_mem_nagiosResultLine_iff :
    '\n' ∈ (nagiosResultLine warnDays criticalDays result).toList ↔
      '\n' ∈ result.shownName.toList := by
  rw [nagiosResultLine_toList, ← feed_mem_nagiosText_iff]
  simp [(label_clean _).1, nagiosDatum_clean.2]

/-- A result's line has the bars of its name and one more. -/
theorem bar_count_nagiosResultLine :
    (nagiosResultLine warnDays criticalDays result).toList.count '|' =
      result.shownName.toList.count '|' + 1 := by
  have label : (pluginState result.code).label.toList.count '|' = 0 :=
    List.count_eq_zero.mpr (label_clean _).2
  have datum : (nagiosDatum warnDays criticalDays result).toList.count '|' = 0 :=
    List.count_eq_zero.mpr nagiosDatum_clean.1
  rw [nagiosResultLine_toList, ← bar_count_nagiosText]
  simp [List.count_append, label, datum]

theorem nagiosErrorLine_toList :
    (nagiosErrorLine error).toList = (nagiosLabel 2 ++ ":").toList ++ ' ' ::
      ((unreachableName error).toList ++ (" unreachable (".toList ++ (error.2.toList ++ [')']))) := by
  have itself (text : String) : toString text = text := rfl
  unfold nagiosErrorLine unreachableName
  simp [itself]

/-- A line feed of an error's line is one of its name or of its message. -/
theorem feed_mem_nagiosErrorLine_iff :
    '\n' ∈ (nagiosErrorLine error).toList ↔
      '\n' ∈ (unreachableName error).toList ∨ '\n' ∈ error.2.toList := by
  have label : '\n' ∉ (nagiosLabel 2).toList := by decide
  rw [nagiosErrorLine_toList]
  simp [label]

/-! ### The lines -/

/-- The lines of a batch, before they are joined. -/
def nagiosLines (warnDays : Int) (criticalDays : Option Int) (results : List InspectionResult)
    (errors : List (Option String × String)) : List (List Char) :=
  results.map (fun result => (nagiosResultLine warnDays criticalDays result).toList) ++
    errors.map fun error => (nagiosErrorLine error).toList

theorem nagiosLines_ne_nil (filled : results ≠ [] ∨ errors ≠ []) :
    nagiosLines warnDays criticalDays results errors ≠ [] := by
  unfold nagiosLines
  rw [ne_eq, List.append_eq_nil_iff, List.map_eq_nil_iff, List.map_eq_nil_iff, not_and_or]
  exact filled

theorem formatNagios_toList (filled : results ≠ [] ∨ errors ≠ []) :
    (formatNagios results errors warnDays criticalDays).1.toList =
      ['\n'].intercalate (nagiosLines warnDays criticalDays results errors) := by
  have lines : (results.map (nagiosResultLine warnDays criticalDays) ++
      errors.map nagiosErrorLine).map String.toList =
        nagiosLines warnDays criticalDays results errors := by
    simp [nagiosLines, Function.comp_def]
  unfold formatNagios
  dsimp only
  split
  · rename_i noLine
    rw [noLine] at lines
    exact (nagiosLines_ne_nil filled lines.symm).elim
  · rename_i line others joined
    rw [← lines, joined]
    exact String.toList_intercalate

/-- The lines have no line feed exactly when names and messages have none. -/
theorem feed_notMem_nagiosLines_iff :
    (∀ line ∈ nagiosLines warnDays criticalDays results errors, '\n' ∉ line) ↔
      (∀ result ∈ results, '\n' ∉ result.shownName.toList) ∧
        ∀ error ∈ errors, '\n' ∉ (unreachableName error).toList ∧ '\n' ∉ error.2.toList := by
  unfold nagiosLines
  simp only [List.forall_mem_append, List.forall_mem_map, feed_mem_nagiosResultLine_iff,
    feed_mem_nagiosErrorLine_iff, not_or]

/-- The line of a result is one exactly when its name has no bar. -/
theorem resultLine_iff :
    ResultLine warnDays criticalDays result
        (nagiosResultLine warnDays criticalDays result).toList ↔
      '|' ∉ result.shownName.toList := by
  unfold ResultLine
  rw [bar_count_nagiosResultLine, Nat.add_eq_right, List.count_eq_zero]
  refine ⟨fun line => line.2.1, fun clean => ⟨?_, clean, ?_⟩⟩
  · rw [nagiosResultLine_toList, nagiosLabel_eq]
    simp
  · rw [nagiosResultLine_toList, ← List.cons_append, ← List.append_assoc]
    exact List.suffix_append _ _

theorem errorLine_nagiosErrorLine : ErrorLine error (nagiosErrorLine error).toList := by
  unfold ErrorLine
  rw [nagiosErrorLine_toList]
  exact List.prefix_append _ _

/-- A relation between the elements of a list and their images. -/
theorem forall₂_map_iff {α β : Type} {R : α → β → Prop} {f : α → β} {elements : List α} :
    List.Forall₂ R elements (elements.map f) ↔ ∀ element ∈ elements, R element (f element) := by
  rw [List.forall₂_map_right_iff]
  exact List.forall₂_same

/-- The lines that were meant are one for each target exactly when no name has a bar. -/
theorem linePerTarget_nagiosLines_iff :
    LinePerTarget warnDays criticalDays results errors
        (nagiosLines warnDays criticalDays results errors) ↔
      ∀ result ∈ results, '|' ∉ result.shownName.toList := by
  have own : List.Forall₂ (ResultLine warnDays criticalDays) results
      (results.map fun result => (nagiosResultLine warnDays criticalDays result).toList) ↔
        ∀ result ∈ results, '|' ∉ result.shownName.toList := by
    rw [forall₂_map_iff]
    exact forall₂_congr fun result _ => resultLine_iff
  refine ⟨?_, fun clean => ⟨_, _, rfl, own.mpr clean, ?_⟩⟩
  · intro found
    obtain ⟨first, second, parts, resultLines, _⟩ := found
    have same := List.append_inj_left parts (by rw [List.length_map, resultLines.length_eq])
    rw [← same] at resultLines
    exact own.mp resultLines
  · exact forall₂_map_iff.mpr fun error _ => errorLine_nagiosErrorLine

/-- **One line for each target exactly when names and messages are clean.** An empty batch has the one
line that says so. -/
theorem formatNagios_lines_iff (results : List InspectionResult)
    (errors : List (Option String × String)) (warnDays : Int) (criticalDays : Option Int) :
    LinePerTarget warnDays criticalDays results errors
        ((formatNagios results errors warnDays criticalDays).1.toList.splitOn '\n') ↔
      (results ≠ [] ∨ errors ≠ []) ∧ CleanBatch results errors := by
  by_cases filled : results ≠ [] ∨ errors ≠ []
  · have some := @nagiosLines_ne_nil warnDays criticalDays _ _ filled
    rw [formatNagios_toList filled, and_iff_right filled]
    refine ⟨?_, ?_⟩
    · intro found
      have count : ((['\n'].intercalate (nagiosLines warnDays criticalDays results errors)).splitOn
          '\n').length = (nagiosLines warnDays criticalDays results errors).length := by
        obtain ⟨first, second, parts, resultLines, errorLines⟩ := found
        rw [parts, List.length_append, ← resultLines.length_eq, ← errorLines.length_eq]
        simp [nagiosLines]
      have noFeed := (length_splitOn_intercalate_iff some).mp count
      rw [List.splitOn_intercalate '\n' noFeed some, linePerTarget_nagiosLines_iff] at found
      obtain ⟨names, messages⟩ := feed_notMem_nagiosLines_iff.mp noFeed
      exact ⟨fun result member => ⟨names result member, found result member⟩, messages⟩
    · intro clean
      have noFeed : ∀ line ∈ nagiosLines warnDays criticalDays results errors, '\n' ∉ line :=
        feed_notMem_nagiosLines_iff.mpr
          ⟨fun result member => (clean.names result member).1, clean.messages⟩
      rw [List.splitOn_intercalate '\n' noFeed some, linePerTarget_nagiosLines_iff]
      exact fun result member => (clean.names result member).2
  · obtain ⟨noResult, noError⟩ := not_or.mp filled
    refine iff_of_false ?_ fun both => filled both.1
    intro found
    obtain ⟨first, second, parts, resultLines, errorLines⟩ := found
    rw [not_not.mp noResult, List.forall₂_nil_left_iff] at resultLines
    rw [not_not.mp noError, List.forall₂_nil_left_iff] at errorLines
    rw [resultLines, errorLines, List.append_nil] at parts
    exact List.splitOn_ne_nil _ _ parts

/-- A certificate with a line feed in its name. -/
def forged : Certificate :=
  { Parser.sampleCertificate [] with
    subject := ⟨[("2.5.4.3", .text "a\nOK: b.com certificate VALID")],
      "CN=a\nOK: b.com certificate VALID"⟩ }

/-- The result for a file with that certificate, which has no other name. -/
def forgedResult : InspectionResult := { inspectedOn forged none with label := none }

/-- The text of a certificate with a line feed in its subject has two lines. -/
theorem formatNagios_lines_iff_counterexample :
    (formatNagios [forgedResult] [] 30 none).1.toList.splitOn '\n' =
        ["OK: CN=a".toList,
          "OK: b.com certificate VALID certificate VALID (90 days to expiry) | days=90;30:;0:".toList] ∧
      ¬ LinePerTarget 30 none [forgedResult] []
        ((formatNagios [forgedResult] [] 30 none).1.toList.splitOn '\n') := by
  have lines : (formatNagios [forgedResult] [] 30 none).1.toList.splitOn '\n' =
      ["OK: CN=a".toList,
        "OK: b.com certificate VALID certificate VALID (90 days to expiry) | days=90;30:;0:".toList] := by
    decide +kernel
  refine ⟨lines, ?_⟩
  intro found
  obtain ⟨first, second, parts, resultLines, errorLines⟩ := found
  have counted := congrArg List.length parts
  rw [lines, List.length_append, ← resultLines.length_eq, ← errorLines.length_eq] at counted
  cases counted

end Lines

end Certinspect.Formatter
