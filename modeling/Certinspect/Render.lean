/-
**What is displayed of a batch, `render.py`.**

`render` chooses the results that are displayed, puts them in order and hands them to one formatter.
The summary on stderr counts the whole batch.

* `OutputOptions`, `Machine`, `display`, `render` — the code.
* `keeps`, `precedes` — the options, as a test on one result and as an order of two.
* `displayed_iff` — what is displayed: the results that are kept, in a stable order.
* `shownIntegers`, `display_ok_iff` — a display is refused only for its delimiter, or for an integer with
  too many digits.
-/

import Certinspect.Formatter.Csv
import Certinspect.Formatter.Human
import Certinspect.Formatter.Prometheus
import Certinspect.Formatter.Summary
import Certinspect.Formatter.Tabular
import Certinspect.Library.Stable

namespace Certinspect.Render

open Library Cli Formatter

/-! ### The code -/

/-- `OutputOptions`. -/
structure OutputOptions extends Formatter.OutputOptions where
  days : Int := 30
  criticalDays : Option Int := none
  asJson : Bool := false
  asCsv : Bool := false
  csvDelimiter : String := ","
  schema : Int := 2
  exporter : Option String := none
  summary : Bool := false

/-- What the formatters ask of the interpreter and of the packages: what is printable, the parser of
names, what `csv.writer` makes of a delimiter, and the version. -/
structure Machine where
  printable : Char → Bool
  fromRfc4514 : String → Except PyErr X509Name
  dialect : String → Except PyErr CsvDialect
  version : String

/-- What `render` prints, and what it returns. -/
structure Rendered where
  stdout : String
  stderr : List String
  override : Option Int

/-- The block of a result, under its label. -/
def block (days : Int) (result : InspectionResult) : Except PyErr String := do
  let text ← formatHuman result.info days
  match given result.label with
  | some target => pure ("=== " ++ target ++ " ===\n" ++ text)
  | none => pure text

/-- `print`, when there is something to print. -/
def printed (text : String) : String := if text = "" then "" else text ++ "\n"

section Display

variable (machine : Machine)

/-- The document of `--json`, in the schema that was chosen. -/
def documentText (opts : OutputOptions) (results : List InspectionResult) : Except PyErr String :=
  if opts.schema = 1 then formatJson results else formatJsonV2 results machine.version

/-- The output of the results that are displayed. -/
def display (opts : OutputOptions) (results : List InspectionResult) : Except PyErr String :=
  if opts.fields ≠ [] then do
    let text ← formatFields machine.printable results opts.fields
    pure (printed text)
  else if opts.asCsv then do
    let dialect ← machine.dialect opts.csvDelimiter
    formatCsv machine.fromRfc4514 dialect results
  else if opts.asJson then do
    let text ← documentText machine opts results
    pure (text ++ "\n")
  else do
    let blocks ← results.mapM (block opts.days)
    pure (if blocks = [] then "" else "\n\n".intercalate blocks ++ "\n")

/-- The summary of the whole batch. -/
def summaryLines (opts : OutputOptions) (results : List InspectionResult)
    (errors : List (Option String × String)) : Except PyErr (List String) :=
  if opts.summary then do
    let line ← formatSummary results errors opts.days opts.criticalDays
    pure (given (some line)).toList
  else pure []

/-- `render`. -/
def render (opts : OutputOptions) (results : List InspectionResult)
    (errors : List (Option String × String)) (changed : Option (List String)) :
    Except PyErr Rendered :=
  if opts.exporter = some "nagios" then
    let (text, code) := formatNagios results errors opts.days opts.criticalDays
    pure ⟨text ++ "\n", [], some code⟩
  else if opts.exporter = some "prometheus" then
    pure ⟨formatPrometheus results errors ++ "\n", [], none⟩
  else do
    let summary ← summaryLines opts results errors
    let text ← display machine opts (displayed opts.toOutputOptions changed results)
    pure ⟨text, summary, none⟩

end Display

/-! ### What is displayed -/

section Selection

variable {opts : Formatter.OutputOptions} {changed : Option (List String)}
  {results shown : List InspectionResult} {result : InspectionResult}

/-- A result is displayed: it is not dropped by `--quiet`, `--max-days` or `--only-changed`. -/
def keeps (opts : Formatter.OutputOptions) (changed : Option (List String))
    (result : InspectionResult) : Bool :=
  (!opts.quiet || result.code.value != 0) &&
    opts.maxDays.all (fun days => result.info.daysToExpire ≤ days) &&
    changed.all fun targets => result.label.any targets.contains

/-- The order of `--sort`. -/
def precedes (opts : Formatter.OutputOptions) (first second : InspectionResult) : Bool :=
  match opts.sort with
  | some .host => (given first.label).getD "" ≤ (given second.label).getD ""
  | some .expiry => first.info.daysToExpire ≤ second.info.daysToExpire
  | none => true

theorem precedes_order : TotalPreorder (precedes opts) := by
  unfold precedes
  cases opts.sort with
  | none => exact ⟨fun _ _ _ _ _ => rfl, fun _ _ => rfl⟩
  | some key =>
    cases key with
    | host =>
      refine ⟨fun first second third => ?_, fun first second => ?_⟩
      · simpa using le_trans
      · simpa using le_total _ _
    | expiry =>
      refine ⟨fun first second third => ?_, fun first second => ?_⟩
      · simpa using le_trans
      · simpa using le_total _ _

theorem displayed_eq : displayed opts changed results =
    (results.filter (keeps opts changed)).mergeSort (precedes opts) := by
  have unsorted : displayed { opts with sort := none } changed results =
      results.filter (keeps opts changed) := by
    unfold displayed keeps
    cases opts.quiet <;> cases opts.maxDays <;> cases changed <;>
      simp [List.filter_filter, Bool.and_comm]
  rw [← unsorted]
  unfold displayed precedes
  cases opts.sort with
  | none => exact (List.mergeSort_of_pairwise (List.pairwise_of_forall fun _ _ => rfl)).symm
  | some key => cases key <;> rfl

theorem mem_displayed : result ∈ displayed opts changed results ↔
    result ∈ results ∧ keeps opts changed result = true := by
  rw [displayed_eq, List.mem_mergeSort, List.mem_filter]

/-- **What is displayed**: the results that are kept, each where `--sort` puts it, and those that it
does not tell apart in the order of the batch. -/
theorem displayed_iff : shown = displayed opts changed results ↔
    (shown.Pairwise fun first second => precedes opts first second = true) ∧
      ∀ result, shown.filter (tied (precedes opts) result) =
        (results.filter (keeps opts changed)).filter (tied (precedes opts) result) := by
  rw [displayed_eq]
  exact eq_mergeSort_iff precedes_order

end Selection

/-! ### When it is displayed -/

section Refusal

variable {machine : Machine} {opts : OutputOptions} {results : List InspectionResult}
  {errors : List (Option String × String)} {changed : Option (List String)} {rendered : Rendered}

/-- The integers that are displayed of a result. -/
def shownIntegers (opts : OutputOptions) (result : InspectionResult) : List Int :=
  if opts.fields ≠ [] then opts.fields.flatMap fun name => (valueOf result name).integers
  else if opts.asCsv then [result.info.daysToExpire]
  else if opts.asJson then infoIntegers result.info
  else humanIntegers result.info

/-- The delimiter is accepted, where it is used. -/
def Delimits (machine : Machine) (opts : OutputOptions) : Prop :=
  opts.fields = [] → opts.asCsv = true → ∃ dialect, machine.dialect opts.csvDelimiter = .ok dialect

theorem block_ok_iff {days : Int} {result : InspectionResult} :
    (∃ text, block days result = .ok text) ↔ ∀ n ∈ humanIntegers result.info, HasDecimal n := by
  rw [← @formatHuman_ok_iff result.info days]
  unfold block
  refine ⟨fun ⟨_, written⟩ => ?_, fun ⟨text, shown⟩ => ?_⟩
  · obtain ⟨text, shown, _⟩ := bind_ok_iff.mp written
    exact ⟨text, shown⟩
  · rw [shown, ok_bind]
    cases given result.label with
    | none => exact ⟨_, rfl⟩
    | some target => exact ⟨_, rfl⟩

/-- What is made of a text is made exactly when the text is. -/
theorem bind_pure_ok_iff {α β : Type} {x : Except PyErr α} (f : α → β) :
    (∃ made, (x >>= fun value => pure (f value)) = .ok made) ↔ ∃ value, x = .ok value := by
  cases x with
  | ok value => exact iff_of_true ⟨_, rfl⟩ ⟨_, rfl⟩
  | error raised =>
    exact iff_of_false (fun ⟨_, absurd⟩ => by cases absurd) (fun ⟨_, absurd⟩ => by cases absurd)

theorem allowed_ok_iff {α : Type} {Allowed : Prop} [Decidable Allowed] {value : α} :
    (∃ made, (if Allowed then .ok value else .error tooManyDigits : Except PyErr α) = .ok made) ↔
      Allowed := by
  split
  · rename_i allowed
    exact iff_of_true ⟨value, rfl⟩ allowed
  · rename_i refused
    exact iff_of_false (fun ⟨_, absurd⟩ => by cases absurd) refused

/-- What is displayed has a delimiter that is accepted, where it is used. -/
theorem delimits_of_display {text : String} (made : display machine opts results = .ok text) :
    Delimits machine opts := by
  intro fields csv
  unfold display at made
  rw [if_neg (not_not.mpr fields), if_pos csv] at made
  obtain ⟨dialect, accepted, _⟩ := bind_ok_iff.mp made
  exact ⟨dialect, accepted⟩

/-- **A display is refused only for a delimiter, or for an integer with too many digits.** -/
theorem display_ok_iff (documented : RefusesNames machine.fromRfc4514) :
    (∃ text, display machine opts results = .ok text) ↔ Delimits machine opts ∧
      ∀ result ∈ results, ∀ n ∈ shownIntegers opts result, HasDecimal n := by
  by_cases delimits : Delimits machine opts
  case neg =>
    exact iff_of_false (fun ⟨_, made⟩ => delimits (delimits_of_display made)) fun both => delimits both.1
  rw [and_iff_right delimits]
  unfold display shownIntegers
  by_cases fields : opts.fields ≠ []
  · simp only [if_pos fields]
    rw [bind_pure_ok_iff]
    unfold formatFields
    rw [bind_pure_ok_iff, rows_eq, allowed_ok_iff]
    exact forall₂_congr fun result _ => List.forall_mem_flatMap.symm
  simp only [if_neg fields]
  by_cases csv : opts.asCsv = true
  · simp only [if_pos csv]
    obtain ⟨dialect, accepted⟩ := delimits (not_not.mp fields) csv
    rw [accepted, ok_bind, formatCsv_eq documented, allowed_ok_iff]
    exact forall₂_congr fun result _ => List.forall_mem_singleton.symm
  simp only [if_neg csv]
  by_cases json : opts.asJson = true
  · simp only [if_pos json]
    rw [bind_pure_ok_iff]
    unfold documentText
    split
    · rw [formatJson_eq, allowed_ok_iff]
      rfl
    · rw [formatJsonV2_eq, allowed_ok_iff]
      rfl
  · simp only [if_neg json]
    rw [bind_pure_ok_iff, mapM_ok_iff]
    exact forall₂_congr fun result _ => block_ok_iff

end Refusal

/-! ### How it is read -/

section Reading

variable {machine : Machine} {opts : OutputOptions} {results shown : List InspectionResult}
  {errors : List (Option String × String)} {changed : Option (List String)} {text : String}

/-- A text shows these results, in this order: every form is read back to what it shows of them, and
the blocks hide no finding. A table needs clean cells, and more than one empty cell. -/
structure Shows (machine : Machine) (opts : OutputOptions) (shown : List InspectionResult)
    (text : String) : Prop where
  fields : opts.fields ≠ [] → CleanSelection shown opts.fields → ¬ LoneBlank shown opts.fields →
    readTable text = fieldTable machine.printable shown opts.fields
  csv : opts.fields = [] → opts.asCsv = true →
    ∀ dialect, machine.dialect opts.csvDelimiter = .ok dialect → dialect.Separates →
      14 ≤ dialect.limit → CsvKept machine.fromRfc4514 dialect shown →
      readResults dialect text = some (shown.map (csvRecord machine.fromRfc4514))
  json : opts.fields = [] → opts.asCsv = false → opts.asJson = true → opts.schema = 1 →
    readDocument text = some (shown.map InspectionResult.info)
  jsonV2 : opts.fields = [] → opts.asCsv = false → opts.asJson = true → opts.schema ≠ 1 →
    (∀ result ∈ shown, VersionKnown result.info) →
    readDocumentV2 text =
      some (machine.version, shown.map fun result => (result.label, result.info))
  human : opts.fields = [] → opts.asCsv = false → opts.asJson = false →
    ∀ result ∈ shown, recordedCodes result.info ⊆ readCodes (feedLines text)

/-- The lines of two texts with a line feed between them. -/
theorem feedLines_feed (first second : String) :
    feedLines (first ++ "\n" ++ second) = feedLines first ++ feedLines second := by
  have joined : (first ++ "\n" ++ second).toList = first.toList ++ '\n' :: second.toList := by simp
  unfold feedLines
  rw [joined, List.splitOn_append_cons_self, List.map_append]

/-- The lines of a block are among those of the blocks. -/
theorem feedLines_blocks {blocks : List String} {own : String} (member : own ∈ blocks) :
    feedLines own ⊆ feedLines ("\n\n".intercalate blocks) := by
  induction blocks with
  | nil => cases member
  | cons first rest ih =>
    cases rest with
    | nil =>
      rw [List.mem_singleton.mp member, String.intercalate_singleton]
      exact List.Subset.refl _
    | cons next others =>
      have apart : "\n\n".intercalate (first :: next :: others) =
          first ++ "\n" ++ ("" ++ "\n" ++ "\n\n".intercalate (next :: others)) := by
        rw [String.intercalate_cons_cons, ← String.toList_inj]
        simp
      rw [apart, feedLines_feed, feedLines_feed]
      rcases List.mem_cons.mp member with rfl | later
      · exact List.subset_append_left _ _
      · exact fun line inside => List.mem_append_right _ (List.mem_append_right _ (ih later inside))

theorem block_told {days : Int} {result : InspectionResult} {own : String}
    (made : block days result = .ok own) :
    recordedCodes result.info ⊆ readCodes (feedLines own) := by
  obtain ⟨text, shown, labelled⟩ := bind_ok_iff.mp made
  have told := recordedCodes_told shown
  cases label : given result.label with
  | none =>
    rw [label] at labelled
    cases labelled
    exact told
  | some target =>
    rw [label] at labelled
    cases labelled
    have apart : "=== " ++ target ++ " ===\n" ++ text = "=== " ++ target ++ " ===" ++ "\n" ++ text := by
      rw [← String.toList_inj]
      simp
    rw [apart, feedLines_feed]
    exact fun code recorded => readCodes_subset (fun line member _ => List.mem_append_right _ member)
      (told recorded)

theorem fields_shown (made : display machine opts shown = .ok text) (fields : opts.fields ≠ [])
    (clean : CleanSelection shown opts.fields) (filled : ¬ LoneBlank shown opts.fields) :
    readTable text = fieldTable machine.printable shown opts.fields := by
  unfold display at made
  rw [if_pos fields] at made
  obtain ⟨table, written, same⟩ := bind_ok_iff.mp made
  cases same
  unfold formatFields at written
  rw [rows_eq] at written
  split at written
  · cases written
    exact (readTable_tableText_iff fields).mpr ⟨clean, filled⟩
  · cases written

theorem csv_shown (documented : RefusesNames machine.fromRfc4514) {dialect : CsvDialect}
    (made : display machine opts shown = .ok text) (fields : opts.fields = [])
    (csv : opts.asCsv = true) (accepted : machine.dialect opts.csvDelimiter = .ok dialect)
    (separates : dialect.Separates) (long : 14 ≤ dialect.limit)
    (kept : CsvKept machine.fromRfc4514 dialect shown) :
    readResults dialect text = some (shown.map (csvRecord machine.fromRfc4514)) := by
  unfold display at made
  rw [if_neg (not_not.mpr fields), if_pos csv, accepted, ok_bind, formatCsv_eq documented] at made
  split at made
  · cases made
    exact readResults_shownCsv separates long kept
  · cases made

/-- What `--json` displays is a document and a line feed. -/
theorem json_shown (made : display machine opts shown = .ok text) (fields : opts.fields = [])
    (csv : opts.asCsv = false) (json : opts.asJson = true) :
    ∃ document, documentText machine opts shown = .ok document ∧ text = document ++ "\n" := by
  unfold display at made
  rw [if_neg (not_not.mpr fields), if_neg (ne_true_of_eq_false csv), if_pos json] at made
  obtain ⟨document, written, same⟩ := bind_ok_iff.mp made
  exact ⟨document, written, (Except.ok.inj same).symm⟩

theorem human_shown (made : display machine opts shown = .ok text) (fields : opts.fields = [])
    (csv : opts.asCsv = false) (json : opts.asJson = false) {result : InspectionResult}
    (member : result ∈ shown) : recordedCodes result.info ⊆ readCodes (feedLines text) := by
  unfold display at made
  rw [if_neg (not_not.mpr fields), if_neg (ne_true_of_eq_false csv),
    if_neg (ne_true_of_eq_false json)] at made
  obtain ⟨blocks, formatted, same⟩ := bind_ok_iff.mp made
  cases same
  obtain ⟨own, inside, written⟩ := mem_of_mapM formatted member
  rw [if_neg (List.ne_nil_of_mem inside)]
  have whole : feedLines own ⊆ feedLines ("\n\n".intercalate blocks ++ "\n") := by
    have feed := feedLines_feed ("\n\n".intercalate blocks) ""
    rw [String.append_empty] at feed
    rw [feed]
    exact fun line here => List.mem_append_left _ (feedLines_blocks inside here)
  intro code recorded
  exact readCodes_subset (fun line here _ => whole here) (block_told written recorded)

/-- **A display shows its results.** -/
theorem display_shows (documented : RefusesNames machine.fromRfc4514)
    (produced : ∀ result ∈ shown, Produced result)
    (made : display machine opts shown = .ok text) : Shows machine opts shown text where
  fields := fields_shown made
  csv fields csv _ accepted separates long kept :=
    csv_shown documented made fields csv accepted separates long kept
  json fields csv json schema := by
    obtain ⟨document, written, rfl⟩ := json_shown made fields csv json
    unfold documentText at written
    rw [if_pos schema] at written
    exact readText_dumps written
  jsonV2 fields csv json schema known := by
    obtain ⟨document, written, rfl⟩ := json_shown made fields csv json
    unfold documentText at written
    rw [if_neg schema] at written
    exact readDocumentV2_formatJsonV2 produced known written
  human fields csv json _ := human_shown made fields csv json

/-! ### What is rendered -/

/-- The summary counts every target of the batch, displayed or not. -/
structure Summarises (opts : OutputOptions) (results : List InspectionResult)
    (errors : List (Option String × String)) (lines : List String) : Prop where
  none : opts.summary = false → lines = []
  counts : opts.summary = true → ∃ line printed, lines = [line] ∧
    readSummary line = some (printed, results.length + errors.length) ∧
    CountsAll results errors printed (results.length + errors.length)

theorem summaryLines_ok (produced : ∀ result ∈ results, Produced result) :
    ∃ lines, summaryLines opts results errors = .ok lines ∧ Summarises opts results errors lines := by
  unfold summaryLines
  by_cases summary : opts.summary = true
  · obtain ⟨line, printed, made, read, counts⟩ := @formatSummary_counts results errors
      opts.criticalDays opts.days fun result member => matched_of_produced (produced result member)
    have shown : given (some line) = some line := by
      refine Option.filter_eq_some_iff.mpr ⟨rfl, bne_iff_ne.mpr fun empty => ?_⟩
      rw [empty] at read
      cases read
    rw [if_pos summary, made, ok_bind, shown]
    refine ⟨[line], rfl, fun none => ?_, fun _ => ⟨line, printed, rfl, read, counts⟩⟩
    rw [summary] at none
    cases none
  · rw [if_neg summary]
    exact ⟨[], rfl, fun _ => rfl, fun absurd => (summary absurd).elim⟩

/-- **What is rendered of a batch.** It is refused only for an integer that would be displayed and has
too many digits. Else the results that the options keep are shown, in a stable order, in the form that
they select; and the summary counts all results and errors, whatever is displayed. -/
theorem render_exact (machine : Machine) (opts : OutputOptions) (results : List InspectionResult)
    (errors : List (Option String × String)) (changed : Option (List String))
    (documented : RefusesNames machine.fromRfc4514) (delimits : Delimits machine opts)
    (produced : ∀ result ∈ results, Produced result)
    (nagios : opts.exporter ≠ some "nagios") (prometheus : opts.exporter ≠ some "prometheus") :
    ((∃ rendered, render machine opts results errors changed = .ok rendered) ↔
        ∀ result ∈ results, keeps opts.toOutputOptions changed result = true →
          ∀ n ∈ shownIntegers opts result, HasDecimal n) ∧
      ∀ rendered, render machine opts results errors changed = .ok rendered → ∃ shown,
        ((shown.Pairwise fun first second => precedes opts.toOutputOptions first second = true) ∧
          ∀ result, shown.filter (tied (precedes opts.toOutputOptions) result) =
            (results.filter (keeps opts.toOutputOptions changed)).filter
              (tied (precedes opts.toOutputOptions) result)) ∧
        Shows machine opts shown rendered.stdout ∧ Summarises opts results errors rendered.stderr ∧
        rendered.override = none := by
  obtain ⟨lines, summarised, summarises⟩ := @summaryLines_ok opts results errors produced
  have rendering : render machine opts results errors changed = (do
      let text ← display machine opts (displayed opts.toOutputOptions changed results)
      pure ⟨text, lines, none⟩) := by
    unfold render
    rw [if_neg nagios, if_neg prometheus, summarised, ok_bind]
  rw [rendering, bind_pure_ok_iff, display_ok_iff documented, and_iff_right delimits]
  refine ⟨?_, fun rendered made => ?_⟩
  · exact forall_congr' fun result => by rw [mem_displayed, and_imp]
  · obtain ⟨text, displayed, same⟩ := bind_ok_iff.mp made
    cases same
    refine ⟨_, displayed_iff.mp rfl, display_shows documented ?_ displayed, summarises, rfl⟩
    exact fun result member => produced result (mem_displayed.mp member).1

/-- The interpreter, and packages that read names of one common name. -/
def plainMachine : Machine where
  printable _ := true
  fromRfc4514 := plainNames
  dialect
    | "," => .ok commaDialect
    | _ => .error ⟨.valueError, "bad delimiter value"⟩
  version := "2.4.5"

/-- `certinspect --no-verify --json --sort host --file leaf.pem --file other.pem`. -/
def sortedJson : OutputOptions := { sort := some .host, asJson := true }

theorem render_exact_files :
    ((∃ rendered, render plainMachine sortedJson fileResults [] none = .ok rendered) ↔
        ∀ result ∈ fileResults, keeps sortedJson.toOutputOptions none result = true →
          ∀ n ∈ shownIntegers sortedJson result, HasDecimal n) ∧
      ∀ rendered, render plainMachine sortedJson fileResults [] none = .ok rendered → ∃ shown,
        ((shown.Pairwise fun first second =>
            precedes sortedJson.toOutputOptions first second = true) ∧
          ∀ result, shown.filter (tied (precedes sortedJson.toOutputOptions) result) =
            (fileResults.filter (keeps sortedJson.toOutputOptions none)).filter
              (tied (precedes sortedJson.toOutputOptions) result)) ∧
        Shows plainMachine sortedJson shown rendered.stdout ∧
        Summarises sortedJson fileResults [] rendered.stderr ∧ rendered.override = none :=
  render_exact plainMachine sortedJson fileResults [] none plainNames_refuses
    (fun _ absurd => by cases absurd) fileResults_produced (by decide) (by decide)

end Reading

end Certinspect.Render
