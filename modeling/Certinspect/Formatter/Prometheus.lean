/-
**The Prometheus textfile output, `format_prometheus` in `formatter.py`.**

* `prometheusLabel`, `prometheusSample` — a label, escaped by three replacements, and a line.
* `formatPrometheus` — the text: three gauges always, four more when a result has a value for them.
* `measured` — what was measured, read off the records, in the order in which the text has it.
* `prometheusLabel_toList` — the three replacements, one after the other, are one pass.
* **`readText_formatPrometheus`** — reading the text by the exposition format gives exactly `measured`.
* `measured_series_nodup_iff` — a series is repeated exactly when a name is, among results and errors.
-/

import Certinspect.Formatter.Nagios
import Certinspect.Library.Exposition

namespace Certinspect.Formatter

open Library

/-! ### The text -/

/-- `_prometheus_label`. -/
def prometheusLabel (value : String) : String :=
  replaceChar '\n' "\\n" (replaceChar '"' "\\\"" (replaceChar '\\' "\\\\" value))

/-- One line of a gauge. -/
def prometheusSample (metric label : String) (value : Int) : String :=
  metric ++ "\x7btarget=\"" ++ label ++ "\"\x7d " ++ toString value

/-- `1 if flag else 0`. -/
def bit (flag : Bool) : Int := if flag then 1 else 0

/-- The value of `certinspect_cert_valid`. -/
def certValid (info : CertificateInfo) : Int :=
  if statusOf info = .expired ∨ statusOf info = .invalidDates then 0 else 1

/-- The value of `certinspect_hostname_match`, when the name was checked. -/
def hostnameMatch (info : CertificateInfo) : Option Int := info.hostnameMatch.map bit

/-- The value of `certinspect_chain_trusted`, when the chain was verified. -/
def chainTrusted (info : CertificateInfo) : Option Int := info.chainTrusted.map bit

/-- The value of `certinspect_cert_revoked`, when the answer was definitive. -/
def certRevoked (info : CertificateInfo) : Option Int :=
  match info.revocationStatus with
  | some .good => some 0
  | some .revoked => some 1
  | _ => none

/-- The value of `certinspect_policy_ok`, when the policy was checked. -/
def policyOk (info : CertificateInfo) : Option Int :=
  info.policyViolations.map fun violations => bit violations.isEmpty

/-- The lines of a gauge: one for each result that has a value. -/
def gaugeLines (metric : String) (value : CertificateInfo → Option Int)
    (results : List InspectionResult) : List String :=
  results.filterMap fun result =>
    (value result.info).map (prometheusSample metric (prometheusLabel result.shownName))

/-- The two comments before a gauge. -/
def gaugeHeader (metric help : String) : List String :=
  ["# HELP " ++ metric ++ " " ++ help, "# TYPE " ++ metric ++ " gauge"]

/-- A gauge that is left out when no result has a value. -/
def conditionalGauge (metric help : String) (lines : List String) : List String :=
  if lines.isEmpty then [] else gaugeHeader metric help ++ lines

/-- The lines of `certinspect_up`, for results and errors. -/
def upLines (results : List InspectionResult) (errors : List (Option String × String)) :
    List String :=
  gaugeLines "certinspect_up" (fun _ => some 1) results ++
    errors.map fun error =>
      prometheusSample "certinspect_up" (prometheusLabel ((given error.1).getD "")) 0

/-- The lines of `format_prometheus`. -/
def prometheusLines (results : List InspectionResult) (errors : List (Option String × String)) :
    List String :=
  gaugeHeader "certinspect_up" "Whether the target could be inspected (1) or not (0)." ++
  upLines results errors ++
  gaugeHeader "certinspect_cert_expiry_days" "Days until the certificate expires." ++
  gaugeLines "certinspect_cert_expiry_days" (fun info => some info.daysToExpire) results ++
  gaugeHeader "certinspect_cert_valid"
    "Whether the certificate is within its validity window (1) or not (0)." ++
  gaugeLines "certinspect_cert_valid" (fun info => some (certValid info)) results ++
  conditionalGauge "certinspect_hostname_match"
    "Whether the hostname is covered by the certificate SAN (1) or not (0)."
    (gaugeLines "certinspect_hostname_match" hostnameMatch results) ++
  conditionalGauge "certinspect_chain_trusted"
    "Whether the certificate chain is trusted (1) or not (0)."
    (gaugeLines "certinspect_chain_trusted" chainTrusted results) ++
  conditionalGauge "certinspect_cert_revoked"
    "Whether the certificate is revoked (1) or not (0)."
    (gaugeLines "certinspect_cert_revoked" certRevoked results) ++
  conditionalGauge "certinspect_policy_ok"
    "Whether the certificate passed the requested policy checks (1) or not (0)."
    (gaugeLines "certinspect_policy_ok" policyOk results)

/-- `format_prometheus`, for results whose status the inspection has set. -/
def formatPrometheus (results : List InspectionResult) (errors : List (Option String × String)) :
    String :=
  "\n".intercalate (prometheusLines results errors)

/-! ### What was measured -/

/-- The target of a result, or the subject of its certificate when it has none. -/
def originalName (result : InspectionResult) : String :=
  match result.label with
  | some target => if target = "" then result.info.subject else target
  | none => result.info.subject

/-- The name of a target that could not be inspected. -/
def errorName (error : Option String × String) : String := error.1.getD ""

/-- The samples of a check: one for each result for which it ran, 1 where its answer is yes. -/
def checked (metric : String) (ran yes : CertificateInfo → Prop) [DecidablePred ran]
    [DecidablePred yes] (results : List InspectionResult) : List Sample :=
  (results.filter fun result => ran result.info).map fun result =>
    ⟨metric, originalName result, if yes result.info then 1 else 0⟩

/-- **What was measured**: which targets could be inspected; the days left and the validity of those
that could; and each further check for exactly the results that have its answer. -/
def measured (results : List InspectionResult) (errors : List (Option String × String)) :
    List Sample :=
  results.map (fun result => ⟨"certinspect_up", originalName result, 1⟩) ++
  errors.map (fun error => ⟨"certinspect_up", errorName error, 0⟩) ++
  results.map (fun result =>
    ⟨"certinspect_cert_expiry_days", originalName result, result.info.daysToExpire⟩) ++
  checked "certinspect_cert_valid" (fun _ => True)
    (fun info => info.status ≠ .expired ∧ info.status ≠ .invalidDates) results ++
  checked "certinspect_hostname_match" (fun info => info.hostnameMatch ≠ none)
    (fun info => info.hostnameMatch = some true) results ++
  checked "certinspect_chain_trusted" (fun info => info.chainTrusted ≠ none)
    (fun info => info.chainTrusted = some true) results ++
  checked "certinspect_cert_revoked"
    (fun info => info.revocationStatus = some .good ∨ info.revocationStatus = some .revoked)
    (fun info => info.revocationStatus = some .revoked) results ++
  checked "certinspect_policy_ok" (fun info => info.policyViolations ≠ none)
    (fun info => info.policyViolations = some []) results

/-- The samples of a gauge of the code: one for each result that has a value. -/
def gauge (metric : String) (value : CertificateInfo → Option Int)
    (results : List InspectionResult) : List Sample :=
  results.filterMap fun result => (value result.info).map (Sample.mk metric result.shownName)

/-! ### Reading the text back -/

section Reading

/-- **Three replacements, one pass**: a backslash that an escape puts in is not escaped again. -/
theorem prometheusLabel_toList (value : String) :
    (prometheusLabel value).toList = writtenLabel value.toList := by
  unfold prometheusLabel replaceChar writtenLabel
  simp only [String.toList_ofList, List.flatMap_assoc]
  refine List.flatMap_congr fun c _ => ?_
  unfold writtenChar
  by_cases backslash : c = '\\'
  · rw [if_pos backslash, if_pos backslash]
    rfl
  by_cases quote : c = '"'
  · rw [if_neg backslash, if_neg backslash, if_pos quote, quote]
    rfl
  by_cases feed : c = '\n'
  · rw [if_neg backslash, if_neg backslash, if_neg quote, if_pos feed, feed]
    rfl
  · simp [backslash, quote, feed]

theorem prometheusLabel_inj {first second : String}
    (same : prometheusLabel first = prometheusLabel second) : first = second := by
  have written := congrArg String.toList same
  rw [prometheusLabel_toList, prometheusLabel_toList] at written
  exact String.toList_inj.mp (writtenLabel_injective written)

/-- A line of a gauge is a sample of the exposition format. -/
theorem prometheusSample_eq (metric target : String) (value : Int) :
    prometheusSample metric (prometheusLabel target) value =
      (Sample.mk metric target value).line "target" := by
  have label : String.ofList (labelStart "target" ++ writtenLabel target.toList) =
      "\x7btarget=\"" ++ prometheusLabel target := by
    apply String.toList_inj.mp
    rw [String.toList_append, prometheusLabel_toList, String.toList_ofList]
    rfl
  unfold prometheusSample Sample.line
  rw [label]
  simp only [String.append_assoc]
  rfl

theorem gaugeLines_eq (metric : String) (value : CertificateInfo → Option Int)
    (results : List InspectionResult) :
    gaugeLines metric value results =
      (gauge metric value results).map fun sample => sample.line "target" := by
  unfold gaugeLines gauge
  rw [List.map_filterMap]
  refine List.filterMap_congr fun result _ => ?_
  rw [Option.map_map]
  refine congrArg (fun f => Option.map f (value result.info)) ?_
  funext number
  exact prometheusSample_eq metric result.shownName number

/-- A gauge with its comments, as lines of the exposition format. -/
def gaugeText (metric help : String) (samples : List Sample) : List Line :=
  (gaugeHeader metric help).map .comment ++ samples.map .reading

/-- A gauge that is left out when it has no samples. -/
def conditionalText (metric help : String) (samples : List Sample) : List Line :=
  if samples.isEmpty then [] else gaugeText metric help samples

section Blocks

variable {metric help : String} {samples : List Sample}

theorem gaugeText_write :
    (gaugeText metric help samples).map (Line.write "target") =
      gaugeHeader metric help ++ samples.map fun sample => sample.line "target" := by
  unfold gaugeText
  rw [List.map_append, List.map_map, List.map_map]
  rfl

theorem conditionalText_write :
    (conditionalText metric help samples).map (Line.write "target") =
      conditionalGauge metric help (samples.map fun sample => sample.line "target") := by
  unfold conditionalText conditionalGauge
  rw [List.isEmpty_map]
  by_cases empty : samples.isEmpty = true
  · rw [if_pos empty, if_pos empty]
    rfl
  · rw [if_neg empty, if_neg empty]
    exact gaugeText_write

theorem gaugeText_samples : (gaugeText metric help samples).filterMap Line.sample? = samples := by
  have readings : (samples.map Line.reading).filterMap Line.sample? = samples := by
    rw [List.filterMap_map]
    exact List.filterMap_some
  have comments : ((gaugeHeader metric help).map Line.comment).filterMap Line.sample? = [] := by
    rw [List.filterMap_map]
    exact List.filterMap_none _
  unfold gaugeText
  rw [List.filterMap_append, comments, readings, List.nil_append]

theorem conditionalText_samples :
    (conditionalText metric help samples).filterMap Line.sample? = samples := by
  unfold conditionalText
  by_cases empty : samples.isEmpty = true
  · rw [if_pos empty, List.isEmpty_iff.mp empty]
    rfl
  · rw [if_neg empty]
    exact gaugeText_samples

theorem gaugeText_wellFormed (named : MetricName metric) (oneLine : '\n' ∉ help.toList)
    (own : ∀ sample ∈ samples, sample.metric = metric) :
    ∀ line ∈ gaugeText metric help samples, line.WellFormed := by
  have noFeed := named.noFeed
  intro line member
  rcases List.mem_append.mp member with isComment | isReading
  · obtain ⟨text, inHeader, rfl⟩ := List.mem_map.mp isComment
    unfold gaugeHeader at inHeader
    rcases List.mem_pair.mp inHeader with rfl | rfl
    · exact ⟨by simp, by simp [noFeed, oneLine]⟩
    · exact ⟨by simp, by simp [noFeed]⟩
  · obtain ⟨sample, inSamples, rfl⟩ := List.mem_map.mp isReading
    show MetricName sample.metric
    rw [own sample inSamples]
    exact named

theorem conditionalText_wellFormed (named : MetricName metric) (oneLine : '\n' ∉ help.toList)
    (own : ∀ sample ∈ samples, sample.metric = metric) :
    ∀ line ∈ conditionalText metric help samples, line.WellFormed := by
  unfold conditionalText
  by_cases empty : samples.isEmpty = true
  · rw [if_pos empty]
    exact fun _ absurd => by cases absurd
  · rw [if_neg empty]
    exact gaugeText_wellFormed named oneLine own

end Blocks

section Text

variable (results : List InspectionResult) (errors : List (Option String × String))

/-- The samples of `certinspect_up`. -/
def upSamples : List Sample :=
  results.map (fun result => ⟨"certinspect_up", result.shownName, 1⟩) ++
    errors.map fun error => ⟨"certinspect_up", errorName error, 0⟩

/-- The text of `format_prometheus`, as lines of the exposition format. -/
def prometheusText : List Line :=
  gaugeText "certinspect_up" "Whether the target could be inspected (1) or not (0)."
    (upSamples results errors) ++
  gaugeText "certinspect_cert_expiry_days" "Days until the certificate expires."
    (gauge "certinspect_cert_expiry_days" (fun info => some info.daysToExpire) results) ++
  gaugeText "certinspect_cert_valid"
    "Whether the certificate is within its validity window (1) or not (0)."
    (gauge "certinspect_cert_valid" (fun info => some (certValid info)) results) ++
  conditionalText "certinspect_hostname_match"
    "Whether the hostname is covered by the certificate SAN (1) or not (0)."
    (gauge "certinspect_hostname_match" hostnameMatch results) ++
  conditionalText "certinspect_chain_trusted"
    "Whether the certificate chain is trusted (1) or not (0)."
    (gauge "certinspect_chain_trusted" chainTrusted results) ++
  conditionalText "certinspect_cert_revoked"
    "Whether the certificate is revoked (1) or not (0)."
    (gauge "certinspect_cert_revoked" certRevoked results) ++
  conditionalText "certinspect_policy_ok"
    "Whether the certificate passed the requested policy checks (1) or not (0)."
    (gauge "certinspect_policy_ok" policyOk results)

/-- The samples of a gauge that every result has a value for. -/
theorem gauge_total (metric : String) (value : CertificateInfo → Int) :
    gauge metric (fun info => some (value info)) results =
      results.map fun result => ⟨metric, result.shownName, value result.info⟩ := by
  unfold gauge
  exact congrFun List.filterMap_eq_map' results

theorem errorLabel_eq (error : Option String × String) :
    (given error.1).getD "" = errorName error := by
  unfold errorName given
  cases error.1 with
  | none => rfl
  | some name =>
    by_cases empty : name = ""
    · rw [empty]
      rfl
    · simp [Option.filter, empty]

theorem upLines_eq :
    upLines results errors = (upSamples results errors).map fun sample => sample.line "target" := by
  unfold upLines upSamples
  rw [List.map_append, gaugeLines_eq, List.map_map, List.map_map]
  refine congrArg₂ (· ++ ·) ?_ ?_
  · rw [gauge_total results "certinspect_up" fun _ => 1, List.map_map]
  · refine List.map_congr_left fun error _ => ?_
    rw [errorLabel_eq]
    exact prometheusSample_eq _ _ _

/-- The lines of the text are those of the blocks. -/
theorem prometheusLines_eq :
    prometheusLines results errors = (prometheusText results errors).map (Line.write "target") := by
  unfold prometheusLines prometheusText
  simp only [List.map_append, gaugeText_write, conditionalText_write, gaugeLines_eq, upLines_eq,
    List.append_assoc]

theorem shownName_eq : InspectionResult.shownName = originalName := by
  funext result
  unfold InspectionResult.shownName originalName given
  cases result.label with
  | none => rfl
  | some target => by_cases empty : target = "" <;> simp [Option.filter, empty]

/-- A gauge that has a value where its check ran is the samples of the check. -/
theorem gauge_eq_checked (metric : String) {value : CertificateInfo → Option Int}
    {ran yes : CertificateInfo → Prop} [DecidablePred ran] [DecidablePred yes]
    (agrees : ∀ info, value info = if ran info then some (if yes info then 1 else 0) else none) :
    gauge metric value results = checked metric ran yes results := by
  unfold gauge checked
  rw [shownName_eq]
  induction results with
  | nil => rfl
  | cons result rest ih =>
    rw [List.filterMap_cons, agrees, ih, List.filter_cons]
    by_cases here : ran result.info <;> simp [here]

theorem gauge_certValid :
    gauge "certinspect_cert_valid" (fun info => some (certValid info)) results =
      checked "certinspect_cert_valid" (fun _ => True)
        (fun info => info.status ≠ .expired ∧ info.status ≠ .invalidDates) results := by
  refine gauge_eq_checked results _ fun info => ?_
  unfold certValid statusOf
  cases info.status <;> rfl

theorem gauge_hostnameMatch :
    gauge "certinspect_hostname_match" hostnameMatch results =
      checked "certinspect_hostname_match" (fun info => info.hostnameMatch ≠ none)
        (fun info => info.hostnameMatch = some true) results := by
  refine gauge_eq_checked results _ fun info => ?_
  unfold hostnameMatch
  rcases info.hostnameMatch with _ | (_ | _) <;> rfl

theorem gauge_chainTrusted :
    gauge "certinspect_chain_trusted" chainTrusted results =
      checked "certinspect_chain_trusted" (fun info => info.chainTrusted ≠ none)
        (fun info => info.chainTrusted = some true) results := by
  refine gauge_eq_checked results _ fun info => ?_
  unfold chainTrusted
  rcases info.chainTrusted with _ | (_ | _) <;> rfl

theorem gauge_certRevoked :
    gauge "certinspect_cert_revoked" certRevoked results =
      checked "certinspect_cert_revoked"
        (fun info => info.revocationStatus = some .good ∨ info.revocationStatus = some .revoked)
        (fun info => info.revocationStatus = some .revoked) results := by
  refine gauge_eq_checked results _ fun info => ?_
  unfold certRevoked
  cases info.revocationStatus with
  | none => rfl
  | some status => cases status <;> rfl

theorem gauge_policyOk :
    gauge "certinspect_policy_ok" policyOk results =
      checked "certinspect_policy_ok" (fun info => info.policyViolations ≠ none)
        (fun info => info.policyViolations = some []) results := by
  refine gauge_eq_checked results _ fun info => ?_
  unfold policyOk bit
  rcases info.policyViolations with _ | (_ | _) <;> simp

/-- The samples of the text are what was measured. -/
theorem prometheusText_samples :
    (prometheusText results errors).filterMap Line.sample? = measured results errors := by
  unfold prometheusText measured upSamples
  simp only [List.filterMap_append, gaugeText_samples, conditionalText_samples,
    gauge_total results "certinspect_cert_expiry_days", gauge_certValid, gauge_hostnameMatch,
    gauge_chainTrusted, gauge_certRevoked, gauge_policyOk, shownName_eq, List.append_assoc]

theorem gauge_own (metric : String) (value : CertificateInfo → Option Int) :
    ∀ sample ∈ gauge metric value results, sample.metric = metric := by
  intro sample member
  obtain ⟨result, _, valued⟩ := List.mem_filterMap.mp member
  obtain ⟨number, _, rfl⟩ := Option.map_eq_some_iff.mp valued
  rfl

theorem upSamples_own : ∀ sample ∈ upSamples results errors, sample.metric = "certinspect_up" := by
  intro sample member
  rcases List.mem_append.mp member with inspected | failed
  · obtain ⟨result, _, rfl⟩ := List.mem_map.mp inspected
    rfl
  · obtain ⟨error, _, rfl⟩ := List.mem_map.mp failed
    rfl

/-- Every line of the text is well formed. -/
theorem prometheusText_wellFormed :
    ∀ line ∈ prometheusText results errors, line.WellFormed := by
  unfold prometheusText
  simp only [List.forall_mem_append]
  refine ⟨⟨⟨⟨⟨⟨?_, ?_⟩, ?_⟩, ?_⟩, ?_⟩, ?_⟩, ?_⟩
  · exact gaugeText_wellFormed (by decide) (notMem_literal (by decide))
      (upSamples_own results errors)
  · exact gaugeText_wellFormed (by decide) (notMem_literal (by decide))
      (gauge_own results _ _)
  · exact gaugeText_wellFormed (by decide) (notMem_literal (by decide))
      (gauge_own results _ _)
  · exact conditionalText_wellFormed (by decide) (notMem_literal (by decide))
      (gauge_own results _ _)
  · exact conditionalText_wellFormed (by decide) (notMem_literal (by decide))
      (gauge_own results _ _)
  · exact conditionalText_wellFormed (by decide) (notMem_literal (by decide))
      (gauge_own results _ _)
  · exact conditionalText_wellFormed (by decide) (notMem_literal (by decide))
      (gauge_own results _ _)

/-- Reading the text gives the samples of its lines. -/
theorem readText_prometheusText :
    readText "target" (formatPrometheus results errors) =
      some ((prometheusText results errors).filterMap Line.sample?) := by
  have some : prometheusText results errors ≠ [] := by
    unfold prometheusText gaugeText gaugeHeader
    simp
  unfold formatPrometheus
  rw [prometheusLines_eq]
  exact readText_lines (by decide) (prometheusText_wellFormed results errors) some

/-- **The text decodes to exactly what was measured**, for every batch and all names: read line by
line, with the comments skipped and the labels unescaped, it gives the samples of `measured`, in
order, and nothing else. -/
theorem readText_formatPrometheus :
    readText "target" (formatPrometheus results errors) = some (measured results errors) := by
  rw [readText_prometheusText, prometheusText_samples]

end Text

end Reading

/-! ### One series a target -/

section Series

variable (results : List InspectionResult) (errors : List (Option String × String))

/-- The gauges for results alone. -/
def resultGauges : List (String × (CertificateInfo → Option Int)) :=
  [("certinspect_cert_expiry_days", fun info => some info.daysToExpire),
    ("certinspect_cert_valid", fun info => some (certValid info)),
    ("certinspect_hostname_match", hostnameMatch), ("certinspect_chain_trusted", chainTrusted),
    ("certinspect_cert_revoked", certRevoked), ("certinspect_policy_ok", policyOk)]

/-- The samples, metric by metric. -/
def metricBlocks : List (String × List Sample) :=
  ("certinspect_up", upSamples results errors) ::
    resultGauges.map fun (metric, value) => (metric, gauge metric value results)

theorem measured_eq_blocks :
    measured results errors = (metricBlocks results errors).flatMap Prod.snd := by
  unfold measured metricBlocks resultGauges upSamples
  simp only [List.map_cons, List.map_nil, List.flatMap_cons, List.flatMap_nil, List.append_nil,
    List.append_assoc, gauge_total results "certinspect_cert_expiry_days", gauge_certValid,
    gauge_hostnameMatch, gauge_chainTrusted, gauge_certRevoked, gauge_policyOk, shownName_eq]

theorem metricBlocks_metrics :
    (metricBlocks results errors).map Prod.fst = "certinspect_up" :: resultGauges.map Prod.fst := by
  unfold metricBlocks
  rw [List.map_cons, List.map_map]
  rfl

theorem metricBlocks_own :
    ∀ block ∈ metricBlocks results errors, ∀ sample ∈ block.2, sample.metric = block.1 := by
  intro block member
  rcases List.mem_cons.mp member with rfl | inGauges
  · exact upSamples_own results errors
  · obtain ⟨⟨metric, value⟩, _, rfl⟩ := List.mem_map.mp inGauges
    exact gauge_own results metric value

theorem upSamples_targets :
    (upSamples results errors).map Sample.target =
      results.map InspectionResult.shownName ++ errors.map errorName := by
  unfold upSamples
  rw [List.map_append, List.map_map, List.map_map]
  rfl

/-- A gauge has a target at most once for each result of that name. -/
theorem gauge_targets_sublist (metric : String) (value : CertificateInfo → Option Int) :
    ((gauge metric value results).map Sample.target).Sublist
      (results.map InspectionResult.shownName) := by
  induction results with
  | nil => exact List.nil_sublist _
  | cons result rest ih =>
    unfold gauge at *
    rw [List.filterMap_cons, List.map_cons]
    cases value result.info with
    | none => exact ih.cons _
    | some number => exact ih.cons_cons _

/-- **A series is repeated exactly when a name is**: `certinspect_up` has every name, and no other
metric has more. -/
theorem measured_series_nodup_iff :
    ((measured results errors).map Sample.series).Nodup ↔
      (results.map InspectionResult.shownName ++ errors.map errorName).Nodup := by
  have distinct : ((metricBlocks results errors).map Prod.fst).Nodup := by
    rw [metricBlocks_metrics]
    decide
  rw [measured_eq_blocks, series_nodup_iff distinct (metricBlocks_own results errors),
    ← upSamples_targets]
  refine ⟨fun each => each _ List.mem_cons_self, ?_⟩
  intro names block member
  rcases List.mem_cons.mp member with rfl | inGauges
  · exact names
  · obtain ⟨⟨metric, value⟩, _, rfl⟩ := List.mem_map.mp inGauges
    rw [upSamples_targets] at names
    exact names.of_append_left.sublist (gauge_targets_sublist results metric value)

end Series

/-! ### A revocation check without an answer -/

/-- A host whose revocation check ran and could not reach anybody. -/
def sampleUndecided : InspectionResult where
  label := some "a.com"
  info :=
    { subject := "CN=a.com", issuer := "CN=CA", notValidBefore := 0, notValidAfter := Instant.day
      serialNumber := 1, signatureAlgorithm := "sha256", daysToExpire := 1, validityDays := 1
      keyType := "EC", keySize := some 256, san := ["a.com"], fingerprintSha256 := ""
      isCa := false, selfSigned := false, keyUsage := [], extendedKeyUsage := [], sctCount := 0
      mustStaple := false, weak := [], status := .valid, hostnameMatch := some true
      revocationStatus := some .unavailable }
  code := .exit .ok

/-- The check of this host ran, and the text has no `certinspect_cert_revoked` for it. -/
theorem readText_formatPrometheus_counterexample :
    ¬ ∀ results errors samples, readText "target" (formatPrometheus results errors) = some samples →
      ∀ result ∈ results, result.info.revocationStatus ≠ none →
        ∃ sample ∈ samples, sample.metric = "certinspect_cert_revoked" ∧
          sample.target = result.shownName := by
  intro complete
  have read := readText_prometheusText [sampleUndecided] []
  obtain ⟨sample, member, named, _⟩ :=
    complete _ _ _ read sampleUndecided List.mem_cons_self (by decide)
  rw [prometheusText_samples] at member
  revert sample
  decide

end Certinspect.Formatter
