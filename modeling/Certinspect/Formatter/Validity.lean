/-
**What the exporters say about the validity window.**

The status is judged by the dates and the clock; the gauge `certinspect_cert_valid` and the Nagios
state are derived from the status, the Nagios performance data from the days left.

* `validSamples`, `validSamples_eq` — the samples of the gauge, read back from the text.
* `certValid_iff` — the gauge is 1 for every certificate that is not `EXPIRED` or `INVALID DATES`.
* **`certValid_exact`** — it tells the truth exactly when the window has opened, or never opens.
* `nagiosResultLine_printed`, `nagiosResultLine_graphed` — the state a line prints, and the one its
  datum has.
* **`perfdata_exact`** — the two agree unless the certificate has expired less long ago than a
  negative critical threshold.
-/

import Certinspect.Cli.Records
import Certinspect.Formatter.Prometheus
import Certinspect.Library.Perfdata
import Certinspect.Parser.Expiry

namespace Certinspect.Formatter

open Library Cli

/-! ### The gauge -/

section Gauge

variable {results : List InspectionResult} {errors : List (Option String × String)}
  {samples : List Sample} {now : Instant} {warnDays : Int} {criticalDays : Option Int}
  {cert : Certificate} {info : CertificateInfo}

/-- The samples of `certinspect_cert_valid`. -/
def validSamples (samples : List Sample) : List Sample :=
  samples.filter fun sample => sample.metric == "certinspect_cert_valid"

theorem filter_gauge (metric other : String) (value : CertificateInfo → Option Int) :
    (gauge metric value results).filter (fun sample => sample.metric == other) =
      if metric = other then gauge metric value results else [] := by
  have own := gauge_own results metric value
  split
  · rename_i same
    refine List.filter_eq_self.mpr fun sample member => ?_
    rw [own sample member, beq_iff_eq]
    exact same
  · rename_i distinct
    refine List.filter_eq_nil_iff.mpr fun sample member => ?_
    rw [own sample member, beq_iff_eq]
    exact distinct

/-- The gauge has one sample for each result, in order. -/
theorem validSamples_eq (read : readText "target" (formatPrometheus results errors) = some samples) :
    validSamples samples = results.map fun result =>
      ⟨"certinspect_cert_valid", result.shownName, certValid result.info⟩ := by
  have up : (upSamples results errors).filter
      (fun sample => sample.metric == "certinspect_cert_valid") = [] := by
    refine List.filter_eq_nil_iff.mpr fun sample member => ?_
    rw [upSamples_own results errors sample member]
    decide
  rw [readText_prometheusText, prometheusText_samples, measured_eq_blocks] at read
  cases read
  unfold validSamples metricBlocks resultGauges
  rw [List.flatMap_cons, List.filter_append, up, List.nil_append]
  simp only [List.map_cons, List.map_nil, List.flatMap_cons, List.flatMap_nil, List.filter_append,
    filter_gauge, List.append_nil, List.nil_append, String.reduceEq, if_true,
    if_false]
  exact gauge_total results _ certValid

/-- The gauge is 1 unless the status is one of two. -/
theorem certValid_iff :
    certValid info = 1 ↔ info.status ≠ .expired ∧ info.status ≠ .invalidDates := by
  unfold certValid statusOf
  cases info.status <;> decide

/-- The statuses of a certificate that is outside its validity window, or has none. -/
def Unusable (status : Status) : Prop :=
  status = .expired ∨ status = .invalidDates ∨ status = .notYetValid

instance : DecidablePred Unusable := fun _ => inferInstanceAs (Decidable (_ ∨ _))

/-- What the sample of a certificate is to say: 1 exactly inside the validity window, and 0 for every
status of a certificate that cannot be used. -/
structure TellsValidity (now : Instant) (cert : Certificate) (status : Status) (value : Int) :
    Prop where
  window : value = 1 ↔ cert.notValidBefore ≤ now ∧ now ≤ cert.notValidAfter
  unusable : Unusable status → value = 0

/-- The status of a record: by the order of the dates, then by the clock, then by the time left. -/
theorem status_cases (made : InspectedAt now warnDays criticalDays cert info) :
    (cert.notValidAfter < cert.notValidBefore ∧ info.status = .invalidDates) ∨
      (cert.notValidBefore ≤ cert.notValidAfter ∧ now < cert.notValidBefore ∧
        info.status = .notYetValid) ∨
      (cert.notValidBefore ≤ cert.notValidAfter ∧ cert.notValidBefore ≤ now ∧
        info.status = Parser.lifetimeStatus (cert.notValidAfter - now) warnDays criticalDays) := by
  obtain ⟨key, fields⟩ := Parser.analyze_ok made.analyzed
  by_cases ordered : cert.notValidBefore ≤ cert.notValidAfter
  · by_cases started : cert.notValidBefore ≤ now
    · refine Or.inr (Or.inr ⟨ordered, started, ?_⟩)
      rw [made.status, Parser.certificateStatus_eq made.analyzed ordered started]
    · refine Or.inr (Or.inl ⟨ordered, Int.not_le.mp started, ?_⟩)
      rw [made.status]
      unfold Parser.certificateStatus
      rw [fields.notValidBefore, fields.notValidAfter, if_neg (Int.not_lt.mpr ordered),
        if_pos (Int.not_le.mp started)]
  · refine Or.inl ⟨Int.not_le.mp ordered, ?_⟩
    rw [made.status]
    unfold Parser.certificateStatus
    rw [fields.notValidBefore, fields.notValidAfter, if_pos (Int.not_le.mp ordered)]

/-- The status of a certificate in use is not one about its dates. -/
theorem lifetimeStatus_dates (left : Int) :
    Parser.lifetimeStatus left warnDays criticalDays ≠ .invalidDates ∧
      Parser.lifetimeStatus left warnDays criticalDays ≠ .notYetValid := by
  unfold Parser.lifetimeStatus
  split_ifs <;> decide

/-- A gauge that is not 1 is 0. -/
theorem certValid_eq_zero_iff : certValid info = 0 ↔ ¬ certValid info = 1 := by
  unfold certValid
  split <;> decide

/-- The value of the gauge, against the dates: only before the window opens is it wrong. -/
theorem tellsValidity_iff (made : InspectedAt now warnDays criticalDays cert info) :
    TellsValidity now cert info.status (certValid info) ↔
      cert.notValidBefore ≤ now ∨ cert.notValidAfter < cert.notValidBefore := by
  rcases status_cases made with ⟨never, dates⟩ | ⟨ordered, early, dates⟩ | ⟨ordered, started, dates⟩
  · have zero : ¬ certValid info = 1 := fun one => (certValid_iff.mp one).2 dates
    refine ⟨fun _ => Or.inr never, fun _ => ⟨?_, fun _ => certValid_eq_zero_iff.mpr zero⟩⟩
    exact iff_of_false zero fun inside => Int.not_lt.mpr (Int.le_trans inside.1 inside.2) never
  · have one : certValid info = 1 := by
      rw [certValid_iff, dates]
      decide
    refine ⟨fun tells => Or.inl (tells.window.mp one).1, ?_⟩
    rintro (started | never)
    · exact (Int.not_lt.mpr started early).elim
    · exact (Int.not_lt.mpr ordered never).elim
  · have expired : info.status = .expired ↔ Parser.Expired now cert := by
      rw [dates]
      exact Parser.lifetimeStatus_byRules.expired
    have others : info.status ≠ .invalidDates ∧ info.status ≠ .notYetValid := by
      rw [dates]
      exact lifetimeStatus_dates _
    have one : certValid info = 1 ↔ now ≤ cert.notValidAfter := by
      rw [certValid_iff, and_iff_left others.1, ne_eq, expired]
      exact Int.not_lt
    refine ⟨fun _ => Or.inl started, fun _ => ⟨?_, ?_⟩⟩
    · rw [one]
      exact (and_iff_right started).symm
    · intro unusable
      rcases unusable with gone | never | early
      · rw [certValid_eq_zero_iff, certValid_iff]
        exact fun both => both.1 gone
      · exact (others.1 never).elim
      · exact (others.2 early).elim

/-- **The gauge tells the truth exactly when the window has opened, or never opens.** -/
theorem certValid_exact (results : List InspectionResult) (errors : List (Option String × String))
    (samples : List Sample) (i : Nat) (result : InspectionResult) (now : Instant) (warnDays : Int)
    (criticalDays : Option Int) (cert : Certificate)
    (read : readText "target" (formatPrometheus results errors) = some samples)
    (place : results[i]? = some result)
    (made : InspectedAt now warnDays criticalDays cert result.info) :
    (∃ sample, (validSamples samples)[i]? = some sample ∧ sample.target = result.shownName ∧
        TellsValidity now cert result.info.status sample.value) ↔
      cert.notValidBefore ≤ now ∨ cert.notValidAfter < cert.notValidBefore := by
  rw [validSamples_eq read, List.getElem?_map, place, Option.map_some, ← tellsValidity_iff made]
  refine ⟨?_, ?_⟩
  · intro found
    obtain ⟨sample, same, _, tells⟩ := found
    cases same
    exact tells
  · exact fun tells => ⟨_, rfl, rfl, tells⟩

/-- A certificate whose window opens tomorrow. -/
def upcoming : Certificate := { Parser.sampleCertificate [] with notValidBefore := Instant.day }

/-- The result of inspecting a certificate on the first day of 1970. -/
def inspectedOn (cert : Certificate) (criticalDays : Option Int) : InspectionResult :=
  let info := describe 0 (Parser.sampleInfo cert) none none { criticalDays := criticalDays }
  ⟨some "a.com", info, .exit (exitByStatus info.status)⟩

theorem inspectedOn_at {cert : Certificate} {criticalDays : Option Int} {extensions : List Extension}
    {key : PublicKey} (readable : cert.extensions = .ok extensions) (keyed : cert.publicKey = .ok key) :
    InspectedAt 0 30 criticalDays cert (inspectedOn cert criticalDays).info :=
  ⟨Parser.analyze_sample readable keyed, rfl⟩

theorem certValid_exact_sample :
    (∃ sample, (validSamples (measured [inspectedOn upcoming none] []))[0]? = some sample ∧
        sample.target = (inspectedOn upcoming none).shownName ∧
        TellsValidity 0 upcoming (inspectedOn upcoming none).info.status sample.value) ↔
      upcoming.notValidBefore ≤ 0 ∨ upcoming.notValidAfter < upcoming.notValidBefore :=
  certValid_exact [inspectedOn upcoming none] [] _ 0 (inspectedOn upcoming none) 0 30 none upcoming
    (by rw [readText_prometheusText, prometheusText_samples]) rfl (inspectedOn_at rfl rfl)

/-- The sample of a certificate whose window opens tomorrow is 1. -/
theorem certValid_exact_counterexample :
    InspectedAt 0 30 none upcoming (inspectedOn upcoming none).info ∧
      readText "target" (formatPrometheus [inspectedOn upcoming none] []) =
        some (measured [inspectedOn upcoming none] []) ∧
      validSamples (measured [inspectedOn upcoming none] []) =
        [⟨"certinspect_cert_valid", "a.com", 1⟩] ∧
      (inspectedOn upcoming none).info.status = .notYetValid ∧
      ¬ (upcoming.notValidBefore ≤ 0 ∧ 0 ≤ upcoming.notValidAfter) ∧
      ¬ TellsValidity 0 upcoming .notYetValid 1 := by
  have opens : ¬ (upcoming.notValidBefore ≤ 0 ∧ 0 ≤ upcoming.notValidAfter) := by decide
  have read : readText "target" (formatPrometheus [inspectedOn upcoming none] []) =
      some (measured [inspectedOn upcoming none] []) := by
    rw [readText_prometheusText, prometheusText_samples]
  refine ⟨inspectedOn_at rfl rfl, read, ?_, by decide, opens, ?_⟩
  · rw [validSamples_eq read]
    decide
  · exact fun tells => opens (tells.window.mp rfl)

end Gauge

/-! ### The performance data -/

section Perfdata

variable {now : Instant} {warnDays : Int} {criticalDays : Option Int} {cert : Certificate}
  {info : CertificateInfo} {result : InspectionResult}

/-- The state of a code. -/
def pluginState (code : Code) : PluginState :=
  if code.value = 0 then .ok else if code = .exit .expiring then .warning else .critical

theorem nagiosLabel_eq (code : Code) :
    nagiosLabel (nagiosSeverity code) = (pluginState code).label := by
  rcases code with ⟨_ | _ | _ | _ | _ | _ | _ | _⟩ | _ <;> decide

/-- The text of a line, between its state and its datum. -/
def nagiosText (result : InspectionResult) : String :=
  " " ++ result.shownName ++ " certificate " ++ (statusOf result.info).str ++ " (" ++
    result.info.daysToExpire.repr ++ " days to expiry) "

/-- The datum of a line. -/
def nagiosDatum (warnDays : Int) (criticalDays : Option Int) (result : InspectionResult) : String :=
  writeBelow "days" result.info.daysToExpire warnDays (criticalDays.getD 0)

/-- The line of a result: its state, a text, and its datum after a bar. -/
theorem nagiosResultLine_toList :
    (nagiosResultLine warnDays criticalDays result).toList =
      (pluginState result.code).label.toList ++ ':' :: ((nagiosText result).toList ++
        '|' :: ' ' :: (nagiosDatum warnDays criticalDays result).toList) := by
  have number (n : Int) : toString n = n.repr := rfl
  have itself (text : String) : toString text = text := rfl
  unfold nagiosResultLine nagiosText nagiosDatum writeBelow
  rw [nagiosLabel_eq]
  simp [number, itself]

theorem colon_notMem_label (state : PluginState) : ':' ∉ state.label.toList := by
  cases state <;> decide

theorem label_injective {first second : PluginState} (same : first.label = second.label) :
    first = second := by
  cases first <;> cases second <;> first | rfl | exact absurd same (by decide)

theorem nagiosResultLine_printed :
    printedState (nagiosResultLine warnDays criticalDays result) =
      (pluginState result.code).label := by
  unfold printedState
  rw [nagiosResultLine_toList, (takeWhile_append_stop _ (colon_notMem_label _)).1,
    String.ofList_toList]

theorem nagiosDatum_clean :
    '|' ∉ (nagiosDatum warnDays criticalDays result).toList ∧
      '\n' ∉ (nagiosDatum warnDays criticalDays result).toList := by
  unfold nagiosDatum writeBelow
  simp [notMem_repr]

theorem nagiosResultLine_graphed :
    graphedState (nagiosResultLine warnDays criticalDays result) =
      some (datumBelow "days" result.info.daysToExpire warnDays (criticalDays.getD 0)).state := by
  have shape : (nagiosResultLine warnDays criticalDays result).toList =
      ((pluginState result.code).label.toList ++ ':' :: (nagiosText result).toList) ++
        '|' :: ' ' :: (nagiosDatum warnDays criticalDays result).toList := by
    rw [nagiosResultLine_toList]
    simp
  have start : (nagiosDatum warnDays criticalDays result).toList.head? ≠ some ' ' := by
    unfold nagiosDatum writeBelow
    simp
  unfold graphedState
  rw [shape, perfdata_append nagiosDatum_clean.1 start]
  unfold nagiosDatum
  rw [readDatum_below (by decide), Option.map_some]

/-- The state of a record in use, by the time left. -/
theorem pluginState_lifetime (left : Int) :
    pluginState (.exit (exitByStatus (Parser.lifetimeStatus left warnDays criticalDays))) =
      if left < 0 ∨ (criticalDays.any fun critical => left < critical * Instant.day) = true then
        .critical
      else if left < warnDays * Instant.day then .warning else .ok := by
  unfold Parser.lifetimeStatus
  by_cases gone : left < 0
  · rw [if_pos gone, if_pos (Or.inl gone)]
    rfl
  rw [if_neg gone]
  by_cases soon : (criticalDays.any fun critical => left < critical * Instant.day) = true
  · rw [if_pos soon, if_pos (Or.inr soon)]
    rfl
  rw [if_neg soon, if_neg (not_or.mpr ⟨gone, soon⟩)]
  split <;> rfl

/-- A critical threshold, if one is given, is above the days left of an expired certificate. -/
def PastCritical (now : Instant) (cert : Certificate) (criticalDays : Option Int) : Prop :=
  ∀ days, criticalDays = some days → Parser.Expired now cert →
    cert.notValidAfter - now < days * Instant.day

/-- The two ways to find the state, from the time left. -/
theorem states_agree_iff (left warnDays : Int) (criticalDays : Option Int) :
    ((if left < criticalDays.getD 0 * Instant.day then PluginState.critical
        else if left < warnDays * Instant.day then .warning else .ok) =
      if left < 0 ∨ (criticalDays.any fun critical => left < critical * Instant.day) = true then
        PluginState.critical
      else if left < warnDays * Instant.day then .warning else .ok) ↔
      ∀ days, criticalDays = some days → left < 0 → left < days * Instant.day := by
  cases criticalDays with
  | none => simp
  | some days =>
    simp only [Option.getD_some, Option.any_some, decide_eq_true_eq, Option.some.injEq,
      forall_eq']
    by_cases soon : left < days * Instant.day
    · rw [if_pos soon, if_pos (Or.inr soon)]
      exact iff_of_true rfl fun _ => soon
    · by_cases gone : left < 0
      · rw [if_neg soon, if_pos (Or.inl gone)]
        refine iff_of_false ?_ fun both => soon (both gone)
        split <;> decide
      · rw [if_neg soon, if_neg (not_or.mpr ⟨gone, soon⟩)]
        exact iff_of_true rfl fun early => (gone early).elim

/-- **The perfdata agrees with the printed state exactly when the critical threshold, if one is given,
is above the days left of a certificate that has expired.** -/
theorem perfdata_exact (now : Instant) (warnDays : Int) (criticalDays : Option Int)
    (cert : Certificate) (result : InspectionResult)
    (made : InspectedAt now warnDays criticalDays cert result.info)
    (ordered : cert.notValidBefore ≤ cert.notValidAfter) (started : cert.notValidBefore ≤ now)
    (coded : result.code = .exit (exitByStatus result.info.status)) :
    (graphedState (nagiosResultLine warnDays criticalDays result)).map PluginState.label =
        some (printedState (nagiosResultLine warnDays criticalDays result)) ↔
      PastCritical now cert criticalDays := by
  obtain ⟨key, fields⟩ := Parser.analyze_ok made.analyzed
  have labels (first second : PluginState) :
      (some first).map PluginState.label = some second.label ↔ first = second := by
    rw [Option.map_some, Option.some.injEq]
    exact ⟨label_injective, congrArg _⟩
  rw [nagiosResultLine_graphed, nagiosResultLine_printed, coded, made.status,
    Parser.certificateStatus_eq made.analyzed ordered started, pluginState_lifetime, labels,
    state_below, fields.daysToExpire]
  simp only [Parser.daysBetween_lt_iff]
  rw [states_agree_iff]
  unfold PastCritical
  simp only [Parser.left_neg_iff]

/-- A certificate that expired one hour ago. -/
def lapsed : Certificate :=
  { Parser.sampleCertificate [] with
    notValidBefore := -Instant.day, notValidAfter := -3600000000 }

theorem perfdata_exact_sample :
    (graphedState (nagiosResultLine 30 (some 7) (inspectedOn lapsed (some 7)))).map
        PluginState.label =
        some (printedState (nagiosResultLine 30 (some 7) (inspectedOn lapsed (some 7)))) ↔
      PastCritical 0 lapsed (some 7) :=
  perfdata_exact 0 30 (some 7) lapsed (inspectedOn lapsed (some 7)) (inspectedOn_at rfl rfl)
    (by decide) (by decide) rfl

/-- With a critical threshold of -1 day, a certificate that expired one hour ago is CRITICAL, and its
perfdata says WARNING. -/
theorem perfdata_exact_counterexample :
    InspectedAt 0 30 (some (-1)) lapsed (inspectedOn lapsed (some (-1))).info ∧
      (inspectedOn lapsed (some (-1))).code =
        .exit (exitByStatus (inspectedOn lapsed (some (-1))).info.status) ∧
      nagiosResultLine 30 (some (-1)) (inspectedOn lapsed (some (-1))) =
        "CRITICAL: a.com certificate EXPIRED (-1 days to expiry) | days=-1;30:;-1:" ∧
      printedState (nagiosResultLine 30 (some (-1)) (inspectedOn lapsed (some (-1)))) = "CRITICAL" ∧
      graphedState (nagiosResultLine 30 (some (-1)) (inspectedOn lapsed (some (-1)))) =
        some .warning := by
  refine ⟨inspectedOn_at rfl rfl, rfl, by decide +kernel, ?_, ?_⟩
  · rw [nagiosResultLine_printed]
    decide
  · rw [nagiosResultLine_graphed]
    decide

end Perfdata

end Certinspect.Formatter
