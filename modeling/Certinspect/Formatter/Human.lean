/-
**The human-readable block of a result, `format_human`.**

The sections of a block are lists of lines; most lines are a label and a value. A line is shown for the
outcome of every check, so the block tells what the exit code was given for.

* `row`, `summaryLines`, `extensionLines`, `checkLines`, `expiryLines`, `sanLines`, `chainLines` — the
  sections. `humanLines`, `formatHuman` — the block.
* `formatHuman_ok_iff` — a record has a block unless it has an integer that is too long to print.
* `lineLabel` — what a line has before its first colon. `readCodes` — the exit codes that lines tell.
* `mem_readCodes` — they are those of the record. `recordedCodes_told` — also among the lines of the text.
* **`human_exit`** — the exit code of an inspection is read off its block, unless a text in the block
  has a line feed in it.
-/

import Certinspect.Cli.Recorded
import Certinspect.Formatter.Document
import Certinspect.Formatter.Tabular

namespace Certinspect.Formatter

open Library Cli

/-! ### The sections -/

/-- `LABEL_WIDTH`. -/
def labelWidth : Nat := 16

/-- `_row`. -/
def row (label value : String) : String :=
  label ++ ":" ++ String.ofList (List.replicate (labelWidth - (label ++ ":").length) ' ') ++ value

/-- `_key_size_text`. -/
def keySizeText (info : CertificateInfo) : Except PyErr String :=
  match info.keySize with
  | none => pure ("n/a (" ++ info.keyType ++ ")")
  | some size => do
    let size ← strInt size
    pure (size ++ " bit (" ++ info.keyType ++ ")")

/-- `_summary_lines`. -/
def summaryLines (info : CertificateInfo) : Except PyErr (List String) := do
  let days ← strInt info.daysToExpire
  let validity ← strInt info.validityDays
  let serialNumber ← strInt info.serialNumber
  let keySize ← keySizeText info
  pure [row "Subject" info.subject, row "Status" info.status.str, "", row "Issuer" info.issuer,
    row "Valid from" info.notValidBefore.str, row "Valid until" info.notValidAfter.str,
    row "Days to expiry" days, row "Total validity" (validity ++ " days"), "",
    row "Serial number" serialNumber, row "Signature" info.signatureAlgorithm,
    row "Key size" keySize, row "Fingerprint" info.fingerprintSha256, row "CA" (boolStr info.isCa),
    row "Self-Signed" (boolStr info.selfSigned)]

/-- A row for a text that is not empty. -/
def rowIfGiven (label : String) (value : Option String) : List String :=
  ((given value).map (row label)).toList

/-- A row for the items of a list that is not empty. -/
def rowIfAny (label : String) (items : List String) : List String :=
  if items = [] then [] else [row label (", ".intercalate items)]

/-- A warning. -/
def warningLine (text : String) : String := "WARNING: " ++ text

/-- The number of SCTs, in words when there are none. -/
def sctText (info : CertificateInfo) : Except PyErr String :=
  if info.sctCount = 0 then pure "none (no Certificate Transparency)" else strInt info.sctCount

/-- `_extension_lines`. -/
def extensionLines (info : CertificateInfo) : Except PyErr (List String) := do
  let scts ← sctText info
  pure (rowIfGiven "TLS version" info.tlsVersion.join ++ rowIfGiven "Cipher" info.cipher.join ++
    rowIfAny "Key usage" info.keyUsage ++ rowIfAny "Ext. key usage" info.extendedKeyUsage ++
    [row "SCTs" scts, row "Must-Staple" (boolStr info.mustStaple)] ++
    if info.weak = [] then [] else "" :: info.weak.map warningLine)

/-- The rows of a check that collects what is wrong, with a warning for each. -/
def listedLines (label failed : String) (warn : String → String) (found : Option (List String)) :
    List String :=
  match found with
  | none => []
  | some items =>
    row label (if items = [] then "ok" else failed) :: items.map fun item => warningLine (warn item)

/-- The rows of the verdict on the chain. -/
def trustLines (info : CertificateInfo) : List String :=
  match info.chainTrusted with
  | none => []
  | some trusted =>
    let error := if trusted then [] else
      ((given info.chainError.join).map fun reason =>
        warningLine ("chain not trusted (" ++ reason ++ ")")).toList
    let diagnosis := match info.chainDiagnosis with
      | none => []
      | some diagnosis => [row "Chain diagnosis" diagnosis.code, "  -> " ++ diagnosis.detail]
    row "Chain trusted" (boolStr trusted) :: (error ++ diagnosis)

/-- The rows of the revocation check. -/
def revocationLines (info : CertificateInfo) : List String :=
  match info.revocationStatus with
  | none => []
  | some status =>
    row "Revocation" status.str :: if status = .revoked then
      ((given info.revocationDetail.join).map fun detail =>
        warningLine ("certificate revoked (" ++ detail ++ ")")).toList
    else []

/-- The rows of the pin. -/
def pinLines (info : CertificateInfo) : List String :=
  match info.pinMatch with
  | none => []
  | some pinned =>
    row "Pin match" (boolStr pinned) ::
      if pinned then [] else [warningLine "fingerprint does not match the expected pin"]

/-- `_check_lines`. -/
def checkLines (info : CertificateInfo) : List String :=
  (info.hostnameMatch.map fun matched => row "Hostname match" (boolStr matched)).toList ++
    listedLines "Expected SAN" "MISSING" (fun name => "SAN does not cover '" ++ name ++ "'")
      info.expectedSanMissing ++
    listedLines "Policy" "FAIL" (fun reason => "policy violation (" ++ reason ++ ")")
      info.policyViolations ++
    trustLines info ++ (info.chainWarnings.getD []).map warningLine ++ revocationLines info ++
    pinLines info

/-- `_expiry_lines`. -/
def expiryLines (info : CertificateInfo) (warnDays : Int) : Except PyErr (List String) := do
  let days := info.daysToExpire
  if info.status = .critical then do
    let shown ← strInt days
    pure ["", "CRITICAL: certificate expires in " ++ shown ++ " days"]
  else if info.status = .notYetValid then
    pure ["", warningLine ("certificate is not valid until " ++ info.notValidBefore.str)]
  else if 0 ≤ days ∧ days < warnDays then do
    let shown ← strInt days
    pure ["", warningLine ("certificate expires in " ++ shown ++ " days")]
  else pure []

/-- `_san_lines`. -/
def sanLines (info : CertificateInfo) : List String :=
  if info.san = [] then ["", row "SAN" "(none)"]
  else ["", "SAN:"] ++ info.san.map fun name => "  - " ++ name

/-- The lines of a certificate of the chain. -/
def linkLines (place : Nat) (link : ChainSummary) : List String :=
  ["  [" ++ toString place ++ "] " ++ link.subject, "      issuer:  " ++ link.issuer,
    "      expires: " ++ link.notValidAfter.str, "      CA:      " ++ boolStr link.isCa]

/-- `_chain_lines`. -/
def chainLines (info : CertificateInfo) : List String :=
  match info.chain.getD [] with
  | [] => []
  | links => ["", "Certificate chain:"] ++ (links.mapIdx linkLines).flatten

/-- The lines of a block. -/
def humanLines (info : CertificateInfo) (warnDays : Int) : Except PyErr (List String) := do
  let summary ← summaryLines info
  let extensions ← extensionLines info
  let expiry ← expiryLines info warnDays
  pure (summary ++ extensions ++ checkLines info ++ expiry ++ sanLines info ++ chainLines info)

/-- `format_human`. -/
def formatHuman (info : CertificateInfo) (warnDays : Int) : Except PyErr String := do
  let lines ← humanLines info warnDays
  pure ("\n".intercalate lines)

/-! ### How it is read -/

/-- A line says this of this label. -/
def tells (lines : List String) (label value : String) : Bool := lines.contains (row label value)

/-- The rows that tell an exit code. -/
def codeRows : List (String × String × Code) :=
  [("Chain trusted", "False", .exit .untrustedOrRevoked),
    ("Revocation", RevocationStatus.str .revoked, .exit .untrustedOrRevoked),
    ("Pin match", "False", .exit .pinMismatch), ("Hostname match", "False", .exit .hostnameMismatch),
    ("Expected SAN", "MISSING", .exit .sanMismatch), ("Policy", "FAIL", .exit .policy)] ++
  [Status.valid, .expiring, .critical, .expired, .notYetValid, .invalidDates].map fun status =>
    ("Status", status.str, .exit (exitByStatus status))

/-- The exit codes that lines tell. -/
def readCodes (lines : List String) : List Code :=
  (codeRows.filter fun told => tells lines told.1 told.2.1).map fun told => told.2.2

/-- The lines of a text. -/
def feedLines (text : String) : List String := (text.toList.splitOn '\n').map String.ofList

/-! ### What a line has before its first colon -/

section Labels

variable {label name value text : String} {lines more : List String} {names : List String}

/-- The label of a line. -/
def lineLabel (line : String) : List Char := line.toList.takeWhile (· ≠ ':')

/-- The label of every line is one of these, or starts with a blank. -/
def LabelsIn (lines names : List String) : Prop :=
  ∀ line ∈ lines, lineLabel line ∈ names.map String.toList ∨ (lineLabel line).head? = some ' '

theorem lineLabel_colon (plain : ':' ∉ label.toList) (rest : String) :
    lineLabel (label ++ ":" ++ rest) = label.toList := by
  have before : ∀ c ∈ label.toList, decide (c ≠ ':') = true := fun c member =>
    decide_eq_true fun colon => plain (colon ▸ member)
  have split : (label ++ ":" ++ rest).toList = label.toList ++ ':' :: rest.toList := by simp
  rw [lineLabel, split, List.takeWhile_append_of_pos before]
  simp

theorem lineLabel_row (plain : ':' ∉ label.toList) : lineLabel (row label value) = label.toList := by
  unfold row
  rw [String.append_assoc]
  exact lineLabel_colon plain _

theorem lineLabel_warning : lineLabel (warningLine text) = "WARNING".toList := by
  have split : warningLine text = "WARNING" ++ ":" ++ (" " ++ text) := by
    rw [← String.append_assoc]
    rfl
  rw [split]
  exact lineLabel_colon (by decide) _

/-- A line that starts with a blank. -/
theorem lineLabel_blank {line : String} (blank : line.toList.head? = some ' ') :
    (lineLabel line).head? = some ' ' := by
  unfold lineLabel
  cases characters : line.toList with
  | nil =>
    rw [characters] at blank
    cases blank
  | cons c rest =>
    rw [characters] at blank
    cases blank
    rfl

theorem labelsIn_nil : LabelsIn [] names := List.forall_mem_nil _

theorem labelsIn_cons {line : String} (own : lineLabel line ∈ names.map String.toList ∨
    (lineLabel line).head? = some ' ') (others : LabelsIn lines names) :
    LabelsIn (line :: lines) names := List.forall_mem_cons.mpr ⟨own, others⟩

theorem labelsIn_more (name : String) (labels : LabelsIn lines names) :
    LabelsIn lines (name :: names) := fun line member =>
  (labels line member).imp_left (List.mem_cons_of_mem _)

theorem labelsIn_append (first : LabelsIn lines names) (second : LabelsIn more names) :
    LabelsIn (lines ++ more) names := List.forall_mem_append.mpr ⟨first, second⟩

theorem labelsIn_row (plain : ':' ∉ label.toList) (own : label ∈ names)
    (others : LabelsIn lines names) : LabelsIn (row label value :: lines) names := by
  refine labelsIn_cons (Or.inl ?_) others
  rw [lineLabel_row plain]
  exact List.mem_map_of_mem own

theorem labelsIn_warnings (own : "WARNING" ∈ names) (items : List String) (warn : String → String) :
    LabelsIn (items.map fun item => warningLine (warn item)) names := by
  refine List.forall_mem_map.mpr fun item _ => Or.inl ?_
  rw [lineLabel_warning]
  exact List.mem_map_of_mem own

theorem labelsIn_blank {line : String} (blank : line.toList.head? = some ' ')
    (others : LabelsIn lines names) : LabelsIn (line :: lines) names :=
  labelsIn_cons (Or.inr (lineLabel_blank blank)) others

theorem labelsIn_empty (own : "" ∈ names) (others : LabelsIn lines names) :
    LabelsIn ("" :: lines) names :=
  labelsIn_cons (Or.inl (List.mem_map_of_mem own)) others

/-- A row of another label is not among the lines. -/
theorem row_notMem (labels : LabelsIn lines names) (plain : ':' ∉ label.toList)
    (printed : label.toList.head? ≠ some ' ') (other : label ∉ names) : row label value ∉ lines := by
  intro member
  rcases labels _ member with named | blank
  · rw [lineLabel_row plain] at named
    obtain ⟨name, inside, same⟩ := List.mem_map.mp named
    exact other (String.toList_inj.mp same ▸ inside)
  · rw [lineLabel_row plain] at blank
    exact printed blank

theorem row_inj {first second : String} : row label first = row label second ↔ first = second := by
  have split (value : String) : (row label value).toList = (row label "").toList ++ value.toList := by
    simp [row]
  rw [← String.toList_inj, split, split second, List.append_cancel_left_eq, String.toList_inj]

end Labels

/-! ### The labels of the sections -/

section Sections

variable {info : CertificateInfo} {warnDays : Int} {lines : List String} {label value : String}

/-- The labels of the lines about the certificate, but for its status. -/
def detailNames : List String :=
  ["Subject", "", "Issuer", "Valid from", "Valid until", "Days to expiry", "Total validity",
    "Serial number", "Signature", "Key size", "Fingerprint", "CA", "Self-Signed", "TLS version",
    "Cipher", "Key usage", "Ext. key usage", "SCTs", "Must-Staple", "WARNING", "CRITICAL", "SAN",
    "Certificate chain"]

/-- The summary says the status, and nothing of a check. -/
theorem summaryLines_ok (shown : summaryLines info = .ok lines) :
    ∃ before after, lines = before ++ row "Status" info.status.str :: after ∧
      LabelsIn before detailNames ∧ LabelsIn after detailNames := by
  obtain ⟨days, _, shown⟩ := bind_ok_iff.mp shown
  obtain ⟨validity, _, shown⟩ := bind_ok_iff.mp shown
  obtain ⟨serialNumber, _, shown⟩ := bind_ok_iff.mp shown
  obtain ⟨keySize, _, shown⟩ := bind_ok_iff.mp shown
  cases shown
  refine ⟨[_], _, rfl, labelsIn_row (by decide) (by decide) labelsIn_nil, ?_⟩
  refine labelsIn_empty (by decide) ?_
  iterate 5 refine labelsIn_row (by decide) (by decide) ?_
  refine labelsIn_empty (by decide) ?_
  iterate 6 refine labelsIn_row (by decide) (by decide) ?_
  exact labelsIn_nil

theorem rowIfGiven_labels {given : Option String} (plain : ':' ∉ label.toList)
    (own : label ∈ detailNames) : LabelsIn (rowIfGiven label given) detailNames := by
  unfold rowIfGiven
  cases Certinspect.given given with
  | none => exact labelsIn_nil
  | some value => exact labelsIn_row plain own labelsIn_nil

theorem rowIfAny_labels {items : List String} (plain : ':' ∉ label.toList)
    (own : label ∈ detailNames) : LabelsIn (rowIfAny label items) detailNames := by
  unfold rowIfAny
  split
  · exact labelsIn_nil
  · exact labelsIn_row plain own labelsIn_nil

theorem extensionLines_labels (shown : extensionLines info = .ok lines) :
    LabelsIn lines detailNames := by
  obtain ⟨scts, _, shown⟩ := bind_ok_iff.mp shown
  cases shown
  refine labelsIn_append (labelsIn_append (labelsIn_append (labelsIn_append (labelsIn_append
    (rowIfGiven_labels (by decide) (by decide)) (rowIfGiven_labels (by decide) (by decide)))
    (rowIfAny_labels (by decide) (by decide))) (rowIfAny_labels (by decide) (by decide))) ?_) ?_
  · iterate 2 refine labelsIn_row (by decide) (by decide) ?_
    exact labelsIn_nil
  · split
    · exact labelsIn_nil
    · exact labelsIn_empty (by decide) (labelsIn_warnings (by decide) info.weak id)

theorem expiryLines_labels (shown : expiryLines info warnDays = .ok lines) :
    LabelsIn lines detailNames := by
  have warned (text : String) : LabelsIn ["", warningLine text] detailNames :=
    labelsIn_empty (by decide) (labelsIn_warnings (by decide) [text] id)
  unfold expiryLines at shown
  dsimp only at shown
  split at shown
  · obtain ⟨days, _, shown⟩ := bind_ok_iff.mp shown
    cases shown
    refine labelsIn_empty (by decide) (labelsIn_cons (Or.inl ?_) labelsIn_nil)
    have colon : "CRITICAL: certificate expires in " ++ days ++ " days" =
        "CRITICAL" ++ ":" ++ (" certificate expires in " ++ days ++ " days") := by
      rw [← String.append_assoc, ← String.append_assoc]
      rfl
    rw [colon, lineLabel_colon (by decide)]
    decide
  split at shown
  · cases shown
    exact warned _
  split at shown
  · obtain ⟨days, _, shown⟩ := bind_ok_iff.mp shown
    cases shown
    exact warned _
  · cases shown
    exact labelsIn_nil

theorem sanLines_labels : LabelsIn (sanLines info) detailNames := by
  unfold sanLines
  split
  · exact labelsIn_empty (by decide) (labelsIn_row (by decide) (by decide) labelsIn_nil)
  · refine labelsIn_append (labelsIn_empty (by decide)
      (labelsIn_cons (Or.inl (by decide)) labelsIn_nil)) ?_
    refine List.forall_mem_map.mpr fun name _ => Or.inr (lineLabel_blank ?_)
    rw [String.toList_append]
    rfl

theorem chainLines_labels : LabelsIn (chainLines info) detailNames := by
  unfold chainLines
  cases info.chain.getD [] with
  | nil => exact labelsIn_nil
  | cons link rest =>
    refine labelsIn_append (labelsIn_empty (by decide)
      (labelsIn_cons (Or.inl (by decide)) labelsIn_nil)) ?_
    refine List.forall_mem_flatten.mpr fun lines member => ?_
    obtain ⟨place, bound, rfl⟩ := List.mem_mapIdx.mp member
    have blank {first second : String} (starts : first.toList.head? = some ' ') :
        (first ++ second).toList.head? = some ' ' := by
      cases characters : first.toList with
      | nil =>
        rw [characters] at starts
        cases starts
      | cons c more =>
        rw [characters] at starts
        rw [String.toList_append, characters]
        exact starts
    refine labelsIn_blank (blank (blank (blank rfl))) ?_
    refine labelsIn_blank (blank rfl) (labelsIn_blank (blank rfl) (labelsIn_blank (blank rfl) ?_))
    exact labelsIn_nil

end Sections

/-! ### The rows of the checks -/

section Checks

variable {info : CertificateInfo} {warnDays : Int} {lines more : List String}
  {label value failed : String} {names : List String} {code : Code}

theorem tells_nil : tells [] label value = false := rfl

theorem tells_cons {first : String} : tells (row label first :: lines) label value =
    (value == first || tells lines label value) := by
  unfold tells
  rw [List.contains_cons]
  congr 1
  rw [Bool.eq_iff_iff, beq_iff_eq, beq_iff_eq, row_inj]

theorem tells_append :
    tells (lines ++ more) label value = (tells lines label value || tells more label value) := by
  unfold tells
  rw [Bool.eq_iff_iff, Bool.or_eq_true, List.contains_iff_mem, List.contains_iff_mem,
    List.contains_iff_mem, List.mem_append]

/-- A label has no colon and does not start with a blank. -/
def PlainLabel (label : String) : Prop := ':' ∉ label.toList ∧ label.toList.head? ≠ some ' '

instance : Decidable (PlainLabel label) := inferInstanceAs (Decidable (_ ∧ _))

/-- Lines of other labels say nothing of this one. -/
theorem tells_other (labels : LabelsIn lines names) (plain : PlainLabel label)
    (other : label ∉ names) : tells lines label value = false := by
  unfold tells
  rw [← Bool.not_eq_true, List.contains_iff_mem]
  exact row_notMem labels plain.1 plain.2 other

/-- A row, when there is something to say, and then lines of these labels. -/
def Led (names lines : List String) (label : String) (said : Option String) : Prop :=
  match said with
  | none => lines = []
  | some value => ∃ rest, lines = row label value :: rest ∧ LabelsIn rest names

/-- Such lines tell what the row says, and nothing under another label. -/
theorem Led.tells {own : String} {said : Option String} (led : Led names lines own said)
    (plain : PlainLabel own ∧ PlainLabel label) (other : label ∉ names) :
    tells lines label value = (label == own && said == some value) := by
  cases said with
  | none =>
    cases led
    simp [tells_nil]
  | some first =>
    obtain ⟨rest, rfl, labels⟩ := led
    by_cases same : label = own
    · subst same
      rw [tells_cons, tells_other labels plain.1 other, Bool.or_false, beq_self_eq_true,
        Bool.true_and, Bool.eq_iff_iff, beq_iff_eq, beq_iff_eq, Option.some_inj, eq_comm]
    · rw [tells_other (labelsIn_row plain.1.1 List.mem_cons_self (labelsIn_more own labels)) plain.2
        (List.not_mem_cons_of_ne_of_not_mem same other), beq_eq_false_iff_ne.mpr same, Bool.false_and]

/-- The labels of the lines that explain a check. -/
def reasonNames : List String := ["WARNING", "Chain diagnosis"]

theorem givenWarning_labels {reason : Option String} {warn : String → String} :
    LabelsIn ((reason.map fun text => warningLine (warn text)).toList)
      reasonNames := by
  cases reason with
  | none => exact labelsIn_nil
  | some text => exact labelsIn_warnings (by decide) [text] warn

theorem hostRow_led :
    Led reasonNames (info.hostnameMatch.map fun matched => row "Hostname match" (boolStr matched)).toList
      "Hostname match" (info.hostnameMatch.map boolStr) := by
  cases info.hostnameMatch with
  | none => rfl
  | some matched => exact ⟨[], rfl, labelsIn_nil⟩

theorem listedLines_led {warn : String → String} {found : Option (List String)} :
    Led reasonNames (listedLines label failed warn found) label
      (found.map fun items => if items = [] then "ok" else failed) := by
  cases found with
  | none => rfl
  | some items => exact ⟨_, rfl, labelsIn_warnings (by decide) items warn⟩

theorem trustLines_led :
    Led reasonNames (trustLines info) "Chain trusted" (info.chainTrusted.map boolStr) := by
  unfold trustLines
  cases info.chainTrusted with
  | none => rfl
  | some trusted =>
    refine ⟨_, rfl, labelsIn_append ?_ ?_⟩
    · split
      · exact labelsIn_nil
      · exact givenWarning_labels
    · cases info.chainDiagnosis with
      | none => exact labelsIn_nil
      | some diagnosis =>
        refine labelsIn_row (by decide) (by decide) (labelsIn_blank ?_ labelsIn_nil)
        rw [String.toList_append]
        rfl

theorem revocationLines_led : Led reasonNames (revocationLines info) "Revocation"
    (info.revocationStatus.map RevocationStatus.str) := by
  unfold revocationLines
  cases info.revocationStatus with
  | none => rfl
  | some status =>
    refine ⟨_, rfl, ?_⟩
    split
    · exact givenWarning_labels
    · exact labelsIn_nil

theorem pinLines_led : Led reasonNames (pinLines info) "Pin match" (info.pinMatch.map boolStr) := by
  unfold pinLines
  cases info.pinMatch with
  | none => rfl
  | some pinned =>
    refine ⟨_, rfl, ?_⟩
    split
    · exact labelsIn_nil
    · exact labelsIn_warnings (by decide) ["fingerprint does not match the expected pin"] id

theorem chainWarnings_tells (plain : PlainLabel label)
    (other : label ∉ reasonNames) :
    tells ((info.chainWarnings.getD []).map warningLine) label value = false :=
  tells_other (labelsIn_warnings List.mem_cons_self (info.chainWarnings.getD []) id) plain other

/-- What the rows of the checks say. -/
def checkRows (info : CertificateInfo) : List (String × Option String) :=
  [("Hostname match", info.hostnameMatch.map boolStr),
    ("Expected SAN", info.expectedSanMissing.map fun items => if items = [] then "ok" else "MISSING"),
    ("Policy", info.policyViolations.map fun items => if items = [] then "ok" else "FAIL"),
    ("Chain trusted", info.chainTrusted.map boolStr),
    ("Revocation", info.revocationStatus.map RevocationStatus.str),
    ("Pin match", info.pinMatch.map boolStr)]

/-- A row says this of this label. -/
def saysOf (rows : List (String × Option String)) (label value : String) : Bool :=
  rows.any fun told => label == told.1 && told.2 == some value

theorem tells_checkLines (plain : PlainLabel label) (other : label ∉ reasonNames) :
    tells (checkLines info) label value = saysOf (checkRows info) label value := by
  have led {lines : List String} {own : String} {said : Option String} (led : Led reasonNames lines own said)
      (printed : PlainLabel own) : tells lines label value = (label == own && said == some value) :=
    led.tells ⟨printed, plain⟩ other
  unfold checkLines
  rw [tells_append, tells_append, tells_append, tells_append, tells_append, tells_append,
    led hostRow_led (by decide), led listedLines_led (by decide), led listedLines_led (by decide),
    led trustLines_led (by decide), led revocationLines_led (by decide),
    led pinLines_led (by decide), chainWarnings_tells plain other]
  simp [saysOf, checkRows, Bool.or_assoc]

/-- The rows that tell an exit code. -/
def toldRows (info : CertificateInfo) : List (String × Option String) :=
  ("Status", some info.status.str) :: checkRows info

/-- What a block says under a label that no other line has. -/
theorem tells_humanLines (shown : humanLines info warnDays = .ok lines)
    (plain : PlainLabel label) (other : label ∉ "Chain diagnosis" :: detailNames) :
    tells lines label value = saysOf (toldRows info) label value := by
  obtain ⟨summary, summarised, shown⟩ := bind_ok_iff.mp shown
  obtain ⟨extensions, extended, shown⟩ := bind_ok_iff.mp shown
  obtain ⟨expiry, expires, shown⟩ := bind_ok_iff.mp shown
  cases shown
  obtain ⟨before, after, rfl, first, second⟩ := summaryLines_ok summarised
  have inner := List.not_mem_of_not_mem_cons other
  have silent {lines : List String} (labels : LabelsIn lines detailNames) :
      tells lines label value = false := tells_other labels plain inner
  have led : Led detailNames (row "Status" info.status.str :: after) "Status"
      (some info.status.str) := ⟨after, rfl, second⟩
  have status := @Led.tells _ label value _ _ _ led ⟨by decide, plain⟩ inner
  have checks : tells (checkLines info) label value = saysOf (checkRows info) label value := by
    refine tells_checkLines plain fun member => ?_
    fin_cases member <;> exact absurd other (by decide)
  rw [tells_append, tells_append, tells_append, tells_append, tells_append, tells_append, status,
    checks, silent first, silent (extensionLines_labels extended),
    silent (expiryLines_labels expires), silent sanLines_labels, silent chainLines_labels]
  simp [saysOf, toldRows]

theorem saysOf_own {said : Option String} (member : (label, said) ∈ toldRows info) :
    saysOf (toldRows info) label value = (said == some value) := by
  unfold toldRows checkRows at member
  fin_cases member <;> simp [saysOf, toldRows, checkRows]

theorem says_flag {flag : Option Bool} : (flag.map boolStr == some "False") = (flag == some false) := by
  rcases flag with _ | _ | _ <;> decide

theorem says_found {found : Option (List String)} (bad : "ok" ≠ failed) :
    ((found.map fun items => if items = [] then "ok" else failed) == some failed) =
      (found.getD [] != []) := by
  rcases found with _ | _ | ⟨item, rest⟩ <;> simp [bad]

theorem says_revoked {status : Option RevocationStatus} :
    (status.map RevocationStatus.str == some (RevocationStatus.str .revoked)) =
      (status == some .revoked) := by
  rcases status with _ | _ | _ | _ | _ <;> decide

theorem says_status {first second : Status} :
    (some first.str == some second.str) = (first == second) := by
  cases first <;> cases second <;> decide

theorem mem_codeRows {told : String × String × Code} : told ∈ codeRows ↔
    told = ("Chain trusted", "False", .exit .untrustedOrRevoked) ∨
      told = ("Revocation", RevocationStatus.str .revoked, .exit .untrustedOrRevoked) ∨
      told = ("Pin match", "False", .exit .pinMismatch) ∨
      told = ("Hostname match", "False", .exit .hostnameMismatch) ∨
      told = ("Expected SAN", "MISSING", .exit .sanMismatch) ∨
      told = ("Policy", "FAIL", .exit .policy) ∨
      ∃ status : Status, ("Status", status.str, Code.exit (exitByStatus status)) = told := by
  have statuses : (∃ status : Status, ("Status", status.str, Code.exit (exitByStatus status)) = told) ↔
      told ∈ [Status.valid, .expiring, .critical, .expired, .notYetValid, .invalidDates].map
        fun status => ("Status", status.str, Code.exit (exitByStatus status)) := by
    rw [List.mem_map]
    refine ⟨fun ⟨status, same⟩ => ⟨status, by cases status <;> decide, same⟩, ?_⟩
    exact fun ⟨status, _, same⟩ => ⟨status, same⟩
  rw [statuses, codeRows, List.mem_append]
  simp only [List.mem_cons, List.not_mem_nil, or_false, or_assoc]

/-- **A block tells the codes of its record.** -/
theorem mem_readCodes (shown : humanLines info warnDays = .ok lines) :
    code ∈ readCodes lines ↔ code ∈ recordedCodes info := by
  have each : ∀ told ∈ codeRows,
      tells lines told.1 told.2.1 = saysOf (toldRows info) told.1 told.2.1 := fun told member =>
    tells_humanLines shown (by revert told; decide) (by revert told; decide)
  have trusted : saysOf (toldRows info) "Chain trusted" "False" = (info.chainTrusted == some false) :=
    (saysOf_own (by simp [toldRows, checkRows])).trans says_flag
  have revoked : saysOf (toldRows info) "Revocation" (RevocationStatus.str .revoked) =
      (info.revocationStatus == some .revoked) :=
    (saysOf_own (by simp [toldRows, checkRows])).trans says_revoked
  have pinned : saysOf (toldRows info) "Pin match" "False" = (info.pinMatch == some false) :=
    (saysOf_own (by simp [toldRows, checkRows])).trans says_flag
  have matched : saysOf (toldRows info) "Hostname match" "False" =
      (info.hostnameMatch == some false) :=
    (saysOf_own (by simp [toldRows, checkRows])).trans says_flag
  have covered : saysOf (toldRows info) "Expected SAN" "MISSING" =
      (info.expectedSanMissing.getD [] != []) :=
    (saysOf_own (by simp [toldRows, checkRows])).trans (says_found (by decide))
  have allowed : saysOf (toldRows info) "Policy" "FAIL" = (info.policyViolations.getD [] != []) :=
    (saysOf_own (by simp [toldRows, checkRows])).trans (says_found (by decide))
  have status (other : Status) : saysOf (toldRows info) "Status" other.str =
      (info.status == other) :=
    (saysOf_own (by simp [toldRows])).trans says_status
  unfold readCodes
  rw [List.filter_congr each]
  simp only [List.mem_map, List.mem_filter, mem_codeRows, and_assoc, or_and_right, exists_or,
    exists_eq_left, exists_exists_eq_and, trusted, revoked, pinned, matched, covered, allowed, status]
  have turned (own : Code) : own = code ↔ code = own := eq_comm
  rw [mem_recordedCodes]
  simp only [turned, beq_iff_eq, exists_eq_left', or_and_right, or_assoc]
  clear each trusted revoked pinned matched covered allowed status shown
  tauto

end Checks

/-! ### When there is a block -/

section Shown

variable {info : CertificateInfo} {warnDays n : Int} {lines : List String} {shown : String}

/-- The integers of a block. -/
def humanIntegers (info : CertificateInfo) : List Int :=
  [info.daysToExpire, info.validityDays, info.serialNumber] ++ sizeOrNull.integers info.keySize ++
    [(info.sctCount : Int)]

theorem strInt_hasDecimal (written : strInt n = .ok shown) : HasDecimal n := by
  unfold strInt at written
  split at written
  · assumption
  · cases written

theorem strInt_eq (short : HasDecimal n) : strInt n = .ok (toString n) := if_pos short

theorem keySizeText_ok_iff : (∃ text, keySizeText info = .ok text) ↔
    ∀ n ∈ sizeOrNull.integers info.keySize, HasDecimal n := by
  unfold keySizeText
  cases info.keySize with
  | none => exact iff_of_true ⟨_, rfl⟩ (List.forall_mem_nil _)
  | some size =>
    have single : (∀ n ∈ sizeOrNull.integers (some size), HasDecimal n) ↔ HasDecimal (size : Int) :=
      List.forall_mem_singleton
    rw [single]
    refine ⟨fun ⟨_, written⟩ => ?_, fun short => ?_⟩
    · obtain ⟨_, written, _⟩ := bind_ok_iff.mp written
      exact strInt_hasDecimal written
    · dsimp only
      rw [strInt_eq short, ok_bind]
      exact ⟨_, rfl⟩

theorem summaryLines_ok_iff : (∃ lines, summaryLines info = .ok lines) ↔
    (HasDecimal info.daysToExpire ∧ HasDecimal info.validityDays ∧ HasDecimal info.serialNumber) ∧
      ∀ n ∈ sizeOrNull.integers info.keySize, HasDecimal n := by
  rw [← keySizeText_ok_iff]
  unfold summaryLines
  refine ⟨fun ⟨_, written⟩ => ?_, fun ⟨⟨days, validity, serial⟩, size, sized⟩ => ?_⟩
  · obtain ⟨_, days, written⟩ := bind_ok_iff.mp written
    obtain ⟨_, validity, written⟩ := bind_ok_iff.mp written
    obtain ⟨_, serial, written⟩ := bind_ok_iff.mp written
    obtain ⟨size, sized, _⟩ := bind_ok_iff.mp written
    exact ⟨⟨strInt_hasDecimal days, strInt_hasDecimal validity, strInt_hasDecimal serial⟩,
      size, sized⟩
  · rw [strInt_eq days, ok_bind, strInt_eq validity, ok_bind, strInt_eq serial, ok_bind, sized,
      ok_bind]
    exact ⟨_, rfl⟩

theorem extensionLines_ok_iff : (∃ lines, extensionLines info = .ok lines) ↔
    HasDecimal (info.sctCount : Int) := by
  have counted : (∃ text, sctText info = .ok text) ↔ HasDecimal (info.sctCount : Int) := by
    unfold sctText
    split
    · rename_i none
      rw [none]
      exact iff_of_true ⟨_, rfl⟩ (small_hasDecimal (Nat.zero_le _) (by decide))
    · exact ⟨fun ⟨_, written⟩ => strInt_hasDecimal written, fun short => ⟨_, strInt_eq short⟩⟩
  rw [← counted]
  unfold extensionLines
  refine ⟨fun ⟨_, written⟩ => ?_, fun ⟨scts, shown⟩ => ?_⟩
  · obtain ⟨scts, shown, _⟩ := bind_ok_iff.mp written
    exact ⟨scts, shown⟩
  · rw [shown, ok_bind]
    exact ⟨_, rfl⟩

theorem expiryLines_ok (short : HasDecimal info.daysToExpire) :
    ∃ lines, expiryLines info warnDays = .ok lines := by
  unfold expiryLines
  dsimp only
  rw [strInt_eq short]
  split
  · exact ⟨_, rfl⟩
  split
  · exact ⟨_, rfl⟩
  split
  · exact ⟨_, rfl⟩
  · exact ⟨_, rfl⟩

/-- **There is a block exactly when its integers have not too many digits.** -/
theorem formatHuman_ok_iff : (∃ text, formatHuman info warnDays = .ok text) ↔
    ∀ n ∈ humanIntegers info, HasDecimal n := by
  have parts : (∀ n ∈ humanIntegers info, HasDecimal n) ↔
      (∃ lines, summaryLines info = .ok lines) ∧ ∃ lines, extensionLines info = .ok lines := by
    rw [summaryLines_ok_iff, extensionLines_ok_iff]
    unfold humanIntegers
    simp only [List.forall_mem_append, List.forall_mem_cons, List.not_mem_nil, false_implies,
      implies_true, and_true, and_assoc]
  rw [parts]
  unfold formatHuman humanLines
  refine ⟨fun ⟨_, written⟩ => ?_, fun ⟨⟨summary, summarised⟩, extensions, extended⟩ => ?_⟩
  · obtain ⟨lines, laid, _⟩ := bind_ok_iff.mp written
    obtain ⟨summary, summarised, laid⟩ := bind_ok_iff.mp laid
    obtain ⟨extensions, extended, _⟩ := bind_ok_iff.mp laid
    exact ⟨⟨summary, summarised⟩, extensions, extended⟩
  · obtain ⟨expiry, expires⟩ := @expiryLines_ok info warnDays
      (summaryLines_ok_iff.mp ⟨summary, summarised⟩).1.1
    rw [summarised, ok_bind, extended, ok_bind, expires, ok_bind]
    exact ⟨_, rfl⟩

end Shown

/-! ### The text -/

section Text

variable {ω : Type} {lib : Cryptography} {place : Surroundings ω} {opts : InspectOptions}
  {target : Option String} {port : Int} {info : CertificateInfo} {code : Code} {warnDays : Int}
  {lines more : List String} {text : String}

/-- The lines of a text are what its lines come apart into. -/
theorem feedLines_intercalate (some : lines ≠ []) : feedLines ("\n".intercalate lines) =
    lines.flatMap feedLines := by
  have joined : ("\n".intercalate lines).toList = ['\n'].intercalate (lines.map String.toList) :=
    String.toList_intercalate
  unfold feedLines
  rw [joined, splitOn_intercalate_flatMap (by simpa using some), List.map_flatMap,
    List.flatMap_map]

theorem feedLines_line {line : String} (whole : '\n' ∉ line.toList) : feedLines line = [line] := by
  unfold feedLines
  rw [List.splitOn_eq_singleton whole, List.map_singleton, String.ofList_toList]

theorem humanLines_ne_nil (shown : humanLines info warnDays = .ok lines) : lines ≠ [] := by
  obtain ⟨summary, summarised, shown⟩ := bind_ok_iff.mp shown
  obtain ⟨extensions, _, shown⟩ := bind_ok_iff.mp shown
  obtain ⟨expiry, _, shown⟩ := bind_ok_iff.mp shown
  cases shown
  obtain ⟨before, after, rfl, _⟩ := summaryLines_ok summarised
  simp

/-- Lines that keep the rows of the checks tell at least the same codes. -/
theorem readCodes_subset (kept : ∀ line ∈ lines, '\n' ∉ line.toList → line ∈ more) :
    readCodes lines ⊆ readCodes more := by
  have whole : ∀ told ∈ codeRows, '\n' ∉ (row told.1 told.2.1).toList := by decide
  refine List.map_subset _ fun told member => ?_
  obtain ⟨inside, tells⟩ := List.mem_filter.mp member
  unfold Formatter.tells at tells
  refine List.mem_filter.mpr ⟨inside, ?_⟩
  unfold Formatter.tells
  rw [List.contains_iff_mem] at tells ⊢
  exact kept _ tells (whole told inside)

/-- No text in the record can hide a finding from the lines of the block. -/
theorem recordedCodes_told (shown : formatHuman info warnDays = .ok text) :
    recordedCodes info ⊆ readCodes (feedLines text) := by
  obtain ⟨lines, laid, shown⟩ := bind_ok_iff.mp shown
  cases shown
  have kept : readCodes lines ⊆ readCodes (feedLines ("\n".intercalate lines)) := by
    refine readCodes_subset fun line member whole => ?_
    rw [feedLines_intercalate (humanLines_ne_nil laid)]
    exact List.mem_flatMap_of_mem member (by rw [feedLines_line whole]; exact List.mem_cons_self)
  exact fun other recorded => kept ((mem_readCodes laid).mpr recorded)

/-- **The exit code of an inspection is read off its block.** No text in the record can hide a finding
from the lines of the block; and unless one has a line feed in it, they tell the code itself. -/
theorem human_exit (lib : Cryptography) (place : Surroundings ω) (target : Option String) (port : Int)
    (opts : InspectOptions) (info : CertificateInfo) (code : Code) (warnDays : Int) (text : String)
    (returned : inspectIn lib place target port opts = .ok (info, code))
    (shown : formatHuman info warnDays = .ok text) :
    severityRank (mostSevere (readCodes (feedLines text))) ≤ severityRank code ∧
      ((∀ lines, humanLines info warnDays = .ok lines → ∀ line ∈ lines, '\n' ∉ line.toList) →
        mostSevere (readCodes (feedLines text)) = code) := by
  have severe : mostSevere (recordedCodes info) = code := (inspectIn_recorded returned).symm
  refine ⟨?_, fun whole => ?_⟩
  · have least := (@mostSevere_eq_iff (readCodes (feedLines text)) _).mp rfl
    rcases List.mem_cons.mp (mostSevere_eq_iff.mp severe).1 with rfl | member
    · exact severityRank_le_ok _
    · exact least.2 code (recordedCodes_told shown member)
  · obtain ⟨lines, laid, shown⟩ := bind_ok_iff.mp shown
    cases shown
    have same : feedLines ("\n".intercalate lines) = lines := by
      rw [feedLines_intercalate (humanLines_ne_nil laid),
        List.flatMap_congr fun line member => feedLines_line (whole lines laid line member)]
      exact List.flatMap_singleton' lines
    rw [same, ← severe]
    exact mostSevere_congr fun other => mem_readCodes laid

theorem human_exit_file : ∃ text, formatHuman (serialInfo 7) 30 = .ok text ∧
    severityRank (mostSevere (readCodes (feedLines text))) ≤ severityRank (.exit .ok) ∧
      ((∀ lines, humanLines (serialInfo 7) 30 = .ok lines → ∀ line ∈ lines, '\n' ∉ line.toList) →
        mostSevere (readCodes (feedLines text)) = .exit .ok) := by
  have small : ∀ n ∈ humanIntegers (serialInfo 7), n.natAbs < 10 ^ 9 := by decide
  obtain ⟨text, shown⟩ := (@formatHuman_ok_iff (serialInfo 7) 30).mpr fun n member =>
    small_hasDecimal (by decide) (small n member)
  exact ⟨text, shown, human_exit (serialReader 7) (sampleMachine 0) none 443 fileOptions (serialInfo 7)
    (.exit .ok) 30 text (inspected_serial 7) shown⟩

end Text

end Certinspect.Formatter
