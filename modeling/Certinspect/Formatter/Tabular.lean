/-
**The tab-separated outputs, `--field` and the text form of `--discover-only`.**

Both write a table: a line for each result or certificate, a tab between two cells. Cells are not
escaped, so the table is read back exactly when no string in it has a separator; for `--field` the one
table whose text is empty is not printed at all, and an integer that `str` refuses ends the output.

* `infoItems`, `selected`, `fieldText`, `formatFields`, `renderFields` — `--field`; `fieldText_eq`,
  `renderFields_eq` say what is refused.
* `InfoField`, `valueOf` — the fields of a record and their values; `selected_eq` says that a name
  selects the value of its field.
* `formatCtInventory` — the inventory.
* `cleanCell_shownText_iff`, `shownText_eq_empty_iff` — the cells, by the strings in them.
* `readTable_renderFields_iff`, `readTable_formatCtInventory_iff` — the two tables.
* **`tabular_exact`** — both keep their shape exactly when what they show is clean.
-/

import Certinspect.Cli.Discovery
import Certinspect.Display
import Certinspect.Formatter.NagiosLines

namespace Certinspect.Formatter

open Library Cli Discover

/-! ### The values of a record -/

/-- A value of an `info` dict. -/
inductive InfoValue
  | absent
  | text (value : String)
  | number (value : Int)
  | flag (value : Bool)
  | instant (value : Instant)
  | texts (items : List String)
  | diagnosis (value : ChainDiagnosis)
  | links (items : List ChainSummary)
  deriving DecidableEq, Repr

namespace InfoValue

/-- A value that may be `None`. -/
def orNone {α : Type} (value : α → InfoValue) (found : Option α) : InfoValue :=
  (found.map value).getD .absent

/-- The strings that are shown as they are. -/
def strings : InfoValue → List String
  | .text value => [value]
  | .texts items => items
  | _ => []

/-- The integers that are shown; those of a list are in its dicts. -/
def integers : InfoValue → List Int
  | .number value => [value]
  | .links items => items.map ChainSummary.serialNumber
  | _ => []

/-- No integer has more digits than `str` writes. -/
def Shown (value : InfoValue) : Prop := ∀ n ∈ value.integers, HasDecimal n

instance : DecidablePred Shown := fun _ => inferInstanceAs (Decidable (∀ _ ∈ _, _))

/-- The values that are shown as nothing. -/
def Blank (value : InfoValue) : Prop :=
  value = .absent ∨ value = .text "" ∨ value = .texts [] ∨ value = .texts [""] ∨ value = .links []

instance : DecidablePred Blank := fun _ => inferInstanceAs (Decidable (_ ∨ _))

end InfoValue

open InfoValue

/-- The keys of an `info` dict and their values; `None` is as good as absent. -/
def infoItems (info : CertificateInfo) : List (String × InfoValue) :=
  [("subject", .text info.subject), ("issuer", .text info.issuer),
    ("not_valid_before", .instant info.notValidBefore),
    ("not_valid_after", .instant info.notValidAfter),
    ("serial_number", .number info.serialNumber),
    ("signature_algorithm", .text info.signatureAlgorithm),
    ("days_to_expire", .number info.daysToExpire), ("validity_days", .number info.validityDays),
    ("key_type", .text info.keyType),
    ("key_size", orNone (fun size : Nat => .number size) info.keySize), ("san", .texts info.san),
    ("fingerprint_sha256", .text info.fingerprintSha256), ("is_ca", .flag info.isCa),
    ("self_signed", .flag info.selfSigned), ("key_usage", .texts info.keyUsage),
    ("extended_key_usage", .texts info.extendedKeyUsage), ("sct_count", .number info.sctCount),
    ("must_staple", .flag info.mustStaple), ("weak", .texts info.weak),
    ("status", .text info.status.str), ("hostname_match", orNone .flag info.hostnameMatch),
    ("tls_version", orNone .text info.tlsVersion.join),
    ("cipher", orNone .text info.cipher.join),
    ("chain_trusted", orNone .flag info.chainTrusted),
    ("chain_error", orNone .text info.chainError.join),
    ("chain_diagnosis", orNone .diagnosis info.chainDiagnosis),
    ("chain_warnings", orNone .texts info.chainWarnings), ("chain", orNone .links info.chain),
    ("revocation_status", orNone (fun status => .text status.str) info.revocationStatus),
    ("revocation_detail", orNone .text info.revocationDetail.join),
    ("pin_match", orNone .flag info.pinMatch),
    ("expected_san_missing", orNone .texts info.expectedSanMissing),
    ("policy_violations", orNone .texts info.policyViolations)]

/-- The value that a field name selects; a name that is no key selects nothing. -/
def selected (result : InspectionResult) (name : String) : InfoValue :=
  if name = "target" then .text ((given result.label).getD "")
  else ((infoItems result.info).lookup name).getD .absent

/-! ### The fields by name -/

/-- The fields of a result that `--field` can name. -/
inductive InfoField
  | target
  | subject
  | issuer
  | notValidBefore
  | notValidAfter
  | serialNumber
  | signatureAlgorithm
  | daysToExpire
  | validityDays
  | keyType
  | keySize
  | san
  | fingerprintSha256
  | isCa
  | selfSigned
  | keyUsage
  | extendedKeyUsage
  | sctCount
  | mustStaple
  | weak
  | status
  | hostnameMatch
  | tlsVersion
  | cipher
  | chainTrusted
  | chainError
  | chainDiagnosis
  | chainWarnings
  | chain
  | revocationStatus
  | revocationDetail
  | pinMatch
  | expectedSanMissing
  | policyViolations
  deriving DecidableEq, Repr

namespace InfoField

/-- How `--field` names a field. -/
def name : InfoField → String
  | .target => "target"
  | .subject => "subject"
  | .issuer => "issuer"
  | .notValidBefore => "not_valid_before"
  | .notValidAfter => "not_valid_after"
  | .serialNumber => "serial_number"
  | .signatureAlgorithm => "signature_algorithm"
  | .daysToExpire => "days_to_expire"
  | .validityDays => "validity_days"
  | .keyType => "key_type"
  | .keySize => "key_size"
  | .san => "san"
  | .fingerprintSha256 => "fingerprint_sha256"
  | .isCa => "is_ca"
  | .selfSigned => "self_signed"
  | .keyUsage => "key_usage"
  | .extendedKeyUsage => "extended_key_usage"
  | .sctCount => "sct_count"
  | .mustStaple => "must_staple"
  | .weak => "weak"
  | .status => "status"
  | .hostnameMatch => "hostname_match"
  | .tlsVersion => "tls_version"
  | .cipher => "cipher"
  | .chainTrusted => "chain_trusted"
  | .chainError => "chain_error"
  | .chainDiagnosis => "chain_diagnosis"
  | .chainWarnings => "chain_warnings"
  | .chain => "chain"
  | .revocationStatus => "revocation_status"
  | .revocationDetail => "revocation_detail"
  | .pinMatch => "pin_match"
  | .expectedSanMissing => "expected_san_missing"
  | .policyViolations => "policy_violations"

/-- The value of a field: of the field of the record, or the target. -/
def value (result : InspectionResult) : InfoField → InfoValue
  | .target => .text (result.label.getD "")
  | .subject => .text result.info.subject
  | .issuer => .text result.info.issuer
  | .notValidBefore => .instant result.info.notValidBefore
  | .notValidAfter => .instant result.info.notValidAfter
  | .serialNumber => .number result.info.serialNumber
  | .signatureAlgorithm => .text result.info.signatureAlgorithm
  | .daysToExpire => .number result.info.daysToExpire
  | .validityDays => .number result.info.validityDays
  | .keyType => .text result.info.keyType
  | .keySize => orNone (fun size : Nat => .number size) result.info.keySize
  | .san => .texts result.info.san
  | .fingerprintSha256 => .text result.info.fingerprintSha256
  | .isCa => .flag result.info.isCa
  | .selfSigned => .flag result.info.selfSigned
  | .keyUsage => .texts result.info.keyUsage
  | .extendedKeyUsage => .texts result.info.extendedKeyUsage
  | .sctCount => .number result.info.sctCount
  | .mustStaple => .flag result.info.mustStaple
  | .weak => .texts result.info.weak
  | .status => .text result.info.status.str
  | .hostnameMatch => orNone .flag result.info.hostnameMatch
  | .tlsVersion => orNone .text result.info.tlsVersion.join
  | .cipher => orNone .text result.info.cipher.join
  | .chainTrusted => orNone .flag result.info.chainTrusted
  | .chainError => orNone .text result.info.chainError.join
  | .chainDiagnosis => orNone .diagnosis result.info.chainDiagnosis
  | .chainWarnings => orNone .texts result.info.chainWarnings
  | .chain => orNone .links result.info.chain
  | .revocationStatus => orNone (fun status => .text status.str) result.info.revocationStatus
  | .revocationDetail => orNone .text result.info.revocationDetail.join
  | .pinMatch => orNone .flag result.info.pinMatch
  | .expectedSanMissing => orNone .texts result.info.expectedSanMissing
  | .policyViolations => orNone .texts result.info.policyViolations

/-- Every field. -/
def all : List InfoField :=
  [.target, .subject, .issuer, .notValidBefore, .notValidAfter, .serialNumber,
    .signatureAlgorithm, .daysToExpire, .validityDays, .keyType, .keySize, .san,
    .fingerprintSha256, .isCa, .selfSigned, .keyUsage, .extendedKeyUsage, .sctCount,
    .mustStaple, .weak, .status, .hostnameMatch, .tlsVersion, .cipher, .chainTrusted,
    .chainError, .chainDiagnosis, .chainWarnings, .chain, .revocationStatus, .revocationDetail,
    .pinMatch, .expectedSanMissing, .policyViolations]

end InfoField

/-- The value of the field of a name; a name of no field has none. -/
def valueOf (result : InspectionResult) (name : String) : InfoValue :=
  match InfoField.all.find? fun field => name == field.name with
  | some field => field.value result
  | none => .absent

/-- **Each field has a name of its own.** -/
theorem valueOf_name (result : InspectionResult) (field : InfoField) :
    valueOf result field.name = field.value result := by
  cases field <;> rfl

theorem lookup_map {α : Type} (key : InfoField → String) (value : InfoField → α) (name : String)
    (fields : List InfoField) :
    (fields.map fun field => (key field, value field)).lookup name =
      (fields.find? fun field => name == key field).map value := by
  induction fields with
  | nil => rfl
  | cons field rest ih =>
    rw [List.map_cons, List.lookup_cons, List.find?_cons, ih]
    cases name == key field <;> rfl

/-- **What a name selects is the value of its field.** -/
theorem selected_eq (result : InspectionResult) (name : String) :
    selected result name = valueOf result name := by
  have items : infoItems result.info =
      InfoField.all.tail.map fun field => (field.name, field.value result) := rfl
  have label : (given result.label).getD "" = result.label.getD "" := by
    cases result.label with
    | none => rfl
    | some target => by_cases empty : target = "" <;> simp [given, Option.filter, empty]
  have first : InfoField.all = .target :: InfoField.all.tail := rfl
  unfold selected valueOf
  rw [items, lookup_map, label, first, List.find?_cons]
  by_cases target : name = "target"
  · rw [if_pos target, target]
    rfl
  · have other : (name == InfoField.target.name) = false := beq_eq_false_iff_ne.mpr target
    rw [if_neg target, other, List.tail_cons]
    cases InfoField.all.tail.find? fun field => name == field.name <;> rfl

/-! ### `--field` -/

section Fields

variable (printable : Char → Bool)

/-- `str` of the dict of a diagnosis. -/
def diagnosisStr (diagnosis : ChainDiagnosis) : String :=
  "\x7b'code': " ++ reprStr printable diagnosis.code ++ ", 'detail': " ++
    reprStr printable diagnosis.detail ++ "\x7d"

/-- The dict of a chain certificate, around its serial number. -/
def summaryText (link : ChainSummary) (serialNumber : String) : String :=
  "\x7b'subject': " ++ reprStr printable link.subject ++ ", 'issuer': " ++
    reprStr printable link.issuer ++ ", 'not_valid_after': " ++ reprInstant link.notValidAfter ++
    ", 'serial_number': " ++ serialNumber ++ ", 'is_ca': " ++ boolStr link.isCa ++ "\x7d"

/-- `str` of the dict of a chain certificate. -/
def summaryStr (link : ChainSummary) : Except PyErr String := do
  let serialNumber ← strInt link.serialNumber
  pure (summaryText printable link serialNumber)

/-- A value as one string: nothing for `None`, the items of a list joined by commas. -/
def fieldText : InfoValue → Except PyErr String
  | .absent => pure ""
  | .text value => pure value
  | .number value => strInt value
  | .flag value => pure (boolStr value)
  | .instant value => pure value.str
  | .texts items => pure (",".intercalate items)
  | .diagnosis value => pure (diagnosisStr printable value)
  | .links items => do
    let shown ← items.mapM (summaryStr printable)
    pure (",".intercalate shown)

/-- `_field_value`. -/
def fieldValue (result : InspectionResult) (name : String) : Except PyErr String :=
  fieldText printable (selected result name)

/-- The cells of a result. -/
def fieldCells (fields : List String) (result : InspectionResult) : Except PyErr (List String) :=
  fields.mapM (fieldValue printable result)

/-- `format_fields`. -/
def formatFields (results : List InspectionResult) (fields : List String) :
    Except PyErr String := do
  let rows ← results.mapM (fieldCells printable fields)
  pure ("\n".intercalate (rows.map fun cells => "\t".intercalate cells))

/-- `--sort`. -/
inductive SortKey
  | host
  | expiry
  deriving DecidableEq, Repr

/-- `OutputOptions`, as far as `--field` depends on them. -/
structure OutputOptions where
  fields : List String := []
  quiet : Bool := false
  maxDays : Option Int := none
  sort : Option SortKey := none

/-- The results that are displayed, in their order. -/
def displayed (opts : OutputOptions) (changed : Option (List String))
    (results : List InspectionResult) : List InspectionResult :=
  let results := if opts.quiet then results.filter fun result => result.code.value != 0 else results
  let results := match opts.maxDays with
    | some days => results.filter fun result => result.info.daysToExpire ≤ days
    | none => results
  let results := match changed with
    | some targets => results.filter fun result => result.label.any targets.contains
    | none => results
  let host (result : InspectionResult) : String := (given result.label).getD ""
  match opts.sort with
  | some .host => results.mergeSort fun first second => host first ≤ host second
  | some .expiry =>
    results.mergeSort fun first second => first.info.daysToExpire ≤ second.info.daysToExpire
  | none => results

/-- What `render` prints for `--field`. -/
def renderFields (opts : OutputOptions) (changed : Option (List String))
    (results : List InspectionResult) : Except PyErr String := do
  let text ← formatFields printable (displayed opts changed results) opts.fields
  pure (if text = "" then "" else text ++ "\n")

end Fields

/-! ### The inventory -/

/-- The text form of `format_ct_inventory`. -/
def formatCtInventory (rows : List (String × DiscoveredCert × Bool)) : String :=
  String.join (rows.map fun (_, cert, unexpected) =>
    let line := cert.notAfter ++ "\t" ++ cert.issuer ++ "\t" ++ ", ".intercalate cert.hostnames
    if unexpected then line ++ "\tUNEXPECTED\n" else line ++ "\n")

/-! ### The cells -/

section Cells

variable {printable : Char → Bool} {value : InfoValue}

/-- A value as one string, when its integers are shown. -/
def shownText (printable : Char → Bool) : InfoValue → String
  | .absent => ""
  | .text value => value
  | .number value => toString value
  | .flag value => boolStr value
  | .instant value => value.str
  | .texts items => ",".intercalate items
  | .diagnosis value => diagnosisStr printable value
  | .links items => ",".intercalate (items.map fun link =>
    summaryText printable link (toString link.serialNumber))

theorem summaryStr_eq (link : ChainSummary) : summaryStr printable link =
    if HasDecimal link.serialNumber then
      .ok (summaryText printable link (toString link.serialNumber))
    else .error tooManyDigits := by
  unfold summaryStr strInt
  split <;> rfl

/-- **A value is shown, unless an integer in it is too long.** -/
theorem fieldText_eq (value : InfoValue) : fieldText printable value =
    if value.Shown then .ok (shownText printable value) else .error tooManyDigits := by
  have shown {value : InfoValue} (none : value.integers = []) : value.Shown :=
    fun n member => by rw [none] at member; cases member
  cases value with
  | number value =>
    have single : (InfoValue.number value).Shown ↔ HasDecimal value := List.forall_mem_singleton
    unfold fieldText strInt
    simp only [single]
    rfl
  | links items =>
    have each : (InfoValue.links items).Shown ↔ ∀ link ∈ items, HasDecimal link.serialNumber :=
      List.forall_mem_map
    unfold fieldText
    dsimp only
    rw [mapM_eq_ite summaryStr_eq]
    simp only [each]
    split <;> rfl
  | absent => exact (if_pos (shown rfl)).symm
  | text value => exact (if_pos (shown rfl)).symm
  | flag value => exact (if_pos (shown rfl)).symm
  | instant value => exact (if_pos (shown rfl)).symm
  | texts items => exact (if_pos (shown rfl)).symm
  | diagnosis value => exact (if_pos (shown rfl)).symm

theorem cleanCell_summaryText (link : ChainSummary) :
    CleanCell (summaryText printable link (toString link.serialNumber)) := by
  unfold summaryText
  simp only [cleanCell_append, cleanCell_reprStr, cleanCell_reprInstant, cleanCell_int,
    cleanCell_bool]
  decide

theorem cleanCell_diagnosisStr (diagnosis : ChainDiagnosis) :
    CleanCell (diagnosisStr printable diagnosis) := by
  unfold diagnosisStr
  simp only [cleanCell_append, cleanCell_reprStr]
  decide

/-- **A cell is clean exactly when the strings in it are.** -/
theorem cleanCell_shownText_iff :
    CleanCell (shownText printable value) ↔ ∀ text ∈ value.strings, CleanCell text := by
  have none : ∀ text ∈ ([] : List String), CleanCell text := List.forall_mem_nil _
  cases value with
  | absent => exact iff_of_true (by decide : CleanCell "") none
  | text value => simp [shownText, strings]
  | number value => exact iff_of_true (cleanCell_int value) none
  | flag value => exact iff_of_true (cleanCell_bool value) none
  | instant value => exact iff_of_true (cleanCell_instant value) none
  | texts items => exact cleanCell_intercalate (by decide)
  | diagnosis value => exact iff_of_true (cleanCell_diagnosisStr value) none
  | links items =>
    refine iff_of_true ((cleanCell_intercalate (by decide)).mpr fun part member => ?_) none
    obtain ⟨link, _, rfl⟩ := List.mem_map.mp member
    exact cleanCell_summaryText link

theorem repr_ne_empty (n : Int) : toString n ≠ "" := by
  intro empty
  exact repr_ne_nil n (String.toList_eq_nil_iff.mpr empty)

theorem append_ne_empty {first second : String} (some : second ≠ "") : first ++ second ≠ "" := by
  simp [some]

/-- **The values that are shown as nothing.** -/
theorem shownText_eq_empty_iff : shownText printable value = "" ↔ value.Blank := by
  unfold Blank
  cases value with
  | absent => simp [shownText]
  | text value => simp [shownText]
  | number value => exact iff_of_false (repr_ne_empty value) (by simp)
  | flag value => cases value <;> simp [shownText, boolStr]
  | instant value => exact iff_of_false (append_ne_empty (by decide)) (by simp)
  | texts items =>
    rw [shownText, intercalate_eq_empty_iff (by decide)]
    simp
  | diagnosis value => exact iff_of_false (append_ne_empty (by decide)) (by simp)
  | links items =>
    have some (link : ChainSummary) (serialNumber : String) :
        summaryText printable link serialNumber ≠ "" := append_ne_empty (by decide)
    rw [shownText, intercalate_eq_empty_iff (by decide)]
    cases items with
    | nil => simp
    | cons first rest => simp [some]

end Cells

/-! ### The tables -/

section Tables

variable {printable : Char → Bool} {results : List InspectionResult} {fields : List String}
  {opts : OutputOptions} {changed : Option (List String)}

/-- The table that `--field` is to print: a row for each result, a cell for the value of each field. -/
def fieldTable (printable : Char → Bool) (results : List InspectionResult) (fields : List String) :
    List (List String) :=
  results.map fun result => fields.map fun name => shownText printable (valueOf result name)

/-- No selected integer has more digits than `str` writes. -/
def ShownSelection (results : List InspectionResult) (fields : List String) : Prop :=
  ∀ result ∈ results, ∀ name ∈ fields, (valueOf result name).Shown

instance (results : List InspectionResult) (fields : List String) :
    Decidable (ShownSelection results fields) :=
  inferInstanceAs (Decidable (∀ _ ∈ _, ∀ _ ∈ _, _))

/-- The text of that table. -/
def tableText (printable : Char → Bool) (results : List InspectionResult) (fields : List String) :
    String :=
  "\n".intercalate ((fieldTable printable results fields).map writtenRow)

/-- No selected string has a separator in it. -/
def CleanSelection (results : List InspectionResult) (fields : List String) : Prop :=
  ∀ result ∈ results, ∀ name ∈ fields, ∀ text ∈ (valueOf result name).strings, CleanCell text

/-- The only thing to show is one value that is shown as nothing. -/
def LoneBlank (results : List InspectionResult) (fields : List String) : Prop :=
  ∃ result name, results = [result] ∧ fields = [name] ∧ (valueOf result name).Blank

/-- **The rows are those of the table, or refused when one of its integers is too long.** -/
theorem rows_eq : results.mapM (fieldCells printable fields) =
    if ShownSelection results fields then .ok (fieldTable printable results fields)
    else .error tooManyDigits := by
  have cells (result : InspectionResult) : fieldCells printable fields result =
      if ∀ name ∈ fields, (valueOf result name).Shown then
        .ok (fields.map fun name => shownText printable (valueOf result name))
      else .error tooManyDigits := by
    refine mapM_eq_ite (fun name => ?_) fields
    rw [fieldValue, selected_eq]
    exact fieldText_eq (valueOf result name)
  exact mapM_eq_ite cells results

theorem renderFields_eq : renderFields printable opts changed results =
    if ShownSelection (displayed opts changed results) opts.fields then
      .ok (if tableText printable (displayed opts changed results) opts.fields = "" then ""
        else tableText printable (displayed opts changed results) opts.fields ++ "\n")
    else .error tooManyDigits := by
  have rows : renderFields printable opts changed results = (do
      let table ← (displayed opts changed results).mapM (fieldCells printable opts.fields)
      let text := "\n".intercalate (table.map writtenRow)
      pure (if text = "" then "" else text ++ "\n")) := by
    unfold renderFields formatFields
    simp only [bind_assoc, pure_bind]
    rfl
  rw [rows, rows_eq]
  split <;> rfl

theorem clean_fieldTable_iff :
    (∀ row ∈ fieldTable printable results fields, ∀ cell ∈ row, CleanCell cell) ↔
      CleanSelection results fields := by
  unfold fieldTable CleanSelection
  simp only [List.forall_mem_map, cleanCell_shownText_iff]

theorem fieldTable_eq_nil_iff : fieldTable printable results fields = [] ↔ results = [] := by
  unfold fieldTable
  exact List.map_eq_nil_iff

/-- The text is empty when there is nothing to show, or one value that is shown as nothing. -/
theorem tableText_eq_empty_iff (filled : fields ≠ []) :
    tableText printable results fields = "" ↔ results = [] ∨ LoneBlank results fields := by
  unfold tableText
  rw [intercalate_eq_empty_iff (by decide), List.map_eq_nil_iff, fieldTable_eq_nil_iff]
  refine or_congr_right ?_
  unfold LoneBlank fieldTable
  rw [List.map_map]
  refine ⟨?_, ?_⟩
  · intro single
    obtain ⟨result, rfl, empty⟩ := List.map_eq_singleton_iff.mp single
    have row : writtenRow (fields.map fun name => shownText printable (valueOf result name)) = "" :=
      empty
    rcases (intercalate_eq_empty_iff (by decide)).mp row with none | one
    · exact (filled (List.map_eq_nil_iff.mp none)).elim
    · obtain ⟨name, rfl, blank⟩ := List.map_eq_singleton_iff.mp one
      exact ⟨result, name, rfl, rfl, shownText_eq_empty_iff.mp blank⟩
  · rintro ⟨result, name, rfl, rfl, blank⟩
    have empty : shownText printable (valueOf result name) = "" := shownText_eq_empty_iff.mpr blank
    simp [writtenRow, empty]

/-- **What is shown is read as its table exactly when the selection is clean**, and is not one value
that is shown as nothing. -/
theorem readTable_tableText_iff (filled : fields ≠ []) :
    readTable (if tableText printable results fields = "" then ""
        else tableText printable results fields ++ "\n") = fieldTable printable results fields ↔
      CleanSelection results fields ∧ ¬ LoneBlank results fields := by
  have rowFilled : ∀ row ∈ fieldTable printable results fields, row ≠ [] := by
    intro row member
    obtain ⟨result, _, rfl⟩ := List.mem_map.mp member
    simpa using filled
  by_cases empty : tableText printable results fields = ""
  · rw [if_pos empty]
    rcases (tableText_eq_empty_iff filled).mp empty with none | lone
    · rw [none]
      refine iff_of_true rfl ⟨List.forall_mem_nil _, ?_⟩
      rintro ⟨result, name, absurd, _⟩
      cases absurd
    · refine iff_of_false ?_ fun both => both.2 lone
      obtain ⟨result, name, single, _⟩ := lone
      rw [single]
      exact fun absurd => by cases absurd
  · have shown := mt (tableText_eq_empty_iff filled).mpr empty
    rw [not_or] at shown
    rw [if_neg empty]
    unfold tableText
    rw [intercalate_rows (mt fieldTable_eq_nil_iff.mp shown.1),
      readTable_writtenTable_iff rowFilled, clean_fieldTable_iff, and_iff_left shown.2]

/-- **What `--field` prints is read as its table exactly when everything selected is shown and clean**,
and is not one value that is shown as nothing. -/
theorem readTable_renderFields_iff (filled : opts.fields ≠ []) :
    (∃ text, renderFields printable opts changed results = .ok text ∧
        readTable text = fieldTable printable (displayed opts changed results) opts.fields) ↔
      ShownSelection (displayed opts changed results) opts.fields ∧
        CleanSelection (displayed opts changed results) opts.fields ∧
        ¬ LoneBlank (displayed opts changed results) opts.fields := by
  rw [renderFields_eq]
  by_cases shown : ShownSelection (displayed opts changed results) opts.fields
  · rw [if_pos shown, and_iff_right shown, ← readTable_tableText_iff filled]
    refine ⟨?_, fun read => ⟨_, rfl, read⟩⟩
    rintro ⟨text, printed, read⟩
    cases printed
    exact read
  · rw [if_neg shown]
    refine iff_of_false ?_ fun all => shown all.1
    rintro ⟨text, printed, _⟩
    cases printed

end Tables

section Inventory

variable {rows : List (String × DiscoveredCert × Bool)}

/-- The row of a certificate: its expiry, its issuer, its host names, and a mark if it is flagged. -/
def ctRow (row : String × DiscoveredCert × Bool) : List String :=
  [row.2.1.notAfter, row.2.1.issuer, ", ".intercalate row.2.1.hostnames] ++
    if row.2.2 then ["UNEXPECTED"] else []

/-- No text of a certificate has a separator in it. -/
def CleanInventory (rows : List (String × DiscoveredCert × Bool)) : Prop :=
  ∀ row ∈ rows, CleanCell row.2.1.notAfter ∧ CleanCell row.2.1.issuer ∧
    ∀ host ∈ row.2.1.hostnames, CleanCell host

theorem formatCtInventory_eq : formatCtInventory rows = writtenTable (rows.map ctRow) := by
  unfold formatCtInventory writtenTable
  rw [List.map_map]
  refine congrArg String.join (List.map_congr_left fun row _ => ?_)
  obtain ⟨domain, cert, unexpected⟩ := row
  apply String.toList_inj.mp
  cases unexpected <;> simp [ctRow, writtenRow]

theorem clean_ctRow_iff {row : String × DiscoveredCert × Bool} :
    (∀ cell ∈ ctRow row, CleanCell cell) ↔ CleanCell row.2.1.notAfter ∧ CleanCell row.2.1.issuer ∧
      ∀ host ∈ row.2.1.hostnames, CleanCell host := by
  have mark : ∀ cell ∈ (if row.2.2 then ["UNEXPECTED"] else []), CleanCell cell := by
    cases row.2.2 <;> decide
  have hosts : CleanCell (", ".intercalate row.2.1.hostnames) ↔
      ∀ host ∈ row.2.1.hostnames, CleanCell host := cleanCell_intercalate (by decide)
  unfold ctRow
  rw [List.forall_mem_append, and_iff_left mark]
  simp only [List.forall_mem_cons, hosts, List.not_mem_nil, IsEmpty.forall_iff, implies_true,
    and_true]

/-- **The inventory is read as its rows exactly when its texts are clean.** -/
theorem readTable_formatCtInventory_iff :
    readTable (formatCtInventory rows) = rows.map ctRow ↔ CleanInventory rows := by
  have filled : ∀ row ∈ rows.map ctRow, row ≠ [] := by
    intro row member
    obtain ⟨entry, _, rfl⟩ := List.mem_map.mp member
    exact List.cons_ne_nil _ _
  rw [formatCtInventory_eq, readTable_writtenTable_iff filled, List.forall_mem_map]
  unfold CleanInventory
  exact forall₂_congr fun row _ => clean_ctRow_iff

end Inventory

/-! ### Both outputs -/

/-- **The tab-separated outputs keep their shape exactly when what they show is clean.** -/
theorem tabular_exact (printable : Char → Bool) (opts : OutputOptions)
    (changed : Option (List String)) (results : List InspectionResult)
    (rows : List (String × DiscoveredCert × Bool)) (filled : opts.fields ≠ []) :
    ((∃ text, renderFields printable opts changed results = .ok text ∧
        readTable text = fieldTable printable (displayed opts changed results) opts.fields) ↔
      ShownSelection (displayed opts changed results) opts.fields ∧
        CleanSelection (displayed opts changed results) opts.fields ∧
        ¬ LoneBlank (displayed opts changed results) opts.fields) ∧
      (readTable (formatCtInventory rows) = rows.map ctRow ↔ CleanInventory rows) :=
  ⟨readTable_renderFields_iff filled, readTable_formatCtInventory_iff⟩

/-- A certificate whose issuer has tabs in it. -/
def disguised : String × DiscoveredCert × Bool :=
  ("a.com", ⟨["a.com"], "CN=CA\ta.com\tUNEXPECTED", "2026-01-01", "2026-04-01"⟩, false)

theorem tabular_exact_sample :
    ((∃ text, renderFields (fun _ => true) { fields := ["cipher"] } none [forgedResult] =
          .ok text ∧
        readTable text = fieldTable (fun _ => true)
          (displayed { fields := ["cipher"] } none [forgedResult]) ["cipher"]) ↔
      ShownSelection (displayed { fields := ["cipher"] } none [forgedResult]) ["cipher"] ∧
        CleanSelection (displayed { fields := ["cipher"] } none [forgedResult]) ["cipher"] ∧
        ¬ LoneBlank (displayed { fields := ["cipher"] } none [forgedResult]) ["cipher"]) ∧
      (readTable (formatCtInventory [disguised]) = [disguised].map ctRow ↔
        CleanInventory [disguised]) :=
  tabular_exact (fun _ => true) { fields := ["cipher"] } none [forgedResult] [disguised]
    (List.cons_ne_nil _ _)

/-- A subject with a line feed gives two lines for one result, a file without a handshake gives none
for its cipher, and an issuer with tabs in it forges the mark. -/
theorem tabular_exact_counterexample :
    ((renderFields (fun _ => true) { fields := ["subject", "is_ca"] } none [forgedResult]).map
          readTable = .ok [["CN=a"], ["OK: b.com certificate VALID", "False"]] ∧
        fieldTable (fun _ => true) [forgedResult] ["subject", "is_ca"] =
          [["CN=a\nOK: b.com certificate VALID", "False"]]) ∧
      ((renderFields (fun _ => true) { fields := ["cipher"] } none [forgedResult]).map readTable =
          .ok [] ∧
        fieldTable (fun _ => true) [forgedResult] ["cipher"] = [[""]]) ∧
      (readTable (formatCtInventory [disguised]) =
          [["2026-04-01", "CN=CA", "a.com", "UNEXPECTED", "a.com"]] ∧
        disguised.2.2 = false) := by
  refine ⟨⟨?_, ?_⟩, ⟨?_, ?_⟩, ?_, rfl⟩ <;> decide +kernel

end Certinspect.Formatter
