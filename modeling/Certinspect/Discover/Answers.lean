/-
**Any answer of crt.sh, `discover.py` below its records.**

Of a parsed answer only the outer type is checked. Then every record is asked for its fields, which
only a dict answers, and the issuer of a certificate is stripped, which only a string can be; what
else a field holds is shown as text.

* `RawCrtSh` — crt.sh with `json.loads` giving any JSON value; `Shows` — how Python shows values.
* `rawHostnames`, `rawCertificates` — the two lookups.
* `asRecord` — the texts of a record; `rawHostnames_eq`, `rawCertificates_eq` — on records that can be
  read the lookups are those of the module above.
* `rawNames_error`, `rawEntry_error` — on any other they raise an `AttributeError`.
* **`discoverOne_exact`** — which answers `_discover_one` reports.
-/

import Certinspect.Cli.Discovery
import Certinspect.Library.Json

namespace Certinspect.Discover

open Library Cli

/-! ### Values and records -/

/-- Whether a number is zero, and `str` of a value that is no string. -/
structure Shows where
  isZero : String → Bool
  str : Json → String

/-- `bool(value)`. -/
def Shows.truthy (shows : Shows) : Json → Bool
  | .null => false
  | .boolean value => value
  | .number literal => !shows.isZero literal
  | .string value => value != ""
  | .array elements => !elements.isEmpty
  | .object members => !members.isEmpty

/-- `str(value)`, which is also how an f-string shows it. -/
def Shows.text (shows : Shows) : Json → String
  | .string value => value
  | value => shows.str value

/-- `type(value).__name__`. -/
def typeName : Json → String
  | .null => "NoneType"
  | .boolean _ => "bool"
  | .number literal =>
    if literal.toList.any fun c => c ∈ ['.', 'e', 'E', 'N', 'I'] then "float" else "int"
  | .string _ => "str"
  | .array _ => "list"
  | .object _ => "dict"

/-- `value.name`, of a value without that attribute. -/
def noAttribute (value : Json) (name : String) : PyErr :=
  ⟨.attributeError, s!"'{typeName value}' object has no attribute '{name}'"⟩

section Raw

variable (shows : Shows) (lowercase : String → String)

/-- `record.get(key) or ""`. -/
def field (record : Json) (key : String) : Except PyErr Json :=
  match record with
  | .object members => .ok (((lastValue key members).filter shows.truthy).getD (.string ""))
  | value => .error (noAttribute value "get")

/-! ### The names -/

/-- The two fields that hold the names of a record. -/
def nameFields (record : Json) : Except PyErr CtRecord := do
  let common ← field shows record "common_name"
  let listed ← field shows record "name_value"
  pure { commonName := some (shows.text common), nameValue := some (shows.text listed) }

/-- `_extract_names`. -/
def rawNames (records : List Json) (domain : String) (keepWildcards : Bool) :
    Except PyErr (List String) := do
  let named ← records.mapM (nameFields shows)
  pure (extractNames lowercase named domain keepWildcards)

/-- What `json.loads` makes of a body. -/
inductive RawAnswer
  | loaded (value : Json)
  | malformed (message : String)
  | raises (err : PyErr)

/-- crt.sh, behind `fetch`, and `json.loads`. -/
structure RawCrtSh where
  fetch : String → Except PyErr Bytes
  jsonLoads : Bytes → RawAnswer

/-- The records of an answer. -/
def RawAnswer.records : RawAnswer → Except PyErr (List Json)
  | .loaded (.array records) => pure records
  | .loaded _ => .error ⟨.valueError, "unexpected crt.sh response: expected a JSON array"⟩
  | .malformed message => .error ⟨.valueError, s!"could not parse the crt.sh response: {message}"⟩
  | .raises err => .error err

/-- `_fetch_records`. -/
def rawRecords (crtSh : RawCrtSh) (domain : String) : Except PyErr (List Json) := do
  let body ← crtSh.fetch (crtShUrl ++ "?" ++ crtShQuery domain)
  (crtSh.jsonLoads body).records

/-- `discover_hostnames`. -/
def rawHostnames (crtSh : RawCrtSh) (domain : String) : Except PyErr (List String) := do
  let records ← rawRecords crtSh domain
  let names ← rawNames shows lowercase records domain false
  pure (sorted names)

/-! ### The certificates -/

/-- A value that `strip` is called on; the stripping itself is done by `recordIssuer`. -/
def strippable : Json → Except PyErr String
  | .string value => pure value
  | value => .error (noAttribute value "strip")

/-- The other fields of a record with names. -/
def certificateFields (record : Json) : Except PyErr CtRecord := do
  let issuer ← field shows record "issuer_name"
  let issuer ← strippable issuer
  let serial ← field shows record "serial_number"
  let notBefore ← field shows record "not_before"
  let notAfter ← field shows record "not_after"
  pure
    { issuerName := some issuer
      serialNumber := some (shows.text serial)
      notBefore := some (shows.text notBefore)
      notAfter := some (shows.text notAfter) }

/-- The key and the entry of a record, when it has names. -/
def rawEntry (domain : String) (record : Json) : Except PyErr (Option (String × DiscoveredCert)) := do
  let names ← rawNames shows lowercase [record] domain true
  if names = [] then pure none
  else do
    let fields ← certificateFields shows record
    pure (some (certificateKey fields names, discoveredCert fields names))

/-- `discover_certificates`. -/
def rawCertificates (crtSh : RawCrtSh) (domain : String) : Except PyErr (List DiscoveredCert) := do
  let records ← rawRecords crtSh domain
  let entries ← records.mapM (rawEntry shows lowercase domain)
  let seen := setItems entries.reduceOption
  pure ((seen.map Prod.snd).insertionSort fun first second => first.notAfter ≤ second.notAfter)

end Raw

/-! ### Records that can be read -/

section Readable

variable (shows : Shows) (lowercase : String → String)

/-- The record is a dict. -/
def IsDict (record : Json) : Prop := ∃ members, record = .object members

/-- A field of a record, empty when it cannot be read. -/
def fieldOf (record : Json) (key : String) : Json :=
  ((field shows record key).toOption).getD (.string "")

/-- The texts of a record; an issuer that is no string is left out. -/
def asRecord (record : Json) : CtRecord where
  commonName := some (shows.text (fieldOf shows record "common_name"))
  nameValue := some (shows.text (fieldOf shows record "name_value"))
  issuerName := (strippable (fieldOf shows record "issuer_name")).toOption
  serialNumber := some (shows.text (fieldOf shows record "serial_number"))
  notBefore := some (shows.text (fieldOf shows record "not_before"))
  notAfter := some (shows.text (fieldOf shows record "not_after"))

/-- The record is a dict; if it has names under the domain, its issuer is falsy or a string. -/
def CertificateReadable (domain : String) (record : Json) : Prop :=
  IsDict record ∧ ((∃ name, IsNameOf lowercase (asRecord shows record) domain name) →
    ∃ issuer, fieldOf shows record "issuer_name" = .string issuer)

variable {shows} {lowercase} {record : Json} {records : List Json} {domain : String}
  {crtSh : RawCrtSh}

theorem field_eq (dict : IsDict record) (key : String) :
    field shows record key = .ok (fieldOf shows record key) := by
  obtain ⟨members, rfl⟩ := dict
  rfl

theorem field_error (noDict : ¬ IsDict record) (key : String) :
    field shows record key = .error (noAttribute record "get") := by
  cases record with
  | object members => exact (noDict ⟨members, rfl⟩).elim
  | null => rfl
  | boolean value => rfl
  | number literal => rfl
  | string value => rfl
  | array elements => rfl

/-- Only the lines of a record matter for its names. -/
theorem extractNames_congr {first second : List CtRecord} {keepWildcards : Bool}
    (same : first.map recordLines = second.map recordLines) :
    extractNames lowercase first domain keepWildcards =
      extractNames lowercase second domain keepWildcards := by
  have through (records : List CtRecord) : extractNames lowercase records domain keepWildcards =
      ((records.map recordLines).flatMap fun lines => lines.filterMap fun line =>
        let name := lineName lowercase line
        if name = "" ∨ (occursIn "*" name = true ∧ keepWildcards = false) then none
        else if name = bareDomain lowercase domain ∨
          endsWith name ("." ++ bareDomain lowercase domain) = true then some name
        else none).dedup := by
    rw [List.flatMap_map]
    rfl
  rw [through, through, same]

/-- **The names of dicts are those of their texts.** -/
theorem rawNames_eq {keepWildcards : Bool} (dicts : ∀ record ∈ records, IsDict record) :
    rawNames shows lowercase records domain keepWildcards =
      .ok (extractNames lowercase (records.map (asRecord shows)) domain keepWildcards) := by
  have each : ∀ record ∈ records, nameFields shows record =
      .ok { commonName := some (shows.text (fieldOf shows record "common_name"))
            nameValue := some (shows.text (fieldOf shows record "name_value")) } := by
    intro record member
    unfold nameFields
    rw [field_eq (dicts record member), field_eq (dicts record member)]
    rfl
  unfold rawNames
  rw [mapM_ok_eq each]
  refine congrArg Except.ok (extractNames_congr ?_)
  rw [List.map_map, List.map_map]
  rfl

theorem nameFields_error (noDict : ¬ IsDict record) :
    nameFields shows record = .error (noAttribute record "get") := by
  unfold nameFields
  rw [field_error noDict]
  rfl

/-- A record that is no dict ends the loop. -/
theorem rawNames_error {keepWildcards : Bool} (bad : ∃ record ∈ records, ¬ IsDict record) :
    ∃ err, rawNames shows lowercase records domain keepWildcards = .error err ∧
      err.cls = .attributeError := by
  cases named : records.mapM (nameFields shows) with
  | ok results =>
    obtain ⟨record, member, noDict⟩ := bad
    obtain ⟨result, returned⟩ := mapM_ok_iff.mp ⟨results, named⟩ record member
    rw [nameFields_error noDict] at returned
    cases returned
  | error err =>
    refine ⟨err, by unfold rawNames; rw [named]; rfl, ?_⟩
    obtain ⟨record, _, raises⟩ := mapM_error named
    by_cases dict : IsDict record
    · unfold nameFields at raises
      rw [field_eq dict, field_eq dict] at raises
      cases raises
    · rw [nameFields_error dict] at raises
      cases raises
      rfl

theorem certificateFields_eq {issuer : String} (dict : IsDict record)
    (text : fieldOf shows record "issuer_name" = .string issuer) :
    certificateFields shows record =
      .ok { asRecord shows record with commonName := none, nameValue := none } := by
  unfold certificateFields asRecord
  rw [field_eq dict, field_eq dict, field_eq dict, field_eq dict, text]
  rfl

/-- The entry of a record that can be read, under its key. -/
def readEntry (shows : Shows) (lowercase : String → String) (domain : String) (record : Json) :
    Option (String × DiscoveredCert) :=
  let names := extractNames lowercase [asRecord shows record] domain true
  if names = [] then none
  else some (certificateKey (asRecord shows record) names,
    discoveredCert (asRecord shows record) names)

/-- The entry of a dict: nothing without a name, else what the other fields give. -/
theorem rawEntry_of_dict (dict : IsDict record) :
    rawEntry shows lowercase domain record =
      if extractNames lowercase [asRecord shows record] domain true = [] then .ok none
      else (certificateFields shows record).map fun fields =>
        some (certificateKey fields (extractNames lowercase [asRecord shows record] domain true),
          discoveredCert fields (extractNames lowercase [asRecord shows record] domain true)) := by
  have named : rawNames shows lowercase [record] domain true =
      .ok (extractNames lowercase [asRecord shows record] domain true) :=
    rawNames_eq (List.forall_mem_singleton.mpr dict)
  unfold rawEntry
  simp only [named, bind, Except.bind, pure, Except.pure]
  rfl

theorem rawEntry_eq (readable : CertificateReadable shows lowercase domain record) :
    rawEntry shows lowercase domain record = .ok (readEntry shows lowercase domain record) := by
  obtain ⟨dict, issuer⟩ := readable
  unfold readEntry
  rw [rawEntry_of_dict dict]
  by_cases empty : extractNames lowercase [asRecord shows record] domain true = []
  · rw [if_pos empty, if_pos empty]
  · obtain ⟨text, isText⟩ := issuer (extractNames_ne_nil_iff.mp empty)
    rw [if_neg empty, if_neg empty, certificateFields_eq dict isText]
    rfl

/-- A record that cannot be read ends the loop. -/
theorem rawEntry_error (bad : ¬ CertificateReadable shows lowercase domain record) :
    ∃ err, rawEntry shows lowercase domain record = .error err ∧ err.cls = .attributeError := by
  by_cases dict : IsDict record
  · have unread : ¬ ((∃ name, IsNameOf lowercase (asRecord shows record) domain name) →
        ∃ issuer, fieldOf shows record "issuer_name" = .string issuer) := fun read => bad ⟨dict, read⟩
    rw [Classical.not_imp] at unread
    obtain ⟨named, noText⟩ := unread
    refine ⟨noAttribute (fieldOf shows record "issuer_name") "strip", ?_, rfl⟩
    rw [rawEntry_of_dict dict, if_neg (extractNames_ne_nil_iff.mpr named)]
    have raises : strippable (fieldOf shows record "issuer_name") =
        .error (noAttribute (fieldOf shows record "issuer_name") "strip") := by
      cases issuer : fieldOf shows record "issuer_name" with
      | string value => exact (noText ⟨value, issuer⟩).elim
      | null => rfl
      | boolean value => rfl
      | number literal => rfl
      | array elements => rfl
      | object members => rfl
    unfold certificateFields
    rw [field_eq dict]
    show ((strippable (fieldOf shows record "issuer_name") >>= _) >>= _) = _
    rw [raises]
    rfl
  · have raised : ∃ err, rawNames shows lowercase [record] domain true = .error err ∧
        err.cls = .attributeError := rawNames_error ⟨record, List.mem_singleton_self record, dict⟩
    obtain ⟨err, raises, cls⟩ := raised
    refine ⟨err, ?_, cls⟩
    unfold rawEntry
    rw [raises]
    rfl

/-! ### The lookups -/

/-- crt.sh as the module above has it, when it serves these records. -/
def servedTexts (shows : Shows) (records : List Json) : CrtSh :=
  ⟨fun _ => .ok [], fun _ => .array (records.map (asRecord shows))⟩

/-- **On dicts, the host names are those of their texts.** -/
theorem rawHostnames_eq (served : rawRecords crtSh domain = .ok records)
    (dicts : ∀ record ∈ records, IsDict record) :
    rawHostnames shows lowercase crtSh domain =
      discoverHostnames lowercase (servedTexts shows records) domain := by
  unfold rawHostnames
  rw [served]
  show (rawNames shows lowercase records domain false >>= _) = _
  rw [rawNames_eq dicts]
  rfl

/-- **On records that can be read, the certificates are those of their texts.** -/
theorem rawCertificates_eq (served : rawRecords crtSh domain = .ok records)
    (readable : ∀ record ∈ records, CertificateReadable shows lowercase domain record) :
    rawCertificates shows lowercase crtSh domain =
      discoverCertificates lowercase (servedTexts shows records) domain := by
  have entries := mapM_ok_eq fun record member => rawEntry_eq (readable record member)
  have keyed : (records.map (readEntry shows lowercase domain)).reduceOption =
      keyedCerts lowercase (records.map (asRecord shows)) domain := by
    unfold keyedCerts List.reduceOption
    rw [List.filterMap_map, List.filterMap_map]
    rfl
  unfold rawCertificates
  rw [served]
  show (records.mapM (rawEntry shows lowercase domain) >>= _) = _
  rw [entries]
  show Except.ok (((setItems (records.map (readEntry shows lowercase domain)).reduceOption).map
    Prod.snd).insertionSort _) = _
  rw [keyed]
  rfl

end Readable

/-! ### What is reported -/

section Reported

variable {shows : Shows} {lowercase : String → String} {crtSh : RawCrtSh} {domain : String}
  {body : Bytes}

/-- What `_discover_one` returns, as the code has it: the domain, the result and the error. -/
def triple {α : Type} (entry : String × Except String (List α)) :
    String × Option (List α) × Option String :=
  match entry.2 with
  | .ok result => (entry.1, some result, none)
  | .error message => (entry.1, none, some message)

/-- A triple is returned, and exactly one of the result and the error is set in it. -/
def Reported {α : Type} (domain : String) (found : Except PyErr (List α)) : Prop :=
  ∃ result error, (discoverOne domain found).map triple = .ok (domain, result, error) ∧
    result.isSome = !error.isSome

/-- The exceptions that `_discover_one` reports. -/
def reportable : List ExcClass := [.osError, .valueError]

/-- Every record of an answer is good, or it is an answer that is reported. -/
def AnswerReported (Good : Json → Prop) : RawAnswer → Prop
  | .loaded (.array records) => ∀ record ∈ records, Good record
  | .loaded _ => True
  | .malformed _ => True
  | .raises err => err.isA reportable = true

theorem reported_ok {α : Type} (result : List α) : Reported domain (.ok result) :=
  ⟨some result, none, rfl, rfl⟩

theorem reported_error_iff {α : Type} {err : PyErr} :
    Reported domain (.error err : Except PyErr (List α)) ↔ err.isA reportable = true := by
  by_cases caught : err.isA reportable = true
  · have handled : (exceptPure [.osError, .valueError] (.error err : Except PyErr (List α))) =
        .ok (.error err) := if_pos caught
    refine iff_of_true ⟨none, some err.message, ?_, rfl⟩ caught
    unfold discoverOne
    rw [handled]
    rfl
  · have passed : (exceptPure [.osError, .valueError] (.error err : Except PyErr (List α))) =
        .error err := if_neg caught
    refine iff_of_false ?_ caught
    rintro ⟨result, error, returned, _⟩
    unfold discoverOne at returned
    rw [passed] at returned
    cases returned

/-- A lookup that only depends on the records is reported by the kind of answer. -/
theorem reported_iff {α : Type} {Good : Json → Prop} {look : List Json → Except PyErr (List α)}
    (served : crtSh.fetch (crtShUrl ++ "?" ++ crtShQuery domain) = .ok body)
    (fine : ∀ records, (∀ record ∈ records, Good record) → ∃ result, look records = .ok result)
    (bad : ∀ records, ¬ (∀ record ∈ records, Good record) →
      ∃ err, look records = .error err ∧ err.cls = .attributeError) :
    Reported domain (rawRecords crtSh domain >>= look) ↔
      AnswerReported Good (crtSh.jsonLoads body) := by
  have fetched : rawRecords crtSh domain = (crtSh.jsonLoads body).records := by
    unfold rawRecords
    rw [served]
    rfl
  have value : (⟨.valueError, "unexpected crt.sh response: expected a JSON array"⟩ : PyErr).isA
      reportable = true := rfl
  rw [fetched]
  cases crtSh.jsonLoads body with
  | raises err => exact reported_error_iff
  | malformed message => exact iff_of_true (reported_error_iff.mpr rfl) trivial
  | loaded loaded =>
    cases loaded with
    | array records =>
      show Reported domain (look records) ↔ ∀ record ∈ records, Good record
      by_cases good : ∀ record ∈ records, Good record
      · obtain ⟨result, found⟩ := fine records good
        rw [found]
        exact iff_of_true (reported_ok result) good
      · obtain ⟨err, raises, cls⟩ := bad records good
        have passes : ¬ err.isA reportable = true := by
          unfold PyErr.isA
          rw [cls]
          decide
        rw [raises]
        exact iff_of_false (fun reported => passes (reported_error_iff.mp reported)) good
    | null => exact iff_of_true (reported_error_iff.mpr value) trivial
    | boolean flag => exact iff_of_true (reported_error_iff.mpr value) trivial
    | number literal => exact iff_of_true (reported_error_iff.mpr value) trivial
    | string text => exact iff_of_true (reported_error_iff.mpr value) trivial
    | object members => exact iff_of_true (reported_error_iff.mpr value) trivial

theorem reported_hostnames_iff
    (served : crtSh.fetch (crtShUrl ++ "?" ++ crtShQuery domain) = .ok body) :
    Reported domain (rawHostnames shows lowercase crtSh domain) ↔
      AnswerReported IsDict (crtSh.jsonLoads body) := by
  refine reported_iff served (fun records dicts => ?_) fun records bad => ?_
  · rw [rawNames_eq dicts]
    exact ⟨_, rfl⟩
  · push Not at bad
    have raised : ∃ err, rawNames shows lowercase records domain false = .error err ∧
        err.cls = .attributeError := rawNames_error bad
    obtain ⟨err, raises, cls⟩ := raised
    exact ⟨err, by rw [raises]; rfl, cls⟩

theorem reported_certificates_iff
    (served : crtSh.fetch (crtShUrl ++ "?" ++ crtShQuery domain) = .ok body) :
    Reported domain (rawCertificates shows lowercase crtSh domain) ↔
      AnswerReported (CertificateReadable shows lowercase domain) (crtSh.jsonLoads body) := by
  refine reported_iff served (fun records readable => ?_) fun records bad => ?_
  · rw [mapM_ok_eq fun record member => rawEntry_eq (readable record member)]
    exact ⟨_, rfl⟩
  · push Not at bad
    cases listed : records.mapM (rawEntry shows lowercase domain) with
    | ok entries =>
      obtain ⟨record, member, unread⟩ := bad
      obtain ⟨entry, returned⟩ := mapM_ok_iff.mp ⟨entries, listed⟩ record member
      obtain ⟨err, raises, _⟩ := rawEntry_error unread
      rw [returned] at raises
      cases raises
    | error err =>
      refine ⟨err, rfl, ?_⟩
      obtain ⟨record, _, raises⟩ := mapM_error listed
      by_cases readable : CertificateReadable shows lowercase domain record
      · rw [rawEntry_eq readable] at raises
        cases raises
      · obtain ⟨raised, same, cls⟩ := rawEntry_error readable
        rw [raises] at same
        cases same
        exact cls

/-- **Host names that are returned are sorted, without duplicates and without wildcards.** -/
theorem rawHostnames_shape {names : List String}
    (returned : rawHostnames shows lowercase crtSh domain = .ok names) :
    names.Pairwise (· ≤ ·) ∧ names.Nodup ∧ ∀ name ∈ names, '*' ∉ name.toList := by
  unfold rawHostnames at returned
  obtain ⟨records, _, listed⟩ := bind_ok_iff.mp returned
  obtain ⟨found, named, same⟩ := bind_ok_iff.mp listed
  cases same
  unfold rawNames at named
  obtain ⟨texts, _, kept⟩ := bind_ok_iff.mp named
  cases kept
  refine ⟨List.pairwise_insertionSort _ _, ?_, fun name member => ?_⟩
  · exact (List.perm_insertionSort _ _).nodup_iff.mpr (List.nodup_dedup _)
  · rw [sorted, List.mem_insertionSort, mem_extractNames_iff] at member
    obtain ⟨_, _, _, concrete⟩ := member
    exact concrete.resolve_left (by decide)

end Reported

/-- **Which answers are reported**: those whose records can be read. A lookup of host names reads every
record that is a dict; one of certificates also needs the issuer of each record with names to be falsy
or a string. -/
theorem discoverOne_exact (shows : Shows) (lowercase : String → String) (crtSh : RawCrtSh)
    (domain : String) (body : Bytes)
    (served : crtSh.fetch (crtShUrl ++ "?" ++ crtShQuery domain) = .ok body) :
    (Reported domain (rawHostnames shows lowercase crtSh domain) ↔
        AnswerReported IsDict (crtSh.jsonLoads body)) ∧
      (Reported domain (rawCertificates shows lowercase crtSh domain) ↔
        AnswerReported (CertificateReadable shows lowercase domain) (crtSh.jsonLoads body)) ∧
      ∀ names, rawHostnames shows lowercase crtSh domain = .ok names →
        names.Pairwise (· ≤ ·) ∧ names.Nodup ∧ ∀ name ∈ names, '*' ∉ name.toList :=
  ⟨reported_hostnames_iff served, reported_certificates_iff served, fun _ => rawHostnames_shape⟩

/-! ### Three answers -/

/-- Python on integers and on nothing else. -/
def sampleShows : Shows := ⟨fun literal => literal == "0", fun _ => ""⟩

/-- crt.sh when its answer is this value. -/
def answering (value : Json) : RawCrtSh := ⟨fun _ => .ok [], fun _ => .loaded value⟩

/-- `[{"common_name": "a.com"}]`. -/
def plainAnswer : Json := .array [.object [("common_name", .string "a.com")]]

theorem discoverOne_exact_sample :
    (Reported "a.com" (rawHostnames sampleShows lower (answering plainAnswer) "a.com") ↔
        AnswerReported IsDict ((answering plainAnswer).jsonLoads [])) ∧
      (Reported "a.com" (rawCertificates sampleShows lower (answering plainAnswer) "a.com") ↔
        AnswerReported (CertificateReadable sampleShows lower "a.com")
          ((answering plainAnswer).jsonLoads [])) ∧
      ∀ names, rawHostnames sampleShows lower (answering plainAnswer) "a.com" = .ok names →
        names.Pairwise (· ≤ ·) ∧ names.Nodup ∧ ∀ name ∈ names, '*' ∉ name.toList :=
  discoverOne_exact sampleShows lower (answering plainAnswer) "a.com" [] rfl

/-- `[{"common_name": "a.com", "issuer_name": 5}]`. -/
def numberedIssuer : Json :=
  .array [.object [("common_name", .string "a.com"), ("issuer_name", .number "5")]]

/-- The answer `[1]` raises from both lookups, and an issuer that is a number from the one of
certificates. -/
theorem discoverOne_exact_counterexample :
    (discoverOne "a.com" (rawHostnames sampleShows lower (answering (.array [.number "1"])) "a.com") =
        .error ⟨.attributeError, "'int' object has no attribute 'get'"⟩ ∧
      discoverOne "a.com"
          (rawCertificates sampleShows lower (answering (.array [.number "1"])) "a.com") =
        .error ⟨.attributeError, "'int' object has no attribute 'get'"⟩) ∧
      discoverOne "a.com" (rawCertificates sampleShows lower (answering numberedIssuer) "a.com") =
        .error ⟨.attributeError, "'int' object has no attribute 'strip'"⟩ := by
  refine ⟨⟨?_, ?_⟩, ?_⟩ <;> decide +kernel

end Certinspect.Discover
