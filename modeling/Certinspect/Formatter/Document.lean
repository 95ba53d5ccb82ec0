/-
**The JSON documents of a batch, `format_json_v2` and `format_json`.**

Schema 2 wraps the result objects in an envelope with its version; schema 1 is the list of the `info`
dicts as they are, with dates as `str` shows them. Both are indented and not restricted to ASCII, and
both are refused when an integer has more digits than the interpreter converts.

* `resultObject`, `envelope` — schema 2. `infoObject` — schema 1. `dumps` — the text of a value.
* `readDocumentV2`, `readDocument` — the batch that a text was made of.
* `formatJsonV2_eq`, `formatJson_eq` — the texts, and the one way in which they are refused.
* **`documents_exact`** — both texts are read back to the batch, and agree on it.
-/

import Certinspect.Formatter.SchemaV2
import Certinspect.Formatter.Summary
import Certinspect.Library.JsonCodec

namespace Certinspect.Formatter

open Library Cli

/-! ### The shapes that both share -/

section Shapes

/-- A string, or `null`. -/
def textOrNull : Codec (Option String) := Codec.text.nullable fun _ same => by cases same

/-- A Boolean, or `null`. -/
def flagOrNull : Codec (Option Bool) := Codec.flag.nullable fun _ same => by cases same

/-- A size, or `null`. -/
def sizeOrNull : Codec (Option Nat) := Codec.natural.nullable fun _ same => by cases same

/-- Strings. -/
def texts : Codec (List String) := Codec.text.list

/-- The status that is a string. -/
def namedStatus (text : String) : Option Status :=
  [.valid, .expiring, .critical, .expired, .notYetValid, .invalidDates].find? fun status =>
    status.str = text

/-- The revocation status that is a string. -/
def namedRevocation (text : String) : Option RevocationStatus :=
  [.good, .revoked, .unknown, .unavailable].find? fun status => status.str = text

/-- A status, as the string it is. -/
def statusText : Codec Status :=
  Codec.text.through Status.str namedStatus fun status => by cases status <;> decide

/-- A revocation status, as the string it is. -/
def revocationText : Codec RevocationStatus :=
  Codec.text.through RevocationStatus.str namedRevocation fun status => by cases status <;> decide

/-- The dict of a diagnosis. -/
def diagnosisObject : Codec ChainDiagnosis :=
  ((Fields.none ChainDiagnosis.mk).key "code" .text ChainDiagnosis.code
    |>.key "detail" .text ChainDiagnosis.detail).codec (fun _ => rfl) (by decide)

/-- A diagnosis, or `null`. -/
def diagnosisOrNull : Codec (Option ChainDiagnosis) :=
  diagnosisObject.nullable fun _ same => by cases same

end Shapes

/-! ### Schema 2 -/

/-- An entry of `chain.certificates`. -/
def certificateObject : Codec ChainCertificateV2 :=
  ((Fields.none ChainCertificateV2.mk).key "subject" .text ChainCertificateV2.subject
    |>.key "issuer" .text ChainCertificateV2.issuer
    |>.key "not_after" .text ChainCertificateV2.notAfter
    |>.key "serial_number" .text ChainCertificateV2.serialNumber
    |>.key "is_ca" .flag ChainCertificateV2.isCa).codec (fun _ => rfl) (by decide)

/-- The section `key`. -/
def keyObject : Codec KeyV2 :=
  ((Fields.none KeyV2.mk).key "type" .text KeyV2.type
    |>.key "size" sizeOrNull KeyV2.size
    |>.key "signature_algorithm" .text KeyV2.signatureAlgorithm
    |>.key "usage" texts KeyV2.usage
    |>.key "extended_usage" texts KeyV2.extendedUsage
    |>.key "weak" texts KeyV2.weak).codec (fun _ => rfl) (by decide)

/-- The section `validity`. -/
def validityObject : Codec ValidityV2 :=
  ((Fields.none ValidityV2.mk).key "not_before" .text ValidityV2.notBefore
    |>.key "not_after" .text ValidityV2.notAfter
    |>.key "days_to_expiry" .integer ValidityV2.daysToExpiry
    |>.key "total_days" .integer ValidityV2.totalDays).codec (fun _ => rfl) (by decide)

/-- The section `connection`. -/
def connectionObject : Codec ConnectionV2 :=
  ((Fields.none ConnectionV2.mk).key "tls_version" .text ConnectionV2.tlsVersion
    |>.key "cipher" textOrNull ConnectionV2.cipher).codec (fun _ => rfl) (by decide)

/-- The section `chain`, of which three keys are there together. -/
def makeChain (trusted : Option Bool) (error : Option (Option String))
    (diagnosis : Option (Option ChainDiagnosis)) (warnings : List String)
    (certificates : Option (List ChainCertificateV2)) : ChainV2 :=
  ⟨trusted.map fun trusted => ⟨trusted, error.join, diagnosis.join⟩, warnings, certificates⟩

/-- The section `chain`. -/
def chainObject : Codec ChainV2 :=
  ((Fields.none makeChain).optionalKey "trusted" .flag (fun chain => chain.trust.map TrustV2.trusted)
    |>.optionalKey "error" textOrNull (fun chain => chain.trust.map TrustV2.error)
    |>.optionalKey "diagnosis" diagnosisOrNull (fun chain => chain.trust.map TrustV2.diagnosis)
    |>.key "warnings" texts ChainV2.warnings
    |>.optionalKey "certificates" certificateObject.list ChainV2.certificates).codec
      (fun chain => by
        obtain ⟨trust, warnings, certificates⟩ := chain
        cases trust <;> rfl)
      (by decide)

/-- The section `revocation`. -/
def revocationObject : Codec RevocationV2 :=
  ((Fields.none RevocationV2.mk).key "status" revocationText RevocationV2.status
    |>.key "detail" textOrNull RevocationV2.detail).codec (fun _ => rfl) (by decide)

/-- The section `policy`. -/
def policyObject : Codec (List String) :=
  ((Fields.none id).key "violations" texts id).codec (fun _ => rfl) (by decide)

/-- A result object. -/
def resultObject : Codec ResultV2 :=
  ((Fields.none ResultV2.mk).key "target" textOrNull ResultV2.target
    |>.key "status" statusText ResultV2.status
    |>.key "subject" .text ResultV2.subject
    |>.key "issuer" .text ResultV2.issuer
    |>.key "serial_number" .text ResultV2.serialNumber
    |>.key "fingerprint_sha256" .text ResultV2.fingerprintSha256
    |>.key "self_signed" .flag ResultV2.selfSigned
    |>.key "is_ca" .flag ResultV2.isCa
    |>.key "san" texts ResultV2.san
    |>.key "key" keyObject ResultV2.key
    |>.key "validity" validityObject ResultV2.validity
    |>.key "sct_count" .natural ResultV2.sctCount
    |>.key "must_staple" .flag ResultV2.mustStaple
    |>.key "hostname_match" flagOrNull ResultV2.hostnameMatch
    |>.optionalKey "connection" connectionObject ResultV2.connection
    |>.optionalKey "chain" chainObject ResultV2.chain
    |>.optionalKey "revocation" revocationObject ResultV2.revocation
    |>.optionalKey "policy" policyObject ResultV2.policy
    |>.optionalKey "pin_match" .flag ResultV2.pinMatch
    |>.optionalKey "expected_san_missing" texts ResultV2.expectedSanMissing).codec
      (fun _ => rfl) (by decide)

/-- The document around the result objects. -/
structure Envelope where
  schemaVersion : Int
  certinspectVersion : String
  results : List ResultV2

/-- The document. -/
def envelopeObject : Codec Envelope :=
  ((Fields.none Envelope.mk).key "schema_version" .integer Envelope.schemaVersion
    |>.key "certinspect_version" .text Envelope.certinspectVersion
    |>.key "results" resultObject.list Envelope.results).codec (fun _ => rfl) (by decide)

/-- `json.dumps(value, indent=2, ensure_ascii=False)`: an integer is written as `repr` shows it, unless
it has more digits than that. -/
def dumps (value : Json) : Except PyErr String :=
  if value.Numeric maxStrDigits then .ok (String.ofList (value.text 0)) else .error tooManyDigits

/-- `format_json_v2`. -/
def formatJsonV2 (results : List InspectionResult) (version : String) : Except PyErr String := do
  let objects ← results.mapM fun result => resultToV2 result.label result.info
  dumps (envelopeObject.write ⟨2, version, objects⟩)

/-! ### Schema 1 -/

/-- An instant, as `str` shows it. -/
def instantText : Codec Instant := Codec.text.through Instant.str Instant.ofStr Instant.ofStr_str

/-- The dict of a chain certificate. -/
def summaryObject : Codec ChainSummary :=
  ((Fields.none ChainSummary.mk).key "subject" .text ChainSummary.subject
    |>.key "issuer" .text ChainSummary.issuer
    |>.key "not_valid_after" instantText ChainSummary.notValidAfter
    |>.key "serial_number" .integer ChainSummary.serialNumber
    |>.key "is_ca" .flag ChainSummary.isCa).codec (fun _ => rfl) (by decide)

/-- A record, from the values of its keys in the order in which an inspection sets them. -/
def makeInfo (subject issuer : String) (notValidBefore notValidAfter : Instant) (serialNumber : Int)
    (signatureAlgorithm : String) (daysToExpire validityDays : Int) (keyType : String)
    (keySize : Option Nat) (san : List String) (fingerprintSha256 : String) (isCa selfSigned : Bool)
    (keyUsage extendedKeyUsage : List String) (sctCount : Nat) (mustStaple : Bool)
    (weak : List String) (tlsVersion cipher : Option (Option String)) (hostnameMatch : Option Bool)
    (status : Status) (chainTrusted : Option Bool) (chainError : Option (Option String))
    (chainDiagnosis : Option ChainDiagnosis) (revocationStatus : Option RevocationStatus)
    (revocationDetail : Option (Option String)) (chainWarnings : Option (List String))
    (chain : Option (List ChainSummary)) (pinMatch : Option Bool)
    (expectedSanMissing policyViolations : Option (List String)) : CertificateInfo :=
  { subject, issuer, notValidBefore, notValidAfter, serialNumber, signatureAlgorithm, daysToExpire,
    validityDays, keyType, keySize, san, fingerprintSha256, isCa, selfSigned, keyUsage,
    extendedKeyUsage, sctCount, mustStaple, weak, status, hostnameMatch, tlsVersion, cipher,
    chainTrusted, chainError, chainDiagnosis, chainWarnings, chain, revocationStatus,
    revocationDetail, pinMatch, expectedSanMissing, policyViolations }

/-- An `info` dict. -/
def infoObject : Codec CertificateInfo :=
  ((Fields.none makeInfo).key "subject" .text (fun info => info.subject)
    |>.key "issuer" .text (fun info => info.issuer)
    |>.key "not_valid_before" instantText (fun info => info.notValidBefore)
    |>.key "not_valid_after" instantText (fun info => info.notValidAfter)
    |>.key "serial_number" .integer (fun info => info.serialNumber)
    |>.key "signature_algorithm" .text (fun info => info.signatureAlgorithm)
    |>.key "days_to_expire" .integer (fun info => info.daysToExpire)
    |>.key "validity_days" .integer (fun info => info.validityDays)
    |>.key "key_type" .text (fun info => info.keyType)
    |>.key "key_size" sizeOrNull (fun info => info.keySize)
    |>.key "san" texts (fun info => info.san)
    |>.key "fingerprint_sha256" .text (fun info => info.fingerprintSha256)
    |>.key "is_ca" .flag (fun info => info.isCa)
    |>.key "self_signed" .flag (fun info => info.selfSigned)
    |>.key "key_usage" texts (fun info => info.keyUsage)
    |>.key "extended_key_usage" texts (fun info => info.extendedKeyUsage)
    |>.key "sct_count" .natural (fun info => info.sctCount)
    |>.key "must_staple" .flag (fun info => info.mustStaple)
    |>.key "weak" texts (fun info => info.weak)
    |>.optionalKey "tls_version" textOrNull (fun info => info.tlsVersion)
    |>.optionalKey "cipher" textOrNull (fun info => info.cipher)
    |>.key "hostname_match" flagOrNull (fun info => info.hostnameMatch)
    |>.key "status" statusText (fun info => info.status)
    |>.optionalKey "chain_trusted" .flag (fun info => info.chainTrusted)
    |>.optionalKey "chain_error" textOrNull (fun info => info.chainError)
    |>.optionalKey "chain_diagnosis" diagnosisObject (fun info => info.chainDiagnosis)
    |>.optionalKey "revocation_status" revocationText (fun info => info.revocationStatus)
    |>.optionalKey "revocation_detail" textOrNull (fun info => info.revocationDetail)
    |>.optionalKey "chain_warnings" texts (fun info => info.chainWarnings)
    |>.optionalKey "chain" summaryObject.list (fun info => info.chain)
    |>.optionalKey "pin_match" .flag (fun info => info.pinMatch)
    |>.optionalKey "expected_san_missing" texts (fun info => info.expectedSanMissing)
    |>.optionalKey "policy_violations" texts (fun info => info.policyViolations)).codec
      (fun _ => rfl) (by decide)

/-- `format_json` of the `info` dicts of a batch. -/
def formatJson (results : List InspectionResult) : Except PyErr String :=
  dumps (infoObject.list.write (results.map InspectionResult.info))

/-! ### How they are read -/

/-- The batch that a text of schema 2 was made of, with the version that made it. -/
def readDocumentV2 (text : String) : Option (String × List (Option String × CertificateInfo)) := do
  let envelope ← envelopeObject.readText maxStrDigits text.toList
  if envelope.schemaVersion = 2 then
    let results ← envelope.results.mapM fun object =>
      (readResult object).map fun info => (object.target, info)
    pure (envelope.certinspectVersion, results)
  else none

/-- The records that a text of schema 1 was made of. -/
def readDocument (text : String) : Option (List CertificateInfo) :=
  infoObject.list.readText maxStrDigits text.toList

/-! ### The integers of a document -/

/-- The integers of a record. -/
def infoIntegers (info : CertificateInfo) : List Int :=
  [info.serialNumber, info.daysToExpire, info.validityDays] ++ sizeOrNull.integers info.keySize ++
    [(info.sctCount : Int)] ++ (info.chain.getD []).map ChainSummary.serialNumber

/-- No integer of a record has more digits than are converted. -/
def IntegersShown (info : CertificateInfo) : Prop := ∀ n ∈ infoIntegers info, HasDecimal n

instance : DecidablePred IntegersShown := fun _ => inferInstanceAs (Decidable (∀ _ ∈ _, _))

section Integers

variable {α : Type} {codec : Codec α}

theorem integers_none (none : ∀ value, codec.integers value = []) (value : Option α) :
    (value.map codec.integers).getD [] = [] := by
  cases value with
  | none => rfl
  | some value => exact none value

theorem list_integers_none (none : ∀ value, codec.integers value = []) (values : List α) :
    codec.list.integers values = [] :=
  List.flatMap_eq_nil_iff.mpr fun value _ => none value

theorem texts_integers (items : List String) : texts.integers items = [] :=
  list_integers_none (fun _ => rfl) items

theorem textOrNull_integers (text : Option String) : textOrNull.integers text = [] := by
  cases text <;> rfl

theorem flagOrNull_integers (flag : Option Bool) : flagOrNull.integers flag = [] := by
  cases flag <;> rfl

theorem connectionObject_integers (connection : ConnectionV2) :
    connectionObject.integers connection = [] := textOrNull_integers connection.cipher

theorem revocationObject_integers (revocation : RevocationV2) :
    revocationObject.integers revocation = [] := textOrNull_integers revocation.detail

theorem policyObject_integers (violations : List String) : policyObject.integers violations = [] :=
  texts_integers violations

theorem chainObject_integers (chain : ChainV2) : chainObject.integers chain = [] := by
  have certificates (entries : Option (List ChainCertificateV2)) :
      (entries.map certificateObject.list.integers).getD [] = [] :=
    integers_none (list_integers_none fun _ => rfl) entries
  obtain ⟨trust, warnings, entries⟩ := chain
  have warned : texts.integers warnings = [] := texts_integers warnings
  cases trust with
  | none => exact congrArg₂ (· ++ ·) warned (certificates entries)
  | some trust =>
    have error : textOrNull.integers trust.error = [] := textOrNull_integers trust.error
    have diagnosis : diagnosisOrNull.integers trust.diagnosis = [] := by
      cases trust.diagnosis <;> rfl
    have together : (textOrNull.integers trust.error ++ diagnosisOrNull.integers trust.diagnosis) ++
        texts.integers warnings = [] := by rw [error, diagnosis, warned]; rfl
    exact congrArg₂ (· ++ ·) together (certificates entries)

/-- The integers of a result object. -/
theorem resultObject_integers (doc : ResultV2) : resultObject.integers doc =
    sizeOrNull.integers doc.key.size ++
      [doc.validity.daysToExpiry, doc.validity.totalDays, (doc.sctCount : Int)] := by
  have key : keyObject.integers doc.key = sizeOrNull.integers doc.key.size := by
    simp [keyObject, Fields.codec, Fields.key, Fields.none, texts_integers, Codec.text]
  have validity : validityObject.integers doc.validity =
      [doc.validity.daysToExpiry, doc.validity.totalDays] := rfl
  have count : Codec.natural.integers doc.sctCount = [(doc.sctCount : Int)] := rfl
  have pin : (doc.pinMatch.map Codec.flag.integers).getD [] = [] := integers_none (fun _ => rfl) _
  have status : statusText.integers doc.status = [] := rfl
  have word (value : String) : Codec.text.integers value = [] := rfl
  have flag (value : Bool) : Codec.flag.integers value = [] := rfl
  simp only [resultObject, Fields.codec, Fields.key, Fields.optionalKey, Fields.none, key, validity,
    count, pin, status, word, flag, textOrNull_integers, flagOrNull_integers, texts_integers,
    integers_none connectionObject_integers, integers_none chainObject_integers,
    integers_none revocationObject_integers, integers_none policyObject_integers,
    integers_none texts_integers, List.nil_append, List.append_nil, List.append_assoc,
    List.cons_append]

/-- The integers of an `info` dict. -/
theorem infoObject_integers (info : CertificateInfo) :
    infoObject.integers info = infoIntegers info := by
  have number (value : Int) : Codec.integer.integers value = [value] := rfl
  have count : Codec.natural.integers info.sctCount = [(info.sctCount : Int)] := rfl
  have status : statusText.integers info.status = [] := rfl
  have word (value : String) : Codec.text.integers value = [] := rfl
  have flag (value : Bool) : Codec.flag.integers value = [] := rfl
  have instant (value : Instant) : instantText.integers value = [] := rfl
  have flags (value : Option Bool) : (value.map Codec.flag.integers).getD [] = [] :=
    integers_none (fun _ => rfl) value
  have diagnosis : (info.chainDiagnosis.map diagnosisObject.integers).getD [] = [] :=
    integers_none (fun _ => rfl) _
  have revocation : (info.revocationStatus.map revocationText.integers).getD [] = [] :=
    integers_none (fun _ => rfl) _
  have chain : (info.chain.map summaryObject.list.integers).getD [] =
      (info.chain.getD []).map ChainSummary.serialNumber := by
    cases info.chain with
    | none => rfl
    | some links =>
      show links.flatMap (fun link => [link.serialNumber]) = links.map _
      exact List.flatMap_pure_eq_map _ links
  simp only [infoObject, Fields.codec, Fields.key, Fields.optionalKey, Fields.none, number, count,
    status, word, flag, instant, flags, diagnosis, revocation, chain, flagOrNull_integers,
    texts_integers, integers_none textOrNull_integers, integers_none texts_integers,
    List.nil_append, List.append_nil, List.append_assoc, List.cons_append, infoIntegers]

end Integers

/-! ### The two texts -/

section Texts

variable {results : List InspectionResult} {version text : String} {info : CertificateInfo}

/-- The documents of a batch, when nothing is refused. -/
def shownEnvelope (results : List InspectionResult) (version : String) : Envelope :=
  ⟨2, version, results.map fun result => shownResult result.label result.info⟩

theorem small_hasDecimal {n : Int} {digits : Nat} (few : digits ≤ maxStrDigits)
    (small : n.natAbs < 10 ^ digits) : HasDecimal n :=
  Nat.lt_of_lt_of_le small (Nat.pow_le_pow_right (by decide) few)

theorem dumps_write {α : Type} (codec : Codec α) (value : α) : dumps (codec.write value) =
    if ∀ n ∈ codec.integers value, HasDecimal n then
      .ok (String.ofList ((codec.write value).text 0)) else .error tooManyDigits := by
  have shown : (codec.write value).Numeric maxStrDigits ↔ ∀ n ∈ codec.integers value, HasDecimal n :=
    codec.numeric_iff (by decide) value
  unfold dumps
  by_cases few : ∀ n ∈ codec.integers value, HasDecimal n
  · rw [if_pos (shown.mpr few), if_pos few]
  · rw [if_neg fun numeric => few (shown.mp numeric), if_neg few]

/-- A text of `dumps` is read back, behind the line feed of `print`, too. -/
theorem readText_dumps {α : Type} {codec : Codec α} {value : α}
    (written : dumps (codec.write value) = .ok text) :
    codec.readText maxStrDigits (text ++ "\n").toList = some value := by
  rw [dumps_write] at written
  split at written
  · rename_i shown
    cases written
    have blank : ∀ c ∈ "\n".toList, isJsonSpace c = true := by
      intro c feed
      rw [List.mem_singleton.mp feed]
      decide
    rw [String.toList_append, String.toList_ofList]
    exact codec.readText_write (by decide) shown blank
  · cases written

/-- The integers of a record are its serial numbers, which schema 2 shows as strings, and those that
schema 2 shows as numbers. -/
theorem forall_infoIntegers (P : Int → Prop) (target : Option String) (info : CertificateInfo) :
    (∀ n ∈ infoIntegers info, P n) ↔
      (P info.serialNumber ∧ ∀ link ∈ info.chain.getD [], P link.serialNumber) ∧
        ∀ n ∈ resultObject.integers (shownResult target info), P n := by
  have rest : resultObject.integers (shownResult target info) = sizeOrNull.integers info.keySize ++
      [info.daysToExpire, info.validityDays, (info.sctCount : Int)] := resultObject_integers _
  unfold infoIntegers
  rw [rest]
  simp only [List.forall_mem_append, List.forall_mem_cons, List.forall_mem_map]
  constructor
  · rintro ⟨⟨⟨⟨serial, days, validity, _⟩, size⟩, count, _⟩, links⟩
    exact ⟨⟨serial, links⟩, size, days, validity, count, List.forall_mem_nil _⟩
  · rintro ⟨⟨serial, links⟩, size, days, validity, count, _⟩
    exact ⟨⟨⟨⟨serial, days, validity, List.forall_mem_nil _⟩, size⟩, count, List.forall_mem_nil _⟩,
      links⟩

theorem integersShown_iff (target : Option String) (info : CertificateInfo) : IntegersShown info ↔
    SerialsShown info ∧ ∀ n ∈ resultObject.integers (shownResult target info), HasDecimal n :=
  forall_infoIntegers HasDecimal target info

/-- **The text of schema 1, and the one way in which it is refused.** -/
theorem formatJson_eq : formatJson results =
    if ∀ result ∈ results, IntegersShown result.info then
      .ok (String.ofList ((infoObject.list.write (results.map InspectionResult.info)).text 0))
    else .error tooManyDigits := by
  have shown : (∀ n ∈ infoObject.list.integers (results.map InspectionResult.info), HasDecimal n) ↔
      ∀ result ∈ results, IntegersShown result.info := by
    show (∀ n ∈ (results.map InspectionResult.info).flatMap infoObject.integers, HasDecimal n) ↔ _
    rw [List.forall_mem_flatMap, List.forall_mem_map]
    exact forall₂_congr fun result _ => by rw [infoObject_integers]; rfl
  unfold formatJson
  rw [dumps_write]
  by_cases all : ∀ result ∈ results, IntegersShown result.info
  · rw [if_pos (shown.mpr all), if_pos all]
  · rw [if_neg fun few => all (shown.mp few), if_neg all]

/-- **The text of schema 2, and the one way in which it is refused.** -/
theorem formatJsonV2_eq : formatJsonV2 results version =
    if ∀ result ∈ results, IntegersShown result.info then
      .ok (String.ofList ((envelopeObject.write (shownEnvelope results version)).text 0))
    else .error tooManyDigits := by
  have split : (∀ result ∈ results, IntegersShown result.info) ↔
      (∀ result ∈ results, SerialsShown result.info) ∧
        ∀ n ∈ envelopeObject.integers (shownEnvelope results version), HasDecimal n := by
    have two : HasDecimal 2 := @small_hasDecimal 2 1 (by decide) (by decide)
    have objects : envelopeObject.integers (shownEnvelope results version) =
        2 :: results.flatMap fun result =>
          resultObject.integers (shownResult result.label result.info) := by
      show 2 :: (results.map fun result => shownResult result.label result.info).flatMap
        resultObject.integers = _
      rw [List.flatMap_map]
    rw [objects, List.forall_mem_cons, and_iff_right two, List.forall_mem_flatMap,
      ← forall₂_and]
    exact forall₂_congr fun result _ => integersShown_iff result.label result.info
  unfold formatJsonV2
  rw [mapM_eq_ite fun result : InspectionResult => resultToV2_eq result.label result.info]
  by_cases serials : ∀ result ∈ results, SerialsShown result.info
  · rw [if_pos serials, ok_bind, ← shownEnvelope, dumps_write]
    by_cases others : ∀ n ∈ envelopeObject.integers (shownEnvelope results version), HasDecimal n
    · rw [if_pos others, if_pos (split.mpr ⟨serials, others⟩)]
    · rw [if_neg others, if_neg fun shown => others (split.mp shown).2]
  · rw [if_neg serials, if_neg fun shown => serials (split.mp shown).1, error_bind]

/-- **The batch is read back from schema 2**, each record as its document has it. -/
theorem readDocumentV2_shownInfo (inspected : ∀ result ∈ results, Produced result)
    (written : formatJsonV2 results version = .ok text) :
    readDocumentV2 (text ++ "\n") =
      some (version, results.map fun result => (result.label, shownInfo result.info)) := by
  have dumped : dumps (envelopeObject.write (shownEnvelope results version)) = .ok text := by
    obtain ⟨objects, made, dumped⟩ := bind_ok_iff.mp written
    rw [mapM_eq_ite fun result : InspectionResult => resultToV2_eq result.label result.info] at made
    split at made
    · cases made
      exact dumped
    · cases made
  have each : (results.map fun result => shownResult result.label result.info).mapM
      (fun object => (readResult object).map fun info => (object.target, info)) =
      some (results.map fun result => (result.label, shownInfo result.info)) := by
    clear written dumped
    induction results with
    | nil => rfl
    | cons result rest ih =>
      obtain ⟨here, others⟩ := List.forall_mem_cons.mp inspected
      obtain ⟨lib, ω, place, target, port, opts, returned⟩ := here
      have read : readResult (shownResult result.label result.info) = some (shownInfo result.info) :=
        readResult_shownInfo (inspectIn_paired returned)
      rw [List.map_cons, List.mapM_cons, read, ih others]
      rfl
  unfold readDocumentV2
  rw [readText_dumps dumped]
  show ((results.map fun result => shownResult result.label result.info).mapM
    (fun object => (readResult object).map fun info => (object.target, info))).bind _ = _
  rw [each]
  rfl

/-- **The batch is read back from schema 2**, when all TLS versions are known. -/
theorem readDocumentV2_formatJsonV2 (inspected : ∀ result ∈ results, Produced result)
    (known : ∀ result ∈ results, VersionKnown result.info)
    (written : formatJsonV2 results version = .ok text) :
    readDocumentV2 (text ++ "\n") =
      some (version, results.map fun result => (result.label, result.info)) := by
  rw [readDocumentV2_shownInfo inspected written]
  refine congrArg (fun records => some (version, records)) (List.map_congr_left fun result member => ?_)
  obtain ⟨lib, ω, place, target, port, opts, returned⟩ := inspected result member
  rw [shownInfo_known (inspectIn_paired returned) (known result member)]

/-- **Both documents are read back to the batch**, and are refused for the same batches: those with an
integer of more digits than are converted. -/
theorem documents_exact (results : List InspectionResult) (version : String)
    (inspected : ∀ result ∈ results, Produced result)
    (known : ∀ result ∈ results, VersionKnown result.info) :
    ((∃ text, formatJsonV2 results version = .ok text) ↔
        ∀ result ∈ results, IntegersShown result.info) ∧
      ((∃ text, formatJson results = .ok text) ↔ ∀ result ∈ results, IntegersShown result.info) ∧
      (∀ text, formatJsonV2 results version = .ok text → readDocumentV2 (text ++ "\n") =
        some (version, results.map fun result => (result.label, result.info))) ∧
      ∀ text, formatJson results = .ok text →
        readDocument (text ++ "\n") = some (results.map InspectionResult.info) := by
  have answered {shown : Prop} [Decidable shown] {text : String} :
      (∃ written, (if shown then Except.ok text else .error tooManyDigits : Except PyErr String) =
        .ok written) ↔ shown := by
    by_cases holds : shown
    · rw [if_pos holds]
      exact iff_of_true ⟨text, rfl⟩ holds
    · rw [if_neg holds]
      exact iff_of_false (fun ⟨_, absurd⟩ => by cases absurd) holds
  refine ⟨?_, ?_, fun text written => readDocumentV2_formatJsonV2 inspected known written,
    fun text written => readText_dumps written⟩
  · rw [formatJsonV2_eq]
    exact answered
  · rw [formatJson_eq]
    exact answered

/-- The results of two local files, one of them labelled. -/
def fileResults : List InspectionResult :=
  [⟨none, serialInfo 7, .exit .ok⟩, ⟨some "leaf.pem", serialInfo 8, .exit .ok⟩]

theorem fileResults_produced : ∀ result ∈ fileResults, Produced result := by
  refine List.forall_mem_cons.mpr ⟨?_, List.forall_mem_singleton.mpr ?_⟩
  · exact ⟨serialReader 7, _, sampleMachine 0, none, 443, fileOptions, inspected_serial 7⟩
  · exact ⟨serialReader 8, _, sampleMachine 0, none, 443, fileOptions, inspected_serial 8⟩

theorem documents_exact_files :
    ((∃ text, formatJsonV2 fileResults "2.4.5" = .ok text) ↔
        ∀ result ∈ fileResults, IntegersShown result.info) ∧
      ((∃ text, formatJson fileResults = .ok text) ↔
        ∀ result ∈ fileResults, IntegersShown result.info) ∧
      (∀ text, formatJsonV2 fileResults "2.4.5" = .ok text → readDocumentV2 (text ++ "\n") =
        some ("2.4.5", fileResults.map fun result => (result.label, result.info))) ∧
      ∀ text, formatJson fileResults = .ok text →
        readDocument (text ++ "\n") = some (fileResults.map InspectionResult.info) :=
  documents_exact fileResults "2.4.5" fileResults_produced
    (List.forall_mem_cons.mpr ⟨Or.inl rfl, List.forall_mem_singleton.mpr (Or.inl rfl)⟩)

end Texts

end Certinspect.Formatter
