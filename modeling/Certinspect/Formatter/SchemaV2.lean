/-
**The nested document of one result, `_result_to_v2`.**

Related keys of the flat `info` dict go into sections, and a section appears when its check ran. Every
record keeps the keys of one check together, so what a missing section stood for is known, and dates
and serial numbers are read back from their texts.

* `ResultV2` — the document; `resultToV2` — how it is made of a record.
* `readResult` — the record that a document was made of.
* `resultToV2_eq` — the document, and the one way in which it is refused.
* `readResult_shown` — the record is read back.
* **`resultToV2_exact`** — nothing is lost, and nothing fails but a serial number of more digits than
  `str` writes.
-/

import Certinspect.Cli.Batch
import Certinspect.Cli.Records
import Certinspect.Display
import Certinspect.Isoformat
import Certinspect.Parser.Addresses

namespace Certinspect.Formatter

open Library Cli

/-! ### The document -/

/-- One certificate of the chain. -/
structure ChainCertificateV2 where
  subject : String
  issuer : String
  notAfter : String
  serialNumber : String
  isCa : Bool
  deriving DecidableEq, Repr

/-- The section `key`. -/
structure KeyV2 where
  type : String
  size : Option Nat
  signatureAlgorithm : String
  usage : List String
  extendedUsage : List String
  weak : List String
  deriving DecidableEq, Repr

/-- The section `validity`. -/
structure ValidityV2 where
  notBefore : String
  notAfter : String
  daysToExpiry : Int
  totalDays : Int
  deriving DecidableEq, Repr

/-- The section `connection`. -/
structure ConnectionV2 where
  tlsVersion : String
  cipher : Option String
  deriving DecidableEq, Repr

/-- The keys `trusted`, `error` and `diagnosis` of the section `chain`. -/
structure TrustV2 where
  trusted : Bool
  error : Option String
  diagnosis : Option ChainDiagnosis
  deriving DecidableEq, Repr

/-- The section `chain`. -/
structure ChainV2 where
  trust : Option TrustV2
  warnings : List String
  certificates : Option (List ChainCertificateV2)
  deriving DecidableEq, Repr

/-- The section `revocation`. -/
structure RevocationV2 where
  status : RevocationStatus
  detail : Option String
  deriving DecidableEq, Repr

/-- A result object of schema 2; sections and keys that may be missing come last. -/
structure ResultV2 where
  target : Option String
  status : Status
  subject : String
  issuer : String
  serialNumber : String
  fingerprintSha256 : String
  selfSigned : Bool
  isCa : Bool
  san : List String
  key : KeyV2
  validity : ValidityV2
  sctCount : Nat
  mustStaple : Bool
  hostnameMatch : Option Bool
  connection : Option ConnectionV2
  chain : Option ChainV2
  revocation : Option RevocationV2
  policy : Option (List String)
  pinMatch : Option Bool
  expectedSanMissing : Option (List String)
  deriving DecidableEq, Repr

/-! ### How it is made -/

/-- `_chain_certificate_v2`. -/
def chainCertificateV2 (link : ChainSummary) : Except PyErr ChainCertificateV2 := do
  let serialNumber ← strInt link.serialNumber
  pure ⟨link.subject, link.issuer, link.notValidAfter.isoformat, serialNumber, link.isCa⟩

/-- `if info.get("tls_version")`. -/
def connectionV2 (info : CertificateInfo) : Option ConnectionV2 :=
  (given info.tlsVersion.join).map fun tlsVersion => ⟨tlsVersion, info.cipher.join⟩

/-- `if "chain_trusted" in info or "chain" in info or "chain_warnings" in info`. -/
def chainV2 (info : CertificateInfo) : Except PyErr (Option ChainV2) := do
  if info.chainTrusted.isSome || info.chain.isSome || info.chainWarnings.isSome then
    let trust := info.chainTrusted.map fun trusted =>
      ⟨trusted, info.chainError.join, info.chainDiagnosis⟩
    let warnings := info.chainWarnings.getD []
    match info.chain with
    | none => pure (some ⟨trust, warnings, none⟩)
    | some links => do
      let certificates ← links.mapM chainCertificateV2
      pure (some ⟨trust, warnings, some certificates⟩)
  else pure none

/-- `if info.get("revocation_status")`; no status is empty. -/
def revocationV2 (info : CertificateInfo) : Option RevocationV2 :=
  info.revocationStatus.map fun status => ⟨status, info.revocationDetail.join⟩

/-- The result object, from its serial number and its section `chain` on. -/
def objectV2 (target : Option String) (info : CertificateInfo) (serialNumber : String)
    (chain : Option ChainV2) : ResultV2 where
  target := target
  status := info.status
  subject := info.subject
  issuer := info.issuer
  serialNumber := serialNumber
  fingerprintSha256 := info.fingerprintSha256
  selfSigned := info.selfSigned
  isCa := info.isCa
  san := info.san
  key := ⟨info.keyType, info.keySize, info.signatureAlgorithm, info.keyUsage, info.extendedKeyUsage,
    info.weak⟩
  validity := ⟨info.notValidBefore.isoformat, info.notValidAfter.isoformat, info.daysToExpire,
    info.validityDays⟩
  sctCount := info.sctCount
  mustStaple := info.mustStaple
  hostnameMatch := info.hostnameMatch
  connection := connectionV2 info
  chain := chain
  revocation := revocationV2 info
  policy := info.policyViolations
  pinMatch := info.pinMatch
  expectedSanMissing := info.expectedSanMissing

/-- `_result_to_v2`. -/
def resultToV2 (target : Option String) (info : CertificateInfo) : Except PyErr ResultV2 := do
  let serialNumber ← strInt info.serialNumber
  let chain ← chainV2 info
  pure (objectV2 target info serialNumber chain)

/-! ### How it is read -/

/-- The chain certificate that an entry was made of. -/
def readCertificate (entry : ChainCertificateV2) : Option ChainSummary := do
  let notValidAfter ← Instant.ofIsoformat entry.notAfter
  let serialNumber ← readInt entry.serialNumber.toList
  pure ⟨entry.subject, entry.issuer, notValidAfter, serialNumber, entry.isCa⟩

/-- The displayed chain that a document was made of; outside `none`, inside absent. -/
def readCertificates (doc : ResultV2) : Option (Option (List ChainSummary)) :=
  match doc.chain.bind ChainV2.certificates with
  | none => some none
  | some entries => (entries.mapM readCertificate).map some

/-- The record that a document was made of. -/
def readResult (doc : ResultV2) : Option CertificateInfo := do
  let notValidBefore ← Instant.ofIsoformat doc.validity.notBefore
  let notValidAfter ← Instant.ofIsoformat doc.validity.notAfter
  let serialNumber ← readInt doc.serialNumber.toList
  let chain ← readCertificates doc
  let trust := doc.chain.bind ChainV2.trust
  let warnings := (doc.chain.map ChainV2.warnings).getD []
  pure
    { subject := doc.subject
      issuer := doc.issuer
      notValidBefore
      notValidAfter
      serialNumber
      signatureAlgorithm := doc.key.signatureAlgorithm
      daysToExpire := doc.validity.daysToExpiry
      validityDays := doc.validity.totalDays
      keyType := doc.key.type
      keySize := doc.key.size
      san := doc.san
      fingerprintSha256 := doc.fingerprintSha256
      isCa := doc.isCa
      selfSigned := doc.selfSigned
      keyUsage := doc.key.usage
      extendedKeyUsage := doc.key.extendedUsage
      sctCount := doc.sctCount
      mustStaple := doc.mustStaple
      weak := doc.key.weak
      status := doc.status
      hostnameMatch := doc.hostnameMatch
      tlsVersion := doc.connection.map fun connection => some connection.tlsVersion
      cipher := doc.connection.map ConnectionV2.cipher
      chainTrusted := trust.map TrustV2.trusted
      chainError := trust.map TrustV2.error
      chainDiagnosis := trust.bind TrustV2.diagnosis
      chainWarnings := if warnings = [] then none else some warnings
      chain
      revocationStatus := doc.revocation.map RevocationV2.status
      revocationDetail := doc.revocation.map RevocationV2.detail
      pinMatch := doc.pinMatch
      expectedSanMissing := doc.expectedSanMissing
      policyViolations := doc.policy }

/-! ### The document in closed form -/

section Shown

variable {target : Option String} {info : CertificateInfo} {link : ChainSummary}

/-- No serial number has more digits than `str` writes. -/
def SerialsShown (info : CertificateInfo) : Prop :=
  HasDecimal info.serialNumber ∧ ∀ link ∈ info.chain.getD [], HasDecimal link.serialNumber

instance : DecidablePred SerialsShown := fun _ => inferInstanceAs (Decidable (_ ∧ _))

/-- The entry of a chain certificate. -/
def shownCertificate (link : ChainSummary) : ChainCertificateV2 :=
  ⟨link.subject, link.issuer, link.notValidAfter.isoformat, toString link.serialNumber, link.isCa⟩

/-- The section of the chain. -/
def shownChain (info : CertificateInfo) : Option ChainV2 :=
  if info.chainTrusted.isSome || info.chain.isSome || info.chainWarnings.isSome then
    some ⟨info.chainTrusted.map fun trusted => ⟨trusted, info.chainError.join, info.chainDiagnosis⟩,
      info.chainWarnings.getD [], info.chain.map (List.map shownCertificate)⟩
  else none

theorem chainCertificateV2_eq (link : ChainSummary) : chainCertificateV2 link =
    if HasDecimal link.serialNumber then .ok (shownCertificate link) else .error tooManyDigits := by
  unfold chainCertificateV2 strInt
  split <;> rfl

theorem chainV2_eq (info : CertificateInfo) : chainV2 info =
    if ∀ link ∈ info.chain.getD [], HasDecimal link.serialNumber then .ok (shownChain info)
    else .error tooManyDigits := by
  unfold chainV2 shownChain
  cases chain : info.chain with
  | none =>
    have shown : ∀ link ∈ (none : Option (List ChainSummary)).getD [], HasDecimal link.serialNumber :=
      List.forall_mem_nil _
    rw [if_pos shown]
    split <;> rfl
  | some links =>
    have present : (info.chainTrusted.isSome || (some links).isSome || info.chainWarnings.isSome) =
        true := by simp
    rw [if_pos present, if_pos present]
    dsimp only [Option.getD_some]
    rw [mapM_eq_ite chainCertificateV2_eq]
    split <;> rfl

/-- The document when nothing is refused. -/
def shownResult (target : Option String) (info : CertificateInfo) : ResultV2 :=
  objectV2 target info (toString info.serialNumber) (shownChain info)

/-- **The document, and the one way in which it is refused.** -/
theorem resultToV2_eq (target : Option String) (info : CertificateInfo) : resultToV2 target info =
    if SerialsShown info then .ok (shownResult target info) else .error tooManyDigits := by
  unfold resultToV2 strInt
  rw [chainV2_eq]
  by_cases own : HasDecimal info.serialNumber
  · by_cases linked : ∀ link ∈ info.chain.getD [], HasDecimal link.serialNumber
    · have shown : SerialsShown info := ⟨own, linked⟩
      rw [if_pos own, if_pos linked, if_pos shown]
      rfl
    · have refused : ¬ SerialsShown info := fun shown => linked shown.2
      rw [if_pos own, if_neg linked, if_neg refused]
      rfl
  · have refused : ¬ SerialsShown info := fun shown => own shown.1
    rw [if_neg own, if_neg refused]
    rfl

theorem resultToV2_ok_iff {doc : ResultV2} : resultToV2 target info = .ok doc ↔
    SerialsShown info ∧ doc = shownResult target info := by
  rw [resultToV2_eq]
  by_cases shown : SerialsShown info
  · rw [if_pos shown, and_iff_right shown, Except.ok.injEq]
    exact eq_comm
  · rw [if_neg shown]
    exact iff_of_false (fun absurd => by cases absurd) fun both => shown both.1

end Shown

/-! ### Nothing is lost -/

section Read

variable {target : Option String} {info : CertificateInfo}

/-- The info of a local file, or of a handshake with a known TLS version. -/
def VersionKnown (info : CertificateInfo) : Prop :=
  info.tlsVersion = none ∨ ∃ version, version ≠ "" ∧ info.tlsVersion = some (some version)

theorem readInt_toString (n : Int) : readInt (toString n).toList = some n :=
  readInt_repr 0 n

theorem readCertificate_shown (link : ChainSummary) :
    readCertificate (shownCertificate link) = some link := by
  unfold readCertificate shownCertificate
  rw [Instant.ofIsoformat_isoformat, readInt_toString]
  rfl

/-- The displayed chain is read back, and so is its absence. -/
theorem readCertificates_shown : readCertificates (shownResult target info) = some info.chain := by
  have each (links : List ChainSummary) :
      (links.map shownCertificate).mapM readCertificate = some links := by
    induction links with
    | nil => rfl
    | cons link rest ih =>
      rw [List.map_cons, List.mapM_cons, readCertificate_shown, ih]
      rfl
  have section' : (shownChain info).bind ChainV2.certificates =
      info.chain.map (List.map shownCertificate) := by
    unfold shownChain
    cases info.chain with
    | none => split <;> rfl
    | some links => simp
  unfold readCertificates shownResult objectV2
  dsimp only
  rw [section']
  cases info.chain with
  | none => rfl
  | some links =>
    dsimp only [Option.map_some]
    rw [each]
    rfl

theorem warnings_shown :
    ((shownChain info).map ChainV2.warnings).getD [] = info.chainWarnings.getD [] := by
  unfold shownChain
  cases info.chainWarnings with
  | none => split <;> rfl
  | some warnings => simp

theorem readWarnings_shown (paired : Paired info) :
    (if info.chainWarnings.getD [] = [] then none else some (info.chainWarnings.getD [])) =
      info.chainWarnings := by
  cases warned : info.chainWarnings with
  | none => rfl
  | some warnings =>
    have some : warnings ≠ [] := fun none => paired.warnings (none ▸ warned)
    exact if_neg some

/-- A key that is there whenever another one is. -/
theorem map_join {α β : Type} {lead : Option α} {key : Option (Option β)}
    (together : key.isSome = lead.isSome) : (lead.map fun _ => key.join) = key := by
  cases lead <;> cases key <;> simp_all

theorem connection_shown (paired : Paired info) (known : VersionKnown info) :
    ((connectionV2 info).map fun connection => some connection.tlsVersion) = info.tlsVersion ∧
      (connectionV2 info).map ConnectionV2.cipher = info.cipher := by
  have together := map_join paired.cipher
  unfold connectionV2
  rcases known with absent | ⟨version, filled, here⟩
  · rw [absent] at together ⊢
    exact ⟨rfl, together⟩
  · rw [here] at together ⊢
    have shown : given (some (some version)).join = some version := by simp [given, filled]
    rw [shown]
    exact ⟨rfl, together⟩

/-- The verdict on the chain is read back. -/
theorem trust_shown (paired : Paired info) :
    ((shownChain info).bind ChainV2.trust).map TrustV2.trusted = info.chainTrusted ∧
      ((shownChain info).bind ChainV2.trust).map TrustV2.error = info.chainError ∧
      ((shownChain info).bind ChainV2.trust).bind TrustV2.diagnosis = info.chainDiagnosis := by
  have together := map_join paired.error
  unfold shownChain
  cases verdict : info.chainTrusted with
  | none =>
    rw [verdict] at together
    rw [paired.diagnosis verdict, ← together]
    split
    · exact ⟨rfl, rfl, rfl⟩
    · exact ⟨rfl, rfl, rfl⟩
  | some trusted =>
    rw [verdict] at together
    exact ⟨rfl, together, rfl⟩

/-- The outcome of the revocation check is read back. -/
theorem revocation_shown (paired : Paired info) :
    (revocationV2 info).map RevocationV2.status = info.revocationStatus ∧
      (revocationV2 info).map RevocationV2.detail = info.revocationDetail := by
  have together := map_join paired.detail
  unfold revocationV2
  cases asked : info.revocationStatus with
  | none =>
    rw [asked] at together
    exact ⟨rfl, together⟩
  | some status =>
    rw [asked] at together
    exact ⟨rfl, together⟩

/-- The record as its document has it: of a handshake without a known TLS version nothing is shown. -/
def shownInfo (info : CertificateInfo) : CertificateInfo :=
  { info with
    tlsVersion := (connectionV2 info).map fun connection => some connection.tlsVersion
    cipher := (connectionV2 info).map ConnectionV2.cipher }

/-- **The record is read back from its document**, but for a TLS version that is not known. -/
theorem readResult_shownInfo (paired : Paired info) :
    readResult (shownResult target info) = some (shownInfo info) := by
  obtain ⟨chainTrusted, chainError, chainDiagnosis⟩ := trust_shown paired
  obtain ⟨revocationStatus, revocationDetail⟩ := revocation_shown paired
  have chainWarnings := readWarnings_shown paired
  unfold readResult
  rw [readCertificates_shown]
  unfold shownResult objectV2
  dsimp only
  rw [Instant.ofIsoformat_isoformat, Instant.ofIsoformat_isoformat, readInt_toString, chainTrusted,
    chainError, chainDiagnosis, warnings_shown, chainWarnings, revocationStatus, revocationDetail]
  rfl

theorem shownInfo_known (paired : Paired info) (known : VersionKnown info) : shownInfo info = info := by
  obtain ⟨tlsVersion, cipher⟩ := connection_shown paired known
  unfold shownInfo
  rw [tlsVersion, cipher]

/-- **The record is read back from its document.** -/
theorem readResult_shown (paired : Paired info) (known : VersionKnown info) :
    readResult (shownResult target info) = some info := by
  rw [readResult_shownInfo paired, shownInfo_known paired known]

/-- **Nothing is lost, and nothing fails but a serial number of more digits than `str` writes.** -/
theorem resultToV2_exact (lib otherLib : Cryptography) {ω ω' : Type} (place : Surroundings ω)
    (otherPlace : Surroundings ω') (target otherTarget : Option String) (port otherPort : Int)
    (opts otherOpts : InspectOptions) (label : Option String) (info otherInfo : CertificateInfo)
    (code otherCode : Code) (returned : inspectIn lib place target port opts = .ok (info, code))
    (otherReturned : inspectIn otherLib otherPlace otherTarget otherPort otherOpts =
      .ok (otherInfo, otherCode))
    (known : VersionKnown info) (otherKnown : VersionKnown otherInfo) :
    ((∃ doc otherDoc, resultToV2 label info = .ok doc ∧ resultToV2 label otherInfo = .ok otherDoc ∧
        (doc = otherDoc → info = otherInfo)) ↔ SerialsShown info ∧ SerialsShown otherInfo) ∧
      ∀ doc, resultToV2 label info = .ok doc → readResult doc = some info := by
  have read (target : Option String) : readResult (shownResult target info) = some info :=
    readResult_shown (inspectIn_paired returned) known
  have otherRead : readResult (shownResult label otherInfo) = some otherInfo :=
    readResult_shown (inspectIn_paired otherReturned) otherKnown
  refine ⟨⟨?_, ?_⟩, ?_⟩
  · rintro ⟨doc, otherDoc, made, otherMade, _⟩
    exact ⟨(resultToV2_ok_iff.mp made).1, (resultToV2_ok_iff.mp otherMade).1⟩
  · rintro ⟨shown, otherShown⟩
    refine ⟨_, _, resultToV2_ok_iff.mpr ⟨shown, rfl⟩, resultToV2_ok_iff.mpr ⟨otherShown, rfl⟩, ?_⟩
    intro same
    have both : some info = some otherInfo := by rw [← read label, same, otherRead]
    exact Option.some.inj both
  · intro doc made
    rw [(resultToV2_ok_iff.mp made).2]
    exact read label

/-! ### A serial number -/

/-- A certificate with a serial number. -/
def numbered (serialNumber : Int) : Certificate := { Revocation.sampleLeaf [] with serialNumber }

/-- The package, when every file holds that certificate. -/
def serialReader (serialNumber : Int) : Cryptography :=
  { sampleReader with loadDerX509Certificate := fun _ => .ok (numbered serialNumber) }

/-- `certinspect --no-verify --file leaf.pem`. -/
def fileOptions : InspectOptions := { file := some "leaf.pem", verify := false }

/-- The info of that file. -/
def serialInfo (serialNumber : Int) : CertificateInfo :=
  describe 0 (Parser.sampleInfo (numbered serialNumber)) none none fileOptions

theorem inspected_serial (serialNumber : Int) :
    inspectIn (serialReader serialNumber) (sampleMachine 0) none 443 fileOptions =
      .ok (serialInfo serialNumber, .exit .ok) := by
  rfl

theorem resultToV2_exact_sample :
    ((∃ doc otherDoc, resultToV2 none (serialInfo 7) = .ok doc ∧
        resultToV2 none (serialInfo 8) = .ok otherDoc ∧
        (doc = otherDoc → serialInfo 7 = serialInfo 8)) ↔
      SerialsShown (serialInfo 7) ∧ SerialsShown (serialInfo 8)) ∧
      ∀ doc, resultToV2 none (serialInfo 7) = .ok doc → readResult doc = some (serialInfo 7) :=
  resultToV2_exact (serialReader 7) (serialReader 8) (sampleMachine 0) (sampleMachine 0) none none
    443 443 fileOptions fileOptions none (serialInfo 7) (serialInfo 8) (.exit .ok) (.exit .ok)
    (inspected_serial 7) (inspected_serial 8) (Or.inl rfl) (Or.inl rfl)

/-- The least serial number with too many digits. -/
def longSerial : Int := ((10 ^ maxStrDigits : Nat) : Int)

/-- A local file whose serial number has 4301 digits is inspected, and has no document. -/
theorem resultToV2_exact_counterexample :
    inspectIn (serialReader longSerial) (sampleMachine 0) none 443 fileOptions =
        .ok (serialInfo longSerial, .exit .ok) ∧
      VersionKnown (serialInfo longSerial) ∧
      resultToV2 none (serialInfo longSerial) = .error tooManyDigits := by
  have long : ¬ HasDecimal longSerial := Nat.lt_irrefl _
  have own : (serialInfo longSerial).serialNumber = longSerial := rfl
  have refused : ¬ SerialsShown (serialInfo longSerial) := fun shown => long (own ▸ shown.1)
  exact ⟨inspected_serial longSerial, Or.inl rfl, by rw [resultToV2_eq, if_neg refused]⟩

end Read

end Certinspect.Formatter
