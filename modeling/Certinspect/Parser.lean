/-
**Reading a certificate, `parser.py`.**

`analyze` reads a certificate into an `Analysis`; the checks are pure functions of that. An extension
or the public key may be unreadable, so what reads one is an `Except`. The clock is an argument.

* `loadCertificate`, `loadCertificates` — from bytes, DER first and then PEM.
* `analyze`, `certificateStatus`, `hostnameMatches`, `missingSanNames`, `pinMatches`,
  `policyViolations` — the checks of one certificate.
* `chainExpiryWarnings`, `diagnoseChain`, `chainSummary` — the checks of a chain.
* `analyze_error_iff` — `analyze` raises exactly what `.extensions` or `public_key()` raises.
-/

import Certinspect.Models

namespace Certinspect.Parser

open Library

/-! ### Names of object identifiers -/

/-- `_SIGNATURE_ALGORITHM_NAMES`. -/
def signatureAlgorithmNames : List (String × String) :=
  [("1.2.840.113549.1.1.4", "md5WithRSAEncryption"),
    ("1.2.840.113549.1.1.5", "sha1WithRSAEncryption"),
    ("1.2.840.113549.1.1.14", "sha224WithRSAEncryption"),
    ("1.2.840.113549.1.1.11", "sha256WithRSAEncryption"),
    ("1.2.840.113549.1.1.12", "sha384WithRSAEncryption"),
    ("1.2.840.113549.1.1.13", "sha512WithRSAEncryption"),
    ("1.2.840.113549.1.1.10", "rsassaPss"),
    ("1.2.840.10045.4.1", "ecdsa-with-SHA1"),
    ("1.2.840.10045.4.3.1", "ecdsa-with-SHA224"),
    ("1.2.840.10045.4.3.2", "ecdsa-with-SHA256"),
    ("1.2.840.10045.4.3.3", "ecdsa-with-SHA384"),
    ("1.2.840.10045.4.3.4", "ecdsa-with-SHA512"),
    ("1.2.840.10040.4.3", "dsa-with-sha1"),
    ("2.16.840.1.101.3.4.3.1", "dsa-with-sha224"),
    ("2.16.840.1.101.3.4.3.2", "dsa-with-sha256"),
    ("1.3.101.112", "ed25519"),
    ("1.3.101.113", "ed448")]

/-- `_EXTENDED_KEY_USAGE_NAMES`. -/
def extendedKeyUsageNames : List (String × String) :=
  [("1.3.6.1.5.5.7.3.1", "serverAuth"),
    ("1.3.6.1.5.5.7.3.2", "clientAuth"),
    ("1.3.6.1.5.5.7.3.3", "codeSigning"),
    ("1.3.6.1.5.5.7.3.4", "emailProtection"),
    ("1.3.6.1.5.5.7.3.8", "timeStamping"),
    ("1.3.6.1.5.5.7.3.9", "OCSPSigning"),
    ("2.5.29.37.0", "anyExtendedKeyUsage"),
    ("1.3.6.1.4.1.11129.2.4.4", "certificateTransparency"),
    ("1.3.6.1.5.5.7.3.17", "ipsecIKE"),
    ("1.3.6.1.5.2.3.5", "pkInitKDC"),
    ("1.3.6.1.4.1.311.20.2.2", "msSmartcardLogin")]

/-- `_oid_name`. -/
def oidName (oid : String) (names : List (String × String)) : String :=
  (names.lookup oid).getD oid

/-! ### Names and fingerprints -/

/-- `_name_matches`. -/
def nameMatches (pattern hostname : String) : Bool :=
  let pattern := lower pattern
  let hostname := lower hostname
  if startsWith pattern "*." then
    let (head, tail) := partition '.' hostname
    head != "" && tail.toList == pattern.toList.drop 2
  else pattern == hostname

/-- `hostname_matches`. -/
def hostnameMatches (info : Analysis) (hostname : String) : Bool :=
  info.san.any fun name => nameMatches name hostname

/-- `missing_san_names`. -/
def missingSanNames (info : Analysis) (expected : List String) : List String :=
  expected.filter fun name => !hostnameMatches info name

/-- `format_fingerprint`. -/
def formatFingerprint (cert : Certificate) : String :=
  ":".intercalate (cert.fingerprintSha256.map fun byte =>
    String.ofList (hexDigits "0123456789ABCDEF" byte))

/-- `pin_matches`. -/
def pinMatches (info : Analysis) (pin : String) : Bool :=
  lower (without ':' info.fingerprintSha256) == lower (without ':' pin)

/-- `NameOID.COMMON_NAME`. -/
def commonNameOid : String := "2.5.4.3"

/-- The values of the Common Name attributes. -/
def commonNames (name : X509Name) : List AttributeValue :=
  (name.attributes.filter fun entry => entry.1 == commonNameOid).map Prod.snd

/-- `common_name`. -/
def commonName (name : X509Name) : String :=
  match commonNames name with
  | .text value :: _ => value
  | _ => name.rfc4514

/-- `_short_name`. -/
def shortName (cert : Certificate) : String := commonName cert.subject

/-! ### URLs and flags of a certificate -/

/-- `AuthorityInformationAccessOID.OCSP`. -/
def ocspOid : String := "1.3.6.1.5.5.7.48.1"

/-- `AuthorityInformationAccessOID.CA_ISSUERS`. -/
def caIssuersOid : String := "1.3.6.1.5.5.7.48.2"

/-- The access locations with one access method, in order, whatever their type. -/
def locationsFor (accessMethod : String) (aia : List AccessDescription) : List PyValue :=
  (aia.filter fun desc => desc.accessMethod == accessMethod).map fun desc =>
    desc.accessLocation.value

/-- `aia_urls`: the OCSP and the CA Issuers locations. -/
def aiaUrls (cert : Certificate) : Except PyErr (List PyValue × List PyValue) := do
  match ← findExtension ExtensionValue.authorityInformationAccess? cert.extensions with
  | none => pure ([], [])
  | some aia => pure (locationsFor ocspOid aia, locationsFor caIssuersOid aia)

/-- `is_ca_certificate`. -/
def isCaCertificate (cert : Certificate) : Except PyErr Bool := do
  match ← findExtension ExtensionValue.basicConstraints? cert.extensions with
  | none => pure false
  | some ca => pure ca

/-- `_key_usage`. -/
def keyUsage (cert : Certificate) : Except PyErr (List String) := do
  match ← findExtension ExtensionValue.keyUsage? cert.extensions with
  | none => pure []
  | some ku =>
    let flags := [(ku.digitalSignature, "digital_signature"),
      (ku.contentCommitment, "content_commitment"), (ku.keyEncipherment, "key_encipherment"),
      (ku.dataEncipherment, "data_encipherment"), (ku.keyAgreement, "key_agreement"),
      (ku.keyCertSign, "key_cert_sign"), (ku.crlSign, "crl_sign"),
      (ku.keyAgreement && ku.encipherOnly, "encipher_only"),
      (ku.keyAgreement && ku.decipherOnly, "decipher_only")]
    pure ((flags.filter Prod.fst).map Prod.snd)

/-- `_extended_key_usage`. -/
def extendedKeyUsage (cert : Certificate) : Except PyErr (List String) := do
  match ← findExtension ExtensionValue.extendedKeyUsage? cert.extensions with
  | none => pure []
  | some eku => pure (eku.map fun oid => oidName oid extendedKeyUsageNames)

/-- `_sct_count`. -/
def sctCount (cert : Certificate) : Except PyErr Nat := do
  match ← findExtension ExtensionValue.precertificateSignedCertificateTimestamps?
      cert.extensions with
  | none => pure 0
  | some count => pure count

/-- `_must_staple`. -/
def mustStaple (cert : Certificate) : Except PyErr Bool := do
  match ← findExtension ExtensionValue.tlsFeature? cert.extensions with
  | none => pure false
  | some statusRequest => pure statusRequest

/-- `get_values_for_type(x509.DNSName)`. -/
def dnsNames (names : List GeneralName) : List String :=
  names.filterMap fun
    | .dnsName value => some value
    | _ => none

/-- `get_values_for_type(x509.IPAddress)`. -/
def ipAddresses (names : List GeneralName) : List IpAddress :=
  names.filterMap fun
    | .ipAddress value => some value
    | _ => none

/-- The SAN names of `analyze`: the DNS names, then the addresses as text. -/
def sanNames (cert : Certificate) : Except PyErr (List String) := do
  match ← findExtension ExtensionValue.subjectAlternativeName? cert.extensions with
  | none => pure []
  | some names => pure (dnsNames names ++ (ipAddresses names).map IpAddress.str)

/-! ### Keys -/

/-- `_weak_key`. -/
def weakKey (key : PublicKey) : Option String :=
  match key.family, key.keySize with
  | .ec, some size => if size < 256 then some s!"Weak EC key ({size} bit)" else none
  | .rsa, some size | .dsa, some size =>
    if size < 2048 then some s!"Weak key ({size} bit)" else none
  | _, _ => none

/-- `_SIZE_CHECKED_KEY_TYPES`. -/
def sizeCheckedKeyTypes : List String := ["RSA", "DSA"]

/-- `_key_type`. -/
def keyType (key : PublicKey) : String :=
  match key.family with
  | .rsa => "RSA"
  | .ec => "EC"
  | .dsa => "DSA"
  | .ed25519 => "Ed25519"
  | .ed448 => "Ed448"
  | .other className => className

/-! ### Loading -/

section Loading

variable (lib : Cryptography)

/-- `raise CertificateLoadError(message)`. -/
def certificateLoadError {α : Type} (message : String) : Except PyErr α :=
  .error ⟨.certificateLoadError, message⟩

/-- `load_certificate`. -/
def loadCertificate (data : Bytes) : Except PyErr Certificate := do
  if data = [] then certificateLoadError "There is no certificate to load."
  else match ← exceptPure [.valueError] (lib.loadDerX509Certificate data) with
    | .ok cert => pure cert
    | .error _ => lib.loadPemX509Certificate data

/-- `load_certificates`. -/
def loadCertificates (data : Bytes) : Except PyErr (List Certificate) := do
  if data = [] then certificateLoadError "There is no certificate to load."
  else match ← exceptPure [.valueError] (lib.loadDerX509Certificate data) with
    | .ok cert => pure [cert]
    | .error _ =>
      match ← exceptPure [.valueError] (lib.loadPemX509Certificates data) with
      | .error exc =>
        certificateLoadError s!"The certificate could not be parsed: {exc.message}"
      | .ok [] => certificateLoadError "There is no certificate to load."
      | .ok certs => pure certs

/-- A text cut into lines of 64 characters, each with its line end. -/
def pemLines (text : List Char) : String :=
  String.join ((text.toChunks 64).map fun line => String.ofList (line ++ ['\n']))

/-- `to_pem`: the PEM form of the encoding. -/
def toPem (cert : Certificate) : Bytes :=
  ascii ("-----BEGIN CERTIFICATE-----\n" ++ pemLines (base64Encode cert.der) ++
    "-----END CERTIFICATE-----\n")

end Loading

/-! ### One certificate -/

/-- The warnings of `analyze`: a weak key, a weak signature. -/
def weaknesses (key : PublicKey) (sigName : String) : List String :=
  (weakKey key).toList ++
    if occursIn "sha1" (lower sigName) || occursIn "md5" (lower sigName) then
      [s!"Weak signature ({sigName})"]
    else []

/-- `analyze`. -/
def analyze (now : Instant) (cert : Certificate) : Except PyErr Analysis := do
  let san ← sanNames cert
  let isCa ← isCaCertificate cert
  let key ← cert.publicKey
  let keyUsage ← keyUsage cert
  let extendedKeyUsage ← extendedKeyUsage cert
  let sctCount ← sctCount cert
  let mustStaple ← mustStaple cert
  let sigName := oidName cert.signatureAlgorithmOid signatureAlgorithmNames
  pure {
    subject := cert.subject.rfc4514
    issuer := cert.issuer.rfc4514
    notValidBefore := cert.notValidBefore
    notValidAfter := cert.notValidAfter
    serialNumber := cert.serialNumber
    signatureAlgorithm := sigName
    daysToExpire := Instant.daysBetween now cert.notValidAfter
    validityDays := Instant.daysBetween cert.notValidBefore cert.notValidAfter
    keyType := keyType key
    keySize := key.keySize
    san := san
    fingerprintSha256 := formatFingerprint cert
    isCa := isCa
    selfSigned := cert.subject == cert.issuer
    keyUsage := keyUsage
    extendedKeyUsage := extendedKeyUsage
    sctCount := sctCount
    mustStaple := mustStaple
    weak := weaknesses key sigName }

/-- `certificate_status`. -/
def certificateStatus (now : Instant) (info : Analysis) (warnDays : Int)
    (criticalDays : Option Int) : Status :=
  if info.notValidBefore > info.notValidAfter then .invalidDates
  else if info.notValidBefore > now then .notYetValid
  else if info.daysToExpire < 0 then .expired
  else if criticalDays.any fun critical => info.daysToExpire < critical then .critical
  else if info.daysToExpire < warnDays then .expiring
  else .valid

/-! ### Policies -/

/-- `_CAB_FORUM_SCHEDULE`, by day, newest first. -/
def cabForumSchedule : List (Int × Int) :=
  [(Instant.ofCivil 2029 3 15, 47), (Instant.ofCivil 2027 3 15, 100),
    (Instant.ofCivil 2026 3 15, 200)]

/-- `_CAB_FORUM_DEFAULT`. -/
def cabForumDefault : Int := 398

/-- `cab_forum_max_validity`; `today` is a day counted from 1970-01-01. -/
def cabForumMaxValidity (today : Int) : Int :=
  ((cabForumSchedule.find? fun entry => entry.1 ≤ today).map Prod.snd).getD cabForumDefault

/-- `_TLS_VERSION_ORDER`. -/
def tlsVersionOrder : List String := ["SSLv2", "SSLv3", "TLSv1", "TLSv1.1", "TLSv1.2", "TLSv1.3"]

/-- `tls_version_rank`. -/
def tlsVersionRank (version : String) : Option Nat :=
  tlsVersionOrder.findIdx? fun name => name == if version = "TLSv1.0" then "TLSv1" else version

/-- The arguments of `policy_violations`. -/
structure Policy where
  notAfterMax : Option Int := none
  minKeySize : Option Int := none
  failWeak : Bool := false
  requireSct : Bool := false
  requireMustStaple : Bool := false
  minTlsVersion : Option String := none

/-- A preset of `--profile`: what it sets. -/
structure PolicyProfile where
  minTlsVersion : Option String := none
  minKeySize : Option Int := none
  failWeak : Bool := false
  requireSct : Bool := false
  requireMustStaple : Bool := false
  cabForum : Bool := false

/-- `POLICY_PROFILES`. -/
def policyProfiles : List (String × PolicyProfile) :=
  [("lenient", { minTlsVersion := some "TLSv1.2", failWeak := true }),
    ("standard", { minTlsVersion := some "TLSv1.2", minKeySize := some 2048, failWeak := true }),
    ("strict", { minTlsVersion := some "TLSv1.3", minKeySize := some 2048, failWeak := true
                 requireSct := true, cabForum := true })]

/-- The `not_after_max` check. -/
def validityViolations (info : Analysis) (notAfterMax : Option Int) : List String :=
  match notAfterMax with
  | some limit =>
    if limit < info.validityDays then
      [s!"total validity {info.validityDays} days exceeds the {limit}-day maximum"]
    else []
  | none => []

/-- The `min_key_size` check. -/
def keySizeViolations (info : Analysis) (minKeySize : Option Int) : List String :=
  match minKeySize, info.keySize with
  | some limit, some size =>
    if sizeCheckedKeyTypes.contains info.keyType ∧ (size : Int) < limit then
      [s!"key size {size} bit is below the {limit}-bit minimum"]
    else []
  | _, _ => []

/-- The `min_tls_version` check, on the version the handshake reported, if there was one. -/
def tlsViolations (negotiated minTlsVersion : Option String) : List String :=
  match minTlsVersion, given negotiated with
  | some required, some version =>
    match tlsVersionRank version, tlsVersionRank required with
    | some rank, some least =>
      if rank < least then [s!"TLS version {version} is below the required {required}"] else []
    | _, _ => []
  | _, _ => []

/-- `policy_violations`; `tlsVersion` is `info.get("tls_version")`. -/
def policyViolations (info : Analysis) (tlsVersion : Option String) (policy : Policy) :
    List String :=
  validityViolations info policy.notAfterMax ++ keySizeViolations info policy.minKeySize ++
    (if policy.failWeak then info.weak else []) ++
    (if policy.requireSct ∧ info.sctCount = 0 then
      ["no embedded Signed Certificate Timestamps (Certificate Transparency)"] else []) ++
    (if policy.requireMustStaple ∧ info.mustStaple = false then
      ["missing OCSP Must-Staple extension"] else []) ++
    tlsViolations tlsVersion policy.minTlsVersion

/-! ### Chains -/

/-- `chain_summary`. -/
def chainSummary (cert : Certificate) : Except PyErr ChainSummary := do
  let isCa ← isCaCertificate cert
  pure ⟨cert.subject.rfc4514, cert.issuer.rfc4514, cert.notValidAfter, cert.serialNumber, isCa⟩

/-- The warning about one certificate of the chain. -/
def chainWarning (now : Instant) (warnDays : Int) (cert : Certificate) : Option String :=
  let days := Instant.daysBetween now cert.notValidAfter
  if days < 0 then some s!"chain certificate '{shortName cert}' expired {-days} days ago"
  else if days < warnDays then
    some s!"chain certificate '{shortName cert}' expires in {days} days"
  else none

/-- `chain_expiry_warnings`: the leaf is skipped. -/
def chainExpiryWarnings (now : Instant) (chain : List Certificate) (warnDays : Int) :
    List String :=
  (chain.drop 1).filterMap (chainWarning now warnDays)

/-- The diagnosis of an expired certificate; the leaf is the first of the chain. -/
def expiredInChain (now : Instant) (leaf : Certificate) (intermediates : List Certificate) :
    Option ChainDiagnosis :=
  let expired (role : String) (cert : Certificate) : Option ChainDiagnosis :=
    if cert.notValidAfter < now then
      some ⟨"EXPIRED_IN_CHAIN",
        s!"{role} '{shortName cert}' expired on {Instant.dateStr cert.notValidAfter}"⟩
    else none
  (expired "leaf" leaf).or (intermediates.findSome? (expired "chain certificate"))

/-- `diagnose_chain`. -/
def diagnoseChain (now : Instant) (presented : List Certificate) :
    Except PyErr (Option ChainDiagnosis) := do
  match presented with
  | [] => pure none
  | leaf :: intermediates =>
    match expiredInChain now leaf intermediates with
    | some diagnosis => pure (some diagnosis)
    | none =>
      let issuerCn := commonName leaf.issuer
      if intermediates.any fun cert => leaf.issuer == cert.subject then
        let anchor := commonName (intermediates.getLastD leaf).issuer
        pure (some ⟨"UNTRUSTED_ROOT", s!"the chain is complete but its root '{anchor}' is not in " ++
          "the trust store; pass --cafile with that CA if it is internal, otherwise update the " ++
          "trust store"⟩)
      else if intermediates ≠ [] then
        let sent := ", ".intercalate (intermediates.map fun cert => s!"'{shortName cert}'")
        pure (some ⟨"CHAIN_MISMATCH", s!"the server sent intermediate(s) {sent} that do not sign " ++
          s!"the leaf; its real issuer '{issuerCn}' is absent from the chain"⟩)
      else do
        match (← aiaUrls leaf).2 with
        | url :: _ =>
          pure (some ⟨"INCOMPLETE_CHAIN", s!"the server sent only the leaf; the intermediate " ++
            s!"'{issuerCn}' is missing and is published at {url.text}"⟩)
        | [] =>
          pure (some ⟨"UNTRUSTED_ROOT", s!"the server sent only the leaf, issued by " ++
            s!"'{issuerCn}', which is not a public CA; pass --cafile with that CA"⟩)

/-! ### What reading a certificate raises -/

section Errors

variable {α β : Type} {cert : Certificate} {err : PyErr}

/-- A field read off one extension raises what `.extensions` raises and nothing else. -/
theorem readExtension_error_iff {pick : ExtensionValue → Option α} {read : Option α → Except PyErr β}
    (total : ∀ found, ∃ field, read found = .ok field) :
    (findExtension pick cert.extensions >>= read) = .error err ↔ cert.extensions = .error err := by
  rw [bind_error_iff, findExtension_error_iff]
  refine or_iff_left ?_
  intro here
  obtain ⟨found, _, raised⟩ := here
  obtain ⟨field, returned⟩ := total found
  rw [returned] at raised
  cases raised

theorem isCaCertificate_error_iff :
    isCaCertificate cert = .error err ↔ cert.extensions = .error err :=
  readExtension_error_iff fun found => by cases found <;> exact ⟨_, rfl⟩

theorem sanNames_error_iff : sanNames cert = .error err ↔ cert.extensions = .error err :=
  readExtension_error_iff fun found => by cases found <;> exact ⟨_, rfl⟩

theorem keyUsage_error_iff : keyUsage cert = .error err ↔ cert.extensions = .error err :=
  readExtension_error_iff fun found => by cases found <;> exact ⟨_, rfl⟩

theorem extendedKeyUsage_error_iff :
    extendedKeyUsage cert = .error err ↔ cert.extensions = .error err :=
  readExtension_error_iff fun found => by cases found <;> exact ⟨_, rfl⟩

theorem sctCount_error_iff : sctCount cert = .error err ↔ cert.extensions = .error err :=
  readExtension_error_iff fun found => by cases found <;> exact ⟨_, rfl⟩

theorem mustStaple_error_iff : mustStaple cert = .error err ↔ cert.extensions = .error err :=
  readExtension_error_iff fun found => by cases found <;> exact ⟨_, rfl⟩

/-- What raises only when the extensions are unreadable returns when they are readable. -/
theorem returns_of_readable {x : Except PyErr α} {extensions : List Extension}
    (fails : ∀ {err}, x = .error err ↔ cert.extensions = .error err)
    (readable : cert.extensions = .ok extensions) : ∃ value, x = .ok value := by
  cases result : x with
  | ok value => exact ⟨value, rfl⟩
  | error raised =>
    rw [fails.mp result] at readable
    cases readable

/-- **`analyze` raises exactly what reading the extensions or, these readable, the public key
raises.** -/
theorem analyze_error_iff {now : Instant} :
    analyze now cert = .error err ↔ cert.extensions = .error err ∨
      ((∃ extensions, cert.extensions = .ok extensions) ∧ cert.publicKey = .error err) := by
  cases readable : cert.extensions with
  | error raised =>
    have first : analyze now cert = .error raised := by
      unfold analyze
      rw [sanNames_error_iff.mpr readable]
      rfl
    rw [first]
    simp
  | ok extensions =>
    obtain ⟨san, sanRead⟩ := returns_of_readable sanNames_error_iff readable
    obtain ⟨isCa, caRead⟩ := returns_of_readable isCaCertificate_error_iff readable
    obtain ⟨usage, usageRead⟩ := returns_of_readable keyUsage_error_iff readable
    obtain ⟨purposes, purposesRead⟩ := returns_of_readable extendedKeyUsage_error_iff readable
    obtain ⟨count, countRead⟩ := returns_of_readable sctCount_error_iff readable
    obtain ⟨staple, stapleRead⟩ := returns_of_readable mustStaple_error_iff readable
    unfold analyze
    rw [sanRead, caRead, usageRead, purposesRead, countRead, stapleRead]
    cases key : cert.publicKey with
    | error raised =>
      change (Except.error raised : Except PyErr Analysis) = .error err ↔ _
      simp
    | ok found =>
      refine ⟨?_, ?_⟩
      · exact fun absurd => by cases absurd
      · rintro (absurd | ⟨_, absurd⟩) <;> cases absurd

end Errors

/-! ### What reading a certificate returns -/

section Values

variable {now : Instant} {cert : Certificate} {info : Analysis}

/-- What an analysis takes from the certificate and from its key. -/
structure AnalyzedWith (key : PublicKey) (now : Instant) (cert : Certificate) (info : Analysis) :
    Prop where
  publicKey : cert.publicKey = .ok key
  san : sanNames cert = .ok info.san
  sctCount : sctCount cert = .ok info.sctCount
  mustStaple : mustStaple cert = .ok info.mustStaple
  notValidBefore : info.notValidBefore = cert.notValidBefore
  notValidAfter : info.notValidAfter = cert.notValidAfter
  daysToExpire : info.daysToExpire = Instant.daysBetween now cert.notValidAfter
  validityDays : info.validityDays = Instant.daysBetween cert.notValidBefore cert.notValidAfter
  keyType : info.keyType = keyType key
  keySize : info.keySize = key.keySize
  fingerprint : info.fingerprintSha256 = formatFingerprint cert
  weak : info.weak = weaknesses key (oidName cert.signatureAlgorithmOid signatureAlgorithmNames)

/-- **What `analyze` returns.** -/
theorem analyze_ok (analyzed : analyze now cert = .ok info) :
    ∃ key, AnalyzedWith key now cert info := by
  unfold analyze at analyzed
  obtain ⟨san, sanRead, analyzed⟩ := bind_ok_iff.mp analyzed
  obtain ⟨isCa, _, analyzed⟩ := bind_ok_iff.mp analyzed
  obtain ⟨key, keyRead, analyzed⟩ := bind_ok_iff.mp analyzed
  obtain ⟨usage, _, analyzed⟩ := bind_ok_iff.mp analyzed
  obtain ⟨purposes, _, analyzed⟩ := bind_ok_iff.mp analyzed
  obtain ⟨count, countRead, analyzed⟩ := bind_ok_iff.mp analyzed
  obtain ⟨staple, stapleRead, analyzed⟩ := bind_ok_iff.mp analyzed
  cases analyzed
  exact ⟨key, ⟨keyRead, sanRead, countRead, stapleRead, rfl, rfl, rfl, rfl, rfl, rfl, rfl, rfl⟩⟩

end Values

end Certinspect.Parser
