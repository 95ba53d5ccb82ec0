/-
**Revocation checking via OCSP and CRL, `revocation.py`.**

`checkRevocation` asks the OCSP responder, then the CRL distribution points, with the issuer it was
given or one it downloads. The network is a `Web`: whatever it serves at a URL, it serves bytes or
fails with an `OSError` or `ValueError`, and it may change after every request. A URL taken from a
certificate is a `PyValue`; `fetch` refuses those that are not text the way Python does.

What only reads objects already fetched is an `Except`: `signedBy`, `ocspSigner`,
`authenticateOcspResponse`, `ocspVerdict`, `authenticateCrl`, `crlVerdict`. The loops over URLs are
`firstHit` of one trial: `tryIssuer`, `tryCrl`.
-/

import Certinspect.HttpFetch.Model
import Certinspect.Library.FirstHit
import Certinspect.Parser

namespace Certinspect.Revocation

open Library

/-- What `fetch` may raise on an http(s) URL: an `OSError` or a `ValueError`. -/
abbrev FetchError : Type := {err : PyErr // err.isA [.osError, .valueError] = true}

/-- The network behind `fetch`. -/
structure Web (σ : Type) where
  /-- The answer to a request for an http(s) URL, with a body for a POST. -/
  serve : String → Option Bytes → EStateM FetchError σ Bytes

/-- A revocation verdict and its detail. -/
abbrev Verdict : Type := RevocationStatus × Option String

/-- `_OCSP_CLOCK_SKEW`. -/
def ocspClockSkew : Int := Instant.minutes 5

/-- `raise _UnusableRevocationData(message)`. -/
def unusable {α : Type} (message : String) : Except PyErr α :=
  .error ⟨.unusableRevocationData, message⟩

section Fetch

variable {σ : Type} (web : Web σ)

/-- `fetch(url, data=data, timeout=timeout)`. -/
def fetch (url : PyValue) (data : Option Bytes) : Py σ Bytes := do
  let text ← orRaise (HttpFetch.checkScheme url)
  EStateM.adaptExcept Subtype.val (web.serve text data)

end Fetch

/-! ### The issuer -/

section Issuer

variable (lib : Cryptography)

/-- `_signed_by`. -/
def signedBy (cert issuer : Certificate) : Except PyErr Bool := do
  match ← exceptPure [.invalidSignature, .typeError, .valueError]
      (lib.verifyDirectlyIssuedBy cert issuer) with
  | .error _ => pure false
  | .ok _ => pure true

variable {σ : Type} (web : Web σ)

/-- One turn of `_fetch_issuer`: the certificate served there, if it signed `cert`. -/
def tryIssuer (cert : Certificate) (url : PyValue) : Py σ (Option Certificate) := do
  match ← except [.osError, .valueError] (do
      let raw ← fetch web url none
      orRaise (lib.loadDerX509Certificate raw)) with
  | .error _ => pure none
  | .ok candidate => do
    let signed ← orRaise (signedBy lib cert candidate)
    pure (if signed then some candidate else none)

/-- `_fetch_issuer`. -/
def fetchIssuer (cert : Certificate) : Py σ (Option Certificate) := do
  let urls ← orRaise (Parser.aiaUrls cert)
  firstHit (tryIssuer lib web cert) urls.2

end Issuer

/-! ### Freshness -/

/-- One end of a window, when it is known: `bound + delta` must not be `outside`. -/
def requireBound (bound : Option Instant) (delta : Int) (outside : Instant → Bool)
    (message : Instant → String) : Except PyErr Unit :=
  match bound with
  | none => pure ()
  | some instant => do
    let moved ← Instant.shift instant delta
    if outside moved then unusable (message instant) else pure ()

/-- The window check shared by OCSP responses and CRLs: unreadable times pass, and those within the
clock skew of an end of the range of `datetime` are an `OverflowError`. -/
def requireFresh (notYetValid stale : Instant → String) (now : Instant)
    (thisUpdate nextUpdate : Except PyErr (Option Instant)) : Except PyErr Unit := do
  match ← exceptPure [.valueError, .attributeError] (do
      let opens ← thisUpdate
      let closes ← nextUpdate
      pure (opens, closes)) with
  | .error _ => pure ()
  | .ok (opens, closes) => do
    requireBound opens (-ocspClockSkew) (fun moved => decide (moved > now)) notYetValid
    requireBound closes ocspClockSkew (fun moved => decide (moved < now)) stale

/-- `_require_fresh_ocsp_response`. -/
def requireFreshOcspResponse (now : Instant) (single : SingleResponse) : Except PyErr Unit :=
  requireFresh (fun opens => s!"OCSP response not yet valid (thisUpdate {opens.str})")
    (fun closes => s!"OCSP response is stale (nextUpdate {closes.str})") now single.thisUpdate
    single.nextUpdate

/-- `_require_fresh_crl`. -/
def requireFreshCrl (now : Instant) (crl : CertificateRevocationList) : Except PyErr Unit :=
  requireFresh (fun opens => s!"CRL is not yet valid (lastUpdate {opens.str})")
    (fun closes => s!"CRL is stale (nextUpdate {closes.str})") now crl.lastUpdate crl.nextUpdate

/-! ### OCSP -/

section Ocsp

variable (lib : Cryptography)

/-- The class name of a public key. -/
def keyClassName : KeyFamily → String
  | .rsa => "RSAPublicKey"
  | .ec => "EllipticCurvePublicKey"
  | .dsa => "DSAPublicKey"
  | .ed25519 => "Ed25519PublicKey"
  | .ed448 => "Ed448PublicKey"
  | .other className => className

/-- `_verify_signature`. -/
def verifySignature (key : PublicKey) (signature data : Bytes) (hash : Option String) :
    Except PyErr Unit :=
  match key.family with
  | .rsa => lib.verify key (.pkcs1v15 hash) signature data
  | .ec => lib.verify key (.ecdsa hash) signature data
  | .ed25519 | .ed448 => lib.verify key .eddsa signature data
  | family => .error ⟨.typeError, s!"unsupported public key type {keyClassName family}"⟩

/-- `_names_responder`. -/
def namesResponder (response : OcspResponse) (cert : Certificate) : Except PyErr Bool :=
  match response.responderName with
  | some name => .ok (name == cert.subject)
  | none => do
    let key ← cert.publicKey
    pure (response.responderKeyHash == some (lib.subjectKeyIdentifier key))

/-- `ExtendedKeyUsageOID.OCSP_SIGNING`. -/
def ocspSigningOid : String := "1.3.6.1.5.5.7.3.9"

/-- `_has_ocsp_signing`. -/
def hasOcspSigning (cert : Certificate) : Except PyErr Bool := do
  match ← findExtension ExtensionValue.extendedKeyUsage? cert.extensions with
  | none => pure false
  | some eku => pure (eku.contains ocspSigningOid)

/-- The condition of `_ocsp_signer` on an embedded certificate; each conjunct is evaluated only
when the ones before it hold. -/
def isDelegate (now : Instant) (response : OcspResponse) (issuer candidate : Certificate) :
    Except PyErr Bool := do
  if ← namesResponder lib response candidate then
    if ← signedBy lib candidate issuer then
      if ← hasOcspSigning candidate then
        pure (decide (candidate.notValidBefore ≤ now ∧ now ≤ candidate.notValidAfter))
      else pure false
    else pure false
  else pure false

/-- `_ocsp_signer`. -/
def ocspSigner (now : Instant) (response : OcspResponse) (issuer : Certificate) :
    Except PyErr (Option Certificate) := do
  if ← namesResponder lib response issuer then pure (some issuer)
  else do
    let candidates ← response.certificates
    candidates.findM? (isDelegate lib now response issuer)

/-- The signature check of `_authenticate_ocsp_response`, its errors as they are raised there. -/
def checkResponseSignature (response : OcspResponse) (signer : Certificate) : Except PyErr Unit :=
  let checked : Except PyErr Unit := do
    let key ← signer.publicKey
    let hash ← response.signatureHashAlgorithm
    verifySignature lib key response.signature response.tbsResponseBytes hash
  match checked with
  | .ok _ => .ok ()
  | .error err =>
    if err.isA [.unsupportedAlgorithm] then
      unusable "OCSP response uses an unsupported signature algorithm"
    else if err.isA [.invalidSignature, .typeError, .valueError] then
      unusable "OCSP response signature is invalid"
    else .error err

/-- `_authenticate_ocsp_response`. -/
def authenticateOcspResponse (now : Instant) (response : OcspResponse) (request : OcspRequest)
    (issuer : Certificate) : Except PyErr Unit := do
  let single ← response.single
  if single.serialNumber ≠ request.serialNumber ∨ single.issuerNameHash ≠ request.issuerNameHash ∨
      single.issuerKeyHash ≠ request.issuerKeyHash then
    unusable "OCSP response is for a different certificate"
  else do
    match ← ocspSigner lib now response issuer with
    | none => unusable "OCSP response is not signed by the issuer or an authorized responder"
    | some signer => checkResponseSignature lib response signer

/-- The `try` body of `_check_ocsp`: a verdict returned early, or the authenticated answer. -/
def ocspAnswer (now : Instant) (request : OcspRequest) (issuer : Certificate) (raw : Bytes) :
    Except PyErr (Verdict ⊕ SingleResponse) := do
  let response ← lib.loadDerOcspResponse raw
  if response.responseStatus ≠ .successful then
    pure (.inl (.unavailable, some s!"OCSP response status: {response.responseStatus.name}"))
  else do
    authenticateOcspResponse lib now response request issuer
    let single ← response.single
    if single.certificateStatus = .good then do
      requireFreshOcspResponse now single
      pure (.inr single)
    else pure (.inr single)

/-- The detail of a revocation, `revoked at ...` when its time is known. -/
def revokedDetail : Option Instant → String
  | some time => s!"revoked at {time.str}"
  | none => "revoked"

/-- The verdict of an authenticated answer. -/
def answerVerdict (single : SingleResponse) : Verdict :=
  match single.certificateStatus with
  | .good => (.good, none)
  | .revoked => (.revoked, some (revokedDetail single.revocationTime))
  | .unknown => (.unknown, some "responder does not know this certificate")

/-- `_check_ocsp`, once the responder has answered. -/
def ocspVerdict (now : Instant) (request : OcspRequest) (issuer : Certificate) (raw : Bytes) :
    Except PyErr Verdict :=
  match ocspAnswer lib now request issuer raw with
  | .ok (.inl verdict) => .ok verdict
  | .ok (.inr single) => .ok (answerVerdict single)
  | .error err =>
    if err.isA [.unusableRevocationData] then .ok (.unavailable, some err.message)
    else if err.isA [.valueError] then
      .ok (.unavailable, some s!"OCSP response could not be parsed: {err.message}")
    else .error err

variable {σ : Type} (web : Web σ)

/-- `_check_ocsp`. -/
def checkOcsp (now : Instant) (cert : Certificate) (issuer : Option Certificate) :
    Py σ Verdict := do
  let urls ← orRaise (Parser.aiaUrls cert)
  match urls.1, issuer with
  | [], _ => pure (.unavailable, some "no OCSP responder in AIA extension")
  | _ :: _, none => pure (.unavailable, some "issuer certificate could not be retrieved")
  | url :: _, some issuer => do
    let request := lib.ocspRequest cert issuer
    match ← except [.osError, .valueError] (fetch web url (some request.der)) with
    | .error err => pure (.unavailable, some s!"OCSP request failed: {err.message}")
    | .ok raw => orRaise (ocspVerdict lib now request issuer raw)

end Ocsp

/-! ### CRLs -/

section Crl

/-- The http(s) names of one distribution point. -/
def pointUrls (point : DistributionPoint) : List String :=
  (point.fullName.getD []).filterMap fun name =>
    match name.value with
    | .str value => if HttpFetch.isHttpUrl value then some value else none
    | _ => none

/-- `_crl_urls`. -/
def crlUrls (cert : Certificate) : Except PyErr (List String) := do
  match ← findExtension ExtensionValue.crlDistributionPoints? cert.extensions with
  | none => pure []
  | some points => pure (points.flatMap pointUrls)

variable (lib : Cryptography)

/-- `_load_crl`. -/
def loadCrl (raw : Bytes) : Except PyErr (Option CertificateRevocationList) := do
  match ← exceptPure [.valueError] (lib.loadDerX509Crl raw) with
  | .ok crl => pure (some crl)
  | .error _ =>
    match ← exceptPure [.valueError] (lib.loadPemX509Crl raw) with
    | .ok crl => pure (some crl)
    | .error _ => pure none

/-- Membership in `_SIGNING_KEY_TYPES`. -/
def isSigningKey (key : PublicKey) : Bool :=
  match key.family with
  | .other _ => false
  | _ => true

/-- Whether the scope excludes the certificate. -/
def excludedByScope (isCa : Bool) (scope : IssuingDistributionPoint) : Bool :=
  scope.indirectCrl || scope.onlyContainsAttributeCerts || (scope.onlyContainsCaCerts && !isCa) ||
    (scope.onlyContainsUserCerts && isCa)

/-- One turn of the extension loop of `_authenticate_crl`. -/
def checkCrlExtension (isCa : Bool) (extension : Extension) : Except PyErr Unit :=
  match extension.value with
  | .issuingDistributionPoint scope =>
    if excludedByScope isCa scope then unusable "CRL scope does not cover the certificate"
    else .ok ()
  | .deltaCrlIndicator => .ok ()
  | _ =>
    if extension.critical then
      unusable s!"CRL has an unsupported critical extension {extension.oid}"
    else .ok ()

/-- `_authenticate_crl`. -/
def authenticateCrl (crl : CertificateRevocationList) (cert issuer : Certificate) :
    Except PyErr Unit := do
  if crl.issuer ≠ cert.issuer then unusable "CRL is from a different issuer"
  else do
    let issuerKey ← issuer.publicKey
    if isSigningKey issuerKey then
      if ← lib.isSignatureValid crl issuerKey then do
        let isCa ← Parser.isCaCertificate cert
        let extensions ← crl.extensions
        extensions.forM (checkCrlExtension isCa)
      else unusable "CRL signature is invalid"
    else unusable "the issuer key cannot sign a CRL"

/-- Whether an extension makes its CRL partial: a delta CRL, or one for some reasons only. -/
def limitsCrl (extension : Extension) : Bool :=
  match extension.value with
  | .deltaCrlIndicator => true
  | .issuingDistributionPoint scope =>
    match scope.onlySomeReasons with
    | some (_ :: _) => true
    | _ => false
  | _ => false

/-- `_crl_is_partial`. -/
def crlIsPartial (crl : CertificateRevocationList) : Except PyErr Bool := do
  let extensions ← crl.extensions
  pure (extensions.any limitsCrl)

/-- What a parsed CRL says of the certificate: `none` when it cannot be used and the next one is
tried. -/
def judgeCrl (now : Instant) (cert issuer : Certificate) (crl : CertificateRevocationList) :
    Except PyErr (Option Verdict) := do
  match ← exceptPure [.unusableRevocationData, .typeError, .valueError] (do
      authenticateCrl lib crl cert issuer
      crlIsPartial crl) with
  | .error _ => pure none
  | .ok isPartial =>
    match crl.revokedBySerial cert.serialNumber with
    | some revoked =>
      pure (some (.revoked, some s!"{revokedDetail revoked.revocationDate} (via CRL)"))
    | none =>
      if isPartial then pure none
      else match ← exceptPure [.unusableRevocationData] (requireFreshCrl now crl) with
        | .error err => pure (some (.unavailable, some err.message))
        | .ok _ => pure (some (.good, some "via CRL"))

/-- What a downloaded CRL says. -/
def crlVerdict (now : Instant) (cert issuer : Certificate) (raw : Bytes) :
    Except PyErr (Option Verdict) := do
  match ← loadCrl lib raw with
  | none => pure none
  | some crl => judgeCrl lib now cert issuer crl

variable {σ : Type} (web : Web σ)

/-- One turn of the loop of `_check_crl`. -/
def tryCrl (now : Instant) (cert issuer : Certificate) (url : String) : Py σ (Option Verdict) := do
  match ← except [.osError, .valueError] (fetch web (.str url) none) with
  | .error _ => pure none
  | .ok raw => orRaise (crlVerdict lib now cert issuer raw)

/-- `_check_crl`. -/
def checkCrl (now : Instant) (cert : Certificate) (issuer : Option Certificate) :
    Py σ Verdict := do
  let urls ← orRaise (crlUrls cert)
  match urls, issuer with
  | [], _ => pure (.unavailable, some "no CRL distribution point in extension")
  | _ :: _, none =>
    pure (.unavailable, some "CRL cannot be verified without the issuer certificate")
  | url :: rest, some issuer => do
    match ← firstHit (tryCrl lib web now cert issuer) (url :: rest) with
    | some verdict => pure verdict
    | none => pure (.unavailable, some "no usable CRL could be retrieved")

end Crl

/-! ### The whole check -/

section Check

variable (lib : Cryptography) {σ : Type} (web : Web σ)

/-- The issuer `check_revocation` anchors on: the argument if it signed `cert`, else a download. -/
def anchor (cert : Certificate) (issuer : Option Certificate) : Py σ (Option Certificate) := do
  match issuer with
  | none => fetchIssuer lib web cert
  | some ca => do
    let signed ← orRaise (signedBy lib cert ca)
    if signed then pure (some ca) else fetchIssuer lib web cert

/-- `check_revocation`. -/
def checkRevocation (now : Instant) (cert : Certificate) (issuer : Option Certificate) :
    Py σ Verdict := do
  let issuer ← anchor lib web cert issuer
  let ocsp ← checkOcsp lib web now cert issuer
  if ocsp.1 ≠ .unavailable then pure ocsp
  else do
    let crl ← checkCrl lib web now cert issuer
    if crl.1 ≠ .unavailable then pure crl else pure ocsp

end Check

end Certinspect.Revocation
